import Dure.Checkout.Identity

/-! Native plugin commands, the steps that run them, and observed states of a target with
their digest.
-/

namespace Dure.Plugin

open Library Check List
open Checkout (OperationId validOperationId isIdCharacter isLowerHex)

def isSeparator (character : Char) : Bool := ['.', '-', '_'].contains character

/-- No separator follows another one, and none ends the text. -/
def separated : List Char → Bool
  | [] => true
  | [last] => !isSeparator last
  | first :: second :: rest =>
    !(isSeparator first && isSeparator second) && separated (second :: rest)

def validStableId (value : String) : Bool :=
  value != "" && value.utf8ByteSize ≤ 128
    && value.toList.all (fun character =>
      character.isLower || character.isDigit || isSeparator character)
    && value.toList.head?.any Char.isLower
    && separated value.toList

inductive StableKind where
  | plugin
  | adapter
  | integration
  | nativePlugin
  | nativeMarketplace
  | physicalTarget
  deriving DecidableEq, Repr

/-- A stable id: its text was checked where it was built or decoded. -/
structure StableId (kind : StableKind) where
  value : String
  valid : validStableId value = true
  deriving DecidableEq

abbrev PluginId := StableId .plugin
abbrev AdapterId := StableId .adapter
abbrev IntegrationId := StableId .integration
abbrev NativePluginName := StableId .nativePlugin
abbrev NativeMarketplaceName := StableId .nativeMarketplace
abbrev PhysicalTargetKey := StableId .physicalTarget

def isVersionCharacter (character : Char) : Bool :=
  Orchestration.isAsciiAlphanumeric character || ['.', '-', '+'].contains character

/-- A SemVer text. Of the grammar only its characters are kept. -/
structure Version where
  value : String
  valid : value.toList.all isVersionCharacter = true
  deriving DecidableEq

@[ext] structure EventId where
  value : String
  valid : validOperationId value = true

instance : DecidableEq EventId := fun _ _ => decidable_of_iff _ EventId.ext_iff.symm

/-- A digest is written as `sha256:` and 64 lowercase hexadecimal digits. -/
structure TargetStateDigest where
  hex : String
  valid : (hex.utf8ByteSize == 64 && hex.toList.all isLowerHex) = true
  deriving DecidableEq

def TargetStateDigest.value (digest : TargetStateDigest) : String := "sha256:" ++ digest.hex

/-- The hash of the texts that identities and states are written as. -/
abbrev Sha256 := String → TargetStateDigest

theorem isLowerHex_idCharacter (hex : isLowerHex character = true)
    : isIdCharacter character = true := by
  have alphabetic (lower : 'a' ≤ character) (upper : character ≤ 'f')
      : character.isAlpha = true := by
    have below : character ≤ 'z' := upper.trans (by decide)
    simp only [Char.isAlpha, Char.isLower, Bool.or_eq_true, Bool.and_eq_true,
      decide_eq_true_eq]
    exact Or.inr ⟨lower, below⟩
  simp only [isLowerHex, Bool.or_eq_true, Bool.and_eq_true, decide_eq_true_eq] at hex
  simp only [isIdCharacter, Orchestration.isAsciiAlphanumeric, Bool.or_eq_true]
  rcases hex with digit | ⟨lower, upper⟩
  · exact Or.inl (Or.inl digit)
  · exact Or.inl (Or.inr (alphabetic lower upper))

/-- A short id continued by the digits of a digest is an id. -/
theorem TargetStateDigest.validOperationId_append (digest : TargetStateDigest)
    (valid : validOperationId stem = true) (short : stem.utf8ByteSize ≤ 96)
    : validOperationId (stem ++ digest.hex) = true := by
  have checked := digest.valid
  simp only [Bool.and_eq_true, beq_iff_eq, all_eq_true] at checked
  refine (Checkout.validOperationId_append valid ?_).mpr ?_
  · exact all_eq_true.mpr
      (fun character member => isLowerHex_idCharacter (checked.2 character member))
  · rw [checked.1]
    simp only [Checkout.maxIdBytes]
    omega

inductive Executable where
  | codex
  | claude
  deriving DecidableEq, Repr

def Executable.asStr : Executable → String
  | .codex => "codex"
  | .claude => "claude"

def Executable.matchesAdapter (executable : Executable) (adapter : AdapterId) : Bool :=
  executable.asStr == adapter.value

inductive InstallScope where
  | user
  | project
  | «local»
  | managed
  deriving DecidableEq, Repr

inductive CliOutput where
  | json
  | humanText
  deriving DecidableEq, Repr

structure MarketplaceSource where
  resource : String
  deriving DecidableEq, Repr

structure PluginSelector where
  plugin : NativePluginName
  marketplace : NativeMarketplaceName
  deriving DecidableEq

inductive RegistrationTarget where
  | managedProfile (profileRootKey : PhysicalTargetKey)
  | user (profileRootKey : PhysicalTargetKey)
  | workspace (profileRootKey workspaceRootKey : PhysicalTargetKey)
  deriving DecidableEq

inductive Command where
  | listMarketplaces (output : CliOutput)
  | addMarketplace (source : MarketplaceSource) (scope : InstallScope) (output : CliOutput)
  | removeMarketplace (marketplace : NativeMarketplaceName) (scope : InstallScope)
    (output : CliOutput)
  | listPlugins (marketplace : NativeMarketplaceName) (includeAvailable : Bool)
    (output : CliOutput)
  | installPlugin (selector : PluginSelector) (scope : InstallScope) (output : CliOutput)
  | removePlugin (selector : PluginSelector) (scope : InstallScope) (preserveData : Bool)
    (output : CliOutput)
  deriving DecidableEq

def Command.isMutation : Command → Bool
  | .addMarketplace .. | .removeMarketplace .. | .installPlugin .. | .removePlugin .. => true
  | .listMarketplaces .. | .listPlugins .. => false

def Command.isRemoval : Command → Bool
  | .removeMarketplace .. | .removePlugin .. => true
  | _ => false

inductive OperationKind where
  | install
  | uninstall
  deriving DecidableEq, Repr

def OperationKind.inverse : OperationKind → OperationKind
  | .install => .uninstall
  | .uninstall => .install

inductive JournalError where
  | invalidEvent (field reason : String)
  | invalidStream (reason : String)
  deriving DecidableEq, Repr

def JournalError.message : JournalError → String
  | .invalidEvent field reason =>
    "invalid plugin apply event field " ++ field ++ ": " ++ reason
  | .invalidStream reason => "invalid plugin apply event stream: " ++ reason

structure Step where
  integrationId : IntegrationId
  adapter : AdapterId
  executable : Executable
  cliVersion : Version
  selector : PluginSelector
  registrationTarget : RegistrationTarget
  command : Command
  deriving DecidableEq

/-- A scope is served by one executable at one kind of target. -/
def registrationTargetMatches : Executable → InstallScope → RegistrationTarget → Bool
  | .codex, .managed, .managedProfile _ => true
  | .claude, .user, .user _ => true
  | .claude, .project, .workspace _ _ => true
  | .claude, .local, .workspace _ _ => true
  | _, _, _ => false

namespace Step

def validateTarget (step : Step) : Except JournalError Unit :=
  match step.executable, step.registrationTarget with
  | .codex, .managedProfile _ => pure ()
  | .claude, .user _ => pure ()
  | .claude, .workspace _ _ => pure ()
  | _, _ =>
    throw (.invalidEvent "steps.registrationTarget"
      "is not valid for the native CLI executable")

/-- Commands that belong to the other kind of operation. -/
def againstLifecycle : Command → OperationKind → Bool
  | .removePlugin .., .install => true
  | .removeMarketplace .., .install => true
  | .addMarketplace .., .uninstall => true
  | .installPlugin .., .uninstall => true
  | _, _ => false

def validateMarketplace (step : Step) (marketplace : NativeMarketplaceName)
    : Except JournalError Unit :=
  rejectIf (marketplace ≠ step.selector.marketplace)
    (.invalidEvent "steps.command.marketplace" "must match the step selector")

def validateSelector (step : Step) (selector : PluginSelector) : Except JournalError Unit :=
  rejectIf (selector ≠ step.selector)
    (.invalidEvent "steps.command.selector" "must match the step selector")

def validateScope (step : Step) (scope : InstallScope) : Except JournalError Unit :=
  rejectIf (registrationTargetMatches step.executable scope step.registrationTarget = false)
    (.invalidEvent "steps.command.scope" "does not match the exact registration target")

def validateCommand (step : Step) : Command → Except JournalError Unit
  | .listMarketplaces _ => pure ()
  | .addMarketplace _ scope _ => step.validateScope scope
  | .removeMarketplace marketplace scope _ => do
      step.validateMarketplace marketplace
      step.validateScope scope
  | .listPlugins marketplace _ _ => step.validateMarketplace marketplace
  | .installPlugin selector scope _ => do
      step.validateSelector selector
      step.validateScope scope
  | .removePlugin selector scope preserveData _ => do
      step.validateSelector selector
      step.validateScope scope
      rejectIf (preserveData = false)
        (.invalidEvent "steps.command.preserveData" "must preserve native plugin data")

def validate (operationKind : OperationKind) (step : Step) : Except JournalError Unit := do
  rejectIf (step.executable.matchesAdapter step.adapter = false)
    (.invalidEvent "steps.adapter" "must match the native CLI executable")
  step.validateTarget
  rejectIf (againstLifecycle step.command operationKind = true)
    (.invalidEvent "steps.command" "does not belong to the lifecycle operation")
  step.validateCommand step.command

end Step

inductive MarketplaceState where
  | absent
  | registered (sourceFingerprint : TargetStateDigest) (matchesExpectedSource : Bool)
    (scope : InstallScope)
  deriving DecidableEq

inductive InstallationState where
  | absent
  | installed (version : Version) (enabled : Bool) (scope : InstallScope)
  deriving DecidableEq

structure TargetState where
  marketplace : MarketplaceState
  installation : InstallationState
  deriving DecidableEq

def scopeToken : InstallScope → String
  | .user => "user"
  | .project => "project"
  | .local => "local"
  | .managed => "managed"

def MarketplaceState.parts : MarketplaceState → List String
  | .absent => ["marketplace:absent"]
  | .registered sourceFingerprint matchesExpectedSource scope =>
    ["marketplace:registered", sourceFingerprint.value,
      if matchesExpectedSource then "expected" else "foreign", scopeToken scope]

def InstallationState.parts : InstallationState → List String
  | .absent => ["installation:absent"]
  | .installed version enabled scope =>
    ["installation:installed", version.value, if enabled then "enabled" else "disabled",
      scopeToken scope]

/-- A state is hashed as a list of texts, each ended by a NUL. -/
def TargetState.text (state : TargetState) : String :=
  terminated ("dure-plugin-native-target-state/v2"
    :: (state.marketplace.parts ++ state.installation.parts))

theorem isVersionCharacter_unterminated (valid : value.toList.all isVersionCharacter = true)
    : Unterminated value := by
  intro member
  have character := all_eq_true.mp valid '\x00' member
  exact absurd character (by decide)

theorem TargetStateDigest.unterminated (digest : TargetStateDigest)
    : Unterminated digest.value := by
  refine Unterminated.append (by decide) ?_
  intro member
  have checked := digest.valid
  simp only [Bool.and_eq_true, all_eq_true] at checked
  exact absurd (checked.2 '\x00' member) (by decide)

theorem MarketplaceState.parts_unterminated (state : MarketplaceState)
    : ∀ part ∈ state.parts, Unterminated part := by
  cases state with
  | absent => decide
  | registered sourceFingerprint matchesExpectedSource scope =>
    intro part member
    simp only [parts, mem_cons, not_mem_nil, or_false] at member
    rcases member with rfl | rfl | rfl | rfl
    · decide
    · exact sourceFingerprint.unterminated
    · cases matchesExpectedSource <;> decide
    · cases scope <;> decide

theorem InstallationState.parts_unterminated (state : InstallationState)
    : ∀ part ∈ state.parts, Unterminated part := by
  cases state with
  | absent => decide
  | installed version enabled scope =>
    intro part member
    simp only [parts, mem_cons, not_mem_nil, or_false] at member
    rcases member with rfl | rfl | rfl | rfl
    · decide
    · exact isVersionCharacter_unterminated version.valid
    · cases enabled <;> decide
    · cases scope <;> decide

theorem scopeToken_injective : Function.Injective scopeToken := by
  intro left right same
  cases left <;> cases right <;> first | rfl | (exact absurd same (by decide))

theorem TargetStateDigest.value_injective : Function.Injective TargetStateDigest.value := by
  intro left right same
  obtain ⟨leftHex, leftValid⟩ := left
  obtain ⟨rightHex, rightValid⟩ := right
  have hex : leftHex = rightHex := (String.append_right_inj _).mp same
  cases hex
  rfl

/-- The parts of both components name the state. -/
theorem TargetState.parts_injective {left right : TargetState}
    (same : left.marketplace.parts ++ left.installation.parts
      = right.marketplace.parts ++ right.installation.parts)
    : left = right := by
  have words (first second : Bool) (yes no : String) (differ : yes ≠ no)
      (written : (if first then yes else no) = (if second then yes else no))
      : first = second := by
    cases first <;> cases second <;> simp_all
  obtain ⟨leftMarketplace, leftInstallation⟩ := left
  obtain ⟨rightMarketplace, rightInstallation⟩ := right
  have marketplaces : leftMarketplace = rightMarketplace := by
    cases leftMarketplace <;> cases rightMarketplace <;>
      simp only [MarketplaceState.parts, cons_append, nil_append,
        cons.injEq] at same
    · rfl
    · exact absurd same.1 (by decide)
    · exact absurd same.1 (by decide)
    · obtain ⟨_, fingerprint, expected, scope, _⟩ := same
      rw [TargetStateDigest.value_injective fingerprint,
        words _ _ _ _ (by decide) expected, scopeToken_injective scope]
  subst marketplaces
  have installations := append_cancel_left same
  cases leftInstallation <;> cases rightInstallation <;>
    simp only [InstallationState.parts, cons.injEq] at installations
  · rfl
  · exact absurd installations.1 (by decide)
  · exact absurd installations.1 (by decide)
  · rename_i leftVersion _ _ rightVersion _ _
    obtain ⟨_, version, enabled, scope, _⟩ := installations
    have versions : leftVersion = rightVersion := by
      cases leftVersion
      cases rightVersion
      cases version
      rfl
    rw [versions, words _ _ _ _ (by decide) enabled, scopeToken_injective scope]

/-- No two states are hashed as the same text. -/
theorem TargetState.text_injective : Function.Injective TargetState.text := by
  intro left right same
  have clean (state : TargetState)
      : ∀ part ∈ "dure-plugin-native-target-state/v2"
          :: (state.marketplace.parts ++ state.installation.parts), Unterminated part := by
    intro part member
    rcases mem_cons.mp member with rfl | later
    · decide
    · exact (mem_append.mp later).elim (state.marketplace.parts_unterminated part)
        (state.installation.parts_unterminated part)
  exact parts_injective (cons.inj (terminated_injective (clean left) (clean right) same)).2

def digestTargetState (sha256 : Sha256) (state : TargetState) : TargetStateDigest :=
  sha256 state.text

structure StateObservation where
  state : TargetState
  digest : TargetStateDigest
  deriving DecidableEq

namespace StateObservation

def new (sha256 : Sha256) (state : TargetState) : StateObservation :=
  ⟨state, digestTargetState sha256 state⟩

def hasValidDigest (sha256 : Sha256) (observation : StateObservation) : Prop :=
  observation.digest = digestTargetState sha256 observation.state

instance (sha256 : Sha256) (observation : StateObservation)
    : Decidable (observation.hasValidDigest sha256) :=
  inferInstanceAs (Decidable (_ = _))

end StateObservation

end Dure.Plugin
