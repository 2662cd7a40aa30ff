import Mathlib
import Dure.Library.Checks

/-! Bounded references, counters and scopes of the canonical workflow model. -/

namespace Dure.Orchestration

open Library.Check

def interactionSchemaVersion : Nat := 1
def maxReferenceBytes : Nat := 256
def maxIdempotencyKeyBytes : Nat := 128
def maxTitleBytes : Nat := 512
def maxMarkdownBytes : Nat := 64 * 1024
def maxTextAnswerBytes : Nat := 16 * 1024
def maxTaskInstructionsBytes : Nat := 16 * 1024
def maxAudienceMembers : Nat := 64
def maxRolesPerParticipant : Nat := 16
def maxCapabilitiesPerParticipant : Nat := 16
def maxSelectOptions : Nat := 64

structure ValidationError where
  field : String
  code : String
  deriving DecidableEq, Repr

abbrev Validation := Except ValidationError Unit

def invalid (field code : String) : ValidationError := ⟨field, code⟩

/-- The Unicode control characters: the general category Cc is these two ranges. -/
def isControl (character : Char) : Bool :=
  character.toNat ≤ 0x1f || (0x7f ≤ character.toNat && character.toNat ≤ 0x9f)

/-- Some occurrence of `needle` in `value`. -/
def containsText (value needle : String) : Bool :=
  value.toList.tails.any (needle.toList.isPrefixOf ·)

def validateControlFree (field value : String) (allowLayout : Bool) : Validation :=
  rejectIf
    (value.toList.any (fun character =>
      isControl character && !(allowLayout && ['\n', '\r', '\t'].contains character)))
    (invalid field "control_character")

/-- The reference kinds whose text must not look like a path. -/
def isOpaqueField (field : String) : Bool :=
  ["installRootRef", "workerEndpointRef", "sessionIdentityRef"].contains field

def validateReference (field value : String) : Validation := do
  rejectIf (value = "" ∨ value.utf8ByteSize > maxReferenceBytes)
    (invalid field "size_out_of_bounds")
  validateControlFree field value false
  rejectIf
    (isOpaqueField field
      ∧ (value.toList.head? = some '/' ∨ value.toList.head? = some '~' ∨ '\\' ∈ value.toList
        ∨ containsText value "./" ∨ containsText value "../"))
    (invalid field "must_be_opaque")

def validatePlainText (field value : String) (maxBytes : Nat) (allowEmpty : Bool)
    : Validation := do
  rejectIf ((allowEmpty = false ∧ value = "") ∨ value.utf8ByteSize > maxBytes)
    (invalid field "size_out_of_bounds")
  validateControlFree field value false

def validateMarkdown (field value : String) : Validation := do
  rejectIf (value.utf8ByteSize > maxMarkdownBytes) (invalid field "too_large")
  validateControlFree field value true

def validateTimestamp (field : String) (value : Int) : Validation :=
  rejectIf (value < 0) (invalid field "must_be_nonnegative")

def isAsciiAlphanumeric (character : Char) : Bool :=
  character.isDigit || character.isAlpha

def validateIdempotencyKey (value : String) : Validation :=
  rejectIf
    (value = "" ∨ value.utf8ByteSize > maxIdempotencyKeyBytes
      ∨ ¬value.toList.all (fun character =>
          isAsciiAlphanumeric character || ['.', '_', '-', ':'].contains character))
    (invalid "idempotencyKey" "invalid")

def validateUniqueBounded {α : Type} [DecidableEq α] (field : String) (values : List α)
    (maximum : Nat) (validate : α → Validation)
    : Validation := do
  rejectIf (values.length > maximum) (invalid field "too_many")
  distinct id validate (invalid field "duplicate") (fun _ => pure ()) [] values

/-- A reference is a text; `field` is the name its errors carry. Decoding does not check
it, so a stored or received value may fail `validate`.
-/
structure BoundedReference (field : String) where
  value : String
  deriving DecidableEq, Repr

namespace BoundedReference

variable {field : String}

def validate (reference : BoundedReference field) : Validation :=
  validateReference field reference.value

def new (value : String) : Except ValidationError (BoundedReference field) := do
  validateReference field value
  pure ⟨value⟩

theorem new_ok {value : String}
    : new value = .ok reference ↔ reference.value = value ∧ reference.validate = .ok () := by
  simp only [new, seq_ok, pure_ok, validate]
  constructor
  · rintro ⟨valid, rfl⟩
    exact ⟨rfl, valid⟩
  · rintro ⟨rfl, valid⟩
    exact ⟨valid, rfl⟩

end BoundedReference

abbrev RunId := BoundedReference "runId"
abbrev TaskId := BoundedReference "taskId"
abbrev DispatchId := BoundedReference "dispatchId"
abbrev InteractionId := BoundedReference "interactionId"
abbrev DeliveryReceiptId := BoundedReference "deliveryReceiptId"
abbrev WakeEffectRef := BoundedReference "wake.effectRef"
abbrev WakeReasonCode := BoundedReference "wake.reasonCode"
abbrev MembershipRef := BoundedReference "membershipRef"
abbrev WorkspaceId := BoundedReference "workspaceId"
abbrev TenantRef := BoundedReference "tenantRef"
abbrev ParticipantRef := BoundedReference "participantRef"
abbrev RoleRef := BoundedReference "roleRef"
abbrev CapabilityRef := BoundedReference "capabilityRef"
abbrev OptionId := BoundedReference "optionId"
abbrev WorkerEndpointRef := BoundedReference "workerEndpointRef"
abbrev SessionIdentityRef := BoundedReference "sessionIdentityRef"
abbrev InstallRootRef := BoundedReference "installRootRef"
abbrev IntegrationVersion := BoundedReference "integrationVersion"
abbrev IntegrationChannel := BoundedReference "integrationChannel"
abbrev WorkflowKindRef := BoundedReference "workflowKindRef"
abbrev RuntimeRef := BoundedReference "runtimeRef"
abbrev TargetReferenceRef := BoundedReference "targetReference"
abbrev SessionRef := BoundedReference "session.sessionId"
abbrev ProviderRef := BoundedReference "session.providerId"
abbrev RunnerPrincipalRef := BoundedReference "session.runnerPrincipal"
abbrev RunnerInstanceRef := BoundedReference "session.runnerInstance"
abbrev ChannelEpochRef := BoundedReference "session.channelEpoch"
abbrev HostInstanceRef := BoundedReference "session.hostInstanceId"
abbrev TerminalEpochRef := BoundedReference "session.terminalEpoch"

/-- Sixty-four lower-case hexadecimal digits. -/
def isHexDigest (value : String) : Bool :=
  value.utf8ByteSize == 64
    && value.toList.all (fun character =>
      character.isDigit || ('a' ≤ character && character ≤ 'f'))

structure Sha256Digest where
  value : String
  deriving DecidableEq, Repr

def Sha256Digest.validate (digest : Sha256Digest) : Validation :=
  rejectIf (¬isHexDigest digest.value) (invalid "sha256Digest" "invalid")

/-- The number of values of an unsigned 64-bit counter. -/
def u64Size : Nat := 2 ^ 64

def checkedAddOne (value : Nat) : Option Nat :=
  if value + 1 < u64Size then some (value + 1) else none

theorem checkedAddOne_some
    : checkedAddOne value = some next ↔ next = value + 1 ∧ value + 1 < u64Size := by
  unfold checkedAddOne
  split <;> simp_all [eq_comm]

/-- A generation is only compared and printed. -/
abbrev Generation := UInt64
abbrev Revision := Nat
abbrev EventCursor := Nat

def Generation.validate (generation : Generation) : Validation :=
  rejectIf (generation = 0) (invalid "generation" "must_be_positive")

def Revision.INITIAL : Revision := 1

def Revision.validate (revision : Revision) : Validation :=
  rejectIf (revision = 0) (invalid "revision" "must_be_positive")

def Revision.checkedNext (revision : Revision) : Option Revision := checkedAddOne revision

def EventCursor.BEGINNING : EventCursor := 0

structure AuthorityScope where
  workspaceId : WorkspaceId
  tenantRef : Option TenantRef
  deriving DecidableEq, Repr

def AuthorityScope.validate (scope : AuthorityScope) : Validation := do
  scope.workspaceId.validate
  whenSome scope.tenantRef BoundedReference.validate

structure InteractionTarget where
  authority : AuthorityScope
  runId : RunId
  taskId : TaskId
  dispatchId : DispatchId
  generation : Generation
  deriving DecidableEq, Repr

def InteractionTarget.validate (target : InteractionTarget) : Validation := do
  target.authority.validate
  target.runId.validate
  target.taskId.validate
  target.dispatchId.validate
  target.generation.validate

/-- Exact, transport-neutral generation receipt for one worker session. -/
structure WorkerSessionGeneration where
  sessionId : SessionRef
  workspaceId : WorkspaceId
  providerId : ProviderRef
  runnerPrincipal : RunnerPrincipalRef
  runnerInstance : RunnerInstanceRef
  channelEpoch : ChannelEpochRef
  hostInstanceId : HostInstanceRef
  terminalEpoch : TerminalEpochRef
  deriving DecidableEq, Repr

def WorkerSessionGeneration.validate (session : WorkerSessionGeneration) : Validation := do
  session.sessionId.validate
  session.workspaceId.validate
  session.providerId.validate
  session.runnerPrincipal.validate
  session.runnerInstance.validate
  session.channelEpoch.validate
  session.hostInstanceId.validate
  session.terminalEpoch.validate

structure RunTaskSpec where
  summary : String
  instructions : String
  deriving DecidableEq, Repr

def RunTaskSpec.validate (task : RunTaskSpec) : Validation := do
  validatePlainText "task.summary" task.summary maxTitleBytes false
  rejectIf (task.instructions = "" ∨ task.instructions.utf8ByteSize > maxTaskInstructionsBytes)
    (invalid "task.instructions" "size_out_of_bounds")
  validateControlFree "task.instructions" task.instructions true

end Dure.Orchestration
