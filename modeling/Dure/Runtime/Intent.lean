import Dure.Runtime.Records

/-! What a runtime replacement is asked to do: the selection it starts from, the exact process
authority behind it, the conversation it keeps and the profile it installs.
-/

namespace Dure.Runtime

open Library Check
open Checkout (OperationId)

def transitionSchemaVersion : Nat := 1

inductive PermissionMode where
  | default
  | autoEdit
  | skipPermissions
  deriving DecidableEq, Repr

/-- The active interaction and credential profile of an agent. The model and the effort are
texts checked where they were parsed.
-/
structure Selection where
  schemaVersion : Nat
  agentId : AgentId
  providerId : ProviderId
  interactionProfile : InteractionProfile
  executionProfile : ExecutionProfile
  permissionMode : PermissionMode
  model : Option String
  effort : Option String
  revision : Int
  selectedByOperationId : Option OperationId
  updatedAtMs : Int
  deriving DecidableEq

def exactExecutionProfile (profile : ExecutionProfile) : Validation := do
  profile.validate
  rejectIf (profile.unclaimed)
    (invalid "executionProfile" "credential references require an exact generation")

def selectedExecutionProfile (selection : Selection) : Validation := do
  selection.executionProfile.validate
  rejectIf
    (selection.executionProfile.unclaimed ∧ selection.interactionProfile ≠ .nativeCli)
    (invalid "executionProfile"
      "only a Host-proven native runtime may have an unclaimed credential generation")

def Selection.validateOrigin (selection : Selection) : Validation :=
  match selection.selectedByOperationId with
  | none =>
    rejectIf (selection.revision ≠ 1)
      (invalid "selectedByOperationId"
        "a replacement selection must identify its operation")
  | some _ => do
      rejectIf (selection.revision = 1)
        (invalid "selectedByOperationId"
          "an initial selection must not claim a replacement operation")
      rejectIf (¬selection.revision > 1) (invalid "revision" "must be positive")

def Selection.validate (selection : Selection) : Validation := do
  rejectIf (selection.schemaVersion ≠ transitionSchemaVersion)
    (invalid "schemaVersion" "unsupported runtime selection schema")
  selectedExecutionProfile selection
  positive "revision" selection.revision
  timestamp "updatedAtMs" selection.updatedAtMs
  selection.validateOrigin

/-- The conversation a replacement keeps; `none` is a fresh one. Its text was checked where
the plan was built.
-/
structure ConversationPlan where
  resumed : Option String
  checked : ∀ conversation, resumed = some conversation
    → validateToken "providerConversationRef" conversation = .ok ()

instance : DecidableEq ConversationPlan := fun left right =>
  decidable_of_iff (left.resumed = right.resumed) (by cases left; cases right; simp)

inductive BindingAuthority where
  | nativeCli (authority : CheckpointAuthority)
  | structuredProtocol (binding : InteractionBinding)
  deriving DecidableEq

namespace BindingAuthority

def isNative : BindingAuthority → Bool
  | .nativeCli _ => true
  | .structuredProtocol _ => false

def isStructured (authority : BindingAuthority) : Bool := !authority.isNative

def providerConversationRef : BindingAuthority → Option String
  | .nativeCli authority => authority.binding.providerConversationId
  | .structuredProtocol binding => binding.providerConversationRef

/-- The credential reference a native binding holds under the selected profile. -/
def credentialReference : ExecutionProfile → Option String
  | .providerDefault => none
  | .credentialReference referenceId _ => some referenceId

def validateForSelection (authority : BindingAuthority) (selection : Selection)
    : Validation := do
  selection.validate
  match authority with
  | .nativeCli authority => do
      authority.validate
      rejectIf
        (selection.interactionProfile ≠ .nativeCli
          ∨ authority.binding.agentId ≠ selection.agentId)
        (invalid "sourceAuthority" "native binding does not match the runtime selection")
      rejectIf
        (authority.binding.credentialReferenceId
          ≠ credentialReference selection.executionProfile)
        (invalid "sourceAuthority"
          "native binding does not match the selected credential reference")
  | .structuredProtocol binding => do
      binding.validate
      rejectIf
        (selection.interactionProfile ≠ .structuredProtocol
          ∨ binding.agentId ≠ selection.agentId
          ∨ binding.providerId ≠ selection.providerId
          ∨ binding.executionProfile ≠ selection.executionProfile)
        (invalid "sourceAuthority" "structured binding does not match the runtime selection")

def validateForTransition (authority : BindingAuthority) (selection : Selection)
    (plan : ConversationPlan)
    : Validation := do
  authority.validateForSelection selection
  rejectIf (authority.providerConversationRef ≠ plan.resumed)
    (invalid "sourceAuthority" "binding does not match the exact source conversation plan")

/-- The binding is in another conversation than the one to be resumed. -/
def Strays (authority : BindingAuthority) (plan : ConversationPlan) : Prop :=
  plan.resumed ≠ none ∧ authority.providerConversationRef ≠ plan.resumed

instance (authority : BindingAuthority) (plan : ConversationPlan)
    : Decidable (authority.Strays plan) :=
  inferInstanceAs (Decidable (_ ∧ _))

def validateForTransitionTarget (authority : BindingAuthority) (selection : Selection)
    (plan : ConversationPlan)
    : Validation := do
  authority.validateForSelection selection
  rejectIf (authority.Strays plan)
    (invalid "targetAuthority" "binding does not match the resumed target conversation")

/-- The check of a failed target that a later attempt replaces or retires. -/
def validateForTransitionIdentity (authority : BindingAuthority) (agentId : AgentId)
    (providerId : ProviderId) (plan : ConversationPlan)
    : Validation :=
  match authority with
  | .nativeCli native => do
      native.validate
      rejectIf (native.binding.agentId ≠ agentId ∨ authority.Strays plan)
        (invalid "replacementSourceAuthority"
          "native binding does not match the transition identity")
  | .structuredProtocol binding => do
      binding.validate
      rejectIf
        (binding.agentId ≠ agentId ∨ binding.providerId ≠ providerId
          ∨ authority.Strays plan)
        (invalid "replacementSourceAuthority"
          "structured binding does not match the transition identity")

end BindingAuthority

inductive StopPolicy where
  | preserve
  | preserveObserved (runtimeRevision observedThroughOutputSeq : Nat)
  | discard
  deriving DecidableEq, Repr

def StopPolicy.requiresIdle (policy : StopPolicy) : Bool := policy ≠ .discard

def StopPolicy.validate (policy : StopPolicy) (authority : BindingAuthority) : Validation :=
  match policy with
  | .preserveObserved runtimeRevision _ =>
    rejectIf (runtimeRevision = 0 ∨ ¬authority.isNative)
      (invalid "sourceStopPolicy" "observed stop requires a positive native revision")
  | _ => pure ()

structure LaunchSelection where
  model : Option String
  effort : Option String
  permissionMode : Option PermissionMode
  deriving DecidableEq, Repr

structure WorkspaceMove where
  sourceAgent : AgentRecord
  sourceWorkspace : WorkspaceRecord
  sourceCheckout : Option CheckoutBinding
  targetProject : ProjectRecord
  targetWorkspace : WorkspaceRecord
  registeredRootId : String
  observedRootId : String
  registeredRepositoryId : String
  deriving DecidableEq

structure Intent where
  schemaVersion : Nat
  operationId : OperationId
  idempotencyKey : String
  source : Selection
  sourceAuthority : BindingAuthority
  sourceStopPolicy : StopPolicy
  providerConversationRef : ConversationPlan
  targetInteractionProfile : InteractionProfile
  targetExecutionProfile : ExecutionProfile
  targetLaunchSelection : Option LaunchSelection
  workspaceMove : Option WorkspaceMove
  requestedAtMs : Int
  deriving DecidableEq

namespace Intent

def effectiveLaunchSelection (intent : Intent) : LaunchSelection :=
  intent.targetLaunchSelection.getD
    {
      model := intent.source.model
      effort := intent.source.effort
      permissionMode := none
    }

def effectivePermissionMode (intent : Intent) : PermissionMode :=
  (intent.targetLaunchSelection.bind (·.permissionMode)).getD intent.source.permissionMode

def launchSelectionChanged (intent : Intent) : Bool :=
  intent.effectiveLaunchSelection.model ≠ intent.source.model
    ∨ intent.effectiveLaunchSelection.effort ≠ intent.source.effort
    ∨ intent.effectivePermissionMode ≠ intent.source.permissionMode

def validateMove (intent : Intent) (movement : WorkspaceMove) : Validation := do
  movement.sourceAgent.validate
  movement.sourceWorkspace.validate
  movement.targetProject.validate
  movement.targetWorkspace.validate
  validateToken "registeredRootId" movement.registeredRootId
  validateToken "observedRootId" movement.observedRootId
  validateToken "registeredRepositoryId" movement.registeredRepositoryId
  rejectIf
    (movement.sourceAgent.agentId ≠ intent.source.agentId
      ∨ movement.sourceAgent.providerId ≠ intent.source.providerId
      ∨ movement.sourceAgent.workspaceId ≠ movement.sourceWorkspace.workspaceId
      ∨ movement.targetWorkspace.projectId ≠ movement.targetProject.projectId
      ∨ movement.targetWorkspace.rootPath ≠ movement.targetProject.rootPath
      ∨ movement.sourceWorkspace.workspaceId = movement.targetWorkspace.workspaceId
      ∨ intent.source.interactionProfile ≠ intent.targetInteractionProfile
      ∨ intent.source.executionProfile ≠ intent.targetExecutionProfile
      ∨ intent.providerConversationRef.resumed = none
      ∨ ¬intent.sourceStopPolicy.requiresIdle
      ∨ movement.sourceCheckout.any (fun checkout =>
          !checkout.owner.isAgent intent.source.agentId))
    (invalid "workspaceMove" "invalid conversation workspace handoff")

def validateForSourceBoundary (intent : Intent) (sourceAlreadyStopped : Bool)
    : Validation := do
  rejectIf (intent.schemaVersion ≠ transitionSchemaVersion)
    (invalid "schemaVersion" "unsupported runtime transition schema")
  validateToken "idempotencyKey" intent.idempotencyKey
  intent.source.validate
  intent.sourceAuthority.validateForTransition intent.source intent.providerConversationRef
  intent.sourceStopPolicy.validate intent.sourceAuthority
  exactExecutionProfile intent.targetExecutionProfile
  whenSome intent.workspaceMove intent.validateMove
  rejectIf
    (¬sourceAlreadyStopped
      ∧ intent.source.interactionProfile = intent.targetInteractionProfile
      ∧ intent.source.executionProfile = intent.targetExecutionProfile
      ∧ ¬intent.launchSelectionChanged
      ∧ intent.workspaceMove = none)
    (invalid "target" "transition must change a profile or the launch selection")
  timestamp "requestedAtMs" intent.requestedAtMs
  rejectIf (intent.requestedAtMs < intent.source.updatedAtMs)
    (invalid "requestedAtMs" "must not precede the source selection")

def validate (intent : Intent) : Validation := intent.validateForSourceBoundary false

def validateAfterStoppedSource (intent : Intent) : Validation :=
  intent.validateForSourceBoundary true

/-- The selection that the started target installs. -/
def targetSelectionAt (intent : Intent) (selectedAtMs : Int) : Result Selection := do
  timestamp "selectedAtMs" selectedAtMs
  rejectIf (selectedAtMs < intent.requestedAtMs)
    (invalid "selectedAtMs" "must not precede the replacement request")
  let revision ← checkedAddOne intent.source.revision (invalid "revision" "overflowed")
  let selection : Selection :=
    {
      schemaVersion := transitionSchemaVersion
      agentId := intent.source.agentId
      providerId := intent.source.providerId
      interactionProfile := intent.targetInteractionProfile
      executionProfile := intent.targetExecutionProfile
      permissionMode := intent.effectivePermissionMode
      model := intent.effectiveLaunchSelection.model
      effort := intent.effectiveLaunchSelection.effort
      revision
      selectedByOperationId := some intent.operationId
      updatedAtMs := selectedAtMs
    }
  selection.validate
  pure selection

end Intent

/-- A later target selection differs from an earlier one in its time only. -/
theorem Intent.targetSelectionAt_later {intent : Intent}
    (selected : intent.targetSelectionAt earlier = .ok selection) (order : earlier ≤ later)
    : intent.targetSelectionAt later = .ok { selection with updatedAtMs := later } := by
  unfold targetSelectionAt at selected ⊢
  simp only [↓seq_ok, bind_ok, pure_ok, timestamp_ok, rejectIf_ok] at selected ⊢
  obtain ⟨started, requested, revision, counted, valid, rfl⟩ := selected
  refine ⟨by omega, by omega, revision, counted, ?_, rfl⟩
  simp only [Selection.validate, seq_ok, rejectIf_ok, positive_ok, timestamp_ok] at valid ⊢
  obtain ⟨schema, profile, atLeast, _, origin⟩ := valid
  exact ⟨schema, profile, atLeast, by omega, origin⟩

theorem Intent.targetSelectionAt_fields {intent : Intent}
    (selected : intent.targetSelectionAt selectedAtMs = .ok selection)
    : selection.validate = .ok ()
      ∧ selection.agentId = intent.source.agentId
      ∧ selection.providerId = intent.source.providerId
      ∧ selection.interactionProfile = intent.targetInteractionProfile
      ∧ selection.revision = intent.source.revision + 1
      ∧ selection.selectedByOperationId = some intent.operationId
      ∧ selection.updatedAtMs = selectedAtMs := by
  unfold targetSelectionAt at selected
  simp only [↓seq_ok, bind_ok, pure_ok, checkedAddOne_ok] at selected
  obtain ⟨_, _, _, ⟨_, rfl⟩, valid, rfl⟩ := selected
  exact ⟨valid, rfl, rfl, rfl, rfl, rfl, rfl⟩

namespace BindingAuthority

section

variable {authority : BindingAuthority} {selection : Selection} {plan : ConversationPlan}
  (accepted : authority.validateForTransitionTarget selection plan = .ok ())
include accepted

/-- A binding accepted for a selection is accepted for the same selection at a later time. -/
theorem validateForTransitionTarget_later
    (valid : Selection.validate { selection with updatedAtMs := later } = .ok ())
    : authority.validateForTransitionTarget { selection with updatedAtMs := later } plan
      = .ok () := by
  unfold validateForTransitionTarget validateForSelection at accepted ⊢
  simp only [seq_ok, rejectIf_ok] at accepted ⊢
  exact ⟨⟨valid, accepted.1.2⟩, accepted.2⟩

/-- A started target of an intent passes the check of a failed one. -/
theorem validateForTransitionTarget_identity
    : authority.validateForTransitionIdentity selection.agentId selection.providerId plan
      = .ok () := by
  unfold validateForTransitionTarget validateForSelection at accepted
  unfold validateForTransitionIdentity
  cases authority with
  | nativeCli native =>
    simp only [seq_ok, rejectIf_ok, not_or, not_not] at accepted ⊢
    obtain ⟨⟨_, checked, ⟨_, agent⟩, _⟩, resumed⟩ := accepted
    exact ⟨checked, agent, resumed⟩
  | structuredProtocol binding =>
    simp only [seq_ok, rejectIf_ok, not_or, not_not] at accepted ⊢
    obtain ⟨⟨_, checked, _, agent, provider, _⟩, resumed⟩ := accepted
    exact ⟨checked, agent, provider, resumed⟩

/-- The kind of an accepted binding is the selected interaction profile. -/
theorem validateForTransitionTarget_profile
    : selection.interactionProfile = .structuredProtocol ↔ authority.isStructured := by
  unfold validateForTransitionTarget validateForSelection at accepted
  cases authority with
  | nativeCli native =>
    simp only [seq_ok, rejectIf_ok, not_or, not_not] at accepted
    simp [isStructured, isNative, accepted.1.2.2.1.1]
  | structuredProtocol binding =>
    simp only [seq_ok, rejectIf_ok, not_or, not_not] at accepted
    simp [isStructured, isNative, accepted.1.2.2.1]

end

end BindingAuthority

end Dure.Runtime
