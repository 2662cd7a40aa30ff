import Dure.Runtime.Steps

/-! The commit of a native runtime that already runs as the agent's next selection, and what
it does to the failed or dormant transition it replaces.
-/

namespace Dure.Runtime

open Library Check
open Checkout (OperationId)

def nativeRehostSchemaVersion : Nat := 1

structure RehostSource where
  sessionId : String
  workspaceId : String
  runnerPrincipal : String
  runnerInstance : String
  channelEpoch : String
  hostInstanceId : String
  terminalEpoch : String
  deriving DecidableEq, Repr

def RehostSource.validate (source : RehostSource) : Validation := do
  validateToken "source.sessionId" source.sessionId
  validateToken "source.workspaceId" source.workspaceId
  validateToken "source.runnerPrincipal" source.runnerPrincipal
  validateToken "source.runnerInstance" source.runnerInstance
  validateToken "source.channelEpoch" source.channelEpoch
  validateToken "source.hostInstanceId" source.hostInstanceId
  validateToken "source.terminalEpoch" source.terminalEpoch

structure RehostRepair where
  operationId : OperationId
  expectedJournalRevision : Int
  retainReplacementAuthority : Bool
  retiredReplacementAuthority : Option BindingAuthority
  deriving DecidableEq

def RehostRepair.validateRetired : Option BindingAuthority → Validation
  | some (.structuredProtocol binding) => binding.validate
  | some (.nativeCli _) =>
    throw (invalid "repairTransition.retiredReplacementAuthority"
      "must identify one retired structured replacement")
  | none => pure ()

def RehostRepair.validateFor (repair : RehostRepair) (successorOperationId : OperationId)
    : Validation := do
  rejectIf (repair.expectedJournalRevision < 1)
    (invalid "repairTransition.expectedJournalRevision" "must be positive")
  rejectIf (repair.operationId = successorOperationId)
    (invalid "repairTransition.operationId"
      "must differ from the native successor operation")
  rejectIf
    (repair.retainReplacementAuthority ∧ repair.retiredReplacementAuthority ≠ none)
    (invalid "repairTransition.retiredReplacementAuthority"
      "a retained replacement cannot also carry retirement proof")
  validateRetired repair.retiredReplacementAuthority

structure RehostCommit where
  schemaVersion : Nat
  operationId : OperationId
  requestSource : RehostSource
  sourceSelection : Selection
  sourceAuthority : CheckpointAuthority
  repairTransition : Option RehostRepair
  targetAuthority : CheckpointAuthority
  targetExecutionProfile : ExecutionProfile
  targetPermissionMode : PermissionMode
  targetLaunchIdempotencyKey : OperationId
  targetProviderLaunchReference : Option String
  committedAtMs : Int
  deriving DecidableEq

structure RehostReceipt where
  schemaVersion : Nat
  operationId : OperationId
  agentId : AgentId
  selectionRevision : Int
  source : RehostSource
  sessionId : String
  workspaceId : String
  launchIdempotencyKey : OperationId
  providerLaunchReference : Option String
  committedAtMs : Int
  deriving DecidableEq

def RehostReceipt.validateFor (receipt : RehostReceipt) (selection : Selection)
    (authority : CheckpointAuthority)
    : Validation := do
  receipt.source.validate
  rejectIf
    (receipt.schemaVersion ≠ nativeRehostSchemaVersion
      ∨ receipt.agentId ≠ selection.agentId
      ∨ receipt.selectionRevision ≠ selection.revision
      ∨ selection.selectedByOperationId ≠ some receipt.operationId
      ∨ receipt.sessionId ≠ authority.binding.sessionId
      ∨ receipt.workspaceId ≠ authority.runtimeWorkspaceId
      ∨ receipt.committedAtMs ≠ selection.updatedAtMs
      ∨ receipt.committedAtMs ≠ authority.updatedAtMs)
    (invalid "nativeRehostReceipt"
      "receipt must identify the exact selected native successor")
  BindingAuthority.validateForSelection (.nativeCli authority) selection

namespace RehostCommit

def targetSelection (request : RehostCommit) : Result Selection := do
  let revision ← checkedAddOne request.sourceSelection.revision
    (invalid "sourceSelection" "revision overflow")
  let target : Selection :=
    { request.sourceSelection with
      executionProfile := request.targetExecutionProfile
      permissionMode := request.targetPermissionMode
      revision
      selectedByOperationId := some request.operationId
      updatedAtMs := request.committedAtMs }
  target.validate
  pure target

def receipt (request : RehostCommit) (target : Selection) : RehostReceipt :=
  {
    schemaVersion := nativeRehostSchemaVersion
    operationId := request.operationId
    agentId := target.agentId
    selectionRevision := target.revision
    source := request.requestSource
    sessionId := request.targetAuthority.binding.sessionId
    workspaceId := request.targetAuthority.runtimeWorkspaceId
    launchIdempotencyKey := request.targetLaunchIdempotencyKey
    providerLaunchReference := request.targetProviderLaunchReference
    committedAtMs := request.committedAtMs
  }

/-- The successor continues the source's binding by one generation. -/
def validateLineage (request : RehostCommit) : Validation := do
  rejectIf
    (request.committedAtMs < request.sourceSelection.updatedAtMs
      ∨ request.committedAtMs < request.sourceAuthority.updatedAtMs
      ∨ request.targetAuthority.updatedAtMs ≠ request.committedAtMs
      ∨ request.targetAuthority.binding.boundAtMs ≠ request.committedAtMs)
    (invalid "committedAtMs" "successor timestamps must be monotonic and exact")
  let source := request.sourceAuthority
  let target := request.targetAuthority
  rejectIf
    (request.requestSource.workspaceId ≠ source.runtimeWorkspaceId
      ∨ request.requestSource.sessionId = target.binding.sessionId)
    (invalid "requestSource"
      "the verified request source must precede the native successor")
  rejectIf
    (target.binding.agentId ≠ source.binding.agentId
      ∨ target.binding.agentId ≠ request.sourceSelection.agentId
      ∨ target.binding.runtimeKindId ≠ source.binding.runtimeKindId
      ∨ target.binding.sessionId = source.binding.sessionId
      ∨ target.runtimeWorkspaceId ≠ source.runtimeWorkspaceId)
    (invalid "targetAuthority"
      "the successor must advance exactly one native binding generation")
  let generation ← checkedAddOne source.binding.bindingGeneration
    (invalid "sourceAuthority" "binding generation overflow")
  rejectIf (target.binding.bindingGeneration ≠ generation)
    (invalid "targetAuthority"
      "the successor must advance exactly one native binding generation")

def validate (request : RehostCommit) : Validation := do
  rejectIf (request.schemaVersion ≠ nativeRehostSchemaVersion)
    (invalid "schemaVersion" "unsupported native rehost schema")
  request.requestSource.validate
  request.sourceSelection.validate
  whenSome request.repairTransition (·.validateFor request.operationId)
  rejectIf
    (request.sourceSelection.schemaVersion ≠ transitionSchemaVersion
      ∨ request.sourceSelection.interactionProfile ≠ .nativeCli)
    (invalid "sourceSelection" "native rehost requires a native runtime selection")
  rejectIf (request.sourceSelection.selectedByOperationId = some request.operationId)
    (invalid "operationId"
      "the successor operation must differ from the source selection")
  BindingAuthority.validateForSelection (.nativeCli request.sourceAuthority)
    request.sourceSelection
  request.targetAuthority.validate
  request.validateLineage
  let target ← request.targetSelection
  BindingAuthority.validateForSelection (.nativeCli request.targetAuthority) target
  (request.receipt target).validateFor target request.targetAuthority

end RehostCommit

namespace Transition

def retirementField : String := "repairTransition.retiredReplacementAuthority"

/-- The proof that a failed structured replacement was retired: the next revision of the same
binding, under a new runtime.
-/
def validateRetiredBinding (current : Transition) (source target : InteractionBinding)
    : Validation := do
  let revision ← checkedAddOne source.bindingRevision
    (invalid retirementField "binding revision overflow")
  rejectIf
    (target.schemaVersion ≠ source.schemaVersion
      ∨ target.interactionSessionId ≠ source.interactionSessionId
      ∨ target.agentId ≠ source.agentId
      ∨ target.providerId ≠ source.providerId
      ∨ target.executionProfile ≠ current.intent.targetExecutionProfile
      ∨ target.providerConversationRef ≠ source.providerConversationRef
      ∨ target.runtime = source.runtime
      ∨ target.timelineEpoch ≠ source.timelineEpoch
      ∨ target.bindingRevision ≠ revision
      ∨ target.historyComplete ≠ source.historyComplete
      ∨ target.createdAtMs ≠ source.createdAtMs
      ∨ target.updatedAtMs < source.updatedAtMs)
    (invalid retirementField
      "does not prove the exact failed structured replacement was retired")

def validateRetiredReplacementAuthority (current : Transition)
    (retired : Option BindingAuthority)
    : Validation :=
  match current.replacementAuthority, retired with
  | none, none => pure ()
  | some (.structuredProtocol source), some target => do
      target.validateForTransitionIdentity current.intent.source.agentId
        current.intent.source.providerId current.intent.providerConversationRef
      match target with
      | .structuredProtocol target => current.validateRetiredBinding source target
      | .nativeCli _ =>
        throw (invalid retirementField "must preserve the structured replacement lineage")
  | _, _ =>
    throw (invalid retirementField "does not match the pending replacement authority")

def validateRepairReplacementDisposition (current : Transition) (repair : RehostRepair)
    : Validation :=
  if repair.retainReplacementAuthority then
    rejectIf (repair.retiredReplacementAuthority ≠ none)
      (invalid "repairTransition"
        "retained replacement authority cannot carry retirement proof")
  else
    current.validateRetiredReplacementAuthority repair.retiredReplacementAuthority

/-- The record that the last check of a rehost sees. Unlike a supersede it clears the
replacement authority without the workspace that belongs to it.
-/
def rehosted (current : Transition) (request : RehostCommit) (repair : RehostRepair)
    : Result Transition := do
  rejectIf
    (current.intent.operationId ≠ repair.operationId
      ∨ current.journalRevision ≠ repair.expectedJournalRevision
      ∨ ¬(current.state = .repairRequired ∨ current.isDormant)
      ∨ current.intent.source ≠ request.sourceSelection
      ∨ current.intent.sourceAuthority ≠ .nativeCli request.sourceAuthority)
    (invalid "repairTransition"
      "does not identify one replaceable failed or dormant native source")
  rejectIf
    (current.isDormant
      ∧ request.targetAuthority.binding.providerConversationId
        ≠ current.intent.providerConversationRef.resumed)
    (invalid "targetAuthority" "native Resume must preserve the dormant conversation")
  current.validateRepairReplacementDisposition repair
  rejectIf (request.committedAtMs < current.updatedAtMs)
    (invalid "committedAtMs" "must not precede the failed transition")
  let revision ← checkedAddOne current.journalRevision
    (invalid "repairTransition" "journal revision overflow")
  pure
    { current with
      state := .superseded
      replacementAuthority :=
        if repair.retainReplacementAuthority then current.replacementAuthority else none
      supersededByOperationId := some request.operationId
      journalRevision := revision
      updatedAtMs := request.committedAtMs }

def supersedeWithNativeRehost (digest : String → String) (current : Transition)
    (request : RehostCommit)
    : Result Transition := do
  current.validate digest
  request.validate
  match request.repairTransition with
  | none =>
    throw (invalid "repairTransition" "is required while a runtime transition is active")
  | some repair => do
      let superseded ← current.rehosted request repair
      superseded.validate digest
      pure superseded

/-- The failed or dormant transition that the commit names. -/
structure Replaces (request : RehostCommit) (repair : RehostRepair) (current : Transition)
    : Prop where
  operation : current.intent.operationId = repair.operationId
  revision : current.journalRevision = repair.expectedJournalRevision
  state : current.state = .repairRequired ∨ current.isDormant = true
  source : current.intent.source = request.sourceSelection
  sourceAuthority : current.intent.sourceAuthority = .nativeCli request.sourceAuthority
  conversation : current.isDormant = true
    → request.targetAuthority.binding.providerConversationId
      = current.intent.providerConversationRef.resumed
  disposition : current.validateRepairReplacementDisposition repair = .ok ()

theorem rehosted_ok
    : current.rehosted request repair = .ok next
      ↔ Replaces request repair current
        ∧ current.updatedAtMs ≤ request.committedAtMs
        ∧ current.journalRevision ≠ i64Max
        ∧ { current with
            state := .superseded
            replacementAuthority :=
              if repair.retainReplacementAuthority then current.replacementAuthority
              else none
            supersededByOperationId := some request.operationId
            journalRevision := current.journalRevision + 1
            updatedAtMs := request.committedAtMs } = next := by
  unfold rehosted
  simp only [↓seq_ok, bind_ok, pure_ok, rejectIf_ok, not_or, not_and, not_not,
    not_lt, checkedAddOne_ok]
  constructor
  · rintro ⟨⟨operation, revision, state, source, authority⟩, conversation, disposition, later,
      _, ⟨room, rfl⟩, rfl⟩
    exact ⟨⟨operation, revision, or_iff_not_imp_left.mpr state, source, authority,
      conversation, disposition⟩, later, room, rfl⟩
  · rintro ⟨⟨operation, revision, state, source, authority, conversation, disposition⟩, later,
      room, rfl⟩
    exact ⟨⟨operation, revision, or_iff_not_imp_left.mp state, source, authority⟩,
      conversation, disposition, later, _, ⟨room, rfl⟩, rfl⟩

theorem supersedeWithNativeRehost_ok {digest : String → String} {current next : Transition}
    : current.supersedeWithNativeRehost digest request = .ok next
      ↔ current.validate digest = .ok ()
        ∧ request.validate = .ok ()
        ∧ ∃ repair, request.repairTransition = some repair
          ∧ current.rehosted request repair = .ok next
          ∧ next.validate digest = .ok () := by
  unfold supersedeWithNativeRehost
  simp only [↓seq_ok]
  refine and_congr_right fun _ => and_congr_right fun _ => ?_
  cases request.repairTransition with
  | none => simp
  | some repair =>
    simp only [bind_ok, ↓seq_ok, pure_ok, Option.some.injEq, exists_eq_left']
    constructor
    · rintro ⟨_, built, accepted, rfl⟩
      exact ⟨built, accepted⟩
    · rintro ⟨built, accepted⟩
      exact ⟨next, built, accepted, rfl⟩

end Transition

end Dure.Runtime
