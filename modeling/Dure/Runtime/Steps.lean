import Dure.Runtime.Transition

/-! The journal operations on one transition record: advance by a stage, wake a delayed
target, authorise a repair, and supersede a failed attempt.
-/

namespace Dure.Runtime

open Library Check
open Checkout (OperationId)

def u32Max : Nat := 2 ^ 32 - 1

/-- The answer to a request that grants target effects: a new grant, or the record that an
earlier one left.
-/
inductive EffectAuthorization where
  | authorized (record : Transition)
  | replayed (record : Transition)
  deriving DecidableEq

def EffectAuthorization.record : EffectAuthorization → Transition
  | .authorized record | .replayed record => record

def Transition.revisionConflict (current : Transition) (expected : Int) : StoreError :=
  .revisionConflict current.intent.source.agentId.value expected (some current.journalRevision)

/-! ### Advance -/

inductive AuthorityUpdate where
  | preserveExisting
  | replace (authority : Option BindingAuthority)
  deriving DecidableEq

inductive Stage where
  | sourceRetained
  | sourceStopped
  | repairRequired (failure : TargetFailure) (replacementAuthority : AuthorityUpdate)
      (replacementWorkspace : Option WorkspaceRecord)
  | targetStarted (authority : BindingAuthority) (launchIdempotencyKey : Option String)
      (workspace : Option WorkspaceRecord)
  | committed
  deriving DecidableEq

structure AdvanceRequest where
  schemaVersion : Nat
  operationId : OperationId
  expectedJournalRevision : Int
  advance : Stage
  advancedAtMs : Int
  deriving DecidableEq

namespace Stage

def validate : Stage → Validation
  | .targetStarted authority launchIdempotencyKey workspace => do
      whenSome workspace (fun workspace => do
        workspace.validate
        rejectIf (¬authority.isStructured)
          (invalid "targetWorkspace" "is only valid for a structured target"))
      whenSome launchIdempotencyKey (fun key => do
        rejectIf (authority.isStructured)
          (invalid "targetLaunchIdempotencyKey" "is only valid for a native target")
        validateToken "targetLaunchIdempotencyKey" key)
  | _ => pure ()

/-- The record already stands where this stage leads. -/
def matchesCurrent (current : Transition) (stage : Stage) : Bool :=
  match current.state, stage with
  | .sourceRetained, .sourceRetained => true
  | .sourceStopped, .sourceStopped => true
  | .committed, .committed => true
  | .targetStarted, .targetStarted authority launchIdempotencyKey workspace =>
    current.targetAuthority = some authority
      ∧ current.targetLaunchIdempotencyKey = launchIdempotencyKey
      ∧ current.targetWorkspace = workspace
  | .repairRequired, .repairRequired failure .preserveExisting replacementWorkspace =>
    current.targetFailure = some failure ∧ replacementWorkspace = none
  | .repairRequired, .repairRequired failure (.replace authority) replacementWorkspace =>
    current.targetFailure = some failure
      ∧ current.replacementAuthority = authority
      ∧ current.replacementWorkspace = replacementWorkspace
  | _, _ => false

end Stage

namespace AdvanceRequest

def validate (request : AdvanceRequest) : Validation := do
  rejectIf (request.schemaVersion ≠ transitionSchemaVersion)
    (invalid "schemaVersion" "unsupported runtime transition advance schema")
  positive "expectedJournalRevision" request.expectedJournalRevision
  request.advance.validate
  timestamp "advancedAtMs" request.advancedAtMs

end AdvanceRequest

namespace Transition

/-- A failure before the target started. -/
def failTarget (current : Transition) (failure : TargetFailure) (update : AuthorityUpdate)
    (replacementWorkspace : Option WorkspaceRecord)
    : Result Transition := do
  failure.validate
  match update with
  | .replace authority => do
      whenSome authority (fun authority =>
        authority.validateForTransitionIdentity current.intent.source.agentId
          current.intent.source.providerId current.intent.providerConversationRef)
      pure
        { current with
          state := .repairRequired
          targetFailure := some failure
          replacementAuthority := authority
          replacementWorkspace }
  | .preserveExisting => do
      rejectIf (replacementWorkspace ≠ none)
        (invalid "replacementWorkspace" "cannot change preserved replacement placement")
      pure { current with state := .repairRequired, targetFailure := some failure }

def startTarget (digest : String → String) (current : Transition) (advancedAtMs : Int)
    (authority : BindingAuthority) (launchIdempotencyKey : Option String)
    (workspace : Option WorkspaceRecord)
    : Result Transition := do
  let selection ← current.intent.targetSelectionAt advancedAtMs
  authority.validateForTransitionTarget selection current.intent.providerConversationRef
  validateNativeTarget digest
    { current with targetLaunchIdempotencyKey := launchIdempotencyKey } authority
  pure
    { current with
      state := .targetStarted
      targetAuthority := some authority
      targetWorkspace := workspace
      targetLaunchIdempotencyKey := launchIdempotencyKey
      replacementAuthority := none
      replacementWorkspace := none
      targetFailure := none }

/-- A failure after the target of a workspace move started: the started target is kept as
the one to be replaced, and the failure itself is not checked here.
-/
def rejectStarted (current : Transition) (failure : TargetFailure) (update : AuthorityUpdate)
    (replacementWorkspace : Option WorkspaceRecord)
    : Result Transition := do
  rejectIf
    (update ≠ .replace current.targetAuthority
      ∨ replacementWorkspace ≠ current.targetWorkspace)
    (invalid "replacementAuthority" "must retain the rejected workspace target")
  rejectIf (current.postStartRejections = u32Max) (invalid "postStartRejections" "overflow")
  pure
    { current with
      state := .repairRequired
      targetFailure := some failure
      replacementAuthority := current.targetAuthority
      replacementWorkspace := current.targetWorkspace
      targetWorkspace := none
      targetAuthority := none
      targetLaunchIdempotencyKey := none
      postStartRejections := current.postStartRejections + 1 }

/-- The stage table. The payloads that the source prints into the last error are left out. -/
def applyStage (digest : String → String) (current : Transition) (stage : Stage)
    (advancedAtMs : Int)
    : Result Transition :=
  match current.state, stage with
  | .admitted, .sourceRetained => pure { current with state := .sourceRetained }
  | .admitted, .sourceStopped => pure { current with state := .sourceStopped }
  | .sourceStopped, .repairRequired failure update replacementWorkspace =>
    current.failTarget failure update replacementWorkspace
  | .sourceStopped, .targetStarted authority launchIdempotencyKey workspace =>
    current.startTarget digest advancedAtMs authority launchIdempotencyKey workspace
  | .targetStarted, .repairRequired failure update replacementWorkspace =>
    if current.intent.workspaceMove.isSome then
      current.rejectStarted failure update replacementWorkspace
    else
      throw (.invalidEventStream "runtime transition cannot advance")
  | .targetStarted, .committed => pure { current with state := .committed }
  | _, _ => throw (.invalidEventStream "runtime transition cannot advance")

/-- One journal step at a time: the revision grows by one. -/
def stamped (record : Transition) (atMs : Int) : Transition :=
  { record with
    journalRevision := wrappingAddOne record.journalRevision
    updatedAtMs := atMs }

/-- The record that the last check of an advance sees. -/
def advanced (digest : String → String) (current : Transition) (request : AdvanceRequest)
    : Result Transition := do
  rejectIf (current.journalRevision ≠ request.expectedJournalRevision)
    (current.revisionConflict request.expectedJournalRevision)
  rejectIf (current.isDormant)
    (invalid "deferredTarget" "target effects require an explicit wake")
  let next ← current.applyStage digest request.advance request.advancedAtMs
  pure (next.stamped request.advancedAtMs)

def replaysAdvance (current : Transition) (request : AdvanceRequest) : Bool :=
  current.journalRevision = request.expectedJournalRevision + 1
    ∧ request.advance.matchesCurrent current

def advance (digest : String → String) (current : Transition) (request : AdvanceRequest)
    : Result Transition := do
  current.validate digest
  request.validate
  rejectIf (current.intent.operationId ≠ request.operationId)
    (.identityConflict "agent runtime transition" request.operationId.value
      "operation identity changed")
  rejectIf (request.advancedAtMs < current.updatedAtMs)
    (invalid "advancedAtMs" "must not move backward")
  if current.replaysAdvance request then
    pure current
  else do
    let next ← current.advanced digest request
    next.validate digest
    pure next

end Transition

structure WakeRequest where
  schemaVersion : Nat
  operationId : OperationId
  expectedJournalRevision : Int
  wakeOperationId : OperationId
  wokenAtMs : Int
  deriving DecidableEq

def WakeRequest.validate (request : WakeRequest) : Validation := do
  rejectIf
    (request.schemaVersion ≠ transitionSchemaVersion
      ∨ request.operationId = request.wakeOperationId)
    (invalid "wakeOperationId" "unsupported schema or repeated transition identity")
  positive "expectedJournalRevision" request.expectedJournalRevision
  timestamp "wokenAtMs" request.wokenAtMs

namespace Transition

def wokenBy (current : Transition) (operationId : OperationId) : Bool :=
  match current.deferredTarget with
  | some (.requested woken _) => woken = operationId
  | _ => false

def woken (current : Transition) (request : WakeRequest) : Result Transition := do
  rejectIf (current.journalRevision ≠ request.expectedJournalRevision)
    (current.revisionConflict request.expectedJournalRevision)
  rejectIf (¬current.isDormant)
    (invalid "deferredTarget" "wake requires the exact deferred stopped source")
  rejectIf (request.wokenAtMs < current.updatedAtMs)
    (invalid "wokenAtMs" "must not move backward")
  let revision ← checkedAddOne current.journalRevision (invalid "journalRevision" "overflowed")
  pure
    { current with
      deferredTarget := some (.requested request.wakeOperationId request.wokenAtMs)
      journalRevision := revision
      updatedAtMs := request.wokenAtMs }

def authorizeWake (digest : String → String) (current : Transition) (request : WakeRequest)
    : Result EffectAuthorization := do
  current.validate digest
  request.validate
  rejectIf (current.intent.operationId ≠ request.operationId)
    (invalid "operationId" "wake targets a different transition")
  if current.wokenBy request.wakeOperationId then
    pure (.replayed current)
  else do
    let next ← current.woken request
    next.validate digest
    pure (.authorized next)

end Transition

structure RepairRequest where
  schemaVersion : Nat
  operationId : OperationId
  expectedJournalRevision : Int
  repairOperationId : OperationId
  repairedAtMs : Int
  deriving DecidableEq

def RepairRequest.validate (request : RepairRequest) : Validation := do
  rejectIf (request.schemaVersion ≠ transitionSchemaVersion)
    (invalid "schemaVersion" "unsupported runtime transition repair schema")
  positive "expectedJournalRevision" request.expectedJournalRevision
  timestamp "repairedAtMs" request.repairedAtMs
  rejectIf (request.operationId = request.repairOperationId)
    (invalid "repairOperationId" "must differ from the transition operation")

namespace Transition

def repaired (current : Transition) (request : RepairRequest) : Result Transition := do
  rejectIf (current.journalRevision ≠ request.expectedJournalRevision)
    (current.revisionConflict request.expectedJournalRevision)
  rejectIf (current.state ≠ .repairRequired)
    (.invalidEventStream "runtime transition repair requires repair_required state")
  rejectIf (request.repairedAtMs < current.updatedAtMs)
    (invalid "repairedAtMs" "must not move backward")
  pure
    (stamped
      { current with
        state := .sourceStopped
        targetFailure := none
        lastRepairOperationId := some request.repairOperationId }
      request.repairedAtMs)

def authorizeRepair (digest : String → String) (current : Transition)
    (request : RepairRequest)
    : Result EffectAuthorization := do
  current.validate digest
  request.validate
  rejectIf (current.intent.operationId ≠ request.operationId)
    (.identityConflict "agent runtime transition repair" request.operationId.value
      "transition operation identity changed")
  if current.lastRepairOperationId = some request.repairOperationId then
    pure (.replayed current)
  else do
    let next ← current.repaired request
    next.validate digest
    pure (.authorized next)

end Transition

structure SupersedeRequest where
  schemaVersion : Nat
  operationId : OperationId
  expectedJournalRevision : Int
  successorIntent : Intent
  supersededAtMs : Int
  deriving DecidableEq

def SupersedeRequest.validate (request : SupersedeRequest) : Validation := do
  rejectIf (request.schemaVersion ≠ transitionSchemaVersion)
    (invalid "schemaVersion" "unsupported runtime transition supersede schema")
  positive "expectedJournalRevision" request.expectedJournalRevision
  request.successorIntent.validateAfterStoppedSource
  timestamp "supersededAtMs" request.supersededAtMs
  rejectIf (request.successorIntent.requestedAtMs ≠ request.supersededAtMs)
    (invalid "supersededAtMs" "must equal the successor request timestamp")

namespace Transition

/-- The failed record as its successor leaves it: the fence moves to the successor. -/
def supersededBy (current : Transition) (request : SupersedeRequest) : Transition :=
  stamped
    { current with
      state := .superseded
      replacementAuthority := none
      replacementWorkspace := none
      supersededByOperationId := some request.successorIntent.operationId }
    request.supersededAtMs

def supersede (digest : String → String) (current : Transition) (request : SupersedeRequest)
    : Result (Transition × Transition) := do
  current.validate digest
  request.validate
  rejectIf (current.intent.operationId ≠ request.operationId)
    (.identityConflict "agent runtime transition supersede" request.operationId.value
      "transition operation identity changed")
  rejectIf (current.journalRevision ≠ request.expectedJournalRevision)
    (current.revisionConflict request.expectedJournalRevision)
  rejectIf (current.state ≠ .repairRequired)
    (.invalidEventStream "only repair_required transitions may be superseded")
  let successor := request.successorIntent
  rejectIf
    (successor.source ≠ current.intent.source
      ∨ successor.sourceAuthority ≠ current.intent.sourceAuthority
      ∨ successor.sourceStopPolicy ≠ current.intent.sourceStopPolicy
      ∨ successor.providerConversationRef ≠ current.intent.providerConversationRef)
    (.identityConflict "agent runtime transition successor" successor.operationId.value
      "successor changed the stopped source or provider conversation")
  rejectIf
    (successor.operationId = current.intent.operationId
      ∨ successor.idempotencyKey = current.intent.idempotencyKey)
    (.idempotencyConflict "successor must have a distinct operation and idempotency key")
  rejectIf (request.supersededAtMs < current.updatedAtMs)
    (invalid "supersededAtMs" "must not move backward")
  let successorRecord ← successorAfterStoppedSource digest successor
    current.intent.operationId current.replacementAuthority current.replacementWorkspace
  let superseded := current.supersededBy request
  superseded.validate digest
  pure (superseded, successorRecord)

end Transition

/-! ### What an accepted request did -/

variable {answer : EffectAuthorization} {request : AdvanceRequest}

namespace Transition

variable {digest : String → String} {current next : Transition}

/-- The requests that the record checks before it looks at its stage. -/
structure Addressed (digest : String → String) (current : Transition)
    (checked : Validation) (operationId : OperationId)
    : Prop where
  valid : current.validate digest = .ok ()
  request : checked = .ok ()
  operation : current.intent.operationId = operationId

theorem advance_ok
    : current.advance digest request = .ok next
      ↔ current.Addressed digest request.validate request.operationId
        ∧ current.updatedAtMs ≤ request.advancedAtMs
        ∧ ((current.replaysAdvance request = true ∧ current = next)
          ∨ (current.replaysAdvance request = false
            ∧ current.advanced digest request = .ok next
            ∧ next.validate digest = .ok ())) := by
  unfold advance
  simp only [↓seq_ok, rejectIf_ok, not_not, not_lt]
  constructor
  · rintro ⟨valid, checked, operation, later, answer⟩
    refine ⟨⟨valid, checked, operation⟩, later, ?_⟩
    split at answer
    · rename_i replay
      exact .inl ⟨replay, by simpa using answer⟩
    · rename_i fresh
      simp only [bind_ok, ↓seq_ok, pure_ok] at answer
      obtain ⟨built, applied, accepted, rfl⟩ := answer
      exact .inr ⟨by simpa using fresh, applied, accepted⟩
  · rintro ⟨⟨valid, checked, operation⟩, later, answer⟩
    refine ⟨valid, checked, operation, later, ?_⟩
    rcases answer with ⟨replay, rfl⟩ | ⟨fresh, applied, accepted⟩
    · simp [replay]
    · simp only [fresh, Bool.false_eq_true, if_false, bind_ok, ↓seq_ok, pure_ok]
      exact ⟨next, applied, accepted, rfl⟩

/-- What no stage of an advance changes. -/
structure SameAttempt (current next : Transition) : Prop where
  intent : next.intent = current.intent
  deferred : next.deferredTarget = current.deferredTarget
  repair : next.lastRepairOperationId = current.lastRepairOperationId
  predecessor : next.predecessorOperationId = current.predecessorOperationId

theorem SameAttempt.targetAttempt (same : current.SameAttempt next)
    : next.targetAttemptOperationId = current.targetAttemptOperationId := by
  simp only [targetAttemptOperationId, same.repair, same.intent]

/-- The stage table as a relation between the states. -/
inductive Moves : TransitionState → TransitionState → Prop where
  | retain : Moves .admitted .sourceRetained
  | stop : Moves .admitted .sourceStopped
  | fail : Moves .sourceStopped .repairRequired
  | start : Moves .sourceStopped .targetStarted
  | reject : Moves .targetStarted .repairRequired
  | commit : Moves .targetStarted .committed

attribute [local simp] Stage.matchesCurrent

/-- An applied stage moves along the table, keeps the attempt and leaves a record that the
same stage matches.
-/
theorem applyStage_ok (applied : current.applyStage digest stage atMs = .ok next)
    : Moves current.state next.state
      ∧ current.SameAttempt next
      ∧ next.journalRevision = current.journalRevision
      ∧ stage.matchesCurrent next = true := by
  unfold applyStage at applied
  split at applied
  · rename_i state
    cases applied
    exact ⟨state ▸ .retain, ⟨rfl, rfl, rfl, rfl⟩, rfl, rfl⟩
  · rename_i state
    cases applied
    exact ⟨state ▸ .stop, ⟨rfl, rfl, rfl, rfl⟩, rfl, rfl⟩
  · rename_i failure update workspace state
    unfold failTarget at applied
    cases update with
    | replace authority =>
      simp only [seq_ok, pure_ok] at applied
      obtain ⟨_, _, rfl⟩ := applied
      exact ⟨state ▸ .fail, ⟨rfl, rfl, rfl, rfl⟩, rfl, by simp⟩
    | preserveExisting =>
      simp only [seq_ok, pure_ok, rejectIf_ok, not_not] at applied
      obtain ⟨_, absent, rfl⟩ := applied
      exact ⟨state ▸ .fail, ⟨rfl, rfl, rfl, rfl⟩, rfl,
        by simp [absent]⟩
  · rename_i authority key workspace state
    unfold startTarget at applied
    simp only [↓seq_ok, bind_ok, pure_ok] at applied
    obtain ⟨_, _, _, _, rfl⟩ := applied
    exact ⟨state ▸ .start, ⟨rfl, rfl, rfl, rfl⟩, rfl, by simp⟩
  · rename_i failure update workspace state
    split at applied
    · unfold rejectStarted at applied
      simp only [seq_ok, pure_ok, rejectIf_ok, not_or, not_not] at applied
      obtain ⟨⟨rfl, rfl⟩, _, rfl⟩ := applied
      exact ⟨state ▸ .reject, ⟨rfl, rfl, rfl, rfl⟩, rfl, by simp⟩
    · cases applied
  · rename_i state
    cases applied
    exact ⟨state ▸ .commit, ⟨rfl, rfl, rfl, rfl⟩, rfl, rfl⟩
  · cases applied

theorem advanced_ok
    : current.advanced digest request = .ok next
      ↔ current.journalRevision = request.expectedJournalRevision
        ∧ current.isDormant = false
        ∧ ∃ applied, current.applyStage digest request.advance request.advancedAtMs
            = .ok applied
          ∧ applied.stamped request.advancedAtMs = next := by
  unfold advanced
  simp only [↓seq_ok, bind_ok, pure_ok, rejectIf_ok, not_not, Bool.not_eq_true]

theorem authorizeWake_ok {request : WakeRequest}
    : current.authorizeWake digest request = .ok answer
      ↔ current.Addressed digest request.validate request.operationId
        ∧ ((current.wokenBy request.wakeOperationId = true ∧ answer = .replayed current)
          ∨ (current.wokenBy request.wakeOperationId = false
            ∧ ∃ next, current.woken request = .ok next
              ∧ next.validate digest = .ok ()
              ∧ answer = .authorized next)) := by
  unfold authorizeWake
  simp only [↓seq_ok, rejectIf_ok, not_not]
  constructor
  · rintro ⟨valid, checked, operation, result⟩
    refine ⟨⟨valid, checked, operation⟩, ?_⟩
    split at result
    · rename_i replay
      exact .inl ⟨replay, (pure_ok.mp result).symm⟩
    · rename_i fresh
      simp only [bind_ok, ↓seq_ok, pure_ok] at result
      obtain ⟨built, applied, accepted, rfl⟩ := result
      exact .inr ⟨by simpa using fresh, built, applied, accepted, rfl⟩
  · rintro ⟨⟨valid, checked, operation⟩, result⟩
    refine ⟨valid, checked, operation, ?_⟩
    rcases result with ⟨replay, rfl⟩ | ⟨fresh, built, applied, accepted, rfl⟩
    · simp [replay]
    · simp only [fresh, Bool.false_eq_true, if_false, bind_ok, ↓seq_ok, pure_ok]
      exact ⟨built, applied, accepted, rfl⟩

theorem woken_ok {request : WakeRequest}
    : current.woken request = .ok next
      ↔ current.journalRevision = request.expectedJournalRevision
        ∧ current.isDormant = true
        ∧ current.updatedAtMs ≤ request.wokenAtMs
        ∧ current.journalRevision ≠ i64Max
        ∧ { current with
            deferredTarget := some (.requested request.wakeOperationId request.wokenAtMs)
            journalRevision := current.journalRevision + 1
            updatedAtMs := request.wokenAtMs } = next := by
  unfold woken
  simp only [↓seq_ok, bind_ok, pure_ok, rejectIf_ok, not_not, not_lt,
    checkedAddOne_ok]
  constructor
  · rintro ⟨revision, dormant, later, _, ⟨room, rfl⟩, rfl⟩
    exact ⟨revision, dormant, later, room, rfl⟩
  · rintro ⟨revision, dormant, later, room, rfl⟩
    exact ⟨revision, dormant, later, _, ⟨room, rfl⟩, rfl⟩

theorem authorizeRepair_ok {request : RepairRequest}
    : current.authorizeRepair digest request = .ok answer
      ↔ current.Addressed digest request.validate request.operationId
        ∧ ((current.lastRepairOperationId = some request.repairOperationId
            ∧ answer = .replayed current)
          ∨ (current.lastRepairOperationId ≠ some request.repairOperationId
            ∧ ∃ next, current.repaired request = .ok next
              ∧ next.validate digest = .ok ()
              ∧ answer = .authorized next)) := by
  unfold authorizeRepair
  simp only [↓seq_ok, rejectIf_ok, not_not]
  constructor
  · rintro ⟨valid, checked, operation, result⟩
    refine ⟨⟨valid, checked, operation⟩, ?_⟩
    split at result
    · rename_i replay
      exact .inl ⟨replay, (pure_ok.mp result).symm⟩
    · rename_i fresh
      simp only [bind_ok, ↓seq_ok, pure_ok] at result
      obtain ⟨built, applied, accepted, rfl⟩ := result
      exact .inr ⟨fresh, built, applied, accepted, rfl⟩
  · rintro ⟨⟨valid, checked, operation⟩, result⟩
    refine ⟨valid, checked, operation, ?_⟩
    rcases result with ⟨replay, rfl⟩ | ⟨fresh, built, applied, accepted, rfl⟩
    · simp [replay]
    · simp only [fresh, if_false, bind_ok, ↓seq_ok, pure_ok]
      exact ⟨built, applied, accepted, rfl⟩

theorem repaired_ok {request : RepairRequest}
    : current.repaired request = .ok next
      ↔ current.journalRevision = request.expectedJournalRevision
        ∧ current.state = .repairRequired
        ∧ current.updatedAtMs ≤ request.repairedAtMs
        ∧ stamped
            { current with
              state := .sourceStopped
              targetFailure := none
              lastRepairOperationId := some request.repairOperationId }
            request.repairedAtMs = next := by
  unfold repaired
  simp only [↓seq_ok, pure_ok, rejectIf_ok, not_not, not_lt]

/-- The successor keeps what the failed attempt had already fixed. -/
structure Continues (current : Transition) (successor : Intent) : Prop where
  source : successor.source = current.intent.source
  sourceAuthority : successor.sourceAuthority = current.intent.sourceAuthority
  stopPolicy : successor.sourceStopPolicy = current.intent.sourceStopPolicy
  conversation : successor.providerConversationRef = current.intent.providerConversationRef
  operation : successor.operationId ≠ current.intent.operationId
  idempotency : successor.idempotencyKey ≠ current.intent.idempotencyKey

theorem successorAfterStoppedSource_ok {intent : Intent}
    : successorAfterStoppedSource digest intent predecessor authority workspace = .ok next
      ↔ intent.validateAfterStoppedSource = .ok ()
        ∧ intent.operationId ≠ predecessor
        ∧ next.validate digest = .ok ()
        ∧ successorRecord intent predecessor authority workspace = next := by
  unfold successorAfterStoppedSource
  simp only [↓seq_ok, pure_ok, rejectIf_ok]
  constructor
  · rintro ⟨checked, distinct, valid, rfl⟩
    exact ⟨checked, distinct, valid, rfl⟩
  · rintro ⟨checked, distinct, valid, rfl⟩
    exact ⟨checked, distinct, valid, rfl⟩

theorem supersede_ok {request : SupersedeRequest} {superseded successor : Transition}
    : current.supersede digest request = .ok (superseded, successor)
      ↔ current.Addressed digest request.validate request.operationId
        ∧ current.journalRevision = request.expectedJournalRevision
        ∧ current.state = .repairRequired
        ∧ current.Continues request.successorIntent
        ∧ current.updatedAtMs ≤ request.supersededAtMs
        ∧ (current.supersededBy request = superseded ∧ superseded.validate digest = .ok ())
        ∧ (successorRecord request.successorIntent current.intent.operationId
              current.replacementAuthority current.replacementWorkspace = successor
            ∧ successor.validate digest = .ok ()) := by
  unfold supersede
  simp only [↓seq_ok, bind_ok, pure_ok, rejectIf_ok, not_or, not_not, not_lt,
    successorAfterStoppedSource_ok, Prod.mk.injEq]
  constructor
  · rintro ⟨valid, checked, operation, revision, state, ⟨source, authority, policy,
      conversation⟩, ⟨distinct, key⟩, later, _, ⟨_, _, next, rfl⟩, old, rfl, rfl⟩
    exact ⟨⟨valid, checked, operation⟩, revision, state,
      ⟨source, authority, policy, conversation, distinct, key⟩, later, ⟨rfl, old⟩, rfl, next⟩
  · rintro ⟨⟨valid, checked, operation⟩, revision, state,
      ⟨source, authority, policy, conversation, distinct, key⟩, later, ⟨rfl, old⟩, rfl, next⟩
    have intent : request.successorIntent.validateAfterStoppedSource = .ok () := by
      simp only [SupersedeRequest.validate, seq_ok] at checked
      exact checked.2.2.1
    exact ⟨valid, checked, operation, revision, state,
      ⟨source, authority, policy, conversation⟩, ⟨distinct, key⟩, later, _,
      ⟨intent, distinct, next, rfl⟩, old, rfl, rfl⟩

end Transition

end Dure.Runtime
