import Dure.Runtime.Preservation
import Dure.Runtime.Rehost

/-! The last check of a journal operation refuses no legal step of a valid record, a native
rehost that retires a placed replacement apart: that one clears the replacement authority and
keeps its workspace.
-/

namespace Dure.Runtime

open Library Check
open Checkout (OperationId)

/-! ### Legal steps -/

inductive Step where
  | advance (request : AdvanceRequest)
  | wake (request : WakeRequest)
  | repair (request : RepairRequest)
  | supersede (request : SupersedeRequest)
  | rehost (request : RehostCommit)
  deriving DecidableEq

namespace Step

def atMs : Step → Int
  | .advance request => request.advancedAtMs
  | .wake request => request.wokenAtMs
  | .repair request => request.repairedAtMs
  | .supersede request => request.supersededAtMs
  | .rehost request => request.committedAtMs

/-- The id that the step brings into the record. -/
def newOperationId : Step → Option OperationId
  | .advance _ => none
  | .wake request => some request.wakeOperationId
  | .repair request => some request.repairOperationId
  | .supersede request => some request.successorIntent.operationId
  | .rehost request => some request.operationId

/-- The records that the step writes when it is accepted. -/
def run (digest : String → String) (current : Transition) : Step → Result (List Transition)
  | .advance request => do
      let next ← current.advance digest request
      pure [next]
  | .wake request => do
      let answer ← current.authorizeWake digest request
      pure [answer.record]
  | .repair request => do
      let answer ← current.authorizeRepair digest request
      pure [answer.record]
  | .supersede request => do
      let (superseded, successor) ← current.supersede digest request
      pure [superseded, successor]
  | .rehost request => do
      let next ← current.supersedeWithNativeRehost digest request
      pure [next]

/-- The records that the step's last checks see. -/
def next (digest : String → String) (current : Transition) : Step → Result (List Transition)
  | .advance request => do
      let next ← current.advanced digest request
      pure [next]
  | .wake request => do
      let next ← current.woken request
      pure [next]
  | .repair request => do
      let next ← current.repaired request
      pure [next]
  | .supersede request =>
    pure
      [current.supersededBy request,
        Transition.successorRecord request.successorIntent current.intent.operationId
          current.replacementAuthority current.replacementWorkspace]
  | .rehost request =>
    match request.repairTransition with
    | none =>
      throw (invalid "repairTransition" "is required while a runtime transition is active")
    | some named => do
        let next ← current.rehosted request named
        pure [next]

/-- A native rehost with proof that the replacement was retired, of a record that knows the
workspace of that replacement.
-/
def RetiresPlaced (current : Transition) : Step → Prop
  | .rehost request =>
    (∃ named, request.repairTransition = some named
      ∧ named.retainReplacementAuthority = false)
    ∧ current.replacementWorkspace ≠ none
  | _ => False

end Step

/-- The operation and the revision that a request names are those of the record. -/
structure Names (current : Transition) (schemaVersion : Nat) (operationId : OperationId)
    (expectedJournalRevision : Int)
    : Prop where
  schema : schemaVersion = transitionSchemaVersion
  operation : current.intent.operationId = operationId
  revision : current.journalRevision = expectedJournalRevision

/-- The steps that the state of a record allows. -/
inductive Legal (current : Transition) : Step → Prop where
  | retainSource {request : AdvanceRequest}
      (names : Names current request.schemaVersion request.operationId
        request.expectedJournalRevision)
      (state : current.state = .admitted)
      (stage : request.advance = .sourceRetained)
      : Legal current (.advance request)
  | stopSource {request : AdvanceRequest}
      (names : Names current request.schemaVersion request.operationId
        request.expectedJournalRevision)
      (state : current.state = .admitted)
      (stage : request.advance = .sourceStopped)
      : Legal current (.advance request)
  | failTarget {request : AdvanceRequest} {failure : TargetFailure}
      (names : Names current request.schemaVersion request.operationId
        request.expectedJournalRevision)
      (permits : current.permitsTargetEffects = true)
      (stage : request.advance = .repairRequired failure .preserveExisting none)
      (checked : failure.validate = .ok ())
      : Legal current (.advance request)
  | commitTarget {request : AdvanceRequest}
      (names : Names current request.schemaVersion request.operationId
        request.expectedJournalRevision)
      (state : current.state = .targetStarted)
      (stage : request.advance = .committed)
      : Legal current (.advance request)
  | rejectTarget {request : AdvanceRequest} {failure : TargetFailure}
      (names : Names current request.schemaVersion request.operationId
        request.expectedJournalRevision)
      (state : current.state = .targetStarted)
      (moving : current.intent.workspaceMove ≠ none)
      (stage : request.advance
        = .repairRequired failure (.replace current.targetAuthority) current.targetWorkspace)
      (checked : failure.validate = .ok ())
      : Legal current (.advance request)
  | wake {request : WakeRequest}
      (names : Names current request.schemaVersion request.operationId
        request.expectedJournalRevision)
      (dormant : current.isDormant = true)
      : Legal current (.wake request)
  | repair {request : RepairRequest}
      (names : Names current request.schemaVersion request.operationId
        request.expectedJournalRevision)
      (state : current.state = .repairRequired)
      : Legal current (.repair request)
  | supersede {request : SupersedeRequest}
      (names : Names current request.schemaVersion request.operationId
        request.expectedJournalRevision)
      (state : current.state = .repairRequired)
      (checked : request.successorIntent.validateAfterStoppedSource = .ok ())
      (requested : request.successorIntent.requestedAtMs = request.supersededAtMs)
      (continues : current.Continues request.successorIntent)
      (move : request.successorIntent.workspaceMove = none
        ∨ request.successorIntent.workspaceMove = current.intent.workspaceMove)
      : Legal current (.supersede request)
  | rehost {request : RehostCommit} {repair : RehostRepair}
      (checked : request.validate = .ok ())
      (present : request.repairTransition = some repair)
      (replaces : Transition.Replaces request repair current)
      : Legal current (.rehost request)

/-! ### Each kind of step -/

namespace Step

variable {digest : String → String} {current : Transition}

section

variable (valid : current.Valid digest)
include valid

theorem named_bounds (names : Names current schemaVersion operationId expected)
    : 1 ≤ expected ∧ 0 ≤ current.updatedAtMs :=
  ⟨names.revision ▸ valid.positive, le_trans valid.created valid.ordered⟩

/-- An advance that names an awake record is no repetition of an earlier one, and its last
check decides.
-/
theorem advance_accepted
    (names : Names current request.schemaVersion request.operationId
      request.expectedJournalRevision)
    (later : current.updatedAtMs ≤ request.advancedAtMs)
    (stage : request.advance.validate = .ok ()) (awake : current.isDormant = false)
    (built : current.applyStage digest request.advance request.advancedAtMs = .ok applied)
    (accepted : (applied.stamped request.advancedAtMs).Valid digest)
    : ∃ next, Step.next digest current (.advance request) = .ok [next]
      ∧ run digest current (.advance request) = .ok [next] := by
  have advanced := Transition.advanced_ok.mpr ⟨names.revision, awake, applied, built, rfl⟩
  obtain ⟨positive, started⟩ := named_bounds valid names
  have checked : request.validate = .ok () := by
    simp only [AdvanceRequest.validate, seq_ok, rejectIf_ok, not_not, positive_ok,
      timestamp_ok]
    exact ⟨names.schema, by omega, stage, by omega⟩
  have fresh : current.replaysAdvance request = false := by
    simp only [Transition.replaysAdvance, decide_eq_false_iff_not, not_and]
    have revision := names.revision
    omega
  have answer := Transition.advance_ok.mpr
    ⟨⟨Transition.validate_ok.mpr valid, checked, names.operation⟩, later,
      .inr ⟨fresh, advanced, Transition.validate_ok.mpr accepted⟩⟩
  exact ⟨applied.stamped request.advancedAtMs,
    by simp [Step.next, advanced, bind, Except.bind, pure, Except.pure],
    by simp [run, answer, bind, Except.bind, pure, Except.pure]⟩

attribute [local simp] Transition.applyStage Transition.isDormant Stage.validate

/-- The record that a legal advance builds passes the last check; only the count of the
rejections can be exhausted before that.
-/
theorem advance_legal (room : current.journalRevision < i64Max)
    (later : current.updatedAtMs ≤ request.advancedAtMs)
    (legal : Legal current (.advance request))
    : (∃ next, Step.next digest current (.advance request) = .ok [next]
        ∧ run digest current (.advance request) = .ok [next])
      ∨ Step.next digest current (.advance request)
        = .error (invalid "postStartRejections" "overflow") := by
  cases legal with
  | retainSource names state stage =>
    exact .inl (advance_accepted valid names later (by simp [stage]) (by simp [state])
      (by simp [state, stage]) (valid.leaveAdmitted state room later (.inl rfl)))
  | stopSource names state stage =>
    exact .inl (advance_accepted valid names later (by simp [stage]) (by simp [state])
      (by simp [state, stage]) (valid.leaveAdmitted state room later (.inr rfl)))
  | failTarget names permits stage checked =>
    have effects := permits
    simp only [Transition.permitsTargetEffects, decide_eq_true_eq] at effects
    refine .inl (advance_accepted valid names later (by simp [stage]) (by simp [effects]) ?_
      (valid.failPreserving room permits later checked))
    simp only [Transition.applyStage, effects.1, stage, Transition.failTarget]
    exact seq_ok.mpr ⟨checked, seq_ok.mpr ⟨rejectIf_ok.mpr (by simp), rfl⟩⟩
  | commitTarget names state stage =>
    exact .inl (advance_accepted valid names later (by simp [stage]) (by simp [state])
      (by simp [state, stage]) (valid.commit room state later))
  | rejectTarget names state moving stage checked =>
    have awake : current.isDormant = false := by simp [state]
    have moves : current.intent.workspaceMove.isSome = true :=
      Option.isSome_iff_ne_none.mpr moving
    by_cases full : current.postStartRejections = u32Max
    · refine .inr ?_
      simp [Step.next, Transition.advanced, Transition.rejectStarted, names.revision, state,
        stage, moves, full, rejectIf, bind, Except.bind, pure, Except.pure, throw,
        throwThe, MonadExceptOf.throw]
    · refine .inl (advance_accepted valid names later (by simp [stage]) awake ?_
        (valid.reject room state moving later checked))
      simp only [Transition.applyStage, Transition.rejectStarted, state, stage, moves,
        if_true]
      exact seq_ok.mpr ⟨rejectIf_ok.mpr (by simp), seq_ok.mpr ⟨rejectIf_ok.mpr full, rfl⟩⟩

theorem wake_legal (fresh : request.wakeOperationId ∉ current.operationIds)
    (room : current.journalRevision < i64Max) (later : current.updatedAtMs ≤ request.wokenAtMs)
    (legal : Legal current (.wake request))
    : ∃ next, Step.next digest current (.wake request) = .ok [next]
      ∧ run digest current (.wake request) = .ok [next] := by
  cases legal with
  | wake names dormant =>
    obtain ⟨positive, started⟩ := named_bounds valid names
    have other := (Transition.not_mem_operationIds.mp fresh).1
    have checked : request.validate = .ok () := by
      simp only [WakeRequest.validate, seq_ok, rejectIf_ok, not_or, not_not, positive_ok,
        timestamp_ok]
      exact ⟨⟨names.schema, names.operation ▸ Ne.symm other⟩, by omega, by omega⟩
    have asleep : current.wokenBy request.wakeOperationId = false := by
      simp [Transition.wokenBy, (valid.dormant dormant).2.1]
    have built := Transition.woken_ok.mpr
      ⟨names.revision, dormant, later, ne_of_lt room, rfl⟩
    have accepted := Transition.validate_ok.mpr (valid.wake later dormant fresh)
    have answer := Transition.authorizeWake_ok.mpr
      ⟨⟨Transition.validate_ok.mpr valid, checked, names.operation⟩,
        .inr ⟨asleep, _, built, accepted, rfl⟩⟩
    exact ⟨_, bind_ok.mpr ⟨_, built, rfl⟩, bind_ok.mpr ⟨_, answer, rfl⟩⟩

theorem repair_legal (fresh : request.repairOperationId ∉ current.operationIds)
    (room : current.journalRevision < i64Max)
    (later : current.updatedAtMs ≤ request.repairedAtMs)
    (legal : Legal current (.repair request))
    : ∃ next, Step.next digest current (.repair request) = .ok [next]
      ∧ run digest current (.repair request) = .ok [next] := by
  cases legal with
  | repair names state =>
    obtain ⟨positive, started⟩ := named_bounds valid names
    obtain ⟨other, unused, _⟩ := Transition.not_mem_operationIds.mp fresh
    have checked : request.validate = .ok () := by
      simp only [RepairRequest.validate, seq_ok, rejectIf_ok, not_not, positive_ok,
        timestamp_ok]
      exact ⟨names.schema, by omega, by omega, names.operation ▸ Ne.symm other⟩
    have built := Transition.repaired_ok.mpr ⟨names.revision, state, later, rfl⟩
    have accepted := Transition.validate_ok.mpr (valid.repair later state room fresh)
    have answer := Transition.authorizeRepair_ok.mpr
      ⟨⟨Transition.validate_ok.mpr valid, checked, names.operation⟩,
        .inr ⟨unused, _, built, accepted, rfl⟩⟩
    exact ⟨_, bind_ok.mpr ⟨_, built, rfl⟩, bind_ok.mpr ⟨_, answer, rfl⟩⟩

theorem supersede_legal (fresh : request.successorIntent.operationId ∉ current.operationIds)
    (room : current.journalRevision < i64Max)
    (later : current.updatedAtMs ≤ request.supersededAtMs)
    (legal : Legal current (.supersede request))
    : ∃ next, Step.next digest current (.supersede request) = .ok next
      ∧ run digest current (.supersede request) = .ok next := by
  cases legal with
  | supersede names state intent requested continues move =>
    obtain ⟨positive, started⟩ := named_bounds valid names
    have checked : request.validate = .ok () := by
      simp only [SupersedeRequest.validate, seq_ok, rejectIf_ok, not_not, positive_ok,
        timestamp_ok]
      exact ⟨names.schema, by omega, intent, by omega, requested⟩
    have old := Transition.validate_ok.mpr
      (valid.retire later state room fresh (.inl ⟨rfl, rfl⟩))
    have successor := Transition.validate_ok.mpr
      (valid.succeed intent continues.source continues.conversation move
        continues.operation)
    have answer := Transition.supersede_ok.mpr
      ⟨⟨Transition.validate_ok.mpr valid, checked, names.operation⟩, names.revision, state,
        continues, later, ⟨rfl, old⟩, rfl, successor⟩
    exact ⟨_, rfl, bind_ok.mpr ⟨_, answer, rfl⟩⟩

/-- A legal rehost is accepted exactly when it leaves no workspace without its replacement. -/
theorem rehost_legal (fresh : request.operationId ∉ current.operationIds)
    (room : current.journalRevision < i64Max)
    (later : current.updatedAtMs ≤ request.committedAtMs)
    (legal : Legal current (.rehost request))
    : ∃ next, Step.next digest current (.rehost request) = .ok [next]
      ∧ (run digest current (.rehost request) = .ok [next]
        ↔ ¬RetiresPlaced current (.rehost request)) := by
  cases legal with
  | @rehost _ repair checked present replaces =>
    have built := Transition.rehosted_ok.mpr
      ⟨replaces, later, ne_of_lt room, rfl⟩
    refine ⟨_, by rw [Step.next, present]; simp only [built]; rfl, ?_⟩
    have answered : ∀ next, current.rehosted request repair = .ok next
        → (run digest current (.rehost request) = .ok [next] ↔ next.Valid digest) := by
      intro next built
      simp only [run, bind_ok, pure_ok, Transition.supersedeWithNativeRehost_ok, present,
        Option.some.injEq, exists_eq_left', List.cons.injEq, and_true,
        exists_eq_right, ← Transition.validate_ok]
      exact ⟨fun answer => answer.2.2.2,
        fun accepted => ⟨Transition.validate_ok.mpr valid, checked, built, accepted⟩⟩
    rw [answered _ built]
    constructor
    · -- a workspace kept without its authority is refused by the placement clause
      rintro accepted ⟨⟨other, same, dropped⟩, placed⟩
      have identical : repair = other := Option.some.inj (present.symm.trans same)
      subst identical
      obtain ⟨workspace, kept⟩ := Option.ne_none_iff_exists'.mp placed
      have structured := (accepted.replacementPlacement workspace kept).2
      simp [Transition.Structured, dropped] at structured
    · intro kept
      rcases replaces.state with state | dormant
      · cases retained : repair.retainReplacementAuthority with
        | true =>
          have next := valid.retire later state room fresh (.inr ⟨rfl, rfl⟩)
          simpa only [Transition.stamped, wrappingAddOne_below room, if_true] using next
        | false =>
          have unplaced : current.replacementWorkspace = none := by
            by_contra placed
            exact kept ⟨⟨repair, present, retained⟩, placed⟩
          have next := valid.retire later state room fresh (.inl ⟨rfl, rfl⟩)
          simpa only [Transition.stamped, wrappingAddOne_below room, unplaced,
            Bool.false_eq_true, if_false] using next
      · have next := valid.resume later dormant fresh
        have unreplaced := (valid.dormant dormant).2.2.2.replacement
        simpa only [unreplaced, ite_self] using next

end

end Step

/-- From a valid record every legal step builds its next records, unless the rejections of a
workspace move can no longer be counted, and the last check accepts them exactly when the step
does not retire a placed replacement.
-/
theorem legal_step_accepted {digest : String → String} {current : Transition} {step : Step}
    (valid : current.validate digest = .ok ())
    (fresh : ∀ operationId, step.newOperationId = some operationId
      → operationId ∉ current.operationIds)
    (later : current.updatedAtMs ≤ step.atMs)
    (room : current.journalRevision < i64Max)
    (legal : Legal current step)
    : (∃ next, step.next digest current = .ok next
        ∧ (step.run digest current = .ok next ↔ ¬step.RetiresPlaced current))
      ∨ step.next digest current = .error (invalid "postStartRejections" "overflow") := by
  have valid := Transition.validate_ok.mp valid
  cases step with
  | advance request =>
    rcases Step.advance_legal valid room later legal with ⟨next, built, answered⟩ | full
    · exact .inl ⟨_, built, iff_of_true answered id⟩
    · exact .inr full
  | wake request =>
    obtain ⟨next, built, answered⟩ := Step.wake_legal valid (fresh _ rfl) room later legal
    exact .inl ⟨_, built, iff_of_true answered id⟩
  | repair request =>
    obtain ⟨next, built, answered⟩ :=
      Step.repair_legal valid (fresh _ rfl) room later legal
    exact .inl ⟨_, built, iff_of_true answered id⟩
  | supersede request =>
    obtain ⟨next, built, answered⟩ :=
      Step.supersede_legal valid (fresh _ rfl) room later legal
    exact .inl ⟨_, built, iff_of_true answered id⟩
  | rehost request =>
    obtain ⟨next, built, answered⟩ :=
      Step.rehost_legal valid (fresh _ rfl) room later legal
    exact .inl ⟨_, built, answered⟩

/-! ### A failed structured target of a native agent -/

namespace Sample

def agentId : AgentId := ⟨"agent-1", rfl⟩
def providerId : ProviderId := ⟨"claude", rfl⟩
def projectId : ProjectId := ⟨"project-1", rfl⟩
def workspaceId : WorkspaceId := ⟨"workspace-1", rfl⟩

def operation : OperationId := ⟨"transition-1", rfl⟩
def repairOperation : OperationId := ⟨"repair-1", rfl⟩
def rehostOperation : OperationId := ⟨"rehost-1", rfl⟩

def selection : Selection :=
  {
    schemaVersion := 1
    agentId
    providerId
    interactionProfile := .nativeCli
    executionProfile := .providerDefault
    permissionMode := .default
    model := none
    effort := none
    revision := 1
    selectedByOperationId := none
    updatedAtMs := 10
  }

def native (sessionId : String) (generation atMs : Int) : CheckpointAuthority :=
  {
    schemaVersion := 1
    binding :=
      {
        agentId
        runtimeKindId := ⟨"hmux", rfl⟩
        sessionId
        providerConversationId := some "conversation-1"
        credentialReferenceId := none
        bindingGeneration := generation
        boundAtMs := atMs
      }
    runtimeWorkspaceId := "workspace-1"
    runnerPrincipal := "runner"
    runnerInstance := "runner-1"
    channelEpoch := "channel-1"
    hostInstanceId := "host-1"
    terminalEpoch := "terminal-1"
    updatedAtMs := atMs
  }

def intent : Intent :=
  {
    schemaVersion := 1
    operationId := operation
    idempotencyKey := "attempt-1"
    source := selection
    sourceAuthority := .nativeCli (native "session-1" 1 10)
    sourceStopPolicy := .preserve
    providerConversationRef := ⟨some "conversation-1", by rintro _ ⟨⟩; decide⟩
    targetInteractionProfile := .structuredProtocol
    targetExecutionProfile := .providerDefault
    targetLaunchSelection := none
    workspaceMove := none
    requestedAtMs := 20
  }

/-- The structured runtime that the failed attempt left behind, and its retired successor. -/
def structured (generation : String) (revision atMs : Int) : InteractionBinding :=
  {
    schemaVersion := 1
    interactionSessionId := ⟨"interaction-1", rfl⟩
    agentId
    providerId
    executionProfile := .providerDefault
    providerConversationRef := some "conversation-1"
    runtime := ⟨generation, "epoch-1"⟩
    timelineEpoch := ⟨"timeline-1", rfl⟩
    bindingRevision := revision
    historyComplete := true
    createdAtMs := 30
    updatedAtMs := atMs
  }

def workspace : WorkspaceRecord :=
  {
    workspaceId
    projectId
    rootPath := "/work"
    baseCommitSha := none
    createdAtMs := 1
    updatedAtMs := 1
  }

def failed : Transition :=
  {
    schemaVersion := 1
    intent
    state := .repairRequired
    deferredTarget := none
    targetAuthority := none
    targetWorkspace := none
    targetLaunchIdempotencyKey := none
    replacementAuthority := some (.structuredProtocol (structured "runtime-1" 1 30))
    replacementWorkspace := some workspace
    targetFailure := some ⟨.authorityPublishFailed, "publish_failed"⟩
    lastRepairOperationId := none
    predecessorOperationId := none
    supersededByOperationId := none
    journalRevision := 3
    postStartRejections := 0
    createdAtMs := 20
    updatedAtMs := 40
  }

def repairRequest : RepairRequest :=
  {
    schemaVersion := 1
    operationId := operation
    expectedJournalRevision := 3
    repairOperationId := repairOperation
    repairedAtMs := 50
  }

/-- The retirement proof is the next revision of the failed binding under a new runtime. -/
def rehostRepair : RehostRepair :=
  {
    operationId := operation
    expectedJournalRevision := 3
    retainReplacementAuthority := false
    retiredReplacementAuthority := some (.structuredProtocol (structured "runtime-2" 2 45))
  }

def rehostRequest : RehostCommit :=
  {
    schemaVersion := 1
    operationId := rehostOperation
    requestSource :=
      {
        sessionId := "session-1"
        workspaceId := "workspace-1"
        runnerPrincipal := "runner"
        runnerInstance := "runner-1"
        channelEpoch := "channel-1"
        hostInstanceId := "host-1"
        terminalEpoch := "terminal-1"
      }
    sourceSelection := selection
    sourceAuthority := native "session-1" 1 10
    repairTransition := some rehostRepair
    targetAuthority := native "session-2" 2 60
    targetExecutionProfile := .providerDefault
    targetPermissionMode := .default
    targetLaunchIdempotencyKey := ⟨"launch-1", rfl⟩
    targetProviderLaunchReference := none
    committedAtMs := 60
  }

end Sample

/-- A failed attempt is repaired; no digest is computed before a native target starts. -/
theorem failed_target_repaired
    : Legal Sample.failed (.repair Sample.repairRequest)
      ∧ ((∃ next, (Step.repair Sample.repairRequest).next id Sample.failed = .ok next
          ∧ ((Step.repair Sample.repairRequest).run id Sample.failed = .ok next
            ↔ ¬(Step.repair Sample.repairRequest).RetiresPlaced Sample.failed))
        ∨ (Step.repair Sample.repairRequest).next id Sample.failed
          = .error (invalid "postStartRejections" "overflow")) := by
  have legal : Legal Sample.failed (.repair Sample.repairRequest) := .repair ⟨rfl, rfl, rfl⟩ rfl
  have fresh : ∀ operationId, (Step.repair Sample.repairRequest).newOperationId
      = some operationId → operationId ∉ Sample.failed.operationIds := by
    rintro _ ⟨⟩
    decide
  exact ⟨legal, legal_step_accepted (by decide) fresh (by decide) (by decide) legal⟩

/-- The native rehost that proves the structured replacement retired is refused by its last
check: the workspace of the replacement is still there.
-/
theorem retired_placement_refused
    : Sample.failed.validate id = .ok ()
      ∧ Legal Sample.failed (.rehost Sample.rehostRequest)
      ∧ Sample.rehostOperation ∉ Sample.failed.operationIds
      ∧ Sample.failed.updatedAtMs ≤ Sample.rehostRequest.committedAtMs
      ∧ Sample.failed.journalRevision < i64Max
      ∧ (Step.rehost Sample.rehostRequest).run id Sample.failed
        = .error (invalid "replacementWorkspace"
            "requires an exact structured replacement authority") := by
  refine ⟨by decide, ?_, by decide, by decide, by decide, by decide⟩
  refine .rehost (by decide) rfl ?_
  exact ⟨rfl, rfl, .inl rfl, rfl, rfl, by decide, by decide⟩

end Dure.Runtime
