import Dure.Orchestration.Store.Commits

/-! Inversion of answering a decision and of completing a dispatch. -/

namespace Dure.Orchestration

open Library Update

namespace AnswerDecisionRequest

abbrev key (request : AnswerDecisionRequest) : String :=
  scopedOperationKey "answer" request.target request.idempotencyKey

/-- The answered record of a decision. -/
def answered (request : AnswerDecisionRequest) (common : InteractionCommon)
    (response : ResponseSpec) (replyCapability : CapabilityRef)
    : InteractionRecord :=
  .decision { common with revision := common.revision + 1 } response replyCapability
    (.answered
      {
        answeredBy := request.answeredBy
        answer := request.answer
        answeredAtMs := request.answeredAtMs
        idempotencyKey := request.idempotencyKey
      })

def posting (request : AnswerDecisionRequest) (common : InteractionCommon) : Posting :=
  {
    target := request.target
    actor := request.answeredBy
    recordedAtMs := request.answeredAtMs
    kind := .decisionAnswered common.id
    silent := some (.dispatchUnblocked common.id)
    grants := common.audience.grants
  }

end AnswerDecisionRequest

def DispatchRecord.unblock (dispatch : DispatchRecord) : DispatchRecord :=
  { dispatch with state := .active, blockedBy := none, revision := dispatch.revision + 1 }

theorem DispatchRecord.unblock_sameContract (dispatch : DispatchRecord)
    : dispatch.SameContract dispatch.unblock :=
  ⟨rfl, rfl, rfl, rfl, rfl⟩

/-- The open decision that blocks its dispatch was answered by a member who may reply. -/
structure Answered (sha256 : String → String) (request : AnswerDecisionRequest)
    (fingerprint : String) (common : InteractionCommon) (response : ResponseSpec)
    (replyCapability : CapabilityRef) (dispatch : DispatchRecord)
    (entries : List DeliveryEntry) (receipt : AnswerDecisionReceipt)
    (before after : StoreState)
    : Prop where
  unseen : before.idempotency.get? request.key = none
  decision_found
    : before.interactions.find? request.names
      = some (.decision common response replyCapability .open)
  found : before.dispatches.find? (·.target == request.target) = some dispatch
  target_eq : common.target = request.target
  decision_revision : common.revision = request.expectedRevision
  revision : dispatch.revision = request.expectedDispatchRevision
  blocked : dispatch.state = .blocked
  blocked_by : dispatch.blockedBy = some request.interactionId
  granted
    : ∃ grant, common.audience.grantFor request.answeredBy = some grant
      ∧ grant.grants request.replyCapability
  capability : replyCapability = request.replyCapability
  answer_valid : response.validateAnswer request.answer = .ok ()
  dispatches_eq
    : after.dispatches
      = updateFirst (·.target == request.target) DispatchRecord.unblock before.dispatches
  interactions_eq
    : after.interactions
      = updateFirst request.names
          (fun _ => request.answered common response replyCapability) before.interactions
  posted : (request.posting common).Posted sha256 entries before after
  receipt_eq
    : receipt =
        {
          interaction := request.answered common response replyCapability
          dispatchState := .active
          events := (request.posting common).events before.nextCursor
          deliveries := entries.map DeliveryEntry.receipt
          idempotent := false
        }
  idempotency_eq
    : after.idempotency
      = before.idempotency.insert request.key ⟨fingerprint, .answer receipt⟩

def StoreState.replayAnswer (state : StoreState) (stored : AnswerDecisionReceipt)
    : AnswerDecisionReceipt :=
  { stored with
    deliveries := state.canonicalizeDeliveries stored.deliveries
    idempotent := true }

variable {before after : StoreState} {replyCapability : CapabilityRef}

theorem decisionParts_ok
    : decisionParts interaction before = .ok parts after
      ↔ interaction = .decision parts.1 parts.2.1 parts.2.2.1 parts.2.2.2
        ∧ before = after := by
  cases interaction with
  | message common purpose => simp [decisionParts, throw_ok]
  | decision common response replyCapability state =>
    obtain ⟨common', response', replyCapability', state'⟩ := parts
    simp [decisionParts, pure_ok, and_assoc]

variable {request : AnswerDecisionRequest} {sha256 : String → String}
  {common : InteractionCommon} {response : ResponseSpec} {dispatch : DispatchRecord}
  {fingerprint : String}

theorem checkAnswer_ok
    (applied
      : checkAnswer request before = .ok (common, response, replyCapability, dispatch) after)
    : before.interactions.find? request.names
        = some (.decision common response replyCapability .open)
      ∧ before.dispatches.find? (·.target == request.target) = some dispatch
      ∧ common.target = request.target
      ∧ common.revision = request.expectedRevision
      ∧ dispatch.revision = request.expectedDispatchRevision
      ∧ dispatch.state = .blocked
      ∧ dispatch.blockedBy = some request.interactionId
      ∧ (∃ grant, common.audience.grantFor request.answeredBy = some grant
        ∧ grant.grants request.replyCapability)
      ∧ replyCapability = request.replyCapability
      ∧ response.validateAnswer request.answer = .ok ()
      ∧ before = after := by
  simp only [checkAnswer, get_bind_ok, orElseThrow_bind_ok, dispatchAt_bind_ok] at applied
  obtain ⟨interaction, decisionFound, dispatch, found, applied⟩ := applied
  obtain ⟨⟨common, response, replyCapability, decisionState⟩, _, parts, applied⟩ :=
    bind_ok.mp applied
  obtain ⟨rfl, rfl⟩ := decisionParts_ok.mp parts
  simp only [ensure_bind_ok, check_bind_ok, orElseThrow_bind_ok, pure_ok,
    Prod.mk.injEq] at applied
  obtain ⟨targetEq, decisionRevision, revision, ⟨rfl, blocked, blockedBy⟩, grant, grantFound,
    ⟨capability, granted⟩, _, answerValid, ⟨rfl, rfl, rfl, rfl⟩, rfl⟩ := applied
  exact ⟨decisionFound, found, targetEq, decisionRevision, revision, blocked, blockedBy,
    ⟨grant, grantFound, granted⟩, capability, answerValid, rfl⟩

theorem answerDecision_ok
    (applied
      : answerDecision request common response replyCapability before = .ok record after)
    : record = request.answered common response replyCapability
      ∧ after = { before with
          interactions :=
            updateFirst request.names (fun _ => record) before.interactions } := by
  simp only [answerDecision, bind_ok, nextRevision_ok, modify_ok, pure_ok] at applied
  obtain ⟨_, _, ⟨⟨rfl, _⟩, rfl⟩, _, _, rfl, rfl, rfl⟩ := applied
  exact ⟨rfl, rfl⟩

theorem announceAnswer_ok
    (applied
      : announceAnswer sha256 request (request.answered common response replyCapability) before
      = .ok result after)
    (target : common.target = request.target)
    : ∃ entries,
        (request.posting common).Announced sha256 entries before after
        ∧ result
          = ((request.posting common).events before.nextCursor,
            entries.map DeliveryEntry.receipt) := by
  simp only [announceAnswer, bind_ok, pure_ok] at applied
  obtain ⟨answeredEvent, _, appended, unblockedEvent, _, appendedNext, audienceReceipts, _,
    queued, workerReceipt, _, queuedWorker, rfl, rfl⟩ := applied
  obtain ⟨rfl, rfl⟩ := appendEvent_ok appended
  obtain ⟨rfl, rfl⟩ := appendEvent_ok appendedNext
  obtain ⟨members, membersQueued, rfl, one⟩ := queueDeliveries_ok queued
  obtain ⟨workers, workersQueued, workerReceipts, more⟩ := queueWorkerDelivery_ok queuedWorker
  have workersReached := one.after_eq ▸ workersQueued
  obtain ⟨rfl, unique⟩ := one.trans more
  have sameTarget : (request.answered common response replyCapability).common.target
      = request.target := target
  simp only [sameTarget] at membersQueued workersReached ⊢
  refine ⟨members ++ workers, ?_, by simp [workerReceipts]; rfl⟩
  exact {
    events_eq := by simp; rfl
    nextCursor_eq := rfl
    deliveries_eq := rfl
    queued := by
      intro entry member
      rcases List.mem_append.mp member with isMember | isWorker
      · exact membersQueued entry isMember
      · obtain ⟨endpoint, found, isQueued⟩ := workersReached entry isWorker
        exact ⟨.worker endpoint, found, isQueued⟩
    unique
    acknowledgements_eq := rfl
    dispatches_eq := rfl
    interactions_eq := rfl
    idempotency_eq := rfl
  }

theorem answer_ok (applied : answer sha256 request fingerprint before = .ok receipt after)
    : (∃ stored,
        before.idempotency.get? request.key = some ⟨fingerprint, .answer stored⟩
        ∧ receipt = before.replayAnswer stored ∧ after = before)
      ∨ ∃ common response replyCapability dispatch entries,
          Answered sha256 request fingerprint common response replyCapability dispatch entries
            receipt before after := by
  simp only [answer, bind_ok, get_ok] at applied
  obtain ⟨_, _, ⟨rfl, rfl⟩, applied⟩ := applied
  cases seen : before.idempotency.get? request.key with
  | some entry =>
    obtain ⟨storedFingerprint, stored⟩ := entry
    rw [seen] at applied
    cases stored <;> by_cases same : storedFingerprint = fingerprint <;>
      simp only [same, decide_true, decide_false, throw_ok, pure_ok] at applied
    obtain ⟨rfl, rfl⟩ := applied
    exact Or.inl ⟨_, by rw [same], rfl, rfl⟩
  | none =>
    rw [seen] at applied
    simp only [bind_ok, modify_ok, pure_ok, rememberReceipt] at applied
    obtain ⟨⟨common, response, replyCapability, dispatch⟩, _, checked, record, answered,
      written, _, unblocked, revised, result, announced, announces, _, _, rfl, rfl, rfl⟩ :=
      applied
    obtain ⟨decisionFound, found, targetEq, decisionRevision, revision, blocked, blockedBy,
      granted, capability, answerValid, rfl⟩ := checkAnswer_ok checked
    obtain ⟨rfl, rfl⟩ := answerDecision_ok written
    have freed := reviseDispatch_ok revised found (fun _ => rfl)
    obtain ⟨entries, posted, rfl⟩ := announceAnswer_ok announces targetEq
    subst freed
    exact Or.inr ⟨common, response, replyCapability, dispatch, entries, {
      unseen := seen
      decision_found := decisionFound
      found
      target_eq := targetEq
      decision_revision := decisionRevision
      revision
      blocked
      blocked_by := blockedBy
      granted
      capability
      answer_valid := answerValid
      dispatches_eq := posted.dispatches_eq
      interactions_eq := posted.interactions_eq
      posted := posted.congr ⟨rfl, rfl, rfl, rfl⟩ ⟨rfl, rfl, rfl, rfl⟩ rfl
      receipt_eq := rfl
      idempotency_eq := by rw [posted.idempotency_eq]
    }⟩

abbrev CompleteDispatchRequest.key (request : CompleteDispatchRequest) : String :=
  scopedOperationKey "complete" request.target request.idempotencyKey

def CompleteDispatchRequest.posting (request : CompleteDispatchRequest) : Posting :=
  {
    target := request.target
    actor := request.completedBy
    recordedAtMs := request.completedAtMs
    kind := .dispatchCompleted request.messageId
    silent := none
    grants := request.audience.grants
  }

def DispatchRecord.finish (dispatch : DispatchRecord) : DispatchRecord :=
  { dispatch with state := .completed, revision := dispatch.revision + 1 }

theorem DispatchRecord.finish_sameContract (dispatch : DispatchRecord)
    : dispatch.SameContract dispatch.finish :=
  ⟨rfl, rfl, rfl, rfl, rfl⟩

/-- An active dispatch was completed by its worker at the exact endpoint. -/
structure Completed (sha256 : String → String) (request : CompleteDispatchRequest)
    (fingerprint : String) (dispatch : DispatchRecord) (entries : List DeliveryEntry)
    (receipt : CompleteDispatchReceipt) (before after : StoreState)
    : Prop where
  unseen : before.idempotency.get? request.key = none
  found : before.dispatches.find? (·.target == request.target) = some dispatch
  revision : dispatch.revision = request.expectedDispatchRevision
  capability : dispatch.completionCapability = request.completionCapability
  worker : dispatch.workerEndpoint.participant = request.completedBy
  fenced : request.endpointFence.matchesEndpoint dispatch.workerEndpoint
  active : dispatch.state = .active
  unused : before.interactionIdExists request.target.authority request.messageId = false
  valid : request.report.validate = .ok ()
  dispatches_eq
    : after.dispatches
      = updateFirst (·.target == request.target) DispatchRecord.finish before.dispatches
  interactions_eq : after.interactions = before.interactions ++ [request.report]
  posted : request.posting.Posted sha256 entries before after
  receipt_eq
    : receipt =
        {
          message := request.report
          dispatchState := .completed
          events := request.posting.events before.nextCursor
          deliveries := entries.map DeliveryEntry.receipt
          idempotent := false
        }
  idempotency_eq
    : after.idempotency
      = before.idempotency.insert request.key ⟨fingerprint, .complete receipt⟩

def StoreState.replayComplete (state : StoreState) (stored : CompleteDispatchReceipt)
    : CompleteDispatchReceipt :=
  { stored with
    deliveries := state.canonicalizeDeliveries stored.deliveries
    idempotent := true }

theorem checkComplete_ok {request : CompleteDispatchRequest}
    (applied : checkComplete request before = .ok dispatch after)
    : before.dispatches.find? (·.target == request.target) = some dispatch
      ∧ dispatch.revision = request.expectedDispatchRevision
      ∧ dispatch.completionCapability = request.completionCapability
      ∧ dispatch.workerEndpoint.participant = request.completedBy
      ∧ request.endpointFence.matchesEndpoint dispatch.workerEndpoint
      ∧ dispatch.state = .active
      ∧ before.interactionIdExists request.target.authority request.messageId = false
      ∧ request.report.validate = .ok ()
      ∧ before = after := by
  simp only [checkComplete, dispatchAt_bind_ok, get_bind_ok, ensure_bind_ok, check_bind_ok,
    pure_ok] at applied
  obtain ⟨_, found, revision, capability, worker, fenced, active, unused, _, valid, rfl, rfl⟩ :=
    applied
  exact ⟨found, revision, capability, worker, fenced, active, by simpa using unused, valid, rfl⟩

theorem complete_ok {request : CompleteDispatchRequest}
    (applied : complete sha256 request fingerprint before = .ok receipt after)
    : (∃ stored,
        before.idempotency.get? request.key = some ⟨fingerprint, .complete stored⟩
        ∧ receipt = before.replayComplete stored ∧ after = before)
      ∨ ∃ dispatch entries,
          Completed sha256 request fingerprint dispatch entries receipt before after := by
  simp only [complete, bind_ok, get_ok] at applied
  obtain ⟨_, _, ⟨rfl, rfl⟩, applied⟩ := applied
  cases seen : before.idempotency.get? request.key with
  | some entry =>
    obtain ⟨storedFingerprint, stored⟩ := entry
    rw [seen] at applied
    cases stored <;> by_cases same : storedFingerprint = fingerprint <;>
      simp only [same, decide_true, decide_false, throw_ok, pure_ok] at applied
    obtain ⟨rfl, rfl⟩ := applied
    exact Or.inl ⟨_, by rw [same], rfl, rfl⟩
  | none =>
    rw [seen] at applied
    simp only [bind_ok, modify_ok, pure_ok, rememberReceipt, pushInteraction] at applied
    obtain ⟨dispatch, _, checked, _, finished, revised, event, _, appended, receipts,
      announced, queued, _, _, rfl, _, _, rfl, rfl, rfl⟩ := applied
    obtain ⟨found, revision, capability, worker, fenced, active, unused, valid, rfl⟩ :=
      checkComplete_ok checked
    have written := reviseDispatch_ok revised found (fun _ => rfl)
    obtain ⟨entries, posted, rfl, rfl⟩ := Posting.announced_audience appended queued
    subst written
    exact Or.inr ⟨dispatch, entries, {
      unseen := seen
      found
      revision
      capability
      worker
      fenced
      active
      unused
      valid
      dispatches_eq := posted.dispatches_eq
      interactions_eq := by rw [posted.interactions_eq]
      posted := posted.congr ⟨rfl, rfl, rfl, rfl⟩ ⟨rfl, rfl, rfl, rfl⟩ rfl
      receipt_eq := rfl
      idempotency_eq := by rw [posted.idempotency_eq]
    }⟩

end Dure.Orchestration
