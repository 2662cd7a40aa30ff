import Dure.Orchestration.Store.Commits
import Dure.Orchestration.Store.Deadlines

/-! Inversion of the deadline transitions. Both announce through the same message; the expiry
is a loop over the dispatches, and each iteration either skips its dispatch or announces it.
-/

namespace Dure.Orchestration

open Library Update

def deadlinePosting (id : InteractionId) (target : InteractionTarget) (grant : AudienceGrant)
    (nowMs : Int)
    : Posting :=
  {
    target
    actor := grant.participant
    recordedAtMs := nowMs
    kind := .interactionOpened id
    silent := none
    grants := [grant]
  }

/-- A deadline message was written: its id is derived from the cursor of its event. That the
id is unused is not among the checks. -/
structure DeadlineAnnounced (sha256 : String → String) (target : InteractionTarget)
    (grant : AudienceGrant) (title descriptionMarkdown : String) (nowMs : Int)
    (id : InteractionId) (entries : List DeliveryEntry) (before after : StoreState)
    : Prop where
  id_eq : id.value = deadlineMessageId sha256 target.authority before.nextCursor
  valid
    : (deadlineRecord id target grant title descriptionMarkdown nowMs).validate = .ok ()
  posted : (deadlinePosting id target grant nowMs).Posted sha256 entries before after
  dispatches_eq : after.dispatches = before.dispatches
  interactions_eq
    : after.interactions
      = before.interactions
        ++ [deadlineRecord id target grant title descriptionMarkdown nowMs]
  idempotency_eq : after.idempotency = before.idempotency

variable {sha256 : String → String} {before after : StoreState}

theorem deadlineMessage_ok
    (applied
      : deadlineMessage sha256 target grant title descriptionMarkdown nowMs before
      = .ok event after)
    : ∃ id entries,
        DeadlineAnnounced sha256 target grant title descriptionMarkdown nowMs id entries before
          after
        ∧ event = (deadlinePosting id target grant nowMs).event before.nextCursor := by
  simp only [deadlineMessage, get_bind_ok, check_bind_ok] at applied
  obtain ⟨id, made, _, valid, applied⟩ := applied
  simp only [bind_ok, pushInteraction, modify_ok, pure_ok] at applied
  obtain ⟨event, _, appended, _, announced, queued, _, _, rfl, rfl, rfl⟩ := applied
  obtain ⟨entries, posted, rfl, _⟩ := Posting.announced_audience appended queued
  refine ⟨id, entries, ?_, rfl⟩
  exact {
    id_eq := (BoundedReference.new_ok.mp made).1
    valid
    posted := posted.congr ⟨rfl, rfl, rfl, rfl⟩ ⟨rfl, rfl, rfl, rfl⟩ rfl
    dispatches_eq := posted.dispatches_eq
    interactions_eq := by rw [posted.interactions_eq]
    idempotency_eq := posted.idempotency_eq
  }

namespace SetDispatchDeadlineRequest

abbrev key (request : SetDispatchDeadlineRequest) : String :=
  scopedOperationKey "deadline" request.target request.idempotencyKey

def update (request : SetDispatchDeadlineRequest) (dispatch : DispatchRecord)
    : DispatchRecord :=
  { dispatch with
    revision := dispatch.revision + 1
    deadline := request.dueAtMs.map (fun dueAtMs => { dueAtMs, overdueEventCursor := none }) }

theorem update_sameContract (request : SetDispatchDeadlineRequest) (dispatch : DispatchRecord)
    : dispatch.SameContract (request.update dispatch) :=
  ⟨rfl, rfl, rfl, rfl, rfl⟩

end SetDispatchDeadlineRequest

/-- A deadline was set on an unfinished dispatch and its coordinator was told. -/
structure DeadlineSet (sha256 : String → String) (request : SetDispatchDeadlineRequest)
    (fingerprint : String) (dispatch : DispatchRecord) (id : InteractionId)
    (entries : List DeliveryEntry) (receipt : DispatchDeadlineReceipt)
    (before after : StoreState)
    : Prop where
  unseen : before.idempotency.get? request.key = none
  found : before.dispatches.find? (·.target == request.target) = some dispatch
  capability : dispatch.interactionCapability = request.writeCapability
  revision : dispatch.revision = request.expectedDispatchRevision
  unfinished : dispatch.state ≠ .completed
  dispatches_eq
    : after.dispatches
      = updateFirst (·.target == request.target) request.update before.dispatches
  id_eq : id.value = deadlineMessageId sha256 request.target.authority before.nextCursor
  valid
    : (deadlineRecord id request.target dispatch.coordinatorGrant "Dispatch deadline updated"
        (deadlineDescription request.dueAtMs) request.changedAtMs).validate = .ok ()
  interactions_eq
    : after.interactions
      = before.interactions
        ++ [deadlineRecord id request.target dispatch.coordinatorGrant
          "Dispatch deadline updated" (deadlineDescription request.dueAtMs)
          request.changedAtMs]
  posted
    : (deadlinePosting id request.target dispatch.coordinatorGrant
        request.changedAtMs).Posted sha256 entries before after
  receipt_eq : receipt = deadlineReceipt (request.update dispatch)
  idempotency_eq
    : after.idempotency
      = before.idempotency.insert request.key ⟨fingerprint, .deadline receipt⟩

theorem setDispatchDeadline_ok
    (applied : setDispatchDeadline sha256 request fingerprint before = .ok receipt after)
    : (∃ stored,
        before.idempotency.get? request.key = some ⟨fingerprint, .deadline stored⟩
        ∧ receipt = { stored with idempotent := true } ∧ after = before)
      ∨ ∃ dispatch id entries,
          DeadlineSet sha256 request fingerprint dispatch id entries receipt before after := by
  simp only [setDispatchDeadline, dispatchAt_bind_ok, ensure_bind_ok, get_bind_ok] at applied
  obtain ⟨dispatch, found, capability, applied⟩ := applied
  cases seen : before.idempotency.get? request.key with
  | some entry =>
    obtain ⟨storedFingerprint, stored⟩ := entry
    rw [seen] at applied
    cases stored <;> by_cases same : storedFingerprint = fingerprint <;>
      simp only [same, decide_true, decide_false, throw_ok, pure_ok] at applied
    obtain ⟨rfl, rfl⟩ := applied
    exact Or.inl ⟨_, by rw [same], rfl, rfl⟩
  | none =>
    rw [seen] at applied
    simp only [ensure_bind_ok] at applied
    obtain ⟨revision, unfinished, applied⟩ := applied
    simp only [bind_ok, nextRevision_ok, updateDispatch, modify_ok, rememberReceipt,
      pure_ok] at applied
    obtain ⟨_, _, ⟨⟨rfl, _⟩, rfl⟩, _, written, update, event, announced, message, _, _, rfl,
      rfl, rfl⟩ := applied
    obtain ⟨id, entries, posted, rfl⟩ := deadlineMessage_ok message
    have dispatches
        : written.dispatches
          = updateFirst (·.target == request.target) request.update before.dispatches := by
      rw [← update]
      refine updateFirst_congr (fun old isOld => ?_)
      obtain rfl : dispatch = old := by simpa [found] using isOld
      rfl
    subst update
    exact Or.inr ⟨dispatch, id, entries, {
      unseen := seen
      found
      capability
      revision
      unfinished
      dispatches_eq := posted.dispatches_eq.trans dispatches
      id_eq := posted.id_eq
      valid := posted.valid
      interactions_eq := posted.interactions_eq
      posted := posted.posted.congr ⟨rfl, rfl, rfl, rfl⟩ ⟨rfl, rfl, rfl, rfl⟩ rfl
      receipt_eq := rfl
      idempotency_eq := by rw [posted.idempotency_eq]
    }⟩

/-- The dispatch at `index` was overdue and its coordinator was told. -/
structure Expired (sha256 : String → String) (nowMs : Int) (index : Nat)
    (dispatch : DispatchRecord) (deadline : DispatchDeadline) (id : InteractionId)
    (entries : List DeliveryEntry) (before after : StoreState)
    : Prop where
  found : before.dispatches[index]? = some dispatch
  overdue : dispatch.overdue? nowMs = some deadline
  dispatches_eq
    : after.dispatches
      = before.dispatches.modify index (·.markOverdue before.nextCursor)
  id_eq : id.value = deadlineMessageId sha256 dispatch.target.authority before.nextCursor
  valid
    : (deadlineRecord id dispatch.target dispatch.coordinatorGrant "Dispatch overdue"
        (overdueDescription deadline.dueAtMs nowMs) nowMs).validate = .ok ()
  interactions_eq
    : after.interactions
      = before.interactions
        ++ [deadlineRecord id dispatch.target dispatch.coordinatorGrant "Dispatch overdue"
          (overdueDescription deadline.dueAtMs nowMs) nowMs]
  posted
    : (deadlinePosting id dispatch.target dispatch.coordinatorGrant nowMs).Posted sha256
        entries before after
  idempotency_eq : after.idempotency = before.idempotency

theorem DispatchRecord.markOverdue_sameContract (cursor : EventCursor)
    (dispatch : DispatchRecord)
    : dispatch.SameContract (dispatch.markOverdue cursor) :=
  ⟨rfl, rfl, rfl, rfl, rfl⟩

variable {announced index : Nat}

theorem StoreState.workerEndpoint_modify
    (updated : after.dispatches = before.dispatches.modify index update)
    (keeps : ∀ dispatch : DispatchRecord, dispatch.SameContract (update dispatch))
    (target : InteractionTarget)
    : after.workerEndpoint target = before.workerEndpoint target := by
  unfold StoreState.workerEndpoint
  rw [updated]
  exact find?_map_modify (fun dispatch => by rw [(keeps dispatch).target])
    (fun dispatch => (keeps dispatch).workerEndpoint) _ _

/-- One iteration skips its dispatch or announces it. -/
theorem expireDispatchDeadline_ok
    (applied : expireDispatchDeadline sha256 nowMs index before = .ok announced after)
    : (before = after ∧ ∀ dispatch, before.dispatches[index]? = some dispatch
        → dispatch.overdue? nowMs = none)
      ∨ ∃ dispatch deadline id entries,
          Expired sha256 nowMs index dispatch deadline id entries before after := by
  simp only [expireDispatchDeadline, get_bind_ok] at applied
  cases found : before.dispatches[index]? with
  | none =>
    simp only [found, pure_ok] at applied
    exact Or.inl ⟨applied.2, by simp⟩
  | some dispatch =>
    simp only [found] at applied
    cases overdue : dispatch.overdue? nowMs with
    | none =>
      simp only [overdue, pure_ok] at applied
      refine Or.inl ⟨applied.2, ?_⟩
      rintro _ ⟨⟩
      exact overdue
    | some deadline =>
      simp only [overdue, bind_ok, modify_ok, pure_ok] at applied
      obtain ⟨event, told, message, _, _, rfl, rfl, rfl⟩ := applied
      obtain ⟨id, entries, posted, rfl⟩ := deadlineMessage_ok message
      refine Or.inr ⟨dispatch, deadline, id, entries, {
        found
        overdue
        dispatches_eq := by rw [posted.dispatches_eq]; rfl
        id_eq := posted.id_eq
        valid := posted.valid
        interactions_eq := posted.interactions_eq
        posted := posted.posted.congr ⟨rfl, rfl, rfl, rfl⟩ ⟨rfl, rfl, rfl, rfl⟩ ?_
        idempotency_eq := posted.idempotency_eq
      }⟩
      exact StoreState.workerEndpoint_modify rfl
        (DispatchRecord.markOverdue_sameContract _) _

section Loop

variable {nowMs : Int} (property : Nat → StoreState → Prop)
  (skips
    : ∀ index state,
      (∀ dispatch, state.dispatches[index]? = some dispatch → dispatch.overdue? nowMs = none)
      → property index state → property (index + 1) state)
  (announces
    : ∀ index before after dispatch deadline id entries,
      Expired sha256 nowMs index dispatch deadline id entries before after
      → property index before → property (index + 1) after)

include skips announces

/-- The loop keeps a property of its index and the snapshot that every announcement
keeps. -/
theorem expireIndices_induction
    (applied : expireIndices sha256 nowMs (List.range' start length) before = .ok announced after)
    (holds : property start before)
    : property (start + length) after := by
  induction length generalizing start announced before with
  | zero =>
    obtain ⟨_, rfl⟩ := pure_ok.mp applied
    exact holds
  | succ length ih =>
    simp only [List.range', expireIndices, bind_ok, pure_ok] at applied
    obtain ⟨_, middle, first, _, _, later, rfl, rfl⟩ := applied
    have next : property (start + 1) middle := by
      rcases expireDispatchDeadline_ok first with ⟨rfl, timely⟩ | ⟨_, _, _, _, expired⟩
      · exact skips start _ timely holds
      · exact announces start _ _ _ _ _ _ expired holds
    have all := ih later next
    rwa [Nat.add_assoc, Nat.add_comm 1] at all

theorem expireDispatchDeadlines_induction
    (applied : expireDispatchDeadlines sha256 nowMs before = .ok announced after)
    (holds : property 0 before)
    : property before.dispatches.length after := by
  simp only [expireDispatchDeadlines, get_bind_ok, List.range_eq_range'] at applied
  have all := expireIndices_induction property skips announces applied holds
  rwa [Nat.zero_add] at all

end Loop

end Dure.Orchestration
