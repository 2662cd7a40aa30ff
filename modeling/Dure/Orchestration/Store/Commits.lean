import Dure.Orchestration.Store.Effects
import Dure.Orchestration.Store.Transitions

/-! Inversion of the transitions that commit a receipt: a success is either the replay of a
stored receipt, which changes nothing, or a fresh commit whose whole effect is stated here.
-/

namespace Dure.Orchestration

open Library Update

variable {target : InteractionTarget} {dispatch : DispatchRecord}
  {before after state : StoreState} {request : OpenInteractionRequest}
  {context : DispatchContextReceipt} {fingerprint : String} {α : Type}

theorem StoreState.dispatchAt_ok
    : state.dispatchAt target = .ok dispatch
      ↔ state.dispatches.find? (·.target == target) = some dispatch := by
  unfold StoreState.dispatchAt
  cases state.dispatches.find? (·.target == target) with
  | some found => simp
  | none =>
    simp only [reduceCtorEq, iff_false]
    split <;> simp

theorem dispatchAt_ok
    : dispatchAt target before = .ok dispatch after
      ↔ before.dispatches.find? (·.target == target) = some dispatch ∧ before = after := by
  simp only [dispatchAt, bind_ok, get_ok, check_ok, StoreState.dispatchAt_ok]
  constructor
  · rintro ⟨_, _, ⟨rfl, rfl⟩, found, rfl⟩
    exact ⟨found, rfl⟩
  · rintro ⟨found, rfl⟩
    exact ⟨before, before, ⟨rfl, rfl⟩, found, rfl⟩

theorem dispatchAt_bind_ok
    : (dispatchAt target >>= rest) before = .ok result after
      ↔ ∃ dispatch, before.dispatches.find? (·.target == target) = some dispatch
        ∧ rest dispatch before = .ok result after := by
  simp only [bind_ok, dispatchAt_ok]
  constructor
  · rintro ⟨dispatch, _, ⟨found, rfl⟩, rest⟩
    exact ⟨dispatch, found, rest⟩
  · rintro ⟨dispatch, found, rest⟩
    exact ⟨dispatch, before, ⟨found, rfl⟩, rest⟩

theorem dispatchAt_bind_found
    (found : state.dispatches.find? (·.target == target) = some dispatch)
    (rest : DispatchRecord → StoreM α)
    : (dispatchAt target >>= rest) state = rest dispatch state := by
  change (check (state.dispatchAt target) id >>= rest) state = rest dispatch state
  rw [StoreState.dispatchAt_ok.mpr found]
  rfl

theorem nextRevision_ok
    : nextRevision revision before = .ok next after
      ↔ (next = revision + 1 ∧ revision + 1 < u64Size) ∧ before = after := by
  simp only [nextRevision, orElseThrow_ok, Revision.checkedNext, checkedAddOne_some]

/-- The fields of a dispatch that no transition changes after it was created. -/
structure DispatchRecord.SameContract (before after : DispatchRecord) : Prop where
  target : after.target = before.target
  coordinatorGrant : after.coordinatorGrant = before.coordinatorGrant
  interactionCapability : after.interactionCapability = before.interactionCapability
  completionCapability : after.completionCapability = before.completionCapability
  workerEndpoint : after.workerEndpoint = before.workerEndpoint

/-- Writing to a dispatch and then revising it is one write. -/
theorem reviseDispatch_ok
    (applied : reviseDispatch target dispatch update before = .ok () after)
    (found : before.dispatches.find? (·.target == target) = some dispatch)
    (keeps : ∀ record, (update record).target = record.target)
    : after = { before with
        dispatches :=
          updateFirst (·.target == target)
            (fun record => { update record with revision := record.revision + 1 })
            before.dispatches } := by
  simp only [reviseDispatch, updateDispatch, bind_ok, modify_ok, nextRevision_ok] at applied
  obtain ⟨_, _, rfl, _, _, ⟨⟨rfl, _⟩, rfl⟩, rfl⟩ := applied
  congr 1
  dsimp only
  rw [updateFirst_updateFirst (fun record => by rw [keeps])]
  refine updateFirst_congr (fun old isOld => ?_)
  obtain rfl : dispatch = old := by simpa [found] using isOld
  rfl

theorem StoreState.workerEndpoint_updateFirst
    (updated : after.dispatches = updateFirst (·.target == target) update before.dispatches)
    (keeps : ∀ dispatch : DispatchRecord, dispatch.SameContract (update dispatch))
    (other : InteractionTarget)
    : after.workerEndpoint other = before.workerEndpoint other := by
  unfold StoreState.workerEndpoint
  rw [updated]
  exact find?_map_updateFirst (fun dispatch => by rw [(keeps dispatch).target])
    (fun dispatch => (keeps dispatch).workerEndpoint) _

abbrev CreateRunRequest.key (request : CreateRunRequest) : String :=
  authorityOperationKey "create_run" request.authority request.idempotencyKey

def CreateRunRequest.posting (request : CreateRunRequest) (context : DispatchContextReceipt)
    : Posting :=
  {
    target := context.target
    actor := context.coordinatorGrant.participant
    recordedAtMs := request.createdAtMs
    kind := .runCreated request.workflowKindRef
    silent := none
    grants := [context.coordinatorGrant]
  }

section

variable (sha256 : String → String)

/-- A run was created: its dispatch is new and its session serves no other open dispatch. -/
structure Created (request : CreateRunRequest) (context : DispatchContextReceipt)
    (fingerprint : String) (entries : List DeliveryEntry) (receipt : CreateRunReceipt)
    (before after : StoreState)
    : Prop where
  unseen : before.idempotency.get? request.key = none
  absent : ∀ dispatch ∈ before.dispatches, dispatch.target ≠ context.target
  session_free
    : ∀ dispatch ∈ before.dispatches, dispatch.state ≠ .completed
      → dispatch.workerEndpoint.sessionIdentity ≠ context.endpointFence.sessionIdentity
  valid : context.dispatch.validate = .ok ()
  dispatches_eq : after.dispatches = before.dispatches ++ [context.dispatch]
  interactions_eq : after.interactions = before.interactions
  posted : (request.posting context).Posted sha256 entries before after
  receipt_eq
    : receipt =
        {
          context
          event := (request.posting context).event before.nextCursor
          deliveries := entries.map DeliveryEntry.receipt
          idempotent := false
        }
  idempotency_eq
    : after.idempotency
      = before.idempotency.insert request.key ⟨fingerprint, .create receipt⟩

/-- The receipt a repeated creation returns. -/
def StoreState.replayCreate (state : StoreState) (stored : CreateRunReceipt)
    : CreateRunReceipt :=
  { stored with
    context := state.canonicalizeContext stored.context
    deliveries := state.canonicalizeDeliveries stored.deliveries
    idempotent := true }

end

theorem checkNewRun_ok (applied : checkNewRun context before = .ok () after)
    : (∀ dispatch ∈ before.dispatches, dispatch.target ≠ context.target)
      ∧ (∀ dispatch ∈ before.dispatches, dispatch.state ≠ .completed
        → dispatch.workerEndpoint.sessionIdentity ≠ context.endpointFence.sessionIdentity)
      ∧ context.dispatch.validate = .ok ()
      ∧ before = after := by
  simp only [checkNewRun, bind_ok, get_ok, ensure_ok, check_ok] at applied
  obtain ⟨_, _, ⟨rfl, rfl⟩, _, _, ⟨absent, rfl⟩, _, _, ⟨free, rfl⟩, valid, rfl⟩ := applied
  exact ⟨by simpa using absent, by simpa using free, valid, rfl⟩

/-- The coordinator is queued as a member and the worker at the dispatch's endpoint. -/
theorem announceRun_ok {sha256 : String → String} {request : CreateRunRequest}
    (applied : announceRun sha256 request context before = .ok result after)
    : ∃ entries,
        (request.posting context).Announced sha256 entries before after
        ∧ result
          = ((request.posting context).event before.nextCursor,
            entries.map DeliveryEntry.receipt) := by
  simp only [announceRun, bind_ok, orElseThrow_ok, pure_ok] at applied
  obtain ⟨event, _, appended, coordinator, _, queued, worker, _, queuedWorker, delivery, _,
    ⟨present, rfl⟩, rfl, rfl⟩ := applied
  obtain ⟨rfl, rfl⟩ := appendEvent_ok appended
  obtain ⟨first, firstQueued, firstReceipt, one⟩ :=
    @queueDelivery_ok _ _ _ _ (.member context.coordinatorGrant.participant
      context.coordinatorGrant.deliveryCapability) _ _ queued
  obtain ⟨rest, restQueued, restReceipts, more⟩ := queueWorkerDelivery_ok queuedWorker
  have reached := one.after_eq ▸ restQueued
  obtain ⟨rfl, unique⟩ := one.trans more
  refine ⟨[first] ++ rest, ?_, by simp [firstReceipt, ← restReceipts, present]; rfl⟩
  exact {
    events_eq := rfl
    nextCursor_eq := rfl
    deliveries_eq := rfl
    queued := by
      intro entry member
      rcases List.mem_append.mp member with isFirst | isRest
      · rw [List.mem_singleton.mp isFirst]
        exact ⟨.member _ _, ⟨_, List.mem_singleton_self _, rfl, rfl⟩, firstQueued⟩
      · obtain ⟨endpoint, found, isQueued⟩ := reached entry isRest
        exact ⟨.worker endpoint, found, isQueued⟩
    unique
    acknowledgements_eq := rfl
    dispatches_eq := rfl
    interactions_eq := rfl
    idempotency_eq := rfl
  }

theorem createRun_ok {sha256 : String → String} {request : CreateRunRequest}
    (applied : createRun sha256 request context fingerprint before = .ok receipt after)
    : (∃ stored,
        before.idempotency.get? request.key = some ⟨fingerprint, .create stored⟩
        ∧ receipt = before.replayCreate stored ∧ after = before)
      ∨ ∃ entries,
          Created sha256 request context fingerprint entries receipt before after := by
  simp only [createRun, bind_ok, get_ok] at applied
  obtain ⟨_, _, ⟨rfl, rfl⟩, applied⟩ := applied
  cases seen : before.idempotency.get? request.key with
  | some entry =>
    obtain ⟨storedFingerprint, stored⟩ := entry
    rw [seen] at applied
    cases stored <;> by_cases same : storedFingerprint = fingerprint <;>
      simp only [same, decide_true, decide_false, throw_ok, pure_ok] at applied
    obtain ⟨rfl, rfl⟩ := applied
    exact Or.inl ⟨_, by rw [same], rfl, rfl⟩
  | none =>
    rw [seen] at applied
    simp only [bind_ok, modify_ok, pure_ok, rememberReceipt] at applied
    obtain ⟨_, _, checked, _, _, rfl, result, announced, announces, _, _, rfl, rfl, rfl⟩ :=
      applied
    obtain ⟨absent, free, valid, rfl⟩ := checkNewRun_ok checked
    obtain ⟨entries, posted, rfl⟩ := announceRun_ok announces
    exact Or.inr ⟨entries, {
      unseen := seen
      absent
      session_free := free
      valid
      dispatches_eq := posted.dispatches_eq
      interactions_eq := posted.interactions_eq
      posted := posted.congr ⟨rfl, rfl, rfl, rfl⟩ ⟨rfl, rfl, rfl, rfl⟩ rfl
      receipt_eq := rfl
      idempotency_eq := by rw [posted.idempotency_eq]
    }⟩

namespace OpenInteractionRequest

abbrev key (request : OpenInteractionRequest) : String :=
  scopedOperationKey "open" request.target request.idempotencyKey

abbrev record (request : OpenInteractionRequest) : InteractionRecord :=
  request.interaction.intoRecord request.openedAtMs

/-- What the dispatch must satisfy for the draft to be opened. -/
def Allowed (request : OpenInteractionRequest) (dispatch : DispatchRecord) : Prop :=
  match request.interaction with
  | .message _ purpose => purpose ≠ .completionReport
  | .decision _ _ _ => dispatch.state = .active

/-- A decision blocks its dispatch, a message leaves it alone. -/
def update (request : OpenInteractionRequest) (dispatch : DispatchRecord)
    : DispatchRecord :=
  match request.interaction with
  | .message _ _ => dispatch
  | .decision common _ _ =>
    { dispatch with
      state := .blocked
      blockedBy := some common.id
      revision := dispatch.revision + 1 }

/-- The event recorded after the opening. -/
def blocking (request : OpenInteractionRequest) : Option EventKind :=
  match request.interaction with
  | .message _ _ => none
  | .decision common _ _ => some (.dispatchBlocked common.id)

def posting (request : OpenInteractionRequest) : Posting :=
  {
    target := request.target
    actor := request.interaction.common.author
    recordedAtMs := request.openedAtMs
    kind := .interactionOpened request.interaction.common.id
    silent := request.blocking
    grants := request.interaction.common.audience.grants
  }

theorem update_sameContract (request : OpenInteractionRequest) (dispatch : DispatchRecord)
    : dispatch.SameContract (request.update dispatch) := by
  unfold update
  split <;> exact ⟨rfl, rfl, rfl, rfl, rfl⟩

theorem record_common (request : OpenInteractionRequest)
    : request.record.common = request.interaction.common.intoRecord request.openedAtMs := by
  unfold record
  cases request.interaction <;> rfl

end OpenInteractionRequest

/-- An interaction was opened on the exact dispatch under an unused id. -/
structure Opened (sha256 : String → String) (request : OpenInteractionRequest)
    (fingerprint : String) (dispatch : DispatchRecord) (entries : List DeliveryEntry)
    (receipt : OpenInteractionReceipt) (before after : StoreState)
    : Prop where
  unseen : before.idempotency.get? request.key = none
  found : before.dispatches.find? (·.target == request.target) = some dispatch
  revision : dispatch.revision = request.expectedDispatchRevision
  capability : dispatch.interactionCapability = request.writeCapability
  unused
    : before.interactionIdExists request.target.authority request.interaction.common.id
      = false
  allowed : request.Allowed dispatch
  valid : request.record.validate = .ok ()
  dispatches_eq
    : after.dispatches
      = updateFirst (·.target == request.target) request.update before.dispatches
  interactions_eq : after.interactions = before.interactions ++ [request.record]
  posted : request.posting.Posted sha256 entries before after
  receipt_eq
    : receipt =
        {
          interaction := request.record
          dispatchState := (request.update dispatch).state
          events := request.posting.events before.nextCursor
          deliveries := entries.map DeliveryEntry.receipt
          idempotent := false
        }
  idempotency_eq
    : after.idempotency = before.idempotency.insert request.key ⟨fingerprint, .open receipt⟩

def StoreState.replayOpen (state : StoreState) (stored : OpenInteractionReceipt)
    : OpenInteractionReceipt :=
  { stored with
    deliveries := state.canonicalizeDeliveries stored.deliveries
    idempotent := true }

theorem openedRecord_ok (applied : openedRecord request dispatch before = .ok result after)
    : request.Allowed dispatch ∧ result = (request.record, request.blocking.isSome)
      ∧ before = after := by
  unfold openedRecord at applied
  unfold OpenInteractionRequest.Allowed OpenInteractionRequest.blocking
  cases draft : request.interaction with
  | message common purpose | decision common response replyCapability =>
    simp only [draft, bind_ok, ensure_ok, pure_ok] at applied
    obtain ⟨_, _, ⟨allowed, rfl⟩, rfl, rfl⟩ := applied
    exact ⟨allowed, by rw [OpenInteractionRequest.record, draft]; rfl, rfl⟩

theorem checkOpen_ok (applied : checkOpen request before = .ok result after)
    : before.dispatches.find? (·.target == request.target) = some result.1
      ∧ result.1.revision = request.expectedDispatchRevision
      ∧ result.1.interactionCapability = request.writeCapability
      ∧ before.interactionIdExists request.target.authority request.interaction.common.id
        = false
      ∧ request.Allowed result.1
      ∧ request.record.validate = .ok ()
      ∧ result.2 = (request.record, request.blocking.isSome)
      ∧ before = after := by
  simp only [checkOpen, bind_ok, dispatchAt_ok, get_ok, ensure_ok, check_ok, pure_ok] at applied
  obtain ⟨dispatch, _, ⟨found, rfl⟩, _, _, ⟨revision, rfl⟩, _, _, ⟨capability, rfl⟩, _, _,
    ⟨rfl, rfl⟩, _, _, ⟨unused, rfl⟩, _, _, opened, _, _, ⟨valid, rfl⟩, rfl, rfl⟩ := applied
  obtain ⟨allowed, rfl, rfl⟩ := openedRecord_ok opened
  exact ⟨found, revision, capability, by simpa using unused, allowed, valid, rfl, rfl⟩

/-- The dispatch after the draft was opened, and the event recorded when it blocks. -/
theorem blockDispatch_ok
    (applied
      : blockDispatch request dispatch request.record request.blocking.isSome before
      = .ok events after)
    (found : before.dispatches.find? (·.target == request.target) = some dispatch)
    : events
        = request.blocking.toList.map (fun kind =>
          { request.posting.event before.nextCursor with kind })
      ∧ after = { before with
          nextCursor := before.nextCursor + events.length
          events := before.events ++ events
          dispatches :=
            updateFirst (·.target == request.target) request.update before.dispatches } := by
  unfold blockDispatch at applied
  rw [OpenInteractionRequest.record_common] at applied
  unfold OpenInteractionRequest.posting OpenInteractionRequest.update Posting.event
    OpenInteractionRequest.blocking
  unfold OpenInteractionRequest.blocking at applied
  cases draft : request.interaction with
  | message common purpose =>
    simp only [draft, Option.isSome_none, Bool.false_eq_true, if_false, pure_ok] at applied
    obtain ⟨rfl, rfl⟩ := applied
    exact ⟨rfl, by simp [← Function.id_def, updateFirst_id]⟩
  | decision common response replyCapability =>
    simp only [draft, Option.isSome_some, if_true, bind_ok, pure_ok] at applied
    obtain ⟨_, _, revised, event, _, appended, rfl, rfl⟩ := applied
    have written := reviseDispatch_ok revised found (fun _ => rfl)
    subst written
    obtain ⟨rfl, rfl⟩ := appendEvent_ok appended
    exact ⟨rfl, rfl⟩

theorem openInteraction_ok
    (applied : openInteraction sha256 request fingerprint before = .ok receipt after)
    : (∃ stored,
        before.idempotency.get? request.key = some ⟨fingerprint, .open stored⟩
        ∧ receipt = before.replayOpen stored ∧ after = before)
      ∨ ∃ dispatch entries,
          Opened sha256 request fingerprint dispatch entries receipt before after := by
  simp only [openInteraction, bind_ok, get_ok] at applied
  obtain ⟨_, _, ⟨rfl, rfl⟩, applied⟩ := applied
  cases seen : before.idempotency.get? request.key with
  | some entry =>
    obtain ⟨storedFingerprint, stored⟩ := entry
    rw [seen] at applied
    cases stored <;> by_cases same : storedFingerprint = fingerprint <;>
      simp only [same, decide_true, decide_false, throw_ok, pure_ok] at applied
    obtain ⟨rfl, rfl⟩ := applied
    exact Or.inl ⟨_, by rw [same], rfl, rfl⟩
  | none =>
    rw [seen] at applied
    simp only [bind_ok, modify_ok, pure_ok, rememberReceipt, pushInteraction,
      dispatchAt_ok] at applied
    obtain ⟨⟨dispatch, record, blocks⟩, _, checked, openedEvent, _, appended, receipts,
      announced, queued, blockedEvents, _, blocked, _, _, rfl, current, _,
      ⟨currentFound, rfl⟩, _, _, rfl, rfl, rfl⟩ := applied
    obtain ⟨found, revision, capability, unused, allowed, valid, parts, rfl⟩ :=
      checkOpen_ok checked
    obtain ⟨rfl, rfl⟩ := Prod.mk.inj parts
    obtain ⟨entries, posted, rfl, rfl⟩ := Posting.announced_audience appended queued
    obtain ⟨rfl, rfl⟩ := blockDispatch_ok blocked (posted.dispatches_eq ▸ found)
    have updated : request.update dispatch = current := by
      have search := @find?_updateFirst _ (·.target == request.target) request.update
        (fun record => by rw [(request.update_sameContract record).target])
        announced.dispatches
      rw [posted.dispatches_eq, found] at search
      exact Option.some.inj (search.symm.trans (posted.dispatches_eq ▸ currentFound))
    subst updated
    have next : announced.nextCursor = before.nextCursor + 1 := posted.nextCursor_eq
    refine Or.inr ⟨dispatch, entries, {
      unseen := seen
      found
      revision
      capability
      unused
      allowed
      valid
      dispatches_eq := by rw [posted.dispatches_eq]
      interactions_eq := by rw [posted.interactions_eq]
      posted := ?_
      receipt_eq := ?_
      idempotency_eq := by rw [posted.idempotency_eq]
    }⟩
    · exact {
        events_eq := by
          simp [posted.events_eq, Posting.events, OpenInteractionRequest.posting,
            Posting.event, OpenInteractionRequest.record_common,
            InteractionDraftCommon.intoRecord, next]
        nextCursor_eq := by
          simp only [next, Posting.events, OpenInteractionRequest.posting, List.length_cons,
            List.length_map]
          omega
        deliveries_eq := posted.deliveries_eq
        queued := by
          intro entry member
          obtain ⟨addressee, reached, isQueued⟩ := posted.queued entry member
          rw [OpenInteractionRequest.record_common] at reached
          exact ⟨addressee, reached.congr (StoreState.workerEndpoint_updateFirst rfl
            request.update_sameContract _), isQueued⟩
        unique := posted.unique
        acknowledgements_eq := posted.acknowledgements_eq
      }
    · simp [Posting.events, OpenInteractionRequest.posting, Posting.event, next,
        OpenInteractionRequest.record_common, InteractionDraftCommon.intoRecord]

end Dure.Orchestration
