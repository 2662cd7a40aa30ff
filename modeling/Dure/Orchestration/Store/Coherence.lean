import Dure.Orchestration.Store.History

/-! The collections of a reachable store fit together: cursors increase, every event and
interaction belongs to a dispatch, and every delivery belongs to an event and was addressed
to a member or to the worker of the event's dispatch.
-/

namespace Dure.Orchestration

open Library Check DispatchRecord

def StoreState.targets (state : StoreState) : List InteractionTarget :=
  state.dispatches.map DispatchRecord.target

/-- The delivery carries no endpoint, or the endpoint and capabilities of the worker. -/
def DeliveryEntry.AddressedIn (delivery : DeliveryEntry) (state : StoreState)
    (target : InteractionTarget)
    : Prop :=
  (delivery.receipt.endpoint = none ∧ delivery.wakeCapability = none)
  ∨ ∃ endpoint, state.workerEndpoint target = some endpoint
      ∧ endpoint.participant = delivery.receipt.participant
      ∧ endpoint.deliveryCapability = delivery.deliveryCapability
      ∧ delivery.receipt.endpoint = some (deliveryEndpointReceipt endpoint)
      ∧ endpoint.wakeCapability = delivery.wakeCapability

/-- The delivery belongs to `event` and its receipt id is derived from it. -/
structure DeliveryEntry.BelongsTo (sha256 : String → String) (delivery : DeliveryEntry)
    (event : Event) (state : StoreState)
    : Prop where
  cursor_eq : event.cursor = delivery.receipt.eventCursor
  identity
    : receiptId sha256 delivery.receipt.eventCursor delivery.receipt.participant
      = .ok delivery.receipt.receiptId
  addressed : delivery.AddressedIn state event.target

structure StoreState.Coherent (sha256 : String → String) (state : StoreState) : Prop where
  targets_unique : state.targets.Nodup
  cursors_increase : (state.events.map Event.cursor).Pairwise (· < ·)
  cursors_below : ∀ event ∈ state.events, event.cursor < state.nextCursor
  cursors_positive : ∀ event ∈ state.events, 0 < event.cursor
  next_positive : 0 < state.nextCursor
  events_placed : ∀ event ∈ state.events, event.target ∈ state.targets
  interactions_placed
    : ∀ interaction ∈ state.interactions, interaction.common.target ∈ state.targets
  receipts_unique : state.receiptIds.Nodup
  deliveries_placed
    : ∀ delivery ∈ state.deliveries, ∃ event ∈ state.events,
        delivery.BelongsTo sha256 event state

variable {state : StoreState} {event : Event} {entries : List DeliveryEntry}
  {update : DispatchRecord → DispatchRecord} {target : InteractionTarget} {posting : Posting}
  {dispatches : List DispatchRecord} {cursor : EventCursor} {delivery : DeliveryEntry}

theorem StoreState.eventAt_some (found : state.eventAt cursor = some event)
    : event ∈ state.events ∧ event.cursor = cursor := by
  refine ⟨List.mem_of_find?_eq_some found, ?_⟩
  simpa using List.find?_some found

/-- An event is found at its own cursor. -/
theorem StoreState.Coherent.eventAt_mem (coherent : state.Coherent sha256)
    (member : event ∈ state.events)
    : state.eventAt event.cursor = some event := by
  exact find?_of_nodup (coherent.cursors_increase.imp (fun below => below.ne)) member

theorem StoreState.Extends.eventAt {before after : StoreState}
    (extends_ : before.Extends after) (found : before.eventAt cursor = some event)
    : after.eventAt cursor = some event := by
  obtain ⟨new, joined⟩ := extends_.events
  unfold StoreState.eventAt at found ⊢
  rw [← joined, List.find?_append, found]
  rfl

theorem StoreState.Extends.workerEndpoint {before after : StoreState}
    (extends_ : before.Extends after) (found : before.workerEndpoint target = some endpoint)
    : after.workerEndpoint target = some endpoint := by
  unfold StoreState.workerEndpoint at found ⊢
  obtain ⟨dispatch, isFound, rfl⟩ := Option.map_eq_some_iff.mp found
  obtain ⟨successor, foundNext, continues⟩ :=
    extends_.dispatches.find? (fun continues => by rw [continues.target]) isFound
  rw [foundNext, Option.map_some, continues.workerEndpoint]

theorem find?_target_mem (found : state.dispatches.find? (·.target == target) = some dispatch)
    : target ∈ state.targets := by
  have same : dispatch.target = target := by simpa using List.find?_some found
  exact same ▸ List.mem_map_of_mem (List.mem_of_find?_eq_some found)

theorem StoreState.targets_updateFirst {before after : StoreState}
    (updated : after.dispatches = updateFirst (·.target == target) update before.dispatches)
    (keeps : ∀ dispatch : DispatchRecord, dispatch.SameContract (update dispatch))
    : after.targets = before.targets := by
  unfold StoreState.targets
  rw [updated]
  exact map_updateFirst _ (fun dispatch _ => (keeps dispatch).target)

theorem StoreState.targets_modify {before after : StoreState}
    (updated : after.dispatches = before.dispatches.modify index update)
    (keeps : ∀ dispatch : DispatchRecord, dispatch.SameContract (update dispatch))
    : after.targets = before.targets := by
  unfold StoreState.targets
  rw [updated]
  exact map_modify _ (fun dispatch => (keeps dispatch).target) _ _

theorem DeliveryEntry.BelongsTo.continues {sha256 : String → String}
    (belongs : delivery.BelongsTo sha256 event before) (extends_ : before.Extends after)
    (same : delivery.SameAddress successor)
    : successor.BelongsTo sha256 event after where
  cursor_eq := same.eventCursor ▸ belongs.cursor_eq
  identity := by
    rw [same.eventCursor, same.participant, same.receiptId]
    exact belongs.identity
  addressed := by
    rcases belongs.addressed with plain | ⟨endpoint, found, worker⟩
    · exact Or.inl (by rw [same.endpoint, same.wakeCapability]; exact plain)
    · refine Or.inr ⟨endpoint, extends_.workerEndpoint found, ?_⟩
      rw [same.participant, same.deliveryCapability, same.endpoint, same.wakeCapability]
      exact worker

/-- A queued delivery belongs to the event it was queued for. -/
theorem Addressee.Queued.belongsTo (queued : addressee.Queued sha256 event.cursor delivery)
    (reached : state.Reaches event.target grants addressee)
    : delivery.BelongsTo sha256 event state := by
  obtain ⟨id, made, rfl⟩ := queued
  refine ⟨rfl, made, ?_⟩
  cases addressee with
  | member participant capability => exact Or.inl ⟨rfl, rfl⟩
  | worker endpoint => exact Or.inr ⟨endpoint, reached, rfl, rfl, rfl, rfl⟩

/-- The new cursors come after the old ones. -/
theorem Posting.Posted.cursors_increase (posted : posting.Posted sha256 entries before after)
    (increase : (before.events.map Event.cursor).Pairwise (· < ·))
    (below : ∀ event ∈ before.events, event.cursor < before.nextCursor)
    : (after.events.map Event.cursor).Pairwise (· < ·) := by
  rw [posted.events_eq, List.map_append, posting.cursors_events]
  refine List.pairwise_append.mpr ⟨increase, List.pairwise_lt_range', ?_⟩
  intro old isOld new isNew
  obtain ⟨event, member, rfl⟩ := List.mem_map.mp isOld
  exact (below event member).trans_le (List.mem_range'_1.mp isNew).1

theorem Posting.mem_events_cursor (member : event ∈ posting.events cursor)
    : cursor ≤ event.cursor ∧ event.cursor < cursor + (posting.events cursor).length := by
  have inRange : event.cursor ∈ List.range' cursor (posting.events cursor).length :=
    posting.cursors_events cursor ▸ List.mem_map_of_mem member
  exact List.mem_range'_1.mp inRange

section

variable {sha256 : String → String} {before after : StoreState}
  (coherent : before.Coherent sha256)
include coherent

/-- Posting keeps the store coherent when its target is a dispatch and the new interactions
have one. -/
theorem StoreState.Coherent.post (posted : posting.Posted sha256 entries before after)
    (extends_ : before.Extends after) (unique : after.targets.Nodup)
    (kept : before.targets ⊆ after.targets) (here : posting.target ∈ after.targets)
    (interactions
      : ∀ interaction ∈ after.interactions,
          (∃ old ∈ before.interactions, interaction.common.target = old.common.target)
          ∨ interaction.common.target = posting.target)
    : after.Coherent sha256 where
  targets_unique := unique
  cursors_increase := posted.cursors_increase coherent.cursors_increase coherent.cursors_below
  cursors_below := by
    intro event member
    rw [posted.nextCursor_eq]
    rw [posted.events_eq] at member
    rcases List.mem_append.mp member with old | new
    · exact (coherent.cursors_below event old).trans_le (Nat.le_add_right _ _)
    · exact (Posting.mem_events_cursor new).2
  cursors_positive := by
    intro event member
    rw [posted.events_eq] at member
    rcases List.mem_append.mp member with old | new
    · exact coherent.cursors_positive event old
    · exact coherent.next_positive.trans_le (Posting.mem_events_cursor new).1
  next_positive := coherent.next_positive.trans_le extends_.nextCursor
  events_placed := by
    intro event member
    rw [posted.events_eq] at member
    rcases List.mem_append.mp member with old | new
    · exact kept (coherent.events_placed event old)
    · rw [(Posting.mem_events new).1]
      exact here
  interactions_placed := by
    intro interaction member
    rcases interactions interaction member with ⟨old, isOld, same⟩ | same
    · rw [same]
      exact kept (coherent.interactions_placed old isOld)
    · rw [same]
      exact here
  receipts_unique := posted.unique coherent.receipts_unique
  deliveries_placed := by
    intro delivery member
    rw [posted.deliveries_eq] at member
    rcases List.mem_append.mp member with old | new
    · obtain ⟨event, isEvent, belongs⟩ := coherent.deliveries_placed delivery old
      exact ⟨event, extends_.events.subset isEvent,
        belongs.continues extends_ ⟨rfl, rfl, rfl, rfl, rfl, rfl⟩⟩
    · obtain ⟨addressee, reached, queued⟩ := posted.queued delivery new
      refine ⟨posting.event before.nextCursor, ?_,
        Addressee.Queued.belongsTo queued reached⟩
      rw [posted.events_eq]
      exact List.mem_append_right _ List.mem_cons_self

/-- The deliveries may be rewritten in place as long as each keeps its address. -/
theorem StoreState.Coherent.rewrite (extends_ : before.Extends after)
    (same
      : after.dispatches = before.dispatches ∧ after.interactions = before.interactions
        ∧ after.events = before.events ∧ after.nextCursor = before.nextCursor)
    (deliveries : List.Forall₂ DeliveryEntry.SameAddress before.deliveries after.deliveries)
    : after.Coherent sha256 := by
  obtain ⟨dispatches, interactions, events, nextCursor⟩ := same
  have targets : after.targets = before.targets := by
    rw [StoreState.targets, dispatches, StoreState.targets]
  have receiptIds : after.receiptIds = before.receiptIds := by
    have related := deliveries
    unfold StoreState.receiptIds
    revert related
    generalize before.deliveries = old
    generalize after.deliveries = new
    intro related
    induction related with
    | nil => rfl
    | cons here _ ih => simp [here.receiptId, ih]
  constructor
  · exact targets ▸ coherent.targets_unique
  · exact events ▸ coherent.cursors_increase
  · rw [events, nextCursor]
    exact coherent.cursors_below
  · exact events ▸ coherent.cursors_positive
  · exact nextCursor ▸ coherent.next_positive
  · rw [events, targets]
    exact coherent.events_placed
  · rw [interactions, targets]
    exact coherent.interactions_placed
  · exact receiptIds ▸ coherent.receipts_unique
  · intro delivery member
    obtain ⟨old, isOld, same⟩ := forall₂_mem_right deliveries member
    obtain ⟨event, isEvent, belongs⟩ := coherent.deliveries_placed old isOld
    exact ⟨event, events ▸ isEvent, belongs.continues extends_ same⟩

end

section Steps

variable {sha256 : String → String} {before after : StoreState}
  (held : before.Coherent sha256)
include held

theorem Created.coherent
    (effect : Created sha256 request context fingerprint entries receipt before after)
    : after.Coherent sha256 := by
  have targets : after.targets = before.targets ++ [context.target] := by
    simp [StoreState.targets, effect.dispatches_eq, DispatchContextReceipt.dispatch]
  refine held.post effect.posted effect.extends ?_ ?_ ?_ ?_
  · rw [targets]
    refine List.nodup_append.mpr ⟨held.targets_unique, by simp, ?_⟩
    intro old isOld new isNew
    obtain ⟨dispatch, member, rfl⟩ := List.mem_map.mp isOld
    rw [List.mem_singleton.mp isNew]
    exact effect.absent dispatch member
  · rw [targets]
    exact List.subset_append_left _ _
  · rw [targets]
    exact List.mem_append_right _ (List.mem_singleton_self _)
  · intro interaction member
    rw [effect.interactions_eq] at member
    exact Or.inl ⟨interaction, member, rfl⟩

/-- A step that updates dispatches in place and adds an interaction of its own target. -/
theorem StoreState.Coherent.postInteraction
    (posted : posting.Posted sha256 entries before after) (extends_ : before.Extends after)
    (targets : after.targets = before.targets) (here : posting.target ∈ before.targets)
    (interactions : after.interactions = before.interactions ++ [record])
    (target : record.common.target = posting.target)
    : after.Coherent sha256 := by
  refine held.post posted extends_ (targets ▸ held.targets_unique)
    (targets ▸ List.Subset.refl _) (targets ▸ here) ?_
  intro interaction member
  rw [interactions] at member
  rcases List.mem_append.mp member with old | new
  · exact Or.inl ⟨interaction, old, rfl⟩
  · rw [List.mem_singleton.mp new]
    exact Or.inr target

theorem Opened.coherent
    (effect : Opened sha256 request fingerprint dispatch entries receipt before after)
    : after.Coherent sha256 :=
  held.postInteraction effect.posted effect.extends
    (StoreState.targets_updateFirst effect.dispatches_eq request.update_sameContract)
    (find?_target_mem effect.found) effect.interactions_eq
    (by rw [OpenInteractionRequest.record_common]; rfl)

theorem Answered.coherent (effect
      : Answered sha256 request fingerprint common response replyCapability dispatch entries
          receipt before after)
    : after.Coherent sha256 := by
  have targets :=
    StoreState.targets_updateFirst effect.dispatches_eq unblock_sameContract
  refine held.post effect.posted effect.extends (targets ▸ held.targets_unique)
    (targets ▸ List.Subset.refl _) (targets ▸ find?_target_mem effect.found) ?_
  intro interaction member
  rw [effect.interactions_eq] at member
  rcases mem_updateFirst member with old | ⟨old, _, rfl⟩
  · exact Or.inl ⟨interaction, old, rfl⟩
  · exact Or.inr effect.target_eq

theorem Completed.coherent
    (effect : Completed sha256 request fingerprint dispatch entries receipt before after)
    : after.Coherent sha256 :=
  held.postInteraction effect.posted effect.extends
    (StoreState.targets_updateFirst effect.dispatches_eq finish_sameContract)
    (find?_target_mem effect.found) effect.interactions_eq rfl

theorem DeadlineSet.coherent {id} (effect
      : DeadlineSet sha256 request fingerprint dispatch id entries receipt before after)
    : after.Coherent sha256 :=
  held.postInteraction effect.posted effect.extends
    (StoreState.targets_updateFirst effect.dispatches_eq request.update_sameContract)
    (find?_target_mem effect.found) effect.interactions_eq rfl

theorem Expired.coherent {nowMs index dispatch deadline id entries}
    (effect : Expired sha256 nowMs index dispatch deadline id entries before after)
    : after.Coherent sha256 :=
  held.postInteraction effect.posted effect.extends
    (StoreState.targets_modify effect.dispatches_eq
      (markOverdue_sameContract _))
    (List.mem_map_of_mem (List.mem_of_getElem? effect.found)) effect.interactions_eq rfl

theorem Woken.coherent (effect : Woken request delivery replacement before after)
    : after.Coherent sha256 := by
  refine held.rewrite effect.extends ?_ ?_
  · rw [effect.after_eq]
    exact ⟨rfl, rfl, rfl, rfl⟩
  · rw [effect.after_eq]
    exact forall₂_updateFirst (fun _ => ⟨rfl, rfl, rfl, rfl, rfl, rfl⟩)
      (fun _ _ => ⟨rfl, rfl, rfl, rfl, rfl, rfl⟩)

theorem EventsRead.coherent (effect
      : EventsRead request fingerprint clock selected observedAtMs receipt before after)
    : after.Coherent sha256 := by
  refine held.rewrite effect.extends ?_ ?_
  · rw [effect.after_eq]
    exact ⟨rfl, rfl, rfl, rfl⟩
  · rw [effect.after_eq]
    refine List.forall₂_map_right_iff.mpr (List.forall₂_same.mpr (fun delivery _ => ?_))
    exact (before.readDelivery_continues request selected observedAtMs delivery).toSameAddress

theorem Step.coherent (step : Step sha256 operation before after)
    : after.Coherent sha256 := by
  cases step with
  | created effect | opened effect | answered effect | completed effect
  | deadlineSet effect | expired effect | woken effect | read effect | batchRead _ _ effect =>
    exact effect.coherent held

end Steps

theorem StoreState.seeded_ok
    : StoreState.seeded dispatches = .ok state
      ↔ ((∀ dispatch ∈ dispatches, dispatch.validate = .ok ())
          ∧ (dispatches.map (fun dispatch => dispatchKey dispatch.target)).Nodup)
        ∧ state =
            {
              dispatches
              interactions := []
              events := []
              deliveries := []
              idempotency := .empty
              acknowledgementIdempotency := .empty
              nextCursor := 1
            } := by
  simp only [StoreState.seeded, seq_ok, distinct_ok, pure_ok, and_true, List.not_mem_nil,
    not_false_eq_true, implies_true]
  exact and_congr_right (fun _ => eq_comm)

theorem StoreState.seeded_coherent (seeded : StoreState.seeded dispatches = .ok state)
    : state.Coherent sha256 := by
  obtain ⟨⟨_, unique⟩, rfl⟩ := StoreState.seeded_ok.mp seeded
  have targets : (dispatches.map target).Nodup :=
    .of_map dispatchKey (by simpa [Function.comp_def] using unique)
  constructor
  · exact targets
  all_goals simp [StoreState.receiptIds]

theorem perform_coherent (sha256 : String → String) (state : StoreState)
    (operation : Operation) (coherent : state.Coherent sha256)
    : (state.perform sha256 operation).2.Coherent sha256 :=
  perform_invariant (fun _ _ step held => step.coherent held) state coherent

/-- The snapshot after a run from a seeded store. -/
def Reachable (sha256 : String → String) (state : StoreState) : Prop :=
  ∃ dispatches seed operations, StoreState.seeded dispatches = .ok seed
    ∧ state = (store sha256).after seed operations

theorem sampleSeed_reachable : Reachable sampleSha256 sampleSeed :=
  ⟨[sampleDispatch], sampleSeed, [], sampleSeed_seeded, rfl⟩

theorem store_coherent (operations : List Operation) (coherent : state.Coherent sha256)
    : ((store sha256).after state operations).Coherent sha256 :=
  (store sha256).after_invariant (perform_coherent sha256) operations coherent

/-- What every elementary step of a coherent store keeps holds along its runs. -/
theorem store_invariant {sha256 : String → String} {invariant : StoreState → Prop}
    (keeps
      : ∀ operation before after, Step sha256 operation before after
      → before.Coherent sha256 → invariant before → invariant after)
    (operations : List Operation) (coherent : state.Coherent sha256) (holds : invariant state)
    : invariant ((store sha256).after state operations) := by
  let both (state : StoreState) : Prop := state.Coherent sha256 ∧ invariant state
  have kept : ∀ state operation, both state → both (state.perform sha256 operation).2 :=
    fun state operation start =>
      @perform_invariant sha256 operation both
        (fun before after step holds =>
          ⟨step.coherent holds.1, keeps operation before after step holds.1 holds.2⟩)
        state start
  exact ((store sha256).after_invariant kept operations ⟨coherent, holds⟩).2

theorem Reachable.coherent (reachable : Reachable sha256 state) : state.Coherent sha256 := by
  obtain ⟨dispatches, seed, operations, seeded, rfl⟩ := reachable
  exact store_coherent operations (StoreState.seeded_coherent seeded)

end Dure.Orchestration
