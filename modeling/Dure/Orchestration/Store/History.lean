import Dure.Library.Growth
import Dure.Orchestration.Store.Steps

/-! History is append-only: no step removes a record or changes what identifies it, and the
deliveries only move forward.
-/

namespace Dure.Orchestration

open Library StoreState

/-- A dispatch keeps its contract, its revision does not fall, and completed is final. -/
structure DispatchRecord.Continues (before after : DispatchRecord) : Prop
    extends before.SameContract after where
  revision : before.revision ≤ after.revision
  completed : before.state = .completed → after.state = .completed

/-- An interaction stays as it is, or is an open decision that gets its answer. -/
inductive InteractionRecord.Continues : InteractionRecord → InteractionRecord → Prop where
  | same {record} : Continues record record
  | answered {common response replyCapability receipt}
    : Continues (.decision common response replyCapability .open)
        (.decision { common with revision := common.revision + 1 } response replyCapability
          (.answered receipt))

/-- The place of a delivery state in Queued, Observed, Acknowledged. -/
def DeliveryState.rank : DeliveryState → Nat
  | .queued => 0
  | .observed => 1
  | .acknowledged => 2

/-- What identifies a delivery: the event and the addressee it was queued for. -/
structure DeliveryEntry.SameAddress (before after : DeliveryEntry) : Prop where
  receiptId : after.receipt.receiptId = before.receipt.receiptId
  eventCursor : after.receipt.eventCursor = before.receipt.eventCursor
  participant : after.receipt.participant = before.receipt.participant
  endpoint : after.receipt.endpoint = before.receipt.endpoint
  deliveryCapability : after.deliveryCapability = before.deliveryCapability
  wakeCapability : after.wakeCapability = before.wakeCapability

structure DeliveryEntry.Continues (before after : DeliveryEntry) : Prop
    extends before.SameAddress after where
  forward : before.receipt.state.rank ≤ after.receipt.state.rank

theorem DispatchRecord.Continues.refl (dispatch : DispatchRecord)
    : dispatch.Continues dispatch :=
  ⟨⟨rfl, rfl, rfl, rfl, rfl⟩, Nat.le_refl _, fun completed => completed⟩

theorem DispatchRecord.Continues.trans {first second third : DispatchRecord}
    (earlier : first.Continues second) (later : second.Continues third)
    : first.Continues third where
  target := later.target.trans earlier.target
  coordinatorGrant := later.coordinatorGrant.trans earlier.coordinatorGrant
  interactionCapability := later.interactionCapability.trans earlier.interactionCapability
  completionCapability := later.completionCapability.trans earlier.completionCapability
  workerEndpoint := later.workerEndpoint.trans earlier.workerEndpoint
  revision := earlier.revision.trans later.revision
  completed := fun completed => later.completed (earlier.completed completed)

theorem InteractionRecord.Continues.trans {first second third : InteractionRecord}
    (earlier : first.Continues second) (later : second.Continues third)
    : first.Continues third := by
  cases earlier with
  | same => exact later
  | answered =>
    cases later with
    | same => exact .answered

theorem DeliveryEntry.Continues.refl (delivery : DeliveryEntry)
    : delivery.Continues delivery :=
  ⟨⟨rfl, rfl, rfl, rfl, rfl, rfl⟩, Nat.le_refl _⟩

theorem DeliveryEntry.Continues.trans {first second third : DeliveryEntry}
    (earlier : first.Continues second) (later : second.Continues third)
    : first.Continues third where
  receiptId := later.receiptId.trans earlier.receiptId
  eventCursor := later.eventCursor.trans earlier.eventCursor
  participant := later.participant.trans earlier.participant
  endpoint := later.endpoint.trans earlier.endpoint
  deliveryCapability := later.deliveryCapability.trans earlier.deliveryCapability
  wakeCapability := later.wakeCapability.trans earlier.wakeCapability
  forward := earlier.forward.trans later.forward

/-- `after` holds everything `before` holds, in the same places. -/
structure StoreState.Extends (before after : StoreState) : Prop where
  events : before.events <+: after.events
  dispatches : Grows DispatchRecord.Continues before.dispatches after.dispatches
  interactions : Grows InteractionRecord.Continues before.interactions after.interactions
  deliveries : Grows DeliveryEntry.Continues before.deliveries after.deliveries
  idempotency
    : ∀ key entry, before.idempotency.get? key = some entry
      → after.idempotency.get? key = some entry
  acknowledgements
    : ∀ key fingerprint, before.acknowledgementIdempotency.get? key = some fingerprint
      → after.acknowledgementIdempotency.get? key = some fingerprint
  nextCursor : before.nextCursor ≤ after.nextCursor

namespace StoreState.Extends

theorem refl (state : StoreState) : state.Extends state where
  events := List.prefix_refl _
  dispatches := .refl DispatchRecord.Continues.refl _
  interactions := .refl (fun _ => .same) _
  deliveries := .refl DeliveryEntry.Continues.refl _
  idempotency := fun _ _ found => found
  acknowledgements := fun _ _ found => found
  nextCursor := Nat.le_refl _

theorem trans {first second third : StoreState} (earlier : first.Extends second)
    (later : second.Extends third)
    : first.Extends third where
  events := earlier.events.trans later.events
  dispatches := earlier.dispatches.trans later.dispatches .trans
  interactions := earlier.interactions.trans later.interactions .trans
  deliveries := earlier.deliveries.trans later.deliveries .trans
  idempotency := fun key entry found =>
    later.idempotency key entry (earlier.idempotency key entry found)
  acknowledgements := fun key fingerprint found =>
    later.acknowledgements key fingerprint (earlier.acknowledgements key fingerprint found)
  nextCursor := earlier.nextCursor.trans later.nextCursor

end StoreState.Extends

/-- Storing a receipt under an unused key keeps the stored ones. -/
theorem get?_insert_unused {ν : Type} {map : OrderedMap String ν} {key : String} {value : ν}
    (unseen : map.get? key = none)
    : ∀ other entry, map.get? other = some entry
      → (map.insert key value).get? other = some entry := by
  intro other entry found
  rw [OrderedMap.get?_insert_ne _ _ (by rintro rfl; simp [unseen] at found), found]

/-- A step that posts news extends the store if it does so elsewhere. -/
theorem Posting.Posted.extends {sha256 : String → String} {posting : Posting}
    (posted : posting.Posted sha256 entries before after)
    (dispatches : Grows DispatchRecord.Continues before.dispatches after.dispatches)
    (interactions : Grows InteractionRecord.Continues before.interactions after.interactions)
    (idempotency
      : ∀ key entry, before.idempotency.get? key = some entry
        → after.idempotency.get? key = some entry)
    : before.Extends after where
  events := posted.events_eq ▸ List.prefix_append _ _
  dispatches := dispatches
  interactions := interactions
  deliveries := posted.deliveries_eq ▸ .append DeliveryEntry.Continues.refl _ _
  idempotency := idempotency
  acknowledgements := by
    rw [posted.acknowledgements_eq]
    exact fun _ _ found => found
  nextCursor := posted.nextCursor_eq ▸ Nat.le_add_right _ _

section Steps

variable {sha256 : String → String} {before after : StoreState}

theorem Created.extends
    (effect : Created sha256 request context fingerprint entries receipt before after)
    : before.Extends after :=
  effect.posted.extends
    (effect.dispatches_eq ▸ .append DispatchRecord.Continues.refl _ _)
    (effect.interactions_eq ▸ .refl (fun _ => .same) _)
    (effect.idempotency_eq ▸ get?_insert_unused effect.unseen)

theorem Opened.extends
    (effect : Opened sha256 request fingerprint dispatch entries receipt before after)
    : before.Extends after := by
  refine effect.posted.extends
    (effect.dispatches_eq ▸ .updateFirst DispatchRecord.Continues.refl _ ?_)
    (effect.interactions_eq ▸ .append (fun _ => .same) _ _)
    (effect.idempotency_eq ▸ get?_insert_unused effect.unseen)
  intro old isOld
  obtain rfl : dispatch = old := by simpa [effect.found] using isOld
  refine ⟨request.update_sameContract dispatch, ?_, ?_⟩
  · unfold OpenInteractionRequest.update
    split
    · exact Nat.le_refl _
    · exact Nat.le_succ _
  · intro completed
    have allowed := effect.allowed
    unfold OpenInteractionRequest.Allowed at allowed
    unfold OpenInteractionRequest.update
    split
    · exact completed
    · simp_all

theorem Answered.extends (effect
      : Answered sha256 request fingerprint common response replyCapability dispatch entries
          receipt before after)
    : before.Extends after := by
  refine effect.posted.extends
    (effect.dispatches_eq ▸ .updateFirst DispatchRecord.Continues.refl _ ?_)
    (effect.interactions_eq ▸ .updateFirst (fun _ => .same) _ ?_)
    (effect.idempotency_eq ▸ get?_insert_unused effect.unseen)
  · intro old isOld
    obtain rfl : dispatch = old := by simpa [effect.found] using isOld
    exact ⟨dispatch.unblock_sameContract, Nat.le_succ _,
      fun completed => by simp [effect.blocked] at completed⟩
  · intro old isOld
    obtain rfl : _ = old := Option.some.inj (effect.decision_found.symm.trans isOld)
    exact .answered

theorem Completed.extends
    (effect : Completed sha256 request fingerprint dispatch entries receipt before after)
    : before.Extends after := by
  refine effect.posted.extends
    (effect.dispatches_eq ▸ .updateFirst DispatchRecord.Continues.refl _ ?_)
    (effect.interactions_eq ▸ .append (fun _ => .same) _ _)
    (effect.idempotency_eq ▸ get?_insert_unused effect.unseen)
  exact fun old _ => ⟨old.finish_sameContract, Nat.le_succ _, fun _ => rfl⟩

theorem DeadlineSet.extends {id} (effect
      : DeadlineSet sha256 request fingerprint dispatch id entries receipt before after)
    : before.Extends after := by
  refine effect.posted.extends
    (effect.dispatches_eq ▸ .updateFirst DispatchRecord.Continues.refl _ ?_)
    (effect.interactions_eq ▸ .append (fun _ => .same) _ _)
    (effect.idempotency_eq ▸ get?_insert_unused effect.unseen)
  exact fun old _ =>
    ⟨request.update_sameContract old, Nat.le_succ _, fun completed => completed⟩

theorem Expired.extends {id}
    (effect : Expired sha256 nowMs index dispatch deadline id entries before after)
    : before.Extends after := by
  refine effect.posted.extends
    (effect.dispatches_eq ▸ .modify DispatchRecord.Continues.refl _ _ ?_)
    (effect.interactions_eq ▸ .append (fun _ => .same) _ _)
    (effect.idempotency_eq ▸ fun _ _ found => found)
  exact fun old _ =>
    ⟨old.markOverdue_sameContract _, Nat.le_refl _, fun completed => completed⟩

theorem Woken.extends (effect : Woken request delivery replacement before after)
    : before.Extends after := by
  rw [effect.after_eq]
  exact { StoreState.Extends.refl before with
    deliveries := .updateFirst DeliveryEntry.Continues.refl _
      (fun old _ => ⟨⟨rfl, rfl, rfl, rfl, rfl, rfl⟩, Nat.le_refl _⟩) }

theorem StoreState.acknowledgeDelivery_continues (state : StoreState)
    (request : ReadEventsRequest) (observedAtMs : Int) (delivery : DeliveryEntry)
    : delivery.Continues (state.acknowledgeDelivery request observedAtMs delivery) := by
  unfold acknowledgeDelivery
  split
  · exact .refl _
  · split
    · refine ⟨⟨rfl, rfl, rfl, rfl, rfl, rfl⟩, ?_⟩
      cases delivery.receipt.state <;> simp [DeliveryEntry.acknowledge, DeliveryState.rank]
    · exact .refl _

theorem observeDelivery_continues (request : ReadEventsRequest) (selected : List EventCursor)
    (observedAtMs : Int) (delivery : DeliveryEntry)
    : delivery.Continues (observeDelivery request selected observedAtMs delivery) := by
  unfold observeDelivery
  split
  · rename_i observed
    refine ⟨⟨rfl, rfl, rfl, rfl, rfl, rfl⟩, ?_⟩
    have queued : delivery.receipt.state = .queued := by
      simp only [observes, Bool.and_eq_true, beq_iff_eq] at observed
      exact observed.2
    simp [queued, DeliveryState.rank]
  · exact .refl _

section

variable (state : StoreState) (request : ReadEventsRequest) (selected : List EventCursor)
  (observedAtMs : Int) (delivery : DeliveryEntry)
include state request selected observedAtMs delivery

theorem StoreState.readDelivery_continues
    : delivery.Continues (state.readDelivery request selected observedAtMs delivery) :=
  (state.acknowledgeDelivery_continues request observedAtMs delivery).trans
    (observeDelivery_continues request selected observedAtMs _)

theorem StoreState.readDelivery_wake
    : (state.readDelivery request selected observedAtMs delivery).receipt.wake
      = delivery.receipt.wake := by
  unfold readDelivery observeDelivery acknowledgeDelivery
  repeat' split
  all_goals rfl

end

theorem EventsRead.extends (effect
      : EventsRead request fingerprint clock selected observedAtMs receipt before after)
    : before.Extends after := by
  rw [effect.after_eq]
  refine { StoreState.Extends.refl before with
    deliveries := .map _ (fun delivery _ =>
      before.readDelivery_continues request selected observedAtMs delivery)
    acknowledgements := ?_ }
  unfold readAcknowledgements
  split
  · split
    · exact fun _ _ found => found
    · rename_i unseen
      exact get?_insert_unused (by simpa using unseen)
  · exact fun _ _ found => found

theorem Step.extends (step : Step sha256 operation before after) : before.Extends after := by
  cases step with
  | created effect | opened effect | answered effect | completed effect
  | deadlineSet effect | expired effect | woken effect | read effect | batchRead _ _ effect =>
    exact effect.extends

end Steps

theorem perform_extends (sha256 : String → String) (state : StoreState)
    (operation : Operation)
    : state.Extends (state.perform sha256 operation).2 :=
  perform_relation .refl .trans (fun _ _ step => step.extends) state

/-- Along a run nothing disappears. -/
theorem store_extends (sha256 : String → String) (state : StoreState)
    (operations : List Operation)
    : state.Extends ((store sha256).after state operations) :=
  (store sha256).after_relation .refl .trans (perform_extends sha256) operations

end Dure.Orchestration
