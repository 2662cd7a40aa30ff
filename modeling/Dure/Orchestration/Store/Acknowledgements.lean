import Dure.Orchestration.Store.Inbox

/-! Cumulative acknowledgement. One read acknowledges everything in its scope up to the
acknowledged cursor, observes its own page, and touches no other delivery.
-/

namespace Dure.Orchestration

open Library StoreState

/-- The deliveries of the request's participant, capability and scope up to `through`. -/
def StoreState.covers (state : StoreState) (request : ReadEventsRequest)
    (through : EventCursor) (delivery : DeliveryEntry)
    : Bool :=
  state.inRequest request delivery && decide (delivery.receipt.eventCursor ≤ through)

/-- The acknowledgement of the request, if it has one, covers the delivery. -/
def StoreState.Acknowledged (state : StoreState) (request : ReadEventsRequest)
    (delivery : DeliveryEntry)
    : Prop :=
  ∃ acknowledgement, request.acknowledgement = some acknowledgement
    ∧ state.covers request acknowledgement.through delivery

/-- What a read makes of one delivery of the store it meets. -/
structure DeliveryEntry.ReadAs (state : StoreState) (request : ReadEventsRequest)
    (receipt : ReadEventsReceipt) (before after : DeliveryEntry)
    : Prop where
  acknowledged : state.Acknowledged request before → after.receipt.state = .acknowledged
  untouched
    : ¬state.Acknowledged request before
      → after = before
        ∨ before.receipt.eventCursor ∈ receipt.events.map Event.cursor
          ∧ before.receipt.participant = request.participant
          ∧ before.receipt.state = .queued
          ∧ ∃ observedAtMs, after = before.observe observedAtMs

/-- Every delivery keeps its place and is acknowledged, observed or left alone. -/
def ReadsDeliveries (request : ReadEventsRequest) (receipt : ReadEventsReceipt)
    (before after : StoreState)
    : Prop :=
  List.Forall₂ (DeliveryEntry.ReadAs before request receipt) before.deliveries after.deliveries

/-- The items of a batch take effect in order; one that fails has none. -/
inductive BatchReadsDeliveries
    : List (ReadEventsStoreRequest × Option Nat)
      → List (Except StoreError ReadEventsReceipt) → StoreState → StoreState → Prop where
  | nil {state} : BatchReadsDeliveries [] [] state state
  | read {item clock rest receipt results before middle after}
    (first : ReadsDeliveries item.request receipt before middle)
    (later : BatchReadsDeliveries rest results middle after)
    : BatchReadsDeliveries ((item, clock) :: rest) (.ok receipt :: results) before after
  | failed {item clock rest error results before after}
    (later : BatchReadsDeliveries rest results before after)
    : BatchReadsDeliveries ((item, clock) :: rest) (.error error :: results) before after

variable {request : ReadEventsRequest}

section Reads

variable {sha256 : String → String} {before after : StoreState} {delivery : DeliveryEntry}
  {observedAtMs : Int}

/-- The acknowledgement loop skips what is acknowledged already. -/
theorem StoreState.acknowledges_iff
    : before.acknowledges request through delivery = true
      ↔ before.covers request through delivery = true
        ∧ delivery.receipt.state ≠ .acknowledged := by
  simp only [acknowledges, covers, inRequest,
    Bool.and_eq_true, bne_iff_ne]
  tauto

theorem StoreState.acknowledgeDelivery_acknowledged
    (covered : before.Acknowledged request delivery)
    : (before.acknowledgeDelivery request observedAtMs delivery).receipt.state
      = .acknowledged := by
  obtain ⟨acknowledgement, requested, covers⟩ := covered
  unfold acknowledgeDelivery
  simp only [requested]
  split
  · rfl
  · rename_i skipped
    by_contra unacknowledged
    exact skipped (acknowledges_iff.mpr ⟨covers, unacknowledged⟩)

theorem StoreState.acknowledgeDelivery_untouched
    (uncovered : ¬before.Acknowledged request delivery)
    : before.acknowledgeDelivery request observedAtMs delivery = delivery := by
  unfold acknowledgeDelivery
  split
  · rfl
  · rename_i acknowledgement requested
    split
    · rename_i acknowledges
      exact absurd ⟨acknowledgement, requested, (acknowledges_iff.mp acknowledges).1⟩
        uncovered
    · rfl

theorem EventsRead.readsDeliveries (effect
      : EventsRead request fingerprint clock selected observedAtMs receipt before after)
    (coherent : before.Coherent sha256)
    : ReadsDeliveries request receipt before after := by
  unfold ReadsDeliveries
  rw [effect.after_eq]
  refine List.forall₂_map_right_iff.mpr (List.forall₂_same.mpr (fun delivery _ => ⟨?_, ?_⟩))
  · intro covered
    have acknowledged := @StoreState.acknowledgeDelivery_acknowledged _ _ _ observedAtMs covered
    unfold readDelivery
    rw [observeDelivery_acknowledged acknowledged]
    exact acknowledged
  · intro uncovered
    unfold readDelivery observeDelivery
    rw [acknowledgeDelivery_untouched uncovered]
    split
    · rename_i isObserved
      simp only [observes, Bool.and_eq_true, List.contains_iff_mem, beq_iff_eq] at isObserved
      obtain ⟨⟨onPage, reader⟩, queued⟩ := isObserved
      rw [effect.cursors coherent]
      exact Or.inr ⟨onPage, reader, queued, observedAtMs, rfl⟩
    · exact Or.inl rfl

theorem BatchRead.readsDeliveries (batch : BatchRead authority items results before after)
    (coherent : before.Coherent sha256)
    : BatchReadsDeliveries items results before after := by
  induction batch with
  | nil => exact .nil
  | read _ first _ ih =>
    exact .read (first.readsDeliveries coherent) (ih (first.coherent coherent))
  | failed _ _ ih => exact .failed (ih coherent)

end Reads

/-- History is append-only: a request, and any further run, keeps every event, dispatch,
interaction, delivery and stored receipt in its place and lets deliveries only move forward;
an answered decision stays as it is. A read with an acknowledgement acknowledges exactly the
deliveries it covers and leaves the others alone, but for those it observes. -/
theorem history_append_only {sha256 : String → String} {state : StoreState}
    (reachable : Reachable sha256 state)
    : (∀ operation, state.Extends (state.perform sha256 operation).2)
      ∧ (∀ operations, state.Extends ((store sha256).after state operations))
      ∧ (∀ common response replyCapability answer operations,
          InteractionRecord.decision common response replyCapability (.answered answer)
            ∈ state.interactions
          → .decision common response replyCapability (.answered answer)
            ∈ ((store sha256).after state operations).interactions)
      ∧ (∀ request fingerprint clock receipt changed,
          (state.perform sha256 (.readEvents request fingerprint clock)).1
            = .ok (.readEvents receipt changed)
          → ReadsDeliveries request receipt state
              (state.perform sha256 (.readEvents request fingerprint clock)).2)
      ∧ (∀ authority requests results changed,
          (state.perform sha256 (.readEventsBatch authority requests)).1
            = .ok (.readEventsBatch results changed)
          → BatchReadsDeliveries requests results state
              (state.perform sha256 (.readEventsBatch authority requests)).2) := by
  refine ⟨perform_extends sha256 state, store_extends sha256 state, ?_, ?_, ?_⟩
  · intro common response replyCapability answer operations member
    obtain ⟨successor, isSuccessor, continues⟩ :=
      (store_extends sha256 state operations).interactions.mem member
    cases continues
    exact isSuccessor
  · intro request fingerprint clock receipt changed succeeded
    obtain ⟨⟨read, didChange⟩, applied, same⟩ := Update.map_ok.mp (perform_ok.mp succeeded)
    obtain ⟨rfl, rfl⟩ : read = receipt ∧ didChange = changed := by simpa using same
    obtain ⟨⟨_, _, effect⟩, _⟩ := readEvents_ok applied
    exact effect.readsDeliveries reachable.coherent
  · intro authority requests results changed succeeded
    obtain ⟨⟨read, didChange⟩, applied, same⟩ := Update.map_ok.mp (perform_ok.mp succeeded)
    obtain ⟨rfl, rfl⟩ : read = results ∧ didChange = changed := by simpa using same
    exact (readEventsItems_ok applied).readsDeliveries reachable.coherent

/-- Witness: a store with one active dispatch. -/
theorem history_append_only_sample
    : Reachable sampleSha256 sampleSeed
      ∧ ∀ operation, sampleSeed.Extends (sampleSeed.perform sampleSha256 operation).2 :=
  ⟨sampleSeed_reachable, (history_append_only sampleSeed_reachable).1⟩

end Dure.Orchestration
