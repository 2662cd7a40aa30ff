import Dure.Orchestration.Store.Restriction

/-! The steps that transitions share, run side by side on the whole store and on the part of
one authority: the same values come out, the same writes are made, and the records of the
other authorities stay as they were.
-/

namespace Dure.Orchestration

open Library Update List

/-- Writes to the records of `authority` led from `start` to `whole`, and the same writes to
its part led to `part`. The `known` events are events of the authority. -/
structure Scoped (sha256 : String → String) (authority : AuthorityScope) (start : StoreState)
    (known : List Event) (whole part : StoreState)
    : Prop where
  part_eq : part = whole.restrict authority
  indexed : whole.Indexed sha256
  elsewhere
    : ∀ other, other ≠ authority
      → whole.restrict other
        = { start.restrict other with nextCursor := whole.nextCursor }
  known_mem : ∀ event ∈ known, event ∈ whole.events ∧ event.target.authority = authority

variable {sha256 : String → String} {authority : AuthorityScope}
  {start whole part state : StoreState} {known : List Event} {event : Event}
  {update : DispatchRecord → DispatchRecord} {receiptIds : List DeliveryReceiptId}
  {participant : ParticipantRef} {record : InteractionRecord}

theorem Scoped.refl (indexed : state.Indexed sha256)
    : Scoped sha256 authority state [] state (state.restrict authority) where
  part_eq := rfl
  indexed := indexed
  elsewhere := fun _ _ => rfl
  known_mem := by simp

/-- A write keeps the two runs alike when it leaves the other parts alone. -/
theorem Scoped.write (alike : Scoped sha256 authority start known whole part)
    (inside : part' = whole'.restrict authority)
    (outside
      : ∀ other, other ≠ authority
        → whole'.restrict other
          = { whole.restrict other with nextCursor := whole'.nextCursor })
    (indexed : whole'.Indexed sha256) (keeps : whole.events ⊆ whole'.events)
    : Scoped sha256 authority start known whole' part' where
  part_eq := inside
  indexed := indexed
  elsewhere := by
    intro other different
    rw [outside other different, alike.elsewhere other different]
  known_mem := fun event member =>
    ⟨keeps (alike.known_mem event member).1, (alike.known_mem event member).2⟩

variable {target : InteractionTarget}

theorem updateDispatch_agree (alike : Scoped sha256 authority start known whole part)
    (inside : target.authority = authority)
    (keeps : ∀ dispatch : DispatchRecord, (update dispatch).target = dispatch.target)
    : Agree (fun _ => Scoped sha256 authority start known)
        (updateDispatch target update whole) (updateDispatch target update part) := by
  have indexed := alike.indexed
  have sameTarget {dispatch : DispatchRecord}
      (found : whole.dispatches.find? (·.target == target) = some dispatch)
      : dispatch.target = target := by
    simpa using find?_some found
  cases alike.part_eq
  refine .modify (alike.write ?_ ?_ ⟨indexed.1, indexed.2, indexed.3⟩ (List.Subset.refl _))
  · simp only [StoreState.restrict]
    rw [filter_updateFirst]
    · rfl
    · intro dispatch found
      rw [keeps, sameTarget found, inside, beq_self_eq_true]
    · intro dispatch _ selected
      rw [beq_iff_eq.mp selected, inside, beq_self_eq_true]
  · intro other different
    simp only [StoreState.restrict]
    rw [filter_updateFirst_outside]
    · rfl
    · intro dispatch found
      simp [keeps, sameTarget found, inside, different.symm]

/-- An event recorded behind the others changes no delivery's authority. -/
theorem StoreState.Indexed.restrict_append (indexed : state.Indexed sha256) (event : Event)
    (nextCursor : Nat) (other : AuthorityScope)
    : ({ state with nextCursor, events := state.events ++ [event] } : StoreState).restrict
        other
      = { state.restrict other with
          nextCursor
          events := (state.events ++ [event]).filter (·.target.authority == other) } := by
  simp only [StoreState.restrict, StoreState.mk.injEq, true_and, and_true]
  refine filter_congr (fun delivery member => ?_)
  obtain ⟨old, isEvent, cursor, _⟩ := indexed.deliveries_placed delivery member
  have found := indexed.eventAt_mem isEvent
  rw [cursor] at found
  unfold StoreState.owner? StoreState.eventAt at *
  rw [find?_append, found]
  rfl

theorem StoreState.Indexed.append (indexed : state.Indexed sha256)
    (cursor : event.cursor = state.nextCursor)
    : ({ state with
          nextCursor := state.nextCursor + 1
          events := state.events ++ [event] } : StoreState).Indexed sha256 where
  cursors_unique := by
    rw [map_append]
    refine nodup_append.mpr ⟨indexed.cursors_unique, by simp, ?_⟩
    simp only [map_cons, map_nil, mem_map, mem_singleton]
    rintro _ ⟨old, member, rfl⟩ _ rfl
    rw [cursor]
    exact (indexed.cursors_below old member).ne
  cursors_below := by
    intro old member
    rcases mem_append.mp member with earlier | new
    · exact Nat.lt_succ_of_lt (indexed.cursors_below old earlier)
    · rw [mem_singleton.mp new, cursor]
      exact Nat.lt_succ_self _
  deliveries_placed := by
    intro delivery member
    obtain ⟨old, isEvent, placed⟩ := indexed.deliveries_placed delivery member
    exact ⟨old, mem_append_left _ isEvent, placed⟩

section

variable (alike : Scoped sha256 authority start known whole part)
include alike

attribute [local simp] StoreState.restrict

theorem Scoped.append (cursor : event.cursor = whole.nextCursor)
    (inside : event.target.authority = authority)
    : Scoped sha256 authority start (event :: known)
        { whole with
          nextCursor := whole.nextCursor + 1
          events := whole.events ++ [event] }
        { part with
          nextCursor := whole.nextCursor + 1
          events := part.events ++ [event] } := by
  have indexed := alike.indexed
  have written := alike.write (indexed.restrict_append event (whole.nextCursor + 1) authority).symm
    ?_ (indexed.append cursor) (subset_append_left _ _)
  · refine { written with part_eq := ?_, known_mem := ?_ }
    · rw [← written.part_eq, alike.part_eq]
      simp [inside]
    · intro other member
      rcases mem_cons.mp member with rfl | old
      · exact ⟨mem_append_right _ (mem_singleton_self _), inside⟩
      · exact written.known_mem other old
  · intro other different
    rw [indexed.restrict_append]
    simp [inside, different.symm]

theorem pushInteraction_agree (inside : record.common.target.authority = authority)
    : Agree (fun _ => Scoped sha256 authority start known)
        (pushInteraction record whole) (pushInteraction record part) := by
  have indexed := alike.indexed
  cases alike.part_eq
  refine .modify (alike.write ?_ ?_ ⟨indexed.1, indexed.2, indexed.3⟩ (List.Subset.refl _))
  · simp [StoreState.owner?, StoreState.eventAt, inside]
  · intro other different
    simp [StoreState.owner?, StoreState.eventAt, inside, different.symm]

section

variable (inside : target.authority = authority)
include inside

theorem appendEvent_agree
    : Agree
        (fun event whole part =>
          Scoped sha256 authority start (event :: known) whole part ∧ event.target = target)
        (appendEvent target actor kind recordedAtMs whole)
        (appendEvent target actor kind recordedAtMs part) := by
  have cursor : whole.nextCursor = part.nextCursor := by rw [alike.part_eq]; rfl
  refine .get_bind (.orElseThrow_bind (by rw [cursor]) (fun nextCursor checked => ?_))
  obtain ⟨rfl, _⟩ := checkedAddOne_some.mp checked
  rw [← cursor]
  exact .modify_bind (.pure ⟨alike.append rfl inside, rfl⟩)

theorem rememberReceipt_agree
    : Agree (fun _ => Scoped sha256 authority start known)
        (rememberReceipt (scopedOperationKey operation target key) fingerprint receipt whole)
        (rememberReceipt (scopedOperationKey operation target key) fingerprint receipt
          part) := by
  have indexed := alike.indexed
  cases alike.part_eq
  refine .modify (alike.write ?_ ?_ ⟨indexed.1, indexed.2, indexed.3⟩ (List.Subset.refl _))
  · simp only [StoreState.restrict]
    rw [OrderedMap.filter_insert_keep]
    · rfl
    · rw [ownsOperation_scoped, inside, beq_self_eq_true]
  · intro other different
    simp only [StoreState.restrict]
    rw [OrderedMap.filter_insert_drop]
    · rfl
    · intro _
      rw [ownsOperation_scoped, inside]
      exact beq_eq_false_iff_ne.mpr different.symm

theorem dispatchAt_bind_agree
    (rest : ∀ dispatch, Agree post (f dispatch whole) (g dispatch part))
    : Agree post ((dispatchAt target >>= f) whole) ((dispatchAt target >>= g) part) := by
  have same : whole.dispatchAt target = part.dispatchAt target := by
    rw [alike.part_eq, restrict_dispatchAt inside]
  change Agree post ((check (whole.dispatchAt target) id >>= f) whole)
    ((check (part.dispatchAt target) id >>= g) part)
  exact .check_bind same (fun dispatch _ => rest dispatch)

theorem reviseDispatch_agree
    (keeps : ∀ dispatch : DispatchRecord, (update dispatch).target = dispatch.target)
    : Agree (fun _ => Scoped sha256 authority start known)
        (reviseDispatch target dispatch update whole)
        (reviseDispatch target dispatch update part) := by
  refine .bind (updateDispatch_agree alike inside keeps) (fun _ whole part alike => ?_)
  exact .orElseThrow_bind rfl (fun revision _ =>
    updateDispatch_agree alike inside (fun _ => rfl))

end

/-- Writing deliveries whose events are in the store. -/
theorem Scoped.writeDeliveries
    (inside : deliveries' = deliveries.filter (whole.owner? · == some authority))
    (outside
      : ∀ other, other ≠ authority
        → deliveries.filter (whole.owner? · == some other)
          = whole.deliveries.filter (whole.owner? · == some other))
    (placed
      : ∀ delivery ∈ deliveries, ∃ event ∈ whole.events,
          event.cursor = delivery.receipt.eventCursor
          ∧ receiptId sha256 delivery.receipt.eventCursor delivery.receipt.participant
            = .ok delivery.receipt.receiptId)
    : Scoped sha256 authority start known { whole with deliveries }
        { part with deliveries := deliveries' } := by
  have indexed := alike.indexed
  have written (other : AuthorityScope)
      : ({ whole with deliveries } : StoreState).restrict other
        = { whole.restrict other with
            deliveries := deliveries.filter (whole.owner? · == some other) } :=
    rfl
  cases alike.part_eq
  refine alike.write ?_ ?_ ⟨indexed.1, indexed.2, placed⟩ (List.Subset.refl _)
  · rw [written, inside]
  · intro other different
    rw [written, outside other different]
    rfl

/-- Queueing a delivery of an event of the authority. -/
theorem Scoped.queue (isKnown : event ∈ known)
    (cursor : event.cursor = delivery.receipt.eventCursor)
    (identity
      : receiptId sha256 delivery.receipt.eventCursor delivery.receipt.participant
        = .ok delivery.receipt.receiptId)
    : Scoped sha256 authority start known
        { whole with deliveries := whole.deliveries ++ [delivery] }
        { part with deliveries := part.deliveries ++ [delivery] } := by
  obtain ⟨isEvent, inside⟩ := alike.known_mem event isKnown
  have owner : whole.owner? delivery = some authority := by
    rw [StoreState.owner?, ← cursor, alike.indexed.eventAt_mem isEvent, Option.map_some,
      inside]
  refine alike.writeDeliveries ?_ ?_ ?_
  · rw [alike.part_eq]
    simp [owner]
  · intro other different
    simp [owner, different.symm]
  · intro other member
    rcases mem_append.mp member with old | new
    · exact alike.indexed.deliveries_placed other old
    · rw [mem_singleton.mp new]
      exact ⟨event, isEvent, cursor, identity⟩

end

section Queueing

variable (injective : Function.Injective sha256)
include injective

section

variable (alike : Scoped sha256 authority start known whole part)
include alike

/-- A receipt id made for an event of the authority is used in the part if anywhere. -/
theorem Scoped.find?_receiptId {id : DeliveryReceiptId} (isKnown : event ∈ known)
    (made : receiptId sha256 event.cursor participant = .ok id)
    : part.deliveries.find? (·.receipt.receiptId == id)
      = whole.deliveries.find? (·.receipt.receiptId == id) := by
  obtain ⟨isEvent, inside⟩ := alike.known_mem event isKnown
  rw [alike.part_eq]
  refine find?_filter_inside (fun delivery member named => ?_)
  rw [alike.indexed.owner?_receiptId injective isEvent made member (beq_iff_eq.mp named),
    inside, beq_self_eq_true]

theorem queueDelivery_agree (isKnown : event ∈ known)
    : Agree (fun _ => Scoped sha256 authority start known)
        (queueDelivery sha256 event participant deliveryCapability endpoint wakeCapability
          receiptIds whole)
        (queueDelivery sha256 event participant deliveryCapability endpoint wakeCapability
          receiptIds part) := by
  refine .check_bind rfl (fun id made => .get_bind (.ensure_bind ?_ (fun _ => ?_)))
  · rw [← isSome_find?, ← isSome_find?,
      alike.find?_receiptId injective isKnown made]
  · exact .modify_bind (.pure (alike.queue isKnown rfl made))

/-- The grants of known events are queued alike, by induction on the grants. -/
theorem queueGrants_agree (areKnown : ∀ grant ∈ grants, grant.1 ∈ known)
    : Agree (fun _ => Scoped sha256 authority start known)
        (queueGrants sha256 grants receiptIds whole)
        (queueGrants sha256 grants receiptIds part) := by
  induction grants generalizing whole part receiptIds with
  | nil => exact .pure alike
  | cons grant rest ih =>
    obtain ⟨event, grant⟩ := grant
    have isKnown : event ∈ known := areKnown _ mem_cons_self
    refine .get_bind ?_
    rw [show part.workerEndpoint event.target = whole.workerEndpoint event.target by
      rw [alike.part_eq, restrict_workerEndpoint (alike.known_mem event isKnown).2]]
    refine .bind (queueDelivery_agree injective alike isKnown) ?_
    rintro ⟨receipt, receiptIds⟩ whole part alike
    refine .bind (ih alike (fun grant member => areKnown grant (mem_cons_of_mem _ member)))
      (fun receipts whole part alike => ?_)
    exact .pure alike

theorem queueDeliveries_agree (isKnown : event ∈ known)
    : Agree (fun _ => Scoped sha256 authority start known)
        (queueDeliveries sha256 record [event] whole)
        (queueDeliveries sha256 record [event] part) := by
  refine queueGrants_agree injective alike (fun grant member => ?_)
  simp only [flatMap_cons, flatMap_nil, append_nil, mem_map] at member
  obtain ⟨_, _, rfl⟩ := member
  exact isKnown

theorem queueWorkerDelivery_agree (isKnown : event ∈ known)
    : Agree (fun _ => Scoped sha256 authority start known)
        (queueWorkerDelivery sha256 event whole) (queueWorkerDelivery sha256 event part) := by
  have endpoints : whole.workerEndpoint event.target = part.workerEndpoint event.target := by
    rw [alike.part_eq, restrict_workerEndpoint (alike.known_mem event isKnown).2]
  refine .get_bind (.orElseThrow_bind endpoints (fun endpoint _ =>
    .check_bind rfl (fun id made => .get_bind ?_)))
  rw [alike.find?_receiptId injective isKnown made]
  cases whole.deliveries.find? (·.receipt.receiptId == id) with
  | some existing => exact .ensure_bind Iff.rfl (fun _ => .pure alike)
  | none =>
    refine .bind (queueDelivery_agree injective alike isKnown) ?_
    rintro ⟨receipt, _⟩ whole part alike
    exact .pure alike

end

end Queueing

end Dure.Orchestration
