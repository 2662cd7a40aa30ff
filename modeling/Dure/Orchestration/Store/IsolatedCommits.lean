import Dure.Orchestration.Store.Isolation

/-! The commits, run side by side on the whole store and on the part of their authority. A
repeated request also agrees, because the receipts stored for a dispatch list deliveries of
that dispatch's events only.
-/

namespace Dure.Orchestration

open Library Update List StoreState

variable {sha256 : String → String} {authority : AuthorityScope}

def StoreState.ReceiptsPlaced (sha256 : String → String) (state : StoreState) : Prop :=
  ∀ operation target key entry,
    state.idempotency.get? (scopedOperationKey operation target key) = some entry
    → ∀ receipt ∈ entry.receipt.deliveries, ∃ event ∈ state.events, event.target = target
        ∧ ∃ participant, receiptId sha256 event.cursor participant = .ok receipt.receiptId

variable {request : OpenInteractionRequest} {target : InteractionTarget}
  {fingerprint operation key : String} {record : InteractionRecord} {dispatch : DispatchRecord}
  {entry : IdempotencyEntry}

section Placed

variable {before after : StoreState}

theorem StoreState.ReceiptsPlaced.same (placed : before.ReceiptsPlaced sha256)
    (extends_ : before.Extends after) (unchanged : after.idempotency = before.idempotency)
    : after.ReceiptsPlaced sha256 := by
  intro operation target key entry found receipt member
  rw [unchanged] at found
  obtain ⟨event, isEvent, made⟩ := placed operation target key entry found receipt member
  exact ⟨event, extends_.events.subset isEvent, made⟩

/-- A receipt may be stored under a key of another kind, or for the target of the news its
deliveries carry. -/
theorem StoreState.ReceiptsPlaced.insert (placed : before.ReceiptsPlaced sha256)
    (extends_ : before.Extends after)
    (inserted : after.idempotency = before.idempotency.insert key entry)
    (new
      : ∀ operation target name, key = scopedOperationKey operation target name
        → ∀ receipt ∈ entry.receipt.deliveries, ∃ event ∈ after.events, event.target = target
            ∧ ∃ participant, receiptId sha256 event.cursor participant = .ok receipt.receiptId)
    : after.ReceiptsPlaced sha256 := by
  intro operation target name stored found receipt member
  rw [inserted, OrderedMap.get?_insert] at found
  split at found
  · rename_i same
    cases found
    exact new operation target name same receipt member
  · obtain ⟨event, isEvent, made⟩ := placed operation target name stored found receipt member
    exact ⟨event, extends_.events.subset isEvent, made⟩

theorem Posting.Posted.placed {posting : Posting}
    (posted : posting.Posted sha256 entries before after)
    (same
      : scopedOperationKey operation posting.target name
        = scopedOperationKey operation' target name')
    : ∀ receipt ∈ entries.map DeliveryEntry.receipt, ∃ event ∈ after.events,
        event.target = target
        ∧ ∃ participant, receiptId sha256 event.cursor participant = .ok receipt.receiptId := by
  intro receipt member
  obtain ⟨entry, isEntry, rfl⟩ := mem_map.mp member
  obtain ⟨addressee, _, id, made, rfl⟩ := posted.queued entry isEntry
  refine ⟨posting.event before.nextCursor, ?_, (scopedOperationKey_inj.mp same).2.1,
    addressee.participant, made⟩
  rw [posted.events_eq]
  exact mem_append_right _ mem_cons_self

theorem authorityOperationKey_ne_scoped
    : authorityOperationKey operation authority key
      ≠ scopedOperationKey operation' target key' := by
  intro same
  simp only [authorityOperationKey, scopedOperationKey, operationKey, stableKey_inj,
    cons.injEq, and_true] at same
  exact scopeKey_ne_dispatchKey _ _ same.1.2

theorem Step.receiptsPlaced {operation : Operation}
    (step : Step sha256 operation before after) (placed : before.ReceiptsPlaced sha256)
    : after.ReceiptsPlaced sha256 := by
  have extends_ := step.extends
  cases step with
  | created effect =>
    refine placed.insert extends_ effect.idempotency_eq (fun _ _ _ same => ?_)
    exact absurd same authorityOperationKey_ne_scoped
  | opened effect | answered effect | completed effect =>
    refine placed.insert extends_ effect.idempotency_eq (fun _ _ _ same => ?_)
    rw [effect.receipt_eq]
    exact effect.posted.placed same
  | deadlineSet effect =>
    refine placed.insert extends_ effect.idempotency_eq (fun _ _ _ _ receipt member => ?_)
    cases member
  | expired effect => exact placed.same extends_ effect.idempotency_eq
  | woken effect | read effect | batchRead _ _ effect =>
    exact placed.same extends_ (by rw [effect.after_eq])

theorem Reachable.receiptsPlaced (reachable : Reachable sha256 state)
    : state.ReceiptsPlaced sha256 := by
  obtain ⟨dispatches, seed, operations, seeded, rfl⟩ := reachable
  refine store_invariant (fun _ _ _ step _ => step.receiptsPlaced) operations
    (seeded_coherent seeded) ?_
  obtain ⟨_, rfl⟩ := seeded_ok.mp seeded
  intro operation target key entry found
  simp at found

end Placed

section Checks

variable {start whole part : StoreState} {known : List Event}
  (alike : Scoped sha256 authority start known whole part)
include alike

theorem openedRecord_agree
    : Agree
        (fun parts whole part =>
          Scoped sha256 authority start known whole part ∧ parts.1 = request.record)
        (openedRecord request dispatch whole) (openedRecord request dispatch part) := by
  obtain ⟨_, _, _, _, _, interaction⟩ := request
  cases interaction with
  | message common purpose | decision common response capability =>
    exact .ensure_bind Iff.rfl (fun _ => .pure ⟨alike, rfl⟩)

theorem checkOpen_agree (inside : request.target.authority = authority)
    : Agree
        (fun parts whole part =>
          Scoped sha256 authority start known whole part ∧ parts.2.1 = request.record)
        (checkOpen request whole) (checkOpen request part) := by
  refine dispatchAt_bind_agree alike inside (fun dispatch => ?_)
  refine .ensure_bind Iff.rfl (fun _ => .ensure_bind Iff.rfl (fun _ => .get_bind ?_))
  refine .ensure_bind ?_ (fun _ => ?_)
  · rw [alike.part_eq, inside, restrict_interactionIdExists]
  · refine .bind (openedRecord_agree alike) ?_
    rintro ⟨record, blocks⟩ whole part ⟨alike, isRecord⟩
    exact .check_bind rfl (fun _ _ => .pure ⟨alike, isRecord⟩)

theorem blockDispatch_agree (inside : request.target.authority = authority)
    : Agree (fun _ whole part => ∃ known, Scoped sha256 authority start known whole part)
        (blockDispatch request dispatch record blocks whole)
        (blockDispatch request dispatch record blocks part) := by
  unfold blockDispatch
  cases blocks with
  | false => exact .pure ⟨known, alike⟩
  | true =>
    refine .bind (reviseDispatch_agree alike inside (fun _ => rfl))
      (fun _ whole part alike => ?_)
    exact .bind (appendEvent_agree alike inside)
      (fun event whole part alike => .pure ⟨_, alike.1⟩)

theorem checkAnswer_agree {request : AnswerDecisionRequest}
    (inside : request.target.authority = authority)
    : Agree
        (fun parts whole part =>
          Scoped sha256 authority start known whole part ∧ parts.1.target = request.target)
        (checkAnswer request whole) (checkAnswer request part) := by
  refine .get_bind (.orElseThrow_bind ?_ (fun interaction _ => ?_))
  · rw [alike.part_eq, restrict, find?_filter_inside]
    intro interaction _ named
    exact inside ▸ (Bool.and_eq_true_iff.mp named).2
  refine dispatchAt_bind_agree alike inside (fun dispatch => ?_)
  cases interaction with
  | message common purpose => exact .error
  | decision common response capability decision =>
    refine .ensure_bind Iff.rfl (fun sameTarget => ?_)
    refine .ensure_bind Iff.rfl (fun _ => .ensure_bind Iff.rfl (fun _ => ?_))
    refine .ensure_bind Iff.rfl (fun _ => .orElseThrow_bind rfl (fun grant _ => ?_))
    refine .ensure_bind Iff.rfl (fun _ => .check_bind rfl (fun _ _ => ?_))
    exact .pure ⟨alike, sameTarget⟩

/-- The answered decision replaces one of the same target. -/
theorem answerDecision_agree {request : AnswerDecisionRequest}
    (inside : request.target.authority = authority)
    (sameTarget : common.target = request.target)
    : Agree
        (fun record whole part =>
          Scoped sha256 authority start known whole part
          ∧ record.common.target = request.target)
        (answerDecision request common response replyCapability whole)
        (answerDecision request common response replyCapability part) := by
  have indexed := alike.indexed
  refine .orElseThrow_bind rfl (fun revision _ => .modify_bind (.pure ⟨?_, sameTarget⟩))
  cases alike.part_eq
  refine alike.write ?_ ?_ ⟨indexed.1, indexed.2, indexed.3⟩ (List.Subset.refl _)
  · simp only [restrict]
    rw [filter_updateFirst]
    · rfl
    · intro _ _
      exact beq_iff_eq.mpr (sameTarget ▸ inside)
    · intro interaction _ named
      exact inside ▸ (Bool.and_eq_true_iff.mp named).2
  · intro other different
    simp only [restrict]
    rw [filter_updateFirst_outside]
    · rfl
    · intro interaction found
      have named : request.names interaction = true := find?_some found
      have sameAuthority := beq_iff_eq.mp (Bool.and_eq_true_iff.mp named).2
      rw [sameAuthority, InteractionRecord.common, sameTarget, inside]
      simp [different.symm]

theorem announceAnswer_agree (injective : Function.Injective sha256)
    {request : AnswerDecisionRequest} (inside : record.common.target.authority = authority)
    : Agree (fun _ whole part => ∃ known, Scoped sha256 authority start known whole part)
        (announceAnswer sha256 request record whole)
        (announceAnswer sha256 request record part) := by
  refine .bind (appendEvent_agree alike inside) ?_
  rintro answered whole part ⟨alike, _⟩
  refine .bind (appendEvent_agree alike inside) ?_
  rintro unblocked whole part ⟨alike, _⟩
  have isKnown : answered ∈ unblocked :: answered :: known := by simp
  refine .bind (queueDeliveries_agree injective alike isKnown)
    (fun audience whole part alike => ?_)
  refine .bind (queueWorkerDelivery_agree injective alike isKnown)
    (fun worker whole part alike => ?_)
  exact .pure ⟨_, alike⟩

theorem checkComplete_agree {request : CompleteDispatchRequest}
    (inside : request.target.authority = authority)
    : Agree (fun _ => Scoped sha256 authority start known)
        (checkComplete request whole) (checkComplete request part) := by
  refine dispatchAt_bind_agree alike inside (fun dispatch => ?_)
  refine .ensure_bind Iff.rfl (fun _ => .ensure_bind Iff.rfl (fun _ => ?_))
  refine .ensure_bind Iff.rfl (fun _ => .ensure_bind Iff.rfl (fun _ => ?_))
  refine .ensure_bind Iff.rfl (fun _ => .get_bind (.ensure_bind ?_ (fun _ => ?_)))
  · rw [alike.part_eq, inside, restrict_interactionIdExists]
  · exact .check_bind rfl (fun _ _ => .pure alike)

theorem deadlineMessage_agree (injective : Function.Injective sha256)
    (inside : target.authority = authority)
    : Agree (fun _ whole part => ∃ known, Scoped sha256 authority start known whole part)
        (deadlineMessage sha256 target grant title description nowMs whole)
        (deadlineMessage sha256 target grant title description nowMs part) := by
  have cursor : whole.nextCursor = part.nextCursor := by rw [alike.part_eq]; rfl
  refine .get_bind (.check_bind (by rw [cursor]) (fun id _ => .check_bind rfl (fun _ _ => ?_)))
  refine .bind (appendEvent_agree alike inside) ?_
  rintro event whole part ⟨alike, _⟩
  refine .bind (queueDeliveries_agree injective alike mem_cons_self)
    (fun deliveries whole part alike => ?_)
  exact .bind (pushInteraction_agree alike inside)
    (fun _ whole part alike => .pure ⟨_, alike⟩)

end Checks

section Commits

variable {state : StoreState} (injective : Function.Injective sha256)
  (indexed : state.Indexed sha256) (placed : state.ReceiptsPlaced sha256)
include injective indexed placed

/-- A stored receipt is repeated with the same current deliveries. -/
theorem restrict_canonicalizeDeliveries
    (stored
      : state.idempotency.get? (scopedOperationKey operation target key) = some entry)
    (inside : target.authority = authority)
    : (state.restrict authority).canonicalizeDeliveries entry.receipt.deliveries
      = state.canonicalizeDeliveries entry.receipt.deliveries := by
  refine map_congr_left (fun receipt member => ?_)
  obtain ⟨event, isEvent, sameTarget, participant, made⟩ :=
    placed operation target key entry stored receipt member
  have found
      : (state.restrict authority).deliveries.find?
          (·.receipt.receiptId == receipt.receiptId)
        = state.deliveries.find? (·.receipt.receiptId == receipt.receiptId) := by
    refine find?_filter_inside (fun delivery isDelivery named => ?_)
    rw [indexed.owner?_receiptId injective isEvent made isDelivery (beq_iff_eq.mp named),
      sameTarget, inside, beq_self_eq_true]
  rw [found]

theorem openInteraction_agree (inside : request.target.authority = authority)
    : Agree (fun _ => Scoped sha256 authority state [])
        (openInteraction sha256 request fingerprint state)
        (openInteraction sha256 request fingerprint (state.restrict authority)) := by
  refine .get_bind ?_
  rw [restrict_operation (by rw [ownsOperation_scoped, inside, beq_self_eq_true])]
  cases seen : state.idempotency.get?
      (scopedOperationKey "open" request.target request.idempotencyKey) with
  | some entry =>
    have deliveries := restrict_canonicalizeDeliveries injective indexed placed seen inside
    obtain ⟨stored, receipt⟩ := entry
    cases receipt <;> dsimp only <;> cases decide (stored = fingerprint) <;> try exact .error
    simp only [StoredReceipt.deliveries] at deliveries
    simp only [deliveries]
    exact .pure (.refl indexed)
  | none =>
    refine .bind (checkOpen_agree (.refl indexed) inside) ?_
    rintro ⟨dispatch, record, blocks⟩ whole part ⟨alike, rfl⟩
    refine .bind (appendEvent_agree alike inside) ?_
    rintro event whole part ⟨alike, sameTarget⟩
    refine .bind (queueDeliveries_agree injective alike mem_cons_self)
      (fun deliveries whole part alike => ?_)
    refine .bind (blockDispatch_agree alike inside) ?_
    rintro events whole part ⟨known, alike⟩
    refine .bind (pushInteraction_agree alike ?_) (fun _ whole part alike => ?_)
    · rw [request.record_common]
      exact inside
    refine dispatchAt_bind_agree alike inside (fun current => ?_)
    refine .bind (rememberReceipt_agree alike inside) (fun _ whole part alike => ?_)
    exact .pure { alike with known_mem := by simp }

theorem answer_agree {request : AnswerDecisionRequest}
    (inside : request.target.authority = authority)
    : Agree (fun _ => Scoped sha256 authority state [])
        (answer sha256 request fingerprint state)
        (answer sha256 request fingerprint (state.restrict authority)) := by
  refine .get_bind ?_
  rw [restrict_operation (by rw [ownsOperation_scoped, inside, beq_self_eq_true])]
  cases seen : state.idempotency.get?
      (scopedOperationKey "answer" request.target request.idempotencyKey) with
  | some entry =>
    have deliveries := restrict_canonicalizeDeliveries injective indexed placed seen inside
    obtain ⟨stored, receipt⟩ := entry
    cases receipt <;> dsimp only <;> cases decide (stored = fingerprint) <;> try exact .error
    simp only [StoredReceipt.deliveries] at deliveries
    simp only [deliveries]
    exact .pure (.refl indexed)
  | none =>
    refine .bind (checkAnswer_agree (.refl indexed) inside) ?_
    rintro ⟨common, response, replyCapability, dispatch⟩ whole part ⟨alike, sameTarget⟩
    refine .bind (answerDecision_agree alike inside sameTarget) ?_
    rintro record whole part ⟨alike, recordTarget⟩
    refine .bind (reviseDispatch_agree alike inside (fun _ => rfl))
      (fun _ whole part alike => ?_)
    refine .bind (announceAnswer_agree alike injective (recordTarget ▸ inside)) ?_
    rintro ⟨events, deliveries⟩ whole part ⟨known, alike⟩
    refine .bind (rememberReceipt_agree alike inside) (fun _ whole part alike => ?_)
    exact .pure { alike with known_mem := by simp }

theorem complete_agree {request : CompleteDispatchRequest}
    (inside : request.target.authority = authority)
    : Agree (fun _ => Scoped sha256 authority state [])
        (complete sha256 request fingerprint state)
        (complete sha256 request fingerprint (state.restrict authority)) := by
  refine .get_bind ?_
  rw [restrict_operation (by rw [ownsOperation_scoped, inside, beq_self_eq_true])]
  cases seen : state.idempotency.get?
      (scopedOperationKey "complete" request.target request.idempotencyKey) with
  | some entry =>
    have deliveries := restrict_canonicalizeDeliveries injective indexed placed seen inside
    obtain ⟨stored, receipt⟩ := entry
    cases receipt <;> dsimp only <;> cases decide (stored = fingerprint) <;> try exact .error
    simp only [StoredReceipt.deliveries] at deliveries
    simp only [deliveries]
    exact .pure (.refl indexed)
  | none =>
    refine .bind (checkComplete_agree (.refl indexed) inside) (fun dispatch whole part alike => ?_)
    refine .bind (reviseDispatch_agree alike inside (fun _ => rfl))
      (fun _ whole part alike => ?_)
    refine .bind (appendEvent_agree alike inside) ?_
    rintro event whole part ⟨alike, _⟩
    refine .bind (queueDeliveries_agree injective alike mem_cons_self)
      (fun deliveries whole part alike => ?_)
    refine .bind (pushInteraction_agree alike inside) (fun _ whole part alike => ?_)
    refine .bind (rememberReceipt_agree alike inside) (fun _ whole part alike => ?_)
    exact .pure { alike with known_mem := by simp }

omit placed

theorem setDispatchDeadline_agree {request : SetDispatchDeadlineRequest}
    (inside : request.target.authority = authority)
    : Agree (fun _ => Scoped sha256 authority state [])
        (setDispatchDeadline sha256 request fingerprint state)
        (setDispatchDeadline sha256 request fingerprint (state.restrict authority)) := by
  refine dispatchAt_bind_agree (.refl indexed) inside (fun dispatch => ?_)
  refine .ensure_bind Iff.rfl (fun _ => .get_bind ?_)
  rw [restrict_operation (by rw [ownsOperation_scoped, inside, beq_self_eq_true])]
  cases state.idempotency.get?
      (scopedOperationKey "deadline" request.target request.idempotencyKey) with
  | some entry =>
    obtain ⟨stored, receipt⟩ := entry
    cases receipt <;> dsimp only <;> cases decide (stored = fingerprint) <;> try exact .error
    exact .pure (.refl indexed)
  | none =>
    refine .ensure_bind Iff.rfl (fun _ => .ensure_bind Iff.rfl (fun _ => ?_))
    refine .orElseThrow_bind rfl (fun revision _ => ?_)
    refine .bind (updateDispatch_agree (.refl indexed) inside (fun _ => rfl))
      (fun _ whole part alike => ?_)
    refine .bind (deadlineMessage_agree alike injective inside) ?_
    rintro event whole part ⟨known, alike⟩
    refine .bind (rememberReceipt_agree alike inside) (fun _ whole part alike => ?_)
    exact .pure { alike with known_mem := by simp }

end Commits

end Dure.Orchestration
