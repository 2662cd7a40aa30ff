import Dure.Orchestration.Store.Coherence

/-! Replays. A commit remembers its receipt under the request's idempotency key, and every
later request under that key is answered from it or refused, whatever happened in between.
-/

namespace Dure.Orchestration

open Library Update List StoreState Operation

/-- The idempotency key and the fingerprint of the requests that have one. -/
def Operation.idempotency? : Operation → Option (String × String)
  | .createRun request _ fingerprint => some (request.key, fingerprint)
  | .openInteraction request fingerprint => some (request.key, fingerprint)
  | .answer request fingerprint => some (request.key, fingerprint)
  | .complete request fingerprint => some (request.key, fingerprint)
  | .setDispatchDeadline request fingerprint => some (request.key, fingerprint)
  | _ => none

/-- The reply in which a receipt was first returned. -/
def StoredReceipt.reply : StoredReceipt → Reply
  | .deadline receipt => .deadline receipt
  | .create receipt => .createRun receipt
  | .open receipt => .openInteraction receipt
  | .answer receipt => .answer receipt
  | .complete receipt => .complete receipt

def StoredReceipt.deliveries : StoredReceipt → List DeliveryReceipt
  | .deadline _ => []
  | .create receipt => receipt.deliveries
  | .open receipt => receipt.deliveries
  | .answer receipt => receipt.deliveries
  | .complete receipt => receipt.deliveries

/-- The stored receipt as `state` repeats it: marked as a replay, with the current delivery
receipts, and for a created run with the current dispatch in its context. -/
def StoreState.replay (state : StoreState) : StoredReceipt → StoredReceipt
  | .deadline receipt => .deadline { receipt with idempotent := true }
  | .create receipt => .create (state.replayCreate receipt)
  | .open receipt => .open (state.replayOpen receipt)
  | .answer receipt => .answer (state.replayAnswer receipt)
  | .complete receipt => .complete (state.replayComplete receipt)

/-- The receipt is of the kind that the operation stores. -/
def Operation.stores : Operation → StoredReceipt → Bool
  | .createRun _ _ _, .create _ => true
  | .openInteraction _ _, .open _ => true
  | .answer _ _, .answer _ => true
  | .complete _ _, .complete _ => true
  | .setDispatchDeadline _ _, .deadline _ => true
  | _, _ => false

/-- A deadline request is checked against its dispatch before its key is looked up. -/
def Operation.deadlineWriter? : Operation → Option (InteractionTarget × CapabilityRef)
  | .setDispatchDeadline request _ => some (request.target, request.writeCapability)
  | _ => none

/-- `repeated` is the same request; a run is created anew in a context of its own. -/
def Operation.Repeats (repeated original : Operation) : Prop :=
  match repeated, original with
  | .createRun request _ fingerprint, .createRun request' _ fingerprint' =>
    request = request' ∧ fingerprint = fingerprint'
  | _, _ => repeated = original

/-- The writer of a deadline request holds the capability of its dispatch. -/
def Operation.Granted (operation : Operation) (state : StoreState) : Prop :=
  ∀ target capability, operation.deadlineWriter? = some (target, capability)
    → ∃ dispatch, state.dispatches.find? (·.target == target) = some dispatch
      ∧ dispatch.interactionCapability = capability

section Remembering

variable {sha256 : String → String} {before after : StoreState}

section

variable {operation : Operation} {reply : Reply}
  (applied : operation.transition sha256 before = .ok reply after)
include applied

/-- A successful request leaves its receipt under its key. -/
theorem transition_remembers (keyed : operation.idempotency? = some (key, fingerprint))
    : ∃ stored, after.idempotency.get? key = some ⟨fingerprint, stored⟩
      ∧ operation.stores stored ∧ (reply.idempotent = false → reply = stored.reply) := by
  cases operation with
  | createRun request context _ =>
    cases keyed
    obtain ⟨receipt, created, rfl⟩ := map_ok.mp applied
    rcases createRun_ok created with ⟨stored, seen, rfl, rfl⟩ | ⟨_, effect⟩
    · exact ⟨_, seen, rfl, nofun⟩
    · exact ⟨_, by rw [effect.idempotency_eq, OrderedMap.get?_insert_self], rfl, fun _ => rfl⟩
  | openInteraction request _ =>
    cases keyed
    obtain ⟨receipt, opened, rfl⟩ := map_ok.mp applied
    rcases openInteraction_ok opened with ⟨stored, seen, rfl, rfl⟩ | ⟨_, _, effect⟩
    · exact ⟨_, seen, rfl, nofun⟩
    · exact ⟨_, by rw [effect.idempotency_eq, OrderedMap.get?_insert_self], rfl, fun _ => rfl⟩
  | answer request _ =>
    cases keyed
    obtain ⟨receipt, answered, rfl⟩ := map_ok.mp applied
    rcases answer_ok answered with ⟨stored, seen, rfl, rfl⟩ | ⟨_, _, _, _, _, effect⟩
    · exact ⟨_, seen, rfl, nofun⟩
    · exact ⟨_, by rw [effect.idempotency_eq, OrderedMap.get?_insert_self], rfl, fun _ => rfl⟩
  | complete request _ =>
    cases keyed
    obtain ⟨receipt, completed, rfl⟩ := map_ok.mp applied
    rcases complete_ok completed with ⟨stored, seen, rfl, rfl⟩ | ⟨_, _, effect⟩
    · exact ⟨_, seen, rfl, nofun⟩
    · exact ⟨_, by rw [effect.idempotency_eq, OrderedMap.get?_insert_self], rfl, fun _ => rfl⟩
  | setDispatchDeadline request _ =>
    cases keyed
    obtain ⟨receipt, deadlineSet, rfl⟩ := map_ok.mp applied
    rcases setDispatchDeadline_ok deadlineSet with ⟨stored, seen, rfl, rfl⟩ | ⟨_, _, _, effect⟩
    · exact ⟨_, seen, rfl, nofun⟩
    · exact ⟨_, by rw [effect.idempotency_eq, OrderedMap.get?_insert_self], rfl, fun _ => rfl⟩
  | _ => cases keyed

/-- A successful deadline request had the capability of its dispatch. -/
theorem transition_granted
    : operation.Granted before := by
  intro target capability writer
  cases operation with
  | setDispatchDeadline request fingerprint =>
    cases writer
    obtain ⟨receipt, deadlineSet, rfl⟩ := map_ok.mp applied
    simp only [setDispatchDeadline, dispatchAt_bind_ok, ensure_bind_ok] at deadlineSet
    obtain ⟨dispatch, found, granted, _⟩ := deadlineSet
    exact ⟨dispatch, found, granted⟩
  | _ => cases writer

end

/-- Dispatches keep their capabilities. -/
theorem Operation.Granted.extends {operation : Operation} (granted : operation.Granted before)
    (extends_ : before.Extends after)
    : operation.Granted after := by
  intro target capability writer
  obtain ⟨dispatch, found, isCapability⟩ := granted target capability writer
  obtain ⟨successor, foundNext, continues⟩ :=
    extends_.dispatches.find? (fun continues => by rw [continues.target]) found
  exact ⟨successor, foundNext, continues.interactionCapability.trans isCapability⟩

end Remembering

variable {entry : IdempotencyEntry} {request : SetDispatchDeadlineRequest}
  {stored : StoredReceipt}

section Repeating

variable {sha256 : String → String} {state : StoreState}

section

variable {operation : Operation} {key fingerprint : String}
  (keyed : operation.idempotency? = some (key, fingerprint))
include keyed

/-- A remembered request is answered from memory and changes nothing. -/
theorem transition_replays (seen : state.idempotency.get? key = some ⟨fingerprint, stored⟩)
    (kind : operation.stores stored) (granted : operation.Granted state)
    : operation.transition sha256 state = .ok (state.replay stored).reply state := by
  cases operation with
  | createRun request context _ | openInteraction request _ | answer request _
  | complete request _ =>
    cases keyed
    cases stored <;> simp only [stores, Bool.false_eq_true] at kind
    refine map_ok.mpr ⟨_, ?_, rfl⟩
    simp [createRun, openInteraction, answer, complete, seen, get_bind_ok, pure_ok,
      replayCreate, replayOpen, replayAnswer,
      replayComplete]
  | setDispatchDeadline request _ =>
    cases keyed
    cases stored <;> simp only [stores, Bool.false_eq_true] at kind
    obtain ⟨dispatch, found, capable⟩ := granted _ _ rfl
    refine map_ok.mpr ⟨_, ?_, rfl⟩
    simp [setDispatchDeadline, dispatchAt_bind_ok, ensure_bind_ok, get_bind_ok, pure_ok,
      found, capable, seen]
  | _ => cases keyed

/-- A remembered key under another fingerprint is refused. -/
theorem transition_conflicts (seen : state.idempotency.get? key = some entry)
    (different : fingerprint ≠ entry.fingerprint) (granted : operation.Granted state)
    : operation.transition sha256 state = .error .idempotencyConflict state := by
  have mismatch : decide (entry.fingerprint = fingerprint) = false :=
    decide_eq_false different.symm
  cases operation with
  | createRun request context _ | openInteraction request _ | answer request _
  | complete request _ =>
    cases keyed
    refine map_error ?_ _
    simp only [createRun, openInteraction, answer, complete, get_bind, seen, mismatch]
    cases entry.receipt <;> exact throw_error _ _
  | setDispatchDeadline request _ =>
    cases keyed
    obtain ⟨dispatch, found, capable⟩ := granted _ _ rfl
    refine map_error ?_ _
    rw [setDispatchDeadline, dispatchAt_bind_found found, ensure_bind_holds capable, get_bind,
      seen]
    simp only [mismatch]
    cases entry.receipt <;> exact throw_error _ _
  | _ => cases keyed

end

/-- A deadline request without the capability of its dispatch is refused before its key is
looked up. -/
theorem transition_denied
    (found : state.dispatches.find? (·.target == request.target) = some dispatch)
    (incapable : dispatch.interactionCapability ≠ request.writeCapability)
    : (Operation.setDispatchDeadline request fingerprint).transition sha256 state
      = .error .capabilityDenied state := by
  refine map_error ?_ _
  rw [setDispatchDeadline, dispatchAt_bind_found found, ensure_bind_fails incapable]

end Repeating

/-! ### What a stored receipt refers to -/

/-- The deliveries the receipt lists are in the store, and so is the dispatch of a created
run. -/
structure StoredReceipt.Backed (stored : StoredReceipt) (state : StoreState) : Prop where
  delivered
    : ∀ receipt ∈ stored.deliveries, ∃ delivery ∈ state.deliveries,
        delivery.receipt.receiptId = receipt.receiptId
  placed
    : ∀ receipt, stored = .create receipt → ∃ dispatch,
        state.dispatches.find? (·.target == receipt.context.target) = some dispatch

def StoreState.ReceiptsBacked (state : StoreState) : Prop :=
  ∀ key entry, state.idempotency.get? key = some entry → entry.receipt.Backed state

section Backing

variable {sha256 : String → String} {before after : StoreState}

theorem StoredReceipt.Backed.extends (backed : stored.Backed before)
    (extends_ : before.Extends after)
    : stored.Backed after where
  delivered := by
    intro receipt member
    obtain ⟨delivery, isDelivery, same⟩ := backed.delivered receipt member
    obtain ⟨successor, isSuccessor, continues⟩ := extends_.deliveries.mem isDelivery
    exact ⟨successor, isSuccessor, continues.receiptId.trans same⟩
  placed := by
    intro receipt created
    obtain ⟨dispatch, found⟩ := backed.placed receipt created
    obtain ⟨successor, foundNext, _⟩ :=
      extends_.dispatches.find? (fun continues => by rw [continues.target]) found
    exact ⟨successor, foundNext⟩

theorem StoreState.ReceiptsBacked.same (backed : before.ReceiptsBacked)
    (extends_ : before.Extends after) (unchanged : after.idempotency = before.idempotency)
    : after.ReceiptsBacked := by
  intro key entry found
  rw [unchanged] at found
  exact (backed key entry found).extends extends_

theorem StoreState.ReceiptsBacked.insert (backed : before.ReceiptsBacked)
    (extends_ : before.Extends after)
    (inserted : after.idempotency = before.idempotency.insert key entry)
    (new : entry.receipt.Backed after)
    : after.ReceiptsBacked := by
  intro other stored found
  rw [inserted, OrderedMap.get?_insert] at found
  split at found
  · cases found
    exact new
  · exact (backed other stored found).extends extends_

/-- The deliveries of a posting back the receipt that lists them. -/
theorem Posting.Posted.delivered {posting : Posting}
    (posted : posting.Posted sha256 entries before after)
    : ∀ receipt ∈ entries.map DeliveryEntry.receipt, ∃ delivery ∈ after.deliveries,
        delivery.receipt.receiptId = receipt.receiptId := by
  intro receipt member
  obtain ⟨entry, isEntry, rfl⟩ := mem_map.mp member
  exact ⟨entry, by rw [posted.deliveries_eq]; exact mem_append_right _ isEntry, rfl⟩

theorem Step.receiptsBacked {operation : Operation}
    (step : Step sha256 operation before after) (backed : before.ReceiptsBacked)
    : after.ReceiptsBacked := by
  have extends_ := step.extends
  cases step with
  | created effect =>
    refine backed.insert extends_ effect.idempotency_eq ⟨?_, ?_⟩
    · rw [effect.receipt_eq]
      exact effect.posted.delivered
    · rintro _ ⟨⟩
      rw [effect.receipt_eq, effect.dispatches_eq, find?_append]
      exact Option.isSome_iff_exists.mp (by
        simp [DispatchContextReceipt.dispatch])
  | opened effect | answered effect | completed effect =>
    refine backed.insert extends_ effect.idempotency_eq ⟨?_, fun _ created => by cases created⟩
    rw [effect.receipt_eq]
    exact effect.posted.delivered
  | deadlineSet effect =>
    refine backed.insert extends_ effect.idempotency_eq ⟨?_, fun _ created => by cases created⟩
    intro receipt member
    cases member
  | expired effect => exact backed.same extends_ effect.idempotency_eq
  | woken effect | read effect | batchRead _ _ effect =>
    exact backed.same extends_ (by rw [effect.after_eq])

theorem Reachable.receiptsBacked (reachable : Reachable sha256 state)
    : state.ReceiptsBacked := by
  obtain ⟨dispatches, seed, operations, seeded, rfl⟩ := reachable
  refine store_invariant (fun _ _ _ step _ => step.receiptsBacked) operations
    (seeded_coherent seeded) ?_
  obtain ⟨_, rfl⟩ := seeded_ok.mp seeded
  intro key entry found
  simp at found

/-- Every delivery of a repeated receipt is the current receipt of the delivery listed
there first. -/
theorem StoredReceipt.Backed.current (backed : stored.Backed state)
    : List.Forall₂
        (fun original current =>
          current.receiptId = original.receiptId
          ∧ ∃ delivery ∈ state.deliveries, delivery.receipt = current)
        stored.deliveries (state.replay stored).deliveries := by
  have canonical
      : (state.replay stored).deliveries
        = state.canonicalizeDeliveries stored.deliveries := by
    cases stored <;> rfl
  rw [canonical]
  refine forall₂_map_right_iff.mpr (forall₂_same.mpr (fun receipt member => ?_))
  obtain ⟨delivery, isDelivery, same⟩ := backed.delivered receipt member
  cases found : state.deliveries.find? (·.receipt.receiptId == receipt.receiptId) with
  | none =>
    have absent := find?_eq_none.mp found delivery isDelivery
    simp [same] at absent
  | some canonical =>
    exact ⟨by simpa using find?_some found, canonical,
      mem_of_find?_eq_some found, rfl⟩

end Backing

/-! ### Runs -/

/-- What a repeated request shares with the original. -/
theorem Operation.Repeats.same {repeated original : Operation}
    (repeats : repeated.Repeats original)
    : repeated.idempotency? = original.idempotency?
      ∧ repeated.deadlineWriter? = original.deadlineWriter?
      ∧ ∀ stored, repeated.stores stored = original.stores stored := by
  unfold Operation.Repeats at repeats
  split at repeats
  · obtain ⟨rfl, rfl⟩ := repeats
    exact ⟨rfl, rfl, fun stored => by cases stored <;> rfl⟩
  · exact repeats ▸ ⟨rfl, rfl, fun _ => rfl⟩

/-- Only deadline requests for the same dispatch share the key of one. -/
theorem Operation.deadline_of_key {operation : Operation}
    (keyed : operation.idempotency? = some (request.key, fingerprint))
    : ∃ other, operation = .setDispatchDeadline other fingerprint
      ∧ other.target = request.target := by
  cases operation with
  | createRun other _ _ =>
    obtain ⟨same, _⟩ := Prod.mk.inj (Option.some.inj keyed)
    simp [CreateRunRequest.key, SetDispatchDeadlineRequest.key, authorityOperationKey,
      scopedOperationKey, operationKey, stableKey_inj] at same
  | openInteraction other _ | answer other _ | complete other _ =>
    obtain ⟨same, _⟩ := Prod.mk.inj (Option.some.inj keyed)
    exact absurd (scopedOperationKey_inj.mp same).1 (by decide)
  | setDispatchDeadline other _ =>
    obtain ⟨same, rfl⟩ := Prod.mk.inj (Option.some.inj keyed)
    exact ⟨other, rfl, (scopedOperationKey_inj.mp same).2.1⟩
  | _ => cases keyed

/-- How the store refuses a request under the key of another one. -/
theorem perform_refuses {sha256 : String → String} {state : StoreState}
    {original other : Operation}
    (keyed : original.idempotency? = some (key, entry.fingerprint))
    (otherKeyed : other.idempotency? = some (key, fingerprint))
    (different : fingerprint ≠ entry.fingerprint)
    (seen : state.idempotency.get? key = some entry) (granted : original.Granted state)
    : state.perform sha256 other
      = (.error
          (if other.deadlineWriter? = original.deadlineWriter? then .idempotencyConflict
          else .capabilityDenied),
        state) := by
  by_cases writers : other.deadlineWriter? = original.deadlineWriter?
  · have otherGranted : other.Granted state := by
      unfold Operation.Granted
      rwa [writers]
    rw [if_pos writers, perform,
      transition_conflicts otherKeyed seen different otherGranted]
  · rw [if_neg writers]
    cases writer : original.deadlineWriter? with
    | none =>
      -- then the other is a deadline request, and so is the original
      cases other with
      | setDispatchDeadline request _ =>
        cases otherKeyed
        obtain ⟨_, rfl, _⟩ := deadline_of_key keyed
        cases writer
      | _ => exact absurd writer.symm writers
    | some named =>
      cases original with
      | setDispatchDeadline request _ =>
        cases keyed
        obtain ⟨denied, rfl, sameTarget⟩ := deadline_of_key otherKeyed
        obtain ⟨dispatch, found, capable⟩ := granted _ _ rfl
        have incapable : dispatch.interactionCapability ≠ denied.writeCapability := by
          intro same
          exact writers (by
            simp [deadlineWriter?, sameTarget, ← same, ← capable])
        rw [← sameTarget] at found
        rw [perform, transition_denied found incapable]
      | _ => cases writer

end Dure.Orchestration
