import Dure.Orchestration.Store.Validity

/-! The representation check along runs. Two calls can leave a store that fails it: a wake
requested on a delivery without an endpoint, and a deadline message whose derived id a client
has taken before. Every other call of an admitted run keeps the store valid.
-/

namespace Dure.Orchestration

open Library Check StoreState
open Library.Update (map_ok get_ok get_bind_ok check_ok)

/-- The call passed the contract's and the service's own checks: requests are valid, create
contexts match their request, fingerprints are digests and clocks are not negative. -/
def Operation.Admitted (sha256 : String → String) : Operation → Prop
  | .createRun request context fingerprint =>
    checkCreateRun sha256 request context fingerprint = .ok () ∧ isHexDigest fingerprint
  | .openInteraction request fingerprint =>
    request.validate = .ok () ∧ isHexDigest fingerprint
  | .answer request fingerprint => request.validate = .ok () ∧ isHexDigest fingerprint
  | .complete request fingerprint => request.validate = .ok () ∧ isHexDigest fingerprint
  | .transitionDeliveryWake request => request.validate = .ok ()
  | .readEvents request fingerprint _ =>
    request.validate = .ok () ∧ ∀ text, fingerprint = some text → isHexDigest text
  | .readEventsBatch _ requests =>
    ∀ item ∈ requests, item.1.request.validate = .ok ()
      ∧ ∀ text, item.1.acknowledgementFingerprint = some text → isHexDigest text
  | .setDispatchDeadline request fingerprint =>
    request.validate = .ok () ∧ isHexDigest fingerprint
  | .expireDispatchDeadlines nowMs => 0 ≤ nowMs
  | .interaction request => request.validate = .ok ()
  | .interactionProgress request => request.validate = .ok ()
  | .inspectEvents _ => True
  | .dispatchDeadline request => request.validate = .ok ()

/-- No interaction of `authority` has the id of the deadline message announced at `cursor`. -/
def StoreState.DeadlineIdFree (sha256 : String → String) (state : StoreState)
    (authority : AuthorityScope) (cursor : EventCursor)
    : Prop :=
  ∀ interaction ∈ state.interactions, interaction.common.target.authority = authority
    → interaction.common.id.value ≠ deadlineMessageId sha256 authority cursor

/-- The request sets a deadline in `state`: it repeats no earlier one and passes the checks
on its dispatch. -/
def SetDispatchDeadlineRequest.Applies (request : SetDispatchDeadlineRequest)
    (state : StoreState)
    : Prop :=
  state.idempotency.get? request.key = none
    ∧ ∃ dispatch, state.dispatches.find? (·.target == request.target) = some dispatch
      ∧ dispatch.interactionCapability = request.writeCapability
      ∧ dispatch.revision = request.expectedDispatchRevision
      ∧ dispatch.state ≠ .completed

/-- The dispatches an expiry announces, in the order in which it does. -/
def StoreState.overdue (state : StoreState) (nowMs : Int) : List DispatchRecord :=
  state.dispatches.filter (fun dispatch => (dispatch.overdue? nowMs).isSome)

/-- No wake is authorized for a delivery without an endpoint, and the ids of the deadline
messages the call writes are unused. -/
def Operation.Safe (sha256 : String → String) (state : StoreState) : Operation → Prop
  | .transitionDeliveryWake request =>
    ∀ delivery ∈ state.deliveries, delivery.receipt.receiptId = request.receiptId
      → state.authorizeDeliveryEndpoint request.authority delivery request.endpointFence
          request.wakeCapability = .ok ()
      → delivery.receipt.endpoint ≠ none
  | .setDispatchDeadline request _ =>
    request.Applies state
      → state.DeadlineIdFree sha256 request.target.authority state.nextCursor
  | .expireDispatchDeadlines nowMs =>
    ∀ place dispatch, (state.overdue nowMs)[place]? = some dispatch
      → state.DeadlineIdFree sha256 dispatch.target.authority (state.nextCursor + place)
  | _ => True

/-! ### Commits keep the records valid -/

section Commits

variable {sha256 : String → String} {before after : StoreState}

/-- Updating the dispatch found keeps all dispatches valid when it keeps that one valid. -/
theorem StoreState.Valid.updateFirst (valid : before.Valid)
    (found : before.dispatches.find? (·.target == target) = some dispatch)
    (updated : after.dispatches = updateFirst (·.target == target) update before.dispatches)
    (stays : dispatch.validate = .ok () → (update dispatch).validate = .ok ())
    : ∀ dispatch ∈ after.dispatches, dispatch.validate = .ok () := by
  intro other member
  rw [updated] at member
  rcases mem_updateFirst member with old | ⟨old, isOld, rfl⟩
  · exact valid.dispatches other old
  · obtain rfl : dispatch = old := by simpa [found] using isOld
    exact stays (valid.dispatches dispatch (List.mem_of_find?_eq_some found))

theorem Created.keepsValid
    (effect : Created sha256 request context fingerprint entries receipt before after)
    (admitted : (Operation.createRun request context fingerprint).Admitted sha256)
    (valid : before.Valid)
    : after.Valid := by
  obtain ⟨requestValid, contextValid, _⟩ := checkCreateRun_ok admitted.1
  simp only [CreateRunRequest.validate, seq_ok, validateTimestamp_ok] at requestValid
  simp only [DispatchContextReceipt.validate, seq_ok] at contextValid
  obtain ⟨_, target, _, _, _, _, _, _, _, _, _, _, _, _, audience, _, _⟩ := contextValid
  obtain ⟨_, authority, kind, _, _, _, _, _, key, time⟩ := requestValid
  have coordinator := AudienceGrant.valid_parts
    ((Audience.validate_ok.mp audience).2.1 context.coordinatorGrant (by simp))
  refine valid.post effect.posted ?_ ?_ (effect.interactions_eq ▸ valid.interactions)
    (effect.interactions_eq ▸ valid.interactionKeys) ?_
  · exact {
      target
      actor := coordinator.1
      recordedAtMs := time
      kind
      silent := by simp [CreateRunRequest.posting]
      grants := by simpa [CreateRunRequest.posting] using coordinator
    }
  · rw [effect.dispatches_eq]
    exact List.forall_mem_append.mpr
      ⟨valid.dispatches, List.forall_mem_singleton.mpr effect.valid⟩
  · rw [effect.idempotency_eq]
    exact idempotency_insert valid.idempotency
      (authorityOperationKey_valid (.literal (by decide) (by decide)) authority key) admitted.2

theorem Opened.keepsValid
    (effect : Opened sha256 request fingerprint dispatch entries receipt before after)
    (admitted : (Operation.openInteraction request fingerprint).Admitted sha256)
    (valid : before.Valid)
    : after.Valid := by
  have recordValid := effect.valid
  obtain ⟨id, target, _, _, _⟩ := InteractionRecord.valid_common recordValid
  rw [OpenInteractionRequest.record_common] at id target
  have requestValid := admitted.1
  simp only [OpenInteractionRequest.validate, seq_ok] at requestValid
  obtain ⟨interactions, keys⟩ := valid.append effect.interactions_eq recordValid (by
    rw [OpenInteractionRequest.record_common]
    exact interactionIdExists_false effect.unused)
  refine valid.post effect.posted ?_ ?_ interactions keys ?_
  · refine InteractionRecord.posting_valid recordValid ?_ ?_ ?_ ?_ ?_ ?_
    all_goals rw [OpenInteractionRequest.record_common]
    any_goals rfl
    intro kind silent
    simp only [OpenInteractionRequest.posting, OpenInteractionRequest.blocking] at silent
    split at silent
    · cases silent
    · rename_i draft
      cases silent
      rw [draft]
      rfl
  · refine valid.updateFirst effect.found effect.dispatches_eq fun dispatchValid => ?_
    obtain ⟨deadline, _, revision, blocking⟩ := DispatchRecord.valid_parts dispatchValid
    refine (request.update_sameContract dispatch).validate dispatchValid ?_ ?_ ?_
    all_goals unfold OpenInteractionRequest.update; split
    · exact deadline
    · exact deadline
    · exact revision
    · exact Nat.succ_ne_zero _
    · exact blocking
    · rename_i draft
      rw [draft] at id
      exact id
  · rw [effect.idempotency_eq]
    exact idempotency_insert valid.idempotency
      (scopedOperationKey_valid (.literal (by decide) (by decide)) target requestValid.2.1) admitted.2

theorem Answered.keepsValid (effect
      : Answered sha256 request fingerprint common response replyCapability dispatch entries
          receipt before after)
    (admitted : (Operation.answer request fingerprint).Admitted sha256)
    (valid : before.Valid)
    : after.Valid := by
  have requestValid := admitted.1
  simp only [AnswerDecisionRequest.validate, seq_ok, validateTimestamp_ok] at requestValid
  obtain ⟨_, key, _, target, _, _, author, _, time, _⟩ := requestValid
  have decisionValid :=
    valid.interactions _ (List.mem_of_find?_eq_some effect.decision_found)
  obtain ⟨id, _⟩ := InteractionRecord.valid_common decisionValid
  have answeredValid : (request.answered common response replyCapability).validate = .ok () := by
    simp only [InteractionRecord.validate, InteractionRecord.common, InteractionCommon.validate,
      AnswerDecisionRequest.answered, DecisionState.validate, seq_ok, validateTimestamp_ok,
      Revision.validate, rejectIf_ok] at decisionValid ⊢
    obtain ⟨⟨idOk, targetOk, authorOk, audienceOk, _, titleOk, textOk, timeOk⟩, responseOk,
      replyOk, granted, _⟩ := decisionValid
    exact ⟨⟨idOk, targetOk, authorOk, audienceOk, rejectIf_ok.mpr (Nat.succ_ne_zero _), titleOk,
      textOk, timeOk⟩, responseOk, replyOk, granted, author, key, time, effect.answer_valid⟩
  refine valid.post effect.posted ?_ ?_ ?_ ?_ ?_
  · exact {
      target
      actor := author
      recordedAtMs := time
      kind := id
      silent := by
        rintro _ ⟨⟩
        exact id
      grants := InteractionRecord.valid_grants decisionValid
    }
  · refine valid.updateFirst effect.found effect.dispatches_eq fun dispatchValid => ?_
    obtain ⟨deadline, _, _, _⟩ := DispatchRecord.valid_parts dispatchValid
    exact dispatch.unblock_sameContract.validate dispatchValid deadline (Nat.succ_ne_zero _) rfl
  · intro interaction member
    rw [effect.interactions_eq] at member
    rcases mem_updateFirst member with old | ⟨_, _, rfl⟩
    · exact valid.interactions interaction old
    · exact answeredValid
  · rw [effect.interactions_eq, map_updateFirst interactionKey]
    · exact valid.interactionKeys
    · intro old isOld
      obtain rfl := Option.some.inj (effect.decision_found.symm.trans isOld)
      rfl
  · rw [effect.idempotency_eq]
    exact idempotency_insert valid.idempotency
      (scopedOperationKey_valid (.literal (by decide) (by decide)) target key) admitted.2

theorem Completed.keepsValid
    (effect : Completed sha256 request fingerprint dispatch entries receipt before after)
    (admitted : (Operation.complete request fingerprint).Admitted sha256)
    (valid : before.Valid)
    : after.Valid := by
  have requestValid := admitted.1
  simp only [CompleteDispatchRequest.validate, seq_ok] at requestValid
  have target := (InteractionRecord.valid_common effect.valid).2.1
  obtain ⟨interactions, keys⟩ := valid.append effect.interactions_eq effect.valid
    (interactionIdExists_false effect.unused)
  refine valid.post effect.posted ?_ ?_ interactions keys ?_
  · exact InteractionRecord.posting_valid effect.valid rfl rfl rfl rfl rfl (by
      simp [CompleteDispatchRequest.posting])
  · refine valid.updateFirst effect.found effect.dispatches_eq fun dispatchValid => ?_
    obtain ⟨deadline, _, _, blocking⟩ := DispatchRecord.valid_parts dispatchValid
    refine dispatch.finish_sameContract.validate dispatchValid deadline (Nat.succ_ne_zero _) ?_
    -- an active dispatch names no blocking decision, and completing keeps the field
    cases blockedBy : dispatch.blockedBy with
    | none => simp [DispatchRecord.validateBlocking, DispatchRecord.finish, blockedBy]
    | some decision =>
      simp [DispatchRecord.validateBlocking, effect.active, blockedBy] at blocking
  · rw [effect.idempotency_eq]
    exact idempotency_insert valid.idempotency
      (scopedOperationKey_valid (.literal (by decide) (by decide)) target requestValid.2.1) admitted.2

theorem DeadlineSet.keepsValid {id} (effect
      : DeadlineSet sha256 request fingerprint dispatch id entries receipt before after)
    (admitted : (Operation.setDispatchDeadline request fingerprint).Admitted sha256)
    (free : before.DeadlineIdFree sha256 request.target.authority before.nextCursor)
    (valid : before.Valid)
    : after.Valid := by
  have requestValid := admitted.1
  simp only [SetDispatchDeadlineRequest.validate, seq_ok, whenSome_ok,
    validateTimestamp_ok] at requestValid
  obtain ⟨_, target, _, _, key, _, due⟩ := requestValid
  obtain ⟨interactions, keys⟩ := valid.append effect.interactions_eq effect.valid
    fun interaction member authority same =>
      free interaction member authority (same ▸ effect.id_eq)
  refine valid.post effect.posted ?_ ?_ interactions keys ?_
  · exact InteractionRecord.posting_valid effect.valid rfl rfl rfl rfl rfl (by
      simp [deadlinePosting])
  · refine valid.updateFirst effect.found effect.dispatches_eq fun dispatchValid => ?_
    obtain ⟨_, _, _, blocking⟩ := DispatchRecord.valid_parts dispatchValid
    refine (request.update_sameContract dispatch).validate dispatchValid ?_
      (Nat.succ_ne_zero _) blocking
    intro deadline isDeadline
    obtain ⟨dueAtMs, isDue, rfl⟩ := Option.map_eq_some_iff.mp isDeadline
    exact (due dueAtMs isDue).1
  · rw [effect.idempotency_eq]
    exact idempotency_insert valid.idempotency
      (scopedOperationKey_valid (.literal (by decide) (by decide)) target key) admitted.2

theorem Expired.keepsValid {id}
    (effect : Expired sha256 nowMs index dispatch deadline id entries before after)
    (free : before.DeadlineIdFree sha256 dispatch.target.authority before.nextCursor)
    (valid : before.Valid)
    : after.Valid := by
  obtain ⟨interactions, keys⟩ := valid.append effect.interactions_eq effect.valid
    fun interaction member authority same =>
      free interaction member authority (same ▸ effect.id_eq)
  refine valid.post effect.posted ?_ ?_ interactions keys
    (effect.idempotency_eq ▸ valid.idempotency)
  · exact InteractionRecord.posting_valid effect.valid rfl rfl rfl rfl rfl (by
      simp [deadlinePosting])
  · intro other member
    rw [effect.dispatches_eq] at member
    rcases mem_modify member with old | ⟨old, isOld, rfl⟩
    · exact valid.dispatches other old
    · have dispatchValid := valid.dispatches old (List.mem_of_getElem? isOld)
      obtain ⟨due, _, revision, blocking⟩ := DispatchRecord.valid_parts dispatchValid
      refine (old.markOverdue_sameContract _).validate dispatchValid ?_ revision blocking
      intro marked isMarked
      obtain ⟨unmarked, isUnmarked, rfl⟩ := Option.map_eq_some_iff.mp isMarked
      exact due unmarked isUnmarked

end Commits

section Deliveries

variable {sha256 : String → String} {before after : StoreState}

attribute [local simp] DeliveryWakeReceipt.shapeIsValid DeliveryWakeReceipt.validate
  validateTimestamp_ok

/-- A move asked for by a valid request leaves a valid wake receipt, and a wake that may
reach the worker needs the wake capability. -/
theorem WakeMove.valid (move : WakeMove request unread current replacement)
    (requestValid : request.validate = .ok ())
    : replacement.validate = .ok ()
      ∧ (replacement.state ≠ .queuedUntilNextTurn → request.wakeCapability ≠ none) := by
  simp only [TransitionDeliveryWakeRequest.validate, seq_ok, validateTimestamp_ok,
    rejectIf_ok] at requestValid
  obtain ⟨_, _, _, _, _, transition, time, capable⟩ := requestValid
  have literal : (⟨"wake_capability_unavailable"⟩ : WakeReasonCode).validate = .ok () := by
    decide
  cases move with
  | refused asked first incapable =>
    simp [time, literal]
  | requested asked first isCapable =>
    simp [time, isCapable]
  | claimed asked ready =>
    simp only [asked, ne_eq, reduceCtorEq, not_false_eq_true, true_and] at capable
    simp [time, capable]
  | triggered asked claimed =>
    rw [asked] at transition
    have effectValid := transition
    simp only [asked, ne_eq, reduceCtorEq, not_false_eq_true, true_and] at capable
    simp only [DeliveryWakeTransition.validate] at effectValid
    simp [time, capable, effectValid]
  | deferred asked claimed =>
    rw [asked] at transition
    have reasonValid := transition
    simp only [DeliveryWakeTransition.validate] at reasonValid
    simp [time, reasonValid]

theorem Woken.keepsValid (effect : Woken request delivery replacement before after)
    (requestValid : request.validate = .ok ()) (endpoint : delivery.receipt.endpoint ≠ none)
    (valid : before.Valid)
    : after.Valid := by
  obtain ⟨wakeValid, capable⟩ := effect.moves.valid requestValid
  obtain ⟨_, _, _, capability, _⟩ := authorizeDeliveryEndpoint_ok effect.authorized
  rw [effect.after_eq]
  refine { valid with deliveries := ?_ }
  intro other member
  rcases mem_updateFirst member with old | ⟨old, isOld, rfl⟩
  · exact valid.deliveries other old
  · obtain rfl : delivery = old := by simpa [effect.found] using isOld
    have deliveryValid := valid.deliveries delivery (List.mem_of_find?_eq_some isOld)
    obtain ⟨idOk, participantOk, endpointOk, _⟩ :=
      DeliveryReceipt.validate_ok.mp deliveryValid.receipt
    refine ⟨DeliveryReceipt.validate_ok.mpr ⟨idOk, participantOk, endpointOk, ?_⟩,
      deliveryValid.deliveryCapability, deliveryValid.wakeCapability, ?_⟩
    · rintro _ ⟨⟩
      exact ⟨wakeValid, endpoint⟩
    · rintro _ ⟨⟩ reaches
      exact capability ▸ capable reaches

/-- The check of a delivery does not look at its progress. -/
theorem DeliveryEntry.Valid.progress {delivery successor : DeliveryEntry}
    (valid : delivery.Valid) (same : delivery.SameAddress successor)
    (wake : successor.receipt.wake = delivery.receipt.wake)
    : successor.Valid where
  receipt := by
    have receiptOk := DeliveryReceipt.validate_ok.mp valid.receipt
    rw [DeliveryReceipt.validate_ok, same.receiptId, same.participant, same.endpoint, wake]
    exact receiptOk
  deliveryCapability := same.deliveryCapability ▸ valid.deliveryCapability
  wakeCapability := same.wakeCapability ▸ valid.wakeCapability
  claimable := by
    rw [wake, same.wakeCapability]
    exact valid.claimable

theorem EventsRead.keepsValid (effect
      : EventsRead request fingerprint clock selected observedAtMs receipt before after)
    (requestValid : request.validate = .ok ())
    (digest : ∀ text, fingerprint = some text → isHexDigest text) (valid : before.Valid)
    : after.Valid := by
  rw [effect.after_eq]
  refine { valid with deliveries := ?_, acknowledgements := ?_ }
  · intro delivery member
    obtain ⟨old, isOld, rfl⟩ := List.mem_map.mp member
    exact (valid.deliveries old isOld).progress
      (before.readDelivery_continues request selected observedAtMs old).toSameAddress
      (before.readDelivery_wake request selected observedAtMs old)
  · unfold readAcknowledgements
    split
    · rename_i acknowledgement text requested
      split
      · exact valid.acknowledgements
      · simp only [ReadEventsRequest.validate, seq_ok, whenSome_ok] at requestValid
        obtain ⟨_, authority, reader, _, _, _, fence, acknowledged⟩ := requestValid
        have keyOk := acknowledged acknowledgement requested
        simp only [ReadEventsRequest.validateAcknowledgement, seq_ok] at keyOk
        intro key stored found
        rw [OrderedMap.get?_insert] at found
        split at found
        · rename_i same
          cases found
          exact ⟨same ▸ acknowledgementKey_valid authority reader
            (fun present isFence => (fence present isFence).1) keyOk.1, digest _ rfl⟩
        · exact valid.acknowledgements key stored found
    · exact valid.acknowledgements

end Deliveries

theorem deadlineMessageId_inj (injective : Function.Injective sha256)
    (same
      : deadlineMessageId sha256 authority cursor = deadlineMessageId sha256 authority' cursor')
    : cursor = cursor' := by
  have characters := congrArg String.toList same
  simp only [deadlineMessageId, String.toList_append, List.append_cancel_left_eq,
    String.toList_inj] at characters
  have hashes := injective characters
  simp only [stableKey_inj, List.cons.injEq, and_true] at hashes
  exact LengthPrefixed.natToString_injective hashes.2

/-- The loop invariant at `index`: the store is valid, the dispatches from `index` on are as
they were, one cursor was used for each overdue dispatch before them, and the ids of the
messages still to be written are free. -/
structure ExpiryInvariant (sha256 : String → String) (nowMs : Int) (start state : StoreState)
    (index : Nat)
    : Prop where
  valid : state.Valid
  dispatches : state.dispatches.drop index = start.dispatches.drop index
  cursor
    : state.nextCursor
      = start.nextCursor
        + ((start.dispatches.take index).filter fun dispatch =>
            (dispatch.overdue? nowMs).isSome).length
  free
    : ∀ place dispatch, (start.overdue nowMs)[place]? = some dispatch
      → state.nextCursor ≤ start.nextCursor + place
      → state.DeadlineIdFree sha256 dispatch.target.authority (start.nextCursor + place)

section Expiry

variable {sha256 : String → String} {nowMs : Int} {start before after : StoreState}
  {index : Nat}

section

variable (holds : ExpiryInvariant sha256 nowMs start before index)
include holds

/-- The loop reads the dispatch at `index` as it was at the start. -/
theorem ExpiryInvariant.dispatch_start
    : before.dispatches[index]? = start.dispatches[index]? := by
  have heads := congrArg (·[0]?) holds.dispatches
  simpa only [List.getElem?_drop, Nat.add_zero] using heads

theorem ExpiryInvariant.skip (timely
      : ∀ dispatch, before.dispatches[index]? = some dispatch
          → dispatch.overdue? nowMs = none)
    : ExpiryInvariant sha256 nowMs start before (index + 1) := by
  refine { holds with dispatches := ?_, cursor := ?_ }
  · rw [← List.drop_drop, ← List.drop_drop, holds.dispatches]
  · rw [holds.dispatch_start] at timely
    rw [holds.cursor, List.take_add_one, List.filter_append]
    cases found : start.dispatches[index]? with
    | none => simp
    | some dispatch => simp [timely dispatch found]

theorem ExpiryInvariant.announce (injective : Function.Injective sha256)
    {dispatch deadline id entries}
    (effect : Expired sha256 nowMs index dispatch deadline id entries before after)
    : ExpiryInvariant sha256 nowMs start after (index + 1) := by
  have found : start.dispatches[index]? = some dispatch :=
    holds.dispatch_start ▸ effect.found
  have next : after.nextCursor = before.nextCursor + 1 := effect.posted.nextCursor_eq
  -- the dispatch stands in the overdue list behind those of the earlier indices
  have place
      : (start.overdue nowMs)[before.nextCursor - start.nextCursor]? = some dispatch := by
    rw [holds.cursor, Nat.add_sub_cancel_left]
    exact getElem?_filter_take found (by simp [effect.overdue])
  have reached : start.nextCursor ≤ before.nextCursor := by
    rw [holds.cursor]
    exact Nat.le_add_right _ _
  refine ⟨?_, ?_, ?_, ?_⟩
  · have free := holds.free _ dispatch place (by omega)
    rw [Nat.add_sub_cancel' reached] at free
    exact effect.keepsValid free holds.valid
  · rw [effect.dispatches_eq, List.drop_modify_of_lt _ _ _ _ (Nat.lt_add_one index),
      ← List.drop_drop, ← List.drop_drop, holds.dispatches]
  · rw [next, holds.cursor, List.take_add_one, List.filter_append, found]
    simp [effect.overdue, Nat.add_assoc]
  · intro other otherDispatch isOther later interaction member authority
    rw [effect.interactions_eq] at member
    rcases List.mem_append.mp member with old | new
    · exact holds.free other otherDispatch isOther (by omega) interaction old authority
    · -- the new message has the id of an earlier cursor
      rw [List.mem_singleton.mp new]
      intro same
      have cursors : before.nextCursor = start.nextCursor + other :=
        deadlineMessageId_inj injective (effect.id_eq.symm.trans same)
      omega

end

end Expiry

/-! ### Runs -/

/-- Every read of an admitted batch keeps the records valid. -/
theorem BatchRead.keepsValid (batch : BatchRead authority items results before after)
    (admitted
      : ∀ item ∈ items, item.1.request.validate = .ok ()
        ∧ ∀ text, item.1.acknowledgementFingerprint = some text → isHexDigest text)
    (valid : before.Valid)
    : after.Valid := by
  induction batch with
  | nil => exact valid
  | read _ first _ ih =>
    obtain ⟨requestValid, digest⟩ := admitted _ List.mem_cons_self
    exact ih (fun item member => admitted item (List.mem_cons_of_mem _ member))
      (first.keepsValid requestValid digest valid)
  | failed _ _ ih =>
    exact ih (fun item member => admitted item (List.mem_cons_of_mem _ member)) valid

/-- A successful call that was admitted and is safe keeps the records valid. -/
theorem transition_keepsValid {sha256 : String → String}
    (injective : Function.Injective sha256) {operation : Operation}
    (applied : operation.transition sha256 before = .ok reply after)
    (admitted : operation.Admitted sha256) (safe : operation.Safe sha256 before)
    (valid : before.Valid)
    : after.Valid := by
  cases operation with
  | createRun request context fingerprint =>
    obtain ⟨_, applied, _⟩ := map_ok.mp applied
    rcases createRun_ok applied with ⟨_, _, _, rfl⟩ | ⟨_, effect⟩
    · exact valid
    · exact effect.keepsValid admitted valid
  | openInteraction request fingerprint =>
    obtain ⟨_, applied, _⟩ := map_ok.mp applied
    rcases openInteraction_ok applied with ⟨_, _, _, rfl⟩ | ⟨_, _, effect⟩
    · exact valid
    · exact effect.keepsValid admitted valid
  | answer request fingerprint =>
    obtain ⟨_, applied, _⟩ := map_ok.mp applied
    rcases answer_ok applied with ⟨_, _, _, rfl⟩ | ⟨_, _, _, _, _, effect⟩
    · exact valid
    · exact effect.keepsValid admitted valid
  | complete request fingerprint =>
    obtain ⟨_, applied, _⟩ := map_ok.mp applied
    rcases complete_ok applied with ⟨_, _, _, rfl⟩ | ⟨_, _, effect⟩
    · exact valid
    · exact effect.keepsValid admitted valid
  | transitionDeliveryWake request =>
    obtain ⟨_, applied, _⟩ := map_ok.mp applied
    rcases transitionDeliveryWake_ok applied with ⟨_, rfl⟩ | ⟨delivery, _, effect, _⟩
    · exact valid
    · have named : delivery.receipt.receiptId = request.receiptId := by
        simpa using List.find?_some effect.found
      have endpoint := safe delivery (List.mem_of_find?_eq_some effect.found) named
        effect.authorized
      exact effect.keepsValid admitted endpoint valid
  | readEvents request fingerprint clock =>
    obtain ⟨_, read, _⟩ := map_ok.mp applied
    obtain ⟨⟨_, _, effect⟩, _⟩ := readEvents_ok read
    exact effect.keepsValid admitted.1 admitted.2 valid
  | readEventsBatch authority requests =>
    obtain ⟨_, read, _⟩ := map_ok.mp applied
    exact (readEventsItems_ok read).keepsValid admitted valid
  | setDispatchDeadline request fingerprint =>
    obtain ⟨_, applied, _⟩ := map_ok.mp applied
    rcases setDispatchDeadline_ok applied with ⟨_, _, _, rfl⟩ | ⟨dispatch, _, _, effect⟩
    · exact valid
    · have free := safe ⟨effect.unseen, dispatch, effect.found, effect.capability,
        effect.revision, effect.unfinished⟩
      exact effect.keepsValid admitted free valid
  | expireDispatchDeadlines nowMs =>
    obtain ⟨_, applied, _⟩ := map_ok.mp applied
    have start : ExpiryInvariant sha256 nowMs before before 0 :=
      ⟨valid, rfl, rfl, fun place dispatch found _ => safe place dispatch found⟩
    exact (expireDispatchDeadlines_induction
      (fun index state => ExpiryInvariant sha256 nowMs before state index)
      (fun _ _ timely holds => holds.skip timely)
      (fun _ _ _ _ _ _ _ effect holds => holds.announce injective effect) applied
      start).valid
  | interaction request | interactionProgress request =>
    obtain ⟨_, got, _⟩ := map_ok.mp applied
    exact (get_ok.mp got).2 ▸ valid
  | inspectEvents inspection | dispatchDeadline request =>
    simp only [Operation.transition, get_bind_ok, map_ok, check_ok] at applied
    obtain ⟨_, ⟨_, rfl⟩, _⟩ := applied
    exact valid

theorem StoreState.seeded_valid {dispatches : List DispatchRecord}
    (seeded : StoreState.seeded dispatches = .ok state)
    : state.Valid := by
  obtain ⟨⟨valid, _⟩, rfl⟩ := seeded_ok.mp seeded
  constructor
  · exact valid
  all_goals simp

/-- In a run of admitted and safe calls from a seeded store, the snapshot passes the
representation check after every call. -/
theorem representation_of_safe_run {sha256 : String → String}
    (injective : Function.Injective sha256) {dispatches : List DispatchRecord}
    {seed : StoreState} (seeded : StoreState.seeded dispatches = .ok seed)
    {operations : List Operation}
    (admitted : ∀ operation ∈ operations, operation.Admitted sha256)
    (safe
      : (store sha256).Follows (fun state operation => operation.Safe sha256 state) seed
          operations)
    : ∀ taken, taken <+: operations
      → ((store sha256).after seed taken).validate sha256 = .ok () := by
  rintro taken ⟨rest, rfl⟩
  have safeTaken := (((store sha256).follows_append seed taken rest).mp safe).1
  have admittedTaken : ∀ operation ∈ taken, operation.Admitted sha256 :=
    fun operation member => admitted operation (List.mem_append_left _ member)
  have valid : ((store sha256).after seed taken).Valid := by
    refine (safeTaken.and admittedTaken).invariant ?_ (seeded_valid seeded)
    intro state operation allowed valid
    exact perform_keeps
      (fun _ _ applied => transition_keepsValid injective applied allowed.2 allowed.1 valid) valid
  exact validate_of_valid
    (store_coherent taken (seeded_coherent seeded)) valid

theorem sampleOpen_admitted
    : (Operation.openInteraction sampleOpen sampleDigest).Admitted sampleSha256 :=
  ⟨by decide +kernel, by decide +kernel⟩

/-- Witness: the worker's update to its coordinator is an admitted and safe call. -/
theorem representation_of_sample_run
    : StoreState.seeded [sampleDispatch] = .ok sampleSeed
      ∧ ((store sampleSha256).after sampleSeed
          [.openInteraction sampleOpen sampleDigest]).validate sampleSha256 = .ok () :=
  ⟨sampleSeed_seeded,
    representation_of_safe_run sampleSha256_injective sampleSeed_seeded
      (List.forall_mem_singleton.mpr sampleOpen_admitted) ⟨trivial, trivial⟩ _
      (List.prefix_refl _)⟩

/-- The wake request is accepted, and the store it leaves fails its representation check. -/
theorem representation_lost_by_wake
    : StoreState.seeded [sampleDispatch] = .ok sampleSeed
      ∧ Function.Injective sampleSha256
      ∧ (Operation.openInteraction sampleOpen sampleDigest).Admitted sampleSha256
      ∧ (Operation.transitionDeliveryWake sampleWake).Admitted sampleSha256
      ∧ ((store sampleSha256).exchanges sampleSeed
            [.openInteraction sampleOpen sampleDigest, .transitionDeliveryWake sampleWake]).all
          (fun exchange => exchange.2.2.isOk)
      ∧ ((store sampleSha256).after sampleSeed
            [.openInteraction sampleOpen sampleDigest,
              .transitionDeliveryWake sampleWake]).validate sampleSha256
          = .error (.corrupt "delivery_receipt_invalid") :=
  ⟨sampleSeed_seeded, sampleSha256_injective, sampleOpen_admitted,
    by simp only [Operation.Admitted]; decide +kernel, by decide +kernel, by decide +kernel⟩

/-- A message under the id of the next deadline message, and then a deadline: the store
holds two interactions of one id and fails its representation check. -/
theorem interaction_ids_repeat_by_deadline
    : let message := sampleMessage
        ⟨deadlineMessageId sampleSha256 sampleTarget.authority 2⟩
      (Operation.openInteraction message sampleDigest).Admitted sampleSha256
      ∧ (Operation.setDispatchDeadline sampleDeadline sampleDigest).Admitted sampleSha256
      ∧ ((store sampleSha256).exchanges sampleSeed
            [.openInteraction message sampleDigest,
              .setDispatchDeadline sampleDeadline sampleDigest]).all
          (fun exchange => exchange.2.2.isOk)
      ∧ ((store sampleSha256).after sampleSeed
            [.openInteraction message sampleDigest,
              .setDispatchDeadline sampleDeadline sampleDigest]).validate sampleSha256
          = .error (.corrupt "interaction_duplicate") := by
  simp only [Operation.Admitted]
  decide +kernel

end Dure.Orchestration
