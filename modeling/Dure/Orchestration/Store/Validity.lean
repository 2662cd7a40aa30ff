import Dure.Orchestration.Store.Coherence
import Dure.Orchestration.Store.KeyBounds

/-! The representation check, read as properties of the snapshot: a coherent store whose
records are valid passes it, and a posting of valid news keeps the records valid.
-/

namespace Dure.Orchestration

open Library Check InteractionRecord

structure DeliveryEntry.Valid (delivery : DeliveryEntry) : Prop where
  receipt : delivery.receipt.validate = .ok ()
  deliveryCapability : delivery.deliveryCapability.validate = .ok ()
  wakeCapability
    : ∀ capability, delivery.wakeCapability = some capability → capability.validate = .ok ()
  claimable
    : ∀ wake, delivery.receipt.wake = some wake → wake.state ≠ .queuedUntilNextTurn
      → delivery.wakeCapability ≠ none

structure StoreState.Valid (state : StoreState) : Prop where
  dispatches : ∀ dispatch ∈ state.dispatches, dispatch.validate = .ok ()
  interactions : ∀ interaction ∈ state.interactions, interaction.validate = .ok ()
  interactionKeys : (state.interactions.map interactionKey).Nodup
  events : ∀ event ∈ state.events, event.validate = .ok ()
  deliveries : ∀ delivery ∈ state.deliveries, delivery.Valid
  idempotency
    : ∀ key entry, state.idempotency.get? key = some entry
      → validStoreKey key ∧ validDigest entry.fingerprint
  acknowledgements
    : ∀ key fingerprint, state.acknowledgementIdempotency.get? key = some fingerprint
      → validStoreKey key ∧ validDigest fingerprint

theorem corruptIf_ok : corruptIf result code = .ok u ↔ result = .ok () := by
  cases result <;> simp [corruptIf]

theorem DeliveryReceipt.validate_ok {receipt : DeliveryReceipt}
    : receipt.validate = .ok ()
      ↔ receipt.receiptId.validate = .ok () ∧ receipt.participant.validate = .ok ()
        ∧ (∀ endpoint, receipt.endpoint = some endpoint → endpoint.validate = .ok ())
        ∧ ∀ wake, receipt.wake = some wake
          → wake.validate = .ok () ∧ receipt.endpoint ≠ none := by
  simp [DeliveryReceipt.validate]

variable {sha256 : String → String} {state : StoreState} {delivery : DeliveryEntry}
  {posting : Posting}

/-- Only deliveries with an endpoint carry a wake. -/
theorem DeliveryEntry.Valid.wake_none (valid : delivery.Valid)
    (plain : delivery.receipt.endpoint = none)
    : delivery.receipt.wake = none := by
  obtain ⟨_, _, _, wakes⟩ := DeliveryReceipt.validate_ok.mp valid.receipt
  cases present : delivery.receipt.wake with
  | none => rfl
  | some wake => exact absurd plain (wakes wake present).2

theorem wakeIs_some {wake : Option DeliveryWakeReceipt} {state : DeliveryWakeState}
    (is : wakeIs wake state = true)
    : ∃ receipt, wake = some receipt ∧ receipt.state = state := by
  cases wake with
  | none => simp [wakeIs] at is
  | some receipt => exact ⟨receipt, rfl, by simpa [wakeIs] using is⟩

theorem StoreState.validateDeliveryEndpoint_ok (valid : delivery.Valid)
    (addressed : delivery.AddressedIn state event.target)
    : state.validateDeliveryEndpoint event delivery = .ok () := by
  unfold StoreState.validateDeliveryEndpoint
  rcases addressed with ⟨plain, incapable⟩ | ⟨endpoint, found, participant, capability, address,
    wakeCapability⟩
  · simp [plain, incapable, valid.wake_none plain]
  · simp only [address, found, seq_ok, rejectIf_ok, not_or, not_not, not_and]
    refine ⟨⟨participant, capability, trivial, wakeCapability⟩, ?_⟩
    rintro (pending | uncertain | triggered)
    · obtain ⟨wake, present, isState⟩ := wakeIs_some pending
      exact valid.claimable wake present (by simp [isState])
    · obtain ⟨wake, present, isState⟩ := wakeIs_some uncertain
      exact valid.claimable wake present (by simp [isState])
    · obtain ⟨wake, present, isState⟩ := wakeIs_some triggered
      exact valid.claimable wake present (by simp [isState])

theorem hasCursorInversion_false (increase : (events.map Event.cursor).Pairwise (· < ·))
    : hasCursorInversion events = false := by
  fun_induction hasCursorInversion events with
  | case1 => rfl
  | case2 => rfl
  | case3 first second rest ih =>
    obtain ⟨below, tail⟩ := List.pairwise_cons.mp increase
    have next : first.cursor < second.cursor := below _ List.mem_cons_self
    simp [next, ih tail]

/-- A coherent store of valid records passes the representation check. -/
theorem StoreState.validate_of_valid (coherent : state.Coherent sha256) (valid : state.Valid)
    : state.validate sha256 = .ok () := by
  have placed : ∀ target ∈ state.targets, state.dispatches.any (·.target == target) = true := by
    intro target member
    obtain ⟨dispatch, isDispatch, rfl⟩ := List.mem_map.mp member
    exact List.any_eq_true.mpr ⟨dispatch, isDispatch, by simp⟩
  simp only [StoreState.validate, seq_ok, distinct_ok, each_ok, rejectIf_ok, corruptIf_ok,
    pure_ok, and_true, not_not, List.not_mem_nil, not_false_eq_true, implies_true]
  refine ⟨⟨valid.dispatches, ?_⟩, ⟨?_, valid.interactionKeys⟩, ?_, ⟨?_, ?_⟩, ?_, ?_⟩
  · simpa [StoreState.targets, Function.comp_def]
      using coherent.targets_unique.map dispatchKey_injective
  · exact fun interaction member => ⟨valid.interactions interaction member,
      placed _ (coherent.interactions_placed interaction member)⟩
  · exact fun event member => ⟨valid.events event member,
      placed _ (coherent.events_placed event member)⟩
  · intro delivery member
    have isValid := valid.deliveries delivery member
    obtain ⟨event, isEvent, belongs⟩ := coherent.deliveries_placed delivery member
    refine ⟨isValid.receipt, ?_⟩
    unfold StoreState.validateDelivery
    rw [← belongs.cursor_eq, coherent.eventAt_mem isEvent, belongs.cursor_eq, belongs.identity]
    refine bind_ok.mpr ⟨_, rfl, ?_⟩
    simp only [seq_ok, rejectIf_ok, corruptIf_ok, whenSome_ok, ne_eq, not_true_eq_false,
      not_false_eq_true, true_and]
    exact ⟨isValid.deliveryCapability, isValid.wakeCapability,
      StoreState.validateDeliveryEndpoint_ok isValid belongs.addressed⟩
  · exact coherent.receipts_unique
  · rintro (zero | inverted | late)
    · exact coherent.next_positive.ne' zero
    · simp [hasCursorInversion_false coherent.cursors_increase] at inverted
    · cases isLast : state.events.getLast? with
      | none => simp [isLast] at late
      | some event =>
        have below := coherent.cursors_below event (List.mem_of_getLast? isLast)
        simp only [isLast, Option.any_some, decide_eq_true_eq] at late
        exact absurd late (Nat.not_le.mpr below)
  · rintro (receipt | acknowledgement)
    · obtain ⟨⟨key, entry⟩, member, bad⟩ := List.any_eq_true.mp receipt
      have good := valid.idempotency key entry (OrderedMap.get?_eq_some.mpr member)
      simp [good.1, good.2] at bad
    · obtain ⟨⟨key, fingerprint⟩, member, bad⟩ := List.any_eq_true.mp acknowledgement
      have good := valid.acknowledgements key fingerprint (OrderedMap.get?_eq_some.mpr member)
      simp [good.1, good.2] at bad

structure Posting.Valid (posting : Posting) : Prop where
  target : posting.target.validate = .ok ()
  actor : posting.actor.validate = .ok ()
  recordedAtMs : 0 ≤ posting.recordedAtMs
  kind : posting.kind.validate = .ok ()
  silent : ∀ kind, posting.silent = some kind → kind.validate = .ok ()
  grants
    : ∀ grant ∈ posting.grants,
        grant.participant.validate = .ok () ∧ grant.deliveryCapability.validate = .ok ()

theorem validateTimestamp_ok : validateTimestamp field value = .ok () ↔ 0 ≤ value := by
  simp [validateTimestamp]

theorem Posting.Valid.events (valid : posting.Valid) (cursor : EventCursor)
    : ∀ event ∈ posting.events cursor, event.validate = .ok () := by
  intro event member
  obtain ⟨target, actor, time, kind⟩ := Posting.mem_events member
  simp only [Event.validate, seq_ok, target, actor, time, validateTimestamp_ok]
  refine ⟨valid.target, valid.actor, valid.recordedAtMs, ?_⟩
  rcases kind with same | silent
  · rw [same]
    exact valid.kind
  · exact valid.silent event.kind silent

/-- A valid delivery is queued for a valid member, or for the worker of a valid dispatch. -/
theorem Addressee.Queued.valid {addressee : Addressee}
    (queued : addressee.Queued sha256 cursor delivery)
    (reached : state.Reaches target grants addressee)
    (members
      : ∀ grant ∈ grants,
          grant.participant.validate = .ok () ∧ grant.deliveryCapability.validate = .ok ())
    (dispatches : ∀ dispatch ∈ state.dispatches, dispatch.validate = .ok ())
    : delivery.Valid := by
  obtain ⟨id, made, rfl⟩ := queued
  have idValid : id.validate = .ok () := by
    unfold receiptId at made
    split at made
    · rename_i new
      cases made
      exact (BoundedReference.new_ok.mp new).2
    · cases made
  cases addressee with
  | member participant capability =>
    obtain ⟨grant, granted, rfl, rfl⟩ := reached
    obtain ⟨participant, capability⟩ := members grant granted
    refine ⟨DeliveryReceipt.validate_ok.mpr ⟨idValid, participant, ?_, ?_⟩, capability, ?_, ?_⟩
    all_goals simp [Addressee.entry, Addressee.endpoint, Addressee.wakeCapability]
  | worker endpoint =>
    obtain ⟨dispatch, found, rfl⟩ := Option.map_eq_some_iff.mp reached
    have valid := dispatches dispatch (List.mem_of_find?_eq_some found)
    simp only [DispatchRecord.validate, seq_ok] at valid
    obtain ⟨reference, participant, session, generation, capability, wake⟩ :=
      WorkerEndpoint.valid_parts valid.2.2.2.2.2.2.1
    refine ⟨DeliveryReceipt.validate_ok.mpr ⟨idValid, participant, ?_, ?_⟩, capability, wake,
      ?_⟩
    · rintro _ ⟨⟩
      simpa [DeliveryEndpointReceipt.validate, deliveryEndpointReceipt]
        using ⟨reference, session, generation⟩
    all_goals simp [Addressee.entry]

/-- A posting of valid news keeps the records valid when the rest of the step does. -/
theorem StoreState.Valid.post (valid : before.Valid)
    (posted : posting.Posted sha256 entries before after) (news : posting.Valid)
    (dispatches : ∀ dispatch ∈ after.dispatches, dispatch.validate = .ok ())
    (interactions : ∀ interaction ∈ after.interactions, interaction.validate = .ok ())
    (interactionKeys : (after.interactions.map interactionKey).Nodup)
    (idempotency
      : ∀ key entry, after.idempotency.get? key = some entry
        → validStoreKey key ∧ validDigest entry.fingerprint)
    : after.Valid where
  dispatches := dispatches
  interactions := interactions
  interactionKeys := interactionKeys
  events := by
    rw [posted.events_eq]
    intro event member
    rcases List.mem_append.mp member with old | new
    · exact valid.events event old
    · exact news.events _ event new
  deliveries := by
    rw [posted.deliveries_eq]
    intro delivery member
    rcases List.mem_append.mp member with old | new
    · exact valid.deliveries delivery old
    · obtain ⟨addressee, reached, queued⟩ := posted.queued delivery new
      exact queued.valid reached news.grants dispatches
  idempotency
  acknowledgements := posted.acknowledgements_eq ▸ valid.acknowledgements

/-- A dispatch that keeps its contract stays valid when its deadline, revision and blocking
do. -/
theorem DispatchRecord.SameContract.validate {before after : DispatchRecord}
    (same : before.SameContract after) (valid : before.validate = .ok ())
    (deadline : ∀ deadline, after.deadline = some deadline → 0 ≤ deadline.dueAtMs)
    (revision : after.revision ≠ 0) (blocking : after.validateBlocking = .ok ())
    : after.validate = .ok () := by
  simp only [DispatchRecord.validate, seq_ok, whenSome_ok, validateTimestamp_ok,
    Revision.validate, rejectIf_ok] at valid ⊢
  obtain ⟨grant, _, target, _, interaction, completion, endpoint, generation, _⟩ := valid
  rw [same.coordinatorGrant, same.target, same.interactionCapability,
    same.completionCapability, same.workerEndpoint]
  exact ⟨grant, deadline, target, revision, interaction, completion, endpoint, generation,
    blocking⟩

/-- The parts of a valid dispatch that its updates repeat. -/
theorem DispatchRecord.valid_parts {dispatch : DispatchRecord}
    (valid : dispatch.validate = .ok ())
    : (∀ deadline, dispatch.deadline = some deadline → 0 ≤ deadline.dueAtMs)
      ∧ dispatch.target.validate = .ok ()
      ∧ dispatch.revision ≠ 0
      ∧ dispatch.validateBlocking = .ok () := by
  simp only [DispatchRecord.validate, seq_ok, whenSome_ok, validateTimestamp_ok,
    Revision.validate, rejectIf_ok] at valid
  exact ⟨valid.2.1, valid.2.2.1, valid.2.2.2.1, valid.2.2.2.2.2.2.2.2⟩

section

variable {record : InteractionRecord} (valid : record.validate = .ok ())
include valid

theorem InteractionRecord.valid_common
    : record.common.id.validate = .ok () ∧ record.common.target.validate = .ok ()
      ∧ record.common.author.validate = .ok ()
      ∧ record.common.audience.validate record.common.author = .ok ()
      ∧ 0 ≤ record.common.createdAtMs := by
  simp only [validate, InteractionCommon.validate, seq_ok,
    validateTimestamp_ok] at valid
  obtain ⟨⟨id, target, author, audience, _, _, _, time⟩, _⟩ := valid
  exact ⟨id, target, author, audience, time⟩

/-- The members of a valid record's audience can be reached. -/
theorem InteractionRecord.valid_grants
    : ∀ grant ∈ record.common.audience.grants,
        grant.participant.validate = .ok () ∧ grant.deliveryCapability.validate = .ok () := by
  obtain ⟨_, _, _, audience, _⟩ := valid_common valid
  exact fun grant member =>
    AudienceGrant.valid_parts ((Audience.validate_ok.mp audience).2.1 grant member)

/-- News about a valid record by its author is valid. -/
theorem InteractionRecord.posting_valid (target : posting.target = record.common.target)
    (actor : posting.actor = record.common.author)
    (time : posting.recordedAtMs = record.common.createdAtMs)
    (grants : posting.grants = record.common.audience.grants)
    (kind : posting.kind.validate = record.common.id.validate)
    (silent
      : ∀ kind, posting.silent = some kind → kind.validate = record.common.id.validate)
    : posting.Valid := by
  obtain ⟨idValid, targetValid, authorValid, _, timeValid⟩ :=
    valid_common valid
  exact {
    target := target ▸ targetValid
    actor := actor ▸ authorValid
    recordedAtMs := time ▸ timeValid
    kind := kind.trans idValid
    silent := fun other isSilent => (silent other isSilent).trans idValid
    grants := grants ▸ valid_grants valid
  }

end

theorem interactionKey_inj
    : interactionKey left = interactionKey right
      ↔ left.common.target.authority = right.common.target.authority
        ∧ left.common.id = right.common.id := by
  simp only [interactionKey, stableKey_inj, List.cons.injEq, and_true,
    scopeKey_injective.eq_iff]
  exact and_congr_right (fun _ => ⟨reference_ext, congrArg _⟩)

/-- A valid record under an unused id may be appended. -/
theorem StoreState.Valid.append {before after : StoreState} (valid : before.Valid)
    (appended : after.interactions = before.interactions ++ [record])
    (recordValid : record.validate = .ok ())
    (unused
      : ∀ interaction ∈ before.interactions,
          interaction.common.target.authority = record.common.target.authority
          → interaction.common.id ≠ record.common.id)
    : (∀ interaction ∈ after.interactions, interaction.validate = .ok ())
      ∧ (after.interactions.map interactionKey).Nodup := by
  rw [appended, List.map_append]
  refine ⟨?_, List.nodup_append.mpr ⟨valid.interactionKeys, by simp, ?_⟩⟩
  · exact List.forall_mem_append.mpr
      ⟨valid.interactions, List.forall_mem_singleton.mpr recordValid⟩
  intro _ isOld _ isNew same
  obtain ⟨interaction, member, rfl⟩ := List.mem_map.mp isOld
  rw [List.map_singleton, List.mem_singleton] at isNew
  obtain ⟨authority, id⟩ := interactionKey_inj.mp (same.trans isNew)
  exact unused interaction member authority id

theorem StoreState.interactionIdExists_false {authority : AuthorityScope} {id : InteractionId}
    (unused : state.interactionIdExists authority id = false)
    : ∀ interaction ∈ state.interactions,
        interaction.common.target.authority = authority → interaction.common.id ≠ id := by
  intro interaction member sameAuthority sameId
  have refused := List.any_eq_false.mp unused interaction member
  simp [sameAuthority, sameId] at refused

/-- A receipt stored under a valid key. -/
theorem idempotency_insert {map : OrderedMap String IdempotencyEntry}
    (valid
      : ∀ key entry, map.get? key = some entry
        → validStoreKey key ∧ validDigest entry.fingerprint)
    (keyValid : validStoreKey key) (digest : validDigest entry.fingerprint)
    : ∀ other stored, (map.insert key entry).get? other = some stored
      → validStoreKey other ∧ validDigest stored.fingerprint := by
  intro other stored found
  rw [OrderedMap.get?_insert] at found
  split at found
  · rename_i same
    cases found
    exact ⟨same ▸ keyValid, digest⟩
  · exact valid other stored found

end Dure.Orchestration
