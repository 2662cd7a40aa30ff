import Dure.Library.Agreement
import Dure.Orchestration.Store.Replays

/-! One authority's part of the store, as the SQLite adapter loads it, and the searches that
find the same records there as in the whole store.
-/

namespace Dure.Orchestration

open Library Update List

/-- The operation key names the authority, or a dispatch of it. -/
def AuthorityScope.ownsOperation (authority : AuthorityScope) (key : String) : Bool :=
  match LengthPrefixed.decode key with
  | some [operation, _] =>
    match LengthPrefixed.decode operation with
    | some [_, scope] =>
      scope == scopeKey authority
        || (LengthPrefixed.decode scope).any (·.head? == some (scopeKey authority))
    | _ => false
  | _ => false

/-- The acknowledgement key names the authority. -/
def AuthorityScope.ownsAcknowledgement (authority : AuthorityScope) (key : String) : Bool :=
  match LengthPrefixed.decode key with
  | some [acknowledgement, _] =>
    match LengthPrefixed.decode acknowledgement with
    | some [_, scope, _, _] => scope == scopeKey authority
    | _ => false
  | _ => false

/-- The authority of a delivery is the one of its event. -/
def StoreState.owner? (state : StoreState) (delivery : DeliveryEntry)
    : Option AuthorityScope :=
  (state.eventAt delivery.receipt.eventCursor).map (·.target.authority)

/-- Only the records of `authority`, at the same next cursor. -/
def StoreState.restrict (state : StoreState) (authority : AuthorityScope) : StoreState :=
  {
    dispatches := state.dispatches.filter (·.target.authority == authority)
    interactions := state.interactions.filter (·.common.target.authority == authority)
    events := state.events.filter (·.target.authority == authority)
    deliveries := state.deliveries.filter (state.owner? · == some authority)
    idempotency := state.idempotency.filter (fun key _ => authority.ownsOperation key)
    acknowledgementIdempotency :=
      state.acknowledgementIdempotency.filter (fun key _ => authority.ownsAcknowledgement key)
    nextCursor := state.nextCursor
  }

theorem ownsOperation_scoped (authority : AuthorityScope) (operation : String)
    (target : InteractionTarget) (key : String)
    : authority.ownsOperation (scopedOperationKey operation target key)
      = (target.authority == authority) := by
  have apart : dispatchKey target ≠ scopeKey authority :=
    (scopeKey_ne_dispatchKey authority target).symm
  have outer : LengthPrefixed.decode (scopedOperationKey operation target key)
      = some [stableKey [operation, dispatchKey target], key] :=
    LengthPrefixed.decode_encode _
  have inner : LengthPrefixed.decode (stableKey [operation, dispatchKey target])
      = some [operation, dispatchKey target] :=
    LengthPrefixed.decode_encode _
  have scope : (LengthPrefixed.decode (dispatchKey target)).map head?
      = some (some (scopeKey target.authority)) := by
    rw [dispatchKey, stableKey, LengthPrefixed.decode_encode]
    rfl
  obtain ⟨parts, decoded, head⟩ := Option.map_eq_some_iff.mp scope
  simp only [AuthorityScope.ownsOperation, outer, inner, decoded, Option.any_some, head]
  rw [Bool.eq_iff_iff]
  simp [apart, scopeKey_injective.eq_iff]

theorem ownsAcknowledgement_key (authority other : AuthorityScope)
    (participant : ParticipantRef) (fence : Option WorkerEndpointFence) (key : String)
    : authority.ownsAcknowledgement (acknowledgementKey other participant fence key)
      = (other == authority) := by
  simp only [AuthorityScope.ownsAcknowledgement, acknowledgementKey, operationKey, stableKey,
    LengthPrefixed.decode_encode]
  rw [Bool.eq_iff_iff]
  simp [scopeKey_injective.eq_iff]

/-- Cursors and receipt ids identify events: the part of coherence that also holds between
the writes of a transition. -/
structure StoreState.Indexed (sha256 : String → String) (state : StoreState) : Prop where
  cursors_unique : (state.events.map Event.cursor).Nodup
  cursors_below : ∀ event ∈ state.events, event.cursor < state.nextCursor
  deliveries_placed
    : ∀ delivery ∈ state.deliveries, ∃ event ∈ state.events,
        event.cursor = delivery.receipt.eventCursor
        ∧ receiptId sha256 delivery.receipt.eventCursor delivery.receipt.participant
          = .ok delivery.receipt.receiptId

theorem StoreState.Coherent.indexed {sha256 : String → String} {state : StoreState}
    (coherent : state.Coherent sha256)
    : state.Indexed sha256 where
  cursors_unique := coherent.cursors_increase.imp (fun below => below.ne)
  cursors_below := coherent.cursors_below
  deliveries_placed := by
    intro delivery member
    obtain ⟨event, isEvent, belongs⟩ := coherent.deliveries_placed delivery member
    exact ⟨event, isEvent, belongs.cursor_eq, belongs.identity⟩

variable {request : ReadEventsRequest} {delivery : DeliveryEntry} {id : DeliveryReceiptId}
  {participant : ParticipantRef} {event : Event} {key : String}

/-- A receipt id determines the cursor and the participant it was made for. -/
theorem receiptId_inj (injective : Function.Injective sha256)
    (made : receiptId sha256 cursor participant = .ok id)
    (made' : receiptId sha256 cursor' participant' = .ok id)
    : cursor = cursor' ∧ participant = participant' := by
  have text {cursor : EventCursor} {participant : ParticipantRef}
      (made : receiptId sha256 cursor participant = .ok id)
      : id.value = "delivery-" ++ sha256 (toString cursor ++ ":" ++ participant.value) := by
    unfold receiptId at made
    split at made
    · rename_i reference new
      cases made
      exact (BoundedReference.new_ok.mp new).1
    · cases made
  have hashed : sha256 (toString cursor ++ ":" ++ participant.value)
      = sha256 (toString cursor' ++ ":" ++ participant'.value) :=
    String.append_right_inj _ |>.mp ((text made).symm.trans (text made'))
  obtain ⟨cursors, participants⟩ := LengthPrefixed.numbered_inj (injective hashed)
  exact ⟨cursors, reference_ext participants⟩

namespace StoreState.Indexed

variable {sha256 : String → String} {state : StoreState} {authority : AuthorityScope}

section

variable (indexed : state.Indexed sha256)
include indexed

theorem eventAt_mem (member : event ∈ state.events)
    : state.eventAt event.cursor = some event :=
  find?_of_nodup indexed.cursors_unique member

/-- A delivery with the receipt id of an event is a delivery of that event. -/
theorem owner?_receiptId (injective : Function.Injective sha256)
    (isEvent : event ∈ state.events)
    (made : receiptId sha256 event.cursor participant = .ok id)
    (member : delivery ∈ state.deliveries) (named : delivery.receipt.receiptId = id)
    : state.owner? delivery = some event.target.authority := by
  obtain ⟨_, _, _, identity⟩ := indexed.deliveries_placed delivery member
  have cursor := (receiptId_inj injective (named ▸ identity) made).1
  rw [StoreState.owner?, cursor, indexed.eventAt_mem isEvent]
  rfl

/-- The part has the events of its authority at their cursors. -/
theorem restrict_eventAt (cursor : EventCursor)
    : (state.restrict authority).eventAt cursor
      = (state.eventAt cursor).filter (·.target.authority == authority) := by
  have only {event : Event} (found : state.eventAt cursor = some event) {other : Event}
      (member : other ∈ state.events) (there : (other.cursor == cursor) = true)
      : other = event := by
    have same := indexed.eventAt_mem member
    rw [beq_iff_eq.mp there, found] at same
    exact (Option.some.inj same).symm
  cases found : state.eventAt cursor with
  | none =>
    have absent := find?_eq_none.mp found
    exact find?_eq_none.mpr (fun event member =>
      absent event (mem_of_mem_filter member))
  | some event =>
    cases mine : event.target.authority == authority with
    | true =>
      rw [Option.filter_some, if_pos mine, ← found]
      exact find?_filter_inside (fun other member there => only found member there ▸ mine)
    | false =>
      rw [Option.filter_some, mine]
      refine find?_eq_none.mpr (fun other member there => ?_)
      obtain ⟨isEvent, kept⟩ := mem_filter.mp member
      rw [only found isEvent there, mine] at kept
      cases kept

theorem restrict_eventInScope (scope : request.authority = authority)
    (receipt : DeliveryReceipt)
    : (state.restrict authority).eventInScope receipt request
      = state.eventInScope receipt request := by
  unfold StoreState.eventInScope
  rw [indexed.restrict_eventAt, Option.any_filter, scope]
  simp

end

end StoreState.Indexed

theorem StoreState.owner?_of_eventInScope {state : StoreState}
    (inScope : state.eventInScope delivery.receipt request = true)
    : (state.owner? delivery == some request.authority) = true := by
  obtain ⟨event, found, here⟩ := (Option.any_eq_true _ _).mp inScope
  rw [Bool.and_eq_true, beq_iff_eq] at here
  rw [StoreState.owner?, found, Option.map_some, here.1, beq_self_eq_true]

section Searches

variable {state : StoreState} {authority : AuthorityScope}

section

variable {target : InteractionTarget} (inside : target.authority = authority)
include inside

theorem restrict_find?_dispatch
    : (state.restrict authority).dispatches.find? (·.target == target)
      = state.dispatches.find? (·.target == target) :=
  find?_filter_inside (fun _ _ same => by rw [beq_iff_eq.mp same, inside, beq_self_eq_true])

theorem restrict_dispatchAt
    : (state.restrict authority).dispatchAt target = state.dispatchAt target := by
  unfold StoreState.dispatchAt
  rw [restrict_find?_dispatch inside, StoreState.restrict, any_filter_inside]
  intro dispatch _ same
  simp only [Bool.and_eq_true] at same
  exact inside ▸ same.1.1.1

theorem restrict_workerEndpoint
    : (state.restrict authority).workerEndpoint target = state.workerEndpoint target := by
  rw [StoreState.workerEndpoint, restrict_find?_dispatch inside]
  rfl

end

theorem restrict_interactionIdExists (id : InteractionId)
    : (state.restrict authority).interactionIdExists authority id
      = state.interactionIdExists authority id :=
  any_filter_inside (fun _ _ same => (Bool.and_eq_true_iff.mp same).2)

theorem restrict_operation (owned : authority.ownsOperation key = true)
    : (state.restrict authority).idempotency.get? key = state.idempotency.get? key :=
  OrderedMap.get?_filter_keep _ (fun _ => owned)

theorem restrict_acknowledgement (owned : authority.ownsAcknowledgement key = true)
    : (state.restrict authority).acknowledgementIdempotency.get? key
      = state.acknowledgementIdempotency.get? key :=
  OrderedMap.get?_filter_keep _ (fun _ => owned)

end Searches

end Dure.Orchestration
