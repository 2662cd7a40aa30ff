import Dure.Orchestration.Store.State

/-! What the steps shared by the transitions do when they succeed. A transition that changes
the history posts events of one target at the next cursors; the first of them is delivered to
the listed members and to the target's worker.
-/

namespace Dure.Orchestration

open Library Update List

/-- Who a delivery is queued for: a member of an audience, or a worker at its endpoint. -/
inductive Addressee where
  | member (participant : ParticipantRef) (deliveryCapability : CapabilityRef)
  | worker (endpoint : WorkerEndpoint)

namespace Addressee

def participant : Addressee → ParticipantRef
  | .member participant _ => participant
  | .worker endpoint => endpoint.participant

def deliveryCapability : Addressee → CapabilityRef
  | .member _ deliveryCapability => deliveryCapability
  | .worker endpoint => endpoint.deliveryCapability

def endpoint : Addressee → Option DeliveryEndpointReceipt
  | .member _ _ => none
  | .worker endpoint => some (deliveryEndpointReceipt endpoint)

def wakeCapability : Addressee → Option CapabilityRef
  | .member _ _ => none
  | .worker endpoint => endpoint.wakeCapability

/-- The delivery of the event at `cursor` to this addressee, as it is queued. -/
def entry (addressee : Addressee) (cursor : EventCursor) (receiptId : DeliveryReceiptId)
    : DeliveryEntry :=
  {
    observedAtMs := none
    acknowledgedAtMs := none
    receipt :=
      {
        receiptId
        eventCursor := cursor
        participant := addressee.participant
        endpoint := addressee.endpoint
        state := .queued
        wake := none
      }
    deliveryCapability := addressee.deliveryCapability
    wakeCapability := addressee.wakeCapability
  }

/-- `delivery` is the queued delivery of the event at `cursor` to this addressee. -/
def Queued (sha256 : String → String) (addressee : Addressee) (cursor : EventCursor)
    (delivery : DeliveryEntry)
    : Prop :=
  ∃ id, receiptId sha256 cursor addressee.participant = .ok id
    ∧ delivery = addressee.entry cursor id

end Addressee

/-- How a member is reached: at the endpoint when it is the worker of the target. -/
def StoreState.addressee (state : StoreState) (target : InteractionTarget)
    (grant : AudienceGrant)
    : Addressee :=
  match (state.workerEndpoint target).filter (·.participant == grant.participant) with
  | some endpoint => .worker endpoint
  | none => .member grant.participant grant.deliveryCapability

/-- The addressees of a target's news: the listed members and the target's worker. -/
def StoreState.Reaches (state : StoreState) (target : InteractionTarget)
    (grants : List AudienceGrant)
    : Addressee → Prop
  | .member participant deliveryCapability =>
    ∃ grant ∈ grants,
      grant.participant = participant ∧ grant.deliveryCapability = deliveryCapability
  | .worker endpoint => state.workerEndpoint target = some endpoint

theorem StoreState.addressee_participant (state : StoreState) (target : InteractionTarget)
    (grant : AudienceGrant)
    : (state.addressee target grant).participant = grant.participant := by
  unfold StoreState.addressee
  split
  · rename_i endpoint found
    simpa [Addressee.participant] using (Option.filter_eq_some_iff.mp found).2
  · rfl

variable {target : InteractionTarget} {receipts : List DeliveryReceipt}
  {before after : StoreState} {grants : List AudienceGrant} {record : InteractionRecord}
  {actor : ParticipantRef} {recordedAtMs : Int} {kind : EventKind}

theorem StoreState.reaches_addressee (state : StoreState) (member : grant ∈ grants)
    : state.Reaches target grants (state.addressee target grant) := by
  unfold StoreState.addressee
  split
  · rename_i endpoint found
    exact (Option.filter_eq_some_iff.mp found).1
  · exact ⟨grant, member, rfl, rfl⟩

/-- Only the worker's endpoint decides who is reached. -/
theorem StoreState.Reaches.congr {addressee : Addressee}
    (same : after.workerEndpoint target = before.workerEndpoint target)
    (reached : before.Reaches target grants addressee)
    : after.Reaches target grants addressee := by
  cases addressee with
  | member participant capability => exact reached
  | worker endpoint => exact same.trans reached

def StoreState.receiptIds (state : StoreState) : List DeliveryReceiptId :=
  state.deliveries.map (·.receipt.receiptId)

/-- `after` is `before` with `entries` queued at the end; no receipt id repeats. -/
structure Queues (entries : List DeliveryEntry) (before after : StoreState) : Prop where
  after_eq : after = { before with deliveries := before.deliveries ++ entries }
  unique : before.receiptIds.Nodup → after.receiptIds.Nodup

theorem Queues.refl (state : StoreState) : Queues [] state state where
  after_eq := by simp
  unique := fun unique => unique

theorem Queues.trans (earlier : Queues first before middle)
    (later : Queues second middle after)
    : Queues (first ++ second) before after where
  after_eq := by simp [later.after_eq, earlier.after_eq]
  unique := fun unique => later.unique (earlier.unique unique)

theorem appendEvent_ok
    (applied : appendEvent target actor kind recordedAtMs before = .ok event after)
    : event = { cursor := before.nextCursor, target, actor, kind, recordedAtMs }
      ∧ after = { before with
          nextCursor := before.nextCursor + 1
          events := before.events ++ [event] } := by
  simp only [appendEvent, bind_ok, get_ok, orElseThrow_ok, checkedAddOne_some, modify_ok,
    pure_ok] at applied
  obtain ⟨_, _, ⟨rfl, rfl⟩, next, _, ⟨⟨rfl, _⟩, rfl⟩, _, _, rfl, rfl, rfl⟩ := applied
  exact ⟨rfl, rfl⟩

/-- One delivery is queued at the end, under an id no delivery had. -/
theorem queueDelivery_ok {sha256 : String → String} {event : Event} {addressee : Addressee}
    {receiptIds : List DeliveryReceiptId} {result : DeliveryReceipt × List DeliveryReceiptId}
    (applied
      : queueDelivery sha256 event addressee.participant addressee.deliveryCapability
          addressee.endpoint addressee.wakeCapability receiptIds before = .ok result after)
    : ∃ entry,
        addressee.Queued sha256 event.cursor entry
        ∧ result.1 = entry.receipt
        ∧ Queues [entry] before after := by
  simp only [queueDelivery, bind_ok, get_ok, check_ok, ensure_ok, modify_ok, pure_ok] at applied
  obtain ⟨id, _, ⟨made, rfl⟩, _, _, ⟨rfl, rfl⟩, _, _, ⟨⟨fresh, _⟩, rfl⟩, _, _, rfl, rfl, rfl⟩ :=
    applied
  refine ⟨addressee.entry event.cursor id, ⟨id, made, rfl⟩, rfl, rfl, ?_⟩
  intro unique
  simp only [StoreState.receiptIds, map_append, map_cons, map_nil]
  refine nodup_append.mpr ⟨unique, by simp, ?_⟩
  simp only [mem_map, mem_singleton]
  rintro _ ⟨old, member, rfl⟩ _ rfl same
  exact fresh (any_eq_true.mpr ⟨old, member, by simpa using same⟩)

/-- Members are queued in order, each at the place `addressee` gives it. -/
theorem queueGrants_ok
    (applied : queueGrants sha256 pairs receiptIds before = .ok receipts after)
    : ∃ entries,
        List.Forall₂
          (fun pair entry =>
            (before.addressee pair.1.target pair.2).Queued sha256 pair.1.cursor entry)
          pairs entries
        ∧ receipts = entries.map DeliveryEntry.receipt
        ∧ Queues entries before after := by
  induction pairs generalizing receiptIds receipts before with
  | nil =>
    obtain ⟨rfl, rfl⟩ := pure_ok.mp applied
    exact ⟨[], .nil, rfl, .refl before⟩
  | cons pair rest ih =>
    obtain ⟨event, grant⟩ := pair
    simp only [queueGrants, bind_ok, get_ok, pure_ok] at applied
    obtain ⟨_, _, ⟨rfl, rfl⟩, result, middle, queued, later, _, queuedRest, rfl, rfl⟩ :=
      applied
    -- the call's arguments are the parts of the member's addressee
    have first : queueDelivery sha256 event (before.addressee event.target grant).participant
        (before.addressee event.target grant).deliveryCapability
        (before.addressee event.target grant).endpoint
        (before.addressee event.target grant).wakeCapability receiptIds before
        = .ok result middle := by
      rw [← queued, StoreState.addressee_participant]
      unfold StoreState.addressee
      cases (before.workerEndpoint event.target).filter
          (·.participant == grant.participant) <;> rfl
    obtain ⟨entry, isQueued, receipt, one⟩ := queueDelivery_ok first
    obtain ⟨entries, areQueued, receipts, more⟩ := ih queuedRest
    refine ⟨entry :: entries, .cons isQueued ?_, by simp [receipt, receipts], ?_⟩
    · rw [one.after_eq] at areQueued
      exact areQueued
    · simpa using one.trans more

theorem queueDeliveries_ok
    (applied : queueDeliveries sha256 record [event] before = .ok receipts after)
    : ∃ entries,
        (∀ entry ∈ entries, ∃ addressee,
          before.Reaches event.target record.common.audience.grants addressee
          ∧ addressee.Queued sha256 event.cursor entry)
        ∧ receipts = entries.map DeliveryEntry.receipt
        ∧ Queues entries before after := by
  obtain ⟨entries, queued, receipts, queues⟩ := queueGrants_ok applied
  refine ⟨entries, ?_, receipts, queues⟩
  intro entry member
  obtain ⟨pair, paired, isQueued⟩ := forall₂_mem_right queued member
  obtain ⟨grant, granted, rfl⟩ : ∃ grant ∈ record.common.audience.grants, (event, grant) = pair := by
    simpa using paired
  exact ⟨_, before.reaches_addressee granted, isQueued⟩

/-- The worker's delivery is queued, or it already was. -/
theorem queueWorkerDelivery_ok
    (applied : queueWorkerDelivery sha256 event before = .ok receipt after)
    : ∃ entries : List DeliveryEntry,
        (∀ entry ∈ entries, ∃ endpoint,
          before.workerEndpoint event.target = some endpoint
          ∧ (Addressee.worker endpoint).Queued sha256 event.cursor entry)
        ∧ receipt.toList = entries.map DeliveryEntry.receipt
        ∧ Queues entries before after := by
  simp only [queueWorkerDelivery, bind_ok, get_ok, orElseThrow_ok, check_ok] at applied
  obtain ⟨_, _, ⟨rfl, rfl⟩, endpoint, _, ⟨found, rfl⟩, id, _, ⟨made, rfl⟩, _, _, ⟨rfl, rfl⟩,
    applied⟩ := applied
  cases existing : before.deliveries.find? (·.receipt.receiptId == id) with
  | some delivery =>
    simp only [existing, bind_ok, ensure_ok, pure_ok] at applied
    obtain ⟨_, _, ⟨_, rfl⟩, rfl, rfl⟩ := applied
    exact ⟨[], by simp, rfl, .refl before⟩
  | none =>
    simp only [existing, bind_ok, pure_ok] at applied
    obtain ⟨result, _, queued, rfl, rfl⟩ := applied
    obtain ⟨entry, isQueued, receipt, queues⟩ :=
      @queueDelivery_ok _ _ _ _ (.worker endpoint) _ _ queued
    exact ⟨[entry], by simpa using ⟨endpoint, found, isQueued⟩, by simp [receipt], queues⟩

/-- News of one target: an event that is delivered to the listed members and the worker,
and possibly one recorded after it that is not. -/
structure Posting where
  target : InteractionTarget
  actor : ParticipantRef
  recordedAtMs : Int
  kind : EventKind
  silent : Option EventKind
  grants : List AudienceGrant

namespace Posting

def event (posting : Posting) (cursor : EventCursor) : Event :=
  {
    cursor
    target := posting.target
    actor := posting.actor
    kind := posting.kind
    recordedAtMs := posting.recordedAtMs
  }

/-- The events of a posting whose first event is at `cursor`. -/
def events (posting : Posting) (cursor : EventCursor) : List Event :=
  posting.event cursor
    :: posting.silent.toList.map (fun kind =>
      { posting.event cursor with cursor := cursor + 1, kind })

/-- `after` is `before` with the posting's events at the next cursors and `entries` queued
for the first of them. Dispatches, interactions and receipts are not fixed here. -/
structure Posted (sha256 : String → String) (posting : Posting)
    (entries : List DeliveryEntry) (before after : StoreState)
    : Prop where
  events_eq : after.events = before.events ++ posting.events before.nextCursor
  nextCursor_eq
    : after.nextCursor = before.nextCursor + (posting.events before.nextCursor).length
  deliveries_eq : after.deliveries = before.deliveries ++ entries
  queued
    : ∀ entry ∈ entries, ∃ addressee,
        after.Reaches posting.target posting.grants addressee
        ∧ addressee.Queued sha256 before.nextCursor entry
  unique : before.receiptIds.Nodup → after.receiptIds.Nodup
  acknowledgements_eq
    : after.acknowledgementIdempotency = before.acknowledgementIdempotency

theorem mem_events {posting : Posting} {cursor : EventCursor} {event : Event}
    (member : event ∈ posting.events cursor)
    : event.target = posting.target ∧ event.actor = posting.actor
      ∧ event.recordedAtMs = posting.recordedAtMs
      ∧ (event.kind = posting.kind ∨ posting.silent = some event.kind) := by
  simp only [events, mem_cons, mem_map, Option.mem_toList] at member
  rcases member with rfl | ⟨kind, silent, rfl⟩
  · exact ⟨rfl, rfl, rfl, Or.inl rfl⟩
  · exact ⟨rfl, rfl, rfl, Or.inr silent⟩

/-- The events take the next cursors in order. -/
theorem cursors_events (posting : Posting) (cursor : EventCursor)
    : (posting.events cursor).map Event.cursor
      = List.range' cursor (posting.events cursor).length := by
  cases silent : posting.silent <;> simp [events, silent, event, range']

end Posting

/-- Two snapshots with the same history: they may differ in dispatches, interactions and
stored receipts. -/
structure StoreState.SameHistory (left right : StoreState) : Prop where
  events_eq : left.events = right.events
  nextCursor_eq : left.nextCursor = right.nextCursor
  deliveries_eq : left.deliveries = right.deliveries
  acknowledgements_eq : left.acknowledgementIdempotency = right.acknowledgementIdempotency

namespace Posting

variable {sha256 : String → String} {posting : Posting} {entries : List DeliveryEntry}

/-- A posting depends on the history and on the worker's endpoint only. -/
theorem Posted.congr (posted : posting.Posted sha256 entries before after)
    (earlier : before'.SameHistory before) (later : after'.SameHistory after)
    (endpoint : after'.workerEndpoint posting.target = after.workerEndpoint posting.target)
    : posting.Posted sha256 entries before' after' where
  events_eq := by rw [later.events_eq, earlier.events_eq, earlier.nextCursor_eq, posted.events_eq]
  nextCursor_eq := by rw [later.nextCursor_eq, earlier.nextCursor_eq, posted.nextCursor_eq]
  deliveries_eq := by rw [later.deliveries_eq, earlier.deliveries_eq, posted.deliveries_eq]
  queued := by
    intro entry member
    obtain ⟨addressee, reached, queued⟩ := posted.queued entry member
    exact ⟨addressee, reached.congr endpoint, earlier.nextCursor_eq ▸ queued⟩
  unique := by
    unfold StoreState.receiptIds
    rw [later.deliveries_eq, earlier.deliveries_eq]
    exact posted.unique
  acknowledgements_eq := by
    rw [later.acknowledgements_eq, earlier.acknowledgements_eq, posted.acknowledgements_eq]

/-- A posting that leaves everything else as it was. -/
structure Announced (sha256 : String → String) (posting : Posting)
    (entries : List DeliveryEntry) (before after : StoreState)
    : Prop extends posting.Posted sha256 entries before after where
  dispatches_eq : after.dispatches = before.dispatches
  interactions_eq : after.interactions = before.interactions
  idempotency_eq : after.idempotency = before.idempotency

/-- Appending one event and delivering it to an audience announces it. -/
theorem announced_audience {event : Event}
    (appended : appendEvent target actor kind recordedAtMs before = .ok event middle)
    (queued : queueDeliveries sha256 record [event] middle = .ok receipts after)
    : ∃ entries,
        Announced sha256
          {
            target
            actor
            recordedAtMs
            kind
            silent := none
            grants := record.common.audience.grants
          }
          entries before after
        ∧ event = { cursor := before.nextCursor, target, actor, kind, recordedAtMs }
        ∧ receipts = entries.map DeliveryEntry.receipt := by
  obtain ⟨rfl, rfl⟩ := appendEvent_ok appended
  obtain ⟨entries, areQueued, receipts, rfl, unique⟩ := queueDeliveries_ok queued
  refine ⟨entries, ?_, rfl, receipts⟩
  exact {
    events_eq := rfl
    nextCursor_eq := rfl
    deliveries_eq := rfl
    queued := areQueued
    unique
    acknowledgements_eq := rfl
    dispatches_eq := rfl
    interactions_eq := rfl
    idempotency_eq := rfl
  }

end Posting

end Dure.Orchestration
