import Dure.Library.Paging
import Dure.Orchestration.Store.Wake

/-! Reading, observing and acknowledging the events delivered to a participant. -/

namespace Dure.Orchestration

open Library Update

/-- The event of a delivery is of the request's authority and, if it names one, target. -/
def StoreState.eventInScope (state : StoreState) (receipt : DeliveryReceipt)
    (request : ReadEventsRequest)
    : Bool :=
  (state.eventAt receipt.eventCursor).any (fun event =>
    event.target.authority == request.authority
      && request.target.all (fun target => event.target == target))

/-- A delivery of the request's participant and inbox capability, in its scope. -/
def StoreState.inRequest (state : StoreState) (request : ReadEventsRequest)
    (delivery : DeliveryEntry)
    : Bool :=
  delivery.receipt.participant == request.participant
    && delivery.deliveryCapability == request.deliveryCapability
    && state.eventInScope delivery.receipt request

/-- The delivery was addressed to another endpoint than the reader presents. -/
def endpointMismatch (endpoint : Option DeliveryEndpointReceipt)
    (fence : Option WorkerEndpointFence)
    : Bool :=
  match endpoint, fence with
  | some _, none => true
  | some receipt, some fence =>
    receipt.endpointRef != fence.endpointRef
      || receipt.sessionIdentity != fence.sessionIdentity
      || receipt.generation != fence.generation
  | none, some _ => true
  | none, none => false

/-- A fenced reader presents the endpoint of the dispatch it names. -/
def StoreState.checkFence (state : StoreState) (request : ReadEventsRequest)
    : Except StoreError Unit :=
  match request.endpointFence with
  | none => .ok ()
  | some fence =>
    match request.target with
    | none => .error .generationConflict
    | some target => do
        let dispatch ← state.dispatchAt target
        if dispatch.workerEndpoint.participant ≠ request.participant
            ∨ ¬fence.matchesEndpoint dispatch.workerEndpoint then
          throw .capabilityDenied
        else
          pure ()

/-- The cursors of the next page, in order. -/
def StoreState.selectedCursors (state : StoreState) (request : ReadEventsRequest)
    : List EventCursor :=
  let matching := state.deliveries.filter (fun delivery =>
    delivery.receipt.participant == request.participant
      && delivery.deliveryCapability == request.deliveryCapability
      && decide (delivery.receipt.eventCursor > request.after)
      && state.eventInScope delivery.receipt request)
  page request.limit (matching.map (·.receipt.eventCursor))

def StoreState.checkedEventCursors (state : StoreState) (request : ReadEventsRequest)
    : Except StoreError (List EventCursor) := do
  state.checkFence request
  if state.deliveries.any (fun delivery =>
      state.inRequest request delivery
        && endpointMismatch delivery.receipt.endpoint request.endpointFence) then
    throw .capabilityDenied
  else
    pure (state.selectedCursors request)

def StoreState.eventReceipt (state : StoreState) (request : ReadEventsRequest)
    (selected : List EventCursor)
    : ReadEventsReceipt :=
  {
    events := selected.filterMap state.eventAt
    deliveries :=
      selected.filterMap (fun cursor =>
        (state.deliveries.find? (fun delivery =>
          delivery.receipt.eventCursor == cursor
            && delivery.receipt.participant == request.participant)).map
          DeliveryEntry.receipt)
    nextCursor := selected.getLast?.getD request.after
    acknowledgement := none
  }

/-- The clock reading as signed milliseconds; a clock before the epoch reads as none. -/
def observationClock (clock : Option Nat) : Except StoreError Int :=
  match clock with
  | some milliseconds =>
    if milliseconds < 2 ^ 63 then
      .ok milliseconds
    else
      .error (.unavailable "observation_clock_invalid")
  | none => .error (.unavailable "observation_clock_invalid")

/-- The acknowledgement loop covers this delivery. -/
def StoreState.acknowledges (state : StoreState) (request : ReadEventsRequest)
    (through : EventCursor) (delivery : DeliveryEntry)
    : Bool :=
  delivery.receipt.participant == request.participant
    && delivery.deliveryCapability == request.deliveryCapability
    && decide (delivery.receipt.eventCursor ≤ through)
    && state.eventInScope delivery.receipt request
    && delivery.receipt.state != .acknowledged

def DeliveryEntry.acknowledge (observedAtMs : Int) (delivery : DeliveryEntry)
    : DeliveryEntry :=
  { delivery with
    receipt := { delivery.receipt with state := .acknowledged }
    acknowledgedAtMs := some (max observedAtMs (delivery.observedAtMs.getD 0)) }

/-- The observation loop covers this delivery. -/
def observes (request : ReadEventsRequest) (selected : List EventCursor)
    (delivery : DeliveryEntry)
    : Bool :=
  selected.contains delivery.receipt.eventCursor
    && delivery.receipt.participant == request.participant
    && delivery.receipt.state == .queued

def DeliveryEntry.observe (observedAtMs : Int) (delivery : DeliveryEntry) : DeliveryEntry :=
  { delivery with
    receipt := { delivery.receipt with state := .observed }
    observedAtMs := some observedAtMs }

/-- Acknowledge cumulatively; returns the receipt and whether anything changed. The
acknowledged delivery is read after the loop, from the place where it was found before it.
-/
def acknowledgeThrough (request : ReadEventsRequest) (acknowledgement : EventAcknowledgement)
    (fingerprint : Option String) (observedAtMs : Int)
    : StoreM (EventAcknowledgementReceipt × Bool) := do
  let fingerprint ← orElseThrow fingerprint (.corrupt "acknowledgement_fingerprint_missing")
  let key := acknowledgementKey request.authority request.participant request.endpointFence
    acknowledgement.idempotencyKey
  let state ← get
  let existing := state.acknowledgementIdempotency.get? key
  ensure (existing.all (· == fingerprint)) .idempotencyConflict
  let found ←
    orElseThrow
      (state.deliveries.find? (fun delivery =>
        delivery.receipt.participant == request.participant
          && delivery.deliveryCapability == request.deliveryCapability
          && delivery.receipt.eventCursor == acknowledgement.through
          && delivery.receipt.state != .queued
          && state.eventInScope delivery.receipt request))
      (.stateConflict "acknowledgement_cursor_unknown")
  let covers := state.acknowledges request acknowledgement.through
  let acknowledge := fun delivery : DeliveryEntry =>
    if covers delivery then delivery.acknowledge observedAtMs else delivery
  modify (fun state => { state with deliveries := state.deliveries.map acknowledge })
  let receipt : EventAcknowledgementReceipt :=
    {
      through := acknowledgement.through
      delivery := (acknowledge found).receipt
      idempotent := existing.isSome
    }
  if existing.isSome then
    pure (receipt, state.deliveries.any covers)
  else do
    modify (fun state =>
      { state with
        acknowledgementIdempotency :=
          state.acknowledgementIdempotency.insert key fingerprint })
    pure (receipt, true)

/-- The acknowledgement a read asks for, if any. -/
def acknowledgeRequested (request : ReadEventsRequest) (fingerprint : Option String)
    (observedAtMs : Int)
    : StoreM (Option EventAcknowledgementReceipt × Bool) :=
  match request.acknowledgement with
  | none => pure (none, false)
  | some acknowledgement => do
      let (receipt, changed) ←
        acknowledgeThrough request acknowledgement fingerprint observedAtMs
      pure (some receipt, changed)

/-- Returns the page and whether the read changed the store. -/
def readEvents (request : ReadEventsRequest) (acknowledgementFingerprint : Option String)
    (clock : Option Nat)
    : StoreM (ReadEventsReceipt × Bool) := do
  let observedAtMs ← check (observationClock clock) id
  let selected ← check ((← get).checkedEventCursors request) id
  let (acknowledgement, acknowledged) ←
    acknowledgeRequested request acknowledgementFingerprint observedAtMs
  let observed := (← get).deliveries.any (observes request selected)
  modify (fun state =>
    { state with
      deliveries := state.deliveries.map (fun delivery =>
        if observes request selected delivery then
          delivery.observe observedAtMs
        else
          delivery) })
  let receipt := (← get).eventReceipt request selected
  pure ({ receipt with acknowledgement }, acknowledged || observed)

/-- An error that stops the whole batch instead of becoming its item's result. -/
def StoreError.isFatal : StoreError → Bool
  | .unavailable _ => true
  | .corrupt _ => true
  | _ => false

/-- The batch loop; every item has the clock reading of its own turn. Each item runs on a
candidate that replaces the snapshot only when it succeeds and changed something.
-/
def readEventsItems (authority : AuthorityScope)
    : List (ReadEventsStoreRequest × Option Nat)
      → StoreM (List (Except StoreError ReadEventsReceipt) × Bool)
  | [] => pure ([], false)
  | (item, clock) :: rest => do
      ensure (item.request.authority = authority)
        (.corrupt "event_read_batch_scope_mismatch")
      let state ← get
      match readEvents item.request item.acknowledgementFingerprint clock state with
      | .ok (receipt, itemChanged) candidate => do
          modify (fun state => if itemChanged then candidate else state)
          let (results, changed) ← readEventsItems authority rest
          pure (.ok receipt :: results, itemChanged || changed)
      | .error error _ => do
          ensure (¬error.isFatal) error
          let (results, changed) ← readEventsItems authority rest
          pure (.error error :: results, changed)

def readEventsBatch (authority : AuthorityScope)
    (requests : List (ReadEventsStoreRequest × Option Nat))
    : StoreM (List (Except StoreError ReadEventsReceipt) × Bool) :=
  readEventsItems authority requests

def StoreState.inspectEvents (state : StoreState) (inspection : InspectEventsRequest)
    : Except StoreError ReadEventsReceipt := do
  let selected ← state.checkedEventCursors inspection.request
  pure (state.eventReceipt inspection.request selected)

end Dure.Orchestration
