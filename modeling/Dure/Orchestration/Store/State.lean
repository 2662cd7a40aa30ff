import Dure.Library.FallibleState
import Dure.Library.FirstMatch
import Dure.Library.OrderedMap
import Dure.Orchestration.Store.Keys

/-! The transaction snapshot of the interaction store and the steps its transitions share.
The hash function is a parameter: `sha256` maps a text to the hexadecimal digest of its bytes.
-/

namespace Dure.Orchestration

open Library Update

inductive StoreError where
  | notFound (resource : String)
  | idempotencyConflict
  | generationConflict
  | revisionConflict
  | capabilityDenied
  | stateConflict (code : String)
  | unavailable (code : String)
  | corrupt (code : String)
  deriving DecidableEq, Repr

structure DeliveryEntry where
  observedAtMs : Option Int
  acknowledgedAtMs : Option Int
  receipt : DeliveryReceipt
  deliveryCapability : CapabilityRef
  wakeCapability : Option CapabilityRef
  deriving DecidableEq, Repr

inductive StoredReceipt where
  | deadline (receipt : DispatchDeadlineReceipt)
  | create (receipt : CreateRunReceipt)
  | «open» (receipt : OpenInteractionReceipt)
  | answer (receipt : AnswerDecisionReceipt)
  | complete (receipt : CompleteDispatchReceipt)
  deriving DecidableEq, Repr

structure IdempotencyEntry where
  fingerprint : String
  receipt : StoredReceipt
  deriving DecidableEq, Repr

structure StoreState where
  dispatches : List DispatchRecord
  interactions : List InteractionRecord
  events : List Event
  deliveries : List DeliveryEntry
  idempotency : OrderedMap String IdempotencyEntry
  acknowledgementIdempotency : OrderedMap String String
  nextCursor : Nat
  deriving DecidableEq

/-- A transition of the store. Its error keeps the partial writes made before it; the
adapters run transitions on a candidate snapshot and drop the candidate of a failed one.
-/
abbrev StoreM := Update StoreError StoreState

/-- The dispatch of an exact target, or why there is none. -/
def StoreState.dispatchAt (state : StoreState) (target : InteractionTarget)
    : Except StoreError DispatchRecord :=
  match state.dispatches.find? (·.target == target) with
  | some dispatch => .ok dispatch
  | none =>
    if state.dispatches.any (fun dispatch =>
        dispatch.target.authority == target.authority
          && dispatch.target.runId == target.runId
          && dispatch.target.taskId == target.taskId
          && dispatch.target.dispatchId == target.dispatchId) then
      .error .generationConflict
    else
      .error (.notFound "dispatch")

/-- Read the dispatch that `dispatch_index` selects. -/
def dispatchAt (target : InteractionTarget) : StoreM DispatchRecord := do
  check ((← get).dispatchAt target) id

/-- Write to the dispatch that `dispatch_index` selects. -/
def updateDispatch (target : InteractionTarget) (update : DispatchRecord → DispatchRecord)
    : StoreM Unit :=
  modify (fun state =>
    { state with dispatches := updateFirst (·.target == target) update state.dispatches })

def nextRevision (revision : Revision) : StoreM Revision :=
  orElseThrow revision.checkedNext (.corrupt "revision_exhausted")

def deliveryEndpointReceipt (endpoint : WorkerEndpoint) : DeliveryEndpointReceipt :=
  {
    endpointRef := endpoint.endpointRef
    sessionIdentity := endpoint.sessionIdentity
    generation := endpoint.generation
  }

def appendEvent (target : InteractionTarget) (actor : ParticipantRef) (kind : EventKind)
    (recordedAtMs : Int)
    : StoreM Event := do
  let cursor := (← get).nextCursor
  let nextCursor ← orElseThrow (checkedAddOne cursor) (.corrupt "event_cursor_exhausted")
  let event : Event := { cursor, target, actor, kind, recordedAtMs }
  modify (fun state => { state with nextCursor, events := state.events ++ [event] })
  pure event

def pushInteraction (record : InteractionRecord) : StoreM Unit :=
  modify (fun state => { state with interactions := state.interactions ++ [record] })

def rememberReceipt (key fingerprint : String) (receipt : StoredReceipt) : StoreM Unit :=
  modify (fun state =>
    { state with idempotency := state.idempotency.insert key { fingerprint, receipt } })

/-- An interaction id is taken once per authority. -/
def StoreState.interactionIdExists (state : StoreState) (authority : AuthorityScope)
    (id : InteractionId)
    : Bool :=
  state.interactions.any (fun interaction =>
    interaction.common.id == id && interaction.common.target.authority == authority)

section Deliveries

variable (sha256 : String → String)

def receiptId (cursor : EventCursor) (participant : ParticipantRef)
    : Except StoreError DeliveryReceiptId :=
  match BoundedReference.new
      ("delivery-" ++ sha256 (toString cursor ++ ":" ++ participant.value)) with
  | .ok id => .ok id
  | .error _ => .error (.corrupt "delivery_receipt_id")

/-- Queue one delivery; `receiptIds` are the receipts queued by the same call so far. -/
def queueDelivery (event : Event) (participant : ParticipantRef)
    (deliveryCapability : CapabilityRef) (endpoint : Option DeliveryEndpointReceipt)
    (wakeCapability : Option CapabilityRef) (receiptIds : List DeliveryReceiptId)
    : StoreM (DeliveryReceipt × List DeliveryReceiptId) := do
  let receiptId ← check (receiptId sha256 event.cursor participant) id
  ensure
    (¬(← get).deliveries.any (·.receipt.receiptId == receiptId) ∧ receiptId ∉ receiptIds)
    (.corrupt "delivery_receipt_duplicate")
  let receipt : DeliveryReceipt :=
    {
      receiptId
      eventCursor := event.cursor
      participant
      endpoint
      state := .queued
      wake := none
    }
  let entry : DeliveryEntry :=
    {
      observedAtMs := none
      acknowledgedAtMs := none
      receipt
      deliveryCapability
      wakeCapability
    }
  modify (fun state => { state with deliveries := state.deliveries ++ [entry] })
  pure (receipt, receiptId :: receiptIds)

/-- The worker endpoint of an event's dispatch. -/
def StoreState.workerEndpoint (state : StoreState) (target : InteractionTarget)
    : Option WorkerEndpoint :=
  (state.dispatches.find? (·.target == target)).map DispatchRecord.workerEndpoint

/-- Queue the deliveries of the listed events to the listed members. A member who is the
dispatch's worker is reached at its endpoint, with the endpoint's own capabilities.
-/
def queueGrants
    : List (Event × AudienceGrant) → List DeliveryReceiptId → StoreM (List DeliveryReceipt)
  | [], _ => pure []
  | (event, grant) :: rest, receiptIds => do
      let workerEndpoint := ((← get).workerEndpoint event.target).filter
        (·.participant == grant.participant)
      let (receipt, receiptIds) ←
        queueDelivery sha256 event grant.participant
          ((workerEndpoint.map WorkerEndpoint.deliveryCapability).getD grant.deliveryCapability)
          (workerEndpoint.map deliveryEndpointReceipt)
          (workerEndpoint.bind WorkerEndpoint.wakeCapability) receiptIds
      let receipts ← queueGrants rest receiptIds
      pure (receipt :: receipts)

def queueDeliveries (interaction : InteractionRecord) (events : List Event)
    : StoreM (List DeliveryReceipt) :=
  queueGrants sha256
    (events.flatMap (fun event =>
      interaction.common.audience.grants.map (fun grant => (event, grant))))
    []

/-- Queue the worker's delivery unless the audience already brought it there. -/
def queueWorkerDelivery (event : Event) : StoreM (Option DeliveryReceipt) := do
  let endpoint ←
    orElseThrow ((← get).workerEndpoint event.target) (.corrupt "delivery_dispatch_missing")
  let receiptId ← check (receiptId sha256 event.cursor endpoint.participant) id
  match (← get).deliveries.find? (·.receipt.receiptId == receiptId) with
  | some existing => do
      ensure
        (existing.deliveryCapability = endpoint.deliveryCapability
          ∧ existing.wakeCapability = endpoint.wakeCapability
          ∧ existing.receipt.endpoint = some (deliveryEndpointReceipt endpoint))
        (.corrupt "delivery_receipt_conflict")
      pure none
  | none => do
      let (receipt, _) ←
        queueDelivery sha256 event endpoint.participant endpoint.deliveryCapability
          (some (deliveryEndpointReceipt endpoint)) endpoint.wakeCapability []
      pure (some receipt)

end Deliveries

/-- A stored receipt is returned with the deliveries' current states. -/
def StoreState.canonicalizeDeliveries (state : StoreState) (receipts : List DeliveryReceipt)
    : List DeliveryReceipt :=
  receipts.map (fun receipt =>
    match state.deliveries.find? (·.receipt.receiptId == receipt.receiptId) with
    | some canonical => canonical.receipt
    | none => receipt)

/-- Some delivery of the context's dispatch is still unread by its coordinator, or by its
worker when it carries an opened interaction. -/
def StoreState.hasUnreadDelivery (state : StoreState) (context : DispatchContextReceipt)
    : Bool :=
  state.deliveries.any (fun delivery =>
    delivery.receipt.state == .queued
      && ((delivery.receipt.participant == context.coordinatorGrant.participant
            && delivery.deliveryCapability == context.coordinatorGrant.deliveryCapability)
          || (delivery.receipt.participant == context.participant
            && delivery.deliveryCapability == context.deliveryCapability
            && state.events.any (fun event =>
                event.cursor == delivery.receipt.eventCursor
                  && match event.kind with
                    | .interactionOpened _ => true
                    | _ => false)))
      && state.events.any (fun event =>
          event.cursor == delivery.receipt.eventCursor && event.target == context.target))

def StoreState.canonicalizeContext (state : StoreState) (context : DispatchContextReceipt)
    : DispatchContextReceipt :=
  match state.dispatches.find? (·.target == context.target) with
  | none => context
  | some dispatch =>
    { context with
      dispatchRevision := dispatch.revision
      dispatchState := dispatch.state
      successorRequired :=
        dispatch.state == .completed && !state.hasUnreadDelivery context
      wakeCapability := dispatch.workerEndpoint.wakeCapability }

end Dure.Orchestration
