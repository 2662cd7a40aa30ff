import Dure.Orchestration.Store.Wake

/-! Seeding a store and the representation check an adapter runs on a loaded snapshot. -/

namespace Dure.Orchestration

open Library Check

def StoreState.seeded (dispatches : List DispatchRecord)
    : Except ValidationError StoreState := do
  distinct (fun dispatch => dispatchKey dispatch.target) DispatchRecord.validate
    (invalid "dispatches" "duplicate") (fun _ => pure ()) [] dispatches
  pure
    {
      dispatches
      interactions := []
      events := []
      deliveries := []
      idempotency := .empty
      acknowledgementIdempotency := .empty
      nextCursor := 1
    }

/-- Report a failed check of a stored record under the store's own code. -/
def corruptIf (result : Validation) (code : String) : Except StoreError Unit :=
  match result with
  | .ok () => .ok ()
  | .error _ => .error (.corrupt code)

def interactionKey (interaction : InteractionRecord) : String :=
  stableKey [
    scopeKey interaction.common.target.authority,
    interaction.common.id.value
  ]

/-- The endpoint a delivery names is its dispatch's worker endpoint, and a wake that may
have reached the worker carries the wake capability. -/
def StoreState.validateDeliveryEndpoint (state : StoreState) (event : Event)
    (delivery : DeliveryEntry)
    : Except StoreError Unit :=
  match delivery.receipt.endpoint with
  | some endpointReceipt =>
    match state.workerEndpoint event.target with
    | none => .error (.corrupt "delivery_dispatch_missing")
    | some endpoint => do
        rejectIf
          (endpoint.participant ≠ delivery.receipt.participant
            ∨ endpoint.deliveryCapability ≠ delivery.deliveryCapability
            ∨ endpointReceipt ≠ deliveryEndpointReceipt endpoint
            ∨ endpoint.wakeCapability ≠ delivery.wakeCapability)
          (.corrupt "delivery_endpoint_invalid")
        rejectIf
          ((wakeIs delivery.receipt.wake .pending
              ∨ wakeIs delivery.receipt.wake .uncertain
              ∨ wakeIs delivery.receipt.wake .triggered)
            ∧ delivery.wakeCapability = none)
          (.corrupt "delivery_wake_capability_missing")
  | none =>
    rejectIf (delivery.wakeCapability ≠ none ∨ delivery.receipt.wake ≠ none)
      (.corrupt "delivery_wake_endpoint_missing")

section Hash

variable (sha256 : String → String)

/-- The checks of one delivery after its receipt id was found to be new. -/
def StoreState.validateDelivery (state : StoreState) (delivery : DeliveryEntry)
    : Except StoreError Unit :=
  match state.eventAt delivery.receipt.eventCursor with
  | none => .error (.corrupt "delivery_event_missing")
  | some event => do
      let expected ←
        receiptId sha256 delivery.receipt.eventCursor delivery.receipt.participant
      rejectIf (delivery.receipt.receiptId ≠ expected)
        (.corrupt "delivery_receipt_identity_invalid")
      corruptIf delivery.deliveryCapability.validate "delivery_capability_invalid"
      whenSome delivery.wakeCapability (fun wakeCapability =>
        corruptIf wakeCapability.validate "delivery_wake_capability_invalid")
      state.validateDeliveryEndpoint event delivery

/-- Two neighbouring events out of order. -/
def hasCursorInversion : List Event → Bool
  | [] => false
  | [_] => false
  | first :: second :: rest =>
    decide (first.cursor ≥ second.cursor) || hasCursorInversion (second :: rest)

def StoreState.validate (state : StoreState) : Except StoreError Unit := do
  distinct (fun dispatch => dispatchKey dispatch.target)
    (fun dispatch => corruptIf dispatch.validate "dispatch_invalid")
    (.corrupt "dispatch_duplicate") (fun _ => pure ()) [] state.dispatches
  distinct interactionKey
    (fun interaction => do
      corruptIf interaction.validate "interaction_invalid"
      rejectIf (¬state.dispatches.any (·.target == interaction.common.target))
        (.corrupt "interaction_dispatch_missing"))
    (.corrupt "interaction_duplicate") (fun _ => pure ()) [] state.interactions
  each
    (fun event => do
      corruptIf event.validate "event_invalid"
      rejectIf (¬state.dispatches.any (·.target == event.target))
        (.corrupt "event_dispatch_missing"))
    state.events
  distinct (fun delivery => delivery.receipt.receiptId)
    (fun delivery => corruptIf delivery.receipt.validate "delivery_receipt_invalid")
    (.corrupt "delivery_duplicate") (state.validateDelivery sha256) [] state.deliveries
  rejectIf
    (state.nextCursor = 0 ∨ hasCursorInversion state.events
      ∨ state.events.getLast?.any (fun event => decide (event.cursor ≥ state.nextCursor)))
    (.corrupt "event_cursor_invalid")
  rejectIf
    (state.idempotency.entries.any (fun entry =>
        !validStoreKey entry.1 || !validDigest entry.2.fingerprint)
      ∨ state.acknowledgementIdempotency.entries.any (fun entry =>
        !validStoreKey entry.1 || !validDigest entry.2))
    (.corrupt "idempotency_record_invalid")

end Hash

end Dure.Orchestration
