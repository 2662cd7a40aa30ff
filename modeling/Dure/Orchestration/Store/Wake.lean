import Dure.Orchestration.Store.State

/-! The provider wake of one delivery: a fenced transition apart from reading it. -/

namespace Dure.Orchestration

open Library Update

/-- The event a delivery belongs to. -/
def StoreState.eventAt (state : StoreState) (cursor : EventCursor) : Option Event :=
  state.events.find? (·.cursor == cursor)

def StoreState.authorizeDeliveryEndpoint (state : StoreState) (authority : AuthorityScope)
    (delivery : DeliveryEntry) (endpointFence : WorkerEndpointFence)
    (wakeCapability : Option CapabilityRef)
    : Except StoreError Unit :=
  match state.eventAt delivery.receipt.eventCursor with
  | none => .error (.corrupt "delivery_event_missing")
  | some event =>
    if event.target.authority ≠ authority ∨ delivery.wakeCapability ≠ wakeCapability
        ∨ state.dispatches.all (fun dispatch =>
            dispatch.target != event.target
              || !endpointFence.matchesEndpoint dispatch.workerEndpoint) then
      .error .capabilityDenied
    else
      .ok ()

/-- The wake is at `state`. -/
def wakeIs (wake : Option DeliveryWakeReceipt) (state : DeliveryWakeState) : Bool :=
  wake.any (·.state == state)

/-- The wake receipt that replaces the current one, none when the transition was applied
before. A queued wake proved that nothing was written, so an unread delivery may claim it
again once its target can take a prompt.
-/
def wakeReplacement (request : TransitionDeliveryWakeRequest) (unread : Bool)
    (current : Option DeliveryWakeReceipt)
    : Except StoreError (Option DeliveryWakeReceipt) :=
  let receipt (state : DeliveryWakeState) (effectRef : Option WakeEffectRef)
      (reasonCode : Option WakeReasonCode) : DeliveryWakeReceipt :=
    { state, effectRef, reasonCode, updatedAtMs := request.transitionedAtMs }
  match request.transition with
  | .request =>
    if current.isNone then
      match request.wakeCapability with
      | none =>
        .ok (some
          (receipt .queuedUntilNextTurn none (some ⟨"wake_capability_unavailable"⟩)))
      | some _ => .ok (some (receipt .pending none none))
    else
      .ok none
  | .claim =>
    if wakeIs current .pending || (unread && wakeIs current .queuedUntilNextTurn) then
      .ok (some (receipt .uncertain none none))
    else
      .ok none
  | .triggered effectRef =>
    if wakeIs current .uncertain then
      .ok (some (receipt .triggered (some effectRef) none))
    else if current.any (fun wake =>
        wake.state == .triggered && wake.effectRef == some effectRef) then
      .ok none
    else
      .error (.stateConflict "wake_outcome_conflict")
  | .queuedUntilNextTurn reasonCode =>
    if wakeIs current .uncertain then
      .ok (some (receipt .queuedUntilNextTurn none (some reasonCode)))
    else if current.any (fun wake =>
        wake.state == .queuedUntilNextTurn && wake.reasonCode == some reasonCode) then
      .ok none
    else
      .error (.stateConflict "wake_outcome_conflict")

def DeliveryEntry.withWake (delivery : DeliveryEntry) (wake : DeliveryWakeReceipt)
    : DeliveryEntry :=
  { delivery with receipt := { delivery.receipt with wake := some wake } }

def transitionDeliveryWake (request : TransitionDeliveryWakeRequest)
    : StoreM TransitionDeliveryWakeReceipt := do
  let state ← get
  let delivery ←
    orElseThrow (state.deliveries.find? (·.receipt.receiptId == request.receiptId))
      (.notFound "delivery")
  check
    (state.authorizeDeliveryEndpoint request.authority delivery request.endpointFence
      request.wakeCapability)
    id
  let current := delivery.receipt.wake
  match ← check (wakeReplacement request (delivery.receipt.state == .queued) current) id with
  | none => pure { delivery := delivery.receipt, applied := false }
  | some replacement => do
      ensure (¬current.any (fun wake => decide (request.transitionedAtMs < wake.updatedAtMs)))
        (.stateConflict "wake_timestamp_stale")
      modify (fun state =>
        { state with
          deliveries :=
            updateFirst (·.receipt.receiptId == request.receiptId)
              (·.withWake replacement) state.deliveries })
      pure { delivery := (delivery.withWake replacement).receipt, applied := true }

end Dure.Orchestration
