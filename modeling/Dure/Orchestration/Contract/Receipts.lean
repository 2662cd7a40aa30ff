import Dure.Orchestration.Domain.Interactions

/-! Events, deliveries and the receipts returned to clients. -/

namespace Dure.Orchestration

open Library.Check

def validateSchema (schemaVersion : Nat) : Validation :=
  rejectIf (schemaVersion ≠ interactionSchemaVersion) (invalid "schemaVersion" "unsupported")

inductive DeliveryState where
  | queued
  | observed
  | acknowledged
  deriving DecidableEq, Repr

inductive DeliveryWakeState where
  | pending
  | uncertain
  | triggered
  | queuedUntilNextTurn
  deriving DecidableEq, Repr

structure DeliveryWakeReceipt where
  state : DeliveryWakeState
  effectRef : Option WakeEffectRef
  reasonCode : Option WakeReasonCode
  updatedAtMs : Int
  deriving DecidableEq, Repr

/-- Which of the outcome fields each wake state carries. -/
def DeliveryWakeReceipt.shapeIsValid (wake : DeliveryWakeReceipt) : Bool :=
  match wake.state with
  | .pending => wake.effectRef.isNone && wake.reasonCode.isNone
  | .uncertain => wake.effectRef.isNone && wake.reasonCode.isNone
  | .triggered => wake.effectRef.isSome && wake.reasonCode.isNone
  | .queuedUntilNextTurn => wake.effectRef.isNone && wake.reasonCode.isSome

def DeliveryWakeReceipt.validate (wake : DeliveryWakeReceipt) : Validation := do
  validateTimestamp "wake.updatedAtMs" wake.updatedAtMs
  whenSome wake.effectRef BoundedReference.validate
  whenSome wake.reasonCode BoundedReference.validate
  rejectIf (¬wake.shapeIsValid) (invalid "delivery.wake" "state_shape_invalid")

structure DeliveryEndpointReceipt where
  endpointRef : WorkerEndpointRef
  sessionIdentity : SessionIdentityRef
  generation : Generation
  deriving DecidableEq, Repr

def DeliveryEndpointReceipt.validate (endpoint : DeliveryEndpointReceipt) : Validation := do
  endpoint.endpointRef.validate
  endpoint.sessionIdentity.validate
  endpoint.generation.validate

structure DeliveryReceipt where
  receiptId : DeliveryReceiptId
  eventCursor : EventCursor
  participant : ParticipantRef
  endpoint : Option DeliveryEndpointReceipt
  state : DeliveryState
  wake : Option DeliveryWakeReceipt
  deriving DecidableEq, Repr

def DeliveryReceipt.validate (receipt : DeliveryReceipt) : Validation := do
  receipt.receiptId.validate
  receipt.participant.validate
  whenSome receipt.endpoint DeliveryEndpointReceipt.validate
  whenSome receipt.wake (fun wake => do
    wake.validate
    rejectIf (receipt.endpoint = none) (invalid "delivery.wake" "endpoint_missing"))

inductive EventKind where
  | runCreated (workflowKindRef : WorkflowKindRef)
  | interactionOpened (interactionId : InteractionId)
  | dispatchBlocked (decisionId : InteractionId)
  | decisionAnswered (decisionId : InteractionId)
  | dispatchUnblocked (decisionId : InteractionId)
  | dispatchCompleted (messageId : InteractionId)
  deriving DecidableEq, Repr

def EventKind.validate : EventKind → Validation
  | .runCreated workflowKindRef => workflowKindRef.validate
  | .interactionOpened interactionId => interactionId.validate
  | .dispatchBlocked decisionId => decisionId.validate
  | .decisionAnswered decisionId => decisionId.validate
  | .dispatchUnblocked decisionId => decisionId.validate
  | .dispatchCompleted messageId => messageId.validate

structure Event where
  cursor : EventCursor
  target : InteractionTarget
  actor : ParticipantRef
  kind : EventKind
  recordedAtMs : Int
  deriving DecidableEq, Repr

def Event.validate (event : Event) : Validation := do
  event.target.validate
  event.actor.validate
  validateTimestamp "recordedAtMs" event.recordedAtMs
  event.kind.validate

/-- Capability-bearing context returned after the serving adapter authenticates and
negotiates one exact worker session. -/
structure DispatchContextReceipt where
  schemaVersion : Nat
  target : InteractionTarget
  dispatchRevision : Revision
  dispatchState : DispatchState
  successorRequired : Bool
  participant : ParticipantRef
  interactionCapability : CapabilityRef
  completionCapability : CapabilityRef
  deliveryCapability : CapabilityRef
  acknowledgementCapability : CapabilityRef
  wakeCapability : Option CapabilityRef
  endpointFence : WorkerEndpointFence
  coordinatorGrant : AudienceGrant
  coordinatorReplyCapability : CapabilityRef
  integrationReceipt : IntegrationCapabilityReceipt
  deriving DecidableEq, Repr

def DispatchContextReceipt.validate (context : DispatchContextReceipt) : Validation := do
  validateSchema context.schemaVersion
  context.target.validate
  context.dispatchRevision.validate
  rejectIf (context.successorRequired ∧ context.dispatchState ≠ .completed)
    (invalid "successorRequired" "dispatch_not_completed")
  context.participant.validate
  context.interactionCapability.validate
  context.completionCapability.validate
  context.deliveryCapability.validate
  context.acknowledgementCapability.validate
  whenSome context.wakeCapability BoundedReference.validate
  context.endpointFence.validate
  context.integrationReceipt.validate
  context.coordinatorReplyCapability.validate
  rejectIf
    (context.endpointFence.generation ≠ context.target.generation
      ∨ context.endpointFence.deliveryCapability ≠ context.deliveryCapability
      ∨ context.endpointFence.acknowledgementCapability ≠ context.acknowledgementCapability)
    (invalid "endpointFence" "context_mismatch")
  Audience.validate ⟨[context.coordinatorGrant]⟩ context.participant
  rejectIf (¬context.coordinatorGrant.grants context.coordinatorReplyCapability)
    (invalid "coordinatorGrant" "reply_capability_missing")
  rejectIf (context.coordinatorGrant.participant = context.participant)
    (invalid "coordinatorGrant.participant" "worker_participant_reused")

structure CreateRunReceipt where
  context : DispatchContextReceipt
  event : Event
  deliveries : List DeliveryReceipt
  idempotent : Bool
  deriving DecidableEq, Repr

structure OpenInteractionReceipt where
  interaction : InteractionRecord
  dispatchState : DispatchState
  events : List Event
  deliveries : List DeliveryReceipt
  idempotent : Bool
  deriving DecidableEq, Repr

structure AnswerDecisionReceipt where
  interaction : InteractionRecord
  dispatchState : DispatchState
  events : List Event
  deliveries : List DeliveryReceipt
  idempotent : Bool
  deriving DecidableEq, Repr

structure CompleteDispatchReceipt where
  message : InteractionRecord
  dispatchState : DispatchState
  events : List Event
  deliveries : List DeliveryReceipt
  idempotent : Bool
  deriving DecidableEq, Repr

structure DispatchDeadlineReceipt where
  target : InteractionTarget
  dispatchRevision : Revision
  dispatchState : DispatchState
  deadline : Option DispatchDeadline
  idempotent : Bool
  deriving DecidableEq, Repr

structure TransitionDeliveryWakeReceipt where
  delivery : DeliveryReceipt
  applied : Bool
  deriving DecidableEq, Repr

structure EventAcknowledgementReceipt where
  through : EventCursor
  delivery : DeliveryReceipt
  idempotent : Bool
  deriving DecidableEq, Repr

structure ReadEventsReceipt where
  events : List Event
  deliveries : List DeliveryReceipt
  nextCursor : EventCursor
  acknowledgement : Option EventAcknowledgementReceipt
  deriving DecidableEq, Repr

inductive WorkerTurnCorrelation where
  | notRecorded
  deriving DecidableEq, Repr

inductive DeliveryProgressGuidance where
  | dispatchCompleted
  | awaitCompletion
  | awaitAcknowledgement
  | awaitInboxRead
  | inspectBeforeRetry
  | resolveExactSessionThenWait
  deriving DecidableEq, Repr

structure InteractionDeliveryProgress where
  delivery : DeliveryReceipt
  queuedAtMs : Int
  observedAtMs : Option Int
  acknowledgedAtMs : Option Int
  guidance : DeliveryProgressGuidance
  deriving DecidableEq, Repr

/-- Read-only projection of committed interaction and delivery facts. -/
structure InteractionProgressReceipt where
  schemaVersion : Nat
  interactionId : InteractionId
  target : InteractionTarget
  acceptedAtMs : Int
  dispatchState : DispatchState
  completedAtMs : Option Int
  workerEndpoint : DeliveryEndpointReceipt
  workerTurnCorrelation : WorkerTurnCorrelation
  deliveries : List InteractionDeliveryProgress
  deriving DecidableEq, Repr

end Dure.Orchestration
