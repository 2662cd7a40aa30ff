import Dure.Orchestration.Store.Wake

/-! Reading one interaction and the progress of its deliveries. -/

namespace Dure.Orchestration

/-- A reader without a fence is in the audience, or is the author and presents the
interaction capability of the exact dispatch. -/
def StoreState.readableByClient (state : StoreState) (request : GetInteractionRequest)
    (common : InteractionCommon)
    : Bool :=
  (common.audience.grantFor request.participant).any (·.grants request.readCapability)
    || (common.author == request.participant
      && state.dispatches.any (fun dispatch =>
          dispatch.target == common.target
            && dispatch.interactionCapability == request.readCapability))

/-- A fenced worker presents either capability of its dispatch context; the matching fence
already proves the inbox capability. -/
def StoreState.readableByWorker (state : StoreState) (request : GetInteractionRequest)
    (fence : WorkerEndpointFence) (common : InteractionCommon)
    : Bool :=
  state.dispatches.any (fun dispatch =>
    dispatch.target == common.target
      && dispatch.workerEndpoint.participant == request.participant
      && fence.matchesEndpoint dispatch.workerEndpoint
      && (dispatch.workerEndpoint.deliveryCapability == request.readCapability
        || dispatch.interactionCapability == request.readCapability)
      && (common.author == request.participant
        || (common.audience.grantFor request.participant).any
            (·.grants dispatch.workerEndpoint.deliveryCapability)))

def StoreState.interaction (state : StoreState) (request : GetInteractionRequest)
    : Option InteractionRecord :=
  state.interactions.find? (fun interaction =>
    let common := interaction.common
    common.id == request.interactionId
      && common.target.authority == request.authority
      && match request.endpointFence with
        | none => state.readableByClient request common
        | some fence => state.readableByWorker request fence common)

/-- The interaction an event is about. -/
def EventKind.interactionId? : EventKind → Option InteractionId
  | .runCreated _ => none
  | .interactionOpened interactionId => some interactionId
  | .dispatchBlocked decisionId => some decisionId
  | .decisionAnswered decisionId => some decisionId
  | .dispatchUnblocked decisionId => some decisionId
  | .dispatchCompleted messageId => some messageId

def EventKind.isDispatchCompleted : EventKind → Bool
  | .dispatchCompleted _ => true
  | _ => false

def guidance (receipt : DeliveryReceipt) (completed : Bool) : DeliveryProgressGuidance :=
  if completed then
    .dispatchCompleted
  else
    match receipt.state with
    | .acknowledged => .awaitCompletion
    | .observed => .awaitAcknowledgement
    | .queued =>
      if wakeIs receipt.wake .uncertain then
        .inspectBeforeRetry
      else if wakeIs receipt.wake .queuedUntilNextTurn then
        .resolveExactSessionThenWait
      else
        .awaitInboxRead

/-- The progress of the deliveries of one event. -/
def StoreState.eventProgress (state : StoreState) (completion : Option Event) (event : Event)
    : List InteractionDeliveryProgress :=
  (state.deliveries.filter (·.receipt.eventCursor == event.cursor)).map (fun entry =>
    {
      delivery := entry.receipt
      queuedAtMs := event.recordedAtMs
      observedAtMs := entry.observedAtMs
      acknowledgedAtMs := entry.acknowledgedAtMs
      guidance :=
        guidance entry.receipt
          (completion.any (fun completed => decide (completed.cursor ≥ event.cursor)))
    })

/-- Progress uses the same reader authority as the exact interaction read. -/
def StoreState.interactionProgress (state : StoreState) (request : GetInteractionRequest)
    : Option InteractionProgressReceipt := do
  let interaction ← state.interaction request
  let common := interaction.common
  let dispatch ← state.dispatches.find? (·.target == common.target)
  let completion := state.events.find? (fun event =>
    event.target == common.target && event.kind.isDispatchCompleted)
  pure
    {
      schemaVersion := interactionSchemaVersion
      interactionId := common.id
      target := common.target
      acceptedAtMs := common.createdAtMs
      dispatchState := dispatch.state
      completedAtMs := completion.map Event.recordedAtMs
      workerEndpoint := deliveryEndpointReceipt dispatch.workerEndpoint
      workerTurnCorrelation := .notRecorded
      deliveries :=
        (state.events.filter (fun event =>
          event.target == common.target
            && event.kind.interactionId? == some common.id)).flatMap
          (state.eventProgress completion)
    }

end Dure.Orchestration
