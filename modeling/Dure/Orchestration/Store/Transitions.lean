import Dure.Orchestration.Store.State

/-! Creating runs, opening and answering interactions, and completing dispatches. Each
transition looks its idempotency key up, checks the request against the snapshot, writes, and
announces what it wrote.
-/

namespace Dure.Orchestration

open Library Update

variable (sha256 : String → String)

def DispatchContextReceipt.workerEndpoint (context : DispatchContextReceipt)
    : WorkerEndpoint :=
  {
    endpointRef := context.endpointFence.endpointRef
    participant := context.participant
    sessionIdentity := context.endpointFence.sessionIdentity
    generation := context.target.generation
    deliveryCapability := context.deliveryCapability
    acknowledgementCapability := context.acknowledgementCapability
    wakeCapability := context.wakeCapability
    integrationReceipt := context.integrationReceipt
  }

/-- The dispatch a new run starts with. -/
def DispatchContextReceipt.dispatch (context : DispatchContextReceipt) : DispatchRecord :=
  {
    coordinatorGrant := context.coordinatorGrant
    deadline := none
    target := context.target
    revision := Revision.INITIAL
    state := .active
    blockedBy := none
    interactionCapability := context.interactionCapability
    completionCapability := context.completionCapability
    workerEndpoint := context.workerEndpoint
  }

/-- Write to a dispatch and raise its revision. -/
def reviseDispatch (target : InteractionTarget) (dispatch : DispatchRecord)
    (update : DispatchRecord → DispatchRecord)
    : StoreM Unit := do
  updateDispatch target update
  let revision ← nextRevision dispatch.revision
  updateDispatch target (fun dispatch => { dispatch with revision })

/-- A run needs a new dispatch and a session that no unfinished dispatch holds. -/
def checkNewRun (context : DispatchContextReceipt) : StoreM Unit := do
  let state ← get
  ensure (¬state.dispatches.any (·.target == context.target))
    (.stateConflict "dispatch_exists")
  ensure
    (¬state.dispatches.any (fun dispatch =>
      dispatch.state != .completed
        && dispatch.workerEndpoint.sessionIdentity == context.endpointFence.sessionIdentity))
    .generationConflict
  check context.dispatch.validate (fun _ => .corrupt "validated_dispatch_rejected")

/-- Record the creation and queue it for the coordinator and the worker. -/
def announceRun (request : CreateRunRequest) (context : DispatchContextReceipt)
    : StoreM (Event × List DeliveryReceipt) := do
  let event ← appendEvent context.target context.coordinatorGrant.participant
    (.runCreated request.workflowKindRef) request.createdAtMs
  let (coordinatorDelivery, _) ←
    queueDelivery sha256 event context.coordinatorGrant.participant
      context.coordinatorGrant.deliveryCapability none none []
  let workerDelivery ←
    orElseThrow (← queueWorkerDelivery sha256 event) (.corrupt "worker_delivery_missing")
  pure (event, [coordinatorDelivery, workerDelivery])

def createRun (request : CreateRunRequest) (context : DispatchContextReceipt)
    (fingerprint : String)
    : StoreM CreateRunReceipt := do
  let key := authorityOperationKey "create_run" request.authority request.idempotencyKey
  let state ← get
  match state.idempotency.get? key with
  | some entry =>
    match entry.receipt, decide (entry.fingerprint = fingerprint) with
    | .create receipt, true =>
      pure
        { receipt with
          context := state.canonicalizeContext receipt.context
          deliveries := state.canonicalizeDeliveries receipt.deliveries
          idempotent := true }
    | _, _ => throw .idempotencyConflict
  | none => do
      checkNewRun context
      modify (fun state => { state with dispatches := state.dispatches ++ [context.dispatch] })
      let (event, deliveries) ← announceRun sha256 request context
      let receipt : CreateRunReceipt := { context, event, deliveries, idempotent := false }
      rememberReceipt key fingerprint (.create receipt)
      pure receipt

/-- The record a draft opens and whether it blocks the dispatch. An informational update
does not reopen or revise a completed task; a decision needs an active dispatch.
-/
def openedRecord (request : OpenInteractionRequest) (dispatch : DispatchRecord)
    : StoreM (InteractionRecord × Bool) :=
  match request.interaction with
  | .message _ purpose => do
      ensure (purpose ≠ .completionReport)
        (.stateConflict "completion_message_requires_complete")
      pure (request.interaction.intoRecord request.openedAtMs, false)
  | .decision _ _ _ => do
      ensure (dispatch.state = .active) (.stateConflict "dispatch_not_active")
      pure (request.interaction.intoRecord request.openedAtMs, true)

/-- The dispatch of the draft, its record and whether it blocks the dispatch. -/
def checkOpen (request : OpenInteractionRequest)
    : StoreM (DispatchRecord × InteractionRecord × Bool) := do
  let dispatch ← dispatchAt request.target
  ensure (dispatch.revision = request.expectedDispatchRevision) .revisionConflict
  ensure (dispatch.interactionCapability = request.writeCapability) .capabilityDenied
  ensure
    (¬(← get).interactionIdExists request.target.authority request.interaction.common.id)
    (.stateConflict "interaction_id_exists")
  let (record, blocksDispatch) ← openedRecord request dispatch
  check record.validate (fun _ => .corrupt "validated_record_rejected")
  pure (dispatch, record, blocksDispatch)

/-- A decision blocks its dispatch, which is recorded after its opening. -/
def blockDispatch (request : OpenInteractionRequest) (dispatch : DispatchRecord)
    (record : InteractionRecord) (blocksDispatch : Bool)
    : StoreM (List Event) :=
  if blocksDispatch then do
    reviseDispatch request.target dispatch (fun dispatch =>
      { dispatch with state := .blocked, blockedBy := some record.common.id })
    let blockedEvent ← appendEvent request.target record.common.author
      (.dispatchBlocked record.common.id) request.openedAtMs
    pure [blockedEvent]
  else
    pure []

def openInteraction (request : OpenInteractionRequest) (fingerprint : String)
    : StoreM OpenInteractionReceipt := do
  let key := scopedOperationKey "open" request.target request.idempotencyKey
  let state ← get
  match state.idempotency.get? key with
  | some entry =>
    match entry.receipt, decide (entry.fingerprint = fingerprint) with
    | .open receipt, true =>
      pure
        { receipt with
          deliveries := state.canonicalizeDeliveries receipt.deliveries
          idempotent := true }
    | _, _ => throw .idempotencyConflict
  | none => do
      let (dispatch, record, blocksDispatch) ← checkOpen request
      let openedEvent ← appendEvent request.target record.common.author
        (.interactionOpened record.common.id) request.openedAtMs
      let deliveries ← queueDeliveries sha256 record [openedEvent]
      let blockedEvents ← blockDispatch request dispatch record blocksDispatch
      pushInteraction record
      let current ← dispatchAt request.target
      let receipt : OpenInteractionReceipt :=
        {
          interaction := record
          dispatchState := current.state
          events := openedEvent :: blockedEvents
          deliveries
          idempotent := false
        }
      rememberReceipt key fingerprint (.open receipt)
      pure receipt

/-- The interaction carries the requested id in the requested authority. -/
def AnswerDecisionRequest.names (request : AnswerDecisionRequest)
    (interaction : InteractionRecord)
    : Bool :=
  interaction.common.id == request.interactionId
    && interaction.common.target.authority == request.target.authority

/-- The parts of a decision, or the refusal of a message. -/
def decisionParts (interaction : InteractionRecord)
    : StoreM (InteractionCommon × ResponseSpec × CapabilityRef × DecisionState) :=
  match interaction with
  | .decision common response replyCapability state =>
    pure (common, response, replyCapability, state)
  | .message _ _ => throw (.stateConflict "interaction_not_decision")

/-- The parts of the open decision that the request may answer, and its dispatch. -/
def checkAnswer (request : AnswerDecisionRequest)
    : StoreM (InteractionCommon × ResponseSpec × CapabilityRef × DispatchRecord) := do
  let interaction ←
    orElseThrow ((← get).interactions.find? request.names) (.notFound "interaction")
  let dispatch ← dispatchAt request.target
  let (common, response, replyCapability, state) ← decisionParts interaction
  ensure (common.target = request.target) .generationConflict
  ensure (common.revision = request.expectedRevision) .revisionConflict
  ensure (dispatch.revision = request.expectedDispatchRevision) .revisionConflict
  ensure
    (state = .open ∧ dispatch.state = .blocked
      ∧ dispatch.blockedBy = some request.interactionId)
    (.stateConflict "decision_not_open")
  let grant ← orElseThrow (common.audience.grantFor request.answeredBy) .capabilityDenied
  ensure (replyCapability = request.replyCapability ∧ grant.grants request.replyCapability)
    .capabilityDenied
  check (response.validateAnswer request.answer) (fun error => .stateConflict error.code)
  pure (common, response, replyCapability, dispatch)

/-- Write the answer into the decision and return the updated record. -/
def answerDecision (request : AnswerDecisionRequest) (common : InteractionCommon)
    (response : ResponseSpec) (replyCapability : CapabilityRef)
    : StoreM InteractionRecord := do
  let revision ← nextRevision common.revision
  let updatedRecord : InteractionRecord :=
    .decision { common with revision } response replyCapability
      (.answered
        {
          answeredBy := request.answeredBy
          answer := request.answer
          answeredAtMs := request.answeredAtMs
          idempotencyKey := request.idempotencyKey
        })
  modify (fun state =>
    { state with
      interactions := updateFirst request.names (fun _ => updatedRecord) state.interactions })
  pure updatedRecord

/-- Record the answer and queue it for the audience and the worker. -/
def announceAnswer (request : AnswerDecisionRequest) (updatedRecord : InteractionRecord)
    : StoreM (List Event × List DeliveryReceipt) := do
  let common := updatedRecord.common
  let answeredEvent ← appendEvent common.target request.answeredBy
    (.decisionAnswered common.id) request.answeredAtMs
  let unblockedEvent ← appendEvent common.target request.answeredBy
    (.dispatchUnblocked common.id) request.answeredAtMs
  let audienceDeliveries ← queueDeliveries sha256 updatedRecord [answeredEvent]
  let workerDelivery ← queueWorkerDelivery sha256 answeredEvent
  pure ([answeredEvent, unblockedEvent], audienceDeliveries ++ workerDelivery.toList)

def answer (request : AnswerDecisionRequest) (fingerprint : String)
    : StoreM AnswerDecisionReceipt := do
  let key := scopedOperationKey "answer" request.target request.idempotencyKey
  let state ← get
  match state.idempotency.get? key with
  | some entry =>
    match entry.receipt, decide (entry.fingerprint = fingerprint) with
    | .answer receipt, true =>
      pure
        { receipt with
          deliveries := state.canonicalizeDeliveries receipt.deliveries
          idempotent := true }
    | _, _ => throw .idempotencyConflict
  | none => do
      let (common, response, replyCapability, dispatch) ← checkAnswer request
      let updatedRecord ← answerDecision request common response replyCapability
      reviseDispatch request.target dispatch (fun dispatch =>
        { dispatch with state := .active, blockedBy := none })
      let (events, deliveries) ← announceAnswer sha256 request updatedRecord
      let receipt : AnswerDecisionReceipt :=
        {
          interaction := updatedRecord
          dispatchState := .active
          events
          deliveries
          idempotent := false
        }
      rememberReceipt key fingerprint (.answer receipt)
      pure receipt

/-- The active dispatch that the request may complete. -/
def checkComplete (request : CompleteDispatchRequest) : StoreM DispatchRecord := do
  let dispatch ← dispatchAt request.target
  ensure (dispatch.revision = request.expectedDispatchRevision) .revisionConflict
  ensure (dispatch.completionCapability = request.completionCapability) .capabilityDenied
  ensure (dispatch.workerEndpoint.participant = request.completedBy) .capabilityDenied
  ensure (request.endpointFence.matchesEndpoint dispatch.workerEndpoint) .capabilityDenied
  ensure (dispatch.state = .active) (.stateConflict "dispatch_not_active")
  ensure (¬(← get).interactionIdExists request.target.authority request.messageId)
    (.stateConflict "interaction_id_exists")
  check request.report.validate (fun _ => .corrupt "validated_record_rejected")
  pure dispatch

def complete (request : CompleteDispatchRequest) (fingerprint : String)
    : StoreM CompleteDispatchReceipt := do
  let key := scopedOperationKey "complete" request.target request.idempotencyKey
  let state ← get
  match state.idempotency.get? key with
  | some entry =>
    match entry.receipt, decide (entry.fingerprint = fingerprint) with
    | .complete receipt, true =>
      pure
        { receipt with
          deliveries := state.canonicalizeDeliveries receipt.deliveries
          idempotent := true }
    | _, _ => throw .idempotencyConflict
  | none => do
      let dispatch ← checkComplete request
      let message := request.report
      reviseDispatch request.target dispatch (fun dispatch =>
        { dispatch with state := .completed })
      let event ← appendEvent request.target request.completedBy
        (.dispatchCompleted message.common.id) request.completedAtMs
      let deliveries ← queueDeliveries sha256 message [event]
      pushInteraction message
      let receipt : CompleteDispatchReceipt :=
        {
          message
          dispatchState := .completed
          events := [event]
          deliveries
          idempotent := false
        }
      rememberReceipt key fingerprint (.complete receipt)
      pure receipt

end Dure.Orchestration
