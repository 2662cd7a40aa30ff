import Dure.Orchestration.Contract.Receipts

/-! Versioned transport-neutral requests and the checks a client's request must pass. -/

namespace Dure.Orchestration

open Library.Check

structure CreateRunRequest where
  schemaVersion : Nat
  authority : AuthorityScope
  workflowKindRef : WorkflowKindRef
  task : RunTaskSpec
  session : WorkerSessionGeneration
  integrationReceipt : IntegrationCapabilityReceipt
  runtimeRef : RuntimeRef
  targetReference : TargetReferenceRef
  idempotencyKey : String
  createdAtMs : Int
  deriving DecidableEq, Repr

def CreateRunRequest.validate (request : CreateRunRequest) : Validation := do
  validateSchema request.schemaVersion
  request.authority.validate
  request.workflowKindRef.validate
  request.task.validate
  request.session.validate
  request.integrationReceipt.validate
  request.runtimeRef.validate
  request.targetReference.validate
  validateIdempotencyKey request.idempotencyKey
  validateTimestamp "createdAtMs" request.createdAtMs

structure InteractionDraftCommon where
  id : InteractionId
  target : InteractionTarget
  author : ParticipantRef
  audience : Audience
  title : String
  descriptionMarkdown : String
  deriving DecidableEq, Repr

def InteractionDraftCommon.intoRecord (draft : InteractionDraftCommon) (createdAtMs : Int)
    : InteractionCommon :=
  {
    id := draft.id
    target := draft.target
    author := draft.author
    audience := draft.audience
    title := draft.title
    descriptionMarkdown := draft.descriptionMarkdown
    revision := Revision.INITIAL
    createdAtMs
  }

inductive InteractionDraft where
  | message (common : InteractionDraftCommon) (purpose : MessagePurpose)
  | decision (common : InteractionDraftCommon) (response : ResponseSpec)
    (replyCapability : CapabilityRef)
  deriving DecidableEq, Repr

def InteractionDraft.common : InteractionDraft → InteractionDraftCommon
  | .message common _ => common
  | .decision common _ _ => common

/-- The record a draft becomes when it is opened. -/
def InteractionDraft.intoRecord (draft : InteractionDraft) (openedAtMs : Int)
    : InteractionRecord :=
  match draft with
  | .message common purpose => .message (common.intoRecord openedAtMs) purpose
  | .decision common response replyCapability =>
    .decision (common.intoRecord openedAtMs) response replyCapability .open

structure OpenInteractionRequest where
  schemaVersion : Nat
  idempotencyKey : String
  writeCapability : CapabilityRef
  expectedDispatchRevision : Revision
  openedAtMs : Int
  interaction : InteractionDraft
  deriving DecidableEq, Repr

def OpenInteractionRequest.target (request : OpenInteractionRequest) : InteractionTarget :=
  request.interaction.common.target

def OpenInteractionRequest.validate (request : OpenInteractionRequest) : Validation := do
  validateSchema request.schemaVersion
  validateIdempotencyKey request.idempotencyKey
  request.writeCapability.validate
  request.expectedDispatchRevision.validate
  validateTimestamp "openedAtMs" request.openedAtMs
  (request.interaction.intoRecord request.openedAtMs).validate

structure GetInteractionRequest where
  schemaVersion : Nat
  authority : AuthorityScope
  interactionId : InteractionId
  participant : ParticipantRef
  readCapability : CapabilityRef
  endpointFence : Option WorkerEndpointFence
  deriving DecidableEq, Repr

def GetInteractionRequest.validate (request : GetInteractionRequest) : Validation := do
  validateSchema request.schemaVersion
  request.authority.validate
  request.interactionId.validate
  request.participant.validate
  request.readCapability.validate
  whenSome request.endpointFence WorkerEndpointFence.validate

structure AnswerDecisionRequest where
  schemaVersion : Nat
  idempotencyKey : String
  interactionId : InteractionId
  target : InteractionTarget
  expectedRevision : Revision
  expectedDispatchRevision : Revision
  answeredBy : ParticipantRef
  replyCapability : CapabilityRef
  answer : DecisionAnswer
  answeredAtMs : Int
  deriving DecidableEq, Repr

def AnswerDecisionRequest.validate (request : AnswerDecisionRequest) : Validation := do
  validateSchema request.schemaVersion
  validateIdempotencyKey request.idempotencyKey
  request.interactionId.validate
  request.target.validate
  request.expectedRevision.validate
  request.expectedDispatchRevision.validate
  request.answeredBy.validate
  request.replyCapability.validate
  validateTimestamp "answeredAtMs" request.answeredAtMs
  match request.answer with
  | .text value =>
    rejectIf (value.utf8ByteSize > maxTextAnswerBytes)
      (invalid "answer.value" "size_out_of_bounds")
  | .select optionIds =>
    rejectIf (optionIds.length > maxSelectOptions)
      (invalid "answer.optionIds" "selection_count_out_of_bounds")

structure CompleteDispatchRequest where
  schemaVersion : Nat
  idempotencyKey : String
  messageId : InteractionId
  target : InteractionTarget
  expectedDispatchRevision : Revision
  completedBy : ParticipantRef
  endpointFence : WorkerEndpointFence
  audience : Audience
  completionCapability : CapabilityRef
  title : String
  resultMarkdown : String
  completedAtMs : Int
  deriving DecidableEq, Repr

/-- The report a completion leaves in the interaction history. -/
def CompleteDispatchRequest.report (request : CompleteDispatchRequest) : InteractionRecord :=
  .message
    {
      id := request.messageId
      target := request.target
      author := request.completedBy
      audience := request.audience
      title := request.title
      descriptionMarkdown := request.resultMarkdown
      revision := Revision.INITIAL
      createdAtMs := request.completedAtMs
    }
    .completionReport

def CompleteDispatchRequest.validate (request : CompleteDispatchRequest) : Validation := do
  validateSchema request.schemaVersion
  validateIdempotencyKey request.idempotencyKey
  request.expectedDispatchRevision.validate
  request.endpointFence.validate
  request.completionCapability.validate
  request.report.validate

structure EventAcknowledgement where
  through : EventCursor
  idempotencyKey : String
  acknowledgementCapability : CapabilityRef
  deriving DecidableEq, Repr

structure ReadEventsRequest where
  schemaVersion : Nat
  authority : AuthorityScope
  target : Option InteractionTarget
  participant : ParticipantRef
  deliveryCapability : CapabilityRef
  endpointFence : Option WorkerEndpointFence
  after : EventCursor
  acknowledgement : Option EventAcknowledgement
  limit : Nat
  deriving DecidableEq, Repr

/-- An acknowledgement is at or below the reader's cursor and carries the capability of
the fence, or of the inbox when there is no fence. -/
def ReadEventsRequest.validateAcknowledgement (request : ReadEventsRequest)
    (acknowledgement : EventAcknowledgement)
    : Validation := do
  validateIdempotencyKey acknowledgement.idempotencyKey
  acknowledgement.acknowledgementCapability.validate
  rejectIf (acknowledgement.through = EventCursor.BEGINNING)
    (invalid "acknowledgement.through" "must_be_positive")
  rejectIf (acknowledgement.through > request.after)
    (invalid "acknowledgement.through" "ahead_of_cursor")
  match request.endpointFence with
  | some fence =>
    rejectIf
      (acknowledgement.acknowledgementCapability ≠ fence.acknowledgementCapability)
      (invalid "acknowledgement.acknowledgementCapability" "capability_mismatch")
  | none =>
    rejectIf (acknowledgement.acknowledgementCapability ≠ request.deliveryCapability)
      (invalid "acknowledgement.acknowledgementCapability" "capability_mismatch")

def ReadEventsRequest.validate (request : ReadEventsRequest) : Validation := do
  validateSchema request.schemaVersion
  request.authority.validate
  request.participant.validate
  request.deliveryCapability.validate
  rejectIf (request.limit = 0 ∨ request.limit > 128) (invalid "limit" "size_out_of_bounds")
  whenSome request.target (fun target => do
    target.validate
    rejectIf (target.authority ≠ request.authority)
      (invalid "target.authority" "scope_mismatch"))
  whenSome request.endpointFence (fun fence => do
    fence.validate
    rejectIf (request.target = none) (invalid "endpointFence" "target_required")
    rejectIf (fence.deliveryCapability ≠ request.deliveryCapability)
      (invalid "endpointFence.deliveryCapability" "capability_mismatch"))
  whenSome request.acknowledgement request.validateAcknowledgement

/-- A validated event query with no acknowledgement or delivery transition. -/
structure InspectEventsRequest where
  request : ReadEventsRequest
  acknowledgement_none : request.acknowledgement = none
  valid : request.validate = .ok ()

def InspectEventsRequest.tryFrom (request : ReadEventsRequest)
    : Except ValidationError InspectEventsRequest :=
  if unacknowledged : request.acknowledgement = none then
    match valid : request.validate with
    | .ok () => pure ⟨request, unacknowledged, valid⟩
    | .error error => throw error
  else
    throw (invalid "acknowledgement" "inspection_cannot_acknowledge")

/-- A batch item as the service hands it to the store. -/
structure ReadEventsStoreRequest where
  request : ReadEventsRequest
  acknowledgementFingerprint : Option String
  deriving DecidableEq, Repr

inductive DeliveryWakeTransition where
  | request
  | claim
  | triggered (effectRef : WakeEffectRef)
  | queuedUntilNextTurn (reasonCode : WakeReasonCode)
  deriving DecidableEq, Repr

def DeliveryWakeTransition.validate : DeliveryWakeTransition → Validation
  | .request => pure ()
  | .claim => pure ()
  | .triggered effectRef => effectRef.validate
  | .queuedUntilNextTurn reasonCode => reasonCode.validate

structure TransitionDeliveryWakeRequest where
  schemaVersion : Nat
  authority : AuthorityScope
  receiptId : DeliveryReceiptId
  endpointFence : WorkerEndpointFence
  wakeCapability : Option CapabilityRef
  transition : DeliveryWakeTransition
  transitionedAtMs : Int
  deriving DecidableEq, Repr

def TransitionDeliveryWakeRequest.validate (request : TransitionDeliveryWakeRequest)
    : Validation := do
  validateSchema request.schemaVersion
  request.authority.validate
  request.receiptId.validate
  request.endpointFence.validate
  whenSome request.wakeCapability BoundedReference.validate
  request.transition.validate
  validateTimestamp "transitionedAtMs" request.transitionedAtMs
  rejectIf (request.transition ≠ .request ∧ request.wakeCapability = none)
    (invalid "wakeCapability" "capability_missing")

structure SetDispatchDeadlineRequest where
  schemaVersion : Nat
  target : InteractionTarget
  writeCapability : CapabilityRef
  expectedDispatchRevision : Revision
  idempotencyKey : String
  dueAtMs : Option Int
  changedAtMs : Int
  deriving DecidableEq, Repr

def SetDispatchDeadlineRequest.validate (request : SetDispatchDeadlineRequest)
    : Validation := do
  validateSchema request.schemaVersion
  request.target.validate
  request.writeCapability.validate
  request.expectedDispatchRevision.validate
  validateIdempotencyKey request.idempotencyKey
  validateTimestamp "changedAtMs" request.changedAtMs
  whenSome request.dueAtMs (fun dueAtMs => do
    validateTimestamp "dueAtMs" dueAtMs
    rejectIf (dueAtMs > 9007199254740991) (invalid "dueAtMs" "out_of_range"))

structure GetDispatchDeadlineRequest where
  schemaVersion : Nat
  target : InteractionTarget
  readCapability : CapabilityRef
  deriving DecidableEq, Repr

def GetDispatchDeadlineRequest.validate (request : GetDispatchDeadlineRequest)
    : Validation := do
  validateSchema request.schemaVersion
  request.target.validate
  request.readCapability.validate

end Dure.Orchestration
