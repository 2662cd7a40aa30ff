import Dure.Orchestration.Domain.Participants

/-! Dispatches and the interactions recorded against them. -/

namespace Dure.Orchestration

open Library.Check

inductive MessagePurpose where
  | update
  | completionReport
  deriving DecidableEq, Repr

structure SelectOption where
  id : OptionId
  label : String
  descriptionMarkdown : Option String
  deriving DecidableEq, Repr

def SelectOption.validate (option : SelectOption) : Validation := do
  option.id.validate
  validatePlainText "response.options.label" option.label maxTitleBytes false
  whenSome option.descriptionMarkdown
    (validateMarkdown "response.options.descriptionMarkdown")

inductive DecisionAnswer where
  | text (value : String)
  | select (optionIds : List OptionId)
  deriving DecidableEq, Repr

inductive ResponseSpec where
  | text (minBytes maxBytes : Nat)
  | select (options : List SelectOption) (minSelections maxSelections : Nat)
  deriving DecidableEq, Repr

def ResponseSpec.validate : ResponseSpec → Validation
  | .text minBytes maxBytes =>
    rejectIf (maxBytes = 0 ∨ maxBytes > maxTextAnswerBytes ∨ minBytes > maxBytes)
      (invalid "response.text" "bounds_invalid")
  | .select options minSelections maxSelections => do
      rejectIf (options = [] ∨ options.length > maxSelectOptions)
        (invalid "response.options" "size_out_of_bounds")
      rejectIf
        (minSelections > maxSelections ∨ maxSelections > options.length ∨ maxSelections = 0)
        (invalid "response.select" "bounds_invalid")
      distinct SelectOption.id SelectOption.validate
        (invalid "response.options" "duplicate_option_id") (fun _ => pure ()) [] options

def ResponseSpec.validateAnswer : ResponseSpec → DecisionAnswer → Validation
  | .text minBytes maxBytes, .text value => do
      validateControlFree "answer.value" value true
      rejectIf (value.utf8ByteSize < minBytes ∨ value.utf8ByteSize > maxBytes)
        (invalid "answer.value" "size_out_of_bounds")
  | .select options minSelections maxSelections, .select optionIds => do
      rejectIf (optionIds.length < minSelections ∨ optionIds.length > maxSelections)
        (invalid "answer.optionIds" "selection_count_out_of_bounds")
      distinct id
        (fun optionId => do
          optionId.validate
          rejectIf (optionId ∉ options.map SelectOption.id)
            (invalid "answer.optionIds" "unknown_option"))
        (invalid "answer.optionIds" "duplicate_option") (fun _ => pure ()) [] optionIds
  | _, _ => throw (invalid "answer" "response_kind_mismatch")

inductive DispatchState where
  | active
  | blocked
  | completed
  deriving DecidableEq, Repr

structure DispatchDeadline where
  dueAtMs : Int
  overdueEventCursor : Option EventCursor
  deriving DecidableEq, Repr

structure DispatchRecord where
  coordinatorGrant : AudienceGrant
  deadline : Option DispatchDeadline
  target : InteractionTarget
  revision : Revision
  state : DispatchState
  blockedBy : Option InteractionId
  interactionCapability : CapabilityRef
  completionCapability : CapabilityRef
  workerEndpoint : WorkerEndpoint
  deriving DecidableEq, Repr

/-- A dispatch names its blocking decision exactly while it is blocked. -/
def DispatchRecord.validateBlocking (dispatch : DispatchRecord) : Validation :=
  match dispatch.state, dispatch.blockedBy with
  | .blocked, some interactionId => interactionId.validate
  | .active, none => pure ()
  | .completed, none => pure ()
  | _, _ => throw (invalid "dispatch.blockedBy" "state_mismatch")

def DispatchRecord.validate (dispatch : DispatchRecord) : Validation := do
  Audience.validate ⟨[dispatch.coordinatorGrant]⟩ dispatch.workerEndpoint.participant
  whenSome dispatch.deadline
    (fun deadline => validateTimestamp "deadline.dueAtMs" deadline.dueAtMs)
  dispatch.target.validate
  dispatch.revision.validate
  dispatch.interactionCapability.validate
  dispatch.completionCapability.validate
  dispatch.workerEndpoint.validate
  rejectIf (dispatch.workerEndpoint.generation ≠ dispatch.target.generation)
    (invalid "dispatch.workerEndpoint" "generation_mismatch")
  dispatch.validateBlocking

structure AnswerRecord where
  answeredBy : ParticipantRef
  answer : DecisionAnswer
  answeredAtMs : Int
  idempotencyKey : String
  deriving DecidableEq, Repr

inductive DecisionState where
  | «open»
  | answered (receipt : AnswerRecord)
  deriving DecidableEq, Repr

structure InteractionCommon where
  id : InteractionId
  target : InteractionTarget
  author : ParticipantRef
  audience : Audience
  title : String
  descriptionMarkdown : String
  revision : Revision
  createdAtMs : Int
  deriving DecidableEq, Repr

def InteractionCommon.validate (common : InteractionCommon) : Validation := do
  common.id.validate
  common.target.validate
  common.author.validate
  common.audience.validate common.author
  common.revision.validate
  validatePlainText "title" common.title maxTitleBytes false
  validateMarkdown "descriptionMarkdown" common.descriptionMarkdown
  validateTimestamp "createdAtMs" common.createdAtMs

inductive InteractionRecord where
  | message (common : InteractionCommon) (purpose : MessagePurpose)
  | decision (common : InteractionCommon) (response : ResponseSpec)
    (replyCapability : CapabilityRef) (state : DecisionState)
  deriving DecidableEq, Repr

def InteractionRecord.common : InteractionRecord → InteractionCommon
  | .message common _ => common
  | .decision common _ _ _ => common

def DecisionState.validate (response : ResponseSpec) : DecisionState → Validation
  | .open => pure ()
  | .answered receipt => do
      receipt.answeredBy.validate
      validateIdempotencyKey receipt.idempotencyKey
      validateTimestamp "answeredAtMs" receipt.answeredAtMs
      response.validateAnswer receipt.answer

def InteractionRecord.validate (interaction : InteractionRecord) : Validation := do
  interaction.common.validate
  match interaction with
  | .message _ _ => pure ()
  | .decision common response replyCapability state => do
      response.validate
      replyCapability.validate
      rejectIf (¬common.audience.grants.any (·.grants replyCapability))
        (invalid "audience" "reply_capability_missing")
      state.validate response

end Dure.Orchestration
