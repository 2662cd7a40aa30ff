import Dure.Orchestration.Store.State

/-! Dispatch deadlines. A deadline is an attention signal in the existing message envelope;
it neither changes a dispatch's revision or state nor wakes its worker.
-/

namespace Dure.Orchestration

open Library Update

variable (sha256 : String → String)

def deadlineReceipt (dispatch : DispatchRecord) : DispatchDeadlineReceipt :=
  {
    target := dispatch.target
    dispatchRevision := dispatch.revision
    dispatchState := dispatch.state
    deadline := dispatch.deadline
    idempotent := false
  }

def StoreState.dispatchDeadline (state : StoreState) (request : GetDispatchDeadlineRequest)
    : Except StoreError DispatchDeadlineReceipt := do
  let dispatch ← state.dispatchAt request.target
  if dispatch.interactionCapability ≠ request.readCapability then
    throw .capabilityDenied
  else
    pure (deadlineReceipt dispatch)

/-- The text of the id of the deadline message announced by the event at `cursor`. -/
def deadlineMessageId (authority : AuthorityScope) (cursor : EventCursor) : String :=
  "deadline-" ++ sha256 (stableKey [scopeKey authority, toString cursor])

/-- The message that announces a deadline change or an overdue dispatch to its
coordinator. -/
def deadlineRecord (id : InteractionId) (target : InteractionTarget) (grant : AudienceGrant)
    (title descriptionMarkdown : String) (nowMs : Int)
    : InteractionRecord :=
  .message
    {
      id
      target
      author := grant.participant
      audience := ⟨[grant]⟩
      title
      descriptionMarkdown
      revision := Revision.INITIAL
      createdAtMs := nowMs
    }
    .update

def deadlineMessage (target : InteractionTarget) (grant : AudienceGrant)
    (title descriptionMarkdown : String) (nowMs : Int)
    : StoreM Event := do
  let id ←
    check (BoundedReference.new (deadlineMessageId sha256 target.authority (← get).nextCursor))
      (fun _ => .corrupt "deadline_message_identity_invalid")
  let record := deadlineRecord id target grant title descriptionMarkdown nowMs
  check record.validate (fun _ => .corrupt "deadline_message_invalid")
  let event ← appendEvent target grant.participant (.interactionOpened id) nowMs
  let _ ← queueDeliveries sha256 record [event]
  pushInteraction record
  pure event

def deadlineDescription (dueAtMs : Option Int) : String :=
  match dueAtMs with
  | some due =>
    "The dispatch deadline is now Unix time " ++ toString due ++ " milliseconds. "
      ++ "The deadline is an attention signal; "
      ++ "it does not interrupt the worker or determine task completion."
  | none =>
    "The dispatch deadline has been cleared. "
      ++ "Existing overdue observations remain in the event history."

def setDispatchDeadline (request : SetDispatchDeadlineRequest) (fingerprint : String)
    : StoreM DispatchDeadlineReceipt := do
  let dispatch ← dispatchAt request.target
  ensure (dispatch.interactionCapability = request.writeCapability) .capabilityDenied
  let key := scopedOperationKey "deadline" request.target request.idempotencyKey
  match (← get).idempotency.get? key with
  | some entry =>
    match entry.receipt, decide (entry.fingerprint = fingerprint) with
    | .deadline receipt, true => pure { receipt with idempotent := true }
    | _, _ => throw .idempotencyConflict
  | none => do
      ensure (dispatch.revision = request.expectedDispatchRevision) .revisionConflict
      ensure (dispatch.state ≠ .completed) (.stateConflict "dispatch_completed")
      let revision ← nextRevision dispatch.revision
      let deadline : Option DispatchDeadline :=
        request.dueAtMs.map (fun dueAtMs => { dueAtMs, overdueEventCursor := none })
      updateDispatch request.target (fun dispatch => { dispatch with revision, deadline })
      let receipt := deadlineReceipt { dispatch with revision, deadline }
      let _ ←
        deadlineMessage sha256 request.target dispatch.coordinatorGrant
          "Dispatch deadline updated" (deadlineDescription request.dueAtMs) request.changedAtMs
      rememberReceipt key fingerprint (.deadline receipt)
      pure receipt

def overdueDescription (dueAtMs nowMs : Int) : String :=
  "The dispatch was still incomplete when the backend checked its deadline "
    ++ "(due at Unix time " ++ toString dueAtMs ++ " milliseconds; observed at "
    ++ toString nowMs ++ "). Inspect the worker and durable completion state. "
    ++ "This observation does not establish failure or authorize interruption."

/-- The deadline of a dispatch that is due at `nowMs` and has not been announced yet. -/
def DispatchRecord.overdue? (dispatch : DispatchRecord) (nowMs : Int)
    : Option DispatchDeadline :=
  dispatch.deadline.filter (fun deadline =>
    !(dispatch.state == .completed || decide (deadline.dueAtMs > nowMs)
      || deadline.overdueEventCursor.isSome))

/-- Mark a deadline as announced by the event at `cursor`. -/
def DispatchRecord.markOverdue (cursor : EventCursor) (dispatch : DispatchRecord)
    : DispatchRecord :=
  { dispatch with
    deadline := dispatch.deadline.map (fun deadline =>
      { deadline with overdueEventCursor := some cursor }) }

/-- One iteration of the expiry loop; returns whether the dispatch was announced. -/
def expireDispatchDeadline (nowMs : Int) (index : Nat) : StoreM Nat := do
  match (← get).dispatches[index]? with
  | none => pure 0
  | some dispatch =>
    match dispatch.overdue? nowMs with
    | none => pure 0
    | some deadline => do
        let event ←
          deadlineMessage sha256 dispatch.target dispatch.coordinatorGrant
            "Dispatch overdue" (overdueDescription deadline.dueAtMs nowMs) nowMs
        modify (fun state =>
          { state with
            dispatches := state.dispatches.modify index (·.markOverdue event.cursor) })
        pure 1

def expireIndices (nowMs : Int) : List Nat → StoreM Nat
  | [] => pure 0
  | index :: rest => do
      let announced ← expireDispatchDeadline sha256 nowMs index
      let later ← expireIndices nowMs rest
      pure (announced + later)

/-- Called by the backend clock, not by a client observation. -/
def expireDispatchDeadlines (nowMs : Int) : StoreM Nat := do
  expireIndices sha256 nowMs (List.range (← get).dispatches.length)

end Dure.Orchestration
