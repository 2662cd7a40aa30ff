import Dure.Checkout.Requests

/-! The reducer: the plan for one request on the stored state, with the new state to be
swapped in and the receipt to be returned.
-/

namespace Dure.Checkout

open Library Check

/-! ### Receipts -/

structure UseClaim where
  ownerId : OperationId
  claimId : OperationId
  requestDigest : String
  deriving DecidableEq

structure CreationReservation where
  canonicalPath : String
  pathDigest : String
  reservationToken : String
  operationId : OperationId
  requestDigest : String
  revision : Nat
  claim : UseClaim
  deriving DecidableEq

structure RemovalPermit where
  canonicalPath : String
  pathDigest : String
  checkout : Instance
  instanceDigest : String
  permitToken : String
  operationId : OperationId
  requestDigest : String
  revision : Nat
  retiringClaims : List UseClaim
  deriving DecidableEq

structure RemovalReceipt where
  outcome : PhysicalOutcome
  checkout : Instance
  deriving DecidableEq

inductive UseOutcome where
  | creationReserved (reservation : CreationReservation)
  | creationAborted (reservation : CreationReservation)
  | creationStarted
  | creationActivated (instanceDigest : String) (claim : UseClaim)
  | claimAcquired (instanceDigest : String) (claim : UseClaim)
  | claimReleased (instanceDigest : String) (claim : UseClaim)
  | removalPermitted (permit : RemovalPermit)
  | removalAborted (permit : RemovalPermit)
  | removed (permit : RemovalPermit) (removal : RemovalReceipt)
  | absentCheckoutRetired (instanceDigest : String)
  deriving DecidableEq

structure UseReceipt where
  operationId : OperationId
  requestDigest : String
  revision : Nat
  phase : Phase
  outcome : UseOutcome
  deriving DecidableEq

structure Plan where
  state : Option State
  receipt : UseReceipt
  validateInstance : Option Instance
  validateAbsentTarget : Bool
  deriving DecidableEq

def phaseConflict (message : String) : UseError := ⟨"checkout_use_phase_conflict", message⟩

def operationConflict (message : String) : UseError :=
  ⟨"checkout_use_operation_conflict", message⟩

def instanceConflict : UseError :=
  ⟨"checkout_use_instance_conflict",
    "checkout-use state belongs to a different exact checkout instance"⟩

def creationReconcileRequired (message : String) : UseError :=
  ⟨"checkout_use_creation_reconcile_required", message⟩

def alreadyStarted : UseError :=
  creationReconcileRequired
    "creation already started; inspect the frozen target before reconciling"

def retiringMismatch : UseError :=
  ⟨"checkout_use_in_use", "retiring claims do not match the active checkout uses"⟩

def claimMissing : UseError :=
  ⟨"checkout_use_claim_missing", "checkout-use claim does not exist"⟩

/-- A stored id is parsed again before it is returned. -/
def storedId (value message : String) : Except UseError OperationId :=
  if valid : validOperationId value = true then
    pure ⟨value, valid⟩
  else
    throw (stateError message)

def revisionValue (value : Nat) : Except UseError Nat :=
  if 0 < value ∧ value ≤ maxRevision then
    pure value
  else
    throw ⟨"checkout_use_revision_exhausted",
      "checkout-use revision exceeded the shared exact decimal bound"⟩

/-- Continue with a present value, or stop. -/
def orReject {α : Type} (value : Option α) (error : UseError) : Except UseError α :=
  match value with
  | some present => pure present
  | none => throw error

def claimWire (claim : Claim) : Except UseError UseClaim := do
  let ownerId ← storedId claim.ownerId "stored checkout-use owner id is invalid"
  let claimId ← storedId claim.claimId "stored checkout-use claim id is invalid"
  pure ⟨ownerId, claimId, claim.requestDigest⟩

def activeClaims (state : State) : Except UseError (List UseClaim) :=
  ((state.claims.entries.filter (fun entry => entry.2.isActive)).map Prod.snd).mapM claimWire

def reservationReceipt (authority : Authority) (slot : Slot) (claim : UseClaim)
    : Except UseError CreationReservation := do
  let operationId ← storedId slot.operationId "stored reservation operation id is invalid"
  let revision ← revisionValue slot.revision
  pure {
    canonicalPath := authority.canonicalPath
    pathDigest := authority.pathDigest
    reservationToken := slot.token
    operationId := operationId
    requestDigest := slot.requestDigest
    revision := revision
    claim := claim
  }

def reservationFromState (authority : Authority) (state : State)
    : Except UseError CreationReservation := do
  let slot ← orReject state.reservation
    (stateError "checkout-use state lost its creation reservation")
  let claim ← orReject (state.claims.get? slot.operationId)
    (stateError "creation reservation lost its initial claim")
  let claim ← claimWire claim
  reservationReceipt authority slot claim

def permitReceipt (authority : Authority) (slot : Slot) (checkout : Instance)
    (instanceDigest : String) (retiringClaims : List UseClaim)
    : Except UseError RemovalPermit := do
  let operationId ← storedId slot.operationId "stored permit operation id is invalid"
  let revision ← revisionValue slot.revision
  pure {
    canonicalPath := authority.canonicalPath
    pathDigest := authority.pathDigest
    checkout := checkout
    instanceDigest := instanceDigest
    permitToken := slot.token
    operationId := operationId
    requestDigest := slot.requestDigest
    revision := revision
    retiringClaims := retiringClaims
  }

def permitFromState (authority : Authority) (state : State) (checkout : Instance)
    : Except UseError RemovalPermit := do
  let slot ← orReject state.permit (stateError "checkout-use state lost its removal permit")
  let instanceDigest ← orReject state.instanceDigest
    (stateError "checkout-use state lost its instance digest")
  let retiringClaims ← activeClaims state
  permitReceipt authority slot checkout instanceDigest retiringClaims

def useReceipt (operationId requestDigest : String) (revision : Nat) (phase : Phase)
    (outcome : UseOutcome)
    : Except UseError UseReceipt := do
  let operationId ← storedId operationId "stored receipt operation id is invalid"
  let revision ← revisionValue revision
  pure ⟨operationId, requestDigest, revision, phase, outcome⟩

def physicalReceipt (checkout : Instance) : TerminalKind → Except UseError RemovalReceipt
  | .removed => pure ⟨.removed, checkout⟩
  | .alreadyAbsent => pure ⟨.alreadyAbsent, checkout⟩
  | .creationAborted =>
    throw (stateError "creation-aborted state cannot issue a physical removal receipt")

/-- A claim that still authorises a launch. -/
def activeClaim (state : State) (operationId : OperationId) : Except UseError Claim := do
  let claim ← orReject (state.claims.get? operationId.value)
    (stateError "replayed claim lost its authority-owned row")
  rejectIf (state.phase ≠ .active ∨ ¬claim.isActive)
    (phaseConflict "a retired checkout claim is not launch authority")
  pure claim

/-- Whether the request was already recorded; another payload under its id is refused. -/
def operationRecorded (state : State) (request : PreparedRequest) : Except UseError Bool :=
  match state.findLifecycleOperation request.operationId.value with
  | none => pure false
  | some operation => do
      rejectIf
        (operation.requestDigest ≠ request.requestDigest
          ∨ operation.kind ≠ request.action.kind)
        (operationConflict "checkout-use operation id was replayed with a changed payload")
      pure true

def replayPermit (request : PreparedRequest) (state : State) (operation : Operation)
    (checkout : Instance)
    : Except UseError UseReceipt := do
  let permit ← permitFromState request.authority state checkout
  if state.phase = .removed then
    let terminal ← orReject state.terminal
      (stateError "removed state lost its terminal receipt")
    let removal ← physicalReceipt checkout terminal.kind
    useReceipt operation.operationId operation.requestDigest terminal.revision .removed
      (.removed permit removal)
  else
    match state.lastAbort.filter (fun abort => abort.token == permit.permitToken) with
    | some abort =>
      useReceipt operation.operationId operation.requestDigest abort.revision .active
        (.removalAborted permit)
    | none =>
      useReceipt operation.operationId operation.requestDigest operation.revision .removing
        (.removalPermitted permit)

def replayRequest (state : State) (request : PreparedRequest)
    : Except UseError UseReceipt := do
  let operation ← orReject (state.findLifecycleOperation request.operationId.value)
    (stateError "replayed checkout-use operation disappeared")
  let receipt := useReceipt operation.operationId operation.requestDigest operation.revision
  match request.action with
  | .reserve _ => do
      let reservation ← reservationFromState request.authority state
      receipt .creating (.creationReserved reservation)
  | .abortCreation .. => do
      let reservation ← reservationFromState request.authority state
      receipt .removed (.creationAborted reservation)
  | .startCreation _ => throw alreadyStarted
  | .activate _ instanceDigest _ => do
      let reservation ← reservationFromState request.authority state
      let claim ← activeClaim state reservation.claim.claimId
      let claim ← claimWire claim
      receipt .active (.creationActivated instanceDigest claim)
  | .claim _ instanceDigest _ => do
      let claim ← activeClaim state request.operationId
      let claim ← claimWire claim
      receipt .active (.claimAcquired instanceDigest claim)
  | .release instanceDigest claimId => do
      let claim ← orReject (state.claims.get? claimId.value)
        (stateError "replayed release lost its claim")
      let claim ← claimWire claim
      receipt .active (.claimReleased instanceDigest claim)
  | .permit checkout _ _ _ => replayPermit request state operation checkout
  | .abortRemoval checkout _ _ => do
      let permit ← permitFromState request.authority state checkout
      receipt .active (.removalAborted permit)
  -- retirement records carry derived ids, so no stored operation matches a retirement
  | .retireAbsent => throw (stateError "absent checkout retirement is not replayed")

/-! ### Transitions -/

/-- The finished creation that the generation keeps. -/
def State.creation (state : State) : Option CreationHistory :=
  match state.lifecycle with
  | .active _ creation _ => creation
  | .removing _ creation _ _ => creation
  | .removed (.physical ended) => ended.creation
  | _ => none

/-- A record that starts over at the given revision. -/
def generation (authority : Authority) (revision : Nat) (lifecycle : Lifecycle) : State :=
  ⟨revision, authority.pathDigest, lifecycle, .empty⟩

section

variable (hash : String → String) (current : Option State) (request : PreparedRequest)

def baseRevision : Nat := (current.map State.revision).getD 0

def reduceReserve (ownerId : OperationId) : Except UseError Plan := do
  rejectIf (current.any (fun state => state.phase != .removed))
    (phaseConflict "checkout creation cannot be reserved in the current phase")
  let revision ← nextRevision (baseRevision current)
  let token ← reservationToken hash request.authority request.operationId.value
    request.requestDigest revision
  let slot : Slot := ⟨token, request.operationId.value, request.requestDigest, revision⟩
  let claim : Claim :=
    ⟨ownerId.value, request.operationId.value, request.requestDigest, revision, .active⟩
  let claimReceipt ← claimWire claim
  let state := generation request.authority revision (.creating (.reserved slot))
  let reservation ← reservationReceipt request.authority slot claimReceipt
  let receipt ← useReceipt slot.operationId slot.requestDigest revision .creating
    (.creationReserved reservation)
  pure ⟨some { state with claims := state.claims.insert claim.claimId claim }, receipt, none,
    true⟩

def reduceAbortCreation (reservationToken : String)
    (quiescentStart : Option (OperationId × String))
    : Except UseError Plan := do
  let state ← orReject current
    (phaseConflict "checkout creation has no reservation to abort")
  rejectIf (state.phase ≠ .creating)
    (phaseConflict "checkout creation cannot be aborted in the current phase")
  let slot ← orReject state.reservation (stateError "creating state lost its reservation")
  rejectIf (slot.token ≠ reservationToken)
    (operationConflict "creation abort did not consume the exact reservation")
  rejectIf
    (state.creationStart.map (fun start => (start.operationId, start.requestDigest))
      ≠ quiescentStart.map (fun start => (start.1.value, start.2)))
    (creationReconcileRequired
      "creation abort requires the exact quiescent execution, or an unstarted reservation")
  let reservation ← reservationFromState request.authority state
  let revision ← nextRevision state.revision
  let terminal : TerminalOperation := ⟨request.operationId.value, request.requestDigest⟩
  let receipt ← useReceipt terminal.operationId terminal.requestDigest revision .removed
    (.creationAborted reservation)
  pure ⟨
    some {
      state with
      revision := revision
      lifecycle := .removed (.creationAborted slot terminal)
    },
    receipt, none, true⟩

def reduceStartCreation (reservationToken : String) : Except UseError Plan := do
  let state ← orReject current
    (phaseConflict "checkout creation has no reservation to start")
  rejectIf (state.phase ≠ .creating)
    (phaseConflict "checkout creation cannot start in the current phase")
  let reservation ← orReject state.reservation
    (stateError "creating state lost its reservation")
  rejectIf (reservation.token ≠ reservationToken)
    (operationConflict "creation start did not consume the exact reservation token")
  rejectIf state.creationStart.isSome alreadyStarted
  let revision ← nextRevision state.revision
  let start : Slot :=
    ⟨reservationToken, request.operationId.value, request.requestDigest, revision⟩
  let receipt ← useReceipt start.operationId start.requestDigest revision .creating
    .creationStarted
  pure ⟨
    some {
      state with
      revision := revision
      lifecycle := .creating (.started reservation start)
    },
    receipt, none, true⟩

def reduceActivate (checkout : Instance) (instanceDigest reservationToken : String)
    : Except UseError Plan := do
  let state ← orReject current
    (phaseConflict "checkout creation has no reservation to activate")
  rejectIf (state.phase ≠ .creating)
    (phaseConflict "checkout creation cannot be activated in the current phase")
  let start ← orReject state.creationStart (phaseConflict "checkout creation has not started")
  let reservation ← orReject state.reservation
    (stateError "creating state lost its reservation")
  rejectIf
    (start.token ≠ reservationToken
      ∨ reservation.token ≠ reservationToken
      ∨ checkout.canonicalPath ≠ request.authority.canonicalPath)
    (operationConflict "creation activation did not consume the exact reservation")
  let revision ← nextRevision state.revision
  let receiptReservation ← reservationFromState request.authority state
  let activation : OperationMarker :=
    ⟨request.operationId.value, request.requestDigest, revision⟩
  let receipt ← useReceipt activation.operationId activation.requestDigest revision .active
    (.creationActivated instanceDigest receiptReservation.claim)
  pure ⟨
    some {
      state with
      revision := revision
      lifecycle := .active instanceDigest (some ⟨reservation, start, activation⟩) .idle
    },
    receipt, some checkout, false⟩

/-- The active generation of the instance, which a claim or a permit continues; none when
they start a new one. -/
def liveGeneration (instanceDigest message : String)
    : Except UseError (Option (State × Option CreationHistory)) :=
  match current with
  | none => pure none
  | some state =>
    match state.lifecycle with
    | .removed _ => pure none
    | .active stored creation _ =>
      if stored = instanceDigest then
        pure (some (state, creation))
      else
        throw instanceConflict
    | _ => throw (phaseConflict message)

/-- Continue the generation under a lifecycle, or start a new one. -/
def continueGeneration (live : Option (State × Option CreationHistory)) (revision : Nat)
    (lifecycle : Option CreationHistory → Lifecycle) : State :=
  match live with
  | none => generation request.authority revision (lifecycle none)
  | some (state, creation) =>
    { state with revision := revision, lifecycle := lifecycle creation }

def capacityExceeded : UseError :=
  ⟨"checkout_use_capacity_exceeded", "checkout-use claim ledger reached its explicit bound"⟩

def reduceClaim (checkout : Instance) (instanceDigest : String) (ownerId : OperationId)
    : Except UseError Plan := do
  let live ← liveGeneration current instanceDigest
    "checkout use cannot be claimed in the current phase"
  let revision ← nextRevision (baseRevision current)
  let next := continueGeneration request live revision
    (fun creation => .active instanceDigest creation .idle)
  rejectIf (next.claims.entries.length ≥ maxClaims) capacityExceeded
  let active ← activeClaims next
  rejectIf (active.length ≥ maxActiveClaims) capacityExceeded
  let claim : Claim :=
    ⟨ownerId.value, request.operationId.value, request.requestDigest, revision, .active⟩
  let claimReceipt ← claimWire claim
  let receipt ← useReceipt claim.claimId claim.requestDigest revision .active
    (.claimAcquired instanceDigest claimReceipt)
  pure ⟨some { next with claims := next.claims.insert claim.claimId claim }, receipt,
    some checkout, false⟩

def reduceRelease (instanceDigest : String) (claimId : OperationId)
    : Except UseError Plan := do
  let state ← orReject current claimMissing
  match state.lifecycle with
  | .active stored creation _ => do
      rejectIf (stored ≠ instanceDigest) instanceConflict
      let claim ← orReject (state.claims.get? claimId.value) claimMissing
      let claimReceipt ← claimWire claim
      match claim.state with
      | .released release => do
          let receipt ← useReceipt release.operationId release.requestDigest release.revision
            .active (.claimReleased instanceDigest claimReceipt)
          pure ⟨none, receipt, none, false⟩
      | .active => do
          let revision ← nextRevision state.revision
          let release : OperationMarker :=
            ⟨request.operationId.value, request.requestDigest, revision⟩
          let receipt ← useReceipt release.operationId release.requestDigest revision .active
            (.claimReleased instanceDigest claimReceipt)
          pure ⟨
            some {
              state with
              revision := revision
              lifecycle := .active stored creation .idle
              claims := state.claims.insert claimId.value { claim with state := .released release }
            },
            receipt, none, false⟩
  | _ => throw (phaseConflict "checkout-use claim cannot be released in the current phase")

/-- The claims that a permit retires: those active, which the request has to name. -/
def retiringClaims (live : Option (State × Option CreationHistory))
    (retiringClaimIds : List OperationId)
    : Except UseError (List UseClaim) :=
  match live with
  | none => do
      rejectIf (retiringClaimIds ≠ []) retiringMismatch
      pure []
  | some (state, _) => do
      let retiring ← activeClaims state
      rejectIf (retiring.map UseClaim.claimId ≠ retiringClaimIds) retiringMismatch
      pure retiring

def reducePermit (checkout : Instance) (instanceDigest : String)
    (retiringClaimIds : List OperationId)
    : Except UseError Plan := do
  let live ← liveGeneration current instanceDigest
    "checkout removal cannot be permitted in the current phase"
  let retiring ← retiringClaims live retiringClaimIds
  let revision ← nextRevision (baseRevision current)
  let token ← permitToken hash request.authority instanceDigest request.operationId.value
    request.requestDigest revision
  let slot : Slot := ⟨token, request.operationId.value, request.requestDigest, revision⟩
  let next := continueGeneration request live revision
    (fun creation => .removing instanceDigest creation slot .permitted)
  let permit ← permitReceipt request.authority slot checkout instanceDigest retiring
  let receipt ← useReceipt slot.operationId slot.requestDigest revision .removing
    (.removalPermitted permit)
  pure ⟨some next, receipt, some checkout, false⟩

def reduceAbortRemoval (checkout : Instance) (instanceDigest permitToken : String)
    : Except UseError Plan := do
  let state ← orReject current (phaseConflict "checkout removal has no permit to abort")
  match state.lifecycle with
  | .removing stored creation slot progress => do
      rejectIf (stored ≠ instanceDigest) instanceConflict
      rejectIf progress.marker.isSome
        (phaseConflict "checkout removal cannot be aborted after physical execution started")
      rejectIf (slot.token ≠ permitToken)
        (operationConflict "removal abort did not consume the exact permit")
      let permit ← permitFromState request.authority state checkout
      let revision ← nextRevision state.revision
      let abort : Slot :=
        ⟨permitToken, request.operationId.value, request.requestDigest, revision⟩
      let receipt ← useReceipt abort.operationId abort.requestDigest revision .active
        (.removalAborted permit)
      pure ⟨
        some (State.compactReleasedClaims {
          state with
          revision := revision
          lifecycle := .active stored creation (.aborted slot abort)
        }),
        receipt, none, false⟩
  | _ => throw (phaseConflict "checkout removal cannot be aborted in the current phase")

/-- The generation ends through the same shape a physical removal leaves behind, under two
ids derived from the request's; the derived ids are not checked here. -/
def reduceRetireAbsent : Except UseError Plan := do
  let state ← orReject current
    (phaseConflict "no checkout-use generation to retire as absent")
  match state.lifecycle with
  | .active stored creation _ => do
      rejectIf (state.claims.entries.any (fun entry => entry.2.isActive))
        ⟨"checkout_use_in_use",
          "an absent checkout cannot be retired while claims are active"⟩
      let revision ← nextRevision state.revision
      let permitId := request.operationId.value ++ ":permit"
      let physicalId := request.operationId.value ++ ":physical"
      let token ← permitToken hash request.authority stored permitId request.requestDigest
        revision
      let receipt ← useReceipt request.operationId.value request.requestDigest revision
        .removed (.absentCheckoutRetired stored)
      pure ⟨
        some (State.compactReleasedClaims {
          state with
          revision := revision
          lifecycle := .removed (.physical {
            instanceDigest := stored
            creation := creation
            permit := ⟨token, permitId, request.requestDigest, revision⟩
            physical := ⟨physicalId, request.requestDigest, revision⟩
            outcome := .alreadyAbsent
          })
        }),
        receipt, none, true⟩
  | _ => throw (phaseConflict "only an active checkout generation can be retired as absent")

/-- A request that was not recorded before. -/
def reduceNew : Except UseError Plan :=
  match request.action with
  | .reserve ownerId => reduceReserve hash current request ownerId
  | .abortCreation reservationToken quiescentStart =>
    reduceAbortCreation current request reservationToken quiescentStart
  | .startCreation reservationToken => reduceStartCreation current request reservationToken
  | .activate checkout instanceDigest reservationToken =>
    reduceActivate current request checkout instanceDigest reservationToken
  | .claim checkout instanceDigest ownerId =>
    reduceClaim current request checkout instanceDigest ownerId
  | .release instanceDigest claimId => reduceRelease current request instanceDigest claimId
  | .permit checkout instanceDigest retiringClaimIds _ =>
    reducePermit hash current request checkout instanceDigest retiringClaimIds
  | .abortRemoval checkout instanceDigest permitToken =>
    reduceAbortRemoval current request checkout instanceDigest permitToken
  | .retireAbsent => reduceRetireAbsent hash current request

def replayInstance : PreparedAction → Option Instance
  | .claim checkout _ _ => some checkout
  | .activate checkout _ _ => some checkout
  | _ => none

/-- A request that was recorded before is answered from its record. -/
def replayPlan (state : State) : Except UseError Plan :=
  match request.action with
  | .startCreation _ => throw alreadyStarted
  | action => do
      let receipt ← replayRequest state request
      pure ⟨none, receipt, replayInstance action, false⟩

def reduceRequest : Except UseError Plan :=
  match current with
  | none => reduceNew hash none request
  | some state => do
      let recorded ← operationRecorded state request
      if recorded then
        replayPlan request state
      else
        reduceNew hash (some state) request

/-- A completed creator already owns its reservation claim: its registration replays the
stored activation. -/
def PreparedRequest.forRegistration : Except UseError PreparedRequest :=
  match request.action with
  | .claim checkout instanceDigest ownerId =>
    match current.bind State.creation with
    | none => pure request
    | some creation =>
      let ownedClaim :=
        (current.bind (fun state => state.claims.get? request.operationId.value)).filter
          (fun claim => claim.ownerId == ownerId.value)
      if creation.reservation.operationId ≠ request.operationId.value ∨ ownedClaim.isNone
      then
        pure request
      else do
        let operationId ← storedId creation.activation.operationId
          "stored creation activation operation id is invalid"
        bindRequest hash request.authority operationId
          (.activate checkout instanceDigest creation.reservation.token)
  | _ => throw (stateError "registration resolution requires a prepared claim")

end

end Dure.Checkout
