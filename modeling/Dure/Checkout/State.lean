import Dure.Checkout.Identity
import Dure.Library.OrderedMap

/-! The stored record of one checkout: where it is in its life, who uses it, and the check
that every read of the record makes.
-/

namespace Dure.Checkout

open Library Check

inductive Phase where
  | creating
  | active
  | removing
  | removed
  deriving DecidableEq, Repr

structure Slot where
  token : String
  operationId : String
  requestDigest : String
  revision : Nat
  deriving DecidableEq, Repr

structure OperationMarker where
  operationId : String
  requestDigest : String
  revision : Nat
  deriving DecidableEq, Repr

/-- What a recorded operation did. -/
inductive OperationKind where
  | reserve
  | abortCreation
  | startCreation
  | activate
  | claim
  | release
  | permit
  | abortRemoval
  | retireAbsent
  | physical
  deriving DecidableEq, Repr

structure Operation where
  operationId : String
  requestDigest : String
  kind : OperationKind
  revision : Nat
  deriving DecidableEq, Repr

inductive ClaimState where
  | active
  | released (release : OperationMarker)
  deriving DecidableEq, Repr

structure Claim where
  ownerId : String
  claimId : String
  requestDigest : String
  acquireRevision : Nat
  state : ClaimState
  deriving DecidableEq, Repr

def Claim.isActive (claim : Claim) : Bool :=
  match claim.state with
  | .active => true
  | .released _ => false

def Claim.release (claim : Claim) : Option OperationMarker :=
  match claim.state with
  | .active => none
  | .released release => some release

inductive TerminalKind where
  | creationAborted
  | removed
  | alreadyAbsent
  deriving DecidableEq, Repr

structure TerminalOperation where
  operationId : String
  requestDigest : String
  deriving DecidableEq, Repr

structure CreationHistory where
  reservation : Slot
  start : Slot
  activation : OperationMarker
  deriving DecidableEq, Repr

inductive CreatingState where
  | reserved (reservation : Slot)
  | started (reservation start : Slot)
  deriving DecidableEq, Repr

inductive ActiveRemoval where
  | idle
  | aborted (permit abort : Slot)
  deriving DecidableEq, Repr

inductive RemovalProgress where
  | permitted
  | executing (physical : OperationMarker)
  deriving DecidableEq, Repr

inductive PhysicalOutcome where
  | removed
  | alreadyAbsent
  deriving DecidableEq, Repr

def PhysicalOutcome.terminalKind : PhysicalOutcome → TerminalKind
  | .removed => .removed
  | .alreadyAbsent => .alreadyAbsent

structure PhysicalRemovedState where
  instanceDigest : String
  creation : Option CreationHistory
  permit : Slot
  physical : OperationMarker
  outcome : PhysicalOutcome
  deriving DecidableEq, Repr

inductive RemovedState where
  | creationAborted (reservation : Slot) (terminal : TerminalOperation)
  | physical (removed : PhysicalRemovedState)
  deriving DecidableEq, Repr

inductive Lifecycle where
  | creating (state : CreatingState)
  | active (instanceDigest : String) (creation : Option CreationHistory)
    (removal : ActiveRemoval)
  | removing (instanceDigest : String) (creation : Option CreationHistory) (permit : Slot)
    (progress : RemovalProgress)
  | removed (state : RemovedState)
  deriving DecidableEq, Repr

structure State where
  revision : Nat
  pathDigest : String
  lifecycle : Lifecycle
  claims : OrderedMap String Claim
  deriving DecidableEq

structure TerminalView where
  kind : TerminalKind
  operationId : String
  requestDigest : String
  revision : Nat
  deriving DecidableEq, Repr

/-- The flat view of a lifecycle, one field for each row of the record. -/
structure WireLifecycle where
  phase : Phase
  instanceDigest : Option String := none
  reservation : Option Slot := none
  creationStart : Option Slot := none
  activation : Option OperationMarker := none
  permit : Option Slot := none
  physical : Option OperationMarker := none
  lastAbort : Option Slot := none
  terminal : Option TerminalView := none
  deriving DecidableEq, Repr

def RemovalProgress.marker : RemovalProgress → Option OperationMarker
  | .permitted => none
  | .executing physical => some physical

def Lifecycle.wire (lifecycle : Lifecycle) (revision : Nat) : WireLifecycle :=
  match lifecycle with
  | .creating (.reserved reservation) => { phase := .creating, reservation := some reservation }
  | .creating (.started reservation start) => {
      phase := .creating
      reservation := some reservation
      creationStart := some start
    }
  | .active instanceDigest creation removal => {
      phase := .active
      instanceDigest := some instanceDigest
      reservation := creation.map CreationHistory.reservation
      creationStart := creation.map CreationHistory.start
      activation := creation.map CreationHistory.activation
      permit :=
        match removal with
        | .idle => none
        | .aborted permit _ => some permit
      lastAbort :=
        match removal with
        | .idle => none
        | .aborted _ abort => some abort
    }
  | .removing instanceDigest creation permit progress => {
      phase := .removing
      instanceDigest := some instanceDigest
      reservation := creation.map CreationHistory.reservation
      creationStart := creation.map CreationHistory.start
      activation := creation.map CreationHistory.activation
      permit := some permit
      physical := progress.marker
    }
  | .removed (.creationAborted reservation terminal) => {
      phase := .removed
      reservation := some reservation
      terminal :=
        some ⟨.creationAborted, terminal.operationId, terminal.requestDigest, revision⟩
    }
  | .removed (.physical ended) => {
      phase := .removed
      instanceDigest := some ended.instanceDigest
      reservation := ended.creation.map CreationHistory.reservation
      creationStart := ended.creation.map CreationHistory.start
      activation := ended.creation.map CreationHistory.activation
      permit := some ended.permit
      physical := some ended.physical
      terminal :=
        some ⟨ended.outcome.terminalKind, ended.physical.operationId,
          ended.physical.requestDigest, revision⟩
    }

namespace State

def wire (state : State) : WireLifecycle := state.lifecycle.wire state.revision

def phase (state : State) : Phase := state.wire.phase

def instanceDigest (state : State) : Option String := state.wire.instanceDigest

def reservation (state : State) : Option Slot := state.wire.reservation

def creationStart (state : State) : Option Slot := state.wire.creationStart

def permit (state : State) : Option Slot := state.wire.permit

def physical (state : State) : Option OperationMarker := state.wire.physical

def lastAbort (state : State) : Option Slot := state.wire.lastAbort

def terminal (state : State) : Option TerminalView := state.wire.terminal

/-- The claim stays when released claims are dropped: it is active, or the reservation's. -/
def keepsClaim (state : State) (claimId : String) (claim : Claim) : Bool :=
  claim.isActive || state.reservation.map Slot.operationId == some claimId

def compactReleasedClaims (state : State) : State :=
  { state with claims := state.claims.filter state.keepsClaim }

def hasUncompactedReleasedClaims (state : State) : Bool :=
  state.claims.entries.any (fun (claimId, claim) => !state.keepsClaim claimId claim)

def terminalOperation (terminal : TerminalView) : Operation where
  operationId := terminal.operationId
  requestDigest := terminal.requestDigest
  kind :=
    match terminal.kind with
    | .creationAborted => .abortCreation
    | .removed | .alreadyAbsent => .physical
  revision := terminal.revision

def slotOperation (kind : OperationKind) (slot : Slot) : Operation :=
  ⟨slot.operationId, slot.requestDigest, kind, slot.revision⟩

def markerOperation (kind : OperationKind) (marker : OperationMarker) : Operation :=
  ⟨marker.operationId, marker.requestDigest, kind, marker.revision⟩

/-- The acquisition of a claim and its release. -/
def claimOperations (reservation : Option Slot) (claim : Claim) : List Operation :=
  ⟨claim.claimId, claim.requestDigest,
      if reservation.any (fun slot => slot.operationId == claim.claimId) then
        .reserve
      else
        .claim,
      claim.acquireRevision⟩
    :: (claim.release.map (markerOperation .release)).toList

def lifecycleOperationCandidates (state : State) : List Operation :=
  let wire := state.wire
  (wire.terminal.map terminalOperation).toList
    ++ (wire.lastAbort.map (slotOperation .abortRemoval)).toList
    ++ (wire.permit.map (slotOperation .permit)).toList
    ++ (wire.creationStart.map (slotOperation .startCreation)).toList
    ++ (wire.reservation.map (slotOperation .reserve)).toList
    ++ (wire.physical.map (markerOperation .physical)).toList
    ++ (wire.activation.map (markerOperation .activate)).toList
    ++ state.claims.entries.flatMap (fun entry => claimOperations wire.reservation entry.2)

def findLifecycleOperation (state : State) (operationId : String) : Option Operation :=
  state.lifecycleOperationCandidates.find? (fun operation => operation.operationId == operationId)

end State

/-- Two records of one id must agree; a physical removal may be recorded twice with
different revisions. -/
def insertLifecycleOperation (authority : Authority) (stateRevision : Nat)
    (operations : OrderedMap String Operation) (operation : Operation)
    : Except UseError (OrderedMap String Operation) := do
  rejectIf
    (¬validOperationId operation.operationId
      ∨ ¬authority.validOid operation.requestDigest
      ∨ operation.revision = 0
      ∨ operation.revision > stateRevision)
    (stateError "checkout-use lifecycle operation has invalid identity or revision")
  match operations.get? operation.operationId with
  | some previous => do
      rejectIf
        (previous.requestDigest ≠ operation.requestDigest
          ∨ previous.kind ≠ operation.kind
          ∨ (previous.revision ≠ operation.revision ∧ operation.kind ≠ .physical))
        (stateError "checkout-use operation id is reused across lifecycle records")
      pure (operations.insert operation.operationId
        { previous with revision := max previous.revision operation.revision })
  | none => pure (operations.insert operation.operationId operation)

def insertLifecycleOperations (authority : Authority) (stateRevision : Nat)
    : List Operation → OrderedMap String Operation
      → Except UseError (OrderedMap String Operation)
  | [], operations => pure operations
  | operation :: rest, operations => do
      let operations ← insertLifecycleOperation authority stateRevision operations operation
      insertLifecycleOperations authority stateRevision rest operations

def lifecycleOperations (authority : Authority) (state : State)
    : Except UseError (OrderedMap String Operation) := do
  let wire := state.wire
  each
    (fun (slot : Slot) =>
      rejectIf (¬authority.validOid slot.token)
        (stateError "checkout-use lifecycle token is invalid"))
    ([wire.reservation, wire.creationStart, wire.permit, wire.lastAbort].filterMap id)
  insertLifecycleOperations authority state.revision state.lifecycleOperationCandidates .empty

section

variable (hash : String → String) (authority : Authority)

def reservationToken (operationId requestDigest : String) (revision : Nat)
    : Except UseError String :=
  digestFields hash reservationDomain
    [authority.pathDigest, operationId, requestDigest, toString revision]

def permitToken (instanceDigest operationId requestDigest : String) (revision : Nat)
    : Except UseError String :=
  digestFields hash permitDomain
    [authority.pathDigest, instanceDigest, operationId, requestDigest, toString revision]

def validateReservation (state : State) (reservation : Slot) : Except UseError Unit := do
  match state.claims.get? reservation.operationId with
  | none => throw (stateError "checkout-use reservation lost its initial claim")
  | some claim =>
    rejectIf
      (claim.requestDigest ≠ reservation.requestDigest
        ∨ claim.acquireRevision ≠ reservation.revision)
      (stateError "checkout-use reservation disagrees with its initial claim")
  let expected ← reservationToken hash authority reservation.operationId
    reservation.requestDigest reservation.revision
  rejectIf (reservation.token ≠ expected)
    (stateError "checkout-use reservation token disagrees with its authority row")
  whenSome state.creationStart (fun start =>
    rejectIf (start.token ≠ reservation.token)
      (stateError "checkout-use creation-start marker lost its reservation token"))

def validatePermit (state : State) (permit : Slot) : Except UseError Unit :=
  match state.instanceDigest with
  | none => throw (stateError "checkout-use permit lost its instance digest")
  | some instanceDigest => do
      let expected ← permitToken hash authority instanceDigest permit.operationId
        permit.requestDigest permit.revision
      rejectIf (permit.token ≠ expected)
        (stateError "checkout-use permit token disagrees with its authority row")
      rejectIf (state.lastAbort.any (fun abort => abort.token != permit.token))
        (stateError "active checkout-use state is inconsistent")

def validateClaim (entry : String × Claim) : Except UseError Unit :=
  rejectIf
    (entry.1 ≠ entry.2.claimId
      ∨ ¬validOperationId entry.2.ownerId
      ∨ ¬validOperationId entry.2.claimId
      ∨ ¬authority.validOid entry.2.requestDigest)
    (stateError "checkout-use state has an invalid claim")

/-- Exactly one claim, and it is active. -/
def onlyActiveClaim (state : State) : Bool :=
  state.claims.entries.length == 1 && state.claims.entries.all (fun entry => entry.2.isActive)

def validateLifecycleClaims (state : State) : Except UseError Unit :=
  match state.lifecycle with
  | .creating _ =>
    rejectIf (¬onlyActiveClaim state)
      (stateError "creating checkout-use state is inconsistent")
  | .removed (.creationAborted ..) =>
    rejectIf (¬onlyActiveClaim state)
      (stateError "aborted creation checkout-use state is inconsistent")
  | .active _ _ (.aborted ..) =>
    rejectIf state.hasUncompactedReleasedClaims
      (stateError "active checkout-use state is inconsistent")
  | .removed (.physical _) =>
    rejectIf state.hasUncompactedReleasedClaims
      (stateError "removed checkout-use state is inconsistent")
  | _ => pure ()

def validateState (state : State) : Except UseError Unit := do
  rejectIf
    (state.pathDigest ≠ authority.pathDigest
      ∨ ¬authority.validOid state.pathDigest
      ∨ state.revision = 0
      ∨ state.revision > maxRevision
      ∨ state.claims.entries.length > maxClaims
      ∨ (state.claims.entries.filter (fun entry => entry.2.isActive)).length > maxActiveClaims)
    (stateError "checkout-use state violates its bounded identity")
  rejectIf (state.instanceDigest.any (fun digest => !authority.validOid digest))
    (stateError "checkout-use state has an invalid instance digest")
  let _ ← lifecycleOperations authority state
  whenSome state.reservation (validateReservation hash authority state)
  whenSome state.permit (validatePermit hash authority state)
  each (validateClaim authority) state.claims.entries
  validateLifecycleClaims state

end

end Dure.Checkout
