import Dure.Checkout.State

/-! Prepared requests: an action on one checkout, the id of the operation and the digest
that binds the two.
-/

namespace Dure.Checkout

open Library Check

structure Instance where
  schemaVersion : Nat
  canonicalPath : String
  gitCommonDir : String
  gitDir : String
  instanceToken : String
  deriving DecidableEq, Repr

inductive RemovalPolicy where
  | requireClean
  | discardChanges
  deriving DecidableEq, Repr

def RemovalPolicy.text : RemovalPolicy → String
  | .requireClean => "require_clean"
  | .discardChanges => "discard_changes"

inductive PreparedAction where
  | reserve (ownerId : OperationId)
  | abortCreation (reservationToken : String)
    (quiescentStart : Option (OperationId × String))
  | startCreation (reservationToken : String)
  | activate (checkout : Instance) (instanceDigest reservationToken : String)
  | claim (checkout : Instance) (instanceDigest : String) (ownerId : OperationId)
  | release (instanceDigest : String) (claimId : OperationId)
  | permit (checkout : Instance) (instanceDigest : String)
    (retiringClaimIds : List OperationId) (policy : RemovalPolicy)
  | abortRemoval (checkout : Instance) (instanceDigest permitToken : String)
  | retireAbsent
  deriving DecidableEq

def PreparedAction.kind : PreparedAction → OperationKind
  | .reserve _ => .reserve
  | .abortCreation .. => .abortCreation
  | .startCreation _ => .startCreation
  | .activate .. => .activate
  | .claim .. => .claim
  | .release .. => .release
  | .permit .. => .permit
  | .abortRemoval .. => .abortRemoval
  | .retireAbsent => .retireAbsent

def OperationKind.text : OperationKind → String
  | .reserve => "reserve"
  | .abortCreation => "abort_creation"
  | .startCreation => "start_creation"
  | .activate => "activate"
  | .claim => "claim"
  | .release => "release"
  | .permit => "permit"
  | .abortRemoval => "abort_removal"
  | .retireAbsent => "retire_absent"
  | .physical => "physical"

structure PreparedRequest where
  authority : Authority
  operationId : OperationId
  requestDigest : String
  action : PreparedAction
  deriving DecidableEq

def instanceDomain : String := "dure-checkout-use-instance-v1"

def digestInstance (hash : String → String) (checkout : Instance) : Except UseError String :=
  digestFields hash instanceDomain
    [toString checkout.schemaVersion, checkout.canonicalPath, checkout.gitCommonDir,
      checkout.gitDir, checkout.instanceToken]

section

variable (hash : String → String) (authority : Authority)

def permitRequestDigest (operationId : OperationId) (instanceDigest : String)
    (retiringClaimIds : List OperationId) (policy : RemovalPolicy)
    : Except UseError String :=
  digestFields hash requestDomain
    (["permit", authority.pathDigest, instanceDigest, toString retiringClaimIds.length]
      ++ retiringClaimIds.map OperationId.value
      ++ (if policy = .discardChanges then [policy.text] else [])
      ++ [operationId.value])

/-- The fields of an action between its kind and path and the end; the permit has its own
digest. -/
def actionFields (operationId : OperationId) : PreparedAction → List String
  | .reserve ownerId => [ownerId.value, operationId.value]
  | .abortCreation reservationToken quiescentStart =>
    [reservationToken, operationId.value]
      ++ match quiescentStart with
        | none => []
        | some (start, digest) => [start.value, digest]
  | .startCreation reservationToken => [reservationToken, operationId.value]
  | .activate _ instanceDigest reservationToken =>
    [reservationToken, instanceDigest, operationId.value]
  | .claim _ instanceDigest ownerId => [instanceDigest, ownerId.value, operationId.value]
  | .release instanceDigest claimId => [instanceDigest, claimId.value, operationId.value]
  | .permit .. => []
  | .abortRemoval _ instanceDigest permitToken =>
    [instanceDigest, permitToken, operationId.value]
  | .retireAbsent => [operationId.value]

def requestDigest (operationId : OperationId) (action : PreparedAction)
    : Except UseError String :=
  match action with
  | .permit _ instanceDigest retiringClaimIds policy =>
    permitRequestDigest hash authority operationId instanceDigest retiringClaimIds policy
  | action =>
    digestFields hash requestDomain
      ([action.kind.text, authority.pathDigest] ++ actionFields operationId action)

/-- Retiring claims are bounded, sorted and distinct. -/
def normalizeClaimIds (claimIds : List OperationId) : Except UseError (List OperationId) := do
  rejectIf (claimIds.length > maxActiveClaims)
    ⟨"checkout_use_capacity_exceeded",
      "checkout-use retiring claim ids exceed the shared active-claim bound"⟩
  let sorted := claimIds.mergeSort (fun left right => left.value ≤ right.value)
  rejectIf (¬(sorted.map OperationId.value).Nodup)
    (requestError "checkout-use retiring claim ids contain duplicates")
  pure sorted

/-- What a request may ask for; the paths of the source are resolved to the authority. -/
inductive UseAction where
  | reserveCreation (ownerId : OperationId)
  | abortCreation (reservationToken : String)
  | startCreation (reservationToken : String)
  | activateCreation (checkout : Instance) (reservationToken : String)
  | claim (checkout : Instance) (ownerId : OperationId)
  | release (checkout : Instance) (claimId : OperationId)
  | acquireRemovalPermit (checkout : Instance) (retiringClaimIds : List OperationId)
    (policy : RemovalPolicy)
  | abortRemoval (checkout : Instance) (permitToken : String)
  | retireAbsentCheckout
  deriving DecidableEq

def prepareAction : UseAction → Except UseError PreparedAction
  | .reserveCreation ownerId => pure (.reserve ownerId)
  | .abortCreation reservationToken => do
      rejectIf (¬authority.validOid reservationToken)
        (requestError "creation reservation token is invalid")
      pure (.abortCreation reservationToken none)
  | .startCreation reservationToken => do
      rejectIf (¬authority.validOid reservationToken)
        (requestError "creation reservation token is invalid")
      pure (.startCreation reservationToken)
  | .activateCreation checkout reservationToken => do
      let instanceDigest ← digestInstance hash checkout
      rejectIf (¬authority.validOid reservationToken)
        (requestError "creation reservation token is invalid")
      pure (.activate checkout instanceDigest reservationToken)
  | .claim checkout ownerId => do
      let instanceDigest ← digestInstance hash checkout
      pure (.claim checkout instanceDigest ownerId)
  | .release checkout claimId => do
      let instanceDigest ← digestInstance hash checkout
      pure (.release instanceDigest claimId)
  | .acquireRemovalPermit checkout retiringClaimIds policy => do
      let instanceDigest ← digestInstance hash checkout
      let retiringClaimIds ← normalizeClaimIds retiringClaimIds
      pure (.permit checkout instanceDigest retiringClaimIds policy)
  | .abortRemoval checkout permitToken => do
      let instanceDigest ← digestInstance hash checkout
      rejectIf (¬authority.validOid permitToken)
        (requestError "checkout removal permit token is invalid")
      pure (.abortRemoval checkout instanceDigest permitToken)
  | .retireAbsentCheckout => pure .retireAbsent

/-- Bind an action to its digest. -/
def bindRequest (operationId : OperationId) (action : PreparedAction)
    : Except UseError PreparedRequest := do
  let digest ← requestDigest hash authority operationId action
  pure ⟨authority, operationId, digest, action⟩

def prepareRequest (operationId : OperationId) (action : UseAction)
    : Except UseError PreparedRequest := do
  let action ← prepareAction hash authority action
  bindRequest hash authority operationId action

end

namespace PreparedRequest

variable (hash : String → String) (request : PreparedRequest)

/-- The abort of a reservation that was not started, or of exactly the bound start. -/
def creationAbort (operationId : OperationId) (reservationToken : String)
    : Except UseError PreparedRequest :=
  match request.action with
  | .startCreation _ =>
    bindRequest hash request.authority operationId
      (.abortCreation reservationToken (some (request.operationId, request.requestDigest)))
  | .reserve _ =>
    bindRequest hash request.authority operationId (.abortCreation reservationToken none)
  | _ => throw (stateError "creation abort requires a reservation or bound start")

def creationStart (operationId : OperationId) (reservationToken : String)
    : Except UseError PreparedRequest :=
  bindRequest hash request.authority operationId (.startCreation reservationToken)

def retireAbsent (operationId : OperationId) : Except UseError PreparedRequest :=
  bindRequest hash request.authority operationId .retireAbsent

end PreparedRequest

end Dure.Checkout
