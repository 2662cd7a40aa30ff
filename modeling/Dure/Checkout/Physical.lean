import Dure.Checkout.Reducer

/-! The physical removal under a permit: placing its marker, taking the marker back when the
removal was refused, and recording that the checkout is gone. Each is one pass of a loop that
reads the record, decides, and swaps.
-/

namespace Dure.Checkout

open Library Check

structure PhysicalRequest where
  operationId : OperationId
  checkout : Instance
  permitToken : String
  policy : RemovalPolicy
  deriving DecidableEq

/-- A removal request with the digests that its loops compare. -/
structure PreparedRemoval where
  authority : Authority
  request : PhysicalRequest
  instanceDigest : String
  requestDigest : String
  deriving DecidableEq

/-- What one pass decides: to answer from the record as it is, or to swap in another one and
then answer. -/
inductive Decision (α : Type) where
  | answer (value : α)
  | swap (next : State) (value : α)
  deriving DecidableEq

inductive PhysicalStart where
  | execute
  | reconcile
  | terminal (receipt : UseReceipt)
  deriving DecidableEq

section

variable (hash : String → String)

def physicalRequestDigest (authority : Authority) (instanceDigest : String)
    (request : PhysicalRequest)
    : Except UseError String :=
  digestFields hash requestDomain
    (["physical_remove", authority.pathDigest, instanceDigest, request.permitToken]
      ++ (if request.policy = .discardChanges then [request.policy.text] else [])
      ++ [request.operationId.value])

def prepareRemoval (authority : Authority) (request : PhysicalRequest)
    : Except UseError PreparedRemoval := do
  let instanceDigest ← digestInstance hash request.checkout
  rejectIf (¬authority.validOid request.permitToken)
    (requestError "checkout removal permit token is invalid")
  let requestDigest ← physicalRequestDigest hash authority instanceDigest request
  pure ⟨authority, request, instanceDigest, requestDigest⟩

def State.permitMatches (state : State) (instanceDigest permitToken : String) : Bool :=
  state.instanceDigest == some instanceDigest
    && state.permit.any (fun slot => slot.token == permitToken)

def permitAllowsPolicy (authority : Authority) (state : State) (instanceDigest : String)
    (checkout : Instance) (policy : RemovalPolicy)
    : Except UseError Bool := do
  let permit ← permitFromState authority state checkout
  let digest ← permitRequestDigest hash authority permit.operationId instanceDigest
    (permit.retiringClaims.map UseClaim.claimId) policy
  pure (permit.requestDigest == digest)

def removedReceipt (authority : Authority) (state : State) (checkout : Instance)
    : Except UseError UseReceipt := do
  let terminal ← orReject state.terminal
    (stateError "removed checkout-use state lost its receipt")
  let permit ← permitFromState authority state checkout
  let removal ← physicalReceipt checkout terminal.kind
  useReceipt terminal.operationId terminal.requestDigest terminal.revision .removed
    (.removed permit removal)

end

namespace PreparedRemoval

variable (hash : String → String) (removal : PreparedRemoval)

/-- The record is marked by exactly this removal. -/
def marks (state : State) : Bool :=
  state.physical.any (fun physical =>
    physical.operationId == removal.request.operationId.value
      && physical.requestDigest == removal.requestDigest)

def holdsPermit (state : State) : Bool :=
  state.permitMatches removal.instanceDigest removal.request.permitToken

/-- The replay of a removal that has its terminal record. -/
def replayTerminal (state : State) : Except UseError (Decision PhysicalStart) := do
  let terminal ← orReject state.terminal
    (stateError "removed checkout-use state lost its receipt")
  rejectIf
    (terminal.operationId ≠ removal.request.operationId.value
      ∨ terminal.requestDigest ≠ removal.requestDigest)
    (phaseConflict "only the exact terminal physical removal request can replay")
  let receipt ← removedReceipt removal.authority state removal.request.checkout
  pure (.answer (.terminal receipt))

/-- The replay of a removal whose marker is in the record. -/
def replayMarked (state : State) (operation : Operation)
    : Except UseError (Decision PhysicalStart) := do
  rejectIf
    (operation.kind ≠ .physical ∨ operation.requestDigest ≠ removal.requestDigest)
    (operationConflict "physical removal operation id was replayed with a changed payload")
  rejectIf
    (¬(state.phase = .removing ∧ removal.marks state ∧ removal.holdsPermit state))
    (stateError "physical removal replay disagrees with checkout-use state")
  pure (.answer .reconcile)

/-- Consume the live permit by placing the marker. -/
def placeMarker (state : State) : Except UseError (Decision PhysicalStart) :=
  match state.lifecycle with
  | .removing stored creation permit .permitted => do
      rejectIf (¬removal.holdsPermit state)
        (phaseConflict "physical removal did not consume the exact live permit")
      let allowed ← permitAllowsPolicy hash removal.authority state removal.instanceDigest
        removal.request.checkout removal.request.policy
      rejectIf (¬allowed)
        (operationConflict "physical removal policy disagrees with its exact permit")
      let revision ← nextRevision state.revision
      pure (.swap
        {
          state with
          revision := revision
          lifecycle := .removing stored creation permit (.executing
            ⟨removal.request.operationId.value, removal.requestDigest, revision⟩)
        }
        .execute)
  | _ => throw (phaseConflict "physical removal did not consume the exact live permit")

def startPhysicalRemoval (current : Option State)
    : Except UseError (Decision PhysicalStart) := do
  let state ← orReject current
    (phaseConflict "checkout removal has no authoritative permit")
  if state.phase = .removed ∧ removal.holdsPermit state then
    removal.replayTerminal state
  else
    match state.findLifecycleOperation removal.request.operationId.value with
    | some operation => removal.replayMarked state operation
    | none => removal.placeMarker hash state

/-- The id and digest of the abort that takes a refused removal back. -/
def rollbackOperation : Except UseError (OperationId × String) := do
  let operationId ← storedId ("physical-abort-" ++ removal.requestDigest)
    "derived physical-abort operation id is invalid"
  let digest ← digestFields hash requestDomain
    ["physical_failure_abort", removal.authority.pathDigest, removal.instanceDigest,
      removal.request.permitToken, removal.request.operationId.value, removal.requestDigest]
  pure (operationId, digest)

def rollbackRefusedPhysicalRemoval (current : Option State)
    : Except UseError (Decision Unit) := do
  let (abortId, abortDigest) ← removal.rollbackOperation hash
  let state ← orReject current
    (stateError "checkout-use state disappeared during physical rollback")
  if state.phase = .active
      ∧ state.lastAbort.any (fun slot => slot.token == removal.request.permitToken) then
    pure (.answer ())
  else
    match state.lifecycle with
    | .removing stored creation permit (.executing _) => do
        rejectIf (¬(removal.holdsPermit state ∧ removal.marks state))
          (stateError "checkout-use state changed during refused physical removal")
        let revision ← nextRevision state.revision
        pure (.swap
          (State.compactReleasedClaims {
            state with
            revision := revision
            lifecycle := .active stored creation (.aborted permit
              ⟨removal.request.permitToken, abortId.value, abortDigest, revision⟩)
          })
          ())
    | _ => throw (stateError "checkout-use state changed during refused physical removal")

def terminalizePhysicalRemoval (outcome : PhysicalOutcome) (current : Option State)
    : Except UseError (Decision UseReceipt) := do
  let state ← orReject current
    (stateError "checkout-use state disappeared after physical removal")
  if state.phase = .removed ∧ removal.holdsPermit state then do
    let receipt ← removedReceipt removal.authority state removal.request.checkout
    pure (.answer receipt)
  else
    match state.lifecycle with
    | .removing stored creation permit (.executing physical) => do
        rejectIf (¬(removal.holdsPermit state ∧ removal.marks state))
          (stateError "checkout-use state changed after physical removal")
        let revision ← nextRevision state.revision
        let next := State.compactReleasedClaims {
          state with
          revision := revision
          lifecycle := .removed (.physical {
            instanceDigest := stored
            creation := creation
            permit := permit
            physical := physical
            outcome := outcome
          })
        }
        let permit ← permitFromState removal.authority state removal.request.checkout
        let receipt ← useReceipt removal.request.operationId.value removal.requestDigest
          revision .removed (.removed permit ⟨outcome, removal.request.checkout⟩)
        pure (.swap next receipt)
    | _ => throw (stateError "checkout-use state changed after physical removal")

end PreparedRemoval

end Dure.Checkout
