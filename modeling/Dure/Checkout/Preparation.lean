import Dure.Checkout.Reducer

/-! The requests that reach the reducer, and that their digests are object ids. -/

namespace Dure.Checkout

open Library Check

/-- The instance that an action names, by its digest. -/
def PreparedAction.instanceDigest : PreparedAction → Option String
  | .activate _ instanceDigest _ => some instanceDigest
  | .claim _ instanceDigest _ => some instanceDigest
  | .release instanceDigest _ => some instanceDigest
  | .permit _ instanceDigest _ _ => some instanceDigest
  | .abortRemoval _ instanceDigest _ => some instanceDigest
  | _ => none

/-- The requests that reach the reducer: prepared from an action, or derived from another
prepared request. -/
inductive Prepared (hash : String → String) (authority : Authority)
    : PreparedRequest → Prop where
  | asked {operationId : OperationId} {action : UseAction} {request : PreparedRequest}
      (prepared : prepareRequest hash authority operationId action = .ok request)
      : Prepared hash authority request
  | creationAbort {base request : PreparedRequest} {operationId : OperationId}
      {token : String} (origin : Prepared hash authority base)
      (derived : base.creationAbort hash operationId token = .ok request)
      : Prepared hash authority request
  | creationStart {base request : PreparedRequest} {operationId : OperationId}
      {token : String} (origin : Prepared hash authority base)
      (derived : base.creationStart hash operationId token = .ok request)
      : Prepared hash authority request
  | retireAbsent {base request : PreparedRequest} {operationId : OperationId}
      (origin : Prepared hash authority base)
      (derived : base.retireAbsent hash operationId = .ok request)
      : Prepared hash authority request
  | registration {base request : PreparedRequest} {current : Option State}
      (origin : Prepared hash authority base)
      (derived : base.forRegistration hash current = .ok request)
      : Prepared hash authority request

/-- What the reducer needs of a request: it is for this checkout and its digests are ids. -/
structure PreparedRequest.Proper (authority : Authority) (request : PreparedRequest)
    : Prop where
  sameAuthority : request.authority = authority
  digest : authority.validOid request.requestDigest = true
  checkout : ∀ digest, request.action.instanceDigest = some digest
    → authority.validOid digest = true

variable {request : PreparedRequest} {operationId : OperationId} {action : PreparedAction}
  {digest : String}

section

variable {hash : String → String} {authority : Authority}

/-- The request is for this checkout and its digest binds its id and action. -/
structure PreparedRequest.Bound (hash : String → String) (authority : Authority)
    (request : PreparedRequest)
    : Prop where
  sameAuthority : request.authority = authority
  digest : Checkout.requestDigest hash authority request.operationId request.action
    = .ok request.requestDigest

/-- The digests that an action carries are those of its instance. -/
def PreparedAction.Digested (hash : String → String) : PreparedAction → Prop
  | .activate checkout instanceDigest _ | .claim checkout instanceDigest _
  | .permit checkout instanceDigest _ _ | .abortRemoval checkout instanceDigest _ =>
    digestInstance hash checkout = .ok instanceDigest
  | .release instanceDigest _ => ∃ checkout, digestInstance hash checkout = .ok instanceDigest
  | _ => True

structure PreparedRequest.Genuine (hash : String → String) (authority : Authority)
    (request : PreparedRequest)
    : Prop extends request.Bound hash authority where
  digested : request.action.Digested hash

theorem bindRequest_genuine
    (bound : bindRequest hash authority operationId action = .ok request)
    (digested : action.Digested hash)
    : request.Genuine hash authority := by
  simp only [bindRequest, bind_ok, pure_ok] at bound
  obtain ⟨digest, computed, rfl⟩ := bound
  exact ⟨⟨rfl, computed⟩, digested⟩

theorem prepareAction_digested {action : UseAction}
    (accepted : prepareAction hash authority action = .ok prepared)
    : prepared.Digested hash := by
  cases action with
  | reserveCreation ownerId | retireAbsentCheckout =>
    simp only [prepareAction, pure_ok] at accepted
    subst accepted
    trivial
  | abortCreation token | startCreation token =>
    simp only [prepareAction, ↓seq_ok, pure_ok] at accepted
    obtain ⟨_, rfl⟩ := accepted
    trivial
  | activateCreation checkout token | acquireRemovalPermit checkout retiringClaimIds policy
  | abortRemoval checkout token =>
    simp only [prepareAction, bind_ok, pure_ok] at accepted
    obtain ⟨computed, digested, _, _, rfl⟩ := accepted
    exact digested
  | claim checkout ownerId =>
    simp only [prepareAction, bind_ok, pure_ok] at accepted
    obtain ⟨computed, digested, rfl⟩ := accepted
    exact digested
  | release checkout claimId =>
    simp only [prepareAction, bind_ok, pure_ok] at accepted
    obtain ⟨computed, digested, rfl⟩ := accepted
    exact ⟨checkout, digested⟩

/-- Every request that reaches the reducer is bound to its checkout by its digest. Witness:
induction on how the request was derived. -/
theorem Prepared.genuine (prepared : Prepared hash authority request)
    : request.Genuine hash authority := by
  induction prepared with
  | asked prepared =>
    simp only [prepareRequest, bind_ok] at prepared
    obtain ⟨_, accepted, bound⟩ := prepared
    exact bindRequest_genuine bound (prepareAction_digested accepted)
  | creationAbort origin derived ih =>
    unfold PreparedRequest.creationAbort at derived
    rw [ih.sameAuthority] at derived
    split at derived
    · exact bindRequest_genuine derived trivial
    · exact bindRequest_genuine derived trivial
    · simp at derived
  | creationStart origin derived ih =>
    rw [PreparedRequest.creationStart, ih.sameAuthority] at derived
    exact bindRequest_genuine derived trivial
  | retireAbsent origin derived ih =>
    rw [PreparedRequest.retireAbsent, ih.sameAuthority] at derived
    exact bindRequest_genuine derived trivial
  | registration origin derived ih =>
    rename_i base request current
    unfold PreparedRequest.forRegistration at derived
    cases action : base.action with
    | claim checkout instanceDigest ownerId =>
      simp only [action] at derived
      split at derived
      · cases derived
        exact ih
      · split_ifs at derived with unowned
        · cases derived
          exact ih
        · simp only [bind_ok, ih.sameAuthority] at derived
          obtain ⟨operationId, _, bound⟩ := derived
          have digested := ih.digested
          rw [action] at digested
          exact bindRequest_genuine bound digested
    | _ => simp [action] at derived

section

variable (widths : Widths hash authority)
include widths

theorem PreparedAction.Digested.valid (digested : action.Digested hash)
    (named : action.instanceDigest = some digest)
    : authority.validOid digest = true := by
  cases action with
  | reserve | abortCreation | startCreation | retireAbsent => cases named
  | release =>
    cases named
    obtain ⟨_, computed⟩ := digested
    exact digestFields_valid widths computed
  | _ =>
    cases named
    exact digestFields_valid widths digested

/-- Every request that reaches the reducer is proper. -/
theorem Prepared.proper (prepared : Prepared hash authority request)
    : request.Proper authority := by
  obtain ⟨⟨sameAuthority, computed⟩, digested⟩ := prepared.genuine
  refine ⟨sameAuthority, ?_, fun _ named => digested.valid widths named⟩
  unfold requestDigest at computed
  split at computed
  · exact digestFields_valid widths computed
  · exact digestFields_valid widths computed

end

end

end Dure.Checkout
