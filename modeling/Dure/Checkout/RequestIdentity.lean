import Dure.Checkout.RemovalSafety

/-! The digest of a request identifies it among all requests on one repository, so the
payload of an operation that a record holds cannot be exchanged.
-/

namespace Dure.Checkout

open Library Check List

/-- The fields of a request after its kind and its path. -/
def PreparedRequest.payload (request : PreparedRequest) : List String :=
  match request.action with
  | .permit _ instanceDigest retiringClaimIds policy =>
    [instanceDigest, toString retiringClaimIds.length]
      ++ (retiringClaimIds.map OperationId.value
        ++ ((if policy = .discardChanges then [policy.text] else [])
          ++ [request.operationId.value]))
  | action => actionFields request.operationId action

/-- A request for a checkout: one of the actions, or a physical removal. -/
inductive Asked (hash : String → String) (authority : Authority) where
  | use (request : PreparedRequest) (prepared : Prepared hash authority request)
  | remove (removal : Removal hash authority)

/-- A request for any checkout of the repository. -/
structure PathRequest (hash : String → String) where
  path : String
  authority : Authority
  trusted : Authority.fromTrusted hash path = .ok authority
  asked : Asked hash authority

variable {hash : String → String} {authority : Authority}

namespace Asked

def operationId : Asked hash authority → OperationId
  | .use request _ => request.operationId
  | .remove removal => removal.asked.operationId

def digest : Asked hash authority → String
  | .use request _ => request.requestDigest
  | .remove removal => removal.removal.requestDigest

def kindText : Asked hash authority → String
  | .use request _ => request.action.kind.text
  | .remove _ => "physical_remove"

def payload : Asked hash authority → List String
  | .use request _ => request.payload
  | .remove removal =>
    [removal.removal.instanceDigest, removal.asked.permitToken]
      ++ (if removal.asked.policy = .discardChanges then [removal.asked.policy.text] else [])
      ++ [removal.asked.operationId.value]

/-- The request is turned down when it meets the record. -/
def Refused (state : State) : Asked hash authority → Prop
  | .use request _ => ∃ error, reduceRequest hash (some state) request = .error error
  | .remove removal =>
    ∃ error, removal.removal.startPhysicalRemoval hash (some state) = .error error

theorem digested (asked : Asked hash authority)
    : digestFields hash requestDomain (asked.kindText :: authority.pathDigest :: asked.payload)
      = .ok asked.digest := by
  cases asked with
  | use request prepared =>
    have computed := prepared.genuine.digest
    obtain ⟨_, _, _, action⟩ := request
    cases action with
    | permit =>
      simp only [requestDigest, permitRequestDigest, append_assoc] at computed
      exact computed
    | _ => exact computed
  | remove removal => exact (prepareRemoval_ok removal.prepared).2.2.2

end Asked

theorem OperationKind.text_injective : Function.Injective OperationKind.text := by
  intro left right
  cases left <;> cases right <;> decide

theorem OperationId.ext_value {left right : OperationId} (same : left.value = right.value)
    : left = right := by
  cases left
  cases right
  cases same
  rfl

section

variable (injective : Function.Injective hash)
include injective

/-- The kind and the fields determine the action and the id: the optional fields show in
their number, and the claims of a permit are counted before they are listed. -/
theorem PreparedRequest.ext_payload {left right : PreparedRequest}
    (isLeft : left.action.Digested hash) (isRight : right.action.Digested hash)
    (kinds : left.action.kind = right.action.kind) (same : left.payload = right.payload)
    : left.operationId = right.operationId ∧ left.action = right.action := by
  obtain ⟨_, operationId, _, action⟩ := left
  obtain ⟨_, otherId, _, other⟩ := right
  have ids {left right : OperationId} := @OperationId.ext_value left right
  have instances {left right digest} := @digestInstance_injective _ left digest right injective
  cases action with
  | reserve | startCreation | retireAbsent | release =>
    cases other <;> cases kinds
    simp only [payload, actionFields, cons.injEq, and_true] at same
    grind
  | abortCreation token start =>
    cases other <;> cases kinds
    rename_i otherToken otherStart
    simp only [payload, actionFields] at same
    cases start <;> cases otherStart <;> simp at same <;> grind
  | activate | claim | abortRemoval =>
    cases other <;> cases kinds
    simp only [payload, actionFields, cons.injEq, and_true, PreparedAction.Digested]
      at same isLeft isRight
    grind
  | permit checkout digest claims policy =>
    cases other <;> cases kinds
    rename_i otherCheckout otherDigest others otherPolicy
    simp only [payload, cons_append, nil_append, cons.injEq, PreparedAction.Digested]
      at same isLeft isRight
    obtain ⟨rfl, count, fields⟩ := same
    have lengths : claims.length = others.length := LengthPrefixed.natToString_injective count
    obtain ⟨listed, rest⟩ := append_inj fields (by simpa using lengths)
    have sameClaims := map_injective_iff.mpr (fun _ _ => ids) listed
    cases policy <;> cases otherPolicy <;> simp at rest <;> grind

theorem Asked.ext_digest {left right : Asked hash authority} (same : left.digest = right.digest)
    : left = right := by
  have leftFields := left.digested
  have rightFields := right.digested
  rw [← same] at rightFields
  have fields := digestFields_injective injective (by decide) leftFields rightFields
  simp only [cons.injEq, true_and] at fields
  obtain ⟨kinds, payloads⟩ := fields
  have other (kind : OperationKind) : kind.text ≠ "physical_remove" := by cases kind <;> decide
  cases left with
  | use request prepared =>
    cases right with
    | remove removal => exact absurd kinds (other _)
    | use again preparedAgain =>
      obtain ⟨⟨sameAuthority, _⟩, isLeft⟩ := prepared.genuine
      obtain ⟨⟨otherAuthority, _⟩, isRight⟩ := preparedAgain.genuine
      obtain ⟨sameId, sameAction⟩ := PreparedRequest.ext_payload injective isLeft isRight
        (OperationKind.text_injective kinds) payloads
      have authorities := sameAuthority.trans otherAuthority.symm
      cases request
      cases again
      simp_all [digest]
  | remove removal =>
    cases right with
    | use again preparedAgain => exact absurd kinds.symm (other _)
    | remove again => rw [Removal.ext_digest injective same]

theorem PathRequest.ext_digest {left right : PathRequest hash}
    (same : left.asked.digest = right.asked.digest)
    : left = right := by
  have fields := left.asked.digested
  rw [same] at fields
  have pathDigests := (cons.inj (cons.inj (digestFields_injective injective (by decide) fields
    right.asked.digested)).2).1
  obtain ⟨path, authority, trusted, asked⟩ := left
  obtain ⟨otherPath, otherAuthority, otherTrusted, otherAsked⟩ := right
  have paths : path = otherPath := by
    simp only [Authority.fromTrusted, bind_ok, pure_ok] at trusted otherTrusted
    obtain ⟨_, computed, _, _, rfl⟩ := trusted
    obtain ⟨_, otherComputed, _, _, rfl⟩ := otherTrusted
    cases pathDigests
    exact (cons.inj (digestFields_injective injective (by decide) computed otherComputed)).1
  cases paths
  cases Except.ok.inj (trusted.symm.trans otherTrusted)
  cases Asked.ext_digest injective same
  rfl

end

/-- A record that holds the operation under another digest turns the request down. -/
theorem Asked.refused {operation : Operation} {asked : Asked hash authority}
    (held : state.findLifecycleOperation asked.operationId.value = some operation)
    (changed : operation.requestDigest ≠ asked.digest)
    : asked.Refused state := by
  cases asked with
  | use request prepared =>
    cases reduced : reduceRequest hash (some state) request with
    | error error => exact ⟨error, reduced⟩
    | ok plan =>
      rw [operationId] at held
      simp only [reduceRequest, operationRecorded, held, bind_ok, rejectIf_ok] at reduced
      obtain ⟨_, ⟨_, agrees, _⟩, _⟩ := reduced
      exact absurd (Or.inl changed) agrees
  | remove removal =>
    obtain ⟨_, sameRequest, _, _⟩ := prepareRemoval_ok removal.prepared
    cases started : removal.removal.startPhysicalRemoval hash (some state) with
    | error error => exact ⟨error, started⟩
    | ok decision =>
      rw [operationId, ← sameRequest] at held
      simp only [PreparedRemoval.startPhysicalRemoval, bind_ok, orReject_ok] at started
      obtain ⟨_, ⟨⟩, started⟩ := started
      split_ifs at started
      · simp only [PreparedRemoval.replayTerminal, bind_ok, orReject_ok, rejectIf_ok,
          not_or, not_not] at started
        obtain ⟨terminal, ended, _, ⟨sameId, sameDigest⟩, _⟩ := started
        -- the terminal row is the first to be searched
        have first : state.findLifecycleOperation removal.removal.request.operationId.value
            = some (State.terminalOperation terminal) := by
          have row : state.wire.terminal = some terminal := ended
          simp [State.findLifecycleOperation, State.lifecycleOperationCandidates, row,
            State.terminalOperation, sameId]
        cases held.symm.trans first
        exact absurd sameDigest changed
      · simp only [held, PreparedRemoval.replayMarked, bind_ok, rejectIf_ok, not_or,
          not_not] at started
        obtain ⟨_, ⟨_, agrees⟩, _⟩ := started
        exact absurd agrees changed

/-- Over an injective hash, the digest of a request identifies the checkout, the kind of the
request and everything it names, an instance being named by its own digest; and a record that
holds the operation of another request under the id turns the request down. -/
theorem request_digest_identifies (injective : Function.Injective hash)
    : (∀ left right : PathRequest hash, left.asked.digest = right.asked.digest → left = right)
      ∧ (∀ left right digest, digestInstance hash left = .ok digest
        → digestInstance hash right = .ok digest → left = right)
      ∧ ∀ (earlier later : PathRequest hash) (state : State) (operation : Operation),
        earlier ≠ later
        → state.findLifecycleOperation later.asked.operationId.value = some operation
        → operation.requestDigest = earlier.asked.digest
        → later.asked.Refused state := by
  refine ⟨fun left right => PathRequest.ext_digest injective,
    fun left right digest => digestInstance_injective injective, ?_⟩
  intro earlier later state operation different held recorded
  refine Asked.refused held ?_
  rw [recorded]
  exact fun same => different (PathRequest.ext_digest injective same)

/-- The texts of the samples, with what `git hash-object` returns for them. -/
def retiredDigests : List (String × String) :=
  [
    (framed pathDomain ["/w/wt"], samplePathDigest),
    (framed requestDomain ["retire_absent", samplePathDigest, "retire-1"],
      "59b319c216766101db7ebb89eccee197aed4da63"),
    (framed permitDomain [samplePathDigest, sampleInstanceDigest, "retire-1:permit",
      "59b319c216766101db7ebb89eccee197aed4da63", "3"],
      "b56f9980a7734812e32cf342658be9a10380c0f9"),
    (framed requestDomain ["reserve", samplePathDigest, "agent-2", "retire-1"],
      "93431ce6d4202f2333a094c527d04209cfe45e3a"),
    (framed reservationDomain [samplePathDigest, "retire-1",
      "93431ce6d4202f2333a094c527d04209cfe45e3a", "4"],
      "54c5191809077c512c76875cff141fdc3abbd53b")
  ]

/-- Witness: no two requests have one digest under the hash of the samples. -/
theorem sample_digest_identifies
    : Function.Injective (traded retiredDigests)
      ∧ ∀ left right : PathRequest (traded retiredDigests),
        left.asked.digest = right.asked.digest → left = right :=
  ⟨traded_injective _, (request_digest_identifies (traded_injective _)).1⟩

/-- A checkout is retired under an id, and then reserved under the same id. -/
def reservesAfterRetiring : Except UseError (Option State) := do
  let hash := traded retiredDigests
  let retirement ← prepareRequest hash sampleAuthority shortId .retireAbsentCheckout
  let retired ← reduceRequest hash (some sampleRecord) retirement
  let reservation ← prepareRequest hash sampleAuthority shortId
    (.reserveCreation ⟨"agent-2", by decide⟩)
  let reserved ← reduceRequest hash retired.state reservation
  pure reserved.state

/-- The record of a retirement holds derived ids only, so its own id is accepted again with
another payload. -/
theorem retired_id_reused
    : Function.Injective (traded retiredDigests)
      ∧ Authority.fromTrusted (traded retiredDigests) "/w/wt" = .ok sampleAuthority
      ∧ validateState (traded retiredDigests) sampleAuthority sampleRecord = .ok ()
      ∧ (reservesAfterRetiring.map Option.isSome).toOption = some true :=
  ⟨traded_injective _, by decide +kernel, by decide +kernel, by decide +kernel⟩

end Dure.Checkout
