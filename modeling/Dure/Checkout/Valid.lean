import Dure.Checkout.State

/-! What the check of a stored record says: its identity is bounded, its operations agree,
its tokens are those of their rows, and its claims fit its phase.
-/

namespace Dure.Checkout

open Library Check

namespace Operation

@[mk_iff]
structure WellFormed (authority : Authority) (revision : Nat) (operation : Operation)
    : Prop where
  validId : validOperationId operation.operationId = true
  validDigest : authority.validOid operation.requestDigest = true
  positive : 0 < operation.revision
  bounded : operation.revision ≤ revision

/-- Two records that may share an id: the same operation, recorded once, or twice when it is
a physical removal.
-/
@[mk_iff]
structure Agrees (left right : Operation) : Prop where
  digest : left.requestDigest = right.requestDigest
  kind : left.kind = right.kind
  revision : left.revision = right.revision ∨ right.kind = .physical

theorem Agrees.refl (operation : Operation) : operation.Agrees operation :=
  ⟨rfl, rfl, .inl rfl⟩

theorem Agrees.symm {left right : Operation} (agrees : left.Agrees right)
    : right.Agrees left := by
  refine ⟨agrees.digest.symm, agrees.kind.symm, ?_⟩
  rcases agrees.revision with same | physical
  · exact .inl same.symm
  · exact .inr (agrees.kind.trans physical)

theorem Agrees.trans {left middle right : Operation} (first : left.Agrees middle)
    (second : middle.Agrees right)
    : left.Agrees right := by
  refine ⟨first.digest.trans second.digest, first.kind.trans second.kind, ?_⟩
  rcases first.revision with same | physical
  · rcases second.revision with next | physical
    · exact .inl (same.trans next)
    · exact .inr physical
  · exact .inr (second.kind.symm.trans physical)

/-- The merged row of two records that agree agrees with both. -/
theorem Agrees.merged (agrees : left.Agrees right)
    : Agrees { left with revision := max left.revision right.revision } left := by
  refine ⟨rfl, rfl, ?_⟩
  rcases agrees.revision with same | physical
  · exact .inl (by simp [same])
  · exact .inr (agrees.kind.trans physical)

end Operation

/-- Every record is well formed and records of one id agree. -/
structure Consistent (authority : Authority) (revision : Nat) (operations : List Operation)
    : Prop where
  wellFormed : ∀ operation ∈ operations, operation.WellFormed authority revision
  agree : ∀ left ∈ operations, ∀ right ∈ operations,
    left.operationId = right.operationId → left.Agrees right

theorem consistent_cons {authority : Authority}
    : Consistent authority revision (operation :: rest)
      ↔ operation.WellFormed authority revision ∧ Consistent authority revision rest
        ∧ ∀ other ∈ rest, operation.operationId = other.operationId
          → operation.Agrees other := by
  constructor
  · rintro ⟨wellFormed, agree⟩
    simp only [List.forall_mem_cons] at wellFormed agree
    exact ⟨wellFormed.1, ⟨wellFormed.2, fun left member => (agree.2 left member).2⟩,
      agree.1.2⟩
  · rintro ⟨wellFormed, consistent, later⟩
    refine ⟨List.forall_mem_cons.mpr ⟨wellFormed, consistent.wellFormed⟩, ?_⟩
    simp only [List.forall_mem_cons]
    exact ⟨⟨fun _ => .refl operation, later⟩, fun left member =>
      ⟨fun sameId => (later left member sameId.symm).symm, consistent.agree left member⟩⟩

/-- The row that an operation leaves in the table. -/
def Operation.mergedInto (table : OrderedMap String Operation) (operation : Operation)
    : Operation :=
  match table.get? operation.operationId with
  | none => operation
  | some previous => { previous with revision := max previous.revision operation.revision }

/-- The operation agrees with the row of its id. -/
def Operation.Fits (table : OrderedMap String Operation) (operation : Operation) : Prop :=
  ∀ previous, table.get? operation.operationId = some previous → previous.Agrees operation

section

variable {authority : Authority} {revision : Nat} {table : OrderedMap String Operation}
  {operation : Operation}

theorem Operation.Fits.merged (fits : operation.Fits table)
    : (operation.mergedInto table).Agrees operation := by
  unfold mergedInto
  cases found : table.get? operation.operationId with
  | none => exact .refl operation
  | some previous => exact (fits previous found).merged.trans (fits previous found)

theorem insertLifecycleOperation_ok
    : insertLifecycleOperation authority revision table operation = .ok next
      ↔ (operation.WellFormed authority revision ∧ operation.Fits table)
        ∧ table.insert operation.operationId (operation.mergedInto table) = next := by
  have wellFormed : ¬(¬validOperationId operation.operationId = true
        ∨ ¬authority.validOid operation.requestDigest = true
        ∨ operation.revision = 0
        ∨ operation.revision > revision)
      ↔ operation.WellFormed authority revision := by
    rw [Operation.wellFormed_iff, Nat.pos_iff_ne_zero]
    push Not
    rfl
  simp only [insertLifecycleOperation, seq_ok, rejectIf_ok, wellFormed, Operation.Fits,
    Operation.mergedInto, and_assoc]
  cases found : table.get? operation.operationId with
  | none => simp [pure_ok]
  | some previous =>
    have agrees : ¬(previous.requestDigest ≠ operation.requestDigest
          ∨ previous.kind ≠ operation.kind
          ∨ previous.revision ≠ operation.revision ∧ operation.kind ≠ .physical)
        ↔ previous.Agrees operation := by
      rw [Operation.agrees_iff]
      push Not
      rw [Decidable.or_iff_not_imp_left]
    simp only [seq_ok, rejectIf_ok, agrees, pure_ok, Option.some.injEq, forall_eq']

/-- Once its row is in the table, an operation agrees with the later ones of its id. -/
theorem Operation.Fits.after_insert {other : Operation} (fits : operation.Fits table)
    : other.Fits (table.insert operation.operationId (operation.mergedInto table))
      ↔ (operation.operationId = other.operationId → operation.Agrees other)
        ∧ other.Fits table := by
  by_cases sameId : operation.operationId = other.operationId
  · simp only [Fits, ← sameId, OrderedMap.get?_insert_self, Option.some.injEq,
      forall_eq', forall_const]
    refine ⟨fun agrees => ⟨fits.merged.symm.trans agrees, fun previous found => ?_⟩,
      fun agrees => fits.merged.trans agrees.1⟩
    exact (fits previous found).trans (fits.merged.symm.trans agrees)
  · simp only [Fits, OrderedMap.get?_insert_ne _ _ sameId, sameId, false_implies, true_and]

/-- The table is built exactly when the operations are consistent with each other and with
the rows already there. Witness: induction on the operations, with the table generalised.
-/
theorem insertLifecycleOperations_ok
    : (∃ next, insertLifecycleOperations authority revision operations table = .ok next)
      ↔ Consistent authority revision operations
        ∧ ∀ operation ∈ operations, operation.Fits table := by
  induction operations generalizing table with
  | nil => exact iff_of_true ⟨table, rfl⟩ ⟨⟨by simp, by simp⟩, by simp⟩
  | cons operation rest ih =>
    simp only [insertLifecycleOperations, bind_ok, insertLifecycleOperation_ok,
      List.forall_mem_cons, consistent_cons]
    rw [exists_comm]
    simp only [exists_and_left, and_assoc, exists_eq_left', ih]
    constructor
    · rintro ⟨wellFormed, fits, consistent, rows⟩
      simp only [fits.after_insert] at rows
      exact ⟨wellFormed, consistent, fun other member => (rows other member).1, fits,
        fun other member => (rows other member).2⟩
    · rintro ⟨wellFormed, consistent, later, fits, rows⟩
      exact ⟨wellFormed, fits, consistent, fun other member =>
        fits.after_insert.mpr ⟨later other member, rows other member⟩⟩

end

/-- The rows that carry a token. -/
def State.slots (state : State) : List Slot :=
  [state.wire.reservation, state.wire.creationStart, state.wire.permit,
    state.wire.lastAbort].filterMap id

section

variable (hash : String → String) (authority : Authority)

/-- The reservation's token and claim are those of its row. -/
structure ReservationBound (state : State) (slot : Slot) : Prop where
  claim : ∃ claim, state.claims.get? slot.operationId = some claim
    ∧ claim.requestDigest = slot.requestDigest
    ∧ claim.acquireRevision = slot.revision
  token : reservationToken hash authority slot.operationId slot.requestDigest slot.revision
    = .ok slot.token
  start : ∀ start, state.creationStart = some start → start.token = slot.token

/-- The permit's token is that of its row and its instance. -/
structure PermitBound (state : State) (slot : Slot) : Prop where
  token : ∃ instanceDigest, state.instanceDigest = some instanceDigest
    ∧ permitToken hash authority instanceDigest slot.operationId slot.requestDigest
        slot.revision = .ok slot.token
  abort : ∀ abort, state.lastAbort = some abort → abort.token = slot.token

@[mk_iff]
structure ClaimBound (claimId : String) (claim : Claim) : Prop where
  key : claimId = claim.claimId
  owner : validOperationId claim.ownerId = true
  validId : validOperationId claim.claimId = true
  digest : authority.validOid claim.requestDigest = true

/-- The records that every read accepts. -/
structure Valid (state : State) : Prop where
  path : state.pathDigest = authority.pathDigest
  validPath : authority.validOid state.pathDigest = true
  positive : 0 < state.revision
  bounded : state.revision ≤ maxRevision
  capacity : state.claims.entries.length ≤ maxClaims
  checkout : ∀ digest, state.instanceDigest = some digest → authority.validOid digest = true
  tokens : ∀ slot ∈ state.slots, authority.validOid slot.token = true
  operations : Consistent authority state.revision state.lifecycleOperationCandidates
  reservation : ∀ slot, state.reservation = some slot
    → ReservationBound hash authority state slot
  permit : ∀ slot, state.permit = some slot → PermitBound hash authority state slot
  claims : ∀ entry ∈ state.claims.entries, ClaimBound authority entry.1 entry.2
  phase : validateLifecycleClaims state = .ok ()

end

section

variable {hash : String → String} {authority : Authority} {state : State}

theorem validateReservation_ok
    : validateReservation hash authority state slot = .ok ()
      ↔ ReservationBound hash authority state slot := by
  cases found : state.claims.get? slot.operationId with
  | none =>
    simp only [validateReservation, found, seq_ok, throw_ok, false_and, false_iff]
    intro bound
    obtain ⟨claim, present, _⟩ := bound.claim
    simp [found] at present
  | some claim =>
    unfold validateReservation
    simp only [found]
    simp only [↓seq_ok, rejectIf_ok, bind_ok, whenSome_ok,
      not_or, not_not]
    constructor
    · rintro ⟨⟨digest, revision⟩, token, issued, same, start⟩
      exact ⟨⟨claim, found, digest, revision⟩, same ▸ issued, start⟩
    · rintro ⟨⟨stored, present, digest, revision⟩, token, start⟩
      rw [found] at present
      cases present
      exact ⟨⟨digest, revision⟩, slot.token, token, rfl, start⟩

theorem validatePermit_ok
    : validatePermit hash authority state slot = .ok ()
      ↔ PermitBound hash authority state slot := by
  have aborts : ¬state.lastAbort.any (fun abort => abort.token != slot.token) = true
      ↔ ∀ abort, state.lastAbort = some abort → abort.token = slot.token := by
    cases state.lastAbort <;> simp
  cases found : state.instanceDigest with
  | none =>
    simp only [validatePermit, found, throw_ok, false_iff]
    intro bound
    obtain ⟨digest, present, _⟩ := bound.token
    simp [found] at present
  | some digest =>
    simp only [validatePermit, found, ↓seq_ok, bind_ok, rejectIf_ok, not_not, aborts]
    constructor
    · rintro ⟨token, issued, same, abort⟩
      exact ⟨⟨digest, found, same ▸ issued⟩, abort⟩
    · rintro ⟨⟨stored, present, issued⟩, abort⟩
      rw [found] at present
      cases present
      exact ⟨slot.token, issued, rfl, abort⟩

theorem validateClaim_ok
    : validateClaim authority entry = .ok () ↔ ClaimBound authority entry.1 entry.2 := by
  simp only [validateClaim, rejectIf_ok, not_or, not_not, claimBound_iff]

theorem lifecycleOperations_ok
    : (∃ table, lifecycleOperations authority state = .ok table)
      ↔ (∀ slot ∈ state.slots, authority.validOid slot.token = true)
        ∧ Consistent authority state.revision state.lifecycleOperationCandidates := by
  simp only [lifecycleOperations, seq_ok, each_ok, rejectIf_ok, not_not, exists_and_left]
  refine and_congr Iff.rfl ?_
  rw [insertLifecycleOperations_ok]
  simp [Operation.Fits]

/-- The check of a record passes exactly on the valid ones. -/
theorem validateState_ok : validateState hash authority state = .ok ()
    ↔ Valid hash authority state := by
  have digests : ¬state.instanceDigest.any (fun digest => !authority.validOid digest) = true
      ↔ ∀ digest, state.instanceDigest = some digest → authority.validOid digest = true := by
    cases state.instanceDigest <;> simp
  unfold validateState
  simp only [↓seq_ok, bind_ok, rejectIf_ok, whenSome_ok, each_ok,
    validateReservation_ok, validatePermit_ok, validateClaim_ok, digests, exists_and_right,
    lifecycleOperations_ok]
  constructor
  · rintro ⟨identity, checkout, ⟨tokens, operations⟩, reservation, permit, claims, phase⟩
    push Not at identity
    obtain ⟨path, validPath, positive, bounded, capacity, _⟩ := identity
    exact ⟨path, validPath, Nat.pos_of_ne_zero positive, bounded, capacity, checkout, tokens,
      operations, reservation, permit, claims, phase⟩
  · intro valid
    refine ⟨?_, valid.checkout, ⟨valid.tokens, valid.operations⟩, valid.reservation,
      valid.permit, valid.claims, valid.phase⟩
    push Not
    -- at most all claims are active, and the two bounds are the same number
    exact ⟨valid.path, valid.validPath, Nat.pos_iff_ne_zero.mp valid.positive, valid.bounded,
      valid.capacity, (List.length_filter_le _ _).trans valid.capacity⟩

end

end Dure.Checkout
