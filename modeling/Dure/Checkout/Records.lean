import Dure.Checkout.Transitions
import Dure.Checkout.Valid

/-! How a valid record grows: one operation is added to those it has, and its claims stay,
gain one, have one released, or are compacted.
-/

namespace Dure.Checkout

open Library Check List OrderedMap

namespace Consistent

variable {authority : Authority} {revision : Nat} {operations : List Operation}

section

variable (consistent : Consistent authority revision operations)
include consistent

theorem mono (subset : ∀ operation ∈ fewer, operation ∈ operations)
    : Consistent authority revision fewer where
  wellFormed operation member := consistent.wellFormed operation (subset operation member)
  agree left leftMember right rightMember :=
    consistent.agree left (subset left leftMember) right (subset right rightMember)

theorem later {next} (later : revision ≤ next)
    : Consistent authority next operations where
  wellFormed operation member :=
    let known := consistent.wellFormed operation member
    ⟨known.validId, known.validDigest, known.positive, known.bounded.trans later⟩
  agree := consistent.agree

theorem add (wellFormed : operation.WellFormed authority revision)
    (agrees : ∀ other ∈ operations, operation.operationId = other.operationId
      → operation.Agrees other)
    : Consistent authority revision (operation :: operations) := by
  constructor
  · intro other member
    rcases mem_cons.mp member with rfl | known
    · exact wellFormed
    · exact consistent.wellFormed other known
  · intro left leftMember right rightMember same
    rcases mem_cons.mp leftMember with rfl | leftKnown
    · rcases mem_cons.mp rightMember with rfl | rightKnown
      · exact .refl _
      · exact agrees right rightKnown same
    · rcases mem_cons.mp rightMember with rfl | rightKnown
      · exact (agrees left leftKnown same.symm).symm
      · exact consistent.agree left leftKnown right rightKnown same

end

/-- An operation whose id is not used yet may be added. -/
theorem addFresh (operation : Operation)
    (consistent : Consistent authority revision operations)
    (wellFormed : operation.WellFormed authority revision)
    (fresh : ∀ other ∈ operations, other.operationId ≠ operation.operationId)
    : Consistent authority revision (operation :: operations) :=
  consistent.add wellFormed (fun other member same => absurd same.symm (fresh other member))

end Consistent

/-- The operations that a lifecycle records. -/
def WireLifecycle.records (wire : WireLifecycle) : List Operation :=
  (wire.terminal.map State.terminalOperation).toList
    ++ (wire.lastAbort.map (State.slotOperation .abortRemoval)).toList
    ++ (wire.permit.map (State.slotOperation .permit)).toList
    ++ (wire.creationStart.map (State.slotOperation .startCreation)).toList
    ++ (wire.reservation.map (State.slotOperation .reserve)).toList
    ++ (wire.physical.map (State.markerOperation .physical)).toList
    ++ (wire.activation.map (State.markerOperation .activate)).toList

/-- The operations that the claims record. -/
def State.claimRecords (reservation : Option Slot) (claims : OrderedMap String Claim)
    : List Operation :=
  claims.entries.flatMap (fun entry => claimOperations reservation entry.2)

theorem candidates_eq (state : State)
    : state.lifecycleOperationCandidates
      = state.wire.records ++ State.claimRecords state.wire.reservation state.claims := rfl

variable {operation : Operation} {creation : Option CreationHistory}
  {claims : OrderedMap String Claim} {reservation : Option Slot} {instanceDigest : String}

theorem mem_claimRecords
    : operation ∈ State.claimRecords reservation claims
      ↔ ∃ entry ∈ claims.entries, operation ∈ State.claimOperations reservation entry.2 := by
  simp [State.claimRecords]

/-- The operations and tokens of a finished creation. -/
def creationRecords : Option CreationHistory → List Operation
  | none => []
  | some creation =>
    [State.slotOperation .startCreation creation.start,
      State.slotOperation .reserve creation.reservation,
      State.markerOperation .activate creation.activation]

/-- The operations of an aborted removal. -/
def ActiveRemoval.records : ActiveRemoval → List Operation
  | .idle => []
  | .aborted permit abort =>
    [State.slotOperation .abortRemoval abort, State.slotOperation .permit permit]

theorem mem_records_active {state : State}
    (lifecycle : state.lifecycle = .active instanceDigest creation removal)
    : operation ∈ state.wire.records
      ↔ operation ∈ removal.records ∨ operation ∈ creationRecords creation := by
  cases creation <;> cases removal <;>
    simp [WireLifecycle.records, State.wire, lifecycle, Lifecycle.wire, creationRecords,
      ActiveRemoval.records, or_assoc]

theorem mem_records_removing {state : State}
    (lifecycle : state.lifecycle = .removing instanceDigest creation permit progress)
    : operation ∈ state.wire.records
      ↔ operation = State.slotOperation .permit permit
        ∨ operation ∈ (progress.marker.map (State.markerOperation .physical)).toList
        ∨ operation ∈ creationRecords creation := by
  cases creation <;> cases progress <;>
    simp [WireLifecycle.records, State.wire, lifecycle, Lifecycle.wire, creationRecords,
      RemovalProgress.marker]
  tauto

theorem mem_records_removed {state : State}
    (lifecycle : state.lifecycle = .removed (.physical ended))
    : operation ∈ state.wire.records
      ↔ operation = { State.markerOperation .physical ended.physical with
            revision := state.revision }
        ∨ operation = State.slotOperation .permit ended.permit
        ∨ operation = State.markerOperation .physical ended.physical
        ∨ operation ∈ creationRecords ended.creation := by
  have terminal : State.terminalOperation ⟨ended.outcome.terminalKind,
        ended.physical.operationId, ended.physical.requestDigest, state.revision⟩
      = { State.markerOperation .physical ended.physical with
          revision := state.revision } := by
    cases ended.outcome <;> rfl
  cases creation : ended.creation <;>
    simp [WireLifecycle.records, State.wire, lifecycle, Lifecycle.wire, creationRecords,
      creation, terminal]
  tauto

theorem mem_slots {state : State}
    : slot ∈ state.slots
      ↔ state.wire.reservation = some slot ∨ state.wire.creationStart = some slot
        ∨ state.wire.permit = some slot ∨ state.wire.lastAbort = some slot := by
  simp [State.slots, mem_filterMap, eq_comm]

theorem mem_candidates_of_record {state : State} (member : operation ∈ state.wire.records)
    : operation ∈ state.lifecycleOperationCandidates := by
  rw [candidates_eq]
  exact mem_append_left _ member

theorem mem_candidates_of_claim {state : State}
    (member : operation ∈ State.claimRecords state.wire.reservation state.claims)
    : operation ∈ state.lifecycleOperationCandidates := by
  rw [candidates_eq]
  exact mem_append_right _ member

/-- The ledger of the next record: bounded, of valid claims, and with the reservation's claim
as it was issued. -/
structure Ledger (authority : Authority) (state next : State) : Prop where
  capacity : next.claims.entries.length ≤ maxClaims
  bound : ∀ entry ∈ next.claims.entries, ClaimBound authority entry.1 entry.2
  reserved : ∀ slot, state.reservation = some slot → ∀ claim,
    state.claims.get? slot.operationId = some claim
    → ∃ kept, next.claims.get? slot.operationId = some kept
      ∧ kept.requestDigest = claim.requestDigest
      ∧ kept.acquireRevision = claim.acquireRevision

section

variable {hash : String → String} {authority : Authority} {state next : State}

section

variable (valid : Valid hash authority state)
include valid

theorem Ledger.same (claims : next.claims = state.claims)
    : Ledger authority state next where
  capacity := claims ▸ valid.capacity
  bound := claims ▸ valid.claims
  reserved _ _ claim present := ⟨claim, claims ▸ present, rfl, rfl⟩

theorem Ledger.compacted (claims : next.claims = state.claims.filter next.keepsClaim)
    (reservation : next.reservation = state.reservation)
    : Ledger authority state next where
  capacity := by
    rw [claims]
    exact (length_filter_le _ _).trans valid.capacity
  bound entry member := by
    rw [claims] at member
    exact valid.claims entry (mem_of_mem_filter member)
  reserved slot reserved claim present := by
    refine ⟨claim, ?_, rfl, rfl⟩
    rw [claims, get?_filter, present]
    simp [State.keepsClaim, reservation, reserved]

theorem Ledger.inserted (claim : Claim)
    (claims : next.claims = state.claims.insert claim.claimId claim)
    (room : state.claims.entries.length < maxClaims)
    (bound : ClaimBound authority claim.claimId claim)
    (fresh : ∀ slot, state.reservation = some slot → slot.operationId ≠ claim.claimId)
    : Ledger authority state next where
  capacity := by
    rw [claims]
    exact (length_insert_le _ _ _).trans room
  bound entry member := by
    rw [claims, mem_insert] at member
    rcases member with rfl | ⟨old, _⟩
    · exact bound
    · exact valid.claims entry old
  reserved slot reserved stored present := by
    refine ⟨stored, ?_, rfl, rfl⟩
    rw [claims, get?_insert_ne _ _ (Ne.symm (fresh slot reserved))]
    exact present

theorem Ledger.released {claimId : String} {claim : Claim} {release : OperationMarker}
    (stored : state.claims.get? claimId = some claim)
    (claims : next.claims
      = state.claims.insert claimId { claim with state := .released release })
    : Ledger authority state next where
  capacity := by
    rw [claims, length_insert_present _ stored]
    exact valid.capacity
  bound entry member := by
    rw [claims, mem_insert] at member
    rcases member with rfl | ⟨old, _⟩
    · have known := valid.claims _ (get?_eq_some.mp stored)
      exact ⟨known.key, known.owner, known.validId, known.digest⟩
    · exact valid.claims entry old
  reserved slot _ other present := by
    rw [claims, get?_insert]
    split_ifs with same
    · subst same
      rw [stored] at present
      cases present
      exact ⟨_, rfl, rfl, rfl⟩
    · exact ⟨other, present, rfl, rfl⟩

/-- The record that follows a valid one in its generation. -/
theorem Valid.advance (path : next.pathDigest = state.pathDigest)
    (revision : next.revision = state.revision + 1)
    (bounded : state.revision + 1 ≤ maxRevision)
    (checkout : ∀ digest, next.instanceDigest = some digest
      → authority.validOid digest = true)
    (tokens : ∀ slot ∈ next.slots, authority.validOid slot.token = true)
    (operations : Consistent authority (state.revision + 1)
      next.lifecycleOperationCandidates)
    (reservation : next.reservation = state.reservation)
    (start : ∀ slot, state.reservation = some slot → ∀ start,
      next.creationStart = some start → start.token = slot.token)
    (permit : ∀ slot, next.permit = some slot → PermitBound hash authority next slot)
    (ledger : Ledger authority state next)
    (phase : validateLifecycleClaims next = .ok ())
    : Valid hash authority next where
  path := path.trans valid.path
  validPath := path ▸ valid.validPath
  positive := by omega
  bounded := by omega
  capacity := ledger.capacity
  checkout
  tokens
  operations := revision ▸ operations
  reservation slot reserved := by
    rw [reservation] at reserved
    have known := valid.reservation slot reserved
    obtain ⟨claim, present, digest, acquired⟩ := known.claim
    obtain ⟨kept, held, sameDigest, sameRevision⟩ :=
      ledger.reserved slot reserved claim present
    exact ⟨⟨kept, held, sameDigest.trans digest, sameRevision.trans acquired⟩, known.token,
      start slot reserved⟩
  permit
  claims := ledger.bound
  phase

end

theorem claimRecords_filter
    (member : operation ∈ State.claimRecords reservation (claims.filter keep))
    : operation ∈ State.claimRecords reservation claims := by
  obtain ⟨entry, kept, recorded⟩ := mem_claimRecords.mp member
  exact mem_claimRecords.mpr ⟨entry, mem_of_mem_filter kept, recorded⟩

/-- Nothing is left to compact after compacting. -/
theorem compacted_claims
    : state.compactReleasedClaims.hasUncompactedReleasedClaims = false := by
  simp only [State.hasUncompactedReleasedClaims, any_eq_false]
  rintro ⟨claimId, claim⟩ member
  have kept : state.compactReleasedClaims.keepsClaim claimId claim = true :=
    (mem_filter.mp member).2
  simp [kept]

end

end Dure.Checkout
