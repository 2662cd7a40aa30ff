import Dure.Checkout.Readable

/-! Writes that end a removal or retire a generation: they drop the released claims, and two
of them record operations under ids that they derive. For these the record stays readable
exactly when the derived ids are valid and new.
-/

namespace Dure.Checkout

open Library Check List

/-- The operations that stay when the removal rows and the released claims go. -/
def State.lastingRecords (state : State) : List Operation :=
  creationRecords state.creation
    ++ State.claimRecords state.reservation (state.claims.filter state.keepsClaim)

/-- A lasting operation belongs to the creation or to a claim. -/
theorem lasting_kind {state : State} (member : operation ∈ state.lastingRecords)
    : operation.kind ∈ [OperationKind.startCreation, .reserve, .activate, .claim, .release] := by
  rcases mem_append.mp member with created | claimed
  · cases creation : state.creation with
    | none => simp [creation, creationRecords] at created
    | some history =>
      simp only [creation, creationRecords, mem_cons, not_mem_nil,
        or_false] at created
      rcases created with rfl | rfl | rfl <;>
        simp [State.slotOperation, State.markerOperation]
  · obtain ⟨entry, _, recorded⟩ := mem_claimRecords.mp claimed
    simp only [State.claimOperations, mem_cons] at recorded
    rcases recorded with rfl | released
    · dsimp only
      split_ifs <;> simp
    · simp only [Option.mem_toList, Option.map_eq_some_iff] at released
      obtain ⟨release, _, rfl⟩ := released
      simp [State.markerOperation]

section

variable {hash : String → String} {authority : Authority} {state base : State}
  {operation : Operation} {instanceDigest : String} {creation : Option CreationHistory}
  {permit : Slot} {progress : RemovalProgress}

theorem lasting_subset
    (created : ∀ operation ∈ creationRecords state.creation,
      operation ∈ state.wire.records)
    (member : operation ∈ state.lastingRecords)
    : operation ∈ state.lifecycleOperationCandidates := by
  rcases mem_append.mp member with history | claimed
  · exact mem_candidates_of_record (created operation history)
  · exact mem_candidates_of_claim (claimRecords_filter claimed)

/-- The operations of a compacted record: the rows of its lifecycle and the claims that
outlive the removal. -/
theorem mem_compacted (state : State) (claims : base.claims = state.claims)
    (reservation : base.reservation = state.reservation)
    : operation ∈ base.compactReleasedClaims.lifecycleOperationCandidates
      ↔ operation ∈ base.wire.records
        ∨ operation ∈ State.claimRecords state.reservation
          (state.claims.filter state.keepsClaim) := by
  have keeps : base.keepsClaim = state.keepsClaim := by
    funext claimId claim
    simp [State.keepsClaim, reservation]
  rw [candidates_eq, mem_append, ← reservation, ← claims, ← keeps]
  exact Iff.rfl

/-- A record that ends a removal over a valid one: only its operations and its permit are
left to be checked. -/
theorem Valid.ended (valid : Valid hash authority state)
    (claims : base.claims = state.claims)
    (path : base.pathDigest = state.pathDigest)
    (revision : base.revision = state.revision + 1)
    (bounded : state.revision + 1 ≤ maxRevision)
    (checkout : base.instanceDigest = state.instanceDigest)
    (reservation : base.reservation = state.reservation)
    (start : base.creationStart = state.creationStart)
    (tokens : ∀ slot, base.permit = some slot ∨ base.lastAbort = some slot
      → authority.validOid slot.token = true)
    (permit : ∀ slot, base.permit = some slot → PermitBound hash authority base slot)
    (phase : base.compactReleasedClaims.hasUncompactedReleasedClaims = false
      → validateLifecycleClaims base.compactReleasedClaims = .ok ())
    (operations : Consistent authority (state.revision + 1)
      base.compactReleasedClaims.lifecycleOperationCandidates)
    : Valid hash authority base.compactReleasedClaims := by
  have ledger : Ledger authority state base.compactReleasedClaims := by
    refine .compacted valid ?_ reservation
    rw [← claims]
    rfl
  refine valid.advance path revision bounded ?_ ?_ operations reservation ?_ ?_ ledger
    (phase compacted_claims)
  · intro digest named
    exact valid.checkout digest (checkout.symm.trans named)
  · intro slot member
    rcases mem_slots.mp member with reserved | started | row | row
    · exact valid.tokens slot (mem_slots.mpr (.inl (reservation.symm.trans reserved)))
    · exact valid.tokens slot (mem_slots.mpr (.inr (.inl (start.symm.trans started))))
    · exact tokens slot (.inl row)
    · exact tokens slot (.inr row)
  · intro slot reserved other started
    exact (valid.reservation slot reserved).start other (start.symm.trans started)
  · intro slot named
    obtain ⟨token, abort⟩ := permit slot named
    exact ⟨token, abort⟩

/-- The record that follows one under removal when its permit is given back. -/
def State.aborted (state : State) (instanceDigest : String)
    (creation : Option CreationHistory) (permit abort : Slot) : State :=
  State.compactReleasedClaims {
    state with
    revision := state.revision + 1
    lifecycle := .active instanceDigest creation (.aborted permit abort)
  }

/-- The operations that stay when a removal is aborted: its permit and the lasting ones. -/
def State.abortedRecords (state : State) : List Operation :=
  (state.permit.map (State.slotOperation .permit)).toList ++ state.lastingRecords

section

variable (lifecycle : state.lifecycle = .removing instanceDigest creation permit progress)
include lifecycle

theorem creation_removing
    : state.creation = creation := by
  simp [State.creation, lifecycle]

theorem abortedRecords_subset
    (member : operation ∈ state.abortedRecords)
    : operation ∈ state.lifecycleOperationCandidates := by
  obtain ⟨_, _, _, permitted, _⟩ := removing_rows lifecycle
  rcases mem_append.mp member with granted | lasting
  · rw [permitted] at granted
    exact mem_candidates_of_record
      ((mem_records_removing lifecycle).mpr (.inl (by simpa using granted)))
  · refine lasting_subset ?_ lasting
    intro created history
    rw [creation_removing lifecycle] at history
    exact (mem_records_removing lifecycle).mpr (.inr (.inr history))

/-- The operations of a record with an aborted removal. -/
theorem mem_aborted
    : operation
        ∈ (state.aborted instanceDigest creation permit abort).lifecycleOperationCandidates
      ↔ operation = State.slotOperation .abortRemoval abort
        ∨ operation ∈ state.abortedRecords := by
  obtain ⟨_, reservation, _, permitted, _⟩ := removing_rows lifecycle
  have members : operation
        ∈ (state.aborted instanceDigest creation permit abort).lifecycleOperationCandidates
      ↔ _ := mem_compacted state rfl reservation.symm
  rw [members, mem_records_active rfl]
  simp [State.abortedRecords, State.lastingRecords, permitted, creation_removing lifecycle,
    ActiveRemoval.records, or_assoc]

end

theorem aborted_valid (valid : Valid hash authority state)
    (lifecycle : state.lifecycle = .removing instanceDigest creation permit progress)
    (validId : validOperationId abortId = true)
    (validDigest : authority.validOid abortDigest = true)
    (fresh : ∀ operation ∈ state.abortedRecords, operation.operationId ≠ abortId)
    (bounded : state.revision + 1 ≤ maxRevision)
    : Valid hash authority (state.aborted instanceDigest creation permit
        ⟨permit.token, abortId, abortDigest, state.revision + 1⟩) := by
  obtain ⟨checkout, reservation, start, permitted, _⟩ := removing_rows lifecycle
  have known := valid.permit permit permitted
  have token : authority.validOid permit.token = true :=
    valid.tokens permit (mem_slots.mpr (.inr (.inr (.inl permitted))))
  refine valid.ended rfl rfl rfl bounded checkout.symm reservation.symm start.symm ?_ ?_ ?_ ?_
  · rintro slot (granted | given)
    · cases granted
      exact token
    · cases given
      exact token
  · intro slot granted
    cases granted
    obtain ⟨digest, same, issued⟩ := known.token
    cases checkout.symm.trans same
    refine ⟨⟨instanceDigest, rfl, issued⟩, ?_⟩
    intro abort given
    cases given
    rfl
  · intro compacted
    exact rejectIf_ok.mpr (by rw [compacted]; simp)
  · have added : Consistent authority (state.revision + 1)
        (State.slotOperation .abortRemoval
            ⟨permit.token, abortId, abortDigest, state.revision + 1⟩
          :: state.abortedRecords) := by
      refine Consistent.addFresh _ ?_ ⟨validId, validDigest, Nat.succ_pos _, le_rfl⟩ fresh
      exact (valid.operations.later (Nat.le_succ _)).mono
        (fun operation member => abortedRecords_subset lifecycle member)
    refine added.mono ?_
    intro operation member
    exact mem_cons.mpr ((mem_aborted lifecycle).mp member)

/-- The abort's own id is new in a readable record: no other kept operation is an abort. -/
theorem aborted_fresh {abort : Slot}
    (lifecycle : state.lifecycle = .removing instanceDigest creation permit progress)
    (valid : Valid hash authority (state.aborted instanceDigest creation permit abort))
    : ∀ operation ∈ state.abortedRecords, operation.operationId ≠ abort.operationId := by
  intro operation member same
  have agrees := valid.operations.agree operation ((mem_aborted lifecycle).mpr (.inr member))
    (State.slotOperation .abortRemoval abort) ((mem_aborted lifecycle).mpr (.inl rfl)) same
  have kind : operation.kind = .abortRemoval := agrees.kind
  rcases mem_append.mp member with granted | lasting
  · simp only [Option.mem_toList, Option.map_eq_some_iff] at granted
    obtain ⟨slot, _, rfl⟩ := granted
    cases kind
  · simpa [kind] using lasting_kind lasting

/-- The record that follows when the checkout is gone. -/
def State.removed (state : State) (ended : PhysicalRemovedState) : State :=
  State.compactReleasedClaims {
    state with
    revision := state.revision + 1
    lifecycle := .removed (.physical ended)
  }

theorem mem_removed (ended : PhysicalRemovedState) (creation : state.creation = ended.creation)
    (reservation : state.reservation = ended.creation.map CreationHistory.reservation)
    : operation ∈ (state.removed ended).lifecycleOperationCandidates
      ↔ operation = { State.markerOperation .physical ended.physical with
            revision := state.revision + 1 }
        ∨ operation = State.slotOperation .permit ended.permit
        ∨ operation = State.markerOperation .physical ended.physical
        ∨ operation ∈ state.lastingRecords := by
  have members : operation ∈ (state.removed ended).lifecycleOperationCandidates
      ↔ _ := mem_compacted state rfl reservation.symm
  rw [members, mem_records_removed rfl]
  simp [State.lastingRecords, creation, or_assoc]

/-- The record of a removed checkout is readable when its permit is bound and its operations
are consistent. -/
theorem Valid.removed (valid : Valid hash authority state) {ended : PhysicalRemovedState}
    (bounded : state.revision + 1 ≤ maxRevision)
    (checkout : state.instanceDigest = some ended.instanceDigest)
    (reservation : state.reservation = ended.creation.map CreationHistory.reservation)
    (start : state.creationStart = ended.creation.map CreationHistory.start)
    (issued : permitToken hash authority ended.instanceDigest ended.permit.operationId
      ended.permit.requestDigest ended.permit.revision = .ok ended.permit.token)
    (token : authority.validOid ended.permit.token = true)
    (operations : Consistent authority (state.revision + 1)
      (state.removed ended).lifecycleOperationCandidates)
    : Valid hash authority (state.removed ended) := by
  refine valid.ended rfl rfl rfl bounded checkout.symm reservation.symm start.symm ?_ ?_ ?_
    operations
  · rintro slot (granted | given)
    · cases granted
      exact token
    · cases given
  · intro slot granted
    cases granted
    exact ⟨⟨ended.instanceDigest, rfl, issued⟩, by intro abort given; cases given⟩
  · intro compacted
    exact rejectIf_ok.mpr (by rw [compacted]; simp)

theorem terminal_valid (valid : Valid hash authority state)
    (lifecycle : state.lifecycle
      = .removing instanceDigest creation permit (.executing physical))
    (outcome : PhysicalOutcome) (bounded : state.revision + 1 ≤ maxRevision)
    : Valid hash authority
        (state.removed ⟨instanceDigest, creation, permit, physical, outcome⟩) := by
  obtain ⟨checkout, reservation, start, permitted, _⟩ := removing_rows lifecycle
  obtain ⟨digest, same, issued⟩ := (valid.permit permit permitted).token
  cases checkout.symm.trans same
  have token := valid.tokens permit (mem_slots.mpr (.inr (.inr (.inl permitted))))
  refine valid.removed bounded checkout reservation start issued token ?_
  -- the terminal record shares its id with the marker, and agrees with it
  have marker : State.markerOperation .physical physical
      ∈ state.lifecycleOperationCandidates :=
    mem_candidates_of_record ((mem_records_removing lifecycle).mpr
      (.inr (.inl (by simp [RemovalProgress.marker]))))
  have known := valid.operations.wellFormed _ marker
  have added : Consistent authority (state.revision + 1)
      ({ State.markerOperation .physical physical with revision := state.revision + 1 }
        :: state.lifecycleOperationCandidates) := by
    refine (valid.operations.later (Nat.le_succ _)).add
      ⟨known.validId, known.validDigest, Nat.succ_pos _, le_rfl⟩ ?_
    intro other member sameId
    have agrees := valid.operations.agree _ marker other member sameId
    exact ⟨agrees.digest, agrees.kind, .inr agrees.kind.symm⟩
  refine added.mono ?_
  intro operation member
  rcases (mem_removed _ (creation_removing lifecycle) reservation).mp member
    with rfl | rfl | rfl | lasting
  · exact mem_cons_self
  · exact mem_cons_of_mem _ (mem_candidates_of_record
      ((mem_records_removing lifecycle).mpr (.inl rfl)))
  · exact mem_cons_of_mem _ marker
  · exact mem_cons_of_mem _ (abortedRecords_subset lifecycle
      (mem_append_right _ lasting))

/-- The derived ids of a retirement are valid and not used by a lasting record. -/
def PreparedRequest.RetirementFits (request : PreparedRequest) (state : State) : Prop :=
  request.operationId.value.utf8ByteSize + ":physical".utf8ByteSize ≤ maxIdBytes
  ∧ ∀ operation ∈ state.lastingRecords,
    operation.operationId ≠ request.operationId.value ++ ":permit"
    ∧ operation.operationId ≠ request.operationId.value ++ ":physical"

instance (request : PreparedRequest) (state : State)
    : Decidable (request.RetirementFits state) :=
  inferInstanceAs (Decidable (_ ∧ _))

/-- The end of a retired generation, under the two derived ids. -/
def PreparedRequest.retirement (request : PreparedRequest) (instanceDigest token : String)
    (creation : Option CreationHistory) (revision : Nat) : PhysicalRemovedState where
  instanceDigest := instanceDigest
  creation := creation
  permit := ⟨token, request.operationId.value ++ ":permit", request.requestDigest, revision⟩
  physical := ⟨request.operationId.value ++ ":physical", request.requestDigest, revision⟩
  outcome := .alreadyAbsent

/-- A retirement leaves a readable record exactly when its derived ids fit. -/
theorem retired_valid_iff {request : PreparedRequest} (valid : Valid hash authority state)
    (proper : request.Proper authority) (widths : Widths hash authority)
    (lifecycle : state.lifecycle = .active instanceDigest creation removal)
    (bounded : state.revision + 1 ≤ maxRevision)
    (issued : permitToken hash authority instanceDigest
      (request.operationId.value ++ ":permit") request.requestDigest (state.revision + 1)
      = .ok token)
    : Valid hash authority
        (state.removed (request.retirement instanceDigest token creation (state.revision + 1)))
      ↔ request.RetirementFits state := by
  obtain ⟨checkout, reservation, start⟩ := active_rows lifecycle
  have history : state.creation = creation := by simp [State.creation, lifecycle]
  have members {operation} := @mem_removed _ operation
    (request.retirement instanceDigest token creation (state.revision + 1)) history reservation
  constructor
  · intro readable
    have permitMember := members.mpr (.inr (.inl rfl))
    have physicalMember := members.mpr (.inr (.inr (.inl rfl)))
    refine ⟨?_, ?_⟩
    · exact (validOperationId_append request.operationId.valid (by decide)).mp
        (readable.operations.wellFormed _ physicalMember).validId
    · -- no lasting record is a permit or a physical removal
      intro operation lasting
      have kinds := lasting_kind lasting
      have member := members.mpr (.inr (.inr (.inr lasting)))
      constructor
      · intro same
        have kind := (readable.operations.agree _ member _ permitMember same).kind
        simp [kind, State.slotOperation] at kinds
      · intro same
        have kind := (readable.operations.agree _ member _ physicalMember same).kind
        simp [kind, State.markerOperation] at kinds
  · rintro ⟨size, unused⟩
    have permitSize : request.operationId.value.utf8ByteSize + ":permit".utf8ByteSize
        ≤ maxIdBytes := le_trans (Nat.add_le_add_left (by decide) _) size
    refine valid.removed bounded checkout reservation start issued
      (digestFields_valid widths issued) ?_
    have lasting : Consistent authority (state.revision + 1) state.lastingRecords := by
      refine (valid.operations.later (Nat.le_succ _)).mono ?_
      intro operation member
      refine lasting_subset ?_ member
      intro created historical
      rw [history] at historical
      exact (mem_records_active lifecycle).mpr (.inr historical)
    have permitted := lasting.addFresh
      ⟨request.operationId.value ++ ":permit", request.requestDigest, .permit,
        state.revision + 1⟩
      ⟨(validOperationId_append request.operationId.valid (by decide)).mpr permitSize,
        proper.digest, Nat.succ_pos _, le_rfl⟩
      (fun operation member => (unused operation member).1)
    have removed := permitted.addFresh
      ⟨request.operationId.value ++ ":physical", request.requestDigest, .physical,
        state.revision + 1⟩
      ⟨(validOperationId_append request.operationId.valid (by decide)).mpr size,
        proper.digest, Nat.succ_pos _, le_rfl⟩ (by
        intro operation member
        rcases mem_cons.mp member with rfl | known
        · simp [String.append_right_inj]
        · exact (unused operation known).2)
    refine removed.mono ?_
    intro operation member
    rcases members.mp member with rfl | rfl | rfl | known
    · exact mem_cons_self
    · exact mem_cons_of_mem _ mem_cons_self
    · exact mem_cons_self
    · exact mem_cons_of_mem _ (mem_cons_of_mem _ known)

end

end Dure.Checkout
