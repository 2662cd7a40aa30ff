import Dure.Checkout.Preparation
import Dure.Checkout.Records

/-! Which writes stay readable: every record written over a valid one is valid again, except
for ids that the authority derives itself and does not check.
-/

namespace Dure.Checkout

open Library Check List Option

/-- The operation that a request records. -/
def PreparedRequest.operation (request : PreparedRequest) (kind : OperationKind)
    (revision : Nat) : Operation :=
  ⟨request.operationId.value, request.requestDigest, kind, revision⟩

variable {ownerId : OperationId} {reservation permit : Slot} {token : String} {next : State}

section

variable {hash : String → String} {authority : Authority} {request : PreparedRequest}
  {state : State}

theorem operation_wellFormed (proper : request.Proper authority) (kind : OperationKind)
    (revision : Nat)
    : (request.operation kind (revision + 1)).WellFormed authority (revision + 1) :=
  ⟨request.operationId.valid, proper.digest, Nat.succ_pos revision, le_rfl⟩

variable {revision : Nat} {instanceDigest : String} {creation : Option CreationHistory}
  {removal : ActiveRemoval}

theorem consistent_single (wellFormed : operation.WellFormed authority revision)
    : Consistent authority revision [operation] :=
  Consistent.addFresh operation ⟨by simp, by simp⟩ wellFormed (by simp)

/-- A record with one fresh operation whose other rows and claims were there before. -/
theorem Valid.consistent_next (valid : Valid hash authority state)
    (wellFormed : operation.WellFormed authority (state.revision + 1))
    (fresh : state.Fresh operation.operationId)
    (reservation : next.wire.reservation = state.wire.reservation)
    (claims : ∀ row ∈ State.claimRecords state.wire.reservation next.claims,
      row = operation ∨ row ∈ State.claimRecords state.wire.reservation state.claims)
    (records : ∀ row ∈ next.wire.records, row = operation ∨ row ∈ state.wire.records)
    : Consistent authority (state.revision + 1) next.lifecycleOperationCandidates := by
  refine ((valid.operations.later (Nat.le_succ _)).addFresh _ wellFormed fresh).mono ?_
  intro row member
  rw [candidates_eq, mem_append, reservation] at member
  rw [candidates_eq, mem_cons, mem_append]
  exact member.elim (fun recorded => (records row recorded).imp_right .inl)
    (fun claimed => (claims row claimed).imp_right .inr)

attribute [local simp] WireLifecycle.records candidates_eq

/-- The reservation of a record that does not know the operation has another id. -/
theorem State.Fresh.reservation_ne (fresh : state.Fresh operationId)
    (reserved : state.reservation = some slot)
    : slot.operationId ≠ operationId := by
  refine fresh (State.slotOperation .reserve slot) ?_
  have row : state.wire.reservation = some slot := reserved
  simp [row]

/-! ### First records of a generation -/

attribute [local simp] Lifecycle.wire PreparedRequest.operation PreparedRequest.newClaim
  OrderedMap.empty

section

variable (validPath : authority.validOid authority.pathDigest = true)
include validPath

section

variable (bounded : revision + 1 ≤ maxRevision)
include bounded

theorem reserve_valid (proper : request.Proper authority) (widths : Widths hash authority)
    (issued : reservationToken hash authority request.operationId.value
      request.requestDigest (revision + 1) = .ok token)
    : Valid hash authority {
        revision := revision + 1
        pathDigest := authority.pathDigest
        lifecycle := .creating (.reserved (request.slot token (revision + 1)))
        claims := OrderedMap.empty.insert request.operationId.value
          (request.newClaim ownerId (revision + 1))
      } where
  path := rfl
  validPath := validPath
  positive := Nat.succ_pos revision
  bounded := bounded
  capacity := (OrderedMap.length_insert_le _ _ _).trans (by decide)
  checkout digest named := by cases named
  tokens slot member := by
    simp only [State.slots, State.wire, Lifecycle.wire, filterMap_cons, id_eq,
      filterMap_nil, mem_singleton] at member
    subst member
    exact digestFields_valid widths issued
  operations := by
    refine (consistent_single (operation_wellFormed proper .reserve revision)).mono ?_
    intro operation member
    simpa [State.wire, State.claimRecords, OrderedMap.insert, OrderedMap.insertEntry, State.claimOperations, State.slotOperation, PreparedRequest.slot, Claim.release] using member
  reservation slot reserved := by
    cases reserved
    exact {
      claim := ⟨request.newClaim ownerId (revision + 1), by
        exact OrderedMap.get?_insert_self _ _ _, rfl, rfl⟩
      token := issued
      start := by intro start started; cases started
    }
  permit slot permitted := by cases permitted
  claims entry member := by
    rw [OrderedMap.mem_insert] at member
    rcases member with rfl | ⟨old, _⟩
    · exact ⟨rfl, ownerId.valid, request.operationId.valid, proper.digest⟩
    · cases old
  phase := by
    simp [validateLifecycleClaims, onlyActiveClaim, OrderedMap.insert, OrderedMap.insertEntry, Claim.isActive]

theorem claimFirst_valid (proper : request.Proper authority)
    (checkout : authority.validOid instanceDigest = true)
    : Valid hash authority {
        revision := revision + 1
        pathDigest := authority.pathDigest
        lifecycle := .active instanceDigest none .idle
        claims := OrderedMap.empty.insert request.operationId.value
          (request.newClaim ownerId (revision + 1))
      } where
  path := rfl
  validPath := validPath
  positive := Nat.succ_pos revision
  bounded := bounded
  capacity := (OrderedMap.length_insert_le _ _ _).trans (by decide)
  checkout digest named := by
    cases named
    exact checkout
  tokens slot member := by
    simp [State.slots, State.wire] at member
  operations := by
    refine (consistent_single (operation_wellFormed proper .claim revision)).mono ?_
    intro operation member
    simpa [State.wire, State.claimRecords, OrderedMap.insert, OrderedMap.insertEntry, State.claimOperations, Claim.release] using member
  reservation slot reserved := by cases reserved
  permit slot permitted := by cases permitted
  claims entry member := by
    rw [OrderedMap.mem_insert] at member
    rcases member with rfl | ⟨old, _⟩
    · exact ⟨rfl, ownerId.valid, request.operationId.valid, proper.digest⟩
    · cases old
  phase := rfl

theorem permitFirst_valid (proper : request.Proper authority) (widths : Widths hash authority)
    (checkout : authority.validOid instanceDigest = true)
    (issued : permitToken hash authority instanceDigest request.operationId.value
      request.requestDigest (revision + 1) = .ok token)
    : Valid hash authority {
        revision := revision + 1
        pathDigest := authority.pathDigest
        lifecycle := .removing instanceDigest none (request.slot token (revision + 1))
          .permitted
        claims := .empty
      } where
  path := rfl
  validPath := validPath
  positive := Nat.succ_pos revision
  bounded := bounded
  capacity := Nat.zero_le _
  checkout digest named := by
    cases named
    exact checkout
  tokens slot member := by
    simp only [State.slots, State.wire, Lifecycle.wire, map_none, filterMap_cons,
      id_eq, filterMap_nil, mem_singleton] at member
    subst member
    exact digestFields_valid widths issued
  operations := by
    refine (consistent_single (operation_wellFormed proper .permit revision)).mono ?_
    intro operation member
    simpa [State.wire, State.claimRecords, RemovalProgress.marker, State.slotOperation, PreparedRequest.slot] using member
  reservation slot reserved := by cases reserved
  permit slot permitted := by
    cases permitted
    exact ⟨⟨instanceDigest, rfl, issued⟩, by intro abort aborted; cases aborted⟩
  claims entry member := by cases member
  phase := rfl

end

end

/-! ### Creation -/

section

variable (valid : Valid hash authority state)
include valid

/-- The only claim of a checkout in creation is the active one of its reservation. -/
theorem Valid.onlyActiveClaim (lifecycle : state.lifecycle = .creating creating)
    : onlyActiveClaim state = true := by
  have checked := valid.phase
  simp only [validateLifecycleClaims, lifecycle] at checked
  simpa using rejectIf_ok.mp checked

variable (proper : request.Proper authority) (fresh : state.Fresh request.operationId.value)
  (bounded : state.revision + 1 ≤ maxRevision)
include proper fresh bounded

theorem abortCreation_valid (phase : state.phase = .creating)
    (reserved : state.reservation = some reservation)
    : Valid hash authority {
        state with
        revision := state.revision + 1
        lifecycle := .removed (.creationAborted reservation
          ⟨request.operationId.value, request.requestDigest⟩)
      } := by
  have row : state.wire.reservation = some reservation := reserved
  refine valid.advance rfl rfl bounded ?_ ?_ ?_ reserved.symm ?_ ?_ (.same valid rfl) ?_
  · intro digest named
    cases named
  · intro slot member
    simp only [State.slots, State.wire, Lifecycle.wire, filterMap_cons, id_eq,
      filterMap_nil, mem_singleton] at member
    subst member
    exact valid.tokens slot (by simp [State.slots, row])
  · refine valid.consistent_next (operation_wellFormed proper .abortCreation _) fresh row.symm
      (fun _ => .inr) ?_
    intro operation member
    simp only [WireLifecycle.records, State.wire, Lifecycle.wire, map_some,
      map_none, toList_some, toList_none, append_nil,
      mem_append, mem_singleton] at member
    rcases member with rfl | rfl
    · exact .inl rfl
    · exact .inr (by simp [row])
  · intro slot _ start started
    cases started
  · intro slot permitted
    cases permitted
  · obtain ⟨creating, lifecycle⟩ := phase_creating.mp phase
    exact rejectIf_ok.mpr (not_not.mpr (valid.onlyActiveClaim lifecycle))

theorem startCreation_valid
    (lifecycle : state.lifecycle = .creating (.reserved reservation))
    : Valid hash authority {
        state with
        revision := state.revision + 1
        lifecycle := .creating (.started reservation
          (request.slot reservation.token (state.revision + 1)))
      } := by
  have row : state.wire.reservation = some reservation := by
    simp [State.wire, lifecycle]
  have validToken : authority.validOid reservation.token = true :=
    valid.tokens reservation (by simp [State.slots, row])
  refine valid.advance rfl rfl bounded ?_ ?_ ?_ row.symm ?_ ?_ (.same valid rfl) ?_
  · intro digest named
    cases named
  · intro slot member
    simp only [State.slots, State.wire, Lifecycle.wire, filterMap_cons, id_eq,
      filterMap_nil, mem_cons, not_mem_nil, or_false] at member
    rcases member with rfl | rfl
    · exact validToken
    · exact validToken
  · refine valid.consistent_next (operation_wellFormed proper .startCreation _) fresh row.symm
      (fun _ => .inr) ?_
    intro operation member
    simp only [WireLifecycle.records, State.wire, Lifecycle.wire, map_some,
      map_none, toList_some, toList_none, append_nil,
      nil_append, mem_append, mem_singleton] at member
    rcases member with rfl | rfl
    · exact .inl rfl
    · exact .inr (by simp [row])
  · intro slot reserved start started
    cases started
    cases row.symm.trans reserved
    rfl
  · intro slot permitted
    cases permitted
  · exact rejectIf_ok.mpr (not_not.mpr (valid.onlyActiveClaim lifecycle))

theorem activate_valid (checkout : authority.validOid instanceDigest = true)
    (lifecycle : state.lifecycle = .creating (.started reservation start))
    : Valid hash authority {
        state with
        revision := state.revision + 1
        lifecycle := .active instanceDigest
          (some ⟨reservation, start, request.marker (state.revision + 1)⟩) .idle
      } := by
  have row : state.wire.reservation = some reservation := by
    simp [State.wire, lifecycle]
  have started : state.wire.creationStart = some start := by
    simp [State.wire, lifecycle]
  refine valid.advance rfl rfl bounded ?_ ?_ ?_ row.symm ?_ ?_ (.same valid rfl) rfl
  · intro digest named
    cases named
    exact checkout
  · intro slot member
    refine valid.tokens slot ?_
    simpa [State.slots, row, started, State.wire, lifecycle] using member
  · refine valid.consistent_next (operation_wellFormed proper .activate _) fresh row.symm
      (fun _ => .inr) ?_
    intro operation member
    simp only [WireLifecycle.records, State.wire, Lifecycle.wire, map_some,
      map_none, toList_some, toList_none, append_nil,
      nil_append, mem_append, mem_singleton] at member
    rcases member with (rfl | rfl) | rfl
    · exact .inr (by simp [started])
    · exact .inr (by simp [row])
    · exact .inl rfl
  · intro slot reserved other sameStart
    cases sameStart
    exact (valid.reservation slot reserved).start start started
  · intro slot permitted
    cases permitted

end

/-! ### Claims and permits of an active checkout -/

attribute [local simp] State.creationStart State.reservation

/-- The rows that an active record keeps when it gives up an aborted removal. -/
theorem idle_rows (lifecycle : state.lifecycle = .active instanceDigest creation removal)
    (after : next.lifecycle = .active instanceDigest creation .idle)
    : next.reservation = state.reservation
      ∧ next.creationStart = state.creationStart
      ∧ (∀ slot ∈ next.slots, slot ∈ state.slots)
      ∧ ∀ operation ∈ next.wire.records, operation ∈ state.wire.records := by
  refine ⟨?_, ?_, ?_, ?_⟩
  · simp [State.wire, lifecycle, after]
  · simp [State.wire, lifecycle, after]
  · intro slot member
    simp only [mem_slots, State.wire, lifecycle, after, Lifecycle.wire] at member ⊢
    tauto
  · intro operation member
    rcases (mem_records_active after).mp member with removed | created
    · cases removed
    · exact (mem_records_active lifecycle).mpr (.inr created)

section

variable (valid : Valid hash authority state) (proper : request.Proper authority)
  (fresh : state.Fresh request.operationId.value) (bounded : state.revision + 1 ≤ maxRevision)
  (lifecycle : state.lifecycle = .active instanceDigest creation removal)
include valid proper fresh bounded lifecycle

/-- A record that stays active, with no removal under way, and has one operation more. -/
theorem Valid.idle (after : next.lifecycle = .active instanceDigest creation .idle)
    (path : next.pathDigest = state.pathDigest) (revision : next.revision = state.revision + 1)
    (kind : OperationKind)
    (claims : ∀ operation ∈ State.claimRecords state.wire.reservation next.claims,
      operation = request.operation kind (state.revision + 1)
      ∨ operation ∈ State.claimRecords state.wire.reservation state.claims)
    (ledger : Ledger authority state next)
    : Valid hash authority next := by
  obtain ⟨reservation, start, slots, records⟩ := idle_rows lifecycle after
  refine valid.advance path revision bounded ?_ ?_ ?_ reservation ?_ ?_ ledger ?_
  · intro digest named
    refine valid.checkout digest ?_
    simpa [State.instanceDigest, State.wire, lifecycle, after] using named
  · intro slot member
    exact valid.tokens slot (slots slot member)
  · exact valid.consistent_next (operation_wellFormed proper kind _) fresh reservation claims
      (fun operation member => .inr (records operation member))
  · intro slot reserved other started
    exact (valid.reservation slot reserved).start other (start ▸ started)
  · intro slot permitted
    simp [State.permit, State.wire, after] at permitted
  · simp [validateLifecycleClaims, after]

theorem claimNext_valid (capacity : state.claims.entries.length < maxClaims)
    : Valid hash authority {
        state with
        revision := state.revision + 1
        lifecycle := .active instanceDigest creation .idle
        claims := state.claims.insert request.operationId.value
          (request.newClaim ownerId (state.revision + 1))
      } := by
  refine valid.idle proper fresh bounded lifecycle rfl rfl rfl .claim ?_ ?_
  · intro operation member
    obtain ⟨entry, stored, recorded⟩ := mem_claimRecords.mp member
    rcases OrderedMap.mem_insert.mp stored with rfl | ⟨old, _⟩
    · left
      -- the new claim is not the reservation's, whose id is known
      have other : state.wire.reservation.any
          (fun slot => slot.operationId == request.operationId.value) = false := by
        cases row : state.wire.reservation with
        | none => rfl
        | some slot => simpa using fresh.reservation_ne row
      simpa [State.claimOperations, Claim.release, other] using recorded
    · exact .inr (mem_claimRecords.mpr ⟨entry, old, recorded⟩)
  · exact .inserted valid (request.newClaim ownerId (state.revision + 1)) rfl capacity
      ⟨rfl, ownerId.valid, request.operationId.valid, proper.digest⟩
      (fun slot reserved => fresh.reservation_ne reserved)

theorem release_valid {claimId : OperationId}
    (stored : state.claims.get? claimId.value = some claim)
    : Valid hash authority {
        state with
        revision := state.revision + 1
        lifecycle := .active instanceDigest creation .idle
        claims := state.claims.insert claimId.value
          { claim with state := .released (request.marker (state.revision + 1)) }
      } := by
  refine valid.idle proper fresh bounded lifecycle rfl rfl rfl .release ?_
    (.released valid stored rfl)
  intro operation member
  obtain ⟨entry, inserted, recorded⟩ := mem_claimRecords.mp member
  rcases OrderedMap.mem_insert.mp inserted with rfl | ⟨old, _⟩
  · simp only [State.claimOperations, Claim.release, map_some, toList_some,
      mem_cons, not_mem_nil, or_false] at recorded
    rcases recorded with acquired | released
    · right
      refine mem_claimRecords.mpr ⟨_, OrderedMap.get?_eq_some.mp stored, ?_⟩
      rw [acquired]
      exact mem_cons_self
    · exact .inl released
  · exact .inr (mem_claimRecords.mpr ⟨entry, old, recorded⟩)

theorem permitNext_valid (widths : Widths hash authority)
    (issued : permitToken hash authority instanceDigest request.operationId.value
      request.requestDigest (state.revision + 1) = .ok token)
    : Valid hash authority {
        state with
        revision := state.revision + 1
        lifecycle := .removing instanceDigest creation
          (request.slot token (state.revision + 1)) .permitted
      } := by
  have reservation : state.reservation = creation.map CreationHistory.reservation := by
    simp [State.wire, lifecycle]
  have start : state.creationStart = creation.map CreationHistory.start := by
    simp [State.wire, lifecycle]
  refine valid.advance rfl rfl bounded ?_ ?_ ?_ reservation.symm ?_ ?_ (.same valid rfl) rfl
  · intro digest named
    cases named
    exact valid.checkout instanceDigest
      (by simp [State.instanceDigest, State.wire, lifecycle])
  · intro slot member
    simp only [mem_slots, State.wire, Lifecycle.wire, reduceCtorEq, or_false,
      some.injEq] at member
    rcases member with reserved | started | rfl
    · exact valid.tokens slot (mem_slots.mpr (.inl (reservation.trans reserved)))
    · exact valid.tokens slot (mem_slots.mpr (.inr (.inl (start.trans started))))
    · exact digestFields_valid widths issued
  · refine valid.consistent_next (operation_wellFormed proper .permit _) fresh reservation.symm
      (fun _ => .inr) ?_
    intro operation member
    rcases (mem_records_removing rfl).mp member with rfl | marked | created
    · exact .inl rfl
    · cases marked
    · exact .inr ((mem_records_active lifecycle).mpr (.inr created))
  · intro slot reserved other started
    exact (valid.reservation slot reserved).start other (start.trans started)
  · intro slot permitted
    cases permitted
    exact ⟨⟨instanceDigest, rfl, issued⟩, by intro abort aborted; cases aborted⟩

end

/-- The rows of a record under removal. -/
theorem removing_rows
    (lifecycle : state.lifecycle = .removing instanceDigest creation permit progress)
    : state.instanceDigest = some instanceDigest
      ∧ state.reservation = creation.map CreationHistory.reservation
      ∧ state.creationStart = creation.map CreationHistory.start
      ∧ state.permit = some permit
      ∧ state.lastAbort = none := by
  simp [State.instanceDigest, State.permit, State.lastAbort, State.wire, lifecycle]

theorem active_rows (lifecycle : state.lifecycle = .active instanceDigest creation removal)
    : state.instanceDigest = some instanceDigest
      ∧ state.reservation = creation.map CreationHistory.reservation
      ∧ state.creationStart = creation.map CreationHistory.start := by
  simp [State.instanceDigest, State.wire, lifecycle]

theorem marker_valid (valid : Valid hash authority state) {operationId : OperationId}
    (validDigest : authority.validOid digest = true) (fresh : state.Fresh operationId.value)
    (lifecycle : state.lifecycle = .removing instanceDigest creation permit .permitted)
    (bounded : state.revision + 1 ≤ maxRevision)
    : Valid hash authority {
        state with
        revision := state.revision + 1
        lifecycle := .removing instanceDigest creation permit
          (.executing ⟨operationId.value, digest, state.revision + 1⟩)
      } := by
  obtain ⟨checkout, reservation, start, permitted, _⟩ := removing_rows lifecycle
  refine valid.advance rfl rfl bounded ?_ ?_ ?_ reservation.symm ?_ ?_ (.same valid rfl) rfl
  · intro other named
    exact valid.checkout other (checkout.trans named)
  · intro slot member
    refine valid.tokens slot (mem_slots.mpr ?_)
    simpa [mem_slots, State.wire, lifecycle] using member
  · have wellFormed : Operation.WellFormed authority (state.revision + 1)
        ⟨operationId.value, digest, .physical, state.revision + 1⟩ :=
      ⟨operationId.valid, validDigest, Nat.succ_pos _, le_rfl⟩
    refine valid.consistent_next wellFormed fresh reservation.symm (fun _ => .inr) ?_
    intro operation member
    rcases (mem_records_removing rfl).mp member with rfl | marked | created
    · exact .inr ((mem_records_removing lifecycle).mpr (.inl rfl))
    · exact .inl (by simpa [RemovalProgress.marker, State.markerOperation] using marked)
    · exact .inr ((mem_records_removing lifecycle).mpr (.inr (.inr created)))
  · intro slot reserved other started
    exact (valid.reservation slot reserved).start other (start.trans started)
  · intro slot named
    obtain ⟨token, _⟩ := valid.permit slot (permitted.trans named)
    obtain ⟨known, same, issued⟩ := token
    cases checkout.symm.trans same
    exact ⟨⟨instanceDigest, rfl, issued⟩, by intro abort aborted; cases aborted⟩

end

end Dure.Checkout
