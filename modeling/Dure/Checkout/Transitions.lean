import Dure.Checkout.Physical

/-! What each request and each pass of a physical removal can do to the record, said once:
the guards that held and the record that is written.
-/

namespace Dure.Checkout

open Library Check

/-! ### Rows of a request -/

namespace PreparedRequest

variable (request : PreparedRequest)

def slot (token : String) (revision : Nat) : Slot :=
  ⟨token, request.operationId.value, request.requestDigest, revision⟩

def marker (revision : Nat) : OperationMarker :=
  ⟨request.operationId.value, request.requestDigest, revision⟩

def newClaim (ownerId : OperationId) (revision : Nat) : Claim :=
  ⟨ownerId.value, request.operationId.value, request.requestDigest, revision, .active⟩

end PreparedRequest

/-- The record does not know the operation. -/
def State.Fresh (state : State) (operationId : String) : Prop :=
  ∀ operation ∈ state.lifecycleOperationCandidates, operation.operationId ≠ operationId

theorem findLifecycleOperation_none {state : State}
    : state.findLifecycleOperation operationId = none ↔ state.Fresh operationId := by
  simp [State.findLifecycleOperation, State.Fresh]

/-- There is no generation in use. -/
def Ended (current : Option State) : Prop :=
  ∀ state, current = some state → state.phase = .removed

/-- The record that an unrecorded request writes, with the guards it passed. -/
inductive Reduction (hash : String → String) (request : PreparedRequest)
    : Option State → State → Prop where
  | reserve {current : Option State} {ownerId : OperationId} {token : String}
      (action : request.action = .reserve ownerId)
      (ended : Ended current)
      (bounded : baseRevision current + 1 ≤ maxRevision)
      (issued : reservationToken hash request.authority request.operationId.value
        request.requestDigest (baseRevision current + 1) = .ok token)
      : Reduction hash request current {
          revision := baseRevision current + 1
          pathDigest := request.authority.pathDigest
          lifecycle := .creating (.reserved (request.slot token (baseRevision current + 1)))
          claims := OrderedMap.empty.insert request.operationId.value
            (request.newClaim ownerId (baseRevision current + 1))
        }
  | abortCreation {state : State} {reservation : Slot} {token : String}
      {quiescentStart : Option (OperationId × String)}
      (action : request.action = .abortCreation token quiescentStart)
      (phase : state.phase = .creating)
      (reserved : state.reservation = some reservation)
      (consumed : reservation.token = token)
      (bounded : state.revision + 1 ≤ maxRevision)
      : Reduction hash request (some state) {
          state with
          revision := state.revision + 1
          lifecycle := .removed (.creationAborted reservation
            ⟨request.operationId.value, request.requestDigest⟩)
        }
  | startCreation {state : State} {reservation : Slot} {token : String}
      (action : request.action = .startCreation token)
      (lifecycle : state.lifecycle = .creating (.reserved reservation))
      (consumed : reservation.token = token)
      (bounded : state.revision + 1 ≤ maxRevision)
      : Reduction hash request (some state) {
          state with
          revision := state.revision + 1
          lifecycle := .creating (.started reservation
            (request.slot token (state.revision + 1)))
        }
  | activate {state : State} {reservation start : Slot} {checkout : Instance}
      {instanceDigest token : String}
      (action : request.action = .activate checkout instanceDigest token)
      (lifecycle : state.lifecycle = .creating (.started reservation start))
      (consumed : reservation.token = token)
      (bounded : state.revision + 1 ≤ maxRevision)
      : Reduction hash request (some state) {
          state with
          revision := state.revision + 1
          lifecycle := .active instanceDigest
            (some ⟨reservation, start, request.marker (state.revision + 1)⟩) .idle
        }
  | claimFirst {current : Option State} {checkout : Instance} {instanceDigest : String}
      {ownerId : OperationId}
      (action : request.action = .claim checkout instanceDigest ownerId)
      (ended : Ended current)
      (bounded : baseRevision current + 1 ≤ maxRevision)
      : Reduction hash request current {
          revision := baseRevision current + 1
          pathDigest := request.authority.pathDigest
          lifecycle := .active instanceDigest none .idle
          claims := OrderedMap.empty.insert request.operationId.value
            (request.newClaim ownerId (baseRevision current + 1))
        }
  | claimNext {state : State} {checkout : Instance} {instanceDigest : String}
      {ownerId : OperationId} {creation : Option CreationHistory} {removal : ActiveRemoval}
      (action : request.action = .claim checkout instanceDigest ownerId)
      (lifecycle : state.lifecycle = .active instanceDigest creation removal)
      (capacity : state.claims.entries.length < maxClaims)
      (bounded : state.revision + 1 ≤ maxRevision)
      : Reduction hash request (some state) {
          state with
          revision := state.revision + 1
          lifecycle := .active instanceDigest creation .idle
          claims := state.claims.insert request.operationId.value
            (request.newClaim ownerId (state.revision + 1))
        }
  | release {state : State} {instanceDigest : String} {claimId : OperationId} {claim : Claim}
      {creation : Option CreationHistory} {removal : ActiveRemoval}
      (action : request.action = .release instanceDigest claimId)
      (lifecycle : state.lifecycle = .active instanceDigest creation removal)
      (stored : state.claims.get? claimId.value = some claim)
      (active : claim.state = .active)
      (bounded : state.revision + 1 ≤ maxRevision)
      : Reduction hash request (some state) {
          state with
          revision := state.revision + 1
          lifecycle := .active instanceDigest creation .idle
          claims := state.claims.insert claimId.value
            { claim with state := .released (request.marker (state.revision + 1)) }
        }
  | permitFirst {current : Option State} {checkout : Instance} {instanceDigest token : String}
      {policy : RemovalPolicy}
      (action : request.action = .permit checkout instanceDigest [] policy)
      (ended : Ended current)
      (bounded : baseRevision current + 1 ≤ maxRevision)
      (issued : permitToken hash request.authority instanceDigest request.operationId.value
        request.requestDigest (baseRevision current + 1) = .ok token)
      : Reduction hash request current {
          revision := baseRevision current + 1
          pathDigest := request.authority.pathDigest
          lifecycle := .removing instanceDigest none
            (request.slot token (baseRevision current + 1)) .permitted
          claims := .empty
        }
  | permitNext {state : State} {checkout : Instance} {instanceDigest token : String}
      {retiringClaimIds : List OperationId} {retiring : List UseClaim}
      {policy : RemovalPolicy}
      {creation : Option CreationHistory} {removal : ActiveRemoval}
      (action : request.action = .permit checkout instanceDigest retiringClaimIds policy)
      (lifecycle : state.lifecycle = .active instanceDigest creation removal)
      (retires : activeClaims state = .ok retiring)
      (named : retiring.map UseClaim.claimId = retiringClaimIds)
      (bounded : state.revision + 1 ≤ maxRevision)
      (issued : permitToken hash request.authority instanceDigest request.operationId.value
        request.requestDigest (state.revision + 1) = .ok token)
      : Reduction hash request (some state) {
          state with
          revision := state.revision + 1
          lifecycle := .removing instanceDigest creation
            (request.slot token (state.revision + 1)) .permitted
        }
  | abortRemoval {state : State} {checkout : Instance} {instanceDigest token : String}
      {creation : Option CreationHistory} {permit : Slot}
      (action : request.action = .abortRemoval checkout instanceDigest token)
      (lifecycle : state.lifecycle = .removing instanceDigest creation permit .permitted)
      (consumed : permit.token = token)
      (bounded : state.revision + 1 ≤ maxRevision)
      : Reduction hash request (some state) (State.compactReleasedClaims {
          state with
          revision := state.revision + 1
          lifecycle := .active instanceDigest creation
            (.aborted permit (request.slot token (state.revision + 1)))
        })
  | retireAbsent {state : State} {instanceDigest token : String}
      {creation : Option CreationHistory} {removal : ActiveRemoval}
      (action : request.action = .retireAbsent)
      (lifecycle : state.lifecycle = .active instanceDigest creation removal)
      (unused : ∀ entry ∈ state.claims.entries, entry.2.isActive = false)
      (bounded : state.revision + 1 ≤ maxRevision)
      (issued : permitToken hash request.authority instanceDigest
        (request.operationId.value ++ ":permit") request.requestDigest (state.revision + 1)
        = .ok token)
      : Reduction hash request (some state) (State.compactReleasedClaims {
          state with
          revision := state.revision + 1
          lifecycle := .removed (.physical {
            instanceDigest := instanceDigest
            creation := creation
            permit := ⟨token, request.operationId.value ++ ":permit", request.requestDigest,
              state.revision + 1⟩
            physical := ⟨request.operationId.value ++ ":physical", request.requestDigest,
              state.revision + 1⟩
            outcome := .alreadyAbsent
          })
        })

/-! ### The reducer makes these reductions -/

@[simp]
theorem orReject_ok : orReject value error = .ok present ↔ value = some present := by
  cases value <;> simp [orReject]

variable {token : String} {start : PhysicalStart} {ownerId : OperationId}

section

variable {hash : String → String} {current : Option State} {request : PreparedRequest}
  {plan : Plan} {next : State}

attribute [local simp] Lifecycle.wire State.wire

theorem phase_creating {state : State}
    : state.phase = .creating ↔ ∃ creating, state.lifecycle = .creating creating := by
  cases lifecycle : state.lifecycle with
  | creating creating => cases creating <;> simp [State.phase, lifecycle]
  | active _ _ _ | removing _ _ _ _ => simp [State.phase, lifecycle]
  | removed ended => cases ended <;> simp [State.phase, lifecycle]

variable {checkout : Instance} {instanceDigest : String}

/-- A claim or a permit continues the active generation of its instance, or there is none in
use. -/
theorem liveGeneration_ok (found : liveGeneration current instanceDigest message = .ok live)
    : (live = none ∧ Ended current)
      ∨ ∃ state creation removal,
        current = some state
        ∧ state.lifecycle = .active instanceDigest creation removal
        ∧ live = some (state, creation) := by
  cases current with
  | none =>
    simp only [liveGeneration, pure_ok] at found
    exact .inl ⟨found.symm, by intro state same; cases same⟩
  | some state =>
    cases lifecycle : state.lifecycle with
    | creating creating | removing _ _ _ _ => simp [liveGeneration, lifecycle] at found
    | removed ended =>
      simp only [liveGeneration, lifecycle, pure_ok] at found
      refine .inl ⟨found.symm, ?_⟩
      rintro other ⟨⟩
      cases ended <;> simp [State.phase, lifecycle]
    | active stored creation removal =>
      simp only [liveGeneration, lifecycle] at found
      split_ifs at found with same
      · simp only [pure_ok] at found
        exact .inr ⟨state, creation, removal, rfl, same ▸ lifecycle, found.symm⟩

theorem replayPlan_state (replayed : replayPlan request state = .ok plan)
    : plan.state = none := by
  unfold replayPlan at replayed
  split at replayed
  · simp at replayed
  · simp only [bind_ok, pure_ok] at replayed
    obtain ⟨_, _, rfl⟩ := replayed
    rfl

section

variable (written : plan.state = some next)
include written

theorem reduceReserve_reduction (action : request.action = .reserve ownerId)
    (reduced : reduceReserve hash current request ownerId = .ok plan)
    : Reduction hash request current next := by
  unfold reduceReserve at reduced
  simp only [↓seq_ok, rejectIf_ok, bind_ok, nextRevision_ok, pure_ok] at reduced
  obtain ⟨available, _, ⟨rfl, bounded⟩, token, issued, _, _, _, _, _, _, rfl⟩ := reduced
  cases written
  refine .reserve action ?_ bounded issued
  intro state same
  subst same
  simpa using available

theorem reduceAbortCreation_reduction
    (action : request.action = .abortCreation token quiescentStart)
    (reduced : reduceAbortCreation current request token quiescentStart = .ok plan)
    : Reduction hash request current next := by
  unfold reduceAbortCreation at reduced
  simp only [bind_ok, orReject_ok] at reduced
  obtain ⟨state, rfl, reduced⟩ := reduced
  simp only [rejectIf_ok, ne_eq, not_not, nextRevision_ok, pure_ok] at reduced
  obtain ⟨_, phase, reservation, reserved, _, consumed, _, _, _, _, _, ⟨rfl, bounded⟩, _, _,
    rfl⟩ := reduced
  cases written
  exact .abortCreation action phase reserved consumed bounded

theorem reduceStartCreation_reduction (action : request.action = .startCreation token)
    (reduced : reduceStartCreation current request token = .ok plan)
    : Reduction hash request current next := by
  unfold reduceStartCreation at reduced
  simp only [bind_ok, orReject_ok] at reduced
  obtain ⟨state, rfl, reduced⟩ := reduced
  simp only [rejectIf_ok, ne_eq, not_not, nextRevision_ok, pure_ok] at reduced
  obtain ⟨_, phase, reservation, reserved, _, consumed, _, unstarted, _, ⟨rfl, bounded⟩, _, _,
    rfl⟩ := reduced
  cases written
  obtain ⟨creating, lifecycle⟩ := phase_creating.mp phase
  cases creating with
  | started _ start =>
    simp [State.creationStart, lifecycle] at unstarted
  | reserved slot =>
    simp only [State.reservation, State.wire, lifecycle, Lifecycle.wire,
      Option.some.injEq] at reserved
    subst reserved
    exact .startCreation action lifecycle consumed bounded

theorem reduceActivate_reduction
    (action : request.action = .activate checkout instanceDigest token)
    (reduced : reduceActivate current request checkout instanceDigest token = .ok plan)
    : Reduction hash request current next := by
  unfold reduceActivate at reduced
  simp only [bind_ok, orReject_ok] at reduced
  obtain ⟨state, rfl, reduced⟩ := reduced
  simp only [rejectIf_ok, ne_eq, not_or, not_not, nextRevision_ok, pure_ok] at reduced
  obtain ⟨_, phase, start, started, reservation, reserved, _, ⟨_, consumed, _⟩, _,
    ⟨rfl, bounded⟩, _, _, _, _, rfl⟩ := reduced
  cases written
  obtain ⟨creating, lifecycle⟩ := phase_creating.mp phase
  cases creating with
  | reserved slot => simp [State.creationStart, lifecycle] at started
  | started slot first =>
    simp only [State.reservation, State.creationStart, State.wire, lifecycle,
      Lifecycle.wire, Option.some.injEq] at reserved started
    subst reserved started
    exact .activate action lifecycle consumed bounded

theorem reduceClaim_reduction
    (action : request.action = .claim checkout instanceDigest ownerId)
    (reduced : reduceClaim current request checkout instanceDigest ownerId = .ok plan)
    : Reduction hash request current next := by
  unfold reduceClaim at reduced
  simp only [bind_ok, rejectIf_ok, not_le, nextRevision_ok, pure_ok] at reduced
  obtain ⟨live, found, _, ⟨rfl, bounded⟩, _, capacity, _, _, _, _, _, _, _, _, rfl⟩ := reduced
  cases written
  rcases liveGeneration_ok found with ⟨rfl, ended⟩ | ⟨state, creation, removal, rfl, lifecycle, rfl⟩
  · exact .claimFirst action ended bounded
  · exact .claimNext action lifecycle capacity bounded

theorem reduceRelease_reduction (action : request.action = .release instanceDigest claimId)
    (reduced : reduceRelease current request instanceDigest claimId = .ok plan)
    : Reduction hash request current next := by
  unfold reduceRelease at reduced
  simp only [bind_ok, orReject_ok] at reduced
  obtain ⟨state, rfl, reduced⟩ := reduced
  cases lifecycle : state.lifecycle with
  | creating _ | removing _ _ _ _ | removed _ => simp [lifecycle] at reduced
  | active stored creation removal =>
    simp only [lifecycle, bind_ok, rejectIf_ok, ne_eq, not_not, orReject_ok] at reduced
    obtain ⟨_, rfl, claim, present, _, _, reduced⟩ := reduced
    cases held : claim.state with
    | released release =>
      simp only [held, bind_ok, pure_ok] at reduced
      obtain ⟨_, _, rfl⟩ := reduced
      cases written
    | active =>
      simp only [held, bind_ok, nextRevision_ok, pure_ok] at reduced
      obtain ⟨_, ⟨rfl, bounded⟩, _, _, rfl⟩ := reduced
      cases written
      exact .release action lifecycle present held bounded

theorem reducePermit_reduction
    (action : request.action = .permit checkout instanceDigest retiringClaimIds policy)
    (reduced : reducePermit hash current request checkout instanceDigest retiringClaimIds
      = .ok plan)
    : Reduction hash request current next := by
  unfold reducePermit at reduced
  simp only [bind_ok, nextRevision_ok, pure_ok] at reduced
  obtain ⟨live, found, retiring, retires, _, ⟨rfl, bounded⟩, token, issued, _, _, _, _,
    rfl⟩ := reduced
  cases written
  rcases liveGeneration_ok found with ⟨rfl, ended⟩ | ⟨state, creation, removal, rfl, lifecycle, rfl⟩
  · simp only [retiringClaims, ↓seq_ok, rejectIf_ok, ne_eq, not_not] at retires
    obtain ⟨rfl, _⟩ := retires
    exact .permitFirst action ended bounded issued
  · simp only [retiringClaims, bind_ok, rejectIf_ok, ne_eq, not_not, pure_ok] at retires
    obtain ⟨_, retires, _, named, rfl⟩ := retires
    exact .permitNext action lifecycle retires named bounded issued

theorem reduceAbortRemoval_reduction
    (action : request.action = .abortRemoval checkout instanceDigest token)
    (reduced : reduceAbortRemoval current request checkout instanceDigest token = .ok plan)
    : Reduction hash request current next := by
  unfold reduceAbortRemoval at reduced
  simp only [bind_ok, orReject_ok] at reduced
  obtain ⟨state, rfl, reduced⟩ := reduced
  cases lifecycle : state.lifecycle with
  | creating _ | active _ _ _ | removed _ => simp [lifecycle] at reduced
  | removing stored creation permit progress =>
    simp only [lifecycle, bind_ok, rejectIf_ok, ne_eq, not_not, nextRevision_ok,
      pure_ok] at reduced
    obtain ⟨_, rfl, _, unmarked, _, consumed, _, _, _, ⟨rfl, bounded⟩, _, _, rfl⟩ := reduced
    cases written
    cases progress with
    | executing physical => simp [RemovalProgress.marker] at unmarked
    | permitted => exact .abortRemoval action lifecycle consumed bounded

theorem reduceRetireAbsent_reduction (action : request.action = .retireAbsent)
    (reduced : reduceRetireAbsent hash current request = .ok plan)
    : Reduction hash request current next := by
  unfold reduceRetireAbsent at reduced
  simp only [bind_ok, orReject_ok] at reduced
  obtain ⟨state, rfl, reduced⟩ := reduced
  cases lifecycle : state.lifecycle with
  | creating _ | removing _ _ _ _ | removed _ => simp [lifecycle] at reduced
  | active stored creation removal =>
    simp only [lifecycle, bind_ok, rejectIf_ok, nextRevision_ok, pure_ok] at reduced
    obtain ⟨_, unused, _, ⟨rfl, bounded⟩, token, issued, _, _, rfl⟩ := reduced
    cases written
    refine .retireAbsent action lifecycle ?_ bounded issued
    simpa using unused

variable (reduced : reduceRequest hash current request = .ok plan)
include reduced

/-- A plan with a new record comes from an operation that the record did not know. -/
theorem reduceRequest_unrecorded
    : (∀ state, current = some state → state.Fresh request.operationId.value)
      ∧ reduceNew hash current request = .ok plan := by
  cases current with
  | none => exact ⟨by simp, reduced⟩
  | some state =>
    simp only [reduceRequest, bind_ok] at reduced
    obtain ⟨recorded, looked, reduced⟩ := reduced
    cases found : state.findLifecycleOperation request.operationId.value with
    | none =>
      simp only [operationRecorded, found, pure_ok] at looked
      subst looked
      refine ⟨?_, reduced⟩
      rintro other ⟨⟩
      exact findLifecycleOperation_none.mp found
    | some operation =>
      simp only [operationRecorded, found, ↓seq_ok, pure_ok] at looked
      obtain ⟨_, rfl⟩ := looked
      simp [replayPlan_state reduced] at written

/-- A plan with a new record makes one of the reductions. -/
theorem reduceRequest_reduction
    : (∀ state, current = some state → state.Fresh request.operationId.value)
      ∧ Reduction hash request current next := by
  obtain ⟨fresh, reduced⟩ := reduceRequest_unrecorded written reduced
  refine ⟨fresh, ?_⟩
  unfold reduceNew at reduced
  cases action : request.action with simp only [action] at reduced
  | reserve => exact reduceReserve_reduction written action reduced
  | abortCreation => exact reduceAbortCreation_reduction written action reduced
  | startCreation => exact reduceStartCreation_reduction written action reduced
  | activate => exact reduceActivate_reduction written action reduced
  | claim => exact reduceClaim_reduction written action reduced
  | release => exact reduceRelease_reduction written action reduced
  | permit => exact reducePermit_reduction written action reduced
  | abortRemoval => exact reduceAbortRemoval_reduction written action reduced
  | retireAbsent => exact reduceRetireAbsent_reduction written action reduced

end

end

/-! ### The passes of a physical removal -/

/-- The passes of a physical removal that write. -/
inductive RemovalPass where
  | start
  | rollback
  | terminal (outcome : PhysicalOutcome)
  deriving DecidableEq

/-- The record that a pass of a physical removal writes, with the guards it passed. -/
inductive RemovalWrite (hash : String → String) (removal : PreparedRemoval)
    : RemovalPass → State → State → Prop where
  | start {state : State} {creation : Option CreationHistory} {permit : Slot}
      (lifecycle : state.lifecycle
        = .removing removal.instanceDigest creation permit .permitted)
      (holds : permit.token = removal.request.permitToken)
      (fresh : state.Fresh removal.request.operationId.value)
      (allowed : permitAllowsPolicy hash removal.authority state removal.instanceDigest
        removal.request.checkout removal.request.policy = .ok true)
      (bounded : state.revision + 1 ≤ maxRevision)
      : RemovalWrite hash removal .start state {
          state with
          revision := state.revision + 1
          lifecycle := .removing removal.instanceDigest creation permit (.executing
            ⟨removal.request.operationId.value, removal.requestDigest, state.revision + 1⟩)
        }
  | rollback {state : State} {creation : Option CreationHistory} {permit : Slot}
      {physical : OperationMarker} {abortId : OperationId} {abortDigest : String}
      (lifecycle : state.lifecycle
        = .removing removal.instanceDigest creation permit (.executing physical))
      (holds : permit.token = removal.request.permitToken)
      (marked : removal.marks state = true)
      (derived : removal.rollbackOperation hash = .ok (abortId, abortDigest))
      (bounded : state.revision + 1 ≤ maxRevision)
      : RemovalWrite hash removal .rollback state (State.compactReleasedClaims {
          state with
          revision := state.revision + 1
          lifecycle := .active removal.instanceDigest creation (.aborted permit
            ⟨removal.request.permitToken, abortId.value, abortDigest, state.revision + 1⟩)
        })
  | terminal {state : State} {creation : Option CreationHistory} {permit : Slot}
      {physical : OperationMarker} {outcome : PhysicalOutcome}
      (lifecycle : state.lifecycle
        = .removing removal.instanceDigest creation permit (.executing physical))
      (holds : permit.token = removal.request.permitToken)
      (marked : removal.marks state = true)
      (bounded : state.revision + 1 ≤ maxRevision)
      : RemovalWrite hash removal (.terminal outcome) state (State.compactReleasedClaims {
          state with
          revision := state.revision + 1
          lifecycle := .removed (.physical {
            instanceDigest := removal.instanceDigest
            creation := creation
            permit := permit
            physical := physical
            outcome := outcome
          })
        })

section

variable {hash : String → String} {removal : PreparedRemoval} {current : Option State}
  {state next : State}

theorem holdsPermit_removing
    (lifecycle : state.lifecycle = .removing stored creation permit progress)
    : removal.holdsPermit state = true
      ↔ stored = removal.instanceDigest ∧ permit.token = removal.request.permitToken := by
  simp [PreparedRemoval.holdsPermit, State.permitMatches, State.instanceDigest, State.permit,
    State.wire, lifecycle, Lifecycle.wire]

theorem placeMarker_swap (fresh : state.Fresh removal.request.operationId.value)
    (placed : removal.placeMarker hash state = .ok (.swap next start))
    : start = .execute ∧ RemovalWrite hash removal .start state next := by
  cases lifecycle : state.lifecycle with
  | creating _ | active _ _ _ | removed _ =>
    simp [PreparedRemoval.placeMarker, lifecycle] at placed
  | removing stored creation permit progress =>
    cases progress with
    | executing _ => simp [PreparedRemoval.placeMarker, lifecycle] at placed
    | permitted =>
      simp only [PreparedRemoval.placeMarker, lifecycle, bind_ok, rejectIf_ok, not_not,
        nextRevision_ok, pure_ok] at placed
      obtain ⟨_, holds, allowed, allows, _, granted, _, ⟨rfl, bounded⟩, same⟩ := placed
      obtain ⟨rfl, rfl⟩ := Decision.swap.inj same
      subst granted
      obtain ⟨rfl, held⟩ := (holdsPermit_removing lifecycle).mp holds
      exact ⟨rfl, .start lifecycle held fresh allows bounded⟩

/-- A marker is written only over the live permit, and then the removal is to be executed. -/
theorem startPhysicalRemoval_swap
    (started : removal.startPhysicalRemoval hash current = .ok (.swap next start))
    : start = .execute
      ∧ ∃ state, current = some state ∧ RemovalWrite hash removal .start state next := by
  unfold PreparedRemoval.startPhysicalRemoval at started
  simp only [bind_ok, orReject_ok] at started
  obtain ⟨state, rfl, started⟩ := started
  split_ifs at started with terminal
  · simp only [PreparedRemoval.replayTerminal, bind_ok, pure_ok] at started
    obtain ⟨_, _, _, _, _, _, same⟩ := started
    cases same
  · cases found : state.findLifecycleOperation removal.request.operationId.value with
    | some operation =>
      simp only [found, PreparedRemoval.replayMarked, bind_ok, pure_ok] at started
      obtain ⟨_, _, _, _, same⟩ := started
      cases same
    | none =>
      simp only [found] at started
      obtain ⟨executes, written⟩ :=
        placeMarker_swap (findLifecycleOperation_none.mp found) started
      exact ⟨executes, state, rfl, written⟩

theorem rollbackRefusedPhysicalRemoval_swap
    (rolled : removal.rollbackRefusedPhysicalRemoval hash current = .ok (.swap next u))
    : ∃ state, current = some state ∧ RemovalWrite hash removal .rollback state next := by
  unfold PreparedRemoval.rollbackRefusedPhysicalRemoval at rolled
  simp only [bind_ok, orReject_ok] at rolled
  obtain ⟨⟨abortId, abortDigest⟩, derived, state, rfl, rolled⟩ := rolled
  refine ⟨state, rfl, ?_⟩
  split_ifs at rolled with aborted
  · cases rolled
  · cases lifecycle : state.lifecycle with
    | creating _ | active _ _ _ | removed _ => simp [lifecycle] at rolled
    | removing stored creation permit progress =>
      cases progress with
      | permitted => simp [lifecycle] at rolled
      | executing physical =>
        simp only [lifecycle, bind_ok, rejectIf_ok, not_not, nextRevision_ok,
          pure_ok] at rolled
        obtain ⟨_, ⟨holds, marked⟩, _, ⟨rfl, bounded⟩, same⟩ := rolled
        obtain ⟨rfl, _⟩ := Decision.swap.inj same
        obtain ⟨rfl, held⟩ := (holdsPermit_removing lifecycle).mp holds
        exact .rollback lifecycle held marked derived bounded

theorem terminalizePhysicalRemoval_swap (hash : String → String)
    (ended : removal.terminalizePhysicalRemoval outcome current = .ok (.swap next receipt))
    : ∃ state,
        current = some state ∧ RemovalWrite hash removal (.terminal outcome) state next := by
  unfold PreparedRemoval.terminalizePhysicalRemoval at ended
  simp only [bind_ok, orReject_ok] at ended
  obtain ⟨state, rfl, ended⟩ := ended
  refine ⟨state, rfl, ?_⟩
  split_ifs at ended with removed
  · simp only [bind_ok, pure_ok] at ended
    obtain ⟨_, _, same⟩ := ended
    cases same
  · cases lifecycle : state.lifecycle with
    | creating _ | active _ _ _ | removed _ => simp [lifecycle] at ended
    | removing stored creation permit progress =>
      cases progress with
      | permitted => simp [lifecycle] at ended
      | executing physical =>
        simp only [lifecycle, bind_ok, rejectIf_ok, not_not, nextRevision_ok,
          pure_ok] at ended
        obtain ⟨_, ⟨holds, marked⟩, _, ⟨rfl, bounded⟩, _, _, _, _, same⟩ := ended
        obtain ⟨rfl, _⟩ := Decision.swap.inj same
        obtain ⟨rfl, held⟩ := (holdsPermit_removing lifecycle).mp holds
        exact .terminal lifecycle held marked bounded

end

end Dure.Checkout
