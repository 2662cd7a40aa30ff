import Dure.HostRuntime.ConnectionSlots
import Mathlib

/-! Every connection slot is counted exactly, bounded and returned once, over any
interleaving of the calls on any number of permits and handles.
-/

namespace Dure.HostRuntime.ConnectionSlots

open Option

variable {counted : ActiveConnectionLease} {phase : PermitPhase} {old : Option PermitPhase}
  {handle : Nat} {α : Type}

theorem countP_set_add (selects : α → Bool) {entries : List α} {position : Nat} {old : α}
    (found : entries[position]? = some old) (new : α)
    : (entries.set position new).countP selects + (if selects old then 1 else 0)
      = entries.countP selects + (if selects new then 1 else 0) := by
  obtain ⟨inside, rfl⟩ := List.getElem?_eq_some_iff.mp found
  rw [List.countP_set inside]
  split
  · rename_i selected
    have positive : 0 < entries.countP selects :=
      List.countP_pos_iff.mpr ⟨_, List.getElem_mem inside, selected⟩
    omega
  · omega

/-- The budget's counters agree with the permits and leases, where the running call holds
the reference `held` besides those that permits and handles own. -/
structure Accounted (slots : ConnectionSlots) (limits : HostResourceLimits)
    (held : Option Nat) : Prop where
  limits : slots.budget.limits = limits
  pending : slots.budget.connections.pending = slots.permits.countP (· == some .pending)
  strong
    : ∀ lease, slots.strongCount lease
        = slots.owners lease + if held = some lease then 1 else 0
  active
    : slots.budget.connections.active
      = slots.leases.countP (fun lease => decide (0 < lease.strong))
  ordinary
    : slots.budget.connections.activeOrdinary
      = slots.leases.countP
          (fun lease => decide (0 < lease.strong ∧ lease.connectionClass = .ordinary))
  pendingBound
    : slots.budget.connections.pending ≤ slots.budget.limits.maxPendingConnections
  activeBound : slots.budget.connections.active ≤ slots.budget.limits.maxActiveConnections
  ordinaryBound
    : slots.budget.connections.activeOrdinary
      ≤ slots.budget.limits.maxActiveConnections
        - slots.budget.limits.reservedPriorityConnections
  returnedOnce : slots.returned.Nodup
  pendingReturned
    : ∀ permit, .pending permit ∈ slots.returned
        ↔ permit < slots.permits.length ∧ ¬slots.Unpromoted permit
  activeReturned
    : ∀ lease, .active lease ∈ slots.returned
        ↔ lease < slots.leases.length ∧ slots.strongCount lease = 0

variable {slots : ConnectionSlots} {limits : HostResourceLimits} {permit lease : Nat}

theorem owners_setPermit (found : slots.permits[permit]? = some old) (new : Option PermitPhase)
    (lease : Nat)
    : (slots.setPermit permit new).owners lease
        + (if old = some (.active lease) then 1 else 0)
      = slots.owners lease + if new = some (.active lease) then 1 else 0 := by
  have counted := countP_set_add (· == some (PermitPhase.active lease)) found new
  simp only [beq_iff_eq] at counted
  simp only [owners, setPermit, List.count]
  omega

theorem owners_setRetained (found : slots.retained[handle]? = some (some lease)) (other : Nat)
    : (slots.setRetained handle none).owners other + (if lease = other then 1 else 0)
      = slots.owners other := by
  have counted := countP_set_add (· == some other) found none
  simp only [beq_iff_eq, some.injEq, reduceCtorEq, if_false] at counted
  simp only [owners, setRetained, List.count]
  omega

theorem unpromoted_setPermit (found : slots.permits[permit]? = some old)
    (promoted : new ≠ some .pending) (other : Nat)
    : (slots.setPermit permit new).Unpromoted other
      ↔ slots.Unpromoted other ∧ other ≠ permit := by
  obtain ⟨inside, -⟩ := List.getElem?_eq_some_iff.mp found
  simp only [Unpromoted, setPermit, List.getElem?_set]
  by_cases same : permit = other
  · subst same
    simp [inside, promoted]
  · simp [same, Ne.symm same]

attribute [local simp] ConnectionSlots.setPermit

/-- A permit that is not pending may change its phase; its own reference to a lease then
passes to the running call. -/
theorem Accounted.setPermit {after : Option PermitPhase}
    (accounted : slots.Accounted limits none)
    (found : slots.permits[permit]? = some (some phase)) (promoted : phase ≠ .pending)
    (inactive : after = none ∨ after = some .released)
    : (slots.setPermit permit after).Accounted limits
        (match phase with
        | .active lease => some lease
        | _ => none) := by
  have quiet : after ≠ some .pending := by
    rcases inactive with rfl | rfl <;> simp
  refine { accounted with
    pending := ?_
    strong := ?_
    pendingReturned := ?_ }
  · have counted := countP_set_add (· == some PermitPhase.pending) found after
    simp only [beq_iff_eq, some.injEq, promoted, quiet, if_false, Nat.add_zero]
      at counted
    exact accounted.pending.trans counted.symm
  · intro lease
    have moved := owners_setPermit found after lease
    have idle : after ≠ some (.active lease) := by
      rcases inactive with rfl | rfl <;> simp
    have before := accounted.strong lease
    simp only [reduceCtorEq, if_false, Nat.add_zero, idle] at moved before
    change slots.strongCount lease = _
    cases phase with
    | pending => exact absurd rfl promoted
    | active own =>
      simp only [some.injEq, PermitPhase.active.injEq] at moved ⊢
      omega
    | released =>
      simp only [some.injEq, reduceCtorEq, if_false, Nat.add_zero] at moved ⊢
      omega
  · intro other
    rw [unpromoted_setPermit found quiet]
    have standing : ¬slots.Unpromoted permit := by
      simp [Unpromoted, found, promoted]
    have returned := accounted.pendingReturned other
    have sameLength : (slots.setPermit permit after).permits.length = slots.permits.length := by
      simp
    rw [sameLength]
    refine returned.trans (and_congr_right fun _ => ?_)
    by_cases same : other = permit
    · subst same
      simp [standing]
    · simp [same]

/-- Dropping a handle leaves its reference with the running call. -/
theorem Accounted.setRetained (accounted : slots.Accounted limits none)
    (found : slots.retained[handle]? = some (some lease))
    : (slots.setRetained handle none).Accounted limits (some lease) := by
  refine { accounted with strong := ?_ }
  intro other
  have moved := owners_setRetained found other
  have before := accounted.strong other
  simp only [reduceCtorEq, if_false, Nat.add_zero] at before
  change slots.strongCount other = _
  simp only [some.injEq]
  omega

/-! ### The lease -/

theorem strongCount_of_found (found : slots.leases[lease]? = some counted)
    : slots.strongCount lease = counted.strong := by
  simp [strongCount, found]

/-- A lease that the running call refers to exists. -/
theorem Accounted.found (accounted : slots.Accounted limits (some lease))
    : ∃ counted, slots.leases[lease]? = some counted
      ∧ counted.strong = slots.owners lease + 1 := by
  have strong := accounted.strong lease
  simp only [if_true] at strong
  cases found : slots.leases[lease]? with
  | none => simp [strongCount, found] at strong
  | some counted => exact ⟨counted, rfl, by rw [← strong, strongCount_of_found found]⟩

/-- The counters of a strong count that is set: of the lease itself, of all leases with
owners, and of the ordinary ones among them. -/
theorem setStrong_counts (found : slots.leases[lease]? = some counted)
    (positive : 0 < counted.strong) (strong : Nat)
    : (∀ other, (slots.setStrong lease counted strong).strongCount other
          = if lease = other then strong else slots.strongCount other)
      ∧ (slots.setStrong lease counted strong).leases.countP
            (fun lease => decide (0 < lease.strong)) + 1
          = slots.leases.countP (fun lease => decide (0 < lease.strong))
            + (if 0 < strong then 1 else 0)
      ∧ (slots.setStrong lease counted strong).leases.countP
            (fun lease => decide (0 < lease.strong ∧ lease.connectionClass = .ordinary))
            + (if counted.connectionClass = .ordinary then 1 else 0)
          = slots.leases.countP
              (fun lease => decide (0 < lease.strong ∧ lease.connectionClass = .ordinary))
            + (if 0 < strong ∧ counted.connectionClass = .ordinary then 1 else 0) := by
  refine ⟨?_, ?_, ?_⟩
  · intro other
    obtain ⟨inside, -⟩ := List.getElem?_eq_some_iff.mp found
    simp only [strongCount, setStrong, List.getElem?_set]
    by_cases same : lease = other
    · subst same
      simp [inside]
    · simp [same]
  · have counts := countP_set_add
      (fun lease : ActiveConnectionLease => decide (0 < lease.strong)) found
      ⟨counted.connectionClass, strong⟩
    simpa [positive, setStrong] using counts
  · have counts := countP_set_add (fun lease : ActiveConnectionLease =>
        decide (0 < lease.strong ∧ lease.connectionClass = .ordinary)) found
      ⟨counted.connectionClass, strong⟩
    simpa [positive, setStrong] using counts

/-- A lease that keeps an owner may change its strong count with the running call's
reference. -/
theorem Accounted.setStrong {strong : Nat} (accounted : slots.Accounted limits held)
    (found : slots.leases[lease]? = some counted) (positive : 0 < counted.strong)
    (remains : 0 < strong)
    (owned : strong = slots.owners lease + if after = some lease then 1 else 0)
    (others : ∀ other, lease ≠ other → (held = some other ↔ after = some other))
    : (slots.setStrong lease counted strong).Accounted limits after := by
  obtain ⟨counts, active, ordinary⟩ := setStrong_counts found positive strong
  simp only [remains, if_true, true_and] at active ordinary
  refine { accounted with
    strong := ?_
    active := accounted.active.trans (Nat.add_right_cancel active).symm
    ordinary := accounted.ordinary.trans (Nat.add_right_cancel ordinary).symm
    activeReturned := ?_ }
  · intro other
    refine (counts other).trans ?_
    by_cases own : lease = other
    · subst own
      rw [if_pos rfl]
      exact owned
    · rw [if_neg own, accounted.strong other]
      simp only [others other own]
      rfl
  · intro other
    refine (accounted.activeReturned other).trans
      (and_congr (by simp [ConnectionSlots.setStrong]) ?_)
    rw [counts other]
    by_cases own : lease = other
    · subst own
      rw [if_pos rfl, strongCount_of_found found]
      omega
    · rw [if_neg own]

/-- The reference of the running call is dropped, with the slot when it was the last. -/
theorem Accounted.dropLease (accounted : slots.Accounted limits (some lease))
    : (slots.dropLease lease).Accounted limits none := by
  obtain ⟨counted, found, strong⟩ := accounted.found
  have positive : 0 < counted.strong := by omega
  unfold ConnectionSlots.dropLease
  rw [found]
  dsimp only
  by_cases last : counted.strong - 1 = 0
  · rw [if_pos last, last]
    obtain ⟨counts, active, ordinary⟩ := setStrong_counts found positive 0
    simp only [Nat.lt_irrefl, if_false, false_and, Nat.add_zero] at active ordinary
    obtain ⟨inside, -⟩ := List.getElem?_eq_some_iff.mp found
    have fresh : Slot.active lease ∉ slots.returned := by
      rw [accounted.activeReturned, strongCount_of_found found]
      omega
    have oldActive := accounted.active
    have oldOrdinary := accounted.ordinary
    have activeBound := accounted.activeBound
    have ordinaryBound := accounted.ordinaryBound
    refine {
      limits := accounted.limits
      pending := accounted.pending
      strong := ?_
      active := ?_
      ordinary := ?_
      pendingBound := accounted.pendingBound
      activeBound := ?_
      ordinaryBound := ?_
      returnedOnce := List.concat_eq_append ▸ accounted.returnedOnce.concat fresh
      pendingReturned := ?_
      activeReturned := ?_
    }
    · intro other
      refine (counts other).trans ?_
      by_cases own : lease = other
      · subst own
        rw [if_pos rfl, if_neg (by simp)]
        change 0 = slots.owners lease
        omega
      · rw [if_neg own, accounted.strong other]
        simp [own]
        rfl
    · simp only [HostResourceBudget.releaseActive]
      omega
    · simp only [HostResourceBudget.releaseActive]
      split
      · simp_all
        omega
      · simp_all
    · simp only [HostResourceBudget.releaseActive]
      omega
    · simp only [HostResourceBudget.releaseActive]
      split <;> omega
    · intro permit
      exact Iff.trans (by simp) (accounted.pendingReturned permit)
    · intro other
      rw [List.mem_append, accounted.activeReturned, List.mem_singleton, Slot.active.injEq]
      refine Iff.trans ?_ (and_congr_right' (Eq.congr_left (counts other)).symm)
      by_cases own : lease = other
      · subst own
        simp [inside, ConnectionSlots.setStrong]
      · simp [own, Ne.symm own, ConnectionSlots.setStrong]
  · rw [if_neg last]
    refine accounted.setStrong found positive (by omega) (by simp [strong]) ?_
    intro other distinct
    simp [distinct]

/-- A lease with an owner can be cloned; the running call holds the new reference. -/
theorem Accounted.cloneLease (accounted : slots.Accounted limits none)
    (owned : 0 < slots.owners lease)
    : (slots.cloneLease lease).Accounted limits (some lease) := by
  have strong := accounted.strong lease
  simp only [reduceCtorEq, if_false, Nat.add_zero] at strong
  unfold ConnectionSlots.cloneLease
  cases found : slots.leases[lease]? with
  | none =>
    simp only [strongCount, found, map_none, getD_none] at strong
    omega
  | some counted =>
    rw [strongCount_of_found found] at strong
    refine accounted.setStrong found (by omega) (Nat.succ_pos _) (by simp [strong]) ?_
    intro other distinct
    simp [distinct]

/-- A new handle takes the reference of the running call. -/
theorem Accounted.addRetained (accounted : slots.Accounted limits (some lease))
    : (slots.addRetained lease).2.Accounted limits none := by
  refine { accounted with strong := ?_ }
  intro other
  have before := accounted.strong other
  simp only [some.injEq] at before
  refine before.trans ?_
  simp only [ConnectionSlots.addRetained, owners, List.count_append, List.count_singleton,
    beq_iff_eq, some.injEq, reduceCtorEq, if_false]
  omega

/-! ### The calls -/

section

variable (accounted : slots.Accounted limits none)
include accounted

theorem Accounted.tryAcquirePending
    : slots.tryAcquirePending.2.Accounted limits none := by
  unfold ConnectionSlots.tryAcquirePending HostResourceBudget.tryAcquirePending
  by_cases full : slots.budget.limits.maxPendingConnections ≤ slots.budget.connections.pending
  · simp only [full, if_true]
    exact { accounted with }
  · simp only [full, if_false]
    refine { accounted with
      pending := ?_
      strong := ?_
      pendingBound := ?_
      pendingReturned := ?_ }
    · simpa using accounted.pending
    · intro lease
      refine (accounted.strong lease).trans ?_
      simp [owners, List.count_append]
    · simp only
      omega
    · intro permit
      refine (accounted.pendingReturned permit).trans ?_
      simp only [Unpromoted, List.length_append, List.length_singleton, List.getElem?_append]
      by_cases inside : permit < slots.permits.length
      · simp [inside]
        omega
      · by_cases next : permit = slots.permits.length
        · simp [next]
        · simp [inside]
          omega

theorem Accounted.returned_pending
    (found : slots.permits[permit]? = some (some .pending)) (after : Option PermitPhase)
    (promoted : after ≠ some .pending)
    : (slots.returned ++ [Slot.pending permit]).Nodup
      ∧ (∀ other, .pending other ∈ slots.returned ++ [Slot.pending permit]
          ↔ other < slots.permits.length ∧ ¬(slots.setPermit permit after).Unpromoted other)
      ∧ (slots.permits.set permit after).countP (· == some .pending) + 1
        = slots.permits.countP (· == some .pending) := by
  obtain ⟨inside, -⟩ := List.getElem?_eq_some_iff.mp found
  have fresh : Slot.pending permit ∉ slots.returned := by
    rw [accounted.pendingReturned]
    simp [Unpromoted, found]
  refine ⟨?_, ?_, ?_⟩
  · exact List.concat_eq_append ▸ accounted.returnedOnce.concat fresh
  · intro other
    rw [unpromoted_setPermit found promoted, List.mem_append, accounted.pendingReturned,
      List.mem_singleton, Slot.pending.injEq]
    by_cases same : other = permit
    · subst same
      simp [inside]
    · simp [same]
  · have counted := countP_set_add (· == some PermitPhase.pending) found after
    simpa [promoted] using counted

theorem Accounted.promote (permit : Nat) (connectionClass : ConnectionClass)
    : (slots.promote permit connectionClass).2.Accounted limits none := by
  unfold ConnectionSlots.promote
  split
  · rename_i found
    unfold HostResourceBudget.promote
    by_cases saturated : (decide (slots.budget.limits.maxActiveConnections
          ≤ slots.budget.connections.active)
        || (decide (connectionClass = .ordinary)
          && decide (slots.budget.limits.maxActiveConnections
              - slots.budget.limits.reservedPriorityConnections
            ≤ slots.budget.connections.activeOrdinary))) = true
    · simp only [if_pos saturated]
      exact { accounted with }
    · have unsaturated := saturated
      simp only [if_neg saturated]
      simp only [Bool.or_eq_true, Bool.and_eq_true, decide_eq_true_eq, not_or, not_and,
        Nat.not_le] at unsaturated
      obtain ⟨once, returned, fewer⟩ :=
        accounted.returned_pending found (some (.active slots.leases.length)) (by simp)
      have pending := accounted.pending
      have pendingBound := accounted.pendingBound
      have unknown : slots.owners slots.leases.length = 0 := by
        have strong := accounted.strong slots.leases.length
        simpa [strongCount, eq_comm] using strong
      refine {
        limits := accounted.limits
        pending := ?_
        strong := ?_
        active := ?_
        ordinary := ?_
        pendingBound := ?_
        activeBound := unsaturated.1
        ordinaryBound := ?_
        returnedOnce := once
        pendingReturned := ?_
        activeReturned := ?_
      }
      · simp only
        omega
      · intro lease
        have moved := owners_setPermit found (some (.active slots.leases.length)) lease
        have strong := accounted.strong lease
        simp only [some.injEq, reduceCtorEq, if_false, Nat.add_zero,
          PermitPhase.active.injEq] at moved strong ⊢
        refine Eq.trans ?_ moved.symm
        rw [← strong]
        simp only [strongCount, List.getElem?_append]
        by_cases known : lease < slots.leases.length
        · simp [known, Nat.ne_of_gt known]
        · by_cases next : slots.leases.length = lease
          · simp [← next]
          · have beyond : lease - slots.leases.length ≠ 0 := by omega
            simp [known, next, beyond]
      · simpa using accounted.active
      · have ordinary := accounted.ordinary
        cases connectionClass <;> simp [ordinary]
      · simp only
        omega
      · cases connectionClass with
        | ordinary => exact unsaturated.2 rfl
        | priority => exact accounted.ordinaryBound
      · intro other
        simpa [Unpromoted] using returned other
      · intro lease
        have before := accounted.activeReturned lease
        simp only [List.mem_append, List.mem_singleton, reduceCtorEq, or_false, before,
          List.length_append, List.length_singleton, strongCount, List.getElem?_append]
        by_cases known : lease < slots.leases.length
        · simp [known]
          omega
        · by_cases next : lease = slots.leases.length
          · simp [next]
          · simp [known]
            omega
  · exact accounted
  · exact accounted

theorem Accounted.release (permit : Nat)
    : (slots.release permit).2.Accounted limits none := by
  unfold ConnectionSlots.release
  split
  · rename_i found
    obtain ⟨once, returned, fewer⟩ :=
      accounted.returned_pending found (some .released) (by simp)
    have pending := accounted.pending
    have pendingBound := accounted.pendingBound
    refine { accounted with
      pending := ?_
      strong := ?_
      pendingBound := ?_
      returnedOnce := once
      pendingReturned := ?_
      activeReturned := ?_ }
    · simp only [HostResourceBudget.releasePending, ConnectionSlots.setPermit]
      omega
    · intro lease
      have moved := owners_setPermit found (some .released) lease
      simp only [some.injEq, reduceCtorEq, if_false, Nat.add_zero] at moved
      exact (accounted.strong lease).trans (congrArg (· + _) moved.symm)
    · simp only [HostResourceBudget.releasePending]
      omega
    · intro other
      exact Iff.trans (returned other) (by simp [Unpromoted])
    · intro lease
      exact Iff.trans (by simp) (accounted.activeReturned lease)
  · rename_i lease found
    exact (accounted.setPermit found (by simp) (Or.inr rfl)).dropLease
  · exact accounted
  · exact accounted

end

/-- A released permit owns nothing. -/
theorem release_permit (found : slots.permits[permit]? = some (some phase))
    : (slots.release permit).2.permits[permit]? = some (some .released) := by
  obtain ⟨inside, -⟩ := List.getElem?_eq_some_iff.mp found
  have keeps (slots : ConnectionSlots) (lease : Nat)
      : (slots.dropLease lease).permits = slots.permits := by
    unfold ConnectionSlots.dropLease
    split
    · rfl
    · dsimp only
      split <;> rfl
  unfold ConnectionSlots.release
  rw [found]
  cases phase with
  | pending => simp [inside]
  | active lease => simp [keeps, inside]
  | released => exact found

theorem accounted_start (limits : HostResourceLimits)
    : (ConnectionSlots.mk { limits } [] [] [] []).Accounted limits none where
  limits := rfl
  pending := rfl
  strong := by simp [strongCount, owners]
  active := rfl
  ordinary := rfl
  pendingBound := Nat.zero_le _
  activeBound := Nat.zero_le _
  ordinaryBound := Nat.zero_le _
  returnedOnce := List.nodup_nil
  pendingReturned := by simp
  activeReturned := by simp

/-- The positions of the selected elements, counted. -/
theorem countP_range_length (selects : α → Bool) (entries : List α)
    : (List.range entries.length).countP (fun position => (entries[position]?).any selects)
      = entries.countP selects := by
  induction entries using List.reverseRecOn with
  | nil => rfl
  | append_singleton earlier last ih =>
    have same : (List.range earlier.length).countP
          (fun position => ((earlier ++ [last])[position]?).any selects)
        = (List.range earlier.length).countP
          (fun position => (earlier[position]?).any selects) := by
      refine List.countP_congr (fun position member => ?_)
      rw [List.getElem?_append_left (List.mem_range.mp member)]
    simp [List.range_succ, same, ih]

section

variable (accounted : slots.Accounted limits none)
include accounted

/-- Every call keeps the slots accounted. -/
theorem Accounted.step (event : SlotEvent)
    : (machine.step slots event).2.Accounted limits none := by
  cases event with
  | tryAcquirePending => exact accounted.tryAcquirePending
  | promote permit connectionClass => exact accounted.promote permit connectionClass
  | retainActive permit =>
    simp only [machine, ConnectionSlots.retainActive]
    split
    · rename_i lease found
      have owned : 0 < slots.owners lease := by
        have member := List.count_pos_iff.mpr (List.mem_of_getElem? found)
        simp only [owners]
        omega
      exact (accounted.cloneLease owned).addRetained
    · exact accounted
    · exact accounted
  | cloneRetained handle =>
    simp only [machine, ConnectionSlots.cloneRetained]
    split
    · rename_i lease found
      have owned : 0 < slots.owners lease := by
        have member := List.count_pos_iff.mpr (List.mem_of_getElem? found)
        simp only [owners]
        omega
      exact (accounted.cloneLease owned).addRetained
    · exact accounted
  | release permit => exact accounted.release permit
  | dropPermit permit =>
    simp only [machine, ConnectionSlots.dropPermit]
    split
    · rename_i phase found
      exact (accounted.release permit).setPermit (release_permit found) (by simp) (Or.inl rfl)
    · exact accounted
  | dropRetained handle =>
    simp only [machine, ConnectionSlots.dropRetained]
    split
    · rename_i lease found
      exact (accounted.setRetained found).dropLease
    · exact accounted

theorem Accounted.held_iff (lease : Nat)
    : slots.Held lease ↔ 0 < slots.strongCount lease := by
  rw [accounted.strong lease]
  simp only [Held, owners, reduceCtorEq, if_false, Nat.add_zero, Nat.add_pos_iff_pos_or_pos,
    List.count_pos_iff]

/-- The promoted connections with a living owner are the leases with a reference. -/
theorem Accounted.countP_held (selects : ActiveConnectionLease → Bool)
    : (List.range slots.leases.length).countP
        (fun lease => decide (slots.Held lease) && (slots.leases[lease]?).any selects)
      = slots.leases.countP (fun lease => decide (0 < lease.strong) && selects lease) := by
  rw [← countP_range_length (fun lease => decide (0 < lease.strong) && selects lease)]
  refine List.countP_congr (fun lease member => ?_)
  have found := List.getElem?_eq_getElem (List.mem_range.mp member)
  simp only [accounted.held_iff, strongCount, found, map_some, getD_some,
    any_some]

end

theorem promote_refused
    (refused : (slots.promote permit connectionClass).1 = .promoted (.error rejection))
    : slots.Unpromoted permit
      ∧ (slots.promote permit connectionClass).2.Unpromoted permit := by
  unfold ConnectionSlots.promote at refused ⊢
  split at refused
  · rename_i found
    rcases answer : slots.budget.promote connectionClass with ⟨_ | _, budget⟩
    · exact ⟨found, found⟩
    · simp [answer] at refused
  · simp at refused
  · simp at refused

end Dure.HostRuntime.ConnectionSlots
