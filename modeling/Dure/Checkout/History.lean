import Dure.Checkout.Clients
import Dure.Checkout.StoredRecords
import Dure.Library.LengthPrefixed
import Dure.Library.Tickets
import Mathlib

/-! The swaps of one ref, in order. Permits and reservations are tickets of the checkout:
every swap moves the checkout along its tickets, and no token is issued twice.
-/

namespace Dure.Checkout

open Library Check Tickets List Option State

variable {hash : String → String} {authority : Authority}

/-- The swap is one that its task makes. -/
inductive Commit.Sound : Commit hash authority → Prop where
  | apply {call : Call hash authority} {before : Option State} {after : State}
      (reduction : Reduction hash call.request before after)
      : Commit.Sound ⟨.apply call, before, after⟩
  | start {removal : Removal hash authority} {before after : State}
      (write : RemovalWrite hash removal.removal .start before after)
      : Commit.Sound ⟨.start removal, some before, after⟩
  | rollback {removal : Removal hash authority} {cause : UseError} {before after : State}
      (write : RemovalWrite hash removal.removal .rollback before after)
      : Commit.Sound ⟨.rollback removal cause, some before, after⟩
  | terminal {removal : Removal hash authority} {outcome : PhysicalOutcome}
      {before after : State}
      (write : RemovalWrite hash removal.removal (.terminal outcome) before after)
      : Commit.Sound ⟨.terminal removal outcome, some before, after⟩

variable {commit : Commit hash authority} {token : String}

theorem Commit.Sound.revision (sound : commit.Sound)
    : commit.after.revision = baseRevision commit.before + 1 := by
  cases sound with
  | apply reduction => exact reduction.revision
  | start write | rollback write | terminal write => exact write.revision

namespace Commit

/-- The action of a use of the checkout. -/
def action (commit : Commit hash authority) : Option PreparedAction :=
  match commit.task with
  | .apply call => some call.request.action
  | _ => none

/-- The swap acquires or releases a claim. -/
def UsesClaims (commit : Commit hash authority) : Prop :=
  match commit.action with
  | some (.reserve _) => True
  | some (.claim ..) => True
  | some (.release ..) => True
  | _ => False

/-- What the swap does with removal permits. A retirement issues a permit that is terminal at
once. -/
def permitUse (commit : Commit hash authority) : Use String :=
  match commit.task with
  | .apply call =>
    match call.request.action, commit.after.permit with
    | .permit .., some slot => .issue slot.token
    | .retireAbsent, some slot => .waste slot.token
    | .abortRemoval _ _ token, _ => .close token
    | _, _ => .other
  | .start removal => .spend removal.token
  | .rollback removal _ => .close removal.token
  | .terminal removal _ => .close removal.token

/-- What the swap does with creation reservations. -/
def reservationUse (commit : Commit hash authority) : Use String :=
  match commit.action, commit.after.reservation with
  | some (.reserve _), some slot => .issue slot.token
  | some (.startCreation token), _ => .spend token
  | some (.abortCreation token _), _ => .close token
  | some (.activate _ _ token), _ => .close token
  | _, _ => .other

end Commit

/-- The permit that the checkout is under: spent once its physical removal started. -/
def permitStage (current : Option State) : Stage String :=
  match current.map State.lifecycle with
  | some (.removing _ _ permit .permitted) => .held permit.token
  | some (.removing _ _ permit (.executing _)) => .spent permit.token
  | _ => .free

/-- The reservation that the checkout is under: spent once its creation started. -/
def reservationStage (current : Option State) : Stage String :=
  match current.map State.lifecycle with
  | some (.creating (.reserved reservation)) => .held reservation.token
  | some (.creating (.started reservation _)) => .spent reservation.token
  | _ => .free

section

variable {current : Option State} {state : State}

/-- A checkout without a generation in use is under no ticket. -/
theorem Ended.stages (ended : Ended current)
    : permitStage current = .free ∧ reservationStage current = .free := by
  cases current with
  | none => exact ⟨rfl, rfl⟩
  | some state =>
    have removed := ended state rfl
    cases lifecycle : state.lifecycle with
    | removed _ => simp [permitStage, reservationStage, lifecycle]
    | creating creating =>
      cases creating <;> simp [phase, wire, lifecycle, Lifecycle.wire] at removed
    | active _ _ _ | removing _ _ _ _ =>
      simp [phase, wire, lifecycle, Lifecycle.wire] at removed

theorem compacted_lifecycle (state : State)
    : state.compactReleasedClaims.lifecycle = state.lifecycle := rfl

attribute [local simp] permitStage reservationStage Commit.permitUse Commit.reservationUse
  Commit.action State.permit State.reservation State.wire Lifecycle.wire compacted_lifecycle

/-- Every swap takes one step of the permits. Witness: one case for each transition. -/
theorem Commit.Sound.permitStep (sound : commit.Sound)
    : (permitStage commit.before).Step commit.permitUse (permitStage (some commit.after)) := by
  cases sound with
  | apply reduction =>
    cases reduction with
    | reserve action ended _ _ | claimFirst action ended _ =>
      rw [ended.stages.1]
      simpa [action] using Stage.Step.other
    | abortCreation action phase _ _ _ =>
      obtain ⟨creating, lifecycle⟩ := phase_creating.mp phase
      simpa [action, lifecycle] using Stage.Step.other
    | startCreation action lifecycle _ _ | activate action lifecycle _ _
    | claimNext action lifecycle _ _ | release action lifecycle _ _ _ =>
      simpa [action, lifecycle] using Stage.Step.other
    | permitFirst action ended _ _ =>
      rw [ended.stages.1]
      simpa [action] using Stage.Step.issue _
    | permitNext action lifecycle _ _ _ _ =>
      simpa [action, lifecycle] using Stage.Step.issue _
    | abortRemoval action lifecycle consumed _ =>
      subst consumed
      simpa [action, lifecycle] using Stage.Step.withdraw _
    | retireAbsent action lifecycle _ _ _ =>
      simpa [action, lifecycle] using Stage.Step.waste _
  | start write =>
    rename_i removal _ _
    cases write with
    | start lifecycle holds _ _ _ =>
      have token := (prepareRemoval_ok removal.prepared).2.1
      simpa [lifecycle, holds, Removal.token, token] using Stage.Step.spend _
  | rollback write =>
    rename_i removal _ _ _
    cases write with
    | rollback lifecycle holds _ _ _ =>
      have token := (prepareRemoval_ok removal.prepared).2.1
      simpa [lifecycle, holds, Removal.token, token] using Stage.Step.finish _
  | terminal write =>
    rename_i removal _ _ _
    cases write with
    | terminal lifecycle holds _ _ =>
      have token := (prepareRemoval_ok removal.prepared).2.1
      simpa [lifecycle, holds, Removal.token, token] using Stage.Step.finish _

/-- Every swap takes one step of the reservations. -/
theorem Commit.Sound.reservationStep (sound : commit.Sound)
    : (reservationStage commit.before).Step commit.reservationUse
        (reservationStage (some commit.after)) := by
  cases sound with
  | apply reduction =>
    cases reduction with
    | reserve action ended _ _ =>
      rw [ended.stages.2]
      simpa [action] using Stage.Step.issue _
    | abortCreation action phase reserved consumed _ =>
      subst consumed
      obtain ⟨creating, lifecycle⟩ := phase_creating.mp phase
      cases creating with
      | reserved slot =>
        simp only [reservation, wire, lifecycle, Lifecycle.wire,
          some.injEq] at reserved
        subst reserved
        simpa [action, lifecycle] using Stage.Step.withdraw _
      | started slot _ =>
        simp only [reservation, wire, lifecycle, Lifecycle.wire,
          some.injEq] at reserved
        subst reserved
        simpa [action, lifecycle] using Stage.Step.finish _
    | startCreation action lifecycle consumed _ =>
      subst consumed
      simpa [action, lifecycle] using Stage.Step.spend _
    | activate action lifecycle consumed _ =>
      subst consumed
      simpa [action, lifecycle] using Stage.Step.finish _
    | claimFirst action ended _ | permitFirst action ended _ _ =>
      rw [ended.stages.2]
      simpa [action] using Stage.Step.other
    | claimNext action lifecycle _ _ | release action lifecycle _ _ _
    | permitNext action lifecycle _ _ _ _
    | abortRemoval action lifecycle _ _ | retireAbsent action lifecycle _ _ _ =>
      simpa [action, lifecycle] using Stage.Step.other
  | start write =>
    cases write with
    | start lifecycle _ _ _ _ =>
      simpa [lifecycle] using Stage.Step.other
  | rollback write =>
    cases write with
    | rollback lifecycle _ _ _ _ =>
      simpa [lifecycle] using Stage.Step.other
  | terminal write =>
    cases write with
    | terminal lifecycle _ _ _ =>
      simpa [lifecycle] using Stage.Step.other

end

/-- The token stamps a permit of this checkout with the revision. -/
def PermitStamp (hash : String → String) (authority : Authority) (token : String)
    (revision : Nat) : Prop :=
  ∃ instanceDigest operationId requestDigest,
    permitToken hash authority instanceDigest operationId requestDigest revision = .ok token

/-- The token stamps a reservation of this checkout with the revision. -/
def ReservationStamp (hash : String → String) (authority : Authority) (token : String)
    (revision : Nat) : Prop :=
  ∃ operationId requestDigest,
    reservationToken hash authority operationId requestDigest revision = .ok token

theorem PermitStamp.unique (injective : Function.Injective hash)
    (first : PermitStamp hash authority token left)
    (second : PermitStamp hash authority token right)
    : left = right := by
  obtain ⟨_, _, _, first⟩ := first
  obtain ⟨_, _, _, second⟩ := second
  have same := digestFields_injective injective (by decide) first second
  simp only [cons.injEq, and_true] at same
  exact LengthPrefixed.natToString_injective same.2.2.2.2

theorem ReservationStamp.unique (injective : Function.Injective hash)
    (first : ReservationStamp hash authority token left)
    (second : ReservationStamp hash authority token right)
    : left = right := by
  obtain ⟨_, _, first⟩ := first
  obtain ⟨_, _, second⟩ := second
  have same := digestFields_injective injective (by decide) first second
  simp only [cons.injEq, and_true] at same
  exact LengthPrefixed.natToString_injective same.2.2.2

theorem Commit.Sound.permitStamp (sound : commit.Sound)
    (issued : commit.permitUse.issued = some token)
    : PermitStamp hash authority token commit.after.revision := by
  cases sound with
  | apply reduction =>
    rename_i call before after
    have same := call.prepared.genuine.sameAuthority
    cases reduction with
    | permitFirst action _ _ granted | permitNext action _ _ _ _ granted =>
      simp only [Commit.permitUse, action, permit, wire, Lifecycle.wire,
        Use.issued, some.injEq] at issued
      subst issued
      exact ⟨_, _, _, same ▸ granted⟩
    | retireAbsent action _ _ _ granted =>
      simp only [Commit.permitUse, action, permit, wire, Lifecycle.wire,
        compactReleasedClaims, Use.issued, some.injEq] at issued
      subst issued
      exact ⟨_, _, _, same ▸ granted⟩
    | _ => simp_all [Commit.permitUse, Use.issued]
  | start _ | rollback _ | terminal _ => simp [Commit.permitUse, Use.issued] at issued

theorem Commit.Sound.reservationStamp (sound : commit.Sound)
    (issued : commit.reservationUse.issued = some token)
    : ReservationStamp hash authority token commit.after.revision := by
  cases sound with
  | apply reduction =>
    rename_i call before after
    have same := call.prepared.genuine.sameAuthority
    cases reduction with
    | reserve action _ _ granted =>
      simp only [Commit.reservationUse, Commit.action, action, reservation,
        wire, Lifecycle.wire, Use.issued, some.injEq] at issued
      subst issued
      exact ⟨_, _, same ▸ granted⟩
    | _ => simp_all [Commit.reservationUse, Commit.action, Use.issued]
  | start _ | rollback _ | terminal _ =>
    simp [Commit.reservationUse, Commit.action, Use.issued] at issued

/-- The swaps that led from an absent ref to the stored record. -/
inductive History : List (Commit hash authority) → Option State → Prop where
  | nil : History [] none
  | snoc {commits : List (Commit hash authority)} {commit : Commit hash authority}
      (earlier : History commits commit.before) (sound : commit.Sound)
      : History (commits ++ [commit]) (some commit.after)

namespace History

variable {commits : List (Commit hash authority)} {stored : Option State}

/-- A prefix of the swaps led to the record that the next one replaced. -/
theorem before (history : History (earlier ++ commit :: later) stored)
    : History earlier commit.before := by
  induction later using reverseRecOn generalizing stored with
  | nil =>
    generalize joined : earlier ++ [commit] = commits at history
    cases history with
    | nil => simp at joined
    | snoc first _ =>
      obtain ⟨rfl, rfl⟩ := append_singleton_inj.mp joined
      exact first
  | append_singleton later last ih =>
    generalize joined : earlier ++ commit :: (later ++ [last]) = commits at history
    cases history with
    | nil => simp at joined
    | snoc first _ =>
      rw [← cons_append, ← append_assoc] at joined
      obtain ⟨rfl, rfl⟩ := append_singleton_inj.mp joined
      exact ih first

section

variable (history : History commits stored)
include history

theorem sound : ∀ commit ∈ commits, commit.Sound := by
  induction history with
  | nil => simp
  | snoc _ sound ih =>
    intro commit member
    rcases mem_append.mp member with earlier | last
    · exact ih commit earlier
    · rw [mem_singleton.mp last]
      exact sound

/-- The stored record is the newest. -/
theorem newest
    : ∀ commit ∈ commits, commit.after.revision ≤ baseRevision stored := by
  induction history with
  | nil => simp
  | snoc _ sound ih =>
    intro commit member
    rcases mem_append.mp member with earlier | last
    · exact Nat.le_trans (ih commit earlier) (Nat.le.intro sound.revision.symm)
    · rw [mem_singleton.mp last]
      exact Nat.le_refl _

/-- Every record is newer than those before it. -/
theorem increasing
    : commits.Pairwise (fun earlier later =>
        earlier.after.revision < later.after.revision) := by
  induction history with
  | nil => exact .nil
  | snoc earlier sound ih =>
    refine pairwise_append.mpr ⟨ih, pairwise_singleton _ _, ?_⟩
    intro commit member last same
    rw [mem_singleton.mp same, sound.revision]
    exact Nat.lt_succ_of_le (earlier.newest commit member)

theorem permits
    : Runs .free (commits.map Commit.permitUse) (permitStage stored) := by
  induction history with
  | nil => exact .nil
  | snoc _ sound ih =>
    rw [map_append]
    exact ih.append (.cons sound.permitStep .nil)

theorem reservations
    : Runs .free (commits.map Commit.reservationUse) (reservationStage stored) := by
  induction history with
  | nil => exact .nil
  | snoc _ sound ih =>
    rw [map_append]
    exact ih.append (.cons sound.reservationStep .nil)

/-- Tokens that are stamped with their revision are issued once. -/
theorem distinct (stamp : String → Nat → Prop)
    (unique : ∀ {token left right}, stamp token left → stamp token right → left = right)
    (stamped : ∀ commit ∈ commits, ∀ token,
      (use commit).issued = some token → stamp token commit.after.revision)
    : Distinct .free (commits.map use) := by
  refine distinct_of_pairwise (pairwise_map.mpr ?_)
  refine history.increasing.imp_of_mem ?_
  intro earlier later first second increases token issued again
  have same := unique (stamped earlier first token issued) (stamped later second token again)
  exact absurd same (Nat.ne_of_lt increases)

theorem permits_once (injective : Function.Injective hash)
    : commits.Pairwise (fun earlier later => ∀ token,
        (earlier.permitUse.Ends token → ¬later.permitUse.Relies token)
        ∧ (earlier.permitUse = .spend token → later.permitUse ≠ .spend token)) := by
  have distinct : Distinct .free (commits.map Commit.permitUse) :=
    history.distinct (PermitStamp hash authority) (PermitStamp.unique injective)
      (fun commit member _ issued => (history.sound commit member).permitStamp issued)
  exact pairwise_map.mp (history.permits.once distinct)

theorem reservations_once (injective : Function.Injective hash)
    : commits.Pairwise (fun earlier later => ∀ token,
        (earlier.reservationUse.Ends token → ¬later.reservationUse.Relies token)
        ∧ (earlier.reservationUse = .spend token → later.reservationUse ≠ .spend token)) := by
  have distinct : Distinct .free (commits.map Commit.reservationUse) :=
    history.distinct (ReservationStamp hash authority) (ReservationStamp.unique injective)
      (fun commit member _ issued => (history.sound commit member).reservationStamp issued)
  exact pairwise_map.mp (history.reservations.once distinct)

end

end History

end Dure.Checkout
