import Dure.Checkout.Permits

/-! Removal excludes every other use of the checkout, whatever its clients do in between: the
invariant of all clients of one ref, and what it says about permits and reservations.
-/

namespace Dure.Checkout

open Library Check Tickets List

variable {hash : String → String} {authority : Authority} {removal : Removal hash authority}
  {loaded : Option State} {index attempt : Nat} {seen : Observation} {after : State}

/-- A pass that swaps makes one of the known writes; only a marker leads to the physical
removal. -/
theorem Task.pass_swap {next} {task : Task hash authority}
    (passed : task.pass seen loaded = .ok (.swap next client))
    : Commit.Sound ⟨task, loaded, next⟩
      ∧ ((∃ result, client = .finished result)
        ∨ ∃ removal, task = .start removal ∧ client = .executing removal) := by
  cases task with
  | apply call =>
    simp only [Task.pass, bind_ok] at passed
    obtain ⟨plan, reduced, _, _, passed⟩ := passed
    cases written : plan.state with
    | none => simp [written] at passed
    | some state =>
      simp only [written, pure_ok, Decision.swap.injEq] at passed
      obtain ⟨rfl, rfl⟩ := passed
      exact ⟨.apply (reduceRequest_reduction written reduced).2, .inl ⟨_, rfl⟩⟩
  | start removal =>
    simp only [Task.pass, bind_ok, pure_ok] at passed
    obtain ⟨decision, started, mapped⟩ := passed
    cases decision with
    | answer _ => cases mapped
    | swap state start =>
      obtain ⟨rfl, before, rfl, write⟩ := startPhysicalRemoval_swap started
      obtain ⟨rfl, rfl⟩ := Decision.swap.inj mapped
      exact ⟨.start write, .inr ⟨removal, rfl, rfl⟩⟩
  | rollback removal cause =>
    simp only [Task.pass, bind_ok, pure_ok] at passed
    obtain ⟨decision, rolled, mapped⟩ := passed
    cases decision with
    | answer _ => cases mapped
    | swap state done =>
      obtain ⟨before, rfl, write⟩ := rollbackRefusedPhysicalRemoval_swap rolled
      obtain ⟨rfl, rfl⟩ := Decision.swap.inj mapped
      exact ⟨.rollback write, .inl ⟨_, rfl⟩⟩
  | terminal removal outcome =>
    simp only [Task.pass, bind_ok, pure_ok] at passed
    obtain ⟨decision, ended, mapped⟩ := passed
    cases decision with
    | answer _ => cases mapped
    | swap state receipt =>
      obtain ⟨before, rfl, write⟩ := terminalizePhysicalRemoval_swap hash ended
      obtain ⟨rfl, rfl⟩ := Decision.swap.inj mapped
      exact ⟨.terminal write, .inl ⟨_, rfl⟩⟩

/-- A start that answers without a swap does not lead to the physical removal. -/
theorem startPhysicalRemoval_answer {removal : PreparedRemoval}
    (started : removal.startPhysicalRemoval hash current = .ok (.answer start))
    : start ≠ .execute := by
  unfold PreparedRemoval.startPhysicalRemoval at started
  simp only [bind_ok, orReject_ok] at started
  obtain ⟨state, rfl, started⟩ := started
  split_ifs at started with terminal
  · simp only [PreparedRemoval.replayTerminal, bind_ok, pure_ok] at started
    obtain ⟨_, _, _, _, _, _, same⟩ := started
    cases same
    simp
  · cases found : state.findLifecycleOperation removal.request.operationId.value with
    | some operation =>
      simp only [found, PreparedRemoval.replayMarked, bind_ok, pure_ok] at started
      obtain ⟨_, _, _, _, same⟩ := started
      cases same
      simp
    | none =>
      simp only [found, PreparedRemoval.placeMarker] at started
      split at started
      · simp only [bind_ok, pure_ok] at started
        obtain ⟨_, _, _, _, _, _, _, _, same⟩ := started
        cases same
      · simp at started

/-- A pass that answers ends the call, or looks whether the started removal is through. -/
theorem Task.pass_answer {task : Task hash authority}
    (passed : task.pass seen loaded = .ok (.answer client))
    : (∃ result, client = .finished result) ∨ ∃ removal, client = .reconciling removal none := by
  cases task with
  | apply call =>
    simp only [Task.pass, bind_ok] at passed
    obtain ⟨plan, reduced, _, _, passed⟩ := passed
    cases written : plan.state with
    | some state => simp [written] at passed
    | none =>
      simp only [written, pure_ok, Decision.answer.injEq] at passed
      exact .inl ⟨_, passed.symm⟩
  | start removal =>
    simp only [Task.pass, bind_ok, pure_ok] at passed
    obtain ⟨decision, started, mapped⟩ := passed
    cases decision with
    | swap _ _ => cases mapped
    | answer start =>
      have answered := startPhysicalRemoval_answer started
      cases start with
      | execute => exact absurd rfl answered
      | reconcile => exact .inr ⟨removal, (Decision.answer.inj mapped).symm⟩
      | terminal receipt => exact .inl ⟨_, (Decision.answer.inj mapped).symm⟩
  | rollback removal cause | terminal removal outcome =>
    simp only [Task.pass, bind_ok, pure_ok] at passed
    obtain ⟨decision, _, mapped⟩ := passed
    cases decision with
    | swap _ _ => cases mapped
    | answer _ => exact .inl ⟨_, (Decision.answer.inj mapped).symm⟩

theorem digestInstance_injective (injective : Function.Injective hash)
    (first : digestInstance hash left = .ok digest)
    (second : digestInstance hash right = .ok digest)
    : left = right := by
  have same := digestFields_injective injective (by decide) first second
  simp only [cons.injEq, and_true] at same
  obtain ⟨version, path, common, gitDir, token⟩ := same
  have version := LengthPrefixed.natToString_injective version
  cases left
  cases right
  simp_all

theorem Removal.ext_asked {left right : Removal hash authority} (same : left.asked = right.asked)
    : left = right := by
  obtain ⟨asked, removal, prepared⟩ := left
  obtain ⟨other, otherRemoval, otherPrepared⟩ := right
  cases same
  cases prepared.symm.trans otherPrepared
  rfl

/-- Two removals with one digest are the same removal. -/
theorem Removal.ext_digest (injective : Function.Injective hash)
    {left right : Removal hash authority}
    (same : left.removal.requestDigest = right.removal.requestDigest)
    : left = right := by
  obtain ⟨_, _, leftInstance, leftDigest⟩ := prepareRemoval_ok left.prepared
  obtain ⟨_, _, rightInstance, rightDigest⟩ := prepareRemoval_ok right.prepared
  rw [← same] at rightDigest
  have fields := digestFields_injective injective (by decide) leftDigest rightDigest
  simp only [cons_append, nil_append, cons.injEq, true_and] at fields
  obtain ⟨digest, token, rest⟩ := fields
  rw [← digest] at rightInstance
  have checkout := digestInstance_injective injective leftInstance rightInstance
  have policy : left.asked.policy = right.asked.policy
      ∧ left.asked.operationId.value = right.asked.operationId.value := by
    cases first : left.asked.policy <;> cases second : right.asked.policy <;>
      simp_all
  apply Removal.ext_asked
  obtain ⟨⟨⟨_, _⟩, _, _, _⟩, _, _⟩ := left
  obtain ⟨⟨⟨_, _⟩, _, _, _⟩, _, _⟩ := right
  simp_all

/-! ### The invariant of all clients -/

namespace Removal

/-- The record is under removal by the permit, and marked by exactly this removal. -/
def Marks (removal : Removal hash authority) (stored : Option State) : Prop :=
  ∃ state creation permit marker,
    stored = some state
    ∧ state.lifecycle
      = .removing removal.removal.instanceDigest creation permit (.executing marker)
    ∧ permit.token = removal.token
    ∧ marker.operationId = removal.asked.operationId.value
    ∧ marker.requestDigest = removal.removal.requestDigest

/-- A replay of this removal found the checkout gone, and recorded that. -/
def FoundAbsent (removal : Removal hash authority) (system : System hash authority) : Prop :=
  removal ∈ system.absences
  ∧ ∃ commit ∈ system.commits, commit.task = .terminal removal .alreadyAbsent

/-- The permit was granted for the instance and the policy of this removal. -/
def Permitted (removal : Removal hash authority) (commits : List (Commit hash authority))
    : Prop :=
  ∃ grant ∈ commits,
    grant.permitUse = .issue removal.token
    ∧ ∃ checkout retiringClaimIds,
      grant.action = some (.permit checkout removal.removal.instanceDigest retiringClaimIds
        removal.asked.policy)

/-- The marker was placed and the physical removal is still to be called. -/
structure Pending (removal : Removal hash authority) (system : System hash authority)
    : Prop where
  started : ∃ commit ∈ system.commits, commit.task = .start removal
  permitted : removal.Permitted system.commits
  uncalled : removal.token ∉ system.invoked.map Removal.token
  stands : removal.Marks system.stored ∨ removal.FoundAbsent system

end Removal

/-- The end of a removal is recorded only after it was called, or found to be through. -/
def Task.Fits (system : System hash authority) : Task hash authority → Prop
  | .apply _ => True
  | .start _ => True
  | .rollback removal _ => removal ∈ system.invoked
  | .terminal removal outcome =>
    removal ∈ system.invoked ∨ (outcome = .alreadyAbsent ∧ removal ∈ system.absences)

def Client.Fits (system : System hash authority) : Client hash authority → Prop
  | .idle => True
  | .finished _ => True
  | .reading task _ => task.Fits system
  | .deciding task _ _ => task.Fits system
  | .executing removal => removal.Pending system
  | .invoking removal => removal ∈ system.invoked
  | .reconciling removal (some _) => removal ∈ system.invoked
  | .reconciling _ none => True

/-- What holds of all clients of one ref at any time. -/
structure System.Invariant (system : System hash authority) : Prop where
  history : History system.commits system.stored
  clients : ∀ index, (system.clients index).Fits system
  alone : ∀ first second removal other,
    system.clients first = .executing removal → system.clients second = .executing other →
      removal.token = other.token → first = second
  called : ∀ removal ∈ system.invoked,
    ∃ commit ∈ system.commits, commit.permitUse = .spend removal.token
  once : (system.invoked.map Removal.token).Nodup

section

variable {system next : System hash authority} {task : Task hash authority}
  {client : Client hash authority}

theorem Task.Fits.mono (fits : task.Fits system) (invoked : system.invoked ⊆ next.invoked)
    (absences : system.absences ⊆ next.absences)
    : task.Fits next := by
  cases task with
  | apply _ | start _ => trivial
  | rollback _ _ => exact invoked fits
  | terminal _ _ => exact fits.imp (fun member => invoked member) (And.imp_right (absences ·))

theorem Client.Fits.mono (fits : client.Fits system) (invoked : system.invoked ⊆ next.invoked)
    (absences : system.absences ⊆ next.absences)
    (pending : ∀ removal, client = .executing removal → removal.Pending system →
      removal.Pending next)
    : client.Fits next := by
  cases client with
  | idle | finished _ => trivial
  | reading _ _ | deciding _ _ _ => exact Task.Fits.mono fits invoked absences
  | executing removal => exact pending removal rfl fits
  | invoking _ => exact invoked fits
  | reconciling _ failure =>
    cases failure with
    | none => trivial
    | some _ => exact invoked fits

theorem System.initial_invariant : (System.initial : System hash authority).Invariant where
  history := .nil
  clients := fun _ => trivial
  alone := by
    intro _ _ _ _ executing
    cases executing
  called := by simp [System.initial]
  once := by simp [System.initial]

theorem Removal.FoundAbsent.mono (found : removal.FoundAbsent system)
    (commits : system.commits ⊆ next.commits) (absences : system.absences ⊆ next.absences)
    : removal.FoundAbsent next := by
  obtain ⟨absent, commit, member, ends⟩ := found
  exact ⟨absences absent, commit, commits member, ends⟩

theorem Removal.Pending.mono (pending : removal.Pending system)
    (commits : system.commits ⊆ next.commits)
    (uncalled : removal.token ∉ next.invoked.map Removal.token)
    (stands : removal.Marks next.stored ∨ removal.FoundAbsent next)
    : removal.Pending next := by
  obtain ⟨start, begun, starts⟩ := pending.started
  obtain ⟨grant, granted, permitted⟩ := pending.permitted
  exact ⟨⟨start, commits begun, starts⟩, ⟨grant, commits granted, permitted⟩, uncalled, stands⟩

/-- A record that is marked is not changed by any use. -/
theorem Reduction.unmarked (reduction : Reduction hash request (some state) after)
    : state.lifecycle ≠ .removing instanceDigest creation permit (.executing marker) := by
  intro lifecycle
  have spent : permitStage (some state) = .spent permit.token := by
    simp [permitStage, lifecycle]
  cases reduction with
  | reserve _ ended _ _ | claimFirst _ ended _ | permitFirst _ ended _ _ =>
    simp [ended.stages.1] at spent
  | abortCreation _ phase _ _ _ =>
    obtain ⟨creating, other⟩ := phase_creating.mp phase
    cases lifecycle.symm.trans other
  | startCreation _ other _ _ | activate _ other _ _ | claimNext _ other _ _
  | release _ other _ _ _ | permitNext _ other _ _ _ _ | abortRemoval _ other _ _
  | retireAbsent _ other _ _ _ => cases lifecycle.symm.trans other

/-- A swap over a marked record records the end of exactly the removal that marked it. -/
theorem Removal.Marks.ended (injective : Function.Injective hash)
    {commit : Commit hash authority} (marks : removal.Marks commit.before)
    (sound : commit.Sound)
    : (∃ cause, commit.task = .rollback removal cause)
      ∨ ∃ outcome, commit.task = .terminal removal outcome := by
  obtain ⟨state, creation, permit, marker, present, lifecycle, _, _, digest⟩ := marks
  have same {other : Removal hash authority} (marked : other.removal.marks state = true)
      : other = removal := by
    apply Removal.ext_digest injective
    rw [← digest]
    simp only [PreparedRemoval.marks, State.physical, State.wire, lifecycle, Lifecycle.wire,
      RemovalProgress.marker, Option.any_some, Bool.and_eq_true, beq_iff_eq] at marked
    exact marked.2.symm
  cases sound with
  | apply reduction =>
    subst present
    exact absurd lifecycle reduction.unmarked
  | start write =>
    cases present
    cases write with
    | start held _ _ _ _ => simp [lifecycle] at held
  | rollback write =>
    cases present
    cases write with
    | rollback _ _ marked _ _ => exact .inl ⟨_, by rw [same marked]⟩
  | terminal write =>
    cases present
    cases write with
    | terminal _ _ marked _ => exact .inr ⟨_, by rw [same marked]⟩

/-- What a step of a client can be: nothing that its place allows, or one of its steps. -/
theorem Client.act_cases (stored : Option State) (client : Client hash authority) (act : Act)
    : (client.act stored act = (client, none)
        ∧ client.invokes act = none
        ∧ client.findsAbsent act = none)
      ∨ (∃ task attempt, client = .reading task attempt ∧ act = .read)
      ∨ (∃ task attempt loaded seen,
        client = .deciding task attempt loaded ∧ act = .decide seen)
      ∨ (∃ removal, client = .executing removal ∧ act = .invoke)
      ∨ (∃ removal result, client = .invoking removal ∧ act = .settle result)
      ∨ ∃ removal failure absent,
        client = .reconciling removal failure ∧ act = .observe absent := by
  cases client <;> cases act <;> simp [Client.act, Client.invokes, Client.findsAbsent]

theorem Client.reads_fits (fits : task.Fits system)
    : (Client.reads stored task attempt).Fits system
      ∧ ∀ removal, Client.reads stored task attempt ≠ .executing removal := by
  unfold Client.reads
  split
  · exact ⟨fits, by simp⟩
  · split
    · exact ⟨fits, by simp⟩
    · exact ⟨trivial, by simp⟩

theorem Task.retry_fits (fits : task.Fits system)
    : (task.retry attempt).Fits system
      ∧ ∀ removal, task.retry attempt ≠ .executing removal := by
  unfold Task.retry
  split_ifs
  · exact ⟨fits, by simp⟩
  · exact ⟨trivial, by simp⟩

attribute [local simp] System.acts System.written

theorem Task.Fits.acts (fits : task.Fits system) (index : Nat) (act : Act)
    : task.Fits (system.acts index act) :=
  fits.mono (by simp) (by simp)

namespace System.Invariant

variable (invariant : system.Invariant)
include invariant

theorem fits_at (place : system.clients index = client)
    : client.Fits system :=
  place ▸ invariant.clients index

/-- One client moves: what the others wait for stands, and the client does not wait for a
removal that another one waits for.
-/
theorem moves (clients : next.clients = Function.update system.clients index client)
    (history : History next.commits next.stored) (commits : system.commits ⊆ next.commits)
    (invoked : system.invoked ⊆ next.invoked) (absences : system.absences ⊆ next.absences)
    (fits : client.Fits next)
    (stands : ∀ other ≠ index, ∀ removal : Removal hash authority,
      system.clients other = .executing removal → removal.Pending system →
        removal.token ∉ next.invoked.map Removal.token
        ∧ (removal.Marks next.stored ∨ removal.FoundAbsent next))
    (fresh : ∀ removal, client = .executing removal → ∀ other waiting,
      system.clients other = .executing waiting → removal.token ≠ waiting.token)
    (called : ∀ removal ∈ next.invoked, removal ∈ system.invoked
      ∨ ∃ commit ∈ next.commits, commit.permitUse = .spend removal.token)
    (once : (next.invoked.map Removal.token).Nodup)
    : next.Invariant := by
  refine ⟨history, ?_, ?_, ?_, once⟩
  · intro other
    rw [clients]
    by_cases same : other = index
    · subst same
      rwa [Function.update_self]
    · rw [Function.update_of_ne same]
      refine (invariant.clients other).mono invoked absences (fun removal found pending => ?_)
      obtain ⟨uncalled, still⟩ := stands other same removal found pending
      exact pending.mono commits uncalled still
  · intro first second removal other left right shared
    rw [clients, Function.update_apply] at left right
    split_ifs at left right with here there there
    · rw [here, there]
    · exact absurd shared (fresh removal left second other right)
    · exact absurd shared.symm (fresh other right first removal left)
    · exact invariant.alone first second removal other left right shared
  · intro removal member
    rcases called removal member with earlier | now
    · obtain ⟨commit, spent, spends⟩ := invariant.called removal earlier
      exact ⟨commit, commits spent, spends⟩
    · exact now

/-- A client that goes on, without a swap and without a call of the physical removal. -/
theorem replace (index : Nat)
    (stored : next.stored = system.stored) (commits : next.commits = system.commits)
    (invoked : next.invoked = system.invoked) (absences : system.absences ⊆ next.absences)
    (clients : next.clients = Function.update system.clients index client)
    (fits : client.Fits next) (waits : ∀ removal, client ≠ .executing removal)
    : next.Invariant := by
  refine invariant.moves clients (by rw [commits, stored]; exact invariant.history)
    (by simp [commits]) (by simp [invoked]) absences fits ?_ ?_ ?_ ?_
  · intro other _ removal _ pending
    rw [invoked, stored]
    exact ⟨pending.uncalled,
      pending.stands.imp_right (fun found => found.mono (by simp [commits]) absences)⟩
  · intro removal executing
    exact absurd executing (waits removal)
  · intro removal member
    exact .inl (invoked ▸ member)
  · rw [invoked]
    exact invariant.once

/-- The call of the physical removal. -/
theorem invoke (executing : system.clients index = .executing removal)
    (stored : next.stored = system.stored) (commits : next.commits = system.commits)
    (invoked : next.invoked = system.invoked ++ [removal])
    (absences : next.absences = system.absences)
    (clients : next.clients = Function.update system.clients index (.invoking removal))
    : next.Invariant := by
  have pending : removal.Pending system := invariant.fits_at executing
  refine invariant.moves clients (by rw [commits, stored]; exact invariant.history)
    (by simp [commits]) (by simp [invoked]) (by simp [absences])
    (by simp [Client.Fits, invoked]) ?_ nofun ?_ ?_
  · intro other apart waiting found held
    have different : waiting.token ≠ removal.token := fun shared =>
      apart (invariant.alone other index waiting removal found executing shared)
    rw [invoked, stored, map_append, mem_append, not_or]
    exact ⟨⟨held.uncalled, by simpa using different⟩,
      held.stands.imp_right (fun found => found.mono (by simp [commits]) (by simp [absences]))⟩
  · intro other member
    rw [invoked] at member
    refine (mem_append.mp member).imp_right (fun last => ?_)
    obtain ⟨commit, earlier, starts⟩ := pending.started
    rw [mem_singleton.mp last, commits]
    exact ⟨commit, earlier, commit.starts_spends starts⟩
  · rw [invoked, map_append, nodup_append]
    refine ⟨invariant.once, by simp, ?_⟩
    rintro token member _ last rfl
    rw [map_singleton, mem_singleton] at last
    exact pending.uncalled (last ▸ member)

/-- A step without a swap and without a call of the physical removal. -/
theorem goesOn (result : (system.clients index).act system.stored act = (client, none))
    (uncalled : (system.clients index).invokes act = none)
    (fits : client.Fits (system.acts index act))
    (waits : ∀ removal, client ≠ .executing removal)
    : (system.acts index act).Invariant := by
  refine invariant.replace index ?_ ?_ ?_ ?_ ?_ fits waits
  · simp [result]
  · simp [result]
  · simp [uncalled]
  · simp
  · simp [result]

theorem place (index : Nat)
    (fits : client.Fits (system.place index client))
    (waits : ∀ removal, client ≠ .executing removal)
    : (system.place index client).Invariant :=
  invariant.replace index rfl rfl rfl (List.Subset.refl _) rfl fits waits

theorem enter (index : Nat)
    (fits : task.Fits (system.place index (.begins task)))
    : (system.enter index task).Invariant := by
  unfold System.enter
  split_ifs
  · exact invariant.place index fits (by simp [Client.begins])
  · exact invariant

variable (injective : Function.Injective hash)
include injective

/-- A marker that was placed is pending: its permit is granted for its instance and policy,
and no removal was called under that permit before. -/
theorem placed_pending (sound : Commit.Sound ⟨.start removal, system.stored, after⟩)
    (stored : next.stored = some after)
    (commits : next.commits
      = system.commits ++ [⟨.start removal, system.stored, after⟩])
    (invoked : next.invoked = system.invoked)
    : removal.Pending next := by
  have history := invariant.history.snoc sound
  obtain ⟨sameAuthority, sameRequest, _, _⟩ := prepareRemoval_ok removal.prepared
  generalize previous : system.stored = before at sound
  have write : ∃ state, before = some state
      ∧ RemovalWrite hash removal.removal .start state after := by
    cases sound with
    | start write => exact ⟨_, rfl, write⟩
  obtain ⟨state, rfl, write⟩ := write
  cases write with
  | start lifecycle holds _ allowed _ =>
    rw [sameRequest] at holds
    refine ⟨?_, ?_, ?_, .inl ?_⟩
    · rw [commits]
      exact ⟨_, mem_append_right _ (mem_singleton_self _), rfl⟩
    · obtain ⟨grant, member, policy, grants⟩ := invariant.history.granted previous lifecycle
      obtain ⟨call, checkout, ids, task, action, _⟩ := grants.asked
      rw [sameAuthority, sameRequest] at allowed
      have agreed := grants.policy injective
        (by simp [State.permit, State.wire, lifecycle, Lifecycle.wire]) allowed
      rw [commits]
      refine ⟨grant, mem_append_left _ member, ?_, checkout, ids, ?_⟩
      · rw [grants.issues, holds]
        rfl
      · simp [Commit.action, task, action, agreed]
    · rw [invoked]
      intro member
      obtain ⟨other, called, shared⟩ := mem_map.mp member
      obtain ⟨commit, earlier, spends⟩ := invariant.called other called
      have once := history.permits_once injective
      rw [pairwise_append] at once
      exact (once.2.2 commit earlier _ (mem_singleton_self _) removal.token).2
        (shared ▸ spends) rfl
    · refine ⟨_, _, _, _, stored, rfl, holds, ?_, rfl⟩
      rw [sameRequest]

/-- A swap, which may place a marker. -/
theorem commit (index : Nat)
    (sound : Commit.Sound ⟨task, system.stored, after⟩) (fits : task.Fits system)
    (outcome : (∃ result, client = .finished result)
      ∨ ∃ removal, task = .start removal ∧ client = .executing removal)
    (stored : next.stored = some after)
    (commits : next.commits = system.commits ++ [⟨task, system.stored, after⟩])
    (invoked : next.invoked = system.invoked) (absences : next.absences = system.absences)
    (clients : next.clients = Function.update system.clients index client)
    : next.Invariant := by
  have history : History next.commits next.stored := by
    rw [commits, stored]
    exact invariant.history.snoc sound
  have kept : system.commits ⊆ next.commits := by simp [commits]
  refine invariant.moves clients history kept (by simp [invoked]) (by simp [absences]) ?_ ?_ ?_
    (fun removal member => .inl (invoked ▸ member)) (by rw [invoked]; exact invariant.once)
  · rcases outcome with ⟨result, rfl⟩ | ⟨removal, rfl, rfl⟩
    · trivial
    · exact invariant.placed_pending injective sound stored commits invoked
  · intro other _ removal _ pending
    refine ⟨invoked ▸ pending.uncalled, .inr ?_⟩
    rcases pending.stands with marks | found
    · have uncalled : removal ∉ system.invoked :=
        fun member => pending.uncalled (mem_map_of_mem member)
      have ended := @Removal.Marks.ended _ _ removal injective ⟨task, system.stored, after⟩
        marks sound
      rcases ended with ⟨cause, rfl⟩ | ⟨result, rfl⟩
      · exact absurd fits uncalled
      · rcases fits with member | ⟨rfl, member⟩
        · exact absurd member uncalled
        · rw [Removal.FoundAbsent, absences, commits]
          exact ⟨member, _, mem_append_right _ (mem_singleton_self _), rfl⟩
    · exact found.mono kept (by simp [absences])
  · -- a new marker and an older one would spend one permit twice
    rintro removal rfl other waiting found shared
    have starts : task = .start removal := by
      rcases outcome with ⟨result, same⟩ | ⟨other, starts, same⟩
      · cases same
      · cases same
        exact starts
    have pending : waiting.Pending system := invariant.fits_at found
    obtain ⟨commit, member, started⟩ := pending.started
    have once := history.permits_once injective
    rw [commits, pairwise_append] at once
    refine (once.2.2 commit member _ (mem_singleton_self _) waiting.token).2
      (commit.starts_spends started) ?_
    rw [starts, ← shared]
    rfl

/-- The pass of a loop, from which only a swap may lead to the physical removal. -/
theorem decides
    (place : system.clients index = .deciding task attempt loaded) (seen : Observation)
    : (system.acts index (.decide seen)).Invariant := by
  have fits : task.Fits system := invariant.fits_at place
  have uncalled : (system.clients index).invokes (.decide seen) = none := by
    rw [place]
    rfl
  have result : (system.clients index).act system.stored (.decide seen)
      = Client.decides system.stored task attempt loaded seen := by
    rw [place]
    rfl
  cases passed : task.pass seen loaded with
  | error error =>
    have step : (system.clients index).act system.stored (.decide seen)
        = (.finished (.error error), none) := by
      rw [result, Client.decides, passed]
    exact invariant.goesOn step uncalled trivial (by simp)
  | ok decision =>
    cases decision with
    | answer client =>
      have step : (system.clients index).act system.stored (.decide seen) = (client, none) := by
        rw [result, Client.decides, passed]
      rcases Task.pass_answer passed with ⟨_, rfl⟩ | ⟨_, rfl⟩
      · exact invariant.goesOn step uncalled trivial (by simp)
      · exact invariant.goesOn step uncalled trivial (by simp)
    | swap after client =>
      by_cases current : system.stored = loaded
      · subst current
        have step : (system.clients index).act system.stored (.decide seen)
            = (client, some ⟨task, system.stored, after⟩) := by
          rw [result, Client.decides, passed]
          simp
        obtain ⟨sound, outcome⟩ := Task.pass_swap passed
        refine invariant.commit injective index sound fits outcome ?_ ?_ ?_ ?_ ?_
        · simp [step]
        · simp [step]
        · simp [uncalled]
        · simp [place, Client.findsAbsent]
        · simp [step]
      · have step : (system.clients index).act system.stored (.decide seen)
            = (task.retry attempt, none) := by
          rw [result, Client.decides, passed]
          simp [current]
        obtain ⟨retries, waits⟩ := Task.retry_fits (fits.acts index (.decide seen))
        exact invariant.goesOn step uncalled retries waits

/-- One step of a client keeps the invariant. Witness: the cases of the step. -/
theorem acts (index : Nat) (act : Act)
    : (system.acts index act).Invariant := by
  rcases Client.act_cases system.stored (system.clients index) act with
    ⟨still, uncalled, unseen⟩ | ⟨task, attempt, place, rfl⟩
    | ⟨task, attempt, loaded, seen, place, rfl⟩ | ⟨removal, place, rfl⟩
    | ⟨removal, result, place, rfl⟩ | ⟨removal, failure, absent, place, rfl⟩
  · have same : system.acts index act = system := by
      simp [still, uncalled, unseen]
    rw [same]
    exact invariant
  · have kept : task.Fits system := invariant.fits_at place
    obtain ⟨reads, waits⟩ := Client.reads_fits (kept.acts index .read)
    exact invariant.goesOn (by rw [place]; rfl) (by rw [place]; rfl) reads waits
  · exact invariant.decides injective place seen
  · refine invariant.invoke place ?_ ?_ ?_ ?_ ?_ <;>
      simp [place, Client.act, Client.invokes, Client.findsAbsent]
  · have called : removal ∈ (system.acts index (.settle result)).invoked :=
      mem_append_left _ (invariant.fits_at place)
    refine invariant.goesOn (by rw [place]; rfl) (by rw [place]; rfl) ?_ ?_
    · cases result with
      | done _ => exact .inl called
      | refusedBeforeInvocation _ | attempted _ => exact called
    · cases result <;> simp [Client.settles, Client.begins]
  · refine invariant.goesOn (by rw [place]; rfl) (by rw [place]; rfl) ?_ ?_
    · cases absent with
      | error _ => trivial
      | ok gone =>
        cases gone with
        | false => trivial
        | true =>
          refine .inr ⟨rfl, ?_⟩
          simp [place, Client.findsAbsent]
    · rcases absent with _ | _ | _ <;> simp [Client.observes, Client.begins]

theorem step (event : Event hash authority)
    : (system.step event).Invariant := by
  cases event with
  | apply index call | remove index removal => exact invariant.enter index trivial
  | act index act => exact invariant.acts injective index act
  | stop index => exact invariant.place index trivial (by simp)

end System.Invariant

/-- The invariant holds after every interleaving. -/
theorem System.invariant (injective : Function.Injective hash)
    (events : List (Event hash authority))
    : (System.machine.after System.initial events).Invariant := by
  refine System.machine.after_invariant ?_ events System.initial_invariant
  intro system event invariant
  exact invariant.step injective event

end

end Dure.Checkout
