import Dure.Checkout.History

/-! What a removal permit stands for along a history: the request that it was granted to,
the claims that it retires, and that nothing else uses the checkout while it lives.
-/

namespace Dure.Checkout

open Library Check Tickets List Commit

variable {hash : String → String} {authority : Authority}

/-- What names a claim: its owner, its id and the digest of its request. -/
def Claim.row (claim : Claim) : String × String × String :=
  (claim.ownerId, claim.claimId, claim.requestDigest)

def UseClaim.row (claim : UseClaim) : String × String × String :=
  (claim.ownerId.value, claim.claimId.value, claim.requestDigest)

/-- The rows of the claims that are not released. -/
def State.activeRows (state : State) : List (String × String × String) :=
  (state.claims.entries.filter (fun entry => entry.2.isActive)).map
    (fun entry => entry.2.row)

/-- The claims on a checkout. A generation that has ended is claimed by nobody. -/
def liveClaims (current : Option State) : List (String × String × String) :=
  match current with
  | none => []
  | some state => if state.phase = .removed then [] else state.activeRows

variable {creation : Option CreationHistory} {commit : Commit hash authority}
  {commits : List (Commit hash authority)} {state : State} {current stored : Option State}
  {token : String} {checkout : Instance} {progress : RemovalProgress} {permit : Slot}
  {operationId : OperationId}

theorem Ended.liveClaims (ended : Ended current)
    : Checkout.liveClaims current = [] := by
  cases current with
  | none => rfl
  | some state => simp [Checkout.liveClaims, ended state rfl]

variable {instanceDigest : String}

theorem liveClaims_active
    (lifecycle : state.lifecycle = .active instanceDigest creation removal)
    : liveClaims (some state) = state.activeRows := by
  simp [liveClaims, State.phase, State.wire, lifecycle, Lifecycle.wire]

theorem storedId_value (parsed : storedId value message = .ok operationId)
    : operationId.value = value := by
  unfold storedId at parsed
  split_ifs at parsed with valid
  · cases parsed
    rfl

theorem claimWire_row (written : claimWire claim = .ok wire) : wire.row = claim.row := by
  simp only [claimWire, bind_ok, pure_ok] at written
  obtain ⟨ownerId, owner, claimId, named, rfl⟩ := written
  simp [UseClaim.row, Claim.row, storedId_value owner, storedId_value named]

theorem activeClaims_rows (listed : activeClaims state = .ok claims)
    : claims.map UseClaim.row = state.activeRows := by
  have rows {items : List Claim} {wires : List UseClaim}
      (pairs : List.Forall₂ (fun claim wire => claimWire claim = .ok wire) items wires)
      : wires.map UseClaim.row = items.map Claim.row := by
    induction pairs with
    | nil => rfl
    | cons written _ ih => rw [map_cons, map_cons, claimWire_row written, ih]
  rw [rows (mapM_ok listed), map_map]
  rfl

theorem permitFromState_ok {permit : RemovalPermit}
    (read : permitFromState authority state checkout = .ok permit)
    : ∃ slot,
        state.permit = some slot
        ∧ permit.permitToken = slot.token
        ∧ permit.operationId.value = slot.operationId
        ∧ permit.requestDigest = slot.requestDigest
        ∧ permit.retiringClaims.map UseClaim.row = state.activeRows := by
  simp only [permitFromState, permitReceipt, bind_ok, orReject_ok, pure_ok] at read
  obtain ⟨slot, present, _, _, claims, listed, operationId, named, _, _, rfl⟩ := read
  exact ⟨slot, present, rfl, storedId_value named, rfl, activeClaims_rows listed⟩

/-- The swap grants the permit to a request for the instance. -/
structure Commit.Grants (commit : Commit hash authority) (instanceDigest : String)
    (permit : Slot) (policy : RemovalPolicy) : Prop where
  asked : ∃ call checkout retiringClaimIds,
    commit.task = .apply call
    ∧ call.request.action = .permit checkout instanceDigest retiringClaimIds policy
    ∧ permit = call.request.slot permit.token permit.revision
  issues : commit.permitUse = .issue permit.token
  stored : ∃ creation,
    commit.after.lifecycle = .removing instanceDigest creation permit .permitted
  retires : commit.after.activeRows = liveClaims commit.before

/-- A use that leaves the checkout under removal is the grant of its permit. -/
theorem Reduction.grants {call : Call hash authority} {before : Option State} {after : State}
    (reduction : Reduction hash call.request before after)
    (lifecycle : after.lifecycle = .removing instanceDigest creation permit progress)
    : ∃ policy, Commit.Grants ⟨.apply call, before, after⟩ instanceDigest permit policy := by
  cases reduction with
  | permitFirst action ended _ _ =>
    simp only [Lifecycle.removing.injEq] at lifecycle
    obtain ⟨rfl, _, rfl, _⟩ := lifecycle
    refine ⟨_, ⟨_, _, _, rfl, action, rfl⟩, ?_, ⟨_, rfl⟩, ended.liveClaims ▸ rfl⟩
    simp [permitUse, action, State.permit, State.wire, Lifecycle.wire]
  | permitNext action active _ _ _ _ =>
    simp only [Lifecycle.removing.injEq] at lifecycle
    obtain ⟨rfl, _, rfl, _⟩ := lifecycle
    refine ⟨_, ⟨_, _, _, rfl, action, rfl⟩, ?_, ⟨_, rfl⟩, (liveClaims_active active).symm⟩
    simp [permitUse, action, State.permit, State.wire, Lifecycle.wire]
  | _ => cases lifecycle

theorem permitStage_held (held : permitStage current = .held token)
    : ∃ state instanceDigest creation permit,
        current = some state
        ∧ state.lifecycle = .removing instanceDigest creation permit .permitted
        ∧ permit.token = token := by
  unfold permitStage at held
  split at held
  · rename_i lifecycle
    obtain ⟨state, present, lifecycle⟩ := Option.map_eq_some_iff.mp lifecycle
    exact ⟨state, _, _, _, present, lifecycle, Stage.held.inj held⟩
  · cases held
  · cases held

theorem Commit.Sound.grants (sound : commit.Sound) (issues : commit.permitUse = .issue token)
    : ∃ instanceDigest permit policy,
        permit.token = token ∧ commit.Grants instanceDigest permit policy := by
  have held : permitStage (some commit.after) = .held token := by
    have step := sound.permitStep
    rw [issues] at step
    generalize permitStage commit.before = first at step
    generalize permitStage (some commit.after) = next at step
    cases step
    rfl
  obtain ⟨state, instanceDigest, creation, permit, present, lifecycle, same⟩ :=
    permitStage_held held
  cases present
  cases sound with
  | start _ | rollback _ | terminal _ => simp [permitUse] at issues
  | apply reduction =>
    obtain ⟨policy, grants⟩ := reduction.grants lifecycle
    exact ⟨instanceDigest, permit, policy, same, grants⟩

/-- The receipt of a grant names the claims on the checkout. -/
theorem reducePermit_receipt
    (reduced : reducePermit hash current request checkout instanceDigest retiringClaimIds
      = .ok plan)
    : ∃ permit,
        plan.receipt.outcome = .removalPermitted permit
        ∧ permit.retiringClaims.map UseClaim.row = liveClaims current := by
  unfold reducePermit at reduced
  simp only [permitReceipt, useReceipt, bind_ok, pure_ok] at reduced
  obtain ⟨live, found, retiring, retires, _, _, _, _, _, ⟨_, _, _, _, rfl⟩, _, ⟨_, _, _, _, rfl⟩,
    rfl⟩ := reduced
  refine ⟨_, rfl, ?_⟩
  rcases liveGeneration_ok found with ⟨rfl, ended⟩ | ⟨state, creation, removal, rfl, lifecycle, rfl⟩
  · simp only [retiringClaims, ↓seq_ok, pure_ok] at retires
    obtain ⟨_, rfl⟩ := retires
    exact ended.liveClaims.symm
  · simp only [retiringClaims, bind_ok, pure_ok] at retires
    obtain ⟨_, listed, _, _, rfl⟩ := retires
    exact (activeClaims_rows listed).trans (liveClaims_active lifecycle).symm

/-- A permit in the record was granted by one of the swaps. Witness: induction on the
history; only a grant brings a permit under removal, and only a marker keeps it there. -/
theorem History.granted (history : History commits stored) (present : stored = some state)
    (lifecycle : state.lifecycle = .removing instanceDigest creation permit progress)
    : ∃ grant ∈ commits, ∃ policy, grant.Grants instanceDigest permit policy := by
  induction history generalizing state creation progress with
  | nil => cases present
  | snoc earlier sound ih =>
    rename_i commits commit
    cases present
    have last : commit ∈ commits ++ [commit] := by simp
    cases sound with
    | start write =>
      cases write with
      | start held _ _ _ _ =>
        simp only [Lifecycle.removing.injEq] at lifecycle
        obtain ⟨rfl, _, rfl, _⟩ := lifecycle
        obtain ⟨grant, member, granted⟩ := ih rfl held
        exact ⟨grant, mem_append_left _ member, granted⟩
    | rollback write | terminal write => cases write; cases lifecycle
    | apply reduction =>
      obtain ⟨policy, grants⟩ := reduction.grants lifecycle
      exact ⟨_, last, policy, grants⟩

/-- The digest of a permit request binds its instance, its claims and its policy. -/
theorem permitRequestDigest_injective (injective : Function.Injective hash)
    (left : permitRequestDigest hash authority operationId instanceDigest ids policy
      = .ok digest)
    (right : permitRequestDigest hash authority other otherDigest others otherPolicy
      = .ok digest)
    : instanceDigest = otherDigest ∧ policy = otherPolicy := by
  have same := digestFields_injective injective (by decide) left right
  simp only [cons_append, nil_append, cons.injEq, true_and,
    append_assoc] at same
  obtain ⟨rfl, count, fields⟩ := same
  have lengths : ids.length = others.length := LengthPrefixed.natToString_injective count
  have rest := (append_inj fields (by simpa using lengths)).2
  refine ⟨rfl, ?_⟩
  cases policy <;> cases otherPolicy <;> simp_all

/-- A marker is placed under the policy that the permit was granted for. -/
theorem Commit.Grants.policy (injective : Function.Injective hash)
    {policy asked : RemovalPolicy} (grants : commit.Grants instanceDigest permit policy)
    (stored : state.permit = some permit)
    (allowed : permitAllowsPolicy hash authority state instanceDigest checkout asked
      = .ok true)
    : policy = asked := by
  simp only [permitAllowsPolicy, bind_ok, pure_ok, beq_iff_eq] at allowed
  obtain ⟨read, issued, digest, computed, agrees⟩ := allowed
  obtain ⟨slot, present, _, _, digests, _⟩ := permitFromState_ok issued
  obtain rfl : permit = slot := Option.some.inj (stored.symm.trans present)
  obtain ⟨call, _, _, _, action, slot⟩ := grants.asked
  have bound := call.prepared.genuine.digest
  rw [action] at bound
  have request : call.request.requestDigest = digest := by
    rw [← agrees, digests, slot]
    rfl
  rw [request] at bound
  exact (permitRequestDigest_injective injective bound computed).2

theorem History.last (history : History (commits ++ [commit]) stored)
    : stored = some commit.after := by
  generalize joined : commits ++ [commit] = all at history
  cases history with
  | nil => simp at joined
  | snoc _ _ =>
    obtain ⟨_, rfl⟩ := append_singleton_inj.mp joined
    rfl

theorem Commit.starts_spends (commit : Commit hash authority)
    (starts : commit.task = .start removal)
    : commit.permitUse = .spend removal.token := by
  rw [permitUse, starts]

/-- Only a marker spends a permit. -/
theorem Commit.spends_start (commit : Commit hash authority)
    (spends : commit.permitUse = .spend token)
    : ∃ removal, commit.task = .start removal ∧ removal.token = token := by
  unfold permitUse at spends
  cases task : commit.task with
  | start removal =>
    simp only [task, Use.spend.injEq] at spends
    exact ⟨removal, rfl, spends⟩
  | rollback removal cause | terminal removal outcome => simp [task] at spends
  | apply call =>
    simp only [task] at spends
    split at spends <;> cases spends

/-- Between its grant and its end a permit sees at most its own marker, and the claims stay
as they are. Witness: the tickets leave room for the marker only. -/
theorem History.exclusive {earlier between later : List (Commit hash authority)}
    (history : History (earlier ++ grant :: (between ++ later)) stored)
    (issues : grant.permitUse = .issue token)
    (live : ∀ commit ∈ between, commit.permitUse ≠ .close token)
    : ∀ commit ∈ between,
        ¬commit.UsesClaims
        ∧ commit.after.claims = grant.after.claims
        ∧ commit.after.permit = grant.after.permit := by
  have sound := history.sound
  have run := history.permits
  rw [map_append, map_cons, issues, map_append] at run
  obtain ⟨_, _, run⟩ := run.split
  obtain ⟨_, run, _⟩ : ∃ stage, Runs (.held token) (between.map permitUse) stage
      ∧ Runs stage (later.map permitUse) (permitStage stored) := by
    cases run with
    | cons step run =>
      cases step with
      | issue _ => exact run.split
  have uses := run.exclusive (by simpa using live)
  rcases uses with ⟨none, _⟩ | ⟨one, _⟩
  · rw [map_eq_nil_iff.mp none]
    simp
  · obtain ⟨commit, rfl, spends⟩ := map_eq_singleton_iff.mp one
    intro other member
    obtain rfl := mem_singleton.mp member
    have previous : other.before = some grant.after := by
      have whole : earlier ++ grant :: ([other] ++ later)
          = (earlier ++ [grant]) ++ other :: later := by simp
      rw [whole] at history
      exact history.before.last
    obtain ⟨removal, starts, _⟩ := other.spends_start spends
    have placed := sound other (by simp)
    cases placed with
    | apply _ | rollback _ | terminal _ => cases starts
    | start write =>
      cases previous
      cases write with
      | start lifecycle _ _ _ _ =>
        refine ⟨by simp [Commit.UsesClaims, action], rfl, ?_⟩
        simp [State.permit, State.wire, lifecycle, Lifecycle.wire]

end Dure.Checkout
