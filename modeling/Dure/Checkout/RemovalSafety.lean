import Dure.Checkout.Exclusion
import Mathlib

/-! Removal is safe under every interleaving of the clients of one checkout. -/

namespace Dure.Checkout

open Library Check Tickets

section

variable {hash : String → String} {authority : Authority}

/-- The permit names exactly the claims that were on the checkout when it was granted: in the
receipt of the grant, and whenever it is read from the record before it ends. -/
def RetiresClaims (grant : Commit hash authority) (between : List (Commit hash authority))
    (token : String) : Prop :=
  (∀ call plan, grant.task = .apply call → reduceRequest hash grant.before call.request = .ok plan →
    plan.state = some grant.after →
      ∃ permit,
        plan.receipt.outcome = .removalPermitted permit
        ∧ permit.retiringClaims.map UseClaim.row = liveClaims grant.before)
  ∧ ∀ commit ∈ grant :: between, ∀ checkout permit,
    permitFromState authority commit.after checkout = .ok permit →
      permit.permitToken = token
      ∧ permit.retiringClaims.map UseClaim.row = liveClaims grant.before

theorem History.retiresClaims {earlier between later : List (Commit hash authority)}
    (history : History (earlier ++ grant :: (between ++ later)) stored)
    (issues : grant.permitUse = .issue token)
    (live : ∀ commit ∈ between, commit.permitUse ≠ .close token)
    : RetiresClaims grant between token := by
  obtain ⟨instanceDigest, permit, policy, rfl, grants⟩ :=
    (history.sound grant (by simp)).grants issues
  obtain ⟨call, checkout, ids, task, action, _⟩ := grants.asked
  constructor
  · intro other plan applied reduced written
    obtain rfl : other = call := Task.apply.inj (applied.symm.trans task)
    have reduced := (reduceRequest_unrecorded written reduced).2
    simp only [reduceNew, action] at reduced
    exact reducePermit_receipt reduced
  · intro commit member checkout read issued
    obtain ⟨slot, present, token, _, _, rows⟩ := permitFromState_ok issued
    have same : commit.after.activeRows = grant.after.activeRows
        ∧ commit.after.permit = grant.after.permit := by
      rcases List.mem_cons.mp member with rfl | inside
      · exact ⟨rfl, rfl⟩
      · obtain ⟨_, claims, permits⟩ := history.exclusive issues live commit inside
        exact ⟨by rw [State.activeRows, State.activeRows, claims], permits⟩
    obtain ⟨creation, lifecycle⟩ := grants.stored
    rw [same.2] at present
    simp only [State.permit, State.wire, lifecycle, Lifecycle.wire, Option.some.injEq] at present
    subst present
    exact ⟨token, rows.trans (same.1.trans grants.retires)⟩

attribute [local simp] Commit.reservationUse

/-- In every interleaving of any number of clients of one ref, with digests that do not
collide:
the physical removal is called at most once for a permit, for the instance and the policy that
the permit was granted for, and only while the record is under removal by that permit and
marked by this removal, or else after a replay of the same removal found the checkout gone and
recorded that;
a permit retires exactly the claims on the checkout at its grant, and until it ends no claim is
acquired or released;
a permit that was aborted, rolled back or terminal never starts a removal again;
a reservation is started at most once, and after its abort neither started nor activated;
and every stored revision is larger than those before it.
-/
theorem removal_excludes_uses (injective : Function.Injective hash)
    {system : System hash authority} (reachable : system.Reachable)
    : (system.invoked.map Removal.token).Nodup
      ∧ (∀ index act removal, (system.clients index).invokes act = some removal →
        removal.Permitted system.commits
        ∧ (∃ commit ∈ system.commits, commit.task = .start removal)
        ∧ (removal.Marks system.stored ∨ removal.FoundAbsent system))
      ∧ (∀ earlier grant between later token,
        system.commits = earlier ++ grant :: (between ++ later) →
          grant.permitUse = .issue token →
            (∀ commit ∈ between, commit.permitUse ≠ .close token) →
              RetiresClaims grant between token
              ∧ ∀ commit ∈ between,
                ¬commit.UsesClaims ∧ commit.after.claims = grant.after.claims)
      ∧ system.commits.Pairwise (fun earlier later => ∀ token,
        earlier.permitUse.Ends token → ∀ removal,
          later.task = .start removal → removal.token ≠ token)
      ∧ system.commits.Pairwise (fun earlier later => ∀ token,
        (earlier.action = some (.startCreation token) →
          later.action ≠ some (.startCreation token))
        ∧ ∀ start, earlier.action = some (.abortCreation token start) →
          later.action ≠ some (.startCreation token)
          ∧ ∀ checkout instanceDigest,
            later.action ≠ some (.activate checkout instanceDigest token))
      ∧ system.commits.Pairwise (fun earlier later =>
        earlier.after.revision < later.after.revision) := by
  obtain ⟨events, rfl⟩ := reachable
  have invariant := System.invariant injective events
  have history := invariant.history
  refine ⟨invariant.once, ?_, ?_, ?_, ?_, history.increasing⟩
  · intro index act removal invokes
    have pending : removal.Pending (System.machine.after System.initial events) := by
      have fits := invariant.clients index
      unfold Client.invokes at invokes
      split at invokes
      · rename_i place
        cases invokes
        rw [place] at fits
        exact fits
      · cases invokes
    exact ⟨pending.permitted, pending.started, pending.stands⟩
  · intro earlier grant between later token split issues live
    rw [split] at history
    refine ⟨history.retiresClaims issues live, ?_⟩
    intro commit member
    obtain ⟨unused, claims, _⟩ := history.exclusive issues live commit member
    exact ⟨unused, claims⟩
  · refine (history.permits_once injective).imp ?_
    intro earlier later once token ends removal starts same
    refine (once token).1 ends (.inl ?_)
    rw [← same]
    exact later.starts_spends starts
  · refine (history.reservations_once injective).imp ?_
    intro earlier later once token
    constructor
    · intro starts again
      refine (once token).2 ?_ ?_
      · simp [starts]
      · simp [again]
    · intro start aborts
      have ends : earlier.reservationUse.Ends token := by
        simp [aborts, Use.Ends]
      constructor
      · intro starts
        exact (once token).1 ends (by simp [starts, Use.Relies])
      · intro checkout instanceDigest activates
        exact (once token).1 ends (by simp [activates, Use.Relies])

variable {system : System hash authority} {index attempt : Nat} {task : Task hash authority}
  {client : Client hash authority} {seen : Observation}

attribute [local simp] System.place Client.findsAbsent

variable (readable : ∀ state, system.stored = some state →
  validateState hash authority state = .ok ())
include readable

/-- A client that reads a readable record decides on it. -/
theorem System.acts_read (place : system.clients index = .reading task attempt)
    : system.acts index .read
      = system.place index (.deciding task attempt system.stored) := by
  have reads : Client.reads system.stored task attempt
      = .deciding task attempt system.stored := by
    cases stored : system.stored with
    | none => rfl
    | some state => simp [Client.reads, readable state stored]
  simp [System.acts, place, Client.act, Client.invokes, System.written, reads]

/-- The record did not change, so the swap takes place. -/
theorem System.loop_swap {next : State} (place : system.clients index = .reading task attempt)
    (passed : task.pass seen system.stored = .ok (.swap next client))
    : (system.acts index .read).acts index (.decide seen)
      = {
          stored := some next
          clients := Function.update system.clients index client
          commits := system.commits ++ [⟨task, system.stored, next⟩]
          invoked := system.invoked
          absences := system.absences
        } := by
  rw [System.acts_read readable place]
  simp [System.acts, Client.act, Client.decides, Client.invokes, System.written, passed]

/-- A free client enters a loop and swaps. -/
theorem System.enter_swap {next : State} (free : (system.clients index).isFree = true)
    (passed : task.pass seen system.stored = .ok (.swap next client))
    : ((system.enter index task).acts index .read).acts index (.decide seen)
      = {
          stored := some next
          clients := Function.update system.clients index client
          commits := system.commits ++ [⟨task, system.stored, next⟩]
          invoked := system.invoked
          absences := system.absences
        } := by
  have entered : system.enter index task = system.place index (.begins task) := by
    simp [System.enter, free]
  have place : (system.place index (.begins task)).clients index = .reading task 0 := by
    simp [Client.begins]
  rw [entered, System.loop_swap (by exact readable) place passed]
  simp

theorem System.loop_answer (place : system.clients index = .reading task attempt)
    (passed : task.pass seen system.stored = .ok (.answer client))
    : (system.acts index .read).acts index (.decide seen) = system.place index client := by
  rw [System.acts_read readable place]
  simp [System.acts, Client.act, Client.decides, Client.invokes, System.written, passed]

end

/-- The instance of the sample's checkout. -/
def sampleInstance : Instance where
  schemaVersion := 1
  canonicalPath := "/w/wt"
  gitCommonDir := "/w/.git"
  gitDir := "/w/.git/worktrees/wt"
  instanceToken := "dwt1_3f2a9c51d07be8463f2a9c51d07be846"

def permittedInstance : String := "bca6436f50da46fa422a930cfeb8307758ae63ac"
def permitDigest : String := "b0c43866b8c077feb107a309ecd73dc627359543"
def sampleToken : String := "5172b3aff315e044d714810f5c40cad3f398efe7"
def removalDigest : String := "181f741e742898fef48ce77e796fceb362cbfa85"

/-- The texts and their digests trade places. -/
def traded (pairs : List (String × String)) (text : String) : String :=
  pairs.foldr (fun pair => Equiv.swap pair.1 pair.2) text

theorem traded_injective (pairs : List (String × String))
    : Function.Injective (traded pairs) := by
  induction pairs with
  | nil => exact fun _ _ same => same
  | cons pair rest ih =>
    intro left right same
    exact ih ((Equiv.swap pair.1 pair.2).injective same)

/-- What `git hash-object` returns for the texts of the sample. -/
def tradedDigests : List (String × String) :=
  [
    (framed instanceDomain ["1", "/w/wt", "/w/.git", "/w/.git/worktrees/wt",
      sampleInstance.instanceToken], permittedInstance),
    (framed requestDomain ["permit", samplePathDigest, permittedInstance, "0", "permit-1"],
      permitDigest),
    (framed permitDomain [samplePathDigest, permittedInstance, "permit-1", permitDigest, "1"],
      sampleToken),
    (framed requestDomain ["physical_remove", samplePathDigest, permittedInstance, sampleToken,
      "remove-1"], removalDigest)
  ]

/-- The texts and their digests trade places, so no two texts have one digest. -/
def tradedHash (text : String) : String :=
  tradedDigests.foldr (fun pair => Equiv.swap pair.1 pair.2) text

theorem tradedHash_injective : Function.Injective tradedHash := traded_injective _

def grantId : OperationId := ⟨"permit-1", by decide⟩
def removalId : OperationId := ⟨"remove-1", by decide⟩

def sampleGrant : PreparedRequest :=
  ⟨sampleAuthority, grantId, permitDigest, .permit sampleInstance permittedInstance [] .requireClean⟩

theorem sampleGrant_prepared
    : prepareRequest tradedHash sampleAuthority grantId
        (.acquireRemovalPermit sampleInstance [] .requireClean) = .ok sampleGrant := by
  decide +kernel

def sampleCall : Call tradedHash sampleAuthority := ⟨sampleGrant, .asked sampleGrant_prepared⟩

def sampleAsked : PhysicalRequest := ⟨removalId, sampleInstance, sampleToken, .requireClean⟩

theorem sampleAsked_prepared
    : prepareRemoval tradedHash sampleAuthority sampleAsked
      = .ok ⟨sampleAuthority, sampleAsked, permittedInstance, removalDigest⟩ := by
  decide +kernel

def sampleRemoval : Removal tradedHash sampleAuthority := ⟨sampleAsked, _, sampleAsked_prepared⟩

/-- The record after the grant. -/
def grantedRecord : State where
  revision := 1
  pathDigest := samplePathDigest
  lifecycle := .removing permittedInstance none ⟨sampleToken, "permit-1", permitDigest, 1⟩
    .permitted
  claims := .empty

/-- The record after the marker. -/
def markedRecord : State where
  revision := 2
  pathDigest := samplePathDigest
  lifecycle := .removing permittedInstance none ⟨sampleToken, "permit-1", permitDigest, 1⟩
    (.executing ⟨"remove-1", removalDigest, 2⟩)
  claims := .empty

/-- The record after the checkout was found gone. -/
def goneRecord : State where
  revision := 3
  pathDigest := samplePathDigest
  lifecycle := .removed (.physical {
    instanceDigest := permittedInstance
    creation := none
    permit := ⟨sampleToken, "permit-1", permitDigest, 1⟩
    physical := ⟨"remove-1", removalDigest, 2⟩
    outcome := .alreadyAbsent
  })
  claims := .empty

def samplePermit : RemovalPermit where
  canonicalPath := "/w/wt"
  pathDigest := samplePathDigest
  checkout := sampleInstance
  instanceDigest := permittedInstance
  permitToken := sampleToken
  operationId := grantId
  requestDigest := permitDigest
  revision := 1
  retiringClaims := []

theorem sampleGrant_reduced
    : reduceRequest tradedHash none sampleGrant
      = .ok {
          state := some grantedRecord
          receipt := ⟨grantId, permitDigest, 1, .removing, .removalPermitted samplePermit⟩
          validateInstance := some sampleInstance
          validateAbsentTarget := false
        } := by
  decide +kernel

theorem grantedRecord_readable
    : validateState tradedHash sampleAuthority grantedRecord = .ok () := by
  decide +kernel

theorem markedRecord_readable
    : validateState tradedHash sampleAuthority markedRecord = .ok () := by
  decide +kernel

theorem sampleRemoval_starts
    : sampleRemoval.removal.startPhysicalRemoval tradedHash (some grantedRecord)
      = .ok (.swap markedRecord .execute) := by
  decide +kernel

theorem sampleRemoval_replays
    : sampleRemoval.removal.startPhysicalRemoval tradedHash (some markedRecord)
      = .ok (.answer .reconcile) := by
  decide +kernel

theorem sampleRemoval_ends
    : sampleRemoval.removal.terminalizePhysicalRemoval .alreadyAbsent (some markedRecord)
      = .ok (.swap goneRecord ⟨removalId, removalDigest, 3, .removed,
        .removed samplePermit ⟨.alreadyAbsent, sampleInstance⟩⟩) := by
  decide +kernel

/-- The filesystem shows what the plans ask for. -/
def sampleSeen : Observation := ⟨.ok (), fun _ => .ok ()⟩

/-- A permit is granted to client 0, and client 1 places its marker. -/
def markingEvents : List (Event tradedHash sampleAuthority) :=
  [
    .apply 0 sampleCall, .act 0 .read, .act 0 (.decide sampleSeen),
    .remove 1 sampleRemoval, .act 1 .read, .act 1 (.decide sampleSeen)
  ]

/-- Client 2 replays the removal, finds the checkout gone, and records that. -/
def replayingEvents : List (Event tradedHash sampleAuthority) :=
  [
    .remove 2 sampleRemoval, .act 2 .read, .act 2 (.decide sampleSeen),
    .act 2 (.observe (.ok true)), .act 2 .read, .act 2 (.decide sampleSeen)
  ]

def grantedReceipt : UseReceipt :=
  ⟨grantId, permitDigest, 1, .removing, .removalPermitted samplePermit⟩

def grantedSystem : System tradedHash sampleAuthority where
  stored := some grantedRecord
  clients := Function.update (fun _ => .idle) 0 (.finished (.ok grantedReceipt))
  commits := [⟨.apply sampleCall, none, grantedRecord⟩]
  invoked := []
  absences := []

def markedSystem : System tradedHash sampleAuthority where
  stored := some markedRecord
  clients := Function.update grantedSystem.clients 1 (.executing sampleRemoval)
  commits := grantedSystem.commits
    ++ [⟨.start sampleRemoval, some grantedRecord, markedRecord⟩]
  invoked := []
  absences := []

theorem markingEvents_run
    : System.machine.after System.initial markingEvents = markedSystem := by
  have granting : (Task.apply sampleCall).pass sampleSeen none
      = .ok (.swap grantedRecord (.finished (.ok grantedReceipt))) := by
    simp only [Task.pass, bind_ok]
    exact ⟨_, sampleGrant_reduced, (), rfl, rfl⟩
  have marking : (Task.start sampleRemoval).pass sampleSeen (some grantedRecord)
      = .ok (.swap markedRecord (.executing sampleRemoval)) := by
    simp only [Task.pass, bind_ok]
    exact ⟨_, sampleRemoval_starts, rfl⟩
  have granted : ((System.initial.enter 0 (.apply sampleCall)).acts 0 .read).acts 0
      (.decide sampleSeen) = grantedSystem :=
    System.enter_swap (by rintro _ ⟨⟩) rfl granting
  have readable : ∀ state, grantedSystem.stored = some state →
      validateState tradedHash sampleAuthority state = .ok () := by
    rintro _ ⟨⟩
    exact grantedRecord_readable
  have marked : ((grantedSystem.enter 1 (.start sampleRemoval)).acts 1 .read).acts 1
      (.decide sampleSeen) = markedSystem :=
    @System.enter_swap _ _ grantedSystem 1 _ _ sampleSeen readable _ rfl marking
  simp only [markingEvents, Machine.after_cons, Machine.after_nil, System.machine, System.step]
  rw [granted, marked]

def foundSystem : System tradedHash sampleAuthority :=
  {
    markedSystem with
    clients := Function.update markedSystem.clients 2
      (.begins (.terminal sampleRemoval .alreadyAbsent))
    absences := [sampleRemoval]
  }

/-- The marker of client 1 stands while client 2 records that the checkout is gone: the
physical removal is then called although the record is not under removal any more. -/
theorem removal_called_after_absence
    : Function.Injective tradedHash
      ∧ ∃ system : System tradedHash sampleAuthority,
        system.Reachable
        ∧ (system.clients 1).invokes .invoke = some sampleRemoval
        ∧ system.stored = some goneRecord
        ∧ goneRecord.phase = .removed := by
  refine ⟨tradedHash_injective, _, ⟨markingEvents ++ replayingEvents, rfl⟩, ?_⟩
  have replaying : (Task.start sampleRemoval).pass sampleSeen (some markedRecord)
      = .ok (.answer (.reconciling sampleRemoval none)) := by
    simp only [Task.pass, bind_ok]
    exact ⟨_, sampleRemoval_replays, rfl⟩
  have ending : (Task.terminal sampleRemoval .alreadyAbsent).pass sampleSeen (some markedRecord)
      = .ok (.swap goneRecord (.finished (.ok ⟨removalId, removalDigest, 3, .removed,
        .removed samplePermit ⟨.alreadyAbsent, sampleInstance⟩⟩))) := by
    simp only [Task.pass, bind_ok]
    exact ⟨_, sampleRemoval_ends, rfl⟩
  have readable : ∀ state, some markedRecord = some state →
      validateState tradedHash sampleAuthority state = .ok () := by
    rintro _ ⟨⟩
    exact markedRecord_readable
  have replayed : ((markedSystem.enter 2 (.start sampleRemoval)).acts 2 .read).acts 2
      (.decide sampleSeen)
      = (markedSystem.place 2 (.begins (.start sampleRemoval))).place 2
        (.reconciling sampleRemoval none) :=
    @System.loop_answer _ _ (markedSystem.place 2 (.begins (.start sampleRemoval))) 2 0
      (.start sampleRemoval) _ _ readable rfl replaying
  have found : ((markedSystem.place 2 (.begins (.start sampleRemoval))).place 2
      (.reconciling sampleRemoval none)).acts 2 (.observe (.ok true)) = foundSystem := by
    simp [System.acts, System.place, Client.act, Client.invokes, Client.findsAbsent,
      Client.observes, System.written, foundSystem, markedSystem]
  have ended := @System.loop_swap _ _ foundSystem 2 0 (.terminal sampleRemoval .alreadyAbsent)
    _ _ readable _ rfl ending
  rw [Machine.after_append, markingEvents_run]
  simp only [replayingEvents, Machine.after_cons, Machine.after_nil, System.machine,
    System.step]
  rw [replayed, found, ended]
  exact ⟨rfl, rfl, rfl⟩

/-- While nobody else acts, the removal is called under its permit and marker. -/
theorem marked_removal_called
    : ∃ system : System tradedHash sampleAuthority,
        system.Reachable
        ∧ (system.clients 1).invokes .invoke = some sampleRemoval
        ∧ sampleRemoval.Permitted system.commits
        ∧ sampleRemoval.Marks system.stored := by
  have reachable : markedSystem.Reachable := ⟨markingEvents, markingEvents_run⟩
  obtain ⟨_, called, _⟩ := removal_excludes_uses tradedHash_injective reachable
  obtain ⟨permitted, _, stands⟩ := called 1 .invoke sampleRemoval rfl
  refine ⟨markedSystem, reachable, rfl, permitted, stands.resolve_right ?_⟩
  rintro ⟨absent, _⟩
  cases absent

end Dure.Checkout
