import Dure.Plugin.Ledger

/-! What an appended journal event does to the ownership ledger, and that the ledger folds to
the stored ownerships in every store that appends can reach.
-/

namespace Dure.Plugin

open Library Check List
open Checkout (OperationId)

variable {sha256 : Sha256} {target : OwnershipTarget}

namespace Store

theorem lt_nextOwnershipRevision {store : Store} (member : event ∈ store.ledger)
    : event.revision < store.nextOwnershipRevision :=
  Nat.lt_succ_of_le (le_max?_getD_of_mem (mem_map_of_mem member))

theorem lastRevision_lt (store : Store)
    : (store.ledger.map LedgerEvent.revision).getLastD 0 < store.nextOwnershipRevision := by
  rcases eq_nil_or_concat (store.ledger.map LedgerEvent.revision)
    with nothing | ⟨earlier, last, split⟩
  · rw [nothing]
    exact Nat.succ_pos _
  · have member : last ∈ store.ledger.map LedgerEvent.revision := by simp [split]
    rw [split, concat_eq_append, getLastD_concat]
    exact Nat.lt_succ_of_le (le_max?_getD_of_mem member)

/-- The store after an event that brought the given change. -/
inductive Extended (store : Store) (event : Event) : Option LedgerEvent → Store → Prop
  | unchanged
    : Extended store event none { store with events := store.events ++ [event] }
  | changed {change : LedgerEvent} {ownership : Ownerships}
    (fresh : ∀ earlier ∈ store.ledger, earlier.journalEventId ≠ change.journalEventId
      ∧ earlier.revision ≠ change.revision)
    (settles : Settles store.ownership change.body ownership)
    : Extended store event (some change)
        ⟨store.events ++ [event], store.ledger ++ [change], ownership⟩

/-- An event that was not stored before and now is. -/
structure Appended (sha256 : Sha256) (store : Store) (event : Event) (receipt : Receipt)
    (next : Store) : Prop where
  folded : foldJournal sha256 (store.journal event.operationId ++ [event]) = .ok receipt
  extended : ∃ change, store.ownershipChangeOf sha256 event receipt = .ok change
    ∧ store.Extended event change next

def Fresh (store : Store) (event : Event) : Prop :=
  ∀ other ∈ store.events, other.eventId ≠ event.eventId

instance (store : Store) (event : Event) : Decidable (store.Fresh event) :=
  inferInstanceAs (Decidable (∀ other ∈ store.events, _))

variable {store next : Store} {event : Event} {receipt : Receipt}

theorem fold_ok {events : List Event}
    : Store.fold sha256 events = .ok receipt ↔ foldJournal sha256 events = .ok receipt :=
  mapError_ok

/-- A fresh event is stored when nothing has its sequence, its key and child are in order,
its journal folds, and its change can be made.
-/
theorem appendEvent_fresh (fresh : store.Fresh event)
    : store.appendEvent sha256 event = .ok (receipt, next)
      ↔ ((∀ other ∈ store.journal event.operationId, other.sequence ≠ event.sequence)
          ∧ store.validateKey event = .ok ()
          ∧ store.validateCompensated sha256 event receipt = .ok ())
        ∧ Appended sha256 store event receipt next := by
  have unknown : store.events.find? (fun other => other.eventId = event.eventId) = none := by
    simpa [find?_eq_none, Fresh] using fresh
  unfold appendEvent
  rw [unknown]
  have unnumbered : (∀ existing, (store.journal event.operationId).find?
        (fun other => other.sequence = event.sequence) = some existing → False)
      ↔ ∀ other ∈ store.journal event.operationId, other.sequence ≠ event.sequence := by
    rw [← Option.eq_none_iff_forall_ne_some, find?_eq_none]
    simp
  simp only [↓seq_ok, bind_ok, whenSome_ok, fold_ok, mapError_ok, throw_ok, unnumbered]
  constructor
  · rintro ⟨numbered, key, _, folded, child, change, changes, stored⟩
    cases change with
    | none =>
      cases stored
      exact ⟨⟨numbered, key, child⟩, folded, none, changes, .unchanged⟩
    | some change =>
      simp only [bind_ok, pure_ok, Prod.mk.injEq, persistOwnershipChange_ok] at stored
      obtain ⟨_, ⟨fresh, ownership, settles, rfl⟩, rfl, rfl⟩ := stored
      exact ⟨⟨numbered, key, child⟩, folded, some change, changes, .changed fresh settles⟩
  · rintro ⟨⟨numbered, key, child⟩, folded, change, changes, extended⟩
    refine ⟨numbered, key, receipt, folded, child, change, changes, ?_⟩
    cases extended with
    | unchanged => rfl
    | changed fresh settles =>
      simp only [bind_ok, pure_ok, Prod.mk.injEq, persistOwnershipChange_ok]
      exact ⟨_, ⟨fresh, _, settles, rfl⟩, trivial, rfl⟩

theorem appendEvent_known (known : ¬store.Fresh event)
    (appended : store.appendEvent sha256 event = .ok (receipt, next))
    : next = store := by
  unfold appendEvent at appended
  split at appended
  · simp only [↓seq_ok, bind_ok, pure_ok, Prod.mk.injEq] at appended
    obtain ⟨_, _, _, _, rfl⟩ := appended
    rfl
  · rename_i unknown
    simp only [find?_eq_none, decide_eq_true_eq] at unknown
    exact absurd unknown known

/-- Whose the component of a step is, by the ledger. -/
def owner (sha256 : Sha256) (store : Store) (step : Step) : Option OwnershipReceipt :=
  match ownershipTarget sha256 step with
  | .ok target => store.ownership.get? target.key
  | .error _ => none

theorem owner_of_target (owned : ownershipTarget sha256 step = .ok target)
    : store.owner sha256 step = store.ownership.get? target.key := by
  unfold owner
  rw [owned]

/-- The steps of every operation that was started. -/
def plannedSteps (store : Store) : List Step :=
  store.events.flatMap (fun event =>
    match event.body with
    | .started started => started.steps
    | _ => [])

/-- The ledger folds to the stored ownerships, each entry comes from a stored event, and
each owner was recorded under the key of a planned step.
-/
structure Kept (sha256 : Sha256) (store : Store) : Prop where
  folds : foldLedger store.ledger = .ok store.ownership
  sourced : ∀ entry ∈ store.ledger, ∃ event ∈ store.events,
    event.eventId = entry.journalEventId
  planned : ∀ key owner, store.ownership.get? key = some owner → owner.target.key = key
    ∧ ∃ step ∈ store.plannedSteps, ownershipTarget sha256 step = .ok owner.target

section

variable {stepIndex attempt : Nat} {disposition : EffectDisposition}

/-- An event without an effect brings no change. -/
theorem ownershipChangeOf_none (carried : journalEffect event.body = none)
    : store.ownershipChangeOf sha256 event receipt = .ok none := by
  unfold ownershipChangeOf ownershipTargetForJournalEvent
  rw [carried]
  rfl

/-- An event with an effect brings the change that is derived for the step's owner. -/
theorem ownershipChangeOf_effect
    (carried : journalEffect event.body = some (stepIndex, attempt, disposition))
    (found : journalEffectReceipt event receipt stepIndex attempt disposition = .ok effect)
    (owned : ownershipTarget sha256 effect.step = .ok target)
    : store.ownershipChangeOf sha256 event receipt
      = deriveLedgerEvent sha256 store.nextOwnershipRevision event receipt
        (store.ownership.get? target.key) := by
  have asks : ownershipTargetForJournalEvent sha256 event receipt = .ok (some target) := by
    unfold ownershipTargetForJournalEvent
    rw [carried]
    exact bind_ok.mpr ⟨effect, found, bind_ok.mpr ⟨target, owned, rfl⟩⟩
  unfold ownershipChangeOf
  rw [asks]
  rfl

/-- The effect of an accepted event: the folded receipt ends with it, its step was planned,
and its component is known.
-/
theorem effect_of_accepted
    (carried : journalEffect event.body = some (stepIndex, attempt, disposition))
    (folded : foldJournal sha256 (store.journal event.operationId ++ [event]) = .ok receipt)
    : ∃ effect target, Recorded event receipt effect
      ∧ journalEffectReceipt event receipt stepIndex attempt disposition = .ok effect
      ∧ ownershipTarget sha256 effect.step = .ok target
      ∧ effect.step ∈ store.plannedSteps := by
  obtain ⟨effect, recorded, index, numbered, disposed⟩ := recorded_of_effect carried folded
  obtain ⟨target, owned⟩ :=
    Step.ownershipTarget_of_valid recorded.valid recorded.mutation
  refine ⟨effect, target, recorded, ?_, owned, ?_⟩
  · exact journalEffectReceipt_ok.mpr
      ⟨⟨recorded.operation, recorded.sequence, recorded.time⟩, recorded.last, index, numbered,
        disposed⟩
  · obtain ⟨first, member, started, opened, steps⟩ := foldJournal_plan folded
    rcases mem_append.mp member with stored | last
    · refine mem_flatMap.mpr ⟨first, mem_of_mem_filter stored, ?_⟩
      simpa [opened, steps] using recorded.planned
    · rw [mem_singleton.mp last] at opened
      rw [opened] at carried
      cases carried

/-- A change was derived from an effect of the appended event. -/
theorem derived_of_change
    (folded : foldJournal sha256 (store.journal event.operationId ++ [event]) = .ok receipt)
    (changes : store.ownershipChangeOf sha256 event receipt = .ok (some change))
    : ∃ stepIndex attempt disposition effect target body,
      Recorded event receipt effect
      ∧ ownershipTarget sha256 effect.step = .ok target
      ∧ effect.step ∈ store.plannedSteps
      ∧ Owed (receipt.claim target effect event stepIndex attempt) receipt.operationKind
        disposition (store.ownership.get? target.key) (some body)
      ∧ event.ledgerEvent store.nextOwnershipRevision stepIndex attempt body = change := by
  cases carried : journalEffect event.body with
  | none =>
    rw [ownershipChangeOf_none carried] at changes
    cases changes
  | some found =>
    obtain ⟨stepIndex, attempt, disposition⟩ := found
    obtain ⟨effect, target, recorded, received, owned, planned⟩ :=
      effect_of_accepted carried folded
    rw [ownershipChangeOf_effect carried received owned] at changes
    obtain ⟨_, _, _, _, again, ownedAgain, _, _, owed, shown⟩ :=
      (deriveLedgerEvent_ok carried).mp changes
    cases received.symm.trans again
    cases owned.symm.trans ownedAgain
    obtain ⟨body, rfl, built⟩ := Option.map_eq_some_iff.mp shown
    exact ⟨stepIndex, attempt, disposition, effect, target, body, recorded, owned, planned,
      owed, built⟩

/-- Witness: the change extends the fold of the ledger as it changes the ownerships. -/
theorem Kept.append (kept : store.Kept sha256)
    (appended : Appended sha256 store event receipt next)
    : next.Kept sha256 := by
  obtain ⟨folded, change, changes, extended⟩ := appended
  have grows {ledger : List LedgerEvent} {ownership : Ownerships} {step : Step}
      (planned : step ∈ store.plannedSteps)
      : step ∈ (Store.mk (store.events ++ [event]) ledger ownership).plannedSteps := by
    unfold plannedSteps at planned ⊢
    rw [flatMap_append]
    exact mem_append_left _ planned
  have sourced (entry : LedgerEvent) (member : entry ∈ store.ledger)
      : ∃ source ∈ store.events ++ [event], source.eventId = entry.journalEventId := by
    obtain ⟨source, stored, same⟩ := kept.sourced entry member
    exact ⟨source, mem_append_left _ stored, same⟩
  cases extended with
  | unchanged =>
    refine ⟨kept.folds, sourced, ?_⟩
    intro key owner held
    obtain ⟨keyed, step, planned, owned⟩ := kept.planned key owner held
    exact ⟨keyed, step, grows planned, owned⟩
  | @changed change ownership unique settles =>
    obtain ⟨stepIndex, attempt, disposition, effect, target, body, recorded, owned, listed,
      owed, rfl⟩ := derived_of_change folded changes
    refine ⟨?_, ?_, ?_⟩
    · refine foldLedgerFrom_append.mpr ⟨store.ownership, kept.folds, ?_⟩
      refine LedgerEvent.apply_of_settles store.lastRevision_lt recorded.past ?_ ?_ settles
      · rintro owner rfl
        obtain ⟨rfl, _⟩ := owed.claimed
        exact ⟨recorded.operation, rfl, rfl, rfl, rfl⟩
      · rintro owner consumed rfl
        obtain ⟨_, rfl, consumes⟩ := owed.released
        exact consumes
    · intro entry member
      rcases mem_append.mp member with earlier | last
      · exact sourced entry earlier
      · rw [mem_singleton.mp last]
        exact ⟨event, by simp, rfl⟩
    · intro key owner held
      rcases settles.get? held with before | claims
      · obtain ⟨keyed, step, planned, known⟩ := kept.planned key owner before
        exact ⟨keyed, step, grows planned, known⟩
      · obtain ⟨rfl, same⟩ := claims
        obtain rfl : body = .claimed owner := same
        obtain ⟨rfl, _⟩ := owed.claimed
        exact ⟨rfl, effect.step, grows listed, owned⟩

end

/-- What is owed to the ledger can be stored under the key of the effect's component. -/
theorem Kept.settles (kept : store.Kept sha256) (claims : claim.target = target)
    (owed : Owed claim kind disposition (store.ownership.get? target.key) (some body))
    : ∃ ownership, Settles store.ownership body ownership := by
  cases body with
  | claimed owner =>
    obtain ⟨rfl, _, free⟩ := owed.claimed
    exact ⟨_, .claimed (claims ▸ free)⟩
  | released owner consumed =>
    obtain ⟨held, _⟩ := owed.released
    obtain ⟨keyed, _⟩ := kept.planned _ _ held
    exact ⟨_, .released (keyed ▸ held)⟩

/-- A derived change can be stored with its event. -/
theorem Kept.extends (kept : store.Kept sha256) (fresh : store.Fresh event)
    (folded : foldJournal sha256 (store.journal event.operationId ++ [event]) = .ok receipt)
    {change : Option LedgerEvent}
    (changes : store.ownershipChangeOf sha256 event receipt = .ok change)
    : ∃ next, store.Extended event change next := by
  cases change with
  | none => exact ⟨_, .unchanged⟩
  | some change =>
    obtain ⟨_, _, _, _, target, body, _, _, _, owed, rfl⟩ := derived_of_change folded changes
    obtain ⟨ownership, settles⟩ := kept.settles rfl owed
    refine ⟨⟨store.events ++ [event], store.ledger ++ [_], ownership⟩,
      .changed ?_ settles⟩
    intro earlier member
    obtain ⟨source, stored, same⟩ := kept.sourced earlier member
    refine ⟨?_, (lt_nextOwnershipRevision member).ne⟩
    rw [← same]
    exact fresh source stored

/-- A recorded removal consumes the ownership of its component, and a recorded creation
claims it.
-/
theorem Appended.custody (appended : Appended sha256 store event receipt next)
    (kept : store.Kept sha256)
    (carried : journalEffect event.body = some (stepIndex, attempt, disposition))
    : ∃ effect, receipt.effects.getLast? = some effect ∧ effect.stepIndex = stepIndex
      ∧ effect.attempt = attempt ∧ effect.disposition = disposition
      ∧ (disposition = .removedDureOwned
        → (store.owner sha256 effect.step).isSome ∧ next.owner sha256 effect.step = none)
      ∧ (disposition = .createdDureOwned
        → ∃ owner ∈ next.owner sha256 effect.step,
          owner.ownerOperationId = event.operationId ∧ owner.ownerEventId = event.eventId
          ∧ owner.ownerStepIndex = stepIndex ∧ owner.ownerAttempt = attempt) := by
  obtain ⟨folded, change, changes, extended⟩ := appended
  obtain ⟨effect, target, recorded, received, owned, _⟩ := effect_of_accepted carried folded
  rw [ownershipChangeOf_effect carried received owned] at changes
  obtain ⟨_, _, _, body, again, ownedAgain, _, _, owed, rfl⟩ :=
    (deriveLedgerEvent_ok carried).mp changes
  cases received.symm.trans again
  cases owned.symm.trans ownedAgain
  obtain ⟨_, last, index, numbered, disposed⟩ := journalEffectReceipt_ok.mp received
  refine ⟨effect, last, index, numbered, disposed, ?_, ?_⟩
  · rintro rfl
    obtain ⟨owner, held, rfl⟩ := owed.removal
    obtain ⟨keyed, _⟩ := kept.planned _ _ held
    rw [owner_of_target owned, owner_of_target owned, held]
    refine ⟨rfl, ?_⟩
    cases extended with
    | changed _ settles =>
      cases settles
      rw [OrderedMap.get?_erase, if_pos keyed]
  · rintro rfl
    obtain ⟨_, rfl⟩ := owed.creation
    rw [owner_of_target owned]
    cases extended with
    | changed _ settles =>
      cases settles
      exact ⟨_, OrderedMap.get?_insert_self _ _ _, recorded.operation, rfl, rfl, rfl⟩

/-- An event without an effect leaves the ownerships as they are. -/
theorem Appended.unowned (appended : Appended sha256 store event receipt next)
    (carried : journalEffect event.body = none)
    : next = { store with events := store.events ++ [event] } := by
  obtain ⟨_, change, changes, extended⟩ := appended
  rw [ownershipChangeOf_none carried] at changes
  cases changes
  cases extended
  rfl

theorem empty_kept : Store.empty.Kept sha256 where
  folds := rfl
  sourced := by simp [empty]
  planned := by simp [empty]

/-- Witness: a refused or repeated event leaves the store, any other one extends it. -/
theorem machine_kept (appends : List Event)
    : ((machine sha256).after empty appends).Kept sha256 := by
  refine Machine.after_invariant (machine sha256) ?_ appends empty_kept
  intro store event kept
  cases stored : store.appendEvent sha256 event with
  | error refusal => simpa [machine, stored] using kept
  | ok result =>
    obtain ⟨receipt, next⟩ := result
    simp only [machine, stored]
    by_cases fresh : store.Fresh event
    · exact kept.append ((appendEvent_fresh fresh).mp stored).2
    · exact appendEvent_known fresh stored ▸ kept

end Store

end Dure.Plugin
