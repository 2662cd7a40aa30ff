import Dure.Plugin.Effects

/-! The change that an effect brings to the ownership ledger, and how the fold of a ledger
is extended by one event.
-/

namespace Dure.Plugin

open Library Check
open Checkout (OperationId)

variable {sha256 : Sha256} {change : Option LedgerBody} {previousRevision : Nat} {step : Step}
  {receipt : Receipt} {command : Command} {event : Event}

/-- A checked mutation is about a component in the scope of its registration target. -/
theorem Step.owned_of_checked (checked : step.validateCommand step.command = .ok ())
    (mutation : step.command.isMutation = true)
    : ∃ component scope, step.owned = .ok (component, scope)
      ∧ registrationTargetMatches step.executable scope step.registrationTarget ≠ false := by
  unfold Step.owned
  generalize step.command = command at checked mutation
  unfold Step.validateCommand Step.validateMarketplace Step.validateSelector
    Step.validateScope at checked
  cases command with
  | listMarketplaces | listPlugins => cases mutation
  | addMarketplace source scope output =>
    exact ⟨.marketplace, scope, rfl, rejectIf_ok.mp checked⟩
  | removeMarketplace marketplace scope output =>
    simp only [seq_ok, rejectIf_ok] at checked
    exact ⟨.marketplace, scope, seq_ok.mpr ⟨rejectIf_ok.mpr checked.1, rfl⟩, checked.2⟩
  | installPlugin selector scope output =>
    simp only [seq_ok, rejectIf_ok] at checked
    exact ⟨.plugin, scope, seq_ok.mpr ⟨rejectIf_ok.mpr checked.1, rfl⟩, checked.2⟩
  | removePlugin selector scope preserveData output =>
    simp only [↓seq_ok, rejectIf_ok] at checked
    exact ⟨.plugin, scope, seq_ok.mpr ⟨rejectIf_ok.mpr checked.1, rfl⟩, checked.2.1⟩

theorem Step.ownershipTarget_of_valid (valid : step.validate kind = .ok ())
    (mutation : step.command.isMutation = true)
    : ∃ target, ownershipTarget sha256 step = .ok target := by
  unfold Step.validate at valid
  simp only [↓seq_ok, rejectIf_ok] at valid
  obtain ⟨matched, _, _, checked⟩ := valid
  obtain ⟨component, scope, owned, registered⟩ := owned_of_checked checked mutation
  refine ⟨⟨sha256 (step.ownershipIdentity component scope), component⟩, ?_⟩
  unfold ownershipTarget
  simp only [↓seq_ok, bind_ok, rejectIf_ok, pure_ok]
  exact ⟨matched, _, owned, registered, rfl⟩

theorem Step.lifecycle_of_valid (valid : step.validate kind = .ok ())
    : Step.againstLifecycle step.command kind = false := by
  unfold Step.validate at valid
  simp only [↓seq_ok, rejectIf_ok, Bool.not_eq_true] at valid
  exact valid.2.2.1

/-- What an effect owes to the ledger. -/
inductive Owed (claim : OwnershipReceipt)
    : OperationKind → EffectDisposition → Option OwnershipReceipt → Option LedgerBody → Prop
  | created : Owed claim .install .createdDureOwned none (some (.claimed claim))
  | removed {owner : OwnershipReceipt}
    : Owed claim .uninstall .removedDureOwned (some owner)
        (some (.released owner .removedDureOwned))
  | unchanged {owner : OwnershipReceipt}
    : Owed claim .uninstall .noChange (some owner) (some (.released owner .noChange))
  | preservedOwned {owner : OwnershipReceipt}
    : Owed claim .install .preservedDureOwned (some owner) none
  | preservedExternal : Owed claim .install .preservedExternal none none

theorem ownershipChange_ok
    : ownershipChange kind disposition existing claim = .ok change
      ↔ Owed claim kind disposition existing change := by
  constructor
  · intro changed
    unfold ownershipChange at changed
    split at changed <;> cases changed
    · exact .created
    · exact .removed
    · exact .unchanged
    · exact .preservedOwned
    · exact .preservedExternal
  · intro owed
    cases owed <;> rfl

section

variable {claim owner : OwnershipReceipt} {kind : OperationKind}
  {disposition consumed : EffectDisposition} {existing : Option OwnershipReceipt}

theorem Owed.claimed (owed : Owed claim kind disposition existing (some (.claimed owner)))
    : owner = claim ∧ disposition = .createdDureOwned ∧ existing = none := by
  cases owed
  exact ⟨rfl, rfl, rfl⟩

theorem Owed.released
    (owed : Owed claim kind disposition existing (some (.released owner consumed)))
    : existing = some owner ∧ consumed = disposition
      ∧ (disposition = .removedDureOwned ∨ disposition = .noChange) := by
  cases owed
  · exact ⟨rfl, rfl, Or.inl rfl⟩
  · exact ⟨rfl, rfl, Or.inr rfl⟩

theorem Owed.removal (owed : Owed claim kind .removedDureOwned existing change)
    : ∃ owner, existing = some owner
      ∧ change = some (.released owner .removedDureOwned) := by
  cases owed with
  | removed => exact ⟨_, rfl, rfl⟩

theorem Owed.creation (owed : Owed claim kind .createdDureOwned existing change)
    : existing = none ∧ change = some (.claimed claim) := by
  cases owed with
  | created => exact ⟨rfl, rfl⟩

end

theorem journalEffectReceipt_ok
    : journalEffectReceipt event receipt stepIndex attempt disposition = .ok effect
      ↔ (receipt.operationId = event.operationId ∧ receipt.lastSequence = event.sequence
          ∧ receipt.updatedAtMs = event.recordedAtMs)
        ∧ receipt.effects.getLast? = some effect
        ∧ effect.stepIndex = stepIndex ∧ effect.attempt = attempt
        ∧ effect.disposition = disposition := by
  unfold journalEffectReceipt
  simp only [↓seq_ok, rejectIf_ok, not_or, ne_eq, not_not]
  refine and_congr_right (fun _ => ?_)
  cases receipt.effects.getLast? with
  | none => simp
  | some last =>
    simp only [seq_ok, rejectIf_ok, not_or, not_not, pure_ok, Option.some.injEq]
    constructor
    · rintro ⟨matched, rfl⟩
      exact ⟨rfl, matched⟩
    · rintro ⟨rfl, matched⟩
      exact ⟨matched, rfl⟩

theorem deriveLedgerEvent_ok {revision : Nat} {existing : Option OwnershipReceipt}
    {stepIndex attempt : Nat} {disposition : EffectDisposition} {change : Option LedgerEvent}
    (carried : journalEffect event.body = some (stepIndex, attempt, disposition))
    : deriveLedgerEvent sha256 revision event receipt existing = .ok change
      ↔ revision ≠ 0
        ∧ ∃ effect target body,
          journalEffectReceipt event receipt stepIndex attempt disposition = .ok effect
          ∧ ownershipTarget sha256 effect.step = .ok target
          ∧ (∀ owner ∈ existing, owner.target = target)
          ∧ classifyMutation effect.step.command receipt.pluginVersion
            (provenOwnership existing) effect.before.state effect.after.state
            = .ok disposition
          ∧ Owed (receipt.claim target effect event stepIndex attempt)
            receipt.operationKind disposition existing body
          ∧ body.map (event.ledgerEvent revision stepIndex attempt) = change := by
  unfold deriveLedgerEvent
  rw [carried]
  simp only [↓seq_ok, bind_ok, rejectIf_ok, pure_ok, mapError_ok, ownershipChange_ok,
    not_exists, not_and, ne_eq, not_not]
  refine and_congr_right (fun _ => ?_)
  constructor
  · rintro ⟨effect, found, target, owned, same, _, classified, rfl, body, owed, rfl⟩
    exact ⟨effect, target, body, found, owned, same, classified, owed, rfl⟩
  · rintro ⟨effect, target, body, found, owned, same, classified, owed, rfl⟩
    exact ⟨effect, found, target, owned, same, _, classified, rfl, body, owed, rfl⟩

theorem Step.kind_of_lifecycle (mutation : command.isMutation = true)
    (lifecycle : Step.againstLifecycle command kind = false)
    : kind = if command.isRemoval = true then .uninstall else .install := by
  cases kind <;> cases command <;>
    simp_all [Command.isMutation, Command.isRemoval, Step.againstLifecycle]

theorem provenOwnership_owned
    : provenOwnership existing = .dureOwned ↔ ∃ owner, existing = some owner := by
  cases existing <;> simp [provenOwnership]

theorem provenOwnership_unproven : provenOwnership existing = .unproven ↔ existing = none := by
  cases existing <;> simp [provenOwnership]

/-- The two case tables agree but for a component that is owned and was created again.
Witness: one case per classified transition; the lifecycle fixes the kind of operation.
-/
theorem Classified.owed_iff (claim : OwnershipReceipt)
    (classified : Classified command (provenOwnership existing) before after disposition)
    (mutation : command.isMutation = true)
    (lifecycle : Step.againstLifecycle command kind = false)
    (removes : command.isRemoval = true → provenOwnership existing = .dureOwned)
    : (∃ body, Owed claim kind disposition existing body)
      ↔ ¬(disposition = .createdDureOwned ∧ existing.isSome) := by
  have kinds := Step.kind_of_lifecycle mutation lifecycle
  cases classified with
  | created adds =>
    rw [adds] at kinds
    subst kinds
    cases existing with
    | none => exact iff_of_true ⟨_, .created⟩ (by simp)
    | some owner =>
      refine iff_of_false ?_ (by simp)
      rintro ⟨_, owed⟩
      cases owed
  | preservedOwned adds owned =>
    rw [adds] at kinds
    subst kinds
    obtain ⟨owner, rfl⟩ := provenOwnership_owned.mp owned
    exact iff_of_true ⟨_, .preservedOwned⟩ (by simp)
  | preservedExternal adds foreign =>
    rw [adds] at kinds
    subst kinds
    obtain rfl := provenOwnership_unproven.mp foreign
    exact iff_of_true ⟨_, .preservedExternal⟩ (by simp)
  | removed removal owned =>
    rw [removal] at kinds
    subst kinds
    obtain ⟨owner, rfl⟩ := provenOwnership_owned.mp owned
    exact iff_of_true ⟨_, .removed⟩ (by simp)
  | unchanged removal =>
    rw [removal] at kinds
    subst kinds
    obtain ⟨owner, rfl⟩ := provenOwnership_owned.mp (removes removal)
    exact iff_of_true ⟨_, .unchanged⟩ (by simp)

/-- What a change does to the ownerships. -/
inductive Settles (ownership : Ownerships) : LedgerBody → Ownerships → Prop
  | claimed {owner : OwnershipReceipt} (free : ownership.get? owner.target.key = none)
    : Settles ownership (.claimed owner) (ownership.insert owner.target.key owner)
  | released {owner : OwnershipReceipt} {disposition : EffectDisposition}
    (held : ownership.get? owner.target.key = some owner)
    : Settles ownership (.released owner disposition) (ownership.erase owner.target.key)

/-- What is held afterwards was held before or has just been claimed. -/
theorem Settles.get? {ownership next : Ownerships} {change : LedgerBody}
    (settles : Settles ownership change next) (held : next.get? key = some owner)
    : ownership.get? key = some owner
      ∨ owner.target.key = key ∧ change = .claimed owner := by
  cases settles with
  | claimed free =>
    rw [OrderedMap.get?_insert] at held
    split_ifs at held with same
    · cases held
      exact Or.inr ⟨same, rfl⟩
    · exact Or.inl held
  | released holds =>
    rw [OrderedMap.get?_erase] at held
    split_ifs at held with same
    exact Or.inl held

theorem Store.persistOwnershipChange_ok {store next : Store} {change : LedgerEvent}
    : store.persistOwnershipChange change = .ok next
      ↔ (∀ earlier ∈ store.ledger, earlier.journalEventId ≠ change.journalEventId
          ∧ earlier.revision ≠ change.revision)
        ∧ ∃ ownership, Settles store.ownership change.body ownership
          ∧ { store with ledger := store.ledger ++ [change], ownership := ownership }
            = next := by
  unfold persistOwnershipChange
  simp only [↓seq_ok, rejectIf_ok, not_exists, not_and, not_or, ne_eq]
  refine and_congr_right (fun _ => ?_)
  generalize change.body = body
  cases body with
  | claimed owner =>
    simp only [seq_ok, rejectIf_ok, not_not, pure_ok]
    constructor
    · rintro ⟨free, rfl⟩
      exact ⟨_, .claimed free, rfl⟩
    · rintro ⟨_, settles, rfl⟩
      cases settles with
      | claimed free => exact ⟨free, rfl⟩
  | released owner disposition =>
    simp only [seq_ok, rejectIf_ok, not_not, pure_ok]
    constructor
    · rintro ⟨held, rfl⟩
      exact ⟨_, .released held, rfl⟩
    · rintro ⟨_, settles, rfl⟩
      cases settles with
      | released held => exact ⟨held, rfl⟩

theorem foldLedgerFrom_append
    : foldLedgerFrom previousRevision projection (events ++ [last]) = .ok next
      ↔ ∃ middle, foldLedgerFrom previousRevision projection events = .ok middle
        ∧ last.apply ((events.map LedgerEvent.revision).getLastD previousRevision) middle
          = .ok next := by
  induction events generalizing previousRevision projection with
  | nil => simp [foldLedgerFrom]
  | cons first rest ih =>
    simp only [List.cons_append, foldLedgerFrom, bind_ok, ih, List.map_cons,
      List.getLastD_cons]
    constructor
    · rintro ⟨second, here, middle, later, ended⟩
      exact ⟨middle, ⟨second, here, later⟩, ended⟩
    · rintro ⟨middle, ⟨second, here, later⟩, ended⟩
      exact ⟨second, here, middle, later, ended⟩

theorem LedgerEvent.apply_of_settles {event : LedgerEvent}
    (later : previousRevision < event.revision) (past : 0 ≤ event.recordedAtMs)
    (claims : ∀ owner, event.body = .claimed owner → event.claims owner)
    (consumes : ∀ owner disposition, event.body = .released owner disposition
      → disposition = .removedDureOwned ∨ disposition = .noChange)
    (settles : Settles projection event.body next)
    : event.apply previousRevision projection = .ok next := by
  unfold LedgerEvent.apply
  simp only [↓seq_ok, rejectIf_ok]
  refine ⟨by omega, by omega, ?_⟩
  generalize event.body = body at claims consumes settles
  cases settles with
  | @claimed owner free =>
    simp only [seq_ok, rejectIf_ok, pure_ok, not_not, ne_eq]
    exact ⟨claims owner rfl, free, trivial⟩
  | @released owner disposition held =>
    simp only [↓seq_ok, rejectIf_ok, pure_ok, not_not, ne_eq, not_and_or, held]
    exact ⟨consumes owner disposition rfl, by simp, trivial, trivial⟩

end Dure.Plugin
