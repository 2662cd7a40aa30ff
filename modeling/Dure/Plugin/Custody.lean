import Dure.Plugin.LedgerRuns
import Dure.Plugin.Resumption

/-! The ledger records every effect that the executor decides on, unless a component that it
already counts as owned was created again.
-/

namespace Dure.Plugin

open Library Check Sample
open Checkout (OperationId)

variable {sha256 : Sha256}

/-- Planned steps with one key are about one component. -/
def KeysApart (sha256 : Sha256) (steps : List Step) : Prop :=
  ∀ left ∈ steps, ∀ right ∈ steps,
    ∀ target ∈ (ownershipTarget sha256 left).toOption,
      ∀ other ∈ (ownershipTarget sha256 right).toOption,
        target.key = other.key → target = other

instance (sha256 : Sha256) (steps : List Step) : Decidable (KeysApart sha256 steps) :=
  inferInstanceAs (Decidable (∀ left ∈ steps, _))

namespace Store

variable {store next : Store} {event : Event} {receipt : Receipt} {effect : EffectReceipt}
  {ownership : ExistingOwnership}

/-- An effect that the executor decided on with the ledger's answer about its step, in an
event that the journal's fold accepts.
-/
structure Decided (sha256 : Sha256) (store : Store) (event : Event) (receipt : Receipt)
    (effect : EffectReceipt) (ownership : ExistingOwnership) : Prop where
  carried : journalEffect event.body
    = some (effect.stepIndex, effect.attempt, effect.disposition)
  accepted
    : foldJournal sha256 (store.journal event.operationId ++ [event]) = .ok receipt
  decided : EffectDecided ownership receipt effect
  answered : ownership = provenOwnership (store.owner sha256 effect.step)
  removes : effect.step.command.isRemoval = true → ownership = .dureOwned

/-- A component that the ledger counts as owned was created again. -/
def Recreated (sha256 : Sha256) (store : Store) (effect : EffectReceipt) : Prop :=
  effect.disposition = .createdDureOwned ∧ (store.owner sha256 effect.step).isSome

/-- An owner that is found under a step's key owns the step's component. -/
theorem Kept.target_eq (kept : store.Kept sha256)
    (apart : KeysApart sha256 store.plannedSteps) {step : Step} {target : OwnershipTarget}
    {owner : OwnershipReceipt}
    (planned : step ∈ store.plannedSteps) (owned : ownershipTarget sha256 step = .ok target)
    (held : store.ownership.get? target.key = some owner)
    : owner.target = target := by
  obtain ⟨keyed, other, listed, known⟩ := kept.planned _ _ held
  exact apart other listed step planned _ (by rw [known]; rfl) _ (by rw [owned]; rfl) keyed

/-- The change of a decided effect can be derived unless its component was created again. -/
theorem Decided.derives (decided : Decided sha256 store event receipt effect ownership)
    (kept : store.Kept sha256) (apart : KeysApart sha256 store.plannedSteps)
    : (∃ change, store.ownershipChangeOf sha256 event receipt = .ok change)
      ↔ ¬store.Recreated sha256 effect := by
  obtain ⟨found, target, recorded, received, owned, planned⟩ :=
    effect_of_accepted decided.carried decided.accepted
  cases recorded.last.symm.trans decided.decided.last
  have classified := decided.decided.classified
  have removes := decided.removes
  rw [decided.answered, owner_of_target owned] at classified removes
  have owes := (classifyMutation_ok classified).owed_iff
    (receipt.claim target effect event effect.stepIndex effect.attempt) recorded.mutation
    (Step.lifecycle_of_valid recorded.valid) removes
  rw [ownershipChangeOf_effect decided.carried received owned, Recreated,
    owner_of_target owned, ← owes]
  simp only [deriveLedgerEvent_ok decided.carried]
  constructor
  · rintro ⟨_, _, again, _, body, receivedAgain, ownedAgain, _, _, owed, _⟩
    cases received.symm.trans receivedAgain
    cases owned.symm.trans ownedAgain
    exact ⟨body, owed⟩
  · rintro ⟨body, owed⟩
    refine ⟨_, Nat.succ_ne_zero _, effect, target, body, received, owned, ?_, classified, owed,
      rfl⟩
    intro owner held
    exact kept.target_eq apart planned owned held

/-- A decided effect is stored unless its component was created again. -/
theorem Decided.appends (decided : Decided sha256 store event receipt effect ownership)
    (fresh : store.Fresh event) (kept : store.Kept sha256)
    (apart : KeysApart sha256 store.plannedSteps)
    : (∃ result, store.appendEvent sha256 event = .ok result)
      ↔ ¬store.Recreated sha256 effect := by
  rw [← decided.derives kept apart]
  constructor
  · rintro ⟨⟨folded, next⟩, stored⟩
    obtain ⟨_, accepted, change, changes, _⟩ := (appendEvent_fresh fresh).mp stored
    cases accepted.symm.trans decided.accepted
    exact ⟨change, changes⟩
  · rintro ⟨change, changes⟩
    obtain ⟨next, extended⟩ := kept.extends fresh decided.accepted changes
    refine ⟨(receipt, next), (appendEvent_fresh fresh).mpr
      ⟨⟨?_, ?_, ?_⟩, decided.accepted, change, changes, extended⟩⟩
    · obtain ⟨_, _, _, _, _, read, placed, _⟩ :=
        foldJournal_append (journal_ne_nil_of_effect decided.carried decided.accepted)
          decided.accepted
      intro other member
      have numbered := readJournal_sequence read other member
      have position := placed.sequence
      omega
    · have carried := decided.carried
      unfold validateKey
      split
      · rename_i opened
        rw [opened] at carried
        cases carried
      · rfl
    · have carried := decided.carried
      unfold validateCompensated
      split
      · rename_i compensated
        rw [compensated] at carried
        cases carried
      · rfl

/-- The executor counts a component as owned when the ledger does, and removes no other. -/
theorem ownershipForStep_answers
    (asked : ownershipForStep sha256 store receipt step = .ok ownership)
    : ownership = provenOwnership (store.owner sha256 step)
      ∧ (step.command.isRemoval = true → ownership = .dureOwned) := by
  unfold ownershipForStep at asked
  simp only [bind_ok, mapError_ok] at asked
  obtain ⟨target, owned, asked⟩ := asked
  rw [owner_of_target owned]
  cases held : store.ownership.get? target.key with
  | none =>
    simp only [held, ↓seq_ok, bind_ok, rejectIf_ok, pure_ok, not_and, ne_eq, not_not] at asked
    obtain ⟨_, rfl, removes, rfl⟩ := asked
    exact ⟨rfl, removes⟩
  | some owner =>
    simp only [held, ↓seq_ok, bind_ok, rejectIf_ok, pure_ok, not_and, ne_eq, not_not] at asked
    obtain ⟨_, _, _, _, rfl, _, rfl⟩ := asked
    exact ⟨rfl, fun _ => rfl⟩

theorem Decided.carried_of_last
    (carried : journalEffect event.body = some (stepIndex, attempt, disposition))
    (accepted : foldJournal sha256 (store.journal event.operationId ++ [event]) = .ok receipt)
    (decided : EffectDecided ownership receipt effect)
    : journalEffect event.body
      = some (effect.stepIndex, effect.attempt, effect.disposition) := by
  obtain ⟨found, recorded, rfl, rfl, rfl⟩ := recorded_of_effect carried accepted
  cases recorded.last.symm.trans decided.last
  exact carried

section

variable {prior : Receipt} {checkpoint : StepCheckpoint} {step : Step}
  {stepIndex attempt : Nat} {disposition : EffectDisposition}

/-- An effect that is recorded after its command was run was decided with the answer that
the ledger gave before.
-/
theorem decided_of_completed
    (folded : foldJournal sha256 (asked.journal event.operationId) = .ok prior)
    (due : prior.recovery = .inspectBeforeRetry checkpoint)
    (found : prior.steps[checkpoint.stepIndex]? = some step)
    (answer : ownershipForStep sha256 asked prior step = .ok ownership)
    (completed : completeApplyStep sha256 step.command prior.pluginVersion ownership
      checkpoint outcome after = .ok [observed.body, event.body])
    (operation : observed.operationId = event.operationId)
    (stored : Appended sha256 asked observed watched store)
    (carried : journalEffect event.body = some (stepIndex, attempt, disposition))
    (accepted : foldJournal sha256 (store.journal event.operationId ++ [event]) = .ok receipt)
    : ∃ effect, Decided sha256 store event receipt effect ownership := by
  obtain ⟨opened, _⟩ := completeApplyStep_effect completed carried
  obtain rfl := stored.unowned (by rw [opened]; rfl)
  have extended
      : journal { asked with events := asked.events ++ [observed] } event.operationId
        = asked.journal event.operationId ++ [observed] := by
    simp [journal, operation]
  rw [extended] at accepted
  obtain ⟨effect, decided, rfl⟩ :=
    completed_decided folded due found completed carried accepted
  rw [← extended] at accepted
  obtain ⟨answered, removes⟩ := ownershipForStep_answers answer
  exact ⟨effect, Decided.carried_of_last carried accepted decided, accepted, decided, answered,
    removes⟩

/-- An effect that is recorded after its step was inspected was decided with the ledger's
answer.
-/
theorem decided_of_reconciled
    (folded : foldJournal sha256 (store.journal event.operationId) = .ok prior)
    (due : prior.recovery = .inspectBeforeRetry checkpoint)
    (found : prior.steps[checkpoint.stepIndex]? = some step)
    (answer : ownershipForStep sha256 store prior step = .ok ownership)
    (reconciled : reconcileApplyStep sha256 step.command prior.pluginVersion ownership
      checkpoint inspected = .ok event.body)
    (carried : journalEffect event.body = some (stepIndex, attempt, disposition))
    (accepted : foldJournal sha256 (store.journal event.operationId ++ [event]) = .ok receipt)
    : ∃ effect, Decided sha256 store event receipt effect ownership := by
  obtain ⟨effect, decided, rfl⟩ :=
    reconciled_decided folded due found reconciled carried accepted
  obtain ⟨answered, removes⟩ := ownershipForStep_answers answer
  exact ⟨effect, Decided.carried_of_last carried accepted decided, accepted, decided, answered,
    removes⟩

end

/-- The ledger folds to the stored ownerships, one under each key, whatever was appended. A
decided effect is stored unless its component was created again. What is stored releases a
removed component, which was owned, and gives a created one to its operation.
-/
theorem ownership_ledger_records_effects (sha256 : Sha256) (appends : List Event)
    : let store := (machine sha256).after empty appends
      foldLedger store.ledger = .ok store.ownership
      ∧ store.ownership.keys.Nodup
      ∧ (∀ key owner, store.ownership.get? key = some owner → owner.target.key = key)
      ∧ (KeysApart sha256 store.plannedSteps → ∀ event receipt effect ownership,
        Decided sha256 store event receipt effect ownership
        → ((∃ change, store.ownershipChangeOf sha256 event receipt = .ok change)
            ↔ ¬store.Recreated sha256 effect)
          ∧ (store.Fresh event
            → ((∃ result, store.appendEvent sha256 event = .ok result)
              ↔ ¬store.Recreated sha256 effect)))
      ∧ ∀ event receipt next stepIndex attempt disposition, store.Fresh event
        → store.appendEvent sha256 event = .ok (receipt, next)
        → journalEffect event.body = some (stepIndex, attempt, disposition)
        → ∃ effect, receipt.effects.getLast? = some effect ∧ effect.stepIndex = stepIndex
          ∧ effect.attempt = attempt ∧ effect.disposition = disposition
          ∧ (disposition = .removedDureOwned
            → (store.owner sha256 effect.step).isSome ∧ next.owner sha256 effect.step = none)
          ∧ (disposition = .createdDureOwned
            → ∃ owner ∈ next.owner sha256 effect.step,
              owner.ownerOperationId = event.operationId ∧ owner.ownerEventId = event.eventId
              ∧ owner.ownerStepIndex = stepIndex ∧ owner.ownerAttempt = attempt) := by
  intro store
  have kept : store.Kept sha256 := machine_kept appends
  refine ⟨kept.folds, OrderedMap.keys_nodup _, fun key owner held => (kept.planned _ _ held).1,
    ?_, ?_⟩
  · intro apart event receipt effect ownership decided
    exact ⟨decided.derives kept apart, fun fresh => decided.appends fresh kept apart⟩
  · intro event receipt next stepIndex attempt disposition fresh stored carried
    exact ((appendEvent_fresh fresh).mp stored).2.custody kept carried

end Store

namespace Sample

def registered : TargetState := ⟨.registered identity true .managed, .absent⟩

def addMarketplace : Command := .addMarketplace ⟨"./marketplace"⟩ .managed .json

def marketplaceStep : Step := request.plan.step request.integrationId addMarketplace

def pluginStep : Step :=
  request.plan.step request.integrationId (.installPlugin selector .managed .json)

/-- SHA-256 on the texts of the example; every other text is given one more digest. -/
def ownershipHash (text : String) : TargetStateDigest :=
  if text = absent.text then
    hash text
  else if text = registered.text then
    ⟨"acfcdcd9b441d925019666de131c99fbf16d92862793dc9b157847ced2b95f0b", by decide⟩
  else if text = marketplaceStep.ownershipIdentity .marketplace .managed then
    ⟨"7f44f210d8a292c1811c88f405bb4d9ae9d7b583cef0f4dd740bd8defb0eb1be", by decide⟩
  else if text = pluginStep.ownershipIdentity .plugin .managed then
    ⟨"ac5f78d64ee33fcd3e8fe68353e3ac959ca3c54b8767626aa92e22b458853e61", by decide⟩
  else
    hash ""

def started (operationId : OperationId) (idempotencyKey : String) (eventId : EventId) : Event where
  eventId := eventId
  operationId := operationId
  sequence := 1
  body := .started
    {
      idempotencyKey := idempotencyKey
      pluginId := request.pluginId
      pluginVersion := request.pluginVersion
      compensationFor := none
      targetBindings := some request.targetBindings
      operationKind := .install
      steps := [marketplaceStep, pluginStep]
    }
  recordedAtMs := 100

/-- The marketplace was absent. -/
def prepared (operationId : OperationId) (eventId : EventId) : Event where
  eventId := eventId
  operationId := operationId
  sequence := 2
  body := .stepPrepared 0 1 (.new ownershipHash absent)
  recordedAtMs := 101

/-- The command succeeded, and the marketplace is there. -/
def observed (operationId : OperationId) (eventId : EventId) : Event where
  eventId := eventId
  operationId := operationId
  sequence := 3
  body := .stepObserved 0 1 .succeeded (.new ownershipHash registered)
  recordedAtMs := 102

def effected (operationId : OperationId) (eventId : EventId) : Event where
  eventId := eventId
  operationId := operationId
  sequence := 4
  body := .effectRecorded 0 1 .createdDureOwned
  recordedAtMs := 103

def firstOperation : OperationId := request.operationId

def secondOperation : OperationId := ⟨"install-2", by decide⟩

def added : List Event :=
  [started firstOperation "install-request-1" ⟨"first-1", by decide⟩,
    prepared firstOperation ⟨"first-2", by decide⟩,
    observed firstOperation ⟨"first-3", by decide⟩]

def claimed : Event := effected firstOperation ⟨"first-4", by decide⟩

/-- The marketplace was deleted meanwhile. -/
def restarted : List Event :=
  [started secondOperation "install-request-2" ⟨"second-1", by decide⟩,
    prepared secondOperation ⟨"second-2", by decide⟩]

def seen : Event := observed secondOperation ⟨"second-3", by decide⟩

def reclaimed : Event := effected secondOperation ⟨"second-4", by decide⟩

/-- The store after these appends. -/
def stored (appends : List Event) : Store :=
  (Store.machine ownershipHash).after .empty appends

def effect : EffectReceipt :=
  ⟨0, 1, marketplaceStep, .new ownershipHash absent, .new ownershipHash registered,
    .createdDureOwned⟩

def receipt : Receipt :=
  (foldJournal ownershipHash (added ++ [claimed])).toOption.get (by decide +kernel)

def reopened : Receipt :=
  (foldJournal ownershipHash restarted).toOption.get (by decide +kernel)

end Sample

/-- A marketplace that was absent is added, and the effect is recorded. -/
theorem added_marketplace_recorded
    : KeysApart Sample.ownershipHash (Sample.stored Sample.added).plannedSteps
      ∧ (Sample.stored Sample.added).Decided Sample.ownershipHash Sample.claimed Sample.receipt
          Sample.effect .unproven
      ∧ (Sample.stored Sample.added).Fresh Sample.claimed
      ∧ ∃ result, (Sample.stored Sample.added).appendEvent Sample.ownershipHash Sample.claimed
        = .ok result := by
  have apart
      : KeysApart ownershipHash (stored added).plannedSteps := by
    decide +kernel
  have decided
      : (stored added).Decided ownershipHash claimed
          receipt effect .unproven :=
    {
      carried := rfl
      accepted := by decide +kernel
      decided := ⟨by decide +kernel, by decide +kernel⟩
      answered := by decide +kernel
      removes := by decide
    }
  have fresh : (stored added).Fresh claimed := by decide +kernel
  have unowned : ¬(stored added).Recreated ownershipHash effect := by
    unfold Store.Recreated
    decide +kernel
  obtain ⟨_, _, _, records, _⟩ :=
    Store.ownership_ledger_records_effects ownershipHash added
  exact ⟨apart, decided, fresh,
    ((records apart _ _ _ _ decided).2 fresh).mpr unowned⟩

/-- The marketplace was deleted behind the program's back and is added again. The executor
decides that it created the marketplace, the journal accepts that, and the ledger, which
still counts the marketplace as owned, refuses it.
-/
theorem readded_marketplace_refused
    : foldJournal Sample.ownershipHash
          ((Sample.stored (Sample.added ++ Sample.claimed :: Sample.restarted)).journal
            Sample.secondOperation)
        = .ok Sample.reopened
      ∧ Sample.reopened.recovery
        = .inspectBeforeRetry ⟨0, 1, .new Sample.ownershipHash Sample.absent, none, none⟩
      ∧ ownershipForStep Sample.ownershipHash
          (Sample.stored (Sample.added ++ Sample.claimed :: Sample.restarted)) Sample.reopened
          Sample.marketplaceStep
        = .ok .dureOwned
      ∧ completeApplyStep Sample.ownershipHash Sample.addMarketplace
          Sample.reopened.pluginVersion .dureOwned
          ⟨0, 1, .new Sample.ownershipHash Sample.absent, none, none⟩ .succeeded
          (.new Sample.ownershipHash Sample.registered)
        = .ok [Sample.seen.body, Sample.reclaimed.body]
      ∧ (foldJournal Sample.ownershipHash
          ((Sample.stored (Sample.added ++ Sample.claimed :: Sample.restarted
            ++ [Sample.seen])).journal Sample.secondOperation ++ [Sample.reclaimed])).map
            Receipt.effects
        = .ok [Sample.effect]
      ∧ (Sample.stored (Sample.added ++ Sample.claimed :: Sample.restarted
          ++ [Sample.seen])).appendEvent Sample.ownershipHash Sample.reclaimed
        = .error (.storage "invalid_plugin_native_ownership"
          (invalidChange
            "effect disposition does not match current durable ownership").message) := by
  refine ⟨?_, ?_, ?_, ?_, ?_, ?_⟩ <;> decide +kernel

end Dure.Plugin
