import Dure.Plugin.Execution

/-! The ledger of the native components that the program owns, and the store that keeps it
beside the journals.
-/

namespace Dure.Plugin

open Library Check
open Checkout (OperationId)

inductive OwnedComponent where
  | marketplace
  | plugin
  deriving DecidableEq, Repr

def OwnedComponent.asStr : OwnedComponent → String
  | .marketplace => "marketplace"
  | .plugin => "plugin"

/-- A key is written like the digest of a target state. -/
abbrev OwnershipKey := TargetStateDigest

instance : LinearOrder TargetStateDigest :=
  LinearOrder.lift' TargetStateDigest.value TargetStateDigest.value_injective

structure OwnershipTarget where
  key : OwnershipKey
  component : OwnedComponent
  deriving DecidableEq

structure OwnershipReceipt where
  target : OwnershipTarget
  ownerPluginId : PluginId
  ownerPluginVersion : Version
  ownerIntegrationId : IntegrationId
  ownerOperationId : OperationId
  ownerEventId : EventId
  ownerStepIndex : Nat
  ownerAttempt : Nat
  afterDigest : TargetStateDigest
  claimedAtMs : Int
  deriving DecidableEq

inductive LedgerBody where
  | claimed (ownership : OwnershipReceipt)
  | released (ownership : OwnershipReceipt) (disposition : EffectDisposition)
  deriving DecidableEq

structure LedgerEvent where
  revision : Nat
  journalEventId : EventId
  operationId : OperationId
  stepIndex : Nat
  attempt : Nat
  body : LedgerBody
  recordedAtMs : Int
  deriving DecidableEq

inductive OwnershipError where
  | adapterMismatch
  | invalidRegistrationTarget
  | selectorMismatch
  | readOnlyCommand
  | invalidLedger (reason : String)
  | invalidChange (reason : String)
  deriving DecidableEq, Repr

def OwnershipError.message : OwnershipError → String
  | .adapterMismatch =>
    "native plugin ownership target has a mismatched adapter and executable"
  | .invalidRegistrationTarget =>
    "native plugin ownership target does not match its executable and scope"
  | .selectorMismatch => "native plugin ownership target has inconsistent command selectors"
  | .readOnlyCommand => "read-only native plugin commands do not own state"
  | .invalidLedger reason => "invalid native plugin ownership ledger: " ++ reason
  | .invalidChange reason => "invalid native plugin ownership change: " ++ reason

def RegistrationTarget.fields : RegistrationTarget → List String
  | .managedProfile profileRootKey => ["managed_profile", profileRootKey.value]
  | .user profileRootKey => ["user", profileRootKey.value]
  | .workspace profileRootKey workspaceRootKey =>
    ["workspace", profileRootKey.value, workspaceRootKey.value]

/-- The text that a component's key is the hash of. -/
def Step.ownershipIdentity (step : Step) (component : OwnedComponent) (scope : InstallScope)
    : String :=
  terminated
    (["dure-plugin-native-ownership/v2", component.asStr, step.executable.asStr,
        step.adapter.value, scopeToken scope]
      ++ step.registrationTarget.fields
      ++ [step.selector.marketplace.value]
      ++ if component = .plugin then [step.selector.plugin.value] else [])

/-- The component that the step's command changes, and its scope. -/
def Step.owned (step : Step) : Except OwnershipError (OwnedComponent × InstallScope) :=
  match step.command with
  | .addMarketplace _ scope _ => pure (.marketplace, scope)
  | .removeMarketplace marketplace scope _ => do
      rejectIf (marketplace ≠ step.selector.marketplace) .selectorMismatch
      pure (.marketplace, scope)
  | .installPlugin selector scope _ | .removePlugin selector scope _ _ => do
      rejectIf (selector ≠ step.selector) .selectorMismatch
      pure (.plugin, scope)
  | .listMarketplaces _ | .listPlugins _ _ _ => throw .readOnlyCommand

def ownershipTarget (sha256 : Sha256) (step : Step) : Except OwnershipError OwnershipTarget := do
  rejectIf (step.executable.matchesAdapter step.adapter = false) .adapterMismatch
  let (component, scope) ← step.owned
  rejectIf (registrationTargetMatches step.executable scope step.registrationTarget = false)
    .invalidRegistrationTarget
  pure ⟨sha256 (step.ownershipIdentity component scope), component⟩

abbrev Ownerships := OrderedMap OwnershipKey OwnershipReceipt

def LedgerEvent.claims (event : LedgerEvent) (ownership : OwnershipReceipt) : Prop :=
  ownership.ownerOperationId = event.operationId
  ∧ ownership.ownerEventId = event.journalEventId
  ∧ ownership.ownerStepIndex = event.stepIndex
  ∧ ownership.ownerAttempt = event.attempt
  ∧ ownership.claimedAtMs = event.recordedAtMs

instance (event : LedgerEvent) (ownership : OwnershipReceipt)
    : Decidable (event.claims ownership) :=
  inferInstanceAs (Decidable (_ ∧ _))

def invalidLedger (reason : String) : OwnershipError := .invalidLedger reason

def LedgerEvent.apply (event : LedgerEvent) (previousRevision : Nat) (projection : Ownerships)
    : Except OwnershipError Ownerships := do
  rejectIf (event.revision = 0 ∨ event.revision ≤ previousRevision)
    (invalidLedger "revisions must be positive and strictly increasing")
  rejectIf (event.recordedAtMs < 0) (invalidLedger "event timestamp must be non-negative")
  match event.body with
  | .claimed ownership => do
      rejectIf (¬event.claims ownership)
        (invalidLedger "claim identity must match its source journal event")
      rejectIf (projection.get? ownership.target.key ≠ none)
        (invalidLedger "a component cannot be claimed while it is already owned")
      pure (projection.insert ownership.target.key ownership)
  | .released ownership disposition => do
      rejectIf (disposition ≠ .removedDureOwned ∧ disposition ≠ .noChange)
        (invalidLedger "release disposition must consume existing ownership")
      rejectIf (projection.get? ownership.target.key = none)
        (invalidLedger "a component cannot be released without current ownership")
      rejectIf (projection.get? ownership.target.key ≠ some ownership)
        (invalidLedger "release receipt does not match the current owner")
      pure (projection.erase ownership.target.key)

def foldLedgerFrom : Nat → Ownerships → List LedgerEvent → Except OwnershipError Ownerships
  | _, projection, [] => pure projection
  | previousRevision, projection, event :: rest => do
      let next ← event.apply previousRevision projection
      foldLedgerFrom event.revision next rest

def foldLedger (events : List LedgerEvent) : Except OwnershipError Ownerships :=
  foldLedgerFrom 0 .empty events

def invalidChange (reason : String) : OwnershipError := .invalidChange reason

def journalEffect : Body → Option (Nat × Nat × EffectDisposition)
  | .effectRecorded stepIndex attempt disposition => some (stepIndex, attempt, disposition)
  | .stepReconciled stepIndex attempt _ (.applied disposition) =>
    some (stepIndex, attempt, disposition)
  | _ => none

/-- The effect that a journal event left at the end of its receipt. -/
def journalEffectReceipt (event : Event) (receipt : Receipt) (stepIndex attempt : Nat)
    (disposition : EffectDisposition)
    : Except OwnershipError EffectReceipt := do
  rejectIf
    (receipt.operationId ≠ event.operationId ∨ receipt.lastSequence ≠ event.sequence
      ∨ receipt.updatedAtMs ≠ event.recordedAtMs)
    (invalidChange "journal event and folded receipt identities do not match")
  match receipt.effects.getLast? with
  | none =>
    throw (invalidChange "an ownership journal event did not produce an effect receipt")
  | some effect => do
      rejectIf
        (effect.stepIndex ≠ stepIndex ∨ effect.attempt ≠ attempt
          ∨ effect.disposition ≠ disposition)
        (invalidChange "journal event does not match the latest folded effect")
      pure effect

def ownershipTargetForJournalEvent (sha256 : Sha256) (event : Event) (receipt : Receipt)
    : Except OwnershipError (Option OwnershipTarget) :=
  match journalEffect event.body with
  | none => pure none
  | some (stepIndex, attempt, disposition) => do
      let effect ← journalEffectReceipt event receipt stepIndex attempt disposition
      let target ← ownershipTarget sha256 effect.step
      pure (some target)

/-- Whether the ledger's answer proves ownership. -/
def provenOwnership (existing : Option OwnershipReceipt) : ExistingOwnership :=
  if existing.isSome then .dureOwned else .unproven

/-- The receipt of a claim. -/
def Receipt.claim (receipt : Receipt) (target : OwnershipTarget) (effect : EffectReceipt)
    (event : Event) (stepIndex attempt : Nat)
    : OwnershipReceipt where
  target := target
  ownerPluginId := receipt.pluginId
  ownerPluginVersion := receipt.pluginVersion
  ownerIntegrationId := effect.step.integrationId
  ownerOperationId := receipt.operationId
  ownerEventId := event.eventId
  ownerStepIndex := stepIndex
  ownerAttempt := attempt
  afterDigest := effect.after.digest
  claimedAtMs := event.recordedAtMs

/-- What an effect does to the ownership of its component; `none` leaves it as it is. -/
def ownershipChange (kind : OperationKind) (disposition : EffectDisposition)
    (existing : Option OwnershipReceipt) (claim : OwnershipReceipt)
    : Except OwnershipError (Option LedgerBody) :=
  match kind, disposition, existing with
  | .install, .createdDureOwned, none => pure (some (.claimed claim))
  | .uninstall, .removedDureOwned, some ownership =>
    pure (some (.released ownership .removedDureOwned))
  | .uninstall, .noChange, some ownership => pure (some (.released ownership .noChange))
  | .install, .preservedDureOwned, some _ => pure none
  | .install, .preservedExternal, none => pure none
  | _, _, _ =>
    throw (invalidChange "effect disposition does not match current durable ownership")

/-- The ledger event of a change. -/
def Event.ledgerEvent (event : Event) (revision stepIndex attempt : Nat) (change : LedgerBody)
    : LedgerEvent where
  revision := revision
  journalEventId := event.eventId
  operationId := event.operationId
  stepIndex := stepIndex
  attempt := attempt
  body := change
  recordedAtMs := event.recordedAtMs

def deriveLedgerEvent (sha256 : Sha256) (revision : Nat) (event : Event) (receipt : Receipt)
    (existing : Option OwnershipReceipt)
    : Except OwnershipError (Option LedgerEvent) :=
  match journalEffect event.body with
  | none => pure none
  | some (stepIndex, attempt, disposition) => do
      rejectIf (revision = 0) (invalidChange "ownership ledger revision must be positive")
      let effect ← journalEffectReceipt event receipt stepIndex attempt disposition
      let target ← ownershipTarget sha256 effect.step
      rejectIf (∃ ownership ∈ existing, ownership.target ≠ target)
        (invalidChange "existing ownership belongs to a different native component")
      let classified ←
        (classifyMutation effect.step.command receipt.pluginVersion (provenOwnership existing)
          effect.before.state effect.after.state).mapError
          (fun error => invalidChange ("effect transition is unsafe: " ++ error.message))
      rejectIf (classified ≠ disposition)
        (invalidChange "effect disposition differs from the classified state transition")
      let body ← ownershipChange receipt.operationKind disposition existing
        (receipt.claim target effect event stepIndex attempt)
      pure (body.map (event.ledgerEvent revision stepIndex attempt))

/-- The domain store's errors. The details of a failed SQL constraint are the database's. -/
inductive StoreError where
  | invalidEventStream (reason : String)
  | idempotencyConflict (reason : String)
  | storage (code detail : String)
  deriving DecidableEq, Repr

/-- The events of all operations, the ledger, and the ownerships that it amounts to. -/
structure Store where
  events : List Event
  ledger : List LedgerEvent
  ownership : Ownerships
  deriving DecidableEq

namespace Store

def empty : Store := ⟨[], [], .empty⟩

/-- Events are stored in the order of their sequence. -/
def journal (store : Store) (operationId : OperationId) : List Event :=
  store.events.filter (fun event => event.operationId = operationId)

def nextOwnershipRevision (store : Store) : Nat :=
  (store.ledger.map LedgerEvent.revision).max?.getD 0 + 1

def persistOwnershipChange (store : Store) (change : LedgerEvent)
    : Except StoreError Store := do
  rejectIf
    (∃ earlier ∈ store.ledger, earlier.journalEventId = change.journalEventId
      ∨ earlier.revision = change.revision)
    (.storage "append_plugin_native_ownership_event" "unique constraint")
  match change.body with
  | .claimed ownership => do
      rejectIf (store.ownership.get? ownership.target.key ≠ none)
        (.storage "claim_plugin_native_ownership" "unique constraint")
      pure
        { store with
          ledger := store.ledger ++ [change]
          ownership := store.ownership.insert ownership.target.key ownership }
  | .released ownership _ => do
      rejectIf (store.ownership.get? ownership.target.key ≠ some ownership)
        (.storage "stale_plugin_native_ownership"
          "ownership release did not consume the exact current receipt")
      pure
        { store with
          ledger := store.ledger ++ [change]
          ownership := store.ownership.erase ownership.target.key }

def fold (sha256 : Sha256) (events : List Event) : Except StoreError Receipt :=
  (foldJournal sha256 events).mapError (fun error => .invalidEventStream error.message)

/-- The ledger event that an appended journal event brings. -/
def ownershipChangeOf (sha256 : Sha256) (store : Store) (event : Event) (receipt : Receipt)
    : Except OwnershipError (Option LedgerEvent) := do
  match ← ownershipTargetForJournalEvent sha256 event receipt with
  | none => pure none
  | some target =>
    deriveLedgerEvent sha256 store.nextOwnershipRevision event receipt
      (store.ownership.get? target.key)

/-- The operation that was started under the key of this one. -/
def ownerOfKey (store : Store) (idempotencyKey : String) : Option OperationId :=
  store.events.findSome? (fun event =>
    match event.body with
    | .started started =>
      if started.idempotencyKey = idempotencyKey then some event.operationId else none
    | _ => none)

/-- A started operation has a key of its own. -/
def validateKey (store : Store) (event : Event) : Except StoreError Unit :=
  match event.body with
  | .started started =>
    whenSome (store.ownerOfKey started.idempotencyKey) (fun owner =>
      rejectIf (owner ≠ event.operationId)
        (.idempotencyConflict ("plugin apply key \"" ++ started.idempotencyKey
          ++ "\" already belongs to operation " ++ owner.value)))
  | _ => pure ()

/-- A compensated operation names a child that has succeeded. -/
def validateCompensated (sha256 : Sha256) (store : Store) (event : Event) (receipt : Receipt)
    : Except StoreError Unit :=
  match event.body with
  | .compensated _ =>
    match receipt.compensation with
    | none =>
      throw (.storage "invalid_plugin_apply_compensation"
        "compensated operation has no linked child")
    | some link => do
        rejectIf (store.journal link.operationId = [])
          (.storage "invalid_plugin_apply_compensation"
            ("compensation child " ++ link.operationId.value ++ " does not exist"))
        let child ← fold sha256 (store.journal link.operationId)
        (validateCompensationCompletion receipt child).mapError
          (fun error => .storage "invalid_plugin_apply_compensation" error.message)
  | _ => pure ()

/-- Append one event of any operation. -/
def appendEvent (sha256 : Sha256) (store : Store) (event : Event)
    : Except StoreError (Receipt × Store) :=
  match store.events.find? (fun other => other.eventId = event.eventId) with
  | some existing => do
      rejectIf (existing ≠ event)
        (.idempotencyConflict ("plugin apply event id " ++ event.eventId.value
          ++ " was replayed with a different payload"))
      let receipt ← fold sha256 (store.journal event.operationId)
      pure (receipt, store)
  | none => do
      whenSome
        ((store.journal event.operationId).find? (fun other =>
          other.sequence = event.sequence))
        (fun existing =>
          throw (.idempotencyConflict ("plugin apply operation " ++ event.operationId.value
            ++ " sequence " ++ toString event.sequence ++ " is already owned by event "
            ++ existing.eventId.value)))
      store.validateKey event
      let receipt ← fold sha256 (store.journal event.operationId ++ [event])
      store.validateCompensated sha256 event receipt
      let change ← (store.ownershipChangeOf sha256 event receipt).mapError
        (fun error => .storage "invalid_plugin_native_ownership" error.message)
      let appended : Store := { store with events := store.events ++ [event] }
      match change with
      | none => pure (receipt, appended)
      | some change => do
          let recorded ← appended.persistOwnershipChange change
          pure (receipt, recorded)

/-- Appends in any order; a refused one leaves the store as it is. -/
def machine (sha256 : Sha256) : Machine Store Event (Except StoreError Receipt) where
  step store event :=
    match store.appendEvent sha256 event with
    | .ok (receipt, next) => (.ok receipt, next)
    | .error error => (.error error, store)

end Store

inductive OwnershipRefusal where
  | ownershipTarget
  | ownershipBindingRequired
  | ownershipRequired
  deriving DecidableEq, Repr

/-- Whose the component of a step is. A recorded owner must be bound to the same physical
targets, and a removal needs one.
-/
def ownershipForStep (sha256 : Sha256) (store : Store) (receipt : Receipt) (step : Step)
    : Except OwnershipRefusal ExistingOwnership := do
  let target ← (ownershipTarget sha256 step).mapError (fun _ => .ownershipTarget)
  let ownership ←
    match store.ownership.get? target.key with
    | none => pure .unproven
    | some recorded => do
        let owner ←
          (foldJournal sha256 (store.journal recorded.ownerOperationId)).mapError
            (fun _ => OwnershipRefusal.ownershipBindingRequired)
        rejectIf
          (owner.targetBindings = none ∨ owner.targetBindings ≠ receipt.targetBindings)
          .ownershipBindingRequired
        pure .dureOwned
  rejectIf (step.command.isRemoval = true ∧ ownership ≠ .dureOwned) .ownershipRequired
  pure ownership

end Dure.Plugin
