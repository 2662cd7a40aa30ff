import Dure.Library.Machine
import Dure.Plugin.Journal

/-! The executor of an operation: how it starts one, what it decides at each directive of the
journal, and one pass of its loop.
-/

namespace Dure.Plugin

open Library Check
open Checkout (OperationId)

def i64Max : Int := 2 ^ 63 - 1

structure CliPlan where
  adapter : AdapterId
  executable : Executable
  cliVersion : Version
  selector : PluginSelector
  registrationTarget : RegistrationTarget
  commands : List Command
  deriving DecidableEq

/-- The times of requests are signed 64-bit integers. -/
structure StartRequest where
  operationId : OperationId
  idempotencyKey : String
  pluginId : PluginId
  pluginVersion : Version
  integrationId : IntegrationId
  targetBindings : List PhysicalTargetBinding
  operationKind : OperationKind
  plan : CliPlan
  recordedAtMs : Int
  representable : recordedAtMs ≤ i64Max

inductive MutationCommand where
  | addMarketplace
  | installPlugin
  | removePlugin
  | removeMarketplace
  deriving DecidableEq, Repr

namespace MutationCommand

def «matches» : MutationCommand → Command → Bool
  | .addMarketplace, .addMarketplace .. => true
  | .installPlugin, .installPlugin .. => true
  | .removePlugin, .removePlugin .. => true
  | .removeMarketplace, .removeMarketplace .. => true
  | _, _ => false

def name : MutationCommand → String
  | .addMarketplace => "add_marketplace"
  | .installPlugin => "install_plugin"
  | .removePlugin => "remove_plugin"
  | .removeMarketplace => "remove_marketplace"

end MutationCommand

inductive StartError where
  | missingCommand (command : String)
  | duplicateCommand (command : String)
  | invalidCommandOrder
  | journal (error : JournalError)
  deriving DecidableEq, Repr

/-- The one command of its kind in a plan, with its place. -/
def selectCommand (commands : List Command) (expected : MutationCommand)
    : Except StartError (Command × Nat) :=
  match commands.zipIdx.filter (fun entry => expected.matches entry.1) with
  | [] => throw (.missingCommand expected.name)
  | [entry] => pure entry
  | _ => throw (.duplicateCommand expected.name)

def lifecycleCommands (operationKind : OperationKind) (commands : List Command)
    : Except StartError (List Command) := do
  let (first, second) : MutationCommand × MutationCommand :=
    match operationKind with
    | .install => (.addMarketplace, .installPlugin)
    | .uninstall => (.removePlugin, .removeMarketplace)
  let earlier ← selectCommand commands first
  let later ← selectCommand commands second
  rejectIf (earlier.2 ≥ later.2) .invalidCommandOrder
  pure [earlier.1, later.1]

def CliPlan.step (plan : CliPlan) (integrationId : IntegrationId) (command : Command) : Step where
  integrationId := integrationId
  adapter := plan.adapter
  executable := plan.executable
  cliVersion := plan.cliVersion
  selector := plan.selector
  registrationTarget := plan.registrationTarget
  command := command

def digestEventId (digest : TargetStateDigest) (stem : String)
    (valid : Checkout.validOperationId stem = true) (short : stem.utf8ByteSize ≤ 96)
    : EventId :=
  ⟨stem ++ digest.hex, digest.validOperationId_append valid short⟩

def createStartedEvent (sha256 : Sha256) (request : StartRequest)
    : Except StartError Event := do
  let commands ← lifecycleCommands request.operationKind request.plan.commands
  let identity := sha256 ("dure-plugin-apply-start/v2\x00" ++ request.operationId.value)
  let event : Event :=
    {
      eventId := digestEventId identity "plugin-start-" (by decide) (by decide)
      operationId := request.operationId
      sequence := 1
      body := .started
        {
          idempotencyKey := request.idempotencyKey
          pluginId := request.pluginId
          pluginVersion := request.pluginVersion
          compensationFor := none
          targetBindings := some request.targetBindings
          operationKind := request.operationKind
          steps := commands.map (request.plan.step request.integrationId)
        }
      recordedAtMs := request.recordedAtMs
    }
  let _ ← (foldJournal sha256 [event]).mapError StartError.journal
  pure event

inductive ExecutionError where
  | invalidBeforeObservation
  | invalidAfterObservation
  | checkpointAlreadyObserved
  | recoveryNotRequired
  | forwardRecoveryUnsafe
  | compensationUnavailable
  | nestedCompensationForbidden
  | reconciliation (error : ReconciliationError)
  deriving DecidableEq, Repr

def prepareApplyStep (sha256 : Sha256) (stepIndex attempt : Nat) (before : StateObservation)
    : Except ExecutionError Body := do
  rejectIf (¬before.hasValidDigest sha256) .invalidBeforeObservation
  pure (.stepPrepared stepIndex attempt before)

def completeApplyStep (sha256 : Sha256) (command : Command) (expectedVersion : Version)
    (existingOwnership : ExistingOwnership) (checkpoint : StepCheckpoint)
    (outcome : CommandOutcome) (after : StateObservation)
    : Except ExecutionError (List Body) := do
  rejectIf (¬checkpoint.before.hasValidDigest sha256) .invalidBeforeObservation
  rejectIf (checkpoint.outcome ≠ none ∨ checkpoint.after ≠ none) .checkpointAlreadyObserved
  rejectIf (¬after.hasValidDigest sha256) .invalidAfterObservation
  let observed := Body.stepObserved checkpoint.stepIndex checkpoint.attempt outcome after
  let reconciled := Body.stepReconciled checkpoint.stepIndex checkpoint.attempt after
  if command.isMutation = false then
    pure [observed]
  else if outcome ≠ .succeeded ∧ after = checkpoint.before then
    pure [observed, reconciled .notApplied]
  else
    match classifyMutation command expectedVersion existingOwnership checkpoint.before.state
        after.state with
    | .ok disposition =>
      pure [observed,
        .effectRecorded checkpoint.stepIndex checkpoint.attempt disposition]
    | .error _ => pure [observed, reconciled .diverged]

def reconcileApplyStep (sha256 : Sha256) (command : Command) (expectedVersion : Version)
    (existingOwnership : ExistingOwnership) (checkpoint : StepCheckpoint)
    (observed : StateObservation)
    : Except ExecutionError Body := do
  let resolution ←
    (reconcileCheckpoint sha256 command expectedVersion existingOwnership checkpoint
      observed).mapError ExecutionError.reconciliation
  pure (.stepReconciled checkpoint.stepIndex checkpoint.attempt observed resolution)

def selectApplyRecovery (receipt : Receipt) (strategy : RecoveryStrategy)
    : Except ExecutionError Body := do
  rejectIf (receipt.state ≠ .recoveryRequired) .recoveryNotRequired
  match receipt.recovery with
  | .chooseRecovery checkpoint _ => do
      match strategy with
      | .forward =>
        rejectIf (checkpoint.after.map StateObservation.digest ≠ some checkpoint.before.digest)
          .forwardRecoveryUnsafe
      | .compensateOwned => do
          rejectIf (receipt.compensationFor ≠ none) .nestedCompensationForbidden
          rejectIf (ownedEffects receipt.effects = []) .compensationUnavailable
      pure (.recoveryResumed strategy)
  | _ => throw .recoveryNotRequired

def planCompensation (receipt : Receipt) (marketplaceSource : MarketplaceSource)
    : Except CompensationError (List CompensationStep) := do
  rejectIf (receipt.state ≠ .compensating) .recoveryNotCompensating
  let effects := ownedEffects receipt.effects
  rejectIf (effects = []) .noOwnedEffects
  rejectIf (receipt.recovery ≠ .compensateOwned effects) .recoveryMismatch
  let plan ← effects.mapM (inverseStep marketplaceSource)
  validateCompensationSteps receipt.operationKind receipt.effects marketplaceSource plan
  pure plan

def validateCompensationLink (sha256 : Sha256) (receipt : Receipt)
    (marketplaceSource : MarketplaceSource)
    : Except CompensationError CompensationLink :=
  match receipt.compensation with
  | none => throw .invalidLink
  | some link => do
      rejectIf (receipt.state ≠ .compensating ∨ receipt.recovery ≠ .runCompensation link)
        .invalidLink
      let expected ← (ownedEffects receipt.effects).mapM (inverseStep marketplaceSource)
      validateCompensationSteps receipt.operationKind receipt.effects marketplaceSource expected
      rejectIf (link.marketplaceSource ≠ marketplaceSource ∨ link.steps ≠ expected) .invalidLink
      let identity := compensationIdentity sha256 receipt.operationId
      rejectIf (link.operationId ≠ identity.1 ∨ link.idempotencyKey ≠ identity.2) .invalidLink
      pure link

def createCompensationStartedEvent (sha256 : Sha256) (parent : Receipt)
    (marketplaceSource : MarketplaceSource)
    : Except CompensationError Event := do
  let link ← validateCompensationLink sha256 parent marketplaceSource
  let identity := sha256 ("dure-plugin-compensation-start/v2\x00" ++ link.operationId.value)
  let event : Event :=
    {
      eventId := digestEventId identity "plugin-compensation-start-" (by decide) (by decide)
      operationId := link.operationId
      sequence := 1
      body := .started
        {
          idempotencyKey := link.idempotencyKey
          pluginId := parent.pluginId
          pluginVersion := parent.pluginVersion
          compensationFor := some parent.operationId
          targetBindings := parent.targetBindings
          operationKind := parent.operationKind.inverse
          steps := link.steps.map CompensationStep.step
        }
      recordedAtMs := min i64Max (parent.updatedAtMs + 1)
    }
  let _ ← (foldJournal sha256 [event]).mapError CompensationError.journal
  pure event

def validParentState (parent : Receipt) (link : CompensationLink) : Bool :=
  match parent.state, parent.recovery with
  | .compensating, .runCompensation directive => directive == link
  | .compensated, .none => true
  | _, _ => false

def validateCompensationChild (parent child : Receipt) : Except CompensationError Unit :=
  match parent.compensation with
  | none => throw .invalidCompletion
  | some link => do
      rejectIf
        (validParentState parent link = false
          ∨ child.operationId ≠ link.operationId
          ∨ child.idempotencyKey ≠ link.idempotencyKey
          ∨ child.compensationFor ≠ some parent.operationId
          ∨ child.pluginId ≠ parent.pluginId
          ∨ child.pluginVersion ≠ parent.pluginVersion
          ∨ child.targetBindings ≠ parent.targetBindings
          ∨ child.operationKind ≠ parent.operationKind.inverse
          ∨ child.steps ≠ link.steps.map CompensationStep.step
          ∨ child.compensation ≠ none)
        .invalidCompletion
      validateCompensationSteps parent.operationKind parent.effects link.marketplaceSource
        link.steps

def validateCompensationCompletion (parent child : Receipt)
    : Except CompensationError Unit := do
  validateCompensationChild parent child
  rejectIf (child.state ≠ .succeeded ∨ child.recovery ≠ .none) .invalidCompletion

def maxStepAttempts : Nat := 3

inductive AppendError where
  | sequenceOverflow
  | store (error : JournalError)
  deriving DecidableEq, Repr

/-- The event that carries a body after those that a receipt was folded from. -/
def nextEvent (sha256 : Sha256) (receipt : Receipt) (body : Body) : Event where
  eventId := digestEventId
    (sha256 ("dure-plugin-apply-event/v2\x00" ++ receipt.operationId.value ++ "\x00"
      ++ toString (receipt.lastSequence + 1)))
    "plugin-event-" (by decide) (by decide)
  operationId := receipt.operationId
  sequence := receipt.lastSequence + 1
  body := body
  recordedAtMs := min i64Max (receipt.updatedAtMs + 1)

/-- Append one event; the store folds the extended journal before it keeps it. -/
def appendBody (sha256 : Sha256) (journal : List Event) (receipt : Receipt) (body : Body)
    : Except AppendError (List Event × Receipt) := do
  rejectIf (receipt.lastSequence = u32Max) .sequenceOverflow
  let extended := journal ++ [nextEvent sha256 receipt body]
  let next ← (foldJournal sha256 extended).mapError AppendError.store
  pure (extended, next)

/-- What a pass of the loop learns from outside: the ledger's answer about ownership, what
the inspections of the target show, how the command ended and which receipt a finished
compensation child left. `none` is an error that ends the pass. The process stops after
`appends` appends at the latest.
-/
structure Answers where
  ownership : Option ExistingOwnership
  inspected : Option StateObservation
  outcome : Option CommandOutcome
  reinspected : Option StateObservation
  marketplaceSource : MarketplaceSource
  child : Option Receipt
  appends : Nat

/-- The journal that a pass leaves, and the step and attempt whose command it ran. -/
structure Pass where
  journal : List Event
  command : Option (Nat × Nat)
  deriving DecidableEq

def appendAll (sha256 : Sha256)
    : Nat → List Event → Receipt → List Body → List Event
  | 0, journal, _, _ => journal
  | _ + 1, journal, _, [] => journal
  | appends + 1, journal, receipt, body :: rest =>
    match appendBody sha256 journal receipt body with
    | .ok (extended, next) => appendAll sha256 appends extended next rest
    | .error _ => journal

/-- Run the command of a prepared step, inspect the target and record what happened. -/
def runPrepared (sha256 : Sha256) (step : Step) (ownership : ExistingOwnership)
    (answers : Answers) (journal : List Event) (prepared : Receipt)
    : Pass :=
  match prepared.recovery with
  | .inspectBeforeRetry checkpoint =>
    match answers.outcome with
    | none => ⟨journal, none⟩
    | some outcome =>
      let command := some (checkpoint.stepIndex, checkpoint.attempt)
      match answers.reinspected with
      | none => ⟨journal, command⟩
      | some after =>
        match completeApplyStep sha256 step.command prepared.pluginVersion ownership
            checkpoint outcome after with
        | .error _ => ⟨journal, command⟩
        | .ok bodies =>
          ⟨appendAll sha256 (answers.appends - 1) journal prepared bodies, command⟩
  | _ => ⟨journal, none⟩

def continueStep (sha256 : Sha256) (answers : Answers) (journal : List Event)
    (receipt : Receipt) (stepIndex nextAttempt : Nat)
    : Pass :=
  if stepIndex = receipt.steps.length then
    ⟨appendAll sha256 answers.appends journal receipt [.succeeded], none⟩
  else if nextAttempt > maxStepAttempts then
    ⟨journal, none⟩
  else
    match receipt.steps[stepIndex]?, answers.ownership, answers.inspected with
    | some step, some ownership, some before =>
      if step.command.isMutation = false ∨ answers.appends = 0 then
        ⟨journal, none⟩
      else
        match prepareApplyStep sha256 stepIndex nextAttempt before with
        | .error _ => ⟨journal, none⟩
        | .ok body =>
          match appendBody sha256 journal receipt body with
          | .error _ => ⟨journal, none⟩
          | .ok (extended, prepared) =>
            runPrepared sha256 step ownership answers extended prepared
    | _, _, _ => ⟨journal, none⟩

def inspectStep (sha256 : Sha256) (answers : Answers) (journal : List Event)
    (receipt : Receipt) (checkpoint : StepCheckpoint)
    : List Event :=
  match receipt.steps[checkpoint.stepIndex]?, answers.ownership, answers.inspected with
  | some step, some ownership, some observed =>
    if step.command.isMutation = false then
      journal
    else
      match reconcileApplyStep sha256 step.command receipt.pluginVersion ownership
          checkpoint observed with
      | .error _ => journal
      | .ok body => appendAll sha256 answers.appends journal receipt [body]
  | _, _, _ => journal

def compensate (sha256 : Sha256) (answers : Answers) (journal : List Event)
    (receipt : Receipt)
    : List Event :=
  match planCompensation receipt answers.marketplaceSource with
  | .error _ => journal
  | .ok steps =>
    let identity := compensationIdentity sha256 receipt.operationId
    appendAll sha256 answers.appends journal receipt
      [.compensationLinked ⟨identity.1, identity.2, answers.marketplaceSource, steps⟩]

/-- The compensation child is an operation with a journal of its own. -/
def finishCompensation (sha256 : Sha256) (answers : Answers) (journal : List Event)
    (receipt : Receipt)
    : List Event :=
  match validateCompensationLink sha256 receipt answers.marketplaceSource, answers.child with
  | .ok _, some child =>
    match validateCompensationCompletion receipt child with
    | .error _ => journal
    | .ok () =>
      appendAll sha256 answers.appends journal receipt [.compensated child.operationId]
  | _, _ => journal

/-- One pass of the executor's loop. -/
def advancePass (sha256 : Sha256) (journal : List Event) (answers : Answers) : Pass :=
  match foldJournal sha256 journal with
  | .error _ => ⟨journal, none⟩
  | .ok receipt =>
    match receipt.recovery with
    | .continue stepIndex nextAttempt =>
      continueStep sha256 answers journal receipt stepIndex nextAttempt
    | .inspectBeforeRetry checkpoint =>
      ⟨inspectStep sha256 answers journal receipt checkpoint, none⟩
    | .chooseRecovery _ _ => ⟨journal, none⟩
    | .compensateOwned _ => ⟨compensate sha256 answers journal receipt, none⟩
    | .runCompensation _ => ⟨finishCompensation sha256 answers journal receipt, none⟩
    | .none => ⟨journal, none⟩

/-- The user's choice after a failure. -/
def resumeRecovery (sha256 : Sha256) (journal : List Event) (strategy : RecoveryStrategy)
    : List Event :=
  match foldJournal sha256 journal with
  | .error _ => journal
  | .ok receipt =>
    match selectApplyRecovery receipt strategy with
    | .error _ => journal
    | .ok body => appendAll sha256 1 journal receipt [body]

inductive Input where
  | advance (answers : Answers)
  | resume (strategy : RecoveryStrategy)

/-- Passes and choices in any order, over the journal that the stops before them left. The
answer is the command that was run.
-/
def executor (sha256 : Sha256) : Machine (List Event) Input (Option (Nat × Nat)) where
  step journal
    | .advance answers =>
      let pass := advancePass sha256 journal answers
      (pass.command, pass.journal)
    | .resume strategy => (none, resumeRecovery sha256 journal strategy)

end Dure.Plugin
