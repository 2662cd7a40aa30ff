import Dure.Plugin.Compensation

/-! The journal of one install or uninstall: its events, and the receipt that they fold to. -/

namespace Dure.Plugin

open Library Check
open Checkout (OperationId)

def maxEvents : Nat := 16384
def maxSteps : Nat := 256
def u32Max : Nat := 2 ^ 32 - 1

inductive RecoveryStrategy where
  | forward
  | compensateOwned
  deriving DecidableEq, Repr

structure Started where
  idempotencyKey : String
  pluginId : PluginId
  pluginVersion : Version
  compensationFor : Option OperationId
  targetBindings : Option (List PhysicalTargetBinding)
  operationKind : OperationKind
  steps : List Step
  deriving DecidableEq

inductive Body where
  | started (started : Started)
  | stepPrepared (stepIndex attempt : Nat) (before : StateObservation)
  | stepObserved (stepIndex attempt : Nat) (outcome : CommandOutcome)
    (after : StateObservation)
  | effectRecorded (stepIndex attempt : Nat) (disposition : EffectDisposition)
  | stepReconciled (stepIndex attempt : Nat) (observed : StateObservation)
    (resolution : StepReconciliation)
  | recoveryResumed (strategy : RecoveryStrategy)
  | compensationLinked (link : CompensationLink)
  | compensated (operationId : OperationId)
  | succeeded
  deriving DecidableEq

structure Event where
  eventId : EventId
  operationId : OperationId
  sequence : Nat
  body : Body
  recordedAtMs : Int
  deriving DecidableEq

inductive JournalState where
  | applying
  | inspectBeforeRetry
  | recoveryRequired
  | compensating
  | compensated
  | succeeded
  deriving DecidableEq, Repr

inductive RecoveryDirective where
  | continue (stepIndex nextAttempt : Nat)
  | inspectBeforeRetry (checkpoint : StepCheckpoint)
  | chooseRecovery (checkpoint : StepCheckpoint) (nextAttempt : Nat)
  | compensateOwned (effects : List EffectReceipt)
  | runCompensation (link : CompensationLink)
  | none
  deriving DecidableEq

structure Receipt where
  operationId : OperationId
  idempotencyKey : String
  pluginId : PluginId
  pluginVersion : Version
  compensationFor : Option OperationId
  targetBindings : Option (List PhysicalTargetBinding)
  operationKind : OperationKind
  steps : List Step
  state : JournalState
  lastSequence : Nat
  nextStepIndex : Nat
  recovery : RecoveryDirective
  effects : List EffectReceipt
  compensation : Option CompensationLink
  lastFailure : Option StepCheckpoint
  createdAtMs : Int
  updatedAtMs : Int
  deriving DecidableEq

def invalidStream (reason : String) : JournalError := .invalidStream reason

def validIdempotencyKey (value : String) : Bool :=
  value != "" && value.utf8ByteSize ≤ 128
    && value.toList.all (fun character =>
      Orchestration.isAsciiAlphanumeric character || ['.', '_', '-', ':'].contains character)

def Started.validate (started : Started) : Except JournalError Unit := do
  rejectIf (validIdempotencyKey started.idempotencyKey = false)
    (.invalidEvent "idempotencyKey" "must be a bounded stable token")
  rejectIf (started.steps = [] ∨ started.steps.length > maxSteps)
    (.invalidEvent "steps" "must contain between 1 and 256 exact native commands")
  distinct id (Step.validate started.operationKind)
    (.invalidEvent "steps" "must not repeat an identical native command")
    (fun _ => pure ()) [] started.steps
  whenSome started.targetBindings (fun bindings =>
    (validateTargetBindings started.steps bindings).mapError
      (fun error => .invalidEvent "targetBindings" error.message))

def Event.validateRecord (event : Event) : Except JournalError Unit := do
  rejectIf (event.sequence < 1) (.invalidEvent "sequence" "must be positive")
  rejectIf (event.recordedAtMs < 0) (.invalidEvent "recordedAtMs" "must be non-negative")

/-- What the first event opens. -/
def openJournal (first : Event) : Except JournalError Started := do
  first.validateRecord
  rejectIf (first.sequence ≠ 1) (invalidStream "the first event sequence must be 1")
  match first.body with
  | .started started => do
      started.validate
      rejectIf (started.compensationFor = some first.operationId)
        (invalidStream "a compensation operation cannot reference itself")
      pure started
  | _ => throw (invalidStream "sequence 1 must be plugin apply started")

/-- What the events read so far amount to. -/
structure Progress where
  state : JournalState
  nextStepIndex : Nat
  attempts : List Nat
  checkpoint : Option StepCheckpoint
  pendingEffect : Option StepCheckpoint
  failedCheckpoint : Option StepCheckpoint
  effects : List EffectReceipt
  compensation : Option CompensationLink
  updatedAtMs : Int
  deriving DecidableEq

def Progress.initial (started : Started) (recordedAtMs : Int) : Progress where
  state := .applying
  nextStepIndex := 0
  attempts := List.replicate started.steps.length 0
  checkpoint := none
  pendingEffect := none
  failedCheckpoint := none
  effects := []
  compensation := none
  updatedAtMs := recordedAtMs

def validateObservation (sha256 : Sha256) (observation : StateObservation)
    (context : String)
    : Except JournalError Unit :=
  rejectIf (¬observation.hasValidDigest sha256)
    (invalidStream (context ++ " state does not match its target digest"))

def checkedAddOne (value : Nat) (overflow : JournalError) : Except JournalError Nat := do
  rejectIf (value = u32Max) overflow
  pure (value + 1)

/-- The step that a checkpoint is about. Its index was found in the plan when the step was
prepared; the source indexes the plan directly.
-/
def Started.stepAt (started : Started) (stepIndex : Nat) : Except JournalError Step :=
  match started.steps[stepIndex]? with
  | some step => pure step
  | none => throw (invalidStream "step index is outside the plan")

def wrongDirection : OperationKind → EffectDisposition → Bool
  | .install, .removedDureOwned => true
  | .uninstall, .createdDureOwned => true
  | _, _ => false

def validateEffectDisposition (operationKind : OperationKind) (step : Step)
    (beforeDigest afterDigest : TargetStateDigest) (disposition : EffectDisposition)
    : Except JournalError Unit := do
  rejectIf (step.command.isMutation = false)
    (invalidStream "a read-only step cannot record an ownership effect")
  rejectIf (decide (beforeDigest ≠ afterDigest) ≠ disposition.requiresCompensation)
    (invalidStream "effect disposition does not match the observed target digest change")
  rejectIf (wrongDirection operationKind disposition = true)
    (invalidStream "effect disposition points in the wrong lifecycle direction")

namespace Progress

def prepareStep (sha256 : Sha256) (progress : Progress) (stepIndex attempt : Nat)
    (before : StateObservation)
    : Except JournalError Progress := do
  validateObservation sha256 before "step preparation"
  rejectIf
    (progress.state ≠ .applying ∨ progress.checkpoint ≠ none
      ∨ progress.pendingEffect ≠ none ∨ stepIndex ≠ progress.nextStepIndex)
    (invalidStream "step preparation does not match the next runnable step")
  match progress.attempts[stepIndex]? with
  | none => throw (invalidStream "step index is outside the plan")
  | some slot => do
      let expectedAttempt ← checkedAddOne slot (invalidStream "step attempt overflowed")
      rejectIf (attempt ≠ expectedAttempt)
        (invalidStream ("expected step attempt " ++ toString expectedAttempt ++ ", found "
          ++ toString attempt))
      pure
        { progress with
          attempts := progress.attempts.set stepIndex attempt
          checkpoint := some ⟨stepIndex, attempt, before, none, none⟩ }

def observeStep (sha256 : Sha256) (started : Started) (progress : Progress)
    (stepIndex attempt : Nat) (outcome : CommandOutcome) (after : StateObservation)
    : Except JournalError Progress := do
  validateObservation sha256 after "step outcome"
  match progress.checkpoint with
  | none => throw (invalidStream "step outcome has no prepared checkpoint")
  | some prepared => do
      rejectIf (prepared.stepIndex ≠ stepIndex ∨ prepared.attempt ≠ attempt)
        (invalidStream "step outcome does not match the prepared checkpoint")
      let observed := { prepared with outcome := some outcome, after := some after }
      let step ← started.stepAt stepIndex
      if step.command.isMutation then
        pure { progress with checkpoint := none, pendingEffect := some observed }
      else if outcome = .succeeded then do
        let next ← checkedAddOne progress.nextStepIndex (invalidStream "step index overflowed")
        pure { progress with checkpoint := none, nextStepIndex := next }
      else
        pure
          { progress with
            checkpoint := none
            failedCheckpoint := some observed
            state := .recoveryRequired }

/-- An effect is recorded and the next step is due. -/
def pushEffect (started : Started) (progress : Progress) (uncertain : StepCheckpoint)
    (after : StateObservation) (disposition : EffectDisposition)
    : Except JournalError Progress := do
  let step ← started.stepAt uncertain.stepIndex
  validateEffectDisposition started.operationKind step uncertain.before.digest after.digest
    disposition
  let next ← checkedAddOne progress.nextStepIndex (invalidStream "step index overflowed")
  pure
    { progress with
      checkpoint := none
      pendingEffect := none
      effects := progress.effects
        ++ [⟨uncertain.stepIndex, uncertain.attempt, step, uncertain.before, after,
          disposition⟩]
      nextStepIndex := next }

def recordEffect (started : Started) (progress : Progress) (stepIndex attempt : Nat)
    (disposition : EffectDisposition)
    : Except JournalError Progress :=
  match progress.pendingEffect with
  | none => throw (invalidStream "effect has no successful mutation")
  | some observed => do
      rejectIf (observed.stepIndex ≠ stepIndex ∨ observed.attempt ≠ attempt)
        (invalidStream "effect does not match the successful mutation")
      match observed.after with
      | none => throw (invalidStream "successful mutation has no after digest")
      | some after => do
          -- a prepared checkpoint, if there were one, would stay
          let next ← progress.pushEffect started observed after disposition
          pure { next with checkpoint := progress.checkpoint }

/-- The one checkpoint whose end is not known. -/
def uncertain (progress : Progress) : Except JournalError StepCheckpoint :=
  match progress.checkpoint, progress.pendingEffect with
  | some checkpoint, none | none, some checkpoint => pure checkpoint
  | none, none => throw (invalidStream "step reconciliation has no uncertain checkpoint")
  | some _, some _ =>
    throw (invalidStream "step reconciliation found multiple uncertain checkpoints")

def reconcileStep (sha256 : Sha256) (started : Started) (progress : Progress)
    (stepIndex attempt : Nat) (observed : StateObservation) (resolution : StepReconciliation)
    : Except JournalError Progress := do
  validateObservation sha256 observed "step reconciliation"
  let uncertain ← progress.uncertain
  rejectIf (uncertain.stepIndex ≠ stepIndex ∨ uncertain.attempt ≠ attempt)
    (invalidStream "step reconciliation does not match the uncertain checkpoint")
  match resolution with
  | .notApplied => do
      rejectIf (uncertain.outcome = some .succeeded)
        (invalidStream "an observed successful mutation needs an ownership disposition")
      rejectIf (uncertain.before.digest ≠ observed.digest)
        (invalidStream "not-applied reconciliation must preserve the before digest")
      pure { progress with checkpoint := none, pendingEffect := none }
  | .applied disposition => do
      let step ← started.stepAt stepIndex
      rejectIf (step.command.isMutation = false)
        (invalidStream "a read-only step cannot record a mutation effect")
      progress.pushEffect started uncertain observed disposition
  | .diverged =>
    pure
      { progress with
        checkpoint := none
        pendingEffect := none
        failedCheckpoint := some { uncertain with after := some observed }
        state := .recoveryRequired }

def resumeRecovery (started : Started) (progress : Progress) (strategy : RecoveryStrategy)
    : Except JournalError Progress := do
  rejectIf (progress.state ≠ .recoveryRequired)
    (invalidStream "recovery can only resume after an observed command failure")
  match strategy with
  | .forward =>
    match progress.failedCheckpoint with
    | none => throw (invalidStream "recovery has no failed checkpoint")
    | some failure => do
        rejectIf (failure.after.map StateObservation.digest ≠ some failure.before.digest)
          (invalidStream "forward retry requires an unchanged target digest")
        pure { progress with state := .applying, failedCheckpoint := none }
  | .compensateOwned => do
      rejectIf (started.compensationFor ≠ none)
        (invalidStream "a compensation child cannot start nested compensation")
      pure { progress with state := .compensating }

def linkCompensation (sha256 : Sha256) (operationId : OperationId) (started : Started)
    (progress : Progress) (link : CompensationLink)
    : Except JournalError Progress := do
  rejectIf (progress.state ≠ .compensating ∨ progress.compensation ≠ none)
    (invalidStream "compensation can only be linked once after recovery resumes")
  rejectIf (link.operationId = operationId)
    (invalidStream "compensation operation must differ from its parent")
  let identity := compensationIdentity sha256 operationId
  rejectIf (link.operationId ≠ identity.1 ∨ link.idempotencyKey ≠ identity.2)
    (invalidStream "compensation link identity is not deterministic for its parent")
  rejectIf (validIdempotencyKey link.idempotencyKey = false)
    (invalidStream "compensation idempotency key is not a bounded stable identifier")
  (validateCompensationSteps started.operationKind progress.effects link.marketplaceSource
    link.steps).mapError (fun error => invalidStream error.message)
  pure { progress with compensation := some link }

def completeCompensation (progress : Progress) (operationId : OperationId)
    : Except JournalError Progress :=
  match progress.compensation with
  | none => throw (invalidStream "compensation cannot complete before its child is linked")
  | some link => do
      rejectIf (progress.state ≠ .compensating ∨ operationId ≠ link.operationId)
        (invalidStream "compensation completion does not match the linked child")
      pure { progress with state := .compensated }

def succeed (started : Started) (progress : Progress) : Except JournalError Progress := do
  rejectIf
    (progress.state ≠ .applying ∨ progress.checkpoint ≠ none
      ∨ progress.pendingEffect ≠ none ∨ progress.nextStepIndex ≠ started.steps.length)
    (invalidStream "operation cannot succeed before every planned step is recorded")
  pure { progress with state := .succeeded }

def apply (sha256 : Sha256) (operationId : OperationId) (started : Started)
    (progress : Progress)
    : Body → Except JournalError Progress
  | .started _ =>
    throw (invalidStream "plugin apply started may only appear at sequence 1")
  | .stepPrepared stepIndex attempt before =>
    progress.prepareStep sha256 stepIndex attempt before
  | .stepObserved stepIndex attempt outcome after =>
    progress.observeStep sha256 started stepIndex attempt outcome after
  | .effectRecorded stepIndex attempt disposition =>
    progress.recordEffect started stepIndex attempt disposition
  | .stepReconciled stepIndex attempt observed resolution =>
    progress.reconcileStep sha256 started stepIndex attempt observed resolution
  | .recoveryResumed strategy => progress.resumeRecovery started strategy
  | .compensationLinked link => progress.linkCompensation sha256 operationId started link
  | .compensated operationId => progress.completeCompensation operationId
  | .succeeded => progress.succeed started

/-- One turn of the loop: the event at `position`, counted from one. -/
def accept (sha256 : Sha256) (operationId : OperationId) (started : Started)
    (progress : Progress) (position : Nat) (event : Event)
    : Except JournalError Progress := do
  event.validateRecord
  rejectIf (event.sequence ≠ position)
    (invalidStream ("expected sequence " ++ toString position ++ ", found "
      ++ toString event.sequence))
  rejectIf (event.operationId ≠ operationId)
    (invalidStream "an event belongs to a different operation")
  rejectIf (event.recordedAtMs < progress.updatedAtMs)
    (invalidStream "event timestamps must be monotonic")
  rejectIf (progress.state = .compensated ∨ progress.state = .succeeded)
    (invalidStream "events cannot follow a terminal event")
  let next ← progress.apply sha256 operationId started event.body
  pure { next with updatedAtMs := event.recordedAtMs }

def replay (sha256 : Sha256) (operationId : OperationId) (started : Started)
    : Progress → Nat → List Event → Except JournalError Progress
  | progress, _, [] => pure progress
  | progress, position, event :: rest => do
      let next ← progress.accept sha256 operationId started position event
      replay sha256 operationId started next (position + 1) rest

def nextAttempt (progress : Progress) (stepIndex : Nat) : Nat :=
  min u32Max ((progress.attempts[stepIndex]?).getD 0 + 1)

/-- The state that a receipt shows: a step whose end is not known is to be inspected. -/
def shownState (progress : Progress) : JournalState :=
  if progress.state = .applying
      ∧ (progress.checkpoint ≠ none ∨ progress.pendingEffect ≠ none) then
    .inspectBeforeRetry
  else
    progress.state

def directive (progress : Progress) : Except JournalError RecoveryDirective :=
  match progress.shownState with
  | .applying =>
    pure (.continue progress.nextStepIndex (progress.nextAttempt progress.nextStepIndex))
  | .inspectBeforeRetry =>
    match progress.checkpoint.or progress.pendingEffect with
    | some checkpoint => pure (.inspectBeforeRetry checkpoint)
    | none => throw (invalidStream "inspection has no checkpoint")
  | .recoveryRequired =>
    match progress.failedCheckpoint with
    | some checkpoint =>
      pure (.chooseRecovery checkpoint (progress.nextAttempt checkpoint.stepIndex))
    | none => throw (invalidStream "recovery has no failed checkpoint")
  | .compensating =>
    match progress.compensation with
    | some link => pure (.runCompensation link)
    | none => pure (.compensateOwned (ownedEffects progress.effects))
  | .compensated => pure .none
  | .succeeded => pure .none

end Progress

/-- The first event, what it opens, and where the later events lead. -/
def readJournal (sha256 : Sha256) (events : List Event)
    : Except JournalError (Event × Started × Progress) := do
  rejectIf (events.length > maxEvents)
    (invalidStream ("operation exceeds " ++ toString maxEvents ++ " journal events"))
  match events with
  | [] => throw (invalidStream "operation has no events")
  | first :: rest => do
      let started ← openJournal first
      let progress ← Progress.replay sha256 first.operationId started
        (.initial started first.recordedAtMs) 2 rest
      pure (first, started, progress)

def Progress.receipt (progress : Progress) (first : Event) (started : Started)
    (lastSequence : Nat) (recovery : RecoveryDirective)
    : Receipt where
  operationId := first.operationId
  idempotencyKey := started.idempotencyKey
  pluginId := started.pluginId
  pluginVersion := started.pluginVersion
  compensationFor := started.compensationFor
  targetBindings := started.targetBindings
  operationKind := started.operationKind
  steps := started.steps
  state := progress.shownState
  lastSequence := lastSequence
  nextStepIndex := progress.nextStepIndex
  recovery := recovery
  effects := progress.effects
  compensation := progress.compensation
  lastFailure := progress.failedCheckpoint
  createdAtMs := first.recordedAtMs
  updatedAtMs := progress.updatedAtMs

def foldJournal (sha256 : Sha256) (events : List Event) : Except JournalError Receipt := do
  let (first, started, progress) ← readJournal sha256 events
  let recovery ← progress.directive
  pure (progress.receipt first started (events.getLastD first).sequence recovery)

end Dure.Plugin
