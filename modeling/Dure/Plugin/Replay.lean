import Dure.Plugin.Execution

/-! What an accepted event did to the progress of its journal, and how the fold of a journal
is extended by one event.
-/

namespace Dure.Plugin

open Library Check List
open Checkout (OperationId)

variable {sha256 : Sha256} {operationId : OperationId} {started : Started}
  {disposition : EffectDisposition} {journal : List Event} {stepIndex position attempt : Nat}
  {after : StateObservation} {event first : Event} {step : Step} {u : Unit}

@[simp]
theorem validateObservation_ok
    : validateObservation sha256 observation context = .ok u
      ↔ observation.hasValidDigest sha256 := by
  simp [validateObservation]

@[simp]
theorem checkedAddOne_ok {next}
    : checkedAddOne value overflow = .ok next ↔ value ≠ u32Max ∧ value + 1 = next := by
  unfold checkedAddOne
  simp only [seq_ok, rejectIf_ok, pure_ok, ne_eq]

@[simp]
theorem Started.stepAt_ok
    : started.stepAt stepIndex = .ok step ↔ started.steps[stepIndex]? = some step := by
  unfold Started.stepAt
  split
  · rename_i found listed
    simp [listed, pure, Except.pure]
  · rename_i missing
    simp [missing]

/-- An effect that a step may record. -/
structure Effective (started : Started) (step : Step) (before after : TargetStateDigest)
    (disposition : EffectDisposition) : Prop where
  mutation : step.command.isMutation = true
  changed : before ≠ after ↔ disposition.requiresCompensation = true
  direction : wrongDirection started.operationKind disposition = false

theorem validateEffectDisposition_ok {before after : TargetStateDigest}
    : validateEffectDisposition started.operationKind step before after disposition = .ok u
      ↔ Effective started step before after disposition := by
  unfold validateEffectDisposition
  simp only [↓seq_ok, rejectIf_ok, Bool.not_eq_false, Bool.not_eq_true, ne_eq, not_not]
  constructor
  · rintro ⟨mutation, changed, direction⟩
    refine ⟨mutation, ?_, direction⟩
    rw [← changed]
    simp
  · intro effective
    refine ⟨effective.mutation, ?_, effective.direction⟩
    rw [Bool.eq_iff_iff]
    simpa using effective.changed

namespace Progress

/-- The progress after a step's effect was recorded. -/
def effected (progress : Progress) (uncertain : StepCheckpoint) (step : Step)
    (after : StateObservation) (disposition : EffectDisposition)
    : Progress :=
  { progress with
    checkpoint := none
    pendingEffect := none
    effects := progress.effects
      ++ [⟨uncertain.stepIndex, uncertain.attempt, step, uncertain.before, after, disposition⟩]
    nextStepIndex := progress.nextStepIndex + 1 }

theorem pushEffect_ok {progress next : Progress} {uncertain : StepCheckpoint}
    : progress.pushEffect started uncertain after disposition = .ok next
      ↔ ∃ step, started.steps[uncertain.stepIndex]? = some step
        ∧ Effective started step uncertain.before.digest after.digest disposition
        ∧ progress.nextStepIndex ≠ u32Max
        ∧ progress.effected uncertain step after disposition = next := by
  unfold pushEffect
  simp only [bind_ok, Started.stepAt_ok, validateEffectDisposition_ok, checkedAddOne_ok,
    pure_ok]
  constructor
  · rintro ⟨step, found, ⟨⟩, effective, _, ⟨room, rfl⟩, rfl⟩
    exact ⟨step, found, effective, room, rfl⟩
  · rintro ⟨step, found, effective, room, rfl⟩
    exact ⟨step, found, (), effective, _, ⟨room, rfl⟩, rfl⟩

/-- What an accepted body did. -/
inductive Change (sha256 : Sha256) (operationId : OperationId) (started : Started)
    (progress : Progress) : Body → Progress → Prop
  | prepared {attempt : Nat} {before : StateObservation}
    (valid : before.hasValidDigest sha256)
    (applying : progress.state = .applying)
    (free : progress.checkpoint = none)
    (settled : progress.pendingEffect = none)
    (slot : progress.attempts[progress.nextStepIndex]? = some attempt)
    : Change sha256 operationId started progress
        (.stepPrepared progress.nextStepIndex (attempt + 1) before)
        { progress with
          attempts := progress.attempts.set progress.nextStepIndex (attempt + 1)
          checkpoint := some ⟨progress.nextStepIndex, attempt + 1, before, none, none⟩ }
  | mutated {checkpoint : StepCheckpoint} {step : Step} {outcome : CommandOutcome}
    {after : StateObservation}
    (valid : after.hasValidDigest sha256)
    (prepared : progress.checkpoint = some checkpoint)
    (found : started.steps[checkpoint.stepIndex]? = some step)
    (mutation : step.command.isMutation = true)
    : Change sha256 operationId started progress
        (.stepObserved checkpoint.stepIndex checkpoint.attempt outcome after)
        { progress with
          checkpoint := none
          pendingEffect :=
            some { checkpoint with outcome := some outcome, after := some after } }
  | read {checkpoint : StepCheckpoint} {step : Step} {after : StateObservation}
    (valid : after.hasValidDigest sha256)
    (prepared : progress.checkpoint = some checkpoint)
    (found : started.steps[checkpoint.stepIndex]? = some step)
    (readOnly : step.command.isMutation = false)
    : Change sha256 operationId started progress
        (.stepObserved checkpoint.stepIndex checkpoint.attempt .succeeded after)
        { progress with checkpoint := none, nextStepIndex := progress.nextStepIndex + 1 }
  | unread {checkpoint : StepCheckpoint} {step : Step} {outcome : CommandOutcome}
    {after : StateObservation}
    (valid : after.hasValidDigest sha256)
    (prepared : progress.checkpoint = some checkpoint)
    (found : started.steps[checkpoint.stepIndex]? = some step)
    (readOnly : step.command.isMutation = false)
    (failed : outcome ≠ .succeeded)
    : Change sha256 operationId started progress
        (.stepObserved checkpoint.stepIndex checkpoint.attempt outcome after)
        { progress with
          checkpoint := none
          failedCheckpoint :=
            some { checkpoint with outcome := some outcome, after := some after }
          state := .recoveryRequired }
  | recorded {checkpoint : StepCheckpoint} {step : Step} {after : StateObservation}
    {disposition : EffectDisposition}
    (pending : progress.pendingEffect = some checkpoint)
    (observed : checkpoint.after = some after)
    (found : started.steps[checkpoint.stepIndex]? = some step)
    (effective
      : Effective started step checkpoint.before.digest after.digest disposition)
    : Change sha256 operationId started progress
        (.effectRecorded checkpoint.stepIndex checkpoint.attempt disposition)
        { progress.effected checkpoint step after disposition with
          checkpoint := progress.checkpoint }
  | notApplied {checkpoint : StepCheckpoint} {observed : StateObservation}
    (valid : observed.hasValidDigest sha256)
    (uncertain : progress.uncertain = .ok checkpoint)
    (unproven : checkpoint.outcome ≠ some .succeeded)
    (same : checkpoint.before.digest = observed.digest)
    : Change sha256 operationId started progress
        (.stepReconciled checkpoint.stepIndex checkpoint.attempt observed .notApplied)
        { progress with checkpoint := none, pendingEffect := none }
  | applied {checkpoint : StepCheckpoint} {step : Step} {observed : StateObservation}
    {disposition : EffectDisposition}
    (valid : observed.hasValidDigest sha256)
    (uncertain : progress.uncertain = .ok checkpoint)
    (found : started.steps[checkpoint.stepIndex]? = some step)
    (effective
      : Effective started step checkpoint.before.digest observed.digest disposition)
    : Change sha256 operationId started progress
        (.stepReconciled checkpoint.stepIndex checkpoint.attempt observed
          (.applied disposition))
        (progress.effected checkpoint step observed disposition)
  | diverged {checkpoint : StepCheckpoint} {observed : StateObservation}
    (valid : observed.hasValidDigest sha256)
    (uncertain : progress.uncertain = .ok checkpoint)
    : Change sha256 operationId started progress
        (.stepReconciled checkpoint.stepIndex checkpoint.attempt observed .diverged)
        { progress with
          checkpoint := none
          pendingEffect := none
          failedCheckpoint := some { checkpoint with after := some observed }
          state := .recoveryRequired }
  | resumed {failure : StepCheckpoint}
    (required : progress.state = .recoveryRequired)
    (failed : progress.failedCheckpoint = some failure)
    (unchanged : failure.after.map StateObservation.digest = some failure.before.digest)
    : Change sha256 operationId started progress (.recoveryResumed .forward)
        { progress with state := .applying, failedCheckpoint := none }
  | compensating
    (required : progress.state = .recoveryRequired)
    (top : started.compensationFor = none)
    : Change sha256 operationId started progress (.recoveryResumed .compensateOwned)
        { progress with state := .compensating }
  | linked {link : CompensationLink}
    (compensating : progress.state = .compensating)
    : Change sha256 operationId started progress (.compensationLinked link)
        { progress with compensation := some link }
  | compensated {link : CompensationLink}
    (compensating : progress.state = .compensating)
    (linked : progress.compensation = some link)
    : Change sha256 operationId started progress (.compensated link.operationId)
        { progress with state := .compensated }
  | succeeded
    (applying : progress.state = .applying)
    (free : progress.checkpoint = none)
    (settled : progress.pendingEffect = none)
    (complete : progress.nextStepIndex = started.steps.length)
    : Change sha256 operationId started progress .succeeded
        { progress with state := .succeeded }

variable {progress next : Progress}

theorem prepareStep_change
    (accepted : progress.prepareStep sha256 stepIndex attempt before = .ok next)
    : Change sha256 operationId started progress (.stepPrepared stepIndex attempt before)
        next := by
  unfold prepareStep at accepted
  simp only [↓seq_ok, validateObservation_ok, rejectIf_ok, not_or, ne_eq, not_not]
    at accepted
  obtain ⟨valid, ⟨applying, free, settled, rfl⟩, accepted⟩ := accepted
  split at accepted
  · cases accepted
  · rename_i slot found
    simp only [bind_ok, checkedAddOne_ok, rejectIf_ok, pure_ok, not_not] at accepted
    obtain ⟨_, ⟨_, rfl⟩, ⟨⟩, rfl, rfl⟩ := accepted
    exact .prepared valid applying free settled found

theorem observeStep_change
    (accepted : progress.observeStep sha256 started stepIndex attempt outcome after = .ok next)
    : Change sha256 operationId started progress
        (.stepObserved stepIndex attempt outcome after) next := by
  unfold observeStep at accepted
  simp only [↓seq_ok, validateObservation_ok] at accepted
  obtain ⟨valid, accepted⟩ := accepted
  split at accepted
  · cases accepted
  · rename_i checkpoint prepared
    simp only [↓seq_ok, bind_ok, rejectIf_ok, not_or, ne_eq, not_not, Started.stepAt_ok]
      at accepted
    obtain ⟨⟨rfl, rfl⟩, step, found, accepted⟩ := accepted
    split at accepted
    · rename_i mutation
      cases accepted
      exact .mutated valid prepared found mutation
    · rename_i readOnly
      rw [Bool.not_eq_true] at readOnly
      split at accepted
      · rename_i succeeded
        subst succeeded
        simp only [bind_ok, checkedAddOne_ok, pure_ok] at accepted
        obtain ⟨_, ⟨_, rfl⟩, rfl⟩ := accepted
        exact .read valid prepared found readOnly
      · rename_i failed
        cases accepted
        exact .unread valid prepared found readOnly failed

theorem recordEffect_change
    (accepted : progress.recordEffect started stepIndex attempt disposition = .ok next)
    : Change sha256 operationId started progress
        (.effectRecorded stepIndex attempt disposition) next := by
  unfold recordEffect at accepted
  split at accepted
  · cases accepted
  · rename_i checkpoint pending
    simp only [↓seq_ok, rejectIf_ok, not_or, ne_eq, not_not] at accepted
    obtain ⟨⟨rfl, rfl⟩, accepted⟩ := accepted
    split at accepted
    · cases accepted
    · rename_i after observed
      simp only [bind_ok, pushEffect_ok, pure_ok] at accepted
      obtain ⟨_, ⟨step, found, effective, _, rfl⟩, rfl⟩ := accepted
      exact .recorded pending observed found effective

theorem reconcileStep_change {observed : StateObservation} {resolution : StepReconciliation}
    (accepted
      : progress.reconcileStep sha256 started stepIndex attempt observed resolution = .ok next)
    : Change sha256 operationId started progress
        (.stepReconciled stepIndex attempt observed resolution) next := by
  unfold reconcileStep at accepted
  simp only [↓seq_ok, bind_ok, validateObservation_ok, rejectIf_ok, not_or, ne_eq, not_not]
    at accepted
  obtain ⟨valid, checkpoint, uncertain, ⟨rfl, rfl⟩, accepted⟩ := accepted
  cases resolution with
  | notApplied =>
    simp only [seq_ok, rejectIf_ok, pure_ok, not_not] at accepted
    obtain ⟨unproven, same, rfl⟩ := accepted
    exact .notApplied valid uncertain unproven same
  | applied disposition =>
    simp only [↓seq_ok, bind_ok, Started.stepAt_ok, rejectIf_ok, pushEffect_ok] at accepted
    obtain ⟨_, _, _, step, found, effective, _, rfl⟩ := accepted
    exact .applied valid uncertain found effective
  | diverged =>
    cases accepted
    exact .diverged valid uncertain

theorem resumeRecovery_change (accepted : progress.resumeRecovery started strategy = .ok next)
    : Change sha256 operationId started progress (.recoveryResumed strategy) next := by
  unfold Progress.resumeRecovery at accepted
  simp only [↓seq_ok, rejectIf_ok, ne_eq, not_not] at accepted
  obtain ⟨required, accepted⟩ := accepted
  cases strategy with
  | forward =>
    simp only at accepted
    split at accepted
    · cases accepted
    · rename_i failure failed
      simp only [seq_ok, rejectIf_ok, pure_ok, not_not] at accepted
      obtain ⟨unchanged, rfl⟩ := accepted
      exact .resumed required failed unchanged
  | compensateOwned =>
    simp only [seq_ok, rejectIf_ok, pure_ok, not_not] at accepted
    obtain ⟨top, rfl⟩ := accepted
    exact .compensating required top

/-- Witness: one case per body; the checks that passed are the premises of its change. -/
theorem apply_change (accepted : progress.apply sha256 operationId started body = .ok next)
    : Change sha256 operationId started progress body next := by
  cases body with
  | started => cases accepted
  | stepPrepared stepIndex attempt before => exact prepareStep_change accepted
  | stepObserved stepIndex attempt outcome after => exact observeStep_change accepted
  | effectRecorded stepIndex attempt disposition => exact recordEffect_change accepted
  | stepReconciled stepIndex attempt observed resolution =>
    exact reconcileStep_change accepted
  | recoveryResumed strategy => exact resumeRecovery_change accepted
  | compensationLinked link =>
    simp only [apply] at accepted
    unfold linkCompensation at accepted
    simp only [↓seq_ok, rejectIf_ok, not_or, ne_eq, not_not, pure_ok] at accepted
    obtain ⟨⟨compensating, _⟩, _, _, _, _, rfl⟩ := accepted
    exact .linked compensating
  | compensated child =>
    simp only [apply] at accepted
    unfold completeCompensation at accepted
    split at accepted
    · cases accepted
    · rename_i link linked
      simp only [seq_ok, rejectIf_ok, not_or, ne_eq, not_not, pure_ok] at accepted
      obtain ⟨⟨compensating, rfl⟩, rfl⟩ := accepted
      exact .compensated compensating linked
  | succeeded =>
    simp only [apply] at accepted
    unfold succeed at accepted
    simp only [seq_ok, rejectIf_ok, not_or, ne_eq, not_not, pure_ok] at accepted
    obtain ⟨⟨applying, free, settled, complete⟩, rfl⟩ := accepted
    exact .succeeded applying free settled complete

/-- What an event has to be to stand at a position, whatever it carries. -/
structure Placed (operationId : OperationId) (progress : Progress) (position : Nat)
    (event : Event) : Prop where
  positive : 1 ≤ event.sequence
  recorded : 0 ≤ event.recordedAtMs
  sequence : event.sequence = position
  operation : event.operationId = operationId
  ordered : progress.updatedAtMs ≤ event.recordedAtMs
  live : progress.state ≠ .compensated ∧ progress.state ≠ .succeeded

theorem accept_ok
    : progress.accept sha256 operationId started position event = .ok next
      ↔ Placed operationId progress position event
        ∧ ∃ changed, progress.apply sha256 operationId started event.body = .ok changed
          ∧ { changed with updatedAtMs := event.recordedAtMs } = next := by
  unfold accept Event.validateRecord
  simp only [↓seq_ok, bind_ok, rejectIf_ok, pure_ok, not_or, ne_eq, not_not, Int.not_lt,
    Nat.not_lt]
  constructor
  · rintro ⟨⟨positive, recorded⟩, sequence, operation, ordered, live, changed⟩
    exact ⟨⟨positive, recorded, sequence, operation, ordered, live⟩, changed⟩
  · rintro ⟨placed, changed⟩
    exact ⟨⟨placed.positive, placed.recorded⟩, placed.sequence, placed.operation,
      placed.ordered, placed.live, changed⟩

theorem replay_append
    : progress.replay sha256 operationId started position (events ++ [event]) = .ok next
      ↔ ∃ middle, progress.replay sha256 operationId started position events = .ok middle
        ∧ middle.accept sha256 operationId started (position + events.length) event
          = .ok next := by
  induction events generalizing progress position with
  | nil => simp [replay]
  | cons first rest ih =>
    simp only [cons_append, replay, bind_ok, ih, length_cons]
    constructor
    · rintro ⟨second, here, middle, later, last⟩
      refine ⟨middle, ⟨second, here, later⟩, ?_⟩
      rwa [Nat.add_assoc, Nat.add_comm 1] at last
    · rintro ⟨middle, ⟨second, here, later⟩, last⟩
      refine ⟨second, here, middle, later, ?_⟩
      rwa [Nat.add_assoc, Nat.add_comm 1]

end Progress

/-- A journal reads as it did before, then its last event. -/
theorem readJournal_append (started : Started) (nonempty : journal ≠ [])
    : readJournal sha256 (journal ++ [event]) = .ok (first, started, progress)
      ↔ journal.length < maxEvents
        ∧ ∃ before, readJournal sha256 journal = .ok (first, started, before)
          ∧ before.accept sha256 first.operationId started (journal.length + 1) event
            = .ok progress := by
  cases journal with
  | nil => exact absurd rfl nonempty
  | cons opening rest =>
    have place : 2 + rest.length = (opening :: rest).length + 1 := by
      simp only [length_cons]
      omega
    unfold readJournal
    simp only [↓seq_ok, bind_ok, rejectIf_ok, cons_append, pure_ok, Prod.mk.injEq,
      Progress.replay_append, Nat.not_lt, length_cons, length_append,
      length_nil]
    constructor
    · rintro ⟨room, _, opened, _, ⟨middle, replayed, accepted⟩, rfl, rfl, rfl⟩
      refine ⟨by omega, middle,
        ⟨by omega, _, opened, _, replayed, rfl, rfl, rfl⟩, ?_⟩
      rwa [place] at accepted
    · rintro ⟨room, middle, ⟨_, _, opened, _, replayed, rfl, rfl, rfl⟩, accepted⟩
      refine ⟨by omega, _, opened, _, ⟨_, replayed, ?_⟩, rfl, rfl, rfl⟩
      rwa [place]

/-- The last event is numbered by its place. -/
theorem readJournal_lastSequence
    (read : readJournal sha256 journal = .ok (first, started, progress))
    : (journal.getLastD first).sequence = journal.length := by
  rcases eq_nil_or_concat journal with rfl | ⟨earlier, last, rfl⟩
  · simp [readJournal] at read
  · rw [concat_eq_append] at read ⊢
    rw [getLastD_concat, length_append, length_singleton]
    rcases eq_nil_or_concat earlier with rfl | ⟨start, previous, rfl⟩
    · unfold readJournal openJournal at read
      simp only [↓seq_ok, bind_ok, rejectIf_ok, nil_append, ne_eq, not_not] at read
      obtain ⟨_, _, ⟨_, numbered, _⟩, _⟩ := read
      exact numbered
    · obtain ⟨_, _, _, accepted⟩ := (readJournal_append started (by simp)).mp read
      exact (Progress.accept_ok.mp accepted).1.sequence

theorem foldJournal_ok
    : foldJournal sha256 journal = .ok receipt
      ↔ ∃ first started progress recovery,
        readJournal sha256 journal = .ok (first, started, progress)
        ∧ progress.directive = .ok recovery
        ∧ progress.receipt first started journal.length recovery = receipt := by
  unfold foldJournal
  simp only [bind_ok, pure_ok, Prod.exists]
  constructor
  · rintro ⟨first, started, progress, read, recovery, directed, rfl⟩
    refine ⟨first, started, progress, recovery, read, directed, ?_⟩
    rw [readJournal_lastSequence read]
  · rintro ⟨first, started, progress, recovery, read, directed, rfl⟩
    refine ⟨first, started, progress, read, recovery, directed, ?_⟩
    rw [readJournal_lastSequence read]

end Dure.Plugin
