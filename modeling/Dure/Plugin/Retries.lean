import Mathlib
import Dure.Plugin.Replay

/-! A prepared attempt of a step, followed through the rest of its journal: the step is
prepared again only after the attempt was recorded as not applied, or after the user resumed
over an unchanged target.
-/

namespace Dure.Plugin

open Library Check List
open Checkout (OperationId)

variable {sha256 : Sha256} {operationId : OperationId} {started : Started}
  {stepIndex attempt : Nat} {before : StateObservation}

def Started.AllMutations (started : Started) : Prop :=
  ∀ step ∈ started.steps, step.command.isMutation = true

/-- The events after an attempt's preparation allow the next attempt. -/
inductive Released (stepIndex attempt : Nat) (before : StateObservation)
    (later : List Event) : Prop
  | notApplied {event : Event} {observed : StateObservation} (recorded : event ∈ later)
    (resolved : event.body = .stepReconciled stepIndex attempt observed .notApplied)
  | resumed {earlier between rest : List Event} {failure resumption : Event}
    {observed : StateObservation}
    (split : later = earlier ++ failure :: (between ++ resumption :: rest))
    (diverged : failure.body = .stepReconciled stepIndex attempt observed .diverged)
    (unchanged : observed.digest = before.digest)
    (forward : resumption.body = .recoveryResumed .forward)

theorem Released.append (released : Released stepIndex attempt before later)
    : Released stepIndex attempt before (later ++ [event]) := by
  cases released with
  | notApplied recorded resolved =>
    exact .notApplied (mem_append_left _ recorded) resolved
  | @resumed earlier between rest failure resumption _ split diverged unchanged forward =>
    have longer : later ++ [event]
        = earlier ++ failure :: (between ++ resumption :: (rest ++ [event])) := by
      simp [split]
    exact .resumed longer diverged unchanged forward

/-- Where a prepared attempt stands when the events after its preparation have been read. -/
inductive Standing (stepIndex attempt : Nat) (before : StateObservation)
    (later : List Event) (progress : Progress) : Prop
  | prepared {checkpoint : StepCheckpoint}
    (there : progress.checkpoint = some checkpoint)
    (settled : progress.pendingEffect = none)
    (index : checkpoint.stepIndex = stepIndex)
    (tried : checkpoint.attempt = attempt)
    (start : checkpoint.before = before)
    (due : progress.nextStepIndex = stepIndex)
    (applying : progress.state = .applying)
  | observed {checkpoint : StepCheckpoint}
    (free : progress.checkpoint = none)
    (there : progress.pendingEffect = some checkpoint)
    (index : checkpoint.stepIndex = stepIndex)
    (tried : checkpoint.attempt = attempt)
    (start : checkpoint.before = before)
    (due : progress.nextStepIndex = stepIndex)
    (applying : progress.state = .applying)
  | passed (past : stepIndex < progress.nextStepIndex)
  | failed {failure : StepCheckpoint} {earlier rest : List Event} {event : Event}
    {observed : StateObservation}
    (free : progress.checkpoint = none)
    (settled : progress.pendingEffect = none)
    (required : progress.state = .recoveryRequired)
    (there : progress.failedCheckpoint = some failure)
    (start : failure.before = before)
    (shown : failure.after = some observed)
    (split : later = earlier ++ event :: rest)
    (diverged : event.body = .stepReconciled stepIndex attempt observed .diverged)
  | closed
    (free : progress.checkpoint = none)
    (settled : progress.pendingEffect = none)
    (ended : progress.state ≠ .applying ∧ progress.state ≠ .recoveryRequired)
  | released (released : Released stepIndex attempt before later)

variable {checkpoint : StepCheckpoint} {first : Event}

namespace Progress

variable {progress : Progress}

theorem uncertain_checkpoint (there : progress.checkpoint = some prepared)
    (settled : progress.pendingEffect = none) (uncertain : progress.uncertain = .ok checkpoint)
    : checkpoint = prepared := by
  simp only [Progress.uncertain, there, settled, pure_ok] at uncertain
  exact uncertain.symm

theorem uncertain_pending (free : progress.checkpoint = none)
    (there : progress.pendingEffect = some observed)
    (uncertain : progress.uncertain = .ok checkpoint)
    : checkpoint = observed := by
  simp only [Progress.uncertain, there, free, pure_ok] at uncertain
  exact uncertain.symm

theorem uncertain_none (free : progress.checkpoint = none)
    (settled : progress.pendingEffect = none)
    : progress.uncertain ≠ .ok checkpoint := by
  simp [Progress.uncertain, free, settled]

/-- Steps are passed in order and none is returned to. -/
theorem Change.nextStepIndex_le {next} (change : Change sha256 operationId started progress body next)
    : progress.nextStepIndex ≤ next.nextStepIndex := by
  cases change with
  | read | recorded | applied => exact Nat.le_succ _
  | _ => exact Nat.le_refl _

end Progress

open Progress

/-- A mutation is never observed as a read. -/
theorem Started.AllMutations.step {step : Step} (mutations : started.AllMutations)
    (found : started.steps[stepIndex]? = some step)
    : step.command.isMutation = true :=
  mutations step (mem_of_getElem? found)

section

variable {progress next : Progress} {later : List Event} {event : Event}

theorem Standing.prepared_step (mutations : started.AllMutations)
    (change : Change sha256 operationId started progress event.body next)
    (there : progress.checkpoint = some checkpoint) (settled : progress.pendingEffect = none)
    (index : checkpoint.stepIndex = stepIndex) (tried : checkpoint.attempt = attempt)
    (start : checkpoint.before = before) (due : progress.nextStepIndex = stepIndex)
    (applying : progress.state = .applying)
    : Standing stepIndex attempt before (later ++ [event]) next := by
  generalize carried : event.body = body at change
  cases change with
  | prepared _ _ free | succeeded _ free => simp [there] at free
  | mutated valid prepared found mutation =>
    obtain rfl := Option.some.inj (prepared.symm.trans there)
    exact .observed rfl rfl index tried start due applying
  | read valid prepared found readOnly | unread valid prepared found readOnly =>
    simp [mutations.step found] at readOnly
  | recorded pending => simp [settled] at pending
  | notApplied valid uncertain unproven same =>
    obtain rfl := uncertain_checkpoint there settled uncertain
    rw [index, tried] at carried
    exact .released (.notApplied mem_concat_self carried)
  | applied valid uncertain found effective =>
    refine .passed ?_
    simp [Progress.effected, due]
  | diverged valid uncertain =>
    obtain rfl := uncertain_checkpoint there settled uncertain
    rw [index, tried] at carried
    exact .failed rfl rfl rfl rfl start rfl rfl carried
  | resumed required | compensating required => simp [applying] at required
  | linked compensating | compensated compensating => simp [applying] at compensating

section

variable (change : Change sha256 operationId started progress event.body next)
include change

theorem Standing.observed_step (free : progress.checkpoint = none)
    (there : progress.pendingEffect = some checkpoint)
    (index : checkpoint.stepIndex = stepIndex) (tried : checkpoint.attempt = attempt)
    (start : checkpoint.before = before) (due : progress.nextStepIndex = stepIndex)
    (applying : progress.state = .applying)
    : Standing stepIndex attempt before (later ++ [event]) next := by
  generalize carried : event.body = body at change
  cases change with
  | prepared _ _ _ settled | succeeded _ _ settled => simp [there] at settled
  | mutated valid prepared | read valid prepared | unread valid prepared =>
    simp [free] at prepared
  | recorded pending observed found effective | applied valid uncertain found effective =>
    refine .passed ?_
    simp [Progress.effected, due]
  | notApplied valid uncertain unproven same =>
    obtain rfl := uncertain_pending free there uncertain
    rw [index, tried] at carried
    exact .released (.notApplied mem_concat_self carried)
  | diverged valid uncertain =>
    obtain rfl := uncertain_pending free there uncertain
    rw [index, tried] at carried
    exact .failed rfl rfl rfl rfl start rfl rfl carried
  | resumed required | compensating required => simp [applying] at required
  | linked compensating | compensated compensating => simp [applying] at compensating

/-- Nothing but the user's choice follows a failure. -/
theorem Standing.failed_step
    {failure : StepCheckpoint} {earlier rest : List Event} {cause : Event}
    {observed : StateObservation} (free : progress.checkpoint = none)
    (settled : progress.pendingEffect = none) (required : progress.state = .recoveryRequired)
    (there : progress.failedCheckpoint = some failure) (start : failure.before = before)
    (shown : failure.after = some observed) (split : later = earlier ++ cause :: rest)
    (diverged : cause.body = .stepReconciled stepIndex attempt observed .diverged)
    : Standing stepIndex attempt before (later ++ [event]) next := by
  generalize carried : event.body = body at change
  cases change with
  | resumed _ failed unchanged =>
    obtain rfl := Option.some.inj (failed.symm.trans there)
    rw [shown, start, Option.map_some] at unchanged
    have longer : later ++ [event] = earlier ++ cause :: (rest ++ event :: []) := by
      rw [split, append_assoc, cons_append]
    exact .released (.resumed longer diverged (Option.some.inj unchanged) carried)
  | compensating => exact .closed free settled ⟨by simp, by simp⟩
  | prepared _ applying | succeeded applying => simp [required] at applying
  | mutated valid prepared | read valid prepared | unread valid prepared =>
    simp [free] at prepared
  | recorded pending => simp [settled] at pending
  | notApplied valid uncertain | applied valid uncertain | diverged valid uncertain =>
    exact absurd uncertain (uncertain_none free settled)
  | linked compensating | compensated compensating => simp [required] at compensating

theorem Standing.closed_step
    (free : progress.checkpoint = none) (settled : progress.pendingEffect = none)
    (ended : progress.state ≠ .applying ∧ progress.state ≠ .recoveryRequired)
    : Standing stepIndex attempt before (later ++ [event]) next := by
  generalize event.body = body at change
  cases change with
  | linked compensating => exact .closed free settled ended
  | compensated compensating => exact .closed free settled ⟨by simp, by simp⟩
  | prepared _ applying | succeeded applying => exact absurd applying ended.1
  | mutated valid prepared | read valid prepared | unread valid prepared =>
    simp [free] at prepared
  | recorded pending => simp [settled] at pending
  | notApplied valid uncertain | applied valid uncertain | diverged valid uncertain =>
    exact absurd uncertain (uncertain_none free settled)
  | resumed required | compensating required => exact absurd required ended.2

end

/-- One event more. Witness: by where the attempt stood; an open attempt is closed only by
an event that names it.
-/
theorem Standing.step (mutations : started.AllMutations)
    (standing : Standing stepIndex attempt before later progress)
    (change : Change sha256 operationId started progress event.body next)
    : Standing stepIndex attempt before (later ++ [event]) next := by
  cases standing with
  | prepared there settled index tried start due applying =>
    exact .prepared_step mutations change there settled index tried start due applying
  | observed free there index tried start due applying =>
    exact .observed_step change free there index tried start due applying
  | passed past => exact .passed (Nat.lt_of_lt_of_le past change.nextStepIndex_le)
  | failed free settled required there start shown split diverged =>
    exact .failed_step change free settled required there start shown split diverged
  | closed free settled ended => exact .closed_step change free settled ended
  | released released => exact .released released.append

/-- The time of an event does not move an attempt. -/
theorem Standing.at_time (standing : Standing stepIndex attempt before later progress)
    : Standing stepIndex attempt before later { progress with updatedAtMs := time } := by
  cases standing with
  | prepared there settled index tried start due applying =>
    exact .prepared there settled index tried start due applying
  | observed free there index tried start due applying =>
    exact .observed free there index tried start due applying
  | passed past => exact .passed past
  | failed free settled required there start shown split diverged =>
    exact .failed free settled required there start shown split diverged
  | closed free settled ended => exact .closed free settled ended
  | released released => exact .released released

end

/-- A journal that was read starts with the event that opens it. -/
theorem readJournal_ne_nil (read : readJournal sha256 journal = .ok (first, started, progress))
    : journal ≠ [] := by
  rintro rfl
  simp [readJournal] at read

theorem readJournal_opened (read : readJournal sha256 [event] = .ok (first, started, progress))
    : event.body = .started started ∧ first = event
      ∧ progress = .initial started event.recordedAtMs := by
  unfold readJournal at read
  simp only [↓seq_ok, bind_ok, rejectIf_ok, Progress.replay, pure_ok, Prod.mk.injEq] at read
  obtain ⟨_, opened, opens, _, rfl, rfl, rfl, rfl⟩ := read
  unfold openJournal at opens
  simp only [↓seq_ok, rejectIf_ok] at opens
  obtain ⟨_, _, opens⟩ := opens
  split at opens
  · rename_i body carried
    simp only [↓seq_ok, rejectIf_ok, pure_ok] at opens
    obtain ⟨_, _, rfl⟩ := opens
    exact ⟨carried, rfl, rfl⟩
  · cases opens

/-- Where an attempt stands after its journal was read. Witness: induction on the events
after the preparation, one change at a time.
-/
theorem standing_of_read (mutations : started.AllMutations)
    (prepares : preparation.body = .stepPrepared stepIndex attempt before)
    (read
      : readJournal sha256 (earlier ++ preparation :: later) = .ok (first, started, progress))
    : Standing stepIndex attempt before later progress := by
  induction later using reverseRecOn generalizing progress with
  | nil =>
    have opened : earlier ≠ [] := by
      rintro rfl
      obtain ⟨carried, _, _⟩ := readJournal_opened read
      rw [prepares] at carried
      cases carried
    obtain ⟨_, prior, _, accepted⟩ := (readJournal_append started opened).mp read
    obtain ⟨_, changed, applies, rfl⟩ := accept_ok.mp accepted
    have change := apply_change applies
    rw [prepares] at change
    cases change with
    | prepared valid applying free settled slot =>
      exact .prepared rfl settled rfl rfl rfl rfl applying
  | append_singleton middle last ih =>
    have opened : earlier ++ preparation :: middle ≠ [] := by simp
    rw [show earlier ++ preparation :: (middle ++ [last])
      = (earlier ++ preparation :: middle) ++ [last] by simp] at read
    obtain ⟨_, prior, priorRead, accepted⟩ := (readJournal_append started opened).mp read
    obtain ⟨_, changed, applies, rfl⟩ := accept_ok.mp accepted
    exact ((ih priorRead).step mutations (apply_change applies)).at_time

/-- A step that is due again has released its earlier attempts. -/
theorem Standing.released_of_due (standing : Standing stepIndex attempt before later progress)
    (applying : progress.state = .applying) (free : progress.checkpoint = none)
    (settled : progress.pendingEffect = none) (due : progress.nextStepIndex = stepIndex)
    : Released stepIndex attempt before later := by
  cases standing with
  | prepared there => simp [free] at there
  | observed _ there => simp [settled] at there
  | passed past => omega
  | failed _ _ required => simp [applying] at required
  | closed _ _ ended => exact absurd applying ended.1
  | released released => exact released

end Dure.Plugin
