import Dure.Plugin.Continuation
import Dure.Plugin.Ownership

/-! The effect that an accepted event leaves in its receipt, and that it is the one that the
executor classified.
-/

namespace Dure.Plugin

open Library Check List
open Checkout (OperationId)
open Progress

variable {sha256 : Sha256} {journal : List Event} {event : Event} {receipt : Receipt}

/-- A receipt of a longer journal tells what its last event did. -/
theorem foldJournal_append (nonempty : journal ≠ [])
    (folded : foldJournal sha256 (journal ++ [event]) = .ok receipt)
    : ∃ first started progress changed recovery,
      readJournal sha256 journal = .ok (first, started, progress)
      ∧ Placed first.operationId progress (journal.length + 1) event
      ∧ Change sha256 first.operationId started progress event.body changed
      ∧ receipt = { changed with updatedAtMs := event.recordedAtMs }.receipt first started
        (journal.length + 1) recovery := by
  obtain ⟨first, started, next, recovery, read, _, rfl⟩ := foldJournal_ok.mp folded
  obtain ⟨_, progress, prior, accepted⟩ := (readJournal_append started nonempty).mp read
  obtain ⟨placed, changed, applies, rfl⟩ := accept_ok.mp accepted
  refine ⟨first, started, progress, changed, recovery, prior, placed,
    apply_change applies, ?_⟩
  rw [length_append, length_singleton]

/-- Only a journal that was opened records an effect. -/
theorem journal_ne_nil_of_effect
    (effect : journalEffect event.body = some (stepIndex, attempt, disposition))
    (folded : foldJournal sha256 (journal ++ [event]) = .ok receipt)
    : journal ≠ [] := by
  rintro rfl
  obtain ⟨_, _, _, _, read, _⟩ := foldJournal_ok.mp folded
  obtain ⟨carried, _⟩ := readJournal_opened read
  rw [carried] at effect
  cases effect

variable {progress : Progress} {started : Started} {outcome : CommandOutcome}
  {after : StateObservation} {version : Version} {command : Command} {first : Event}

/-- A journal that was read started with a plan that passed its checks. -/
theorem readJournal_plan (read : readJournal sha256 journal = .ok (first, started, progress))
    : first ∈ journal ∧ first.body = .started started ∧ started.validate = .ok () := by
  cases journal with
  | nil => simp [readJournal] at read
  | cons opening rest =>
    unfold readJournal openJournal at read
    simp only [↓seq_ok, bind_ok, rejectIf_ok] at read
    obtain ⟨_, _, ⟨_, _, opens⟩, _, _, ended⟩ := read
    split at opens
    · rename_i carried
      simp only [↓seq_ok, rejectIf_ok, pure_ok] at opens
      obtain ⟨valid, _, rfl⟩ := opens
      cases ended
      exact ⟨mem_cons_self, carried, valid⟩
    · cases opens

theorem foldJournal_plan (folded : foldJournal sha256 journal = .ok receipt)
    : ∃ first ∈ journal, ∃ started, first.body = .started started
      ∧ started.steps = receipt.steps := by
  obtain ⟨first, started, _, _, read, _, rfl⟩ := foldJournal_ok.mp folded
  obtain ⟨member, carried, _⟩ := readJournal_plan read
  exact ⟨first, member, started, carried, rfl⟩

theorem Started.validate_step (valid : started.validate = .ok ())
    (member : step ∈ started.steps)
    : step.validate started.operationKind = .ok () := by
  unfold Started.validate at valid
  simp only [↓seq_ok, distinct_ok] at valid
  exact (valid.2.2.1.1 step member).1

/-- The numbers of a journal's events are their places. -/
theorem readJournal_sequence
    (read : readJournal sha256 journal = .ok (first, started, progress))
    : ∀ other ∈ journal, other.sequence ≤ journal.length := by
  induction journal using reverseRecOn generalizing progress with
  | nil => simp
  | append_singleton earlier last ih =>
    have ended := readJournal_lastSequence read
    rw [getLastD_concat] at ended
    intro other member
    rcases mem_append.mp member with before | last_
    · by_cases opened : earlier = []
      · simp [opened] at before
      · obtain ⟨_, _, prior, _⟩ := (readJournal_append started opened).mp read
        have bound := ih prior other before
        rw [length_append]
        omega
    · obtain rfl := mem_singleton.mp last_
      exact ended.le

/-- The effect that an accepted event left at the end of its receipt. -/
structure Recorded (event : Event) (receipt : Receipt) (effect : EffectReceipt)
    : Prop where
  operation : receipt.operationId = event.operationId
  sequence : receipt.lastSequence = event.sequence
  time : receipt.updatedAtMs = event.recordedAtMs
  past : 0 ≤ event.recordedAtMs
  last : receipt.effects.getLast? = some effect
  mutation : effect.step.command.isMutation = true
  planned : effect.step ∈ receipt.steps
  valid : effect.step.validate receipt.operationKind = .ok ()

section

variable {stepIndex attempt : Nat} {disposition : EffectDisposition}

/-- Witness: the two kinds of events that record an effect append it to the receipt. -/
theorem recorded_of_effect
    (carried : journalEffect event.body = some (stepIndex, attempt, disposition))
    (folded : foldJournal sha256 (journal ++ [event]) = .ok receipt)
    : ∃ effect, Recorded event receipt effect
      ∧ effect.stepIndex = stepIndex ∧ effect.attempt = attempt
      ∧ effect.disposition = disposition := by
  obtain ⟨first, started, progress, changed, recovery, read, placed, change, rfl⟩ :=
    foldJournal_append (journal_ne_nil_of_effect carried folded) folded
  obtain ⟨_, _, validated⟩ := readJournal_plan read
  have recorded (checkpoint : StepCheckpoint) (step : Step) (after : StateObservation)
      (found : started.steps[checkpoint.stepIndex]? = some step)
      (mutation : step.command.isMutation = true)
      (effects : changed.effects = progress.effects
        ++ [⟨checkpoint.stepIndex, checkpoint.attempt, step, checkpoint.before, after,
          disposition⟩])
      : Recorded event
          ({ changed with updatedAtMs := event.recordedAtMs }.receipt first started
            (journal.length + 1) recovery)
          ⟨checkpoint.stepIndex, checkpoint.attempt, step, checkpoint.before, after,
            disposition⟩ :=
    {
      operation := placed.operation.symm
      sequence := placed.sequence.symm
      time := rfl
      past := placed.recorded
      last := by simp [Progress.receipt, effects]
      mutation
      planned := mem_of_getElem? found
      valid := Started.validate_step validated (mem_of_getElem? found)
    }
  generalize event.body = body at carried change
  cases change with
  | recorded pending observed found effective | applied valid uncertain found effective =>
    cases carried
    exact ⟨_, recorded _ _ _ found effective.mutation rfl, rfl, rfl, rfl⟩
  | _ => cases carried

end

/-- An effect that was classified on the states its receipt shows. -/
structure EffectDecided (ownership : ExistingOwnership) (receipt : Receipt)
    (effect : EffectReceipt) : Prop where
  last : receipt.effects.getLast? = some effect
  classified : classifyMutation effect.step.command receipt.pluginVersion ownership
    effect.before.state effect.after.state = .ok effect.disposition

/-- A journal that asks for an inspection is uncertain about that step. -/
theorem Progress.directive_inspects {checkpoint : StepCheckpoint}
    (directed : progress.directive = .ok (.inspectBeforeRetry checkpoint))
    : progress.checkpoint.or progress.pendingEffect = some checkpoint := by
  unfold directive at directed
  split at directed
  · cases directed
  · split at directed
    · rename_i found
      cases directed
      exact found
    · cases directed
  · split at directed <;> cases directed
  · split at directed <;> cases directed
  · cases directed
  · cases directed

theorem Progress.uncertain_or {checkpoint : StepCheckpoint}
    (uncertain : progress.uncertain = .ok checkpoint)
    : progress.checkpoint.or progress.pendingEffect = some checkpoint := by
  unfold Progress.uncertain at uncertain
  split at uncertain <;> cases uncertain
  · rename_i prepared settled
    rw [prepared, settled]
    rfl
  · rename_i free pending
    rw [free, pending]
    rfl

theorem reconcileCheckpoint_applied {ownership : ExistingOwnership}
    {checkpoint : StepCheckpoint}
    (reconciled : reconcileCheckpoint sha256 command version ownership checkpoint observed
      = .ok (.applied disposition))
    : classifyMutation command version ownership checkpoint.before.state observed.state
      = .ok disposition := by
  have classifies (after : TargetState)
      (applied : classifyReconciledMutation command version ownership
        checkpoint.before.state after = .applied disposition)
      : classifyMutation command version ownership checkpoint.before.state after
        = .ok disposition := by
    unfold classifyReconciledMutation at applied
    split at applied
    · rename_i classified
      cases applied
      exact classified
    · cases applied
  unfold reconcileCheckpoint at reconciled
  simp only [↓seq_ok, rejectIf_ok] at reconciled
  obtain ⟨_, _, _, reconciled⟩ := reconciled
  split at reconciled
  · split at reconciled
    · cases reconciled
    · exact classifies _ (pure_ok.mp reconciled)
  · split at reconciled
    · cases reconciled
    · split at reconciled
      · cases reconciled
      · rename_i same
        rw [not_not] at same
        subst same
        exact classifies _ (pure_ok.mp reconciled)
  · cases reconciled

/-- The bodies of a completed step that end in an effect. -/
theorem completeApplyStep_effect {ownership : ExistingOwnership} {checkpoint : StepCheckpoint}
    {first last : Body}
    (completed : completeApplyStep sha256 command version ownership checkpoint outcome after
      = .ok [first, last])
    (carried : journalEffect last = some (stepIndex, attempt, disposition))
    : first = .stepObserved checkpoint.stepIndex checkpoint.attempt outcome after
      ∧ last = .effectRecorded checkpoint.stepIndex checkpoint.attempt disposition
      ∧ command.isMutation = true
      ∧ classifyMutation command version ownership checkpoint.before.state after.state
        = .ok disposition := by
  unfold completeApplyStep at completed
  simp only [↓seq_ok, rejectIf_ok] at completed
  obtain ⟨_, _, _, completed⟩ := completed
  split at completed
  · cases completed
  · rename_i mutation
    split at completed
    · cases completed
      cases carried
    · split at completed
      · rename_i classified
        cases completed
        cases carried
        exact ⟨rfl, rfl, by simpa using mutation, classified⟩
      · cases completed
        cases carried

section

variable {earlier : List Event} {observed : Event} {prior : Receipt}
  {checkpoint : StepCheckpoint} {step : Step} {ownership : ExistingOwnership}
  {stepIndex attempt : Nat} {disposition : EffectDisposition}

/-- The effect that the executor records after it ran a command. -/
theorem completed_decided (folded : foldJournal sha256 earlier = .ok prior)
    (due : prior.recovery = .inspectBeforeRetry checkpoint)
    (found : prior.steps[checkpoint.stepIndex]? = some step)
    (completed : completeApplyStep sha256 step.command prior.pluginVersion ownership
      checkpoint outcome after = .ok [observed.body, event.body])
    (carried : journalEffect event.body = some (stepIndex, attempt, disposition))
    (accepted : foldJournal sha256 (earlier ++ [observed] ++ [event]) = .ok receipt)
    : ∃ effect, EffectDecided ownership receipt effect ∧ effect.step = step := by
  obtain ⟨watched, ended, mutation, classified⟩ := completeApplyStep_effect completed carried
  obtain ⟨first, started, before, recovery, read, directed, rfl⟩ := foldJournal_ok.mp folded
  obtain ⟨_, _, progress, changed, _, seen, _, change, rfl⟩ :=
    foldJournal_append (by simp) accepted
  obtain ⟨_, middle, again, stepped⟩ :=
    (readJournal_append _ (readJournal_ne_nil read)).mp seen
  obtain ⟨_, next, applies, rfl⟩ := accept_ok.mp stepped
  cases read.symm.trans again
  have observes := apply_change applies
  have inspects := Progress.directive_inspects (directed.trans (congrArg Except.ok due))
  generalize observed.body = observation at watched observes
  generalize event.body = recorded at ended change
  cases observes with
  | @mutated prepared planned _ _ valid held listed changes =>
    rw [held, Option.some_or] at inspects
    cases inspects
    cases watched
    cases listed.symm.trans found
    cases change with
    | @recorded pending _ _ _ awaiting watches here effective =>
      cases awaiting
      cases watches
      cases ended
      cases here.symm.trans found
      exact ⟨⟨checkpoint.stepIndex, checkpoint.attempt, step, checkpoint.before, after,
        disposition⟩, ⟨by simp [Progress.receipt, Progress.effected], classified⟩, rfl⟩
    | _ => cases ended
  | @read prepared planned _ valid held listed readOnly
  | @unread prepared planned _ _ valid held listed readOnly failed =>
    rw [held, Option.some_or] at inspects
    cases inspects
    cases listed.symm.trans found
    rw [readOnly] at mutation
    cases mutation
  | _ => cases watched

/-- The effect that the executor records after it inspected a step. -/
theorem reconciled_decided {inspected : StateObservation}
    (folded : foldJournal sha256 journal = .ok prior)
    (due : prior.recovery = .inspectBeforeRetry checkpoint)
    (found : prior.steps[checkpoint.stepIndex]? = some step)
    (reconciled : reconcileApplyStep sha256 step.command prior.pluginVersion ownership
      checkpoint inspected = .ok event.body)
    (carried : journalEffect event.body = some (stepIndex, attempt, disposition))
    (accepted : foldJournal sha256 (journal ++ [event]) = .ok receipt)
    : ∃ effect, EffectDecided ownership receipt effect ∧ effect.step = step := by
  obtain ⟨first, started, progress, recovery, read, directed, rfl⟩ := foldJournal_ok.mp folded
  obtain ⟨_, _, _, changed, _, again, _, change, rfl⟩ :=
    foldJournal_append (readJournal_ne_nil read) accepted
  cases read.symm.trans again
  unfold reconcileApplyStep at reconciled
  simp only [bind_ok, mapError_ok, pure_ok] at reconciled
  obtain ⟨resolution, classified, body⟩ := reconciled
  rw [← body] at carried
  generalize event.body = recorded at body change
  have inspects := Progress.directive_inspects (directed.trans (congrArg Except.ok due))
  cases change with
  | @applied asked _ _ effected valid uncertain listed effective =>
    have same := (Progress.uncertain_or uncertain).symm.trans inspects
    cases same
    cases body
    cases listed.symm.trans found
    exact ⟨⟨checkpoint.stepIndex, checkpoint.attempt, step, checkpoint.before, inspected,
      effected⟩, ⟨by simp [Progress.receipt, Progress.effected],
        reconcileCheckpoint_applied classified⟩, rfl⟩
  | notApplied | diverged =>
    rw [body] at carried
    cases carried
  | _ => cases body

end

end Dure.Plugin
