import Dure.Plugin.Continuation

/-! One pass of the executor's loop, stopped at any point: the journal that it leaves can be
taken up again, and a command is run only for a step that is due.
-/

namespace Dure.Plugin

open Library Check
open Checkout (OperationId)
open Progress

variable {sha256 : Sha256} {seen : Set TargetState} {first : Event} {started : Started}
  {journal extended : List Event} {progress : Progress} {recovery : RecoveryDirective}
  {bodies : List Body} {answers : Answers} {body : Body} {next : Receipt}

theorem appendBody_ok {receipt : Receipt}
    : appendBody sha256 journal receipt body = .ok (extended, next)
      ↔ receipt.lastSequence ≠ u32Max ∧ extended = journal ++ [nextEvent sha256 receipt body]
        ∧ foldJournal sha256 extended = .ok next := by
  unfold appendBody
  simp only [↓seq_ok, bind_ok, rejectIf_ok, mapError_ok, pure_ok, Prod.mk.injEq]
  constructor
  · rintro ⟨room, _, folded, rfl, rfl⟩
    exact ⟨room, rfl, folded⟩
  · rintro ⟨room, rfl, folded⟩
    exact ⟨room, _, folded, rfl, rfl⟩

/-- What an append of the executor leaves. -/
theorem Left.appended (left : Left sha256 seen first started journal progress)
    (disciplined : body.Disciplined seen)
    (appended
      : appendBody sha256 journal (progress.receipt first started journal.length recovery)
          body = .ok (extended, next))
    : ∃ after directive, Left sha256 seen first started extended after
      ∧ Directed sha256 seen started after directive
      ∧ next = after.receipt first started extended.length directive
      ∧ extended = journal
        ++ [nextEvent sha256 (progress.receipt first started journal.length recovery) body]
      ∧ ∃ changed, Change sha256 first.operationId started progress body changed
        ∧ after.checkpoint = changed.checkpoint := by
  obtain ⟨_, rfl, folded⟩ := appendBody_ok.mp appended
  obtain ⟨sameFirst, sameStarted, after, directive, read, directed, rfl⟩ :=
    foldJournal_ok.mp folded
  obtain ⟨_, prior, priorRead, accepted⟩ :=
    (readJournal_append sameStarted (readJournal_ne_nil left.read)).mp read
  rw [left.read] at priorRead
  cases priorRead
  have extendedLeft := left.extend disciplined read
  obtain ⟨known, knownDirective, meaning⟩ := extendedLeft.sound.directed
  obtain rfl := Except.ok.inj (directed.symm.trans knownDirective)
  obtain ⟨_, changed, applies, rfl⟩ := accept_ok.mp accepted
  exact ⟨_, directive, extendedLeft, meaning, rfl, rfl, changed, apply_change applies, rfl⟩

/-- Witness: induction on the bodies, one append at a time. -/
theorem Left.appendAll (left : Left sha256 seen first started journal progress)
    (disciplined : ∀ body ∈ bodies, body.Disciplined seen) (appends : Nat)
    : (∃ after, Left sha256 seen first started
        (appendAll sha256 appends journal
          (progress.receipt first started journal.length recovery) bodies) after)
      ∧ journal <+: Plugin.appendAll sha256 appends journal
        (progress.receipt first started journal.length recovery) bodies := by
  induction bodies generalizing journal progress recovery appends with
  | nil => cases appends <;> exact ⟨⟨progress, left⟩, List.prefix_refl _⟩
  | cons body rest ih =>
    cases appends with
    | zero => exact ⟨⟨progress, left⟩, List.prefix_refl _⟩
    | succ fewer =>
      simp only [Plugin.appendAll]
      split
      · rename_i extended next appended
        obtain ⟨after, directive, extendedLeft, _, rfl, extends_, _⟩ :=
          left.appended (disciplined body List.mem_cons_self) appended
        obtain ⟨kept, grows⟩ := ih extendedLeft
          (fun other member => disciplined other (List.mem_cons_of_mem _ member)) fewer
        refine ⟨kept, List.IsPrefix.trans ?_ grows⟩
        rw [extends_]
        exact List.prefix_append _ _
      · exact ⟨⟨progress, left⟩, List.prefix_refl _⟩

def Answers.ObservesIn (seen : Set TargetState) (answers : Answers) : Prop :=
  (∀ observation ∈ answers.inspected, observation.state ∈ seen)
  ∧ ∀ observation ∈ answers.reinspected, observation.state ∈ seen

def Input.ObservesIn (seen : Set TargetState) : Input → Prop
  | .advance answers => answers.ObservesIn seen
  | .resume _ => True

/-- The step is due, and no attempt of it is open. -/
structure Due (progress : Progress) (stepIndex : Nat) : Prop where
  applying : progress.state = .applying
  free : progress.checkpoint = none
  settled : progress.pendingEffect = none
  next : progress.nextStepIndex = stepIndex

/-- What a pass leaves, and that a command is run only for a step that is due and whose
attempt has been recorded.
-/
structure Passes (sha256 : Sha256) (seen : Set TargetState) (first : Event)
    (started : Started) (journal : List Event) (progress : Progress) (pass : Pass)
    : Prop where
  left : ∃ after, Left sha256 seen first started pass.journal after
  grows : journal <+: pass.journal
  command
    : ∀ stepIndex attempt, pass.command = some (stepIndex, attempt)
      → Due progress stepIndex
        ∧ ∃ preparation rest before, pass.journal = journal ++ preparation :: rest
          ∧ preparation.body = .stepPrepared stepIndex attempt before

theorem Passes.stay (left : Left sha256 seen first started journal progress)
    : Passes sha256 seen first started journal progress ⟨journal, none⟩ where
  left := ⟨progress, left⟩
  grows := List.prefix_refl _
  command := by simp

theorem Passes.append (left : Left sha256 seen first started journal progress)
    (disciplined : ∀ body ∈ bodies, body.Disciplined seen) (appends : Nat)
    : Passes sha256 seen first started journal progress
        ⟨Plugin.appendAll sha256 appends journal
          (progress.receipt first started journal.length recovery) bodies, none⟩ := by
  obtain ⟨kept, grows⟩ := left.appendAll disciplined appends
  exact ⟨kept, grows, by simp⟩

attribute [local simp] Body.Disciplined

/-- The bodies that end an attempt observe only what was shown. -/
theorem completeApplyStep_disciplined {command : Command} {version : Version}
    {ownership : ExistingOwnership} {checkpoint : StepCheckpoint} (known : after.state ∈ seen)
    (completed
      : completeApplyStep sha256 command version ownership checkpoint outcome after
        = .ok bodies)
    : ∀ body ∈ bodies, body.Disciplined seen := by
  unfold completeApplyStep at completed
  simp only [↓seq_ok] at completed
  obtain ⟨_, _, _, completed⟩ := completed
  split at completed
  · cases completed
    simpa using known
  · split at completed
    · cases completed
      simpa using known
    · split at completed
      · cases completed
        simpa using known
      · cases completed
        simpa using known

theorem runPrepared_passes {stepIndex attempt : Nat} {before : StateObservation}
    {after : Progress} {directive : RecoveryDirective} (due : Due progress stepIndex)
    (extendedLeft : Left sha256 seen first started extended after)
    (directed : Directed sha256 seen started after directive)
    (split : extended = journal ++ [preparation])
    (prepares : preparation.body = .stepPrepared stepIndex attempt before)
    (there : after.checkpoint = some ⟨stepIndex, attempt, before, none, none⟩) (step : Step)
    (ownership : ExistingOwnership) (known : answers.ObservesIn seen)
    : Passes sha256 seen first started journal progress
        (runPrepared sha256 step ownership answers extended
          (after.receipt first started extended.length directive)) := by
  have grows : journal <+: extended := split ▸ List.prefix_append _ _
  have command (ended : List Event) (longer : extended <+: ended) (checkpoint : StepCheckpoint)
      (directs : directive = .inspectBeforeRetry checkpoint) (index tried : Nat)
      (ran : some (checkpoint.stepIndex, checkpoint.attempt) = some (index, tried))
      : Due progress index
        ∧ ∃ preparation rest before, ended = journal ++ preparation :: rest
          ∧ preparation.body = .stepPrepared index tried before := by
    have uncertain : after.uncertain = .ok checkpoint := by
      subst directs
      cases directed with
      | prepared _ uncertain | observed _ uncertain => exact uncertain
      | closed closing => exact closing.elim
    have opened : checkpoint = ⟨stepIndex, attempt, before, none, none⟩ := by
      unfold Progress.uncertain at uncertain
      rw [there] at uncertain
      split at uncertain <;> simp_all [pure, Except.pure]
    subst opened
    simp only [Option.some.injEq, Prod.mk.injEq] at ran
    obtain ⟨rfl, rfl⟩ := ran
    obtain ⟨rest, rfl⟩ := longer
    exact ⟨due, preparation, rest, before, by simp [split], prepares⟩
  unfold runPrepared
  split
  · rename_i checkpoint directs
    simp only [Progress.receipt] at directs
    split
    · exact ⟨⟨after, extendedLeft⟩, grows, by simp⟩
    · split
      · exact ⟨⟨after, extendedLeft⟩, grows,
          command _ (List.prefix_refl _) checkpoint directs⟩
      · rename_i shown
        split
        · exact ⟨⟨after, extendedLeft⟩, grows,
            command _ (List.prefix_refl _) checkpoint directs⟩
        · rename_i bodies completed
          obtain ⟨kept, longer⟩ := extendedLeft.appendAll
            (completeApplyStep_disciplined (known.2 _ shown) completed) (answers.appends - 1)
          exact ⟨kept, grows.trans longer, command _ longer checkpoint directs⟩
  · exact ⟨⟨after, extendedLeft⟩, grows, by simp⟩

section

variable (left : Left sha256 seen first started journal progress)
include left

theorem continueStep_passes
    (directed : Directed sha256 seen started progress (.continue stepIndex attempt))
    (known : answers.ObservesIn seen)
    : Passes sha256 seen first started journal progress
        (continueStep sha256 answers journal
          (progress.receipt first started journal.length (.continue stepIndex attempt))
          stepIndex attempt) := by
  unfold continueStep
  split
  · exact .append left (by simp) _
  · split
    · exact .stay left
    · rename_i allowed
      split
      · rename_i step ownership before found answered inspected
        split
        · exact .stay left
        · split
          · exact .stay left
          · rename_i body prepared
            obtain ⟨_, rfl⟩ := prepareApplyStep_ok.mp prepared
            split
            · exact .stay left
            · rename_i extended next appended
              have disciplined : (Body.stepPrepared stepIndex attempt before).Disciplined seen :=
                ⟨Nat.le_of_not_lt allowed, known.1 _ inspected⟩
              obtain ⟨after, directive, extendedLeft, meaning, rfl, split, changed, change,
                checkpoint⟩ := left.appended disciplined appended
              cases change with
              | prepared _ applying free settled =>
                exact runPrepared_passes ⟨applying, free, settled, rfl⟩ extendedLeft
                  meaning split rfl checkpoint step ownership known
      · exact .stay left

/-- Witness: by the directive; only an idle journal runs a command. -/
theorem advancePass_passes (known : answers.ObservesIn seen)
    : Passes sha256 seen first started journal progress
        (advancePass sha256 journal answers) := by
  obtain ⟨recovery, directed, folded⟩ := left.folded
  have keeps (bodies : List Body) (appends : Nat)
      (disciplined : ∀ body ∈ bodies, body.Disciplined seen)
      : Passes sha256 seen first started journal progress
          ⟨Plugin.appendAll sha256 appends journal
            (progress.receipt first started journal.length recovery) bodies, none⟩ :=
    .append left disciplined appends
  unfold advancePass
  rw [folded]
  cases recovery with
  | «continue» stepIndex attempt => exact continueStep_passes left directed known
  | inspectBeforeRetry checkpoint =>
    simp only [Progress.receipt, inspectStep]
    split
    · split
      · exact .stay left
      · split
        · exact .stay left
        · rename_i body reconciled
          obtain ⟨_, _, rfl⟩ := reconcileApplyStep_ok.mp reconciled
          exact keeps _ _ (by simp)
    · exact .stay left
  | chooseRecovery checkpoint attempt | none => exact .stay left
  | compensateOwned effects =>
    simp only [Progress.receipt, compensate]
    split
    · exact .stay left
    · exact keeps _ _ (by simp)
  | runCompensation link =>
    simp only [Progress.receipt, finishCompensation]
    split
    · split
      · exact .stay left
      · exact keeps _ _ (by simp)
    · exact .stay left

theorem resumeRecovery_passes (strategy : RecoveryStrategy)
    : Passes sha256 seen first started journal progress
        ⟨Plugin.resumeRecovery sha256 journal strategy, none⟩ := by
  obtain ⟨recovery, directed, folded⟩ := left.folded
  unfold Plugin.resumeRecovery
  rw [folded]
  simp only
  split
  · exact .stay left
  · rename_i body selected
    refine .append left (fun other member => ?_) 1
    obtain rfl := List.mem_singleton.mp member
    unfold selectApplyRecovery at selected
    simp only [↓seq_ok] at selected
    obtain ⟨_, selected⟩ := selected
    split at selected
    · cases strategy with
      | forward =>
        simp only [seq_ok, pure_ok] at selected
        obtain ⟨_, rfl⟩ := selected
        trivial
      | compensateOwned =>
        simp only [seq_ok, pure_ok] at selected
        obtain ⟨_, _, rfl⟩ := selected
        trivial
    · cases selected

theorem executor_passes (known : input.ObservesIn seen)
    : Passes sha256 seen first started journal progress
        ⟨((executor sha256).step journal input).2, ((executor sha256).step journal input).1⟩ := by
  cases input with
  | advance answers => exact advancePass_passes left known
  | resume strategy => exact resumeRecovery_passes left strategy

end

end Dure.Plugin
