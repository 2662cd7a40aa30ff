import Mathlib
import Dure.Plugin.Recovery

/-! Every journal that an interrupted executor leaves can be taken further from where it
stands, and a mutating command is repeated only where its last attempt allows it.
-/

namespace Dure.Plugin

open Library Check List
open Checkout (OperationId)

variable {sha256 : Sha256} {seen : Set TargetState} {first : Event} {started : Started}
  {journal : List Event} {progress : Progress} {receipt : Receipt}

attribute [local simp] Except.pure

theorem Progress.directive_idle (applying : progress.state = .applying)
    (free : progress.checkpoint = none) (settled : progress.pendingEffect = none)
    : progress.directive
      = .ok (.continue progress.nextStepIndex
        (progress.nextAttempt progress.nextStepIndex)) := by
  have shown : progress.shownState = .applying := by
    simp [Progress.shownState, applying, free, settled]
  simp [Progress.directive, shown, pure]

variable {checkpoint : StepCheckpoint} {recovery : RecoveryDirective}
  {ownership : ExistingOwnership} {observed : StateObservation}

theorem Progress.directive_uncertain (applying : progress.state = .applying)
    (uncertain : progress.uncertain = .ok checkpoint)
    : progress.directive = .ok (.inspectBeforeRetry checkpoint) := by
  unfold Progress.uncertain at uncertain
  split at uncertain
  · rename_i there settled
    cases uncertain
    simp [Progress.directive, Progress.shownState, applying, there, pure]
  · rename_i free there
    cases uncertain
    simp [Progress.directive, Progress.shownState, applying, free, there, pure]
  · cases uncertain
  · cases uncertain

theorem Progress.uncertain_of_checkpoint (there : progress.checkpoint = some checkpoint)
    (settled : progress.pendingEffect = none)
    : progress.uncertain = .ok checkpoint := by
  simp [Progress.uncertain, there, settled, pure]

theorem Progress.uncertain_of_pending (free : progress.checkpoint = none)
    (there : progress.pendingEffect = some checkpoint)
    : progress.uncertain = .ok checkpoint := by
  simp [Progress.uncertain, there, free, pure]

/-- The directives of an operation that runs no more commands of its own. -/
def RecoveryDirective.IsClosing : RecoveryDirective → Prop
  | .compensateOwned _ | .runCompensation _ | .none => True
  | _ => False

theorem Progress.directive_closed
    (ended : progress.state ≠ .applying ∧ progress.state ≠ .recoveryRequired
      ∧ progress.state ≠ .inspectBeforeRetry)
    : ∃ recovery, progress.directive = .ok recovery ∧ recovery.IsClosing := by
  have shown : progress.shownState = progress.state := by
    simp [Progress.shownState, ended.1]
  obtain ⟨notApplying, notRequired, notInspected⟩ := ended
  simp only [Progress.directive, shown]
  cases state : progress.state with
  | applying => exact absurd state notApplying
  | inspectBeforeRetry => exact absurd state notInspected
  | recoveryRequired => exact absurd state notRequired
  | compensating => cases progress.compensation <;> exact ⟨_, rfl, trivial⟩
  | compensated | succeeded => exact ⟨_, rfl, trivial⟩

open Progress

/-- What the directive of a sound journal says about where it stands. -/
inductive Directed (sha256 : Sha256) (seen : Set TargetState) (started : Started)
    (progress : Progress) : RecoveryDirective → Prop
  | idle
    (applying : progress.state = .applying)
    (free : progress.checkpoint = none)
    (settled : progress.pendingEffect = none)
    : Directed sha256 seen started progress
        (.continue progress.nextStepIndex (progress.nextAttempt progress.nextStepIndex))
  | prepared {checkpoint : StepCheckpoint}
    (applying : progress.state = .applying)
    (uncertain : progress.uncertain = .ok checkpoint)
    (unobserved : checkpoint.outcome = none ∧ checkpoint.after = none)
    (valid : checkpoint.before.hasValidDigest sha256)
    (known : checkpoint.before.state ∈ seen)
    : Directed sha256 seen started progress (.inspectBeforeRetry checkpoint)
  | observed {checkpoint : StepCheckpoint} {outcome : CommandOutcome}
    {after : StateObservation}
    (applying : progress.state = .applying)
    (uncertain : progress.uncertain = .ok checkpoint)
    (ended : checkpoint.outcome = some outcome)
    (shown : checkpoint.after = some after)
    (valid : checkpoint.before.hasValidDigest sha256 ∧ after.hasValidDigest sha256)
    (known : checkpoint.before.state ∈ seen ∧ after.state ∈ seen)
    : Directed sha256 seen started progress (.inspectBeforeRetry checkpoint)
  | failed {failure : StepCheckpoint}
    (there : progress.failedCheckpoint = some failure)
    : Directed sha256 seen started progress
        (.chooseRecovery failure (progress.nextAttempt failure.stepIndex))
  | closed {recovery : RecoveryDirective} (closing : recovery.IsClosing)
    : Directed sha256 seen started progress recovery

variable {before : StateObservation} {resolution : StepReconciliation}
  {disposition : EffectDisposition} {command : Command} {step : Step} {body : Body}
  {version : Version} {stepIndex attempt length : Nat}

theorem Sound.directed (sound : Sound sha256 seen started length progress)
    : ∃ recovery, progress.directive = .ok recovery
      ∧ Directed sha256 seen started progress recovery := by
  obtain ⟨_, phase, _⟩ := sound.phase
  cases phase with
  | idle applying free settled =>
    exact ⟨_, directive_idle applying free settled, .idle applying free settled⟩
  | prepared applying there settled due planned unobserved valid known =>
    have uncertain := uncertain_of_checkpoint there settled
    exact ⟨_, directive_uncertain applying uncertain,
      .prepared applying uncertain unobserved valid known⟩
  | observed applying free there due planned ended shown valid known =>
    have uncertain := uncertain_of_pending free there
    exact ⟨_, directive_uncertain applying uncertain,
      .observed applying uncertain ended shown valid known⟩
  | failed required free settled there =>
    refine ⟨_, ?_, .failed there⟩
    simp [directive, shownState, required, there, pure]
  | closed ended free settled =>
    obtain ⟨recovery, directed, closing⟩ := directive_closed ended
    exact ⟨recovery, directed, .closed closing⟩

/-- The plan of an operation as its first event was checked. -/
structure Planned (started : Started) : Prop where
  mutations : started.AllMutations
  bounded : started.steps.length ≤ maxSteps
  lifecycle : ∀ step ∈ started.steps, Step.againstLifecycle step.command started.operationKind
    = false

structure Left (sha256 : Sha256) (seen : Set TargetState) (first : Event)
    (started : Started) (journal : List Event) (progress : Progress) : Prop where
  planned : Planned started
  read : readJournal sha256 journal = .ok (first, started, progress)
  sound : Sound sha256 seen started journal.length progress

theorem Left.folded (left : Left sha256 seen first started journal progress)
    : ∃ recovery, Directed sha256 seen started progress recovery
      ∧ foldJournal sha256 journal
        = .ok (progress.receipt first started journal.length recovery) := by
  obtain ⟨recovery, directed, meaning⟩ := left.sound.directed
  exact ⟨recovery, meaning, foldJournal_ok.mpr ⟨_, _, _, _, left.read, directed, rfl⟩⟩

theorem attempts_sum_le {attempts : List Nat}
    (tried : ∀ attempt ∈ attempts, attempt ≤ maxStepAttempts)
    : attempts.sum ≤ maxStepAttempts * attempts.length :=
  (sum_le_card_nsmul attempts maxStepAttempts tried).trans_eq (Nat.mul_comm _ _)

/-- The bound on a journal's length is never in the way of a step. -/
theorem Left.room (left : Left sha256 seen first started journal progress)
    (applies : progress.state = .applying ∨ progress.state = .recoveryRequired)
    : journal.length < maxEvents := by
  obtain ⟨reserve, _, bound⟩ := left.sound.phase
  have counted := bound applies
  have total := attempts_sum_le left.sound.tried
  have steps := left.planned.bounded
  rw [left.sound.slots] at total
  simp only [maxStepAttempts, maxSteps, maxEvents] at *
  omega

/-- The executor's next event stands at the end of the journal. -/
theorem Left.placed (left : Left sha256 seen first started journal progress) (body : Body)
    (recovery : RecoveryDirective)
    (live : progress.state ≠ .compensated ∧ progress.state ≠ .succeeded)
    : Placed first.operationId progress (journal.length + 1)
        (nextEvent sha256 (progress.receipt first started journal.length recovery) body) := by
  have past := left.sound.past
  have representable := left.sound.representable
  refine ⟨Nat.le_add_left 1 _, ?_, rfl, rfl, ?_, live⟩
  all_goals
    simp only [nextEvent, Progress.receipt, i64Max] at *
    omega

theorem Sound.at_time (sound : Sound sha256 seen started length progress) (past : 0 ≤ time)
    (representable : time ≤ i64Max)
    : Sound sha256 seen started length { progress with updatedAtMs := time } := by
  obtain ⟨reserve, phase, bound⟩ := sound.phase
  refine ⟨sound.slots, sound.tried, sound.due, past, representable, reserve, ?_, bound⟩
  cases phase with
  | idle applying free settled => exact .idle applying free settled
  | prepared applying there settled due planned unobserved valid known =>
    exact .prepared applying there settled due planned unobserved valid known
  | observed applying free there due planned ended shown valid known =>
    exact .observed applying free there due planned ended shown valid known
  | failed required free settled there => exact .failed required free settled there
  | closed ended free settled => exact .closed ended free settled

/-- A body that the progress takes extends the journal. -/
theorem Left.extend {next} (left : Left sha256 seen first started journal progress)
    (disciplined : body.Disciplined seen)
    (read
      : readJournal sha256 (journal
      ++ [nextEvent sha256 (progress.receipt first started journal.length recovery) body])
      = .ok (first, started, next))
    : Left sha256 seen first started
        (journal
          ++ [nextEvent sha256 (progress.receipt first started journal.length recovery) body])
        next := by
  obtain ⟨_, prior, priorRead, accepted⟩ :=
    (readJournal_append started (readJournal_ne_nil left.read)).mp read
  rw [left.read] at priorRead
  cases priorRead
  obtain ⟨placed, changed, applies, rfl⟩ := accept_ok.mp accepted
  have stepped := left.sound.step left.planned.mutations (apply_change applies) disciplined
  refine ⟨left.planned, read, ?_⟩
  rw [length_append, length_singleton]
  exact stepped.at_time placed.recorded (by simp [nextEvent])

theorem Left.accepts (left : Left sha256 seen first started journal progress)
    (applying : progress.state = .applying) (disciplined : body.Disciplined seen)
    (applies : progress.apply sha256 first.operationId started body = .ok changed)
    : ∃ receipt, foldJournal sha256 (journal
          ++ [nextEvent sha256 (progress.receipt first started journal.length recovery) body])
        = .ok receipt := by
  have live : progress.state ≠ .compensated ∧ progress.state ≠ .succeeded := by
    simp [applying]
  have read := (readJournal_append started (readJournal_ne_nil left.read)).mpr
    ⟨left.room (Or.inl applying), progress, left.read,
      accept_ok.mpr ⟨left.placed body recovery live, changed, applies, rfl⟩⟩
  obtain ⟨_, _, folded⟩ := (left.extend disciplined read).folded
  exact ⟨_, folded⟩

theorem Progress.prepareStep_ok (valid : before.hasValidDigest sha256)
    (applying : progress.state = .applying) (free : progress.checkpoint = none)
    (settled : progress.pendingEffect = none)
    (slot : progress.attempts[progress.nextStepIndex]? = some attempt)
    (room : attempt ≠ u32Max)
    : ∃ next, progress.prepareStep sha256 progress.nextStepIndex (attempt + 1) before
        = .ok next := by
  unfold prepareStep
  simp only [↓seq_ok, validateObservation_ok, rejectIf_ok, not_or, ne_eq, not_not, slot,
    bind_ok, checkedAddOne_ok, pure_ok]
  exact ⟨_, valid, ⟨applying, free, settled, trivial⟩, _, ⟨room, rfl⟩, rfl, rfl⟩

theorem prepareApplyStep_ok
    : prepareApplyStep sha256 stepIndex attempt before = .ok body
      ↔ before.hasValidDigest sha256 ∧ .stepPrepared stepIndex attempt before = body := by
  unfold prepareApplyStep
  simp only [seq_ok, rejectIf_ok, not_not, pure_ok]

/-- A step that is left and not exhausted is prepared. -/
theorem Left.prepares (left : Left sha256 seen first started journal progress)
    (directed : Directed sha256 seen started progress (.continue stepIndex attempt))
    (remains : stepIndex < started.steps.length) (allowed : attempt ≤ maxStepAttempts)
    (valid : before.hasValidDigest sha256) (known : before.state ∈ seen)
    : ∃ body, prepareApplyStep sha256 stepIndex attempt before = .ok body
      ∧ ∃ receipt, foldJournal sha256 (journal
          ++ [nextEvent sha256 (progress.receipt first started journal.length recovery) body])
        = .ok receipt := by
  cases directed with
  | closed closing => exact closing.elim
  | idle applying free settled =>
    rw [← left.sound.slots] at remains
    have slot := getElem?_eq_getElem remains
    have next : progress.nextAttempt progress.nextStepIndex
        = min u32Max (progress.attempts[progress.nextStepIndex] + 1) := by
      simp [Progress.nextAttempt, slot]
    have small := left.sound.tried _ (getElem_mem remains)
    have counted : progress.nextAttempt progress.nextStepIndex
        = progress.attempts[progress.nextStepIndex] + 1 := by
      rw [next]
      simp only [maxStepAttempts, u32Max] at small ⊢
      omega
    have room : progress.attempts[progress.nextStepIndex] ≠ u32Max := by
      simp only [maxStepAttempts, u32Max] at small ⊢
      omega
    obtain ⟨next, applies⟩ := Progress.prepareStep_ok valid applying free settled slot room
    rw [counted] at allowed ⊢
    refine ⟨_, prepareApplyStep_ok.mpr ⟨valid, rfl⟩, ?_⟩
    exact left.accepts applying ⟨allowed, known⟩ applies

/-- No two of the observed states have one digest. -/
def CollisionFree (sha256 : Sha256) (seen : Set TargetState) : Prop :=
  Set.InjOn sha256 (Set.image TargetState.text seen)

theorem CollisionFree.digest_eq_iff (collisionFree : CollisionFree sha256 seen)
    {left right : StateObservation} (leftValid : left.hasValidDigest sha256)
    (rightValid : right.hasValidDigest sha256) (leftKnown : left.state ∈ seen)
    (rightKnown : right.state ∈ seen)
    : left.digest = right.digest ↔ left.state = right.state := by
  rw [leftValid, rightValid]
  constructor
  · intro same
    exact TargetState.text_injective (collisionFree (Set.mem_image_of_mem _ leftKnown)
      (Set.mem_image_of_mem _ rightKnown) same)
  · rintro same
    rw [same]

/-- A command of the operation's own kind has effects of that kind. -/
theorem Classified.direction {before after : TargetState}
    (classified : Classified command ownership before after disposition)
    (mutation : command.isMutation = true)
    (lifecycle : Step.againstLifecycle command kind = false)
    : wrongDirection kind disposition = false := by
  cases classified with
  | created adds | removed removes =>
    cases kind <;> cases command <;>
      simp_all [Command.isMutation, Command.isRemoval, Step.againstLifecycle, wrongDirection]
  | preservedOwned | preservedExternal | unchanged => cases kind <;> rfl

/-- What the classifier says about an observed change, the journal takes. -/
theorem Planned.effective (planned : Planned started)
    (collisionFree : CollisionFree sha256 seen) (found : started.steps[stepIndex]? = some step)
    {after : StateObservation}
    (classified : Classified step.command ownership before.state after.state disposition)
    (valid : before.hasValidDigest sha256 ∧ after.hasValidDigest sha256)
    (known : before.state ∈ seen ∧ after.state ∈ seen)
    : Effective started step before.digest after.digest disposition := by
  have member := mem_of_getElem? found
  have mutation := planned.mutations step member
  refine ⟨mutation, ?_, classified.direction mutation (planned.lifecycle step member)⟩
  rw [classified.changed_iff, ne_eq, ne_eq,
    collisionFree.digest_eq_iff valid.1 valid.2 known.1 known.2]

/-- A resolution that the journal takes for an uncertain checkpoint. -/
inductive Admissible (started : Started) (checkpoint : StepCheckpoint)
    (observed : StateObservation) : StepReconciliation → Prop
  | notApplied (unproven : checkpoint.outcome ≠ some .succeeded)
    (same : checkpoint.before.digest = observed.digest)
    : Admissible started checkpoint observed .notApplied
  | applied {step : Step} {disposition : EffectDisposition}
    (found : started.steps[checkpoint.stepIndex]? = some step)
    (effective : Effective started step checkpoint.before.digest observed.digest disposition)
    : Admissible started checkpoint observed (.applied disposition)
  | diverged : Admissible started checkpoint observed .diverged

theorem Progress.reconcileStep_ok (valid : observed.hasValidDigest sha256)
    (uncertain : progress.uncertain = .ok checkpoint) (room : progress.nextStepIndex ≠ u32Max)
    (admissible : Admissible started checkpoint observed resolution)
    : ∃ next, progress.reconcileStep sha256 started checkpoint.stepIndex checkpoint.attempt
        observed resolution = .ok next := by
  unfold Progress.reconcileStep
  simp only [↓seq_ok, bind_ok, validateObservation_ok, rejectIf_ok, uncertain]
  cases admissible with
  | notApplied unproven same =>
    simp only [↓seq_ok, rejectIf_ok, pure_ok]
    exact ⟨_, valid, _, rfl, by simp, unproven, by simp [same], rfl⟩
  | applied found effective =>
    simp only [↓seq_ok, bind_ok, rejectIf_ok, Started.stepAt_ok, pushEffect_ok]
    exact ⟨_, valid, _, rfl, by simp, _, found, by simp [effective.mutation], _, found,
      effective, room, rfl⟩
  | diverged => exact ⟨_, valid, _, rfl, by simp, rfl⟩

theorem classifyReconciledMutation_admissible (planned : Planned started)
    (collisionFree : CollisionFree sha256 seen)
    (found : started.steps[checkpoint.stepIndex]? = some step)
    (valid : checkpoint.before.hasValidDigest sha256 ∧ observed.hasValidDigest sha256)
    (known : checkpoint.before.state ∈ seen ∧ observed.state ∈ seen)
    : Admissible started checkpoint observed
        (classifyReconciledMutation step.command started.pluginVersion ownership
          checkpoint.before.state observed.state) := by
  unfold classifyReconciledMutation
  split
  · rename_i disposition classified
    exact .applied found
      (planned.effective collisionFree found (classifyMutation_ok classified) valid known)
  · exact .diverged

/-- A command that was seen to fail leaves a checkpoint that is not reconciled. -/
theorem reconcileCheckpoint_inspectable
    (reconciled : reconcileCheckpoint sha256 command version ownership checkpoint observed
      = .ok resolution)
    : checkpoint.Inspectable := by
  unfold reconcileCheckpoint at reconciled
  simp only [↓seq_ok] at reconciled
  obtain ⟨_, _, _, reconciled⟩ := reconciled
  split at reconciled
  · rename_i unknown
    exact Or.inl unknown
  · rename_i succeeded
    exact Or.inr succeeded
  · cases reconciled

theorem reconcileApplyStep_ok
    : reconcileApplyStep sha256 command version ownership checkpoint observed = .ok body
      ↔ ∃ resolution,
        reconcileCheckpoint sha256 command version ownership checkpoint observed
          = .ok resolution
        ∧ .stepReconciled checkpoint.stepIndex checkpoint.attempt observed resolution
          = body := by
  unfold reconcileApplyStep
  simp only [bind_ok, mapError_ok, pure_ok]

section

variable (directed : Directed sha256 seen started progress (.inspectBeforeRetry checkpoint))
include directed

/-- A checkpoint of a command that was not seen to fail is reconciled, in a way that the
journal takes.
-/
theorem Directed.reconciles (planned : Planned started)
    (collisionFree : CollisionFree sha256 seen)
    (inspectable : checkpoint.Inspectable)
    (found : started.steps[checkpoint.stepIndex]? = some step) (ownership : ExistingOwnership)
    (valid : observed.hasValidDigest sha256) (known : observed.state ∈ seen)
    : progress.state = .applying ∧ progress.uncertain = .ok checkpoint
      ∧ ∃ resolution,
        reconcileCheckpoint sha256 step.command started.pluginVersion ownership checkpoint
          observed = .ok resolution
        ∧ Admissible started checkpoint observed resolution := by
  cases directed with
  | closed closing => exact closing.elim
  | prepared applying uncertain unobserved validBefore knownBefore =>
    refine ⟨applying, uncertain, ?_⟩
    unfold reconcileCheckpoint
    simp only [↓seq_ok, rejectIf_ok, unobserved.1, unobserved.2]
    split
    · rename_i same
      refine ⟨.notApplied, ⟨by simp [validBefore], by simp [valid], by simp, rfl⟩, ?_⟩
      exact .notApplied (by simp [unobserved.1]) (by rw [same])
    · refine ⟨_, ⟨by simp [validBefore], by simp [valid], by simp, rfl⟩, ?_⟩
      exact classifyReconciledMutation_admissible planned collisionFree found
        ⟨validBefore, valid⟩ ⟨knownBefore, known⟩
  | observed applying uncertain ended shown valids knowns =>
    refine ⟨applying, uncertain, ?_⟩
    have succeeded : checkpoint.outcome = some .succeeded :=
      inspectable.resolve_left (by simp [ended])
    unfold reconcileCheckpoint
    simp only [↓seq_ok, rejectIf_ok, succeeded, shown]
    split
    · refine ⟨_, ⟨by simp [valids.1, valids.2], by simp [valid], by simp, rfl⟩, .diverged⟩
    · rename_i same
      rw [not_not] at same
      subst same
      refine ⟨_, ⟨by simp [valids.1, valids.2], by simp [valid], by simp, rfl⟩, ?_⟩
      exact classifyReconciledMutation_admissible planned collisionFree found valids knowns

/-- A journal that is to be inspected is taken further exactly when the command of its
checkpoint was not seen to fail.
-/
theorem Left.inspects (left : Left sha256 seen first started journal progress)
    (collisionFree : CollisionFree sha256 seen)
    (found : started.steps[checkpoint.stepIndex]? = some step) (ownership : ExistingOwnership)
    (valid : observed.hasValidDigest sha256) (known : observed.state ∈ seen)
    : (∃ body,
        reconcileApplyStep sha256 step.command started.pluginVersion ownership checkpoint
          observed = .ok body
        ∧ ∃ receipt, foldJournal sha256 (journal
            ++ [nextEvent sha256 (progress.receipt first started journal.length recovery)
              body])
          = .ok receipt)
      ↔ checkpoint.Inspectable := by
  constructor
  · rintro ⟨body, reconciled, _⟩
    obtain ⟨resolution, reconciled, _⟩ := reconcileApplyStep_ok.mp reconciled
    exact reconcileCheckpoint_inspectable reconciled
  · intro inspectable
    obtain ⟨applying, uncertain, resolution, reconciled, admissible⟩ :=
      directed.reconciles left.planned collisionFree inspectable found ownership valid known
    have room : progress.nextStepIndex ≠ u32Max := by
      have due := left.sound.due
      have bounded := left.planned.bounded
      simp only [maxSteps, u32Max] at bounded ⊢
      omega
    obtain ⟨next, applies⟩ := reconcileStep_ok valid uncertain room admissible
    refine ⟨_, reconcileApplyStep_ok.mpr ⟨resolution, reconciled, rfl⟩, ?_⟩
    exact left.accepts applying trivial applies

end

end Dure.Plugin
