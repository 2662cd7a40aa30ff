import Mathlib
import Dure.Plugin.Retries

/-! An interrupted operation can be taken further: what every journal that the executor
leaves looks like, and what its directive leads to.
-/

namespace Dure.Plugin

open Library Check
open Checkout (OperationId)

variable {sha256 : Sha256} {seen : Set TargetState} {operationId : OperationId}
  {started : Started}

/-- Where the journal stands between two events, with the events that the last attempt may
still need before the next one.
-/
inductive Phase (sha256 : Sha256) (seen : Set TargetState) (started : Started)
    (progress : Progress) : Nat → Prop
  | idle
    (applying : progress.state = .applying)
    (free : progress.checkpoint = none)
    (settled : progress.pendingEffect = none)
    : Phase sha256 seen started progress 0
  | prepared {checkpoint : StepCheckpoint}
    (applying : progress.state = .applying)
    (there : progress.checkpoint = some checkpoint)
    (settled : progress.pendingEffect = none)
    (due : checkpoint.stepIndex = progress.nextStepIndex)
    (planned : progress.nextStepIndex < started.steps.length)
    (unobserved : checkpoint.outcome = none ∧ checkpoint.after = none)
    (valid : checkpoint.before.hasValidDigest sha256)
    (known : checkpoint.before.state ∈ seen)
    : Phase sha256 seen started progress 3
  | observed {checkpoint : StepCheckpoint} {outcome : CommandOutcome}
    {after : StateObservation}
    (applying : progress.state = .applying)
    (free : progress.checkpoint = none)
    (there : progress.pendingEffect = some checkpoint)
    (due : checkpoint.stepIndex = progress.nextStepIndex)
    (planned : progress.nextStepIndex < started.steps.length)
    (ended : checkpoint.outcome = some outcome)
    (shown : checkpoint.after = some after)
    (valid : checkpoint.before.hasValidDigest sha256 ∧ after.hasValidDigest sha256)
    (known : checkpoint.before.state ∈ seen ∧ after.state ∈ seen)
    : Phase sha256 seen started progress 2
  | failed {failure : StepCheckpoint}
    (required : progress.state = .recoveryRequired)
    (free : progress.checkpoint = none)
    (settled : progress.pendingEffect = none)
    (there : progress.failedCheckpoint = some failure)
    : Phase sha256 seen started progress 1
  | closed
    (ended : progress.state ≠ .applying ∧ progress.state ≠ .recoveryRequired
      ∧ progress.state ≠ .inspectBeforeRetry)
    (free : progress.checkpoint = none)
    (settled : progress.pendingEffect = none)
    : Phase sha256 seen started progress 0

/-- A journal of `length` events that the executor can have left: at most four events for each
attempt, and at most three attempts for each step.
-/
structure Sound (sha256 : Sha256) (seen : Set TargetState) (started : Started)
    (length : Nat) (progress : Progress) : Prop where
  slots : progress.attempts.length = started.steps.length
  tried : ∀ attempt ∈ progress.attempts, attempt ≤ maxStepAttempts
  due : progress.nextStepIndex ≤ started.steps.length
  past : 0 ≤ progress.updatedAtMs
  representable : progress.updatedAtMs ≤ i64Max
  phase
    : ∃ reserve, Phase sha256 seen started progress reserve
      ∧ (progress.state = .applying ∨ progress.state = .recoveryRequired
        → length + reserve ≤ 1 + 4 * progress.attempts.sum)

/-- What the executor keeps to when it appends a body. -/
def Body.Disciplined (seen : Set TargetState) : Body → Prop
  | .stepPrepared _ attempt before => attempt ≤ maxStepAttempts ∧ before.state ∈ seen
  | .stepObserved _ _ _ after => after.state ∈ seen
  | _ => True

theorem sum_set_succ {attempts : List Nat} (slot : attempts[index]? = some attempt)
    : (attempts.set index (attempt + 1)).sum = attempts.sum + 1 := by
  induction attempts generalizing index with
  | nil => simp at slot
  | cons first rest ih =>
    cases index with
    | zero =>
      obtain rfl := Option.some.inj slot
      simp only [List.set_cons_zero, List.sum_cons]
      omega
    | succ later =>
      have tail := ih (by simpa using slot)
      simp only [List.set_cons_succ, List.sum_cons, tail]
      omega

theorem Sound.room (sound : Sound sha256 seen started length progress)
    (phase : Phase sha256 seen started progress reserve)
    (applies : progress.state = .applying ∨ progress.state = .recoveryRequired)
    : length + reserve ≤ 1 + 4 * progress.attempts.sum := by
  obtain ⟨known, there, bound⟩ := sound.phase
  have same : known = reserve := by
    cases phase <;> cases there <;> simp_all
  exact same ▸ bound applies

namespace Sound

variable {length : Nat} {progress next : Progress} {body : Body}

section

variable (sound : Sound sha256 seen started length progress)
include sound

/-- Witness: an uncertain checkpoint exists only in the two phases of an open attempt. -/
theorem of_uncertain (uncertain : progress.uncertain = .ok checkpoint)
    : progress.state = .applying ∧ length + 2 ≤ 1 + 4 * progress.attempts.sum
      ∧ progress.nextStepIndex < started.steps.length := by
  obtain ⟨reserve, phase, bound⟩ := sound.phase
  cases phase with
  | idle _ free settled | failed _ free settled | closed _ free settled =>
    exact absurd uncertain (Progress.uncertain_none free settled)
  | prepared applying there settled due planned =>
    have room := bound (Or.inl applying)
    exact ⟨applying, by omega, planned⟩
  | observed applying free there due planned =>
    exact ⟨applying, bound (Or.inl applying), planned⟩

theorem of_pending (pending : progress.pendingEffect = some checkpoint)
    : progress.state = .applying ∧ length + 2 ≤ 1 + 4 * progress.attempts.sum
      ∧ progress.checkpoint = none ∧ progress.nextStepIndex < started.steps.length := by
  obtain ⟨reserve, phase, bound⟩ := sound.phase
  cases phase with
  | observed applying free there due planned =>
    exact ⟨applying, bound (Or.inl applying), free, planned⟩
  | idle _ _ settled | prepared _ _ settled | failed _ _ settled | closed _ _ settled =>
    simp [settled] at pending

theorem of_compensating (compensating : progress.state = .compensating)
    : progress.checkpoint = none ∧ progress.pendingEffect = none := by
  obtain ⟨reserve, phase, _⟩ := sound.phase
  cases phase with
  | closed _ free settled => exact ⟨free, settled⟩
  | idle applying | prepared applying | observed applying => simp [compensating] at applying
  | failed required => simp [compensating] at required

end

/-- Witness: one case per change; each takes from the reserve what it adds to the journal,
and a new attempt brings four events of its own.
-/
theorem step (mutations : started.AllMutations)
    (sound : Sound sha256 seen started length progress)
    (change : Progress.Change sha256 operationId started progress body next)
    (disciplined : body.Disciplined seen)
    : Sound sha256 seen started (length + 1) next := by
  cases change with
  | @prepared attempt before valid applying free settled slot =>
    have room := sound.room (.idle applying free settled) (Or.inl applying)
    have planned : progress.nextStepIndex < started.steps.length := by
      rw [← sound.slots]
      exact (List.getElem?_eq_some_iff.mp slot).1
    refine ⟨by simpa using sound.slots, ?_, sound.due, sound.past, sound.representable, 3,
      .prepared applying rfl settled rfl planned ⟨rfl, rfl⟩ valid disciplined.2, fun _ => ?_⟩
    · intro other member
      rcases List.mem_or_eq_of_mem_set member with earlier | rfl
      · exact sound.tried other earlier
      · exact disciplined.1
    · simp only [sum_set_succ slot]
      omega
  | mutated valid prepared found mutation =>
    obtain ⟨reserve, phase, bound⟩ := sound.phase
    cases phase with
    | prepared applying there settled due planned unobserved validBefore known =>
      obtain rfl := Option.some.inj (prepared.symm.trans there)
      have room := bound (Or.inl applying)
      exact { sound with phase := ⟨2,
        .observed applying rfl rfl due planned rfl rfl ⟨validBefore, valid⟩
          ⟨known, disciplined⟩, fun _ => by simp only; omega⟩ }
    | idle _ free | observed _ free | failed _ free | closed _ free => simp [free] at prepared
  | read valid prepared found readOnly | unread valid prepared found readOnly =>
    simp [mutations.step found] at readOnly
  | recorded pending observed found effective =>
    obtain ⟨applying, room, free, planned⟩ := sound.of_pending pending
    exact { sound with due := planned, phase := ⟨0,
      .idle applying free rfl, fun _ => by simp only [Progress.effected]; omega⟩ }
  | notApplied valid uncertain unproven same =>
    obtain ⟨applying, room, _⟩ := sound.of_uncertain uncertain
    exact { sound with phase := ⟨0, .idle applying rfl rfl, fun _ => by simp only; omega⟩ }
  | applied valid uncertain found effective =>
    obtain ⟨applying, room, planned⟩ := sound.of_uncertain uncertain
    exact { sound with due := planned, phase := ⟨0,
      .idle applying rfl rfl, fun _ => by simp only [Progress.effected]; omega⟩ }
  | diverged valid uncertain =>
    obtain ⟨applying, room, _⟩ := sound.of_uncertain uncertain
    exact { sound with phase := ⟨1, .failed rfl rfl rfl rfl, fun _ => by simp only; omega⟩ }
  | resumed required failed unchanged =>
    obtain ⟨reserve, phase, bound⟩ := sound.phase
    cases phase with
    | failed _ free settled there =>
      have room := bound (Or.inr required)
      exact { sound with phase := ⟨0, .idle rfl free settled, fun _ => by simp only; omega⟩ }
    | idle applying | prepared applying | observed applying => simp [required] at applying
    | closed ended => exact absurd required ended.2.1
  | compensating required top =>
    obtain ⟨reserve, phase, _⟩ := sound.phase
    cases phase with
    | failed _ free settled =>
      exact { sound with phase := ⟨0,
        .closed ⟨by simp, by simp, by simp⟩ free settled, by simp⟩ }
    | idle applying | prepared applying | observed applying => simp [required] at applying
    | closed ended => exact absurd required ended.2.1
  | linked compensating =>
    obtain ⟨free, settled⟩ := sound.of_compensating compensating
    exact { sound with phase := ⟨0,
      .closed (by simp [compensating]) free settled, by simp [compensating]⟩ }
  | compensated compensating linked =>
    obtain ⟨free, settled⟩ := sound.of_compensating compensating
    exact { sound with phase := ⟨0,
      .closed ⟨by simp, by simp, by simp⟩ free settled, by simp⟩ }
  | succeeded applying free settled complete =>
    exact { sound with phase := ⟨0,
      .closed ⟨by simp, by simp, by simp⟩ free settled, by simp⟩ }

end Sound

end Dure.Plugin
