import Dure.Library.Tickets
import Dure.Runtime.Chains

/-! Along every run of a chain each start of a target is granted once, provided that one
operation id stands for one request.
-/

namespace Dure.Runtime

open Library Check Transition
open Checkout (OperationId)

namespace Chain

variable {digest : String → String} {head : Transition} {past : List Transition}

theorem wrappingAddOne_positive (positive : 1 ≤ wrappingAddOne value)
    : value ≠ i64Max ∧ wrappingAddOne value = value + 1 := by
  unfold wrappingAddOne i64Max at *
  split at positive
  · omega
  · rename_i room
    exact ⟨room, if_neg room⟩

theorem Sound.replace (sound : Sound digest head past)
    (same : next.intent.operationId = head.intent.operationId) (valid : next.Valid digest)
    : Sound digest next past where
  valid := valid
  superseded := sound.superseded
  distinct := fun record member => same ▸ sound.distinct record member
  unique := sound.unique

section

variable {request : Call} {answer : Answer} {after : Chain}
  (effect : Effect digest head past request answer after)
include effect

/-- An accepted call leaves a sound chain. -/
theorem Effect.sound (sound : Sound digest head past)
    : ∃ newest older, after = newest :: older ∧ Sound digest newest older := by
  cases effect with
  | replay => exact ⟨head, past, rfl, sound⟩
  | move _ _ _ _ same _ _ _ valid =>
    exact ⟨_, _, rfl, sound.replace (congrArg Intent.operationId same.intent) valid⟩
  | wake _ _ _ woken valid => exact ⟨_, _, rfl, sound.replace (by rw [← woken]) valid⟩
  | repair _ _ _ repaired valid =>
    exact ⟨_, _, rfl, sound.replace (by rw [← repaired]; rfl) valid⟩
  | supersede _ _ _ superseded _ started fresh successorValid =>
    subst superseded started
    have absent := List.find?_eq_none.mp fresh
    refine ⟨_, _, rfl, successorValid, ?_, ?_, ?_⟩
    · intro record member
      rcases List.mem_cons.mp member with rfl | older
      · rfl
      · exact sound.superseded record older
    · intro record member same
      rcases List.mem_cons.mp member with rfl | older
      · exact absent head List.mem_cons_self (decide_eq_true same)
      · exact absent record (List.mem_cons_of_mem _ older) (decide_eq_true same)
    · simp only [List.map_cons, List.nodup_cons, List.mem_map, not_exists, not_and]
      exact ⟨fun record member => sound.distinct record member, sound.unique⟩

/-- Repeating an accepted call is answered from the records that it left. -/
theorem Effect.repeated (accepted : call digest (head :: past) request = .ok (answer, after))
    : call digest after request = .ok (.replayed answer.record, after) := by
  cases effect with
  | replay => exact accepted
  | @move request next operation revision _ _ same counted stamped repeats valid =>
    unfold call Chain.advance at accepted ⊢
    simp only [↓seq_ok, bind_ok, require_ok] at accepted ⊢
    have kept : next.intent.operationId = request.operationId :=
      (congrArg Intent.operationId same.intent).trans operation.symm
    have step := wrappingAddOne_positive (counted ▸ valid.positive)
    refine ⟨accepted.1, next, lookup_head kept, next, ?_, by simp [Answer.record]⟩
    refine advance_ok.mpr
      ⟨⟨validate_ok.mpr valid, accepted.1, kept⟩, le_of_eq stamped, .inl ⟨?_, rfl⟩⟩
    simp only [replaysAdvance, decide_eq_true_eq]
    exact ⟨by rw [counted, step.2, revision], repeats⟩
  | @wake request next operation _ _ woken valid =>
    unfold call Chain.wake at accepted ⊢
    simp only [↓seq_ok, bind_ok, require_ok] at accepted ⊢
    have kept : next.intent.operationId = request.operationId := by
      rw [← woken]
      exact operation.symm
    have remembered : next.wokenBy request.wakeOperationId = true := by
      rw [← woken]
      simp [wokenBy]
    refine ⟨accepted.1, next, lookup_head kept, .replayed next, ?_, rfl⟩
    exact authorizeWake_ok.mpr
      ⟨⟨validate_ok.mpr valid, accepted.1, kept⟩, .inl ⟨remembered, rfl⟩⟩
  | @repair request next operation _ _ repaired valid =>
    unfold call Chain.repair at accepted ⊢
    simp only [↓seq_ok, bind_ok, require_ok] at accepted ⊢
    have kept : next.intent.operationId = request.operationId := by
      rw [← repaired]
      exact operation.symm
    have remembered : next.lastRepairOperationId = some request.repairOperationId := by
      rw [← repaired]
      rfl
    refine ⟨accepted.1, next, lookup_head kept, .replayed next, ?_, rfl⟩
    exact authorizeRepair_ok.mpr
      ⟨⟨validate_ok.mpr valid, accepted.1, kept⟩, .inl ⟨remembered, rfl⟩⟩
  | @supersede request next successor operation revision _ superseded valid started fresh _ =>
    subst superseded started
    unfold call Chain.supersede at accepted ⊢
    simp only [↓seq_ok, bind_ok, require_ok] at accepted ⊢
    have step := wrappingAddOne_positive valid.positive
    have other : request.successorIntent.operationId ≠ head.intent.operationId := by
      intro same
      have absent := List.find?_eq_none.mp fresh head List.mem_cons_self
      simp [same] at absent
    refine ⟨accepted.1, head.supersededBy request, ?_, ?_⟩
    · simp [lookup, successorRecord, supersededBy,
        stamped, operation, other]
    · simp only [supersededBy, stamped, if_true]
      unfold replaySupersede
      simp only [↓seq_ok, bind_ok, require_ok, pure_ok, rejectIf_ok, not_or, not_not,
        revision]
      exact ⟨⟨step.1, step.2.symm⟩, trivial, _, lookup_head rfl, rfl, rfl⟩

end

end Chain

/-- What a call does to the attempts, each named by the operation it is prepared from. -/
inductive Event where
  | granted (attempt : OperationId)
  | failed (attempt : OperationId)
  deriving DecidableEq

namespace Event

/-- A grant issues the attempt as a ticket, its failure closes it. -/
def use : Event → Tickets.Use OperationId
  | .granted attempt => .issue attempt
  | .failed attempt => .close attempt

def grantedAttempt : Event → Option OperationId
  | .granted attempt => some attempt
  | .failed _ => none

end Event

namespace Transition

def hasFailed (record : Transition) : Bool := record.state = .repairRequired

/-- The attempt under way: granted, and not failed. -/
def stage (record : Transition) : Tickets.Stage OperationId :=
  match record.state with
  | .sourceStopped =>
    if record.targetIsDeferred then .free else .held record.targetAttemptOperationId
  | .targetStarted | .committed => .held record.targetAttemptOperationId
  | _ => .free

end Transition

namespace Chain

variable {digest : String → String} {head next successor : Transition}
variable {past : List Transition} {test : Transition → Bool}

/-- The records that pass a test after a call and did not before it. -/
def entering (test : Transition → Bool) (before after : Chain) : List Transition :=
  after.filter (fun record =>
    test record
      && !before.any (fun earlier =>
        earlier.intent.operationId = record.intent.operationId && test earlier))

/-- The records that a call brought into the state that permits target effects. -/
def entered (before after : Chain) : List Transition :=
  entering Transition.permitsTargetEffects before after

def events (before after : Chain) : List Event :=
  (entered before after).map (fun record => .granted record.targetAttemptOperationId)
    ++ (entering Transition.hasFailed before after).map
      (fun record => .failed record.targetAttemptOperationId)

theorem entering_self (chain : Chain) : entering test chain chain = [] := by
  refine List.filter_eq_nil_iff.mpr fun record member => ?_
  cases passes : test record with
  | false => simp
  | true =>
    have found : chain.any (fun earlier =>
        earlier.intent.operationId = record.intent.operationId && test earlier) = true :=
      List.any_eq_true.mpr ⟨record, member, by simp [passes]⟩
    simp [found]

section

variable {records : List Transition} (quiet : ∀ record ∈ records, test record = false)
include quiet

theorem filter_quiet {also : Transition → Bool}
    : records.filter (fun record => test record && also record) = [] := by
  refine List.filter_eq_nil_iff.mpr fun record member => ?_
  simp [quiet record member]

theorem any_quiet
    : records.any (fun record => record.intent.operationId = operationId && test record)
      = false := by
  refine List.any_eq_false.mpr fun record member => ?_
  simp [quiet record member]

end

/-- Only the newest record can enter when the others fail the test. -/
theorem entering_replace (quiet : ∀ record ∈ past, test record = false)
    (same : next.intent.operationId = head.intent.operationId)
    : entering test (head :: past) (next :: past)
      = if test next && !test head then [next] else [] := by
  simp only [entering, List.filter_cons, List.any_cons, any_quiet quiet, same, decide_true,
    Bool.true_and, Bool.or_false, filter_quiet quiet]

theorem entering_push (quiet : ∀ record ∈ past, test record = false)
    (silent : test next = false)
    (fresh : ∀ record ∈ head :: past,
      record.intent.operationId ≠ successor.intent.operationId)
    : entering test (head :: past) (successor :: next :: past)
      = if test successor then [successor] else [] := by
  have other : head.intent.operationId ≠ successor.intent.operationId :=
    fresh head List.mem_cons_self
  simp [entering, List.filter_cons, List.any_cons, any_quiet quiet, silent, other,
    filter_quiet quiet]

section

variable (sound : Sound digest head past)
include sound

theorem Sound.permits_quiet
    : ∀ record ∈ past, record.permitsTargetEffects = false := by
  intro record member
  simp [permitsTargetEffects, sound.superseded record member]

theorem Sound.failed_quiet
    : ∀ record ∈ past, record.hasFailed = false := by
  intro record member
  simp [hasFailed, sound.superseded record member]

/-- The events of a call that rewrites the newest record. -/
theorem Sound.events_replace (same : next.intent.operationId = head.intent.operationId)
    : events (head :: past) (next :: past)
      = (if next.permitsTargetEffects && !head.permitsTargetEffects then
          [.granted next.targetAttemptOperationId] else [])
        ++ (if next.hasFailed && !head.hasFailed then
          [.failed next.targetAttemptOperationId] else []) := by
  simp only [events, entered, entering_replace sound.permits_quiet same,
    entering_replace sound.failed_quiet same]
  split_ifs <;> rfl

/-- A supersede of a failed record grants the successor's attempt. -/
theorem Sound.supersede_entered
    (started : Transition.successorRecord request.successorIntent head.intent.operationId
      head.replacementAuthority head.replacementWorkspace = successor)
    (fresh : Chain.lookup (head :: past) request.successorIntent.operationId = none)
    : entered (head :: past) (successor :: head.supersededBy request :: past) = [successor]
      ∧ events (head :: past) (successor :: head.supersededBy request :: past)
        = [.granted request.successorIntent.operationId] := by
  subst started
  have absent := List.find?_eq_none.mp fresh
  have unused : ∀ record ∈ head :: past, record.intent.operationId
      ≠ (successorRecord request.successorIntent head.intent.operationId
        head.replacementAuthority head.replacementWorkspace).intent.operationId :=
    fun record member same => absent record member (decide_eq_true same)
  have permits := entering_push sound.permits_quiet
    (rfl : (head.supersededBy request).permitsTargetEffects = false) unused
  have failed := entering_push sound.failed_quiet
    (rfl : (head.supersededBy request).hasFailed = false) unused
  exact ⟨permits, by rw [events, entered, permits, failed]; rfl⟩

end

/-- A record that permits target effects was brought there by one applied call. -/
theorem Effect.entered_applied (effect : Effect digest head past request answer after)
    (sound : Sound digest head past) (enters : entered (head :: past) after ≠ [])
    : entered (head :: past) after = [answer.record] ∧ answer = .applied answer.record := by
  have replaced {next : Transition}
      (same : next.intent.operationId = head.intent.operationId)
      (enters : entered (head :: past) (next :: past) ≠ [])
      : entered (head :: past) (next :: past) = [next] := by
    rw [entered, entering_replace sound.permits_quiet same] at enters ⊢
    split at enters
    · rename_i passes
      rw [if_pos passes]
    · exact absurd rfl enters
  cases effect with
  | replay => exact absurd (entering_self _) enters
  | move _ _ _ _ same _ _ _ _ =>
    exact ⟨replaced (congrArg Intent.operationId same.intent) enters, rfl⟩
  | wake _ _ _ woken _ => exact ⟨replaced (by rw [← woken]) enters, rfl⟩
  | repair _ _ _ repaired _ => exact ⟨replaced (by rw [← repaired]; rfl) enters, rfl⟩
  | supersede _ _ _ superseded _ started fresh _ =>
    subst superseded
    exact ⟨(sound.supersede_entered started fresh).1, rfl⟩

/-- The newest record's attempt is the one that the events leave under way. Witness: one case
for each row of the stage table.
-/
theorem Effect.runs (effect : Effect digest head past request answer (newest :: older))
    (sound : Sound digest head past)
    : Tickets.Runs head.stage ((events (head :: past) (newest :: older)).map Event.use)
        newest.stage := by
  cases effect with
  | replay =>
    rw [events, entered, entering_self, entering_self]
    exact .nil
  | move _ _ awake moves same _ _ _ _ =>
    rw [sound.events_replace (congrArg Intent.operationId same.intent)]
    have attempt := same.targetAttempt
    have deferred : newest.targetIsDeferred = head.targetIsDeferred := by
      simp only [targetIsDeferred, same.deferred]
    simp only [permitsTargetEffects, hasFailed, stage,
      isDormant, attempt, deferred] at awake ⊢
    generalize head.state = before, newest.state = after at moves awake ⊢
    cases moves with
    | retain | commit => exact .nil
    | stop =>
      cases head.targetIsDeferred with
      | false => exact .cons (.issue _) .nil
      | true => exact .nil
    | fail =>
      have effective : head.targetIsDeferred = false := by simpa using awake
      simp only [effective]
      exact .cons (.withdraw _) .nil
    | start =>
      have effective : head.targetIsDeferred = false := by simpa using awake
      simp only [effective]
      exact .nil
    | reject => exact .cons (.withdraw _) .nil
  | wake _ _ dormant woken _ =>
    rw [sound.events_replace (by rw [← woken])]
    simp only [isDormant, decide_eq_true_eq] at dormant
    subst woken
    simp only [permitsTargetEffects, hasFailed, stage,
      targetIsDeferred, dormant.1] at dormant ⊢
    simp only [dormant]
    exact .cons (.issue _) .nil
  | repair _ _ failed repaired valid =>
    rw [sound.events_replace (by rw [← repaired]; rfl)]
    have state : newest.state = .sourceStopped := by
      rw [← repaired]
      rfl
    have effective : newest.targetIsDeferred = false := by
      rw [← repaired]
      exact sound.valid.not_deferred (by simp [failed])
    simp only [permitsTargetEffects, hasFailed, stage,
      state, effective, failed]
    exact .cons (.issue _) .nil
  | supersede _ _ failed superseded _ started fresh _ =>
    subst superseded
    rw [(sound.supersede_entered started fresh).2]
    subst started
    simp only [stage, failed]
    exact .cons (.issue _) .nil

end Chain

end Dure.Runtime
