import Dure.Library.Machine
import Dure.Runtime.Preservation

/-! A chain of attempts to replace one runtime: the superseded ones and the current one, and
what one accepted call does to it.
-/

namespace Dure.Runtime

open Library Check List Transition
open Checkout (OperationId)

inductive Call where
  | advance (request : AdvanceRequest)
  | wake (request : WakeRequest)
  | repair (request : RepairRequest)
  | supersede (request : SupersedeRequest)
  deriving DecidableEq

namespace Call

/-- The transition that the call is about. -/
def operationId : Call → OperationId
  | .advance request => request.operationId
  | .wake request => request.operationId
  | .repair request => request.operationId
  | .supersede request => request.operationId

def expectedJournalRevision : Call → Int
  | .advance request => request.expectedJournalRevision
  | .wake request => request.expectedJournalRevision
  | .repair request => request.expectedJournalRevision
  | .supersede request => request.expectedJournalRevision

/-- The id of its own that the call carries. -/
def newOperationId : Call → Option OperationId
  | .advance _ => none
  | .wake request => some request.wakeOperationId
  | .repair request => some request.repairOperationId
  | .supersede request => some request.successorIntent.operationId

end Call

/-- The record that an accepted call left, or found as an earlier one had left it. -/
inductive Answer where
  | applied (record : Transition)
  | replayed (record : Transition)
  deriving DecidableEq

def Answer.record : Answer → Transition
  | .applied record | .replayed record => record

/-- The transitions of one chain, the newest first. -/
abbrev Chain := List Transition

namespace Chain

def lookup (chain : Chain) (operationId : OperationId) : Option Transition :=
  chain.find? (fun record => record.intent.operationId = operationId)

def require (chain : Chain) (operationId : OperationId) : Result Transition :=
  match chain.lookup operationId with
  | some record => pure record
  | none => throw (.notFound "agent runtime transition" operationId.value)

/-- The row of the record's operation is overwritten. -/
def put (chain : Chain) (next : Transition) : Chain :=
  chain.map (fun record =>
    if record.intent.operationId = next.intent.operationId then next else record)

def advance (digest : String → String) (chain : Chain) (request : AdvanceRequest)
    : Result (Answer × Chain) := do
  request.validate
  let current ← chain.require request.operationId
  let next ← current.advance digest request
  if next = current then
    pure (.replayed current, chain)
  else
    pure (.applied next, chain.put next)

/-- The outcome of a grant is written when it is new. -/
def settle (chain : Chain) (outcome : EffectAuthorization) : Answer × Chain :=
  match outcome with
  | .authorized next => (.applied next, chain.put next)
  | .replayed current => (.replayed current, chain)

def wake (digest : String → String) (chain : Chain) (request : WakeRequest)
    : Result (Answer × Chain) := do
  request.validate
  let current ← chain.require request.operationId
  let outcome ← current.authorizeWake digest request
  pure (chain.settle outcome)

def repair (digest : String → String) (chain : Chain) (request : RepairRequest)
    : Result (Answer × Chain) := do
  request.validate
  let current ← chain.require request.operationId
  let outcome ← current.authorizeRepair digest request
  pure (chain.settle outcome)

/-- A superseded transition answers with its successor when the request is the one that
superseded it.
-/
def replaySupersede (chain : Chain) (current : Transition) (request : SupersedeRequest)
    : Result (Answer × Chain) := do
  rejectIf
    (request.expectedJournalRevision = i64Max
      ∨ request.expectedJournalRevision + 1 ≠ current.journalRevision)
    (current.revisionConflict request.expectedJournalRevision)
  rejectIf
    (current.supersededByOperationId ≠ some request.successorIntent.operationId)
    (.idempotencyConflict "runtime transition was superseded by a different operation")
  let successor ← chain.require request.successorIntent.operationId
  rejectIf (successor.intent ≠ request.successorIntent)
    (.idempotencyConflict "runtime transition successor has a different intent")
  pure (.replayed successor, chain)

def supersede (digest : String → String) (chain : Chain) (request : SupersedeRequest)
    : Result (Answer × Chain) := do
  request.validate
  let current ← chain.require request.operationId
  if current.state = .superseded then
    chain.replaySupersede current request
  else do
    let (superseded, successor) ← current.supersede digest request
    rejectIf
      (chain.lookup successor.intent.operationId ≠ none
        ∨ chain.any (fun record =>
            record.intent.idempotencyKey = successor.intent.idempotencyKey))
      (.idempotencyConflict "runtime transition successor identity is already used")
    pure (.applied successor, successor :: chain.put superseded)

def call (digest : String → String) (chain : Chain) : Call → Result (Answer × Chain)
  | .advance request => chain.advance digest request
  | .wake request => chain.wake digest request
  | .repair request => chain.repair digest request
  | .supersede request => chain.supersede digest request

/-- A refused call leaves the chain as it was. -/
def machine (digest : String → String) : Machine Chain Call (Result Answer) where
  step chain request :=
    match chain.call digest request with
    | .ok (answer, next) => (.ok answer, next)
    | .error error => (.error error, chain)

variable {digest : String → String} {head : Transition} {past : List Transition}

/-- The newest transition is valid, the others are superseded, and no id is used twice. -/
structure Sound (digest : String → String) (head : Transition) (past : List Transition)
    : Prop where
  valid : head.Valid digest
  superseded : ∀ record ∈ past, record.state = .superseded
  distinct : ∀ record ∈ past, record.intent.operationId ≠ head.intent.operationId
  unique : (past.map (·.intent.operationId)).Nodup

variable {operationId : OperationId} {after : Chain} {current : Transition}

theorem require_ok {chain : Chain}
    : chain.require operationId = .ok current ↔ chain.lookup operationId = some current := by
  unfold require
  cases chain.lookup operationId <;> simp

/-- The row found is the newest one, or an older and superseded one. -/
theorem Sound.lookup (sound : Sound digest head past)
    (found : lookup (head :: past) operationId = some current)
    : current.intent.operationId = operationId
      ∧ (current = head ∨ (current ∈ past ∧ current.state = .superseded)) := by
  refine ⟨by simpa using find?_some found, ?_⟩
  rcases mem_cons.mp (mem_of_find?_eq_some found) with same | older
  · exact .inl same
  · exact .inr ⟨older, sound.superseded current older⟩

theorem lookup_head (same : head.intent.operationId = operationId)
    : lookup (head :: past) operationId = some head := by
  simp [lookup, same]

/-- Writing the newest transition leaves the others alone. -/
theorem Sound.put {next} (sound : Sound digest head past)
    (same : next.intent.operationId = head.intent.operationId)
    : put (head :: past) next = next :: past := by
  simp only [Chain.put, map_cons, same, if_true, cons.injEq, true_and]
  refine (map_congr_left fun record member => ?_).trans (map_id past)
  exact if_neg (sound.distinct record member)

/-- One accepted call on a chain with newest transition `head`. -/
inductive Effect (digest : String → String) (head : Transition) (past : List Transition)
    : Call → Answer → Chain → Prop where
  | replay {request : Call} {record : Transition}
      : Effect digest head past request (.replayed record) (head :: past)
  | move {request : AdvanceRequest} {next : Transition}
      (operation : request.operationId = head.intent.operationId)
      (revision : request.expectedJournalRevision = head.journalRevision)
      (awake : head.isDormant = false)
      (moves : Transition.Moves head.state next.state)
      (same : head.SameAttempt next)
      (counted : next.journalRevision = wrappingAddOne head.journalRevision)
      (stamped : next.updatedAtMs = request.advancedAtMs)
      (repeats : request.advance.matchesCurrent next = true)
      (valid : next.Valid digest)
      : Effect digest head past (.advance request) (.applied next) (next :: past)
  | wake {request : WakeRequest} {next : Transition}
      (operation : request.operationId = head.intent.operationId)
      (revision : request.expectedJournalRevision = head.journalRevision)
      (dormant : head.isDormant = true)
      (woken : { head with
        deferredTarget := some (.requested request.wakeOperationId request.wokenAtMs)
        journalRevision := head.journalRevision + 1
        updatedAtMs := request.wokenAtMs } = next)
      (valid : next.Valid digest)
      : Effect digest head past (.wake request) (.applied next) (next :: past)
  | repair {request : RepairRequest} {next : Transition}
      (operation : request.operationId = head.intent.operationId)
      (revision : request.expectedJournalRevision = head.journalRevision)
      (failed : head.state = .repairRequired)
      (repaired : Transition.stamped
        { head with
          state := .sourceStopped
          targetFailure := none
          lastRepairOperationId := some request.repairOperationId }
        request.repairedAtMs = next)
      (valid : next.Valid digest)
      : Effect digest head past (.repair request) (.applied next) (next :: past)
  | supersede {request : SupersedeRequest} {next successor : Transition}
      (operation : request.operationId = head.intent.operationId)
      (revision : request.expectedJournalRevision = head.journalRevision)
      (failed : head.state = .repairRequired)
      (superseded : head.supersededBy request = next)
      (valid : next.Valid digest)
      (started : Transition.successorRecord request.successorIntent head.intent.operationId
        head.replacementAuthority head.replacementWorkspace = successor)
      (fresh : lookup (head :: past) request.successorIntent.operationId = none)
      (successorValid : successor.Valid digest)
      : Effect digest head past (.supersede request) (.applied successor)
          (successor :: next :: past)

variable {answer : Answer}

section

variable (sound : Sound digest head past)
include sound

/-- An advance that was not a repetition changed the record. -/
theorem advance_effect {request : AdvanceRequest}
    (accepted : advance digest (head :: past) request = .ok (answer, after))
    : Effect digest head past (.advance request) answer after := by
  unfold advance at accepted
  simp only [↓seq_ok, bind_ok, require_ok] at accepted
  obtain ⟨_, current, found, next, advanced, answered⟩ := accepted
  split at answered
  · cases answered
    exact .replay
  · rename_i changed
    cases answered
    obtain ⟨⟨_, _, operation⟩, _, outcome⟩ := advance_ok.mp advanced
    rcases outcome with ⟨_, same⟩ | ⟨_, built, valid⟩
    · exact absurd same.symm changed
    · obtain ⟨revision, awake, applied, staged, rfl⟩ := advanced_ok.mp built
      obtain ⟨moves, same, counted, repeats⟩ := applyStage_ok staged
      rcases (sound.lookup found).2 with rfl | ⟨_, superseded⟩
      · have kept : (applied.stamped request.advancedAtMs).intent.operationId
            = current.intent.operationId := congrArg Intent.operationId same.intent
        rw [sound.put kept]
        refine .move operation.symm revision.symm awake moves
          ⟨same.intent, same.deferred, same.repair, same.predecessor⟩ ?_ rfl ?_
          (validate_ok.mp valid)
        · simp only [stamped, counted]
        · exact repeats
      · rw [superseded] at moves
        cases moves

theorem wake_effect {request : WakeRequest}
    (accepted : wake digest (head :: past) request = .ok (answer, after))
    : Effect digest head past (.wake request) answer after := by
  unfold wake at accepted
  simp only [↓seq_ok, bind_ok, require_ok, pure_ok] at accepted
  obtain ⟨_, current, found, outcome, granted, answered⟩ := accepted
  obtain ⟨⟨_, _, operation⟩, result⟩ := authorizeWake_ok.mp granted
  rcases result with ⟨_, rfl⟩ | ⟨_, next, woken, valid, rfl⟩
  · cases answered
    exact .replay
  · cases answered
    obtain ⟨revision, dormant, _, _, woken⟩ := woken_ok.mp woken
    rcases (sound.lookup found).2 with rfl | ⟨_, superseded⟩
    · rw [sound.put (by rw [← woken])]
      exact .wake operation.symm revision.symm dormant woken (validate_ok.mp valid)
    · simp [isDormant, superseded] at dormant

theorem repair_effect {request : RepairRequest}
    (accepted : repair digest (head :: past) request = .ok (answer, after))
    : Effect digest head past (.repair request) answer after := by
  unfold repair at accepted
  simp only [↓seq_ok, bind_ok, require_ok, pure_ok] at accepted
  obtain ⟨_, current, found, outcome, granted, answered⟩ := accepted
  obtain ⟨⟨_, _, operation⟩, result⟩ := authorizeRepair_ok.mp granted
  rcases result with ⟨_, rfl⟩ | ⟨_, next, repaired, valid, rfl⟩
  · cases answered
    exact .replay
  · cases answered
    obtain ⟨revision, failed, _, repaired⟩ := repaired_ok.mp repaired
    rcases (sound.lookup found).2 with rfl | ⟨_, superseded⟩
    · rw [sound.put (by rw [← repaired]; rfl)]
      exact .repair operation.symm revision.symm failed repaired
        (validate_ok.mp valid)
    · rw [superseded] at failed
      cases failed

theorem supersede_effect {request : SupersedeRequest}
    (accepted : supersede digest (head :: past) request = .ok (answer, after))
    : Effect digest head past (.supersede request) answer after := by
  unfold supersede at accepted
  simp only [↓seq_ok, bind_ok, require_ok] at accepted
  obtain ⟨_, current, found, answered⟩ := accepted
  split at answered
  · unfold replaySupersede at answered
    simp only [↓seq_ok, bind_ok, pure_ok] at answered
    obtain ⟨_, _, successor, _, _, answered⟩ := answered
    cases answered
    exact .replay
  · rename_i live
    simp only [↓seq_ok, bind_ok, pure_ok, rejectIf_ok, not_or, not_not, Prod.exists]
      at answered
    obtain ⟨next, successor, superseded, ⟨fresh, _⟩, answered⟩ := answered
    cases answered
    obtain ⟨⟨_, _, operation⟩, revision, failed, _, _, ⟨old, valid⟩, started,
      successorValid⟩ := supersede_ok.mp superseded
    rcases (sound.lookup found).2 with rfl | ⟨_, superseded⟩
    · rw [sound.put (by rw [← old]; rfl)]
      refine .supersede operation.symm revision.symm failed old
        (validate_ok.mp valid) started ?_ (validate_ok.mp successorValid)
      rw [← started] at fresh
      exact fresh
    · exact absurd superseded live

theorem call_effect (accepted : call digest (head :: past) request = .ok (answer, after))
    : Effect digest head past request answer after := by
  cases request with
  | advance request => exact advance_effect sound accepted
  | wake request => exact wake_effect sound accepted
  | repair request => exact repair_effect sound accepted
  | supersede request => exact supersede_effect sound accepted

end

end Chain

end Dure.Runtime
