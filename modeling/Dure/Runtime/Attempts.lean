import Mathlib
import Dure.Runtime.Acceptance
import Dure.Runtime.Grants

/-! Whole runs of a chain: from its admission on, every attempt is granted by one applied
call, the next one only after a failure, and under a launch of its own.
-/

namespace Dure.Runtime

open Library Check List Sample
open Checkout (OperationId)

/-- The first record of a chain. -/
inductive Starts (digest : String → String) : Transition → Prop where
  | admitted {intent : Intent} {record : Transition}
      (accepted : Transition.admitted digest intent = .ok record)
      : Starts digest record
  | deferred {intent : Intent} {record : Transition}
      (accepted : Transition.admittedDeferred digest intent = .ok record)
      : Starts digest record
  | stopped {intent : Intent} {predecessor : OperationId} {record : Transition}
      (accepted : Transition.afterStoppedSource digest intent predecessor = .ok record)
      : Starts digest record

/-- The operation that a repair or a supersede prepares its attempt from. -/
def Call.attemptId : Call → Option OperationId
  | .repair request => some request.repairOperationId
  | .supersede request => some request.successorIntent.operationId
  | _ => none

/-- No attempt has been granted yet. -/
def Transition.Untried (record : Transition) : Prop :=
  record.state = .admitted ∨ record.state = .sourceRetained ∨ record.isDormant = true

variable {older : List Transition} {after : Chain}

namespace Chain

variable {digest : String → String} {start head : Transition} {past : List Transition}
variable {calls : List Call}

/-- The grant that a record brings along when its source was already stopped. -/
def startEvents (start : Transition) : List Event :=
  if start.permitsTargetEffects then [.granted start.targetAttemptOperationId] else []

def runEvents (digest : String → String) (start : Transition) (calls : List Call)
    : List Event :=
  startEvents start
    ++ ((machine digest).exchanges [start] calls).flatMap (fun exchange =>
      events exchange.1 ((machine digest).step exchange.1 exchange.2.1).2)

def attempts (digest : String → String) (start : Transition) (calls : List Call)
    : List OperationId :=
  (runEvents digest start calls).filterMap Event.grantedAttempt

/-- The call of an exchange that was applied. -/
def appliedCall (exchange : Chain × Call × Result Answer) : Option Call :=
  match exchange.2.2 with
  | .ok (.applied _) => some exchange.2.1
  | _ => none

def appliedCalls (digest : String → String) (start : Transition) (calls : List Call)
    : List Call :=
  ((machine digest).exchanges [start] calls).filterMap appliedCall

/-- One operation id stands for one request, and none for the first transition again. -/
structure OneRequestPerId (start : Transition) (calls : List Call) : Prop where
  same : ∀ first ∈ calls, ∀ second ∈ calls, first.newOperationId ≠ none
    → first.newOperationId = second.newOperationId → first = second
  new : ∀ request ∈ calls, request.newOperationId ≠ some start.intent.operationId

variable {request : Call} {record : Transition}

theorem OneRequestPerId.before (one : OneRequestPerId start (calls ++ [request]))
    : OneRequestPerId start calls where
  same := fun first earlier second later =>
    one.same first (mem_append_left _ earlier) second (mem_append_left _ later)
  new := fun other member => one.new other (mem_append_left _ member)

theorem runEvents_append
    : runEvents digest start (calls ++ [request])
      = runEvents digest start calls
        ++ events ((machine digest).after [start] calls)
          ((machine digest).after [start] (calls ++ [request])) := by
  simp only [runEvents, Machine.exchanges_append, Machine.after_append, Machine.exchanges,
    flatMap_append, flatMap_cons, flatMap_nil, append_nil,
    append_assoc, Machine.after_cons, Machine.after_nil]

theorem appliedCalls_append
    : appliedCalls digest start (calls ++ [request])
      = appliedCalls digest start calls
        ++ (appliedCall ((machine digest).after [start] calls, request,
          ((machine digest).step ((machine digest).after [start] calls) request).1)).toList := by
  simp only [appliedCalls, Machine.exchanges_append, Machine.exchanges,
    filterMap_append]
  congr 1

theorem mem_appliedCalls (applied : request ∈ appliedCalls digest start calls)
    : request ∈ calls := by
  induction calls using reverseRecOn with
  | nil => cases applied
  | append_singleton calls last ih =>
    rw [appliedCalls_append, mem_append, Option.mem_toList] at applied
    rcases applied with earlier | now
    · exact mem_append_left _ (ih earlier)
    · unfold appliedCall at now
      split at now
      · have same : last = request := Option.some.inj now
        simp [same]
      · cases now

/-- An applied call was about the newest record, at its revision, and moved it by one. -/
theorem Effect.applied (effect : Effect digest head past request (.applied record) after)
    : request.operationId = head.intent.operationId
      ∧ request.expectedJournalRevision = head.journalRevision
      ∧ (∃ next ∈ after, next.intent.operationId = head.intent.operationId
        ∧ next.journalRevision = head.journalRevision + 1)
      ∧ ∀ older ∈ past, older ∈ after := by
  cases effect with
  | move operation revision _ _ attempt counted _ _ valid =>
    have step := (wrappingAddOne_positive (counted ▸ valid.positive)).2
    exact ⟨operation, revision, ⟨_, mem_cons_self,
      congrArg Intent.operationId attempt.intent, counted.trans step⟩,
      fun _ => mem_cons_of_mem _⟩
  | wake operation revision _ woken _ =>
    subst woken
    exact ⟨operation, revision, ⟨_, mem_cons_self, rfl, rfl⟩,
      fun _ => mem_cons_of_mem _⟩
  | repair operation revision _ repaired valid =>
    subst repaired
    have step := (wrappingAddOne_positive valid.positive).2
    exact ⟨operation, revision, ⟨_, mem_cons_self, rfl, step⟩,
      fun _ => mem_cons_of_mem _⟩
  | supersede operation revision _ superseded valid _ _ _ =>
    subst superseded
    have step := (wrappingAddOne_positive valid.positive).2
    exact ⟨operation, revision,
      ⟨_, mem_cons_of_mem _ mem_cons_self, rfl, step⟩,
      fun _ older => mem_cons_of_mem _ (mem_cons_of_mem _ older)⟩

/-- No row is lost, and no revision falls. -/
theorem Effect.revisions (effect : Effect digest head past request answer after)
    : ∀ record ∈ head :: past, ∃ later ∈ after,
        later.intent.operationId = record.intent.operationId
        ∧ record.journalRevision ≤ later.journalRevision := by
  intro record member
  cases answer with
  | replayed found =>
    cases effect
    exact ⟨record, member, rfl, le_refl _⟩
  | applied found =>
    obtain ⟨_, _, ⟨next, present, same, step⟩, kept⟩ := effect.applied
    rcases mem_cons.mp member with rfl | older
    · exact ⟨next, present, same, by omega⟩
    · exact ⟨record, kept record older, rfl, le_refl _⟩

/-! ### What a run has done -/

/-- The newest record of a sound chain is the only one of its operation. -/
theorem Sound.newest (sound : Sound digest head past) (member : record ∈ head :: past)
    (same : record.intent.operationId = head.intent.operationId)
    : record = head := by
  rcases mem_cons.mp member with newest | older
  · exact newest
  · exact absurd same (sound.distinct record older)

/-- The chain that a run has reached, and what its calls have used up. -/
structure Journey (digest : String → String) (start : Transition) (calls : List Call)
    (head : Transition) (past : List Transition)
    : Prop where
  chain : (machine digest).after [start] calls = head :: past
  sound : Sound digest head past
  runs : Tickets.Runs .free ((runEvents digest start calls).map Event.use) head.stage
  spent : ∀ request ∈ appliedCalls digest start calls, ∃ record ∈ head :: past,
    record.intent.operationId = request.operationId
    ∧ request.expectedJournalRevision < record.journalRevision
  once : ((appliedCalls digest start calls).filterMap Call.newOperationId).Nodup
  attempts : (head.Untried
      ∧ head.intent.operationId = start.intent.operationId
      ∧ attempts digest start calls = []
      ∧ (appliedCalls digest start calls).filterMap Call.attemptId = [])
    ∨ (¬head.Untried
      ∧ attempts digest start calls
        = start.intent.operationId
          :: (appliedCalls digest start calls).filterMap Call.attemptId)

/-- An id that was applied is not applied again. -/
theorem Journey.unused (journey : Journey digest start calls head past)
    (one : OneRequestPerId start (calls ++ [request]))
    (effect : Effect digest head past request (.applied record) after)
    (carries : request.newOperationId = some operationId)
    : operationId ∉ (appliedCalls digest start calls).filterMap Call.newOperationId := by
  intro used
  obtain ⟨earlier, applied, same⟩ := mem_filterMap.mp used
  have identical : earlier = request :=
    one.same earlier (mem_append_left _ (mem_appliedCalls applied)) request
      (mem_append_right _ mem_cons_self) (by simp [same]) (same.trans carries.symm)
  subst identical
  -- the record has moved past the revision that the request names
  obtain ⟨found, member, operation, passed⟩ := journey.spent earlier applied
  obtain ⟨here, revision, _⟩ := effect.applied
  have newest := journey.sound.newest member (operation.trans here)
  rw [newest] at passed
  omega

/-- A call that leaves the chain as it was, refused or answered from the records. -/
theorem Journey.idle (journey : Journey digest start calls head past)
    (unchanged : (machine digest).after [start] (calls ++ [request]) = head :: past)
    (unapplied : appliedCall ((machine digest).after [start] calls, request,
      ((machine digest).step ((machine digest).after [start] calls) request).1) = none)
    : Journey digest start (calls ++ [request]) head past := by
  have quiet : runEvents digest start (calls ++ [request]) = runEvents digest start calls := by
    rw [runEvents_append, unchanged, journey.chain, events, entered, entering_self,
      entering_self]
    simp
  have same : appliedCalls digest start (calls ++ [request])
      = appliedCalls digest start calls := by
    rw [appliedCalls_append, unapplied]
    simp
  refine ⟨unchanged, journey.sound, quiet ▸ journey.runs, same ▸ journey.spent,
    same ▸ journey.once, ?_⟩
  rw [Chain.attempts, quiet, same]
  exact journey.attempts

/-- The grants of a call that rewrites the newest record. -/
theorem Sound.granted_replace {next} (sound : Sound digest head past)
    (same : next.intent.operationId = head.intent.operationId)
    : (events (head :: past) (next :: past)).filterMap Event.grantedAttempt
      = if next.permitsTargetEffects && !head.permitsTargetEffects then
          [next.targetAttemptOperationId]
        else [] := by
  rw [sound.events_replace same]
  split_ifs <;> rfl

attribute [local simp] Transition.isDormant Transition.Untried

/-- How the attempts grow with an applied call. -/
theorem Effect.attempts
    (effect : Effect digest head past request (.applied record) (newest :: older))
    (sound : Sound digest head past)
    : (head.Untried ∧ newest.Untried
        ∧ newest.intent.operationId = head.intent.operationId
        ∧ (events (head :: past) (newest :: older)).filterMap Event.grantedAttempt = []
        ∧ request.attemptId = none)
      ∨ (head.Untried ∧ ¬newest.Untried
        ∧ (events (head :: past) (newest :: older)).filterMap Event.grantedAttempt
          = [head.intent.operationId]
        ∧ request.attemptId = none)
      ∨ (¬head.Untried ∧ ¬newest.Untried
        ∧ (events (head :: past) (newest :: older)).filterMap Event.grantedAttempt
          = request.attemptId.toList) := by
  cases effect with
  | move _ _ awake moves same _ _ _ _ =>
    have operation := congrArg Intent.operationId same.intent
    have deferred : record.targetIsDeferred = head.targetIsDeferred := by
      simp only [Transition.targetIsDeferred, same.deferred]
    have attempt := same.targetAttempt
    rw [sound.granted_replace operation]
    by_cases admitted : head.state = .admitted
    · have unrepaired := (sound.valid.admitted_counts admitted).2.2.2
      have first : head.targetAttemptOperationId = head.intent.operationId := by
        simp [Transition.targetAttemptOperationId, unrepaired]
      rw [attempt, first]
      simp only [Transition.Untried, Transition.permitsTargetEffects,
        Transition.isDormant, deferred, admitted] at awake ⊢
      rw [admitted] at moves
      generalize record.state = after at moves ⊢
      cases moves with
      | retain => exact .inl (by simp [operation, Call.attemptId])
      | stop =>
        cases delayed : head.targetIsDeferred with
        | true => exact .inl (by simp [operation, Call.attemptId])
        | false => exact .inr (.inl (by simp [Call.attemptId]))
    · refine .inr (.inr ?_)
      simp only [Transition.Untried, Transition.permitsTargetEffects,
        Transition.isDormant, deferred, Call.attemptId] at awake ⊢
      generalize head.state = before, record.state = after at moves awake admitted ⊢
      cases moves with
      | retain | stop => exact absurd rfl admitted
      | fail | start => simpa using awake
      | reject | commit => simp
  | wake _ _ dormant woken _ =>
    obtain ⟨state, delayed, _, waiting⟩ := sound.valid.dormant dormant
    rw [sound.granted_replace (by rw [← woken])]
    refine .inr (.inl ⟨.inr (.inr dormant), ?_, ?_, rfl⟩)
    · subst woken
      simp [Transition.targetIsDeferred, state]
    · subst woken
      simp [Transition.permitsTargetEffects, Transition.targetIsDeferred,
        Transition.targetAttemptOperationId, state, delayed, waiting.repair]
  | @repair request _ _ _ failed repaired valid =>
    have effective := sound.valid.not_deferred (by simp [failed])
    have state : record.state = .sourceStopped := by
      rw [← repaired]
      rfl
    have awake : record.targetIsDeferred = false := by
      rw [← repaired]
      exact effective
    have attempt : record.lastRepairOperationId = some request.repairOperationId := by
      rw [← repaired]
      rfl
    rw [sound.granted_replace (by rw [← repaired]; rfl)]
    refine .inr (.inr ⟨?_, ?_, ?_⟩)
    · simp [failed]
    · simp [state, awake]
    · simp [Transition.permitsTargetEffects, Transition.targetAttemptOperationId, state,
        awake, failed, attempt, Call.attemptId]
  | supersede _ _ failed superseded _ started fresh _ =>
    subst superseded
    rw [(sound.supersede_entered started fresh).2]
    refine .inr (.inr ⟨?_, ?_, rfl⟩)
    · simp [failed]
    · subst started
      simp [Transition.successorRecord, Transition.targetIsDeferred]

section

variable (journey : Journey digest start calls head past)
  (one : OneRequestPerId start (calls ++ [request]))
include journey one

/-- An applied call extends the run. -/
theorem Journey.apply
    (accepted : call digest (head :: past) request = .ok (.applied record, newest :: older))
    : Journey digest start (calls ++ [request]) newest older := by
  have effect := call_effect journey.sound accepted
  have stepped : (machine digest).step (head :: past) request
      = (.ok (.applied record), newest :: older) := by
    simp only [machine, accepted]
  have reached : (machine digest).after [start] (calls ++ [request]) = newest :: older := by
    rw [Machine.after_append, journey.chain]
    simp [stepped]
  have applied : appliedCalls digest start (calls ++ [request])
      = appliedCalls digest start calls ++ [request] := by
    rw [appliedCalls_append, journey.chain, stepped]
    rfl
  have grown : runEvents digest start (calls ++ [request])
      = runEvents digest start calls ++ events (head :: past) (newest :: older) := by
    rw [runEvents_append, reached, journey.chain]
  obtain ⟨_, _, shape, sound⟩ := effect.sound journey.sound
  cases shape
  obtain ⟨operation, revision, ⟨next, present, same, step⟩, _⟩ := effect.applied
  refine ⟨reached, sound, ?_, ?_, ?_, ?_⟩
  · rw [grown, map_append]
    exact journey.runs.append (effect.runs journey.sound)
  · rw [applied]
    intro other member
    rcases mem_append.mp member with earlier | now
    · obtain ⟨found, held, names, passed⟩ := journey.spent other earlier
      obtain ⟨later, kept, still, grows⟩ := effect.revisions found held
      exact ⟨later, kept, still.trans names, by omega⟩
    · rw [mem_singleton.mp now]
      exact ⟨next, present, same.trans operation.symm, by omega⟩
  · rw [applied, filterMap_append]
    cases carries : request.newOperationId with
    | none => simpa [carries] using journey.once
    | some operationId =>
      have unused := journey.unused one effect carries
      simp only [filterMap_cons, carries, filterMap_nil]
      exact nodup_append.mpr ⟨journey.once, nodup_singleton _,
        fun used member other now => by
          rw [mem_singleton.mp now]
          exact fun same => unused (same ▸ member)⟩
  · rw [Chain.attempts, grown, applied, filterMap_append, filterMap_append]
    have last : [request].filterMap Call.attemptId = request.attemptId.toList := by
      cases carries : request.attemptId <;> simp [carries]
    rw [last]
    rcases effect.attempts journey.sound with
      ⟨untried, still, kept, none, unnamed⟩ | ⟨untried, tried, first, unnamed⟩
      | ⟨tried, still, granted⟩
    · rcases journey.attempts with ⟨_, origin, before, named⟩ | ⟨tried, _⟩
      · left
        rw [Chain.attempts] at before
        rw [before, none, named, unnamed]
        exact ⟨still, kept.trans origin, rfl, rfl⟩
      · exact absurd untried tried
    · rcases journey.attempts with ⟨_, origin, before, named⟩ | ⟨tried, _⟩
      · right
        refine ⟨tried, ?_⟩
        rw [Chain.attempts] at before
        rw [before, first, named, unnamed, origin]
        rfl
      · exact absurd untried tried
    · rcases journey.attempts with ⟨untried, _⟩ | ⟨_, before⟩
      · exact absurd untried tried
      · right
        refine ⟨still, ?_⟩
        rw [Chain.attempts] at before
        rw [before, granted]
        rfl

/-- A run and one call more. -/
theorem Journey.step
    : ∃ newest older, Journey digest start (calls ++ [request]) newest older := by
  cases outcome : call digest (head :: past) request with
  | error refusal =>
    have stepped : (machine digest).step (head :: past) request
        = (.error refusal, head :: past) := by
      simp only [machine, outcome]
    refine ⟨head, past, journey.idle ?_ ?_⟩
    · rw [Machine.after_append, journey.chain]
      simp [stepped]
    · rw [journey.chain, stepped]
      rfl
  | ok result =>
    obtain ⟨answer, after⟩ := result
    have effect := call_effect journey.sound outcome
    obtain ⟨newest, older, rfl, _⟩ := effect.sound journey.sound
    cases answer with
    | applied record => exact ⟨newest, older, journey.apply one outcome⟩
    | replayed record =>
      have stepped : (machine digest).step (head :: past) request
          = (.ok (.replayed record), newest :: older) := by
        simp only [machine, outcome]
      cases effect
      refine ⟨head, past, journey.idle ?_ ?_⟩
      · rw [Machine.after_append, journey.chain]
        simp [stepped]
      · rw [journey.chain, stepped]
        rfl

end

/-! ### Whole runs -/

/-- A chain starts at an admission, or with the grant of its first attempt. -/
theorem starts_first (starts : Starts digest start)
    : start.Valid digest
      ∧ start.lastRepairOperationId = none
      ∧ (start.state = .admitted ∨ start.permitsTargetEffects = true) := by
  cases starts with
  | admitted accepted =>
    unfold Transition.admitted Transition.admittedWithActivation at accepted
    simp only [seq_ok, pure_ok] at accepted
    obtain ⟨valid, rfl⟩ := accepted
    exact ⟨Transition.validate_ok.mp valid, rfl, .inl rfl⟩
  | deferred accepted =>
    unfold Transition.admittedDeferred Transition.admittedWithActivation at accepted
    simp only [seq_ok, pure_ok] at accepted
    obtain ⟨valid, rfl⟩ := accepted
    exact ⟨Transition.validate_ok.mp valid, rfl, .inl rfl⟩
  | stopped accepted =>
    obtain ⟨_, _, valid, rfl⟩ := Transition.successorAfterStoppedSource_ok.mp accepted
    exact ⟨Transition.validate_ok.mp valid, rfl, .inr rfl⟩

attribute [local simp] Machine.exchanges

theorem Journey.first (starts : Starts digest start)
    : Journey digest start [] start [] := by
  obtain ⟨valid, unrepaired, state⟩ := starts_first starts
  have attempt : start.targetAttemptOperationId = start.intent.operationId := by
    simp [Transition.targetAttemptOperationId, unrepaired]
  have bare : runEvents digest start [] = startEvents start := by
    simp [runEvents]
  refine ⟨rfl, ⟨valid, by simp, by simp, by simp⟩, ?_, by simp [appliedCalls], by simp [appliedCalls], ?_⟩
  · rw [bare]
    rcases state with admitted | permits
    · simp only [startEvents, Transition.permitsTargetEffects, Transition.stage, admitted]
      exact .nil
    · have stopped := permits
      simp only [Transition.permitsTargetEffects, decide_eq_true_eq] at stopped
      simp only [startEvents, permits, Transition.stage, stopped.1, stopped.2, if_true]
      exact .cons (.issue _) .nil
  · rw [Chain.attempts, bare]
    rcases state with admitted | permits
    · left
      refine ⟨.inl admitted, rfl, ?_, by simp [appliedCalls]⟩
      simp [startEvents, Transition.permitsTargetEffects, admitted]
    · right
      have stopped := permits
      simp only [Transition.permitsTargetEffects, decide_eq_true_eq] at stopped
      refine ⟨?_, ?_⟩
      · simp [stopped]
      · simp [startEvents, permits, attempt, Event.grantedAttempt, appliedCalls]

/-- Every run leads somewhere. Witness: induction on the calls, the last one at a time. -/
theorem journey_exists (starts : Starts digest start) (one : OneRequestPerId start calls)
    : ∃ head past, Journey digest start calls head past := by
  induction calls using reverseRecOn with
  | nil => exact ⟨start, [], .first starts⟩
  | append_singleton calls last ih =>
    obtain ⟨head, past, journey⟩ := ih one.before
    exact journey.step one

/-- A chain is sound whatever it is asked. -/
theorem step_sound (chain : Chain) (request : Call)
    (sound : ∃ head past, chain = head :: past ∧ Sound digest head past)
    : ∃ head past, ((machine digest).step chain request).2 = head :: past
      ∧ Sound digest head past := by
  obtain ⟨head, past, rfl, sound⟩ := sound
  simp only [machine]
  cases outcome : call digest (head :: past) request with
  | error refusal => exact ⟨head, past, rfl, sound⟩
  | ok result => exact (call_effect sound outcome).sound sound

/-- Between two grants the first attempt was closed. -/
theorem failed_between {next} {first last : Tickets.Stage OperationId} {trace : List Event}
    (runs : Tickets.Runs first (trace.map Event.use) last) {before between after : List Event}
    (shape : trace = before ++ .granted attempt :: (between ++ .granted next :: after))
    : .failed attempt ∈ between := by
  subst shape
  simp only [map_append, map_cons, Event.use] at runs
  obtain ⟨_, _, runs⟩ := runs.split
  cases runs with
  | cons issue runs =>
    cases issue with
    | issue _ =>
      obtain ⟨middle, during, later⟩ := runs.split
      by_contra open_
      have live : ∀ use ∈ between.map Event.use, use ≠ .close attempt := by
        intro use member same
        obtain ⟨event, present, rfl⟩ := mem_map.mp member
        cases event with
        | granted other => cases same
        | failed other =>
          cases same
          exact open_ present
      cases later with
      | cons again _ =>
        cases again with
        | issue _ =>
          rcases during.exclusive live with ⟨_, held⟩ | ⟨_, spent⟩
          · cases held
          · cases spent

theorem filterMap_attemptId_sublist (requests : List Call)
    : (requests.filterMap Call.attemptId).Sublist
        (requests.filterMap Call.newOperationId) := by
  induction requests with
  | nil => exact .slnil
  | cons request rest ih =>
    cases request with
    | advance _ => exact ih
    | wake _ => exact ih.cons _
    | repair _ | supersede _ => exact ih.cons_cons _

/-- No two attempts of a run are prepared from the same operation. -/
theorem Journey.attempts_nodup (journey : Journey digest start calls head past)
    (one : OneRequestPerId start calls)
    : (Chain.attempts digest start calls).Nodup := by
  rcases journey.attempts with ⟨_, _, none, _⟩ | ⟨_, all⟩
  · rw [none]
    exact nodup_nil
  · rw [all]
    refine nodup_cons.mpr ⟨?_, journey.once.sublist (filterMap_attemptId_sublist _)⟩
    intro again
    have carried := (filterMap_attemptId_sublist _).subset again
    obtain ⟨request, applied, same⟩ := mem_filterMap.mp carried
    exact one.new request (mem_appliedCalls applied) same

/-- Every start of a target is granted exactly once along the run. -/
structure GrantedOnce (digest : String → String) (start : Transition) (calls : List Call)
    : Prop where
  /-- An entry into the state that permits target effects is the work of one applied call. -/
  entries : ∀ exchange ∈ (machine digest).exchanges [start] calls,
    entered exchange.1 ((machine digest).step exchange.1 exchange.2.1).2 ≠ []
    → ∃ record, exchange.2.2 = .ok (.applied record)
      ∧ entered exchange.1 ((machine digest).step exchange.1 exchange.2.1).2 = [record]
  /-- A failure of the earlier attempt lies between two grants. -/
  failures : ∀ before attempt between next after,
    runEvents digest start calls
      = before ++ .granted attempt :: (between ++ .granted next :: after)
    → .failed attempt ∈ between
  /-- No wake, repair or successor id is applied twice. -/
  ids : ((appliedCalls digest start calls).filterMap Call.newOperationId).Nodup
  /-- Each attempt prepares a native launch of its own. -/
  launches : ((attempts digest start calls).map (nativeLaunchIdentity digest)).Nodup
  /-- Repeating an accepted request returns the record and changes nothing. -/
  repeats : ∀ exchange ∈ (machine digest).exchanges [start] calls,
    ∀ answer, exchange.2.2 = .ok answer
    → (machine digest).step ((machine digest).step exchange.1 exchange.2.1).2 exchange.2.1
      = (.ok (.replayed answer.record), ((machine digest).step exchange.1 exchange.2.1).2)

/-- What a single exchange of a sound chain guarantees. -/
theorem exchange_granted (sound : Sound digest head past)
    : (entered (head :: past) ((machine digest).step (head :: past) request).2 ≠ []
        → ∃ record, ((machine digest).step (head :: past) request).1 = .ok (.applied record)
          ∧ entered (head :: past) ((machine digest).step (head :: past) request).2
            = [record])
      ∧ ∀ answer, ((machine digest).step (head :: past) request).1 = .ok answer
        → (machine digest).step ((machine digest).step (head :: past) request).2 request
          = (.ok (.replayed answer.record),
            ((machine digest).step (head :: past) request).2) := by
  cases outcome : call digest (head :: past) request with
  | error refusal =>
    simp only [machine, outcome]
    exact ⟨fun enters => absurd (entering_self _) enters, by simp⟩
  | ok result =>
    obtain ⟨answer, after⟩ := result
    have effect := call_effect sound outcome
    simp only [machine, outcome]
    refine ⟨fun enters => ?_, ?_⟩
    · obtain ⟨alone, applied⟩ := effect.entered_applied sound enters
      exact ⟨answer.record, congrArg Except.ok applied, alone⟩
    · rintro _ ⟨⟩
      rw [effect.repeated outcome]

/-- In every run in which one operation id stands for one request, each start of the
replacement is granted once.
-/
theorem replacement_granted_once (injective : Function.Injective digest)
    (starts : Starts digest start) (one : OneRequestPerId start calls)
    : GrantedOnce digest start calls := by
  obtain ⟨head, past, journey⟩ := journey_exists starts one
  have single : ∀ exchange ∈ (machine digest).exchanges [start] calls,
      ∃ head past, exchange.1 = head :: past ∧ Sound digest head past := fun _ member =>
    Machine.exchanges_invariant (machine digest) step_sound
      ⟨start, [], rfl, (Journey.first starts).sound⟩ member
  refine ⟨?_, fun _ _ _ _ _ => failed_between journey.runs, journey.once, ?_, ?_⟩
  · intro exchange member enters
    obtain ⟨head, past, shape, sound⟩ := single exchange member
    have answer := (machine digest).exchanges_answer member
    rw [answer]
    rw [shape] at enters ⊢
    exact (exchange_granted sound).1 enters
  · refine (journey.attempts_nodup one).map ?_
    exact fun _ _ => nativeLaunchIdentity_injective injective
  · intro exchange member found answered
    obtain ⟨head, past, shape, sound⟩ := single exchange member
    have answer := (machine digest).exchanges_answer member
    rw [answer] at answered
    rw [shape] at answered ⊢
    exact (exchange_granted sound).2 found answered

end Chain

namespace Sample

def secondRepair : OperationId := ⟨"repair-2", rfl⟩

/-- SHA-256 on the launches of the first two attempts: text and digest trade places, so that
no two texts share a digest.
-/
def launchDigest : Equiv.Perm String :=
  (Equiv.swap "dure-agent-runtime-native-target/v1\x00transition-1"
      "fb1032d04b369315141f4cace938aeab805c1d28d0cb552dae4c828b722f5883").trans
    (Equiv.swap "dure-agent-runtime-native-target/v1\x00repair-1"
      "4e63fcc1eef61223b2c89872d00daee15bfb3ce5b7c02d24142ff8b74603c0d2")

def admitted : Transition :=
  { failed with
    state := .admitted
    replacementAuthority := none
    replacementWorkspace := none
    targetFailure := none
    journalRevision := 1
    updatedAtMs := 20 }

def stop : Call :=
  .advance
    {
      schemaVersion := 1
      operationId := operation
      expectedJournalRevision := 1
      advance := .sourceStopped
      advancedAtMs := 30
    }

def fail (revision : Int) : Call :=
  .advance
    {
      schemaVersion := 1
      operationId := operation
      expectedJournalRevision := revision
      advance := .repairRequired ⟨.launchFailed, "launch_failed"⟩ .preserveExisting none
      advancedAtMs := 30 + revision
    }

def repair (repairOperationId : OperationId) (revision : Int) : Call :=
  .repair
    {
      schemaVersion := 1
      operationId := operation
      expectedJournalRevision := revision
      repairOperationId
      repairedAtMs := 30 + revision
    }

/-- The repair request is sent twice. -/
def repeatedRepair : List Call :=
  [stop, fail 2, repair repairOperation 3, repair repairOperation 3]

/-- The id of the first repair is used again for the third. -/
def reusedRepair : List Call :=
  [stop, fail 2, repair repairOperation 3, fail 4, repair secondRepair 5, fail 6,
    repair repairOperation 7]

theorem admitted_starts (digest : String → String) : Starts digest admitted :=
  .admitted (rfl : Transition.admitted digest intent = .ok admitted)

end Sample

/-- A repair that is sent twice is granted once. -/
theorem repeated_repair_granted_once
    : Starts Sample.launchDigest Sample.admitted
      ∧ Chain.OneRequestPerId Sample.admitted Sample.repeatedRepair
      ∧ Chain.GrantedOnce Sample.launchDigest Sample.admitted Sample.repeatedRepair := by
  have one : Chain.OneRequestPerId admitted repeatedRepair :=
    ⟨by decide, by decide⟩
  exact ⟨admitted_starts _, one,
    Chain.replacement_granted_once launchDigest.injective (admitted_starts _)
      one⟩

/-- The record remembers its last repair only: a third repair under the id of the first is
granted, and prepares the same native launch again.
-/
theorem reused_repair_granted_twice
    : Starts Sample.launchDigest Sample.admitted
      ∧ Chain.attempts Sample.launchDigest Sample.admitted Sample.reusedRepair
        = [Sample.operation, Sample.repairOperation, Sample.secondRepair,
          Sample.repairOperation]
      ∧ ¬((Chain.attempts Sample.launchDigest Sample.admitted Sample.reusedRepair).map
          (nativeLaunchIdentity Sample.launchDigest)).Nodup := by
  have granted : Chain.attempts launchDigest admitted reusedRepair
      = [operation, repairOperation, secondRepair,
        repairOperation] := by
    decide +kernel
  refine ⟨admitted_starts _, granted, ?_⟩
  rw [granted]
  simp

end Dure.Runtime
