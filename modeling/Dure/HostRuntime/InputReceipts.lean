import Dure.HostRuntime.InputTransaction

/-! Input receipts tell the truth about the PTY, over any sequence of attempts. -/

namespace Dure.HostRuntime

variable {σ ε Target Projection : Type} (host : HostInterface σ ε Target Projection)

/-- The bytes that the PTY accepted in an event. -/
def InputEvent.accepted : InputEvent Target → List UInt8
  | .wrote slice (.ok count) => slice.take count
  | _ => []

/-- An evaluation of the draft guard or of the prompt admission. -/
def InputEvent.admits : InputEvent Target → Bool
  | .draftChecked | .promptPrepared _ => true
  | _ => false

def InputEvent.records (record : HostRecord) : InputEvent Target → Bool
  | .recorded other _ => other == record
  | _ => false

/-- A record that the host refused. -/
def InputEvent.misses : InputEvent Target → Bool
  | .recorded _ succeeded => !succeeded
  | _ => false

/-- The evaluations that an admission asks for. -/
def InputAdmission.evaluations : InputAdmission Target → List (InputEvent Target)
  | .ordinary => []
  | .draftGuarded _ => [.draftChecked]
  | .agentPrompt target _ => [.promptPrepared target]

def acceptedBytes (events : List (InputEvent Target)) : List UInt8 :=
  events.flatMap InputEvent.accepted

/-- The end tells that no byte was accepted. -/
def NothingWritten : Except (InputTransactionFailure ε) (InputTransaction Projection) → Prop
  | .error (.beforeWrite _) => True
  | .error (.afterWrite _) => False
  | .ok transaction => ∃ reason, transaction.outcome = .notWritten reason

/-- The end tells that some bytes may have been accepted, but not the frame. -/
def PartlyWritten : Except (InputTransactionFailure ε) (InputTransaction Projection) → Prop
  | .error (.beforeWrite _) => False
  | .error (.afterWrite _) => True
  | .ok transaction => ∃ reason, transaction.outcome = .failed reason

/-- The end tells that the frame was written. -/
def WhollyWritten : Except (InputTransactionFailure ε) (InputTransaction Projection) → Prop
  | .error _ => False
  | .ok transaction => transaction.outcome = .written

section

variable {ended : Except (InputTransactionFailure ε) (InputTransaction Projection)}
  (wholly : WhollyWritten ended)
include wholly

theorem WhollyWritten.not_nothing
    : ¬NothingWritten ended := by
  cases ended with
  | error => cases wholly
  | ok transaction =>
    rintro ⟨reason, outcome⟩
    cases wholly.symm.trans outcome

theorem WhollyWritten.not_partly
    : ¬PartlyWritten ended := by
  cases ended with
  | error => cases wholly
  | ok transaction =>
    rintro ⟨reason, outcome⟩
    cases wholly.symm.trans outcome

end

theorem NothingWritten.not_partly (nothing : NothingWritten ended) : ¬PartlyWritten ended := by
  cases ended with
  | error failure => cases failure <;> simp_all [NothingWritten, PartlyWritten]
  | ok transaction =>
    obtain ⟨reason, refused⟩ := nothing
    rintro ⟨_, outcome⟩
    cases refused.symm.trans outcome

/-! ### What a call adds to the events -/

/-- The call only recorded, all with success exactly when it succeeded. -/
structure Recorded (before after : List (InputEvent Target)) (succeeded : Bool)
    (records : List (InputEvent Target)) : Prop where
  added : after = before ++ records
  only : ∀ event ∈ records, ∃ record answered, event = .recorded record answered
  exact : succeeded = !records.any InputEvent.misses

theorem Recorded.none (events : List (InputEvent Target)) : Recorded events events true [] :=
  ⟨by simp, nofun, rfl⟩

variable {attempt : InputAttempt σ} {succeeded : Bool}

theorem Recorded.append (front : Recorded first second true early)
    (back : Recorded second third succeeded late)
    : Recorded first third succeeded (early ++ late) where
  added := by rw [back.added, front.added, List.append_assoc]
  only := fun event member =>
    (List.mem_append.mp member).elim (front.only event) (back.only event)
  exact := by
    have clean := front.exact
    simp only [Bool.true_eq, Bool.not_eq_true'] at clean
    rw [back.exact, List.any_append, clean, Bool.false_or]

theorem Recorded.accepts_nothing (recorded : Recorded before after succeeded records)
    : acceptedBytes records = [] ∧ ∀ event ∈ records, event.admits = false := by
  refine ⟨List.flatMap_eq_nil_iff.mpr fun event member => ?_, fun event member => ?_⟩ <;>
    obtain ⟨_, _, rfl⟩ := recorded.only event member <;> rfl

section

variable (session : InputSession σ Target)
include session

theorem performRecord_recorded (record : HostRecord)
    : Recorded session.events (performRecord host session record).2.events
        (performRecord host session record).1.toOption.isSome
        [.recorded record (performRecord host session record).1.toOption.isSome] where
  added := rfl
  only := fun event member => ⟨record, _, List.mem_singleton.mp member⟩
  exact := by simp [InputEvent.misses]

theorem performQuietly_recorded (record : HostRecord)
    : ∃ answered, Recorded session.events (performQuietly host session record).2.events
        (performQuietly host session record).1.toOption.isSome [.recorded record answered] := by
  have recorded := performRecord_recorded host session record
  unfold performQuietly
  generalize performRecord host session record = result at recorded ⊢
  obtain ⟨_ | _, after⟩ := result <;> exact ⟨_, recorded⟩

theorem performRecords_recorded (records : List HostRecord)
    : ∃ events, Recorded session.events (performRecords host session records).2.events
        (performRecords host session records).1.toOption.isSome events := by
  induction records generalizing session with
  | nil => exact ⟨[], .none _⟩
  | cons record rest ih =>
    have first := performRecord_recorded host session record
    unfold performRecords
    generalize performRecord host session record = result at first ⊢
    obtain ⟨_ | _, after⟩ := result
    · exact ⟨_, first⟩
    · obtain ⟨events, later⟩ := ih after
      exact ⟨_, first.append later⟩

theorem foldWrittenInputPrefix_recorded (bytes : List UInt8)
    (continuesFrame completesFrame : Bool)
    : ∃ events, Recorded session.events
        (foldWrittenInputPrefix host session bytes continuesFrame completesFrame).2.events
        (foldWrittenInputPrefix host session bytes continuesFrame
          completesFrame).1.toOption.isSome events := by
  unfold foldWrittenInputPrefix
  split
  · obtain ⟨answered, recorded⟩ := performQuietly_recorded host session _
    exact ⟨_, recorded⟩
  · dsimp only
    generalize session.scanner.observeChunk bytes continuesFrame = observed
    obtain ⟨result, folded, events, first⟩ : ∃ result,
        (if observed.1.submitted = true then
          performRecord host { session with scanner := observed.2 } .submit
        else
          performQuietly host { session with scanner := observed.2 } .write) = result
        ∧ ∃ events, Recorded session.events result.2.events result.1.toOption.isSome events := by
      split
      · exact ⟨_, rfl, _, performRecord_recorded host _ _⟩
      · obtain ⟨_, recorded⟩ := performQuietly_recorded host { session with scanner := observed.2 } .write
        exact ⟨_, rfl, _, recorded⟩
    rw [folded]
    obtain ⟨_ | _, after⟩ := result
    · exact ⟨_, first⟩
    · obtain ⟨later, edits⟩ :=
        performRecords_recorded host after (observed.1.edits.map .draftEdit)
      dsimp only
      generalize performRecords host after (observed.1.edits.map .draftEdit) = final at edits ⊢
      obtain ⟨_ | _, final⟩ := final <;> exact ⟨_, first.append edits⟩

end

namespace PreparedInput

variable (input : PreparedInput Target) (session : InputSession σ Target)

/-- The fold of an accepted prefix. A key is recorded on the first bytes only. -/
theorem foldPrefix_recorded (start : Nat) (accepted : List UInt8)
    : ∃ events, Recorded session.events (input.foldPrefix host session start accepted).2.events
        (input.foldPrefix host session start accepted).1.toOption.isSome events
      ∧ (accepted = [] → events = [])
      ∧ ∀ record, input.effect.draftFold ≠ .bytes → input.effect.draftFold.record = record
        → record ≠ .write
        → events.countP (InputEvent.records record)
          = if accepted = [] ∨ start ≠ 0 then 0 else 1 := by
  unfold foldPrefix
  cases accepted with
  | nil => exact ⟨[], .none _, fun _ => rfl, by simp⟩
  | cons byte rest =>
    simp only [List.isEmpty_cons, Bool.false_eq_true, if_false, reduceCtorEq, false_or,
      false_implies, true_and]
    cases fold : input.effect.draftFold
    case bytes =>
      obtain ⟨events, recorded⟩ := foldWrittenInputPrefix_recorded host session (byte :: rest)
        (0 < start) (start + (byte :: rest).length = input.encoded.length)
      exact ⟨events, recorded, fun _ other => absurd rfl other⟩
    all_goals
      obtain ⟨answered, recorded⟩ := performQuietly_recorded host session _
      refine ⟨_, recorded, fun record _ key other => ?_⟩
      subst key
      by_cases first : start = 0
      · simp_all [InputEvent.records, DraftFold.record]
      · simp [InputEvent.records, first, Ne.symm other]

/-- The admission evaluates what it asks for exactly before the first byte. A refusal tells
that nothing was written. -/
theorem admit_spec
    : (input.admitAttempt host session).2.events
        = session.events ++ (if input.written = 0 then input.admission.evaluations else [])
      ∧ ∀ ended, (input.admitAttempt host session).1 = .error ended
        → input.written = 0 ∧ NothingWritten ended := by
  unfold admitAttempt
  by_cases unwritten : input.written = 0
  · simp only [unwritten, if_true, failure, true_and]
    cases input.admission with
    | ordinary => exact ⟨by simp [InputAdmission.evaluations], by simp⟩
    | draftGuarded wait | agentPrompt target wait =>
      dsimp only
      split
      · exact ⟨rfl, fun _ stops => by cases stops; trivial⟩
      · exact ⟨rfl, fun _ stops => by cases stops; exact ⟨_, rfl⟩⟩
      · exact ⟨rfl, by simp⟩
  · simp [unwritten]

end PreparedInput

/-- The number of bytes that a result of the PTY accepts. -/
def WriteResult.count : WriteResult → Nat
  | .ok count => count
  | _ => 0

attribute [local simp] PtyWriteOutcome.fromProgress

theorem nonblocking_spec (some : 0 < expected) (within : result.count ≤ expected)
    : let progress := PtyWriteOutcome.nonblocking expected result
      progress.bytesWritten = result.count
      ∧ (progress.pending = true → result.count < expected)
      ∧ (progress.pending = false
        → (progress.outcome = .ok () ∧ result.count = expected)
          ∨ ∃ reason, progress.outcome = .error reason ∧ result.count = 0) := by
  unfold PtyWriteOutcome.nonblocking
  cases result with
  | ok count =>
    simp only [WriteResult.count] at within ⊢
    split
    · rename_i partway
      exact ⟨rfl, fun _ => partway.2, nofun⟩
    · split
      · rename_i whole
        exact ⟨by simp [whole], nofun,
          fun _ => Or.inl ⟨by simp [whole], whole⟩⟩
      · have none : count = 0 := by omega
        exact ⟨by simp [none], nofun,
          fun _ => Or.inr ⟨_, rfl, none⟩⟩
  | wouldBlock | interrupted => exact ⟨rfl, fun _ => some, nofun⟩
  | error => exact ⟨by simp [WriteResult.count], nofun,
      fun _ => Or.inr ⟨_, rfl, rfl⟩⟩

/-- The delivery's end and records agree with the bytes that the PTY accepted. -/
structure InputDelivery.Faithful (frame : List UInt8) (effect : ControllerInputEffect)
    (admission : InputAdmission Target) (delivery : InputDelivery ε Target Projection) : Prop where
  encoded : delivery.input.encoded = frame
  sameEffect : delivery.input.effect = effect
  sameAdmission : delivery.input.admission = admission
  within : delivery.input.written ≤ frame.length
  accepted : acceptedBytes delivery.events = frame.take delivery.input.written
  keyOnce
    : ∀ record, effect.draftFold ≠ .bytes → effect.draftFold.record = record → record ≠ .write
        → delivery.events.countP (InputEvent.records record)
          = if delivery.input.written = 0 then 0 else 1
  truthful
    : match delivery.ended with
      | none =>
        delivery.input.written < frame.length ∧ delivery.events.any InputEvent.misses = false
      | some ended =>
        (WhollyWritten ended ∧ delivery.input.written = frame.length
          ∧ delivery.events.any InputEvent.misses = false)
        ∨ (NothingWritten ended ∧ delivery.input.written = 0)
        ∨ (PartlyWritten ended ∧ 0 < delivery.input.written
          ∧ (delivery.input.written = frame.length
            → delivery.events.any InputEvent.misses = true))

/-- The PTY accepts no more than it is handed. -/
def Accepts (delivery : InputDelivery ε Target Projection) (attempt : InputAttempt σ) : Prop :=
  let slice := delivery.input.encoded.drop delivery.input.written
  (attempt.write slice).count ≤ slice.length

instance (delivery : InputDelivery ε Target Projection) (attempt : InputAttempt σ)
    : Decidable (Accepts delivery attempt) :=
  inferInstanceAs (Decidable (_ ≤ _))

/-- The evaluations are no accepted bytes, no records and no misses. -/
theorem evaluations_spec (admission : InputAdmission Target) (record : HostRecord)
    : acceptedBytes admission.evaluations = []
      ∧ admission.evaluations.countP (InputEvent.records record) = 0
      ∧ admission.evaluations.any InputEvent.misses = false := by
  cases admission <;> exact ⟨rfl, rfl, rfl⟩

/-- One attempt that reaches the PTY: what happens, and how the input goes on or ends. -/
structure Attempted (input : PreparedInput Target) (slice : List UInt8) (result : WriteResult)
    (events after : List (InputEvent Target)) (next : PreparedInput Target)
    (ended : Option (Except (InputTransactionFailure ε) (InputTransaction Projection)))
    (records : List (InputEvent Target)) : Prop where
  happened : after = events ++ [.wrote slice result] ++ records
  nothing : acceptedBytes records = [] ∧ ∀ event ∈ records, event.admits = false
  written : next.written = input.written + result.count
  same : next.encoded = input.encoded ∧ next.effect = input.effect
    ∧ next.admission = input.admission
  idle : slice.take result.count = [] → records = []
  key
    : ∀ record, input.effect.draftFold ≠ .bytes → input.effect.draftFold.record = record
        → record ≠ .write
        → records.countP (InputEvent.records record)
          = if slice.take result.count = [] ∨ input.written ≠ 0 then 0 else 1
  ending
    : (records.any InputEvent.misses = true ∧ ∃ error, ended = some (.error (.afterWrite error)))
      ∨ (records.any InputEvent.misses = false
        ∧ ((ended = none ∧ result.count < slice.length)
          ∨ (∃ transaction, ended = some (.ok transaction) ∧ transaction.outcome = .written
              ∧ result.count = slice.length)
          ∨ (∃ transaction reason, ended = some (.ok transaction)
              ∧ transaction.outcome = next.failure reason ∧ result.count = 0)))

/-- The step of an open delivery is a refused admission or an attempted write. -/
theorem deliveries_step (remains : input.written < input.encoded.length)
    (accepts : (attempt.write (input.encoded.drop input.written)).count
      ≤ (input.encoded.drop input.written).length)
    (stepped : ((deliveries host).step ⟨input, events, none⟩ attempt).2 = after)
    : let evaluated := events
        ++ (if input.written = 0 then input.admission.evaluations else [])
      (input.written = 0 ∧ after.input = input ∧ after.events = evaluated
        ∧ ∃ ended, after.ended = some ended ∧ NothingWritten ended)
      ∨ ∃ records, Attempted input (input.encoded.drop input.written)
          (attempt.write (input.encoded.drop input.written)) evaluated after.events after.input
          after.ended records := by
  intro evaluated
  obtain ⟨admitted, refusals⟩ :=
    input.admit_spec host ⟨attempt.host, attempt.scanner, events⟩
  simp only [deliveries, Option.isSome_none, Bool.false_eq_true, if_false,
    PreparedInput.advance] at stepped
  generalize input.admitAttempt host ⟨attempt.host, attempt.scanner, events⟩ = result
    at admitted refusals stepped
  obtain ⟨stops | revision, session⟩ := result
  · left
    obtain ⟨unwritten, nothing⟩ := refusals stops rfl
    subst stepped
    refine ⟨unwritten, rfl, admitted, ?_⟩
    cases stops <;> exact ⟨_, rfl, nothing⟩
  · right
    have some : 0 < (input.encoded.drop input.written).length := by
      rw [List.length_drop]
      omega
    obtain ⟨count, waits, ends⟩ := nonblocking_spec some accepts
    generalize input.encoded.drop input.written = slice at *
    generalize attempt.write slice = result at *
    generalize PtyWriteOutcome.nonblocking slice.length result = progress at *
    rw [count] at stepped
    obtain ⟨records, recorded, idle, key⟩ := input.foldPrefix_recorded host
      { session with events := session.events ++ [.wrote slice result] } input.written
      (slice.take result.count)
    have evaluation : session.events = evaluated := admitted
    dsimp only at stepped
    generalize input.foldPrefix host
      { session with events := session.events ++ [.wrote slice result] } input.written
      (slice.take result.count) = folded at recorded stepped
    rw [evaluation] at recorded
    refine ⟨records, ?_⟩
    obtain ⟨error | runtimeState, final⟩ := folded
    · subst stepped
      have missed : false = !records.any InputEvent.misses := recorded.exact
      exact ⟨recorded.added, recorded.accepts_nothing, rfl, ⟨rfl, rfl, rfl⟩, idle, key,
        Or.inl ⟨(Bool.not_eq_false' _).mp missed.symm, error, rfl⟩⟩
    · have clean : true = !records.any InputEvent.misses := recorded.exact
      rw [Bool.true_eq, Bool.not_eq_true'] at clean
      cases waiting : progress.pending with
      | true =>
        simp only [waiting, if_true] at stepped
        subst stepped
        exact ⟨recorded.added, recorded.accepts_nothing, rfl, ⟨rfl, rfl, rfl⟩, idle, key,
          Or.inr ⟨clean, Or.inl ⟨rfl, waits waiting⟩⟩⟩
      | false =>
        simp only [waiting, Bool.false_eq_true, if_false] at stepped
        rcases ends waiting with ⟨whole, counted⟩ | ⟨reason, broken, counted⟩
        · simp only [whole] at stepped
          subst stepped
          exact ⟨recorded.added, recorded.accepts_nothing, rfl, ⟨rfl, rfl, rfl⟩, idle, key,
            Or.inr ⟨clean, Or.inr (Or.inl ⟨_, rfl, rfl, counted⟩)⟩⟩
        · simp only [broken] at stepped
          subst stepped
          exact ⟨recorded.added, recorded.accepts_nothing, rfl, ⟨rfl, rfl, rfl⟩, idle, key,
            Or.inr ⟨clean, Or.inr (Or.inr ⟨_, reason, rfl, rfl, counted⟩)⟩⟩

theorem InputDelivery.Faithful.step (faithful : delivery.Faithful frame effect admission)
    (accepts : Accepts delivery attempt)
    : ((deliveries host).step delivery attempt).2.Faithful frame effect admission := by
  obtain ⟨input, events, ended⟩ := delivery
  cases ended with
  | some end' => simpa [deliveries] using faithful
  | none =>
    obtain ⟨rfl, rfl, rfl, within, accepted, keyOnce, remains, clean⟩ := faithful
    dsimp only at *
    have evaluated (record : HostRecord) := evaluations_spec input.admission record
    generalize stepped : ((deliveries host).step ⟨input, events, none⟩ attempt).2 = after
    rcases deliveries_step host remains accepts stepped with
      ⟨unwritten, same, happened, ended, shape, nothing⟩ | ⟨records, attempted⟩
    · refine ⟨by rw [same], by rw [same], by rw [same], by rw [same]; exact within, ?_, ?_, ?_⟩
      · rw [happened, same, if_pos unwritten, acceptedBytes, List.flatMap_append]
        exact (congrArg₂ _ accepted (evaluated .write).1).trans (List.append_nil _)
      · intro record folds isKey key
        rw [happened, same, if_pos unwritten, List.countP_append, (evaluated record).2.1]
        exact keyOnce record folds isKey key
      · rw [shape, same]
        exact Or.inr (Or.inl ⟨nothing, unwritten⟩)
    · have size : (input.encoded.drop input.written).length
          = input.encoded.length - input.written := List.length_drop
      have fits : (attempt.write (input.encoded.drop input.written)).count
          ≤ (input.encoded.drop input.written).length := accepts
      have wrote (slice : List UInt8) (result : WriteResult)
          : (InputEvent.wrote slice result : InputEvent Target).accepted
            = slice.take result.count := by
        cases result <;> rfl
      obtain ⟨happened, ⟨silent, -⟩, written, ⟨encoded, effect, admission⟩, idle, key, ending⟩ :=
        attempted
      generalize asks : (if input.written = 0 then input.admission.evaluations else []) = asked
        at happened
      have evaluations (record : HostRecord)
          : acceptedBytes asked = [] ∧ asked.countP (InputEvent.records record) = 0
            ∧ asked.any InputEvent.misses = false := by
        rw [← asks]
        split
        · exact evaluated record
        · exact ⟨rfl, rfl, rfl⟩
      have missing : after.events.any InputEvent.misses = records.any InputEvent.misses := by
        simp [happened, clean, (evaluations .write).2.2, InputEvent.misses]
      have progress : (input.encoded.drop input.written).take
            (attempt.write (input.encoded.drop input.written)).count = []
          ↔ (attempt.write (input.encoded.drop input.written)).count = 0 := by
        rw [List.take_eq_nil_iff, ← List.length_eq_zero_iff]
        omega
      simp only [progress] at idle key
      refine ⟨encoded, effect, admission, by omega, ?_, ?_, ?_⟩
      · rw [happened, written, List.take_add, ← accepted]
        simp only [acceptedBytes, List.flatMap_append, List.flatMap_singleton, wrote]
        rw [← acceptedBytes, ← acceptedBytes, ← acceptedBytes, (evaluations .write).1, silent,
          List.append_nil, List.append_nil]
      · intro record folds isKey isEdit
        have before := keyOnce record folds isKey isEdit
        have added := key record folds isKey isEdit
        rw [happened, List.countP_append, List.countP_append, List.countP_append,
          (evaluations record).2.1, before, added, written]
        by_cases unwritten : input.written = 0 <;>
          by_cases none : (attempt.write (input.encoded.drop input.written)).count = 0 <;>
          simp [unwritten, none, InputEvent.records]
      · rw [missing]
        rcases ending with ⟨missed, error, shape⟩ | ⟨tidy, goesOn | done | failed⟩
        · rw [shape]
          refine Or.inr (Or.inr ⟨trivial, ?_, fun _ => missed⟩)
          by_contra none
          rw [idle (by omega)] at missed
          cases missed
        · obtain ⟨shape, short⟩ := goesOn
          rw [shape]
          exact ⟨by omega, tidy⟩
        · obtain ⟨transaction, shape, outcome, whole⟩ := done
          rw [shape]
          exact Or.inl ⟨outcome, by omega, tidy⟩
        · obtain ⟨transaction, reason, shape, outcome, none⟩ := failed
          rw [shape]
          unfold PreparedInput.failure at outcome
          split at outcome
          · rename_i unwritten
            exact Or.inr (Or.inl ⟨⟨_, outcome⟩, unwritten⟩)
          · exact Or.inr (Or.inr ⟨⟨_, outcome⟩, by omega, fun _ => by omega⟩)

end Dure.HostRuntime
