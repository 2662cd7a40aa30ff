import Mathlib

/-! The retained output deltas of a terminal and their replay to a reconnecting client. -/

namespace Dure.Host

def u64Max : Nat := 2 ^ 64 - 1

/-- An output delta; `Location` is the execution location that it carries along. -/
structure OutputDelta (Location : Type) where
  terminalEpoch : String
  outputSeq : Nat
  bytes : List UInt8
  rows : Option UInt16
  columns : Option UInt16
  executionLocation : Option Location

structure ReconnectCursor where
  terminalEpoch : String
  afterOutputSeq : Nat

structure ReplayGap where
  cursor : ReconnectCursor
  earliestRetainedOutputSeq : Nat
  currentOutputSeq : Nat

inductive ReplayResult (Location : Type) where
  | deltas (deltas : List (OutputDelta Location))
  | gap (gap : ReplayGap)

inductive TerminalReplayError where
  | emptyOutput
  | deltaTooLarge (actual maximum : Nat)
  | sequenceExhausted
  | terminalEpochMismatch
  | cursorAhead (requested current : Nat)
  | other (message : String)

structure DeltaRetention (Location : Type) where
  records : List (OutputDelta Location) := []
  retainedBytes : Nat := 0
  maxRecords : Nat
  maxBytes : Nat

variable {Location : Type}

namespace DeltaRetention

/-- The loop of `push`. It ends at the latest with the last record, at which point nothing
is retained; the code expects a record there. -/
def evict (retention : DeltaRetention Location)
    : List (OutputDelta Location) → Nat → DeltaRetention Location
  | [], retainedBytes => { retention with records := [], retainedBytes }
  | delta :: rest, retainedBytes =>
    if retention.maxRecords < (delta :: rest).length ∨ retention.maxBytes < retainedBytes then
      retention.evict rest (retainedBytes - delta.bytes.length)
    else { retention with records := delta :: rest, retainedBytes }

/-- The sizes of deltas in memory add up to less than a `usize` can hold. -/
def push (retention : DeltaRetention Location) (delta : OutputDelta Location)
    : DeltaRetention Location :=
  retention.evict (retention.records ++ [delta]) (retention.retainedBytes + delta.bytes.length)

def earliestSequence (retention : DeltaRetention Location) (currentOutputSeq : Nat) : Nat :=
  match retention.records.head? with
  | none => min (currentOutputSeq + 1) u64Max
  | some delta => delta.outputSeq

def replayAfter (retention : DeltaRetention Location) (cursor : ReconnectCursor)
    (terminalEpoch : String) (currentOutputSeq : Nat) : ReplayResult Location :=
  let earliest := retention.earliestSequence currentOutputSeq
  if min (cursor.afterOutputSeq + 1) u64Max < earliest then
    .gap ⟨cursor, earliest, currentOutputSeq⟩
  else
    .deltas (retention.records.filter (fun delta =>
      decide (delta.terminalEpoch = terminalEpoch)
        && decide (cursor.afterOutputSeq < delta.outputSeq)))

end DeltaRetention

/-- The part of a terminal replay that output ingestion and reconnection read. -/
structure TerminalReplay (Location : Type) where
  terminalEpoch : String
  maxDeltaBytes : Nat
  outputSeq : Nat := 0
  retained : DeltaRetention Location
  pendingOutputGeometry : Option (UInt16 × UInt16) := none
  executionLocation : Option Location := none

namespace TerminalReplay

/-- `ingest_output`. The terminal core, the history transfer and the program status may fail
before the delta is retained (`core`) or after (`published`). -/
def ingestOutput (replay : TerminalReplay Location) (bytes : List UInt8)
    (core published : Except TerminalReplayError Unit)
    : Except TerminalReplayError (OutputDelta Location) × TerminalReplay Location :=
  if bytes.isEmpty then (.error .emptyOutput, replay)
  else if replay.maxDeltaBytes < bytes.length then
    (.error (.deltaTooLarge bytes.length replay.maxDeltaBytes), replay)
  else if u64Max ≤ replay.outputSeq then (.error .sequenceExhausted, replay)
  else
    match core with
    | .error error => (.error error, replay)
    | .ok () =>
      let outputSeq := replay.outputSeq + 1
      let delta : OutputDelta Location :=
        { terminalEpoch := replay.terminalEpoch
          outputSeq
          bytes
          rows := replay.pendingOutputGeometry.map Prod.fst
          columns := replay.pendingOutputGeometry.map Prod.snd
          executionLocation := replay.executionLocation }
      (published.map (fun _ => delta),
        { replay with
          pendingOutputGeometry := none
          outputSeq
          retained := replay.retained.push delta })

def replayAfter (replay : TerminalReplay Location) (cursor : ReconnectCursor)
    : Except TerminalReplayError (ReplayResult Location) :=
  if cursor.terminalEpoch ≠ replay.terminalEpoch then .error .terminalEpochMismatch
  else if replay.outputSeq < cursor.afterOutputSeq then
    .error (.cursorAhead cursor.afterOutputSeq replay.outputSeq)
  else .ok (replay.retained.replayAfter cursor replay.terminalEpoch replay.outputSeq)

/-- The states that successful calls lead to from a new replay, with the bytes ingested so
far. Between the calls the geometry and the location may change. -/
inductive Ingested : List (List UInt8) → TerminalReplay Location → Prop
  | start {terminalEpoch maxDeltaBytes maxRecords maxBytes geometry location}
      : Ingested []
          ⟨terminalEpoch, maxDeltaBytes, 0, { maxRecords, maxBytes }, geometry, location⟩
  | changed {chunks replay} (earlier : Ingested chunks replay)
      (geometry : Option (UInt16 × UInt16)) (location : Option Location)
      : Ingested chunks
          { replay with pendingOutputGeometry := geometry, executionLocation := location }
  | ingested {chunks replay bytes core published delta after} (earlier : Ingested chunks replay)
      (succeeds : replay.ingestOutput bytes core published = (.ok delta, after))
      : Ingested (chunks ++ [bytes]) after

end TerminalReplay

/-- The bytes of the deltas. -/
def totalBytes (records : List (OutputDelta Location)) : Nat :=
  (records.map (fun delta => delta.bytes.length)).sum

variable {chunks : List (List UInt8)} {replay : TerminalReplay Location} {α : Type}

theorem drop_zipIdx (entries : List α) (first count : Nat)
    : (entries.zipIdx first).drop count = (entries.drop count).zipIdx (first + count) := by
  apply List.ext_getElem?
  intro index
  simp [List.getElem?_zipIdx, Nat.add_comm, Nat.add_left_comm]

/-- The numbered elements past a cursor. -/
theorem filter_zipIdx (entries : List α) (first cursor : Nat)
    : (entries.zipIdx first).filter (fun entry => decide (cursor < entry.2))
      = (entries.zipIdx first).drop (cursor + 1 - first) := by
  induction entries generalizing first with
  | nil => simp
  | cons entry rest ih =>
    by_cases past : cursor < first
    · have all : cursor + 1 - first = 0 := by omega
      have later : cursor + 1 - (first + 1) = 0 := by omega
      simp [List.zipIdx_cons, past, ih, all, later]
    · obtain ⟨count, shape⟩ : ∃ count, cursor + 1 - first = count + 1 :=
        ⟨cursor - first, by omega⟩
      have later : cursor + 1 - (first + 1) = count := by omega
      simp [List.zipIdx_cons, past, ih, shape, later]

/-- Eviction keeps the last records, within both bounds. -/
theorem DeltaRetention.evict_spec (retention : DeltaRetention Location)
    (records : List (OutputDelta Location))
    : ∃ evicted kept, records = evicted ++ kept
      ∧ retention.evict records (totalBytes records)
        = { retention with records := kept, retainedBytes := totalBytes kept }
      ∧ kept.length ≤ retention.maxRecords ∧ totalBytes kept ≤ retention.maxBytes := by
  induction records with
  | nil => exact ⟨[], [], rfl, rfl, Nat.zero_le _, Nat.zero_le _⟩
  | cons delta rest ih =>
    unfold evict
    split
    · obtain ⟨evicted, kept, split, shape, bounds⟩ := ih
      have remaining : totalBytes (delta :: rest) - delta.bytes.length = totalBytes rest := by
        simp [totalBytes]
      exact ⟨delta :: evicted, kept, by rw [split]; rfl, by rw [remaining]; exact shape, bounds⟩
    · rename_i within
      rw [not_or, Nat.not_lt, Nat.not_lt] at within
      exact ⟨[], delta :: rest, rfl, rfl, within⟩

namespace TerminalReplay

/-- A delta by its bytes and its number. -/
def numberedBytes (delta : OutputDelta Location) : List UInt8 × Nat :=
  (delta.bytes, delta.outputSeq)

/-- The retained deltas are the last of those ingested, numbered without a hole. -/
structure Retains (chunks : List (List UInt8)) (replay : TerminalReplay Location) : Prop where
  current : replay.outputSeq = chunks.length
  numbered
    : ∃ evicted, evicted ++ replay.retained.records.map numberedBytes = chunks.zipIdx 1
  epoch : ∀ delta ∈ replay.retained.records, delta.terminalEpoch = replay.terminalEpoch
  counted : replay.retained.retainedBytes = totalBytes replay.retained.records
  records : replay.retained.records.length ≤ replay.retained.maxRecords
  bytes : totalBytes replay.retained.records ≤ replay.retained.maxBytes

/-- Successful ingestion retains the numbered chunks. -/
theorem Retains.ingested {bytes : List UInt8} (retains : replay.Retains chunks)
    (succeeds : replay.ingestOutput bytes core published = (.ok delta, after))
    : after.Retains (chunks ++ [bytes]) := by
  unfold ingestOutput at succeeds
  split at succeeds
  · cases succeeds
  split at succeeds
  · cases succeeds
  split at succeeds
  · cases succeeds
  cases core with
  | error error => cases succeeds
  | ok _ =>
    obtain ⟨-, rfl⟩ := Prod.mk.inj succeeds
    obtain ⟨old, numbered⟩ := retains.numbered
    generalize made : OutputDelta.mk replay.terminalEpoch (replay.outputSeq + 1) bytes _ _ _
      = delta
    obtain ⟨evicted, kept, split, shape, records, total⟩ :=
      replay.retained.evict_spec (replay.retained.records ++ [delta])
    have pushed : replay.retained.push delta = { replay.retained with
        records := kept, retainedBytes := totalBytes kept } := by
      rw [← shape, DeltaRetention.push, retains.counted]
      simp [totalBytes]
    refine ⟨by simp [retains.current], ⟨old ++ evicted.map numberedBytes, ?_⟩, ?_, ?_, ?_, ?_⟩
    · rw [pushed, List.append_assoc, ← List.map_append, ← split, List.map_append,
        ← List.append_assoc, numbered, List.zipIdx_append, ← made]
      simp [numberedBytes, retains.current, Nat.add_comm]
    · intro other member
      rw [pushed] at member
      have present : other ∈ replay.retained.records ++ [delta] := by
        rw [split]
        exact List.mem_append_right evicted member
      rcases List.mem_append.mp present with earlier | last
      · exact retains.epoch other earlier
      · rw [List.mem_singleton.mp last, ← made]
    · rw [pushed]
    · rw [pushed]
      exact records
    · rw [pushed]
      exact total

theorem Ingested.retains (ingested : Ingested chunks replay)
    : replay.Retains chunks := by
  induction ingested with
  | start => exact ⟨rfl, ⟨[], rfl⟩, nofun, rfl, Nat.zero_le _, Nat.zero_le _⟩
  | changed _ _ _ ih => exact { ih with }
  | ingested _ succeeds ih => exact ih.ingested succeeds

/-- The retained deltas are those past the evicted ones; the first of them, or the next
one to come, is the earliest sequence. -/
theorem Retains.earliest (retains : replay.Retains chunks) (below : replay.outputSeq < u64Max)
    : ∃ count, count ≤ chunks.length
      ∧ replay.retained.records.map numberedBytes = (chunks.drop count).zipIdx (count + 1)
      ∧ replay.retained.earliestSequence replay.outputSeq = count + 1 := by
  obtain ⟨evicted, numbered⟩ := retains.numbered
  have total := congrArg List.length numbered
  simp only [List.length_append, List.length_map, List.length_zipIdx] at total
  have remaining : replay.retained.records.map numberedBytes
      = (chunks.drop evicted.length).zipIdx (evicted.length + 1) := by
    rw [Nat.add_comm, ← drop_zipIdx, ← numbered, List.drop_left]
  refine ⟨evicted.length, by omega, remaining, ?_⟩
  unfold DeltaRetention.earliestSequence
  cases shape : replay.retained.records with
  | nil =>
    simp only [shape, List.length_nil, Nat.add_zero] at total
    rw [List.head?_nil, retains.current, ← total]
    exact Nat.min_eq_left (by rw [total, ← retains.current]; omega)
  | cons delta rest =>
    rw [shape] at remaining
    cases left : chunks.drop evicted.length with
    | nil => simp [left] at remaining
    | cons chunk others =>
      rw [left] at remaining
      exact congrArg Prod.snd (List.cons.inj remaining).1

/-- Reconnect replay is gap-free. With the current sequence below the maximum and a cursor of
the same epoch at most at it, the replay is the deltas past the cursor, in order and with the
bytes that were ingested, or a gap; a gap exactly when one of those deltas is not retained any
more, with the oldest retained sequence; and the retention stays within both bounds. -/
theorem reconnect_replay_gap_free {chunks : List (List UInt8)} {replay : TerminalReplay Location}
    (ingested : Ingested chunks replay) (below : replay.outputSeq < u64Max)
    {cursor : ReconnectCursor} (sameEpoch : cursor.terminalEpoch = replay.terminalEpoch)
    (known : cursor.afterOutputSeq ≤ replay.outputSeq)
    : let retained := replay.retained.records
      let evicted := ∃ seq, cursor.afterOutputSeq < seq ∧ seq ≤ replay.outputSeq
        ∧ ∀ delta ∈ retained, delta.outputSeq ≠ seq
      replay.outputSeq = chunks.length
      ∧ (¬evicted → ∃ deltas, replay.replayAfter cursor = .ok (.deltas deltas)
          ∧ deltas.map (fun delta => (delta.bytes, delta.outputSeq))
            = (chunks.zipIdx 1).drop cursor.afterOutputSeq)
      ∧ (evicted → replay.replayAfter cursor
          = .ok (.gap ⟨cursor,
              (retained.head?.map OutputDelta.outputSeq).getD (replay.outputSeq + 1),
              replay.outputSeq⟩))
      ∧ retained.length ≤ replay.retained.maxRecords
      ∧ totalBytes retained ≤ replay.retained.maxBytes := by
  intro retained evicted
  have retains := ingested.retains
  obtain ⟨count, within, remaining, earliest⟩ := retains.earliest below
  have current := retains.current
  have sequences : retained.map OutputDelta.outputSeq
      = List.range' (count + 1) (chunks.length - count) := by
    have numbers := congrArg (List.map Prod.snd) remaining
    rwa [List.map_map, List.zipIdx_map_snd, List.length_drop] at numbers
  have gone : evicted ↔ cursor.afterOutputSeq < count := by
    have present (seq : Nat) : (∀ delta ∈ retained, delta.outputSeq ≠ seq)
        ↔ ¬(count < seq ∧ seq ≤ chunks.length) := by
      have listed : seq ∈ retained.map OutputDelta.outputSeq
          ↔ count < seq ∧ seq ≤ chunks.length := by
        rw [sequences, List.mem_range'_1]
        omega
      rw [← listed, List.mem_map, not_exists]
      exact forall_congr' fun delta => by rw [not_and]
    constructor
    · rintro ⟨seq, past, upTo, missing⟩
      have outside := (present seq).mp missing
      omega
    · intro lost
      exact ⟨cursor.afterOutputSeq + 1, by omega, by omega, (present _).mpr (by omega)⟩
  have oldest : (retained.head?.map OutputDelta.outputSeq).getD (replay.outputSeq + 1)
      = count + 1 := by
    rw [← List.head?_map, sequences]
    by_cases none : chunks.length - count = 0
    · rw [none]
      simp only [List.range'_zero, List.head?_nil, Option.getD_none]
      omega
    · obtain ⟨more, shape⟩ := Nat.exists_eq_succ_of_ne_zero none
      rw [shape]
      rfl
  have asked : min (cursor.afterOutputSeq + 1) u64Max = cursor.afterOutputSeq + 1 :=
    Nat.min_eq_left (by omega)
  have answer : replay.replayAfter cursor
      = .ok (replay.retained.replayAfter cursor replay.terminalEpoch replay.outputSeq) := by
    unfold replayAfter
    rw [if_neg (not_not.mpr sameEpoch), if_neg (Nat.not_lt.mpr known)]
  unfold DeltaRetention.replayAfter at answer
  simp only [asked, earliest] at answer
  refine ⟨current, fun kept => ?_, fun lost => ?_, retains.records, retains.bytes⟩
  · rw [gone] at kept
    rw [if_neg (by omega)] at answer
    refine ⟨_, answer, ?_⟩
    have selected : replay.retained.records.filter (fun delta =>
          decide (delta.terminalEpoch = replay.terminalEpoch)
            && decide (cursor.afterOutputSeq < delta.outputSeq))
        = replay.retained.records.filter
          ((fun entry => decide (cursor.afterOutputSeq < entry.2)) ∘ numberedBytes) :=
      List.filter_congr fun delta member => by
        rw [retains.epoch delta member, decide_eq_true rfl, Bool.true_and]
        rfl
    have numbers := filter_zipIdx (chunks.drop count) (count + 1) cursor.afterOutputSeq
    rw [← remaining, List.filter_map, ← selected] at numbers
    refine numbers.trans ?_
    rw [remaining, drop_zipIdx, drop_zipIdx, List.drop_drop]
    congr 1
    · congr 1
      omega
    · omega
  · rw [gone] at lost
    rw [if_pos (by omega)] at answer
    rw [answer, oldest]

/-- Three chunks into a retention of two: the client that saw the first gets the others. -/
theorem third_chunk_replayed
    : ∃ replay : TerminalReplay Unit, Ingested [[1], [2], [3]] replay
      ∧ ∃ deltas, replay.replayAfter ⟨"epoch", 1⟩ = .ok (.deltas deltas)
        ∧ deltas.map (fun delta => (delta.bytes, delta.outputSeq)) = [([2], 2), ([3], 3)] := by
  let start : TerminalReplay Unit := ⟨"epoch", 8, 0, ⟨[], 0, 2, 8⟩, none, none⟩
  let step (replay : TerminalReplay Unit) (byte : UInt8) :=
    (replay.ingestOutput [byte] (.ok ()) (.ok ())).2
  have fresh : Ingested [] start := .start
  have ingests {chunks : List (List UInt8)} {replay : TerminalReplay Unit} {byte : UInt8}
      {delta : OutputDelta Unit} (earlier : Ingested chunks replay)
      (succeeds : replay.ingestOutput [byte] (.ok ()) (.ok ()) = (.ok delta, step replay byte))
      : Ingested (chunks ++ [[byte]]) (step replay byte) := .ingested earlier succeeds
  have third : Ingested [[1], [2], [3]] (step (step (step start 1) 2) 3) :=
    ingests (ingests (ingests fresh rfl) rfl) rfl
  have replayed := @reconnect_replay_gap_free _ _ _ third (by decide) ⟨"epoch", 1⟩ rfl (by decide)
  refine ⟨_, third, replayed.2.1 ?_⟩
  rintro ⟨seq, past, upTo, missing⟩
  have later : seq = 2 ∨ seq = 3 := by
    have current : (step (step (step start 1) 2) 3).outputSeq = 3 := rfl
    have after : (ReconnectCursor.mk "epoch" 1).afterOutputSeq = 1 := rfl
    omega
  rcases later with rfl | rfl
  · exact missing _ (List.mem_cons_self) rfl
  · exact missing _ (List.mem_cons_of_mem _ List.mem_cons_self) rfl

end TerminalReplay

end Dure.Host
