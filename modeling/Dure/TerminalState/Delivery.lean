import Dure.TerminalState.Splitting

/-! The parts of an accepted batch, decoded and pushed in order, give the frame back. -/

namespace Dure.TerminalState

open Library Check List
open ViewportFrameBatch ViewportFrameAssembler

section

variable {μ : Type} {wire : Wire μ} {batch : ViewportFrameBatch}

/-- What the parts of the batch agree on. -/
def ViewportFrameBatch.fences (wire : Wire μ) (batch : ViewportFrameBatch) : Fences where
  protocolMinor := batch.schemaMinor.toUInt8
  schemaMinor := batch.schemaMinor
  terminalEpoch := batch.terminalEpoch
  throughOutputSeq := batch.throughOutputSeq
  stateRevision := batch.stateRevision
  batchId := batch.batchId
  partCount := UInt32.ofNat (batch.chunks wire).length
  totalFrameBytes := (UInt32.ofNat (wire.encodeFrame batch.frame).length).toNat
  projectionRevision := batch.frame.projectionRevision
  appliedIntentSeq := batch.frame.appliedIntentSeq

/-- The pending frame has taken these chunks of the batch. -/
structure Taken (wire : Wire μ) (batch : ViewportFrameBatch) (done : List (List UInt8))
    (pending : PendingViewportFrame) : Prop where
  fences : pending.fences = batch.fences wire
  index : pending.nextPartIndex = UInt32.ofNat done.length
  record : pending.nextRecordId = UInt64.ofNat (batch.recordIdStart.toNat + done.length)
  bytes : pending.bytes = done.flatten

theorem pushDownstream_of_opens {assembler : ViewportFrameAssembler} {decoded : DecodedRecord μ}
    {part : ViewportFramePart} {pending : PendingViewportFrame}
    (carried : decoded.record.body = some (.viewportFramePart part))
    (valid : partValid wire decoded) (opens : assembler.Opens decoded part pending)
    : assembler.pushDownstream wire decoded = assembler.extend wire pending decoded part := by
  unfold pushDownstream pushPart
  rw [carried]
  simp only [valid, not_true_eq_false, if_false]
  rcases opens with waiting | ⟨idle, accepted, rfl⟩
  · rw [waiting]
  · rw [idle, accepted]

/-- A first part of a newer batch is not refused. -/
theorem refusal_of_newer {installed : Option ViewportFrameProgress} {decoded : DecodedRecord μ}
    (first : part.partIndex = 0)
    (newer : ∀ progress ∈ installed, (decoded.fences part).Newer progress)
    : (initial installed).refusal decoded.record part = none := by
  unfold refusal
  rw [if_neg (not_not.mpr first)]
  cases installed with
  | none => rfl
  | some progress =>
    obtain ⟨epoch, projection, revision, output, intent⟩ := newer progress rfl
    have sameEpoch : ¬progress.terminalEpoch ≠ decoded.record.terminalEpoch :=
      not_not.mpr epoch.symm
    have fresh : ¬(part.projectionRevision ≤ progress.projectionRevision
        ∨ decoded.record.stateRevision < progress.stateRevision
        ∨ decoded.record.throughOutputSeq < progress.throughOutputSeq
        ∨ part.appliedIntentSeq < progress.appliedIntentSeq) := by
      simp only [not_or, UInt64.not_le, UInt64.not_lt]
      exact ⟨projection, revision, output, intent⟩
    change (if progress.terminalEpoch ≠ decoded.record.terminalEpoch then _ else _) = none
    rw [if_neg sameEpoch, if_neg fresh]

section

variable {assembler : ViewportFrameAssembler} {pending : PendingViewportFrame}
  {done rest : List (List UInt8)} {chunk : List UInt8}

/-- The part that carries a chunk. -/
def ViewportFrameBatch.part (wire : Wire μ) (batch : ViewportFrameBatch) (index : Nat)
    (chunk : List UInt8)
    : ViewportFramePart where
  batchId := batch.batchId
  partIndex := UInt32.ofNat index
  partCount := UInt32.ofNat (batch.chunks wire).length
  totalFrameBytes := UInt32.ofNat (wire.encodeFrame batch.frame).length
  frameChunk := chunk
  projectionRevision := batch.frame.projectionRevision
  appliedIntentSeq := batch.frame.appliedIntentSeq

section

variable (taken : Taken wire batch done pending)
include taken

theorem Taken.expects
    : pending.Expects (batch.decodedPart wire done.length chunk)
        (batch.part wire done.length chunk) :=
  PendingViewportFrame.expects_iff.mpr ⟨taken.fences, taken.index, taken.record⟩

section

variable (accepted : batch.Accepted wire)
include accepted

theorem Taken.total
    : pending.totalFrameBytes = (batch.chunks wire).flatten.length := by
  have total : pending.totalFrameBytes
      = (UInt32.ofNat (wire.encodeFrame batch.frame).length).toNat :=
    congrArg Fences.totalFrameBytes taken.fences
  have bounded := accepted.bounded
  unfold maxViewportFrameBytes at bounded
  rw [total, UInt32.toNat_ofNat', accepted.whole]
  omega

theorem Taken.count (few : done.length < (batch.chunks wire).length)
    : pending.nextPartIndex + 1 < pending.partCount
      ↔ done.length + 1 < (batch.chunks wire).length := by
  have count : pending.partCount = UInt32.ofNat (batch.chunks wire).length :=
    congrArg Fences.partCount taken.fences
  have bounded := accepted.few
  unfold maxViewportFrameParts at bounded
  rw [taken.index, count, UInt32.lt_iff_toNat_lt, UInt32.toNat_add, UInt32.toNat_ofNat',
    UInt32.toNat_ofNat', UInt32.toNat_one]
  omega

/-- A chunk with another one behind it is added. -/
theorem Taken.more (split : batch.chunks wire = done ++ chunk :: second :: rest)
    : ∃ next, assembler.extend wire pending (batch.decodedPart wire done.length chunk)
          (batch.part wire done.length chunk)
        = (.pending, { assembler with pending := some next })
      ∧ Taken wire batch (done ++ [chunk]) next := by
  have counted : (batch.chunks wire).length = done.length + rest.length + 2 := by
    rw [split]
    simp
    omega
  have identified := accepted.identified
  have fits : ¬pending.bytes.length + (batch.part wire done.length chunk).frameChunk.length
      > pending.totalFrameBytes := by
    rw [taken.total accepted, taken.bytes, split]
    simp [ViewportFrameBatch.part]
  have unfinished := (taken.count accepted (by omega)).mpr (by omega)
  have numbered : pending.nextRecordId.toNat = batch.recordIdStart.toNat + done.length := by
    rw [taken.record, UInt64.toNat_ofNat']
    unfold UInt64.size at identified
    omega
  have room : ¬pending.nextRecordId.toNat + 1 ≥ UInt64.size := by omega
  refine ⟨{ pending with
    bytes := pending.bytes ++ chunk
    nextPartIndex := pending.nextPartIndex + 1
    lastRecordId := UInt64.ofNat (batch.recordIdStart.toNat + done.length)
    nextRecordId := pending.nextRecordId + 1 }, ?_, ?_⟩
  · unfold extend
    rw [if_neg (not_not.mpr taken.expects), if_neg fits]
    simp only [unfinished, if_true]
    rw [if_neg room]
    rfl
  · exact
      {
        fences := taken.fences
        index := by
          change pending.nextPartIndex + 1 = _
          rw [taken.index, length_append, length_singleton]
          exact (UInt32.ofNat_add _ _).symm
        record := by
          change pending.nextRecordId + 1 = _
          rw [taken.record, length_append, length_singleton, ← Nat.add_assoc]
          exact (UInt64.ofNat_add _ _).symm
        bytes := by
          change pending.bytes ++ chunk = _
          rw [taken.bytes]
          simp
      }

/-- The last chunk completes the frame. -/
theorem Taken.last (roundTrips : batch.RoundTrips wire)
    (split : batch.chunks wire = done ++ [chunk])
    : assembler.extend wire pending (batch.decodedPart wire done.length chunk)
          (batch.part wire done.length chunk)
        = (.complete ((batch.fences wire).complete
            (UInt64.ofNat (batch.recordIdStart.toNat + done.length)) batch.frame),
          { assembler with pending := none }) := by
  have counted : (batch.chunks wire).length = done.length + 1 := by
    rw [split]
    simp
  have whole : pending.bytes ++ (batch.part wire done.length chunk).frameChunk
      = wire.encodeFrame batch.frame := by
    rw [← accepted.whole, split, taken.bytes]
    simp [ViewportFrameBatch.part]
  have sized : (wire.encodeFrame batch.frame).length = pending.totalFrameBytes := by
    rw [taken.total accepted, accepted.whole]
  have fits : ¬pending.bytes.length + (batch.part wire done.length chunk).frameChunk.length
      > pending.totalFrameBytes := by
    rw [← sized, ← whole, length_append]
    exact lt_irrefl _
  have finished : ¬pending.nextPartIndex + 1 < pending.partCount := by
    rw [taken.count accepted (by omega)]
    omega
  have valid : validateViewportFrame viewportFrameProtocolMinor.toUInt32 batch.frame
      = .ok () := by
    have minor := accepted.minor
    rw [← accepted.frame]
    refine validateViewportFrame_minor ?_ _
    simp only [ge_iff_le, UInt32.le_iff_toNat_le]
    exact iff_of_true (by decide) (le_trans (by decide) minor)
  have projection : pending.projectionRevision = batch.frame.projectionRevision :=
    congrArg Fences.projectionRevision taken.fences
  have intent : pending.appliedIntentSeq = batch.frame.appliedIntentSeq :=
    congrArg Fences.appliedIntentSeq taken.fences
  have fences := taken.fences
  unfold extend
  rw [if_neg (not_not.mpr taken.expects), if_neg fits]
  simp only [finished, if_false]
  unfold finish
  simp only [whole, sized, ne_eq, not_true_eq_false, if_false, roundTrips.frame, valid,
    projection, intent, or_self]
  rw [← fences]
  rfl

end

end

end

/-- The answers to the chunks that are left, by induction on them. -/
theorem Taken.answers {rest : List (List UInt8)}
    (accepted : batch.Accepted wire) (roundTrips : batch.RoundTrips wire)
    (valid : ∀ entry ∈ (batch.chunks wire).zipIdx,
      partValid wire (batch.decodedPart wire entry.2 entry.1))
    {done : List (List UInt8)} {chunk : List UInt8} {assembler : ViewportFrameAssembler}
    {pending : PendingViewportFrame}
    (split : batch.chunks wire = done ++ chunk :: rest)
    (opens : assembler.Opens (batch.decodedPart wire done.length chunk)
      (batch.part wire done.length chunk) pending)
    (taken : Taken wire batch done pending)
    : ((machine wire).exchanges assembler
          (((chunk :: rest).zipIdx done.length).map
            (fun entry => .push (batch.decodedPart wire entry.2 entry.1)))).map
          (fun exchange => exchange.2.2)
        = List.replicate rest.length (some .pending)
          ++ [some (.complete ((batch.fences wire).complete
            (UInt64.ofNat (batch.recordIdStart.toNat + ((batch.chunks wire).length - 1)))
            batch.frame))] := by
  have validAt {done rest : List (List UInt8)} {chunk : List UInt8}
      (split : batch.chunks wire = done ++ chunk :: rest)
      : partValid wire (batch.decodedPart wire done.length chunk) := by
    refine valid (chunk, done.length) ?_
    rw [split, zipIdx_append]
    simp
  induction rest generalizing done chunk assembler pending with
  | nil =>
    have counted : (batch.chunks wire).length - 1 = done.length := by
      rw [split]
      simp
    have pushes := pushDownstream_of_opens rfl (validAt split) opens
    rw [taken.last accepted roundTrips split] at pushes
    simp [Machine.exchanges, machine, pushes, counted]
  | cons second rest ih =>
    obtain ⟨next, extended, takenNext⟩ := taken.more accepted split
    have pushes := pushDownstream_of_opens rfl (validAt split) opens
    rw [extended] at pushes
    have splitNext : batch.chunks wire = (done ++ [chunk]) ++ second :: rest := by
      rw [split]
      simp
    have opensNext : ({ assembler with pending := some next } : ViewportFrameAssembler).Opens
        (batch.decodedPart wire (done ++ [chunk]).length second)
        (batch.part wire (done ++ [chunk]).length second) next :=
      Or.inl rfl
    have remaining := ih splitNext opensNext takenNext
    rw [length_append, length_singleton] at remaining
    rw [zipIdx_cons, map_cons, Machine.exchanges, map_cons, length_cons,
      replicate_succ, cons_append]
    simp only [machine, pushes] at remaining ⊢
    rw [remaining]

/-- An accepted batch, decoded and pushed in order into an assembler that has nothing newer,
is answered with its frame at the end. Whatever is pushed, a frame is complete only when the
parts of one batch were pushed in order, and it passes the check of its record exactly when
its timing is covered. Buffered bytes stay within the limit.
-/
theorem viewport_frame_whole_or_not_at_all (wire : Wire μ)
    : (∀ batch records installed, encodeViewportFrameParts wire batch = .ok records
        → batch.RoundTrips wire
        → (∀ progress ∈ installed, (batch.fences wire).Newer progress)
        → ∃ decoded lastRecordId, records.mapM (decodeRecord wire) = .ok decoded
          ∧ ((machine wire).exchanges (initial installed) (decoded.map Input.push)).map
              (fun exchange => exchange.2.2)
            = List.replicate (records.length - 1) (some .pending)
              ++ [some (.complete
                {
                  metadata := ⟨viewportFrameProtocolMinor, lastRecordId, .viewportFrame⟩
                  record :=
                    {
                      schemaMinor := viewportFrameProtocolMinor.toUInt32
                      terminalEpoch := batch.terminalEpoch
                      throughOutputSeq := batch.throughOutputSeq
                      stateRevision := batch.stateRevision
                      body := some (.viewportFrame batch.frame)
                    }
                })])
      ∧ (∀ installed earlier decoded result,
        ((machine wire).step ((machine wire).after (initial installed) earlier)
            (.push decoded)).1 = some (.complete result)
        → ∃ fences parts frame,
          Completed wire (earlier ++ [.push decoded])
            ((machine wire).after (initial installed) earlier).installed result fences parts
            frame
          ∧ (validateRecord wire result.record = .ok ()
            ↔ frame.TimingWithin result.record.throughOutputSeq))
      ∧ ∀ installed inputs,
        ∀ pending ∈ ((machine wire).after (initial installed) inputs).pending,
          pending.bytes.length ≤ maxViewportFrameBytes := by
  refine ⟨?_, ?_, pending_bytes_bounded wire⟩
  · intro batch records installed encoded roundTrips newer
    obtain ⟨accepted, valid, decoded⟩ := encodeViewportFrameParts_ok encoded roundTrips
    have counted : records.length = (batch.chunks wire).length := by
      simpa using (mapM_ok decoded).length_eq
    obtain ⟨chunk, rest, split⟩ : ∃ chunk rest, batch.chunks wire = chunk :: rest := by
      refine exists_cons_of_ne_nil ?_
      intro nothing
      refine accepted.some ?_
      rw [← accepted.whole, nothing]
      rfl
    have opens : (initial installed).Opens (batch.decodedPart wire 0 chunk)
        (batch.part wire 0 chunk)
        (.start (batch.decodedPart wire 0 chunk) (batch.part wire 0 chunk)) :=
      Or.inr ⟨rfl, refusal_of_newer rfl newer, rfl⟩
    have taken : Taken wire batch []
        (.start (batch.decodedPart wire 0 chunk) (batch.part wire 0 chunk)) :=
      ⟨rfl, rfl, by simp [PendingViewportFrame.start, decodedPart], rfl⟩
    have answers := Taken.answers accepted roundTrips valid split opens taken
    refine ⟨_, UInt64.ofNat (batch.recordIdStart.toNat + ((batch.chunks wire).length - 1)),
      decoded, ?_⟩
    rw [counted, split, map_map]
    rw [split] at answers
    exact answers
  · intro installed earlier decoded result complete
    have holds := after_holds wire installed earlier
    obtain ⟨fences, parts, frame, completed⟩ := holds.completed (Option.some.inj complete)
    exact ⟨fences, parts, frame, completed, completed.validates_iff⟩

end

namespace Sample

/-- One letter on a screen of one cell, after input that output number ten answered. -/
def frame : ViewportFrame where
  projectionRevision := 1
  damageBaseProjectionRevision := 0
  canonicalColumns := 1
  viewportRows := 1
  activeBuffer := 1
  rows := [⟨1, false, [⟨0, 0⟩], 1, 1, 0, 1⟩]
  tables := some ⟨[⟨"a", 1⟩], [⟨none, none, none, 0, 1, 0⟩], []⟩
  cursor := none
  inputModes := some
    ⟨false, false, false, false, 1, 1, false, false, false, false, false, false⟩
  colorOverrides := some ⟨[], none, none, none⟩
  unicodeWidth := some ⟨"15", 1, 2⟩
  throughEventId := 0
  title := ""
  workingDirectoryUri := ""
  followTail := true
  hasMoreBefore := false
  hasMoreAfter := false
  changedRowIndices := []
  appliedIntentSeq := 0
  anchorStatus := 1
  rowsFromTail := some 0
  inputOutputTiming := some ⟨5, 10, 0, 0, 1⟩

/-- The protobuf encoding of the frame. -/
def frameBytes : List UInt8 :=
  [0x08, 0x01, 0x18, 0x01, 0x20, 0x01, 0x28, 0x01,
    0x32, 0x0a, 0x08, 0x01, 0x1a, 0x00, 0x20, 0x01, 0x28, 0x01, 0x38, 0x01,
    0x3a, 0x0b, 0x0a, 0x05, 0x0a, 0x01, 0x61, 0x10, 0x01, 0x12, 0x02, 0x28, 0x01,
    0x4a, 0x04, 0x28, 0x01, 0x30, 0x01, 0x52, 0x00,
    0x5a, 0x08, 0x0a, 0x02, 0x31, 0x35, 0x10, 0x01, 0x18, 0x02,
    0x78, 0x01, 0xa0, 0x01, 0x01, 0xa8, 0x01, 0x00,
    0xb2, 0x01, 0x06, 0x08, 0x05, 0x10, 0x0a, 0x28, 0x01]

def batch (throughOutputSeq : UInt64) : ViewportFrameBatch where
  recordIdStart := 1
  schemaMinor := 5
  terminalEpoch := "epoch"
  throughOutputSeq := throughOutputSeq
  stateRevision := 1
  batchId := [1]
  frame := frame
  maxChunkBytes := 40

def firstRecord (throughOutputSeq : UInt64) : TerminalStateRecord Unit :=
  (batch throughOutputSeq).partRecord 2 frameBytes.length 0 (frameBytes.take 40)

def secondRecord (throughOutputSeq : UInt64) : TerminalStateRecord Unit :=
  (batch throughOutputSeq).partRecord 2 frameBytes.length 1 (frameBytes.drop 40)

/-- The protobuf encodings of the records of the two parts, for an output high-water below
128.
-/
def firstBytes (throughOutputSeq : UInt64) : List UInt8 :=
  [0x08, 0x05, 0x12, 0x05, 0x65, 0x70, 0x6f, 0x63, 0x68, 0x18, throughOutputSeq.toUInt8,
    0x20, 0x01, 0xaa, 0x01, 0x33, 0x0a, 0x01, 0x01, 0x18, 0x02, 0x20, 0x44, 0x2a, 0x28]
    ++ frameBytes.take 40 ++ [0x30, 0x01]

def secondBytes (throughOutputSeq : UInt64) : List UInt8 :=
  [0x08, 0x05, 0x12, 0x05, 0x65, 0x70, 0x6f, 0x63, 0x68, 0x18, throughOutputSeq.toUInt8,
    0x20, 0x01, 0xaa, 0x01, 0x29, 0x0a, 0x01, 0x01, 0x10, 0x01, 0x18, 0x02, 0x20, 0x44, 0x2a, 0x1c]
    ++ frameBytes.drop 40 ++ [0x30, 0x01]

/-- Protobuf on the messages of the example; nothing else is decoded. -/
def wire (throughOutputSeq : UInt64) : Wire Unit where
  encodeRecord record :=
    if record = firstRecord throughOutputSeq then firstBytes throughOutputSeq
    else if record = secondRecord throughOutputSeq then secondBytes throughOutputSeq
    else []
  decodeRecord bytes :=
    if bytes = firstBytes throughOutputSeq then .ok (firstRecord throughOutputSeq)
    else if bytes = secondBytes throughOutputSeq then .ok (secondRecord throughOutputSeq)
    else .error "failed to decode Protobuf message"
  encodeFrame shown := if shown = frame then frameBytes else []
  decodeFrame bytes := if bytes = frameBytes then some frame else none
  validateMessage _ _ _ _ _ := .ok ()

def records (throughOutputSeq : UInt64) : List (List UInt8) :=
  (encodeViewportFrameParts (wire throughOutputSeq) (batch throughOutputSeq)).toOption.getD []

def decoded (throughOutputSeq : UInt64) : List (DecodedRecord Unit) :=
  ((records throughOutputSeq).mapM (decodeRecord (wire throughOutputSeq))).toOption.getD []

def completed (throughOutputSeq : UInt64) : DecodedRecord Unit :=
  ((batch throughOutputSeq).fences (wire throughOutputSeq)).complete 2 frame

end Sample

/-- Output number ten is covered: the two parts give the frame back, and its record is
valid.
-/
theorem covered_timing_delivered
    : encodeViewportFrameParts (Sample.wire 10) (Sample.batch 10) = .ok (Sample.records 10)
      ∧ (Sample.batch 10).RoundTrips (Sample.wire 10)
      ∧ (∃ decoded lastRecordId,
        (Sample.records 10).mapM (decodeRecord (Sample.wire 10)) = .ok decoded
        ∧ ((machine (Sample.wire 10)).exchanges (initial none) (decoded.map Input.push)).map
            (fun exchange => exchange.2.2)
          = [some .pending, some (.complete
              ⟨⟨4, lastRecordId, .viewportFrame⟩,
                ⟨4, "epoch", 10, 1, some (.viewportFrame Sample.frame)⟩⟩)])
      ∧ validateRecord (Sample.wire 10) (Sample.completed 10).record = .ok () := by
  have encoded : encodeViewportFrameParts (Sample.wire 10) (Sample.batch 10)
      = .ok (Sample.records 10) := by
    decide +kernel
  have roundTrips : (Sample.batch 10).RoundTrips (Sample.wire 10) :=
    ⟨by decide +kernel, by decide +kernel⟩
  obtain ⟨delivers, completes, _⟩ := viewport_frame_whole_or_not_at_all (Sample.wire 10)
  refine ⟨encoded, roundTrips, ?_, ?_⟩
  · exact delivers _ _ none encoded roundTrips (by simp)
  · obtain ⟨_, _, frame, completed, valid⟩ := completes none [.push (Sample.decoded 10)[0]]
      (Sample.decoded 10)[1] (Sample.completed 10) (by decide +kernel)
    obtain ⟨_, _, answer⟩ := completed.answered
    have same : frame = Sample.frame := by
      have bodies := congrArg (fun result => result.record.body) answer
      cases bodies
      rfl
    subst same
    exact valid.mpr (by decide +kernel)

/-- Output number ten is not covered: the sender accepts the batch, the receiver completes
the frame, and its record is one that the same protocol refuses.
-/
theorem late_timing_completed
    : encodeViewportFrameParts (Sample.wire 5) (Sample.batch 5) = .ok (Sample.records 5)
      ∧ (Sample.records 5).mapM (decodeRecord (Sample.wire 5)) = .ok (Sample.decoded 5)
      ∧ ((machine (Sample.wire 5)).exchanges (initial none)
          ((Sample.decoded 5).map Input.push)).map (fun exchange => exchange.2.2)
        = [some .pending, some (.complete (Sample.completed 5))]
      ∧ validateRecord (Sample.wire 5) (Sample.completed 5).record
        = .error (invalidRecord
          "viewport input/output timing exceeds its output high-water") := by
  refine ⟨?_, ?_, ?_, ?_⟩ <;> decide +kernel

end Dure.TerminalState
