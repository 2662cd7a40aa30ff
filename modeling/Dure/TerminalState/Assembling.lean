import Dure.TerminalState.FrameParts
import Mathlib

/-! What one pushed record does to an assembler, and what an assembler has gathered after any
run: the parts of one batch in order, with consecutive record ids and the same fences.
-/

namespace Dure.TerminalState

open Library Check List

variable {μ : Type} {wire : Wire μ}

/-- What all parts of a batch agree on. -/
structure Fences where
  protocolMinor : UInt8
  schemaMinor : UInt32
  terminalEpoch : String
  throughOutputSeq : UInt64
  stateRevision : UInt64
  batchId : List UInt8
  partCount : UInt32
  totalFrameBytes : Nat
  projectionRevision : UInt64
  appliedIntentSeq : UInt64
  deriving DecidableEq, Repr

def DecodedRecord.fences (decoded : DecodedRecord μ) (part : ViewportFramePart) : Fences where
  protocolMinor := decoded.metadata.protocolMinor
  schemaMinor := decoded.record.schemaMinor
  terminalEpoch := decoded.record.terminalEpoch
  throughOutputSeq := decoded.record.throughOutputSeq
  stateRevision := decoded.record.stateRevision
  batchId := part.batchId
  partCount := part.partCount
  totalFrameBytes := part.totalFrameBytes.toNat
  projectionRevision := part.projectionRevision
  appliedIntentSeq := part.appliedIntentSeq

def PendingViewportFrame.fences (pending : PendingViewportFrame) : Fences where
  protocolMinor := pending.protocolMinor
  schemaMinor := pending.schemaMinor
  terminalEpoch := pending.terminalEpoch
  throughOutputSeq := pending.throughOutputSeq
  stateRevision := pending.stateRevision
  batchId := pending.batchId
  partCount := pending.partCount
  totalFrameBytes := pending.totalFrameBytes
  projectionRevision := pending.projectionRevision
  appliedIntentSeq := pending.appliedIntentSeq

theorem PendingViewportFrame.expects_iff {pending : PendingViewportFrame}
    : pending.Expects decoded part
      ↔ pending.fences = decoded.fences part ∧ pending.nextPartIndex = part.partIndex
        ∧ pending.nextRecordId = decoded.metadata.recordId := by
  unfold Expects PendingViewportFrame.fences DecodedRecord.fences
  simp only [Fences.mk.injEq, and_assoc]

/-- A batch that may replace what is installed. -/
def Fences.Newer (fences : Fences) (installed : ViewportFrameProgress) : Prop :=
  fences.terminalEpoch = installed.terminalEpoch
  ∧ installed.projectionRevision < fences.projectionRevision
  ∧ installed.stateRevision ≤ fences.stateRevision
  ∧ installed.throughOutputSeq ≤ fences.throughOutputSeq
  ∧ installed.appliedIntentSeq ≤ fences.appliedIntentSeq

/-- The complete frame that a batch is answered with. -/
def Fences.complete (fences : Fences) (lastRecordId : UInt64) (frame : ViewportFrame)
    : DecodedRecord μ where
  metadata := ⟨viewportFrameProtocolMinor, lastRecordId, .viewportFrame⟩
  record :=
    {
      schemaMinor := viewportFrameProtocolMinor.toUInt32
      terminalEpoch := fences.terminalEpoch
      throughOutputSeq := fences.throughOutputSeq
      stateRevision := fences.stateRevision
      body := some (.viewportFrame frame)
    }

namespace ViewportFrameAssembler

/-- The batch that a part is checked against: the pending one, or the one that it starts. -/
def Opens (assembler : ViewportFrameAssembler) (decoded : DecodedRecord μ)
    (part : ViewportFramePart) (pending : PendingViewportFrame)
    : Prop :=
  assembler.pending = some pending
  ∨ assembler.pending = none ∧ assembler.refusal decoded.record part = none
    ∧ pending = .start decoded part

/-- What a pushed record did. -/
inductive Pushed (wire : Wire μ) (assembler : ViewportFrameAssembler)
    (decoded : DecodedRecord μ)
    : ViewportFrameAssembly μ → ViewportFrameAssembler → Prop
  | refused {reason : String}
    : Pushed wire assembler decoded (.resyncRequired reason) { assembler with pending := none }
  | passed (idle : assembler.pending = none)
    : Pushed wire assembler decoded (.downstream decoded) assembler
  | waits {part : ViewportFramePart} {pending : PendingViewportFrame}
    (carried : decoded.record.body = some (.viewportFramePart part))
    (valid : partValid wire decoded)
    (opens : assembler.Opens decoded part pending)
    (expected : pending.Expects decoded part)
    (fits : pending.bytes.length + part.frameChunk.length ≤ pending.totalFrameBytes)
    (unfinished : pending.nextPartIndex + 1 < pending.partCount)
    (room : pending.nextRecordId.toNat + 1 < UInt64.size)
    : Pushed wire assembler decoded .pending
        { assembler with
          pending := some
            { pending with
              bytes := pending.bytes ++ part.frameChunk
              nextPartIndex := pending.nextPartIndex + 1
              lastRecordId := decoded.metadata.recordId
              nextRecordId := pending.nextRecordId + 1 } }
  | completes {part : ViewportFramePart} {pending : PendingViewportFrame}
    {frame : ViewportFrame}
    (carried : decoded.record.body = some (.viewportFramePart part))
    (valid : partValid wire decoded)
    (opens : assembler.Opens decoded part pending)
    (expected : pending.Expects decoded part)
    (finished : ¬pending.nextPartIndex + 1 < pending.partCount)
    (whole : (pending.bytes ++ part.frameChunk).length = pending.totalFrameBytes)
    (decodes : wire.decodeFrame (pending.bytes ++ part.frameChunk) = some frame)
    (validFrame
      : validateViewportFrame viewportFrameProtocolMinor.toUInt32 frame = .ok ())
    (projection : frame.projectionRevision = pending.projectionRevision)
    (intent : frame.appliedIntentSeq = pending.appliedIntentSeq)
    : Pushed wire assembler decoded
        (.complete (pending.fences.complete decoded.metadata.recordId frame))
        { assembler with pending := none }

variable {assembler : ViewportFrameAssembler} {decoded : DecodedRecord μ}

theorem extend_pushed {part : ViewportFramePart} {pending : PendingViewportFrame}
    (carried : decoded.record.body = some (.viewportFramePart part))
    (valid : partValid wire decoded)
    (opens : assembler.Opens decoded part pending)
    : Pushed wire assembler decoded (assembler.extend wire pending decoded part).1
        (assembler.extend wire pending decoded part).2 := by
  unfold extend
  split
  · exact .refused
  · rename_i expected
    rw [not_not] at expected
    split
    · exact .refused
    · rename_i fits
      rw [Nat.not_lt] at fits
      simp only
      split
      · rename_i unfinished
        split
        · exact .refused
        · rename_i room
          exact .waits carried valid opens expected fits unfinished (Nat.not_le.mp room)
      · rename_i finished
        unfold finish
        split
        · exact .refused
        · rename_i whole
          rw [not_not] at whole
          split
          · exact .refused
          · rename_i frame decodes
            split
            · exact .refused
            · rename_i validFrame
              split
              · exact .refused
              · rename_i agrees
                rw [not_or, not_not, not_not] at agrees
                exact .completes carried valid opens expected finished whole decodes validFrame
                  agrees.1 agrees.2

/-- Witness: one case per body; a part is checked, then against its batch. -/
theorem pushDownstream_pushed (wire : Wire μ) (assembler : ViewportFrameAssembler)
    (decoded : DecodedRecord μ)
    : Pushed wire assembler decoded (assembler.pushDownstream wire decoded).1
        (assembler.pushDownstream wire decoded).2 := by
  unfold pushDownstream
  split
  · exact .refused
  · exact .refused
  · exact .refused
  · rename_i part carried
    unfold pushPart
    split
    · exact .refused
    · rename_i valid
      rw [not_not] at valid
      split
      · rename_i pending waiting
        exact extend_pushed carried valid (Or.inl waiting)
      · rename_i idle
        split
        · exact .refused
        · rename_i accepted
          exact extend_pushed carried valid (Or.inr ⟨idle, accepted, rfl⟩)
  · split
    · exact .refused
    · rename_i idle
      exact .passed (by simpa using idle)

/-- The limits that a valid part keeps. -/
theorem partValid_bounds (carried : decoded.record.body = some (.viewportFramePart part))
    (valid : partValid wire decoded)
    : part.partIndex.toNat < part.partCount.toNat
      ∧ part.partCount.toNat ≤ maxViewportFrameParts
      ∧ part.totalFrameBytes.toNat ≤ maxViewportFrameBytes := by
  obtain ⟨_, _, _, _, accepted⟩ := valid
  unfold validateRecord at accepted
  simp only [carried, required, pure_bind, validateBody] at accepted
  unfold validateViewportFramePart at accepted
  simp only [↓seq_ok, rejectIf_ok, not_or, Nat.not_lt, ge_iff_le, UInt32.not_le] at accepted
  obtain ⟨_, _, _, _, _, _, ⟨_, few, indexed⟩, ⟨_, bounded⟩, _⟩ := accepted
  exact ⟨UInt32.lt_iff_toNat_lt.mp indexed, few, bounded⟩

end ViewportFrameAssembler

/-- The bytes that a record adds to a frame. -/
def DecodedRecord.chunk (decoded : DecodedRecord μ) : List UInt8 :=
  match decoded.record.body with
  | some (.viewportFramePart part) => part.frameChunk
  | _ => []

/-- A valid part with its place in a batch. -/
def PartAt (wire : Wire μ) (fences : Fences) (firstRecordId index : Nat)
    (decoded : DecodedRecord μ)
    : Prop :=
  ∃ part, decoded.record.body = some (.viewportFramePart part)
    ∧ ViewportFrameAssembler.partValid wire decoded
    ∧ decoded.fences part = fences
    ∧ part.partIndex.toNat = index
    ∧ decoded.metadata.recordId.toNat = firstRecordId + index

/-- The first parts of a batch, one after the other. -/
def PartsInOrder (wire : Wire μ) (fences : Fences) (firstRecordId : Nat)
    (parts : List (DecodedRecord μ))
    : Prop :=
  ∀ index decoded, parts[index]? = some decoded
    → PartAt wire fences firstRecordId index decoded

theorem PartsInOrder.append (ordered : PartsInOrder wire fences firstRecordId parts)
    (next : PartAt wire fences firstRecordId parts.length decoded)
    : PartsInOrder wire fences firstRecordId (parts ++ [decoded]) := by
  intro index other found
  rcases Nat.lt_or_ge index parts.length with earlier | later
  · rw [getElem?_append_left earlier] at found
    exact ordered index other found
  · rw [getElem?_append_right later, getElem?_singleton] at found
    split_ifs at found with here
    cases found
    obtain rfl : index = parts.length := by omega
    exact next

/-- What a pending frame has gathered from the parts that were pushed last. -/
structure Gathered (wire : Wire μ) (installed : Option ViewportFrameProgress)
    (pending : PendingViewportFrame) (firstRecordId : Nat) (parts : List (DecodedRecord μ))
    : Prop where
  ordered : PartsInOrder wire pending.fences firstRecordId parts
  bytes : pending.bytes = (parts.map DecodedRecord.chunk).flatten
  index : pending.nextPartIndex.toNat = parts.length
  record : pending.nextRecordId.toNat = firstRecordId + parts.length
  fits : pending.bytes.length ≤ pending.totalFrameBytes
  bounded : pending.totalFrameBytes ≤ maxViewportFrameBytes
  newer : ∀ progress ∈ installed, pending.fences.Newer progress

section

variable {installed : Option ViewportFrameProgress} {pending : PendingViewportFrame}
  {firstRecordId : Nat} {parts : List (DecodedRecord μ)} {decoded : DecodedRecord μ}
  {part : ViewportFramePart}

section

variable (carried : decoded.record.body = some (.viewportFramePart part))
include carried

theorem chunk_of_carried
    : decoded.chunk = part.frameChunk := by
  unfold DecodedRecord.chunk
  rw [carried]

section

variable (valid : ViewportFrameAssembler.partValid wire decoded)
include valid

/-- An accepted first part starts a batch that is newer than what is installed. -/
theorem Gathered.start {assembler : ViewportFrameAssembler}
    (accepted : assembler.refusal decoded.record part = none)
    : Gathered wire assembler.installed (.start decoded part) decoded.metadata.recordId.toNat
        [] where
  ordered := by
    intro index other found
    cases found
  bytes := rfl
  index := rfl
  record := rfl
  fits := Nat.zero_le _
  bounded := (ViewportFrameAssembler.partValid_bounds carried valid).2.2
  newer := by
    intro progress held
    unfold ViewportFrameAssembler.refusal at accepted
    rw [Option.mem_def.mp held] at accepted
    split at accepted
    · cases accepted
    · simp only at accepted
      split at accepted
      · cases accepted
      · rename_i epoch
        split at accepted
        · cases accepted
        · rename_i fresh
          simp only [not_or, UInt64.not_le, UInt64.not_lt] at fresh
          obtain ⟨projection, revision, output, intent⟩ := fresh
          exact ⟨(not_not.mp epoch).symm, projection, revision, output, intent⟩

/-- The part that a batch waits for is its next one. -/
theorem Gathered.partAt (gathered : Gathered wire installed pending firstRecordId parts)
    (expected : pending.Expects decoded part)
    : PartAt wire pending.fences firstRecordId parts.length decoded := by
  obtain ⟨fences, index, record⟩ := PendingViewportFrame.expects_iff.mp expected
  refine ⟨part, carried, valid, fences.symm, ?_, ?_⟩
  · rw [← index]
    exact gathered.index
  · rw [← record]
    exact gathered.record

/-- Witness: the index and the record id grow by one, the bytes by the chunk. -/
theorem Gathered.push (gathered : Gathered wire installed pending firstRecordId parts)
    (expected : pending.Expects decoded part)
    (fits : pending.bytes.length + part.frameChunk.length ≤ pending.totalFrameBytes)
    (room : pending.nextRecordId.toNat + 1 < UInt64.size)
    : Gathered wire installed
        { pending with
          bytes := pending.bytes ++ part.frameChunk
          nextPartIndex := pending.nextPartIndex + 1
          lastRecordId := decoded.metadata.recordId
          nextRecordId := pending.nextRecordId + 1 }
        firstRecordId (parts ++ [decoded]) where
  ordered := gathered.ordered.append (gathered.partAt carried valid expected)
  bytes := by
    rw [map_append, flatten_append, ← gathered.bytes]
    simp [chunk_of_carried carried]
  index := by
    obtain ⟨_, index, _⟩ := PendingViewportFrame.expects_iff.mp expected
    obtain ⟨below, few, _⟩ := ViewportFrameAssembler.partValid_bounds carried valid
    have start := gathered.index
    rw [index] at start
    unfold maxViewportFrameParts at few
    simp only [index, UInt32.toNat_add, UInt32.toNat_one, length_append,
      length_singleton]
    omega
  record := by
    have start := gathered.record
    unfold UInt64.size at room
    simp only [UInt64.toNat_add, UInt64.toNat_one, length_append, length_singleton]
    omega
  fits := by
    rw [length_append]
    exact fits
  bounded := gathered.bounded
  newer := gathered.newer

end

end

end

end Dure.TerminalState
