import Dure.TerminalState.Completion

/-! The batches that the sender accepts, and that their parts are decoded as they were sent. -/

namespace Dure.TerminalState

open Library Check

variable {μ : Type} {wire : Wire μ}

section

variable {schemaMinor other : UInt32}

section

variable (same : schemaMinor ≥ 2 ↔ other ≥ 2)
include same

theorem validateRow_minor (row : TerminalRow) (columns : Nat) (tables : TerminalTables)
    : validateRow row columns tables schemaMinor = validateRow row columns tables other := by
  unfold validateRow validateRowBounds
  simp only [same]

theorem validateRowsAfter_minor (columns : Nat)
    (tables : TerminalTables) (physicalIds : List UInt64) (previous : Option TerminalRow)
    (rows : List TerminalRow)
    : validateRowsAfter columns (some tables) schemaMinor physicalIds previous rows
      = validateRowsAfter columns (some tables) other physicalIds previous rows := by
  have successor (first second : TerminalRow)
      : validateSuccessor first second schemaMinor = validateSuccessor first second other := by
    unfold validateSuccessor
    simp only [same]
  induction rows generalizing physicalIds previous with
  | nil => rfl
  | cons row rest ih =>
    simp only [validateRowsAfter, validateRow_minor same, successor, ih]

/-- The schema minor of a frame only decides whether its rows carry their spans. -/
theorem validateViewportFrame_minor (frame : ViewportFrame)
    : validateViewportFrame schemaMinor frame = validateViewportFrame other frame := by
  unfold validateViewportFrame validateRows
  simp only [validateRowsAfter_minor same]

end

end

namespace ViewportFrameBatch

def chunks (wire : Wire μ) (batch : ViewportFrameBatch) : List (List UInt8) :=
  Library.chunks batch.maxChunkBytes (wire.encodeFrame batch.frame)

/-- The record of the chunk at an index. -/
def record (wire : Wire μ) (batch : ViewportFrameBatch) (index : Nat) (chunk : List UInt8)
    : TerminalStateRecord μ :=
  batch.partRecord (batch.chunks wire).length (wire.encodeFrame batch.frame).length index chunk

/-- Protobuf gives the frame and the records of its parts back. -/
structure RoundTrips (wire : Wire μ) (batch : ViewportFrameBatch) : Prop where
  frame : wire.decodeFrame (wire.encodeFrame batch.frame) = some batch.frame
  records : ∀ entry ∈ (batch.chunks wire).zipIdx,
    wire.decodeRecord (wire.encodeRecord (batch.record wire entry.2 entry.1))
      = .ok (batch.record wire entry.2 entry.1)

/-- The decoded record of the chunk at an index. -/
def decodedPart (wire : Wire μ) (batch : ViewportFrameBatch) (index : Nat)
    (chunk : List UInt8)
    : DecodedRecord μ :=
  ⟨⟨batch.schemaMinor.toUInt8, UInt64.ofNat (batch.recordIdStart.toNat + index),
    .viewportFramePart⟩, batch.record wire index chunk⟩

structure Accepted (wire : Wire μ) (batch : ViewportFrameBatch) : Prop where
  minor : 5 ≤ batch.schemaMinor.toNat
  frame : validateViewportFrame batch.schemaMinor batch.frame = .ok ()
  some : wire.encodeFrame batch.frame ≠ []
  bounded : (wire.encodeFrame batch.frame).length ≤ maxViewportFrameBytes
  few : (batch.chunks wire).length ≤ maxViewportFrameParts
  whole : (batch.chunks wire).flatten = wire.encodeFrame batch.frame
  identified : batch.recordIdStart.toNat + ((batch.chunks wire).length - 1) < UInt64.size

end ViewportFrameBatch

open ViewportFrameBatch

variable {batch : ViewportFrameBatch}

theorem ViewportFrameBatch.recordId_ok {index : Nat} {recordId : UInt64}
    : batch.recordId index = .ok recordId
      ↔ batch.recordIdStart.toNat + index < UInt64.size
        ∧ UInt64.ofNat (batch.recordIdStart.toNat + index) = recordId := by
  unfold ViewportFrameBatch.recordId
  simp only [↓seq_ok, rejectIf_ok, pure_ok, Nat.not_le, ge_iff_le]

/-- What is accepted, and that the parts are decoded as they were sent. -/
theorem encodeViewportFrameParts_ok {records : List (List UInt8)}
    (encoded : encodeViewportFrameParts wire batch = .ok records)
    (roundTrips : batch.RoundTrips wire)
    : batch.Accepted wire
      ∧ (∀ entry ∈ (batch.chunks wire).zipIdx,
        ViewportFrameAssembler.partValid wire (batch.decodedPart wire entry.2 entry.1))
      ∧ records.mapM (decodeRecord wire)
        = .ok ((batch.chunks wire).zipIdx.map
          (fun entry => batch.decodedPart wire entry.2 entry.1)) := by
  unfold encodeViewportFrameParts at encoded
  simp only [↓seq_ok, bind_ok, rejectIf_ok, not_or, Nat.not_lt, recordId_ok] at encoded
  obtain ⟨minor, frame, _, identified, ⟨positive, _⟩, ⟨some, bounded⟩, few, _, ⟨room, _⟩,
    sent⟩ := encoded
  have counted : (batch.chunks wire).length
      = ((wire.encodeFrame batch.frame).length + batch.maxChunkBytes - 1)
        / batch.maxChunkBytes :=
    length_chunks (Nat.pos_of_ne_zero positive) _
  rw [← counted] at few room sent
  have accepted : batch.Accepted wire :=
    {
      minor := by
        rw [UInt32.not_lt, UInt32.le_iff_toNat_le] at minor
        exact minor
      frame
      some
      bounded
      few
      whole := flatten_chunks (Nat.pos_of_ne_zero positive) _
      identified := room
    }
  have parts (entry : List UInt8 × Nat) (member : entry ∈ (batch.chunks wire).zipIdx)
      (bytes : List UInt8)
      (built : (do
        let recordId ← batch.recordId entry.2
        encodeRecord wire recordId (batch.record wire entry.2 entry.1)) = .ok bytes)
      : ViewportFrameAssembler.partValid wire (batch.decodedPart wire entry.2 entry.1)
        ∧ decodeRecord wire bytes = .ok (batch.decodedPart wire entry.2 entry.1) := by
    obtain ⟨recordId, known, sentRecord⟩ := bind_ok.mp built
    obtain ⟨_, rfl⟩ := recordId_ok.mp known
    obtain ⟨nonzero, supported, valid, kind, kinds, decoded⟩ :=
      decodeRecord_encodeRecord sentRecord (roundTrips.records entry member)
    cases kinds
    have narrow : batch.schemaMinor.toNat ≤ 6 := supported
    refine ⟨⟨nonzero, ?_, ?_, rfl, valid⟩, decoded⟩
    · rw [UInt8.le_iff_toNat_le]
      change batch.schemaMinor.toUInt8.toNat ≤ 6
      rw [UInt32.toNat_toUInt8]
      omega
    · rw [UInt32.le_iff_toNat_le]
      change batch.schemaMinor.toNat ≤ batch.schemaMinor.toUInt8.toUInt32.toNat
      rw [UInt8.toNat_toUInt32, UInt32.toNat_toUInt8]
      omega
  refine ⟨accepted, ?_, ?_⟩
  · intro entry member
    obtain ⟨bytes, _, made⟩ := mapM_built sent member
    exact (parts entry member bytes made).1
  · exact mapM_inverse sent (fun entry member bytes made => (parts entry member bytes made).2)

end Dure.TerminalState
