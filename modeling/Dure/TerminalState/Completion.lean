import Dure.TerminalState.Assembling

/-! Whatever is pushed into an assembler, a frame is complete only after all parts of one
batch were pushed in a row.
-/

namespace Dure.TerminalState

open Library Check List

variable {μ : Type} {wire : Wire μ}

namespace ViewportFrameAssembler

/-- What is pending was gathered from the last inputs. -/
def Holds (wire : Wire μ) (inputs : List (Input μ)) (assembler : ViewportFrameAssembler)
    : Prop :=
  ∀ pending ∈ assembler.pending, ∃ before parts firstRecordId,
    inputs = before ++ parts.map Input.push
    ∧ Gathered wire assembler.installed pending firstRecordId parts

variable {assembler : ViewportFrameAssembler} {inputs : List (Input μ)}
  {decoded : DecodedRecord μ} {part : ViewportFramePart} {pending : PendingViewportFrame}

theorem Holds.of_idle (idle : assembler.pending = none) : Holds wire inputs assembler := by
  intro pending held
  rw [idle] at held
  cases held

/-- The batch that a part is checked against was gathered, perhaps from no part yet. -/
theorem Holds.opened (holds : Holds wire inputs assembler)
    (carried : decoded.record.body = some (.viewportFramePart part))
    (valid : partValid wire decoded)
    (opens : assembler.Opens decoded part pending)
    : ∃ before parts firstRecordId, inputs = before ++ parts.map Input.push
      ∧ Gathered wire assembler.installed pending firstRecordId parts := by
  rcases opens with waiting | ⟨_, accepted, rfl⟩
  · exact holds pending waiting
  · exact ⟨inputs, [], _, by simp, .start carried valid accepted⟩

theorem Holds.push (holds : Holds wire inputs assembler)
    : Holds wire (inputs ++ [.push decoded]) (assembler.pushDownstream wire decoded).2 := by
  have pushed := pushDownstream_pushed wire assembler decoded
  generalize (assembler.pushDownstream wire decoded).1 = answer at pushed
  generalize (assembler.pushDownstream wire decoded).2 = next at pushed
  cases pushed with
  | refused | completes => exact .of_idle rfl
  | passed idle => exact .of_idle idle
  | waits carried valid opens expected fits unfinished room =>
    rintro _ ⟨⟩
    obtain ⟨before, parts, firstRecordId, rfl, gathered⟩ := holds.opened carried valid opens
    exact ⟨before, parts ++ [decoded], firstRecordId, by simp,
      gathered.push carried valid expected fits room⟩

/-- Witness: induction on the inputs from the right. -/
theorem after_holds (wire : Wire μ) (installed : Option ViewportFrameProgress)
    (inputs : List (Input μ))
    : Holds wire inputs ((machine wire).after (initial installed) inputs) := by
  induction inputs using reverseRecOn with
  | nil => exact .of_idle rfl
  | append_singleton earlier last ih =>
    rw [Machine.after_append]
    cases last with
    | push decoded => exact ih.push
    | setInstalled progress | discardIncomplete => exact .of_idle rfl

/-- Never more bytes than a frame may have. -/
theorem pending_bytes_bounded (wire : Wire μ) (installed : Option ViewportFrameProgress)
    (inputs : List (Input μ))
    : ∀ pending ∈ ((machine wire).after (initial installed) inputs).pending,
      pending.bytes.length ≤ maxViewportFrameBytes := by
  intro pending held
  obtain ⟨_, _, _, _, gathered⟩ := after_holds wire installed inputs pending held
  exact gathered.fits.trans gathered.bounded

/-- How a frame came to be complete: the last inputs were the parts of one batch in order,
their chunks are the frame, and the batch is newer than what is installed.
-/
structure Completed (wire : Wire μ) (inputs : List (Input μ))
    (installed : Option ViewportFrameProgress) (result : DecodedRecord μ) (fences : Fences)
    (parts : List (DecodedRecord μ)) (frame : ViewportFrame) : Prop where
  pushed : ∃ before, inputs = before ++ parts.map Input.push
  ordered : ∃ firstRecordId, PartsInOrder wire fences firstRecordId parts
  all : parts.length = fences.partCount.toNat
  whole : (parts.map DecodedRecord.chunk).flatten.length = fences.totalFrameBytes
  decodes : wire.decodeFrame (parts.map DecodedRecord.chunk).flatten = some frame
  fenced : frame.projectionRevision = fences.projectionRevision
    ∧ frame.appliedIntentSeq = fences.appliedIntentSeq
  newer : ∀ progress ∈ installed, fences.Newer progress
  answered : ∃ last, parts.getLast? = some last
    ∧ result = fences.complete last.metadata.recordId frame
  validFrame : validateViewportFrame viewportFrameProtocolMinor.toUInt32 frame = .ok ()

/-- Witness: the pushed record was the last part of what the assembler had gathered. -/
theorem Holds.completed {result : DecodedRecord μ} (holds : Holds wire inputs assembler)
    (complete : (assembler.pushDownstream wire decoded).1 = .complete result)
    : ∃ fences parts frame,
      Completed wire (inputs ++ [.push decoded]) assembler.installed result fences parts
        frame := by
  have pushed := pushDownstream_pushed wire assembler decoded
  rw [complete] at pushed
  generalize (assembler.pushDownstream wire decoded).2 = next at pushed
  cases pushed with
  | @completes part pending frame carried valid opens expected finished whole decodes validFrame
      projection intent =>
      obtain ⟨before, parts, firstRecordId, rfl, gathered⟩ := holds.opened carried valid opens
      have chunks : ((parts ++ [decoded]).map DecodedRecord.chunk).flatten
          = pending.bytes ++ part.frameChunk := by
        rw [map_append, flatten_append, ← gathered.bytes]
        simp [chunk_of_carried carried]
      refine ⟨pending.fences, parts ++ [decoded], frame, ?_⟩
      exact
        {
          pushed := ⟨before, by simp⟩
          ordered := ⟨firstRecordId,
            gathered.ordered.append (gathered.partAt carried valid expected)⟩
          all := by
            obtain ⟨fences, index, _⟩ := PendingViewportFrame.expects_iff.mp expected
            obtain ⟨below, few, _⟩ := partValid_bounds carried valid
            have counts : pending.partCount = part.partCount := congrArg Fences.partCount fences
            have start := gathered.index
            rw [index] at start
            rw [index, counts, UInt32.lt_iff_toNat_lt, UInt32.toNat_add] at finished
            rw [length_append, length_singleton]
            change parts.length + 1 = pending.partCount.toNat
            rw [counts]
            unfold maxViewportFrameParts at few
            simp only [UInt32.toNat_one] at finished
            omega
          whole := by
            rw [chunks]
            exact whole
          decodes := by rwa [chunks]
          fenced := ⟨projection, intent⟩
          newer := gathered.newer
          answered := ⟨decoded, by simp, rfl⟩
          validFrame
        }

end ViewportFrameAssembler

/-- A completed frame passes the check of its record exactly when its timing is covered by
the output that the record covers. Witness: the parts passed every other rule of records.
-/
theorem ViewportFrameAssembler.Completed.validates_iff {inputs : List (Input μ)}
    {installed : Option ViewportFrameProgress}
    (completed : Completed wire inputs installed result fences parts frame)
    : validateRecord wire result.record = .ok ()
      ↔ frame.TimingWithin result.record.throughOutputSeq := by
  obtain ⟨last, final, rfl⟩ := completed.answered
  obtain ⟨firstRecordId, ordered⟩ := completed.ordered
  rw [getLast?_eq_getElem?] at final
  obtain ⟨part, carried, ⟨_, _, _, _, accepted⟩, rfl, _⟩ := ordered _ _ final
  unfold validateRecord at accepted ⊢
  simp only [↓seq_ok, rejectIf_ok] at accepted
  obtain ⟨_, epoch, revision, unexhausted, _⟩ := accepted
  simp only [Fences.complete, DecodedRecord.fences, ↓seq_ok, rejectIf_ok, epoch, revision,
    unexhausted, required, pure_bind, validateBody, completed.validFrame,
    ViewportFrame.TimingWithin]
  simp [viewportFrameProtocolMinor, protocolMinor]

end Dure.TerminalState
