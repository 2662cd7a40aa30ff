import Dure.Library.Chunks
import Dure.Library.Machine
import Dure.TerminalState.Codec

/-! Large viewport frames travel in parts: the sender's split, and the receiver's assembler
as a machine that is given one decoded record after another.
-/

namespace Dure.TerminalState

open Library Check

variable {μ : Type}

def viewportFramePartSchemaMinor : UInt32 := 5
def viewportFrameProtocolMinor : UInt8 := 4

structure ViewportFrameBatch where
  recordIdStart : UInt64
  schemaMinor : UInt32
  terminalEpoch : String
  throughOutputSeq : UInt64
  stateRevision : UInt64
  batchId : List UInt8
  frame : ViewportFrame
  maxChunkBytes : Nat
  deriving DecidableEq, Repr

namespace ViewportFrameBatch

/-- The record of one chunk. -/
def partRecord (batch : ViewportFrameBatch) (partCount totalFrameBytes index : Nat)
    (chunk : List UInt8)
    : TerminalStateRecord μ where
  schemaMinor := batch.schemaMinor
  terminalEpoch := batch.terminalEpoch
  throughOutputSeq := batch.throughOutputSeq
  stateRevision := batch.stateRevision
  body := some (.viewportFramePart
    {
      batchId := batch.batchId
      partIndex := UInt32.ofNat index
      partCount := UInt32.ofNat partCount
      totalFrameBytes := UInt32.ofNat totalFrameBytes
      frameChunk := chunk
      projectionRevision := batch.frame.projectionRevision
      appliedIntentSeq := batch.frame.appliedIntentSeq
    })

/-- The identifier of the record at an index, unless it is out of range. -/
def recordId (batch : ViewportFrameBatch) (index : Nat) : Except ProtocolError UInt64 := do
  rejectIf (batch.recordIdStart.toNat + index ≥ UInt64.size)
    (invalidEnvelope "record id overflow")
  pure (UInt64.ofNat (batch.recordIdStart.toNat + index))

end ViewportFrameBatch

def encodeViewportFrameParts (wire : Wire μ) (batch : ViewportFrameBatch)
    : Except ProtocolError (List (List UInt8)) := do
  rejectIf (batch.schemaMinor < viewportFramePartSchemaMinor)
    (invalidRecord "viewport frame parts require schema minor 5")
  validateViewportFrame batch.schemaMinor batch.frame
  validateBytes batch.batchId 1 maxBatchIdBytes "viewport frame batch id is empty or oversized"
  rejectIf (batch.recordIdStart = 0) (invalidEnvelope "record id must be nonzero")
  rejectIf (batch.maxChunkBytes = 0 ∨ batch.maxChunkBytes > maxPayloadBytes - 1024)
    (invalidRecord "viewport frame chunk limit is outside envelope caps")
  let frameBytes := wire.encodeFrame batch.frame
  rejectIf (frameBytes = [] ∨ frameBytes.length > maxViewportFrameBytes)
    (.frameTooLarge frameBytes.length maxViewportFrameBytes)
  let partCount := (frameBytes.length + batch.maxChunkBytes - 1) / batch.maxChunkBytes
  rejectIf (partCount > maxViewportFrameParts)
    (invalidRecord "viewport frame requires too many parts")
  let _ ← batch.recordId (partCount - 1)
  (chunks batch.maxChunkBytes frameBytes).zipIdx.mapM (fun (chunk, index) => do
    let recordId ← batch.recordId index
    encodeRecord wire recordId (batch.partRecord partCount frameBytes.length index chunk))

inductive ViewportFrameAssembly (μ : Type) where
  | downstream (decoded : DecodedRecord μ)
  | pending
  | complete (decoded : DecodedRecord μ)
  | resyncRequired (reason : String)
  deriving DecidableEq, Repr

structure ViewportFrameProgress where
  terminalEpoch : String
  throughOutputSeq : UInt64
  stateRevision : UInt64
  projectionRevision : UInt64
  appliedIntentSeq : UInt64
  deriving DecidableEq, Repr

structure PendingViewportFrame where
  protocolMinor : UInt8
  schemaMinor : UInt32
  terminalEpoch : String
  throughOutputSeq : UInt64
  stateRevision : UInt64
  batchId : List UInt8
  partCount : UInt32
  totalFrameBytes : Nat
  projectionRevision : UInt64
  appliedIntentSeq : UInt64
  nextPartIndex : UInt32
  nextRecordId : UInt64
  lastRecordId : UInt64
  bytes : List UInt8
  deriving DecidableEq, Repr

structure ViewportFrameAssembler where
  pending : Option PendingViewportFrame
  installed : Option ViewportFrameProgress
  deriving DecidableEq, Repr

/-- What the first part of a batch starts. -/
def PendingViewportFrame.start (decoded : DecodedRecord μ) (part : ViewportFramePart)
    : PendingViewportFrame where
  protocolMinor := decoded.metadata.protocolMinor
  schemaMinor := decoded.record.schemaMinor
  terminalEpoch := decoded.record.terminalEpoch
  throughOutputSeq := decoded.record.throughOutputSeq
  stateRevision := decoded.record.stateRevision
  batchId := part.batchId
  partCount := part.partCount
  totalFrameBytes := part.totalFrameBytes.toNat
  projectionRevision := part.projectionRevision
  appliedIntentSeq := part.appliedIntentSeq
  nextPartIndex := 0
  nextRecordId := decoded.metadata.recordId
  lastRecordId := decoded.metadata.recordId
  bytes := []

/-- The part is the one that the batch waits for. -/
def PendingViewportFrame.Expects (pending : PendingViewportFrame) (decoded : DecodedRecord μ)
    (part : ViewportFramePart)
    : Prop :=
  pending.protocolMinor = decoded.metadata.protocolMinor
  ∧ pending.schemaMinor = decoded.record.schemaMinor
  ∧ pending.terminalEpoch = decoded.record.terminalEpoch
  ∧ pending.throughOutputSeq = decoded.record.throughOutputSeq
  ∧ pending.stateRevision = decoded.record.stateRevision
  ∧ pending.batchId = part.batchId
  ∧ pending.partCount = part.partCount
  ∧ pending.totalFrameBytes = part.totalFrameBytes.toNat
  ∧ pending.projectionRevision = part.projectionRevision
  ∧ pending.appliedIntentSeq = part.appliedIntentSeq
  ∧ pending.nextPartIndex = part.partIndex
  ∧ pending.nextRecordId = decoded.metadata.recordId

instance (pending : PendingViewportFrame) (decoded : DecodedRecord μ)
    (part : ViewportFramePart)
    : Decidable (pending.Expects decoded part) :=
  inferInstanceAs (Decidable (_ ∧ _))

namespace ViewportFrameAssembler

/-- Nothing was installed yet, or this progress was. -/
def initial (installed : Option ViewportFrameProgress) : ViewportFrameAssembler :=
  ⟨none, installed⟩

def resync (assembler : ViewportFrameAssembler) (reason : String)
    : ViewportFrameAssembly μ × ViewportFrameAssembler :=
  (.resyncRequired reason, { assembler with pending := none })

/-- Every part has arrived. -/
def finish (wire : Wire μ) (assembler : ViewportFrameAssembler)
    (pending : PendingViewportFrame)
    : ViewportFrameAssembly μ × ViewportFrameAssembler :=
  if pending.bytes.length ≠ pending.totalFrameBytes then
    assembler.resync "viewport frame parts do not match declared total"
  else
    match wire.decodeFrame pending.bytes with
    | none => assembler.resync "reassembled viewport frame protobuf is invalid"
    | some frame =>
      match validateViewportFrame viewportFrameProtocolMinor.toUInt32 frame with
      | .error _ => assembler.resync "reassembled viewport frame is semantically invalid"
      | .ok _ =>
        if frame.projectionRevision ≠ pending.projectionRevision
            ∨ frame.appliedIntentSeq ≠ pending.appliedIntentSeq then
          assembler.resync "reassembled viewport frame disagrees with part fences"
        else
          (.complete
            {
              metadata := ⟨viewportFrameProtocolMinor, pending.lastRecordId, .viewportFrame⟩
              record :=
                {
                  schemaMinor := viewportFrameProtocolMinor.toUInt32
                  terminalEpoch := pending.terminalEpoch
                  throughOutputSeq := pending.throughOutputSeq
                  stateRevision := pending.stateRevision
                  body := some (.viewportFrame frame)
                }
            },
            { assembler with pending := none })

/-- Add a part to the batch that it is checked against. -/
def extend (wire : Wire μ) (assembler : ViewportFrameAssembler)
    (pending : PendingViewportFrame) (decoded : DecodedRecord μ) (part : ViewportFramePart)
    : ViewportFrameAssembly μ × ViewportFrameAssembler :=
  if ¬pending.Expects decoded part then
    assembler.resync "viewport frame part is duplicate, reordered, or replaced"
  else if pending.bytes.length + part.frameChunk.length > pending.totalFrameBytes then
    assembler.resync "viewport frame parts exceed declared total"
  else
    let extended : PendingViewportFrame :=
      { pending with
        bytes := pending.bytes ++ part.frameChunk
        nextPartIndex := pending.nextPartIndex + 1
        lastRecordId := decoded.metadata.recordId }
    if extended.nextPartIndex < extended.partCount then
      if pending.nextRecordId.toNat + 1 ≥ UInt64.size then
        assembler.resync "viewport frame record id sequence is exhausted"
      else
        (.pending,
          { assembler with
            pending := some { extended with nextRecordId := pending.nextRecordId + 1 } })
    else
      assembler.finish wire extended

/-- Why the first part of a batch is refused. -/
def refusal (assembler : ViewportFrameAssembler) (record : TerminalStateRecord μ)
    (part : ViewportFramePart)
    : Option String :=
  if part.partIndex ≠ 0 then
    some "viewport frame first part is missing"
  else
    match assembler.installed with
    | none => none
    | some installed =>
      if installed.terminalEpoch ≠ record.terminalEpoch then
        some "viewport frame terminal epoch changed"
      else if part.projectionRevision ≤ installed.projectionRevision
          ∨ record.stateRevision < installed.stateRevision
          ∨ record.throughOutputSeq < installed.throughOutputSeq
          ∨ part.appliedIntentSeq < installed.appliedIntentSeq then
        some "viewport frame part is duplicate or stale"
      else
        none

/-- The checks that a part has to pass whatever is pending. -/
def partValid (wire : Wire μ) (decoded : DecodedRecord μ) : Prop :=
  decoded.metadata.recordId ≠ 0
  ∧ decoded.metadata.protocolMinor ≤ protocolMinor
  ∧ decoded.record.schemaMinor ≤ decoded.metadata.protocolMinor.toUInt32
  ∧ decoded.metadata.kind = .viewportFramePart
  ∧ validateRecord wire decoded.record = .ok ()

instance (wire : Wire μ) (decoded : DecodedRecord μ) : Decidable (partValid wire decoded) :=
  inferInstanceAs (Decidable (_ ∧ _))

def pushPart (wire : Wire μ) (assembler : ViewportFrameAssembler) (decoded : DecodedRecord μ)
    (part : ViewportFramePart)
    : ViewportFrameAssembly μ × ViewportFrameAssembler :=
  if ¬partValid wire decoded then
    assembler.resync "viewport frame part is invalid"
  else
    match assembler.pending with
    | some pending => assembler.extend wire pending decoded part
    | none =>
      match assembler.refusal decoded.record part with
      | some reason => assembler.resync reason
      | none => assembler.extend wire (.start decoded part) decoded part

/-- Accepts one ordered downstream record. -/
def pushDownstream (wire : Wire μ) (assembler : ViewportFrameAssembler)
    (decoded : DecodedRecord μ)
    : ViewportFrameAssembly μ × ViewportFrameAssembler :=
  match decoded.record.body with
  | some (.inputIntent _) | some (.historyRequest _) | some (.viewportIntent _) =>
    assembler.resync "upstream input is invalid downstream"
  | some (.viewportFramePart part) => assembler.pushPart wire decoded part
  | _ =>
    if assembler.pending.isSome then
      assembler.resync "viewport frame batch interrupted by another record"
    else
      (.downstream decoded, assembler)

def setInstalled (installed : ViewportFrameProgress) : ViewportFrameAssembler :=
  ⟨none, some installed⟩

/-- What is done to an assembler. -/
inductive Input (μ : Type) where
  | push (decoded : DecodedRecord μ)
  | setInstalled (installed : ViewportFrameProgress)
  | discardIncomplete

/-- Only a pushed record is answered with an assembly. -/
def machine (wire : Wire μ)
    : Machine ViewportFrameAssembler (Input μ) (Option (ViewportFrameAssembly μ)) where
  step assembler input :=
    match input with
    | .push decoded =>
      let (assembly, next) := assembler.pushDownstream wire decoded
      (some assembly, next)
    | .setInstalled installed => (none, setInstalled installed)
    | .discardIncomplete => (none, { assembler with pending := none })

end ViewportFrameAssembler

end Dure.TerminalState
