import Dure.Library.LittleEndian
import Dure.TerminalState.Validation

/-! Records in their binary envelopes: twenty bytes of header, then the protobuf payload. -/

namespace Dure.TerminalState

open Library Check LittleEndian

variable {μ : Type}

/-- The letters TSPB. -/
def envelopeMagic : List UInt8 := [0x54, 0x53, 0x50, 0x42]
def protocolMajor : UInt8 := 1
def envelopeHeaderBytes : Nat := 20
def maxEnvelopeBytes : Nat := envelopeHeaderBytes + maxPayloadBytes

def RecordKind.asU8 : RecordKind → UInt8
  | .snapshot => 1
  | .mutation => 2
  | .historyPage => 3
  | .event => 4
  | .inputIntent => 5
  | .snapshotPart => 6
  | .historyRequest => 7
  | .viewportFrame => 8
  | .viewportIntent => 9
  | .inputReceipt => 10
  | .resizeReceipt => 11
  | .viewportFramePart => 12
  | .wheelReceipt => 13

def RecordKind.tryFrom (value : UInt8) : Except ProtocolError RecordKind :=
  match value.toNat with
  | 1 => pure .snapshot
  | 2 => pure .mutation
  | 3 => pure .historyPage
  | 4 => pure .event
  | 5 => pure .inputIntent
  | 6 => pure .snapshotPart
  | 7 => pure .historyRequest
  | 8 => pure .viewportFrame
  | 9 => pure .viewportIntent
  | 10 => pure .inputReceipt
  | 11 => pure .resizeReceipt
  | 12 => pure .viewportFramePart
  | 13 => pure .wheelReceipt
  | _ => throw (invalidEnvelope "unknown record kind")

/-- The header of an envelope. -/
def envelopeHeader (negotiatedMinor : UInt8) (kind : RecordKind) (payloadLength : Nat)
    (recordId : UInt64)
    : List UInt8 :=
  envelopeMagic ++ [protocolMajor, negotiatedMinor, kind.asU8, 0]
    ++ LittleEndian.toBytes 4 payloadLength ++ LittleEndian.toBytes 8 recordId.toNat

def encodeRecordForMinor (wire : Wire μ) (negotiatedMinor : UInt8) (recordId : UInt64)
    (record : TerminalStateRecord μ)
    : Except ProtocolError (List UInt8) := do
  rejectIf (recordId = 0) (invalidEnvelope "record id must be nonzero")
  rejectIf (negotiatedMinor > protocolMinor) (invalidEnvelope "negotiated minor is unsupported")
  rejectIf (record.schemaMinor > negotiatedMinor.toUInt32)
    (invalidEnvelope "schema minor exceeds negotiated minor")
  validateRecord wire record
  let kind ← recordKind record
  let payload := wire.encodeRecord record
  rejectIf (payload.length > maxPayloadBytes) (.frameTooLarge payload.length maxPayloadBytes)
  pure (envelopeHeader negotiatedMinor kind payload.length recordId ++ payload)

def encodeRecord (wire : Wire μ) (recordId : UInt64) (record : TerminalStateRecord μ)
    : Except ProtocolError (List UInt8) := do
  rejectIf (record.schemaMinor.toNat > 255) (invalidEnvelope "schema minor is out of range")
  encodeRecordForMinor wire record.schemaMinor.toUInt8 recordId record

def decodeRecord (wire : Wire μ) (bytes : List UInt8)
    : Except ProtocolError (DecodedRecord μ) := do
  rejectIf (bytes.length > maxEnvelopeBytes) (.frameTooLarge bytes.length maxEnvelopeBytes)
  rejectIf (bytes.length < envelopeHeaderBytes) (invalidEnvelope "truncated header")
  rejectIf (bytes.take 4 ≠ envelopeMagic) (invalidEnvelope "wrong magic")
  rejectIf (bytes[4]? ≠ some protocolMajor) (invalidEnvelope "unsupported major version")
  let envelopeMinor := bytes.getD 5 0
  rejectIf (envelopeMinor > protocolMinor) (invalidEnvelope "unsupported minor version")
  rejectIf (bytes[7]? ≠ some 0) (invalidEnvelope "nonzero reserved flags")
  let kind ← RecordKind.tryFrom (bytes.getD 6 0)
  let payloadLength := LittleEndian.ofBytes ((bytes.drop 8).take 4)
  rejectIf (payloadLength > maxPayloadBytes) (.frameTooLarge payloadLength maxPayloadBytes)
  rejectIf (bytes.length ≠ envelopeHeaderBytes + payloadLength)
    (invalidEnvelope "payload length mismatch")
  let recordId := UInt64.ofNat (LittleEndian.ofBytes ((bytes.drop 12).take 8))
  rejectIf (recordId = 0) (invalidEnvelope "record id must be nonzero")
  let record ← (wire.decodeRecord (bytes.drop envelopeHeaderBytes)).mapError .decode
  validateRecord wire record
  let found ← recordKind record
  rejectIf (found ≠ kind) (invalidEnvelope "record kind does not match payload")
  rejectIf (record.schemaMinor > envelopeMinor.toUInt32)
    (invalidEnvelope "schema minor exceeds envelope minor")
  pure ⟨⟨envelopeMinor, recordId, kind⟩, record⟩

theorem RecordKind.tryFrom_asU8 (kind : RecordKind) : tryFrom kind.asU8 = .ok kind := by
  cases kind <;> rfl

/-- An envelope in the four parts that its reader looks at. -/
theorem envelopeHeader_parts (negotiatedMinor : UInt8) (kind : RecordKind)
    (payloadLength : Nat) (recordId : UInt64) (payload : List UInt8)
    : let bytes := envelopeHeader negotiatedMinor kind payloadLength recordId ++ payload
      bytes.take 4 = envelopeMagic
      ∧ bytes[4]? = some protocolMajor ∧ bytes.getD 5 0 = negotiatedMinor
      ∧ bytes.getD 6 0 = kind.asU8 ∧ bytes[7]? = some 0
      ∧ (bytes.drop 8).take 4 = toBytes 4 payloadLength
      ∧ (bytes.drop 12).take 8 = toBytes 8 recordId.toNat
      ∧ bytes.drop envelopeHeaderBytes = payload
      ∧ bytes.length = envelopeHeaderBytes + payload.length := by
  refine ⟨rfl, rfl, rfl, rfl, rfl, rfl, rfl, rfl, ?_⟩
  simp [envelopeHeader, envelopeMagic, envelopeHeaderBytes]
  omega

/-- A record that was encoded for its own minor is decoded again, if protobuf gives it
back.
-/
theorem decodeRecord_encodeRecord (encoded : encodeRecord wire recordId record = .ok bytes)
    (roundTrip : wire.decodeRecord (wire.encodeRecord record) = .ok record)
    : recordId ≠ 0 ∧ record.schemaMinor.toNat ≤ protocolMinor.toNat
      ∧ validateRecord wire record = .ok ()
      ∧ ∃ kind, recordKind record = .ok kind
        ∧ decodeRecord wire bytes
          = .ok ⟨⟨record.schemaMinor.toUInt8, recordId, kind⟩, record⟩ := by
  unfold encodeRecord encodeRecordForMinor at encoded
  simp only [↓seq_ok, bind_ok, rejectIf_ok, pure_ok, not_lt] at encoded
  obtain ⟨narrow, identified, supported, negotiated, valid, kind, known, fits, rfl⟩ := encoded
  obtain ⟨magic, major, minor, kinds, flags, lengths, identifiers, payload, size⟩ :=
    envelopeHeader_parts record.schemaMinor.toUInt8 kind
      (wire.encodeRecord record).length recordId (wire.encodeRecord record)
  have length : ofBytes (toBytes 4 (wire.encodeRecord record).length)
      = (wire.encodeRecord record).length :=
    ofBytes_toBytes (by unfold maxPayloadBytes at fits; omega)
  have identifier
      : UInt64.ofNat (ofBytes (toBytes 8 recordId.toNat))
        = recordId := by
    rw [ofBytes_toBytes recordId.toNat_lt, UInt64.ofNat_toNat]
  refine ⟨identified, ?_, valid, kind, known, ?_⟩
  · rw [gt_iff_lt, UInt8.lt_iff_toNat_lt, UInt32.toNat_toUInt8] at supported
    omega
  · unfold decodeRecord
    simp only [magic, major, minor, kinds, flags, lengths, identifiers, payload, size, length,
      identifier, ↓seq_ok, bind_ok, rejectIf_ok, pure_ok, mapError_ok, RecordKind.tryFrom_asU8]
    refine ⟨?_, ?_, by simp, by simp, supported, by simp, kind, rfl, by omega, by simp,
      identified, record, roundTrip, valid, kind, known, by simp, negotiated, rfl⟩
    · unfold maxEnvelopeBytes
      omega
    · omega

end Dure.TerminalState
