import Mathlib

/-! The messages of the terminal state protocol. A field that names an enumeration keeps the
number that was sent, as the generated code does.
-/

namespace Dure.TerminalState

inductive BufferId where
  | unspecified
  | normal
  | alternate
  deriving DecidableEq, Repr

def BufferId.asI32 : BufferId → Int32
  | .unspecified => 0
  | .normal => 1
  | .alternate => 2

inductive CursorShape where
  | unspecified
  | block
  | underline
  | bar
  deriving DecidableEq, Repr

def CursorShape.tryFrom (value : Int32) : Option CursorShape :=
  match value.toInt with
  | 0 => some .unspecified
  | 1 => some .block
  | 2 => some .underline
  | 3 => some .bar
  | _ => none

inductive RowTermination where
  | unspecified
  | none
  | softWrap
  | hardBreak
  deriving DecidableEq, Repr

def RowTermination.tryFrom (value : Int32) : Option RowTermination :=
  match value.toInt with
  | 0 => some .unspecified
  | 1 => some .none
  | 2 => some .softWrap
  | 3 => some .hardBreak
  | _ => Option.none

inductive ColorKind where
  | unspecified
  | default
  | palette
  | rgb
  deriving DecidableEq, Repr

def ColorKind.tryFrom (value : Int32) : Option ColorKind :=
  match value.toInt with
  | 0 => some .unspecified
  | 1 => some .default
  | 2 => some .palette
  | 3 => some .rgb
  | _ => none

inductive UnderlineKind where
  | unspecified
  | none
  | single
  | double
  | curly
  | dotted
  | dashed
  deriving DecidableEq, Repr

def UnderlineKind.tryFrom (value : Int32) : Option UnderlineKind :=
  match value.toInt with
  | 0 => some .unspecified
  | 1 => some .none
  | 2 => some .single
  | 3 => some .double
  | 4 => some .curly
  | 5 => some .dotted
  | 6 => some .dashed
  | _ => Option.none

inductive MouseTrackingMode where
  | unspecified
  | none
  | x10
  | button
  | any
  deriving DecidableEq, Repr

def MouseTrackingMode.tryFrom (value : Int32) : Option MouseTrackingMode :=
  match value.toInt with
  | 0 => some .unspecified
  | 1 => some .none
  | 2 => some .x10
  | 3 => some .button
  | 4 => some .any
  | _ => Option.none

inductive MouseEncoding where
  | unspecified
  | default
  | utf8
  | sgr
  | urxvt
  | pixelSgr
  deriving DecidableEq, Repr

def MouseEncoding.tryFrom (value : Int32) : Option MouseEncoding :=
  match value.toInt with
  | 0 => some .unspecified
  | 1 => some .default
  | 2 => some .utf8
  | 3 => some .sgr
  | 4 => some .urxvt
  | 5 => some .pixelSgr
  | _ => none

inductive ViewportAnchorStatus where
  | unspecified
  | followTail
  | anchored
  | clampedStart
  | clampedTail
  | prunedToTail
  deriving DecidableEq, Repr

def ViewportAnchorStatus.tryFrom (value : Int32) : Option ViewportAnchorStatus :=
  match value.toInt with
  | 0 => some .unspecified
  | 1 => some .followTail
  | 2 => some .anchored
  | 3 => some .clampedStart
  | 4 => some .clampedTail
  | 5 => some .prunedToTail
  | _ => none

structure TerminalCell where
  graphemeIndex : UInt32
  styleIndex : UInt32
  deriving DecidableEq, Repr

structure TerminalRow where
  rowId : UInt64
  continuesFromPrevious : Bool
  cells : List TerminalCell
  termination : Int32
  logicalLineId : UInt64
  logicalCellOffset : UInt32
  logicalCellSpan : UInt32
  deriving DecidableEq, Repr

structure Grapheme where
  text : String
  displayWidth : UInt32
  deriving DecidableEq, Repr

structure TerminalColor where
  kind : Int32
  value : UInt32
  deriving DecidableEq, Repr

structure CellStyle where
  foreground : Option TerminalColor
  background : Option TerminalColor
  underlineColor : Option TerminalColor
  flags : UInt64
  underline : Int32
  hyperlinkIndex : UInt32
  deriving DecidableEq, Repr

structure Hyperlink where
  uri : String
  params : String
  deriving DecidableEq, Repr

structure TerminalTables where
  graphemes : List Grapheme
  styles : List CellStyle
  hyperlinks : List Hyperlink
  deriving DecidableEq, Repr

structure CursorState where
  row : UInt32
  column : UInt32
  styleIndex : UInt32
  visible : Bool
  shape : Int32
  blinking : Bool
  wrapPending : Bool
  deriving DecidableEq, Repr

structure InputModes where
  applicationCursorKeys : Bool
  applicationKeypad : Bool
  bracketedPaste : Bool
  focusReporting : Bool
  mouseTracking : Int32
  mouseEncoding : Int32
  insert : Bool
  origin : Bool
  autoWrap : Bool
  newline : Bool
  reverseWraparound : Bool
  synchronizedOutput : Bool
  deriving DecidableEq, Repr

structure UnicodeWidthProfile where
  unicodeVersion : String
  ambiguousWidth : UInt32
  emojiWidth : UInt32
  deriving DecidableEq, Repr

structure IndexedColorOverride where
  index : UInt32
  rgb : UInt32
  deriving DecidableEq, Repr

structure TerminalColorOverrides where
  indexed : List IndexedColorOverride
  defaultForegroundRgb : Option UInt32
  defaultBackgroundRgb : Option UInt32
  cursorRgb : Option UInt32
  deriving DecidableEq, Repr

structure InputOutputTiming where
  inputBaselineOutputSequence : UInt64
  firstOutputSequence : UInt64
  inputToOutputMicros : UInt64
  outputToProjectionStartMicros : UInt64
  inputRecordId : UInt64
  deriving DecidableEq, Repr

/-- One complete replacement of what an attached surface shows. -/
structure ViewportFrame where
  projectionRevision : UInt64
  damageBaseProjectionRevision : UInt64
  canonicalColumns : UInt32
  viewportRows : UInt32
  activeBuffer : Int32
  rows : List TerminalRow
  tables : Option TerminalTables
  cursor : Option CursorState
  inputModes : Option InputModes
  colorOverrides : Option TerminalColorOverrides
  unicodeWidth : Option UnicodeWidthProfile
  throughEventId : UInt64
  title : String
  workingDirectoryUri : String
  followTail : Bool
  hasMoreBefore : Bool
  hasMoreAfter : Bool
  changedRowIndices : List UInt32
  appliedIntentSeq : UInt64
  anchorStatus : Int32
  rowsFromTail : Option UInt64
  inputOutputTiming : Option InputOutputTiming
  deriving DecidableEq, Repr

/-- One chunk of an encoded frame, with the fences that all chunks share. -/
structure ViewportFramePart where
  batchId : List UInt8
  partIndex : UInt32
  partCount : UInt32
  totalFrameBytes : UInt32
  frameChunk : List UInt8
  projectionRevision : UInt64
  appliedIntentSeq : UInt64
  deriving DecidableEq, Repr

inductive RecordKind where
  | snapshot
  | mutation
  | historyPage
  | event
  | inputIntent
  | snapshotPart
  | historyRequest
  | viewportFrame
  | viewportIntent
  | inputReceipt
  | resizeReceipt
  | viewportFramePart
  | wheelReceipt
  deriving DecidableEq, Repr

/-- What a record carries. `μ` stands for the messages that are neither frames nor their
parts; nothing here looks into them.
-/
inductive Body (μ : Type) where
  | snapshot (message : μ)
  | mutation (message : μ)
  | historyPage (message : μ)
  | event (message : μ)
  | inputIntent (message : μ)
  | snapshotPart (message : μ)
  | historyRequest (message : μ)
  | viewportFrame (frame : ViewportFrame)
  | viewportIntent (message : μ)
  | inputReceipt (message : μ)
  | resizeReceipt (message : μ)
  | viewportFramePart (part : ViewportFramePart)
  | wheelReceipt (message : μ)
  deriving DecidableEq, Repr

structure TerminalStateRecord (μ : Type) where
  schemaMinor : UInt32
  terminalEpoch : String
  throughOutputSeq : UInt64
  stateRevision : UInt64
  body : Option (Body μ)
  deriving DecidableEq, Repr

structure EnvelopeMetadata where
  protocolMinor : UInt8
  recordId : UInt64
  kind : RecordKind
  deriving DecidableEq, Repr

structure DecodedRecord (μ : Type) where
  metadata : EnvelopeMetadata
  record : TerminalStateRecord μ
  deriving DecidableEq, Repr

inductive ProtocolError where
  | frameTooLarge (actual maximum : Nat)
  | invalidEnvelope (reason : String)
  | decode (error : String)
  | invalidRecord (reason : String)
  deriving DecidableEq, Repr

def invalidRecord (reason : String) : ProtocolError := .invalidRecord reason

def invalidEnvelope (reason : String) : ProtocolError := .invalidEnvelope reason

/-- Protobuf, and the checks of the messages that are neither frames nor their parts. The
context of such a check is the schema minor, the output high-water and the state revision of
the record.
-/
structure Wire (μ : Type) where
  encodeRecord : TerminalStateRecord μ → List UInt8
  decodeRecord : List UInt8 → Except String (TerminalStateRecord μ)
  encodeFrame : ViewportFrame → List UInt8
  decodeFrame : List UInt8 → Option ViewportFrame
  validateMessage : RecordKind → UInt32 → UInt64 → UInt64 → μ → Except ProtocolError Unit

end Dure.TerminalState
