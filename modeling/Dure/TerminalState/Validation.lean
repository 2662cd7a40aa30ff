import Dure.Library.Checks
import Dure.TerminalState.Records

/-! The checks of viewport frames, of their parts and of records. -/

namespace Dure.TerminalState

open Library.Check

def protocolMinor : UInt8 := 6
def maxPayloadBytes : Nat := 1024 * 1024
def maxViewportFrameBytes : Nat := 4 * 1024 * 1024
def maxViewportFrameParts : Nat := 32

/-- The largest revision but one: the last is kept for the change of the epoch. -/
def maxStateRevision : UInt64 := 0xfffffffffffffffe

def maxTerminalEpochBytes : Nat := 128
def maxBatchIdBytes : Nat := 64
def maxColumns : Nat := 1024
def maxGridRows : Nat := 512
def maxTableEntries : Nat := 65536
def maxGraphemeBytes : Nat := 1024
def maxUriBytes : Nat := 4096
def maxEventTextBytes : Nat := 4096
def maxRgb : UInt32 := 0x00ffffff

def validateText (value : String) (minimum maximum : Nat) (reason : String)
    : Except ProtocolError Unit :=
  rejectIf (value.utf8ByteSize < minimum ∨ value.utf8ByteSize > maximum)
    (invalidRecord reason)

def validateBytes (value : List UInt8) (minimum maximum : Nat) (reason : String)
    : Except ProtocolError Unit :=
  rejectIf (value.length < minimum ∨ value.length > maximum) (invalidRecord reason)

def validateGeometry (columns rows : UInt32) : Except ProtocolError Unit :=
  rejectIf
    (columns = 0 ∨ columns.toNat > maxColumns ∨ rows = 0 ∨ rows.toNat > maxGridRows)
    (invalidRecord "terminal geometry is outside caps")

def validateBufferId (value : Int32) : Except ProtocolError Unit :=
  rejectIf (value ≠ BufferId.normal.asI32 ∧ value ≠ BufferId.alternate.asI32)
    (invalidRecord "buffer id is invalid")

/-- A message field that has to be there. -/
def required {α : Type} (field : Option α) (reason : String) : Except ProtocolError α :=
  match field with
  | some value => pure value
  | none => throw (invalidRecord reason)

def validateTableLengths (graphemes styles hyperlinks : Nat) : Except ProtocolError Unit :=
  rejectIf
    (graphemes > maxTableEntries ∨ styles > maxTableEntries ∨ hyperlinks > maxTableEntries)
    (invalidRecord "terminal table exceeds entry cap")

def validateGrapheme (grapheme : Grapheme) : Except ProtocolError Unit := do
  validateText grapheme.text 0 maxGraphemeBytes "grapheme is oversized"
  rejectIf (grapheme.displayWidth > 2) (invalidRecord "grapheme width exceeds two cells")

def validateColor (color : TerminalColor) : Except ProtocolError Unit := do
  rejectIf (ColorKind.tryFrom color.kind = some .rgb ∧ color.value > maxRgb)
    (invalidRecord "RGB color exceeds 24 bits")
  rejectIf (ColorKind.tryFrom color.kind = some .palette ∧ color.value > 255)
    (invalidRecord "palette color index exceeds 255")
  rejectIf
    (ColorKind.tryFrom color.kind = none ∨ ColorKind.tryFrom color.kind = some .unspecified)
    (invalidRecord "unknown color kind")

def validateStyle (style : CellStyle) (hyperlinkCount : Nat) : Except ProtocolError Unit := do
  rejectIf (style.hyperlinkIndex.toNat > hyperlinkCount)
    (invalidRecord "style hyperlink index is invalid")
  rejectIf (style.flags > 0x1ff)
    (invalidRecord "style decoration flags contain unknown bits")
  rejectIf
    (UnderlineKind.tryFrom style.underline = none
      ∨ UnderlineKind.tryFrom style.underline = some .unspecified)
    (invalidRecord "underline kind is invalid")
  each validateColor
    ([style.foreground, style.background, style.underlineColor].filterMap id)

def validateHyperlink (hyperlink : Hyperlink) : Except ProtocolError Unit := do
  validateText hyperlink.uri 1 maxUriBytes "hyperlink URI is empty or oversized"
  validateText hyperlink.params 0 maxEventTextBytes "hyperlink params are oversized"

def validateTables (tables : TerminalTables) : Except ProtocolError Unit := do
  rejectIf (tables.graphemes = [] ∨ tables.styles = [])
    (invalidRecord "grapheme and style tables must be nonempty")
  validateTableLengths tables.graphemes.length tables.styles.length tables.hyperlinks.length
  each validateGrapheme tables.graphemes
  each (fun style => validateStyle style tables.hyperlinks.length) tables.styles
  each validateHyperlink tables.hyperlinks

def validateRowBounds (row : TerminalRow) (columns : Nat) (schemaMinor : UInt32)
    : Except ProtocolError Unit := do
  rejectIf (row.rowId = 0) (invalidRecord "row id must be nonzero")
  rejectIf (row.cells.length > columns) (invalidRecord "row has too many cells")
  rejectIf (schemaMinor ≥ 2 ∧ row.logicalCellSpan.toNat > columns)
    (invalidRecord "logical cell span exceeds the grid")
  rejectIf (row.logicalLineId = 0) (invalidRecord "logical line id must be nonzero")
  rejectIf (row.continuesFromPrevious ≠ decide (row.logicalCellOffset > 0))
    (invalidRecord "logical continuation and cell offset disagree")
  rejectIf
    (RowTermination.tryFrom row.termination = none
      ∨ RowTermination.tryFrom row.termination = some .unspecified)
    (invalidRecord "row termination is invalid")
  rejectIf
    (∃ cell ∈ row.cells, cell.graphemeIndex.toNat ≥ maxTableEntries
      ∨ cell.styleIndex.toNat ≥ maxTableEntries)
    (invalidRecord "row table index exceeds entry cap")

/-- The columns that the cells take up. -/
def displayColumns (tables : TerminalTables) (cells : List TerminalCell)
    : Except ProtocolError Nat :=
  cells.foldlM
    (fun columns cell => do
      let grapheme ← required (tables.graphemes[cell.graphemeIndex.toNat]?)
        "cell grapheme index is invalid"
      rejectIf (cell.styleIndex.toNat ≥ tables.styles.length)
        (invalidRecord "cell style index is invalid")
      pure (columns + grapheme.displayWidth.toNat))
    0

def validateRow (row : TerminalRow) (columns : Nat) (tables : TerminalTables)
    (schemaMinor : UInt32)
    : Except ProtocolError Unit := do
  validateRowBounds row columns schemaMinor
  let shown ← displayColumns tables row.cells
  rejectIf (shown > columns) (invalidRecord "row display width exceeds grid")
  rejectIf (schemaMinor ≥ 2 ∧ shown ≠ row.logicalCellSpan.toNat)
    (invalidRecord "logical cell span does not match row cells")

/-- A row has to continue the logical line of the row before it, or to start another one. -/
def validateSuccessor (previous row : TerminalRow) (schemaMinor : UInt32)
    : Except ProtocolError Unit := do
  rejectIf (row.logicalLineId < previous.logicalLineId)
    (invalidRecord "logical line ids are out of order")
  if row.logicalLineId = previous.logicalLineId then
    rejectIf (RowTermination.tryFrom previous.termination ≠ some .softWrap)
      (invalidRecord "logical line segments are duplicated or discontinuous")
    if schemaMinor ≥ 2 then
      rejectIf
        (previous.logicalCellOffset.toNat + previous.logicalCellSpan.toNat
          ≠ row.logicalCellOffset.toNat)
        (invalidRecord "logical line segments are not contiguous")
    else
      rejectIf (row.logicalCellOffset ≤ previous.logicalCellOffset)
        (invalidRecord "logical line segments are duplicated or discontinuous")
  else
    rejectIf
      (RowTermination.tryFrom previous.termination = some .softWrap
        ∨ row.logicalCellOffset ≠ 0 ∨ row.continuesFromPrevious = true)
      (invalidRecord "logical line boundary is inconsistent")

def validateRowsAfter (columns : Nat) (tables : Option TerminalTables) (schemaMinor : UInt32)
    : List UInt64 → Option TerminalRow → List TerminalRow → Except ProtocolError Unit
  | _, _, [] => pure ()
  | physicalIds, previous, row :: rest => do
      rejectIf (row.rowId ∈ physicalIds) (invalidRecord "duplicate physical row id")
      match tables with
      | some tables => validateRow row columns tables schemaMinor
      | none => validateRowBounds row columns schemaMinor
      whenSome previous (fun previous => validateSuccessor previous row schemaMinor)
      validateRowsAfter columns tables schemaMinor (row.rowId :: physicalIds) (some row) rest

def validateRows (rows : List TerminalRow) (columns : Nat) (tables : Option TerminalTables)
    (schemaMinor : UInt32)
    : Except ProtocolError Unit :=
  validateRowsAfter columns tables schemaMinor [] none rows

def validateInputModes (modes : InputModes) : Except ProtocolError Unit :=
  rejectIf
    (MouseTrackingMode.tryFrom modes.mouseTracking = none
      ∨ MouseTrackingMode.tryFrom modes.mouseTracking = some .unspecified
      ∨ MouseEncoding.tryFrom modes.mouseEncoding = none
      ∨ MouseEncoding.tryFrom modes.mouseEncoding = some .unspecified)
    (invalidRecord "terminal input modes contain an invalid enum")

def validateUnicodeWidth (profile : UnicodeWidthProfile) : Except ProtocolError Unit := do
  validateText profile.unicodeVersion 1 32 "Unicode width version is empty or oversized"
  rejectIf
    (¬(1 ≤ profile.ambiguousWidth ∧ profile.ambiguousWidth ≤ 2)
      ∨ ¬(1 ≤ profile.emojiWidth ∧ profile.emojiWidth ≤ 2))
    (invalidRecord "Unicode width values must be one or two cells")

/-- Entries in strictly increasing order that pass `valid`. -/
def validateAscending {α : Type} (index : α → UInt32) (valid : α → Bool) (reason : String)
    : Option UInt32 → List α → Except ProtocolError Unit
  | _, [] => pure ()
  | previous, entry :: rest => do
      rejectIf (valid entry = false ∨ ∃ earlier ∈ previous, earlier ≥ index entry)
        (invalidRecord reason)
      validateAscending index valid reason (some (index entry)) rest

def validateColorOverrides (overrides : TerminalColorOverrides)
    : Except ProtocolError Unit := do
  each
    (fun rgb => rejectIf (rgb > maxRgb)
      (invalidRecord "viewport terminal color override is invalid"))
    ([overrides.defaultForegroundRgb, overrides.defaultBackgroundRgb,
      overrides.cursorRgb].filterMap id)
  validateAscending IndexedColorOverride.index
    (fun entry => entry.index ≤ 255 ∧ entry.rgb ≤ maxRgb)
    "viewport indexed color overrides are invalid or unordered" none overrides.indexed

/-- The anchor outcomes that go with following the tail or not. -/
def ViewportAnchorStatus.fits (followTail : Bool) : ViewportAnchorStatus → Bool
  | .followTail | .clampedTail | .prunedToTail => followTail
  | .anchored => !followTail
  | .clampedStart => true
  | .unspecified => false

def validateViewportCursor (frame : ViewportFrame) (tables : TerminalTables)
    (cursor : CursorState)
    : Except ProtocolError Unit :=
  rejectIf
    (cursor.row.toNat ≥ frame.rows.length ∨ cursor.column ≥ frame.canonicalColumns
      ∨ cursor.styleIndex.toNat ≥ tables.styles.length
      ∨ CursorShape.tryFrom cursor.shape = none
      ∨ CursorShape.tryFrom cursor.shape = some .unspecified)
    (invalidRecord "viewport-relative cursor is invalid")

def validateViewportFrame (schemaMinor : UInt32) (frame : ViewportFrame)
    : Except ProtocolError Unit := do
  rejectIf (frame.projectionRevision = 0 ∨ frame.projectionRevision > maxStateRevision)
    (invalidRecord "viewport projection revision is invalid")
  rejectIf
    (frame.damageBaseProjectionRevision ≥ frame.projectionRevision
      ∧ frame.damageBaseProjectionRevision ≠ 0)
    (invalidRecord "viewport damage base must precede its projection revision")
  rejectIf (frame.appliedIntentSeq > maxStateRevision)
    (invalidRecord "viewport applied intent sequence is invalid")
  let anchorStatus ← required (ViewportAnchorStatus.tryFrom frame.anchorStatus)
    "viewport anchor status is invalid"
  rejectIf (anchorStatus = .unspecified) (invalidRecord "viewport anchor status is required")
  validateGeometry frame.canonicalColumns frame.viewportRows
  validateBufferId frame.activeBuffer
  rejectIf (frame.rows = [] ∨ frame.rows.length > frame.viewportRows.toNat)
    (invalidRecord "viewport frame row count is outside its requested height")
  let tables ← required frame.tables "viewport frame-local tables are required"
  validateTables tables
  validateRows frame.rows frame.canonicalColumns.toNat (some tables) schemaMinor
  whenSome frame.cursor (validateViewportCursor frame tables)
  let inputModes ← required frame.inputModes "viewport input modes are required"
  validateInputModes inputModes
  let colorOverrides ← required frame.colorOverrides
    "viewport terminal color overrides are required"
  validateColorOverrides colorOverrides
  let unicodeWidth ← required frame.unicodeWidth "viewport Unicode width profile is required"
  validateUnicodeWidth unicodeWidth
  validateText frame.title 0 maxEventTextBytes "viewport title is oversized"
  validateText frame.workingDirectoryUri 0 maxUriBytes
    "viewport working directory URI is oversized"
  rejectIf (frame.followTail = true ∧ frame.hasMoreAfter = true)
    (invalidRecord "follow-tail viewport cannot have rows after it")
  rejectIf (∃ timing ∈ frame.inputOutputTiming, timing.inputRecordId = 0)
    (invalidRecord "viewport input/output timing record ID is missing")
  rejectIf
    (∃ timing ∈ frame.inputOutputTiming,
      timing.firstOutputSequence ≤ timing.inputBaselineOutputSequence)
    (invalidRecord "viewport input/output timing sequences are invalid")
  rejectIf
    (anchorStatus.fits frame.followTail = false
      ∨ frame.followTail = true ∧ frame.rowsFromTail ≠ some 0
      ∨ frame.followTail = false ∧ frame.rowsFromTail = some 0)
    (invalidRecord "viewport anchor outcome and tail position disagree")
  validateAscending id (fun index => index.toNat < frame.rows.length)
    "viewport changed rows are invalid or unordered" none frame.changedRowIndices

def validateViewportFramePart (schemaMinor : UInt32) (part : ViewportFramePart)
    : Except ProtocolError Unit := do
  rejectIf (schemaMinor < 5) (invalidRecord "viewport frame parts require schema minor 5")
  validateBytes part.batchId 1 maxBatchIdBytes "viewport frame batch id is empty or oversized"
  rejectIf
    (part.partCount = 0 ∨ part.partCount.toNat > maxViewportFrameParts
      ∨ part.partIndex ≥ part.partCount)
    (invalidRecord "viewport frame part index or count is invalid")
  rejectIf (part.totalFrameBytes = 0 ∨ part.totalFrameBytes.toNat > maxViewportFrameBytes)
    (invalidRecord "viewport frame batch total is outside caps")
  validateBytes part.frameChunk 1 maxPayloadBytes "viewport frame chunk is empty or oversized"
  rejectIf (part.frameChunk.length > part.totalFrameBytes.toNat)
    (invalidRecord "viewport frame chunk exceeds its declared total")
  rejectIf (part.projectionRevision = 0 ∨ part.projectionRevision > maxStateRevision)
    (invalidRecord "viewport frame part projection revision is invalid")
  rejectIf (part.appliedIntentSeq > maxStateRevision)
    (invalidRecord "viewport frame part intent sequence is invalid")

def Body.kind {μ : Type} : Body μ → RecordKind
  | .snapshot _ => .snapshot
  | .mutation _ => .mutation
  | .historyPage _ => .historyPage
  | .event _ => .event
  | .inputIntent _ => .inputIntent
  | .snapshotPart _ => .snapshotPart
  | .historyRequest _ => .historyRequest
  | .viewportFrame _ => .viewportFrame
  | .viewportIntent _ => .viewportIntent
  | .inputReceipt _ => .inputReceipt
  | .resizeReceipt _ => .resizeReceipt
  | .viewportFramePart _ => .viewportFramePart
  | .wheelReceipt _ => .wheelReceipt

variable {μ : Type}

def recordKind (record : TerminalStateRecord μ) : Except ProtocolError RecordKind := do
  let body ← required record.body "record body is required"
  pure body.kind

/-- The input whose output a frame shows was answered by output that the record covers. -/
def ViewportFrame.TimingWithin (frame : ViewportFrame) (throughOutputSeq : UInt64) : Prop :=
  ∀ timing ∈ frame.inputOutputTiming, timing.firstOutputSequence ≤ throughOutputSeq

instance (frame : ViewportFrame) (throughOutputSeq : UInt64)
    : Decidable (frame.TimingWithin throughOutputSeq) :=
  inferInstanceAs (Decidable (∀ timing ∈ frame.inputOutputTiming, _))

def validateBody (wire : Wire μ) (record : TerminalStateRecord μ)
    : Body μ → Except ProtocolError Unit
  | .viewportFrame frame => do
      validateViewportFrame record.schemaMinor frame
      rejectIf
        (∃ timing ∈ frame.inputOutputTiming,
          timing.firstOutputSequence > record.throughOutputSeq)
        (invalidRecord "viewport input/output timing exceeds its output high-water")
  | .viewportFramePart part => validateViewportFramePart record.schemaMinor part
  | .snapshot message => validateMessage .snapshot message
  | .mutation message => validateMessage .mutation message
  | .historyPage message => validateMessage .historyPage message
  | .event message => validateMessage .event message
  | .inputIntent message => validateMessage .inputIntent message
  | .snapshotPart message => validateMessage .snapshotPart message
  | .historyRequest message => validateMessage .historyRequest message
  | .viewportIntent message => validateMessage .viewportIntent message
  | .inputReceipt message => validateMessage .inputReceipt message
  | .resizeReceipt message => validateMessage .resizeReceipt message
  | .wheelReceipt message => validateMessage .wheelReceipt message
where
  validateMessage (kind : RecordKind) (message : μ) : Except ProtocolError Unit :=
    wire.validateMessage kind record.schemaMinor record.throughOutputSeq record.stateRevision
      message

def validateRecord (wire : Wire μ) (record : TerminalStateRecord μ)
    : Except ProtocolError Unit := do
  rejectIf (record.schemaMinor > protocolMinor.toUInt32)
    (invalidRecord "unsupported schema minor")
  validateText record.terminalEpoch 1 maxTerminalEpochBytes
    "terminal epoch is empty or oversized"
  rejectIf (record.stateRevision = 0) (invalidRecord "state revision must be nonzero")
  rejectIf (record.stateRevision > maxStateRevision)
    (invalidRecord "state revision is exhausted; roll terminal epoch")
  let body ← required record.body "record body is required"
  validateBody wire record body

end Dure.TerminalState
