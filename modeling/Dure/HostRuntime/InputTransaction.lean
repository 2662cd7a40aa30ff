import Dure.HostRuntime.SubmitScanner
import Dure.Library.Machine

/-! One serialized input frame on its way to the PTY: the admission before its first byte,
the nonblocking writes, and what the host records of the bytes that were accepted.
-/

namespace Dure.HostRuntime

inductive OperationReceiptReason where
  | hostExiting
  | ptyWriteFailed
  | unsubmittedDraft
  | agentRuntimeChanged
  | refused (reason : String)
  deriving DecidableEq, Repr

inductive InputTransactionOutcome where
  | written
  | notWritten (reason : OperationReceiptReason)
  | failed (reason : OperationReceiptReason)
  deriving DecidableEq, Repr

/-- `InputAdmission`; the waits bound the caller's own loop. -/
inductive InputAdmission (Target : Type) where
  | ordinary
  | agentPrompt (target : Target) (wait : Nat)
  | draftGuarded (wait : Nat)

inductive DraftFold where
  | bytes
  | edit (edit : ControllerDraftEdit)
  | interruptRequest
  | writeOnly
  deriving DecidableEq, Repr

inductive ControllerInputEffect where
  | draftCapable
  | erasesCharacter
  | editsDraft
  | nonInsertingKey
  | requestsInterrupt
  | controlOnly
  deriving DecidableEq, Repr

def ControllerInputEffect.draftFold : ControllerInputEffect → DraftFold
  | .draftCapable => .bytes
  | .erasesCharacter => .edit (.erased 1)
  | .editsDraft => .edit .editedUncounted
  | .requestsInterrupt => .interruptRequest
  | .nonInsertingKey | .controlOnly => .writeOnly

/-- What terminals send for keys that cannot insert text, behind the Escape byte: `CSI` and
`SS3` sequences, with their folds. -/
def nonInsertingKeyChunks : List (List UInt8 × DraftFold) :=
  let leftOrHome : DraftFold := .edit .editedUncounted
  let csi (rest : List UInt8) : List UInt8 := escape :: 0x5b :: rest
  let ss3 (last : UInt8) : List UInt8 := [escape, 0x4f, last]
  [([escape], .interruptRequest), (csi [0x5a], .writeOnly), (csi [0x44], leftOrHome),
    (ss3 0x44, leftOrHome), (csi [0x48], leftOrHome), (ss3 0x48, leftOrHome),
    (csi [0x31, 0x7e], leftOrHome), (csi [0x43], .writeOnly), (ss3 0x43, .writeOnly),
    (csi [0x46], .writeOnly), (ss3 0x46, .writeOnly), (csi [0x34, 0x7e], .writeOnly),
    ([0x7f], .edit (.erased 1)), ([0x08], .edit (.erased 1)), (csi [0x32, 0x7e], .writeOnly),
    (csi [0x33, 0x7e], .writeOnly), ([0x03], .writeOnly)]
    -- F1-F12
    ++ [0x50, 0x51, 0x52, 0x53].map (fun last => (ss3 last, .writeOnly))
    ++ [(0x31, 0x31), (0x31, 0x32), (0x31, 0x33), (0x31, 0x34), (0x31, 0x35), (0x31, 0x37),
        (0x31, 0x38), (0x31, 0x39), (0x32, 0x30), (0x32, 0x31), (0x32, 0x33), (0x32, 0x34)].map
      (fun (first, second) => (csi [first, second, 0x7e], .writeOnly))

def SubmitScanner.nonInsertingKeyFold (scanner : SubmitScanner) (bytes : List UInt8)
    : Option DraftFold :=
  if scanner.inBracketedPaste then none
  else (nonInsertingKeyChunks.find? (fun chunk => chunk.1 == bytes)).map Prod.snd

/-- `io::Result<usize>` of one nonblocking write. -/
inductive WriteResult where
  | ok (count : Nat)
  | wouldBlock
  | interrupted
  | error
  deriving DecidableEq, Repr

structure PtyWriteOutcome where
  bytesWritten : Nat
  outcome : Except OperationReceiptReason Unit
  pending : Bool

namespace PtyWriteOutcome

def fromProgress (expectedBytes bytesWritten : Nat)
    (outcome : Except OperationReceiptReason Unit) : PtyWriteOutcome where
  bytesWritten := min bytesWritten expectedBytes
  outcome :=
    match outcome with
    | .ok () => if bytesWritten = expectedBytes then .ok () else .error .ptyWriteFailed
    | .error reason => .error reason
  pending := false

def nonblocking (expected : Nat) : WriteResult → PtyWriteOutcome
  | .ok count =>
    if 0 < count ∧ count < expected then ⟨count, .ok (), true⟩
    else if count = expected then fromProgress expected count (.ok ())
    else fromProgress expected count (.error .ptyWriteFailed)
  | .wouldBlock | .interrupted => ⟨0, .ok (), true⟩
  | .error => fromProgress expected 0 (.error .ptyWriteFailed)

end PtyWriteOutcome

/-- What the host records of an accepted write. -/
inductive HostRecord where
  | write
  | draftEdit (edit : ControllerDraftEdit)
  | interruptRequest
  | submit
  deriving DecidableEq, Repr

/-- The host as the transaction uses it: any state, errors and answers. -/
structure HostInterface (σ ε Target Projection : Type) where
  hasUnsubmittedControllerDraft : σ → Except ε Bool
  prepareAgentPrompt : σ → Target → Except ε (Option Nat) × σ
  agentPromptRefusal : σ → Target → OperationReceiptReason → OperationReceiptReason
  record : σ → HostRecord → Except ε (Option Projection) × σ

/-- What happened during the attempts, in order; a record says whether it succeeded. -/
inductive InputEvent (Target : Type) where
  | draftChecked
  | promptPrepared (target : Target)
  | wrote (slice : List UInt8) (result : WriteResult)
  | recorded (record : HostRecord) (succeeded : Bool)
  deriving DecidableEq

structure InputTransaction (Projection : Type) where
  outcome : InputTransactionOutcome
  runtimeState : Option Projection
  admittedAgentRuntimeRevision : Option Nat

/-- `InputTransactionFailure` by its phase. -/
inductive InputTransactionFailure (ε : Type) where
  | beforeWrite (source : ε)
  | afterWrite (source : ε)

inductive InputStep (Projection : Type) where
  | pending (runtimeState : Option Projection)
  | complete (transaction : InputTransaction Projection)

structure PreparedInput (Target : Type) where
  encoded : List UInt8
  written : Nat := 0
  effect : ControllerInputEffect
  admission : InputAdmission Target
  admittedRevision : Option Nat := none

/-- The host and the scanner that an attempt works on, with what happened so far. -/
structure InputSession (σ Target : Type) where
  host : σ
  scanner : SubmitScanner
  events : List (InputEvent Target)

section

variable {σ ε Target Projection : Type} (host : HostInterface σ ε Target Projection)

/-- One record of the host. -/
def performRecord (session : InputSession σ Target) (record : HostRecord)
    : Except ε (Option Projection) × InputSession σ Target :=
  let (answer, after) := host.record session.host record
  (answer,
    { session with
      host := after
      events := session.events ++ [.recorded record answer.toOption.isSome] })

/-- Records in order up to the first that fails. -/
def performRecords : InputSession σ Target → List HostRecord
    → Except ε Unit × InputSession σ Target
  | session, [] => (.ok (), session)
  | session, record :: rest =>
    match performRecord host session record with
    | (.error error, after) => (.error error, after)
    | (.ok _, after) => performRecords after rest

/-- The records of one keypress. -/
def DraftFold.record : DraftFold → HostRecord
  | .edit change => .draftEdit change
  | .interruptRequest => .interruptRequest
  | .bytes | .writeOnly => .write

/-- A record that tells the client nothing. -/
def performQuietly (session : InputSession σ Target) (record : HostRecord)
    : Except ε (Option Projection) × InputSession σ Target :=
  let (answer, after) := performRecord host session record
  (answer.map (fun _ => none), after)

def foldWrittenInputPrefix (session : InputSession σ Target) (bytes : List UInt8)
    (continuesFrame completesFrame : Bool)
    : Except ε (Option Projection) × InputSession σ Target :=
  match if !continuesFrame && completesFrame then session.scanner.nonInsertingKeyFold bytes
    else none with
  | some fold => performQuietly host session fold.record
  | none =>
    let (scan, scanner) := session.scanner.observeChunk bytes continuesFrame
    let scanned := { session with scanner }
    match if scan.submitted then performRecord host scanned .submit
      else performQuietly host scanned .write with
    | (.error error, after) => (.error error, after)
    | (.ok runtimeState, after) =>
      let (answer, final) := performRecords host after (scan.edits.map .draftEdit)
      (answer.map (fun _ => runtimeState), final)

namespace PreparedInput

def failure (input : PreparedInput Target) (reason : OperationReceiptReason)
    : InputTransactionOutcome :=
  if input.written = 0 then .notWritten reason
  else .failed (if reason = .hostExiting then .ptyWriteFailed else reason)

/-- The draft guard and the prompt admission before the first byte: the revision to go on
with, or the end of the transaction. -/
def admitAttempt (input : PreparedInput Target) (session : InputSession σ Target)
    : Except (Except (InputTransactionFailure ε) (InputTransaction Projection)) (Option Nat)
      × InputSession σ Target :=
  let refuse (reason : OperationReceiptReason) :=
    (.error (.ok ⟨input.failure reason, none, none⟩))
  if input.written = 0 then
    match input.admission with
    | .ordinary => (.ok none, session)
    | .draftGuarded _ =>
      let checked := { session with events := session.events ++ [.draftChecked] }
      match host.hasUnsubmittedControllerDraft session.host with
      | .error error => (.error (.error (.beforeWrite error)), checked)
      | .ok true => (refuse .unsubmittedDraft, checked)
      | .ok false => (.ok none, checked)
    | .agentPrompt target _ =>
      let (answer, after) := host.prepareAgentPrompt session.host target
      let prepared :=
        { session with host := after, events := session.events ++ [.promptPrepared target] }
      match answer with
      | .error error => (.error (.error (.beforeWrite error)), prepared)
      | .ok none =>
        (refuse (host.agentPromptRefusal after target .agentRuntimeChanged), prepared)
      | .ok (some revision) => (.ok (some revision), prepared)
  else (.ok input.admittedRevision, session)

/-- What the host records of an accepted prefix of the frame. -/
def foldPrefix (input : PreparedInput Target) (session : InputSession σ Target) (start : Nat)
    (accepted : List UInt8) : Except ε (Option Projection) × InputSession σ Target :=
  if accepted.isEmpty then (.ok none, session)
  else
    match input.effect.draftFold with
    | .bytes =>
      foldWrittenInputPrefix host session accepted (0 < start)
        (start + accepted.length = input.encoded.length)
    | fold => performQuietly host session (if start = 0 then fold.record else .write)

def advance (input : PreparedInput Target) (session : InputSession σ Target)
    (write : List UInt8 → WriteResult)
    : Except (InputTransactionFailure ε) (InputStep Projection)
      × PreparedInput Target × InputSession σ Target :=
  match input.admitAttempt host session with
  | (.error ended, session) => (ended.map .complete, input, session)
  | (.ok preparedRevision, session) =>
    let slice := input.encoded.drop input.written
    let progress := PtyWriteOutcome.nonblocking slice.length (write slice)
    let start := input.written
    let accepted := slice.take progress.bytesWritten
    let after :=
      { input with
        written := start + progress.bytesWritten
        admittedRevision :=
          if accepted.isEmpty then input.admittedRevision else preparedRevision }
    let wrote := { session with events := session.events ++ [.wrote slice (write slice)] }
    match input.foldPrefix host wrote start accepted with
    | (.error error, session) => (.error (.afterWrite error), after, session)
    | (.ok runtimeState, session) =>
      if progress.pending then (.ok (.pending runtimeState), after, session)
      else
        let outcome :=
          match progress.outcome with
          | .ok () => .written
          | .error reason => after.failure reason
        (.ok (.complete ⟨outcome, runtimeState, after.admittedRevision⟩), after, session)

end PreparedInput

/-- One attempt: the host and the scanner as it finds them, and the PTY. -/
structure InputAttempt (σ : Type) where
  host : σ
  scanner : SubmitScanner
  write : List UInt8 → WriteResult

/-- An input on its way, with its end once it has one. -/
structure InputDelivery (ε Target Projection : Type) where
  input : PreparedInput Target
  events : List (InputEvent Target) := []
  ended : Option (Except (InputTransactionFailure ε) (InputTransaction Projection)) := none

/-- The attempts on one input; nothing happens after its end. -/
def deliveries : Library.Machine (InputDelivery ε Target Projection) (InputAttempt σ) Unit where
  step delivery attempt :=
    if delivery.ended.isSome then ((), delivery)
    else
      let (answer, input, session) := delivery.input.advance host
        ⟨attempt.host, attempt.scanner, delivery.events⟩ attempt.write
      let ended :=
        match answer with
        | .error failure => some (.error failure)
        | .ok (.complete transaction) => some (.ok transaction)
        | .ok (.pending _) => none
      ((), { input, events := session.events, ended })

end

end Dure.HostRuntime
