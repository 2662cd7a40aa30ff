import Dure.HubRelay.Threads

/-! How long a peer that has proved nothing keeps its thread: `serve_one` call by call, with
the time that each read and write of its socket takes.
-/

namespace Dure.HubRelay

open Library List

-- In milliseconds.
def registrationBudget : Nat := 15 * 1000
def controlWriteTimeout : Nat := 5 * 1000

def maxRelayFrameBytes : Nat := 8 * 1024

/-- The bodies of the frames as JSON, and how long those are that the relay writes. -/
structure FrameCodec where
  readHello : List UInt8 → Option RelayHello
  readProof : List UInt8 → Option RelayProof
  challengeLength : List UInt8 → Nat
  replyLength : Reply → Nat

/-- What a call on the socket answers. A read answers no bytes at the end of the stream. -/
inductive SocketAnswer where
  | bytes (chunk : List UInt8)
  | wrote (count : Nat)
  | interrupted
  | failed
  deriving DecidableEq, Repr

/-- One for an interrupted call, which the loops make again. -/
def SocketAnswer.interrupts : SocketAnswer → Nat
  | .interrupted => 1
  | _ => 0

/-- A call with the time until its answer, and what its thread draws and finds after it. -/
structure SocketCall where
  wait : Nat
  answer : SocketAnswer
  random : Option (List UInt8) := none
  relay : Relay

/-- The frame to be read, with what the thread knows by then. -/
inductive Expected where
  | hello
  | proof (serverId : String) (nonce : List UInt8)
  deriving DecidableEq, Repr

/-- Where the thread stands. It is `proven` once a registration holds or a phone has found
its machine; a written challenge is followed by the proof. -/
inductive Stage where
  | header (frame : Expected) (filled : List UInt8)
  | body (frame : Expected) (length : Nat) (filled : List UInt8)
  | write (left : Nat) (challenged : Option (String × List UInt8))
  | proven
  | ended
  deriving DecidableEq, Repr

/-- `write_frame`, up to its first write: a body that is empty or too long is not written. -/
def sends (length : Nat) (challenged : Option (String × List UInt8)) : Stage :=
  if length = 0 ∨ maxRelayFrameBytes < length then .ended else .write (4 + length) challenged

def receiveHello (codec : FrameCodec) (call : SocketCall) (payload : List UInt8) : Stage :=
  match codec.readHello payload with
  | none => .ended
  | some hello =>
    if hello.relayProtocolVersion ≠ relayProtocolVersion then
      sends (codec.replyLength (.rejected .unsupportedVersion)) none
    else
      match hello.role with
      | .hubControl =>
        match call.random with
        | none => .ended
        | some nonce => sends (codec.challengeLength nonce) (some (hello.serverId, nonce))
      -- The socket goes to the phone's thread, or nobody waits for it.
      | .hubData => .ended
      | .client =>
        if (call.relay.live.get? hello.serverId).isSome then
          .proven
        else
          let known := (call.relay.pins.get? hello.serverId).isSome
          sends (codec.replyLength (.unavailable (if known then .offline else .unknown))) none

def receiveProof (primitives : Primitives) (codec : FrameCodec) (call : SocketCall)
    (serverId : String) (nonce payload : List UInt8) : Stage :=
  match (codec.readProof payload).bind (verify primitives serverId nonce) with
  | none => .ended
  | some (.error reason) => sends (codec.replyLength (.rejected reason)) none
  | some (.ok verified) =>
    match call.relay.pins.get? serverId with
    | some pinned =>
      if pinned ≠ verified.fingerprint then
        sends (codec.replyLength (.rejected .fingerprintChanged)) none
      else
        .proven
    | none =>
      if call.relay.pinLimit ≤ call.relay.pins.entries.length then
        sends (codec.replyLength (.rejected .tooManyConnections)) none
      else
        .proven

/-- One turn of the loop of `fill`; nothing when it fails. -/
def fill (wanted : Nat) (filled : List UInt8) : SocketAnswer → Option (List UInt8)
  | .bytes chunk =>
    if chunk = [] then none else some (filled ++ chunk.take (wanted - filled.length))
  | .interrupted => some filled
  | _ => none

namespace Stage

def isWrite : Stage → Bool
  | .write _ _ => true
  | _ => false

/-- Each call waits anew for this long. -/
def timeout (stage : Stage) : Nat :=
  if stage.isWrite then controlWriteTimeout else registrationBudget

/-- What an answer in time leads to. -/
def advance (primitives : Primitives) (codec : FrameCodec) (call : SocketCall)
    : Stage → Stage
  | .header frame filled =>
    match fill 4 filled call.answer with
    | none => .ended
    | some filled =>
      let length := LittleEndian.ofBytes filled.reverse
      if filled.length < 4 then .header frame filled
      else if length = 0 ∨ maxRelayFrameBytes < length then .ended
      else .body frame length []
  | .body frame length filled =>
    match fill length filled call.answer with
    | none => .ended
    | some filled =>
      if filled.length < length then
        .body frame length filled
      else
        match frame with
        | .hello => receiveHello codec call filled
        | .proof serverId nonce => receiveProof primitives codec call serverId nonce filled
  | .write left challenged =>
    match call.answer with
    | .wrote count =>
      if count = 0 then .ended
      else if count < left then .write (left - count) challenged
      else
        match challenged with
        | none => .ended
        | some (serverId, nonce) => .header (.proof serverId nonce) []
    | .interrupted => .write left challenged
    | _ => .ended
  | stage => stage

def next (primitives : Primitives) (codec : FrameCodec) (call : SocketCall) (stage : Stage)
    : Stage :=
  if call.wait ≤ stage.timeout then stage.advance primitives codec call else .ended

end Stage

/-- A connection with the time its thread has spent in reads and in writes, and the calls. -/
structure Connection where
  stage : Stage := .header .hello []
  reading : Nat := 0
  writing : Nat := 0
  calls : Nat := 0
  interrupts : Nat := 0
  deriving DecidableEq, Repr

def SocketCall.took (call : SocketCall) (stage : Stage) : Nat := min call.wait stage.timeout

/-- `serve_one` from the accepted socket on, one call a step. -/
def serveCalls (primitives : Primitives) (codec : FrameCodec)
    : Machine Connection SocketCall Unit where
  step connection call :=
    ((),
      if connection.stage = .proven ∨ connection.stage = .ended then
        connection
      else
        let took := call.took connection.stage
        {
          stage := connection.stage.next primitives codec call
          reading := connection.reading + if connection.stage.isWrite then 0 else took
          writing := connection.writing + if connection.stage.isWrite then took else 0
          calls := connection.calls + 1
          interrupts := connection.interrupts + call.answer.interrupts
        })

/-- A read that ends before the budget of the whole connection does. -/
def InTime (connection : Connection) (call : SocketCall) : Prop :=
  connection.stage = .proven ∨ connection.stage = .ended ∨ connection.stage.isWrite = true
    ∨ connection.reading + call.took connection.stage ≤ registrationBudget

/-- A frame with its length. -/
def frameBytes : Nat := maxRelayFrameBytes + 4

/-- What may follow a frame: a challenge, a proof and a reply, or a reply alone. -/
def Expected.later : Expected → Nat
  | .hello => 3 * frameBytes
  | .proof _ _ => frameBytes

namespace Stage

/-- The stage is within the frame it handles. -/
def Fits : Stage → Prop
  | .header _ filled => filled.length < 4
  | .body _ length filled => filled.length < length ∧ length ≤ maxRelayFrameBytes
  | .write left _ => 0 < left ∧ left ≤ frameBytes
  | _ => True

/-- The bytes that may still be read and written. -/
def left : Stage → Nat
  | .header frame filled => frame.later + (frameBytes - filled.length)
  | .body frame length filled => frame.later + (length - filled.length)
  | .write left challenged => (if challenged.isSome then 2 * frameBytes else 0) + left
  | _ => 0

end Stage

theorem sends_fits (length : Nat) (challenged : Option (String × List UInt8))
    : (sends length challenged).Fits
      ∧ (sends length challenged).left
        ≤ (if challenged.isSome then 2 * frameBytes else 0) + frameBytes := by
  unfold sends
  by_cases refused : length = 0 ∨ maxRelayFrameBytes < length
  · rw [if_pos refused]
    exact ⟨trivial, Nat.zero_le _⟩
  · rw [if_neg refused]
    simp only [Stage.Fits, Stage.left, frameBytes]
    omega

theorem receiveHello_fits (codec : FrameCodec) (call : SocketCall) (payload : List UInt8)
    : (receiveHello codec call payload).Fits
      ∧ (receiveHello codec call payload).left ≤ Expected.hello.later := by
  have sent (length : Nat) (challenged : Option (String × List UInt8))
      : (sends length challenged).Fits
        ∧ (sends length challenged).left ≤ Expected.hello.later := by
    refine ⟨(sends_fits ..).1, (sends_fits ..).2.trans ?_⟩
    simp only [Expected.later]
    split <;> omega
  unfold receiveHello
  repeat' split
  all_goals first
    | exact ⟨trivial, Nat.zero_le _⟩
    | exact sent _ _

theorem receiveProof_fits (primitives : Primitives) (codec : FrameCodec) (call : SocketCall)
    (serverId : String) (nonce payload : List UInt8)
    : (receiveProof primitives codec call serverId nonce payload).Fits
      ∧ (receiveProof primitives codec call serverId nonce payload).left
        ≤ (Expected.proof serverId nonce).later := by
  have sent (length : Nat) := sends_fits length none
  unfold receiveProof
  repeat' split
  all_goals first
    | exact ⟨trivial, Nat.zero_le _⟩
    | simpa [Expected.later] using sent _

/-- A turn of `fill` that was not interrupted reads a byte or fails. -/
theorem fill_some (short : filled.length < wanted)
    (read : fill wanted filled answer = some full)
    : full.length ≤ wanted
      ∧ filled.length + 1 ≤ full.length + answer.interrupts := by
  cases answer with
  | bytes chunk =>
    simp only [fill] at read
    split_ifs at read with empty
    cases read
    have some : 0 < chunk.length := length_pos_iff.mpr empty
    simp only [length_append, length_take]
    omega
  | interrupted =>
    cases read
    exact ⟨short.le, le_rfl⟩
  | wrote count | failed => cases read

section

variable {stage : Stage} (fits : stage.Fits) (unproven : stage ≠ .proven)
  (running : stage ≠ .ended)

include fits unproven running

theorem Stage.left_pos : 0 < stage.left := by
  cases stage with
  | header frame filled =>
    have short : filled.length < 4 := fits
    simp only [left, frameBytes]
    omega
  | body frame length filled =>
    have short : filled.length < length := fits.1
    simp only [left]
    omega
  | write rest challenged => exact Nat.add_pos_right _ fits.1
  | proven => exact absurd rfl unproven
  | ended => exact absurd rfl running

/-- Every call but an interrupted one takes a byte off what is left. -/
theorem Stage.next_left (primitives : Primitives) (codec : FrameCodec) (call : SocketCall)
    : (stage.next primitives codec call).Fits
      ∧ (stage.next primitives codec call).left + 1
        ≤ stage.left + call.answer.interrupts := by
  have stops : Stage.ended.Fits
      ∧ Stage.ended.left + 1 ≤ stage.left + call.answer.interrupts :=
    ⟨trivial, Nat.le_add_right_of_le (left_pos fits unproven running)⟩
  unfold next
  by_cases inTime : call.wait ≤ stage.timeout
  swap
  · simpa only [if_neg inTime] using stops
  rw [if_pos inTime]
  cases stage with
  | header frame filled =>
    have short : filled.length < 4 := fits
    simp only [advance]
    cases read : fill 4 filled call.answer with
    | none => exact stops
    | some full =>
      have grown := fill_some short read
      by_cases more : full.length < 4
      · simp only [if_pos more]
        exact ⟨more, by simp only [left, frameBytes]; omega⟩
      · simp only [if_neg more]
        split_ifs with refused
        · exact stops
        · refine ⟨?_, ?_⟩
          · simp only [Fits, length_nil]
            omega
          · simp only [left, frameBytes, length_nil]
            omega
  | body frame length filled =>
    have short : filled.length < length := fits.1
    have start : (Stage.body frame length filled).left
        = frame.later + (length - filled.length) := rfl
    simp only [advance]
    cases read : fill length filled call.answer with
    | none => exact stops
    | some full =>
      have grown := fill_some short read
      by_cases more : full.length < length
      · simp only [if_pos more]
        exact ⟨⟨more, fits.2⟩, by simp only [left]; omega⟩
      · simp only [if_neg more]
        cases frame with
        | hello =>
          have received := receiveHello_fits codec call full
          refine ⟨received.1, ?_⟩
          dsimp only
          omega
        | proof serverId nonce =>
          have received := receiveProof_fits primitives codec call serverId nonce full
          refine ⟨received.1, ?_⟩
          dsimp only
          omega
  | write rest challenged =>
    have some : 0 < rest ∧ rest ≤ frameBytes := fits
    cases answered : call.answer with
    | wrote count =>
      simp only [advance, answered] at stops ⊢
      by_cases none : count = 0
      · simpa only [if_pos none] using stops
      · by_cases more : count < rest
        · simp only [if_neg none, if_pos more]
          exact ⟨by simp only [Fits]; omega, by simp only [left]; omega⟩
        · simp only [if_neg none, if_neg more]
          cases challenged with
          | none => exact stops
          | some challenge =>
            refine ⟨Nat.succ_pos 3, ?_⟩
            simp only [left, Expected.later, Option.isSome_some, if_true, length_nil]
            omega
    | bytes chunk | failed => simpa only [advance, answered] using stops
    | interrupted => simpa only [advance, answered] using ⟨fits, le_rfl⟩
  | proven => exact absurd rfl unproven
  | ended => exact absurd rfl running

end

/-- What each call keeps: the calls are as many as the bytes allow, and no write takes longer
than its timeout. -/
structure Connection.Bounded (connection : Connection) : Prop where
  fits : connection.stage.Fits
  calls : connection.stage.left + connection.calls ≤ 4 * frameBytes + connection.interrupts
  writing : connection.writing ≤ connection.calls * controlWriteTimeout

section

variable (primitives : Primitives) (codec : FrameCodec) {connection : Connection}
  (call : SocketCall)

theorem serveCalls_bounded (bounded : connection.Bounded)
    : ((serveCalls primitives codec).step connection call).2.Bounded := by
  simp only [serveCalls]
  by_cases finished : connection.stage = .proven ∨ connection.stage = .ended
  · rwa [if_pos finished]
  · obtain ⟨unproven, running⟩ := not_or.mp finished
    have next := Stage.next_left bounded.fits unproven running primitives codec call
    have calls := bounded.calls
    have brief : (if connection.stage.isWrite then call.took connection.stage else 0)
        ≤ controlWriteTimeout := by
      split_ifs with writes
      · exact (min_le_right ..).trans_eq (if_pos writes)
      · exact Nat.zero_le _
    rw [if_neg finished]
    refine ⟨next.1, ?_, ?_⟩
    · dsimp only
      omega
    · dsimp only
      rw [Nat.succ_mul]
      exact Nat.add_le_add bounded.writing brief

theorem serveCalls_inTime (unspent : connection.reading ≤ registrationBudget)
    : InTime connection call
      ↔ ((serveCalls primitives codec).step connection call).2.reading
        ≤ registrationBudget := by
  simp only [serveCalls, InTime]
  split_ifs with finished written
  · simpa [or_assoc.symm, finished] using unspent
  · simp [written, unspent]
  · simp [written, not_or.mp finished]

theorem serveCalls_reading
    : connection.reading
      ≤ ((serveCalls primitives codec).step connection call).2.reading := by
  simp only [serveCalls]
  by_cases finished : connection.stage = .proven ∨ connection.stage = .ended
  · rw [if_pos finished]
  · rw [if_neg finished]
    exact Nat.le_add_right ..

/-- No later call gives time back, so a run is within the budget call by call. -/
theorem serveCalls_within (calls : List SocketCall)
    (unspent : connection.reading ≤ registrationBudget)
    : ((serveCalls primitives codec).after connection calls).reading ≤ registrationBudget
      ↔ (serveCalls primitives codec).Follows InTime connection calls := by
  induction calls generalizing connection with
  | nil => exact iff_of_true unspent trivial
  | cons call rest ih =>
    rw [Machine.after_cons, Machine.Follows, serveCalls_inTime primitives codec call unspent]
    by_cases kept : ((serveCalls primitives codec).step connection call).2.reading
        ≤ registrationBudget
    · rw [ih kept, and_iff_right kept]
    · refine iff_of_false (fun within => kept (le_trans ?_ within)) (fun both => kept both.1)
      exact @Machine.after_invariant _ _ _ (serveCalls primitives codec)
        (fun later => _ ≤ later.reading) _
        (fun _ next grown => grown.trans (serveCalls_reading primitives codec next))
        rest le_rfl

end

end Dure.HubRelay
