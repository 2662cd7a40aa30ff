import Dure.Library.LittleEndian
import Dure.Library.Machine
import Dure.Library.OrderedMap
import Mathlib

/-! The relay as its threads: one a connection, each cut into the steps at which the others
can come in between (a frame read or written, a table locked, a socket handed over).
-/

namespace Dure.HubRelay

open Library

def relayProtocolVersion : Nat := 1

/-- The bytes of `dure-relay-register:1`. -/
def registrationContext : List UInt8 :=
  [0x64, 0x75, 0x72, 0x65, 0x2d, 0x72, 0x65, 0x6c, 0x61, 0x79, 0x2d, 0x72, 0x65, 0x67, 0x69,
    0x73, 0x74, 0x65, 0x72, 0x3a, 0x31]

inductive RelayRole where
  | hubControl
  | hubData
  | client
  deriving DecidableEq, Repr

structure RelayHello where
  relayProtocolVersion : Nat
  role : RelayRole
  serverId : String
  connectionId : Option String := none
  deriving DecidableEq, Repr

structure RelayProof where
  certificateDer : String
  signature : String
  deriving DecidableEq, Repr

inductive RelayRejection where
  | unsupportedVersion
  | badProof
  | fingerprintChanged
  | tooManyConnections
  | malformed
  deriving DecidableEq, Repr

inductive RelayUnavailable where
  | unknown
  | offline
  | timeout
  deriving DecidableEq, Repr

/-- What a thread writes to its own socket last. -/
inductive Reply where
  | registered
  | rejected (reason : RelayRejection)
  | unavailable (reason : RelayUnavailable)
  | paired
  deriving DecidableEq, Repr

inductive SignatureAlgorithm where
  | ecdsaP256Sha256
  | ecdsaP384Sha384
  | ed25519
  deriving DecidableEq, Repr

def accepted : List SignatureAlgorithm := [.ecdsaP256Sha256, .ecdsaP384Sha384, .ed25519]

/-- The texts of bytes, certificates and signatures. -/
structure Primitives where
  encodeNonce : List UInt8 → String
  decodeBytes : String → Option (List UInt8)
  isCertificate : List UInt8 → Bool
  verifySignature : List UInt8 → SignatureAlgorithm → List UInt8 → List UInt8 → Bool
  ofDer : List UInt8 → String

/-- The length as a big-endian `u32`, then the value; a longer value panics. -/
def pushField (transcript value : List UInt8) : Option (List UInt8) :=
  if value.length < 256 ^ 4 then
    some (transcript ++ (LittleEndian.toBytes 4 value.length).reverse ++ value)
  else
    none

def registrationTranscript (serverId : String) (nonce : List UInt8) : Option (List UInt8) := do
  let transcript ← pushField [] registrationContext
  let transcript ← pushField transcript serverId.toByteArray.data.toList
  pushField transcript nonce

structure VerifiedHub where
  fingerprint : String
  deriving DecidableEq, Repr

/-- `proof::verify`; nothing when it panics. -/
def verify (primitives : Primitives) (serverId : String) (nonce : List UInt8)
    (proof : RelayProof) : Option (Except RelayRejection VerifiedHub) :=
  match primitives.decodeBytes proof.certificateDer, primitives.decodeBytes proof.signature with
  | some certificateDer, some signature =>
    if primitives.isCertificate certificateDer then do
      let transcript ← registrationTranscript serverId nonce
      if accepted.any (fun algorithm =>
          primitives.verifySignature certificateDer algorithm transcript signature) then
        some (.ok ⟨primitives.ofDer certificateDer⟩)
      else
        some (.error .badProof)
    else
      some (.error .malformed)
  | _, _ => some (.error .malformed)

/-- The step that a thread takes next. -/
inductive Place where
  | hello
  -- `serve_hub_control`
  | challenge
  | proof
  | pin
  | register
  | insert
  | answer
  | read
  | remove
  -- `serve_client`
  | lookup
  | unavailable
  | expect
  | call
  | receive
  | forget
  | pair
  -- `serve_hub_data`
  | present
  | hand
  | ended
  deriving DecidableEq, Repr

/-- A thread with what it has read, drawn and found so far. -/
structure Thread where
  place : Place := .hello
  serverId : String := ""
  presented : Option String := none
  nonce : Option (List UInt8) := none
  verified : Option VerifiedHub := none
  generation : Option Nat := none
  control : Option Nat := none
  connectionId : Option String := none
  hubStream : Option Nat := none
  sender : Option Nat := none
  reply : Option Reply := none
  deriving DecidableEq, Repr

structure LiveHub where
  control : Nat
  generation : Nat
  deriving DecidableEq, Repr

/-- What the threads share. A pending entry holds the sender of its phone's channel; `called`
lists the ids with the control connections that they were written to. -/
structure Relay where
  live : OrderedMap String LiveHub := .empty
  pins : OrderedMap String String := .empty
  pending : OrderedMap String Nat := .empty
  channels : Nat → List Nat := fun _ => []
  generations : Nat := 0
  pinLimit : Nat
  called : List (Nat × String) := []

/-- What the network and the system answer to a step. -/
structure Answers where
  hello : Option RelayHello := none
  proof : Option RelayProof := none
  random : Option (List UInt8) := none
  cloned : Bool := true
  written : Bool := true

namespace Thread

def goes (thread : Thread) (place : Place) : Thread := { thread with place }

def ends (thread : Thread) (reply : Option Reply := none) : Thread :=
  { thread with place := .ended, reply }

def rejects (thread : Thread) (reason : RelayRejection) : Thread :=
  thread.ends (some (.rejected reason))

end Thread

def serveOne (thread : Thread) (answers : Answers) : Thread :=
  match answers.hello with
  | none => thread.ends
  | some hello =>
    let greeted :=
      { thread with serverId := hello.serverId, presented := hello.connectionId }
    if hello.relayProtocolVersion ≠ relayProtocolVersion then
      greeted.rejects .unsupportedVersion
    else
      match hello.role with
      | .hubControl => greeted.goes .challenge
      | .hubData => if hello.connectionId.isSome then greeted.goes .present else greeted.ends
      | .client => greeted.goes .lookup

def removeLive (relay : Relay) (serverId : String) (generation : Option Nat) : Relay :=
  if (relay.live.get? serverId).any (fun hub => some hub.generation == generation) then
    { relay with live := relay.live.erase serverId }
  else
    relay

def serveHubControl (primitives : Primitives) (relay : Relay) (connection : Nat)
    (thread : Thread) (answers : Answers) : Relay × Thread :=
  match thread.place with
  | .challenge =>
    match answers.random with
    | none => (relay, thread.ends)
    | some nonce =>
      let challenged := { thread with nonce := some nonce }
      (relay, if answers.written then challenged.goes .proof else challenged.ends)
  | .proof =>
    match answers.proof, thread.nonce with
    | some submitted, some nonce =>
      match verify primitives thread.serverId nonce submitted with
      | some (.ok verified) =>
        (relay, { thread with verified := some verified }.goes .pin)
      | some (.error reason) => (relay, thread.rejects reason)
      | none => (relay, thread.ends)
    | _, _ => (relay, thread.ends)
  | .pin =>
    match relay.pins.get? thread.serverId, thread.verified with
    | some pinned, some verified =>
      if pinned ≠ verified.fingerprint then (relay, thread.rejects .fingerprintChanged)
      else (relay, thread.goes .register)
    | none, some verified =>
      if relay.pinLimit ≤ relay.pins.entries.length then
        (relay, thread.rejects .tooManyConnections)
      else
        ({ relay with pins := relay.pins.insert thread.serverId verified.fingerprint },
          thread.goes .register)
    | _, none => (relay, thread.ends)
  | .register =>
    if answers.cloned then
      ({ relay with generations := relay.generations + 1 },
        { thread with generation := some relay.generations }.goes .insert)
    else
      (relay, thread.ends)
  | .insert =>
    match thread.generation with
    | some generation =>
      ({ relay with live := relay.live.insert thread.serverId ⟨connection, generation⟩ },
        thread.goes .answer)
    | none => (relay, thread.ends)
  | .answer =>
    (relay, if answers.written then { thread with reply := some .registered }.goes .read
      else thread.goes .remove)
  -- The end of the connection, or bytes that the protocol does not have.
  | .read => (relay, thread.goes .remove)
  | .remove =>
    (removeLive relay thread.serverId thread.generation, thread.ends thread.reply)
  | _ => (relay, thread)

def serveClient (primitives : Primitives) (relay : Relay) (connection : Nat)
    (thread : Thread) (answers : Answers) : Relay × Thread :=
  match thread.place with
  | .lookup =>
    match relay.live.get? thread.serverId with
    | some hub => (relay, { thread with control := some hub.control }.goes .expect)
    | none => (relay, thread.goes .unavailable)
  | .unavailable =>
    let known := (relay.pins.get? thread.serverId).isSome
    (relay, thread.ends (some (.unavailable (if known then .offline else .unknown))))
  | .expect =>
    match answers.random with
    | none => (relay, thread.ends)
    | some bytes =>
      let connectionId := primitives.encodeNonce bytes
      ({ relay with pending := relay.pending.insert connectionId connection },
        { thread with connectionId := some connectionId }.goes .call)
  | .call =>
    match thread.control, thread.connectionId with
    | some control, some connectionId =>
      ({ relay with called := relay.called ++ [(control, connectionId)] },
        if answers.written then thread.goes .receive
        else { thread with reply := some (.unavailable .offline) }.goes .forget)
    | _, _ => (relay, thread.ends)
  | .receive =>
    match relay.channels connection with
    | hub :: rest =>
      ({ relay with channels := Function.update relay.channels connection rest },
        { thread with hubStream := some hub }.goes .forget)
    | [] => (relay, { thread with reply := some (.unavailable .timeout) }.goes .forget)
  | .forget =>
    match thread.connectionId with
    | some connectionId =>
      ({ relay with pending := relay.pending.erase connectionId },
        if thread.hubStream.isSome then thread.goes .pair else thread.ends thread.reply)
    | none => (relay, thread.ends)
  | .pair => (relay, thread.ends (if answers.written then some .paired else none))
  | _ => (relay, thread)

def serveHubData (relay : Relay) (connection : Nat) (thread : Thread) : Relay × Thread :=
  match thread.place with
  | .present =>
    match thread.presented.bind relay.pending.get?, thread.presented with
    | some phone, some connectionId =>
      ({ relay with pending := relay.pending.erase connectionId },
        { thread with sender := some phone }.goes .hand)
    | _, _ => (relay, thread.ends)
  | .hand =>
    match thread.sender with
    | some phone =>
      let sent := relay.channels phone ++ [connection]
      ({ relay with channels := Function.update relay.channels phone sent }, thread.ends)
    | none => (relay, thread.ends)
  | _ => (relay, thread)

/-- The relay with its connections: their threads, and the sockets whose other end is gone. -/
structure System where
  relay : Relay
  threads : Nat → Thread := fun _ => {}
  closed : Nat → Bool := fun _ => false

/-- A thread takes its next step, or the other end of a connection goes. -/
inductive Move where
  | runs (connection : Nat) (answers : Answers)
  | closes (connection : Nat)

def serveStep (primitives : Primitives) (relay : Relay) (connection : Nat) (thread : Thread)
    (answers : Answers) : Relay × Thread :=
  match thread.place with
  | .hello => (relay, serveOne thread answers)
  | .challenge | .proof | .pin | .register | .insert | .answer | .read | .remove =>
    serveHubControl primitives relay connection thread answers
  | .lookup | .unavailable | .expect | .call | .receive | .forget | .pair =>
    serveClient primitives relay connection thread answers
  | .present | .hand => serveHubData relay connection thread
  | .ended => (relay, thread)

/-- All interleavings of the threads. -/
def serve (primitives : Primitives) : Machine System Move Unit where
  step system move :=
    match move with
    | .runs connection answers =>
      let (relay, thread) := serveStep primitives system.relay connection
        (system.threads connection) answers
      ((), { system with
        relay
        threads := Function.update system.threads connection thread })
    | .closes connection =>
      ((), { system with closed := Function.update system.closed connection true })

end Dure.HubRelay
