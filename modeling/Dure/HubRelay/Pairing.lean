import Dure.HubRelay.Registration

/-! The relay joins a phone only to the machine it asked for, over all interleavings. -/

namespace Dure.HubRelay

open Library List Option

/-- The phone has a pending entry, or its removal still to come. -/
def Thread.waits (thread : Thread) : Bool :=
  thread.place = .call || thread.place = .receive || thread.place = .forget

/-- What a thread has found, or not yet found, at its place. -/
def Thread.Fits (thread : Thread) : Prop :=
  match thread.place with
  | .hello => thread = {}
  | .challenge => thread.nonce = none ∧ thread.verified = none ∧ thread.generation = none
  | .proof => thread.verified = none ∧ thread.generation = none
  | .lookup => thread.control = none ∧ thread.connectionId = none ∧ thread.hubStream = none
  | .expect =>
    thread.control ≠ none ∧ thread.connectionId = none ∧ thread.hubStream = none
  | .call => thread.control ≠ none ∧ thread.connectionId ≠ none ∧ thread.hubStream = none
  | .receive => thread.connectionId ≠ none ∧ thread.hubStream = none
  | .forget => thread.connectionId ≠ none
  | .present => thread.sender = none
  | _ => True

/-- What a step of a thread adds to the pins and to the pairing. -/
structure Adds (primitives : Primitives) (connection : Nat) (relay : Relay) (thread : Thread)
    (answers : Answers) (result : Relay × Thread) : Prop where
  fits : result.2.Fits
  named
    : thread = {} ∨ result.2.serverId = thread.serverId ∧ result.2.presented = thread.presented
  limit
    : result.1.pinLimit = relay.pinLimit
        ∧ (relay.pins.entries.length ≤ relay.pinLimit
          → result.1.pins.entries.length ≤ result.1.pinLimit)
  pins
    : ∀ {serverId pinned}, relay.pins.get? serverId = some pinned
        → result.1.pins.get? serverId = some pinned
  nonce
    : result.2.nonce = thread.nonce ∨ thread.nonce = none ∧ thread.place = .challenge
        ∧ result.2.nonce = answers.random
  verified
    : result.2.verified = thread.verified ∨ thread.verified = none
        ∧ ∃ nonce submitted verified, thread.nonce = some nonce
          ∧ verify primitives thread.serverId nonce submitted = some (.ok verified)
          ∧ result.2.verified = some verified
  pinned
    : result.2.generation ≠ none ∨ result.2.place = .register
        → (thread.generation ≠ none ∨ thread.place = .register)
          ∨ ∃ verified, thread.verified = some verified
            ∧ result.1.pins.get? thread.serverId = some verified.fingerprint
  generation : thread.generation ≠ none → result.2.generation ≠ none
  control
    : result.2.control = thread.control ∨ thread.control = none ∧ thread.place = .lookup
        ∧ ∃ hub, relay.live.get? thread.serverId = some hub
          ∧ result.2.control = some hub.control
  connectionId
    : result.2.connectionId = thread.connectionId ∨ thread.connectionId = none
        ∧ thread.place = .expect
        ∧ result.2.connectionId = answers.random.map primitives.encodeNonce
  hubStream
    : result.2.hubStream = thread.hubStream ∨ thread.hubStream = none
        ∧ ∃ hub ∈ relay.channels connection, result.2.hubStream = some hub
  sender
    : result.2.sender = thread.sender ∨ thread.sender = none
        ∧ result.2.sender = thread.presented.bind relay.pending.get?
  pending
    : ∀ {connectionId phone}, result.1.pending.get? connectionId = some phone
        → relay.pending.get? connectionId = some phone
            ∧ (thread.waits = true → thread.connectionId = some connectionId
              → result.2.waits = true)
          ∨ phone = connection ∧ result.2.connectionId = some connectionId
            ∧ result.2.waits = true
  channels
    : ∀ {phone hub}, hub ∈ result.1.channels phone → hub ∈ relay.channels phone
        ∨ hub = connection ∧ thread.sender = some phone
  called
    : ∀ {control connectionId}, (control, connectionId) ∈ result.1.called
        → (control, connectionId) ∈ relay.called
          ∨ thread.control = some control ∧ thread.connectionId = some connectionId

theorem serveStep_adds (primitives : Primitives) (relay : Relay) (connection : Nat)
    (thread : Thread) (answers : Answers) (fits : thread.Fits)
    : Adds primitives connection relay thread answers
        (serveStep primitives relay connection thread answers) := by
  unfold Thread.Fits at fits
  unfold serveStep
  cases place : thread.place
  all_goals rw [place] at fits
  all_goals try dsimp only at fits
  all_goals try dsimp only [serveOne, serveHubControl, serveClient, serveHubData, removeLive]
  all_goals try rw [place]
  all_goals try dsimp only
  all_goals repeat' split
  all_goals constructor
  all_goals try simp_all [Thread.goes, Thread.ends, Thread.rejects, Thread.Fits, Thread.waits]
  all_goals try
    grind [Function.update_apply, OrderedMap.get?_insert, OrderedMap.get?_erase]
  -- A new pin had room.
  · intro _
    exact (OrderedMap.length_insert_le _ _ _).trans ‹_›
  -- A phone that calls has found a control connection and made an id.
  · obtain ⟨control, through⟩ := ne_none_iff_exists'.mp fits.1
    simp_all

/-- What the threads have proved, and to whom the ids and the sockets belong. -/
structure System.Paired (primitives : Primitives) (system : System) : Prop where
  fits : ∀ connection, (system.threads connection).Fits
  limit : system.relay.pins.entries.length ≤ system.relay.pinLimit
  proven
    : ∀ {connection verified}, (system.threads connection).verified = some verified
        → ∃ nonce submitted, (system.threads connection).nonce = some nonce
          ∧ verify primitives (system.threads connection).serverId nonce submitted
            = some (.ok verified)
  pinned
    : ∀ {connection}, (system.threads connection).generation ≠ none
        ∨ (system.threads connection).place = .register
        → ∃ verified, (system.threads connection).verified = some verified
          ∧ system.relay.pins.get? (system.threads connection).serverId
            = some verified.fingerprint
  nonces
    : ∀ {left right nonce}, (system.threads left).nonce = some nonce
        → (system.threads right).nonce = some nonce → left = right
  ids
    : ∀ {left right connectionId}, (system.threads left).connectionId = some connectionId
        → (system.threads right).connectionId = some connectionId → left = right
  pending
    : ∀ {connectionId phone}, system.relay.pending.get? connectionId = some phone
        → (system.threads phone).connectionId = some connectionId
          ∧ (system.threads phone).waits = true
  found
    : ∀ {phone control}, (system.threads phone).control = some control
        → (system.threads control).generation ≠ none
          ∧ (system.threads control).serverId = (system.threads phone).serverId
  called
    : ∀ {control connectionId}, (control, connectionId) ∈ system.relay.called
        → ∃ phone, (system.threads phone).connectionId = some connectionId
          ∧ (system.threads phone).control = some control
  senders
    : ∀ {hub phone}, (system.threads hub).sender = some phone
        → ∃ connectionId, (system.threads hub).presented = some connectionId
          ∧ (system.threads phone).connectionId = some connectionId
  sockets
    : ∀ {phone hub}, hub ∈ system.relay.channels phone
        ∨ (system.threads phone).hubStream = some hub
        → (system.threads hub).sender = some phone

/-- The bytes drawn for nonces and ids are distinct. -/
def Distinct (primitives : Primitives) (system : System) : Move → Prop
  | .runs connection answers =>
    ∀ bytes, answers.random = some bytes
      → ((system.threads connection).place = .challenge
          → ∀ other, (system.threads other).nonce ≠ some bytes)
        ∧ ((system.threads connection).place = .expect
          → ∀ other, (system.threads other).connectionId
            ≠ some (primitives.encodeNonce bytes))
  | .closes _ => True

variable {primitives : Primitives} {serverId : String} {nonce : List UInt8} {system : System}

theorem System.Paired.step (paired : system.Paired primitives) (registered : system.Registered)
    (distinct : Distinct primitives system move)
    : ((serve primitives).step system move).2.Paired primitives := by
  cases move with
  | closes connection => exact { paired with }
  | runs connection answers =>
    obtain ⟨relay, threads, closed⟩ := system
    have adds := serveStep_adds primitives relay connection (threads connection) answers
      (paired.fits connection)
    have entry := @registered.entry
    dsimp only [serve, Distinct] at distinct entry ⊢
    generalize serveStep primitives relay connection (threads connection) answers = result
      at adds
    obtain ⟨after, next⟩ := result
    obtain ⟨fits, limit, proven, pinned, nonces, ids, pending, found, called, senders,
      sockets⟩ := paired
    dsimp only at *
    have here : Function.update threads connection next connection = next :=
      Function.update_self ..
    have apart (other : Nat) (different : other ≠ connection)
        : Function.update threads connection next other = threads other :=
      Function.update_of_ne different ..
    generalize Function.update threads connection next = served at here apart
    constructor
    all_goals dsimp only
    case fits => grind [Adds]
    case limit => exact adds.limit.2 limit
    case proven => grind [Adds]
    case pinned =>
      intro other claims
      have known : ∃ verified, (threads other).verified = some verified
          ∧ after.pins.get? (threads other).serverId = some verified.fingerprint := by
        by_cases same : other = connection
        · subst same
          rw [here] at claims
          refine (adds.pinned claims).elim (fun before => ?_) id
          obtain ⟨verified, proved, stored⟩ := pinned before
          exact ⟨verified, proved, adds.pins stored⟩
        · rw [apart other same] at claims
          obtain ⟨verified, proved, stored⟩ := pinned claims
          exact ⟨verified, proved, adds.pins stored⟩
      obtain ⟨verified, proved, stored⟩ := known
      exact ⟨verified, by grind [Adds]⟩
    case nonces => grind [Adds]
    case ids =>
      rcases adds.connectionId with same | ⟨unset, expects, made⟩
      · grind
      · cases drawn : answers.random with
        | none => grind
        | some bytes =>
          have fresh := (distinct bytes drawn).2 expects
          grind
    case pending => grind [Adds]
    case found => grind [Adds]
    case called => grind [Adds]
    case senders =>
      intro hub phone given
      have known : ∃ connectionId, (threads hub).presented = some connectionId
          ∧ (threads phone).connectionId = some connectionId := by
        rcases adds.sender with same | ⟨unset, taken⟩
        · grind
        · by_cases same : hub = connection
          · subst same
            rw [here, taken, bind_eq_some_iff] at given
            obtain ⟨connectionId, named, waiting⟩ := given
            exact ⟨connectionId, named, (pending waiting).1⟩
          · exact senders (apart hub same ▸ given)
      obtain ⟨connectionId, named, made⟩ := known
      exact ⟨connectionId, by grind [Adds]⟩
    case sockets => grind [Adds]

theorem field_inj {left right rest more : List UInt8} (fits : left.length < 256 ^ 4)
    (fits' : right.length < 256 ^ 4)
    (same : (LittleEndian.toBytes 4 left.length).reverse ++ (left ++ rest)
      = (LittleEndian.toBytes 4 right.length).reverse ++ (right ++ more))
    : left = right ∧ rest = more := by
  obtain ⟨sizes, contents⟩ := append_inj same (by simp)
  have lengths : left.length = right.length := by
    rw [← LittleEndian.ofBytes_toBytes fits, reverse_injective sizes,
      LittleEndian.ofBytes_toBytes fits']
  exact append_inj contents lengths

/-- The signed text determines the server id and the nonce. -/
theorem registrationTranscript_inj
    (left : registrationTranscript serverId nonce = some transcript)
    (right : registrationTranscript serverId' nonce' = some transcript)
    : serverId = serverId' ∧ nonce = nonce' := by
  have context : registrationContext.length < 256 ^ 4 := by decide
  simp only [registrationTranscript, pushField, if_pos context, bind_eq_bind,
    bind_some, bind_eq_some_iff, ite_none_right_eq_some,
    some.injEq] at left right
  obtain ⟨_, ⟨named, rfl⟩, drawn, rfl⟩ := left
  obtain ⟨_, ⟨named', rfl⟩, drawn', same⟩ := right
  simp only [nil_append, append_assoc, append_cancel_left_eq] at same
  obtain ⟨ids, rest⟩ := field_inj named' named same
  have nonces := @field_inj nonce' nonce [] [] drawn' drawn (by simpa using rest)
  refine ⟨?_, nonces.1.symm⟩
  exact String.toByteArray_inj.mp (ByteArray.ext (Array.toList_inj.mp ids.symm))

/-- A passed proof is a signature over the server id and the nonce. -/
theorem verify_ok (passed : verify primitives serverId nonce proof = some (.ok verified))
    : ∃ certificateDer signature transcript,
        registrationTranscript serverId nonce = some transcript
        ∧ (∃ algorithm ∈ accepted,
          primitives.verifySignature certificateDer algorithm transcript signature = true)
        ∧ primitives.ofDer certificateDer = verified.fingerprint := by
  unfold verify at passed
  split at passed
  · rename_i certificateDer signature _ _
    split at passed
    · obtain ⟨transcript, written, passed⟩ := bind_eq_some_iff.mp passed
      split at passed
      · rename_i signed
        cases passed
        exact ⟨certificateDer, signature, transcript, written, any_eq_true.mp signed, rfl⟩
      · cases passed
    · cases passed
  · cases passed

/-- The phone's socket is piped to the hub's. -/
def System.Joins (system : System) (phone hub : Nat) : Prop :=
  (system.threads phone).place = .ended ∧ (system.threads phone).reply = some .paired
    ∧ (system.threads phone).hubStream = some hub

/-- Pins and joined sockets stay. -/
def System.Stays (system later : System) : Prop :=
  later.relay.pinLimit = system.relay.pinLimit
  ∧ (∀ serverId pinned, system.relay.pins.get? serverId = some pinned
    → later.relay.pins.get? serverId = some pinned)
  ∧ ∀ phone hub, system.Joins phone hub → later.Joins phone hub

theorem System.Stays.step {first : System} (stays : first.Stays system)
    (paired : system.Paired primitives) (move : Move)
    : first.Stays ((serve primitives).step system move).2 := by
  cases move with
  | closes connection => exact stays
  | runs connection answers =>
    have adds := serveStep_adds primitives system.relay connection
      (system.threads connection) answers (paired.fits connection)
    refine ⟨adds.limit.1.trans stays.1,
      fun serverId pinned stored => adds.pins (stays.2.1 serverId pinned stored), ?_⟩
    intro phone hub joined
    obtain ⟨ended, told, given⟩ := stays.2.2 phone hub joined
    by_cases same : phone = connection
    · subst same
      simp [System.Joins, serve, serveStep, ended, told, given]
    · simp [System.Joins, serve, same, ended, told, given]

end Dure.HubRelay
