import Dure.HubRelay.Threads

/-! The entry of a machine in `live`, over all interleavings of its control connections. -/

namespace Dure.HubRelay

open Library OrderedMap

namespace Thread

/-- Put in `live`, and the end of its connection not yet seen. -/
def placed (thread : Thread) : Bool := thread.place = .answer || thread.place = .read

/-- Put in `live`, and its own removal still to come. -/
def entered (thread : Thread) : Bool := thread.placed || thread.place = .remove

end Thread

/-- What a step of a thread does to its registration. -/
inductive Registers (connection : Nat) (relay : Relay) (thread : Thread) (answers : Answers)
    : Relay × Thread → Prop where
  | elsewhere {after : Relay} {next : Thread} (live : after.live = relay.live)
      (generations : after.generations = relay.generations)
      (generation : next.generation = thread.generation)
      (before : thread.entered = false) (outside : next.entered = false)
      : Registers connection relay thread answers (after, next)
  | draws (place : thread.place = .register)
      : Registers connection relay thread answers
          ({ relay with generations := relay.generations + 1 },
            { thread with generation := some relay.generations, place := .insert })
  | inserts {generation : Nat} (place : thread.place = .insert)
      (drawn : thread.generation = some generation)
      : Registers connection relay thread answers
          ({ relay with live := relay.live.insert thread.serverId ⟨connection, generation⟩ },
            { thread with place := .answer })
  | registers (place : thread.place = .answer) (written : answers.written = true)
      : Registers connection relay thread answers
          (relay, { thread with reply := some .registered, place := .read })
  | leaves (place : thread.place = .read ∨ thread.place = .answer ∧ answers.written = false)
      : Registers connection relay thread answers (relay, { thread with place := .remove })
  | removes (place : thread.place = .remove)
      : Registers connection relay thread answers
          (removeLive relay thread.serverId thread.generation,
            { thread with place := .ended })

attribute [local simp] Thread.entered

theorem serveStep_registers (primitives : Primitives) (relay : Relay) (connection : Nat)
    (thread : Thread) (answers : Answers)
    : Registers connection relay thread answers
        (serveStep primitives relay connection thread answers) := by
  have elsewhere (outside : thread.entered = false) {result : Relay × Thread}
      (same : result.1.live = relay.live ∧ result.1.generations = relay.generations
        ∧ result.2.generation = thread.generation ∧ result.2.entered = false)
      : Registers connection relay thread answers result :=
    .elsewhere same.1 same.2.1 same.2.2.1 outside same.2.2.2
  unfold serveStep
  cases place : thread.place
  all_goals dsimp only
  case register =>
    simp only [serveHubControl, place]
    split
    · exact .draws place
    · exact elsewhere (by simp [Thread.placed, place]) ⟨rfl, rfl, rfl, rfl⟩
  case insert =>
    simp only [serveHubControl, place]
    split
    · exact .inserts place ‹_›
    · exact elsewhere (by simp [Thread.placed, place]) ⟨rfl, rfl, rfl, rfl⟩
  case answer =>
    simp only [serveHubControl, place]
    split
    · exact .registers place ‹_›
    · exact .leaves (Or.inr ⟨place, Bool.eq_false_iff.mpr ‹_›⟩)
  case read =>
    simp only [serveHubControl, place]
    exact .leaves (Or.inl place)
  case remove =>
    simp only [serveHubControl, place]
    exact .removes place
  case ended =>
    have outside : thread.entered = false := by simp [Thread.placed, place]
    exact elsewhere outside ⟨rfl, rfl, rfl, outside⟩
  case hello =>
    refine elsewhere (by simp [Thread.placed, place]) ?_
    dsimp only [serveOne]
    repeat' split
    all_goals exact ⟨rfl, rfl, rfl, rfl⟩
  all_goals
    refine elsewhere (by simp [Thread.placed, place]) ?_
    dsimp only [serveHubControl, serveClient, serveHubData]
    rw [place]
    dsimp only
    repeat' split
    all_goals exact ⟨rfl, rfl, rfl, rfl⟩

/-- The entries of `live` and the control connections they belong to. -/
structure System.Registered (system : System) : Prop where
  entry
    : ∀ {serverId hub}, system.relay.live.get? serverId = some hub
        → (system.threads hub.control).entered = true
          ∧ (system.threads hub.control).serverId = serverId
          ∧ (system.threads hub.control).generation = some hub.generation
  drawn
    : ∀ {connection generation}, (system.threads connection).generation = some generation
        → generation < system.relay.generations
  unique
    : ∀ {left right generation}, (system.threads left).generation = some generation
        → (system.threads right).generation = some generation → left = right

/-- The thread was put in `live` and the other end of its connection is there. -/
def System.Stands (system : System) (connection : Nat) : Prop :=
  system.closed connection = false ∧ (system.threads connection).placed = true

/-- A machine with a standing connection has an entry, of a standing connection. -/
def System.Reached (system : System) : Prop :=
  ∀ connection, system.Stands connection
    → ∃ hub, system.relay.live.get? (system.threads connection).serverId = some hub
        ∧ system.Stands hub.control

/-- No other connection of the machine stands. -/
def System.Last (system : System) (connection : Nat) : Prop :=
  ∀ other, other ≠ connection → system.Stands other
    → (system.threads other).serverId ≠ (system.threads connection).serverId

def System.Holds (system : System) (connection : Nat) : Prop :=
  ∃ hub, system.relay.live.get? (system.threads connection).serverId = some hub
    ∧ hub.control = connection

/-- The newest registration of a machine lasts: no connection that is already gone is put over
one that stands, and the one that holds the entry does not end before the others. -/
def Outlasts (system : System) : Move → Prop
  | .runs connection answers =>
    let thread := system.threads connection
    (thread.place = .insert
      → system.closed connection = false ∨ system.Last connection)
    ∧ (thread.place = .read ∨ thread.place = .answer ∧ answers.written = false
      → system.Holds connection → system.Last connection)
  | .closes connection => system.Holds connection → system.Last connection

theorem removeLive_get?
    : (removeLive relay serverId generation).live.get? other = some hub
      ↔ relay.live.get? other = some hub
        ∧ (other = serverId → generation ≠ some hub.generation) := by
  unfold removeLive
  by_cases same : serverId = other
  · subst same
    cases found : relay.live.get? serverId with
    | none => simp [found]
    | some stored =>
      by_cases mine : some stored.generation = generation
      · refine iff_of_false (by simp [mine, get?_erase]) ?_
        rintro ⟨⟨⟩, own⟩
        exact own rfl mine.symm
      · have kept : stored = hub → generation ≠ some hub.generation := by
          rintro rfl own
          exact mine own.symm
        simpa [mine, found] using kept
  · have apart : ¬other = serverId := fun reversed => same reversed.symm
    split <;> simp [get?_erase, same, apart]

theorem removeLive_generations (relay : Relay) (serverId : String) (generation : Option Nat)
    : (removeLive relay serverId generation).generations = relay.generations := by
  unfold removeLive
  split <;> rfl

variable {system : System}

theorem System.Registered.step (primitives : Primitives) (registered : system.Registered)
    (move : Move)
    : ((serve primitives).step system move).2.Registered := by
  cases move with
  | closes connection => exact ⟨registered.entry, registered.drawn, registered.unique⟩
  | runs connection answers =>
    obtain ⟨relay, threads, closed⟩ := system
    have step := serveStep_registers primitives relay connection (threads connection) answers
    dsimp only [serve]
    generalize serveStep primitives relay connection (threads connection) answers = result
      at step
    obtain ⟨entry, drawn, unique⟩ := registered
    dsimp only at entry drawn unique
    cases step with
    | elsewhere live generations generation before outside =>
      constructor <;> grind [Function.update_apply]
    | draws place | registers place written | leaves place =>
      constructor <;> grind [Function.update_apply, Thread.entered, Thread.placed]
    | inserts place drawn =>
      constructor <;>
        grind [Function.update_apply, Thread.entered, Thread.placed, get?_insert]
    | removes place =>
      refine ⟨?_, ?_, ?_⟩
      · intro serverId hub found
        obtain ⟨stored, kept⟩ := removeLive_get?.mp found
        obtain ⟨inside, same, holds⟩ := entry stored
        -- The thread's own entry would have been removed.
        have other : hub.control ≠ connection := by
          rintro rfl
          exact kept same.symm holds
        simp only [Function.update_of_ne other]
        exact ⟨inside, same, holds⟩
      · simp only [removeLive_generations]
        grind [Function.update_apply]
      · grind [Function.update_apply]

/-- The entry of another standing connection is not of one that ends last. -/
theorem System.Reached.other (registered : system.Registered) (reached : system.Reached)
    {connection stands : Nat} (lasts : system.Holds connection → system.Last connection)
    (apart : stands ≠ connection) (up : system.Stands stands)
    : ∃ hub, system.relay.live.get? (system.threads stands).serverId = some hub
        ∧ system.Stands hub.control ∧ hub.control ≠ connection := by
  obtain ⟨hub, found, holder⟩ := reached stands up
  refine ⟨hub, found, holder, ?_⟩
  rintro rfl
  obtain ⟨-, same, -⟩ := registered.entry found
  exact lasts ⟨hub, same ▸ found, rfl⟩ stands apart up same.symm

theorem System.Reached.step (primitives : Primitives) (registered : system.Registered)
    (reached : system.Reached) (lasts : Outlasts system move)
    : ((serve primitives).step system move).2.Reached := by
  intro stands up
  cases move with
  | closes connection =>
    have apart : stands ≠ connection := by
      rintro rfl
      simp [System.Stands, serve] at up
    have stood : system.Stands stands := by
      simpa [System.Stands, serve, apart] using up
    obtain ⟨hub, found, holder, other⟩ := reached.other registered lasts apart stood
    exact ⟨hub, found, by simpa [System.Stands, serve, other] using holder⟩
  | runs connection answers =>
    obtain ⟨relay, threads, closed⟩ := system
    have step := serveStep_registers primitives relay connection (threads connection) answers
    have other := @System.Reached.other _ registered reached connection stands
    obtain ⟨takes, ends⟩ := lasts
    obtain ⟨entry, -, unique⟩ := registered
    dsimp only [serve, System.Stands, System.Reached, System.Last] at up reached takes other ⊢
    dsimp only at entry unique ends
    generalize serveStep primitives relay connection (threads connection) answers = result
      at step up
    cases step with
    | elsewhere live generations generation before outside | draws place
    | registers place written =>
      grind [Function.update_apply, Thread.entered, Thread.placed]
    | inserts place drawn =>
      have kept : (Function.update threads connection
          { threads connection with place := .answer } stands).serverId
            = (threads stands).serverId := by
        grind [Function.update_apply]
      rw [kept, get?_insert]
      by_cases same : (threads connection).serverId = (threads stands).serverId
      · -- The new entry stands, or no other connection of the machine does.
        refine ⟨_, if_pos same, ?_, by simp [Thread.placed]⟩
        grind [Function.update_apply]
      · rw [if_neg same]
        grind [Function.update_apply, Thread.entered, Thread.placed]
    | leaves place =>
      have apart : stands ≠ connection := by
        rintro rfl
        simp [Thread.placed] at up
      rw [Function.update_of_ne apart] at up ⊢
      obtain ⟨hub, found, holder, different⟩ := other (ends place) apart up
      exact ⟨hub, found, by simpa only [Function.update_of_ne different] using holder⟩
    | removes place =>
      have apart : stands ≠ connection := by
        rintro rfl
        simp [Thread.placed] at up
      rw [Function.update_of_ne apart] at up ⊢
      obtain ⟨hub, found, present, placed⟩ := reached stands up
      have different : hub.control ≠ connection := by
        rintro rfl
        simp [Thread.placed, place] at placed
      -- The entry of a standing connection has another generation.
      refine ⟨hub, removeLive_get?.mpr ⟨found, fun _ same => ?_⟩, present, ?_⟩
      · exact different (unique (entry found).2.2 same)
      · rwa [Function.update_of_ne different]

/-- The relay before its first connection. -/
def System.start (pinLimit : Nat) : System := { relay := { pinLimit } }

/-- Certificates and signatures that are all the same. -/
def samplePrimitives : Primitives where
  encodeNonce _ := "id"
  decodeBytes _ := some []
  isCertificate _ := true
  verifySignature _ _ _ _ := true
  ofDer _ := "SHA256:"

/-- A step of connection `connection` with what a well-behaved peer of the role sends. -/
def sampleStep (role : RelayRole) (connection : Nat) : Move :=
  .runs connection {
    hello := some { relayProtocolVersion := 1, role, serverId := "m", connectionId := "id" }
    proof := some ⟨"", ""⟩
    random := some []
  }

end Dure.HubRelay
