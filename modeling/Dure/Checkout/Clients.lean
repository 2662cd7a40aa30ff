import Dure.Checkout.Preparation
import Dure.Checkout.Transitions
import Dure.Library.Machine

/-! Any number of clients that use one checkout through its ref. Each reads the record,
decides, and swaps the record if nobody changed it in between; other clients may do anything
between two of its steps, and it may stop at any of them.
-/

namespace Dure.Checkout

open Library Check

def maxCasAttempts : Nat := 16

def casExhausted (message : String) : UseError := ⟨"checkout_use_cas_exhausted", message⟩

def reconcileRequired (message : String) : UseError :=
  ⟨"checkout_use_removal_reconcile_required", message⟩

/-- The checkout was observed and is still there, after an attempted removal or without. -/
def stillPresent : Option String → UseError
  | none =>
    reconcileRequired "physical removal already started and the exact checkout still exists"
  | some failure =>
    reconcileRequired
      ("physical Git removal was attempted but did not prove exact absence: " ++ failure)

/-- The checkout could not be observed. -/
def ambiguousTarget (observation : String) : Option String → UseError
  | none =>
    reconcileRequired
      ("physical removal already started and exact absence is ambiguous: " ++ observation)
  | some failure =>
    reconcileRequired
      ("physical Git removal was attempted and exact target state is ambiguous: "
        ++ observation ++ "; removal failure: " ++ failure)

def Decision.map {α β : Type} (change : α → β) : Decision α → Decision β
  | .answer value => .answer (change value)
  | .swap next value => .swap next (change value)

/-- What the filesystem shows to a pass whose plan asks for it. -/
structure Observation where
  absentTarget : Except UseError Unit
  exactInstance : Instance → Except UseError Unit

/-- The checks of the filesystem that a plan asks for. -/
def Plan.validate (plan : Plan) (seen : Observation) : Except UseError Unit := do
  if plan.validateAbsentTarget then
    seen.absentTarget
  whenSome plan.validateInstance seen.exactInstance

/-- What the physical removal returns. -/
inductive PhysicalResult where
  | done (outcome : PhysicalOutcome)
  | refusedBeforeInvocation (cause : UseError)
  | attempted (cause : String)

section

variable (hash : String → String) (authority : Authority)

/-- A use of the checkout that is ready for the reducer. -/
structure Call where
  request : PreparedRequest
  prepared : Prepared hash authority request

/-- A physical removal that is ready for its loops. -/
structure Removal where
  asked : PhysicalRequest
  removal : PreparedRemoval
  prepared : prepareRemoval hash authority asked = .ok removal

def Removal.token {hash : String → String} {authority : Authority}
    (removal : Removal hash authority) : String :=
  removal.asked.permitToken

/-- The loops of reading, deciding and swapping. -/
inductive Task where
  | apply (call : Call hash authority)
  | start (removal : Removal hash authority)
  | rollback (removal : Removal hash authority) (cause : UseError)
  | terminal (removal : Removal hash authority) (outcome : PhysicalOutcome)

/-- Where a client is. While it is `executing` it has placed the marker and will call the
physical removal; while it is `invoking` the removal runs. -/
inductive Client where
  | idle
  | reading (task : Task hash authority) (attempt : Nat)
  | deciding (task : Task hash authority) (attempt : Nat) (loaded : Option State)
  | executing (removal : Removal hash authority)
  | invoking (removal : Removal hash authority)
  | reconciling (removal : Removal hash authority) (failure : Option String)
  | finished (result : Except UseError UseReceipt)

/-- A swap that took place. -/
structure Commit where
  task : Task hash authority
  before : Option State
  after : State

/-- One step of a client between which others may act. -/
inductive Act where
  | read
  | decide (seen : Observation)
  | invoke
  | settle (result : PhysicalResult)
  | observe (absent : Except String Bool)

end

variable {hash : String → String} {authority : Authority}

namespace Task

def exhausted : Task hash authority → UseError
  | .apply _ => casExhausted "checkout-use compare-and-swap retries were exhausted"
  | .start _ =>
    casExhausted "physical-removal marker compare-and-swap retries were exhausted"
  | .rollback _ _ =>
    casExhausted "physical-removal rollback compare-and-swap retries were exhausted"
  | .terminal _ _ => casExhausted "terminal removal compare-and-swap retries were exhausted"

/-- One pass of the loop on the record that was read. -/
def pass (seen : Observation) (loaded : Option State)
    : Task hash authority → Except UseError (Decision (Client hash authority))
  | .apply call => do
      let plan ← reduceRequest hash loaded call.request
      plan.validate seen
      match plan.state with
      | none => pure (.answer (.finished (.ok plan.receipt)))
      | some next => pure (.swap next (.finished (.ok plan.receipt)))
  | .start removal => do
      let decision ← removal.removal.startPhysicalRemoval hash loaded
      pure (decision.map (fun
        | .execute => .executing removal
        | .reconcile => .reconciling removal none
        | .terminal receipt => .finished (.ok receipt)))
  | .rollback removal cause => do
      let decision ← removal.removal.rollbackRefusedPhysicalRemoval hash loaded
      pure (decision.map (fun _ => .finished (.error cause)))
  | .terminal removal outcome => do
      let decision ← removal.removal.terminalizePhysicalRemoval outcome loaded
      pure (decision.map (fun receipt => .finished (.ok receipt)))

/-- The swap was lost: read again, as often as the loop allows. -/
def retry (task : Task hash authority) (attempt : Nat) : Client hash authority :=
  if attempt + 1 < maxCasAttempts then
    .reading task (attempt + 1)
  else
    .finished (.error task.exhausted)

end Task

namespace Client

def begins (task : Task hash authority) : Client hash authority := .reading task 0

def reads (stored : Option State) (task : Task hash authority) (attempt : Nat)
    : Client hash authority :=
  match stored with
  | none => .deciding task attempt none
  | some state =>
    match validateState hash authority state with
    | .ok _ => .deciding task attempt (some state)
    | .error error => .finished (.error error)

/-- Decide on the loaded record and swap it, if it is still the stored one. -/
def decides (stored : Option State) (task : Task hash authority) (attempt : Nat)
    (loaded : Option State) (seen : Observation)
    : Client hash authority × Option (Commit hash authority) :=
  match task.pass seen loaded with
  | .error error => (.finished (.error error), none)
  | .ok (.answer client) => (client, none)
  | .ok (.swap next client) =>
    if stored = loaded then
      (client, some ⟨task, loaded, next⟩)
    else
      (task.retry attempt, none)

def settles (removal : Removal hash authority) : PhysicalResult → Client hash authority
  | .done outcome => .begins (.terminal removal outcome)
  | .refusedBeforeInvocation cause => .begins (.rollback removal cause)
  | .attempted cause => .reconciling removal (some cause)

def observes (removal : Removal hash authority) (failure : Option String)
    : Except String Bool → Client hash authority
  | .ok true => .begins (.terminal removal .alreadyAbsent)
  | .ok false => .finished (.error (stillPresent failure))
  | .error observation => .finished (.error (ambiguousTarget observation failure))

/-- One step of a client, with the swap that it made; a step that its place does not allow
changes nothing. -/
def act (stored : Option State)
    : Client hash authority → Act
      → Client hash authority × Option (Commit hash authority)
  | .reading task attempt, .read => (.reads stored task attempt, none)
  | .deciding task attempt loaded, .decide seen => decides stored task attempt loaded seen
  | .executing removal, .invoke => (.invoking removal, none)
  | .invoking removal, .settle result => (.settles removal result, none)
  | .reconciling removal failure, .observe absent =>
    (.observes removal failure absent, none)
  | client, _ => (client, none)

/-- The step calls the physical removal. -/
def invokes : Client hash authority → Act → Option (Removal hash authority)
  | .executing removal, .invoke => some removal
  | _, _ => none

/-- The step finds the checkout gone. -/
def findsAbsent : Client hash authority → Act → Option (Removal hash authority)
  | .reconciling removal _, .observe (.ok true) => some removal
  | _, _ => none

/-- The client has returned, or was never called. -/
def isFree : Client hash authority → Bool
  | .idle => true
  | .finished _ => true
  | _ => false

end Client

section

variable (hash : String → String) (authority : Authority)

/-- The ref and its clients, with what happened so far, the oldest first: the swaps, the calls
of the physical removal and the times a checkout was found gone. -/
structure System where
  stored : Option State
  clients : Nat → Client hash authority
  commits : List (Commit hash authority)
  invoked : List (Removal hash authority)
  absences : List (Removal hash authority)

/-- What can happen next. A client that stops crashed, or Git or the filesystem failed it. -/
inductive Event where
  | apply (client : Nat) (call : Call hash authority)
  | remove (client : Nat) (removal : Removal hash authority)
  | act (client : Nat) (act : Act)
  | stop (client : Nat)

end

namespace System

def initial : System hash authority where
  stored := none
  clients := fun _ => .idle
  commits := []
  invoked := []
  absences := []

def place (system : System hash authority) (index : Nat) (client : Client hash authority)
    : System hash authority :=
  { system with clients := Function.update system.clients index client }

/-- A free client enters one of the two calls. -/
def enter (system : System hash authority) (index : Nat) (task : Task hash authority)
    : System hash authority :=
  if (system.clients index).isFree then
    system.place index (.begins task)
  else
    system

/-- The ref after a step that may have swapped it. -/
def written (stored : Option State) (commit : Option (Commit hash authority)) : Option State :=
  match commit with
  | none => stored
  | some commit => some commit.after

def acts (system : System hash authority) (index : Nat) (act : Act)
    : System hash authority :=
  let client := system.clients index
  let (next, commit) := client.act system.stored act
  {
    stored := written system.stored commit
    clients := Function.update system.clients index next
    commits := system.commits ++ commit.toList
    invoked := system.invoked ++ (client.invokes act).toList
    absences := system.absences ++ (client.findsAbsent act).toList
  }

def step (system : System hash authority) : Event hash authority → System hash authority
  | .apply index call => system.enter index (.apply call)
  | .remove index removal => system.enter index (.start removal)
  | .act index act => system.acts index act
  | .stop index => system.place index .idle

/-- The interleavings of all clients. -/
def machine : Machine (System hash authority) (Event hash authority) Unit where
  step := fun system event => ((), system.step event)

/-- Some interleaving from an absent ref leads here. -/
def Reachable (system : System hash authority) : Prop :=
  ∃ events, machine.after initial events = system

end System

end Dure.Checkout
