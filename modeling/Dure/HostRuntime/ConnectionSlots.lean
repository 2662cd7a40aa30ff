import Dure.HostRuntime.ResourceBudget
import Dure.Library.Machine

/-! Connection permits and the lease that a promoted permit shares with its detached work.
The lease is reference counted; its last owner returns the active slot.
-/

namespace Dure.HostRuntime

/-- `PermitPhase`; an active permit owns one reference to its lease. -/
inductive PermitPhase where
  | pending
  | active (lease : Nat)
  | released
  deriving DecidableEq, Repr

/-- `ActiveConnectionLease` with the strong count of the `Arc` around it. -/
structure ActiveConnectionLease where
  connectionClass : ConnectionClass
  strong : Nat
  deriving DecidableEq, Repr

/-- A slot that is given back: the pending one of a permit or the active one of a lease. -/
inductive Slot where
  | pending (permit : Nat)
  | active (lease : Nat)
  deriving DecidableEq, Repr

/-- The budget with every permit, lease and retained handle made so far, by number. A
dropped permit or handle is `none`; `returned` logs the slots given back to the budget. -/
structure ConnectionSlots where
  budget : HostResourceBudget
  permits : List (Option PermitPhase) := []
  leases : List ActiveConnectionLease := []
  retained : List (Option Nat) := []
  returned : List Slot := []
  deriving DecidableEq, Repr

inductive SlotEvent where
  | tryAcquirePending
  | promote (permit : Nat) (connectionClass : ConnectionClass)
  | retainActive (permit : Nat)
  | cloneRetained (handle : Nat)
  | release (permit : Nat)
  | dropPermit (permit : Nat)
  | dropRetained (handle : Nat)
  deriving DecidableEq, Repr

inductive SlotAnswer where
  | acquired (result : Except ConnectionRejection Nat)
  | promoted (result : Except ConnectionRejection Unit)
  | retained (handle : Option Nat)
  | done
  | absent
  deriving Repr

namespace ConnectionSlots

/-- Moves a permit to another phase, or drops it. -/
def setPermit (slots : ConnectionSlots) (permit : Nat) (phase : Option PermitPhase)
    : ConnectionSlots :=
  { slots with permits := slots.permits.set permit phase }

def setRetained (slots : ConnectionSlots) (handle : Nat) (lease : Option Nat)
    : ConnectionSlots :=
  { slots with retained := slots.retained.set handle lease }

/-- Sets the strong count of a lease. -/
def setStrong (slots : ConnectionSlots) (lease : Nat) (counted : ActiveConnectionLease)
    (strong : Nat) : ConnectionSlots :=
  { slots with leases := slots.leases.set lease ⟨counted.connectionClass, strong⟩ }

/-- `Arc::clone`. -/
def cloneLease (slots : ConnectionSlots) (lease : Nat) : ConnectionSlots :=
  match slots.leases[lease]? with
  | none => slots
  | some counted => slots.setStrong lease counted (counted.strong + 1)

/-- Dropping one reference; the last one drops the lease, which releases its slot. -/
def dropLease (slots : ConnectionSlots) (lease : Nat) : ConnectionSlots :=
  match slots.leases[lease]? with
  | none => slots
  | some counted =>
    let dropped := slots.setStrong lease counted (counted.strong - 1)
    if counted.strong - 1 = 0 then
      { dropped with
        budget := slots.budget.releaseActive counted.connectionClass
        returned := slots.returned ++ [.active lease] }
    else dropped

def tryAcquirePending (slots : ConnectionSlots) : SlotAnswer × ConnectionSlots :=
  match slots.budget.tryAcquirePending with
  | (.error rejection, budget) => (.acquired (.error rejection), { slots with budget })
  | (.ok (), budget) =>
    (.acquired (.ok slots.permits.length),
      { slots with budget, permits := slots.permits ++ [some .pending] })

def promote (slots : ConnectionSlots) (permit : Nat) (connectionClass : ConnectionClass)
    : SlotAnswer × ConnectionSlots :=
  match slots.permits[permit]? with
  | some (some .pending) =>
    match slots.budget.promote connectionClass with
    | (.error rejection, budget) => (.promoted (.error rejection), { slots with budget })
    | (.ok (), budget) =>
      (.promoted (.ok ()),
        { slots with
          budget
          permits := slots.permits.set permit (some (.active slots.leases.length))
          leases := slots.leases ++ [⟨connectionClass, 1⟩]
          returned := slots.returned ++ [.pending permit] })
  | some (some _) => (.promoted (.ok ()), slots)
  | _ => (.absent, slots)

/-- A new handle takes the reference that the caller holds. -/
def addRetained (slots : ConnectionSlots) (lease : Nat) : SlotAnswer × ConnectionSlots :=
  (.retained (some slots.retained.length),
    { slots with retained := slots.retained ++ [some lease] })

def retainActive (slots : ConnectionSlots) (permit : Nat) : SlotAnswer × ConnectionSlots :=
  match slots.permits[permit]? with
  | some (some (.active lease)) => (slots.cloneLease lease).addRetained lease
  | some (some _) => (.retained none, slots)
  | _ => (.absent, slots)

def cloneRetained (slots : ConnectionSlots) (handle : Nat) : SlotAnswer × ConnectionSlots :=
  match slots.retained[handle]? with
  | some (some lease) => (slots.cloneLease lease).addRetained lease
  | _ => (.absent, slots)

def release (slots : ConnectionSlots) (permit : Nat) : SlotAnswer × ConnectionSlots :=
  match slots.permits[permit]? with
  | some (some .pending) =>
    (.done,
      { slots.setPermit permit (some .released) with
        budget := slots.budget.releasePending
        returned := slots.returned ++ [.pending permit] })
  | some (some (.active lease)) =>
    (.done, (slots.setPermit permit (some .released)).dropLease lease)
  | some (some .released) => (.done, slots)
  | _ => (.absent, slots)

/-- Dropping a permit releases it first. -/
def dropPermit (slots : ConnectionSlots) (permit : Nat) : SlotAnswer × ConnectionSlots :=
  match slots.permits[permit]? with
  | some (some _) => (.done, (slots.release permit).2.setPermit permit none)
  | _ => (.absent, slots)

def dropRetained (slots : ConnectionSlots) (handle : Nat) : SlotAnswer × ConnectionSlots :=
  match slots.retained[handle]? with
  | some (some lease) => (.done, (slots.setRetained handle none).dropLease lease)
  | _ => (.absent, slots)

/-- The machine of all permits and handles of one host. -/
def machine : Library.Machine ConnectionSlots SlotEvent SlotAnswer where
  step slots
    | .tryAcquirePending => slots.tryAcquirePending
    | .promote permit connectionClass => slots.promote permit connectionClass
    | .retainActive permit => slots.retainActive permit
    | .cloneRetained handle => slots.cloneRetained handle
    | .release permit => slots.release permit
    | .dropPermit permit => slots.dropPermit permit
    | .dropRetained handle => slots.dropRetained handle

/-- The permit was acquired, and neither promoted nor released. -/
def Unpromoted (slots : ConnectionSlots) (permit : Nat) : Prop :=
  slots.permits[permit]? = some (some .pending)

/-- The permit of a promoted connection or one of its handles is alive. -/
def Held (slots : ConnectionSlots) (lease : Nat) : Prop :=
  some (.active lease) ∈ slots.permits ∨ some lease ∈ slots.retained

instance (slots : ConnectionSlots) (permit : Nat) : Decidable (slots.Unpromoted permit) :=
  inferInstanceAs (Decidable (_ = _))

instance (slots : ConnectionSlots) (lease : Nat) : Decidable (slots.Held lease) :=
  inferInstanceAs (Decidable (_ ∨ _))

/-- The number of references to a lease that permits and handles own. -/
def owners (slots : ConnectionSlots) (lease : Nat) : Nat :=
  slots.permits.count (some (.active lease)) + slots.retained.count (some lease)

/-- The strong count of a lease; zero where there is none. -/
def strongCount (slots : ConnectionSlots) (lease : Nat) : Nat :=
  ((slots.leases[lease]?).map ActiveConnectionLease.strong).getD 0

end ConnectionSlots

end Dure.HostRuntime
