import Mathlib

/-! The host-wide resource budget: connection slots and the bytes that all subscriber
queues of one host hold together.
-/

namespace Dure.HostRuntime

/-- `usize::MAX` of the 64-bit hosts. -/
def usizeMax : Nat := 2 ^ 64 - 1

def saturatingAdd (left right : Nat) : Nat := min (left + right) usizeMax

def checkedAdd (left right : Nat) : Option Nat :=
  if left + right ≤ usizeMax then some (left + right) else none

def checkedSub (left right : Nat) : Option Nat :=
  if right ≤ left then some (left - right) else none

/-- `fetch_add(1)` of a counter. -/
def wrappingAddOne (value : Nat) : Nat := (value + 1) % (usizeMax + 1)

/-- `fetch_sub` of a counter. -/
def wrappingSub (left right : Nat) : Nat := (left + (usizeMax + 1 - right)) % (usizeMax + 1)

inductive ConnectionClass where
  | ordinary
  | priority
  deriving DecidableEq, Repr

inductive ConnectionRejection where
  | pendingLimit
  | activeLimit
  deriving DecidableEq, Repr

structure HostResourceLimits where
  maxPendingConnections : Nat
  maxActiveConnections : Nat
  reservedPriorityConnections : Nat
  maxQueuedBytes : Nat
  deriving DecidableEq, Repr

/-- The assertions of `HostResourceLimits::validate`. -/
def HostResourceLimits.validate (limits : HostResourceLimits) : Bool :=
  decide (0 < limits.maxPendingConnections)
    && decide (0 < limits.maxActiveConnections)
    && decide (limits.reservedPriorityConnections < limits.maxActiveConnections)
    && decide (0 < limits.maxQueuedBytes)

structure ConnectionState where
  pending : Nat := 0
  active : Nat := 0
  activeOrdinary : Nat := 0
  peakPending : Nat := 0
  peakActive : Nat := 0
  rejectedPending : Nat := 0
  rejectedActive : Nat := 0
  deriving DecidableEq, Repr

structure HostResourceBudget where
  limits : HostResourceLimits
  connections : ConnectionState := {}
  queuedBytes : Nat := 0
  peakQueuedBytes : Nat := 0
  rejectedQueuePushes : Nat := 0
  deriving DecidableEq, Repr

namespace HostResourceBudget

/-- `try_acquire_pending`: `.ok` stands for the permit that the caller gets. -/
def tryAcquirePending (budget : HostResourceBudget)
    : Except ConnectionRejection Unit × HostResourceBudget :=
  let state := budget.connections
  if budget.limits.maxPendingConnections ≤ state.pending then
    (.error .pendingLimit,
      { budget with connections :=
        { state with rejectedPending := saturatingAdd state.rejectedPending 1 } })
  else
    let pending := state.pending + 1
    (.ok (),
      { budget with connections :=
        { state with pending, peakPending := max state.peakPending pending } })

def promote (budget : HostResourceBudget) (connectionClass : ConnectionClass)
    : Except ConnectionRejection Unit × HostResourceBudget :=
  let state := budget.connections
  let ordinaryLimit :=
    budget.limits.maxActiveConnections - budget.limits.reservedPriorityConnections
  let saturated := decide (budget.limits.maxActiveConnections ≤ state.active)
    || (decide (connectionClass = .ordinary) && decide (ordinaryLimit ≤ state.activeOrdinary))
  if saturated then
    (.error .activeLimit,
      { budget with connections :=
        { state with rejectedActive := saturatingAdd state.rejectedActive 1 } })
  else
    let active := state.active + 1
    (.ok (),
      { budget with connections :=
        { state with
          pending := state.pending - 1
          active
          activeOrdinary :=
            if connectionClass = .ordinary then state.activeOrdinary + 1
            else state.activeOrdinary
          peakActive := max state.peakActive active } })

def releasePending (budget : HostResourceBudget) : HostResourceBudget :=
  { budget with connections :=
    { budget.connections with pending := budget.connections.pending - 1 } }

def releaseActive (budget : HostResourceBudget) (connectionClass : ConnectionClass)
    : HostResourceBudget :=
  { budget with connections :=
    { budget.connections with
      active := budget.connections.active - 1
      activeOrdinary :=
        if connectionClass = .ordinary then budget.connections.activeOrdinary - 1
        else budget.connections.activeOrdinary } }

def recordQueueRejection (budget : HostResourceBudget) : HostResourceBudget :=
  { budget with rejectedQueuePushes := wrappingAddOne budget.rejectedQueuePushes }

/-- The part of the host's queued bytes that one queue entry holds. -/
structure QueueReservation where
  accountedBytes : Nat
  deriving DecidableEq, Repr

def tryReserveQueueBytes (budget : HostResourceBudget) (accountedBytes : Nat)
    : Option QueueReservation × HostResourceBudget :=
  match (checkedAdd budget.queuedBytes accountedBytes).filter
      (fun next => decide (next ≤ budget.limits.maxQueuedBytes)) with
  | none => (none, budget.recordQueueRejection)
  | some current =>
    (some { accountedBytes },
      { budget with
        queuedBytes := current
        peakQueuedBytes := max budget.peakQueuedBytes current })

/-- `QueueReservation::try_resize`: the resized reservation, or `none` where the code
answers `false` and keeps the old one. -/
def tryResize (budget : HostResourceBudget) (reservation : QueueReservation)
    (accountedBytes : Nat) : Option QueueReservation × HostResourceBudget :=
  if accountedBytes = reservation.accountedBytes then (some reservation, budget)
  else
    let resized := ((checkedSub budget.queuedBytes reservation.accountedBytes).bind
      (fun withoutPrevious => checkedAdd withoutPrevious accountedBytes)).filter
        (fun next => decide (next ≤ budget.limits.maxQueuedBytes))
    match resized with
    | none => (none, budget.recordQueueRejection)
    | some current =>
      (some { accountedBytes },
        { budget with
          queuedBytes := current
          peakQueuedBytes := max budget.peakQueuedBytes current })

/-- Dropping a reservation. -/
def release (budget : HostResourceBudget) (reservation : QueueReservation)
    : HostResourceBudget :=
  { budget with queuedBytes := wrappingSub budget.queuedBytes reservation.accountedBytes }

/-- Dropping what may be a reservation. -/
def releaseHeld (budget : HostResourceBudget) (held : Option QueueReservation)
    : HostResourceBudget :=
  match held with
  | some reservation => budget.release reservation
  | none => budget

end HostResourceBudget

end Dure.HostRuntime
