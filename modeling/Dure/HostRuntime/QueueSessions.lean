import Dure.HostRuntime.SubscriberQueue
import Dure.Library.Machine

/-! The calls on one subscriber queue, in any order, with what its producers pushed and what
its consumer popped. The budget that a call meets is whatever the rest of the host left.
-/

namespace Dure.HostRuntime

open List

/-- A call on a queue. -/
inductive Request (τ : Type) where
  | tryPush (value : τ) (accountedBytes : Nat)
  | tryPushBatch (values : List (τ × Nat))
  | tryReplaceMatchingOrPush (value : τ) (accountedBytes : Nat)
      (replace blocksReplacement : τ → Bool)
  | pop
  | close

inductive Answer (τ : Type) where
  | pushed (result : Except PushError Unit)
  | popped (result : Popped τ)
  | closed

namespace BoundedQueue

variable {τ : Type}

def serve (queue : BoundedQueue τ) (budget : HostResourceBudget) (now : Nat)
    : Request τ → Answer τ × BoundedQueue τ × HostResourceBudget
  | .tryPush value accountedBytes =>
    (queue.tryPushAt budget value accountedBytes now).map .pushed id
  | .tryPushBatch values => (queue.tryPushBatch budget values now).map .pushed id
  | .tryReplaceMatchingOrPush value accountedBytes replace blocksReplacement =>
    (queue.tryReplaceMatchingOrPush budget value accountedBytes replace blocksReplacement
      now).map .pushed id
  | .pop => (queue.pop budget).map .popped id
  | .close => (.closed, queue.close, budget)

end BoundedQueue

/-- The values that a call adds when it is accepted. -/
def Request.offers {τ : Type} : Request τ → List τ
  | .tryPush value _ => [value]
  | .tryPushBatch values => values.map Prod.fst
  | .tryReplaceMatchingOrPush value _ _ _ => [value]
  | .pop => []
  | .close => []

/-- The values that a call added. -/
def added {τ : Type} (request : Request τ) : Answer τ → List τ
  | .pushed (.ok ()) => request.offers
  | _ => []

/-- The value that a call handed to the consumer. -/
def handedOut {τ : Type} : Answer τ → List τ
  | .popped (.value value) => [value]
  | _ => []

/-- A call as it meets the host: the time and the budget left by the other queues. -/
structure Call (τ : Type) where
  request : Request τ
  now : Nat
  budget : HostResourceBudget

/-- A queue with everything pushed into it and popped from it so far. -/
structure Session (τ : Type) where
  queue : BoundedQueue τ
  pushed : List τ := []
  popped : List τ := []

/-- The machine of the calls on one queue. -/
def sessions (τ : Type) : Library.Machine (Session τ) (Call τ) (Answer τ) where
  step session call :=
    let served := session.queue.serve call.budget call.now call.request
    (served.1,
      { queue := served.2.1
        pushed := session.pushed ++ added call.request served.1
        popped := session.popped ++ handedOut served.1 })

/-- The replaceable values, and only they, are pushed by replacing. -/
def Request.Disciplined {τ : Type} (replace blocksReplacement : τ → Bool)
    : Request τ → Prop
  | .tryPush value _ => replace value = false
  | .tryPushBatch values => ∀ value ∈ values, replace value.1 = false
  | .tryReplaceMatchingOrPush value _ replaces blocks =>
    replaces = replace ∧ blocks = blocksReplacement ∧ replace value = true
  | .pop => True
  | .close => True

/-- What one call does to the values of a queue, and what it hands out. -/
inductive Served {τ : Type} (queue : BoundedQueue τ) : Request τ → Answer τ → List τ → Prop
  | unchanged {request answer} (addsNothing : added request answer = [])
      (handsNothing : handedOut answer = [])
      (waits : request = .pop → queue.values = [])
      : Served queue request answer queue.values
  | appended {request} (plain : ∀ value bytes replace blocks,
        request ≠ .tryReplaceMatchingOrPush value bytes replace blocks)
      : Served queue request (.pushed (.ok ())) (queue.values ++ request.offers)
  | replaced {value accountedBytes replace blocks}
      : Served queue (.tryReplaceMatchingOrPush value accountedBytes replace blocks)
          (.pushed (.ok ())) (Library.dropReplaced replace blocks queue.values ++ [value])
  | popped {value rest} (front : queue.values = value :: rest)
      : Served queue .pop (.popped (.value value)) rest

namespace BoundedQueue

variable {τ : Type} {final : HostResourceBudget} {after : BoundedQueue τ}
  {hostReservations : List (Option HostResourceBudget.QueueReservation)}
  {offered : List (τ × Nat)} {replace : τ → Bool} {now : Nat} {error : PushError} {value : τ}
  {result : Push τ}

theorem values_batchEntries (values : List (τ × Nat)) (now : Nat)
    (same : hostReservations.length = values.length)
    : (batchEntries values now hostReservations).map Entry.value = values.map Prod.fst := by
  induction values generalizing hostReservations with
  | nil => rfl
  | cons value rest ih =>
    cases hostReservations with
    | nil => cases same
    | cons first others =>
      have tail := ih (Nat.succ.inj same)
      simp only [batchEntries, zip_cons_cons, map_cons] at tail ⊢
      rw [tail]

variable {queue : BoundedQueue τ} {budget : HostResourceBudget} {accountedBytes : Nat}
  {blocksReplacement : τ → Bool}

/-- A batch that is reserved has one reservation per entry. -/
theorem reserveBatch_length
    (reserves : queue.reserveBatch budget held bytes = (some hostReservations, reserved))
    : hostReservations.length = held.length + bytes.length := by
  induction bytes generalizing budget held with
  | nil =>
    cases reserves
    rfl
  | cons accountedBytes rest ih =>
    unfold reserveBatch at reserves
    split at reserves
    · cases reserves
    · have whole := ih reserves
      simp only [length_append, length_cons, length_nil] at whole ⊢
      omega

theorem Appended.values (appended : queue.Appended budget offered now (.ok (), after, final))
    : after.values = queue.values ++ offered.map Prod.fst := by
  cases appended with
  | nothing empty => simp [empty]
  | appended _ _ reserves =>
    have same := reserveBatch_length reserves
    simp only [length_nil, length_map, Nat.zero_add] at same
    simp only [BoundedQueue.values, map_append, values_batchEntries offered now same]

theorem Appended.refusal
    (appended : queue.Appended budget offered now (.error error, after, final))
    : after = queue := by
  cases appended with
  | refused _ => rfl

/-- A successful replacing push drops the matching entries behind the last barrier and
appends its own. -/
theorem Replaced.entries
    (replaced : queue.Replaced budget value accountedBytes replace blocksReplacement now
      (.ok (), after, final))
    : ∃ hostReservation, after.entries
      = Library.dropReplaced (fun entry => replace entry.value)
          (fun entry => blocksReplacement entry.value) queue.entries
        ++ [⟨value, accountedBytes, now, hostReservation⟩] := by
  cases replaced with
  | appended unmatched pushed =>
    obtain ⟨front, tail, split, floor, ends, clear⟩ :=
      replacementFloor_split blocksReplacement queue.entries
    have behind : queue.entries.drop front.length = tail := by simp [split]
    rw [floor, behind] at unmatched
    have kept : Library.dropReplaced (fun entry => replace entry.value)
        (fun entry => blocksReplacement entry.value) queue.entries = queue.entries := by
      rw [split, Library.dropReplaced_split ends clear,
        filter_eq_self.mpr (fun entry member => by simp [unmatched entry member])]
    rw [kept]
    cases pushed with
    | nothing empty => cases empty
    | appended _ _ reserves =>
      have single := reserveBatch_length reserves
      obtain ⟨hostReservation, rfl⟩ := length_eq_one_iff.mp single
      exact ⟨hostReservation, rfl⟩
  | @replaced front earlier replacement later hostReservation _ split ends clear matched last =>
    have behind : later.filter (fun entry => !replace entry.value) = later :=
      filter_eq_self.mpr (fun entry member => by simp [last entry member])
    have dropped : Library.dropReplaced (fun entry => replace entry.value)
        (fun entry => blocksReplacement entry.value) queue.entries
        = front ++ earlier.filter (fun entry => !replace entry.value) ++ later := by
      rw [split, append_assoc, Library.dropReplaced_split ends clear]
      simp [matched, behind]
    exact ⟨hostReservation, by rw [dropped]⟩

theorem Replaced.refusal
    (replaced : queue.Replaced budget value accountedBytes replace blocksReplacement now
      (.error error, after, final))
    : after = queue := by
  cases replaced with
  | appended _ pushed => exact pushed.refusal
  | refused _ => rfl

theorem Appended.served (appended : queue.Appended budget offered now result)
    (plain : ∀ value bytes replace blocks,
      request ≠ .tryReplaceMatchingOrPush value bytes replace blocks)
    (offers : request.offers = offered.map Prod.fst) (pushes : request ≠ .pop)
    : Served queue request (.pushed result.1) result.2.1.values := by
  obtain ⟨_ | _, after, final⟩ := result
  · have same := appended.refusal
    subst same
    exact .unchanged rfl rfl (fun pops => absurd pops pushes)
  · have grown := appended.values
    rw [← offers] at grown
    simp only [grown]
    exact .appended plain

theorem Replaced.served
    (replaced : queue.Replaced budget value accountedBytes replace blocksReplacement now
      result)
    : Served queue (.tryReplaceMatchingOrPush value accountedBytes replace blocksReplacement)
        (.pushed result.1) result.2.1.values := by
  obtain ⟨_ | _, after, final⟩ := result
  · have same := replaced.refusal
    subst same
    exact .unchanged rfl rfl nofun
  · obtain ⟨hostReservation, entries⟩ := replaced.entries
    have shown : after.values
        = Library.dropReplaced replace blocksReplacement queue.values ++ [value] := by
      simp only [BoundedQueue.values, entries, map_append, map_cons, map_nil,
        Library.map_dropReplaced Entry.value]
    simp only [shown]
    exact .replaced

theorem pop_served (queue : BoundedQueue τ) (budget : HostResourceBudget)
    : Served queue .pop (.popped (queue.pop budget).1) (queue.pop budget).2.1.values := by
  cases shape : queue.entries with
  | cons entry rest =>
    simp only [pop, shape]
    exact .popped (by simp [BoundedQueue.values, shape])
  | nil =>
    simp only [pop, shape]
    have empty : queue.values = [] := by simp [BoundedQueue.values, shape]
    cases queue.closed <;> exact .unchanged rfl rfl (fun _ => empty)

theorem served_serve (queue : BoundedQueue τ) (budget : HostResourceBudget) (now : Nat)
    (request : Request τ)
    : Served queue request (queue.serve budget now request).1
        (queue.serve budget now request).2.1.values := by
  cases request with
  | tryPush value accountedBytes =>
    exact (queue.tryPushAt_appended budget value accountedBytes now).served nofun rfl nofun
  | tryPushBatch values =>
    exact (queue.tryPushBatch_appended budget values now).served nofun rfl nofun
  | tryReplaceMatchingOrPush value accountedBytes replace blocksReplacement =>
    exact (queue.tryReplaceMatchingOrPush_replaced budget value accountedBytes replace
      blocksReplacement now).served
  | pop => exact queue.pop_served budget
  | close => exact .unchanged rfl rfl nofun

end BoundedQueue

end Dure.HostRuntime
