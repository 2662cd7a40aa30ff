import Dure.HostRuntime.ResourceBudget
import Dure.Library.Coalescing
import Mathlib

/-! The bounded queue between the host and one subscriber. The producers never wait: a
record that exceeds the record, byte or age bound, or the host's byte budget, is refused.
-/

namespace Dure.HostRuntime

open HostResourceBudget (QueueReservation)

inductive PushError where
  | closed
  | full
  deriving DecidableEq, Repr

structure Entry (τ : Type) where
  value : τ
  accountedBytes : Nat
  enqueuedAt : Nat
  hostReservation : Option QueueReservation
  deriving DecidableEq, Repr

/-- A queue with the content of its lock. `hostBudget` says whether it was made by
`with_host_budget`; the budget itself is shared and passed to every call. -/
structure BoundedQueue (τ : Type) where
  entries : List (Entry τ) := []
  accountedBytes : Nat := 0
  closed : Bool := false
  maxRecords : Nat
  maxAccountedBytes : Nat
  maxAge : Nat
  hostBudget : Bool
  deriving DecidableEq, Repr

/-- What `pop` does now: it hands out a value, ends, or waits for the next change. -/
inductive Popped (τ : Type) where
  | value (value : τ)
  | ended
  | waiting
  deriving DecidableEq, Repr

namespace BoundedQueue

variable {τ : Type}

/-- The answer of a producer with the queue and the budget that it leaves. -/
abbrev Push (τ : Type) := Except PushError Unit × BoundedQueue τ × HostResourceBudget

/-- The values in the order in which they would be popped. -/
def values (queue : BoundedQueue τ) : List τ := queue.entries.map Entry.value

def oldestExpired (queue : BoundedQueue τ) (now : Nat) : Bool :=
  match queue.entries.head? with
  | some entry => decide (queue.maxAge ≤ now - entry.enqueuedAt)
  | none => false

/-- Refusing for pressure is recorded in the host budget, where there is one. -/
def refuseFull (queue : BoundedQueue τ) (budget : HostResourceBudget) : Push τ :=
  (.error .full, queue, if queue.hostBudget then budget.recordQueueRejection else budget)

/-- The host reservation of one entry; the outer `none` is a refusal. -/
def reserve (queue : BoundedQueue τ) (budget : HostResourceBudget) (accountedBytes : Nat)
    : Option (Option QueueReservation) × HostResourceBudget :=
  if queue.hostBudget then
    match budget.tryReserveQueueBytes accountedBytes with
    | (some reservation, reserved) => (some (some reservation), reserved)
    | (none, refused) => (none, refused)
  else (some none, budget)

/-- The reservations of a batch. When one is refused, those made before it are dropped. -/
def reserveBatch (queue : BoundedQueue τ)
    : HostResourceBudget → List (Option QueueReservation) → List Nat
      → Option (List (Option QueueReservation)) × HostResourceBudget
  | budget, held, [] => (some held, budget)
  | budget, held, accountedBytes :: rest =>
    match queue.reserve budget accountedBytes with
    | (none, refused) => (none, held.foldl HostResourceBudget.releaseHeld refused)
    | (some reservation, reserved) => queue.reserveBatch reserved (held ++ [reservation]) rest

def tryPushAt (queue : BoundedQueue τ) (budget : HostResourceBudget) (value : τ)
    (accountedBytes now : Nat) : Push τ :=
  if queue.closed then (.error .closed, queue, budget)
  else
    let bytesAfter := saturatingAdd queue.accountedBytes accountedBytes
    if queue.oldestExpired now
        || decide (queue.maxRecords ≤ queue.entries.length)
        || decide (queue.maxAccountedBytes < bytesAfter) then
      queue.refuseFull budget
    else
      match queue.reserve budget accountedBytes with
      | (none, refused) => (.error .full, queue, refused)
      | (some hostReservation, reserved) =>
        (.ok (),
          { queue with
            entries := queue.entries
              ++ [⟨value, accountedBytes, now, hostReservation⟩]
            accountedBytes := bytesAfter },
          reserved)

def tryPushBatch (queue : BoundedQueue τ) (budget : HostResourceBudget)
    (values : List (τ × Nat)) (now : Nat) : Push τ :=
  if values.isEmpty then (.ok (), queue, budget)
  else
    let batchBytes := values.foldl (fun total value => saturatingAdd total value.2) 0
    if queue.closed then (.error .closed, queue, budget)
    else
      -- the lengths of two vectors in memory never saturate a `usize`
      let recordsAfter := queue.entries.length + values.length
      let bytesAfter := saturatingAdd queue.accountedBytes batchBytes
      if queue.oldestExpired now
          || decide (queue.maxRecords < recordsAfter)
          || decide (queue.maxAccountedBytes < bytesAfter) then
        queue.refuseFull budget
      else
        match queue.reserveBatch budget [] (values.map Prod.snd) with
        | (none, refused) => (.error .full, queue, refused)
        | (some hostReservations, reserved) =>
          (.ok (),
            { queue with
              entries := queue.entries ++ (values.zip hostReservations).map
                (fun ((value, accountedBytes), hostReservation) =>
                  ⟨value, accountedBytes, now, hostReservation⟩)
              accountedBytes := bytesAfter },
            reserved)

/-- One past the position of the last barrier. -/
def replacementFloor (blocksReplacement : τ → Bool) (entries : List (Entry τ)) : Nat :=
  ((entries.zipIdx.filterMap (fun indexed =>
    if blocksReplacement indexed.1.value then some (indexed.2 + 1) else none)).getLast?).getD 0

/-- The positions of the replaceable entries from the floor on. -/
def matchingPositions (replace : τ → Bool) (floor : Nat) (entries : List (Entry τ))
    : List Nat :=
  (entries.zipIdx.drop floor).filterMap
    (fun indexed => if replace indexed.1.value then some indexed.2 else none)

/-- The bytes of the entries at the positions. -/
def bytesAt (entries : List (Entry τ)) (matching : List Nat) : Nat :=
  matching.foldl
    (fun total index => saturatingAdd total ((entries[index]?.map Entry.accountedBytes).getD 0))
    0

/-- The reuse of the last matching entry's reservation for the new size; `none` is a
refusal. -/
def resizeReplacement (budget : HostResourceBudget) (replacement : Entry τ)
    (accountedBytes : Nat) : Option (Option QueueReservation) × HostResourceBudget :=
  match replacement.hostReservation with
  | none => (some none, budget)
  | some reservation =>
    match budget.tryResize reservation accountedBytes with
    | (some resized, budget) => (some (some resized), budget)
    | (none, budget) => (none, budget)

/-- Removing an entry drops its reservation. -/
def removeEntries (matching : List Nat) (entries : List (Entry τ)) (budget : HostResourceBudget)
    : List (Entry τ) × HostResourceBudget :=
  matching.foldr
    (fun index (kept, budget) =>
      (kept.eraseIdx index, budget.releaseHeld (kept[index]?.bind Entry.hostReservation)))
    (entries, budget)

def tryReplaceMatchingOrPush (queue : BoundedQueue τ) (budget : HostResourceBudget) (value : τ)
    (accountedBytes : Nat) (replace blocksReplacement : τ → Bool) (now : Nat) : Push τ :=
  if queue.closed then (.error .closed, queue, budget)
  else if queue.oldestExpired now then queue.refuseFull budget
  else
    let matching := matchingPositions replace
      (replacementFloor blocksReplacement queue.entries) queue.entries
    match matching.getLast? with
    | some lastMatching =>
      let bytesAfter := saturatingAdd
        (queue.accountedBytes - bytesAt queue.entries matching) accountedBytes
      if queue.maxAccountedBytes < bytesAfter then queue.refuseFull budget
      else
        match queue.entries[lastMatching]? with
        | none => (.error .closed, queue, budget)
        | some replacement =>
          let removed := queue.entries.eraseIdx lastMatching
          match resizeReplacement budget replacement accountedBytes with
          | (none, refused) =>
            (.error .full,
              { queue with entries := removed.insertIdx lastMatching replacement },
              refused)
          | (some hostReservation, resized) =>
            let (kept, released) := removeEntries matching.dropLast removed resized
            (.ok (),
              { queue with
                entries := kept ++ [⟨value, accountedBytes, now, hostReservation⟩]
                accountedBytes := bytesAfter },
              released)
    | none =>
      if decide (queue.maxRecords ≤ queue.entries.length)
          || decide (queue.maxAccountedBytes
            < saturatingAdd queue.accountedBytes accountedBytes) then
        queue.refuseFull budget
      else
        match queue.reserve budget accountedBytes with
        | (none, refused) => (.error .full, queue, refused)
        | (some hostReservation, reserved) =>
          (.ok (),
            { queue with
              entries := queue.entries
                ++ [⟨value, accountedBytes, now, hostReservation⟩]
              accountedBytes := saturatingAdd queue.accountedBytes accountedBytes },
            reserved)

def pop (queue : BoundedQueue τ) (budget : HostResourceBudget)
    : Popped τ × BoundedQueue τ × HostResourceBudget :=
  match queue.entries with
  | entry :: rest =>
    (.value entry.value,
      { queue with
        entries := rest
        accountedBytes := queue.accountedBytes - entry.accountedBytes },
      budget.releaseHeld entry.hostReservation)
  | [] => (if queue.closed then .ended else .waiting, queue, budget)

def close (queue : BoundedQueue τ) : BoundedQueue τ := { queue with closed := true }

/-- `BoundedQueue::new` and `with_host_budget`, past their assertions. -/
def new (τ : Type) (maxRecords maxAccountedBytes maxAge : Nat) (hostBudget : Bool)
    : BoundedQueue τ :=
  { maxRecords, maxAccountedBytes, maxAge, hostBudget }

/-- The saturating sum of the bytes of a batch. -/
def batchBytes (values : List (τ × Nat)) : Nat :=
  values.foldl (fun total value => saturatingAdd total value.2) 0

/-- The entries of a batch. -/
def batchEntries (values : List (τ × Nat)) (now : Nat)
    (hostReservations : List (Option QueueReservation)) : List (Entry τ) :=
  (values.zip hostReservations).map
    (fun ((value, accountedBytes), hostReservation) =>
      ⟨value, accountedBytes, now, hostReservation⟩)

/-- A push of some values appends all of them or leaves the queue as it was. -/
inductive Appended (queue : BoundedQueue τ) (budget : HostResourceBudget)
    (values : List (τ × Nat)) (now : Nat) : Push τ → Prop
  | refused {error refused}
      (unreserved
        : refused = budget ∨ refused = budget.recordQueueRejection
          ∨ queue.reserveBatch budget [] (values.map Prod.snd) = (none, refused))
      : queue.Appended budget values now (.error error, queue, refused)
  | nothing (empty : values = []) : queue.Appended budget values now (.ok (), queue, budget)
  | appended {hostReservations reserved}
      (records : queue.entries.length + values.length ≤ queue.maxRecords)
      (bytes
        : saturatingAdd queue.accountedBytes (batchBytes values) ≤ queue.maxAccountedBytes)
      (reserves
        : queue.reserveBatch budget [] (values.map Prod.snd)
          = (some hostReservations, reserved))
      : queue.Appended budget values now
          (.ok (),
            { queue with
              entries := queue.entries ++ batchEntries values now hostReservations
              accountedBytes := saturatingAdd queue.accountedBytes (batchBytes values) },
            reserved)

/-- A replacing push takes the places of the matching entries behind the last barrier, or
is a push of one value when there are none. -/
inductive Replaced (queue : BoundedQueue τ) (budget : HostResourceBudget) (value : τ)
    (accountedBytes : Nat) (replace blocksReplacement : τ → Bool) (now : Nat) : Push τ → Prop
  | appended {result} (unmatched : ∀ entry ∈ queue.entries.drop
        (replacementFloor blocksReplacement queue.entries), replace entry.value = false)
      (pushed : queue.Appended budget [(value, accountedBytes)] now result)
      : queue.Replaced budget value accountedBytes replace blocksReplacement now result
  | refused {error refused}
      (unreserved
        : refused = budget ∨ refused = budget.recordQueueRejection
          ∨ ∃ replacement ∈ queue.entries,
            resizeReplacement budget replacement accountedBytes = (none, refused))
      : queue.Replaced budget value accountedBytes replace blocksReplacement now
          (.error error, queue, refused)
  | replaced {front earlier replacement later hostReservation resized}
      (split : queue.entries = front ++ earlier ++ replacement :: later)
      (ends : ∀ last ∈ front.getLast?, blocksReplacement last.value = true)
      (clear
        : ∀ entry ∈ earlier ++ replacement :: later, blocksReplacement entry.value = false)
      (matched : replace replacement.value = true)
      (last : ∀ entry ∈ later, replace entry.value = false)
      (bytes
        : saturatingAdd
            (queue.accountedBytes - bytesAt queue.entries
              (Library.positions (fun entry => replace entry.value) front.length
                (earlier ++ replacement :: later)))
            accountedBytes
          ≤ queue.maxAccountedBytes)
      (resizes
        : resizeReplacement budget replacement accountedBytes
          = (some hostReservation, resized))
      : queue.Replaced budget value accountedBytes replace blocksReplacement now
          (.ok (),
            { queue with
              entries := front ++ earlier.filter (fun entry => !replace entry.value) ++ later
                ++ [⟨value, accountedBytes, now, hostReservation⟩]
              accountedBytes := saturatingAdd
                (queue.accountedBytes - bytesAt queue.entries
                  (Library.positions (fun entry => replace entry.value) front.length
                    (earlier ++ replacement :: later)))
                accountedBytes },
            (earlier.filter (fun entry => replace entry.value)).foldr
              (fun entry budget => budget.releaseHeld entry.hostReservation) resized)

theorem refuseFull_cases (queue : BoundedQueue τ) (budget : HostResourceBudget)
    : ∃ refused, queue.refuseFull budget = (.error .full, queue, refused)
      ∧ (refused = budget ∨ refused = budget.recordQueueRejection) := by
  unfold refuseFull
  split
  · exact ⟨_, rfl, Or.inr rfl⟩
  · exact ⟨_, rfl, Or.inl rfl⟩

/-- Reserving for one entry is the batch of one. -/
theorem reserveBatch_single (queue : BoundedQueue τ) (budget : HostResourceBudget)
    (accountedBytes : Nat)
    : queue.reserveBatch budget [] [accountedBytes]
      = ((queue.reserve budget accountedBytes).1.map ([·]),
          (queue.reserve budget accountedBytes).2) := by
  rcases reserved : queue.reserve budget accountedBytes with ⟨_ | reservation, after⟩ <;>
    simp [reserveBatch, reserved]

theorem saturatingAdd_batchBytes_single (total : Nat) (value : τ) (accountedBytes : Nat)
    : saturatingAdd total (batchBytes [(value, accountedBytes)])
      = saturatingAdd total accountedBytes := by
  simp only [batchBytes, List.foldl_cons, List.foldl_nil, saturatingAdd]
  omega

/-- The end of both single pushes: past the bounds, the host decides. -/
theorem appended_single {queue : BoundedQueue τ} {budget : HostResourceBudget} {value : τ}
    {accountedBytes now : Nat} (records : queue.entries.length < queue.maxRecords)
    (bytes : saturatingAdd queue.accountedBytes accountedBytes ≤ queue.maxAccountedBytes)
    : queue.Appended budget [(value, accountedBytes)] now
        (match queue.reserve budget accountedBytes with
        | (none, refused) => (.error .full, queue, refused)
        | (some hostReservation, reserved) =>
          (.ok (),
            { queue with
              entries := queue.entries
                ++ [⟨value, accountedBytes, now, hostReservation⟩]
              accountedBytes := saturatingAdd queue.accountedBytes accountedBytes },
            reserved)) := by
  have single := queue.reserveBatch_single budget accountedBytes
  rcases reserved : queue.reserve budget accountedBytes with ⟨_ | hostReservation, after⟩
  · rw [reserved] at single
    exact .refused (Or.inr (Or.inr single))
  · rw [reserved] at single
    have whole := saturatingAdd_batchBytes_single queue.accountedBytes value accountedBytes
    have pushed : queue.Appended budget [(value, accountedBytes)] now _ :=
      .appended records (whole ▸ bytes) single
    rwa [whole] at pushed

theorem tryPushAt_appended (queue : BoundedQueue τ) (budget : HostResourceBudget) (value : τ)
    (accountedBytes now : Nat)
    : queue.Appended budget [(value, accountedBytes)] now
        (queue.tryPushAt budget value accountedBytes now) := by
  unfold tryPushAt
  split
  · exact .refused (Or.inl rfl)
  · dsimp only
    split
    · obtain ⟨refused, shape, kept⟩ := queue.refuseFull_cases budget
      rw [shape]
      exact .refused (kept.imp_right Or.inl)
    · rename_i bounded
      simp only [Bool.or_eq_true, decide_eq_true_eq, not_or, Nat.not_le, Nat.not_lt] at bounded
      exact appended_single bounded.1.2 bounded.2

theorem tryPushBatch_appended (queue : BoundedQueue τ) (budget : HostResourceBudget)
    (values : List (τ × Nat)) (now : Nat)
    : queue.Appended budget values now (queue.tryPushBatch budget values now) := by
  unfold tryPushBatch
  split
  · rename_i empty
    exact .nothing (List.isEmpty_iff.mp empty)
  · dsimp only
    split
    · exact .refused (Or.inl rfl)
    · split
      · obtain ⟨refused, shape, kept⟩ := queue.refuseFull_cases budget
        rw [shape]
        exact .refused (kept.imp_right Or.inl)
      · rename_i bounded
        simp only [Bool.or_eq_true, decide_eq_true_eq, not_or, Nat.not_lt] at bounded
        split
        · rename_i refused reserves
          exact .refused (Or.inr (Or.inr reserves))
        · rename_i hostReservations reserved reserves
          exact .appended bounded.1.2 bounded.2 reserves

/-- The floor stands behind the last barrier. -/
theorem replacementFloor_split (blocksReplacement : τ → Bool) (entries : List (Entry τ))
    : ∃ front tail, entries = front ++ tail
      ∧ replacementFloor blocksReplacement entries = front.length
      ∧ (∀ last ∈ front.getLast?, blocksReplacement last.value = true)
      ∧ (∀ entry ∈ tail, blocksReplacement entry.value = false) := by
  have positioned : entries.zipIdx.filterMap (fun indexed =>
        if blocksReplacement indexed.1.value then some (indexed.2 + 1) else none)
      = Library.positions (fun entry => blocksReplacement entry.value) 1 entries := by
    rw [Library.positions, ← Nat.zero_add 1, List.zipIdx_succ, List.filterMap_map]
    rfl
  unfold replacementFloor
  rw [positioned]
  cases found : (Library.positions (fun entry => blocksReplacement entry.value) 1
      entries).getLast? with
  | none =>
    refine ⟨[], entries, rfl, rfl, by simp, ?_⟩
    exact Library.positions_eq_nil _ (List.getLast?_eq_none_iff.mp found)
  | some last =>
    obtain ⟨earlier, entry, later, rfl, barrier, clear, rfl, -⟩ :=
      Library.positions_last _ found
    refine ⟨earlier ++ [entry], later, by simp, ?_, by simpa using barrier, clear⟩
    simp [Nat.add_comm]

/-- Removing the positions of the matching entries, from the last to the first, leaves the
others in their order and drops the reservations of the removed ones.
Witness: induction on the entries; the first position is removed last, when everything
behind it has already been filtered.
-/
theorem removeEntries_positions (selects : Entry τ → Bool) (front entries back : List (Entry τ))
    (budget : HostResourceBudget)
    : removeEntries (Library.positions selects front.length entries) (front ++ entries ++ back)
        budget
      = (front ++ entries.filter (fun entry => !selects entry) ++ back,
          (entries.filter selects).foldr
            (fun entry budget => budget.releaseHeld entry.hostReservation) budget) := by
  induction entries generalizing front with
  | nil => simp [Library.positions, removeEntries]
  | cons entry rest ih =>
    have behind := ih (front ++ [entry])
    simp only [List.length_append, List.length_cons, List.length_nil, Nat.zero_add,
      List.append_assoc, List.cons_append, List.nil_append] at behind
    cases selected : selects entry with
    | true =>
      simp only [Library.positions_cons, selected, if_true, removeEntries,
        List.foldr_cons, List.append_assoc, List.cons_append]
      rw [← removeEntries, behind]
      simp [selected, List.eraseIdx_append_of_length_le]
    | false =>
      simp [Library.positions_cons, selected, behind]

theorem tryReplaceMatchingOrPush_replaced (queue : BoundedQueue τ) (budget : HostResourceBudget)
    (value : τ) (accountedBytes : Nat) (replace blocksReplacement : τ → Bool) (now : Nat)
    : queue.Replaced budget value accountedBytes replace blocksReplacement now
        (queue.tryReplaceMatchingOrPush budget value accountedBytes replace blocksReplacement
          now) := by
  have full : queue.Replaced budget value accountedBytes replace blocksReplacement now
      (queue.refuseFull budget) := by
    obtain ⟨refused, shape, kept⟩ := queue.refuseFull_cases budget
    rw [shape]
    exact .refused (kept.imp_right Or.inl)
  unfold tryReplaceMatchingOrPush
  split
  · exact .refused (Or.inl rfl)
  · split
    · exact full
    · obtain ⟨front, tail, split, floor, ends, clear⟩ :=
        replacementFloor_split blocksReplacement queue.entries
      have behind : queue.entries.drop front.length = tail := by simp [split]
      have matching : matchingPositions replace
            (replacementFloor blocksReplacement queue.entries) queue.entries
          = Library.positions (fun entry => replace entry.value) front.length tail := by
        rw [matchingPositions, floor, ← behind]
        exact Library.filterMap_drop_zipIdx (fun entry : Entry τ => replace entry.value) _ _
      dsimp only
      rw [matching]
      cases found : (Library.positions (fun entry => replace entry.value) front.length
          tail).getLast? with
      | none =>
        have unmatched := Library.positions_eq_nil _ (List.getLast?_eq_none_iff.mp found)
        rw [← behind, ← floor] at unmatched
        dsimp only
        split
        · exact full
        · rename_i bounded
          simp only [Bool.or_eq_true, decide_eq_true_eq, not_or, Nat.not_le, Nat.not_lt] at bounded
          exact .appended unmatched (appended_single bounded.1 bounded.2)
      | some last =>
        obtain ⟨earlier, replacement, later, rfl, matched, none, rfl, shape⟩ :=
          Library.positions_last _ found
        have standing : queue.entries = (front ++ earlier) ++ replacement :: later := by
          rw [split, List.append_assoc]
        have position : front.length + earlier.length = (front ++ earlier).length :=
          List.length_append.symm
        have present : queue.entries[front.length + earlier.length]? = some replacement := by
          rw [standing, position, List.getElem?_append_right (Nat.le_refl _)]
          simp
        have removed : queue.entries.eraseIdx (front.length + earlier.length)
            = front ++ earlier ++ later := by
          rw [standing, position, List.eraseIdx_append_of_length_le (Nat.le_refl _)]
          simp
        dsimp only
        split
        · exact full
        · rename_i bounded
          rw [present]
          dsimp only
          rcases resizes : resizeReplacement budget replacement accountedBytes
            with ⟨_ | hostReservation, resized⟩
          · have restored : (queue.entries.eraseIdx (front.length + earlier.length)).insertIdx
                  (front.length + earlier.length) replacement
                = queue.entries := by
              obtain ⟨inside, there⟩ := List.getElem?_eq_some_iff.mp present
              rw [← there, List.insertIdx_eraseIdx_getElem inside]
            dsimp only
            rw [restored]
            exact .refused (Or.inr (Or.inr ⟨replacement, by simp [standing], resizes⟩))
          · have dropped : removeEntries ((Library.positions
                  (fun entry => replace entry.value) front.length
                  (earlier ++ replacement :: later)).dropLast)
                  (queue.entries.eraseIdx (front.length + earlier.length)) resized
                = (front ++ earlier.filter (fun entry => !replace entry.value) ++ later,
                    (earlier.filter (fun entry => replace entry.value)).foldr
                      (fun entry budget => budget.releaseHeld entry.hostReservation)
                      resized) := by
              rw [shape, List.dropLast_concat, removed]
              exact removeEntries_positions (fun entry => replace entry.value) front earlier
                later resized
            dsimp only
            rw [dropped]
            exact .replaced standing ends clear matched none (Nat.le_of_not_lt bounded)
              resizes

end BoundedQueue

end Dure.HostRuntime
