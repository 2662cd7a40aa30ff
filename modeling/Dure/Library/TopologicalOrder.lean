import Mathlib

/-! Ordering a finite collection by repeatedly taking its first ready item, where an item is
ready or not depending on the items that remain.
-/

namespace Dure.Library

open List

variable {α : Type} [DecidableEq α]

/-- Take ready items until none remain; none when no remaining item is ready. One unit of
fuel is one item taken. -/
def takeReady (ready : List α → α → Bool) : Nat → List α → Option (List α)
  | _, [] => some []
  | 0, _ :: _ => none
  | fuel + 1, remaining =>
    match remaining.find? (ready remaining) with
    | none => none
    | some next => (next :: ·) <$> takeReady ready fuel (remaining.erase next)

def topologicalOrder (ready : List α → α → Bool) (items : List α) : Option (List α) :=
  takeReady ready items.length items

section

variable {ready : List α → α → Bool} {fuel : Nat} {remaining order : List α}

/-- An order of remaining items starts with one that is ready among them. -/
theorem takeReady_cons (nonempty : remaining ≠ [])
    (ordered : takeReady ready fuel remaining = some order)
    : ∃ fuel' next rest, fuel = fuel' + 1 ∧ order = next :: rest
        ∧ remaining.find? (ready remaining) = some next
        ∧ takeReady ready fuel' (remaining.erase next) = some rest := by
  cases remaining with
  | nil => exact absurd rfl nonempty
  | cons first others =>
    cases fuel with
    | zero => simp [takeReady] at ordered
    | succ fuel =>
      rw [takeReady] at ordered
      · split at ordered
        · cases ordered
        · rename_i next found
          obtain ⟨rest, taken, rfl⟩ := Option.map_eq_some_iff.mp ordered
          exact ⟨fuel, next, rest, rfl, rfl, found, taken⟩
      · simp

/-- The order lists the items, by induction on the items taken. -/
theorem takeReady_perm (ordered : takeReady ready fuel remaining = some order)
    : order.Perm remaining := by
  induction order generalizing fuel remaining with
  | nil =>
    by_cases empty : remaining = []
    · rw [empty]
    · obtain ⟨_, _, _, _, impossible, _⟩ := takeReady_cons empty ordered
      cases impossible
  | cons next rest ih =>
    have nonempty : remaining ≠ [] := by
      rintro rfl
      simp [takeReady] at ordered
    obtain ⟨fuel', _, _, _, same, found, taken⟩ := takeReady_cons nonempty ordered
    cases same
    exact ((ih taken).cons next).trans
      (perm_cons_erase (mem_of_find?_eq_some found)).symm

/-- Every item was the first to be ready among itself and the items after it. -/
theorem takeReady_first (ordered : takeReady ready fuel remaining = some order)
    {before after : List α} {item : α} (split : order = before ++ item :: after)
    : ∃ others : List α, others.Sublist remaining ∧ others.Perm (item :: after)
        ∧ others.find? (ready others) = some item := by
  induction before generalizing fuel remaining order with
  | nil =>
    have nonempty : remaining ≠ [] := by
      rintro rfl
      simp [takeReady, split] at ordered
    have perm := takeReady_perm ordered
    obtain ⟨_, _, _, _, same, found, _⟩ := takeReady_cons nonempty ordered
    rw [split] at same perm
    cases same
    exact ⟨remaining, .refl _, perm.symm, found⟩
  | cons first before ih =>
    have nonempty : remaining ≠ [] := by
      rintro rfl
      simp [takeReady, split] at ordered
    obtain ⟨_, _, _, _, same, _, taken⟩ := takeReady_cons nonempty ordered
    rw [split] at same
    cases same
    obtain ⟨others, inside, rest⟩ := ih taken rfl
    exact ⟨others, inside.trans erase_sublist, rest⟩

/-- All items are taken when some item of every nonempty part of them is ready. -/
theorem takeReady_total (enough : remaining.length ≤ fuel)
    (some_ready
      : ∀ others : List α, others.Sublist remaining → others ≠ []
        → ∃ item ∈ others, ready others item = true)
    : ∃ order, takeReady ready fuel remaining = some order := by
  induction fuel generalizing remaining with
  | zero =>
    rw [length_eq_zero_iff.mp (Nat.le_zero.mp enough)]
    exact ⟨[], rfl⟩
  | succ fuel ih =>
    by_cases empty : remaining = []
    · exact ⟨[], by rw [empty, takeReady]⟩
    obtain ⟨item, member, isReady⟩ := some_ready remaining (.refl _) empty
    obtain ⟨next, found⟩ := Option.isSome_iff_exists.mp
      (find?_isSome.mpr ⟨item, member, isReady⟩)
    have length := length_erase_of_mem (mem_of_find?_eq_some found)
    have later : ∃ rest, takeReady ready fuel (remaining.erase next) = some rest :=
      ih (by omega) (fun others inside => some_ready others (inside.trans erase_sublist))
    obtain ⟨rest, taken⟩ := later
    refine ⟨next :: rest, ?_⟩
    rw [takeReady, found]
    · simp [taken]
    · exact empty

end

section

variable {ready : List α → α → Bool} {items order : List α}
  (ordered : topologicalOrder ready items = some order)
include ordered

theorem topologicalOrder_perm
    : order.Perm items :=
  takeReady_perm ordered

variable {before after : List α} {item other : α} (split : order = before ++ item :: after)
include split

/-- When the items are sorted, every item is the least one that was ready. -/
theorem topologicalOrder_least {le : α → α → Prop} (refl : ∀ item, le item item)
    (sorted : items.Pairwise le) (later : other ∈ item :: after)
    (isReady : ∀ others : List α, others.Perm (item :: after) → ready others other = true)
    : le item other := by
  obtain ⟨others, inside, perm, found⟩ := takeReady_first ordered split
  obtain ⟨_, skipped, rest, rfl, unready⟩ := find?_eq_some_iff_append.mp found
  have listed := perm.mem_iff.mpr later
  rcases mem_append.mp listed with skips | heldBack
  · have silent := unready other skips
    rw [isReady _ perm] at silent
    cases silent
  · have tail := (pairwise_append.mp (sorted.sublist inside)).2.1
    rcases mem_cons.mp heldBack with rfl | follows
    · exact refl other
    · exact (pairwise_cons.mp tail).1 other follows

/-- When readiness means that no remaining item precedes the item, the order respects the
precedence. -/
theorem topologicalOrder_respects {precedes : α → α → Prop}
    (meaning : ∀ others item, ready others item = true → ∀ other ∈ others, ¬precedes other item)
    (member : other ∈ items) (first : precedes other item)
    : other ∈ before := by
  obtain ⟨others, _, perm, found⟩ := takeReady_first ordered split
  have listed : other ∈ before ++ item :: after := by
    rw [← split]
    exact (topologicalOrder_perm ordered).mem_iff.mpr member
  rcases mem_append.mp listed with earlier | later
  · exact earlier
  · exact absurd first
      (meaning others item (find?_some found) other (perm.mem_iff.mpr later))

end

/-- There is an order exactly when no item comes before itself. Witness: a cycle would lead
back to an earlier place of the order; without one the precedence is well-founded on every
part of the items, and a least item of the part is ready. -/
theorem topologicalOrder_iff_acyclic {ready : List α → α → Bool} {items : List α}
    {precedes : α → α → Prop}
    (meaning : ∀ others item, ready others item = true ↔ ∀ other ∈ others, ¬precedes other item)
    (inside : ∀ {first second}, precedes first second → first ∈ items ∧ second ∈ items)
    : (∃ order, topologicalOrder ready items = some order)
      ↔ ∀ item, ¬Relation.TransGen precedes item item := by
  constructor
  · rintro ⟨order, ordered⟩ item cycle
    have places {first second : α} (precedes : precedes first second)
        : order.idxOf first < order.idxOf second := by
      obtain ⟨isFirst, isSecond⟩ := inside precedes
      obtain ⟨before, after, split, fresh⟩ := eq_append_cons_of_mem
        ((topologicalOrder_perm ordered).mem_iff.mpr isSecond)
      have earlier := topologicalOrder_respects ordered split (fun _ _ => (meaning _ _).mp)
        isFirst precedes
      rw [split, idxOf_append_of_mem earlier, idxOf_append_of_notMem fresh]
      have := idxOf_lt_length_of_mem earlier
      omega
    have grows {first second : α} (path : Relation.TransGen precedes first second)
        : order.idxOf first < order.idxOf second := by
      induction path with
      | single step => exact places step
      | tail _ step ih => exact ih.trans (places step)
    exact lt_irrefl _ (grows cycle)
  · intro acyclic
    refine takeReady_total (le_refl _) (fun others _ nonempty => ?_)
    let below (first second : { item // item ∈ others }) : Prop :=
      Relation.TransGen precedes first.1 second.1
    have : Finite { item // item ∈ others } := (finite_toSet others).to_subtype
    have : IsTrans _ below := ⟨fun _ _ _ => Relation.TransGen.trans⟩
    have : Std.Irrefl below := ⟨fun item => acyclic item.1⟩
    obtain ⟨first, member⟩ := exists_mem_of_ne_nil others nonempty
    obtain ⟨least, _, minimal⟩ := (Finite.wellFounded_of_trans_of_irrefl below).has_min
      Set.univ ⟨⟨first, member⟩, trivial⟩
    exact ⟨least.1, least.2, (meaning _ _).mpr (fun other isOther step =>
      minimal ⟨other, isOther⟩ trivial (.single step))⟩

end Dure.Library
