import Mathlib

/-! Pages of a set of cursors: sort, drop repetitions, and take the first few after the
reader's cursor. The reader's next cursor is the last one taken.
-/

namespace Dure.Library

open List

variable {α : Type}

/-- Remove consecutive repetitions. -/
def dedup [DecidableEq α] : List α → List α
  | [] => []
  | [item] => [item]
  | first :: second :: rest =>
    if first = second then dedup (second :: rest) else first :: dedup (second :: rest)

variable {items : List α} {item start : α} {limit : Nat}

theorem mem_dedup [DecidableEq α]
    : item ∈ dedup items ↔ item ∈ items := by
  fun_induction dedup items with
  | case1 => rfl
  | case2 => rfl
  | case3 second rest ih => simp [ih]
  | case4 first second rest different ih =>
    rw [mem_cons, mem_cons, ih]

variable [LinearOrder α]

/-- Without repetitions a sorted list is strictly increasing. -/
theorem dedup_strict (sorted : items.Pairwise (· ≤ ·))
    : (dedup items).Pairwise (· < ·) := by
  fun_induction dedup items with
  | case1 => exact .nil
  | case2 => exact pairwise_singleton _ _
  | case3 second rest ih => exact ih (pairwise_cons.mp sorted).2
  | case4 first second rest different ih =>
    obtain ⟨below, tail⟩ := pairwise_cons.mp sorted
    refine pairwise_cons.mpr ⟨?_, ih tail⟩
    intro item member
    have later : item ∈ second :: rest := mem_dedup.mp member
    have next : first < second :=
      lt_of_le_of_ne (below second mem_cons_self) different
    rcases mem_cons.mp later with rfl | last
    · exact next
    · exact next.trans_le ((pairwise_cons.mp tail).1 item last)

/-- The first `limit` items of a collection, in order and without repetitions. -/
def page (limit : Nat) (items : List α) : List α :=
  (dedup (items.insertionSort (· ≤ ·))).take limit

theorem page_strict (limit : Nat) (items : List α) : (page limit items).Pairwise (· < ·) :=
  (dedup_strict (pairwise_insertionSort _ _)).sublist (take_sublist _ _)

theorem mem_of_mem_page (member : item ∈ page limit items)
    : item ∈ items := by
  have kept := mem_dedup.mp (mem_of_mem_take member)
  exact (mem_insertionSort _).mp kept

/-- In a strictly increasing list, the first items are those up to the last one taken. -/
theorem mem_take_iff_le_last (strict : items.Pairwise (· < ·))
    (above : ∀ item ∈ items, start < item) (limit : Nat)
    : item ∈ items.take limit
      ↔ item ∈ items ∧ item ≤ (items.take limit).getLast?.getD start := by
  induction items generalizing start limit with
  | nil => simp
  | cons head rest ih =>
    obtain ⟨below, tail⟩ := pairwise_cons.mp strict
    cases limit with
    | zero =>
      simp only [take_zero, not_mem_nil, getLast?_nil, Option.getD_none,
        false_iff, not_and, not_le]
      exact above item
    | succ limit =>
      have later := ih tail below limit
      have last : ((head :: rest).take (limit + 1)).getLast?.getD start
          = (rest.take limit).getLast?.getD head := by
        cases taken : rest.take limit <;> simp [taken, getLast?_cons]
      have least : head ≤ (rest.take limit).getLast?.getD head := by
        cases taken : (rest.take limit).getLast? with
        | none => exact le_rfl
        | some final =>
          exact (below final (mem_of_mem_take (mem_of_getLast? taken))).le
      rw [last, take_succ_cons, mem_cons, later, mem_cons]
      constructor
      · rintro (rfl | ⟨member, bound⟩)
        · exact ⟨Or.inl rfl, least⟩
        · exact ⟨Or.inr member, bound⟩
      · rintro ⟨rfl | member, bound⟩
        · exact Or.inl rfl
        · exact Or.inr ⟨member, bound⟩

/-- A page of items above `start` holds exactly those up to its last one. -/
theorem mem_page (above : ∀ item ∈ items, start < item)
    : item ∈ page limit items
      ↔ item ∈ items ∧ item ≤ (page limit items).getLast?.getD start := by
  have members : ∀ item, item ∈ dedup (items.insertionSort (· ≤ ·)) ↔ item ∈ items :=
    fun item => mem_dedup.trans (mem_insertionSort _)
  rw [page, mem_take_iff_le_last (dedup_strict (pairwise_insertionSort _ _))
    (fun item member => above item ((members item).mp member)), members]

end Dure.Library
