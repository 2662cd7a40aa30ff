import Dure.Library.FirstMatch

/-! Lists that grow: every item keeps its place and changes only as a relation allows, and
new items come after the old ones.
-/

namespace Dure.Library

variable {α : Type} {relation : α → α → Prop}

/-- Every item of `before` has a successor at its place in `after`. -/
def Grows (relation : α → α → Prop) (before after : List α) : Prop :=
  ∀ (index : Nat) (item : α), before[index]? = some item
    → ∃ successor, after[index]? = some successor ∧ relation item successor

variable {update : α → α} {item : α} {before after : List α}

namespace Grows

theorem trans {middle : List α} (earlier : Grows relation before middle)
    (later : Grows relation middle after)
    (compose
      : ∀ {first second third}, relation first second → relation second third
        → relation first third)
    : Grows relation before after := by
  intro index item found
  obtain ⟨next, foundNext, first⟩ := earlier index item found
  obtain ⟨last, foundLast, second⟩ := later index next foundNext
  exact ⟨last, foundLast, compose first second⟩

theorem map (items : List α) (advances : ∀ item ∈ items, relation item (update item))
    : Grows relation items (items.map update) := by
  intro index item found
  exact ⟨update item, by simp [found], advances item (List.mem_of_getElem? found)⟩

section

variable (self : ∀ item, relation item item)
include self

theorem refl (items : List α)
    : Grows relation items items :=
  fun _ item found => ⟨item, found, self item⟩

theorem append (before new : List α)
    : Grows relation before (before ++ new) := by
  intro index item found
  refine ⟨item, ?_, self item⟩
  rw [List.getElem?_append_left (List.getElem?_eq_some_iff.mp found).1, found]

theorem modify (items : List α) (index : Nat)
    (advances : ∀ item, items[index]? = some item → relation item (update item))
    : Grows relation items (items.modify index update) := by
  intro place item found
  by_cases here : index = place
  · subst here
    exact ⟨update item, by simp [found], advances item found⟩
  · exact ⟨item, by simp [here, found], self item⟩

theorem updateFirst {select : α → Bool} (items : List α)
    (advances : ∀ item, items.find? select = some item → relation item (update item))
    : Grows relation items (Library.updateFirst select update items) := by
  intro index item found
  have related := forall₂_updateFirst self advances
  obtain ⟨bound, rfl⟩ := List.getElem?_eq_some_iff.mp found
  have same := related.length_eq
  exact ⟨_, List.getElem?_eq_getElem (same ▸ bound), related.get bound (same ▸ bound)⟩

end

/-- No item disappears. -/
theorem mem (grows : Grows relation before after) (member : item ∈ before)
    : ∃ successor ∈ after, relation item successor := by
  obtain ⟨index, found⟩ := List.getElem?_of_mem member
  obtain ⟨successor, foundNext, related⟩ := grows index item found
  exact ⟨successor, List.mem_of_getElem? foundNext, related⟩

/-- A search by what the relation keeps finds the successor of what it found. -/
theorem find? {query : α → Bool}
    (keeps : ∀ {item successor}, relation item successor → query successor = query item)
    (grows : Grows relation before after) (found : before.find? query = some item)
    : ∃ successor, after.find? query = some successor ∧ relation item successor := by
  obtain ⟨queried, index, bound, rfl, earlier⟩ := List.find?_eq_some_iff_getElem.mp found
  obtain ⟨successor, isSuccessor, related⟩ :=
    grows index _ (List.getElem?_eq_getElem bound)
  obtain ⟨boundNext, rfl⟩ := List.getElem?_eq_some_iff.mp isSuccessor
  refine ⟨_, List.find?_eq_some_iff_getElem.mpr ⟨?_, index, boundNext, rfl, ?_⟩, related⟩
  · rw [keeps related, queried]
  · intro place precedes
    obtain ⟨other, isOther, relatedOther⟩ :=
      grows place _ (List.getElem?_eq_getElem (Nat.lt_trans precedes bound))
    obtain ⟨_, rfl⟩ := List.getElem?_eq_some_iff.mp isOther
    rw [keeps relatedOther]
    exact earlier place precedes

end Grows

/-- An item of a list that grew by one is the new one or stood there before. -/
theorem append_singleton_split {items : List α} {last : α}
    (split : items ++ [last] = before ++ item :: after)
    : (after = [] ∧ last = item ∧ items = before)
      ∨ ∃ rest, after = rest ++ [last] ∧ items = before ++ item :: rest := by
  rcases List.eq_nil_or_concat after with rfl | ⟨rest, final, rfl⟩
  · obtain ⟨same, isLast⟩ := List.append_inj' split rfl
    exact Or.inl ⟨rfl, by simpa using isLast, same⟩
  · rw [List.concat_eq_append, ← List.cons_append, ← List.append_assoc] at split
    obtain ⟨same, isLast⟩ := List.append_inj' split rfl
    obtain rfl : last = final := by simpa using isLast
    exact Or.inr ⟨rest, by simp, same⟩

end Dure.Library
