import Mathlib

/-! Updating the first record that a predicate selects: the indexed write to the position
that a search returned.
-/

namespace Dure.Library

open List

variable {α β : Type}

/-- Replace the first item satisfying `select` by its `update`. -/
def updateFirst (select : α → Bool) (update : α → α) : List α → List α
  | [] => []
  | item :: rest =>
    if select item then update item :: rest else item :: updateFirst select update rest

variable {items : List α} {select query keep : α → Bool} {update : α → α} {item old : α}
  {project : α → β} {index : Nat} {κ : Type}

/-- Where no key repeats, the search for an item's key finds the item. -/
theorem find?_of_nodup [DecidableEq κ] {key : α → κ} (unique : (items.map key).Nodup)
    (member : item ∈ items)
    : items.find? (fun other => key other == key item) = some item := by
  induction items with
  | nil => simp at member
  | cons head rest ih =>
    obtain ⟨absent, tail⟩ := nodup_cons.mp unique
    rcases mem_cons.mp member with rfl | later
    · simp
    · have different : (key head == key item) = false := by
        refine beq_false_of_ne (fun same => absent ?_)
        exact same ▸ mem_map_of_mem later
      rw [find?_cons, different]
      exact ih tail later

/-- Only the selected item may be new. -/
theorem mem_updateFirst (member : item ∈ updateFirst select update items)
    : item ∈ items ∨ ∃ old, items.find? select = some old ∧ item = update old := by
  induction items with
  | nil => exact Or.inl member
  | cons head rest ih =>
    rw [updateFirst] at member
    split at member
    · rename_i selected
      rcases mem_cons.mp member with same | later
      · exact Or.inr ⟨head, by simp [selected], same⟩
      · exact Or.inl (mem_cons_of_mem _ later)
    · rename_i skipped
      rcases mem_cons.mp member with same | later
      · exact Or.inl (by simp [same])
      · rcases ih later with old | ⟨old, found, same⟩
        · exact Or.inl (mem_cons_of_mem _ old)
        · exact Or.inr ⟨old, by simp [skipped, found], same⟩

/-- Where no key repeats, an item that is not the updated one has another key. -/
theorem mem_updateFirst_key [DecidableEq κ] {key : α → κ} {target : κ}
    (unique : (items.map key).Nodup)
    (member : item ∈ updateFirst (fun other => key other == target) update items)
    : (item ∈ items ∧ key item ≠ target)
      ∨ ∃ old, items.find? (fun other => key other == target) = some old
        ∧ item = update old := by
  induction items with
  | nil => simp [updateFirst] at member
  | cons head rest ih =>
    obtain ⟨absent, tail⟩ := nodup_cons.mp unique
    rw [updateFirst] at member
    by_cases selected : key head = target
    · rw [if_pos (by simpa using selected)] at member
      rcases mem_cons.mp member with same | later
      · exact Or.inr ⟨head, by simp [selected], same⟩
      · refine Or.inl ⟨mem_cons_of_mem _ later, fun same => absent ?_⟩
        rw [selected, ← same]
        exact mem_map_of_mem later
    · rw [if_neg (by simpa using selected)] at member
      rcases mem_cons.mp member with same | later
      · exact Or.inl ⟨by simp [same], same ▸ selected⟩
      · rcases ih tail later with ⟨old, other⟩ | ⟨old, found, same⟩
        · exact Or.inl ⟨mem_cons_of_mem _ old, other⟩
        · exact Or.inr ⟨old, by simp [selected, found], same⟩

/-- A projection that the update of the item found keeps is unchanged along the list. -/
theorem map_updateFirst (project : α → β)
    (keeps : ∀ old, items.find? select = some old → project (update old) = project old)
    : (updateFirst select update items).map project = items.map project := by
  induction items with
  | nil => rfl
  | cons head rest ih =>
    rw [updateFirst]
    by_cases selected : select head
    · simp [selected, keeps head (by simp [selected])]
    · simp [selected, ih (fun old found => keeps old (by simpa [selected] using found))]

theorem map_modify (project : α → β) (keeps : ∀ item, project (update item) = project item)
    (items : List α) (index : Nat)
    : (items.modify index update).map project = items.map project := by
  induction items generalizing index with
  | nil => simp
  | cons head rest ih => cases index <;> simp [keeps, ih]

theorem mem_modify (member : item ∈ items.modify index update)
    : item ∈ items ∨ ∃ old, items[index]? = some old ∧ item = update old := by
  obtain ⟨place, found⟩ := getElem?_of_mem member
  rw [getElem?_modify] at found
  split at found
  · rename_i here
    subst here
    obtain ⟨old, isOld, rfl⟩ := Option.map_eq_some_iff.mp found
    exact Or.inr ⟨old, isOld, rfl⟩
  · exact Or.inl (mem_of_getElem? (by simpa using found))

/-- The search finds the updated item where it found the old one. -/
theorem find?_updateFirst (keeps : ∀ item, select (update item) = select item) (items : List α)
    : (updateFirst select update items).find? select = (items.find? select).map update := by
  induction items with
  | nil => rfl
  | cons head rest ih =>
    rw [updateFirst]
    by_cases selected : select head
    · simp [selected, keeps]
    · simp [selected, ih]

section

variable (keeps : ∀ item, query (update item) = query item)
include keeps

/-- A search whose outcome the update does not influence finds the same item or its
update. -/
theorem find?_updateFirst_other
    (apart : ∀ item, select item = true → query item = false) (items : List α)
    : (updateFirst select update items).find? query = items.find? query := by
  induction items with
  | nil => rfl
  | cons head rest ih =>
    rw [updateFirst]
    by_cases selected : select head
    · simp [selected, keeps, apart head selected]
    · simp only [selected, Bool.false_eq_true, if_false]
      simp only [find?_cons, ih]

/-- A search and a projection that the update does not influence. -/
theorem find?_map_updateFirst (projects : ∀ item, project (update item) = project item)
    (items : List α)
    : ((updateFirst select update items).find? query).map project
      = (items.find? query).map project := by
  induction items with
  | nil => rfl
  | cons head rest ih =>
    rw [updateFirst]
    by_cases selected : select head
    · by_cases queried : query head <;> simp [selected, keeps, queried, projects]
    · by_cases queried : query head <;> simp [selected, queried, ih]

theorem find?_map_modify (projects : ∀ item, project (update item) = project item)
    (items : List α) (index : Nat)
    : ((items.modify index update).find? query).map project
      = (items.find? query).map project := by
  induction items generalizing index with
  | nil => simp
  | cons head rest ih =>
    cases index with
    | zero =>
      by_cases queried : query head
      · simp [queried, keeps, projects]
      · simp [queried, keeps]
    | succ index =>
      by_cases queried : query head
      · simp [queried]
      · simp [queried, ih]

end

/-- Two writes to the same place are one. -/
theorem updateFirst_updateFirst {first second : α → α}
    (keeps : ∀ item, select (first item) = select item) (items : List α)
    : updateFirst select second (updateFirst select first items)
      = updateFirst select (second ∘ first) items := by
  induction items with
  | nil => rfl
  | cons head rest ih =>
    by_cases selected : select head <;> simp [updateFirst, selected, keeps, ih]

/-- Only what an update does to the item found matters. -/
theorem updateFirst_congr {first second : α → α}
    (same : ∀ old, items.find? select = some old → first old = second old)
    : updateFirst select first items = updateFirst select second items := by
  induction items with
  | nil => rfl
  | cons head rest ih =>
    by_cases selected : select head
    · simp [updateFirst, selected, same head (by simp [selected])]
    · simp [updateFirst, selected,
        ih (fun old found => same old (by simpa [selected] using found))]

theorem updateFirst_id (items : List α)
    : updateFirst select id items = items := by
  induction items with
  | nil => rfl
  | cons head rest ih => simp [updateFirst, ih]

/-- Every item is related to what stands in its place. -/
theorem forall₂_updateFirst {relation : α → α → Prop} (refl : ∀ item, relation item item)
    (selected : ∀ old, items.find? select = some old → relation old (update old))
    : List.Forall₂ relation items (updateFirst select update items) := by
  induction items with
  | nil => exact .nil
  | cons head rest ih =>
    rw [updateFirst]
    by_cases here : select head
    · simp only [here, if_true]
      exact .cons (selected head (by simp [here])) (forall₂_same.mpr (fun _ _ => refl _))
    · simp only [here, Bool.false_eq_true, if_false]
      exact .cons (refl head) (ih (fun old found => selected old (by simp [here, found])))

/-- A pairing that the update keeps pairs the updated list as well. -/
theorem forall₂_updateFirst_right {relation : β → α → Prop}
    (keeps : ∀ partner item, relation partner item → relation partner (update item))
    {left : List β} (related : List.Forall₂ relation left items)
    : List.Forall₂ relation left (updateFirst select update items) := by
  induction related with
  | nil => exact .nil
  | @cons partner item _ _ here later ih =>
    rw [updateFirst]
    split
    · exact .cons (keeps partner item here) later
    · exact .cons here ih

theorem forall₂_mem_right {relation : α → β → Prop} {left : List α} {right : List β}
    (related : List.Forall₂ relation left right) {item : β} (member : item ∈ right)
    : ∃ partner ∈ left, relation partner item := by
  induction related with
  | nil => simp at member
  | cons here _ ih =>
    rcases mem_cons.mp member with rfl | later
    · exact ⟨_, mem_cons_self, here⟩
    · obtain ⟨partner, found, holds⟩ := ih later
      exact ⟨partner, mem_cons_of_mem _ found, holds⟩

/-- Restricting to kept items commutes with an update of one of them that stays kept. -/
theorem filter_updateFirst
    (stays : ∀ old, items.find? select = some old → keep (update old) = true)
    (inside : ∀ item ∈ items, select item = true → keep item = true)
    : (updateFirst select update items).filter keep
      = updateFirst select update (items.filter keep) := by
  induction items with
  | nil => rfl
  | cons head rest ih =>
    by_cases selected : select head = true
    · have kept : keep (update head) = true := stays head (by simp [selected])
      simp [updateFirst, selected, kept, inside head mem_cons_self selected]
    · have later := ih (fun old found => stays old (by simpa [selected] using found))
        (fun item member => inside item (mem_cons_of_mem _ member))
      by_cases kept : keep head = true <;> simp [updateFirst, selected, kept, later]

/-- A filter that keeps neither the item found nor its update does not see the update. -/
theorem filter_updateFirst_outside
    (outside
      : ∀ old, items.find? select = some old → keep old = false ∧ keep (update old) = false)
    : (updateFirst select update items).filter keep = items.filter keep := by
  induction items with
  | nil => rfl
  | cons head rest ih =>
    rw [updateFirst]
    by_cases selected : select head
    · obtain ⟨old, new⟩ := outside head (by simp [selected])
      simp [selected, old, new]
    · have later := ih (fun old found => outside old (by simpa [selected] using found))
      by_cases kept : keep head <;> simp [selected, kept, later]

/-- Updating the only kept item to one that is not kept leaves none. -/
theorem filter_updateFirst_only {only : α} (kept : items.filter keep = [only])
    (found : items.find? select = some old) (keepsOld : keep old = true)
    (dropsNew : keep (update old) = false)
    : (updateFirst select update items).filter keep = [] := by
  induction items with
  | nil => rfl
  | cons head rest ih =>
    rw [updateFirst]
    by_cases selected : select head
    · obtain rfl : head = old := by simpa [selected] using found
      rw [filter_cons_of_pos keepsOld] at kept
      simpa [selected, dropsNew] using (cons.inj kept).2
    · have foundLater : rest.find? select = some old := by simpa [selected] using found
      have isKept : old ∈ rest.filter keep :=
        mem_filter.mpr ⟨mem_of_find?_eq_some foundLater, keepsOld⟩
      have skipped : ¬keep head = true := by
        intro keepsHead
        rw [filter_cons_of_pos keepsHead] at kept
        rw [(cons.inj kept).2] at isKept
        exact not_mem_nil isKept
      rw [filter_cons_of_neg skipped] at kept
      simpa [selected, skipped] using ih kept foundLater

/-- What stands at a place after the update: the same item, or the update of the item
found. -/
theorem getElem?_updateFirst (here : items[index]? = some old)
    : (updateFirst select update items)[index]? = some old
      ∨ (items.find? select = some old
        ∧ (updateFirst select update items)[index]? = some (update old)) := by
  induction items generalizing index with
  | nil => simp at here
  | cons head rest ih =>
    by_cases selected : select head
    · cases index with
      | zero =>
        cases here
        exact Or.inr (by simp [updateFirst, selected])
      | succ index => exact Or.inl (by simpa [updateFirst, selected] using here)
    · cases index with
      | zero => exact Or.inl (by simpa [updateFirst, selected] using here)
      | succ index =>
        have later := @ih index (by simpa using here)
        simpa [updateFirst, selected] using later

theorem length_updateFirst (items : List α)
    : (updateFirst select update items).length = items.length := by
  induction items with
  | nil => rfl
  | cons head rest ih =>
    by_cases selected : select head <;> simp [updateFirst, selected, ih]

/-- A measure that the update of the item found raises by one is one more in total. -/
theorem sum_updateFirst {measure : α → Nat} (found : items.find? select = some old)
    (raises : measure (update old) = measure old + 1)
    : ((updateFirst select update items).map measure).sum = (items.map measure).sum + 1 := by
  induction items with
  | nil => simp at found
  | cons head rest ih =>
    by_cases selected : select head
    · obtain rfl : head = old := by simpa [selected] using found
      simp [updateFirst, selected, raises, Nat.add_right_comm]
    · have later := ih (by simpa [selected] using found)
      simp [updateFirst, selected, later, Nat.add_assoc]

/-- A selected item stands in the filtered list behind the selected items before it. -/
theorem getElem?_filter_take (found : items[index]? = some item)
    (selected : select item = true)
    : (items.filter select)[((items.take index).filter select).length]? = some item := by
  induction items generalizing index with
  | nil => simp at found
  | cons first rest ih =>
    cases index with
    | zero =>
      cases found
      simp [selected]
    | succ index =>
      have later := ih found
      by_cases isSelected : select first <;> simpa [isSelected] using later

section

variable (inside : ∀ item ∈ items, query item = true → keep item = true)
include inside

theorem find?_filter_inside
    : (items.filter keep).find? query = items.find? query := by
  rw [find?_filter]
  refine find?_congr (fun item member => ?_)
  cases selected : query item with
  | false => simp
  | true => simp [inside item member selected]

theorem any_filter_inside
    : (items.filter keep).any query = items.any query := by
  rw [Bool.eq_iff_iff, any_eq_true, any_eq_true]
  constructor
  · rintro ⟨item, member, selected⟩
    exact ⟨item, mem_of_mem_filter member, selected⟩
  · rintro ⟨item, member, selected⟩
    exact ⟨item, mem_filter.mpr ⟨member, inside item member selected⟩, selected⟩

theorem filter_filter_inside
    : (items.filter keep).filter query = items.filter query := by
  rw [filter_filter]
  refine filter_congr (fun item member => ?_)
  cases selected : query item with
  | false => rfl
  | true => simp [inside item member selected]

end

end Dure.Library
