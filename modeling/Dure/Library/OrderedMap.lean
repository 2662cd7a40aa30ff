import Mathlib

/-! Finite maps iterated in key order. The entries are a list that carries the proof of its
own sorting, so equal lookups give equal maps.
-/

namespace Dure.Library

open List Option

structure OrderedMap (κ ν : Type) [LinearOrder κ] where
  entries : List (κ × ν)
  sorted : entries.Pairwise (fun left right => left.1 < right.1)

namespace OrderedMap

variable {κ ν : Type} [LinearOrder κ]

instance [DecidableEq ν] : DecidableEq (OrderedMap κ ν) := fun left right =>
  match decEq left.entries right.entries with
  | isTrue same => isTrue (by cases left; cases right; simp_all)
  | isFalse different => isFalse (fun same => different (congrArg entries same))

def empty : OrderedMap κ ν := ⟨[], .nil⟩

/-- The value stored under `key`. -/
def lookup (key : κ) : List (κ × ν) → Option ν
  | [] => none
  | entry :: rest => if entry.1 = key then some entry.2 else lookup key rest

def get? (map : OrderedMap κ ν) (key : κ) : Option ν := lookup key map.entries

/-- Sorted insertion, replacing the value of an existing key. -/
def insertEntry (key : κ) (value : ν) : List (κ × ν) → List (κ × ν)
  | [] => [(key, value)]
  | entry :: rest =>
    if key < entry.1 then
      (key, value) :: entry :: rest
    else if key = entry.1 then
      (key, value) :: rest
    else
      entry :: insertEntry key value rest

variable {key : κ} {value : ν} {entries : List (κ × ν)}

theorem mem_insertEntry {entry : κ × ν} (member : entry ∈ insertEntry key value entries)
    : entry = (key, value) ∨ entry ∈ entries := by
  induction entries with
  | nil => exact Or.inl (by simpa [insertEntry] using member)
  | cons head rest ih =>
    rw [insertEntry] at member
    split_ifs at member with before same
    · simpa using member
    · rcases mem_cons.mp member with first | later
      · exact Or.inl first
      · exact Or.inr (mem_cons_of_mem _ later)
    · rcases mem_cons.mp member with first | later
      · exact Or.inr (by simp [first])
      · exact (ih later).imp_right (mem_cons_of_mem _)

theorem insertEntry_sorted (key : κ) (value : ν)
    (sorted : entries.Pairwise (fun left right => left.1 < right.1))
    : (insertEntry key value entries).Pairwise (fun left right => left.1 < right.1) := by
  induction entries with
  | nil => simp [insertEntry]
  | cons head rest ih =>
    obtain ⟨above, tail⟩ := pairwise_cons.mp sorted
    rw [insertEntry]
    split_ifs with before same
    · refine pairwise_cons.mpr ⟨?_, sorted⟩
      intro entry member
      rcases mem_cons.mp member with first | later
      · simpa [first] using before
      · exact before.trans (above entry later)
    · refine pairwise_cons.mpr ⟨?_, tail⟩
      intro entry member
      simpa [same] using above entry member
    · refine pairwise_cons.mpr ⟨?_, ih tail⟩
      intro entry member
      rcases mem_insertEntry member with new | old
      · rw [new]
        exact lt_of_le_of_ne (not_lt.mp before) (Ne.symm same)
      · exact above entry old

def insert (map : OrderedMap κ ν) (key : κ) (value : ν) : OrderedMap κ ν :=
  ⟨insertEntry key value map.entries, insertEntry_sorted key value map.sorted⟩

/-- Later entries replace earlier ones with the same key. -/
def ofList (entries : List (κ × ν)) : OrderedMap κ ν :=
  entries.foldl (fun map entry => map.insert entry.1 entry.2) empty

def filter (map : OrderedMap κ ν) (keep : κ → ν → Bool) : OrderedMap κ ν :=
  ⟨map.entries.filter (fun entry => keep entry.1 entry.2), map.sorted.filter _⟩

def erase (map : OrderedMap κ ν) (key : κ) : OrderedMap κ ν :=
  map.filter (fun other _ => other ≠ key)

def keys (map : OrderedMap κ ν) : List κ := map.entries.map Prod.fst

theorem lookup_some_mem (found : lookup key entries = some value)
    : (key, value) ∈ entries := by
  induction entries with
  | nil => simp [lookup] at found
  | cons head rest ih =>
    rw [lookup] at found
    split_ifs at found with same
    · obtain ⟨headKey, headValue⟩ := head
      simp_all
    · exact mem_cons_of_mem _ (ih found)

theorem lookup_of_mem (sorted : entries.Pairwise (fun left right => left.1 < right.1))
    (member : (key, value) ∈ entries)
    : lookup key entries = some value := by
  induction entries with
  | nil => simp at member
  | cons head rest ih =>
    obtain ⟨above, tail⟩ := pairwise_cons.mp sorted
    rw [lookup]
    rcases mem_cons.mp member with first | later
    · simp [← first]
    · have different : head.1 ≠ key := (above _ later).ne
      simp [different, ih tail later]

/-- The map holds an entry exactly when looking its key up gives its value. -/
theorem get?_eq_some {map : OrderedMap κ ν}
    : map.get? key = some value ↔ (key, value) ∈ map.entries :=
  ⟨lookup_some_mem, lookup_of_mem map.sorted⟩

@[simp]
theorem get?_empty (key : κ) : (empty : OrderedMap κ ν).get? key = none := rfl

@[simp]
theorem get?_insert_self (map : OrderedMap κ ν) (key : κ) (value : ν)
    : (map.insert key value).get? key = some value := by
  change lookup key (insertEntry key value map.entries) = some value
  induction map.entries with
  | nil => simp [insertEntry, lookup]
  | cons head rest ih =>
    rw [insertEntry]
    split_ifs with before same
    · simp [lookup]
    · simp [lookup]
    · simp [lookup, Ne.symm same, ih]

theorem get?_insert_ne (map : OrderedMap κ ν) {other : κ} (value : ν) (different : key ≠ other)
    : (map.insert key value).get? other = map.get? other := by
  change lookup other (insertEntry key value map.entries) = lookup other map.entries
  induction map.entries with
  | nil => simp [insertEntry, lookup, different]
  | cons head rest ih =>
    rw [insertEntry]
    split_ifs with before same
    · simp [lookup, different]
    · simp [lookup, ← same, different]
    · by_cases here : head.1 = other <;> simp [lookup, here, ih]

theorem get?_insert (map : OrderedMap κ ν) (key other : κ) (value : ν)
    : (map.insert key value).get? other
      = if key = other then some value else map.get? other := by
  split_ifs with same
  · rw [← same, get?_insert_self]
  · exact get?_insert_ne map value same

/-- Two maps with the same lookups are equal. Witness: their entries are sorted
permutations of each other. -/
theorem ext_get? {left right : OrderedMap κ ν}
    (same : ∀ key, left.get? key = right.get? key)
    : left = right := by
  have members : ∀ entry, entry ∈ left.entries ↔ entry ∈ right.entries := by
    rintro ⟨key, value⟩
    rw [← get?_eq_some, ← get?_eq_some, same key]
  have entries : left.entries = right.entries := by
    refine List.Perm.eq_of_pairwise ?_ left.sorted right.sorted ?_
    · intro first second _ _ below above
      exact absurd below above.not_gt
    · refine (perm_ext_iff_of_nodup ?_ ?_).mpr members
      · exact left.sorted.imp (fun below same => below.ne (congrArg Prod.fst same))
      · exact right.sorted.imp (fun below same => below.ne (congrArg Prod.fst same))
  cases left
  cases right
  simp_all

section

variable (map : OrderedMap κ ν)
include map

theorem get?_filter (keep : κ → ν → Bool) (key : κ)
    : (map.filter keep).get? key = (map.get? key).filter (keep key) := by
  apply ext
  intro value
  rw [get?_eq_some, filter_eq_some_iff, get?_eq_some]
  exact mem_filter

theorem get?_filter_keep {keep : κ → ν → Bool} (kept : ∀ value, keep key value = true)
    : (map.filter keep).get? key = map.get? key := by
  rw [get?_filter]
  cases map.get? key with
  | none => rfl
  | some value => simp [kept]

theorem get?_erase (key other : κ)
    : (map.erase key).get? other = if key = other then none else map.get? other := by
  unfold erase
  rw [get?_filter]
  split_ifs with same
  · subst same
    cases map.get? key <;> simp [filter_some]
  · cases map.get? other <;> simp [filter_some, Ne.symm same]

/-- Restricting commutes with inserting an entry that is kept. -/
theorem filter_insert_keep (keep : κ → ν → Bool) (kept : keep key value = true)
    : (map.insert key value).filter keep = (map.filter keep).insert key value := by
  apply ext_get?
  intro other
  rw [get?_filter, get?_insert, get?_insert, get?_filter]
  split_ifs with same
  · simp [← same, kept]
  · rfl

/-- Restricting drops an inserted entry that is not kept. -/
theorem filter_insert_drop (keep : κ → ν → Bool) (dropped : ∀ value, keep key value = false)
    : (map.insert key value).filter keep = map.filter keep := by
  apply ext_get?
  intro other
  rw [get?_filter, get?_insert, get?_filter]
  split_ifs with same
  · subst same
    cases map.get? key <;> simp [filter_some, dropped]
  · rfl

/-- Inserting adds at most one entry. -/
theorem length_insert_le (key : κ) (value : ν)
    : (map.insert key value).entries.length ≤ map.entries.length + 1 := by
  change (insertEntry key value map.entries).length ≤ map.entries.length + 1
  induction map.entries with
  | nil => simp [insertEntry]
  | cons entry rest ih =>
    rw [insertEntry]
    split_ifs
    · simp
    · simp
    · simpa using ih

end

/-- Inserting under a key that is present replaces its entry. -/
theorem length_insert_present {map : OrderedMap κ ν} {old : ν} (value : ν)
    (present : map.get? key = some old)
    : (map.insert key value).entries.length = map.entries.length := by
  obtain ⟨entries, sorted⟩ := map
  change (insertEntry key value entries).length = entries.length
  change lookup key entries = some old at present
  induction entries with
  | nil => cases present
  | cons entry rest ih =>
    obtain ⟨above, tail⟩ := pairwise_cons.mp sorted
    rw [insertEntry]
    split_ifs with before same
    · -- the key would be below all keys that are present
      rw [lookup, if_neg before.ne'] at present
      exact absurd (before.trans (above _ (lookup_some_mem present))) (lt_irrefl key)
    · simp
    · rw [lookup, if_neg (Ne.symm same)] at present
      simp [ih tail present]

theorem mem_insert {map : OrderedMap κ ν} {entry : κ × ν}
    : entry ∈ (map.insert key value).entries
      ↔ entry = (key, value) ∨ entry ∈ map.entries ∧ entry.1 ≠ key := by
  obtain ⟨other, stored⟩ := entry
  rw [← get?_eq_some, get?_insert, ← get?_eq_some]
  split_ifs with same
  · subst same
    simp [eq_comm]
  · simp [same, Ne.symm same, eq_comm]

/-- Insert the entries in order; later ones replace earlier ones with the same key. -/
def insertAll (map : OrderedMap κ ν) (entries : List (κ × ν)) : OrderedMap κ ν :=
  entries.foldl (fun map entry => map.insert entry.1 entry.2) map

theorem ofList_eq_insertAll (entries : List (κ × ν))
    : ofList entries = empty.insertAll entries := rfl

theorem get?_insertAll_some {map : OrderedMap κ ν}
    (found : (map.insertAll entries).get? key = some value)
    : (key, value) ∈ entries ∨ map.get? key = some value := by
  induction entries generalizing map with
  | nil => exact Or.inr found
  | cons entry rest ih =>
    rcases ih found with later | now
    · exact Or.inl (mem_cons_of_mem _ later)
    · rw [get?_insert] at now
      split_ifs at now with same
      · obtain ⟨entryKey, entryValue⟩ := entry
        cases same
        cases now
        exact Or.inl mem_cons_self
      · exact Or.inr now

theorem isSome_get?_insertAll {map : OrderedMap κ ν}
    : ((map.insertAll entries).get? key).isSome = true
      ↔ key ∈ entries.map Prod.fst ∨ (map.get? key).isSome = true := by
  induction entries generalizing map with
  | nil => simp [insertAll]
  | cons entry rest ih =>
    change (((map.insert entry.1 entry.2).insertAll rest).get? key).isSome = true ↔ _
    rw [ih, get?_insert]
    by_cases same : entry.1 = key
    · simp [same]
    · simp [same, Ne.symm same]

/-- Where no key repeats, every listed entry is found. -/
theorem get?_ofList_of_mem (unique : (entries.map Prod.fst).Nodup)
    (member : (key, value) ∈ entries)
    : (ofList entries).get? key = some value := by
  have present : ((ofList entries).get? key).isSome = true := by
    rw [ofList_eq_insertAll, isSome_get?_insertAll]
    exact Or.inl (mem_map_of_mem member)
  obtain ⟨other, found⟩ := isSome_iff_exists.mp present
  rcases get?_insertAll_some found with listed | absent
  · have same := inj_on_of_nodup_map unique listed member rfl
    cases same
    exact found
  · simp at absent

theorem mem_keys {map : OrderedMap κ ν}
    : key ∈ map.keys ↔ (map.get? key).isSome = true := by
  simp only [keys, List.mem_map, isSome_iff_exists, get?_eq_some]
  constructor
  · rintro ⟨⟨_, value⟩, member, rfl⟩
    exact ⟨value, member⟩
  · rintro ⟨value, member⟩
    exact ⟨(key, value), member, rfl⟩

theorem keys_nodup (map : OrderedMap κ ν) : map.keys.Nodup :=
  pairwise_map.mpr (map.sorted.imp (fun below => below.ne))

/-- A map to nothing is given by its keys. -/
theorem ext_keys {left right : OrderedMap κ Unit}
    (same : ∀ key, key ∈ left.keys ↔ key ∈ right.keys)
    : left = right := by
  refine ext_get? (fun key => ext (fun _ => ?_))
  have present := same key
  simpa only [mem_keys, isSome_iff_exists, Unique.exists_iff] using present

end OrderedMap

end Dure.Library
