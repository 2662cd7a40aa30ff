import Mathlib

/-! Checks that stop at their first error, and the loop that rejects a repeated key. -/

namespace Dure.Library

open List

namespace Check

variable {ε α β κ : Type}

/-- Stop with `error` when `condition` holds. -/
def rejectIf (condition : Prop) [Decidable condition] (error : ε) : Except ε Unit :=
  if condition then throw error else pure ()

/-- Check a present value; an absent one passes. -/
def whenSome (value : Option α) (check : α → Except ε Unit) : Except ε Unit :=
  match value with
  | some present => check present
  | none => pure ()

/-- Check every item in order. -/
def each (check : α → Except ε Unit) : List α → Except ε Unit
  | [] => pure ()
  | item :: rest => do
      check item
      each check rest

/-- The loop over a collection with a set of the keys seen so far: each item is checked,
its key is inserted, a key that was already there stops with `duplicate`, and the item is
checked again with what needs its key.
-/
def distinct [DecidableEq κ] (key : α → κ) (before : α → Except ε Unit) (duplicate : ε)
    (after : α → Except ε Unit)
    : List κ → List α → Except ε Unit
  | _, [] => pure ()
  | seen, item :: rest => do
      before item
      rejectIf (key item ∈ seen) duplicate
      after item
      distinct key before duplicate after (key item :: seen) rest

variable {check : α → Except ε Unit} {u : Unit} {x : Except ε α} {a : α} {b : β} {δ : Type}

theorem bind_ok {f : α → Except ε β}
    : (x >>= f) = .ok b ↔ ∃ a, x = .ok a ∧ f a = .ok b := by
  cases x with
  | ok a | error e => simp [bind, Except.bind]

/-- A check followed by another computation succeeds exactly when both do. -/
@[simp]
theorem seq_ok {x : Except ε Unit} {f : Unit → Except ε β}
    : (x >>= f) = .ok b ↔ x = .ok () ∧ f () = .ok b := by
  rw [bind_ok]
  constructor
  · rintro ⟨⟨⟩, first, second⟩
    exact ⟨first, second⟩
  · rintro ⟨first, second⟩
    exact ⟨(), first, second⟩

@[simp]
theorem pure_ok {b : α} : (pure a : Except ε α) = .ok b ↔ a = b := by
  simp [pure, Except.pure]

@[simp]
theorem throw_ok {e : ε} : (throw e : Except ε α) = .ok a ↔ False := by
  simp [throw, throwThe, MonadExceptOf.throw]

@[simp]
theorem rejectIf_ok {condition : Prop} [Decidable condition] {error : ε}
    : rejectIf condition error = .ok u ↔ ¬condition := by
  unfold rejectIf
  split
  · rename_i holds
    simp [holds]
  · rename_i fails
    simp [fails]

@[simp]
theorem mapError_ok {rename : ε → δ}
    : x.mapError rename = .ok a ↔ x = .ok a := by
  cases x <;> simp [Except.mapError]

@[simp]
theorem whenSome_ok {value : Option α}
    : whenSome value check = .ok u ↔ ∀ present, value = some present → check present = .ok u := by
  cases value <;> simp [whenSome]

@[simp]
theorem each_ok {items : List α}
    : each check items = .ok u ↔ ∀ item ∈ items, check item = .ok () := by
  induction items with
  | nil => simp [each]
  | cons item rest ih => simp [each, ih]

section

variable {build : α → Except ε β} {items : List α} {values : List β}
  (built : items.mapM build = .ok values)
include built

/-- A loop that builds one value for each item pairs the items with their values. -/
theorem mapM_ok
    : List.Forall₂ (fun item value => build item = .ok value) items values := by
  induction items generalizing values with
  | nil =>
    cases built
    exact .nil
  | cons item rest ih =>
    simp only [mapM_cons, bind_ok, pure_ok] at built
    obtain ⟨value, here, others, later, rfl⟩ := built
    exact .cons here (ih later)

theorem mapM_built {item : α} (member : item ∈ items)
    : ∃ value ∈ values, build item = .ok value := by
  induction items generalizing values with
  | nil => cases member
  | cons first rest ih =>
    simp only [mapM_cons, bind_ok, pure_ok] at built
    obtain ⟨value, here, others, later, rfl⟩ := built
    rcases mem_cons.mp member with rfl | among
    · exact ⟨value, mem_cons_self, here⟩
    · obtain ⟨found, listed, made⟩ := ih later among
      exact ⟨found, mem_cons_of_mem _ listed, made⟩

/-- What was built for each item is read back in the same order. -/
theorem mapM_inverse {γ : Type} {read : β → Except δ γ} {shown : α → γ}
    (reads : ∀ item ∈ items, ∀ value, build item = .ok value → read value = .ok (shown item))
    : values.mapM read = .ok (items.map shown) := by
  induction items generalizing values with
  | nil =>
    cases built
    rfl
  | cons item rest ih =>
    simp only [mapM_cons, bind_ok, pure_ok] at built
    obtain ⟨value, here, others, later, rfl⟩ := built
    have remaining := ih later (fun other member => reads other (mem_cons_of_mem _ member))
    simp only [mapM_cons, bind_ok, pure_ok]
    exact ⟨_, reads item mem_cons_self value here, _, remaining, rfl⟩

end

/-- The loop passes exactly when every item passes both checks, no key repeats and none was
seen before. Witness: induction on the items, with the seen keys generalised.
-/
theorem distinct_ok [DecidableEq κ] {key : α → κ} {before after : α → Except ε Unit}
    {duplicate : ε} {seen : List κ} {items : List α}
    : distinct key before duplicate after seen items = .ok u
      ↔ (∀ item ∈ items, before item = .ok () ∧ after item = .ok ())
        ∧ (items.map key).Nodup
        ∧ ∀ item ∈ items, key item ∉ seen := by
  induction items generalizing seen with
  | nil => simp [distinct]
  | cons item rest ih =>
    simp only [distinct, seq_ok, rejectIf_ok, ih, mem_cons, map_cons,
      nodup_cons, mem_map, not_or, not_exists, not_and, forall_eq_or_imp]
    constructor
    · rintro ⟨checked, unseen, later, passed, unique, fresh⟩
      refine ⟨⟨⟨checked, later⟩, passed⟩, ⟨?_, unique⟩, unseen, ?_⟩
      · exact fun other member => (fresh other member).1
      · exact fun other member => (fresh other member).2
    · rintro ⟨⟨⟨checked, later⟩, passed⟩, ⟨absent, unique⟩, unseen, fresh⟩
      exact ⟨checked, unseen, later, passed, unique,
        fun other member => ⟨absent other member, fresh other member⟩⟩

end Check

end Dure.Library
