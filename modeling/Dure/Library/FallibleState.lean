import Mathlib

/-! Fallible updates of a state. An update that fails keeps what it wrote before failing,
as a method on a mutable receiver does; the caller decides whether to discard it.
-/

namespace Dure.Library

/-- An update of a state `σ` that may stop with an error of type `ε`. -/
abbrev Update (ε σ : Type) := EStateM ε σ

namespace Update

variable {ε σ α β : Type}

/-- Stop with `error` unless `condition` holds. -/
def ensure (condition : Prop) [Decidable condition] (error : ε) : Update ε σ Unit :=
  if condition then pure () else throw error

/-- Run a check that does not touch the state, renaming its error. -/
def check {ε' : Type} (result : Except ε' α) (rename : ε' → ε) : Update ε σ α :=
  match result with
  | .ok value => pure value
  | .error error => throw (rename error)

/-- Continue with a present value, or stop with `error`. -/
def orElseThrow (value : Option α) (error : ε) : Update ε σ α :=
  match value with
  | some present => pure present
  | none => throw error

variable {s s' t : σ} {condition : Prop} {error e : ε} {f : α → Update ε σ β}
  {x : Update ε σ α} {b : β} {value : Option α} {ε' : Type} {a : α} {u : Unit}

/-- A sequence succeeds exactly when both of its parts do. -/
theorem bind_ok
    : (x >>= f) s = .ok b s' ↔ ∃ a t, x s = .ok a t ∧ f a t = .ok b s' := by
  change EStateM.bind x f s = .ok b s' ↔ _
  unfold EStateM.bind
  cases h : x s with
  | ok a t | error e t => simp

theorem pure_ok {b : α}
    : (pure a : Update ε σ α) s = .ok b s' ↔ a = b ∧ s = s' := by
  change EStateM.Result.ok a s = .ok b s' ↔ _
  simp

theorem map_ok {f : α → β}
    : (f <$> x) s = .ok b s' ↔ ∃ a, x s = .ok a s' ∧ f a = b := by
  change EStateM.map f x s = .ok b s' ↔ _
  unfold EStateM.map
  cases x s with
  | ok a t => simp [and_comm]
  | error e t => simp

theorem throw_ok
    : (throw e : Update ε σ α) s = .ok a s' ↔ False := by
  change EStateM.Result.error e s = .ok a s' ↔ _
  simp

theorem get_ok : (get : Update ε σ σ) s = .ok t s' ↔ s = t ∧ s = s' := by
  change EStateM.Result.ok s s = .ok t s' ↔ _
  simp

theorem modify_ok {f : σ → σ}
    : (modify f : Update ε σ Unit) s = .ok u s' ↔ f s = s' := by
  change EStateM.Result.ok PUnit.unit (f s) = .ok u s' ↔ _
  simp

theorem ensure_ok [Decidable condition]
    : (ensure condition error : Update ε σ Unit) s = .ok u s' ↔ condition ∧ s = s' := by
  unfold ensure
  split
  · rename_i holds
    simp [pure_ok, holds]
  · rename_i fails
    simp [throw_ok, fails]

variable {result : Except ε' α} {rename : ε' → ε}

theorem check_ok
    : (check result rename : Update ε σ α) s = .ok a s' ↔ result = .ok a ∧ s = s' := by
  unfold check
  cases result <;> simp [pure_ok, throw_ok]

theorem orElseThrow_ok
    : (orElseThrow value error : Update ε σ α) s = .ok a s' ↔ value = some a ∧ s = s' := by
  unfold orElseThrow
  cases value <;> simp [pure_ok, throw_ok]

theorem get_bind_ok {f : σ → Update ε σ β}
    : (get >>= f) s = .ok b s' ↔ f s s = .ok b s' := by
  simp only [bind_ok, get_ok]
  constructor
  · rintro ⟨_, _, ⟨rfl, rfl⟩, rest⟩
    exact rest
  · intro rest
    exact ⟨s, s, ⟨rfl, rfl⟩, rest⟩

theorem modify_bind_ok {g : σ → σ} {f : Unit → Update ε σ β}
    : (modify g >>= f) s = .ok b s' ↔ f () (g s) = .ok b s' := by
  simp only [bind_ok, modify_ok]
  constructor
  · rintro ⟨_, _, rfl, rest⟩
    exact rest
  · intro rest
    exact ⟨(), g s, rfl, rest⟩

theorem ensure_bind_ok [Decidable condition] {f : Unit → Update ε σ β}
    : (ensure condition error >>= f) s = .ok b s' ↔ condition ∧ f () s = .ok b s' := by
  simp only [bind_ok, ensure_ok]
  constructor
  · rintro ⟨_, _, ⟨holds, rfl⟩, rest⟩
    exact ⟨holds, rest⟩
  · rintro ⟨holds, rest⟩
    exact ⟨(), s, ⟨holds, rfl⟩, rest⟩

theorem check_bind_ok
    : (check result rename >>= f) s = .ok b s' ↔ ∃ a, result = .ok a ∧ f a s = .ok b s' := by
  simp only [bind_ok, check_ok]
  constructor
  · rintro ⟨a, _, ⟨passed, rfl⟩, rest⟩
    exact ⟨a, passed, rest⟩
  · rintro ⟨a, passed, rest⟩
    exact ⟨a, s, ⟨passed, rfl⟩, rest⟩

theorem orElseThrow_bind_ok
    : (orElseThrow value error >>= f) s = .ok b s'
      ↔ ∃ a, value = some a ∧ f a s = .ok b s' := by
  simp only [bind_ok, orElseThrow_ok]
  constructor
  · rintro ⟨a, _, ⟨present, rfl⟩, rest⟩
    exact ⟨a, present, rest⟩
  · rintro ⟨a, present, rest⟩
    exact ⟨a, s, ⟨present, rfl⟩, rest⟩

theorem get_bind (f : σ → Update ε σ β) (s : σ) : (get >>= f) s = f s s := rfl

theorem throw_error (e : ε) (s : σ) : (throw e : Update ε σ α) s = .error e s := rfl

theorem ensure_bind_holds [Decidable condition] (holds : condition) (error : ε)
    (f : Unit → Update ε σ β) (s : σ)
    : (ensure condition error >>= f) s = f () s := by
  rw [ensure, if_pos holds]
  rfl

theorem ensure_bind_fails [Decidable condition] (fails : ¬condition) (error : ε)
    (f : Unit → Update ε σ β) (s : σ)
    : (ensure condition error >>= f) s = .error error s := by
  rw [ensure, if_neg fails]
  rfl

theorem bind_of_ok (passed : x s = .ok a t) : (x >>= f) s = f a t := by
  change EStateM.bind x f s = f a t
  rw [EStateM.bind, passed]

theorem bind_of_error (failed : x s = .error e t) : (x >>= f) s = .error e t := by
  change EStateM.bind x f s = .error e t
  rw [EStateM.bind, failed]

theorem map_error (failed : x s = .error e t) (f : α → β)
    : (f <$> x) s = .error e t := by
  change EStateM.map f x s = .error e t
  rw [EStateM.map, failed]

/-- The update leaves the state as it was whenever it fails. -/
def KeepsOnError (x : Update ε σ α) : Prop := ∀ s e s', x s = .error e s' → s' = s

theorem KeepsOnError.pure (a : α) : KeepsOnError (pure a : Update ε σ α) := by
  intro s e s' failed
  cases failed

theorem KeepsOnError.throw (e : ε) : KeepsOnError (throw e : Update ε σ α) := by
  intro s e' s' failed
  cases failed
  rfl

/-- What never fails keeps the state when it fails. -/
theorem KeepsOnError.of_total (total : ∀ s, ∃ a s', x s = .ok a s')
    : KeepsOnError x := by
  intro s e s' failed
  obtain ⟨_, _, passed⟩ := total s
  rw [passed] at failed
  cases failed

theorem KeepsOnError.get_bind {f : σ → Update ε σ β} (later : ∀ s, KeepsOnError (f s))
    : KeepsOnError (get >>= f) :=
  fun s => later s s

theorem KeepsOnError.ensure_bind [Decidable condition] {f : Unit → Update ε σ β}
    (later : KeepsOnError (f ()))
    : KeepsOnError (ensure condition error >>= f) := by
  intro s e s' failed
  by_cases holds : condition
  · rw [ensure_bind_holds holds] at failed
    exact later s e s' failed
  · rw [ensure_bind_fails holds] at failed
    cases failed
    rfl

theorem KeepsOnError.check_bind (later : ∀ a, KeepsOnError (f a))
    : KeepsOnError (check result rename >>= f) := by
  intro s e s' failed
  cases result with
  | ok a => exact later a s e s' failed
  | error problem =>
    cases failed
    rfl

theorem KeepsOnError.orElseThrow_bind (later : ∀ a, KeepsOnError (f a))
    : KeepsOnError (orElseThrow value error >>= f) := by
  intro s e s' failed
  cases value with
  | some a => exact later a s e s' failed
  | none =>
    cases failed
    rfl

end Update

end Dure.Library
