import Dure.Library.FallibleState

/-! Two runs of fallible updates side by side, on states that need not be equal: they agree
when both fail with one error, or both succeed with one value in related states.
-/

namespace Dure.Library.Update

variable {ε σ τ α β : Type}

/-- The two outcomes agree, and successful ones end in states that `post` relates. What a
failed run wrote is not compared. -/
inductive Agree (post : α → σ → τ → Prop)
    : EStateM.Result ε σ α → EStateM.Result ε τ α → Prop where
  | ok {value left right} (related : post value left right)
    : Agree post (.ok value left) (.ok value right)
  | error {error left right} : Agree post (.error error left) (.error error right)

variable {g : α → Update ε τ β} {f : α → Update ε σ β} {y : Update ε τ α} {x : Update ε σ α}
  {write' : τ → τ} {write : σ → σ} {error : ε}

namespace Agree

variable {post : β → σ → τ → Prop} {s : σ} {t : τ}

theorem pure {value : β} (related : post value s t)
    : Agree post ((Pure.pure value : Update ε σ β) s) ((Pure.pure value : Update ε τ β) t) :=
  .ok related

/-- Sequences agree when their first parts do and, from related states, the rests do. -/
theorem bind {mid : α → σ → τ → Prop} (first : Agree mid (x s) (y t))
    (rest
      : ∀ value left right, mid value left right → Agree post (f value left) (g value right))
    : Agree post ((x >>= f) s) ((y >>= g) t) := by
  change Agree post (EStateM.bind x f s) (EStateM.bind y g t)
  unfold EStateM.bind
  generalize x s = left at first
  generalize y t = right at first
  cases first with
  | ok related => exact rest _ _ _ related
  | error => exact .error

theorem map_same {related : σ → τ → Prop} {f : α → β}
    (agree : Agree (fun _ => related) (x s) (y t))
    : Agree (fun _ => related) ((f <$> x) s) ((f <$> y) t) := by
  change Agree _ (EStateM.map f x s) (EStateM.map f y t)
  unfold EStateM.map
  generalize x s = left at agree
  generalize y t = right at agree
  cases agree with
  | ok holds => exact .ok holds
  | error => exact .error

theorem ensure_bind {left right : Prop} [Decidable left] [Decidable right]
    {f : Unit → Update ε σ β} {g : Unit → Update ε τ β} (same : left ↔ right)
    (rest : left → Agree post (f () s) (g () t))
    : Agree post ((ensure left error >>= f) s) ((ensure right error >>= g) t) := by
  by_cases holds : left
  · rw [ensure_bind_holds holds, ensure_bind_holds (same.mp holds)]
    exact rest holds
  · rw [ensure_bind_fails holds, ensure_bind_fails (fun other => holds (same.mpr other))]
    exact .error

theorem check_bind {ε' : Type} {left right : Except ε' α} {rename : ε' → ε}
    (same : left = right)
    (rest : ∀ value, left = .ok value → Agree post (f value s) (g value t))
    : Agree post ((check left rename >>= f) s) ((check right rename >>= g) t) := by
  subst same
  cases left with
  | ok value => exact rest value rfl
  | error error => exact .error

theorem orElseThrow_bind {left right : Option α} (same : left = right)
    (rest : ∀ value, left = some value → Agree post (f value s) (g value t))
    : Agree post ((orElseThrow left error >>= f) s) ((orElseThrow right error >>= g) t) := by
  subst same
  cases left with
  | some value => exact rest value rfl
  | none => exact .error

/-- Reading and writing take the two states as they are. -/
theorem get_bind {f : σ → Update ε σ β} {g : τ → Update ε τ β}
    (rest : Agree post (f s s) (g t t))
    : Agree post ((get >>= f) s) ((get >>= g) t) :=
  rest

theorem modify_bind {f : Unit → Update ε σ β} {g : Unit → Update ε τ β}
    (rest : Agree post (f () (write s)) (g () (write' t)))
    : Agree post ((modify write >>= f) s) ((modify write' >>= g) t) :=
  rest

theorem modify {post : Unit → σ → τ → Prop} (related : post () (write s) (write' t))
    : Agree post ((modify write : Update ε σ Unit) s) ((modify write' : Update ε τ Unit) t) :=
  .ok related

end Agree

end Dure.Library.Update
