import AitpPlayground.Lib.Act

/-!
# `AitpPlayground.Lib.Alike`: two runs side by side

`Act.Alike J K x y` says that `x` and `y`, started in states that `J` relates, end in the same
way: both return one value, in states that `K` relates, or both raise one exception. It is how
code that goes a shorter way, from a cache say, is compared with the code it stands for. The
rules follow the way the code is put together.
-/

set_option autoImplicit false

namespace AitpPlayground.Lib

namespace Act

variable {ε σ τ α β : Type}

/-- What a run returns or raises. -/
def outcome (x : Act ε σ α) (s : σ) : Except ε α :=
  match x s with
  | .ok a _ => .ok a
  | .error e _ => .error e

/-- Runs from related states that end in the same way. -/
def Alike (J K : σ → τ → Prop) (x : Act ε σ α) (y : Act ε τ α) : Prop :=
  ∀ s t, J s t →
    (∃ a s' t', x s = .ok a s' ∧ y t = .ok a t' ∧ K s' t') ∨
      ∃ e s' t', x s = .error e s' ∧ y t = .error e t'

variable {J K L : σ → τ → Prop}

/-- Actions that are alike have one outcome. -/
theorem Alike.outcome_eq {x : Act ε σ α} {y : Act ε τ α} (h : Alike J K x y) {s : σ} {t : τ}
    (hJ : J s t) : x.outcome s = y.outcome t := by
  unfold outcome
  rcases h s t hJ with ⟨a, s', t', hx, hy, -⟩ | ⟨e, s', t', hx, hy⟩
  · rw [hx, hy]
  · rw [hx, hy]

/-- A run that starts by looking at the state. -/
theorem get_bind_apply (f : σ → Act ε σ α) (s : σ) : (get >>= f) s = f s s := rfl

/-- A value is like itself. -/
theorem alike_pure (a : α) : Alike J J (pure a : Act ε σ α) (pure a : Act ε τ α) :=
  fun s t hJ => .inl ⟨a, s, t, rfl, rfl, hJ⟩

/-- An exception is like itself, whatever comes after. -/
theorem alike_throw (e : ε) : Alike J K (throw e : Act ε σ α) (throw e : Act ε τ α) :=
  fun s t _ => .inr ⟨e, s, t, rfl, rfl⟩

/-- A pure computation is like itself. -/
theorem alike_ofExcept {ε' : Type} (f : ε' → ε) (r : Except ε' α) :
    Alike J J (ofExcept f r : Act ε σ α) (ofExcept f r : Act ε τ α) := by
  cases r with
  | ok a => exact alike_pure a
  | error e => exact alike_throw (f e)

/-- The test of an option is like itself. -/
theorem alike_orThrow (e : ε) (o : Option α) :
    Alike J J (orThrow e o : Act ε σ α) (orThrow e o : Act ε τ α) := by
  cases o with
  | some a => exact alike_pure a
  | none => exact alike_throw e

/-- The second parts start where the first parts ended, with the value that both returned. -/
theorem alike_bind {x : Act ε σ α} {y : Act ε τ α} {f : α → Act ε σ β} {g : α → Act ε τ β}
    (hx : Alike J K x y) (hf : ∀ a, Alike K L (f a) (g a)) : Alike J L (x >>= f) (y >>= g) := by
  intro s t hJ
  rcases hx s t hJ with ⟨a, s₁, t₁, hxs, hyt, hK⟩ | ⟨e, s₁, t₁, hxs, hyt⟩
  · rw [bind_of_ok f s hxs, bind_of_ok g t hyt]
    exact hf a s₁ t₁ hK
  · rw [bind_of_error f s hxs, bind_of_error g t hyt]
    exact .inr ⟨e, s₁, t₁, rfl, rfl⟩

/-- A function of the values keeps actions alike. -/
theorem alike_map {x : Act ε σ α} {y : Act ε τ α} (f : α → β) (hx : Alike J K x y) :
    Alike J K (f <$> x) (f <$> y) := by
  rw [← bind_pure_comp, ← bind_pure_comp]
  exact alike_bind hx fun a => alike_pure (f a)

/-! ### Rules for code that keeps an invariant -/

section
variable {I : σ → Prop} {P : ε → Prop}

/-- A function of the value keeps an action safe. -/
theorem safe_map {x : Act ε σ α} (f : α → β) (hx : Safe I P x) : Safe I P (f <$> x) := by
  rw [← bind_pure_comp]
  exact safe_bind hx fun a => safe_pure (f a)

/-- Whatever is raised where there is nothing. -/
theorem safe_orThrow_of {e : ε} (h : P e) (o : Option α) :
    Safe I P (orThrow e o : Act ε σ α) := by
  cases o with
  | some a => exact safe_pure a
  | none => exact safe_throw h

end

end Act

end AitpPlayground.Lib
