import Mathlib.Logic.Relation

/-!
# `AitpPlayground.Lib.Act`: code with state and exceptions

`Act ε σ α` is code that reads and writes a state `σ` and returns an `α` or raises an `ε`.
What it wrote before it raised stays written, as in Python.

There are four ways to reason about such code. `Act.Within R x` says that `x` relates every
state before to the state after, whether it returns or raises. The relation is reflexive and
transitive, and the rules follow the way the code is put together. `Act.Raises P x` says of
every exception of `x` that it has a property, by rules of the same kind. `Act.Safe I P x` says
so of the runs from a state with `I`, and that `I` holds after. `bind_eq_ok` and its
companions invert a run that returned: they name the states and the results in between.
-/

set_option autoImplicit false

namespace AitpPlayground.Lib

/-- Code over the state `σ` that may raise an `ε`. -/
abbrev Act (ε σ α : Type) := EStateM ε σ α

namespace Act

variable {ε σ α β : Type}

/-- The state after a run, returned or raised. -/
def after (x : Act ε σ α) (s : σ) : σ :=
  match x s with
  | .ok _ s' => s'
  | .error _ s' => s'

/-- What a call that may raise, and touches no state, returns or raises. -/
def ofExcept {ε' : Type} (f : ε' → ε) : Except ε' α → Act ε σ α
  | .ok a => pure a
  | .error e => throw (f e)

/-- What is there, or an exception. -/
def orThrow (e : ε) : Option α → Act ε σ α
  | some a => pure a
  | none => throw e

/-! ### The state after a run -/

section
variable {ε' : Type} (f : ε' → ε) (g : α → Act ε σ β) (s : σ)

/-- A value leaves the state. -/
@[simp] theorem after_pure (a : α) : (pure a : Act ε σ α).after s = s := rfl

/-- An exception leaves it as it is where it is thrown. -/
@[simp] theorem after_throw (e : ε) : (throw e : Act ε σ α).after s = s := rfl

/-- A change of the state. -/
@[simp] theorem after_modify (h : σ → σ) : (modify h : Act ε σ Unit).after s = h s := rfl

/-- A pure computation leaves the state. -/
@[simp] theorem after_ofExcept (r : Except ε' α) : (ofExcept f r : Act ε σ α).after s = s := by
  cases r <;> rfl

/-- What comes after a value. -/
@[simp] theorem after_pure_bind (a : α) : (pure a >>= g).after s = (g a).after s := rfl

/-- What comes after a look at the state. -/
@[simp] theorem after_get_bind (g : σ → Act ε σ β) : (get >>= g).after s = (g s).after s := rfl

/-- What comes after a change. -/
@[simp] theorem after_modify_bind (h : σ → σ) (g : Unit → Act ε σ β) :
    (modify h >>= g).after s = (g ()).after (h s) := rfl

/-- What comes after a computation with a value. -/
@[simp] theorem ofExcept_ok_bind (a : α) : (ofExcept f (.ok a) >>= g) = g a := rfl

/-- An exception skips the rest. -/
@[simp] theorem ofExcept_error_bind (e : ε') : (ofExcept f (.error e) >>= g) = throw (f e) := rfl

/-- Runs with one result end in one state. -/
theorem after_congr {x y : Act ε σ α} {s s' : σ} (h : x s = y s') : x.after s = y.after s' := by
  unfold after
  rw [h]

/-- The state after a run that returned. -/
theorem after_of_ok {x : Act ε σ α} {s s' : σ} {a : α} (h : x s = .ok a s') : x.after s = s' :=
  after_congr (y := pure a) h

/-- Without an exception the handler is not called. -/
theorem tryCatch_of_ok {x : Act ε σ α} {h : ε → Act ε σ α} {s s' : σ} {a : α}
    (hx : x s = .ok a s') : (tryCatch x h) s = .ok a s' := by
  show EStateM.tryCatch x h s = _
  delta EStateM.tryCatch
  simp only [hx]

/-- The handler starts in the state that the exception left. -/
theorem tryCatch_of_error {x : Act ε σ α} {h : ε → Act ε σ α} {s s' : σ} {e : ε}
    (hx : x s = .error e s') : (tryCatch x h) s = h e s' := by
  show EStateM.tryCatch x h s = _
  delta EStateM.tryCatch
  simp only [hx]
  rfl

/-- The state without an exception. -/
theorem after_tryCatch_ok {x : Act ε σ α} {h : ε → Act ε σ α} {s s' : σ} {a : α}
    (hx : x s = .ok a s') : (tryCatch x h).after s = s' := after_of_ok (tryCatch_of_ok hx)

/-- The state after the handler. -/
theorem after_tryCatch_error {x : Act ε σ α} {h : ε → Act ε σ α} {s s' : σ} {e : ε}
    (hx : x s = .error e s') : (tryCatch x h).after s = (h e).after s' :=
  after_congr (tryCatch_of_error hx)

/-- The run of a sequence whose first part returned. -/
theorem bind_of_ok {x : Act ε σ α} {a : α} {s' : σ} (h : x s = .ok a s') :
    (x >>= g) s = g a s' := by
  show EStateM.bind x g s = _
  unfold EStateM.bind
  rw [h]

/-- The run of a sequence whose first part raised. -/
theorem bind_of_error {x : Act ε σ α} {e : ε} {s' : σ} (h : x s = .error e s') :
    (x >>= g) s = .error e s' := by
  show EStateM.bind x g s = _
  unfold EStateM.bind
  rw [h]

end

/-! ### What every run keeps -/

/-- The state before and the state after every run are related. -/
def Within (R : σ → σ → Prop) (x : Act ε σ α) : Prop := ∀ s, R s (x.after s)

section
variable {R : σ → σ → Prop}

/-- The relation between the states of a run with a value. -/
theorem Within.of_ok {x : Act ε σ α} {s s' : σ} {a : α} (hx : Within R x)
    (h : x s = .ok a s') : R s s' := by
  have hs := hx s
  rwa [after_of_ok h] at hs

/-- A value keeps every reflexive relation. -/
theorem within_pure [Std.Refl R] (a : α) : Within R (pure a : Act ε σ α) :=
  fun s => Std.Refl.refl s

/-- An exception keeps every reflexive relation. -/
theorem within_throw [Std.Refl R] (e : ε) : Within R (throw e : Act ε σ α) :=
  fun s => Std.Refl.refl s

/-- A look at the state keeps every reflexive relation. -/
theorem within_get [Std.Refl R] : Within R (get : Act ε σ σ) := fun s => Std.Refl.refl s

/-- A change keeps the relations that each state has with its image. -/
theorem within_modify {f : σ → σ} (h : ∀ s, R s (f s)) : Within R (modify f : Act ε σ Unit) := h

/-- A pure computation keeps every reflexive relation. -/
theorem within_ofExcept [Std.Refl R] {ε' : Type} (f : ε' → ε) (r : Except ε' α) :
    Within R (ofExcept f r : Act ε σ α) := by
  cases r with
  | ok a => exact within_pure a
  | error e => exact within_throw (f e)

/-- The test of an option keeps every reflexive relation. -/
theorem within_orThrow [Std.Refl R] (e : ε) (o : Option α) :
    Within R (orThrow e o : Act ε σ α) := by
  cases o with
  | some a => exact within_pure a
  | none => exact within_throw e

/-- Two actions in turn keep a transitive relation. -/
theorem within_bind [IsTrans σ R] {x : Act ε σ α} {f : α → Act ε σ β} (hx : Within R x)
    (hf : ∀ a, Within R (f a)) : Within R (x >>= f) := by
  intro s
  have hxs := hx s
  unfold after at hxs ⊢
  show R s (match EStateM.bind x f s with | .ok _ s' => s' | .error _ s' => s')
  unfold EStateM.bind
  cases h : x s with
  | ok a s₁ =>
    rw [h] at hxs
    exact IsTrans.trans _ _ _ hxs (hf a s₁)
  | error e s₁ =>
    rw [h] at hxs
    exact hxs

/-- What is within a relation stays so with the result put through a function. -/
theorem within_map [Std.Refl R] [IsTrans σ R] {x : Act ε σ α} (f : α → β) (hx : Within R x) :
    Within R (f <$> x) := by
  rw [← bind_pure_comp]
  exact within_bind hx fun a => within_pure (f a)

/-- An action and its handler keep a transitive relation. -/
theorem within_tryCatch [IsTrans σ R] {x : Act ε σ α} {f : ε → Act ε σ α} (hx : Within R x)
    (hf : ∀ e, Within R (f e)) : Within R (tryCatch x f) := by
  intro s
  have hxs := hx s
  unfold after at hxs ⊢
  show R s (match EStateM.tryCatch x f s with | .ok _ s' => s' | .error _ s' => s')
  delta EStateM.tryCatch
  cases h : x s with
  | ok a s₁ =>
    simp only [h] at hxs ⊢
    exact hxs
  | error e s₁ =>
    simp only [h] at hxs ⊢
    exact IsTrans.trans _ _ _ hxs (hf e s₁)

/-- A branch keeps what both actions keep. -/
theorem within_ite {c : Prop} [Decidable c] {x y : Act ε σ α} (hx : Within R x)
    (hy : Within R y) : Within R (if c then x else y) := by
  split
  · exact hx
  · exact hy

end

/-! ### What every exception is -/

/-- Every exception that a run raises has this property. -/
def Raises (P : ε → Prop) (x : Act ε σ α) : Prop := ∀ s e s', x s = .error e s' → P e

section
variable {P : ε → Prop}

/-- A value raises nothing. -/
theorem raises_pure (a : α) : Raises P (pure a : Act ε σ α) := by
  intro s e s' h
  cases h

/-- An exception raises itself. -/
theorem raises_throw {e : ε} (h : P e) : Raises P (throw e : Act ε σ α) := by
  intro s e' s' hrun
  cases hrun
  exact h

/-- A change raises nothing. -/
theorem raises_modify (f : σ → σ) : Raises P (modify f : Act ε σ Unit) := by
  intro s e s' h
  cases h

/-- A pure computation raises what its exceptions become. -/
theorem raises_ofExcept {ε' : Type} {f : ε' → ε} (r : Except ε' α) (h : ∀ e, P (f e)) :
    Raises P (ofExcept f r : Act ε σ α) := by
  cases r with
  | ok a => exact raises_pure a
  | error e => exact raises_throw (h e)

/-- Two actions in turn raise what each of them raises. -/
theorem raises_bind {x : Act ε σ α} {f : α → Act ε σ β} (hx : Raises P x)
    (hf : ∀ a, Raises P (f a)) : Raises P (x >>= f) := by
  intro s e s' h
  cases hrun : x s with
  | ok a s₁ =>
    rw [bind_of_ok f s hrun] at h
    exact hf a s₁ e s' h
  | error e₁ s₁ =>
    rw [bind_of_error f s hrun] at h
    cases h
    exact hx s _ _ hrun

/-- With a handler, what the handler raises. -/
theorem raises_tryCatch {x : Act ε σ α} {h : ε → Act ε σ α} (hx : Raises P x)
    (hh : ∀ e, P e → Raises P (h e)) : Raises P (tryCatch x h) := by
  intro s e s' hrun
  cases hfirst : x s with
  | ok a s₁ =>
    rw [tryCatch_of_ok hfirst] at hrun
    cases hrun
  | error e₁ s₁ =>
    rw [tryCatch_of_error hfirst] at hrun
    exact hh e₁ (hx s _ _ hfirst) s₁ e s' hrun

/-- A branch raises what the action of its case raises. -/
theorem raises_ite {c : Prop} [Decidable c] {x y : Act ε σ α} (hx : c → Raises P x)
    (hy : ¬c → Raises P y) : Raises P (if c then x else y) := by
  split
  case isTrue h => exact hx h
  case isFalse h => exact hy h

end

/-! ### Exceptions under an invariant -/

/-- From a state with `I` a run ends in one, and every exception that it raises has `P`. -/
def Safe (I : σ → Prop) (P : ε → Prop) (x : Act ε σ α) : Prop :=
  ∀ s, I s → I (x.after s) ∧ ∀ e s', x s = .error e s' → P e

section
variable {I : σ → Prop} {P : ε → Prop}

/-- A value is safe. -/
theorem safe_pure (a : α) : Safe I P (pure a : Act ε σ α) := fun _ hs => ⟨hs, nofun⟩

/-- An exception that is allowed. -/
theorem safe_throw {e : ε} (h : P e) : Safe I P (throw e : Act ε σ α) := by
  refine fun s hs => ⟨hs, fun e' s' hrun => ?_⟩
  cases hrun
  exact h

/-- A look at the state is safe. -/
theorem safe_get : Safe I P (get : Act ε σ σ) := fun _ hs => ⟨hs, nofun⟩

/-- A change that keeps the invariant is safe. -/
theorem safe_modify {f : σ → σ} (h : ∀ s, I s → I (f s)) :
    Safe I P (modify f : Act ε σ Unit) := fun s hs => ⟨h s hs, nofun⟩

/-- A new state that has the invariant is safe. -/
theorem safe_set {a : σ} (h : I a) : Safe I P (set a : Act ε σ PUnit) := fun _ _ => ⟨h, nofun⟩

/-- A pure computation is safe when its exceptions are allowed. -/
theorem safe_ofExcept {ε' : Type} {f : ε' → ε} {r : Except ε' α}
    (h : ∀ e, r = .error e → P (f e)) : Safe I P (ofExcept f r : Act ε σ α) := by
  cases r with
  | ok a => exact safe_pure a
  | error e => exact safe_throw (h e rfl)

/-- The test of an option that has a value. -/
theorem safe_orThrow {e : ε} {o : Option α} (h : o.isSome) :
    Safe I P (orThrow e o : Act ε σ α) := by
  cases o with
  | some a => exact safe_pure a
  | none => cases h

/-- Two safe actions in turn. -/
theorem safe_bind {x : Act ε σ α} {f : α → Act ε σ β} (hx : Safe I P x)
    (hf : ∀ a, Safe I P (f a)) : Safe I P (x >>= f) := by
  intro s hs
  obtain ⟨hafter, hraises⟩ := hx s hs
  cases hrun : x s with
  | ok a s₁ =>
    rw [after_of_ok hrun] at hafter
    rw [after_congr (bind_of_ok f s hrun), bind_of_ok f s hrun]
    exact hf a s₁ hafter
  | error e s₁ =>
    rw [after_congr (y := throw e) hrun] at hafter
    refine ⟨?_, fun e' s' h => ?_⟩
    · rw [after_congr (y := throw e) (bind_of_error f s hrun)]
      exact hafter
    · rw [bind_of_error f s hrun] at h
      cases h
      exact hraises _ _ hrun

/-- What comes after a look at the state may depend on what is there. -/
theorem safe_get_bind {f : σ → Act ε σ β} (h : ∀ s, I s → Safe I P (f s)) :
    Safe I P (get >>= f) := fun s hs => h s hs s hs

/-- The handler runs where the protected run raised. -/
theorem safe_tryCatch {Q : ε → Prop} {x : Act ε σ α} {h : ε → Act ε σ α} (hx : Safe I Q x)
    (hh : ∀ e, Q e → Safe I P (h e)) : Safe I P (tryCatch x h) := by
  intro s hs
  obtain ⟨hafter, hraises⟩ := hx s hs
  cases hrun : x s with
  | ok a s₁ =>
    rw [after_of_ok hrun] at hafter
    rw [after_tryCatch_ok hrun, tryCatch_of_ok hrun]
    exact ⟨hafter, nofun⟩
  | error e s₁ =>
    rw [after_congr (y := throw e) hrun] at hafter
    rw [after_tryCatch_error hrun, tryCatch_of_error hrun]
    exact hh e (hraises e s₁ hrun) s₁ hafter

/-- A branch of safe actions. -/
theorem safe_ite {c : Prop} [Decidable c] {x y : Act ε σ α} (hx : Safe I P x)
    (hy : Safe I P y) : Safe I P (if c then x else y) := by
  split
  · exact hx
  · exact hy

end

/-! ### Runs that return -/

variable {x : Act ε σ α} {s s' : σ}

/-- A value is returned in the same state. -/
theorem pure_eq_ok {a b : α} : (pure a : Act ε σ α) s = .ok b s' ↔ a = b ∧ s = s' := by
  show EStateM.Result.ok a s = .ok b s' ↔ _
  exact EStateM.Result.ok.injEq .. ▸ Iff.rfl

/-- Two actions in turn return when the first one and then the second one do. -/
theorem bind_eq_ok {f : α → Act ε σ β} {b : β} :
    (x >>= f) s = .ok b s' ↔ ∃ a s₁, x s = .ok a s₁ ∧ f a s₁ = .ok b s' := by
  show EStateM.bind x f s = .ok b s' ↔ _
  unfold EStateM.bind
  cases x s with
  | ok a s₁ =>
    constructor
    · exact fun h => ⟨a, s₁, rfl, h⟩
    · rintro ⟨_, _, h, hf⟩
      cases h
      exact hf
  | error e s₁ => simp

/-- A pure computation returns its value in the same state. -/
theorem ofExcept_eq_ok {ε' : Type} {f : ε' → ε} {r : Except ε' α} {a : α} :
    (ofExcept f r : Act ε σ α) s = .ok a s' ↔ r = .ok a ∧ s = s' := by
  cases r with
  | ok b =>
    rw [Except.ok.injEq]
    exact pure_eq_ok
  | error e =>
    constructor
    · intro h
      cases h
    · rintro ⟨h, -⟩
      cases h

/-- The test of an option returns its value in the same state. -/
theorem orThrow_eq_ok {e : ε} {o : Option α} {a : α} :
    (orThrow e o : Act ε σ α) s = .ok a s' ↔ o = some a ∧ s = s' := by
  cases o with
  | some b =>
    rw [Option.some.injEq]
    exact pure_eq_ok
  | none =>
    constructor
    · intro h
      cases h
    · rintro ⟨h, -⟩
      cases h

/-- A look returns the state. -/
theorem get_eq_ok {a : σ} : (get : Act ε σ σ) s = .ok a s' ↔ s = a ∧ s = s' := by
  show EStateM.Result.ok s s = .ok a s' ↔ _
  exact EStateM.Result.ok.injEq .. ▸ Iff.rfl

/-- A change returns in the changed state. -/
theorem modify_eq_ok {f : σ → σ} {u : Unit} :
    (modify f : Act ε σ Unit) s = .ok u s' ↔ f s = s' := by
  show EStateM.Result.ok () (f s) = .ok u s' ↔ _
  rw [EStateM.Result.ok.injEq]
  exact ⟨fun h => h.2, fun h => ⟨rfl, h⟩⟩

/-- A protected run that returns: it returned itself, or the handler did. -/
theorem tryCatch_eq_ok {h : ε → Act ε σ α} {a : α} (hrun : (tryCatch x h) s = .ok a s') :
    x s = .ok a s' ∨ ∃ e s₁, x s = .error e s₁ ∧ h e s₁ = .ok a s' := by
  cases hx : x s with
  | ok b s₁ =>
    rw [tryCatch_of_ok hx] at hrun
    exact .inl hrun
  | error e s₁ =>
    rw [tryCatch_of_error hx] at hrun
    exact .inr ⟨e, s₁, rfl, hrun⟩

end Act

end AitpPlayground.Lib
