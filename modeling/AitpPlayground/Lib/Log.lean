import AitpPlayground.Lib.Act

/-!
# `AitpPlayground.Lib.Log`: what code adds to a log

A log is a list that is read from the state, and it may be a part of what the state keeps: the
entries of one kind. `Act.Commits log added x` says that `x` is atomic on the log. A run that
returns adds the entries `added`, and a run that raises adds none.

Code is atomic when it adds its entries in one place, and nothing after that place raises. So
there is a rule for quiet code before (`commits_bind`) and one for writes that come after
(`commits_modify_after`).

Atomic codes one after the other are not atomic together: the first ones may have added their
entries when a later one raises. `log_inTurn` says what the log has then.
-/

set_option autoImplicit false

namespace AitpPlayground.Lib

namespace Act

variable {ε σ α β τ : Type}

/-- A run that returns adds these entries to the log, and one that raises adds none. -/
def Commits (log : σ → List τ) (added : List τ) (x : Act ε σ α) : Prop :=
  ∀ s, match x s with
    | .ok _ s' => log s' = log s ++ added
    | .error _ s' => log s' = log s

section
variable {log : σ → List τ} {added : List τ}

/-- What is added when the action returns. -/
theorem Commits.of_ok {x : Act ε σ α} {s s' : σ} {a : α} (hx : Commits log added x)
    (h : x s = .ok a s') : log s' = log s ++ added := by
  have hs := hx s
  rwa [h] at hs

/-- Nothing is when it raises. -/
theorem Commits.of_error {x : Act ε σ α} {s s' : σ} {e : ε} (hx : Commits log added x)
    (h : x s = .error e s') : log s' = log s := by
  have hs := hx s
  rwa [h] at hs

/-- A value adds nothing. -/
theorem commits_pure (a : α) : Commits log [] (pure a : Act ε σ α) :=
  fun s => (List.append_nil (log s)).symm

/-- What raises adds nothing, whatever it would have added. -/
theorem commits_throw (e : ε) : Commits log added (throw e : Act ε σ α) := fun _ => rfl

/-- A look at the state adds nothing. -/
theorem commits_get : Commits log [] (get : Act ε σ σ) :=
  fun s => (List.append_nil (log s)).symm

/-- A change adds what it adds in every state. -/
theorem commits_modify {f : σ → σ} (h : ∀ s, log (f s) = log s ++ added) :
    Commits log added (modify f : Act ε σ Unit) := h

/-- A pure computation adds nothing. -/
theorem commits_ofExcept {ε' : Type} (f : ε' → ε) (r : Except ε' α) :
    Commits log [] (ofExcept f r : Act ε σ α) := by
  cases r with
  | ok a => exact commits_pure a
  | error e => exact commits_throw (f e)

/-- A branch adds what both actions add. -/
theorem commits_ite {c : Prop} [Decidable c] {x y : Act ε σ α} (hx : Commits log added x)
    (hy : Commits log added y) : Commits log added (if c then x else y) := by
  split
  · exact hx
  · exact hy

/-- Quiet code may come first. -/
theorem commits_bind {x : Act ε σ α} {f : α → Act ε σ β} (hx : Commits log [] x)
    (hf : ∀ a, Commits log added (f a)) : Commits log added (x >>= f) := by
  intro s
  cases hrun : x s with
  | ok a s₁ =>
    have hquiet : log s₁ = log s := by rw [hx.of_ok hrun, List.append_nil]
    rw [bind_of_ok f s hrun, ← hquiet]
    exact hf a s₁
  | error e s₁ =>
    rw [bind_of_error f s hrun]
    exact hx.of_error hrun

/-- A write that leaves the log may come last: it does not raise. -/
theorem commits_modify_after {x : Act ε σ α} {g : α → σ → σ} (hx : Commits log added x)
    (hg : ∀ a s, log (g a s) = log s) :
    Commits log added (x >>= fun a => (modify (g a) : Act ε σ Unit)) := by
  intro s
  cases hrun : x s with
  | ok a s₁ =>
    rw [bind_of_ok _ s hrun]
    show log (g a s₁) = log s ++ added
    rw [hg, hx.of_ok hrun]
  | error e s₁ =>
    rw [bind_of_error _ s hrun]
    exact hx.of_error hrun

/-- Quiet code with a quiet handler is quiet. -/
theorem commits_tryCatch {x : Act ε σ α} {h : ε → Act ε σ α} (hx : Commits log [] x)
    (hh : ∀ e, Commits log [] (h e)) : Commits log [] (tryCatch x h) := by
  intro s
  cases hrun : x s with
  | ok a s₁ =>
    rw [tryCatch_of_ok hrun]
    exact hx.of_ok hrun
  | error e s₁ =>
    rw [tryCatch_of_error hrun, ← hx.of_error hrun]
    exact hh e s₁

/-- A relation that keeps the log makes quiet code. -/
theorem Within.commits {R : σ → σ → Prop} {x : Act ε σ α} (hx : Within R x)
    (h : ∀ s s', R s s' → log s' = log s) : Commits log [] x := by
  intro s
  have hkept := h s _ (hx s)
  unfold after at hkept
  cases hrun : x s with
  | ok a s₁ =>
    rw [hrun] at hkept
    exact hkept.trans (List.append_nil _).symm
  | error e s₁ =>
    rw [hrun] at hkept
    exact hkept

end

/-! ### One after the other -/

/-- Codes one after the other. -/
def inTurn : List (Act ε σ Unit) → Act ε σ Unit
  | [] => pure ()
  | x :: rest => do
    x
    inTurn rest

/-- Atomic codes, each with its entries: when all return, the log has the entries of all, and
when one raises, it has those of the codes before it. -/
theorem log_inTurn {log : σ → List τ} {codes : List (Act ε σ Unit × List τ)}
    (h : ∀ c ∈ codes, Commits log c.2 c.1) (s : σ) :
    match inTurn (codes.map Prod.fst) s with
    | .ok _ s' => log s' = log s ++ codes.flatMap Prod.snd
    | .error e s' => ∃ k code s₁, codes[k]? = some code ∧
        inTurn ((codes.take k).map Prod.fst) s = .ok () s₁ ∧ code.1 s₁ = .error e s' ∧
        log s' = log s ++ (codes.take k).flatMap Prod.snd := by
  induction codes generalizing s with
  | nil => exact (List.append_nil (log s)).symm
  | cons code rest ih =>
    have hcode := h code (List.mem_cons_self ..)
    have hrest := ih fun c hc => h c (List.mem_cons_of_mem _ hc)
    show match (code.1 >>= fun _ => inTurn (rest.map Prod.fst)) s with
      | .ok _ s' => _
      | .error _ s' => _
    cases hrun : code.1 s with
    | error e s₁ =>
      rw [bind_of_error _ s hrun]
      refine ⟨0, code, s, rfl, rfl, hrun, ?_⟩
      rw [hcode.of_error hrun]
      exact (List.append_nil _).symm
    | ok u s₁ =>
      rw [bind_of_ok _ s hrun]
      have hs₁ : log s₁ = log s ++ code.2 := hcode.of_ok hrun
      have htail := hrest s₁
      cases hlast : inTurn (rest.map Prod.fst) s₁ with
      | ok u s₂ =>
        rw [hlast] at htail
        show log s₂ = log s ++ (code.2 ++ rest.flatMap Prod.snd)
        rw [htail, hs₁, List.append_assoc]
      | error e s₂ =>
        rw [hlast] at htail
        obtain ⟨k, raising, s₃, hk, hbefore, hraises, hlog⟩ := htail
        refine ⟨k + 1, raising, s₃, hk, ?_, hraises, ?_⟩
        · show (code.1 >>= fun _ => inTurn ((rest.take k).map Prod.fst)) s = .ok () s₃
          rw [bind_of_ok _ s hrun, hbefore]
        · show log s₂ = log s ++ (code.2 ++ (rest.take k).flatMap Prod.snd)
          rw [hlog, hs₁, List.append_assoc]

end Act

end AitpPlayground.Lib
