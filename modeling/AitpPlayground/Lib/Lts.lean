import Mathlib.Logic.Relation

/-!
# `AitpPlayground.Lib.Lts`: runs of a labelled machine

A machine is a partial step function `step : σ → κ → Option σ`. The label resolves every
choice: which party moves, what the outside world answers, what the clock reads. So one
label is one atomic step, and a run is a list of labels.

`Reach step ok s s'` says that `s'` is reached from `s` by steps that all meet the guard
`ok`. The guard reads the state before the step and the label. `anyStep` is the guard
that admits every step, so `Reach step anyStep` is plain reachability.

`exec` runs a list of labels and checks the guard on the way. `reach_of_exec` turns such an
evaluation into a `Reach` fact, which is how concrete runs enter a proof.

`Reach.invariant` is the induction rule: what every guarded step preserves holds in every
state reached.
-/

set_option autoImplicit false

namespace AitpPlayground.Lib

variable {σ κ : Type}

/-- One step of the machine that the guard admits. -/
def Next (step : σ → κ → Option σ) (ok : σ → κ → Prop) (s s' : σ) : Prop :=
  ∃ l, ok s l ∧ step s l = some s'

/-- `s'` is reached from `s` by steps that all meet the guard. -/
def Reach (step : σ → κ → Option σ) (ok : σ → κ → Prop) : σ → σ → Prop :=
  Relation.ReflTransGen (Next step ok)

/-- The guard that admits every step. -/
def anyStep (_ : σ) (_ : κ) : Prop := True

instance (s : σ) (l : κ) : Decidable (anyStep s l) := inferInstanceAs (Decidable True)

/-- Runs the labels in order. The result is `none` when a step is not enabled or does not
meet the guard. -/
def exec (step : σ → κ → Option σ) (ok : σ → κ → Prop) [∀ s l, Decidable (ok s l)] :
    σ → List κ → Option σ
  | s, [] => some s
  | s, l :: ls => if ok s l then (step s l).bind (exec step ok · ls) else none

variable {step : σ → κ → Option σ} {ok : σ → κ → Prop}

/-- A state reaches itself. -/
theorem Reach.refl (s : σ) : Reach step ok s s := Relation.ReflTransGen.refl

/-- Two runs in turn. -/
theorem Reach.trans {s₁ s₂ s₃ : σ} (h : Reach step ok s₁ s₂) (h' : Reach step ok s₂ s₃) :
    Reach step ok s₁ s₃ := Relation.ReflTransGen.trans h h'

/-- A run followed by one more step. -/
theorem Reach.snoc {s₁ s₂ s₃ : σ} {l : κ} (h : Reach step ok s₁ s₂) (hok : ok s₂ l)
    (hs : step s₂ l = some s₃) : Reach step ok s₁ s₃ :=
  Relation.ReflTransGen.tail h ⟨l, hok, hs⟩

/-- A property that every guarded step preserves holds in every state reached. -/
theorem Reach.invariant {P : σ → Prop}
    (hstep : ∀ s l s', P s → ok s l → step s l = some s' → P s')
    {s s' : σ} (h : Reach step ok s s') (hs : P s) : P s' := by
  induction h with
  | refl => exact hs
  | tail _ hnext ih =>
    obtain ⟨l, hok, heq⟩ := hnext
    exact hstep _ l _ ih hok heq

/-- A run under a guard is a run under every weaker guard. -/
theorem Reach.weaken {ok' : σ → κ → Prop} (hok : ∀ s l, ok s l → ok' s l) {s s' : σ}
    (h : Reach step ok s s') : Reach step ok' s s' := by
  induction h with
  | refl => exact Reach.refl s
  | tail _ hnext ih =>
    obtain ⟨l, hl, heq⟩ := hnext
    exact ih.snoc (hok _ l hl) heq

/-- An evaluation of a list of labels is a run. -/
theorem reach_of_exec [∀ s l, Decidable (ok s l)] {s s' : σ} (ls : List κ)
    (h : exec step ok s ls = some s') : Reach step ok s s' := by
  induction ls generalizing s with
  | nil =>
    cases h
    exact Reach.refl _
  | cons l ls ih =>
    simp only [exec] at h
    split at h
    case isTrue hok =>
      obtain ⟨s₁, hs₁, hrest⟩ := Option.bind_eq_some_iff.mp h
      exact Relation.ReflTransGen.head ⟨l, hok, hs₁⟩ (ih hrest)
    case isFalse => cases h

/-- An evaluation of a list of labels reaches a state, with what it reads off it. -/
theorem exists_reach_of_exec [∀ s l, Decidable (ok s l)] {α : Type} {s : σ} {ls : List κ}
    {f : σ → α} {v : α} (h : (exec step ok s ls).map f = some v) :
    ∃ s', Reach step ok s s' ∧ f s' = v := by
  obtain ⟨s', hs', hv⟩ := Option.map_eq_some_iff.mp h
  exact ⟨s', reach_of_exec ls hs', hv⟩

/-- What an evaluation reads off the state it ends in. -/
theorem exec_reads [∀ s l, Decidable (ok s l)] {α : Type} {s s' : σ} {ls : List κ} (f : σ → α)
    {v : α} (hs : exec step ok s ls = some s') (h : (exec step ok s ls).map f = some v) :
    f s' = v := by
  rw [hs] at h
  exact Option.some.inj h

end AitpPlayground.Lib
