import Mathlib.Data.List.Pairwise
import Mathlib.Order.Basic

/-!
# `AitpPlayground.Lib.Calls`: calls that are answered yes or no

`f : σ → ι → Bool × σ` is a method that changes the state `σ` and says yes or no. `answers f`
runs it over a list of calls, and `granted` keeps the calls that were answered with yes.

Many such methods read a clock. `Timed time calls` says that the clock does not go back from
one call to the next. `answers_eq_of_simulation` is the rule for two methods: a relation that
may depend on the time of the last call, and that every later call preserves with equal
answers, makes the two give the same answers.
-/

set_option autoImplicit false

namespace AitpPlayground.Lib

variable {σ τ ι T : Type}

/-- The answers of a sequence of calls. -/
def answers (f : σ → ι → Bool × σ) : σ → List ι → List Bool
  | _, [] => []
  | s, c :: cs => (f s c).1 :: answers f (f s c).2 cs

/-- The state after a sequence of calls. -/
def stateAfter (f : σ → ι → Bool × σ) (s : σ) (calls : List ι) : σ :=
  calls.foldl (fun s c => (f s c).2) s

/-- The calls that were answered with yes, in order. -/
def granted : List ι → List Bool → List ι
  | c :: cs, true :: as => c :: granted cs as
  | _ :: cs, false :: as => granted cs as
  | _, _ => []

/-- The clock does not go back from one call to the next. -/
def Timed [LE T] (time : ι → T) (calls : List ι) : Prop :=
  calls.Pairwise fun c d => time c ≤ time d

instance [LE T] [DecidableLE T] (time : ι → T) (calls : List ι) : Decidable (Timed time calls) :=
  inferInstanceAs (Decidable (List.Pairwise _ _))

section
variable (f : σ → ι → Bool × σ)

/-- No call leaves the state. -/
@[simp] theorem stateAfter_nil (s : σ) : stateAfter f s [] = s := rfl

/-- The first call and then the others. -/
@[simp] theorem stateAfter_cons (s : σ) (c : ι) (cs : List ι) :
    stateAfter f s (c :: cs) = stateAfter f (f s c).2 cs := rfl

/-- The last call comes after the others. -/
theorem stateAfter_snoc (s : σ) (cs : List ι) (c : ι) :
    stateAfter f s (cs ++ [c]) = (f (stateAfter f s cs) c).2 := by
  simp [stateAfter]

/-- No call has no answer. -/
@[simp] theorem answers_nil (s : σ) : answers f s [] = [] := rfl

/-- The first answer and then the others. -/
@[simp] theorem answers_cons (s : σ) (c : ι) (cs : List ι) :
    answers f s (c :: cs) = (f s c).1 :: answers f (f s c).2 cs := rfl

/-- Every call has one answer. -/
@[simp] theorem length_answers (s : σ) (calls : List ι) :
    (answers f s calls).length = calls.length := by
  induction calls generalizing s with
  | nil => rfl
  | cons c cs ih => simp [ih]

/-- The answers of two sequences. -/
theorem answers_append (s : σ) (cs ds : List ι) :
    answers f s (cs ++ ds) = answers f s cs ++ answers f (stateAfter f s cs) ds := by
  induction cs generalizing s with
  | nil => rfl
  | cons c cs ih => simp [ih]

end

/-- Nothing is granted without calls. -/
@[simp] theorem granted_nil (as : List Bool) : granted ([] : List ι) as = [] := by
  cases as <;> rfl

/-- A call that is granted. -/
@[simp] theorem granted_cons_true (c : ι) (cs : List ι) (as : List Bool) :
    granted (c :: cs) (true :: as) = c :: granted cs as := rfl

/-- A call that is refused. -/
@[simp] theorem granted_cons_false (c : ι) (cs : List ι) (as : List Bool) :
    granted (c :: cs) (false :: as) = granted cs as := rfl

/-- What is granted in two sequences. -/
theorem granted_append {cs : List ι} {as : List Bool} (h : as.length = cs.length) (ds : List ι)
    (bs : List Bool) : granted (cs ++ ds) (as ++ bs) = granted cs as ++ granted ds bs := by
  induction cs generalizing as with
  | nil =>
    rw [List.length_eq_zero_iff.mp h]
    rfl
  | cons c cs ih =>
    cases as with
    | nil => cases h
    | cons a as =>
      have hrest := ih (Nat.succ.inj h)
      cases a with
      | true => exact congrArg (c :: ·) hrest
      | false => exact hrest

/-- A granted call is one of the calls. -/
theorem mem_of_mem_granted {c : ι} {cs : List ι} {as : List Bool} (h : c ∈ granted cs as) :
    c ∈ cs := by
  induction cs generalizing as with
  | nil => cases h
  | cons d cs ih =>
    cases as with
    | nil => cases h
    | cons a as =>
      cases a with
      | true =>
        rcases List.mem_cons.mp h with rfl | h
        · exact List.mem_cons_self
        · exact List.mem_cons_of_mem _ (ih h)
      | false => exact List.mem_cons_of_mem _ (ih h)

/-- Two methods with a relation that every later call preserves, with equal answers, answer
a sequence of calls in the same way. -/
theorem answers_eq_of_simulation [Preorder T] {time : ι → T} {f : σ → ι → Bool × σ}
    {g : τ → ι → Bool × τ} {R : T → σ → τ → Prop}
    (hstep : ∀ t s s' c, R t s s' → t ≤ time c →
      (f s c).1 = (g s' c).1 ∧ R (time c) (f s c).2 (g s' c).2)
    {s : σ} {s' : τ} {calls : List ι} (h : ∀ c ∈ calls, R (time c) s s')
    (hcalls : Timed time calls) : answers f s calls = answers g s' calls := by
  -- From a state related at `t`, for calls that are all at `t` or later.
  have hfrom : ∀ (calls : List ι) (t : T) (s : σ) (s' : τ), R t s s' →
      (∀ c ∈ calls, t ≤ time c) → Timed time calls → answers f s calls = answers g s' calls := by
    intro calls
    induction calls with
    | nil => exact fun _ _ _ _ _ _ => rfl
    | cons c cs ih =>
      intro t s s' hR hlater hcalls
      obtain ⟨hfirst, hrest⟩ := List.pairwise_cons.mp hcalls
      obtain ⟨hanswer, hR'⟩ := hstep t s s' c hR (hlater c List.mem_cons_self)
      simp only [answers_cons, hanswer, ih _ _ _ hR' hfirst hrest]
  cases calls with
  | nil => rfl
  | cons c cs =>
    refine hfrom (c :: cs) (time c) s s' (h c List.mem_cons_self) ?_ hcalls
    intro d hd
    rcases List.mem_cons.mp hd with rfl | hd
    · exact le_refl _
    · exact (List.pairwise_cons.mp hcalls).1 d hd

end AitpPlayground.Lib
