import AitpPlayground.Lib.Calls
import Mathlib.Algebra.Order.Field.Basic
import Mathlib.Data.Rat.Cast.Order
import Mathlib.Tactic.Linarith
import Mathlib.Tactic.Ring

/-!
# `AitpPlayground.Lib.Refill`: tokens that refill over time

The idea behind a token bucket, without a table. Every key has a level: the tokens it would
have at each time if nobody took any. A level rises with the rate and stops at the cap. A call
takes one token if there is one.

`Flowing` is what holds of the levels from one time on: they are between zero and the cap, and
they rise no faster than the rate. `granted_le` follows from it: in every closed interval a
key gets at most the cap plus what flows in while the interval lasts.
-/

set_option autoImplicit false

namespace AitpPlayground.Lib

variable {κ 𝕜 : Type} [Field 𝕜] [LinearOrder 𝕜]

/-- The tokens after a wait. -/
def refill (cap rate tokens wait : 𝕜) : 𝕜 := min cap (tokens + wait * rate)

/-- The tokens that each key has at each time, if nobody takes any before. -/
abbrev Levels (κ 𝕜 : Type) := κ → 𝕜 → 𝕜

namespace Levels

/-- Every key is full. -/
def full (cap : 𝕜) : Levels κ 𝕜 := fun _ _ => cap

/-- The tokens that a call with this level leaves. -/
def left (level : 𝕜) : 𝕜 := if 1 ≤ level then level - 1 else level

/-- A call takes a token of its key, at its time, if there is one. -/
def take [DecidableEq κ] (cap rate : 𝕜) (l : Levels κ 𝕜) (c : κ × 𝕜) : Bool × Levels κ 𝕜 :=
  (decide (1 ≤ l c.1 c.2),
    Function.update l c.1 fun t => refill cap rate (left (l c.1 c.2)) (t - c.2))

/-- From `now` on, the levels are between zero and the cap and rise no faster than the rate. -/
structure Flowing (cap rate : 𝕜) (l : Levels κ 𝕜) (now : 𝕜) : Prop where
  nonneg : ∀ k t, now ≤ t → 0 ≤ l k t
  le_cap : ∀ k t, l k t ≤ cap
  rise : ∀ k t t', now ≤ t → t ≤ t' → l k t' ≤ l k t + (t' - t) * rate

/-- The calls with a key whose times are in an interval. -/
def within [DecidableEq κ] (k : κ) (s t : 𝕜) (calls : List (κ × 𝕜)) : List (κ × 𝕜) :=
  calls.filter fun c => decide (c.1 = k ∧ s ≤ c.2 ∧ c.2 ≤ t)

end Levels

section
variable [IsStrictOrderedRing 𝕜] {cap rate : 𝕜}

/-- A key that is full after a wait is full after a longer one. -/
theorem refill_of_full (hrate : 0 ≤ rate) {tokens wait wait' : 𝕜} (hwait : wait ≤ wait')
    (h : cap ≤ tokens + wait * rate) : refill cap rate tokens wait' = cap := by
  have hmore : wait * rate ≤ wait' * rate := mul_le_mul_of_nonneg_right hwait hrate
  exact min_eq_left (h.trans (add_le_add_right hmore _))

namespace Levels

omit [Field 𝕜] [IsStrictOrderedRing 𝕜] in
/-- No call is granted in an interval that comes before the first one. -/
theorem within_granted_eq_nil [DecidableEq κ] (k : κ) (s : 𝕜) {t : 𝕜} {c : κ × 𝕜}
    {cs : List (κ × 𝕜)} (as : List Bool) (ht : t < c.2) (hcs : ∀ d ∈ cs, c.2 ≤ d.2) :
    within k s t (granted (c :: cs) as) = [] := by
  unfold within
  rw [List.filter_eq_nil_iff]
  intro d hd hin
  have hafter : t < d.2 := by
    rcases List.mem_cons.mp (mem_of_mem_granted hd) with rfl | hd
    · exact ht
    · exact ht.trans_le (hcs d hd)
  exact absurd (of_decide_eq_true hin).2.2 (not_le.mpr hafter)

/-- What is left is not negative. -/
theorem left_nonneg {level : 𝕜} (h : 0 ≤ level) : 0 ≤ left level := by
  unfold left
  split
  case isTrue hone => exact sub_nonneg.mpr hone
  case isFalse => exact h

/-- Full levels flow. -/
theorem flowing_full (hrate : 0 ≤ rate) (hcap : 0 ≤ cap) (now : 𝕜) :
    Flowing cap rate (full cap : Levels κ 𝕜) now := by
  refine ⟨fun _ _ _ => hcap, fun _ _ => le_refl _, ?_⟩
  intro k t t' _ hle
  exact le_add_of_nonneg_right (mul_nonneg (sub_nonneg.mpr hle) hrate)

omit [IsStrictOrderedRing 𝕜] in
/-- Time does not stop them. -/
theorem Flowing.later {l : Levels κ 𝕜} {now now' : 𝕜} (h : Flowing cap rate l now)
    (hle : now ≤ now') : Flowing cap rate l now' :=
  ⟨fun k t ht => h.nonneg k t (hle.trans ht), h.le_cap,
    fun k t t' ht => h.rise k t t' (hle.trans ht)⟩

/-- From its time on, a call keeps the levels in their bounds. -/
theorem Flowing.take [DecidableEq κ] {l : Levels κ 𝕜} {c : κ × 𝕜} (hrate : 0 ≤ rate)
    (hcap : 0 ≤ cap) (h : Flowing cap rate l c.2) :
    Flowing cap rate (l.take cap rate c).2 c.2 := by
  obtain ⟨key, now⟩ := c
  have hleft : 0 ≤ left (l key now) := left_nonneg (h.nonneg key now (le_refl _))
  refine ⟨?_, ?_, ?_⟩
  · intro k t ht
    by_cases hk : k = key
    · subst hk
      simp only [Levels.take, Function.update_self, refill]
      have hflow : 0 ≤ (t - now) * rate := mul_nonneg (sub_nonneg.mpr ht) hrate
      exact le_min hcap (add_nonneg hleft hflow)
    · simp only [Levels.take, Function.update_of_ne hk]
      exact h.nonneg k t ht
  · intro k t
    by_cases hk : k = key
    · subst hk
      simp only [Levels.take, Function.update_self, refill]
      exact min_le_left _ _
    · simp only [Levels.take, Function.update_of_ne hk]
      exact h.le_cap k t
  · intro k t t' ht hle
    by_cases hk : k = key
    · subst hk
      simp only [Levels.take, Function.update_self, refill]
      have hflow : 0 ≤ (t' - t) * rate := mul_nonneg (sub_nonneg.mpr hle) hrate
      rw [← min_add_add_right]
      refine min_le_min (le_add_of_nonneg_right hflow) (le_of_eq ?_)
      ring
    · simp only [Levels.take, Function.update_of_ne hk]
      exact h.rise k t t' ht hle

/-- A call pays for its token out of the level of its key, and leaves the others alone. -/
theorem spent_add_level_le [DecidableEq κ] (cap rate : 𝕜) (l : Levels κ 𝕜) (c : κ × 𝕜) (k : κ) :
    (if (l.take cap rate c).1 = true ∧ c.1 = k then 1 else 0) + (l.take cap rate c).2 k c.2 ≤
      l k c.2 := by
  obtain ⟨key, now⟩ := c
  by_cases hk : key = k
  · subst hk
    have hlevel : (l.take cap rate (key, now)).2 key now ≤ left (l key now) := by
      simp [Levels.take, refill]
    refine (add_le_add_right hlevel _).trans ?_
    by_cases hone : 1 ≤ l key now
    · simp [Levels.take, left, hone]
    · simp [Levels.take, left, hone]
  · rw [if_neg fun h => hk h.2, zero_add]
    simp only [Levels.take, Function.update_of_ne (Ne.symm hk)]
    exact le_refl _

omit [Field 𝕜] [IsStrictOrderedRing 𝕜] in
/-- A call counts at most once. -/
theorem length_within_cons_le [DecidableEq κ] (k : κ) (s t : 𝕜) (c : κ × 𝕜)
    (cs : List (κ × 𝕜)) (a : Bool) (as : List Bool) :
    (within k s t (granted (c :: cs) (a :: as))).length ≤
      (if a = true ∧ c.1 = k then 1 else 0) + (within k s t (granted cs as)).length := by
  cases a with
  | false => simp [granted]
  | true =>
    by_cases hk : c.1 = k
    · rw [if_pos ⟨rfl, hk⟩, Nat.add_comm]
      rw [granted_cons_true, within, List.filter_cons]
      split
      · exact Nat.le_refl _
      · exact Nat.le_succ _
    · have hout : within k s t (c :: granted cs as) = within k s t (granted cs as) := by
        simp [within, hk]
      rw [granted_cons_true, hout]
      exact Nat.le_add_left _ _

/-- From a time on, a key gets no more than its level then and what flows in. -/
theorem granted_le_level [DecidableEq κ] (hrate : 0 ≤ rate) (hcap : 0 ≤ cap) (k : κ) (s t : 𝕜)
    {calls : List (κ × 𝕜)} {l : Levels κ 𝕜} {now : 𝕜} (hl : Flowing cap rate l now)
    (hlater : ∀ c ∈ calls, now ≤ c.2) (hcalls : Timed Prod.snd calls) (hnow : now ≤ t) :
    ((within k s t (granted calls (answers (take cap rate) l calls))).length : 𝕜) ≤
      l k now + (t - now) * rate := by
  induction calls generalizing l now with
  | nil =>
    have hflow : 0 ≤ (t - now) * rate := mul_nonneg (sub_nonneg.mpr hnow) hrate
    simpa [within, granted] using add_nonneg (hl.nonneg k now (le_refl _)) hflow
  | cons c cs ih =>
    obtain ⟨hfirst, hrest⟩ := List.pairwise_cons.mp hcalls
    have hc : now ≤ c.2 := hlater c List.mem_cons_self
    by_cases ht : c.2 ≤ t
    · -- The call is paid out of the level, and the rest is the induction hypothesis at its time.
      have hl' := (hl.later hc).take hrate hcap
      have htail := ih hl' hfirst hrest ht
      have hspent := spent_add_level_le cap rate l c k
      have hrise := hl.rise k now c.2 (le_refl _) hc
      have hcount := length_within_cons_le k s t c cs (l.take cap rate c).1
        (answers (take cap rate) (l.take cap rate c).2 cs)
      calc ((within k s t (granted (c :: cs) (answers (take cap rate) l (c :: cs)))).length : 𝕜)
          ≤ (if (l.take cap rate c).1 = true ∧ c.1 = k then 1 else 0) +
              ((within k s t (granted cs (answers (take cap rate) (l.take cap rate c).2
                cs))).length : 𝕜) := by exact_mod_cast hcount
        _ ≤ l k c.2 + (t - c.2) * rate := by linarith
        _ ≤ l k now + (t - now) * rate := by linarith
    · -- All the calls are after the interval.
      rw [within_granted_eq_nil k s _ (not_le.mp ht) hfirst, List.length_nil, Nat.cast_zero]
      exact add_nonneg (hl.nonneg k now (le_refl _)) (mul_nonneg (sub_nonneg.mpr hnow) hrate)

/-- In a closed interval a key gets at most the cap and what flows in. -/
theorem granted_le [DecidableEq κ] (hrate : 0 ≤ rate) (hcap : 0 ≤ cap) (k : κ) {s t : 𝕜}
    (hst : s ≤ t) {calls : List (κ × 𝕜)} (hcalls : Timed Prod.snd calls) {l : Levels κ 𝕜}
    (hl : ∀ c ∈ calls, Flowing cap rate l c.2) :
    ((within k s t (granted calls (answers (take cap rate) l calls))).length : 𝕜) ≤
      cap + rate * (t - s) := by
  have hflow : 0 ≤ rate * (t - s) := mul_nonneg hrate (sub_nonneg.mpr hst)
  induction calls generalizing l with
  | nil => simpa [within, granted] using add_nonneg hcap hflow
  | cons c cs ih =>
    obtain ⟨hfirst, hrest⟩ := List.pairwise_cons.mp hcalls
    have hlc := hl c List.mem_cons_self
    rcases lt_or_ge c.2 s with hbefore | hs
    · -- A call before the interval does not count.
      have hskip : within k s t (granted (c :: cs) (answers (take cap rate) l (c :: cs))) =
          within k s t (granted cs (answers (take cap rate) (l.take cap rate c).2 cs)) := by
        rw [answers_cons]
        cases (l.take cap rate c).1 with
        | false => rfl
        | true =>
          rw [granted_cons_true]
          refine List.filter_cons_of_neg fun hin => ?_
          exact absurd (of_decide_eq_true hin).2.1 (not_le.mpr hbefore)
      rw [hskip]
      exact ih hrest fun d hd => (hlc.take hrate hcap).later (hfirst d hd)
    · rcases lt_or_ge t c.2 with hafter | ht
      · rw [within_granted_eq_nil k s _ hafter hfirst, List.length_nil, Nat.cast_zero]
        exact add_nonneg hcap hflow
      · -- The first call of the interval.
        have hlater : ∀ d ∈ c :: cs, c.2 ≤ d.2 := by
          intro d hd
          rcases List.mem_cons.mp hd with rfl | hd
          · exact le_refl _
          · exact hfirst d hd
        refine (granted_le_level hrate hcap k s t hlc hlater hcalls ht).trans ?_
        rw [mul_comm]
        exact add_le_add (hlc.le_cap k c.2)
          (mul_le_mul_of_nonneg_left (sub_le_sub_left hs t) hrate)

end Levels

end

end AitpPlayground.Lib
