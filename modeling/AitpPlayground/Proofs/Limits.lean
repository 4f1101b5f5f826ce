import AitpPlayground.Limits
import AitpPlayground.Lib.Refill
import Mathlib.Data.List.Induction

/-!
# `AitpPlayground.Proofs.Limits`: what the limits admit

A `TokenBucket` keeps a table of the keys that it has seen, and drops some of them now and
then. `Refines` connects the table with the levels of `AitpPlayground.Lib.Refill`: from a time
on, what a key would have is the same in both. A key that is not in the table counts as full,
so to drop one that would be full changes no level (`refines_prune`). A call keeps the
relation, with or without pruning, and is answered as the levels say (`refines_allow`). So
both buckets give the answers of the levels, and the bound on the levels is a bound on the
bucket.

`RollingCap` is compared with the history. `Holds` says that the deque has the acquisitions
of the window, in order, and `inWindow` counts them in the history itself.
-/

set_option autoImplicit false

namespace AitpPlayground.Proofs

open AitpPlayground.Lib

variable {𝕜 : Type} [Field 𝕜] [LinearOrder 𝕜]

/-! ### The token bucket -/

/-- The tokens that a key would have at a time. -/
def levelAt (b : TokenBucket 𝕜) : Levels String 𝕜 := fun k t =>
  ((b.buckets.get? k).map fun v => refill (b.burst : 𝕜) b.rate v.1 (t - v.2)).getD b.burst

/-- From `now` on, the table has the levels `l`. -/
structure Refines (rate : 𝕜) (burst : Int) (now : 𝕜) (b : TokenBucket 𝕜)
    (l : Levels String 𝕜) : Prop where
  rate_eq : b.rate = rate
  burst_eq : b.burst = burst
  level : ∀ k t, now ≤ t → levelAt b k t = l k t

/-- A new bucket is full. -/
theorem refines_new (rate : 𝕜) (burst : Int) (now : 𝕜) :
    Refines rate (max 1 burst) now (.new rate burst) (Levels.full ((max 1 burst : Int) : 𝕜)) :=
  ⟨rfl, rfl, fun _ _ _ => rfl⟩

/-- The tokens that `allow` finds are the level of the key. -/
theorem tokens_eq_levelAt (b : TokenBucket 𝕜) (key : String) (now : 𝕜) :
    min (b.burst : 𝕜) (((b.buckets.get? key).getD ((b.burst : 𝕜), now)).1 +
      (now - ((b.buckets.get? key).getD ((b.burst : 𝕜), now)).2) * b.rate) =
      levelAt b key now := by
  unfold levelAt
  cases b.buckets.get? key with
  | none => simp
  | some v => rfl

section
variable [IsStrictOrderedRing 𝕜] {rate : 𝕜} {burst : Int}

omit [IsStrictOrderedRing 𝕜] in
/-- A call without pruning is answered by the levels, and keeps the relation. -/
theorem refines_allowWithoutPruning {now now' : 𝕜} {b : TokenBucket 𝕜} {l : Levels String 𝕜}
    (h : Refines rate burst now b l) (key : String) (hle : now ≤ now') :
    (b.allowWithoutPruning key now').1 = (l.take (burst : 𝕜) rate (key, now')).1 ∧
    Refines rate burst now' (b.allowWithoutPruning key now').2
      (l.take (burst : 𝕜) rate (key, now')).2 := by
  obtain ⟨rfl, rfl, hlevel⟩ := h
  have htokens := (tokens_eq_levelAt b key now').trans (hlevel key now' hle)
  refine ⟨?_, rfl, rfl, ?_⟩
  · simp only [TokenBucket.allowWithoutPruning, htokens, Levels.take]
  · intro k t ht
    by_cases hk : k = key
    · -- The key that was served: its tokens are counted anew.
      subst hk
      simp [levelAt, TokenBucket.allowWithoutPruning, htokens, Levels.take, Levels.left]
    · have hother := hlevel k t (hle.trans ht)
      simp only [levelAt, TokenBucket.allowWithoutPruning, Levels.take,
        Function.update_of_ne hk, Dict.get?_set_ne _ _ (Ne.symm hk)] at hother ⊢
      exact hother

/-- To drop the full keys changes no level from then on. -/
theorem refines_prune (hrate : 0 ≤ rate) {now : 𝕜} {b : TokenBucket 𝕜} {l : Levels String 𝕜}
    (h : Refines rate burst now b l) : Refines rate burst now (b.prune now) l := by
  obtain ⟨rfl, rfl, hlevel⟩ := h
  refine ⟨rfl, rfl, ?_⟩
  intro k t ht
  rw [← hlevel k t ht]
  unfold levelAt TokenBucket.prune
  simp only [Dict.get?_filter]
  cases b.buckets.get? k with
  | none => rfl
  | some v =>
    simp only [Option.filter_some]
    split
    case isTrue => rfl
    case isFalse hdropped =>
      -- It would be full at `now`, so it is full at every later time.
      have hfull : (b.burst : 𝕜) ≤ v.1 + (now - v.2) * b.rate := by simpa using hdropped
      exact (refill_of_full hrate (sub_le_sub_right ht _) hfull).symm

/-- A call is answered by the levels, and keeps the relation. -/
theorem refines_allow (hrate : 0 ≤ rate) (above : Int) {now now' : 𝕜} {b : TokenBucket 𝕜}
    {l : Levels String 𝕜} (h : Refines rate burst now b l) (key : String) (hle : now ≤ now') :
    (b.allow key now' above).1 = (l.take (burst : 𝕜) rate (key, now')).1 ∧
    Refines rate burst now' (b.allow key now' above).2
      (l.take (burst : 𝕜) rate (key, now')).2 := by
  obtain ⟨hanswer, hkept⟩ := refines_allowWithoutPruning h key hle
  refine ⟨hanswer, ?_⟩
  simp only [TokenBucket.allow]
  split
  · exact refines_prune hrate hkept
  · exact hkept

/-- The bucket gives the answers of the levels. -/
theorem answers_eq_levels (hrate : 0 ≤ rate) (burst above : Int) {calls : List (String × 𝕜)}
    (hcalls : Timed Prod.snd calls) :
    (TokenBucket.new rate burst).answers above calls =
      Lib.answers (Levels.take ((max 1 burst : Int) : 𝕜) rate)
        (Levels.full ((max 1 burst : Int) : 𝕜)) calls :=
  answers_eq_of_simulation (R := Refines rate (max 1 burst))
    (fun _ _ _ c h hle => refines_allow hrate above h c.1 hle)
    (fun c _ => refines_new rate burst c.2) hcalls

/-- For every pruning threshold, the bucket answers a sequence of calls as the bucket that
never prunes does. -/
theorem pruning_invisible (hrate : 0 ≤ rate) (burst above : Int) {calls : List (String × 𝕜)}
    (hcalls : Timed Prod.snd calls) :
    (TokenBucket.new rate burst).answers above calls =
      (TokenBucket.new rate burst).answersWithoutPruning calls := by
  rw [answers_eq_levels hrate burst above hcalls]
  exact (answers_eq_of_simulation (R := Refines rate (max 1 burst))
    (fun _ _ _ c h hle => refines_allowWithoutPruning h c.1 hle)
    (fun c _ => refines_new rate burst c.2) hcalls).symm

/-- A key is dropped while another one is served, and comes back full. -/
theorem pruning_invisible_key_dropped :
    (((TokenBucket.new (1 / 2 : ℚ) 2).allow "a" 0 0).2.allow "b" 2 0).2.buckets.keys = ["b"] ∧
    (TokenBucket.new (1 / 2 : ℚ) 2).answersWithoutPruning
      [("a", 0), ("b", 2), ("a", 2), ("a", 2), ("a", 3)] = [true, true, true, true, false] ∧
    (TokenBucket.new (1 / 2 : ℚ) 2).answers 0
        [("a", 0), ("b", 2), ("a", 2), ("a", 2), ("a", 3)] =
      (TokenBucket.new (1 / 2 : ℚ) 2).answersWithoutPruning
        [("a", 0), ("b", 2), ("a", 2), ("a", 2), ("a", 3)] :=
  ⟨by decide +kernel, by decide +kernel, pruning_invisible (by decide +kernel) 2 0
    (by decide +kernel)⟩

/-- In every closed interval, a key is allowed at most `max(1, burst)` calls and as many as
the rate brings in the time of the interval. -/
theorem allowed_le (hrate : 0 ≤ rate) (burst above : Int) {calls : List (String × 𝕜)}
    (hcalls : Timed Prod.snd calls) (k : String) {s t : 𝕜} (hst : s ≤ t) :
    ((Levels.within k s t
      (granted calls ((TokenBucket.new rate burst).answers above calls))).length : 𝕜) ≤
      max 1 (burst : 𝕜) + rate * (t - s) := by
  have hmax : ((max 1 burst : Int) : 𝕜) = max 1 (burst : 𝕜) := by simp
  have hcap : (0 : 𝕜) ≤ ((max 1 burst : Int) : 𝕜) := by
    rw [hmax]
    exact zero_le_one.trans (le_max_left _ _)
  rw [answers_eq_levels hrate burst above hcalls, ← hmax]
  exact Levels.granted_le hrate hcap k hst hcalls
    fun c _ => Levels.flowing_full hrate hcap c.2

/-- Two tokens and one that comes in: the bound is reached. -/
theorem allowed_le_reached :
    (Levels.within "a" (0 : ℚ) 2 (granted [("a", 0), ("a", 0), ("a", 1), ("a", 2)]
      ((TokenBucket.new (1 / 2 : ℚ) 2).answers 10
        [("a", 0), ("a", 0), ("a", 1), ("a", 2)]))).length = 3 ∧
    ((Levels.within "a" (0 : ℚ) 2 (granted [("a", 0), ("a", 0), ("a", 1), ("a", 2)]
      ((TokenBucket.new (1 / 2 : ℚ) 2).answers 10
        [("a", 0), ("a", 0), ("a", 1), ("a", 2)]))).length : ℚ) ≤
      max 1 ((2 : Int) : ℚ) + 1 / 2 * (2 - 0) := by
  have hrate : (0 : ℚ) ≤ 1 / 2 := by decide +kernel
  have hcalls : Timed Prod.snd [("a", (0 : ℚ)), ("a", 0), ("a", 1), ("a", 2)] := by
    decide +kernel
  have hst : (0 : ℚ) ≤ 2 := by decide +kernel
  refine ⟨by decide +kernel, ?_⟩
  exact allowed_le hrate 2 10 hcalls "a" hst

end

/-! ### The rolling cap -/

/-- The times in `(now - window, now]`. -/
def inWindow (window now : 𝕜) (history : List 𝕜) : List 𝕜 :=
  history.filter fun s => decide (now - window < s ∧ s ≤ now)

section
variable [IsStrictOrderedRing 𝕜] {limit : Int} {window : 𝕜}

/-- A sorted deque is trimmed to what is younger than the window. -/
theorem dropWhile_eq_filter (window now : 𝕜) {stamps : List 𝕜}
    (h : stamps.Pairwise (· ≤ ·)) :
    stamps.dropWhile (fun s => decide (window ≤ now - s)) =
      stamps.filter fun s => decide (now - window < s) := by
  induction stamps with
  | nil => rfl
  | cons s rest ih =>
    obtain ⟨hfirst, hrest⟩ := List.pairwise_cons.mp h
    by_cases hold : window ≤ now - s
    · have hout : ¬now - window < s := not_lt.mpr (le_sub_comm.mp hold)
      rw [List.dropWhile_cons_of_pos (p := fun s => decide (window ≤ now - s))
        (decide_eq_true hold), ih hrest, List.filter_cons_of_neg (by simpa using hout)]
    · -- The first one stays, so all stay.
      have hin : now - window < s := sub_lt_comm.mp (not_le.mp hold)
      rw [List.dropWhile_cons_of_neg (by simpa using hold), eq_comm, List.filter_eq_self]
      intro t ht
      rcases List.mem_cons.mp ht with rfl | ht
      · exact decide_eq_true hin
      · exact decide_eq_true (hin.trans_le (hfirst t ht))

/-- At `now`, the deque has what the history has in the window, in order. -/
structure Holds (limit : Int) (window now : 𝕜) (c : RollingCap 𝕜) (history : List 𝕜) :
    Prop where
  limit_eq : c.limit = limit
  window_eq : c.window = window
  sorted : c.stamps.Pairwise (· ≤ ·)
  stamps_le : ∀ s ∈ c.stamps, s ≤ now
  history_le : ∀ s ∈ history, s ≤ now
  recent : ∀ t, now ≤ t → c.stamps.filter (fun s => decide (t - window < s)) =
    history.filter fun s => decide (t - window < s)

omit [IsStrictOrderedRing 𝕜] in
/-- Time only takes calls out of the window. -/
theorem Holds.later {now now' : 𝕜} {c : RollingCap 𝕜} {history : List 𝕜}
    (h : Holds limit window now c history) (hle : now ≤ now') :
    Holds limit window now' c history :=
  ⟨h.limit_eq, h.window_eq, h.sorted, fun s hs => (h.stamps_le s hs).trans hle,
    fun s hs => (h.history_le s hs).trans hle, fun t ht => h.recent t (hle.trans ht)⟩

/-- The trimmed deque is the window of the history. -/
theorem Holds.trimmed {now : 𝕜} {c : RollingCap 𝕜} {history : List 𝕜}
    (h : Holds limit window now c history) :
    c.stamps.dropWhile (fun s => decide (c.window ≤ now - s)) =
      inWindow window now history := by
  rw [h.window_eq, dropWhile_eq_filter window now h.sorted, h.recent now (le_refl _)]
  apply List.filter_congr
  intro s hs
  simp [h.history_le s hs]

/-- An acquisition succeeds when the history has fewer than `limit` in the window. -/
theorem Holds.tryAcquire_iff {now : 𝕜} {c : RollingCap 𝕜} {history : List 𝕜}
    (h : Holds limit window now c history) :
    (c.tryAcquire now).1 = true ↔ ((inWindow window now history).length : Int) < limit := by
  simp only [RollingCap.tryAcquire, h.trimmed, h.limit_eq]
  split
  case isTrue hfull => simp [hfull]
  case isFalse hroom => simpa using hroom

/-- A call keeps the relation with the history, which gets the call if it succeeded. -/
theorem Holds.tryAcquire {now : 𝕜} {c : RollingCap 𝕜} {history : List 𝕜}
    (h : Holds limit window now c history) :
    Holds limit window now (c.tryAcquire now).2
      (history ++ granted [now] [(c.tryAcquire now).1]) := by
  have hsub : (inWindow window now history).Sublist c.stamps := by
    rw [← h.trimmed]
    exact List.dropWhile_sublist _
  have hle : ∀ s ∈ inWindow window now history, s ≤ now := fun s hs =>
    h.stamps_le s (hsub.mem hs)
  -- What is out of the window now is out of it later.
  have hrecent : ∀ t, now ≤ t →
      (inWindow window now history).filter (fun s => decide (t - window < s)) =
        history.filter fun s => decide (t - window < s) := by
    intro t ht
    rw [inWindow, List.filter_filter]
    apply List.filter_congr
    intro s hs
    have hstill : t - window < s → now - window < s := (sub_le_sub_right ht _).trans_lt
    by_cases hin : t - window < s
    · simp [hin, hstill hin, h.history_le s hs]
    · simp [hin]
  unfold RollingCap.tryAcquire
  simp only [h.trimmed]
  split
  case isTrue =>
    rw [granted_cons_false, granted_nil, List.append_nil]
    exact ⟨h.limit_eq, h.window_eq, h.sorted.sublist hsub, hle, h.history_le, hrecent⟩
  case isFalse =>
    rw [granted_cons_true, granted_nil]
    refine ⟨h.limit_eq, h.window_eq, ?_, ?_, ?_, ?_⟩
    · refine List.pairwise_append.mpr ⟨h.sorted.sublist hsub, List.pairwise_singleton _ _, ?_⟩
      intro s hs t ht
      rw [List.mem_singleton.mp ht]
      exact hle s hs
    · intro s hs
      rcases List.mem_append.mp hs with hs | hs
      · exact hle s hs
      · exact (List.mem_singleton.mp hs).le
    · intro s hs
      rcases List.mem_append.mp hs with hs | hs
      · exact h.history_le s hs
      · exact (List.mem_singleton.mp hs).le
    · intro t ht
      rw [List.filter_append, List.filter_append, hrecent t ht]

omit [IsStrictOrderedRing 𝕜] in
/-- A new cap has no history. -/
theorem holds_new (limit : Int) (window now : 𝕜) :
    Holds limit window now (.new limit window) [] :=
  ⟨rfl, rfl, List.Pairwise.nil, fun _ hs => (List.not_mem_nil hs).elim,
    fun _ hs => (List.not_mem_nil hs).elim, fun _ _ => rfl⟩

omit [IsStrictOrderedRing 𝕜] in
/-- The last call is acquired or not. -/
theorem acquired_snoc (c : RollingCap 𝕜) (calls : List 𝕜) (now : 𝕜) :
    c.acquired (calls ++ [now]) = c.acquired calls ++
      granted [now] [((stateAfter RollingCap.tryAcquire c calls).tryAcquire now).1] := by
  unfold RollingCap.acquired RollingCap.answers
  rw [answers_append, granted_append (length_answers _ _ _)]
  rfl

/-- After any calls, the deque has the acquisitions of the window at every later time. -/
theorem holds_run (limit : Int) (window : 𝕜) {calls : List 𝕜} (hcalls : Timed id calls) {now : 𝕜}
    (hnow : ∀ s ∈ calls, s ≤ now) :
    Holds limit window now (stateAfter RollingCap.tryAcquire (.new limit window) calls)
      ((RollingCap.new limit window).acquired calls) := by
  induction calls using List.reverseRecOn generalizing now with
  | nil => exact holds_new limit window now
  | append_singleton calls last ih =>
    obtain ⟨hinit, -, hlast⟩ := List.pairwise_append.mp hcalls
    have hbefore : Holds limit window last
        (stateAfter RollingCap.tryAcquire (.new limit window) calls)
        ((RollingCap.new limit window).acquired calls) :=
      ih hinit fun s hs => hlast s hs last (List.mem_singleton_self _)
    rw [stateAfter_snoc, acquired_snoc]
    exact hbefore.tryAcquire.later (hnow last (List.mem_append_right _ (List.mem_singleton_self _)))

/-- Times that are closer than the window hold at most `limit` acquisitions. -/
theorem acquired_le (limit : Int) (window : 𝕜) {calls : List 𝕜} (hcalls : Timed id calls)
    {p : 𝕜 → Prop} [DecidablePred p] (hp : ∀ s t, p s → p t → t - window < s) :
    ((((RollingCap.new limit window).acquired calls).filter fun s => decide (p s)).length : Int) ≤
      max 0 limit := by
  induction calls using List.reverseRecOn with
  | nil => exact le_max_left _ _
  | append_singleton calls last ih =>
    obtain ⟨hinit, -, hlast⟩ := List.pairwise_append.mp hcalls
    have hle : ∀ s ∈ calls, s ≤ last := fun s hs => hlast s hs last (List.mem_singleton_self _)
    have hholds := holds_run limit window hinit hle
    rw [acquired_snoc, List.filter_append, List.length_append]
    cases hgot : ((stateAfter RollingCap.tryAcquire (.new limit window) calls).tryAcquire
        last).1 with
    | false => simpa using ih hinit
    | true =>
      by_cases hin : p last
      · -- Those in the interval were in the window of the last one.
        have hroom := hholds.tryAcquire_iff.mp hgot
        have hsub : ((RollingCap.new limit window).acquired calls).filter (fun s => decide (p s)) =
            (inWindow window last ((RollingCap.new limit window).acquired calls)).filter
              fun s => decide (p s) := by
          rw [inWindow, List.filter_filter]
          apply List.filter_congr
          intro s hs
          have hs' := hholds.history_le s hs
          by_cases hps : p s
          · simp [hps, hs', hp s last hps hin]
          · simp [hps]
        have hcount := List.length_filter_le (fun s => decide (p s))
          (inWindow window last ((RollingCap.new limit window).acquired calls))
        rw [← hsub] at hcount
        have hone : ((granted [last] [true]).filter fun s => decide (p s)).length = 1 := by
          simp [hin]
        rw [hone]
        omega
      · have hnone : ((granted [last] [true]).filter fun s => decide (p s)).length = 0 := by
          simp [hin]
        rw [hnone]
        exact ih hinit

/-- Two caps that agree with one history answer in the same way. -/
theorem answers_eq_of_holds {c c' : RollingCap 𝕜} {history calls : List 𝕜}
    (h : ∀ now ∈ calls, Holds limit window now c history)
    (h' : ∀ now ∈ calls, Holds limit window now c' history) (hcalls : Timed id calls) :
    c.answers calls = c'.answers calls := by
  refine answers_eq_of_simulation
    (R := fun now c c' => ∃ history, Holds limit window now c history ∧
      Holds limit window now c' history) ?_ (fun now hnow => ⟨history, h now hnow, h' now hnow⟩)
    hcalls
  rintro t c c' now ⟨history, hc, hc'⟩ hle
  have hnow : Holds limit window now c history := hc.later hle
  have hnow' : Holds limit window now c' history := hc'.later hle
  have hanswer : (c.tryAcquire now).1 = (c'.tryAcquire now).1 :=
    Bool.eq_iff_iff.mpr (hnow.tryAcquire_iff.trans hnow'.tryAcquire_iff.symm)
  refine ⟨hanswer, _, hnow.tryAcquire, ?_⟩
  rw [hanswer]
  exact hnow'.tryAcquire

/-- After any calls, an acquisition succeeds if and only if fewer than `limit` of the earlier
ones that did are in the half-open window that ends with it. So no half-open interval of that
length has more than `limit`, and none at all if `limit` is negative. A call that was refused
can be left out: the others are answered in the same way. -/
theorem rolling_cap_exact (limit : Int) (window : 𝕜) :
    (∀ calls now, Timed id (calls ++ [now]) →
      (((stateAfter RollingCap.tryAcquire (.new limit window) calls).tryAcquire now).1 = true ↔
        ((inWindow window now ((RollingCap.new limit window).acquired calls)).length : Int) <
          limit)) ∧
    (∀ calls, Timed id calls → ∀ a,
      ((((RollingCap.new limit window).acquired calls).filter
        fun s => decide (a < s ∧ s ≤ a + window)).length : Int) ≤ max 0 limit ∧
      ((((RollingCap.new limit window).acquired calls).filter
        fun s => decide (a ≤ s ∧ s < a + window)).length : Int) ≤ max 0 limit) ∧
    ∀ earlier now later, Timed id (earlier ++ now :: later) →
      ((stateAfter RollingCap.tryAcquire (.new limit window) earlier).tryAcquire now).1 = false →
      (RollingCap.new limit window).answers (earlier ++ later) =
        ((RollingCap.new limit window).answers (earlier ++ now :: later)).eraseIdx
          earlier.length := by
  refine ⟨?_, ?_, ?_⟩
  · intro calls now hcalls
    obtain ⟨hinit, -, hlast⟩ := List.pairwise_append.mp hcalls
    exact (holds_run limit window hinit fun s hs =>
      hlast s hs now (List.mem_singleton_self _)).tryAcquire_iff
  · intro calls hcalls a
    constructor
    · refine acquired_le limit window hcalls ?_
      rintro s t ⟨hs, -⟩ ⟨-, ht⟩
      exact (sub_le_iff_le_add.mpr ht).trans_lt hs
    · refine acquired_le limit window hcalls ?_
      rintro s t ⟨hs, -⟩ ⟨-, ht⟩
      exact (sub_lt_iff_lt_add.mpr ht).trans_le hs
  · intro earlier now later hcalls hrefused
    obtain ⟨hinit, hrest, hlast⟩ := List.pairwise_append.mp hcalls
    obtain ⟨hfirst, hlater⟩ := List.pairwise_cons.mp hrest
    have hbefore : Holds limit window now _ _ :=
      holds_run limit window hinit fun s hs => hlast s hs now List.mem_cons_self
    -- The refused call leaves the history as it is.
    have hafter := hbefore.tryAcquire
    rw [hrefused, granted_cons_false, granted_nil, List.append_nil] at hafter
    have hsame := answers_eq_of_holds (fun t ht => hbefore.later (hfirst t ht))
      (fun t ht => hafter.later (hfirst t ht)) hlater
    unfold RollingCap.answers at hsame ⊢
    rw [answers_append, answers_append, answers_cons, hsame,
      List.eraseIdx_append_of_length_le (length_answers _ _ _).le, length_answers, Nat.sub_self,
      List.eraseIdx_cons_zero]

/-- The window is half open: an acquisition that is one window old is out of it. -/
theorem rolling_cap_exact_boundary :
    (RollingCap.new 2 (10 : ℚ)).answers [0, 3, 9, 10, 12] = [true, true, false, true, false] ∧
    ((inWindow 10 10 ((RollingCap.new 2 (10 : ℚ)).acquired [0, 3, 9])).length : Int) < 2 ∧
    (RollingCap.new 2 (10 : ℚ)).answers ([0, 3] ++ [10, 12]) =
      ((RollingCap.new 2 (10 : ℚ)).answers ([0, 3] ++ 9 :: [10, 12])).eraseIdx 2 := by
  obtain ⟨hexact, -, hrefused⟩ := rolling_cap_exact 2 (10 : ℚ)
  refine ⟨by decide +kernel, ?_, hrefused [0, 3] 9 [10, 12] (by decide +kernel)
    (by decide +kernel)⟩
  exact (hexact [0, 3, 9] 10 (by decide +kernel)).mp (by decide +kernel)

end

end AitpPlayground.Proofs
