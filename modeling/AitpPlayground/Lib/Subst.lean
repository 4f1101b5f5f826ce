import AitpPlayground.Lib.Py
import Mathlib.Data.List.Infix

/-!
# `AitpPlayground.Lib.Subst`: simultaneous substitution

`substitute subs s` replaces the patterns of `subs` in `s` from left to right: a pattern is
replaced where it begins, and the scan goes on behind it. What was put in is not looked at
again. `s.replace(old, new)` is the case of one pattern.

One replacement after the other is something else, as a later one also finds its pattern in
what the earlier ones put in. `replaceFrom_substitute_iff` says when the two are the same: no
further occurrence of the later pattern was brought in. The patterns must be apart: no pattern
begins within an occurrence of another one, so that the occurrences in a text do not overlap.

For one pattern the first character of which does not come again, `length_substitute_of_mark`
counts the replacements by the length.
-/

set_option autoImplicit false

namespace AitpPlayground.Lib

section
variable {α : Type} [DecidableEq α]

/-! ### Definitions -/

/-- The scan of `substitute`, with the characters of the last occurrence that are still to be
skipped. -/
def substituteFrom (subs : List (List α × List α)) : Nat → List α → List α
  | _, [] => []
  | n + 1, _ :: rest => substituteFrom subs n rest
  | 0, c :: rest =>
    match subs.find? fun e => e.1.isPrefixOf (c :: rest) with
    | some e => e.2 ++ substituteFrom subs (e.1.length - 1) rest
    | none => c :: substituteFrom subs 0 rest

/-- The simultaneous substitution. The first pattern of `subs` that fits is taken. -/
def substitute (subs : List (List α × List α)) (s : List α) : List α := substituteFrom subs 0 s

/-- How often a pattern begins in a text. -/
def occurrences (p : List α) : List α → Nat
  | [] => 0
  | c :: rest => (if p.isPrefixOf (c :: rest) then 1 else 0) + occurrences p rest

/-- No occurrence of `q` begins within an occurrence of `p`, unless they are the same. -/
def Apart (p q : List α) : Prop :=
  ∀ s n, p <+: s → q <+: s.drop n → n < p.length → n = 0 ∧ p = q

/-- The patterns are not empty and apart, and each has one replacement. -/
structure Separate (subs : List (List α × List α)) : Prop where
  ne_nil : ∀ e ∈ subs, e.1 ≠ []
  apart : ∀ e ∈ subs, ∀ e' ∈ subs, Apart e.1 e'.1
  nodup : (subs.map Prod.fst).Nodup

/-! ### The scan -/

section
variable {subs : List (List α × List α)}

/-- What is left after some characters is substituted on its own. -/
theorem substituteFrom_drop (n : Nat) (s : List α) :
    substituteFrom subs n s = substitute subs (s.drop n) := by
  induction n generalizing s with
  | zero => rfl
  | succ n ih =>
    cases s with
    | nil => rfl
    | cons c rest => exact ih rest

/-- The empty text has nothing to substitute. -/
@[simp] theorem substitute_nil : substitute subs [] = [] := rfl

/-- No pattern begins here. -/
theorem substitute_cons_of_none {c : α} {rest : List α}
    (h : ∀ e ∈ subs, ¬ e.1 <+: c :: rest) :
    substitute subs (c :: rest) = c :: substitute subs rest := by
  have hfind : (subs.find? fun e => e.1.isPrefixOf (c :: rest)) = none := by
    simpa [List.find?_eq_none, List.isPrefixOf_iff_prefix] using h
  rw [substitute, substituteFrom, hfind]
  rfl

omit [DecidableEq α] in
/-- Separate substitutions with one pattern are one. -/
theorem Separate.eq_of_fst_eq (h : Separate subs) {e e' : List α × List α} (he : e ∈ subs)
    (he' : e' ∈ subs) (heq : e.1 = e'.1) : e = e' :=
  List.inj_on_of_nodup_map h.nodup he he' heq

/-- A pattern begins here. -/
theorem substitute_append_of_mem (h : Separate subs) {e : List α × List α} (he : e ∈ subs)
    (rest : List α) : substitute subs (e.1 ++ rest) = e.2 ++ substitute subs rest := by
  obtain ⟨c, p, hp⟩ := List.exists_cons_of_ne_nil (h.ne_nil e he)
  have hfind : (subs.find? fun e' => e'.1.isPrefixOf (e.1 ++ rest)) = some e := by
    cases hfind : subs.find? fun e' => e'.1.isPrefixOf (e.1 ++ rest) with
    | none =>
      have hnot := List.find?_eq_none.mp hfind e he
      exact absurd (List.isPrefixOf_iff_prefix.mpr (List.prefix_append _ _)) hnot
    | some e' =>
      -- Two patterns that begin at one place are the same.
      have hbegins : e'.1 <+: e.1 ++ rest :=
        List.isPrefixOf_iff_prefix.mp (by simpa using List.find?_some hfind)
      have hmem := List.mem_of_find?_eq_some hfind
      have hsame := h.apart e he e' hmem (e.1 ++ rest) 0 (List.prefix_append _ _) hbegins
        (List.length_pos_iff.mpr (h.ne_nil e he))
      rw [h.eq_of_fst_eq he hmem hsame.2]
  rw [hp, List.cons_append] at hfind ⊢
  rw [substitute, substituteFrom, hfind]
  show e.2 ++ substituteFrom subs (e.1.length - 1) (p ++ rest) = _
  rw [substituteFrom_drop, hp]
  simp

/-- Without patterns the text stays. -/
@[simp] theorem substitute_no_patterns (s : List α) : substitute [] s = s := by
  induction s with
  | nil => rfl
  | cons c rest ih => rw [substitute_cons_of_none (by simp), ih]

/-- A text is empty, or a pattern begins it, or a character that begins no pattern. -/
theorem substitute_induction (h : ∀ e ∈ subs, e.1 ≠ []) {motive : List α → Prop}
    (nil : motive []) (hit : ∀ e ∈ subs, ∀ rest, motive rest → motive (e.1 ++ rest))
    (skip : ∀ c rest, (∀ e ∈ subs, ¬ e.1 <+: c :: rest) → motive rest → motive (c :: rest))
    (s : List α) : motive s := by
  induction hn : s.length using Nat.strong_induction_on generalizing s with
  | h n ih =>
    cases s with
    | nil => exact nil
    | cons c rest =>
      by_cases hmatch : ∃ e ∈ subs, e.1 <+: c :: rest
      · obtain ⟨e, he, t, ht⟩ := hmatch
        rw [← ht]
        refine hit e he t (ih t.length ?_ t rfl)
        have hlen := congrArg List.length ht
        rw [List.length_append] at hlen
        have hpos := List.length_pos_iff.mpr (h e he)
        omega
      · refine skip c rest (fun e he hp => hmatch ⟨e, he, hp⟩) (ih rest.length ?_ rest rfl)
        rw [← hn]
        exact Nat.lt_succ_self _

/-- Within `a` no pattern begins. -/
theorem substitute_append_of_none (a rest : List α)
    (h : ∀ n, n < a.length → ∀ e ∈ subs, ¬ e.1 <+: (a ++ rest).drop n) :
    substitute subs (a ++ rest) = a ++ substitute subs rest := by
  induction a with
  | nil => rfl
  | cons c a ih =>
    have hrest := ih fun n hn => h (n + 1) (Nat.succ_lt_succ hn)
    have hhead : ∀ e ∈ subs, ¬ e.1 <+: c :: (a ++ rest) := h 0 (Nat.succ_pos _)
    rw [List.cons_append, substitute_cons_of_none hhead, hrest, List.cons_append]

end

/-! ### Occurrences -/

section
variable {p : List α}

/-- Where the pattern does not begin, nothing is counted. -/
theorem occurrences_cons_of_not {c : α} {rest : List α} (h : ¬ p <+: c :: rest) :
    occurrences p (c :: rest) = occurrences p rest := by
  rw [← List.isPrefixOf_iff_prefix] at h
  rw [occurrences, if_neg h, Nat.zero_add]

/-- Where it begins, one is. -/
theorem occurrences_cons_of_begins {c : α} {rest : List α} (h : p <+: c :: rest) :
    occurrences p (c :: rest) = 1 + occurrences p rest := by
  rw [← List.isPrefixOf_iff_prefix] at h
  rw [occurrences, if_pos h]

/-- A longer text has no fewer occurrences. -/
theorem occurrences_append_le (a rest : List α) :
    occurrences p rest ≤ occurrences p (a ++ rest) := by
  induction a with
  | nil => exact Nat.le_refl _
  | cons c a ih => exact ih.trans (Nat.le_add_left ..)

/-- No more occurrences than behind `a`: within `a` none begins. -/
theorem occurrences_append_eq_iff (a rest : List α) :
    occurrences p (a ++ rest) = occurrences p rest ↔
      ∀ n, n < a.length → ¬ p <+: (a ++ rest).drop n := by
  induction a with
  | nil => simp
  | cons c a ih =>
    have hle := occurrences_append_le (p := p) a rest
    rw [List.cons_append]
    constructor
    · intro heq n hn hbegins
      by_cases hhead : p <+: c :: (a ++ rest)
      · rw [occurrences_cons_of_begins hhead] at heq
        omega
      · rw [occurrences_cons_of_not hhead] at heq
        cases n with
        | zero => exact hhead hbegins
        | succ n => exact ih.mp heq n (Nat.lt_of_succ_lt_succ hn) hbegins
    · intro hnone
      rw [occurrences_cons_of_not (hnone 0 (Nat.succ_pos _))]
      exact ih.mpr fun n hn => hnone (n + 1) (Nat.succ_lt_succ hn)

/-- The occurrences in a text that begins with the pattern. -/
theorem occurrences_append_self (hne : p ≠ []) (h : Apart p p) (rest : List α) :
    occurrences p (p ++ rest) = 1 + occurrences p rest := by
  obtain ⟨c, q, rfl⟩ := List.exists_cons_of_ne_nil hne
  have hhead : c :: q <+: c :: (q ++ rest) := List.prefix_append (c :: q) rest
  rw [List.cons_append, occurrences_cons_of_begins hhead, (occurrences_append_eq_iff q rest).mpr]
  intro n hn hbegins
  have hzero := h (c :: q ++ rest) (n + 1) (List.prefix_append _ _) hbegins
    (Nat.succ_lt_succ hn)
  exact absurd hzero.1 (Nat.succ_ne_zero n)

end

/-! ### One pattern more -/

section
variable {subs : List (List α × List α)} {p v : List α}

omit [DecidableEq α] in
/-- The substitutions before the last one are separate. -/
theorem Separate.left (h : Separate (subs ++ [(p, v)])) : Separate subs where
  ne_nil e he := h.ne_nil e (List.mem_append_left _ he)
  apart e he e' he' := h.apart e (List.mem_append_left _ he) e' (List.mem_append_left _ he')
  nodup := h.nodup.sublist ((List.sublist_append_left _ _).map _)

omit [DecidableEq α] in
/-- The last substitution alone is separate. -/
theorem Separate.last (h : Separate (subs ++ [(p, v)])) : Separate [(p, v)] where
  ne_nil e he := h.ne_nil e (List.mem_append_right _ he)
  apart e he e' he' := h.apart e (List.mem_append_right _ he) e' (List.mem_append_right _ he')
  nodup := List.nodup_singleton _

omit [DecidableEq α] in
/-- The other patterns do not begin within an occurrence of the last one. -/
theorem Separate.none_in_last (h : Separate (subs ++ [(p, v)])) (rest : List α) :
    ∀ n, n < p.length → ∀ e ∈ subs, ¬ e.1 <+: (p ++ rest).drop n := by
  intro n hn e he hbegins
  have hlast : (p, v) ∈ subs ++ [(p, v)] := List.mem_append_right _ (List.mem_singleton_self _)
  have hsame := h.apart _ hlast e (List.mem_append_left _ he) (p ++ rest) n
    (List.prefix_append _ _) hbegins hn
  have hnodup := h.nodup
  rw [List.map_append, List.nodup_append] at hnodup
  exact hnodup.2.2 e.1 (List.mem_map_of_mem he) p (List.mem_singleton_self _) hsame.2.symm

omit [DecidableEq α] in
/-- The last text does not begin within an occurrence of another one. -/
theorem Separate.last_not_in (h : Separate (subs ++ [(p, v)])) {e : List α × List α}
    (he : e ∈ subs) (rest : List α) : ∀ n, n < e.1.length → ¬ p <+: (e.1 ++ rest).drop n := by
  intro n hn hbegins
  have hlast : (p, v) ∈ subs ++ [(p, v)] := List.mem_append_right _ (List.mem_singleton_self _)
  have hsame := h.apart e (List.mem_append_left _ he) _ hlast (e.1 ++ rest) n
    (List.prefix_append _ _) hbegins hn
  have hnodup := h.nodup
  rw [List.map_append, List.nodup_append] at hnodup
  exact hnodup.2.2 e.1 (List.mem_map_of_mem he) p (List.mem_singleton_self _) hsame.2

/-- The text of the last pattern is left alone by the others. -/
theorem substitute_append_last (h : Separate (subs ++ [(p, v)])) (rest : List α) :
    substitute subs (p ++ rest) = p ++ substitute subs rest :=
  substitute_append_of_none p rest (h.none_in_last rest)

/-- The text of the last pattern is one occurrence of it. -/
theorem Separate.occurrences_last (h : Separate (subs ++ [(p, v)])) (rest : List α) :
    occurrences p (p ++ rest) = 1 + occurrences p rest := by
  have hself : Apart p p := h.last.apart _ (List.mem_singleton_self _) _ (List.mem_singleton_self _)
  exact occurrences_append_self (h.last.ne_nil _ (List.mem_singleton_self _)) hself rest

/-- The occurrences of the last pattern stay. -/
theorem occurrences_le_substitute (h : Separate (subs ++ [(p, v)])) (s : List α) :
    occurrences p s ≤ occurrences p (substitute subs s) := by
  induction s using substitute_induction h.ne_nil with
  | nil => exact Nat.le_refl _
  | hit e he rest ih =>
    rcases List.mem_append.mp he with he | he
    · rw [substitute_append_of_mem h.left he,
        (occurrences_append_eq_iff e.1 rest).mpr (h.last_not_in he rest)]
      exact ih.trans (occurrences_append_le _ _)
    · cases List.mem_singleton.mp he
      rw [substitute_append_last h, h.occurrences_last, h.occurrences_last]
      exact Nat.add_le_add_left ih 1
  | skip c rest hnone ih =>
    rw [substitute_cons_of_none fun e he => hnone e (List.mem_append_left _ he),
      occurrences_cons_of_not (hnone (p, v) (by simp))]
    exact ih.trans (occurrences_append_le [c] _)

/-- Nothing was brought in: a replacement of the last pattern finds those of the text. -/
theorem substitute_last_of_occurrences_eq (h : Separate (subs ++ [(p, v)])) {s : List α}
    (heq : occurrences p (substitute subs s) = occurrences p s) :
    substitute [(p, v)] (substitute subs s) = substitute (subs ++ [(p, v)]) s := by
  induction s using substitute_induction h.ne_nil with
  | nil => rfl
  | hit e he rest ih =>
    have hle := occurrences_le_substitute h rest
    rw [substitute_append_of_mem h he]
    rcases List.mem_append.mp he with he | he
    · rw [substitute_append_of_mem h.left he] at heq ⊢
      rw [(occurrences_append_eq_iff e.1 rest).mpr (h.last_not_in he rest)] at heq
      have happend := occurrences_append_le (p := p) e.2 (substitute subs rest)
      have hnone := (occurrences_append_eq_iff (p := p) e.2 (substitute subs rest)).mp (by omega)
      rw [substitute_append_of_none e.2 _ fun n hn e' he' => ?_, ih (by omega)]
      cases List.mem_singleton.mp he'
      exact hnone n hn
    · cases List.mem_singleton.mp he
      rw [substitute_append_last h] at heq ⊢
      rw [h.occurrences_last, h.occurrences_last] at heq
      rw [substitute_append_of_mem h.last (List.mem_singleton_self _), ih (by omega)]
  | skip c rest hnone ih =>
    have hle := occurrences_le_substitute h rest
    have hlast : ¬ p <+: c :: rest := hnone (p, v) (by simp)
    have hleft := substitute_cons_of_none fun e he => hnone e (List.mem_append_left _ he)
    rw [hleft] at heq ⊢
    rw [substitute_cons_of_none hnone]
    rw [occurrences_cons_of_not hlast] at heq
    by_cases hhead : p <+: c :: substitute subs rest
    · rw [occurrences_cons_of_begins hhead] at heq
      omega
    · rw [occurrences_cons_of_not hhead] at heq
      rw [substitute_cons_of_none fun e he => ?_, ih heq]
      cases List.mem_singleton.mp he
      exact hhead

/-- A pattern that is replaced by itself. -/
theorem substitute_last_self (h : Separate (subs ++ [(p, p)])) (s : List α) :
    substitute (subs ++ [(p, p)]) s = substitute subs s := by
  induction s using substitute_induction h.ne_nil with
  | nil => rfl
  | hit e he rest ih =>
    rw [substitute_append_of_mem h he, ih]
    rcases List.mem_append.mp he with he | he
    · rw [substitute_append_of_mem h.left he]
    · cases List.mem_singleton.mp he
      rw [substitute_append_last h]
  | skip c rest hnone ih =>
    rw [substitute_cons_of_none hnone, ih,
      substitute_cons_of_none fun e he => hnone e (List.mem_append_left _ he)]

end

/-! ### How far two texts are apart

A replacement that finds more occurrences than there are in the text gives another text. It is
longer or shorter by more, or, when the pattern and its replacement have one length, it differs
in more places. -/

section
variable {subs : List (List α × List α)} {p v : List α}

/-- A distance that adds up over common parts and over replacements of `p` by `v`. -/
structure Measure (p v : List α) (μ : List α → List α → Int) : Prop where
  nil : μ [] [] = 0
  same : ∀ a s t, μ (a ++ s) (a ++ t) = μ s t
  replaced : ∀ s t, μ (p ++ s) (v ++ t) = μ p v + μ s t

/-- Each occurrence of the last pattern adds the distance to its replacement. -/
theorem measure_substitute {μ : List α → List α → Int} (hμ : Measure p v μ)
    (h : Separate (subs ++ [(p, v)])) (s : List α) :
    μ (substitute subs s) (substitute (subs ++ [(p, v)]) s) = occurrences p s * μ p v := by
  induction s using substitute_induction h.ne_nil with
  | nil => simp [hμ.nil, occurrences]
  | hit e he rest ih =>
    rw [substitute_append_of_mem h he]
    rcases List.mem_append.mp he with he | he
    · rw [substitute_append_of_mem h.left he, hμ.same, ih,
        (occurrences_append_eq_iff e.1 rest).mpr (h.last_not_in he rest)]
    · cases List.mem_singleton.mp he
      rw [substitute_append_last h, hμ.replaced, ih, h.occurrences_last]
      push_cast
      rw [Int.add_mul, Int.one_mul]
  | skip c rest hnone ih =>
    have hlast : ¬ p <+: c :: rest := hnone (p, v) (by simp)
    rw [substitute_cons_of_none hnone,
      substitute_cons_of_none fun e he => hnone e (List.mem_append_left _ he),
      occurrences_cons_of_not hlast, ← ih]
    exact hμ.same [c] _ _

omit [DecidableEq α] in
/-- The difference of the lengths. -/
theorem measure_length : Measure p v fun a b => (b.length : Int) - a.length := by
  constructor
  · simp
  · intro a s t
    simp only [List.length_append]
    push_cast
    omega
  · intro s t
    simp only [List.length_append]
    push_cast
    omega

/-- The number of places where two texts differ. -/
def mismatches (a b : List α) : Nat := (a.zip b).countP fun e => decide (e.1 ≠ e.2)

/-- A text agrees with itself. -/
theorem mismatches_self (a : List α) : mismatches a a = 0 := by
  induction a with
  | nil => rfl
  | cons c a ih =>
    rw [mismatches, List.zip_cons_cons, List.countP_cons_of_neg (by simp)]
    exact ih

/-- Mismatches add up along texts of one length. -/
theorem mismatches_append {a b : List α} (h : a.length = b.length) (s t : List α) :
    mismatches (a ++ s) (b ++ t) = mismatches a b + mismatches s t := by
  rw [mismatches, List.zip_append h, List.countP_append]
  rfl

/-- Without mismatches the texts are equal. -/
theorem eq_of_mismatches_eq_zero {a b : List α} (h : a.length = b.length)
    (hzero : mismatches a b = 0) : a = b := by
  rw [mismatches, List.countP_eq_zero] at hzero
  refine List.ext_getElem h fun i hi hi' => ?_
  have hmem : (a[i], b[i]) ∈ a.zip b := by
    have hlen : i < (a.zip b).length := by
      rw [List.length_zip]
      omega
    rw [← List.getElem_zip (h := hlen)]
    exact List.getElem_mem hlen
  simpa using hzero _ hmem

/-- Between texts of one length the mismatches are a measure. -/
theorem measure_mismatches (h : p.length = v.length) :
    Measure p v fun a b => (mismatches a b : Int) := by
  constructor
  · rfl
  · intro a s t
    rw [mismatches_append rfl, mismatches_self, Nat.zero_add]
  · intro s t
    rw [mismatches_append h]
    push_cast
    rfl

/-- Two texts that are not the same have a distance. -/
theorem exists_measure (h : p ≠ v) : ∃ μ, Measure p v μ ∧ μ p v ≠ 0 := by
  by_cases hlen : p.length = v.length
  · refine ⟨_, measure_mismatches hlen, fun hzero => h ?_⟩
    exact eq_of_mismatches_eq_zero hlen (Int.natCast_eq_zero.mp hzero)
  · exact ⟨_, measure_length, fun hzero => hlen (by omega)⟩

/-- One more replacement is the simultaneous substitution of one more pattern, if and only if
the pattern is its own replacement, or the earlier ones brought in no further occurrence. -/
theorem substitute_last_iff (h : Separate (subs ++ [(p, v)])) (s : List α) :
    substitute [(p, v)] (substitute subs s) = substitute (subs ++ [(p, v)]) s ↔
      v = p ∨ occurrences p (substitute subs s) = occurrences p s := by
  constructor
  · intro heq
    refine or_iff_not_imp_left.mpr fun hne => ?_
    obtain ⟨μ, hμ, hpos⟩ := exists_measure (p := p) (v := v) (Ne.symm hne)
    have hlast : Separate ([] ++ [(p, v)]) := h.last
    have hfound := measure_substitute hμ hlast (substitute subs s)
    have hthere := measure_substitute hμ h s
    rw [List.nil_append, substitute_no_patterns, heq, hthere] at hfound
    have hcancel := Int.eq_of_mul_eq_mul_right hpos hfound
    exact (Int.ofNat.inj hcancel).symm
  · rintro (rfl | heq)
    · rw [substitute_last_self h, ← List.nil_append [(v, v)], substitute_last_self h.last,
        substitute_no_patterns]
    · exact substitute_last_of_occurrences_eq h heq

end

/-! ### A pattern with a mark

A pattern whose first character does not come again cannot overlap itself, so its occurrences on
both sides of that character can be counted apart. -/

section
variable {c : α} {q : List α}

omit [DecidableEq α] in
/-- What has no mark in it ends before the mark. -/
theorem prefix_append_mark_iff (hq : c ∉ q) (a b : List α) : q <+: a ++ c :: b ↔ q <+: a := by
  constructor
  · intro h
    rcases List.prefix_or_prefix_of_prefix h (List.prefix_append a (c :: b)) with h' | ⟨r, rfl⟩
    · exact h'
    · rw [List.prefix_append_right_inj] at h
      cases r with
      | nil => simp
      | cons x r =>
        obtain rfl : x = c := (List.cons_prefix_cons.mp h).1
        exact absurd (List.mem_append_right a List.mem_cons_self) hq
  · intro h
    exact h.trans (List.prefix_append a _)

omit [DecidableEq α] in
/-- A pattern with its first character nowhere else does not overlap with itself. -/
theorem apart_of_mark (hq : c ∉ q) : Apart (c :: q) (c :: q) := by
  intro s n hbegins hagain hn
  cases n with
  | zero => exact ⟨rfl, rfl⟩
  | succ n =>
    obtain ⟨t, rfl⟩ := hbegins
    have hn : n < q.length := Nat.lt_of_succ_lt_succ hn
    rw [List.cons_append, List.drop_succ_cons, List.drop_append_of_le_length (Nat.le_of_lt hn),
      List.drop_eq_getElem_cons hn, List.cons_append] at hagain
    exact absurd ((List.cons_prefix_cons.mp hagain).1 ▸ List.getElem_mem hn) hq

omit [DecidableEq α] in
/-- A pattern that begins with a mark is separate. -/
theorem separate_of_mark (hq : c ∉ q) (v : List α) : Separate ([] ++ [(c :: q, v)]) where
  ne_nil e he := by
    rw [List.mem_singleton.mp he]
    exact List.cons_ne_nil c q
  apart e he e' he' := by
    rw [List.mem_singleton.mp he, List.mem_singleton.mp he']
    exact apart_of_mark hq
  nodup := List.nodup_singleton _

/-- The occurrences on both sides of a mark. -/
theorem occurrences_append_mark (hq : c ∉ q) (a b : List α) :
    occurrences (c :: q) (a ++ c :: b) =
      occurrences (c :: q) a + occurrences (c :: q) (c :: b) := by
  induction a with
  | nil => exact (Nat.zero_add _).symm
  | cons x a ih =>
    have hhead : c :: q <+: x :: (a ++ c :: b) ↔ c :: q <+: x :: a := by
      rw [List.cons_prefix_cons, List.cons_prefix_cons, prefix_append_mark_iff hq]
    rw [List.cons_append]
    by_cases h : c :: q <+: x :: a
    · rw [occurrences_cons_of_begins (hhead.mpr h), occurrences_cons_of_begins h, ih]
      omega
    · rw [occurrences_cons_of_not fun h' => h (hhead.mp h'), occurrences_cons_of_not h, ih]

end

/-- A text in which a pattern does not occur. -/
theorem occurrences_eq_zero_iff {p : List α} (hp : p ≠ []) (s : List α) :
    occurrences p s = 0 ↔ ¬ p <:+: s := by
  induction s with
  | nil => simp [occurrences, hp]
  | cons c s ih =>
    rw [List.infix_cons_iff, not_or]
    by_cases h : p <+: c :: s
    · rw [occurrences_cons_of_begins h]
      constructor
      · intro hzero
        omega
      · intro hnone
        exact absurd h hnone.1
    · rw [occurrences_cons_of_not h, ih]
      exact ⟨fun hnone => ⟨h, hnone⟩, fun hnone => hnone.2⟩

/-- Each occurrence makes the text longer by the difference. -/
theorem length_substitute_of_mark {c : α} {q : List α} (hq : c ∉ q) (v s : List α) :
    ((substitute [(c :: q, v)] s).length : Int) - s.length =
      occurrences (c :: q) s * ((v.length : Int) - (c :: q).length) := by
  have hmeasure := measure_substitute measure_length (separate_of_mark hq v) s
  rw [substitute_no_patterns] at hmeasure
  exact hmeasure
/-! ### The order -/

/-- The order of the patterns does not matter. -/
theorem substitute_perm {subs subs' : List (List α × List α)} (h : Separate subs)
    (hperm : subs.Perm subs') (s : List α) : substitute subs s = substitute subs' s := by
  have h' : Separate subs' :=
    ⟨fun e he => h.ne_nil e (hperm.mem_iff.mpr he),
     fun e he e' he' => h.apart e (hperm.mem_iff.mpr he) e' (hperm.mem_iff.mpr he'),
     (hperm.map Prod.fst).nodup_iff.mp h.nodup⟩
  induction s using substitute_induction h.ne_nil with
  | nil => rfl
  | hit e he rest ih =>
    rw [substitute_append_of_mem h he, substitute_append_of_mem h' (hperm.mem_iff.mp he), ih]
  | skip c rest hnone ih =>
    rw [substitute_cons_of_none hnone, ih,
      substitute_cons_of_none fun e he => hnone e (hperm.mem_iff.mpr he)]

/-- `s.replace(old, new)` substitutes one pattern. -/
theorem replaceFrom_eq_substituteFrom (old new : List Char) (n : Nat) (s : List Char) :
    replaceFrom old new n s = substituteFrom [(old, new)] n s := by
  induction s generalizing n with
  | nil => cases n <;> rfl
  | cons c rest ih =>
    cases n with
    | succ n => exact ih n
    | zero =>
      rw [replaceFrom, substituteFrom]
      cases h : old.isPrefixOf (c :: rest) with
      | true => simp [h, ih]
      | false => simp [h, ih]

end

end AitpPlayground.Lib
