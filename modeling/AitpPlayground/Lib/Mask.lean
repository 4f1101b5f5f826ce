import AitpPlayground.Lib.Py
import Mathlib.Data.List.Infix

/-!
# `AitpPlayground.Lib.Mask`: places of a text that are masked

`mask hit cover s` goes through a text from left to right. Where `hit` finds something, it puts
the cover in its place. `s.replace(old, new)` is of this kind, and so is `re.sub`.

A cover in brackets separates what is before it from what is behind it. So a text without
brackets that is in the result, and not in the cover, is in `s` too, at a place where nothing
was hit. Masking brings in no such text (`not_infix_mask`), and a text that is always hit is
gone (`not_infix_mask_of_hit`).
-/

set_option autoImplicit false

namespace AitpPlayground.Lib

section
variable {α : Type}

/-- The loop of `mask`, with the characters of the last hit that are still to be skipped. -/
def maskFrom (hit : List α → Option Nat) (cover : List α) : Nat → List α → List α
  | _, [] => []
  | n + 1, _ :: rest => maskFrom hit cover n rest
  | 0, c :: rest =>
    match hit (c :: rest) with
    | some len => cover ++ maskFrom hit cover (len - 1) rest
    | none => c :: maskFrom hit cover 0 rest

/-- A text with its hits covered. -/
def mask (hit : List α → Option Nat) (cover s : List α) : List α := maskFrom hit cover 0 s

/-- A prefix without a character ends before it. -/
theorem prefix_append_cons {x a b : List α} {d : α} (hd : d ∉ x) (h : x <+: a ++ d :: b) :
    x <+: a := by
  induction a generalizing x with
  | nil =>
    rcases List.prefix_cons_iff.mp h with rfl | ⟨t, rfl, -⟩
    · exact List.nil_prefix
    · exact absurd (List.mem_cons_self ..) hd
  | cons e a ih =>
    rcases List.prefix_cons_iff.mp h with rfl | ⟨t, rfl, ht⟩
    · exact List.nil_prefix
    · exact List.cons_prefix_cons.mpr ⟨rfl, ih (fun hmem => hd (List.mem_cons_of_mem _ hmem)) ht⟩

/-- A text that a character splits has its infixes on one side. -/
theorem infix_append_cons {x a b : List α} {d : α} (hd : d ∉ x) (h : x <:+: a ++ d :: b) :
    x <:+: a ∨ x <:+: b := by
  induction a with
  | nil =>
    rcases List.infix_cons_iff.mp h with hbegins | hinside
    · exact .inl (prefix_append_cons (a := []) hd hbegins).isInfix
    · exact .inr hinside
  | cons e a ih =>
    rcases List.infix_cons_iff.mp h with hbegins | hinside
    · exact .inl (prefix_append_cons (a := e :: a) hd hbegins).isInfix
    · rcases ih hinside with ha | hb
      · exact .inl (List.infix_cons ha)
      · exact .inr hb

section
variable {hit : List α → Option Nat} {o c : α} {w x : List α}

/-- What the result begins with was copied, as long as there is no bracket in it. -/
theorem prefix_of_prefix_mask (ho : o ∉ x) {s : List α}
    (h : x <+: mask hit (o :: w ++ [c]) s) : x <+: s := by
  induction x generalizing s with
  | nil => exact List.nil_prefix
  | cons d x ih =>
    cases s with
    | nil => exact absurd (List.prefix_nil.mp h) (List.cons_ne_nil _ _)
    | cons e rest =>
      rw [mask, maskFrom] at h
      cases hhit : hit (e :: rest) with
      | some len =>
        rw [hhit] at h
        obtain ⟨t, ht⟩ := h
        simp only [List.cons_append, List.cons.injEq] at ht
        exact absurd (ht.1 ▸ List.mem_cons_self ..) ho
      | none =>
        rw [hhit] at h
        obtain ⟨rfl, hrest⟩ := List.cons_prefix_cons.mp h
        have hx := ih (fun hmem => ho (List.mem_cons_of_mem _ hmem)) hrest
        exact List.cons_prefix_cons.mpr ⟨rfl, hx⟩

/-- A text in the result, without brackets and not in the cover, begins at a place of `s` where
nothing was hit. -/
theorem infix_mask (ho : o ∉ x) (hc : c ∉ x) (hw : ¬ x <:+: w) {s : List α} {n : Nat}
    (h : x <:+: maskFrom hit (o :: w ++ [c]) n s) :
    ∃ s', s' <:+ s ∧ hit s' = none ∧ x <+: s' := by
  induction s generalizing n with
  | nil =>
    cases n <;>
    · rw [maskFrom, List.infix_nil] at h
      exact absurd (h ▸ List.nil_infix) hw
  | cons e rest ih =>
    have hrest : ∀ {m}, x <:+: maskFrom hit (o :: w ++ [c]) m rest →
        ∃ s', s' <:+ e :: rest ∧ hit s' = none ∧ x <+: s' := by
      intro m hm
      obtain ⟨s', hsuffix, hnone, hbegins⟩ := ih hm
      exact ⟨s', hsuffix.trans (List.suffix_cons ..), hnone, hbegins⟩
    cases n with
    | succ n => exact hrest h
    | zero =>
      rw [maskFrom] at h
      cases hhit : hit (e :: rest) with
      | some len =>
        rw [hhit] at h
        -- The brackets of the cover split the result.
        simp only [List.append_assoc, List.cons_append] at h
        rcases infix_append_cons (a := []) ho h with hnil | h
        · exact absurd (List.infix_nil.mp hnil ▸ List.nil_infix) hw
        · rcases infix_append_cons hc h with hin | h
          · exact absurd hin hw
          · exact hrest h
      | none =>
        rw [hhit] at h
        rcases List.infix_cons_iff.mp h with hbegins | h
        · have hcopied : x <+: mask hit (o :: w ++ [c]) (e :: rest) := by
            rw [mask, maskFrom, hhit]
            exact hbegins
          exact ⟨e :: rest, List.suffix_refl _, hhit, prefix_of_prefix_mask ho hcopied⟩
        · exact hrest h

/-- Masking brings in no text without brackets. -/
theorem not_infix_mask (ho : o ∉ x) (hc : c ∉ x) (hw : ¬ x <:+: w) {s : List α}
    (h : ¬ x <:+: s) : ¬ x <:+: mask hit (o :: w ++ [c]) s := by
  intro hin
  obtain ⟨s', hsuffix, -, hbegins⟩ := infix_mask ho hc hw hin
  exact h (hbegins.isInfix.trans hsuffix.isInfix)

/-- A text that is hit wherever it begins is gone. -/
theorem not_infix_mask_of_hit (ho : o ∉ x) (hc : c ∉ x) (hw : ¬ x <:+: w)
    (hhit : ∀ s, x <+: s → hit s ≠ none) (s : List α) :
    ¬ x <:+: mask hit (o :: w ++ [c]) s := by
  intro hin
  obtain ⟨s', -, hnone, hbegins⟩ := infix_mask ho hc hw hin
  exact hhit s' hbegins hnone

end

end

/-- `s.replace(old, new)` masks the places where `old` begins. -/
theorem replaceFrom_eq_maskFrom (old new : List Char) (n : Nat) (s : List Char) :
    replaceFrom old new n s =
      maskFrom (fun s => if old <+: s then some old.length else none) new n s := by
  induction s generalizing n with
  | nil => cases n <;> rfl
  | cons c rest ih =>
    cases n with
    | succ n => exact ih n
    | zero =>
      rw [replaceFrom, maskFrom, ih, ih]
      by_cases h : old <+: c :: rest
      · rw [if_pos (List.isPrefixOf_iff_prefix.mpr h), if_pos h]
      · rw [if_neg (mt List.isPrefixOf_iff_prefix.mp h), if_neg h]

end AitpPlayground.Lib
