import Mathlib.Computability.RegularExpressions

/-!
# `AitpPlayground.Lib.Regex`: the pieces of a pattern

Mathlib has the regular expressions, with their languages and an executable match. Here are the
pieces of which patterns are written: a class of characters (`oneOf`) and a repetition
(`oneOrMore`), and what they match.

`words_iff` is about words with a separator between them: the pattern `w+(?:-w+)*` matches the
texts that are split at the separators into words that are not empty.

`reMatch` is `re.match` of a pattern that ends with `$`. That matches at the end of the text,
and before a line feed at its end.
-/

set_option autoImplicit false

namespace AitpPlayground.Lib.Regex

open Computability

variable {α : Type}

/-! ### Classes and repetition -/

/-- A class of characters, `[...]`. -/
def oneOf (cs : List α) : RegularExpression α := cs.foldr (fun c r => .char c + r) 0

/-- `r+`. -/
def oneOrMore (r : RegularExpression α) : RegularExpression α := r * r.star

/-- A character of the list. -/
theorem mem_oneOf {cs s : List α} : s ∈ (oneOf cs).matches' ↔ ∃ c ∈ cs, s = [c] := by
  induction cs with
  | nil =>
    show s ∈ (0 : Language α) ↔ _
    simp [Language.notMem_zero]
  | cons c cs ih =>
    show s ∈ ({[c]} : Language α) + (oneOf cs).matches' ↔ _
    rw [Language.mem_add, ih]
    simp only [List.exists_mem_cons_iff]
    rfl

/-- A run of them. -/
theorem mem_star_oneOf {cs s : List α} : s ∈ (oneOf cs).star.matches' ↔ ∀ c ∈ s, c ∈ cs := by
  rw [RegularExpression.matches'_star, Language.mem_kstar]
  constructor
  · rintro ⟨pieces, rfl, hpieces⟩ c hc
    obtain ⟨piece, hpiece, hc⟩ := List.mem_flatten.mp hc
    obtain ⟨d, hd, rfl⟩ := mem_oneOf.mp (hpieces piece hpiece)
    obtain rfl := List.mem_singleton.mp hc
    exact hd
  · intro h
    refine ⟨s.map fun c => [c], by rw [← List.flatMap_def, List.flatMap_singleton'], ?_⟩
    intro piece hpiece
    obtain ⟨c, hc, rfl⟩ := List.mem_map.mp hpiece
    exact mem_oneOf.mpr ⟨c, h c hc, rfl⟩

/-- A repetition of a class is a word of it that is not empty. -/
theorem mem_oneOrMore {cs s : List α} :
    s ∈ (oneOrMore (oneOf cs)).matches' ↔ s ≠ [] ∧ ∀ c ∈ s, c ∈ cs := by
  rw [oneOrMore, RegularExpression.matches'_mul, Language.mem_mul]
  constructor
  · rintro ⟨piece, hpiece, rest, hrest, rfl⟩
    obtain ⟨c, hc, rfl⟩ := mem_oneOf.mp hpiece
    exact ⟨by simp, List.forall_mem_cons.mpr ⟨hc, mem_star_oneOf.mp hrest⟩⟩
  · rintro ⟨hne, h⟩
    cases s with
    | nil => exact absurd rfl hne
    | cons c rest =>
      obtain ⟨hc, hrest⟩ := List.forall_mem_cons.mp h
      exact ⟨[c], mem_oneOf.mpr ⟨c, hc, rfl⟩, rest, mem_star_oneOf.mpr hrest, rfl⟩

/-- The characters of a range `a-b`. -/
def charRange (a b : Char) : List Char :=
  (List.range (b.toNat + 1 - a.toNat)).map fun i => Char.ofNat (a.toNat + i)

/-- The character of a valid number has this number. -/
theorem toNat_ofNat_of_valid {n : Nat} (h : n.isValidChar) : (Char.ofNat n).toNat = n := by
  rw [Char.ofNat, dif_pos h]
  rfl

/-- The characters of a range are those between its ends. -/
theorem mem_charRange {a b c : Char} (hb : b.toNat < 0xD800) :
    c ∈ charRange a b ↔ a.toNat ≤ c.toNat ∧ c.toNat ≤ b.toNat := by
  unfold charRange
  rw [List.mem_map]
  constructor
  · rintro ⟨i, hi, rfl⟩
    rw [List.mem_range] at hi
    rw [toNat_ofNat_of_valid (.inl (by omega))]
    omega
  · rintro ⟨ha, hc⟩
    refine ⟨c.toNat - a.toNat, ?_, ?_⟩
    · rw [List.mem_range]
      omega
    · rw [Nat.add_sub_cancel' ha, Char.ofNat_toNat]

/-- The zeros of the scripts of Unicode 15, which each stand before the other nine digits. -/
def decimalZeros : List Nat :=
  [0x30, 0x660, 0x6F0, 0x7C0, 0x966, 0x9E6, 0xA66, 0xAE6, 0xB66, 0xBE6, 0xC66, 0xCE6, 0xD66,
   0xDE6, 0xE50, 0xED0, 0xF20, 0x1040, 0x1090, 0x17E0, 0x1810, 0x1946, 0x19D0, 0x1A80, 0x1A90,
   0x1B50, 0x1BB0, 0x1C40, 0x1C50, 0xA620, 0xA8D0, 0xA900, 0xA9D0, 0xA9F0, 0xAA50, 0xABF0,
   0xFF10, 0x104A0, 0x10D30, 0x11066, 0x110F0, 0x11136, 0x111D0, 0x112F0, 0x11450, 0x114D0,
   0x11650, 0x116C0, 0x11730, 0x118E0, 0x11950, 0x11C50, 0x11D50, 0x11DA0, 0x11F50, 0x16A60,
   0x16AC0, 0x16B50, 0x1D7CE, 0x1D7D8, 0x1D7E2, 0x1D7EC, 0x1D7F6, 0x1E140, 0x1E2F0, 0x1E4F0,
   0x1E950, 0x1FBF0]

/-- The characters that `\d` matches. -/
def decimals : List Char :=
  decimalZeros.flatMap fun z => (List.range 10).map fun i => Char.ofNat (z + i)

/-- Beside those of ASCII, the decimal digits come after the Latin and the Greek letters. -/
theorem mem_charRange_or_of_mem_decimals {c : Char} (h : c ∈ decimals) :
    c ∈ charRange '0' '9' ∨ 0x660 ≤ c.toNat := by
  obtain ⟨z, hz, hc⟩ := List.mem_flatMap.mp h
  obtain ⟨i, hi, rfl⟩ := List.mem_map.mp hc
  rw [List.mem_range] at hi
  have hvalid : ∀ z ∈ decimalZeros, z + 9 < 0xD800 ∨ 0xDFFF < z ∧ z + 9 < 0x110000 := by decide
  have hzero : ∀ z ∈ decimalZeros, z = 0x30 ∨ 0x660 ≤ z := by decide
  have hval : (Char.ofNat (z + i)).toNat = z + i := by
    refine toNat_ofNat_of_valid ?_
    rcases hvalid z hz with hlow | hhigh
    · exact .inl (by omega)
    · exact .inr ⟨by omega, by omega⟩
  rcases hzero z hz with rfl | hlarge
  · refine .inl ((mem_charRange (by decide)).mpr ?_)
    rw [hval]
    exact ⟨Nat.le_add_right _ _, show 0x30 + i ≤ 0x39 by omega⟩
  · exact .inr (by omega)

/-- The digits of ASCII are decimals. -/
theorem mem_decimals_of_mem_charRange {c : Char} (h : c ∈ charRange '0' '9') : c ∈ decimals :=
  List.mem_flatMap.mpr ⟨0x30, by decide, h⟩

/-! ### Words with a separator -/

section
variable [DecidableEq α]

/-- The text is words of a class that are not empty, with one separator between any two. -/
def Words (sep : α) (cs s : List α) : Prop := ∀ w ∈ s.splitOn sep, w ≠ [] ∧ ∀ c ∈ w, c ∈ cs

instance (sep : α) (cs s : List α) : Decidable (Words sep cs s) :=
  inferInstanceAs (Decidable (∀ w ∈ s.splitOn sep, w ≠ [] ∧ ∀ c ∈ w, c ∈ cs))

variable {sep : α} {cs : List α}

/-- The first word of a text ends at the first separator. -/
theorem words_append_cons {w : List α} (hw : sep ∉ w) (rest : List α) :
    Words sep cs (w ++ sep :: rest) ↔ (w ≠ [] ∧ ∀ c ∈ w, c ∈ cs) ∧ Words sep cs rest := by
  unfold Words
  rw [List.splitOn_append_cons_self_of_not_mem hw, List.forall_mem_cons]

/-- Without a separator there is one word. -/
theorem words_of_notMem {w : List α} (hw : sep ∉ w) :
    Words sep cs w ↔ w ≠ [] ∧ ∀ c ∈ w, c ∈ cs := by
  unfold Words
  rw [List.splitOn_eq_singleton hw, List.forall_mem_singleton]

/-- A text of the pattern behind a first word is words. -/
theorem words_of_mem (hsep : sep ∉ cs) {pieces : List (List α)}
    (hpieces : ∀ piece ∈ pieces, piece ∈ (.char sep * oneOrMore (oneOf cs)).matches') {w : List α}
    (hw : w ≠ [] ∧ ∀ c ∈ w, c ∈ cs) : Words sep cs (w ++ pieces.flatten) := by
  have hnot : sep ∉ w := fun hmem => hsep (hw.2 sep hmem)
  induction pieces generalizing w with
  | nil =>
    rw [List.flatten_nil, List.append_nil]
    exact (words_of_notMem hnot).mpr hw
  | cons piece pieces ih =>
    obtain ⟨hpiece, hrest⟩ := List.forall_mem_cons.mp hpieces
    obtain ⟨_, rfl, next, hnext, rfl⟩ := Language.mem_mul.mp hpiece
    rw [mem_oneOrMore] at hnext
    show Words sep cs (w ++ sep :: (next ++ pieces.flatten))
    rw [words_append_cons hnot]
    exact ⟨hw, ih hrest hnext fun hmem => hsep (hnext.2 sep hmem)⟩

/-- Words are a first word, and pieces of a separator and a word. -/
theorem exists_of_words {s : List α} (h : Words sep cs s) :
    ∃ w pieces, s = w ++ List.flatten pieces ∧ (w ≠ [] ∧ ∀ c ∈ w, c ∈ cs) ∧
      ∀ piece ∈ pieces, piece ∈ (.char sep * oneOrMore (oneOf cs)).matches' := by
  induction hn : s.length using Nat.strong_induction_on generalizing s with
  | _ n ih =>
    by_cases hmem : sep ∈ s
    · obtain ⟨w, rest, rfl, hnot⟩ := List.eq_append_cons_of_mem hmem
      obtain ⟨hw, hrest⟩ := (words_append_cons hnot rest).mp h
      have hlt : rest.length < n := by
        rw [← hn, List.length_append, List.length_cons]
        omega
      obtain ⟨next, pieces, rfl, hnext, hpieces⟩ := ih rest.length hlt hrest rfl
      refine ⟨w, (sep :: next) :: pieces, rfl, hw, List.forall_mem_cons.mpr ⟨?_, hpieces⟩⟩
      exact Language.mem_mul.mpr ⟨[sep], rfl, next, mem_oneOrMore.mpr hnext, rfl⟩
    · exact ⟨s, [], by simp, (words_of_notMem hmem).mp h, by simp⟩

/-- A text of words has the separator and the characters of the class alone. -/
theorem Words.mem {s : List α} (h : Words sep cs s) {c : α} (hc : c ∈ s) : c = sep ∨ c ∈ cs := by
  obtain ⟨w, pieces, rfl, hw, hpieces⟩ := exists_of_words h
  rcases List.mem_append.mp hc with hc | hc
  · exact .inr (hw.2 c hc)
  · obtain ⟨piece, hpiece, hc⟩ := List.mem_flatten.mp hc
    obtain ⟨_, rfl, next, hnext, rfl⟩ := Language.mem_mul.mp (hpieces piece hpiece)
    rcases List.mem_cons.mp hc with rfl | hc
    · exact .inl rfl
    · exact .inr ((mem_oneOrMore.mp hnext).2 c hc)

/-- A text of words has a character of the class. -/
theorem Words.exists_mem {s : List α} (h : Words sep cs s) : ∃ c ∈ s, c ∈ cs := by
  obtain ⟨w, pieces, rfl, ⟨hne, hw⟩, -⟩ := exists_of_words h
  obtain ⟨c, rest, rfl⟩ := List.exists_cons_of_ne_nil hne
  exact ⟨c, List.mem_cons_self, hw c List.mem_cons_self⟩

/-- The pattern `w+(?:-w+)*` matches the texts of words. -/
theorem words_iff (hsep : sep ∉ cs) {s : List α} :
    s ∈ (oneOrMore (oneOf cs) * (.char sep * oneOrMore (oneOf cs)).star).matches' ↔
      Words sep cs s := by
  rw [RegularExpression.matches'_mul, Language.mem_mul]
  constructor
  · rintro ⟨w, hw, rest, hrest, rfl⟩
    rw [RegularExpression.matches'_star, Language.mem_kstar] at hrest
    obtain ⟨pieces, rfl, hpieces⟩ := hrest
    exact words_of_mem hsep hpieces (mem_oneOrMore.mp hw)
  · intro h
    obtain ⟨w, pieces, rfl, hw, hpieces⟩ := exists_of_words h
    refine ⟨w, mem_oneOrMore.mpr hw, pieces.flatten, ?_, rfl⟩
    rw [RegularExpression.matches'_star, Language.mem_kstar]
    exact ⟨pieces, rfl, hpieces⟩

end

/-! ### The end of the text -/

/-- `re.match` of a pattern with `$` behind it. -/
def reMatch (r : RegularExpression Char) (s : List Char) : Bool :=
  r.rmatch s || (s.getLast? = some '\n' && r.rmatch s.dropLast)

/-- A text without a line feed at its end. -/
def chomp (s : List Char) : List Char := if s.getLast? = some '\n' then s.dropLast else s

/-- Without a line feed nothing is cut off. -/
theorem chomp_eq_self {s : List Char} (h : '\n' ∉ s) : chomp s = s :=
  if_neg fun hlast => h (List.mem_of_getLast? hlast)

/-- What is left was there before. -/
theorem mem_of_mem_chomp {s : List Char} {c : Char} (h : c ∈ chomp s) : c ∈ s := by
  unfold chomp at h
  split at h
  · exact List.mem_of_mem_dropLast h
  · exact h

/-- What was cut off is a line feed. -/
theorem mem_chomp_or {s : List Char} {c : Char} (h : c ∈ s) : c ∈ chomp s ∨ c = '\n' := by
  unfold chomp
  split
  · next hlast =>
    rw [← List.dropLast_append_getLast? _ hlast] at h
    rcases List.mem_append.mp h with h | h
    · exact .inl h
    · exact .inr (List.mem_singleton.mp h)
  · exact .inl h

/-- A pattern that matches no line feed matches a text as it matches the text without one at its
end. -/
theorem reMatch_iff {r : RegularExpression Char} (hr : ∀ s ∈ r.matches', '\n' ∉ s)
    {s : List Char} : reMatch r s = true ↔ chomp s ∈ r.matches' := by
  unfold reMatch chomp
  by_cases hlast : s.getLast? = some '\n'
  · have hs : s ∉ r.matches' := fun h => hr s h (List.mem_of_getLast? hlast)
    rw [if_pos hlast]
    simp [hlast, hs]
  · rw [if_neg hlast]
    simp [hlast]

end AitpPlayground.Lib.Regex
