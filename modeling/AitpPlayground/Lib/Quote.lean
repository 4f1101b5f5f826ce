import AitpPlayground.Lib.Percent

/-!
# `AitpPlayground.Lib.Quote`: percent-encoding, and back

`urllib.parse.quote` keeps the unreserved characters and those that the caller calls safe, and
writes every byte of the UTF-8 of the others as an escape.

* `decodeParts_utf8`: the decoder of `Lib.Percent` reads the bytes of a character as the
  character.
* `unquote_quote`: what is decoded is the text that was encoded.
-/

set_option autoImplicit false

namespace AitpPlayground.Lib

/-! ### The encoder -/

/-- The UTF-8 of a character. -/
def utf8Of (c : Char) : List Nat :=
  let v := c.toNat
  if v < 0x80 then [v]
  else if v < 0x800 then [0xC0 + v / 64, 0x80 + v % 64]
  else if v < 0x10000 then [0xE0 + v / 4096, 0x80 + v / 64 % 64, 0x80 + v % 64]
  else [0xF0 + v / 262144, 0x80 + v / 4096 % 64, 0x80 + v / 64 % 64, 0x80 + v % 64]

/-- The characters that are never quoted. -/
def isUnreserved (c : Char) : Bool := c.isAlphanum || "_.-~".toList.contains c

/-- A hexadecimal digit, in upper case. -/
def upperHex (d : Nat) : Char := "0123456789ABCDEF".toList.getD d '0'

/-- The escape of a byte. -/
def quoteByte (b : Nat) : List Char := ['%', upperHex (b / 16), upperHex (b % 16)]

/-- The character as it is, or the escapes of its bytes. -/
def quoteChar (safe : List Char) (c : Char) : List Char :=
  if isUnreserved c || safe.contains c then [c] else (utf8Of c).flatMap quoteByte

/-- `urllib.parse.quote`. -/
def quote (safe s : List Char) : List Char := s.flatMap (quoteChar safe)

example : quote ".".toList "localhost:8100".toList = "localhost%3A8100".toList := by decide

/-! ### Escapes -/

/-- A digit in upper case is read as its value. -/
theorem hexDigit_upperHex {d : Nat} (h : d < 16) : hexDigit (upperHex d) = some d := by
  have hall : ∀ d < 16, hexDigit (upperHex d) = some d := by decide
  exact hall d h

/-- An escape is read as its byte. -/
theorem quotedParts_quoteByte {b : Nat} (h : b < 256) (rest : List Char) :
    quotedParts (quoteByte b ++ rest) = .byte b :: quotedParts rest := by
  show quotedParts ('%' :: upperHex (b / 16) :: upperHex (b % 16) :: rest) = _
  rw [quotedParts, hexDigit_upperHex (by omega), hexDigit_upperHex (by omega)]
  have hbyte : 16 * (b / 16) + b % 16 = b := by omega
  simp only [hbyte]

/-- Quoted bytes are read back, one by one. -/
theorem quotedParts_quoteBytes {bytes : List Nat} (h : ∀ b ∈ bytes, b < 256)
    (rest : List Char) :
    quotedParts (bytes.flatMap quoteByte ++ rest) = bytes.map .byte ++ quotedParts rest := by
  induction bytes with
  | nil => rfl
  | cons b bytes ih =>
    rw [List.flatMap_cons, List.append_assoc, quotedParts_quoteByte (h b List.mem_cons_self),
      ih fun b' hb' => h b' (List.mem_cons_of_mem _ hb')]
    rfl

/-- A character that begins no escape. -/
theorem quotedParts_cons {c : Char} (h : c ≠ '%') (rest : List Char) :
    quotedParts (c :: rest) = .ofChar c :: quotedParts rest := by
  rw [quotedParts]
  intro a b rest' hc
  exact absurd hc h

/-! ### UTF-8 -/

/-- A character is no surrogate. -/
theorem toNat_valid (c : Char) : c.toNat < 0xD800 ∨ 0xDFFF < c.toNat ∧ c.toNat < 0x110000 :=
  c.valid

/-- The UTF-8 of a character, by its length. -/
theorem utf8Of_cases (c : Char) :
    c.toNat < 0x80 ∧ utf8Of c = [c.toNat] ∨
    (0x80 ≤ c.toNat ∧ c.toNat < 0x800) ∧
      utf8Of c = [0xC0 + c.toNat / 64, 0x80 + c.toNat % 64] ∨
    (0x800 ≤ c.toNat ∧ c.toNat < 0x10000) ∧
      utf8Of c = [0xE0 + c.toNat / 4096, 0x80 + c.toNat / 64 % 64, 0x80 + c.toNat % 64] ∨
    0x10000 ≤ c.toNat ∧
      utf8Of c = [0xF0 + c.toNat / 262144, 0x80 + c.toNat / 4096 % 64,
        0x80 + c.toNat / 64 % 64, 0x80 + c.toNat % 64] := by
  by_cases h1 : c.toNat < 0x80
  · exact .inl ⟨h1, if_pos h1⟩
  by_cases h2 : c.toNat < 0x800
  · exact .inr (.inl ⟨⟨by omega, h2⟩, (if_neg h1).trans (if_pos h2)⟩)
  by_cases h3 : c.toNat < 0x10000
  · exact .inr (.inr (.inl ⟨⟨by omega, h3⟩, (if_neg h1).trans ((if_neg h2).trans (if_pos h3))⟩))
  · exact .inr (.inr (.inr ⟨by omega, (if_neg h1).trans ((if_neg h2).trans (if_neg h3))⟩))

/-- The bytes of a character are bytes. -/
theorem utf8Of_lt (c : Char) : ∀ b ∈ utf8Of c, b < 256 := by
  have hvalid := toNat_valid c
  intro b hb
  rcases utf8Of_cases c with ⟨h, hc⟩ | ⟨h, hc⟩ | ⟨h, hc⟩ | ⟨h, hc⟩ <;>
    · simp only [hc, List.mem_cons, List.not_mem_nil, or_false] at hb
      omega

/-- The first byte of two. -/
theorem utf8Lead_two {k : Nat} (hlow : 2 ≤ k) (hhigh : k < 32) :
    utf8Lead (0xC0 + k) = some ⟨1, 0x80, 0xBF, k⟩ := by
  have hall : ∀ k < 32, 2 ≤ k → utf8Lead (0xC0 + k) = some ⟨1, 0x80, 0xBF, k⟩ := by decide
  exact hall k hhigh hlow

/-- The first byte of three. The range of the next one leaves out what two bytes can say, and the
surrogates. -/
theorem utf8Lead_three {k : Nat} (h : k < 16) :
    utf8Lead (0xE0 + k) =
      some ⟨2, if k = 0 then 0xA0 else 0x80, if k = 0xD then 0x9F else 0xBF, k⟩ := by
  have hall : ∀ k < 16, utf8Lead (0xE0 + k) =
      some ⟨2, if k = 0 then 0xA0 else 0x80, if k = 0xD then 0x9F else 0xBF, k⟩ := by decide
  exact hall k h

/-- The first byte of four. The range of the next one leaves out what three bytes can say, and
what comes after the last character. -/
theorem utf8Lead_four {k : Nat} (h : k < 5) :
    utf8Lead (0xF0 + k) =
      some ⟨3, if k = 0 then 0x90 else 0x80, if k = 4 then 0x8F else 0xBF, k⟩ := by
  have hall : ∀ k < 5, utf8Lead (0xF0 + k) =
      some ⟨3, if k = 0 then 0x90 else 0x80, if k = 4 then 0x8F else 0xBF, k⟩ := by decide
  exact hall k h

/-- A leading byte waits for those that follow. -/
theorem decodeParts_lead {b : Nat} {pending : Utf8Pending} (hb : 128 ≤ b)
    (h : utf8Lead b = some pending) (rest : List Quoted) :
    decodeParts none (.byte b :: rest) = decodeParts (some pending) rest := by
  simp only [decodeParts, utf8Next, utf8First, if_neg (Nat.not_lt.mpr hb), h, List.nil_append]

/-- A byte in the middle of a sequence. -/
theorem decodeParts_more {needed low high value b : Nat} (hlow : low ≤ b) (hhigh : b ≤ high)
    (rest : List Quoted) :
    decodeParts (some ⟨needed + 2, low, high, value⟩) (.byte b :: rest) =
      decodeParts (some ⟨needed + 1, 0x80, 0xBF, 64 * value + (b - 0x80)⟩) rest := by
  have hneeded : needed + 2 ≠ 1 := by omega
  simp only [decodeParts, utf8Next, if_pos (And.intro hlow hhigh), if_neg hneeded,
    List.nil_append]
  rfl

/-- The last byte of a sequence. -/
theorem decodeParts_last {low high value b : Nat} (hlow : low ≤ b) (hhigh : b ≤ high)
    (rest : List Quoted) :
    decodeParts (some ⟨1, low, high, value⟩) (.byte b :: rest) =
      Char.ofNat (64 * value + (b - 0x80)) :: decodeParts none rest := by
  simp only [decodeParts, utf8Next, if_pos (And.intro hlow hhigh), if_pos, List.singleton_append]

/-- The bytes of a character are read as the character. -/
theorem decodeParts_utf8 (c : Char) (rest : List Quoted) :
    decodeParts none ((utf8Of c).map .byte ++ rest) = c :: decodeParts none rest := by
  have hvalid := toNat_valid c
  rcases utf8Of_cases c with ⟨h, hc⟩ | ⟨⟨hge, hlt⟩, hc⟩ | ⟨⟨hge, hlt⟩, hc⟩ | ⟨hge, hc⟩
  · rw [hc]
    simp only [List.map_cons, List.map_nil, List.singleton_append, decodeParts, utf8Next,
      utf8First, if_pos h, Char.ofNat_toNat]
  · have hlast : 64 * (c.toNat / 64) + (0x80 + c.toNat % 64 - 0x80) = c.toNat := by omega
    rw [hc]
    show decodeParts none (.byte _ :: .byte _ :: rest) = _
    rw [decodeParts_lead (by omega) (utf8Lead_two (by omega) (by omega)),
      decodeParts_last (by omega) (by omega), hlast, Char.ofNat_toNat]
  · have hlast : 64 * (64 * (c.toNat / 4096) + (0x80 + c.toNat / 64 % 64 - 0x80)) +
        (0x80 + c.toNat % 64 - 0x80) = c.toNat := by omega
    rw [hc]
    show decodeParts none (.byte _ :: .byte _ :: .byte _ :: rest) = _
    rw [decodeParts_lead (by omega) (utf8Lead_three (by omega)),
      decodeParts_more (by split <;> omega) (by split <;> omega),
      decodeParts_last (by omega) (by omega), hlast, Char.ofNat_toNat]
  · have hlast : 64 * (64 * (64 * (c.toNat / 262144) + (0x80 + c.toNat / 4096 % 64 - 0x80)) +
        (0x80 + c.toNat / 64 % 64 - 0x80)) + (0x80 + c.toNat % 64 - 0x80) = c.toNat := by omega
    rw [hc]
    show decodeParts none (.byte _ :: .byte _ :: .byte _ :: .byte _ :: rest) = _
    rw [decodeParts_lead (by omega) (utf8Lead_four (by omega)),
      decodeParts_more (by split <;> omega) (by split <;> omega),
      decodeParts_more (by omega) (by omega), decodeParts_last (by omega) (by omega), hlast,
      Char.ofNat_toNat]

/-! ### The round trip -/

/-- An unreserved character is an ASCII one, and begins no escape. -/
theorem isUnreserved_ascii {c : Char} (h : isUnreserved c = true) : c.toNat < 128 ∧ c ≠ '%' := by
  constructor
  · rcases Bool.or_eq_true _ _ ▸ h with halnum | hother
    · have hle : ∀ n, c.val ≤ n → c.toNat ≤ n.toNat := fun n hn => UInt32.le_iff_toNat_le.mp hn
      delta Char.isAlphanum Char.isAlpha Char.isUpper Char.isLower Char.isDigit at halnum
      simp only [Bool.or_eq_true, Bool.and_eq_true, decide_eq_true_eq] at halnum
      rcases halnum with (⟨-, h⟩ | ⟨-, h⟩) | ⟨-, h⟩ <;>
        exact Nat.lt_of_le_of_lt (hle _ h) (by decide)
    · have hmem : c ∈ ['_', '.', '-', '~'] := List.contains_iff_mem.mp hother
      rcases (by simpa using hmem) with rfl | rfl | rfl | rfl <;> decide
  · rintro rfl
    exact absurd h (by decide)

variable {safe : List Char}

/-- What is written for a character is read as the character. -/
theorem decodeParts_quoteChar (hsafe : ∀ c ∈ safe, c.toNat < 128 ∧ c ≠ '%') (c : Char)
    (rest : List Char) :
    decodeParts none (quotedParts (quoteChar safe c ++ rest)) =
      c :: decodeParts none (quotedParts rest) := by
  unfold quoteChar
  split
  case isTrue hkept =>
    have hplain : c.toNat < 128 ∧ c ≠ '%' := by
      rcases Bool.or_eq_true _ _ ▸ hkept with hkept | hkept
      · exact isUnreserved_ascii hkept
      · exact hsafe c (List.contains_iff_mem.mp hkept)
    have hutf8 : utf8Of c = [c.toNat] := if_pos hplain.1
    have hread := decodeParts_utf8 c (quotedParts rest)
    rw [hutf8] at hread
    rw [List.singleton_append, quotedParts_cons hplain.2, Quoted.ofChar, if_pos hplain.1]
    exact hread
  case isFalse =>
    rw [quotedParts_quoteBytes (utf8Of_lt c), decodeParts_utf8]

/-- What is decoded is the text that was encoded. -/
theorem unquote_quote (hsafe : ∀ c ∈ safe, c.toNat < 128 ∧ c ≠ '%') (s : List Char) :
    unquote (quote safe s) = s := by
  show decodeParts none (quotedParts (s.flatMap (quoteChar safe))) = s
  induction s with
  | nil => rfl
  | cons c s ih => rw [List.flatMap_cons, decodeParts_quoteChar hsafe, ih]

end AitpPlayground.Lib
