import Mathlib.Data.List.Basic

/-!
# `AitpPlayground.Lib.Percent`: percent-decoding

`urllib.parse.unquote` makes bytes of the ASCII parts of a text, escapes included, and reads
them as UTF-8. What is no UTF-8 becomes U+FFFD: one of them for the longest start of a sequence
that breaks off. A character that is not ASCII stays as it is, and ends the bytes before it.
-/

set_option autoImplicit false

namespace AitpPlayground.Lib

/-- The value of a hexadecimal digit. -/
def hexDigit (c : Char) : Option Nat :=
  if '0' ≤ c ∧ c ≤ '9' then some (c.toNat - '0'.toNat)
  else if 'a' ≤ c ∧ c ≤ 'f' then some (c.toNat - 'a'.toNat + 10)
  else if 'A' ≤ c ∧ c ≤ 'F' then some (c.toNat - 'A'.toNat + 10)
  else none

/-- A part of a text: a byte, or a character that is not ASCII. -/
inductive Quoted where
  | byte (b : Nat)
  | char (c : Char)
deriving DecidableEq

/-- A character that is not an escape. -/
def Quoted.ofChar (c : Char) : Quoted := if c.toNat < 128 then .byte c.toNat else .char c

/-- The parts of a text. A `%` without two hexadecimal digits stays. -/
def quotedParts : List Char → List Quoted
  | '%' :: a :: b :: rest =>
    match hexDigit a, hexDigit b with
    | some hi, some lo => .byte (16 * hi + lo) :: quotedParts rest
    | _, _ => .ofChar '%' :: quotedParts (a :: b :: rest)
  | c :: rest => .ofChar c :: quotedParts rest
  | [] => []

/-- A UTF-8 sequence that has begun: how many bytes it still needs, the range of the next one,
and the value so far. -/
structure Utf8Pending where
  needed : Nat
  low : Nat
  high : Nat
  value : Nat
deriving DecidableEq

/-- What a first byte of more than one begins. -/
def utf8Lead (b : Nat) : Option Utf8Pending :=
  if 0xC2 ≤ b ∧ b ≤ 0xDF then some ⟨1, 0x80, 0xBF, b - 0xC0⟩
  else if b = 0xE0 then some ⟨2, 0xA0, 0xBF, 0⟩
  else if b = 0xED then some ⟨2, 0x80, 0x9F, 0xD⟩
  else if 0xE1 ≤ b ∧ b ≤ 0xEF then some ⟨2, 0x80, 0xBF, b - 0xE0⟩
  else if b = 0xF0 then some ⟨3, 0x90, 0xBF, 0⟩
  else if 0xF1 ≤ b ∧ b ≤ 0xF3 then some ⟨3, 0x80, 0xBF, b - 0xF0⟩
  else if b = 0xF4 then some ⟨3, 0x80, 0x8F, 4⟩
  else none

/-- The replacement of a sequence that breaks off. -/
def utf8Flush : Option Utf8Pending → List Char
  | none => []
  | some _ => ['\uFFFD']

/-- A byte where no sequence has begun. -/
def utf8First (b : Nat) : List Char × Option Utf8Pending :=
  if b < 128 then ([Char.ofNat b], none)
  else
    match utf8Lead b with
    | some pending => ([], some pending)
    | none => (['\uFFFD'], none)

/-- A byte: the characters that it completes, and the sequence after it. -/
def utf8Next (b : Nat) : Option Utf8Pending → List Char × Option Utf8Pending
  | none => utf8First b
  | some ⟨needed, low, high, value⟩ =>
    if low ≤ b ∧ b ≤ high then
      if needed = 1 then ([Char.ofNat (64 * value + (b - 0x80))], none)
      else ([], some ⟨needed - 1, 0x80, 0xBF, 64 * value + (b - 0x80)⟩)
    else
      -- The byte that breaks a sequence begins another one.
      let (chars, pending) := utf8First b
      ('\uFFFD' :: chars, pending)

/-- The text of the parts, after a sequence that has begun. -/
def decodeParts : Option Utf8Pending → List Quoted → List Char
  | pending, [] => utf8Flush pending
  | pending, .byte b :: rest =>
    let (chars, pending) := utf8Next b pending
    chars ++ decodeParts pending rest
  | pending, .char c :: rest => utf8Flush pending ++ c :: decodeParts none rest

/-- `urllib.parse.unquote`. -/
def unquote (s : List Char) : List Char := decodeParts none (quotedParts s)

example : unquote "localhost%3A8100".toList = "localhost:8100".toList := by decide

end AitpPlayground.Lib
