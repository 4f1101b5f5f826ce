import AitpPlayground.Lib.Py
import Mathlib.Data.List.Nodup

/-!
# `AitpPlayground.Lib.Escape`: text between delimiters

A text that stands between delimiters must not have the delimiter in it. An `EscapeTable` has a
mark, and for each special character the code that is written after the mark in its place.
`escape` writes a text, and `readUntil` reads it back up to the first delimiter that has no mark
before it.

* `readUntil_escape`: what is read is the text that was written, and the rest.
* `notMem_escape`: a special character whose own sign is no code, such as a line break, does not
  occur in what is written.
* `replaceFrom_singleton`: to replace one character is to map each character.
-/

set_option autoImplicit false

namespace AitpPlayground.Lib

/-- The special characters, each with its code. The mark is one of them. -/
structure EscapeTable where
  mark : Char
  codes : List (Char × Char)
  specials_nodup : (codes.map Prod.fst).Nodup
  codes_nodup : (codes.map Prod.snd).Nodup
  mark_special : mark ∈ codes.map Prod.fst

namespace EscapeTable

variable (t : EscapeTable)

/-- A character as it is written. -/
def escapeChar (c : Char) : List Char :=
  match t.codes.lookup c with
  | some code => [t.mark, code]
  | none => [c]

/-- A text as it is written. -/
def escape (s : List Char) : List Char := s.flatMap t.escapeChar

/-- The character of a code. -/
def decode? (code : Char) : Option Char :=
  (t.codes.find? fun e => decide (e.2 = code)).map Prod.fst

/-- The text up to the first `close` without a mark, and what comes after. `marked` says that
the mark was read last. -/
def readFrom (close : Char) : Bool → List Char → Option (List Char × List Char)
  | _, [] => none
  | true, c :: rest => do
    let c ← t.decode? c
    let (s, rest) ← readFrom close false rest
    pure (c :: s, rest)
  | false, c :: rest =>
    if c = t.mark then readFrom close true rest
    else if c = close then some ([], rest)
    else (readFrom close false rest).map fun read => (c :: read.1, read.2)

/-- The text up to the first `close` without a mark, and what comes after. -/
def readUntil (close : Char) (s : List Char) : Option (List Char × List Char) :=
  t.readFrom close false s

variable {t}

/-- The code of a character is the one in the table. -/
theorem lookup_eq_some_iff {c code : Char} :
    t.codes.lookup c = some code ↔ (c, code) ∈ t.codes :=
  Dict.lookup_eq_some_iff t.specials_nodup c code

/-- A character without a code is not in it. -/
theorem lookup_eq_none_iff {c : Char} :
    t.codes.lookup c = none ↔ c ∉ t.codes.map Prod.fst := by
  constructor
  · intro h hmem
    obtain ⟨⟨c', code⟩, hcode, rfl⟩ := List.mem_map.mp hmem
    rw [lookup_eq_some_iff.mpr hcode] at h
    cases h
  · intro h
    cases hlookup : t.codes.lookup c with
    | none => rfl
    | some code => exact absurd (List.mem_map_of_mem (lookup_eq_some_iff.mp hlookup)) h

/-- A code stands for one character. -/
theorem decode?_code {c code : Char} (h : (c, code) ∈ t.codes) : t.decode? code = some c := by
  unfold decode?
  cases hfind : t.codes.find? fun e => decide (e.2 = code) with
  | none =>
    have hnone := List.find?_eq_none.mp hfind (c, code) h
    simp at hnone
  | some e =>
    have hmem := List.mem_of_find?_eq_some hfind
    have hcode : e.2 = code := by simpa using List.find?_some hfind
    have heq : e = (c, code) := List.inj_on_of_nodup_map t.codes_nodup hmem h hcode
    rw [heq]
    rfl

/-- One character is read back. -/
theorem readFrom_escapeChar {close : Char} (hclose : close ∈ t.codes.map Prod.fst) (c : Char)
    (rest : List Char) :
    t.readFrom close false (t.escapeChar c ++ rest) =
      (t.readFrom close false rest).map fun read => (c :: read.1, read.2) := by
  unfold escapeChar
  cases hlookup : t.codes.lookup c with
  | some code =>
    show t.readFrom close false (t.mark :: code :: rest) = _
    rw [readFrom, if_pos rfl, readFrom, decode?_code (lookup_eq_some_iff.mp hlookup)]
    cases t.readFrom close false rest <;> rfl
  | none =>
    have hplain := lookup_eq_none_iff.mp hlookup
    have hmark : c ≠ t.mark := fun h => hplain (h ▸ t.mark_special)
    have hopen : c ≠ close := fun h => hplain (h ▸ hclose)
    show t.readFrom close false (c :: rest) = _
    rw [readFrom, if_neg hmark, if_neg hopen]

/-- What is written is read back, up to the delimiter. -/
theorem readUntil_escape {close : Char} (hclose : close ∈ t.codes.map Prod.fst)
    (hmark : close ≠ t.mark) (s rest : List Char) :
    t.readUntil close (t.escape s ++ close :: rest) = some (s, rest) := by
  unfold readUntil
  induction s with
  | nil =>
    show t.readFrom close false (close :: rest) = _
    rw [readFrom, if_neg hmark, if_pos rfl]
  | cons c s ih =>
    have hsplit : t.escape (c :: s) ++ close :: rest =
        t.escapeChar c ++ (t.escape s ++ close :: rest) := by
      rw [← List.append_assoc]
      rfl
    rw [hsplit, readFrom_escapeChar hclose, ih]
    rfl

/-- A special character whose sign is no code does not occur. -/
theorem notMem_escape {c : Char} (hspecial : c ∈ t.codes.map Prod.fst) (hmark : c ≠ t.mark)
    (hcode : c ∉ t.codes.map Prod.snd) (s : List Char) : c ∉ t.escape s := by
  intro h
  obtain ⟨d, -, hd⟩ := List.mem_flatMap.mp h
  unfold escapeChar at hd
  cases hlookup : t.codes.lookup d with
  | some code =>
    rw [hlookup] at hd
    rcases List.mem_cons.mp hd with heq | hd
    · exact hmark heq
    · rw [List.mem_singleton.mp hd] at hcode
      exact hcode (List.mem_map_of_mem (lookup_eq_some_iff.mp hlookup))
  | none =>
    rw [hlookup] at hd
    rw [List.mem_singleton.mp hd] at hspecial
    exact lookup_eq_none_iff.mp hlookup hspecial

end EscapeTable

/-- To replace one character is to map each character. -/
theorem replaceFrom_singleton (c : Char) (new s : List Char) :
    replaceFrom [c] new 0 s = s.flatMap fun d => if d = c then new else [d] := by
  induction s with
  | nil => rfl
  | cons d s ih =>
    rw [List.flatMap_cons, ← ih, replaceFrom]
    by_cases h : d = c
    · subst h
      simp [List.isPrefixOf]
    · have hne : c ≠ d := fun heq => h heq.symm
      simp [List.isPrefixOf, h, hne]

end AitpPlayground.Lib
