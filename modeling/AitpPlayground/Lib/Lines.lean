import Mathlib.Data.List.Basic

/-!
# `AitpPlayground.Lib.Lines`: the lines of a text

`splitlines` is that of Python's `str`: it ends a line at each of a set of characters, and takes
`\r\n` for one end. `textLines` are the lines that are not empty. They do not depend on how the
ends of the lines are paired up, so that those of a text that is put together from parts, with
a newline after each, are those of its parts (`textLines_joinLines`).
-/

set_option autoImplicit false

namespace AitpPlayground.Lib

/-- The characters that end a line. -/
def lineBreaks : List Nat :=
  [0x0a, 0x0b, 0x0c, 0x0d, 0x1c, 0x1d, 0x1e, 0x85, 0x2028, 0x2029]

/-- `s.splitlines()`, with the line so far. -/
def splitlines (line : List Char) : List Char → List (List Char)
  | [] => if line = [] then [] else [line]
  | '\r' :: '\n' :: rest => line :: splitlines [] rest
  | c :: rest =>
    if c.toNat ∈ lineBreaks then line :: splitlines [] rest else splitlines (line ++ [c]) rest

/-- `[line for line in s.splitlines() if line]`. -/
def textLines (s : String) : List String :=
  ((splitlines [] s.toList).filter fun line => decide (line ≠ [])).map String.ofList

/-- `"\n".join(lines) + "\n"`, for lines of which there is one at least. -/
def joinLines (lines : List String) : String := String.join (lines.map fun line => line ++ "\n")

/-! ### Without empty lines -/

/-- The lines that are not empty, with each end of a line on its own. -/
def fields (line : List Char) : List Char → List (List Char)
  | [] => if line = [] then [] else [line]
  | c :: rest =>
    if c.toNat ∈ lineBreaks then (if line = [] then [] else [line]) ++ fields [] rest
    else fields (line ++ [c]) rest

/-- The first line is kept when it is not empty. -/
theorem filter_cons_line (line : List Char) (rest : List (List Char)) :
    (line :: rest).filter (fun line => decide (line ≠ [])) =
      (if line = [] then [] else [line]) ++ rest.filter fun line => decide (line ≠ []) := by
  by_cases h : line = [] <;> simp [h]

/-- The non-empty pieces of `splitlines` are the fields. -/
theorem filter_splitlines (line text : List Char) :
    (splitlines line text).filter (fun line => decide (line ≠ [])) = fields line text := by
  fun_induction splitlines line text with
  | case1 => simp [fields]
  | case2 line hline => simp [fields, hline]
  | case3 line rest ih =>
    rw [filter_cons_line, ih]
    simp [fields, lineBreaks]
  | case4 line c rest hpair hbreak ih =>
    rw [filter_cons_line, ih, fields, if_pos hbreak]
  | case5 line c rest hpair hbreak ih => rw [ih, fields, if_neg hbreak]

/-- A line feed ends a field. -/
theorem fields_append_newline (line a b : List Char) :
    fields line (a ++ '\n' :: b) = fields line a ++ fields [] b := by
  induction a generalizing line with
  | nil => simp [fields, lineBreaks]
  | cons c a ih =>
    rw [List.cons_append, fields, fields]
    split
    · rw [ih, List.append_assoc]
    · exact ih _

/-- The lines of two texts with a line feed between them. -/
theorem textLines_append_newline (a b : String) :
    textLines (a ++ "\n" ++ b) = textLines a ++ textLines b := by
  unfold textLines
  have hlist : (a ++ "\n" ++ b).toList = a.toList ++ '\n' :: b.toList := by simp
  rw [filter_splitlines, filter_splitlines, filter_splitlines, hlist, fields_append_newline,
    List.map_append]

/-- The lines of a text that is put together from lines. -/
theorem textLines_joinLines (lines : List String) :
    textLines (joinLines lines) = lines.flatMap textLines := by
  unfold joinLines
  induction lines with
  | nil => rfl
  | cons line lines ih =>
    rw [List.map_cons, String.join_cons, textLines_append_newline, ih, List.flatMap_cons]

/-- A text without ends of lines is one line. -/
theorem textLines_of_no_break {s : String} (hne : s ≠ "")
    (h : ∀ c ∈ s.toList, c.toNat ∉ lineBreaks) : textLines s = [s] := by
  have hfields : ∀ (text line : List Char), (∀ c ∈ text, c.toNat ∉ lineBreaks) →
      line ++ text ≠ [] → fields line text = [line ++ text] := by
    intro text
    induction text with
    | nil =>
      intro line _ hline
      rw [List.append_nil] at hline ⊢
      rw [fields, if_neg hline]
    | cons c text ih =>
      intro line hbreak hline
      rw [fields, if_neg (hbreak c (List.mem_cons_self ..)),
        ih _ (fun c hc => hbreak c (List.mem_cons_of_mem _ hc)) (by simp)]
      simp
  unfold textLines
  rw [filter_splitlines, hfields s.toList [] h (by simpa using hne)]
  simp

end AitpPlayground.Lib
