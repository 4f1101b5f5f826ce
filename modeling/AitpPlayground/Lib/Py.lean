import AitpPlayground.Lib.Dict
import Mathlib.Data.Rat.Defs
import Mathlib.Algebra.Order.Ring.Rat

/-!
# `AitpPlayground.Lib.Py`: the values and the exceptions of the Python language

The programs this development reads are written in Python. This module holds the part of
the language they need as data: floating-point numbers with NaN and the two infinities, the
values `json.loads` yields, the exceptions that cross a function boundary, and the
functions of the standard library that stay abstract.

A finite float is the rational it stands for. Every comparison with NaN is false, the
infinities are beyond every finite value, and an integer too large for a float raises
`OverflowError` when it meets one in an arithmetic operation (a comparison of the two is exact
and never raises). An operation takes the rounding of its exact result as an argument:
`PyFloat.fin` is exact arithmetic, `roundDouble` (`Lib.Double`) that of IEEE 754.

`PyLib` bundles library functions whose results the programs only pass on. A theorem that
takes a `PyLib` holds for every choice of them, so in particular for the real ones.
-/

set_option autoImplicit false

namespace AitpPlayground.Lib

/-! ### Numbers -/

/-- A float. -/
inductive PyFloat where
  /-- A finite value, exact. -/
  | fin (q : ℚ)
  | nan
  /-- `Infinity`, or `-Infinity` when `neg` is true. -/
  | inf (neg : Bool)
deriving DecidableEq, Repr

namespace PyFloat

/-- The comparison `x < y`. It is false when either side is NaN. -/
def lt : PyFloat → PyFloat → Bool
  | fin q, fin r => decide (q < r)
  | fin _, inf neg => !neg
  | inf neg, fin _ => neg
  | inf neg, inf neg' => neg && !neg'
  | nan, _ => false
  | _, nan => false

/-- Finite floats are compared as numbers. -/
@[simp] theorem lt_fin (q r : ℚ) : (fin q).lt (fin r) = decide (q < r) := rfl

/-- The comparison `x <= y`. It is false when either side is NaN. -/
def le : PyFloat → PyFloat → Bool
  | fin q, fin r => decide (q ≤ r)
  | fin _, inf neg => !neg
  | inf neg, fin _ => neg
  | inf neg, inf neg' => neg || !neg'
  | nan, _ => false
  | _, nan => false

/-- Finite floats are compared as numbers by `<=` too. -/
@[simp] theorem le_fin (q r : ℚ) : (fin q).le (fin r) = decide (q ≤ r) := rfl

/-- The comparison `x == y`. NaN is equal to nothing. -/
def eq : PyFloat → PyFloat → Bool
  | nan, _ => false
  | _, nan => false
  | x, y => decide (x = y)

/-- The sum `x + y`, rounded. -/
def add (round : ℚ → PyFloat) : PyFloat → PyFloat → PyFloat
  | fin q, fin r => round (q + r)
  | fin _, inf neg => inf neg
  | inf neg, fin _ => inf neg
  | inf neg, inf neg' => if neg = neg' then inf neg else nan
  | nan, _ => nan
  | _, nan => nan

/-- The difference `x - y`, rounded. -/
def sub (round : ℚ → PyFloat) : PyFloat → PyFloat → PyFloat
  | fin q, fin r => round (q - r)
  | fin _, inf neg => inf (!neg)
  | inf neg, fin _ => inf neg
  | inf neg, inf neg' => if neg = neg' then nan else inf neg
  | nan, _ => nan
  | _, nan => nan

/-- The absolute value `abs(x)`. -/
def abs : PyFloat → PyFloat
  | fin q => fin |q|
  | nan => nan
  | inf _ => inf false

end PyFloat

/-- A number of the language: an integer of any size, or a float. -/
inductive PyNum where
  | int (n : Int)
  | float (x : PyFloat)
deriving DecidableEq, Repr

/-- The value of a number, with the integers among the finite floats. Comparisons between
an integer and a float are exact, so they read this value. -/
def PyNum.value : PyNum → PyFloat
  | int n => .fin n
  | float x => x

/-- The least integer whose conversion to a float overflows: it rounds to `2 ^ 1024`. -/
@[irreducible] def floatOverflow : Int := 2 ^ 1024 - 2 ^ 970

/-! ### Exceptions -/

/-- An exception, by class, with its text. `runtimeError` also carries the `code`
attribute that a foreign library may set. -/
inductive PyErr where
  | valueError (msg : String) (code : Option String)
  | runtimeError (msg : String) (code : Option String)
  | typeError (msg : String)
  | keyError (key : String)
  | attributeError (msg : String)
  | overflowError (msg : String)
  | recursionError (msg : String)
  /-- An exception of the module `sqlite3`. -/
  | sqliteError (msg : String)
deriving DecidableEq, Repr

/-- The text `str(exc)`. -/
def PyErr.text : PyErr → String
  | valueError msg _ => msg
  | runtimeError msg _ => msg
  | typeError msg => msg
  | keyError key => "'" ++ key ++ "'"
  | attributeError msg => msg
  | overflowError msg => msg
  | recursionError msg => msg
  | sqliteError msg => msg

/-- The call raises `ValueError`. -/
def RaisesValueError {α : Type} (result : Except PyErr α) : Prop :=
  ∃ msg code, result = .error (.valueError msg code)

/-- A sequence of two calls that returns: both return. -/
theorem except_bind_eq_ok {ε α β : Type} {x : Except ε α} {f : α → Except ε β} {b : β} :
    x >>= f = .ok b ↔ ∃ a, x = .ok a ∧ f a = .ok b := by
  cases x <;> simp [bind, Except.bind]

/-- A sequence of two calls that raises: the first one does, or the second. -/
theorem except_bind_eq_error {ε α β : Type} {x : Except ε α} {f : α → Except ε β} {e : ε} :
    x >>= f = .error e ↔ x = .error e ∨ ∃ a, x = .ok a ∧ f a = .error e := by
  cases x <;> simp [bind, Except.bind]

/-- A sequence of two calls raises what one of them can raise. -/
theorem except_bind_raises {ε α β : Type} {P : ε → Prop} {x : Except ε α} {f : α → Except ε β}
    (hx : ∀ e, x = .error e → P e) (hf : ∀ a e, f a = .error e → P e) {e : ε}
    (h : x >>= f = .error e) : P e := by
  rcases except_bind_eq_error.mp h with h | ⟨a, -, h⟩
  · exact hx e h
  · exact hf a e h

/-- A comprehension returns when each of its calls does. -/
theorem except_mapM_eq_ok {ε α β : Type} {f : α → Except ε β} {xs : List α} {ys : List β} :
    xs.mapM f = .ok ys ↔ List.Forall₂ (fun x y => f x = .ok y) xs ys := by
  induction xs generalizing ys with
  | nil => cases ys <;> simp [pure, Except.pure]
  | cons x xs ih =>
    rw [List.mapM_cons, except_bind_eq_ok, List.forall₂_cons_left_iff]
    constructor
    · rintro ⟨y, hy, hrest⟩
      obtain ⟨ys', hys', heq⟩ := except_bind_eq_ok.mp hrest
      cases heq
      exact ⟨y, ys', hy, ih.mp hys', rfl⟩
    · rintro ⟨y, ys', hy, hys', rfl⟩
      exact ⟨y, hy, except_bind_eq_ok.mpr ⟨ys', ih.mpr hys', rfl⟩⟩

/-- A comprehension raises what the first call that does not return raises. -/
theorem except_mapM_eq_error {ε α β : Type} {f : α → Except ε β} {xs : List α} {e : ε} :
    xs.mapM f = .error e ↔
      ∃ before x after, xs = before ++ x :: after ∧ (∀ y ∈ before, ∃ b, f y = .ok b) ∧
        f x = .error e := by
  induction xs with
  | nil => simp [pure, Except.pure]
  | cons x xs ih =>
    rw [List.mapM_cons, except_bind_eq_error]
    constructor
    · rintro (hx | ⟨y, hy, hrest⟩)
      · exact ⟨[], x, xs, rfl, by simp, hx⟩
      · rcases except_bind_eq_error.mp hrest with hxs | ⟨ys, -, hpure⟩
        · obtain ⟨before, z, after, rfl, hbefore, hz⟩ := ih.mp hxs
          refine ⟨x :: before, z, after, rfl, ?_, hz⟩
          intro w hw
          rcases List.mem_cons.mp hw with rfl | hw
          · exact ⟨y, hy⟩
          · exact hbefore w hw
        · cases hpure
    · rintro ⟨before, z, after, heq, hbefore, hz⟩
      cases before with
      | nil =>
        cases heq
        exact .inl hz
      | cons w before =>
        cases heq
        obtain ⟨y, hy⟩ := hbefore x List.mem_cons_self
        refine .inr ⟨y, hy, except_bind_eq_error.mpr (.inl (ih.mpr ?_))⟩
        exact ⟨before, z, after, rfl, fun v hv => hbefore v (List.mem_cons_of_mem _ hv), hz⟩

/-- A number as the float operand of an arithmetic operation. -/
def PyNum.toFloat (n : PyNum) (round : ℚ → PyFloat := .fin) : Except PyErr PyFloat :=
  match n with
  | int n =>
    if floatOverflow ≤ |n| then .error (.overflowError "int too large to convert to float")
    else .ok (round n)
  | float x => .ok x

/-- A number that converts to a float converts to its own value. -/
theorem PyNum.toFloat_eq_ok {n : PyNum} {x : PyFloat} (h : n.toFloat = .ok x) : n.value = x := by
  cases n with
  | int n =>
    simp only [PyNum.toFloat] at h
    split at h
    · cases h
    · cases h
      rfl
  | float y =>
    cases h
    rfl

/-- Only an integer can be too large for a float. -/
theorem PyNum.toFloat_raises_iff {n : PyNum} {round : ℚ → PyFloat} :
    (∃ exc, n.toFloat round = .error exc) ↔ ∃ k, n = .int k ∧ floatOverflow ≤ |k| := by
  cases n with
  | int k =>
    by_cases h : floatOverflow ≤ |k| <;> simp [PyNum.toFloat, h]
  | float x => simp [PyNum.toFloat]

/-- The sum of a number and a tolerance, which is an int when it is whole. Two ints add up
exactly. -/
def PyNum.addTolerance (n : PyNum) (tol : ℚ) (round : ℚ → PyFloat) : PyFloat :=
  match n with
  | int k => if tol.isInt then .fin (k + tol) else (round k).add round (round tol)
  | float x => x.add round (round tol)

/-! ### JSON values -/

/-- A value of `json.loads`. An object keeps its members as `json.loads` lists them. -/
inductive Json where
  | null
  | bool (b : Bool)
  | num (n : PyNum)
  | str (s : String)
  | arr (items : List Json)
  | obj (members : List (String × Json))

namespace Json

mutual

/-- Equality of JSON values is decidable. -/
def eqDec : (a b : Json) → Decidable (a = b)
  | .null, .null => isTrue rfl
  | .bool a, .bool b =>
    if h : a = b then isTrue (h ▸ rfl) else isFalse fun e => h (Json.bool.inj e)
  | .num a, .num b =>
    if h : a = b then isTrue (h ▸ rfl) else isFalse fun e => h (Json.num.inj e)
  | .str a, .str b =>
    if h : a = b then isTrue (h ▸ rfl) else isFalse fun e => h (Json.str.inj e)
  | .arr a, .arr b =>
    match eqDecItems a b with
    | isTrue h => isTrue (h ▸ rfl)
    | isFalse h => isFalse fun e => h (Json.arr.inj e)
  | .obj a, .obj b =>
    match eqDecMembers a b with
    | isTrue h => isTrue (h ▸ rfl)
    | isFalse h => isFalse fun e => h (Json.obj.inj e)
  | .null, .bool _ | .null, .num _ | .null, .str _ | .null, .arr _ | .null, .obj _
  | .bool _, .null | .bool _, .num _ | .bool _, .str _ | .bool _, .arr _ | .bool _, .obj _
  | .num _, .null | .num _, .bool _ | .num _, .str _ | .num _, .arr _ | .num _, .obj _
  | .str _, .null | .str _, .bool _ | .str _, .num _ | .str _, .arr _ | .str _, .obj _
  | .arr _, .null | .arr _, .bool _ | .arr _, .num _ | .arr _, .str _ | .arr _, .obj _
  | .obj _, .null | .obj _, .bool _ | .obj _, .num _ | .obj _, .str _ | .obj _, .arr _ =>
    isFalse nofun

/-- Equality of the items of two arrays. -/
def eqDecItems : (a b : List Json) → Decidable (a = b)
  | [], [] => isTrue rfl
  | x :: xs, y :: ys =>
    match eqDec x y, eqDecItems xs ys with
    | isTrue h, isTrue h' => isTrue (h ▸ h' ▸ rfl)
    | isFalse h, _ => isFalse fun e => h (List.cons.inj e).1
    | _, isFalse h => isFalse fun e => h (List.cons.inj e).2
  | [], _ :: _ | _ :: _, [] => isFalse nofun

/-- Equality of the members of two objects. -/
def eqDecMembers : (a b : List (String × Json)) → Decidable (a = b)
  | [], [] => isTrue rfl
  | (k, x) :: xs, (l, y) :: ys =>
    match instDecidableEqString k l, eqDec x y, eqDecMembers xs ys with
    | isTrue h, isTrue h', isTrue h'' => isTrue (h ▸ h' ▸ h'' ▸ rfl)
    | isFalse h, _, _ => isFalse fun e => h (Prod.mk.inj (List.cons.inj e).1).1
    | _, isFalse h, _ => isFalse fun e => h (Prod.mk.inj (List.cons.inj e).1).2
    | _, _, isFalse h => isFalse fun e => h (List.cons.inj e).2
  | [], _ :: _ | _ :: _, [] => isFalse nofun

end

instance : DecidableEq Json := eqDec

instance : Inhabited Json := ⟨.null⟩

/-- The members of an object as a dictionary: of two members with one name, the later. -/
def dict? : Json → Option (Dict String Json)
  | .obj members => some (Dict.ofList members)
  | _ => none

/-- The truth value of `if x`. -/
def truthy : Json → Bool
  | .null => false
  | .bool b => b
  | .num n => !decide (n.value = .fin 0)
  | .str s => !decide (s = "")
  | .arr items => !items.isEmpty
  | .obj members => !members.isEmpty

end Json

namespace Json

/-- The subscript `x[key]` with a string. -/
def item (key : String) (x : Json) : Except PyErr Json :=
  match x.dict? with
  | none => .error (.typeError "indices must be integers or slices, not str")
  | some d =>
    match d.get? key with
    | some value => .ok value
    | none => .error (.keyError key)

/-- The method call `x.get(key)`. -/
def member (key : String) (x : Json) : Except PyErr Json :=
  match x.dict? with
  | none => .error (.attributeError "object has no attribute 'get'")
  | some d => .ok ((d.get? key).getD .null)

/-- The method call `x.get(key, default)`. -/
def memberOr (key : String) (x default : Json) : Except PyErr Json :=
  match x.dict? with
  | none => .error (.attributeError "object has no attribute 'get'")
  | some d => .ok ((d.get? key).getD default)

/-- The assignment `x[key] = value`. -/
def setItem (key : String) (x value : Json) : Except PyErr Json :=
  match x.dict? with
  | none => .error (.typeError "object does not support item assignment")
  | some d => .ok (.obj (d.set key value).entries)

/-- The items of `for e in x`. An object yields its keys, and a string its characters. -/
def iter : Json → Except PyErr (List Json)
  | .arr items => .ok items
  | .obj members => .ok ((Dict.ofList members).keys.map .str)
  | .str s => .ok (s.toList.map fun c => .str (String.singleton c))
  | .null | .bool _ | .num _ => .error (.typeError "object is not iterable")

end Json

/-! ### Equality -/

namespace Json

/-- The value of a boolean or a number. `True == 1 == 1.0` holds. -/
def number? : Json → Option PyFloat
  | .bool b => some (.fin b.toNat)
  | .num n => some n.value
  | _ => none

mutual

/-- The comparison of two items of a container, which are equal when they are one object.
`json.loads` yields one and the same NaN every time, so there NaN is equal to itself. -/
def same : Json → Json → Bool
  | .null, .null => true
  | .str a, .str b => decide (a = b)
  | .arr a, .arr b => sameItems a b
  -- The same keys, in any order, with the same values.
  | .obj a, .obj b => sameMembers a b && b.all fun e => ((Dict.ofList a).get? e.1).isSome
  | .bool a, b => decide (b.number? = some (.fin a.toNat))
  | .num a, b => decide (b.number? = some a.value)
  | _, _ => false

/-- The comparison of two lists. -/
def sameItems : List Json → List Json → Bool
  | [], [] => true
  | x :: xs, y :: ys => same x y && sameItems xs ys
  | _, _ => false

/-- Every key of the first list is in the second, with the same value. Of two members with
one name, the later one counts. -/
def sameMembers : List (String × Json) → List (String × Json) → Bool
  | [], _ => true
  | (k, x) :: rest, b =>
    (rest.any (fun e => decide (e.1 = k)) ||
      match (Dict.ofList b).get? k with
      | some y => same x y
      | none => false) && sameMembers rest b

end

/-- The comparison `a == b`. -/
def pyEq (a b : Json) : Bool :=
  match a.number?, b.number? with
  | some x, some y => x.eq y
  | _, _ => same a b

mutual

/-- Every value is the same as itself. -/
theorem same_refl : ∀ j : Json, same j j = true
  | .null => rfl
  | .bool _ => by simp [same, number?]
  | .num _ => by simp [same, number?]
  | .str _ => by simp [same]
  | .arr items => by
    rw [same]
    exact sameItems_refl items
  | .obj members => by
    have hkeys : members.all (fun e => ((Dict.ofList members).get? e.1).isSome) = true := by
      rw [List.all_eq_true]
      intro e he
      rw [← Dict.mem_keys_iff]
      exact Dict.mem_keys_ofList he
    have hmembers : sameMembers members ([] ++ members) = true := sameMembers_refl [] members
    rw [List.nil_append] at hmembers
    rw [same, hmembers, hkeys]
    rfl

/-- A list of values is the same as itself. -/
theorem sameItems_refl : ∀ items : List Json, sameItems items items = true
  | [] => rfl
  | x :: xs => by
    rw [sameItems, same_refl x, sameItems_refl xs]
    rfl

/-- The last members of a list have the values that the list gives them. -/
theorem sameMembers_refl : ∀ first rest : List (String × Json),
    sameMembers rest (first ++ rest) = true
  | _, [] => rfl
  | first, (k, x) :: rest => by
    have htail : sameMembers rest (first ++ (k, x) :: rest) = true := by
      have h := sameMembers_refl (first ++ [(k, x)]) rest
      rwa [List.append_assoc, List.singleton_append] at h
    rw [sameMembers, htail, Bool.and_true]
    by_cases hk : ∃ e ∈ rest, e.1 = k
    · simp only [Bool.or_eq_true, List.any_eq_true, decide_eq_true_eq]
      exact .inl hk
    · have hget : (Dict.ofList (first ++ (k, x) :: rest)).get? k = some x :=
        Dict.get?_ofList_last fun e he heq => hk ⟨e, he, heq⟩
      rw [hget]
      simp only [same_refl x, Bool.or_true]

end

/-- A value is equal to itself, unless it is NaN. -/
theorem pyEq_self {j : Json} (h : j ≠ .num (.float .nan)) : pyEq j j = true := by
  cases j with
  | bool b => simp [pyEq, number?, PyFloat.eq]
  | num n =>
    cases n with
    | int n => simp [pyEq, number?, PyNum.value, PyFloat.eq]
    | float x =>
      cases x with
      | nan => exact absurd rfl h
      | fin q => simp [pyEq, number?, PyNum.value, PyFloat.eq]
      | inf neg => simp [pyEq, number?, PyNum.value, PyFloat.eq]
  | null => exact same_refl _
  | str s => exact same_refl _
  | arr items => exact same_refl _
  | obj members => exact same_refl _

end Json

/-- A key of a Python dictionary that came out of a JSON text. `1`, `1.0` and `True` are one
key. -/
inductive PyKey where
  | none
  | num (x : PyFloat)
  | str (s : String)
deriving DecidableEq

/-- The key that a JSON value is: an array and an object have no hash. -/
def Json.hashKey : Json → Except PyErr PyKey
  | .null => .ok .none
  | .bool b => .ok (.num (.fin b.toNat))
  | .num n => .ok (.num n.value)
  | .str s => .ok (.str s)
  | .arr _ => .error (.typeError "unhashable type: 'list'")
  | .obj _ => .error (.typeError "unhashable type: 'dict'")

/-- A dictionary as a JSON object. -/
def Dict.toJson (d : Dict String Json) : Json := .obj d.entries

/-! ### Texts -/

/-- The characters `str.isspace` accepts. -/
def pySpaces : List Nat :=
  [0x09, 0x0a, 0x0b, 0x0c, 0x0d, 0x1c, 0x1d, 0x1e, 0x1f, 0x20, 0x85, 0xa0, 0x1680,
   0x2000, 0x2001, 0x2002, 0x2003, 0x2004, 0x2005, 0x2006, 0x2007, 0x2008, 0x2009, 0x200a,
   0x2028, 0x2029, 0x202f, 0x205f, 0x3000]

/-- `s.strip()` on the characters of `s`. -/
def strip (s : List Char) : List Char :=
  let dropSpaces (l : List Char) := l.dropWhile fun c => pySpaces.contains c.toNat
  (dropSpaces (dropSpaces s).reverse).reverse

/-- `s.split(sep, 1)`, for a `sep` that occurs in `s`: what is before and after its first
occurrence. -/
def splitOnce (sep : List Char) : List Char → Option (List Char × List Char)
  | [] => none
  | c :: rest =>
    if sep.isPrefixOf (c :: rest) then some ([], (c :: rest).drop sep.length)
    else (splitOnce sep rest).map fun parts => (c :: parts.1, parts.2)

/-- A text is split at a character that does not occur before it. -/
theorem splitOnce_append {sep : Char} {l : List Char} (h : sep ∉ l) (rest : List Char) :
    splitOnce [sep] (l ++ sep :: rest) = some (l, rest) := by
  induction l with
  | nil => simp [splitOnce]
  | cons c l ih =>
    have hc : sep ≠ c := fun heq => h (heq ▸ List.mem_cons_self ..)
    have hl : sep ∉ l := fun hmem => h (List.mem_cons_of_mem _ hmem)
    rw [List.cons_append, splitOnce, ih hl]
    simp [List.isPrefixOf, hc]

/-- Without a separator there is no split. -/
theorem splitOnce_eq_none {sep : Char} {s : List Char} (h : sep ∉ s) : splitOnce [sep] s = none := by
  induction s with
  | nil => rfl
  | cons c s ih =>
    have hc : sep ≠ c := fun heq => h (heq ▸ List.mem_cons_self ..)
    rw [splitOnce, ih fun hmem => h (List.mem_cons_of_mem _ hmem)]
    simp [List.isPrefixOf, hc]

/-- Two texts that are split at one character have the same parts. -/
theorem append_sep_inj {sep : Char} {l l' rest rest' : List Char} (h : sep ∉ l) (h' : sep ∉ l') :
    l ++ sep :: rest = l' ++ sep :: rest' ↔ l = l' ∧ rest = rest' := by
  constructor
  · intro heq
    have hsplit := splitOnce_append h rest
    rw [heq, splitOnce_append h'] at hsplit
    cases hsplit
    exact ⟨rfl, rfl⟩
  · rintro ⟨rfl, rfl⟩
    rfl

/-- `s.replace(old, new, 1)`. -/
def replaceOnce (old new s : String) : String :=
  match splitOnce old.toList s.toList with
  | some (before, rest) => String.ofList (before ++ new.toList ++ rest)
  | none => s

/-- The loop of `s.replace(old, new)`, with the characters of the last occurrence that are
still to be skipped. -/
def replaceFrom (old new : List Char) : Nat → List Char → List Char
  | _, [] => []
  | n + 1, _ :: rest => replaceFrom old new n rest
  | 0, c :: rest =>
    if old.isPrefixOf (c :: rest) then new ++ replaceFrom old new (old.length - 1) rest
    else c :: replaceFrom old new 0 rest

/-- `s.replace(old, new)`, for an `old` that is not empty. -/
def replaceAll (old new s : String) : String :=
  String.ofList (replaceFrom old.toList new.toList 0 s.toList)

/-- A text that is not empty, `s or None`. -/
def nonEmpty (s : List Char) : Option String := if s = [] then none else some (String.ofList s)

/-! ### The standard library -/

/-- The functions of the standard library that stay abstract. -/
structure PyLib where
  /-- `json.loads` on text. -/
  jsonLoads : String → Except PyErr Json
  /-- `json.loads` on bytes. -/
  jsonLoadsBytes : List UInt8 → Except PyErr Json
  /-- `json.dumps`. -/
  jsonDumps : Json → String
  /-- `base64.urlsafe_b64decode` on text. -/
  urlsafeB64decode : String → Except PyErr (List UInt8)
  /-- `base64.urlsafe_b64encode` of bytes, as text. -/
  urlsafeB64encode : List UInt8 → String
  /-- `bytes.decode("utf-8")`. -/
  utf8Decode : List UInt8 → Except PyErr String
  /-- `s.encode("utf-8")` does not raise. It raises for a text with a lone surrogate. -/
  utf8Encodes : String → Bool
  /-- `str(uuid.UUID(s))`. -/
  uuidStr : String → Except PyErr String
  /-- `int(s)` on text. -/
  intOfStr : String → Except PyErr Int
  /-- `float(s)` on text. -/
  floatOfStr : String → Except PyErr PyFloat
  /-- `str(x)` and `f"{x}"`. -/
  strOf : Json → String
  /-- `repr(x)` and `f"{x!r}"`. -/
  reprOf : Json → String

/-- A library that refuses every text. Concrete runs are evaluated over copies of it that
answer the texts of the run. -/
def PyLib.refusing : PyLib where
  jsonLoads _ := .error (.valueError "Expecting value" none)
  jsonLoadsBytes _ := .error (.valueError "Expecting value" none)
  jsonDumps _ := ""
  urlsafeB64decode _ := .error (.valueError "Incorrect padding" none)
  urlsafeB64encode _ := ""
  utf8Decode _ := .error (.valueError "invalid start byte" none)
  utf8Encodes _ := true
  uuidStr _ := .error (.valueError "badly formed hexadecimal UUID string" none)
  intOfStr _ := .error (.valueError "invalid literal for int() with base 10" none)
  floatOfStr _ := .error (.valueError "could not convert string to float" none)
  strOf _ := ""
  reprOf _ := ""

/-- The library `json.loads` of which reads the texts of a table, and `json.dumps` of which
writes them. -/
def PyLib.reading (texts : List (String × Json)) : PyLib :=
  { PyLib.refusing with
      jsonLoads := fun s =>
        match texts.lookup s with
        | some value => .ok value
        | none => .error (.valueError "Expecting value" none)
      jsonDumps := fun j =>
        match texts.find? fun e => decide (e.2 = j) with
        | some e => e.1
        | none => "" }

namespace PyLib

/-- `json.loads` reads this value back from what `json.dumps` wrote. -/
def RoundTrips (py : PyLib) (j : Json) : Prop := py.jsonLoads (py.jsonDumps j) = .ok j

instance (py : PyLib) (j : Json) : Decidable (py.RoundTrips j) :=
  match h : py.jsonLoads (py.jsonDumps j) with
  | .ok v =>
    if hv : v = j then isTrue (h.trans (hv ▸ rfl))
    else isFalse fun hj => hv (Except.ok.inj (h.symm.trans hj))
  | .error _ => isFalse fun hj => nomatch h.symm.trans hj

/-- ASCII texts encode. -/
def EncodesAscii (py : PyLib) : Prop :=
  ∀ s : String, (∀ c ∈ s.toList, c.toNat < 128) → py.utf8Encodes s = true

/-- `int(x)` on a JSON value. -/
def int (py : PyLib) : Json → Except PyErr Int
  | .bool b => .ok b.toNat
  | .num (.int n) => .ok n
  | .num (.float (.fin q)) => .ok (if 0 ≤ q then q.floor else q.ceil)
  | .num (.float .nan) => .error (.valueError "cannot convert float NaN to integer" none)
  | .num (.float (.inf _)) => .error (.overflowError "cannot convert float infinity to integer")
  | .str s => py.intOfStr s
  | .null | .arr _ | .obj _ =>
    .error (.typeError "int() argument must be a string, a bytes-like object or a real number")

/-- `float(x)` on a JSON value. -/
def float (py : PyLib) : Json → Except PyErr PyFloat
  | .bool b => .ok (.fin b.toNat)
  | .num n => n.toFloat
  | .str s => py.floatOfStr s
  | .null | .arr _ | .obj _ =>
    .error (.typeError "float() argument must be a string or a real number")

/-- The exceptions that the documentation names. `json.loads` also gives up on a text that is
nested too deeply. -/
structure Documented (py : PyLib) : Prop where
  uuidStr : ∀ {s exc}, py.uuidStr s = .error exc → ∃ msg code, exc = .valueError msg code
  intOfStr : ∀ {s exc}, py.intOfStr s = .error exc → ∃ msg code, exc = .valueError msg code
  jsonLoads : ∀ {s exc}, py.jsonLoads s = .error exc →
    (∃ msg code, exc = .valueError msg code) ∨ ∃ msg, exc = .recursionError msg
  jsonLoadsBytes : ∀ {raw exc}, py.jsonLoadsBytes raw = .error exc →
    (∃ msg code, exc = .valueError msg code) ∨ ∃ msg, exc = .recursionError msg
  urlsafeB64decode : ∀ {s exc}, py.urlsafeB64decode s = .error exc →
    ∃ msg code, exc = .valueError msg code
  utf8Decode : ∀ {raw exc}, py.utf8Decode raw = .error exc → ∃ msg code, exc = .valueError msg code

end PyLib

end AitpPlayground.Lib
