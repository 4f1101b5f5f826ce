import Mathlib.Algebra.Group.Nat.Defs
import Mathlib.Data.List.DropRight
import AitpPlayground.Lib.Percent
import AitpPlayground.Lib.Py

/-!
# `AitpPlayground.Lib.Url`: the parts of a URL, and what host it names

The generic syntax: `scheme://authority`, and after the authority a path, a query or a fragment.
In the authority there may be a userinfo part before the host, and a port after it. The host is a
name, or an IPv6 address in brackets, which may end with a zone index.

A client that dials a name which is a number reads it as an IPv4 address in any of the forms of
`inet_aton`: one to four parts, each decimal, octal or hexadecimal.
-/

set_option autoImplicit false

namespace AitpPlayground.Lib

/-! ### Parts -/

/-- A character that ends an authority. -/
def isDelimiter (c : Char) : Bool := c == '/' || c == '?' || c == '#'

/-- A character that a scheme can have. -/
def isSchemeChar (c : Char) : Bool := c != ':' && !isDelimiter c

/-- The scheme and the authority of a URL that has both. -/
def schemeAuthority (url : List Char) : Option (List Char × List Char) :=
  let scheme := url.takeWhile isSchemeChar
  let rest := url.drop scheme.length
  if "://".toList.isPrefixOf rest then
    some (scheme, (rest.drop 3).takeWhile fun c => !isDelimiter c)
  else none

/-- The URLs that have a scheme and an authority. -/
theorem schemeAuthority_eq_some {url scheme authority : List Char} :
    schemeAuthority url = some (scheme, authority) ↔
      (∀ c ∈ scheme, isSchemeChar c = true) ∧
        ∃ rest, url = scheme ++ "://".toList ++ rest ∧
          authority = rest.takeWhile fun c => !isDelimiter c := by
  have hsep : "://".toList = [':', '/', '/'] := by decide
  unfold schemeAuthority
  constructor
  · intro h
    simp only at h
    split at h
    case isFalse => cases h
    case isTrue hbegins =>
      obtain ⟨rest, hrest⟩ := List.isPrefixOf_iff_prefix.mp hbegins
      cases h
      refine ⟨fun c hc => List.mem_takeWhile_imp hc, rest, ?_, ?_⟩
      · rw [List.append_assoc, hrest]
        exact (List.prefix_iff_eq_append.mp (List.takeWhile_prefix _)).symm
      · rw [← hrest, hsep]
        rfl
  · rintro ⟨hscheme, rest, rfl, rfl⟩
    have htake : (scheme ++ "://".toList ++ rest).takeWhile isSchemeChar = scheme := by
      rw [List.append_assoc, List.takeWhile_append_of_pos hscheme, hsep]
      exact List.append_nil scheme
    have hdrop : (scheme ++ "://".toList ++ rest).drop scheme.length = "://".toList ++ rest := by
      rw [List.append_assoc, List.drop_left]
    have hbegins : "://".toList.isPrefixOf ("://".toList ++ rest) = true :=
      List.isPrefixOf_iff_prefix.mpr (List.prefix_append ..)
    simp only [htake, hdrop, hbegins, if_true]
    rw [hsep]
    rfl

/-- An authority without its userinfo. -/
def hostPort (authority : List Char) : List Char := authority.rtakeWhile fun c => c != '@'

/-- A host. -/
inductive Host where
  | name (text : List Char)
  | literal (text : List Char)
deriving DecidableEq

/-- The host before a port. -/
def hostOf : List Char → Host
  | '[' :: rest => .literal (rest.takeWhile fun c => c != ']')
  | text => .name (text.takeWhile fun c => c != ':')

/-! ### Addresses -/

/-- The number that these digits write. -/
def ofDigits (base : Nat) : List Char → Option Nat
  | [] => none
  | digits => digits.foldl (fun acc c => do
      let n ← acc
      let d ← hexDigit c
      if d < base then some (base * n + d) else none) (some 0)

/-- A part of an IPv4 address: hexadecimal after `0x`, octal after another `0`. -/
def ipv4Part : List Char → Option Nat
  | '0' :: x :: digits =>
    if x = 'x' ∨ x = 'X' then ofDigits 16 digits else ofDigits 8 (x :: digits)
  | digits => ofDigits 10 digits

/-- The address of so many parts: all but the last are bytes. -/
def ipv4OfParts (parts : List Nat) : Option Nat :=
  match parts.reverse with
  | [] => none
  | last :: front =>
    let room := 256 ^ (4 - front.length)
    if front.length < 4 ∧ (∀ part ∈ front, part < 256) ∧ last < room then
      some (front.reverse.foldl (fun n part => 256 * n + part) 0 * room + last)
    else none

/-- The IPv4 address of a name. -/
def ipv4Of (name : List Char) : Option Nat :=
  ((name.splitOn '.').mapM ipv4Part).bind ipv4OfParts

/-- The address is in `127.0.0.0/8`. -/
def isLoopback4 (address : Nat) : Bool := address / 2 ^ 24 == 127

/-- A group of an IPv6 address. -/
def ipv6Group (text : List Char) : Option Nat :=
  if text.length ≤ 4 then ofDigits 16 text else none

/-- The groups of a part of an IPv6 address. Its last one can be an IPv4 address. -/
def ipv6Groups (text : List Char) : Option (List Nat) :=
  if text = [] then some []
  else
    let pieces := text.splitOn ':'
    match pieces.mapM ipv6Group with
    | some groups => some groups
    | none => do
      let groups ← pieces.dropLast.mapM ipv6Group
      let parts ← ((pieces.getLastD []).splitOn '.').mapM (ofDigits 10)
      if parts.length = 4 then
        let address ← ipv4OfParts parts
        some (groups ++ [address / 2 ^ 16, address % 2 ^ 16])
      else none

/-- What is before and after the first `::`. -/
def splitDouble : List Char → Option (List Char × List Char)
  | ':' :: ':' :: rest => some ([], rest)
  | c :: rest => (splitDouble rest).map fun parts => (c :: parts.1, parts.2)
  | [] => none

/-- An IPv6 literal without its zone index. An index is not empty and has no other `%`. -/
def withoutZone (literal : List Char) : Option (List Char) :=
  match splitOnce ['%'] literal with
  | none => some literal
  | some (address, zone) => if zone = [] ∨ '%' ∈ zone then none else some address

/-- The IPv6 address of a literal. The zone index says which interface to take, not which
address. -/
def ipv6Of (literal : List Char) : Option Nat := do
  let text ← withoutZone literal
  let groups ←
    match splitDouble text with
    | none => ipv6Groups text
    | some (before, after) => do
      let front ← ipv6Groups before
      let back ← ipv6Groups after
      if front.length + back.length < 8 then
        some (front ++ List.replicate (8 - front.length - back.length) 0 ++ back)
      else none
  if groups.length = 8 then some (groups.foldl (fun n group => 2 ^ 16 * n + group) 0) else none

/-- The address is `::1`, or an address of `127.0.0.0/8` as an IPv6 one. -/
def isLoopback6 (address : Nat) : Bool :=
  address == 1 || (address / 2 ^ 32 == 0xFFFF && isLoopback4 (address % 2 ^ 32))

/-- A host is the machine that dials it. -/
def Host.isLoopback : Host → Bool
  | .name text => text.map Char.toLower == "localhost".toList || (ipv4Of text).any isLoopback4
  | .literal text => (ipv6Of text).any isLoopback6

example : (hostOf "[::1%1]".toList).isLoopback = true := by decide

end AitpPlayground.Lib
