import AitpPlayground.Lib.Py
import AitpPlayground.Lib.Regex

/-!
# `AitpPlayground.Cli.New`: references of scenarios, and the scaffold of a new one

`_parse_scenario_ref` (`src/aitp_playground/cli.py`) splits `<pack>/<scenario>@<version>` at the
first `@` and the first `/` before it, and matches each part with a pattern. `cmd_new` makes
paths of the parts and creates the files that are not there.

A path is the list of its components, a `/` at the start of an absolute one included, and a file
is what it is called. What is written to the files and to the terminal is left out.
-/

set_option autoImplicit false

namespace AitpPlayground.Cli

open AitpPlayground.Lib
open AitpPlayground.Lib.Regex

/-! ### Patterns -/

/-- `[a-z]`. -/
def lowerLetters : List Char := charRange 'a' 'z'

/-- `0-9`. -/
def asciiDigits : List Char := charRange '0' '9'

/-- `[a-z0-9]`. -/
def slugChars : List Char := lowerLetters ++ asciiDigits

/-- `_KEBAB`, without its `$`. -/
def kebab : RegularExpression Char :=
  oneOf lowerLetters * (oneOf slugChars).star * (.char '-' * oneOrMore (oneOf slugChars)).star

/-- `_SEMVER`, without its `$`. -/
def semver : RegularExpression Char :=
  oneOrMore (oneOf decimals) * .char '.' * oneOrMore (oneOf decimals) * .char '.' *
    oneOrMore (oneOf decimals)

/-! ### References -/

/-- The text `f"{s!r}"`. -/
def reprText (py : PyLib) (s : List Char) : String := py.reprOf (.str (String.ofList s))

/-- What the assignment `a, b = s.split(sep, 1)` gives or raises. -/
def splitPair (sep : Char) (s : List Char) : Except PyErr (List Char × List Char) :=
  match splitOnce [sep] s with
  | some parts => .ok parts
  | none => .error (.valueError "not enough values to unpack (expected 2, got 1)" none)

/-- The check of a part by a pattern. -/
def checkPart (py : PyLib) (pattern : RegularExpression Char) (message : String) (s : List Char) :
    Except PyErr Unit :=
  if reMatch pattern s then .ok ()
  else .error (.valueError (message ++ ": " ++ reprText py s) none)

/-- `_parse_scenario_ref`. -/
def parseScenarioRef (py : PyLib) (ref : String) : Except PyErr (String × String × String) :=
  if '@' ∉ ref.toList ∨ '/' ∉ ref.toList then
    .error (.valueError ("expected <pack>/<scenario>@<version>, got " ++ py.reprOf (.str ref)) none)
  else do
    let (head, version) ← splitPair '@' ref.toList
    let (pack, scenario) ← splitPair '/' head
    checkPart py kebab "pack slug must be kebab-case" pack
    checkPart py kebab "scenario slug must be kebab-case" scenario
    checkPart py semver "version must be MAJOR.MINOR.PATCH" version
    pure (String.ofList pack, String.ofList scenario, String.ofList version)

/-! ### The scaffold -/

/-- `path / segment`. A segment can have slashes in it, and one at its start leaves the path. -/
def joinPath (path : List String) (segment : String) : List String :=
  let parts := ((segment.toList.splitOn '/').filter fun part => part ≠ [] ∧ part ≠ ['.']).map
    String.ofList
  if segment.toList.head? = some '/' then "/" :: parts else path ++ parts

/-- `cmd_new`: its exit code, and the files it creates. `present` are the files that are there
before. -/
def cmdNew (py : PyLib) (root : List String) (present : List String → Bool) (scenarioRef : String) :
    Except PyErr (Nat × List (List String)) :=
  match parseScenarioRef py scenarioRef with
  | .error (.valueError _ _) => .ok (2, [])
  | .error exc => .error exc
  | .ok (pack, scenario, version) =>
    let packDir := joinPath root pack
    let scenarioDir := joinPath (joinPath packDir scenario) version
    let scenarioFile := joinPath scenarioDir "scenario.yaml"
    let packFile := joinPath packDir "pack.yaml"
    if present scenarioFile then .ok (1, [])
    else .ok (0, (if present packFile then [] else [packFile]) ++ [scenarioFile])

end AitpPlayground.Cli
