import AitpPlayground.Agents.Llm
import AitpPlayground.Lib.Mask
import Mathlib.Data.List.SplitOn

/-!
# `AitpPlayground.Agents.Redaction`: secrets in the text of an error

`redact_secrets` (`agents/base/llm.py`) takes the values of four environment variables out of a
text, one after the other, and then everything that looks like a key.

`re.sub` goes through the text from left to right. The two alternatives of the pattern end with
a repetition, and nothing follows it, so the longest run is what they match.
-/

set_option autoImplicit false

namespace AitpPlayground.Agents

open AitpPlayground.Lib

/-- `_SECRET_ENV_VARS`. -/
def secretEnvVars : List String :=
  ["OPENAI_API_KEY", "ANTHROPIC_API_KEY", "PLAYGROUND_API_KEY", "CP_API_KEY"]

/-- What takes the place of a secret. -/
def redacted : List Char := '[' :: "redacted".toList ++ [']']

/-- The values of a variable, `(os.environ.get(name) or "").split(",")`, each stripped. -/
def listedValues (environ : String → Option String) (name : String) : List (List Char) :=
  (((environ name).getD "").toList.splitOn ',').map strip

/-- The values that are long enough to be replaced, in the order of the loop. -/
def secretValues (environ : String → Option String) : List (List Char) :=
  (secretEnvVars.flatMap (listedValues environ)).filter fun value => decide (8 ≤ value.length)

/-- `A-Z`, `a-z` and `0-9`. -/
def isAlnum (c : Char) : Bool := c.isAlphanum

/-- The length of the longest run of these characters at the start of a text. -/
def runLength (chars : Char → Bool) (s : List Char) : Nat := (s.takeWhile chars).length

/-- `sk-[A-Za-z0-9_\-*]{6,}`. -/
def matchKey (s : List Char) : Option Nat :=
  if "sk-".toList <+: s then
    let n := runLength (fun c => isAlnum c || "_-*".toList.contains c) (s.drop 3)
    if 6 ≤ n then some (3 + n) else none
  else none

/-- `(?i:bearer)\s+[A-Za-z0-9._~+/=\-]{8,}`. -/
def matchBearer (s : List Char) : Option Nat :=
  if "bearer".toList <+: s.map Char.toLower then
    let spaces := runLength (fun c => pySpaces.contains c.toNat) (s.drop 6)
    let n := runLength (fun c => isAlnum c || "._~+/=-".toList.contains c) (s.drop (6 + spaces))
    if 1 ≤ spaces ∧ 8 ≤ n then some (6 + spaces + n) else none
  else none

/-- `_SECRET_PATTERN`: the length of a match that begins here. -/
def secretPattern (s : List Char) : Option Nat := (matchKey s).or (matchBearer s)

/-- `redact_secrets`. -/
def redactSecrets (environ : String → Option String) (text : String) : String :=
  let text := (secretValues environ).foldl
    (fun text value => replaceFrom value redacted 0 text) text.toList
  String.ofList (mask secretPattern redacted text)

end AitpPlayground.Agents
