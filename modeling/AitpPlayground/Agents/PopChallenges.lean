import AitpPlayground.Lib.Py

/-!
# `AitpPlayground.Agents.PopChallenges`: challenges that are answered once

`PopChallenges` (`agents/base/pop_challenges.py`) holds each outstanding challenge by its
nonce until it expires, and the first response that names the nonce takes it out, whether or
not that response then verifies.

`issue` reads the nonce and the expiry out of the challenge, which is the SDK's. It is called
with the challenge the SDK made, or with the exception it raised.
-/

set_option autoImplicit false

namespace AitpPlayground.Agents

open AitpPlayground.Lib

/-- The header that carries a challenge. -/
def challengeHeader : String := "x-aitp-pop-challenge"

/-- The refusal `PopRejected`. `code` is the AITP error code, `none` for a 429. -/
structure PopRejected where
  code : Option String
  message : String
  status : Nat := 403
deriving DecidableEq

/-- What a step of the exchange raises. -/
inductive PopExc where
  | rejected (refusal : PopRejected)
  | raised (exc : PyErr)

/-- `encode_header`. -/
def encodeHeader (py : PyLib) (payloadJson : String) : String :=
  String.ofList
    ((py.urlsafeB64encode payloadJson.toUTF8.toList).toList.reverse.dropWhile (· = '=')).reverse

/-- The padding `"=" * (-len(value) % 4)`. -/
def padded (value : String) : String :=
  value ++ String.ofList (List.replicate ((4 - value.length % 4) % 4) '=')

/-- `decode_header`. -/
def decodeHeader (py : PyLib) (value : String) : Except PyErr String :=
  match py.urlsafeB64decode (padded value) with
  | .error (.valueError msg _) => .error (.valueError ("not base64url JSON: " ++ msg) none)
  | .error exc => .error exc
  | .ok raw =>
    match py.utf8Decode raw with
    | .error (.valueError msg _) => .error (.valueError ("not base64url JSON: " ++ msg) none)
    | .error exc => .error exc
    | .ok text => .ok text

/-- The outstanding challenges: a nonce to the challenge and its `expires_at`. -/
structure PopChallenges where
  ttlSecs : Int
  maxEntries : Int
  outstanding : Dict PyKey (String × PyFloat)

namespace PopChallenges

/-- The constructor, with its defaults. -/
def new : PopChallenges := { ttlSecs := 60, maxEntries := 100000, outstanding := Dict.empty }

/-- `_prune`. -/
def prune (p : PopChallenges) (now : ℚ) : PopChallenges :=
  { p with outstanding := p.outstanding.filter fun _ e => !e.2.lt (.fin now) }

/-- The entry of a new challenge: its nonce and its expiry. -/
def entryFor (py : PyLib) (challenge : String) : Except PyErr (PyKey × PyFloat) := do
  let parsed ← py.jsonLoads challenge
  -- The value of the assignment is evaluated before its key.
  let expiresAt ← py.float (← parsed.item "expires_at")
  let nonce ← (← parsed.item "nonce").hashKey
  pure (nonce, expiresAt)

/-- `issue`, with what the SDK's `new_challenge(ttl_secs)` gives. -/
def issue (py : PyLib) (p : PopChallenges) (now : ℚ) (newChallenge : Int → Except PyErr String) :
    PopChallenges × Except PopExc String :=
  let p := p.prune now
  if p.maxEntries ≤ p.outstanding.size then
    (p, .error (.rejected { code := none, message := "too many outstanding PoP challenges"
                            status := 429 }))
  else
    match newChallenge p.ttlSecs with
    | .error exc => (p, .error (.raised exc))
    | .ok challenge =>
      match entryFor py challenge with
      | .error exc => (p, .error (.raised exc))
      | .ok (nonce, expiresAt) =>
        ({ p with outstanding := p.outstanding.set nonce (challenge, expiresAt) }, .ok challenge)

/-- The nonce a response names. -/
def nonceEcho (py : PyLib) (responseJson : String) : Except PopExc String :=
  match py.jsonLoads responseJson with
  | .error (.valueError msg _) =>
    .error (.rejected { code := some "POP_RESPONSE_INVALID"
                        message := "pop response is not JSON: " ++ msg })
  | .error exc => .error (.raised exc)
  | .ok response =>
    match response.dict?.bind fun d => d.get? "nonce_echo" with
    | some (.str nonce) =>
      if nonce = "" then
        .error (.rejected { code := some "POP_RESPONSE_INVALID"
                            message := "pop response has no nonce_echo" })
      else .ok nonce
    | _ =>
      .error (.rejected { code := some "POP_RESPONSE_INVALID"
                          message := "pop response has no nonce_echo" })

/-- `consume`. -/
def consume (py : PyLib) (p : PopChallenges) (now : ℚ) (responseJson : String) :
    PopChallenges × Except PopExc String :=
  match nonceEcho py responseJson with
  | .error exc => (p, .error exc)
  | .ok nonce =>
    let p := p.prune now
    match p.outstanding.get? (.str nonce) with
    | none =>
      (p, .error (.rejected { code := some "POP_CHALLENGE_INVALID"
                              message := "unknown, already used or expired PoP challenge" }))
    -- The challenge is gone, whether or not the response verifies.
    | some entry => ({ p with outstanding := p.outstanding.erase (.str nonce) }, .ok entry.1)

end PopChallenges

end AitpPlayground.Agents
