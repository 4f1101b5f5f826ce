import AitpPlayground.Agents.PopChallenges

/-!
# `AitpPlayground.Agents.TctClaims`: the claims of a token, unverified

`decode_claims` (`agents/base/tct_claims.py`) reads the payload segment of a compact JWS. It
checks no signature.
-/

set_option autoImplicit false

namespace AitpPlayground.Agents

open AitpPlayground.Lib

/-- `decode_claims`. -/
def decodeClaims (py : PyLib) (token : String) : Except PyErr (Dict String Json) :=
  match (token.toList.splitOn '.').map String.ofList with
  | [_, payload, _] =>
    match (py.urlsafeB64decode (padded payload)).bind py.jsonLoadsBytes with
    | .error (.valueError msg _) => .error (.valueError ("undecodable JWS payload: " ++ msg) none)
    | .error exc => .error exc
    | .ok claims =>
      match claims.dict? with
      | none => .error (.valueError "JWS payload is not a JSON object" none)
      | some d => .ok d
  | parts =>
    .error (.valueError ("not a compact JWS: " ++ toString parts.length ++ " segment(s)") none)

end AitpPlayground.Agents
