import AitpPlayground.Agents.PopChallenges
import AitpPlayground.Trust.OidcIssuer

/-!
# `AitpPlayground.Agents.OidcContext`: an agent with an OIDC identity

`OidcContext` (`agents/base/oidc.py`) is what an agent makes of its bootstrap: the keys by which
it verifies the tokens of others, and with an OIDC identity the key by which it mints its own.
An agent mints a token in each handshake, for the AID of the peer and with the nonce of the
handshake.

`aitp.JwksProvider` only holds the keys that it is made with, and the SDK has
`aitp.compute_aid_jkt`.
-/

set_option autoImplicit false

namespace AitpPlayground.Agents

open AitpPlayground.Lib
open AitpPlayground.Trust

/-- `OidcContext`. -/
structure OidcContext where
  enabled : Bool
  issuerUrl : Json
  kid : Json
  publicJwk : Json
  privateSeedB64 : Json
  identityType : Json
  subject : Json
  /-- The keys by the URL of their issuer. -/
  jwks : Option (Json × List Json)

/-- `x or y`. -/
def pyOr (x y : Json) : Json := if x.truthy then x else y

/-- `_b64u_decode`. -/
def b64uDecode (py : PyLib) : Json → Except PyErr (List UInt8)
  | .str s => py.urlsafeB64decode (padded s)
  | .arr _ => .error (.typeError "can only concatenate list (not \"str\") to list")
  | .obj _ => .error (.typeError "unsupported operand type(s) for +: 'dict' and 'str'")
  | .null | .bool _ | .num _ => .error (.typeError "object has no len()")

namespace OidcContext

/-- `OidcContext(bootstrap)`. -/
def new (bootstrap : Json) : Except PyErr OidcContext := do
  let oidcCfg := pyOr (← bootstrap.member "oidc") (.obj [])
  let aitpCfg := pyOr (← bootstrap.member "aitp") (.obj [])
  let issuerUrl ← oidcCfg.member "issuer_url"
  let kid ← oidcCfg.member "kid"
  let publicJwk ← oidcCfg.member "public_jwk"
  let privateSeedB64 ← oidcCfg.member "private_seed_b64"
  let identityType ← aitpCfg.memberOr "identity_type" (.str "pinned_key")
  let subject ← aitpCfg.member "oidc_subject"
  pure {
    enabled := oidcCfg.truthy
    issuerUrl, kid, publicJwk, privateSeedB64, identityType, subject
    jwks :=
      if oidcCfg.truthy && issuerUrl.truthy && publicJwk.truthy then
        some (issuerUrl, [publicJwk])
      else none }

variable (c : OidcContext)

/-- `trust_anchors`. -/
def trustAnchors : Option (List Json) :=
  if c.enabled && c.issuerUrl.truthy then some [c.issuerUrl] else none

/-- `mint_jwt_for`. The callback gets the nonce, and reads the clock when it is called. -/
def mintJwtFor (ed : Ed25519) (py : PyLib) (compact : Json → String)
    (computeAidJkt : String → Except PyErr String) (audience : Json) (aid : String)
    (ttlSecs : Int := 3600) : Except PyErr (Option (String → Int → String)) :=
  if c.identityType ≠ .str "oidc" ∨ c.privateSeedB64.truthy = false then .ok none
  else do
    let seed ← b64uDecode py c.privateSeedB64
    let priv ← fromPrivateBytes seed
    let cnfJkt ← computeAidJkt aid
    pure (some fun nonce now =>
      signedJwt ed py compact priv (jwtHeader (pyOr c.kid (.str "")))
        (jwtClaims (pyOr c.issuerUrl (.str "")) (pyOr c.subject (.str "")) audience nonce cnfJkt
          now ttlSecs))

end OidcContext

end AitpPlayground.Agents
