import AitpPlayground.Lib.Codecs
import AitpPlayground.Registry.Models

/-!
# `AitpPlayground.Trust.OidcIssuer`: the identity provider of a run

`RunOidcIssuer` (`src/aitp_playground/trust/oidc_issuer.py`) is the key pair that a run has when
one of its agents has an OIDC identity. `BootstrapBuilder.build`
(`src/aitp_playground/hosting/bootstrap.py`) hands the public key to every agent, and the private
seed to those with an OIDC identity.

`cryptography` and `hashlib` are arguments, as is `json.dumps` with the separators of a compact
JWT. What `os.urandom` draws is an argument too.
-/

set_option autoImplicit false

namespace AitpPlayground.Trust

open AitpPlayground.Lib
open AitpPlayground.Registry

/-- What `cryptography` and `hashlib` do with the keys and their bytes. -/
structure Ed25519 where
  /-- The public key of a private one. -/
  publicBytes : List UInt8 → List UInt8
  /-- The signature of a message with a private key. -/
  sign : List UInt8 → List UInt8 → List UInt8
  /-- The test of a public key, a message and a signature. -/
  verify : List UInt8 → List UInt8 → List UInt8 → Bool
  sha256 : List UInt8 → List UInt8

/-- `Ed25519PrivateKey.from_private_bytes`. -/
def fromPrivateBytes (seed : List UInt8) : Except PyErr (List UInt8) :=
  if seed.length = 32 then .ok seed
  else .error (.valueError "An Ed25519 private key is 32 bytes long" none)

section
variable (ed : Ed25519) (py : PyLib) (compact : Json → String)

/-- `_b64u`. -/
def b64u (b : List UInt8) : String :=
  String.ofList ((py.urlsafeB64encode b).toList.reverse.dropWhile (· = '=')).reverse

/-! ### Tokens -/

/-- The header of a token. -/
def jwtHeader (kid : Json) : Json :=
  .obj [("alg", .str "EdDSA"), ("typ", .str "JWT"), ("kid", kid)]

/-- The claims of a token. -/
def jwtClaims (issuer subject audience : Json) (nonce cnfJkt : String) (now ttlSecs : Int) :
    Json :=
  .obj
    [("iss", issuer), ("sub", subject), ("aud", audience), ("iat", .num (.int now)),
     ("exp", .num (.int (now + ttlSecs))), ("nonce", .str nonce),
     ("cnf", .obj [("jkt", .str cnfJkt)])]

/-- A compact JWT. -/
def signedJwt (privateKey : List UInt8) (header claims : Json) : String :=
  let signingInput := b64u py (utf8 (compact header)) ++ "." ++ b64u py (utf8 (compact claims))
  signingInput ++ "." ++ b64u py (ed.sign privateKey (utf8 signingInput))

/-- `mint_jwt`. -/
def mintJwt (privateSeedB64 kid issuerUrl subject audience nonce cnfJkt : String)
    (nowUnixSecs : Int) (ttlSecs : Int := 3600) : Except PyErr String := do
  let seed ← py.urlsafeB64decode (privateSeedB64 ++ "==")
  let priv ← fromPrivateBytes seed
  pure (signedJwt ed py compact priv (jwtHeader (.str kid))
    (jwtClaims (.str issuerUrl) (.str subject) (.str audience) nonce cnfJkt nowUnixSecs ttlSecs))

/-! ### The issuer -/

/-- `RunOidcIssuer`. -/
structure RunOidcIssuer where
  issuerUrl : String
  privateSeedB64 : String
  publicJwk : List (String × Json)
  kid : String

/-- `RunOidcIssuer.generate`. -/
def RunOidcIssuer.generate (seed : List UInt8) : RunOidcIssuer :=
  let pubBytes := ed.publicBytes seed
  let kid := "kid-" ++ String.ofList ((b64u py (ed.sha256 pubBytes)).toList.take 16)
  { issuerUrl := "https://idp.aitp-playground.local/"
    privateSeedB64 := b64u py seed
    publicJwk :=
      [("kty", .str "OKP"), ("crv", .str "Ed25519"), ("x", .str (b64u py pubBytes)),
       ("kid", .str kid), ("alg", .str "EdDSA"), ("use", .str "sig")]
    kid }

/-- What the manifest of an agent says of its identity. -/
structure IdentitySpec where
  identityType : IdentityType
  oidcIssuer : Option String
  oidcSubject : Option String
deriving DecidableEq

/-- The issuer of a run. -/
def runOidc (agents : List IdentitySpec) (seed : List UInt8) : Option RunOidcIssuer :=
  if agents.any fun a => decide (a.identityType = .oidc) then
    some (RunOidcIssuer.generate ed py seed)
  else none

end

/-! ### The bootstrap -/

/-- The `oidc` block of a bootstrap. -/
def oidcBlock (issuer : RunOidcIssuer) (agent : IdentitySpec) : List (String × Json) :=
  [("issuer_url", .str issuer.issuerUrl), ("kid", .str issuer.kid),
   ("public_jwk", .obj issuer.publicJwk)] ++
    if agent.identityType = .oidc then [("private_seed_b64", .str issuer.privateSeedB64)] else []

/-- What a bootstrap says of identities. -/
def oidcBootstrap (oidc : Option RunOidcIssuer) (agent : IdentitySpec) : Json :=
  .obj (("aitp", .obj
    [("identity_type", .str agent.identityType.text),
     ("oidc_issuer", (agent.oidcIssuer.map Json.str).getD .null),
     ("oidc_subject", (agent.oidcSubject.map Json.str).getD .null)]) ::
    match oidc with
    | none => []
    | some issuer => [("oidc", .obj (oidcBlock issuer agent))])

end AitpPlayground.Trust
