import AitpPlayground.Agents.OidcContext
import AitpPlayground.Agents.TctClaims
import AitpPlayground.Proofs.Agents.Encodings

/-!
# `AitpPlayground.Proofs.Agents.OidcContext`: the tokens of a run verify in it

An agent and its peer have only their bootstraps in common. The SDK decides which tokens an agent
takes, and nothing is said of that here. `SignedBy` says what a token is to whoever decodes it:
its header and claims, under a signature that a JWK verifies.

* `b64decode_seed`, `mintJwt_eq`: both ways to take the private key out of the bootstrap.
* `signedBy_signedJwt`, `decodeClaims_signedJwt`: what a token says.
* `oidc_tokens_verify`: the agents with an OIDC identity, and no others, can mint tokens, and the
  keys that any agent of the run hands to the SDK verify them.
-/

set_option autoImplicit false

namespace AitpPlayground.Proofs.Agents

open AitpPlayground.Lib
open AitpPlayground.Lib.Base64 (unpadded padding sextets)
open AitpPlayground.Agents
open AitpPlayground.Trust

/-! ### The statement -/

/-- A segment of a compact JWT carries these bytes. -/
def Segment (lib : PyLib) (segment : String) (bytes : List UInt8) : Prop :=
  lib.urlsafeB64decode (padded segment) = .ok bytes

/-- A compact JWT with this header and these claims. Its third segment is a signature of the other
two as they stand, and the public key in the JWK verifies it. The header names the JWK. -/
def SignedBy (ed : Ed25519) (lib : PyLib) (jwk header claims : Json) (token : String) : Prop :=
  ∃ h c s headerBytes claimsBytes signature x key,
    (token.toList.splitOn '.').map String.ofList = [h, c, s] ∧
    Segment lib h headerBytes ∧ lib.jsonLoadsBytes headerBytes = .ok header ∧
    Segment lib c claimsBytes ∧ lib.jsonLoadsBytes claimsBytes = .ok claims ∧
    jwk.member "kid" = header.member "kid" ∧
    jwk.member "x" = .ok (.str x) ∧ Segment lib x key ∧
    Segment lib s signature ∧ ed.verify key (utf8 (h ++ "." ++ c)) signature = true

/-! ### Segments -/

section
variable (py : PyLib) (utf8Error : List UInt8 → String)

/-- The decoder of the library is the one of `Lib.Base64`. -/
theorem urlsafeB64decode_withCodecs (s : String) :
    (py.withCodecs utf8Error).urlsafeB64decode s = PyLib.b64decode s := rfl

/-- `_b64u` leaves the padding out. -/
theorem b64u_eq (b : List UInt8) :
    b64u (py.withCodecs utf8Error) b = String.ofList (unpadded b) := by
  have hpad : '=' ∉ unpadded b := fun hmem =>
    absurd (Base64.mem_urlDigits_of_mem_unpadded hmem) (by decide)
  show String.ofList ((PyLib.b64encode b).toList.reverse.dropWhile (· = '=')).reverse = _
  rw [PyLib.b64encode, String.toList_ofList, dropWhile_padding hpad, List.reverse_reverse]

/-- The bytes come back. -/
theorem segment_b64u (b : List UInt8) :
    Segment (py.withCodecs utf8Error) (b64u (py.withCodecs utf8Error) b) b := by
  unfold Segment
  rw [urlsafeB64decode_withCodecs, b64decode_padded_iff, b64u_eq, String.toList_ofList]
  exact carries_unpadded b

/-- Three bytes are four groups of six bits. -/
theorem length_sextets (b : List UInt8) : (sextets b).length = (4 * b.length + 2) / 3 := by
  fun_induction sextets b with
  | case1 a b c rest ih =>
    simp only [List.length_cons, ih]
    omega
  | case2 a b => simp
  | case3 a => simp
  | case4 => simp

/-- The seed comes back with more padding than it needs. -/
theorem b64decode_seed {seed : List UInt8} (h : seed.length = 32) :
    (py.withCodecs utf8Error).urlsafeB64decode (b64u (py.withCodecs utf8Error) seed ++ "==") =
      .ok seed := by
  rw [urlsafeB64decode_withCodecs, PyLib.b64decode_eq_ok_iff, String.toList_append, b64u_eq,
    String.toList_ofList]
  have hlength : (sextets seed).length = 43 := by rw [length_sextets, h]
  have hscan : Base64.scan 43 0 "==".toList = .ok [] := by decide
  refine ⟨?_, sextets seed, ?_, Base64.bytesOf_sextets seed⟩
  · rw [List.forall_mem_append]
    refine ⟨(carries_unpadded seed).1, fun c hc => ?_⟩
    rw [show c = '=' by simpa using hc]
    decide
  · rw [unpadded, Base64.scan_digits (fun d hd => Base64.lt_of_mem_sextets d hd), Nat.zero_add,
      hlength, hscan]
    simp [Except.map]

/-- No segment has a dot. -/
theorem dot_notMem_b64u (b : List UInt8) : '.' ∉ (b64u (py.withCodecs utf8Error) b).toList := by
  rw [b64u_eq, String.toList_ofList]
  exact fun hmem => absurd (Base64.mem_urlDigits_of_mem_unpadded hmem) (by decide)

end

/-- The bytes that are signed. -/
def signingInput (lib : PyLib) (compact : Json → String) (header claims : Json) : List UInt8 :=
  utf8 (b64u lib (utf8 (compact header)) ++ "." ++ b64u lib (utf8 (compact claims)))

/-- Between its dots a token has the header, the claims and the signature. -/
theorem segments_signedJwt {lib : PyLib} (hdot : ∀ b, '.' ∉ (b64u lib b).toList) (ed : Ed25519)
    (compact : Json → String) (privateKey : List UInt8) (header claims : Json) :
    ((signedJwt ed lib compact privateKey header claims).toList.splitOn '.').map String.ofList =
      [b64u lib (utf8 (compact header)), b64u lib (utf8 (compact claims)),
        b64u lib (ed.sign privateKey (signingInput lib compact header claims))] := by
  have htoken : (signedJwt ed lib compact privateKey header claims).toList =
      (b64u lib (utf8 (compact header))).toList ++ '.' ::
        ((b64u lib (utf8 (compact claims))).toList ++ '.' ::
          (b64u lib (ed.sign privateKey (signingInput lib compact header claims))).toList) := by
    simp [signedJwt, signingInput]
  rw [htoken, List.splitOn_append_cons_self, List.splitOn_append_cons_self,
    List.splitOn_eq_singleton (hdot _), List.splitOn_eq_singleton (hdot _),
    List.splitOn_eq_singleton (hdot _)]
  simp

/-- The claims of a token, as an agent reads those of any token. -/
theorem decodeClaims_signedJwt (py : PyLib) (utf8Error : List UInt8 → String) (ed : Ed25519)
    (compact : Json → String) (privateKey : List UInt8) (header : Json) {claims : Json}
    {members : Dict String Json}
    (hclaims : (py.withCodecs utf8Error).jsonLoads (compact claims) = .ok claims)
    (hmembers : claims.dict? = some members) :
    decodeClaims (py.withCodecs utf8Error)
      (signedJwt ed (py.withCodecs utf8Error) compact privateKey header claims) =
        .ok members := by
  have hsegments := segments_signedJwt (dot_notMem_b64u py utf8Error) ed compact privateKey header
    claims
  have hpayload : Segment (py.withCodecs utf8Error) _ _ :=
    segment_b64u py utf8Error (utf8 (compact claims))
  have hloads := PyLib.loadsBytes_utf8 hclaims
  unfold Segment at hpayload
  unfold decodeClaims
  rw [hsegments]
  simp only [hpayload]
  have hbytes : (Except.ok (utf8 (compact claims))).bind
      (py.withCodecs utf8Error).jsonLoadsBytes = .ok claims := hloads
  rw [hbytes]
  simp only [hmembers]

/-- A token is signed by the public key of the private one, in whatever JWK it stands. -/
theorem signedBy_signedJwt (py : PyLib) (utf8Error : List UInt8 → String) {ed : Ed25519}
    (compact : Json → String) {seed : List UInt8} {jwk header claims : Json}
    (hverify : ∀ message,
      ed.verify (ed.publicBytes seed) message (ed.sign seed message) = true)
    (hheader : (py.withCodecs utf8Error).jsonLoads (compact header) = .ok header)
    (hclaims : (py.withCodecs utf8Error).jsonLoads (compact claims) = .ok claims)
    (hkid : jwk.member "kid" = header.member "kid")
    (hx : jwk.member "x" = .ok (.str (b64u (py.withCodecs utf8Error) (ed.publicBytes seed)))) :
    SignedBy ed (py.withCodecs utf8Error) jwk header claims
      (signedJwt ed (py.withCodecs utf8Error) compact seed header claims) :=
  ⟨_, _, _, _, _, _, _, _, segments_signedJwt (dot_notMem_b64u py utf8Error) ed compact seed header
      claims,
    segment_b64u .., PyLib.loadsBytes_utf8 hheader, segment_b64u .., PyLib.loadsBytes_utf8 hclaims,
    hkid, hx, segment_b64u .., segment_b64u .., hverify _⟩

/-! ### Bootstraps -/

/-- A member of an object without duplicates. -/
theorem member_obj {members : List (String × Json)} (h : (members.map Prod.fst).Nodup)
    (key : String) : (Json.obj members).member key = .ok ((members.lookup key).getD .null) := by
  show Except.ok (((Dict.ofList members).get? key).getD .null) = _
  rw [Dict.get?_ofList h]

/-- A member of an object without duplicates, with a default. -/
theorem memberOr_obj {members : List (String × Json)} (h : (members.map Prod.fst).Nodup)
    (key : String) (default : Json) :
    (Json.obj members).memberOr key default = .ok ((members.lookup key).getD default) := by
  show Except.ok (((Dict.ofList members).get? key).getD default) = _
  rw [Dict.get?_ofList h]

/-- What an agent of a run with an issuer has. -/
def contextOf (issuer : RunOidcIssuer) (agent : IdentitySpec) : OidcContext where
  enabled := true
  issuerUrl := .str issuer.issuerUrl
  kid := .str issuer.kid
  publicJwk := .obj issuer.publicJwk
  privateSeedB64 := if agent.identityType = .oidc then .str issuer.privateSeedB64 else .null
  identityType := .str agent.identityType.text
  subject := (agent.oidcSubject.map Json.str).getD .null
  jwks := some (.str issuer.issuerUrl, [.obj issuer.publicJwk])

/-- The context of an agent in a run with an issuer. -/
theorem new_of_issuer {issuer : RunOidcIssuer} (hurl : issuer.issuerUrl ≠ "")
    (hjwk : issuer.publicJwk ≠ []) (agent : IdentitySpec) :
    OidcContext.new (oidcBootstrap (some issuer) agent) = .ok (contextOf issuer agent) := by
  obtain ⟨identityType, oidcIssuer, oidcSubject⟩ := agent
  cases identityType <;>
    simp [OidcContext.new, oidcBootstrap, oidcBlock, member_obj, memberOr_obj, List.lookup_cons,
      pyOr, Json.truthy, hurl, hjwk, contextOf, bind, Except.bind, pure, Except.pure]

/-- What an agent has without an issuer. -/
def plainContext (agent : IdentitySpec) : OidcContext where
  enabled := false
  issuerUrl := .null
  kid := .null
  publicJwk := .null
  privateSeedB64 := .null
  identityType := .str agent.identityType.text
  subject := (agent.oidcSubject.map Json.str).getD .null
  jwks := none

/-- The context of an agent in a run without one. -/
theorem new_of_no_issuer (agent : IdentitySpec) :
    OidcContext.new (oidcBootstrap none agent) = .ok (plainContext agent) := by
  simp [OidcContext.new, oidcBootstrap, member_obj, memberOr_obj, List.lookup_cons, pyOr,
    Json.truthy, plainContext, bind, Except.bind, pure, Except.pure]

/-! ### Tokens of a run -/

/-- `or` keeps a text, as the empty one is also the default. -/
theorem pyOr_str (s : String) : pyOr (.str s) (.str "") = .str s := by
  unfold pyOr Json.truthy
  by_cases hs : s = ""
  · simp [hs]
  · simp [hs]

/-- `or` keeps a subject that is given. -/
theorem pyOr_subject (subject : Option String) :
    pyOr ((subject.map Json.str).getD .null) (.str "") = .str (subject.getD "") := by
  cases subject with
  | none => rfl
  | some s => exact pyOr_str s

/-- Without a seed, or with another identity, no token is minted. -/
theorem mintJwtFor_none {c : OidcContext}
    (h : c.identityType ≠ .str "oidc" ∨ c.privateSeedB64.truthy = false) (ed : Ed25519)
    (lib : PyLib) (compact : Json → String) (computeAidJkt : String → Except PyErr String)
    (audience : Json) (aid : String) :
    c.mintJwtFor ed lib compact computeAidJkt audience aid = .ok none := if_pos h

section
variable {ed : Ed25519} (py : PyLib) (utf8Error : List UInt8 → String) {agent : IdentitySpec}
  {seed : List UInt8}

/-- A seed does not encode as the empty text. -/
theorem b64u_seed_ne_empty (hseed : seed.length = 32) :
    b64u (py.withCodecs utf8Error) seed ≠ "" := by
  intro hempty
  have hlength : (sextets seed).length = 0 := by
    have hchars := congrArg String.toList hempty
    rw [b64u_eq, String.toList_ofList, unpadded] at hchars
    simpa using hchars
  rw [length_sextets, hseed] at hlength
  omega

/-- The tokens that an agent mints with the seed of its run. -/
theorem mintJwtFor_oidc (hoidc : agent.identityType = .oidc) (hseed : seed.length = 32)
    (compact : Json → String) {computeAidJkt : String → Except PyErr String} {aid jkt : String}
    (hjkt : computeAidJkt aid = .ok jkt) (audience : Json) :
    (contextOf (.generate ed (py.withCodecs utf8Error) seed) agent).mintJwtFor ed
        (py.withCodecs utf8Error) compact computeAidJkt audience aid =
      .ok (some fun nonce now => signedJwt ed (py.withCodecs utf8Error) compact seed
        (jwtHeader (.str (RunOidcIssuer.generate ed (py.withCodecs utf8Error) seed).kid))
        (jwtClaims (.str "https://idp.aitp-playground.local/")
          (.str (agent.oidcSubject.getD "")) audience nonce jkt now 3600)) := by
  have hdecode : (py.withCodecs utf8Error).urlsafeB64decode (padded _) = .ok seed :=
    segment_b64u py utf8Error seed
  have hne := b64u_seed_ne_empty py utf8Error hseed
  generalize py.withCodecs utf8Error = lib at *
  have hkey : (contextOf (.generate ed lib seed) agent).privateSeedB64 = .str (b64u lib seed) :=
    if_pos hoidc
  have htype : (contextOf (.generate ed lib seed) agent).identityType = .str "oidc" := by
    unfold contextOf
    rw [hoidc]
    rfl
  have htruthy : (Json.str (b64u lib seed)).truthy = true := by simp [Json.truthy, hne]
  unfold OidcContext.mintJwtFor
  rw [htype, hkey, if_neg (by simp [htruthy])]
  have hbytes : b64uDecode lib (.str (b64u lib seed)) = .ok seed := hdecode
  rw [hbytes, hjkt]
  simp only [fromPrivateBytes, hseed, if_true, contextOf, pyOr_str, pyOr_subject, bind,
    Except.bind, pure, Except.pure]
  rfl

/-- The other way to mint makes the same token. -/
theorem mintJwt_eq (hseed : seed.length = 32) (compact : Json → String)
    (kid issuerUrl subject audience nonce jkt : String) (now : Int) :
    mintJwt ed (py.withCodecs utf8Error) compact (b64u (py.withCodecs utf8Error) seed) kid issuerUrl
        subject audience nonce jkt now =
      .ok (signedJwt ed (py.withCodecs utf8Error) compact seed (jwtHeader (.str kid))
        (jwtClaims (.str issuerUrl) (.str subject) (.str audience) nonce jkt now 3600)) := by
  have hdecode := b64decode_seed py utf8Error hseed
  generalize py.withCodecs utf8Error = lib at *
  unfold mintJwt fromPrivateBytes
  rw [hdecode]
  simp [hseed, bind, Except.bind, pure, Except.pure]

end

/-- The header of a token names the JWK of its issuer, which has the public key. -/
theorem member_publicJwk (ed : Ed25519) (lib : PyLib) (seed : List UInt8) :
    (Json.obj (RunOidcIssuer.generate ed lib seed).publicJwk).member "kid" =
        (jwtHeader (.str (RunOidcIssuer.generate ed lib seed).kid)).member "kid" ∧
      (Json.obj (RunOidcIssuer.generate ed lib seed).publicJwk).member "x" =
        .ok (.str (b64u lib (ed.publicBytes seed))) := by
  unfold jwtHeader
  constructor
  · rw [member_obj (by simp [RunOidcIssuer.generate]), member_obj (by simp)]
    simp [RunOidcIssuer.generate, List.lookup_cons]
  · rw [member_obj (by simp [RunOidcIssuer.generate])]
    simp [RunOidcIssuer.generate, List.lookup_cons]

/-- A run with an agent with an OIDC identity has an issuer. -/
theorem runOidc_of_oidc {ed : Ed25519} {lib : PyLib} {agents : List IdentitySpec}
    {a : IdentitySpec} (ha : a ∈ agents) (hoidc : a.identityType = .oidc) (seed : List UInt8) :
    runOidc ed lib agents seed = some (.generate ed lib seed) :=
  if_pos (List.any_eq_true.mpr ⟨a, ha, decide_eq_true hoidc⟩)

/-- The context of an agent in such a run. -/
theorem new_generate {ed : Ed25519} {lib : PyLib} (agent : IdentitySpec) (seed : List UInt8) :
    OidcContext.new (oidcBootstrap (some (.generate ed lib seed)) agent) =
      .ok (contextOf (.generate ed lib seed) agent) :=
  new_of_issuer (by simp [RunOidcIssuer.generate]) (by simp [RunOidcIssuer.generate]) agent

/-- Only the agents with an OIDC identity have the seed. -/
theorem new_runOidc (ed : Ed25519) (lib : PyLib) (agents : List IdentitySpec)
    (agent : IdentitySpec) (seed : List UInt8) :
    ∃ c, OidcContext.new (oidcBootstrap (runOidc ed lib agents seed) agent) = .ok c ∧
      (agent.identityType ≠ .oidc → c.privateSeedB64 = .null) := by
  unfold runOidc
  split
  · exact ⟨_, new_generate agent seed, fun hother => if_neg hother⟩
  · exact ⟨_, new_of_no_issuer agent, fun _ => rfl⟩

/-- `json.loads` reads back what `json.dumps` wrote. -/
def ReadsBack (lib : PyLib) (compact : Json → String) (value : Json) : Prop :=
  lib.jsonLoads (compact value) = .ok value

/-- In every run, whatever its agents and its seed: an agent with another identity has no seed and
mints nothing. An agent with an OIDC identity mints tokens, and both ways to mint make the same
ones. A token has the claims that it was minted with, and every agent of the run hands the SDK,
for the issuer in the claims, the one JWK that the header names, and its key verifies the
signature. -/
theorem oidc_tokens_verify {ed : Ed25519}
    (hverify : ∀ seed message, seed.length = 32 →
      ed.verify (ed.publicBytes seed) message (ed.sign seed message) = true)
    {py lib : PyLib} {utf8Error : List UInt8 → String} (hlib : lib = py.withCodecs utf8Error)
    {agents : List IdentitySpec} {a : IdentitySpec} (ha : a ∈ agents) {seed : List UInt8}
    (hseed : seed.length = 32) (compact : Json → String)
    {computeAidJkt : String → Except PyErr String} {aid jkt : String}
    (hjkt : computeAidJkt aid = .ok jkt) :
    ∃ ca, OidcContext.new (oidcBootstrap (runOidc ed lib agents seed) a) = .ok ca ∧
      (a.identityType = .pinnedKey → ca.privateSeedB64 = .null ∧
        ∀ audience, ca.mintJwtFor ed lib compact computeAidJkt audience aid = .ok none) ∧
      (a.identityType = .oidc → ∀ audience : String, ∃ mint,
        ca.mintJwtFor ed lib compact computeAidJkt (.str audience) aid = .ok (some mint) ∧
        ∀ nonce now header claims,
          header = jwtHeader (.str (RunOidcIssuer.generate ed lib seed).kid) →
          claims = jwtClaims (.str "https://idp.aitp-playground.local/")
            (.str (a.oidcSubject.getD "")) (.str audience) nonce jkt now 3600 →
          mintJwt ed lib compact (b64u lib seed) (RunOidcIssuer.generate ed lib seed).kid
            "https://idp.aitp-playground.local/" (a.oidcSubject.getD "") audience nonce jkt now =
              .ok (mint nonce now) ∧
          (ReadsBack lib compact header → ReadsBack lib compact claims →
            (∃ members, claims.dict? = some members ∧
              decodeClaims lib (mint nonce now) = .ok members) ∧
            ∀ b ∈ agents, ∃ cb jwk,
              OidcContext.new (oidcBootstrap (runOidc ed lib agents seed) b) = .ok cb ∧
              cb.trustAnchors = some [.str "https://idp.aitp-playground.local/"] ∧
              cb.jwks = some (.str "https://idp.aitp-playground.local/", [jwk]) ∧
              SignedBy ed lib jwk header claims (mint nonce now))) := by
  subst hlib
  cases hoidc : a.identityType with
  | pinnedKey =>
    obtain ⟨ca, hca, hseedless⟩ := new_runOidc ed (py.withCodecs utf8Error) agents a seed
    have hnull : ca.privateSeedB64 = .null := hseedless (by rw [hoidc]; decide)
    have hfalsy : ca.privateSeedB64.truthy = false := by
      rw [hnull]
      rfl
    exact ⟨ca, hca, fun _ => ⟨hnull, fun audience =>
      mintJwtFor_none (.inr hfalsy) _ _ _ _ audience aid⟩, nofun⟩
  | oidc =>
    rw [runOidc_of_oidc ha hoidc]
    refine ⟨_, new_generate a seed, nofun, fun _ audience => ?_⟩
    refine ⟨_, mintJwtFor_oidc py utf8Error hoidc hseed compact hjkt _, ?_⟩
    rintro nonce now header claims rfl rfl
    refine ⟨mintJwt_eq py utf8Error hseed .., fun hheader hclaims => ⟨?_, fun b _ => ?_⟩⟩
    · exact ⟨_, rfl, decodeClaims_signedJwt py utf8Error ed compact seed _ hclaims rfl⟩
    · obtain ⟨hkid, hx⟩ := member_publicJwk ed (py.withCodecs utf8Error) seed
      exact ⟨_, _, new_generate b seed, rfl, rfl, signedBy_signedJwt py utf8Error compact
        (fun message => hverify seed message hseed) hheader hclaims hkid hx⟩

/-! ### A run of two agents -/

/-- Keys that any signature of theirs tells. -/
def plainKeys : Ed25519 where
  publicBytes := id
  sign := fun key message => key ++ message
  verify := fun key message signature => signature == key ++ message
  sha256 := id

/-- The header of the token, as `json.dumps` writes it. -/
def headerText (kid : String) : String :=
  "\x7b\"alg\":\"EdDSA\",\"typ\":\"JWT\",\"kid\":\"" ++ kid ++ "\"\x7d"

/-- The claims of the token, as `json.dumps` writes them. -/
def claimsText : String :=
  "\x7b\"iss\":\"https://idp.aitp-playground.local/\",\"sub\":\"analyst\"," ++
    "\"aud\":\"aid:b\",\"iat\":1000,\"exp\":4600,\"nonce\":\"n1\"," ++
    "\"cnf\":\x7b\"jkt\":\"t1\"\x7d\x7d"

/-- The seed of the run. -/
def zeroSeed : List UInt8 := List.replicate 32 0

/-- An agent with an OIDC identity, and one without. -/
def twoIdentities : List IdentitySpec :=
  [⟨.oidc, some "https://idp.aitp-playground.local/", some "analyst"⟩, ⟨.pinnedKey, none, none⟩]

/-- `json` on the two texts. -/
def tokenTexts : PyLib := PyLib.reading
  [(headerText "kid-AAAAAAAAAAAAAAAA", jwtHeader (.str "kid-AAAAAAAAAAAAAAAA")),
   (claimsText, jwtClaims (.str "https://idp.aitp-playground.local/") (.str "analyst")
    (.str "aid:b") "n1" "t1" 1000 3600)]

def tokenLib : PyLib := tokenTexts.withCodecs fun _ => ""

/-- `aitp.compute_aid_jkt`, of one AID. -/
def thumbprint (_ : String) : Except PyErr String := .ok "t1"

/-- The second agent has the key for the token of the first one, and mints none. -/
theorem oidc_tokens_verify_two :
    ∃ ca cb mint jwk,
      OidcContext.new (oidcBootstrap (runOidc plainKeys tokenLib twoIdentities zeroSeed)
        ⟨.oidc, some "https://idp.aitp-playground.local/", some "analyst"⟩) = .ok ca ∧
      OidcContext.new (oidcBootstrap (runOidc plainKeys tokenLib twoIdentities zeroSeed)
        ⟨.pinnedKey, none, none⟩) = .ok cb ∧
      ca.mintJwtFor plainKeys tokenLib tokenLib.jsonDumps thumbprint (.str "aid:b")
        "aid:a" = .ok (some mint) ∧
      cb.jwks = some (.str "https://idp.aitp-playground.local/", [jwk]) ∧
      SignedBy plainKeys tokenLib jwk (jwtHeader (.str "kid-AAAAAAAAAAAAAAAA"))
        (jwtClaims (.str "https://idp.aitp-playground.local/") (.str "analyst") (.str "aid:b") "n1"
          "t1" 1000 3600) (mint "n1" 1000) ∧
      (decodeClaims tokenLib (mint "n1" 1000)).toOption.map (fun d => d.get? "aud") =
        some (some (.str "aid:b")) ∧
      cb.mintJwtFor plainKeys tokenLib tokenLib.jsonDumps thumbprint (.str "aid:a")
        "aid:b" = .ok none := by
  have hverify : ∀ seed message : List UInt8, seed.length = 32 →
      plainKeys.verify (plainKeys.publicBytes seed) message (plainKeys.sign seed message) =
        true := by
    intro seed message _
    exact beq_self_eq_true _
  have hkid : "kid-AAAAAAAAAAAAAAAA" =
      (RunOidcIssuer.generate plainKeys tokenLib zeroSeed).kid := by
    decide +kernel
  have hheader : tokenLib.RoundTrips (jwtHeader (.str "kid-AAAAAAAAAAAAAAAA")) := by
    decide +kernel
  have hclaims : tokenLib.RoundTrips
      (jwtClaims (.str "https://idp.aitp-playground.local/") (.str "analyst") (.str "aid:b") "n1"
        "t1" 1000 3600) := by
    decide +kernel
  have hlib : tokenLib = tokenTexts.withCodecs fun _ => "" := rfl
  have hfirst : (⟨.oidc, some "https://idp.aitp-playground.local/", some "analyst"⟩ :
      IdentitySpec) ∈ twoIdentities := List.mem_cons_self ..
  have hsecond : (⟨.pinnedKey, none, none⟩ : IdentitySpec) ∈ twoIdentities := by decide
  have hseed : zeroSeed.length = 32 := rfl
  obtain ⟨ca, hca, -, htokens⟩ := oidc_tokens_verify hverify hlib hfirst hseed tokenLib.jsonDumps
    (show thumbprint "aid:a" = .ok "t1" from rfl)
  obtain ⟨cb, hcb, hnone, -⟩ := oidc_tokens_verify hverify hlib hsecond hseed tokenLib.jsonDumps
    (show thumbprint "aid:b" = .ok "t1" from rfl)
  obtain ⟨mint, hmint, hminted⟩ := htokens rfl "aid:b"
  obtain ⟨-, hsays⟩ := hminted "n1" 1000 _ _ (congrArg (fun kid => jwtHeader (.str kid)) hkid) rfl
  obtain ⟨⟨members, hmembers, hdecoded⟩, hpeers⟩ := hsays hheader hclaims
  obtain ⟨cb', jwk, hcb', -, hjwks, hsigned⟩ := hpeers _ hsecond
  cases hcb.symm.trans hcb'
  refine ⟨ca, cb, mint, jwk, hca, hcb, hmint, hjwks, hsigned, ?_, (hnone rfl).2 _⟩
  rw [hdecoded]
  cases hmembers
  rfl

end AitpPlayground.Proofs.Agents
