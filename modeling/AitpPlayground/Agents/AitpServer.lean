import AitpPlayground.Agents.RevocationRefresh
import AitpPlayground.Agents.TctClaims

/-!
# `AitpPlayground.Agents.AitpServer`: the capability calls of an agent

`AitpServer` (`agents/base/aitp_server.py`) is the server of one agent. This module has the
part that decides about a capability call. `verify_capability_tct` is sync, so a call is one
function here: the server after the call, and the identity or what was raised. `now` is the
reading of the clock in the call.

The checks are in the order of the source: the deny-set, the freshness of the snapshot, the
issuer, the proof of possession, the SDK.
-/

set_option autoImplicit false

namespace AitpPlayground.Agents

open AitpPlayground.Lib

/-- The `detail` of an `HTTPException`: a text, or a code with a message. -/
inductive Detail where
  | text (message : String)
  | coded (code message : String)
deriving DecidableEq

/-- An `HTTPException`, with the challenge in its header if it has one. -/
structure HttpError where
  status : Nat
  detail : Detail
  challenge : Option String := none
deriving DecidableEq

/-- What a capability call raises. -/
inductive CallExc where
  | http (refusal : HttpError)
  | raised (exc : PyErr)
deriving DecidableEq

/-- A 403 with a text. -/
def forbidden (message : String) : CallExc := .http { status := 403, detail := .text message }

/-- The server of an agent. -/
structure AitpServer where
  /-- The AID of `self.agent`. -/
  aid : String
  issuedRevocations : IssuerRevocationList
  revocation : RevocationState
  revocationFailMode : String
  revocationMaxStalenessSecs : Int
  popChallenges : PopChallenges
  /-- The SDK has a cache of verified tokens. -/
  tctStore : Bool
  tctCacheHits : Nat
  tctCacheMisses : Nat
  degradedServes : Nat

namespace AitpServer

/-- `cp_configured`, which is `can_verify_revocation`. -/
def cpConfigured (s : AitpServer) : Bool := s.issuedRevocations.cpBaseUrl.isSome

/-- `_enforce_revocation_freshness`. -/
def enforceRevocationFreshness (py : PyLib) (s : AitpServer) (now : ℚ) :
    AitpServer × Except CallExc Unit :=
  match s.revocation.posture s.cpConfigured s.revocationMaxStalenessSecs now with
  | .error exc => (s, .error (.raised exc))
  | .ok .unchecked | .ok .current => (s, .ok ())
  | .ok .degraded =>
    match s.revocation.degradedReason s.revocationMaxStalenessSecs now with
    | .error exc => (s, .error (.raised exc))
    | .ok reason =>
      -- A mode that is not recognised fails closed.
      if s.revocationFailMode ≠ "soft_fail" then
        (s, .error (forbidden
          ("revocation state degraded (" ++ reason ++ ") and fail_mode is " ++
            py.reprOf (.str s.revocationFailMode) ++
            " — refusing to honour a TCT this agent cannot check against a fresh revocation " ++
            "snapshot")))
      else ({ s with degradedServes := s.degradedServes + 1 }, .ok ())

/-- The look of a capability call at the deny-set. -/
def screenJti (s : AitpServer) (jti : Json) : Except CallExc Unit :=
  match jti with
  | .str j =>
    if j ≠ "" ∧ s.revocation.isRevoked j then
      let source := if s.revocation.isLocallyRevoked j then "local" else "issuer-list"
      .error (forbidden ("tct revoked (" ++ source ++ "): jti=" ++ j))
    else .ok ()
  | .arr _ | .obj _ =>
    -- `jti in self.local` with a value that has no hash.
    if jti.truthy then .error (.raised (.typeError "unhashable type")) else .ok ()
  | .null | .bool _ | .num _ => .ok ()

/-- The refusal of a step of the proof of possession. -/
def popRefusal : PopExc → CallExc
  | .rejected r =>
    match r.code with
    | some code => .http { status := r.status, detail := .coded code r.message }
    | none => .http { status := r.status, detail := .text r.message }
  | .raised exc =>
    match exc with
    -- A `RecursionError` is a `RuntimeError`.
    | .runtimeError msg _ | .valueError msg _ | .recursionError msg =>
      forbidden ("tct rejected: " ++ msg)
    | _ => .raised exc

/-- The 401 with a new challenge, for a call without a response. -/
def challengeCaller (sdk : Sdk) (py : PyLib) (s : AitpServer) (now : ℚ) (tctToken : String)
    (salt : Nat) : AitpServer × CallExc :=
  let (pop, result) := s.popChallenges.issue py now fun ttl =>
    sdk.newPopChallenge s.aid tctToken ttl salt
  let s := { s with popChallenges := pop }
  match result with
  | .error exc => (s, popRefusal exc)
  | .ok challenge =>
    (s, .http
      { status := 401
        detail := .coded "POP_RESPONSE_INVALID"
          ("proof of possession required: answer " ++ challengeHeader)
        challenge := some (encodeHeader py challenge) })

/-- The challenge that the response of the caller answers, with the response. -/
def consumeResponse (py : PyLib) (s : AitpServer) (now : ℚ) (popResponse : String) :
    AitpServer × Except CallExc (String × String) :=
  match decodeHeader py popResponse with
  | .error exc =>
    match exc with
    | .valueError msg _ =>
      (s, .error (popRefusal (.rejected
        { code := some "POP_RESPONSE_INVALID", message := "pop response " ++ msg })))
    | _ => (s, .error (popRefusal (.raised exc)))
  | .ok responseJson =>
    let (pop, result) := s.popChallenges.consume py now responseJson
    let s := { s with popChallenges := pop }
    match result with
    | .error exc => (s, .error (popRefusal exc))
    | .ok challenge => (s, .ok (challenge, responseJson))

/-- The refusal of the SDK. -/
def sdkRefusal (exc : PyErr) : CallExc :=
  match exc with
  | .runtimeError msg code | .valueError msg code =>
    match code with
    | some c =>
      if c = "POP_RESPONSE_INVALID" ∨ c = "POP_CHALLENGE_INVALID" then
        .http { status := 403, detail := .coded c msg }
      else forbidden ("tct rejected: " ++ msg)
    | none => forbidden ("tct rejected: " ++ msg)
  | .recursionError msg => forbidden ("tct rejected: " ++ msg)
  | _ => .raised exc

/-- The verification by the SDK, with the counters of its cache. -/
def verifyBySdk (sdk : Sdk) (s : AitpServer) (tctToken requiredGrant : String)
    (pop : String × String) (salt : Nat) : AitpServer × Except CallExc TctIdentity :=
  match sdk.verifyTct s.aid tctToken requiredGrant s.revocation.effectiveJtis pop salt with
  | .error exc => (s, .error (sdkRefusal exc))
  | .ok (identity, longer) =>
    if s.tctStore then
      if longer then ({ s with tctCacheMisses := s.tctCacheMisses + 1 }, .ok identity)
      else ({ s with tctCacheHits := s.tctCacheHits + 1 }, .ok identity)
    else (s, .ok identity)

/-- The checks of `verify_capability_tct` before the proof of possession. -/
def precheck (py : PyLib) (s : AitpServer) (now : ℚ) (tctToken : String) :
    AitpServer × Except CallExc Unit :=
  if tctToken = "" then (s, .error (forbidden "missing X-AITP-TCT"))
  else
    match decodeClaims py tctToken with
    | .error (.valueError msg _) => (s, .error (forbidden ("tct malformed: " ++ msg)))
    | .error exc => (s, .error (.raised exc))
    | .ok claims =>
      match s.screenJti ((claims.get? "jti").getD (.str "")) with
      | .error exc => (s, .error exc)
      | .ok _ =>
        match s.enforceRevocationFreshness py now with
        | (s, .error exc) => (s, .error exc)
        | (s, .ok _) =>
          let declaredIssuer := (claims.get? "iss").getD .null
          if declaredIssuer ≠ .str s.aid then
            (s, .error (forbidden
              ("tct issuer mismatch: " ++ py.strOf declaredIssuer ++ " != " ++ s.aid)))
          else (s, .ok ())

/-- `verify_capability_tct`. -/
def verifyCapabilityTct (sdk : Sdk) (py : PyLib) (s : AitpServer) (now : ℚ)
    (tctToken requiredGrant popResponse : String) (salt : Nat) :
    AitpServer × Except CallExc TctIdentity :=
  match s.precheck py now tctToken with
  | (s, .error exc) => (s, .error exc)
  | (s, .ok _) =>
    if popResponse = "" then
      let (s, exc) := s.challengeCaller sdk py now tctToken salt
      (s, .error exc)
    else
      match s.consumeResponse py now popResponse with
      | (s, .error exc) => (s, .error exc)
      | (s, .ok pop) => s.verifyBySdk sdk tctToken requiredGrant pop salt

/-! ### The refusal of a redemption -/

/-- `decode_claims(voucher)` on a claim: a value that is no text has no `split`. -/
def decodeVoucher (py : PyLib) : Json → Except PyErr (Dict String Json)
  | .str voucher => decodeClaims py voucher
  | _ => .error (.attributeError "object has no attribute 'split'")

/-- The `src_jti` of the voucher in a delegation token, unverified. -/
def sourceJti (py : PyLib) (delegationToken : String) : Except PyErr Json := do
  let claims ← decodeClaims py delegationToken
  let voucherClaims ← decodeVoucher py ((claims.get? "voucher").getD (.str ""))
  pure ((voucherClaims.get? "src_jti").getD (.str ""))

/-- `_revoked_source_of`: the source of the deny, and the jti. -/
def revokedSourceOf (py : PyLib) (s : AitpServer) (delegationToken : String) :
    Except PyErr (Option (String × String)) :=
  match sourceJti py delegationToken with
  | .error (.valueError _ _) | .error (.attributeError _) => .ok none
  | .error exc => .error exc
  | .ok srcJti =>
    if srcJti.truthy then
      match srcJti with
      | .str j =>
        if s.revocation.isRevoked j then
          .ok (some (if s.revocation.isLocallyRevoked j then "local" else "issuer-list", j))
        else .ok none
      | .arr _ | .obj _ =>
        -- `jti in self.local` with a value that has no hash.
        .error (.typeError "unhashable type")
      | .null | .bool _ | .num _ => .ok none
    else .ok none

end AitpServer

end AitpPlayground.Agents
