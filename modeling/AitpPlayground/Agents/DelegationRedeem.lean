import AitpPlayground.Agents.AgentAdmin
import AitpPlayground.Agents.AgentSystem

/-!
# `AitpPlayground.Agents.DelegationRedeem`: the redemption of a delegation

`redeem_delegation` (`agents/base/aitp_server.py`, route `/aitp/delegation/redeem`) takes a
delegation token from a delegatee and mints a new TCT for it. From the body of the request on it
is sync, so a redemption is one function here, like a capability call.

`cfg` is `bootstrap["aitp"]`. `servingStep` is an agent that serves redemptions beside its other
steps.
-/

set_option autoImplicit false

namespace AitpPlayground.Agents

open AitpPlayground.Lib

/-- The view of a verified delegation. -/
structure VerifiedDelegation where
  delegatee : String
  grants : List String
deriving DecidableEq

/-- The functions of the SDK that a redemption calls. -/
structure RedeemSdk where
  sdkVersion : String
  /-- `sdk_features.has(MULTIHOP_DELEGATION)`. -/
  hasMultihopDelegation : Bool
  verifyDelegation (token aid : String) (issuerManifests : List String)
    (revokedJtis : Finset String) (salt : Nat) : Except PyErr VerifiedDelegation
  verifyDelegationMultihop (token aid : String) (issuerManifests : List String)
    (maxDelegationHops : Int) (revokedJtis : Finset String) (salt : Nat) :
    Except PyErr VerifiedDelegation
  issueTctForDelegatee (aid : String) (verified : VerifiedDelegation) (salt : Nat) :
    Except PyErr String

/-- A `Response`. -/
structure RedeemReply where
  status : Nat
  text : String
deriving DecidableEq

/-- How a delegation is to be verified: in a single hop, or in up to so many. -/
inductive HopPolicy where
  | single
  | multihop (maxDelegationHops : Int)
deriving DecidableEq

/-- What a request asks for, once its body is checked. -/
structure RedeemRequest where
  delegationToken : Json
  issuerManifests : List String
  policy : HopPolicy

/-- `isinstance(m, str)`, with the text. -/
def asText : Json → Option String
  | .str text => some text
  | _ => none

/-- `issuer_manifests`, when it is a list of texts and not empty. -/
def manifestTexts : Json → Option (List String)
  | .arr [] => none
  | .arr items => items.mapM asText
  | _ => none

/-- `sdk_features.unavailable(MULTIHOP_DELEGATION)`. -/
def multihopUnavailable (sdk : RedeemSdk) (py : PyLib) : RedeemReply where
  status := 501
  text := py.jsonDumps (.obj
    [("error", .str ("aitp-sdk " ++ sdk.sdkVersion ++ " lacks multihop_delegation")),
     ("code", .str unavailableCode), ("feature", .str "multihop_delegation")])

/-- The part of the route before the deny-set: the request, or the refusal of its body. -/
def readRedeemRequest (sdk : RedeemSdk) (py : PyLib) (cfg : Dict String Json) (body : Json) :
    Except PyErr (Except RedeemReply RedeemRequest) := do
  let delegationToken ← body.item "delegation_token"
  match manifestTexts (← body.member "issuer_manifests") with
  | none =>
    pure (.error ⟨400, py.jsonDumps (.obj [("error", .str
      "issuer_manifests must be a non-empty list of ManifestEnvelope JSON strings")])⟩)
  | some issuerManifests =>
    let allowMultihop := ((cfg.get? "allow_multihop_delegation").getD .null).truthy
    let maxHops ← py.int ((cfg.get? "max_delegation_hops").getD (.num (.int 3)))
    if allowMultihop then
      if sdk.hasMultihopDelegation then
        pure (.ok ⟨delegationToken, issuerManifests, .multihop maxHops⟩)
      else pure (.error (multihopUnavailable sdk py))
    else pure (.ok ⟨delegationToken, issuerManifests, .single⟩)

/-- `verify_delegation` or `verify_delegation_multihop`. -/
def RedeemSdk.verify (sdk : RedeemSdk) (policy : HopPolicy) (token aid : String)
    (issuerManifests : List String) (revokedJtis : Finset String) (salt : Nat) :
    Except PyErr VerifiedDelegation :=
  match policy with
  | .single => sdk.verifyDelegation token aid issuerManifests revokedJtis salt
  | .multihop maxHops =>
    sdk.verifyDelegationMultihop token aid issuerManifests maxHops revokedJtis salt

/-- The call of the SDK. It takes a text, and a token of another type is a `TypeError`. -/
def RedeemSdk.verifyToken (sdk : RedeemSdk) (request : RedeemRequest) (aid : String)
    (revokedJtis : Finset String) (salt : Nat) : Except PyErr VerifiedDelegation :=
  match request.delegationToken with
  | .str token => sdk.verify request.policy token aid request.issuerManifests revokedJtis salt
  | _ => .error (.typeError "argument 'token': object is not an instance of 'str'")

namespace AitpServer

/-- The 403 of a delegation that the SDK refused, with the source when that is revoked. -/
def delegationRejected (py : PyLib) (s : AitpServer) (delegationToken : Json) (exc : PyErr) :
    Except CallExc RedeemReply :=
  -- `decode_claims` of what is no text is an `AttributeError`, which says nothing.
  match (match delegationToken with
    | .str token => s.revokedSourceOf py token
    | _ => .ok none) with
  | .error raised => .error (.raised raised)
  | .ok revoked =>
    let source := match revoked with
      | some (source, srcJti) => " (source revoked (" ++ source ++ "): src_jti=" ++ srcJti ++ ")"
      | none => ""
    .ok ⟨403, py.jsonDumps
      (.obj [("error", .str ("delegation rejected: " ++ exc.text ++ source))])⟩

/-- `redeem_delegation`, from the parsed body on. -/
def redeemDelegation (sdk : RedeemSdk) (py : PyLib) (cfg : Dict String Json) (s : AitpServer)
    (now : ℚ) (body : Json) (salt : Nat) : AitpServer × Except CallExc RedeemReply :=
  match readRedeemRequest sdk py cfg body with
  | .error exc => (s, .error (.raised exc))
  | .ok (.error refusal) => (s, .ok refusal)
  | .ok (.ok request) =>
    let denySet := s.revocation.effectiveJtis
    match s.enforceRevocationFreshness py now with
    | (s, .error exc) => (s, .error exc)
    | (s, .ok _) =>
      match sdk.verifyToken request s.aid denySet salt with
      | .error exc =>
        if isRuntimeError exc || isValueError exc then
          (s, s.delegationRejected py request.delegationToken exc)
        else (s, .error (.raised exc))
      | .ok verified =>
        match sdk.issueTctForDelegatee s.aid verified salt with
        | .error exc => (s, .error (.raised exc))
        | .ok freshTct => (s, .ok ⟨200, freshTct⟩)

end AitpServer

/-- A redemption by an agent that runs. -/
def AgentSystem.redeem (sdk : RedeemSdk) (py : PyLib) (cfg : Dict String Json) (s : AgentSystem)
    (body : Json) (salt : Nat) : AgentSystem × Except CallExc RedeemReply :=
  let (server, result) := s.server.redeemDelegation sdk py cfg s.clock body salt
  ({ s with server }, result)

/-- The steps of an agent, and redemptions. -/
inductive ServingLabel where
  | agent (step : AgentLabel)
  | redeem (body : Json) (salt : Nat)

/-- One step. -/
def servingStep (sdk : Sdk) (redeemSdk : RedeemSdk) (py : PyLib) (cfg : Dict String Json)
    (s : AgentSystem) : ServingLabel → Option AgentSystem
  | .agent step => agentStep sdk py s step
  | .redeem body salt => some (s.redeem redeemSdk py cfg body salt).1

end AitpPlayground.Agents
