import AitpPlayground.Agents.AgentProcess
import AitpPlayground.Lib.Lts
import Mathlib.Data.Finset.Sort
import Mathlib.Data.String.Basic

/-!
# `AitpPlayground.Agents.AgentAdmin`: the admin routes of an agent

`build_admin_router` (`agents/base/agent_admin.py`) has the routes by which the playground
drives an agent: it initiates a handshake, calls a capability of a peer, renews, delegates
and redeems, revokes, and builds and checks session bundles. `rotate_keys` and `trust_peers`
are admin routes of `AitpServer` (`agents/base/aitp_server.py`).

Each route is code over the process, in the order of the source, with the parsed body of the
request. `AdminSdk` has the functions of the SDK that the routes call. Its `salt` stands for
what a call sees beyond its arguments.

`enroll_with_cp` and `self_execute` are left out. The first sends the manifest of the server
and the second runs a handler of the worker, and neither touches what is modelled here.
-/

set_option autoImplicit false

namespace AitpPlayground.Agents

open AitpPlayground.Lib

/-- The functions of the SDK that the admin routes call. An `AitpAgent` is named by its AID. -/
structure AdminSdk where
  /-- `sdk_features.has(TCT_RENEWAL)` and `sdk_features.has(SESSION_BUNDLE)`. -/
  hasTctRenewal : Bool
  hasSessionBundle : Bool
  verifyManifestJson (envelopeJson : String) (salt : Nat) : Except PyErr Unit
  newSession (aid : String) (peerAid : Json) (salt : Nat) : Except PyErr Unit
  buildHello (aid peerManifestJson : String) (grants : List Json) (salt : Nat) :
    Except PyErr String
  processHelloAck (aid ack sessionId : String) (salt : Nat) : Except PyErr String
  complete (aid response : String) (revokedJtis : Finset String) (salt : Nat) :
    Except PyErr String
  signPopResponse (aid challengeJson : String) (salt : Nat) : Except PyErr String
  buildRenewalRequest (aid : String) (token : Json) (salt : Nat) : Except PyErr String
  processRenewalRequest (aid payload : String) (manifestExp ttlSecs : Int)
    (revokedJtis : Finset String) (salt : Nat) : Except PyErr String
  /-- `SessionBundleBuilder(agent)` with its participants, up to `build`. -/
  buildSessionBundle (aid : String) (participants : List (Json × Json)) (salt : Nat) :
    Except PyErr String
  verifySessionBundle (aid : String) (envelope : Json) (coordinatorManifest : String)
    (salt : Nat) : Except PyErr Json
  buildDelegation (aid : String) (voucher delegateeAid : Json) (scope : List Json) (ttl : Json)
    (salt : Nat) : Except PyErr Json
  /-- `agent.new_responder(pinned_keys=...)`. -/
  newResponder (aid : String) (pinnedKeys : List String) (salt : Nat) : Except PyErr Unit

/-- An SDK with every feature that refuses everything. Concrete runs are evaluated over copies
of it. -/
def AdminSdk.refusing : AdminSdk where
  hasTctRenewal := true
  hasSessionBundle := true
  verifyManifestJson _ _ := .error (.runtimeError "refused" none)
  newSession _ _ _ := .error (.runtimeError "refused" none)
  buildHello _ _ _ _ := .error (.runtimeError "refused" none)
  processHelloAck _ _ _ _ := .error (.runtimeError "refused" none)
  complete _ _ _ _ := .error (.runtimeError "refused" none)
  signPopResponse _ _ _ := .error (.runtimeError "refused" none)
  buildRenewalRequest _ _ _ := .error (.runtimeError "refused" none)
  processRenewalRequest _ _ _ _ _ _ := .error (.runtimeError "refused" none)
  buildSessionBundle _ _ _ := .error (.runtimeError "refused" none)
  verifySessionBundle _ _ _ _ := .error (.runtimeError "refused" none)
  buildDelegation _ _ _ _ _ _ := .error (.runtimeError "refused" none)
  newResponder _ _ _ := .error (.runtimeError "refused" none)

/-- An SDK that accepts everything, and takes what a peer commits to as it is. -/
def AdminSdk.accepting : AdminSdk :=
  { AdminSdk.refusing with
      verifyManifestJson := fun _ _ => .ok ()
      newSession := fun _ _ _ => .ok ()
      buildHello := fun _ _ _ _ => .ok "hello"
      processHelloAck := fun _ _ _ _ => .ok "commit"
      complete := fun _ response _ _ => .ok response
      buildRenewalRequest := fun _ _ _ => .ok "renewal"
      buildDelegation := fun _ _ _ _ _ _ => .ok (.str "delegation")
      newResponder := fun _ _ _ => .ok () }

/-- The exception is a `RuntimeError`. -/
def isRuntimeError : PyErr → Bool
  | .runtimeError _ _ | .recursionError _ => true
  | _ => false

/-- The exception is a `ValueError`. -/
def isValueError : PyErr → Bool
  | .valueError _ _ => true
  | _ => false

/-- `classify_manifest_verify_failure`. -/
def classifyManifestVerifyFailure : PyErr → String
  | .valueError _ code => code.getD "malformed"
  | .runtimeError _ code => code.getD "unknown"
  | _ => "unknown"

section
variable (sdk : AdminSdk) (py : PyLib)

/-- `_verify_peer_manifest`. -/
def verifyPeerManifest (envelopeJson sourceUrl : String) (salt : Nat) : Route Json :=
  match sdk.verifyManifestJson envelopeJson salt with
  | .error exc => throw (.status 502
      ("peer manifest from " ++ sourceUrl ++ " failed verification (" ++
        classifyManifestVerifyFailure exc ++ "): " ++ exc.text ++
        ". Refusing to read an AID or endpoint out of an unverified manifest."))
  | .ok _ =>
    match py.jsonLoads envelopeJson with
    | .error exc =>
      if isValueError exc then
        throw (.status 502
          ("peer manifest from " ++ sourceUrl ++ " is not JSON: " ++ exc.text))
      else throw (.raised exc)
    | .ok envelope =>
      match envelope.dict?.bind fun d => d.get? "manifest" with
      | some (.obj manifest) => pure (.obj manifest)
      | _ => throw (.status 502
          ("peer manifest from " ++ sourceUrl ++ " has no `manifest` body"))

/-! ### Handshake -/

/-- What the peer of a handshake answers. -/
structure HandshakeAnswers where
  manifest : HttpAnswer
  hello : HttpAnswer
  commit : HttpAnswer

/-- The grants to ask for: the requested ones, or all that are offered. -/
def grantsToRequest (requested : Json) (offered : List Json) : Except PyErr (List Json) :=
  match requested with
  | .null => .ok offered
  | .bool _ | .num _ => .error (.typeError "object has no len()")
  | .str _ | .arr _ | .obj _ => do
    let items ← requested.iter
    pure (if items = [] then offered else items)

/-- `_raise_if_peer_refused`. -/
def raiseIfPeerRefused (r : HttpResponse) (step : String) : Route Unit :=
  if r.isSuccess then pure ()
  else throw (.status 502
    ("peer refused " ++ step ++ " (" ++ toString r.status ++ "): " ++ r.text))

/-- `oidc.mint_jwt_for(audience=..., agent=agent)`, for an agent with an OIDC identity. -/
def mintCallback : Route Unit := do
  if (← get).oidc then Route.useKey .mintJwt fun _ => .ok () else pure ()

/-- The hello of a handshake: the endpoint of the peer. -/
def buildHelloFor (body : Json) (manifest : HttpAnswer) (salt : Nat) : Route Json := do
  let peerManifestUrl ← Route.lift (body.item "peer_manifest_url")
  let requested ← Route.lift (body.member "requested_grants")
  let manifestRes ← Route.await manifest
  Route.raiseForStatus manifestRes
  let peerManifest ← verifyPeerManifest sdk py manifestRes.text (py.strOf peerManifestUrl) salt
  let peerAid ← Route.lift (peerManifest.item "aid")
  Route.useKey .newSession fun aid => sdk.newSession aid peerAid salt
  let offered ← Route.lift
    (match peerManifest.dict?.bind fun d => d.get? "offered_capabilities" with
      | none => .ok []
      | some offered => offered.iter)
  let grants ← Route.lift (grantsToRequest requested offered)
  mintCallback
  let _hello ← Route.useKey .buildHello fun aid => sdk.buildHello aid manifestRes.text grants salt
  Route.lift (peerManifest.item "handshake_endpoint")

/-- `session.complete`, with the refusal of the SDK as a 403. -/
def completeSession (response : String) (salt : Nat) : Route Json := do
  let revoked := (← get).revocation.effectiveJtis
  tryCatch
    (Route.useKey .complete fun aid => (sdk.complete aid response revoked salt).bind py.jsonLoads)
    fun exc =>
      match exc with
      | .raised e =>
        if isRuntimeError e then throw (.status 403 ("handshake rejected: " ++ e.text))
        else throw exc
      | _ => throw exc

/-- The exchange of a handshake: the endpoint of the peer, the session, and what `complete`
returned. -/
def handshakeExchange (body : Json) (peer : HandshakeAnswers) (salt : Nat) :
    Route (String × String × Json) := do
  match ← buildHelloFor sdk py body peer.manifest salt with
  | .str helloEp =>
    let r1 ← Route.await peer.hello
    raiseIfPeerRefused r1 "hello"
    let sessionId ← Act.orThrow (.raised (.keyError "x-aitp-session-id"))
      (r1.headers.get? "x-aitp-session-id")
    let _commit ← Route.useKey .processHelloAck fun aid =>
      sdk.processHelloAck aid r1.text sessionId salt
    let r2 ← Route.await peer.commit
    raiseIfPeerRefused r2 "commit"
    let completed ← completeSession sdk py r2.text salt
    pure (helloEp, sessionId, completed)
  | _ => throw (.raised (.typeError "Invalid type for url. Expected str or httpx.URL"))

/-- The reply of `initiate_handshake`. -/
def handshakeReply (claims : Dict String Json) (sessionId : String) (peerPort : Int) : Json :=
  .obj
    [("grants", (claims.get? "grants").getD (.arr [])),
     ("session_id", .str sessionId),
     ("peer_aid", (claims.get? "iss").getD .null),
     ("peer_port", .num (.int peerPort)),
     ("jti", (claims.get? "jti").getD .null)]

/-- Holds the token of a response, and its voucher when it has one. -/
def holdFrom (peerPort : Int) (token response : Json) : Route Unit := do
  Route.holdTct peerPort token
  Route.holdVoucher peerPort (← Route.lift (response.member "grant_voucher"))

/-- The tokens of a handshake: what `complete` returned, and what the route makes of it. -/
def holdCompleted (endpoint sessionId : String) (completed : Json) : Route Json := do
  Route.nextResponse
  let token ← Route.lift (completed.item "tct")
  let claims ← Route.lift (claimsOf py token)
  let peerPort ← Route.lift (portFromUrl py endpoint)
  holdFrom peerPort token completed
  pure (handshakeReply claims sessionId peerPort)

/-- `initiate_handshake`. -/
def initiateHandshake (body : Json) (peer : HandshakeAnswers) (salt : Nat) : Route Json := do
  let (endpoint, sessionId, completed) ← handshakeExchange sdk py body peer salt
  holdCompleted py endpoint sessionId completed

/-! ### Capability calls -/

/-- The token held for a port, or the 412. -/
def heldToken (port : Int) : Route Json := do
  match (← get).heldTcts.get? port with
  | some token =>
    if token.truthy then pure token
    else throw (.status 412
      ("No TCT held for port " ++ toString port ++ " — run handshake first"))
  | none => throw (.status 412
      ("No TCT held for port " ++ toString port ++ " — run handshake first"))

/-- `url.rstrip("/")`. -/
def rstripSlash (url : String) : String :=
  String.ofList (url.toList.reverse.dropWhile fun c => decide (c = '/')).reverse

/-- The content of a capability call. -/
def payloadContent : Json → String
  | .arr items => py.jsonDumps (.arr items)
  | .obj members => py.jsonDumps (.obj members)
  | .null => ""
  | payload => py.strOf payload

/-- What the route returns for a response: the body of the peer, or the rejection. -/
def invokeReply (r : HttpResponse) : Json :=
  let body := match py.jsonLoads r.text with
    | .ok value => value
    | .error _ => .str r.text
  if r.isSuccess then body
  else .obj [("error", .bool true), ("status_code", .num (.int r.status)), ("body", body)]

/-- The base URL of a capability call, `peer_base_url` or the loopback origin of the port. -/
def peerBaseUrl (given : Json) (tls : Bool) (peerPort : Int) : Except PyErr String :=
  if given.truthy then
    match given with
    | .str url => .ok (rstripSlash url)
    | _ => .error (.attributeError "object has no attribute 'rstrip'")
  else .ok (rstripSlash (Route.origin tls peerPort))

/-- The answer to the challenge of an issuer, or what the route returns without one. -/
def answerChallenge (challenge : String) (salt : Nat) : Route (Except Json String) :=
  tryCatch
    (do
      let challengeJson ← Route.lift (decodeHeader py challenge)
      let response ← Route.useKey .signPopResponse fun aid =>
        sdk.signPopResponse aid challengeJson salt
      pure (.ok response))
    fun exc =>
      match exc with
      | .raised e =>
        if isRuntimeError e || isValueError e then
          pure (.error (.obj
            [("error", .bool true), ("status_code", .num (.int 401)),
             ("body", .obj [("detail", .str ("cannot answer PoP challenge: " ++ e.text))])]))
        else throw exc
      | _ => throw exc

/-- Sends a capability call. -/
def sendCall (call : SentCall) : Route Unit := modify fun p => { p with sent := call :: p.sent }

/-- What becomes of a call that was sent, with what the peer answers to it and to the repeated
call. -/
def awaitReply (call : SentCall) (first second : HttpAnswer) (salt : Nat) : Route Json := do
  let r ← Route.await first
  let challenge := (r.headers.get? challengeHeader).getD ""
  if r.status = 401 ∧ challenge ≠ "" then
    -- One answer to the challenge of the issuer, and the same call again.
    match ← answerChallenge sdk py challenge salt with
    | .error refusal => pure refusal
    | .ok response =>
      sendCall { call with popResponse := some (encodeHeader py response) }
      let r ← Route.await second
      pure (invokeReply py r)
  else pure (invokeReply py r)

/-- The capability call with a token. -/
def callPeer (call : SentCall) (first second : HttpAnswer) (salt : Nat) : Route Json := do
  sendCall call
  awaitReply sdk py call first second salt

/-- `invoke_capability`. -/
def invokeCapability (body : Json) (first second : HttpAnswer) (salt : Nat) : Route Json := do
  let peerPort ← Route.lift ((body.item "peer_port").bind py.int)
  let capability ← Route.lift (body.item "capability")
  let payload ← Route.lift (body.member "payload")
  let given ← Route.lift (body.member "peer_base_url")
  let tls := (← get).loopbackTls
  let base ← Route.lift (peerBaseUrl given tls peerPort)
  match ← heldToken peerPort with
  | .str tct =>
    callPeer sdk py
      { url := base ++ "/capabilities/" ++ py.strOf capability
        tct
        content := payloadContent py payload
        popResponse := none }
      first second salt
  | _ => throw (.raised (.typeError "Header value must be str or bytes"))

/-- `get_held_tct`. -/
def getHeldTct (peerPort : Int) : Route Json := do
  let token ← heldToken peerPort
  let aid ← Route.useKey .heldTctAid fun aid => .ok aid
  pure (.obj [("aid", .str aid), ("peer_port", .num (.int peerPort)), ("tct_token", token)])

/-! ### Renewal -/

/-- `sdk_features.UNAVAILABLE_CODE`. -/
def unavailableCode : String := "SDK_FEATURE_UNAVAILABLE"

/-- The 501 that a route returns without a feature of the SDK. -/
def unavailable (feature : String) : AdminExc :=
  .response 501 (py.jsonDumps (.obj [("code", .str unavailableCode), ("feature", .str feature)]))

/-- `_is_sdk_feature_refusal`. -/
def isSdkFeatureRefusal (r : HttpResponse) : Except PyErr Bool :=
  if r.status ≠ 501 then .ok false
  else
    match py.jsonLoads r.text with
    | .error exc => if isValueError exc then .ok false else .error exc
    | .ok body =>
      .ok (decide ((body.dict?.bind fun d => d.get? "code") = some (.str unavailableCode)))

/-- The tokens of a renewal: `json.loads(r.text)` and what the route makes of it. -/
def holdRenewed (peerPort : Int) (text : String) : Route Json := do
  Route.nextResponse
  let renewed ← Route.lift (py.jsonLoads text)
  let newToken ← Route.lift (renewed.item "tct")
  holdFrom peerPort newToken renewed
  -- The claims are read after the token is held.
  let claims ← Route.lift (claimsOf py newToken)
  pure (.obj
    [("jti", (claims.get? "jti").getD .null),
     ("expires_at", (claims.get? "exp").getD .null),
     ("issuer", (claims.get? "iss").getD .null),
     ("subject", (claims.get? "sub").getD .null)])

/-- `renew_tct` up to the answer of the issuer's `process_renewal`: the port and the text of
the answer. -/
def renewExchange (body : Json) (answer : HttpAnswer) (salt : Nat) : Route (Int × String) := do
  let peerPort ← Route.lift ((body.item "peer_port").bind py.int)
  let current ← heldToken peerPort
  if sdk.hasTctRenewal then
    let _request ← Route.useKey .buildRenewalRequest fun aid =>
      sdk.buildRenewalRequest aid current salt
    let r ← Route.await answer
    if ← Route.lift (isSdkFeatureRefusal py r) then
      -- The refusal of the issuer is handed back as it is.
      throw (.response 501 r.text)
    else
      Route.raiseForStatus r
      pure (peerPort, r.text)
  else throw (unavailable py "tct_renewal")

/-- `renew_tct`. -/
def renewTct (body : Json) (answer : HttpAnswer) (salt : Nat) : Route Json := do
  let (peerPort, text) ← renewExchange sdk py body answer salt
  holdRenewed py peerPort text

/-- `process_renewal`: the envelope for the holder. `manifestExp` is the `expires_at` of the
manifest the agent serves, and `ttlSecs` the configured lifetime. -/
def processRenewal (requestPayload : String) (manifestExp ttlSecs : Int) (salt : Nat) :
    Route Json := do
  if sdk.hasTctRenewal then
    let revoked := (← get).revocation.effectiveJtis
    let envelope ← tryCatch
      (Route.useKey .processRenewalRequest fun aid =>
        sdk.processRenewalRequest aid requestPayload manifestExp ttlSecs revoked salt)
      fun exc =>
        match exc with
        | .raised e =>
          if isRuntimeError e then throw (.status 409 ("renewal rejected: " ++ e.text))
          else if isValueError e then throw (.status 400 ("renewal rejected: " ++ e.text))
          else throw exc
        | _ => throw exc
    let newToken ← Route.lift ((py.jsonLoads envelope).bind fun value => value.item "tct")
    let _claims ← Route.lift (claimsOf py newToken)
    pure (.str envelope)
  else throw (unavailable py "tct_renewal")

/-! ### Session bundles -/

/-- A participant of a bundle, `p["aid"]` and `p.get("tct_token") or p["tct_envelope"]`. -/
def participantOf (p : Json) : Except PyErr (Json × Json) := do
  let aid ← p.item "aid"
  let token ← p.member "tct_token"
  let tct ← if token.truthy then .ok token else p.item "tct_envelope"
  pure (aid, tct)

/-- `export_session_bundle`. `issued_tcts` is empty: no code of the agents writes it. -/
def exportSessionBundle (body : Json) (sessionId : String) (salt : Nat) : Route Json := do
  let given ← Route.lift (body.member "participant_tcts")
  let provided ← Route.lift (if given.truthy then given.iter else .ok [])
  if provided = [] then
    throw (.status 412 "no participants — handshake first or pass participant_tcts")
  else if sdk.hasSessionBundle then
    -- The builder is made from the key before the participants are read.
    let key ← Route.useKey .sessionBundleBuilder fun aid => .ok aid
    let participants ← Route.lift (provided.mapM participantOf)
    let envelope ← Route.lift (sdk.buildSessionBundle key participants salt)
    pure (.obj
      [("bundle_envelope", .str envelope), ("session_id", .str sessionId),
       ("participant_aids", .arr (participants.map Prod.fst))])
  else throw (unavailable py "session_bundle")

/-- `verify_session_bundle_endpoint`, with the answer of the coordinator. -/
def verifySessionBundleEndpoint (body : Json) (manifest : HttpAnswer) (salt : Nat) :
    Route Json := do
  let envelope ← Route.lift (body.item "bundle_envelope")
  let url ← Route.lift (body.member "coordinator_manifest_url")
  if url.truthy then
    if sdk.hasSessionBundle then
      let mr ← Route.await manifest
      Route.raiseForStatus mr
      -- The SDK verifies the bundle against a manifest that was verified.
      let _manifest ← verifyPeerManifest sdk py mr.text (py.strOf url) salt
      tryCatch
        (Route.useKey .verifySessionBundle fun aid =>
          sdk.verifySessionBundle aid envelope mr.text salt)
        fun exc =>
          match exc with
          | .raised e =>
            if isRuntimeError e then throw (.status 403 ("session bundle rejected: " ++ e.text))
            else if isValueError e then
              throw (.status 400 ("session bundle rejected: " ++ e.text))
            else throw exc
          | _ => throw exc
    else throw (unavailable py "session_bundle")
  else throw (.status 400
    "coordinator_manifest_url is required to verify a session bundle")

/-! ### Delegation -/

/-- `issue_delegation`, with the answer of the delegatee. -/
def issueDelegation (body : Json) (manifest : HttpAnswer) (salt : Nat) : Route Json := do
  let heldPeerPort ← Route.lift ((body.item "held_tct_peer_port").bind py.int)
  let url ← Route.lift (body.item "delegatee_manifest_url")
  let scope ← Route.lift ((body.item "scope").bind Json.iter)
  let ttl ← Route.lift (body.member "ttl_secs")
  match ((← get).heldVouchers.get? heldPeerPort).filter Json.truthy with
  | none => throw (.status 412
      ("No grant voucher held for port " ++ toString heldPeerPort ++ " — run handshake first"))
  | some voucher =>
    let r ← Route.await manifest
    Route.raiseForStatus r
    let delegatee ← verifyPeerManifest sdk py r.text (py.strOf url) salt
    let delegateeAid ← Route.lift (delegatee.item "aid")
    let token ← Route.useKey .buildDelegation fun aid =>
      sdk.buildDelegation aid voucher delegateeAid scope ttl salt
    pure (.obj
      [("delegation_token", token), ("delegatee_aid", delegateeAid), ("scope", .arr scope)])

/-- Fetches and verifies the manifests of the issuers, one after the other. -/
def fetchIssuerManifests (salt : Nat) : List (Json × HttpAnswer) → Route Unit
  | [] => pure ()
  | (url, answer) :: rest => do
    let mr ← Route.await answer
    Route.raiseForStatus mr
    let _manifest ← verifyPeerManifest sdk py mr.text (py.strOf url) salt
    fetchIssuerManifests salt rest

/-- The reason of a grantor that refused with 401 or 403. -/
def redeemRefusal (r : HttpResponse) : AdminExc :=
  match py.jsonLoads r.text with
  | .ok body =>
    match body.member "error" with
    | .ok reason => .status r.status (if reason.truthy then py.strOf reason else r.text)
    | .error _ => .status r.status r.text
  | .error exc => if isValueError exc then .status r.status r.text else .raised exc

/-- The tokens of a redemption, with the claims read after the token is held. -/
def readRedeemed (peerPort : Int) (text : String) : Route Unit := do
  let redeemed ← Route.lift (py.jsonLoads text)
  let token ← Route.lift (redeemed.item "tct")
  holdFrom peerPort token redeemed
  let _claims ← Route.lift (claimsOf py token)
  pure ()

/-- What becomes of a redemption that was not read: the text is held as it is. -/
def redeemFallback (peerPort : Int) (text : String) (exc : AdminExc) : Route Unit :=
  match exc with
  | .raised (.valueError _ _) | .raised (.keyError _) => Route.holdTct peerPort (.str text)
  | _ => throw exc

/-- The end of `redeem_delegation`. -/
def holdRedeemed (peerPort : Int) (text : String) : Route Unit := do
  Route.nextResponse
  tryCatch (readRedeemed py peerPort text) (redeemFallback peerPort text)

/-- `redeem_delegation` up to the answer of the grantor, with the answers of the issuers by
the position of their URLs: the port and the text of the answer. -/
def redeemExchange (body : Json) (manifests : Nat → HttpAnswer) (answer : HttpAnswer)
    (salt : Nat) : Route (Int × String) := do
  let _redeemUrl ← Route.lift (body.item "redeem_url")
  let _token ← Route.lift (body.item "delegation_token")
  let peerPort ← Route.lift ((body.item "peer_port").bind py.int)
  let given ← Route.lift (body.member "issuer_manifest_urls")
  if given.truthy then
    let urls ← Route.lift given.iter
    fetchIssuerManifests sdk py salt (urls.zipIdx.map fun url => (url.1, manifests url.2))
    let r ← Route.await answer
    if r.status = 401 ∨ r.status = 403 then throw (redeemRefusal py r)
    else
      Route.raiseForStatus r
      pure (peerPort, r.text)
  else throw (.status 400 "issuer_manifest_urls is required to redeem a delegation")

/-- `redeem_delegation`. -/
def redeemDelegation (body : Json) (manifests : Nat → HttpAnswer) (answer : HttpAnswer)
    (salt : Nat) : Route Json := do
  let (peerPort, text) ← redeemExchange sdk py body manifests answer salt
  holdRedeemed py peerPort text
  pure (.obj [("ok", .bool true), ("peer_port", .num (.int peerPort))])

/-! ### Revocation, rotation, trust -/

/-- `revoke_tct`. -/
def revokeTct (body : Json) : Route Json :=
  match (body.item "jti").bind (uuidOf py) with
  | .ok jti => do
    modify fun p => { p with revocation := p.revocation.revokeLocal jti }
    pure (.obj
      [("revoked", .str jti),
       ("total_revoked", .num (.int (← get).revocation.effectiveJtis.card))])
  | .error exc =>
    match exc with
    | .keyError _ | .typeError _ | .valueError _ _ | .attributeError _ =>
      throw (.status 400 "jti must be a UUID")
    | _ => throw (.raised exc)

/-- `rotate_keys`, with the new key, the manifest it mints, and the snapshot that the refresh
at its end leaves. -/
def rotateKeys (newAid : String) (minted : Except PyErr String) (snapshot : Option Snapshot) :
    Route Json := do
  let old ← get
  let newManifest ← Route.lift minted
  modify fun p => { p with
    serverAid := newAid
    manifestJson := newManifest
    manifestAid := newAid
    rotations := p.rotations + 1
    revocation := { p.revocation with snapshot } }
  pure (.obj
    [("aid", .str newAid), ("old_aid", .str old.serverAid),
     ("manifest_replaced", .bool (decide (old.manifestJson ≠ newManifest)))])

/-- The AIDs of a `trust_peers` request, when each is a text that is not empty. -/
def aidList : Json → Option (List String)
  | .arr items => items.mapM fun item =>
    match item with
    | .str aid => if aid = "" then none else some aid
    | _ => none
  | _ => none

/-- The trust store that a `trust_peers` request asks for. -/
def trustCandidate (p : AgentProcess) (replace : Json) (aids : List String) : Finset String :=
  if replace.truthy then aids.toFinset else p.trustedPeerAids ∪ aids.toFinset

/-- The refusal of a trust store. -/
def trustRefusal (exc : PyErr) : AdminExc :=
  if isValueError exc then .status 400 exc.text else .raised exc

/-- The reply of `trust_peers`. -/
def trustReply (aids : Finset String) : Json :=
  .obj [("trusted_peer_aids", .arr ((aids.sort (· ≤ ·)).map .str))]

/-- `trust_peers`. -/
def trustPeers (body : Json) (salt : Nat) : Route Json := do
  let given ← Route.lift (body.member "aids")
  let aids ← Act.orThrow (.status 400 "aids must be a list of AID strings") (aidList given)
  let replace ← Route.lift (body.member "replace")
  let p ← get
  let candidate := trustCandidate p replace aids
  -- The SDK judges the store before it is put in place.
  Act.ofExcept trustRefusal (sdk.newResponder p.serverAid (candidate.sort (· ≤ ·)) salt)
  modify fun p => { p with trustedPeerAids := candidate }
  pure (trustReply candidate)

/-- `_fresh_manifest_json` when the manifest is due: the key of the server mints it again, and
a mint that fails leaves the old one. -/
def freshManifest (minted : Except PyErr String) : Route Unit :=
  match minted with
  | .ok manifest => modify fun p => { p with manifestJson := manifest, manifestAid := p.serverAid }
  | .error _ => pure ()

/-! ### Sequences of requests -/

/-- A request to an agent, with what the world answers while it is served. -/
inductive AdminCall where
  | initiateHandshake (body : Json) (peer : HandshakeAnswers) (salt : Nat)
  | invoke (body : Json) (first second : HttpAnswer) (salt : Nat)
  | heldTct (peerPort : Int)
  | renewTct (body : Json) (answer : HttpAnswer) (salt : Nat)
  | processRenewal (payload : String) (manifestExp ttlSecs : Int) (salt : Nat)
  | exportSessionBundle (body : Json) (sessionId : String) (salt : Nat)
  | verifySessionBundle (body : Json) (manifest : HttpAnswer) (salt : Nat)
  | delegate (body : Json) (manifest : HttpAnswer) (salt : Nat)
  | redeemDelegation (body : Json) (manifests : Nat → HttpAnswer) (answer : HttpAnswer)
    (salt : Nat)
  | revokeTct (body : Json)
  | trustPeers (body : Json) (salt : Nat)
  | rotateKeys (newAid : String) (minted : Except PyErr String) (snapshot : Option Snapshot)
  /-- `GET` of the manifest. -/
  | getManifest (minted : Except PyErr String)
  /-- A handshake by a peer, a capability call by a peer, a redemption by a peer. These run on the
  key of the server for acks and new tokens, which `uses` does not record, and leave the rest of
  what is modelled here alone. -/
  | served

/-- The route of a request. -/
def AdminCall.route : AdminCall → Route Json
  | .initiateHandshake body peer salt => Agents.initiateHandshake sdk py body peer salt
  | .invoke body first second salt => invokeCapability sdk py body first second salt
  | .heldTct peerPort => getHeldTct peerPort
  | .renewTct body answer salt => Agents.renewTct sdk py body answer salt
  | .processRenewal payload manifestExp ttlSecs salt =>
    Agents.processRenewal sdk py payload manifestExp ttlSecs salt
  | .exportSessionBundle body sessionId salt =>
    Agents.exportSessionBundle sdk py body sessionId salt
  | .verifySessionBundle body manifest salt =>
    verifySessionBundleEndpoint sdk py body manifest salt
  | .delegate body manifest salt => issueDelegation sdk py body manifest salt
  | .redeemDelegation body manifests answer salt =>
    Agents.redeemDelegation sdk py body manifests answer salt
  | .revokeTct body => Agents.revokeTct py body
  | .trustPeers body salt => Agents.trustPeers sdk body salt
  | .rotateKeys newAid minted snapshot => Agents.rotateKeys newAid minted snapshot
  | .getManifest minted => do
    freshManifest minted
    pure (.str (← get).manifestJson)
  | .served => pure .null

/-- One request, answered or refused. -/
def adminStep (p : AgentProcess) (c : AdminCall) : Option AgentProcess :=
  some ((c.route sdk py).after p)

end

end AitpPlayground.Agents
