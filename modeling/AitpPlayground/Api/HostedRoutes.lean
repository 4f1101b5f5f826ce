import AitpPlayground.Api.Deps
import AitpPlayground.Api.Hosted
import AitpPlayground.Hosting.AdminChannel
import AitpPlayground.Hosting.Hosted
import AitpPlayground.Runner.Helpers

/-!
# `AitpPlayground.Api.HostedRoutes`: the calls that drive a hosted agent

`trust_peer`, `resolve_and_handshake` and `invoke` (`src/aitp_playground/api/hosted.py`) look up
a hosted agent, ask other hosts about a peer, and turn to the agent with an admin request. A
call awaits in between, and the agents come and go meanwhile. So a call has stages, and the
record it found at the start is the one whose port it turns to at the end.

A `Federation` is the manager with the processes of its hosted agents, and the calls by number.
Behind a port is the hosted agent of the table that listens there. Other processes of the
service are left out, and `host` is one step, as in `HostedAgentManager`.

`pinned` is not in the code, and no route reads it: the process that a `trust_peer` call put an
AID into, with the AID.
-/

set_option autoImplicit false

namespace AitpPlayground.Api

open AitpPlayground.Lib
open AitpPlayground.Agents
open AitpPlayground.Hosting
open AitpPlayground.Runner (Link Reply textList optionalText)

/-! ### Calls -/

/-- The body of a request. -/
inductive HostedCall where
  | trustPeer (peerDid : String)
  | resolveAndHandshake (peerDid : String) (requestedGrants : Option (List String))
  | invoke (peerPort : Int) (capability : String) (peerBaseUrl : Option String) (payload : Json)

/-- A request to the routes of a hosted agent. -/
structure HostedRequest where
  api : ApiRequest
  hostedId : String
  call : HostedCall

/-- What the fetch of a manifest raises. -/
inductive FetchExc where
  /-- An `httpx.HTTPError`. -/
  | http (text : String)
  /-- Any other exception, such as `httpx.InvalidURL`. -/
  | other (exc : PyErr)

/-- What the world answers during a call. -/
structure HostedAnswers where
  /-- The refusal of the spend limits, for a call that spends. -/
  limits : Option GateRefusal
  /-- The DID documents, and the manifests by their URL. -/
  fetch : String → Except PyErr Json
  manifest : String → Except FetchExc HttpResponse
  /-- The connection to the agent. -/
  link : Link
  /-- The peer of the agent. -/
  handshake : HandshakeAnswers
  first : HttpAnswer
  second : HttpAnswer
  salt : Nat

/-- What the service is started with, and the calls. -/
structure HostedSetting where
  sdk : AdminSdk
  py : PyLib
  sha256Hex : List UInt8 → String
  api : ApiSettings
  /-- `loopback.scheme`. -/
  loopbackScheme : String
  /-- `AITP_FEDERATION_ALLOW_LOOPBACK`. -/
  allowLoopback : Option String
  /-- The text of an `HTTPStatusError`, from the status and the URL. -/
  statusText : Nat → String → String
  requests : Nat → HostedRequest
  answers : Nat → HostedAnswers

/-- What a call raises. -/
inductive HostedExc where
  | gate (refusal : GateRefusal)
  | http (exc : HttpException)
  | raised (exc : PyErr)
deriving DecidableEq

/-- What a call has in hand when it turns to the agent. -/
inductive HostedPlan where
  | trust (peerDid : String) (peerAid : Json)
  | handshake (peerDid manifestUrl origin : String) (requestedGrants : Option (List String))
  | invoke (peerPort : Int) (capability : String) (peerBaseUrl : Option String) (payload : Json)

/-- How far a call has got. -/
inductive HostedStage where
  | arrived
  /-- The agent was found, and the peer is resolved next. -/
  | found (hosted : HostedAgent)
  /-- The manifest of the peer to trust is fetched next. -/
  | resolved (hosted : HostedAgent) (peerDid manifestUrl : String)
  /-- The agent is asked next. -/
  | prepared (hosted : HostedAgent) (plan : HostedPlan)
  | done (answer : Except HostedExc Json)

section
variable (setting : HostedSetting) (n : Nat)

/-- The dependency of the route. -/
def dependency : Except HostedExc Unit :=
  let request := setting.requests n
  match requireApiKey setting.sha256Hex setting.api request.api with
  | .error refusal => .error (.gate refusal)
  | .ok _ =>
    match request.call, (setting.answers n).limits with
    | .invoke .., some refusal => .error (.gate refusal)
    | _, _ => .ok ()

/-- `_resolve_peer_did`, by the peer of the call. -/
def resolvePeer (peerDid : String) : Except HostedExc (String × String) :=
  (resolvePeerDid setting.py (setting.answers n).fetch setting.loopbackScheme
    setting.allowLoopback peerDid).mapError .http

/-- The AID in the manifest of the peer, which the SDK verifies before it is read. -/
def verifiedAid (peerDid manifestUrl : String) : Except HostedExc Json :=
  let answers := setting.answers n
  match answers.manifest manifestUrl with
  | .error (.http text) => .error (.http ⟨502, "trust-peer failed: " ++ text⟩)
  | .error (.other exc) => .error (.raised exc)
  | .ok mr =>
    if mr.isSuccess then
      match setting.sdk.verifyManifestJson mr.text answers.salt with
      | .error exc =>
        .error (.http ⟨502,
          "peer manifest for " ++ peerDid ++ " failed verification: " ++ exc.text⟩)
      | .ok _ =>
        ((setting.py.jsonLoads mr.text).bind fun manifest =>
          (manifest.item "manifest").bind fun body => body.item "aid").mapError .raised
    else
      .error (.http ⟨502, "trust-peer failed: " ++ setting.statusText mr.status manifestUrl⟩)

/-- The request to the agent. -/
def HostedPlan.agentCall (answers : HostedAnswers) : HostedPlan → AdminCall
  | .trust _ peerAid => .trustPeers (.obj [("aids", .arr [peerAid])]) answers.salt
  | .handshake _ manifestUrl _ requestedGrants =>
    .initiateHandshake
      (.obj [("peer_manifest_url", .str manifestUrl),
        ("requested_grants", (requestedGrants.map textList).getD .null)])
      answers.handshake answers.salt
  | .invoke peerPort capability peerBaseUrl payload =>
    .invoke
      (.obj [("peer_port", .num (.int peerPort)), ("peer_base_url", optionalText peerBaseUrl),
        ("capability", .str capability), ("payload", payload)])
      answers.first answers.second answers.salt

/-- How the refusals of a call begin. -/
def HostedPlan.failed : HostedPlan → String
  | .trust .. => "trust-peer failed"
  | .handshake .. => "handshake failed"
  | .invoke .. => "invoke failed"

/-- There was no answer of the agent. -/
def HostedPlan.unanswered (plan : HostedPlan) (exc : String) : Except HostedExc Json :=
  .error (.http ⟨502, plan.failed ++ ": " ++ exc⟩)

/-- The answer of the agent, as the call returns it. -/
def HostedPlan.answered (url : String) (r : Reply) (plan : HostedPlan) : Except HostedExc Json :=
  if r.isSuccess then
    match plan with
    | .trust peerDid peerAid =>
      .ok (.obj [("peer_did", .str peerDid), ("peer_aid", peerAid), ("trusted", .bool true)])
    | .handshake peerDid manifestUrl origin _ =>
      match r.json setting.py with
      | .error exc => plan.unanswered exc.text
      | .ok result =>
        match result.dict? with
        | none => .error (.raised (.typeError "object is not a mapping"))
        | some result =>
          .ok (.obj ((Dict.ofList
            [("trust", .str "established"), ("peer_did", .str peerDid),
             ("resolved_manifest_url", .str manifestUrl), ("peer_origin", .str origin),
             ("peer_base_url", .str origin)]).merge result).entries)
    | .invoke .. =>
      match r.json setting.py with
      | .error exc => plan.unanswered exc.text
      | .ok result => .ok (.obj [("result", result)])
  else
    match plan with
    | .trust .. => plan.unanswered (setting.statusText r.status url)
    | _ => .error (.http ⟨502, plan.failed ++ " (" ++ toString r.status ++ "): " ++
        r.text setting.py⟩)

/-- The answer of the agent, as it arrives: it may have served the request for nothing. -/
def HostedPlan.received (url : String) (r : Reply) (plan : HostedPlan) :
    Link → Except HostedExc Json
  | .good => plan.answered setting url r
  | .refused text | .lost text => plan.unanswered text

/-! ### Agents -/

/-- The response of an agent behind its guard, and the process after it. -/
def serveGuarded (token : String) (r : AgentRequest) (p : AgentProcess) : AgentProcess × Reply :=
  if (AdminAuthMiddleware.new (some token)).passes r.scope then
    ((r.call.route setting.sdk setting.py).after p,
      .ofRoute (r.call.route setting.sdk setting.py p))
  else
    (p, { status := 401, body := .json (.obj [("detail", .str "admin token missing or invalid")]) })

/-- The hosted agents with their processes, and the calls. -/
structure Federation where
  mgr : HostedAgentManager
  /-- By hosted id. -/
  processes : Dict String AgentProcess
  stage : Nat → HostedStage
  pinned : Nat → Option (String × Json)

/-- A service that has just started. -/
def Federation.start (firstPort : Int) : Federation where
  mgr := .new firstPort
  processes := Dict.empty
  stage := fun _ => .arrived
  pinned := fun _ => none

namespace Federation

/-- A call gets to its next stage. -/
def goto (s : Federation) (next : HostedStage) : Federation :=
  { s with stage := Function.update s.stage n next }

/-- A call gets to its next stage, or ends with what it raises. -/
def goOn {α : Type} (s : Federation) (r : Except HostedExc α) (next : α → HostedStage) :
    Federation :=
  match r with
  | .ok a => s.goto n (next a)
  | .error exc => s.goto n (.done (.error exc))

/-- The agent that listens on a port. -/
def listener (s : Federation) (port : Int) : Option (String × HostedAgent) :=
  s.mgr.hosted.entries.find? fun e => decide (e.2.port = port)

/-- The request of a call, with the token that `AdminTokenAuth` has for the port. -/
def adminRequest (s : Federation) (port : Int) (c : AdminCall) : AgentRequest :=
  ⟨(authFlow s.mgr.sup.adminTokens ⟨"localhost", some port, c.path, []⟩).headers, c⟩

/-- The process of an agent has served a request of this call. -/
def served (s : Federation) (hostedId : String) (p : AgentProcess) (r : Reply)
    (plan : HostedPlan) : Federation :=
  { s with
      processes := s.processes.set hostedId p
      pinned :=
        match plan with
        | .trust _ peerAid =>
          if r.isSuccess then Function.update s.pinned n (some (hostedId, peerAid)) else s.pinned
        | _ => s.pinned }

/-- The process that a request to a port gets to, with its agent. -/
def reached (s : Federation) (port : Int) :
    Link → Except String (String × HostedAgent × AgentProcess)
  | .refused text => .error text
  | _ =>
    match s.listener port with
    | none => .error "All connection attempts failed"
    | some (hostedId, agent) =>
      match s.processes.get? hostedId with
      | none => .error "All connection attempts failed"
      | some p => .ok (hostedId, agent, p)

/-- The call turns to the port of the record that it found. -/
def askAgent (s : Federation) (hosted : HostedAgent) (plan : HostedPlan) : Federation :=
  let answers := setting.answers n
  match s.reached hosted.port answers.link with
  | .error text => s.goto n (.done (plan.unanswered text))
  | .ok (hostedId, agent, p) =>
    let call := plan.agentCall answers
    let out := serveGuarded setting agent.adminToken (s.adminRequest hosted.port call) p
    (s.served n hostedId out.1 out.2 plan).goto n
      (.done (plan.received setting ("http://localhost:" ++ toString hosted.port ++ call.path) out.2
        answers.link))

/-- The next stage of a call. -/
def advance (s : Federation) : Option Federation :=
  let request := setting.requests n
  match s.stage n with
  | .arrived =>
    match dependency setting n with
    | .error exc => some (s.goto n (.done (.error exc)))
    | .ok _ =>
      match s.mgr.hosted.get? request.hostedId with
      | none =>
        some (s.goto n (.done (.error (.http ⟨404, "no hosted agent " ++ request.hostedId⟩))))
      | some hosted => some (s.goto n (.found hosted))
  | .found hosted =>
    match request.call with
    | .trustPeer peerDid =>
      some (s.goOn n (resolvePeer setting n peerDid) fun e => .resolved hosted peerDid e.1)
    | .resolveAndHandshake peerDid grants =>
      some (s.goOn n (resolvePeer setting n peerDid) fun e =>
        .prepared hosted (.handshake peerDid e.1 e.2 grants))
    | .invoke peerPort capability peerBaseUrl payload =>
      some (s.goto n (.prepared hosted (.invoke peerPort capability peerBaseUrl payload)))
  | .resolved hosted peerDid manifestUrl =>
    some (s.goOn n (verifiedAid setting n peerDid manifestUrl) fun peerAid =>
      .prepared hosted (.trust peerDid peerAid))
  | .prepared hosted plan => some (s.askAgent setting n hosted plan)
  | .done _ => none

end Federation

end

/-! ### Steps -/

/-- What happens next. -/
inductive FederationLabel where
  /-- A `host` call, with the manifest and the configuration of the worker that it starts. -/
  | host (call : HostCall) (manifestJson : String) (oidc loopbackTls : Bool)
  | stop (hostedId : String)
  /-- The call with this number gets on. -/
  | advance (n : Nat)
  /-- A request that does not come from the service. -/
  | direct (hostedId : String) (r : AgentRequest)

/-- The processes after a `host` call. -/
def hostedProcesses (processes : Dict String AgentProcess) (call : HostCall)
    (manifestJson : String) (oidc loopbackTls : Bool) : Dict String AgentProcess :=
  match call.ending with
  | .ready aid => processes.set call.hostedId (.start aid manifestJson oidc loopbackTls)
  | _ => processes

/-- One step. -/
def federationStep (setting : HostedSetting) (s : Federation) :
    FederationLabel → Option Federation
  | .host call manifestJson oidc loopbackTls =>
    (hostStep s.mgr (.host call)).map fun mgr =>
      { s with
          mgr
          processes := hostedProcesses s.processes call manifestJson oidc loopbackTls }
  | .stop hostedId =>
    (hostStep s.mgr (.stop hostedId)).map fun mgr =>
      { s with mgr, processes := s.processes.erase hostedId }
  | .advance n => s.advance setting n
  | .direct hostedId r =>
    (s.mgr.hosted.get? hostedId).bind fun agent =>
      (s.processes.get? hostedId).map fun p =>
        { s with
            processes := s.processes.set hostedId (serveGuarded setting agent.adminToken r p).1 }

/-- Nobody else has the admin token of the agent that they turn to. -/
def TokenKept (s : Federation) : FederationLabel → Prop
  | .direct hostedId r =>
    ∀ agent ∈ s.mgr.hosted.get? hostedId,
      r.headers.lookup adminTokenHeader ≠ some (utf8 agent.adminToken)
  | _ => True

instance (s : Federation) : (l : FederationLabel) → Decidable (TokenKept s l)
  | .direct hostedId r =>
    inferInstanceAs (Decidable (∀ agent ∈ s.mgr.hosted.get? hostedId,
      r.headers.lookup adminTokenHeader ≠ some (utf8 agent.adminToken)))
  | .host .. => inferInstanceAs (Decidable True)
  | .stop _ => inferInstanceAs (Decidable True)
  | .advance _ => inferInstanceAs (Decidable True)

end AitpPlayground.Api
