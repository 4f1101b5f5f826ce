import AitpPlayground.Runner.Workflow

/-!
# `AitpPlayground.Runner.Helpers`: what the steps of a run are made of

The helpers of `_dispatch_step` (`src/aitp_playground/runner/engine.py`): the handshake of
`_ensure_trust`, the trust stores of `_push_trusted_peers`, the two lookups that read the past
of the run (`_find_tct_jti` reads its events and `_held_delegation_chain` its outputs), and
the capability calls.

An agent is named by its key in `running`. It was launched with this key as its `agent_id`.
-/

set_option autoImplicit false

namespace AitpPlayground.Runner

open AitpPlayground.Lib
open AitpPlayground.Agents
open AitpPlayground.Hosting
open AitpPlayground.Registry

/-! ### Values -/

/-- A list of texts as a JSON value. -/
def textList (items : List String) : Json := .arr (items.map .str)

/-- An optional integer as a JSON value. -/
def optionalInt (n : Option Int) : Json := (n.map fun n => Json.num (.int n)).getD .null

/-- An optional text as a JSON value. -/
def optionalText (s : Option String) : Json := (s.map Json.str).getD .null

/-- A field of an event that is a text or `None`. -/
def textField : Json → Except RunExc Json
  | .null => .ok .null
  | .str s => .ok (.str s)
  | _ => .error (.other "ValidationError" "Input should be a valid string")

/-- A field of an event that is a list of texts. -/
def textsField (items : List Json) : Except RunExc Json := do
  let texts ← items.mapM fun item =>
    match item with
    | .str s => .ok (.str s)
    | _ => .error (.other "ValidationError" "Input should be a valid string")
  pure (.arr texts)

/-- A call in the runner that may raise an exception of the language. -/
def raised {α : Type} (r : Except PyErr α) : Except RunExc α := r.mapError ofPyErr

/-! ### Lookups in the past of the run -/

/-- `_find_tct_jti`. -/
def findTctJti (events : List Emission) (audience issuer : String) : Option String :=
  events.reverse.findSome? fun event =>
    if event.type = "trust.established" ∧ event.fields.get? "initiator" = some (.str audience) ∧
        event.fields.get? "target" = some (.str issuer) then
      match event.fields.get? "jti" with
      -- An event without a `jti`, or with an empty one, is passed over.
      | some (.str jti) => if jti = "" then none else some jti
      | _ => none
    else none

/-- The field `delegation_chain` of an output. -/
def chainField (out : Json) : Option Json := out.dict?.bind fun d => d.get? "delegation_chain"

/-- The loop of `_held_delegation_chain`, over the outputs from the last one on. -/
def scanChains (holder issuer : String) : List Json → Except PyErr (List Json)
  | [] => .ok []
  | out :: rest =>
    match (chainField out).filter Json.truthy with
    | none => scanChains holder issuer rest
    | some chain => do
      if (← chain.member "holder") = .str holder then
        if (← chain.member "issuer") = .str issuer then
          (← chain.memberOr "issuer_manifest_urls" (.arr [])).iter
        else scanChains holder issuer rest
      else scanChains holder issuer rest

/-- `_held_delegation_chain`. -/
def heldDelegationChain (outputs : Dict String Json) (holder issuer : String) :
    Except PyErr (List Json) :=
  scanChains holder issuer (outputs.entries.map Prod.snd).reverse

/-! ### Lookups in what the run was started with -/

/-- The agents from the first one on that may offer a capability. -/
def scanManifests (capability : String) (manifests : Dict String (Option AgentManifest)) :
    List AgentSpec → Except PyErr (Option String)
  | [] => .ok none
  | spec :: rest =>
    match manifests.get? spec.id with
    | none => .error (.keyError spec.id)
    | some none => .error (.attributeError "'NoneType' object has no attribute 'spec'")
    | some (some manifest) =>
      if capability ∈ manifest.aitp.offeredCaps then .ok (some spec.id)
      else scanManifests capability manifests rest

/-- `_find_capability_holder`. -/
def findCapabilityHolder (capability : String) (scenario : ScenarioVersion)
    (manifests : Dict String (Option AgentManifest)) (prefer : Option String) :
    Except PyErr (Option String) :=
  -- The agent of the step wins when it offers the capability itself.
  let preferred := prefer.filter fun id =>
    match manifests.get? id with
    | some (some manifest) => decide (capability ∈ manifest.aitp.offeredCaps)
    | _ => false
  match preferred with
  | some id => .ok (some id)
  | none => scanManifests capability manifests scenario.spec.agents

/-- A field of a step that is set and not empty. -/
def given (field : Option String) : Option String := field.filter fun s => decide (s ≠ "")

/-- The template of a step with the inputs in place. -/
def renderTemplate (py : PyLib) (template : String) (inputs : Dict String Json) : String :=
  inputs.entries.foldl
    (fun rendered e =>
      replaceAll ("\x7b\x7b inputs." ++ e.1 ++ " \x7d\x7d") (py.strOf e.2) rendered)
    template

/-- `_resolve_step_input`. -/
def resolveStepInput (py : PyLib) (step : WorkflowStep) (inputs outputs : Dict String Json) :
    Json :=
  match (given step.inputFrom).bind outputs.get? with
  | some value => value
  | none =>
    match given step.inputTemplate with
    | some template => .str (renderTemplate py template inputs)
    | none => inputs.toJson

section
variable (setting : RunSetting)

/-- `peers[agent_id]["manifest_url"]`. -/
def peerUrl (agentId : String) : Steps (Option String) :=
  Act.orThrow (ofPyErr (.keyError agentId)) (setting.peers.get? agentId)

/-! ### Handshakes -/

/-- The request of `_ensure_trust`. -/
def handshakeCall (url : Option String) (requestedGrants : Option (List String))
    (world : StepWorld) : AdminCall :=
  .initiateHandshake
    (.obj [("peer_manifest_url", optionalText url),
      ("requested_grants", textList (requestedGrants.getD []))])
    world.handshake world.salt

/-- The `grants` and the `jti` of the event for the answer to a handshake. -/
def established (r : Reply) : Except RunExc (Json × Json) := do
  if r.isSuccess then
    let data ← raised (r.json setting.py)
    let grants ← raised ((data.memberOr "grants" (.arr [])).bind Json.iter)
    let jti ← raised (data.member "jti")
    pure (← textsField grants, ← textField jti)
  else .error (.other "HTTPStatusError" ("status " ++ toString r.status))

/-- The end of `_ensure_trust`, with the answer. -/
def recordTrust (initiator target : String) (r : Reply) : Steps Unit := do
  let (grants, jti) ← Act.ofExcept id (established setting r)
  Steps.emit "trust.established"
    [("initiator", .str initiator), ("target", .str target), ("grants", grants), ("jti", jti)]

/-- `_ensure_trust`. -/
def ensureTrust (initiator target : String) (url : Option String)
    (requestedGrants : Option (List String)) (world : StepWorld) : Steps Unit := do
  Steps.emit "trust.establishing" [("initiator", .str initiator), ("target", .str target)]
  let r ← tokenCall setting initiator target .handshake (world.link 0)
    (handshakeCall url requestedGrants world) fun r => (established setting r).isOk
  recordTrust setting initiator target r

/-- One handshake of `_establish_pairwise_trust`. -/
def eagerHandshake (a b : String) (world : StepWorld) : Steps Unit := do
  let _a ← Steps.runningAgent a
  let _b ← Steps.runningAgent b
  let url ← peerUrl setting b
  ensureTrust setting a b url none world

/-- The pairs of `_establish_pairwise_trust`, in its order: each pair in both directions. -/
def agentPairs : List String → List (String × String)
  | [] => []
  | a :: rest => (rest.flatMap fun b => [(a, b), (b, a)]) ++ agentPairs rest

/-- The handshakes of these pairs, one after the other. -/
def handshakePairs (worlds : Nat → StepWorld) : List ((String × String) × Nat) → Steps Unit
  | [] => pure ()
  | (pair, n) :: rest => do
    eagerHandshake setting pair.1 pair.2 (worlds n)
    handshakePairs worlds rest

/-- `_establish_pairwise_trust`. -/
def establishPairwiseTrust (worlds : Nat → StepWorld) : Steps Unit :=
  handshakePairs setting worlds
    (agentPairs (setting.scenario.spec.agents.map AgentSpec.id)).zipIdx

/-! ### Trust stores -/

/-- The AIDs of the other agents, sorted. An empty one is left out. -/
def otherAids (running : Dict String RunningAgent) (agentId : String) : List String :=
  ((running.entries.filter fun e => decide (e.1 ≠ agentId ∧ e.2.aid ≠ "")).map
    fun e => e.2.aid).mergeSort fun a b => decide (a ≤ b)

/-- The body of a `trust_peers` request of the runner. -/
def trustBody (running : Dict String RunningAgent) (agentId : String) : Json :=
  .obj [("aids", textList (otherAids running agentId)), ("replace", .bool true)]

/-- The loop of `_push_trusted_peers`. -/
def pushTo (links : Nat → Link) (salt : Nat) (running : Dict String RunningAgent) :
    List (String × Nat) → Steps Unit
  | [] => pure ()
  | (agentId, n) :: rest => do
    let r ← callAgent setting agentId (links n) (.trustPeers (trustBody running agentId) salt)
    Steps.raiseForStatus r
    pushTo links salt running rest

/-- `_push_trusted_peers`. -/
def pushTrustedPeers (links : Nat → Link) (salt : Nat) : Steps Unit := do
  let running := (← get).running
  -- The table is read once, before the first request.
  pushTo setting links salt running running.keys.zipIdx
  Steps.emit "trust.peers_pinned"
    [("peers", .obj (running.entries.map fun e => (e.1, .str e.2.aid)))]

/-! ### Capability calls -/

/-- What a probe records. -/
def probeResult (observed : Int) (expectStatus : Option Int) (body : Json) : Json :=
  .obj
    [("status_code", .num (.int observed)),
     ("rejected", .bool (decide (observed = 401 ∨ observed = 403))),
     ("expected_status", optionalInt expectStatus),
     ("matched", .bool (decide (expectStatus = none ∨ some observed = expectStatus))),
     ("body", body)]

/-- The body of a response, or its text when it is not JSON. -/
def bodyOrText (r : Reply) : Json :=
  match r.json setting.py with
  | .ok body => body
  | .error _ => .str (r.text setting.py)

/-- `_call_without_trust`. -/
def callWithoutTrust (caller target capability : String) (expectStatus : Option Int)
    (world : StepWorld) : Steps Json := do
  Steps.emit "step.probing_no_trust"
    [("initiator", .str caller), ("target", .str target), ("capability", .str capability)]
  let r ← Steps.directCall (world.direct 0)
  let observed : Int := r.status
  let rejected := decide (observed = 401 ∨ observed = 403)
  let matched := decide (expectStatus = none ∨ some observed = expectStatus)
  Steps.emit (if rejected && matched then "step.access_denied" else "step.unexpected_status")
    [("target", .str target), ("capability", .str capability),
     ("result", .obj [("status_code", .num (.int observed))])]
  pure (probeResult observed expectStatus (bodyOrText setting r))

/-- The request of a capability call. -/
def invokeCall (peerPort : Int) (capability : String) (payload : Json) (world : StepWorld) :
    AdminCall :=
  .invoke
    (.obj [("peer_port", .num (.int peerPort)), ("capability", .str capability),
      ("payload", payload)])
    world.first world.second world.salt

/-- The rejection that `/admin/invoke` wrapped, if there is one. -/
def rejection (body : Json) : Option (Dict String Json) :=
  body.dict?.filter fun d => ((d.get? "error").getD .null).truthy

/-- `_probe_with_held_tct`, with the port of the target. -/
def probeWithHeldTct (caller target : String) (port : Int) (capability : String) (payload : Json)
    (expectStatus : Option Int) (world : StepWorld) : Steps Json := do
  Steps.emit "step.probing_with_held_tct"
    [("initiator", .str caller), ("target", .str target), ("capability", .str capability)]
  let r ← callAgent setting caller (world.link 0) (invokeCall port capability payload world)
  Steps.raiseForStatus r
  let body ← Steps.lift (r.json setting.py)
  let (observed, inner) ← Steps.lift
    -- `/admin/invoke` wraps a refusal of the peer. The rest is its body, with status 200.
    (match rejection body with
      | some d => do
        let status ← setting.py.int ((d.get? "status_code").getD (.num (.int 0)))
        pure (status, (d.get? "body").getD .null)
      | none => .ok (200, body))
  let rejected := decide (observed = 401 ∨ observed = 403)
  let matched := decide (expectStatus = none ∨ some observed = expectStatus)
  Steps.emit
    (if rejected && matched then "step.access_denied"
      else if matched then "step.complete" else "step.unexpected_status")
    [("initiator", .str caller), ("target", .str target), ("capability", .str capability),
     ("result", .obj [("status_code", .num (.int observed))])]
  pure (probeResult observed expectStatus inner)

/-- The body of a response, or its text in an object when it is not JSON. -/
def jsonOrRaw (r : Reply) : Except PyErr Json :=
  match r.json setting.py with
  | .ok body => .ok body
  | .error (.valueError _ _) => .ok (.obj [("raw", .str (r.text setting.py))])
  | .error exc => .error exc

/-- `_invoke_capability`. -/
def invokeTarget (caller : String) (port : Int) (capability : String) (payload : Json)
    (world : StepWorld) : Steps Json := do
  let r ← callAgent setting caller (world.link 0) (invokeCall port capability payload world)
  Steps.raiseForStatus r
  let body ← Steps.lift (jsonOrRaw setting r)
  -- A workflow step cannot go on with a refusal as its result.
  match rejection body with
  | some d =>
    Steps.refuse
      ("peer rejected " ++ capability ++ ": status=" ++
        setting.py.strOf ((d.get? "status_code").getD .null) ++ " body=" ++
        setting.py.strOf ((d.get? "body").getD .null))
  | none => pure body

/-- `_self_execute`. -/
def selfExecute (agentId capability : String) (world : StepWorld) : Steps Json := do
  let r ← Steps.directCall (world.direct 0)
  if r.isSuccess then Steps.lift (jsonOrRaw setting r)
  else
    -- The body of the failure is in the message, unlike with `raise_for_status`.
    let detail ← Steps.lift
      (match r.json setting.py with
        | .ok body => .ok (setting.py.strOf body)
        | .error (.valueError _ _) => .ok (r.text setting.py)
        | .error exc => .error exc)
    Steps.refuse
      (agentId ++ " self-execute " ++ capability ++ " failed: status=" ++ toString r.status ++
        " detail=" ++ detail)

end

end AitpPlayground.Runner
