import AitpPlayground.Agents.AgentAdmin
import AitpPlayground.Hosting.Supervisor
import AitpPlayground.Registry.Models

/-!
# `AitpPlayground.Runner.Workflow`: the state of a run between its steps

After the launch a run has its table `running`, its event list `ctx.events` and its
`step_outputs`. The agents are processes of their own, and the runner reaches them through
their routes only. `Workflow` has both sides: what the runner keeps, and the processes of its
agents by agent id. A call to `loopback.origin(ra.port)` is a call to the process of `ra`,
which is the one that was launched on this port.

A step is code over this state (`Steps`) that raises a `RunExc`. What the rest of the world
answers while it runs is a `StepWorld`: the peers that an agent talks to, the control plane,
the SDK, and the connections between the runner and its agents. A connection can break before
the agent has served a request, or after it.

`ops` is not in the code, and no step reads it. It lists the operations that may give an agent
a token, the last one first, each with the port whose token it replaced.
-/

set_option autoImplicit false

namespace AitpPlayground.Runner

open AitpPlayground.Lib
open AitpPlayground.Agents
open AitpPlayground.Hosting
open AitpPlayground.Registry

/-! ### State -/

/-- A `RunEvent` of the run: its type and the fields that are set. -/
structure Emission where
  type : String
  fields : Dict String Json

/-- How an agent gets a token. -/
inductive TokenOpKind where
  | handshake
  | renewal
  /-- The redemption of a delegation with these `issuer_manifest_urls`. In probe mode the step
  has an `expect_status`. -/
  | redemption (chain : List Json) (probe : Bool)
deriving DecidableEq

/-- An operation that may give an agent a token. -/
structure TokenOp where
  holder : String
  issuer : String
  kind : TokenOpKind
  /-- The runner got a good answer. -/
  accepted : Bool
  /-- The port whose token was replaced. -/
  replaced : Option Int
deriving DecidableEq

/-- A run between its steps. -/
structure Workflow where
  running : Dict String RunningAgent
  processes : Dict String AgentProcess
  /-- `ctx.events`. -/
  events : List Emission
  /-- `step_outputs`. -/
  outputs : Dict String Json
  /-- The field `cp_webhook` of the record, and `webhook_ids`. -/
  cpWebhook : Json
  webhookIds : List Json
  ops : List TokenOp

/-- What a run is started with and does not change. -/
structure RunSetting where
  sdk : AdminSdk
  py : PyLib
  scenario : ScenarioVersion
  /-- `peers`, by the `manifest_url` of each. -/
  peers : Dict String (Option String)
  /-- `resolved_manifests`. -/
  manifests : Dict String (Option AgentManifest)
  inputs : Dict String Json
  /-- `cp.enabled`. -/
  cpEnabled : Bool
  /-- `config.playground_base_url`. -/
  playgroundBaseUrl : String
  runId : String

/-- A connection to an agent. -/
inductive Link where
  | good
  /-- The request does not arrive. -/
  | refused (text : String)
  /-- The agent serves the request, and the answer does not arrive. -/
  | lost (text : String)

/-- What the control plane answers. -/
structure CpAnswers where
  /-- `publish_revocation`. -/
  published : Bool
  /-- `create_webhook`: the record, if there is one. -/
  webhook : Option (List (String × Json))
  /-- `upsert_pinned_key` and `upsert_trust_anchor`. -/
  pinnedKey : Json
  trustAnchor : Json
  /-- `list_pinned_keys`, `list_trust_anchors` and `fetch_delegations`. -/
  pinnedKeys : List Json
  trustAnchors : List Json
  delegations : List Json

/-- The check of a certificate against pins. -/
structure SpkiCheck where
  computedHashB64 : String
  pinCount : Nat
  isPinned : Bool

/-- What the world answers during a step. -/
structure StepWorld where
  /-- The connections of the calls to agents, in order. -/
  link : Nat → Link
  salt : Nat
  /-- The peer of a handshake. -/
  handshake : HandshakeAnswers
  /-- The manifest that a delegator, or a verifier of a bundle, fetches. -/
  manifest : HttpAnswer
  /-- The manifests that a redeemer fetches. -/
  manifests : Nat → HttpAnswer
  /-- The issuer of a renewal or a redemption. -/
  issuer : HttpAnswer
  /-- The peer of a capability call, and of its repetition. -/
  first : HttpAnswer
  second : HttpAnswer
  /-- A rotation: the new key, its manifest, and the snapshot after the refresh. -/
  newAid : String
  minted : Except PyErr String
  snapshot : Option Snapshot
  /-- The `uuid4` of a session bundle. -/
  sessionId : String
  /-- The calls of the runner to routes that are not modelled, in order. -/
  direct : Nat → HttpAnswer
  /-- The snapshots that these calls leave, where they refresh a revocation list. -/
  refreshed : Nat → Option Snapshot
  cp : CpAnswers
  /-- The decoding of a certificate and its pins, and the SDK. -/
  spki : Except RunExc SpkiCheck

/-- The code of a step. -/
abbrev Steps := Act RunExc Workflow

/-! ### Exceptions and replies -/

/-- An exception of the language, by its class. -/
def ofPyErr : PyErr → RunExc
  | .valueError msg _ => .other "ValueError" msg
  | .runtimeError msg _ => .other "RuntimeError" msg
  | .typeError msg => .other "TypeError" msg
  | .keyError key => .other "KeyError" ("'" ++ key ++ "'")
  | .attributeError msg => .other "AttributeError" msg
  | .overflowError msg => .other "OverflowError" msg
  | .recursionError msg => .other "RecursionError" msg
  | .sqliteError msg => .other "OperationalError" msg

/-- The body of a response: a JSON value that a route returned, or text. -/
inductive ReplyBody where
  | json (value : Json)
  | text (text : String)

/-- A response as the runner sees it. -/
structure Reply where
  status : Nat
  body : ReplyBody

namespace Reply

/-- `is_success`. -/
def isSuccess (r : Reply) : Bool := decide (200 ≤ r.status ∧ r.status < 300)

/-- `r.json()`. -/
def json (py : PyLib) (r : Reply) : Except PyErr Json :=
  match r.body with
  | .json value => .ok value
  | .text text => py.jsonLoads text

/-- `r.text`. -/
def text (py : PyLib) (r : Reply) : String :=
  match r.body with
  | .json value => py.jsonDumps value
  | .text text => text

/-- A response of a route that is not modelled. -/
def ofHttp (r : HttpResponse) : Reply := { status := r.status, body := .text r.text }

/-- The response of a route: what it returned, its `HTTPException`, or the 500 of an exception
that nothing caught. -/
def ofRoute : EStateM.Result AdminExc AgentProcess Json → Reply
  | .ok value _ => { status := 200, body := .json value }
  | .error (.http refusal) _ =>
    { status := refusal.status
      body := .json (.obj [("detail", match refusal.detail with
        | .text message => .str message
        | .coded code message => .obj [("code", .str code), ("message", .str message)])]) }
  | .error (.response status text) _ => { status, body := .text text }
  | .error (.raised _) _ | .error (.transport _) _ =>
    { status := 500, body := .text "Internal Server Error" }

end Reply

namespace Steps

/-- A call that may raise an exception of the language. -/
def lift {α : Type} (r : Except PyErr α) : Steps α := Act.ofExcept ofPyErr r

/-- `ctx.emit`. -/
def emit (type : String) (fields : List (String × Json)) : Steps Unit :=
  modify fun s => { s with events := s.events ++ [{ type, fields := Dict.ofList fields }] }

/-- `step_outputs[step_id] = value`. -/
def output (stepId : String) (value : Json) : Steps Unit :=
  modify fun s => { s with outputs := s.outputs.set stepId value }

/-- `running[agent_id]`. -/
def runningAgent (agentId : String) : Steps RunningAgent := do
  Act.orThrow (ofPyErr (.keyError agentId)) ((← get).running.get? agentId)

/-- A `PlaygroundError`. -/
def refuse {α : Type} (message : String) : Steps α := throw (.internal message)

/-- `raise_for_status`. -/
def raiseForStatus (r : Reply) : Steps Unit :=
  if r.isSuccess then pure ()
  else throw (.other "HTTPStatusError" ("status " ++ toString r.status))

/-- The answer to a request of the runner that no modelled route serves. -/
def directCall (answer : HttpAnswer) : Steps Reply :=
  match answer with
  | .ok r => pure (.ofHttp r)
  | .error text => throw (.other "ConnectError" text)

end Steps

/-! ### Calls to agents -/

section
variable (setting : RunSetting)

/-- A request to the process of an agent. -/
def callAgent (agentId : String) (link : Link) (c : AdminCall) : Steps Reply :=
  match link with
  | .refused text => throw (.other "ConnectError" text)
  | _ => do
    let s ← get
    match s.processes.get? agentId with
    | none => throw (.other "ConnectError" "All connection attempts failed")
    | some p =>
      -- The agent serves the request, whether or not the answer arrives.
      let result := c.route setting.sdk setting.py p
      set { s with
        processes := s.processes.set agentId ((c.route setting.sdk setting.py).after p) }
      match link with
      | .lost text => throw (.other "ReadTimeout" text)
      | _ => pure (.ofRoute result)

/-- The port whose token a request replaced. -/
def replacedPort (p p' : AgentProcess) : Option Int :=
  p'.tctFrom.keys.find? fun port => decide (p'.tctFrom.get? port ≠ p.tctFrom.get? port)

/-- The port of an agent whose token was replaced since. -/
def replacedSince (before after : Dict String AgentProcess) (agentId : String) : Option Int :=
  match before.get? agentId, after.get? agentId with
  | some p, some p' => replacedPort p p'
  | _, _ => none

/-- A request that may give an agent a token, written down in `ops`. `accepts` says which
answers are good ones. -/
def tokenCall (holder issuer : String) (kind : TokenOpKind) (link : Link) (c : AdminCall)
    (accepts : Reply → Bool) : Steps Reply := do
  let s ← get
  let note (accepted : Bool) : Steps Unit := modify fun s' => { s' with
    ops := { holder, issuer, kind, accepted
             replaced := replacedSince s.processes s'.processes holder } :: s'.ops }
  -- The request is noted when it raised, too.
  let reply ← tryCatch (callAgent setting holder link c) fun exc => do
    note false
    throw exc
  note (accepts reply)
  pure reply

end

end AitpPlayground.Runner
