import AitpPlayground.Hosting.PublicOrigin
import AitpPlayground.Hosting.Supervisor
import AitpPlayground.Registry.Models

/-!
# `AitpPlayground.Trust.Orchestrator`: where the agents of a run find each other

After the launch `TrustOrchestrator.resolve_peers` (`src/aitp_playground/trust/orchestrator.py`)
makes the table of peers: for each agent of the scenario the URL of its manifest, by the way of
discovery of the scenario. A DID that does not resolve, and a control plane that does not know
the agent, leave it at the loopback origin of its process.

`discover_by_capability` (`src/aitp_playground/cp_client/client.py`) asks the control plane, and
gives no records for a request that fails.
-/

set_option autoImplicit false

namespace AitpPlayground.Trust

open AitpPlayground.Lib
open AitpPlayground.Api
open AitpPlayground.Hosting
open AitpPlayground.Registry

/-- An entry of the table. -/
structure Peer where
  manifestUrl : Option String
  did : Option String
  source : Option String
deriving DecidableEq

/-- What the table is made of. -/
structure PeerSetting where
  discovery : Discovery
  agents : List AgentSpec
  steps : List WorkflowStep
  running : Dict String RunningAgent
  /-- `insecure_localhost_dangerous`. -/
  insecure : Bool
  /-- `cp.enabled`. -/
  cpEnabled : Bool
  /-- The DID documents. -/
  fetch : String → Except PyErr Json
  /-- The JSON that the control plane answers to the call for each agent, by its place. There is
  none where the request, `raise_for_status` or `json` raises. -/
  registry : Nat → String → Option Json

/-- `discover_by_capability`. -/
def discoverByCapability (enabled : Bool) (answer : Option Json) : List Json :=
  if enabled then
    match answer with
    | none => []
    | some (.obj members) =>
      -- A value that is no iterable raises, and the exception is caught.
      match (((Dict.ofList members).get? "agents").getD (.arr [])).iter with
      | .ok items => items
      | .error _ => []
    | some (.arr items) => items
    | some _ => []
  else []

/-- `handshake.rsplit("/aitp", 1)[0]`. -/
def handshakeBase (handshake : String) : String :=
  String.ofList (beforeLast "/aitp".toList handshake.toList)

/-- `record.get("handshakeEndpoint") or record.get("handshake_endpoint") or local_handshake`. -/
def recordedHandshake (record : Json) (localHandshake : Option String) : Except PyErr Json := do
  let camel ← record.member "handshakeEndpoint"
  if camel.truthy then pure camel
  else
    let snake ← record.member "handshake_endpoint"
    if snake.truthy then pure snake else pure ((localHandshake.map Json.str).getD .null)

/-- `handshake.rsplit("/aitp", 1)[0] if handshake else None`. -/
def baseOf (handshake : Json) : Except PyErr (Option String) :=
  if handshake.truthy then
    match handshake with
    | .str s => .ok (some (handshakeBase s))
    | _ => .error (.attributeError "object has no attribute 'rsplit'")
  else .ok none

namespace PeerSetting

variable (w : PeerSetting)

/-- `f"{self.loopback.origin(ra.port)}..." if ra else None`. -/
def localUrl (agentId path : String) : Option String :=
  (w.running.get? agentId).map fun ra => loopbackOrigin w.insecure ra.port ++ path

/-- `_cap_for_agent`. -/
def capForAgent (agentId : String) : Option String :=
  w.steps.findSome? fun step =>
    if step.agent = some agentId then step.capability.filter fun c => decide (c ≠ "") else none

/-- The entry of an agent, by its place in the scenario. -/
def peerOf (i : Nat) (spec : AgentSpec) : Except PyErr Peer :=
  let localManifest := w.localUrl spec.id "/.well-known/aitp-manifest"
  let localHandshake := w.localUrl spec.id "/aitp/handshake/hello"
  match w.discovery, spec.didWebHost.filter fun host => decide (host ≠ "") with
  | .didWeb, some host =>
    let did := "did:web:" ++ replaceAll ":" "%3A" host
    .ok {
      manifestUrl := match resolveDidWeb w.fetch (loopbackScheme w.insecure) did with
        | .ok url => some url
        | .error _ => localManifest
      did := some did
      source := none }
  | .cpRegistry, _ =>
    if spec.org = .external then
      let capHint := (w.capForAgent spec.id).getD ""
      match discoverByCapability w.cpEnabled (w.registry i capHint) with
      | [] => .ok { manifestUrl := localManifest, did := none, source := some "static_fallback" }
      | record :: _ => do
        let base ← baseOf (← recordedHandshake record localHandshake)
        pure {
          manifestUrl := match base.filter fun b => decide (b ≠ "") with
            | some base => some (base ++ "/.well-known/aitp-manifest")
            | none => localManifest
          did := none
          source := some "cp_registry" }
    else .ok { manifestUrl := localManifest, did := none, source := some "static" }
  | _, _ => .ok { manifestUrl := localManifest, did := none, source := some "static" }

/-- The loop of `resolve_peers`, from an agent on. -/
def resolveFrom : Nat → List AgentSpec → Dict String Peer → Except PyErr (Dict String Peer)
  | _, [], peers => .ok peers
  | i, spec :: rest, peers => do
    let peer ← w.peerOf i spec
    resolveFrom (i + 1) rest (peers.set spec.id peer)

/-- `resolve_peers`. -/
def resolvePeers : Except PyErr (Dict String Peer) := w.resolveFrom 0 w.agents Dict.empty

end PeerSetting

end AitpPlayground.Trust
