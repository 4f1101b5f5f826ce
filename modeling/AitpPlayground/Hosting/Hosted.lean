import AitpPlayground.Hosting.PortAllocator
import AitpPlayground.Hosting.Supervisor

/-!
# `AitpPlayground.Hosting.Hosted`: agents that outlive a run

`HostedAgentManager` (`src/aitp_playground/hosting/hosted.py`) brings up one agent for each
`host` call and keeps it until `stop`. The caller pins the port, or the allocator gives one.
`host` is a coroutine; the calls here follow one another.

How a call ends is given with it, as a `HostEnd`: every point where `host` can raise has a
case. The text of the error, and the URLs and the DID of the reply, are left out. Two fields
of `HostedAgent` are not in the code: `allocated` says that the allocator gave the port, and
`adminToken` is the token in the bootstrap of the agent. `drawn` are the hosted ids so far.
-/

set_option autoImplicit false

namespace AitpPlayground.Hosting

open AitpPlayground.Lib

/-- `HostedAgent`. -/
structure HostedAgent where
  hostedId : String
  agentId : String
  port : Int
  aid : String
  allocated : Bool
  adminToken : String
deriving DecidableEq

/-- `HostedAgentManager`. -/
structure HostedAgentManager where
  sup : AgentSupervisor
  portAlloc : PortAllocator
  hosted : Dict String HostedAgent
  drawn : List String

/-- How a `host` call ends. -/
inductive HostEnd where
  /-- It raises before the port is chosen: on Railway, without a public host, or without the
  manifest of the agent. -/
  | early
  /-- It raises between the port and `launch`: the bootstrap, the adapter, the validation or
  `prepare_launch`. -/
  | unprepared
  /-- `Popen` raises. -/
  | unspawned
  /-- The process exits before it is ready, or is not ready in time. -/
  | notReady
  /-- The task is cancelled in `launch`: a `CancelledError` is no `Exception`. -/
  | interrupted
  | ready (aid : String)
deriving DecidableEq

/-- A `host` call. `hostedId` and `adminToken` are drawn in it. -/
structure HostCall where
  hostedId : String
  agentId : String
  port : Option Int
  adminToken : String
  pid : Nat
  ending : HostEnd
deriving DecidableEq

/-- The call raises. -/
def HostCall.raises (c : HostCall) : Prop := ∀ aid, c.ending ≠ .ready aid

namespace HostedAgentManager

def new (start : Int) : HostedAgentManager where
  sup := .new
  portAlloc := .new start
  hosted := Dict.empty
  drawn := []

/-- `_run_id`. -/
def runId (hostedId : String) : String := "hosted-" ++ hostedId

/-- `port if port is not None else self.port_alloc.allocate()`. -/
def choosePort (m : HostedAgentManager) : Option Int → Int × PortAllocator
  | some port => (port, m.portAlloc)
  | none => m.portAlloc.allocate 0

/-- The process, the agent and the token of a launch. -/
def launched (m : HostedAgentManager) (c : HostCall) (port : Int) : AgentSupervisor :=
  m.sup.register (runId c.hostedId) c.agentId port c.adminToken
    ("http://localhost:" ++ toString port) c.pid

/-- `host`. -/
def host (m : HostedAgentManager) (c : HostCall) : HostedAgentManager :=
  let m := { m with drawn := c.hostedId :: m.drawn }
  let (port, portAlloc) := m.choosePort c.port
  match c.ending with
  | .early => m
  -- `except Exception: self.port_alloc.release(port)`.
  | .unprepared => { m with portAlloc := portAlloc.release port }
  | .unspawned =>
    { m with sup := m.sup.setToken port c.adminToken, portAlloc := portAlloc.release port }
  | .notReady => { m with sup := m.launched c port, portAlloc := portAlloc.release port }
  | .interrupted => { m with sup := m.launched c port, portAlloc }
  | .ready aid =>
    { m with
        sup := (m.launched c port).signalReady (runId c.hostedId) c.agentId aid
        portAlloc
        hosted := m.hosted.set c.hostedId
          { hostedId := c.hostedId, agentId := c.agentId, port, aid
            allocated := c.port.isNone, adminToken := c.adminToken } }

/-- `stop`. -/
def stop (m : HostedAgentManager) (hostedId : String) : HostedAgentManager :=
  match m.hosted.get? hostedId with
  | none => m
  | some hosted =>
    { m with
        hosted := m.hosted.erase hostedId
        sup := m.sup.kill (runId hostedId) hosted.agentId
        portAlloc := m.portAlloc.release hosted.port }

end HostedAgentManager

/-- A call of the manager. -/
inductive HostLabel where
  | host (call : HostCall)
  | stop (hostedId : String)

/-- What `uuid4` and `token_urlsafe` draw is new. -/
def freshDraws (m : HostedAgentManager) (c : HostCall) : Bool :=
  !c.hostedId.toList.contains ':' && !m.drawn.contains c.hostedId && c.adminToken != "" &&
    !(m.sup.adminTokens.entries.map Prod.snd).contains c.adminToken

/-- A hosted agent listens on the port. -/
def listening (m : HostedAgentManager) (port : Int) : Bool :=
  (m.hosted.entries.map fun e => e.2.port).contains port

/-- One call. A launch on a port where a hosted agent listens does not get ready. -/
def hostStep (m : HostedAgentManager) : HostLabel → Option HostedAgentManager
  | .host c =>
    match c.ending with
    | .ready _ =>
      if freshDraws m c && !listening m (m.choosePort c.port).1 then some (m.host c) else none
    | _ => if freshDraws m c then some (m.host c) else none
  | .stop hostedId => some (m.stop hostedId)

/-- The table, the ports in use and the tokens are as they were. -/
structure SameHosting (m m' : HostedAgentManager) : Prop where
  hosted : m'.hosted = m.hosted
  inUse : m'.portAlloc.inUse = m.portAlloc.inUse
  adminTokens : m'.sup.adminTokens = m.sup.adminTokens

/-- Every hosted agent has its port, if it was allocated, and its token. -/
structure HostedKept (m : HostedAgentManager) : Prop where
  inUse : ∀ hostedId h, m.hosted.get? hostedId = some h → h.allocated = true →
    h.port ∈ m.portAlloc.inUse
  token : ∀ hostedId h, m.hosted.get? hostedId = some h →
    m.sup.adminTokens.get? h.port = some h.adminToken

/-- A call that raises does so before its launch, and the port that it releases then is not
one that the allocator handed out to another agent. -/
def endsClean (m : HostedAgentManager) (port : Option Int) : HostEnd → Prop
  | .ready _ => True
  | .early => True
  | .unprepared => ∀ p ∈ port, p ∉ m.portAlloc.inUse
  | .unspawned => False
  | .notReady => False
  | .interrupted => False

instance (m : HostedAgentManager) (port : Option Int) :
    (e : HostEnd) → Decidable (endsClean m port e)
  | .ready _ => inferInstanceAs (Decidable True)
  | .early => inferInstanceAs (Decidable True)
  | .unprepared => inferInstanceAs (Decidable (∀ p ∈ port, p ∉ m.portAlloc.inUse))
  | .unspawned => inferInstanceAs (Decidable False)
  | .notReady => inferInstanceAs (Decidable False)
  | .interrupted => inferInstanceAs (Decidable False)

/-- The condition on a call: a `host` call that raises ends clean. -/
def failsClean (m : HostedAgentManager) : HostLabel → Prop
  | .host c => endsClean m c.port c.ending
  | .stop _ => True

instance (m : HostedAgentManager) : (l : HostLabel) → Decidable (failsClean m l)
  | .host c => inferInstanceAs (Decidable (endsClean m c.port c.ending))
  | .stop _ => inferInstanceAs (Decidable True)

end AitpPlayground.Hosting
