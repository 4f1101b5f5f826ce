import AitpPlayground.Lib.Dict
import AitpPlayground.Lib.Py

/-!
# `AitpPlayground.Hosting.Supervisor`: the processes of the agents

`AgentSupervisor` (`src/aitp_playground/hosting/supervisor.py`) keeps a table of processes
and a table of agents, both by a key that is made from the run and the agent, and the admin
tokens by port. A process is known by its pid. `launchedBy` is not in the code: it says which
run a process was launched by.
-/

set_option autoImplicit false

namespace AitpPlayground.Hosting

open AitpPlayground.Lib

/-- A `Popen`. -/
structure Process where
  pid : Nat
  launchedBy : String
deriving DecidableEq

/-- `RunningAgent.status`. -/
inductive AgentStatus where
  | starting
  | ready
  | stopped
deriving DecidableEq

/-- `RunningAgent`. -/
structure RunningAgent where
  runId : String
  agentId : String
  port : Int
  aid : String
  manifestUrl : String
  status : AgentStatus
deriving DecidableEq

/-- The supervisor. -/
structure AgentSupervisor where
  processes : Dict String Process
  agents : Dict String RunningAgent
  adminTokens : Dict Int String

namespace AgentSupervisor

def new : AgentSupervisor := ⟨Dict.empty, Dict.empty, Dict.empty⟩

/-- `_key`. -/
def key (runId agentId : String) : String := runId ++ ":" ++ agentId

/-- The head of `launch`: the admin token, before the process is made. -/
def setToken (s : AgentSupervisor) (port : Int) (adminToken : String) : AgentSupervisor :=
  if adminToken = "" then s else { s with adminTokens := s.adminTokens.set port adminToken }

/-- `launch` up to its first `await`: the token, the process and the agent are registered. -/
def register (s : AgentSupervisor) (runId agentId : String) (port : Int) (adminToken : String)
    (origin : String) (pid : Nat) : AgentSupervisor :=
  let s := s.setToken port adminToken
  { s with
      processes := s.processes.set (key runId agentId) { pid, launchedBy := runId }
      agents := s.agents.set (key runId agentId)
        { runId, agentId, port, aid := "", manifestUrl := origin ++ "/.well-known/aitp-manifest"
          status := .starting } }

/-- The line `AITP_AGENT_READY` of a process, with its `aid`. -/
def signalReady (s : AgentSupervisor) (runId agentId aid : String) : AgentSupervisor :=
  match s.agents.get? (key runId agentId) with
  | none => s
  | some agent =>
    { s with agents := s.agents.set (key runId agentId) { agent with aid, status := .ready } }

/-- `kill`. -/
def kill (s : AgentSupervisor) (runId agentId : String) : AgentSupervisor :=
  let processes := s.processes.erase (key runId agentId)
  match s.agents.get? (key runId agentId) with
  | none => { s with processes }
  | some agent =>
    { processes
      agents := s.agents.set (key runId agentId) { agent with status := .stopped }
      adminTokens := s.adminTokens.erase agent.port }

/-- The keys that start with `f"{run_id}:"`. -/
def keysOf (s : AgentSupervisor) (runId : String) : List String :=
  s.processes.keys.filter fun k => (runId ++ ":").toList.isPrefixOf k.toList

/-- The agent id of a key, `key.split(":", 1)[1]`. -/
def agentOf (k : String) : String :=
  match splitOnce [':'] k.toList with
  | some (_, rest) => String.ofList rest
  | none => ""

/-- `kill_run`. -/
def killRun (s : AgentSupervisor) (runId : String) : AgentSupervisor :=
  (s.keysOf runId).foldl (fun s k => s.kill runId (agentOf k)) s

end AgentSupervisor

end AitpPlayground.Hosting
