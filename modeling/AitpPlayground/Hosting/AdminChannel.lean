import AitpPlayground.Agents.AdminAuth
import AitpPlayground.Hosting.KillRun

/-!
# `AitpPlayground.Hosting.AdminChannel`: the admin tokens on their way to the agents

The bootstrap of an agent has a token that its guard compares, and `launch` registers the same
token under the port of the agent. `AdminTokenAuth` (`src/aitp_playground/hosting/supervisor.py`)
is the `auth` of every client of the playground that calls an agent, and it reads that table. So
the two ends meet in the table of the supervisor, which `kill` and `launch` write.

An `AdminSystem` is the supervisor of `KillRun` with the tokens in the bootstraps.
-/

set_option autoImplicit false

namespace AitpPlayground.Hosting

open AitpPlayground.Lib
open AitpPlayground.Agents

/-- A request of a client. The port of a URL is `None` when it is the one of the scheme. -/
structure ClientRequest where
  host : String
  port : Option Int
  path : String
  headers : List (String × List UInt8)

/-- What arrives at the other end. -/
def ClientRequest.scope (r : ClientRequest) : Scope := ⟨"http", r.path, r.headers⟩

/-- `headers[name] = value`: the first header with the name gets the value, and there are no
others after it. -/
def setHeader (name : String) (value : List UInt8) :
    List (String × List UInt8) → List (String × List UInt8)
  | [] => [(name, value)]
  | header :: rest =>
    if header.1 = name then (name, value) :: rest.filter fun h => decide (h.1 ≠ name)
    else header :: setHeader name value rest

/-- The URL is an admin route on the loopback. -/
def ClientRequest.toAdmin (r : ClientRequest) : Bool :=
  ["localhost", "127.0.0.1"].contains r.host &&
    (r.path == "/admin" || "/admin/".toList.isPrefixOf r.path.toList)

/-- `AdminTokenAuth.auth_flow`. -/
def authFlow (tokens : Dict Int String) (r : ClientRequest) : ClientRequest :=
  if r.toAdmin then
    match r.port.bind fun port => tokens.get? port with
    | none => r
    | some token =>
      if token = "" then r
      else { r with headers := setHeader adminTokenHeader (utf8 token) r.headers }
  else r

/-- The supervisor, and the admin token in the bootstrap of the last process under each key. -/
structure AdminSystem where
  threads : KillThreads
  bootstraps : Dict String String

/-- A supervisor without agents. -/
def AdminSystem.new : AdminSystem := ⟨.new, Dict.empty⟩

/-- The table that `AdminTokenAuth` reads. -/
def AdminSystem.tokens (s : AdminSystem) : Dict Int String := s.threads.sup.adminTokens

/-- One step of the supervisor. A launch hands its token to the process. -/
def adminSystemStep (s : AdminSystem) (l : KillLabel) : Option AdminSystem :=
  (killStep s.threads l).map fun threads =>
    { threads
      bootstraps := match l with
        | .launch runId agentId _ adminToken _ _ =>
          s.bootstraps.set (AgentSupervisor.key runId agentId) adminToken
        | _ => s.bootstraps }

/-- An agent that runs behind this token listens on this port. -/
def AdminSystem.Listens (s : AdminSystem) (k : String) (port : Int) (token : String) : Prop :=
  s.threads.sup.livePort k = some port ∧ s.bootstraps.get? k = some token ∧ token ≠ ""

/-- Every admin request of the playground to an agent gets past its guard. -/
def AdminSystem.Open (s : AdminSystem) : Prop :=
  ∀ k port token, s.Listens k port token → ∀ r : ClientRequest, r.toAdmin = true →
    r.port = some port →
      (AdminAuthMiddleware.new (some token)).passes (authFlow s.tokens r).scope = true

/-- The port in the record of an agent that is killed is the one of another agent, which runs
behind a token. -/
def killsLate (s : AdminSystem) : KillLabel → Bool
  | .killNext thread =>
    match s.threads.loops thread with
    | some (_, k :: _) =>
      match s.threads.sup.agents.get? k with
      | none => false
      | some stale =>
        s.threads.sup.processes.keys.any fun k' =>
          decide (k' ≠ k ∧ s.threads.sup.livePort k' = some stale.port) &&
            (s.bootstraps.get? k').any fun token => decide (token ≠ "")
    | _ => false
  | _ => false

end AitpPlayground.Hosting
