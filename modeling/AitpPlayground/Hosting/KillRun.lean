import AitpPlayground.Hosting.Supervisor
import AitpPlayground.Lib.Lts
import Mathlib.Data.Finset.Erase
import Mathlib.Data.Finset.Insert
import Mathlib.Logic.Function.Basic

/-!
# `AitpPlayground.Hosting.KillRun`: `kill_run` on several threads

`kill_run` (`src/aitp_playground/hosting/supervisor.py`) reads the keys of the table once and
then kills the agents of its run one by one. The cancel request calls it on a thread of the
pool, and `_cleanup_run` on the event loop, so two loops over one run can be under way at once.
A `kill` is one step, and so are the parts of `launch` before its first `await`.

`taken` are the ports that were launched on and not released since. It is not in the code of the
supervisor: the allocators keep it. `launch` of the supervisor looks at no port. That every
launch here is on a port that is not taken is what both allocators see to. `HostedAgentManager`
also launches on a port that its caller pins, which may be taken: that is in
`AitpPlayground.Hosting.Hosted`, and not among the runs here.
-/

set_option autoImplicit false

namespace AitpPlayground.Hosting

open AitpPlayground.Lib

/-- The port of an agent that has a process. -/
def AgentSupervisor.livePort (s : AgentSupervisor) (k : String) : Option Int :=
  if (s.processes.get? k).isSome then (s.agents.get? k).map RunningAgent.port else none

/-- The supervisor, with the loops of `kill_run` that are under way. -/
structure KillThreads where
  sup : AgentSupervisor
  taken : Finset Int
  /-- The run of each loop, and the keys that it has still to kill. -/
  loops : Nat → Option (String × List String)

/-- A supervisor without agents. -/
def KillThreads.new : KillThreads := { sup := .new, taken := ∅, loops := fun _ => none }

/-- Who moves. -/
inductive KillLabel where
  | launch (runId agentId : String) (port : Int) (adminToken origin : String) (pid : Nat)
  /-- `Popen` raises: the token of the port is registered, and nothing else. -/
  | launchFails (port : Int) (adminToken : String)
  | ready (runId agentId aid : String)
  | release (port : Int)
  /-- A thread enters `kill_run`. -/
  | killStart (thread : Nat) (runId : String)
  | killNext (thread : Nat)

/-- Run ids are those of `uuid4`, with `hosted-` before them or not: they have no colon. -/
def plainRunId (runId : String) : Bool := !runId.toList.contains ':'

/-- One step. A launch is on a port that is not taken. -/
def killStep (s : KillThreads) : KillLabel → Option KillThreads
  | .launch runId agentId port adminToken origin pid =>
    if port ∉ s.taken ∧ plainRunId runId then
      some { s with
        sup := s.sup.register runId agentId port adminToken origin pid
        taken := insert port s.taken }
    else none
  | .launchFails port adminToken =>
    if port ∉ s.taken then
      some { s with sup := s.sup.setToken port adminToken, taken := insert port s.taken }
    else none
  | .ready runId agentId aid => some { s with sup := s.sup.signalReady runId agentId aid }
  | .release port =>
    -- The allocator gives back a port that no live agent has.
    if s.sup.processes.keys.all fun k => s.sup.livePort k ≠ some port then
      some { s with taken := s.taken.erase port }
    else none
  | .killStart thread runId =>
    if s.loops thread = none ∧ plainRunId runId then
      some { s with loops := Function.update s.loops thread (some (runId, s.sup.keysOf runId)) }
    else none
  | .killNext thread =>
    match s.loops thread with
    | none => none
    -- The keys were read at the start of the loop, and it ends with them.
    | some (_, []) => some { s with loops := Function.update s.loops thread none }
    | some (runId, k :: rest) =>
      some { s with
        sup := s.sup.kill runId (AgentSupervisor.agentOf k)
        loops := Function.update s.loops thread (some (runId, rest)) }

/-- The run whose `kill_run` a step belongs to. -/
def killedRun (s : KillThreads) : KillLabel → Option String
  | .killStart _ runId => some runId
  | .killNext thread => (s.loops thread).map Prod.fst
  | _ => none

/-- The process entry and the admin token of every live agent of another run stay. -/
structure OthersKept (runId : String) (s s' : AgentSupervisor) : Prop where
  process : ∀ k p, s.processes.get? k = some p → p.launchedBy ≠ runId →
    s'.processes.get? k = some p
  token : ∀ k p port, s.processes.get? k = some p → p.launchedBy ≠ runId →
    s.livePort k = some port → s'.adminTokens.get? port = s.adminTokens.get? port

/-- A kill that comes too late: its agent was killed before, and an agent of another run has
been launched on its port since, with a token. -/
def KillsRecycled (s : KillThreads) (l : KillLabel) : Prop :=
  ∃ thread runId k rest stale, l = .killNext thread ∧
    s.loops thread = some (runId, k :: rest) ∧
    s.sup.processes.get? k = none ∧ s.sup.agents.get? k = some stale ∧
    (s.sup.adminTokens.get? stale.port).isSome ∧
    ∃ k' p, s.sup.processes.get? k' = some p ∧ p.launchedBy ≠ runId ∧
      s.sup.livePort k' = some stale.port

end AitpPlayground.Hosting
