import AitpPlayground.Hosting.PortAllocator
import AitpPlayground.Hosting.Supervisor
import AitpPlayground.Lib.Lts
import AitpPlayground.Registry.Models

/-!
# `AitpPlayground.Runner.Resources`: what the runs of a service hold

The runs of a service share one port allocator and one supervisor. This module has what
`ScenarioRunner.run` does with the two, from the allocation of the ports to `_cleanup_run`,
for any number of runs at once. A run takes its ports one by one into a dictionary by agent
id, launches its agents one by one, and gives everything back at its end.

All runs are coroutines of one event loop, so a run is interrupted at its `await`s only. The
failure path calls `_cleanup_run` in the `except` and again in the `finally`. There is no
`await` between the two, so they are one step here. Allocations and launches are a step each,
which allows more orders than there are.

A cancel request runs `kill_run` on a thread of its own: it reads the keys of the run and
then kills them one by one, between any steps of the runs.

`allocated` and `owner` are not in the code. They record which ports a run allocated, and
which run allocated a port last.
-/

set_option autoImplicit false

namespace AitpPlayground.Runner

open AitpPlayground.Lib
open AitpPlayground.Hosting
open AitpPlayground.Registry

/-- Where a run is between the allocation of its ports and its end. -/
inductive ResourcePhase where
  /-- The agents that are still to get a port. -/
  | allocating (rest : List AgentSpec)
  /-- The agents that are still to be launched. With none left, the steps are walked. -/
  | launching (rest : List AgentSpec)
  | ended
deriving DecidableEq

/-- A run, with its dictionary `ports`. -/
structure RunResources where
  agents : List AgentSpec
  phase : ResourcePhase
  ports : Dict String Int
  allocated : List Int

/-- A run that is about to allocate its first port. -/
def RunResources.start (agents : List AgentSpec) : RunResources :=
  { agents, phase := .allocating agents, ports := Dict.empty, allocated := [] }

/-- The service. -/
structure Service where
  alloc : PortAllocator
  sup : AgentSupervisor
  runs : String → Option RunResources
  owner : Int → Option String
  /-- The cancel requests: the run of each, and the keys it has still to kill. -/
  kills : Nat → Option (String × List String)

/-- A service without runs. -/
def Service.new (start : Int) : Service where
  alloc := .new start
  sup := .new
  runs _ := none
  owner _ := none
  kills _ := none

/-- `_cleanup_run`. -/
def cleanupRun (s : Service) (runId : String) (ports : Dict String Int) : Service :=
  { s with
      sup := s.sup.killRun runId
      alloc := s.alloc.releaseAll (ports.entries.map Prod.snd) }

/-- The end of a run, after the cleanup. -/
def endRun (s : Service) (runId : String) (run : RunResources) : Service :=
  { s with runs := Function.update s.runs runId (some { run with phase := .ended }) }

/-- Who moves. -/
inductive ResourceLabel where
  /-- A run enters its `try`. -/
  | enter (runId : String) (agents : List AgentSpec)
  | allocate (runId : String)
  | launch (runId : String) (adminToken origin : String) (pid : Nat)
  /-- `Popen` raises. -/
  | launchFails (runId adminToken : String)
  /-- An `Exception` inside the `try`, cancelled runs included. -/
  | fail (runId : String)
  /-- The last step is done. -/
  | finish (runId : String)
  /-- An exception that is not an `Exception`: only the `finally` runs. -/
  | abort (runId : String)
  /-- A cancel request reads the keys of a run. -/
  | killStart (request : Nat) (runId : String)
  | killNext (request : Nat)

/-- Run ids are those of `uuid4`: each is used once, and has no colon. -/
def freshRunId (s : Service) (runId : String) : Bool :=
  (s.runs runId).isNone && !runId.toList.contains ':'

/-- One step. -/
def resourceStep (s : Service) : ResourceLabel → Option Service
  | .enter runId agents =>
    if freshRunId s runId then
      some { s with runs := Function.update s.runs runId (some (.start agents)) }
    else none
  | .allocate runId => do
    let run ← s.runs runId
    match run.phase with
    | .allocating (a :: rest) =>
      let (port, alloc) := s.alloc.allocate a.portOffset
      pure { s with
        alloc
        owner := Function.update s.owner port (some runId)
        runs := Function.update s.runs runId (some { run with
          phase := .allocating rest
          ports := run.ports.set a.id port
          allocated := port :: run.allocated }) }
    | .allocating [] =>
      pure { s with
        runs := Function.update s.runs runId (some { run with phase := .launching run.agents }) }
    | _ => none
  | .launch runId adminToken origin pid => do
    let run ← s.runs runId
    match run.phase with
    | .launching (a :: rest) =>
      let port ← run.ports.get? a.id
      pure { s with
        sup := s.sup.register runId a.id port adminToken origin pid
        runs := Function.update s.runs runId (some { run with phase := .launching rest }) }
    | _ => none
  | .launchFails runId adminToken => do
    let run ← s.runs runId
    match run.phase with
    | .launching (a :: _) =>
      let port ← run.ports.get? a.id
      let s := { s with sup := s.sup.setToken port adminToken }
      -- The handler cleans up, and so does the `finally`.
      pure (endRun (cleanupRun (cleanupRun s runId run.ports) runId run.ports) runId run)
    | _ => none
  | .fail runId => do
    let run ← s.runs runId
    match run.phase with
    | .ended => none
    | _ => pure (endRun (cleanupRun (cleanupRun s runId run.ports) runId run.ports) runId run)
  | .finish runId => do
    let run ← s.runs runId
    match run.phase with
    | .launching [] => pure (endRun (cleanupRun s runId run.ports) runId run)
    | _ => none
  | .abort runId => do
    let run ← s.runs runId
    match run.phase with
    | .ended => none
    | _ => pure (endRun (cleanupRun s runId run.ports) runId run)
  | .killStart request runId =>
    some { s with kills := Function.update s.kills request (some (runId, s.sup.keysOf runId)) }
  | .killNext request =>
    match s.kills request with
    | some (runId, k :: keys) =>
      some { s with
        sup := s.sup.kill runId (AgentSupervisor.agentOf k)
        kills := Function.update s.kills request (some (runId, keys)) }
    | _ => none

end AitpPlayground.Runner
