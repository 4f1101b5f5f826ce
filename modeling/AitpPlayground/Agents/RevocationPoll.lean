import AitpPlayground.Agents.AgentSystem

/-!
# `AitpPlayground.Agents.RevocationPoll`: the poll loop of an agent

`_revocation_poll_loop` (`agents/base/aitp_server.py`) refreshes the revocation list on a
cadence. It reports a tick as a `revocation.poll` event when its health differs from that of the
tick before, and on a low-frequency heartbeat.

`pollStep` is the loop beside the rest of the agent. The loop is one more coroutine, with a
control point where it awaits: the sleep, the answer of the control plane, the telemetry event of
a list that was published, and that of a list that was discarded (`PollPc`). At each of them every
step of the agent can come. The `revocation.poll` event is awaited last, when all that the loop
goes on with is in its own variables, so it is part of the step before.

`PollSystem.log` records the ticks, newest first. No function reads it but the theorems do.
-/

set_option autoImplicit false

namespace AitpPlayground.Agents

open AitpPlayground.Lib

/-! ### Ticks -/

/-- The fields of a `revocation.poll` event. -/
structure PollEvent where
  healthy : Bool
  changed : Bool
  posture : Posture
deriving DecidableEq

/-- The pull of a tick: the AID of the request and its answer, and what a list is signed with when
the answer is there. -/
structure PollPull where
  requestAid : String
  answer : Answer
  signerAid : String
  ttlSecs : Int
  signSalt : Nat
deriving DecidableEq

/-- What `refresh_revocations` looks at after the pull: the AID of the agent, its list, and the
clock. -/
structure PollLook where
  aid : String
  issued : IssuerRevocationList
  now : ℚ
deriving DecidableEq

/-- A tick: what it met, and what it did. -/
structure PollTick where
  /-- `ticks`, in this tick. -/
  number : Nat
  pulled : PollPull
  /-- There is none when the refresh raised before. -/
  look : Option PollLook
  /-- The list that it verified and applied. The result of the refresh has `verified` when there
  is one. -/
  applied : Option SignedList
  event : Option PollEvent
deriving DecidableEq

/-! ### The loop -/

/-- Where the loop is. -/
inductive PollPc where
  | sleeping
  /-- In `_pull`, with the AID of the request. -/
  | pulling (aid : String)
  /-- Awaits the telemetry event of `refresh`. -/
  | publishing (pulled : PollPull)
  /-- Awaits the telemetry event of a list that does not verify or cannot be read. -/
  | discarding (pulled : PollPull) (look : PollLook)
deriving DecidableEq

/-- An agent with its poll loop. -/
structure PollSystem where
  agent : AgentSystem
  pc : PollPc
  healthy : Option Bool
  ticks : Nat
  /-- The loop has raised. -/
  stopped : Bool
  log : List PollTick

/-- The loop as it starts. -/
structure PollStart (s : PollSystem) : Prop where
  agent : AgentStart s.agent
  pc : s.pc = .sleeping
  healthy : s.healthy = none
  ticks : s.ticks = 0
  stopped : s.stopped = false
  log : s.log = []

/-- A step of the loop, or of the rest of the agent. -/
inductive PollLabel where
  /-- The sleep is over. -/
  | wake
  /-- The pull comes back. The SDK signs at `signSalt` and verifies at `salt`. -/
  | answered (answer : Answer) (signSalt salt : Nat)
  /-- The telemetry event of a published list is out. -/
  | published (salt : Nat)
  /-- The telemetry event of a discarded list is out. -/
  | discarded
  | other (label : AgentLabel)

/-- `heartbeat_every`. -/
def heartbeatEvery (pollSecs : Int) : Nat := (max 1 (600 / max 1 pollSecs)).toNat

namespace PollSystem

/-- The loop after its refresh, which applied this list. -/
def finish (pollSecs : Int) (s : PollSystem) (pulled : PollPull) (look : Option PollLook)
    (applied : Option SignedList) : PollSystem :=
  let server := s.agent.server
  let ok := applied.isSome
  let changed := s.healthy.all fun healthy => ok != healthy
  let done (event : Option PollEvent) : PollSystem :=
    { s with
      pc := .sleeping
      healthy := some ok
      log := ⟨s.ticks, pulled, look, applied, event⟩ :: s.log }
  if changed || s.ticks % heartbeatEvery pollSecs == 0 then
    match server.revocation.posture server.cpConfigured server.revocationMaxStalenessSecs
      s.agent.clock with
    -- The posture is read outside the `try`.
    | .error _ => { done none with healthy := s.healthy, stopped := true }
    | .ok posture => done (some ⟨ok, changed, posture⟩)
  else done none

/-- `refresh_revocations` from the look at the list on. -/
def lookAtList (sdk : Sdk) (py : PyLib) (pollSecs : Int) (s : PollSystem) (pulled : PollPull)
    (salt : Nat) : PollSystem :=
  let server := s.agent.server
  let look : PollLook := ⟨server.aid, server.issuedRevocations, s.agent.clock⟩
  let (issued, revocation, applied) :=
    applyList sdk py server.issuedRevocations server.revocation server.aid s.agent.clock salt
  let s : PollSystem := { s with
    agent := { s.agent with
      server := { server with issuedRevocations := issued, revocation } } }
  if applied.isNone && (look.issued.inForce look.aid look.now).isSome then
    { s with pc := .discarding pulled look }
  else s.finish pollSecs pulled (some look) applied

/-- `refresh` from the answer on. -/
def answered (sdk : Sdk) (py : PyLib) (pollSecs : Int) (s : PollSystem) (aid : String)
    (answer : Answer) (signSalt salt : Nat) : PollSystem :=
  let server := s.agent.server
  let pulled : PollPull :=
    ⟨aid, answer, server.aid, server.issuedRevocations.ttlSecs, signSalt⟩
  match server.issuedRevocations.finishRefresh sdk py aid server.aid true answer signSalt with
  -- `refresh_revocations_now` swallows what the refresh raises.
  | (_, .raised) => s.finish pollSecs pulled none none
  | (issued, .returned emits _) =>
    let s : PollSystem := { s with
      agent := { s.agent with server := { server with issuedRevocations := issued } } }
    if emits then { s with pc := .publishing pulled }
    else s.lookAtList sdk py pollSecs pulled salt

end PollSystem

/-- One step of the agent or of its loop, which only runs with a control plane. -/
def pollStep (sdk : Sdk) (py : PyLib) (pollSecs : Int) (s : PollSystem) :
    PollLabel → Option PollSystem
  | .wake =>
    match s.pc with
    | .sleeping =>
      if s.stopped then none
      else some { s with pc := .pulling s.agent.server.aid, ticks := s.ticks + 1 }
    | _ => none
  | .answered answer signSalt salt =>
    match s.pc with
    | .pulling aid => some (s.answered sdk py pollSecs aid answer signSalt salt)
    | _ => none
  | .published salt =>
    match s.pc with
    | .publishing pulled => some (s.lookAtList sdk py pollSecs pulled salt)
    | _ => none
  | .discarded =>
    match s.pc with
    | .discarding pulled look => some (s.finish pollSecs pulled (some look) none)
    | _ => none
  | .other label => (agentStep sdk py s.agent label).map fun agent => { s with agent }

end AitpPlayground.Agents
