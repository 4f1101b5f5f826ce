import AitpPlayground.Agents.AitpServer
import AitpPlayground.Lib.Lts

/-!
# `AitpPlayground.Agents.AgentSystem`: one agent and its coroutines

The server of an agent runs on one event loop. A refresh of the revocation list (from the
poll loop, from `/admin/refresh-revocations`, from `/admin/publish-revocations`, at start-up)
and a key rotation are coroutines. They give up control where they await the control plane
and where they await a telemetry event. `Task` has a control point at each of these, and
`agentStep` moves one of them, or makes a call that does not suspend.

* A refresh reads the AID, awaits the pull, signs, may await a telemetry event, and applies
  the list in force.
* `rotate_keys` swaps the key, publishes a list (a pull of its own) and then refreshes.

`AgentSystem.history` records what happened, newest first. No function reads it but the
theorems do. A publication there keeps the AID of its request, the answer with its entries,
and the version of the entries that the control plane answered with.
-/

set_option autoImplicit false

namespace AitpPlayground.Agents

open AitpPlayground.Lib

/-- A list that was assigned to `current` after a pull. -/
structure Publication where
  requestAid : String
  answer : Answer
  entries : List Entry
  version : Nat
  signed : SignedList
deriving DecidableEq

/-- What the history records. -/
inductive AgentEvent where
  | rotated (aid : String)
  | published (p : Publication)
  /-- `apply_snapshot` of a list, by a refresh that pulled `pulled` (`none` when its pull
  failed). `source` is the publication of the list. -/
  | applied (list : SignedList) (source : Option Publication) (pulled : Option Nat)
  | popIssued (nonce : PyKey) (challenge : String) (expiresAt : PyFloat)
  | popConsumed (nonce : PyKey)
deriving DecidableEq

/-- The publication an event is. -/
def AgentEvent.publication? : AgentEvent → Option Publication
  | .published p => some p
  | _ => none

/-- The last publication of a history. -/
def lastPublished (history : List AgentEvent) : Option Publication :=
  history.findSome? AgentEvent.publication?

/-- The control points of a coroutine. -/
inductive TaskPc where
  /-- In `_pull`, with the AID of the request. -/
  | pulling (aid : String)
  /-- Awaits the telemetry event of `refresh`, after a pull of this version. -/
  | emitting (pulled : Option Nat)
  | done
deriving DecidableEq

/-- A coroutine: `publish_revocations_now` of a rotation, which goes on with a refresh, or a
refresh. -/
structure Task where
  rotation : Bool
  quiet : Bool
  pc : TaskPc
deriving DecidableEq

/-- The AID of the request that a coroutine awaits. -/
def Task.pulling? (t : Task) : Option String :=
  match t.pc with
  | .pulling aid => some aid
  | .emitting _ | .done => none

/-- One agent with its coroutines. -/
structure AgentSystem where
  server : AitpServer
  clock : ℚ
  tasks : List Task
  history : List AgentEvent

/-- An agent that was just built: no list, no snapshot, no challenge, no coroutine. -/
structure AgentStart (s : AgentSystem) : Prop where
  current : s.server.issuedRevocations.current = none
  snapshot : s.server.revocation.snapshot = none
  outstanding : s.server.popChallenges.outstanding = .empty
  tasks : s.tasks = []
  history : s.history = []

/-- The calls and the moves of the coroutines. -/
inductive AgentLabel where
  | tick (now : ℚ)
  | revokeLocal (jti : String)
  | startRefresh (quiet : Bool)
  | rotate (newAid : String) (salt : Nat)
  /-- The pull of a coroutine comes back. `version` is the version of the entries. -/
  | resume (i : Nat) (answer : Answer) (version : Nat) (salt : Nat)
  /-- The telemetry event of a coroutine is out. -/
  | emitted (i : Nat) (salt : Nat)
  /-- `GET` of the revocation list. -/
  | serve (salt : Nat)
  | capability (tctToken requiredGrant popResponse : String) (salt : Nat)

namespace AgentSystem

/-- Replaces a coroutine. -/
def setTask (s : AgentSystem) (i : Nat) (t : Task) : AgentSystem :=
  { s with tasks := s.tasks.set i t }

/-- `refresh_revocations` up to its pull. Without a control plane it returns at once. -/
def beginRefresh (s : AgentSystem) (quiet : Bool) : Task :=
  { rotation := false, quiet
    pc := if s.server.cpConfigured then .pulling s.server.aid else .done }

/-- `refresh` has returned: a rotation goes on with a refresh, and a refresh applies the list
in force. -/
def afterRefresh (sdk : Sdk) (py : PyLib) (s : AgentSystem) (i : Nat) (t : Task)
    (pulled : Option Nat) (salt : Nat) : AgentSystem :=
  if t.rotation then s.setTask i (s.beginRefresh true)
  else
    let (issued, revocation, applied) := applyList sdk py s.server.issuedRevocations
      s.server.revocation s.server.aid s.clock salt
    { s with
        server := { s.server with issuedRevocations := issued, revocation }
        history := (applied.map fun list =>
          AgentEvent.applied list (lastPublished s.history) pulled).toList ++ s.history
        : AgentSystem }.setTask i { t with pc := .done }

/-- What a publication adds to the history. -/
def publishedBy (aid : String) (answer : Answer) (version : Nat)
    (issued : IssuerRevocationList) : Option (List Entry) → List AgentEvent
  | some entries =>
    (issued.current.map fun signed =>
      AgentEvent.published ⟨aid, answer, entries, version, signed⟩).toList
  | none => []

/-- The pull of a coroutine comes back. -/
def resume (sdk : Sdk) (py : PyLib) (s : AgentSystem) (i : Nat) (t : Task) (aid : String)
    (answer : Answer) (version : Nat) (salt : Nat) : AgentSystem :=
  match s.server.issuedRevocations.finishRefresh sdk py aid s.server.aid t.quiet answer salt with
  | (_, .raised) =>
    -- The exception ends the refresh, and a rotation goes on with the next one.
    s.setTask i (if t.rotation then s.beginRefresh true else { t with pc := .done })
  | (issued, .returned emits pulled) =>
    let s := { s with
      server := { s.server with issuedRevocations := issued }
      history := publishedBy aid answer version issued pulled ++ s.history }
    let pulledVersion := pulled.map fun _ => version
    if emits then s.setTask i { t with pc := .emitting pulledVersion }
    else s.afterRefresh sdk py i t pulledVersion salt

/-- `rotate_keys` up to its first pull. -/
def rotate (sdk : Sdk) (py : PyLib) (s : AgentSystem) (newAid : String) (salt : Nat) :
    AgentSystem :=
  -- The snapshot in force is not touched.
  let server := { s.server with aid := newAid }
  let history := .rotated newAid :: s.history
  if server.cpConfigured then
    { s with
        server, history
        tasks := s.tasks ++ [{ rotation := true, quiet := true, pc := .pulling newAid }] }
  else
    -- `refresh` serves an empty list, and the refresh after it returns at once.
    let issuedRevocations := (server.issuedRevocations.serveable sdk py newAid s.clock salt).1
    { s with server := { server with issuedRevocations }, history }

/-- The challenge a capability call issued or consumed. -/
def popEvents (sdk : Sdk) (py : PyLib) (s : AgentSystem) (tctToken popResponse : String)
    (salt : Nat) : List AgentEvent :=
  match s.server.precheck py s.clock tctToken with
  | (_, .error _) => []
  | (server, .ok _) =>
    if popResponse = "" then
      match (server.popChallenges.issue py s.clock
        fun ttl => sdk.newPopChallenge server.aid tctToken ttl salt).2 with
      | .error _ => []
      | .ok challenge =>
        match PopChallenges.entryFor py challenge with
        | .error _ => []
        | .ok (nonce, expiresAt) => [.popIssued nonce challenge expiresAt]
    else
      match decodeHeader py popResponse with
      | .error _ => []
      | .ok responseJson =>
        match (server.popChallenges.consume py s.clock responseJson).2,
          PopChallenges.nonceEcho py responseJson with
        | .ok _, .ok nonce => [.popConsumed (.str nonce)]
        | _, _ => []

/-- A capability call. -/
def capability (sdk : Sdk) (py : PyLib) (s : AgentSystem)
    (tctToken requiredGrant popResponse : String) (salt : Nat) :
    AgentSystem × Except CallExc TctIdentity :=
  let (server, result) :=
    s.server.verifyCapabilityTct sdk py s.clock tctToken requiredGrant popResponse salt
  ({ s with server, history := s.popEvents sdk py tctToken popResponse salt ++ s.history }, result)

end AgentSystem

/-- One call, or one move of a coroutine. -/
def agentStep (sdk : Sdk) (py : PyLib) (s : AgentSystem) : AgentLabel → Option AgentSystem
  | .tick now => if s.clock ≤ now then some { s with clock := now } else none
  | .revokeLocal jti =>
    some { s with server := { s.server with revocation := s.server.revocation.revokeLocal jti } }
  | .startRefresh quiet => some { s with tasks := s.tasks ++ [s.beginRefresh quiet] }
  | .rotate newAid salt => some (s.rotate sdk py newAid salt)
  | .resume i answer version salt =>
    match s.tasks[i]? with
    | some ⟨rotation, quiet, .pulling aid⟩ =>
      some (s.resume sdk py i ⟨rotation, quiet, .pulling aid⟩ aid answer version salt)
    | _ => none
  | .emitted i salt =>
    match s.tasks[i]? with
    | some ⟨rotation, quiet, .emitting pulled⟩ =>
      some (s.afterRefresh sdk py i ⟨rotation, quiet, .emitting pulled⟩ pulled salt)
    | _ => none
  | .serve salt =>
    let issuedRevocations :=
      (s.server.issuedRevocations.serveable sdk py s.server.aid s.clock salt).1
    some { s with server := { s.server with issuedRevocations } }
  | .capability tctToken requiredGrant popResponse salt =>
    some (s.capability sdk py tctToken requiredGrant popResponse salt).1

end AitpPlayground.Agents
