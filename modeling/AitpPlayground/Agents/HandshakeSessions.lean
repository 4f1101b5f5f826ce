import AitpPlayground.Lib.Dict
import AitpPlayground.Lib.Lts
import Mathlib.Logic.Function.Basic

/-!
# `AitpPlayground.Agents.HandshakeSessions`: the responder's sessions

`/aitp/handshake/hello` and `/aitp/handshake/commit` (`agents/base/aitp_server.py`) share the
table `_sessions`: a hello puts its responder there, and a commit takes it out.
`/admin/rotate-keys` replaces the key and clears the table. The three are coroutines of one
event loop. A coroutine is suspended at its `await`s only: for the body of the request, and for
telemetry and refreshes.

So `running` is the request whose code is executed, with the next statement of its handler, and
`suspended` are the requests that wait. No other request moves while one is running. Each
statement that touches the key or the table is a step, and its outcome comes with it: the
verdict of the replay guard, the session id or the exception of the SDK.

A responder is known by the key that it was built from. `sessionIds` and `commits` are not in
the code: the ids that the SDK has given, and the calls of `process_commit`, the last one first.
-/

set_option autoImplicit false

namespace AitpPlayground.Agents

open AitpPlayground.Lib

/-- The next statement of a handler. -/
inductive HandlerAt where
  /-- `hello`: `_screen_envelope`. -/
  | helloScreen
  /-- `self._new_responder()`. -/
  | helloBuild
  /-- `responder.process_hello`. -/
  | helloProcess (responder : String)
  /-- `self._sessions[session_id] = responder`. -/
  | helloStore (responder sessionId : String)
  /-- `commit`: `_screen_envelope`. -/
  | commitScreen (sessionId : String)
  /-- `self._sessions.pop(session_id, None)`. -/
  | commitPop (sessionId : String)
  /-- `responder.process_commit`. -/
  | commitProcess (sessionId responder : String)
  /-- `rotate_keys`: the key is generated and its manifest is minted. -/
  | rotateMint (newAgent : String)
  /-- The section under `_manifest_lock`. -/
  | rotateInstall (newAgent : String)
  /-- `self._sessions.clear()`. -/
  | rotateClear
deriving DecidableEq

/-- What a request waits for. -/
inductive Suspended where
  | helloBody
  | commitBody (sessionId : String)
  /-- A `rotate_keys` that has not begun: its code starts without an `await`. -/
  | rotateBegin (newAgent : String)
  /-- Telemetry or a refresh. What comes after it touches neither the key nor the table. -/
  | telemetry
deriving DecidableEq

/-- A call of `process_commit`, with the key of the server at that moment. -/
structure CommitCall where
  sessionId : String
  responder : String
  agent : String
deriving DecidableEq

/-- The fields of `AitpServer` around the sessions, and its requests. -/
structure SessionServer where
  agent : String
  sessions : Dict String String
  running : Option (Nat × HandlerAt)
  suspended : Nat → Option Suspended
  sessionIds : List String
  commits : List CommitCall

/-- `__init__`. -/
def SessionServer.start (agent : String) : SessionServer where
  agent
  sessions := Dict.empty
  running := none
  suspended _ := none
  sessionIds := []
  commits := []

namespace SessionServer

/-- The request goes on with another statement. -/
def goto (s : SessionServer) (request : Nat) (next : HandlerAt) : SessionServer :=
  { s with running := some (request, next) }

/-- The request is suspended. -/
def await (s : SessionServer) (request : Nat) (for_ : Suspended) : SessionServer :=
  { s with
      running := none
      suspended := Function.update s.suspended request (some for_) }

/-- The request is answered, or its handler raises. -/
def return_ (s : SessionServer) : SessionServer := { s with running := none }

end SessionServer

/-- What a statement meets. -/
inductive HandlerOutcome where
  | ok
  /-- The replay guard refuses, or the SDK raises. -/
  | refused
  /-- The session id that `process_hello` returns. -/
  | session (sessionId : String)
deriving DecidableEq

/-- Who moves. -/
inductive SessionLabel where
  | hello (request : Nat)
  | commit (request : Nat) (sessionId : String)
  | rotate (request : Nat) (newAgent : String)
  /-- The loop resumes a request that waits. -/
  | resume (request : Nat)
  /-- The running request executes its next statement. -/
  | execute (outcome : HandlerOutcome)
deriving DecidableEq

/-- One statement of the running request. `none`: the outcome is not one of the statement. -/
def sessionExecute (s : SessionServer) (request : Nat) (at_ : HandlerAt)
    (outcome : HandlerOutcome) : Option SessionServer :=
  match at_, outcome with
  | .helloScreen, .ok => some (s.goto request .helloBuild)
  | .helloScreen, .refused => some (s.await request .telemetry)
  | .helloBuild, .ok => some (s.goto request (.helloProcess s.agent))
  | .helloBuild, .refused => some s.return_
  | .helloProcess responder, .session sessionId =>
    -- The ids of the SDK are distinct.
    if sessionId ∈ s.sessionIds then none
    else some { s.goto request (.helloStore responder sessionId) with
      sessionIds := sessionId :: s.sessionIds }
  | .helloProcess _, .refused => some (s.await request .telemetry)
  | .helloStore responder sessionId, .ok =>
    some { s.await request .telemetry with sessions := s.sessions.set sessionId responder }
  | .commitScreen sessionId, .ok => some (s.goto request (.commitPop sessionId))
  | .commitScreen _, .refused => some (s.await request .telemetry)
  | .commitPop sessionId, .ok =>
    match s.sessions.get? sessionId with
    | none => some s.return_
    | some responder =>
      some { s.goto request (.commitProcess sessionId responder) with
        sessions := s.sessions.erase sessionId }
  | .commitProcess sessionId responder, .ok | .commitProcess sessionId responder, .refused =>
    some { s.await request .telemetry with
      commits := { sessionId, responder, agent := s.agent } :: s.commits }
  | .rotateMint newAgent, .ok => some (s.goto request (.rotateInstall newAgent))
  | .rotateMint _, .refused => some s.return_
  | .rotateInstall newAgent, .ok => some { s.goto request .rotateClear with agent := newAgent }
  | .rotateClear, .ok => some { s.await request .telemetry with sessions := Dict.empty }
  | _, _ => none

/-- The statement that a request goes on with, if one is left that matters. -/
def Suspended.next : Suspended → Option HandlerAt
  | .helloBody => some .helloScreen
  | .commitBody sessionId => some (.commitScreen sessionId)
  | .rotateBegin newAgent => some (.rotateMint newAgent)
  | .telemetry => none

/-- One step. -/
def sessionStep (s : SessionServer) : SessionLabel → Option SessionServer
  | .hello request =>
    if s.running = none ∧ s.suspended request = none then some (s.await request .helloBody)
    else none
  | .commit request sessionId =>
    if s.running = none ∧ s.suspended request = none then
      some (s.await request (.commitBody sessionId))
    else none
  | .rotate request newAgent =>
    if s.running = none ∧ s.suspended request = none then
      some (s.await request (.rotateBegin newAgent))
    else none
  | .resume request =>
    match s.running, s.suspended request with
    | none, some waits =>
      some { s with
        running := waits.next.map fun next => (request, next)
        suspended := Function.update s.suspended request none }
    | _, _ => none
  | .execute outcome =>
    match s.running with
    | none => none
    | some (request, at_) => sessionExecute s request at_ outcome

end AitpPlayground.Agents
