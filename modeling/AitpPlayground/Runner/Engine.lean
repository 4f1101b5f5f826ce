import AitpPlayground.Runner.Store

/-!
# `AitpPlayground.Runner.Engine`: the life of one run

`ScenarioRunner.run` (`src/aitp_playground/runner/engine.py`) claims the run, loads the
scenario, checks it, launches the agents, walks the workflow steps and writes the outcome.
What this module keeps of it is everything the run store can see: each store call, in the
order of the source, and the tests that decide which call comes next.

The control points are `EnginePc`. What the store does not decide (whether the registry
knows the scenario, whether the inputs are valid, which events a workflow step emits, where
it raises) is an `EngineChoice`, so a theorem about every choice is a theorem about every
scenario, every template, every input and every behaviour of the agents.

A control point makes at most one store call. `EnginePc.move` gives the call and where
control goes with its reply.
-/

set_option autoImplicit false

namespace AitpPlayground.Runner

open AitpPlayground.Lib

/-! ### Events -/

/-- An event of the log: the dictionary `RunEvent.model_dump()` makes. -/
abbrev Event := Dict String Json

/-- The optional fields of the class `RunEvent`, in its order. -/
def runEventFields : List String :=
  ["run_id", "scenario_ref", "template", "agent_id", "agent", "aid", "port", "step_id",
   "capability", "initiator", "target", "grants", "peers", "result", "error", "code",
   "notes", "jti", "cause", "source_url"]

/-- A `RunEvent`: its type, its time, and the optional fields that are set. -/
structure RunEvent where
  type : String
  ts : ℚ
  fields : Dict String Json
deriving DecidableEq

/-- `RunEvent.model_dump()`: a field that is not set is `None`. -/
def RunEvent.modelDump (e : RunEvent) : Event :=
  Dict.ofList (("type", .str e.type) :: ("ts", .num (.float (.fin e.ts))) ::
    runEventFields.map fun f => (f, (e.fields.get? f).getD .null))

/-- The event `RunContext.emit` stores: the `run_id` of the run, unless the event has one. -/
def RunEvent.emitted (e : RunEvent) (runId : String) : Event :=
  match e.fields.get? "run_id" with
  | some (.str _) => e.modelDump
  | _ => { e with fields := e.fields.set "run_id" (.str runId) : RunEvent }.modelDump

/-- The value `event.get("type")`, when it is text. -/
def eventType (e : Event) : Option String :=
  match e.get? "type" with
  | some (.str t) => some t
  | _ => none

/-- The types of the events that end a run. -/
def terminalTypes : List String := ["run.complete", "run.failed", "run.cancelled"]

/-- The type of a terminal event. -/
def terminalType (e : Event) : Option String := (eventType e).filter fun t => t ∈ terminalTypes

/-- The terminal events of a log, by type. -/
def terminalEvents (log : List Event) : List String := log.filterMap terminalType

/-- `_TERMINAL_STATUSES`. -/
def terminalStatuses : List String := ["success", "failed", "cancelled"]

/-- The test `record.get("status") in _TERMINAL_STATUSES`. -/
def isTerminal : Option Json → Bool
  | some (.str status) => terminalStatuses.contains status
  | _ => false

/-- The types of the events the launch phase and the workflow steps emit. -/
def bodyEventTypes : List String :=
  ["oidc.issuer_minted", "agent.spawning", "agent.ready", "trust.peers_pinned",
   "trust.peers_resolved", "trust.establishing", "trust.established",
   "manifest.verify_failed", "step.started", "step.complete", "step.skipped",
   "step.fault_injected", "step.fault_complete", "step.probing_no_trust",
   "step.probing_with_held_tct", "step.access_denied", "step.unexpected_status",
   "delegation.issuing", "delegation.redeeming", "revocation.published",
   "identity.key.rotated", "tct.renewed", "tct.cache.stats", "spki.pin.checked",
   "session.bundle.exported", "session.bundle.verified", "cp.enroll_started",
   "cp.enroll_complete", "cp.webhook.subscribed", "cp.webhook.subscribe_failed",
   "cp.trust_anchor.provisioned", "cp.delegation.tree"]

/-! ### Moves -/

/-- One move of a caller of the store: the call, if it makes one, and where control goes
with the reply. A move without a call gets the reply `done`. -/
structure Move (π : Type) where
  call : Option (RunStore.Call Event)
  next : RunStore.Reply Event → π

/-- A move made on a store: the new store, the next control point, the queues to notify. -/
def Move.run {π : Type} (m : Move π) (s : RunStore Event) (runId : String) (now : ℚ) :
    RunStore Event × π × List Nat :=
  match m.call with
  | none => (s, m.next .done, [])
  | some c =>
    let (s', reply, queues) := s.call runId now c
    (s', m.next reply, queues)

/-- The test of `_is_cancelled` on the record it got. -/
def readsCancelled : RunStore.Reply Event → Bool
  | .record (some r) => decide (r.status = some (.str "cancelled"))
  | _ => false

/-- The reply of `upsert_unless_cancelled`. -/
def wasWritten : RunStore.Reply Event → Bool
  | .written accepted => accepted
  | _ => false

/-! ### The engine -/

/-- The arguments of `run`. -/
structure RunArgs where
  runId : String
  scenarioRef : String
  runLabel : Option String
  template : Option String

/-- An optional text as a JSON value. -/
def jsonOfText : Option String → Json
  | some s => .str s
  | none => .null

/-- The update that claims the run. -/
def startRecord (args : RunArgs) : Record Event :=
  { scalars := Dict.ofList
      [("run_id", .str args.runId), ("status", .str "running"),
       ("scenario_ref", .str args.scenarioRef), ("run_label", jsonOfText args.runLabel),
       ("outputs", .obj []), ("error", .null)]
    events := [] }

/-- The update that records success. -/
def successRecord (args : RunArgs) (outputs : Json) : Record Event :=
  { scalars := Dict.ofList
      [("run_id", .str args.runId), ("status", .str "success"),
       ("scenario_ref", .str args.scenarioRef), ("outputs", outputs), ("error", .null)]
    events := [] }

/-- The update `_finalize_failure` writes. -/
def failureRecord (args : RunArgs) (error : String) : Record Event :=
  { scalars := Dict.ofList
      [("run_id", .str args.runId), ("status", .str "failed"), ("outputs", .obj []),
       ("error", .str error)]
    events := [] }

/-- The event `run.failed`. -/
def failedEvent (args : RunArgs) (code : Option String) (error : String) (ts : ℚ) : Event :=
  RunEvent.emitted ⟨"run.failed", ts,
    Dict.ofList [("code", jsonOfText code), ("error", .str error)]⟩ args.runId

/-- The event `run.started`. -/
def startedEvent (args : RunArgs) (ts : ℚ) : Event :=
  RunEvent.emitted ⟨"run.started", ts,
    Dict.ofList [("scenario_ref", .str args.scenarioRef),
      ("template", jsonOfText args.template)]⟩ args.runId

/-- The event `run.complete`. -/
def completeEvent (args : RunArgs) (ts : ℚ) : Event :=
  RunEvent.emitted ⟨"run.complete", ts, Dict.empty⟩ args.runId

/-- The control points of `run`. -/
inductive EnginePc where
  /-- Before the claim of the run. -/
  | start
  /-- Before the scenario is loaded and its SDK features are checked. -/
  | load
  /-- The scenario was refused: before `_is_cancelled`. -/
  | refused (code : Option String) (error : String)
  /-- Before `ctx.emit` of `run.failed`. -/
  | emitFailed (code : Option String) (error : String)
  /-- Before the `_is_cancelled` that guards `run.started`. -/
  | checkStart
  | emitStarted
  /-- Before the inputs are validated. -/
  | validate
  /-- Inside the `try`: launch, trust, workflow steps. -/
  | body
  /-- In the `except`, before the record is read. -/
  | handler (code : Option String) (error : String)
  /-- At the head of `_finalize_failure`, before `_is_cancelled`. -/
  | finalize (error : String)
  /-- `_finalize_failure` found no cancellation: before the `upsert` of `failed`. -/
  | writeFailed (error : String)
  /-- Every step is done: before the write of `success`. -/
  | succeed (outputs : Json)
  | emitComplete
  /-- Before the record is read for the control plane. -/
  | ingest (status : String)
  /-- `run` returned a `RunResult` with this status. -/
  | returned (status : String)
  /-- An exception left `run`. -/
  | raised
deriving DecidableEq

/-- What the store does not decide. -/
inductive EngineChoice where
  /-- The control point has no choice: it makes its store call. -/
  | go
  /-- The registry or the preflight raised a `PlaygroundError`. -/
  | refuse (code error : String)
  /-- An exception that no handler of this control point catches. -/
  | escape
  /-- The scenario is loaded, or the inputs are valid. -/
  | pass
  /-- `jsonschema.ValidationError`. -/
  | invalid (message : String)
  /-- A workflow step or the launch phase emits an event. -/
  | emit (event : RunEvent)
  /-- A `cp_subscribe_webhook` step stores its webhook. -/
  | webhook (value : Json)
  /-- A workflow step reads the record. -/
  | read
  /-- The spawn loop tests for a cancellation before a launch. -/
  | launch
  /-- An exception inside the `try`. The code is the one of a `PlaygroundError`. -/
  | fail (code : Option String) (error : String)
  /-- The last step is done. -/
  | finish (outputs : Json)
deriving DecidableEq

/-- The next move of the engine. `none` when the control point does not have the choice. -/
def EnginePc.move (args : RunArgs) (ts : ℚ) : EnginePc → EngineChoice → Option (Move EnginePc)
  | .start, .go => some
    { call := some (.upsertUnlessCancelled (startRecord args))
      next := fun reply => if wasWritten reply then .load else .returned "cancelled" }
  | .load, .refuse code error => some ⟨none, fun _ => .refused (some code) error⟩
  | .load, .escape => some ⟨none, fun _ => .raised⟩
  | .load, .pass => some ⟨none, fun _ => .checkStart⟩
  | .refused code error, .go => some
    { call := some .get
      next := fun reply =>
        -- A cancel already emitted the terminal event.
        if readsCancelled reply then .finalize error else .emitFailed code error }
  -- The event is appended before the status.
  | .emitFailed code error, .go => some
    { call := some (.appendEvent (failedEvent args code error ts))
      next := fun _ => .finalize error }
  | .checkStart, .go => some
    { call := some .get
      next := fun reply =>
        if readsCancelled reply then .finalize "cancelled before start" else .emitStarted }
  | .emitStarted, .go => some
    { call := some (.appendEvent (startedEvent args ts)), next := fun _ => .validate }
  | .validate, .pass => some ⟨none, fun _ => .body⟩
  -- The inputs are refused without a look at the record.
  | .validate, .invalid message => some
    ⟨none, fun _ => .emitFailed (some "inputs_invalid") ("inputs validation: " ++ message)⟩
  | .validate, .escape => some ⟨none, fun _ => .raised⟩
  | .body, .emit event =>
    if event.type ∈ bodyEventTypes then
      some { call := some (.appendEvent (event.emitted args.runId)), next := fun _ => .body }
    else none
  | .body, .webhook value => some
    { call := some (.upsert (Record.ofScalar "cp_webhook" value)), next := fun _ => .body }
  | .body, .read => some { call := some .get, next := fun _ => .body }
  | .body, .launch => some
    { call := some .get
      -- `raise _RunCancelled(run_id)` when the record says so.
      next := fun reply => if readsCancelled reply then .handler none args.runId else .body }
  | .body, .fail code error => some ⟨none, fun _ => .handler code error⟩
  | .body, .escape => some ⟨none, fun _ => .raised⟩
  | .body, .finish outputs => some ⟨none, fun _ => .succeed outputs⟩
  | .handler code error, .go => some
    { call := some .get
      next := fun reply =>
        if readsCancelled reply then .finalize error else .emitFailed code error }
  | .finalize error, .go => some
    { call := some .get
      next := fun reply =>
        if readsCancelled reply then .returned "cancelled" else .writeFailed error }
  | .writeFailed error, .go => some
    { call := some (.upsert (failureRecord args error)), next := fun _ => .returned "failed" }
  -- The status is written before the event.
  | .succeed outputs, .go => some
    { call := some (.upsertUnlessCancelled (successRecord args outputs))
      next := fun reply => if wasWritten reply then .emitComplete else .ingest "cancelled" }
  | .emitComplete, .go => some
    { call := some (.appendEvent (completeEvent args ts)), next := fun _ => .ingest "success" }
  | .ingest status, .go => some { call := some .get, next := fun _ => .returned status }
  | _, _ => none

end AitpPlayground.Runner
