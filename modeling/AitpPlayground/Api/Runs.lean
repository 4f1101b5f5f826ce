import AitpPlayground.Lib.Lts
import AitpPlayground.Runner.Engine

/-!
# `AitpPlayground.Api.Runs`: cancelling a run

`cancel_run` (`src/aitp_playground/api/runs.py`) is a sync route, so each request runs on a
threadpool thread while the engine runs on the event loop. The two share nothing but the
run store, whose methods are atomic one by one. `CancelPc` has a control point before each
store call of the route.

`RunSystem` is one run of the engine with any number of cancel requests. `runStep` moves one
of them, so a run of `runStep` is any interleaving of their store calls.
-/

set_option autoImplicit false

namespace AitpPlayground.Api

open AitpPlayground.Lib
open AitpPlayground.Runner

/-- The control points of one `cancel_run` call. -/
inductive CancelPc where
  /-- The call was not made, or did not read the record yet. -/
  | idle
  /-- The record was not terminal: before the `upsert` of `cancelled`. -/
  | write
  /-- Before `append_event` of `run.cancelled`. -/
  | append
  /-- Before `kill_run`. -/
  | kill
  /-- The response, with its field `cancelled`. -/
  | returned (cancelled : Bool)
  /-- `RunNotFoundError`, or `kill_run` raised. -/
  | raised
deriving DecidableEq

/-- The event `run.cancelled`. -/
def cancelledEvent (runId : String) (ts : ℚ) : Event :=
  RunEvent.modelDump ⟨"run.cancelled", ts, Dict.ofList [("run_id", .str runId)]⟩

/-- Where the route goes with the record it read. -/
def CancelPc.afterGet : RunStore.Reply Event → CancelPc
  | .record (some r) => if isTerminal r.status then .returned false else .write
  | _ => .raised

/-- The next move of a `cancel_run` call. `kills` says whether `kill_run` succeeds. -/
def CancelPc.move (runId : String) (ts : ℚ) (kills : Bool) : CancelPc → Option (Move CancelPc)
  | .idle => some { call := some .get, next := CancelPc.afterGet }
  | .write => some
    { call := some (.upsert (Record.ofScalar "status" (.str "cancelled")))
      next := fun _ => .append }
  | .append => some
    { call := some (.appendEvent (cancelledEvent runId ts)), next := fun _ => .kill }
  | .kill => some ⟨none, fun _ => if kills then .returned true else .raised⟩
  | .returned _ | .raised => none

/-- One run with its cancel requests. Request `i` is at `cancels i`. -/
structure RunSystem where
  store : RunStore Event
  engine : EnginePc
  cancels : Nat → CancelPc

/-- Who moves, with what the store does not decide. -/
inductive RunLabel where
  | engine (choice : EngineChoice)
  | cancel (i : Nat) (kills : Bool)

/-- One move of the engine or of a cancel request. `now` is the clock at the move. -/
def runStep (args : RunArgs) (s : RunSystem) (l : RunLabel × ℚ) : Option RunSystem :=
  match l with
  | (.engine choice, now) =>
    (s.engine.move args now choice).map fun m =>
      let (store, engine, _) := m.run s.store args.runId now
      { s with store, engine }
  | (.cancel i kills, now) =>
    ((s.cancels i).move args.runId now kills).map fun m =>
      let (store, pc, _) := m.run s.store args.runId now
      { s with store, cancels := Function.update s.cancels i pc }

end AitpPlayground.Api
