import AitpPlayground.Lib.Dict
import AitpPlayground.Lib.Lts
import Mathlib.Algebra.BigOperators.Group.Multiset.Defs
import Mathlib.Data.Finset.Card
import Mathlib.Data.Finset.Erase
import Mathlib.Data.Finset.Insert

/-!
# `AitpPlayground.Observability.Metrics`: counters and gauges

`Metrics` (`src/aitp_playground/observability/metrics.py`) keeps counters and gauges, and the
set of the runs that have started and not ended. Each of its methods holds the lock, so a
method call is one step. `record_event` translates an event to method calls. It holds no lock,
so the calls of two threads interleave.

A call of `record_event` under way is an event that was handed in (`entered`), and then the
method calls that it has still to make (`updating`). The values are floats of whole numbers in
the code, and integers here. `heldBack` is not in the code: it counts the updates that the
floor held back.
-/

set_option autoImplicit false

namespace AitpPlayground.Observability

open AitpPlayground.Lib

/-- `Labels`. The maps that are handed in have one item at most, so sorting does nothing. -/
abbrev Labels : Type := List (String × String)

/-- `Metrics`. -/
structure Metrics where
  counters : Dict (String × Labels) Int
  gauges : Dict (String × Labels) Int
  startedRuns : Finset String

namespace Metrics

/-- Metrics without observations. -/
def new : Metrics := { counters := Dict.empty, gauges := Dict.empty, startedRuns := ∅ }

/-- `run_started`. -/
def runStarted (m : Metrics) (runId : String) : Bool × Metrics :=
  if runId ∈ m.startedRuns then (false, m)
  else (true, { m with startedRuns := insert runId m.startedRuns })

/-- `run_finished`. -/
def runFinished (m : Metrics) (runId : String) : Bool × Metrics :=
  if runId ∈ m.startedRuns then (true, { m with startedRuns := m.startedRuns.erase runId })
  else (false, m)

/-- `inc`. -/
def inc (m : Metrics) (name : String) (labels : Labels) (amount : Int) : Metrics :=
  { m with
      counters := m.counters.set (name, labels) ((m.counters.get? (name, labels)).getD 0 + amount) }

/-- The value of an unlabelled gauge. -/
def gauge (m : Metrics) (name : String) : Int := (m.gauges.get? (name, [])).getD 0

/-- `add_gauge`. -/
def addGauge (m : Metrics) (name : String) (delta : Int) (floor : Option Int) : Metrics :=
  let value := m.gauge name + delta
  { m with
      gauges := m.gauges.set (name, []) (match floor with
        | none => value
        | some floor => max floor value) }

end Metrics

/-! ### The catalog -/

def runsTotal : String := "aitp_playground_runs_total"
def handshakesTotal : String := "aitp_playground_handshakes_total"
def tctsIssuedTotal : String := "aitp_playground_tcts_issued_total"
def delegationsTotal : String := "aitp_playground_delegations_total"
def revocationsTotal : String := "aitp_playground_revocations_total"
def keyRotationsTotal : String := "aitp_playground_key_rotations_total"
def capabilityCallsTotal : String := "aitp_playground_capability_calls_total"
def stepOutcomesTotal : String := "aitp_playground_step_outcomes_total"
def runsActive : String := "aitp_playground_runs_active"
def runsRefusedTotal : String := "aitp_playground_runs_refused_total"

/-! ### The events -/

/-- What `record_event` reads of an event. -/
structure MetricsEvent where
  /-- `event.get("type") or ""`. -/
  type : String
  runId : Option String
  /-- `event.get("code")`, when it is not empty. -/
  code : Option String
  /-- `event.get("capability")` is not empty. -/
  hasCapability : Bool
deriving DecidableEq

/-- A method call that `record_event` makes after it has asked the set of started runs. -/
inductive MetricsCall where
  | inc (name : String) (labels : Labels)
  | addGauge (name : String) (delta : Int) (floor : Option Int)
deriving DecidableEq

/-- The method call on the metrics. -/
def MetricsCall.apply (m : Metrics) : MetricsCall → Metrics
  | .inc name labels => m.inc name labels 1
  | .addGauge name delta floor => m.addGauge name delta floor

/-- The status of a terminal event, `etype.split(".", 1)[1]` with `complete` as `success`. -/
def terminalStatus (type : String) : Option String :=
  if type = "run.complete" then some "success"
  else if type = "run.failed" then some "failed"
  else if type = "run.cancelled" then some "cancelled"
  else none

/-- The calls after a terminal event: `started` is the answer of `run_finished`. -/
def terminalCalls (e : MetricsEvent) (status : String) (started : Bool) : List MetricsCall :=
  (if started then [.addGauge runsActive (-1) (some 0)]
    else if e.type = "run.failed" then
      [.inc runsRefusedTotal [("code", e.code.getD "unknown")]]
    else []) ++
  [.inc runsTotal [("status", status)]]

/-- The calls of an event that is no event of a run as a whole. -/
def otherCalls (e : MetricsEvent) : List MetricsCall :=
  let outcome (name result : String) : MetricsCall := .inc name [("outcome", result)]
  let capability (result : String) : List MetricsCall :=
    if e.hasCapability then [outcome capabilityCallsTotal result] else []
  if e.type = "trust.established" then
    [outcome handshakesTotal "established", .inc tctsIssuedTotal []]
  else if e.type = "handshake.failed" ∨ e.type = "trust.failed" then
    [outcome handshakesTotal "failed"]
  else if e.type = "delegation.issued" then [outcome delegationsTotal "issued"]
  else if e.type = "delegation.redeemed" then
    [outcome delegationsTotal "redeemed", .inc tctsIssuedTotal []]
  else if e.type = "delegation.rejected" then [outcome delegationsTotal "rejected"]
  else if e.type = "tct.revoked" then [.inc revocationsTotal [("source", "local")]]
  else if e.type = "revocation.published" then [.inc revocationsTotal [("source", "cp")]]
  else if e.type = "identity.key.rotated" then [.inc keyRotationsTotal []]
  else if e.type = "step.complete" then
    outcome stepOutcomesTotal "complete" :: capability "success"
  else if e.type = "step.access_denied" ∨ e.type = "step.unexpected_status" then
    outcome stepOutcomesTotal "denied" :: capability "denied"
  else if e.type = "step.skipped" then [outcome stepOutcomesTotal "skipped"]
  else []

/-- `record_event` up to the answer of the set of started runs: the metrics, and the calls that
are still to be made. -/
def recordEvent (m : Metrics) (e : MetricsEvent) : Metrics × List MetricsCall :=
  if e.type = "run.started" then
    let up : List MetricsCall := [.addGauge runsActive 1 none]
    match e.runId with
    | none => (m, up)
    | some runId =>
      let (fresh, m) := m.runStarted runId
      -- A second `run.started` must not count twice.
      (m, if fresh then up else [])
  else
    match terminalStatus e.type, e.runId with
    | none, _ => (m, otherCalls e)
    -- Without a run id there is no way to tell, so it counts as started.
    | some status, none => (m, terminalCalls e status true)
    | some status, some runId =>
      let (started, m) := m.runFinished runId
      (m, terminalCalls e status started)

/-! ### The threads -/

/-- The metrics, with the calls of `record_event` that are under way. -/
structure MetricsThreads where
  metrics : Metrics
  entered : Multiset MetricsEvent
  updating : Multiset (List MetricsCall)
  heldBack : Nat

def MetricsThreads.new : MetricsThreads :=
  { metrics := .new, entered := 0, updating := 0, heldBack := 0 }

/-- No call of `record_event` is under way. -/
def MetricsThreads.Quiet (s : MetricsThreads) : Prop := s.entered = 0 ∧ s.updating = 0

/-- The floor holds the update back. -/
def clamps (m : Metrics) : MetricsCall → Bool
  | .addGauge name delta (some floor) => decide (m.gauge name + delta < floor)
  | _ => false

/-- Who moves. -/
inductive MetricsLabel where
  /-- A thread calls `record_event`. -/
  | enter (e : MetricsEvent)
  /-- A call asks the set of started runs, if its event is one of a run. -/
  | ask (e : MetricsEvent)
  /-- A call makes the next of its method calls, or returns. -/
  | update (calls : List MetricsCall)

/-- One step. -/
def metricsStep (s : MetricsThreads) : MetricsLabel → Option MetricsThreads
  | .enter e => some { s with entered := e ::ₘ s.entered }
  | .ask e =>
    if e ∈ s.entered then
      let (metrics, calls) := recordEvent s.metrics e
      some { s with metrics, entered := s.entered.erase e, updating := calls ::ₘ s.updating }
    else none
  | .update calls =>
    if calls ∈ s.updating then
      match calls with
      | [] => some { s with updating := s.updating.erase [] }
      | call :: rest =>
        some { s with
          metrics := call.apply s.metrics
          updating := rest ::ₘ s.updating.erase (call :: rest)
          heldBack := if clamps s.metrics call then s.heldBack + 1 else s.heldBack }
    else none

/-- The events carry a run id. -/
def carriesRunId (_ : MetricsThreads) : MetricsLabel → Prop
  | .enter e => e.runId.isSome = true
  | _ => True

instance (s : MetricsThreads) : (l : MetricsLabel) → Decidable (carriesRunId s l)
  | .enter e => inferInstanceAs (Decidable (e.runId.isSome = true))
  | .ask _ => inferInstanceAs (Decidable True)
  | .update _ => inferInstanceAs (Decidable True)

end AitpPlayground.Observability
