import AitpPlayground.Lib.Escape
import AitpPlayground.Observability.Metrics

/-!
# `AitpPlayground.Observability.Exposition`: the metrics as text

`format_prometheus` (`src/aitp_playground/observability/metrics.py`) writes the metrics as
lines: for each name a help line and a type line, and then one line for each series. The names
are registered when the module is loaded, each with a series of its own that starts at zero.

A value is written by `str` of a float, which is a parameter.
-/

set_option autoImplicit false

namespace AitpPlayground.Observability

open AitpPlayground.Lib

/-! ### The catalog -/

/-- The metrics that are registered, with their help texts. -/
def catalog : List (String × String) :=
  [(runsTotal, "Scenario runs by terminal status"),
   (handshakesTotal, "AITP handshakes by outcome"),
   (tctsIssuedTotal, "Trust Context Tokens issued (any direction)"),
   (delegationsTotal, "Delegation operations by outcome"),
   (revocationsTotal, "TCT revocations by propagation source"),
   (keyRotationsTotal, "Agent key rotations"),
   (capabilityCallsTotal, "Capability invocations by outcome"),
   (stepOutcomesTotal, "Workflow steps by type and outcome"),
   (runsActive, "Scenario runs currently executing"),
   (runsRefusedTotal, "Scenario runs that failed before run.started, by run.failed code")]

/-- `register`: the help text, and a series without labels. -/
def Metrics.register (m : Metrics) (name : String) : Metrics :=
  if (m.counters.get? (name, [])).isSome then m
  else { m with counters := m.counters.set (name, []) 0 }

/-- The metrics of a process that has just started. -/
def Metrics.registered : Metrics := catalog.foldl (fun m e => m.register e.1) .new

/-- `_help`. -/
def helpTexts : Dict String String := Dict.ofList catalog

/-! ### The text -/

/-- The replacements of `_escape`. -/
def escapeLabel (value : String) : List Char :=
  replaceFrom ['\n'] ['\\', 'n'] 0
    (replaceFrom ['"'] ['\\', '"'] 0 (replaceFrom ['\\'] ['\\', '\\'] 0 value.toList))

inductive MetricKind where
  | counter
  | gauge
deriving DecidableEq

def MetricKind.text : MetricKind → String
  | .counter => "counter"
  | .gauge => "gauge"

/-- `names`: a name with a gauge is a gauge. -/
def metricKinds (m : Metrics) : Dict String MetricKind :=
  let counted := m.counters.entries.foldl
    (fun names e => if (names.get? e.1.1).isSome then names else names.set e.1.1 .counter) .empty
  m.gauges.entries.foldl (fun names e => names.set e.1.1 .gauge) counted

/-- Labels in the order of tuples of pairs. -/
def labelsLe : Labels → Labels → Bool
  | [], _ => true
  | _ :: _, [] => false
  | (k, v) :: a, (k', v') :: b =>
    if k ≠ k' then decide (k < k') else if v ≠ v' then decide (v < v') else labelsLe a b

/-- The series of a name, sorted. -/
def seriesOf (table : Dict (String × Labels) Int) (name : String) : List (Labels × Int) :=
  ((table.entries.filter fun e => decide (e.1.1 = name)).map fun e => (e.1.2, e.2)).mergeSort
    fun a b => labelsLe a.1 b.1

/-- The labels as they are written. -/
def labelText (labels : Labels) : List Char :=
  [','].intercalate (labels.map fun l => l.1.toList ++ '=' :: '"' :: (escapeLabel l.2 ++ ['"']))

/-- The line of a series. -/
def sampleLine (name : String) (labels : Labels) (value : String) : List Char :=
  if labels = [] then name.toList ++ ' ' :: value.toList
  else name.toList ++ '\x7b' :: (labelText labels ++ '\x7d' :: ' ' :: value.toList)

/-- The lines of a name. -/
def metricLines (str : Int → String) (m : Metrics) (name : String) (kind : MetricKind) :
    List (List Char) :=
  let table := match kind with
    | .counter => m.counters
    | .gauge => m.gauges
  ("# HELP " ++ name ++ " " ++ (helpTexts.get? name).getD "").toList ::
    ("# TYPE " ++ name ++ " " ++ kind.text).toList ::
    (seriesOf table name).map fun s => sampleLine name s.1 (str s.2)

/-- `format_prometheus`. -/
def formatPrometheus (str : Int → String) (m : Metrics) : String :=
  let names := metricKinds m
  let lines := (names.keys.mergeSort fun a b => decide (a ≤ b)).flatMap fun name =>
    metricLines str m name ((names.get? name).getD .counter)
  String.ofList (['\n'].intercalate lines ++ ['\n'])

end AitpPlayground.Observability
