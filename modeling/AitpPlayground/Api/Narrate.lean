import AitpPlayground.Lib.Lines
import AitpPlayground.Observability.Narrator

/-!
# `AitpPlayground.Api.Narrate`: the narration and the status of a run

The routes `get_run_narrate` and `get_run_status` (`src/aitp_playground/api/runs.py`), over the
record that the store has at the request.
-/

set_option autoImplicit false

namespace AitpPlayground.Api

open AitpPlayground.Lib
open AitpPlayground.Runner
open AitpPlayground.Observability

/-- The status as the summary has it: `record.get("status") or "unknown"`. -/
def statusOrUnknown (py : PyLib) (record : Record Event) : String :=
  match record.status with
  | some (.str status) => if status = "" then "unknown" else status
  | some status => if status.truthy then py.strOf status else "unknown"
  | none => "unknown"

/-- The last line of a narration, for so many events and lines. -/
def summaryLine (status : String) (events narrated : Nat) : String :=
  "[run] status=" ++ status ++ "  events=" ++ toString events ++ "  narrated=" ++ toString narrated

/-- `get_run_narrate`: the text of the answer. An exception is a status 500. -/
def getRunNarrate (py : PyLib) (record : Record Event) : Except PyErr String := do
  let lines ← narrateEvents py record.events
  let summary := summaryLine (statusOrUnknown py record) record.events.length lines.length
  pure (joinLines (lines ++ [summary]))

/-- `get_run_status`: the field `status` of the answer. A record whose status is no text is no
`RunStatus`. -/
def getRunStatus (record : Record Event) : Except PyErr (Option String) :=
  match record.status with
  | none | some .null => .ok none
  | some (.str status) => .ok (some status)
  | some _ => .error (.valueError "Input should be a valid string" none)

end AitpPlayground.Api
