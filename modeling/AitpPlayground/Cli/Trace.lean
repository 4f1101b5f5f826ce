import AitpPlayground.Api.Narrate

/-!
# `AitpPlayground.Cli.Trace`: the client that prints a narration as it grows

`cmd_trace` (`src/aitp_playground/cli.py`) starts a run and fetches its narration again and
again, with the status of the run after each fetch. Of each narration it prints the lines after
those that it has seen: it counts the lines of the last answer.

A `TracePoll` is one round of the loop: the clock at its start, and the record of the run at
each of the two requests. Every request is answered here.
-/

set_option autoImplicit false

namespace AitpPlayground.Cli

open AitpPlayground.Lib
open AitpPlayground.Runner
open AitpPlayground.Api

/-- One round of the loop. -/
structure TracePoll where
  /-- `time.time()`. -/
  now : ℚ
  /-- The record at the request for the narration. -/
  narrated : Record Event
  /-- The record at the request for the status. -/
  asked : Record Event

/-- How the loop ends. -/
inductive TraceEnd where
  | exit (code : Nat)
  | timedOut
  /-- There is another round. -/
  | running
deriving DecidableEq

/-- The lines that a round prints, and the new `printed`. -/
def printNew (py : PyLib) (record : Record Event) (printed : Nat) : List String × Nat :=
  match getRunNarrate py record with
  | .ok text => ((textLines text).drop printed, (textLines text).length)
  | .error _ => ([], printed)

/-- The new `status`: `status_r.json().get("status") or status`. -/
def nextStatus (record : Record Event) (status : String) : String :=
  match getRunStatus record with
  | .ok (some next) => if next = "" then status else next
  | _ => status

/-- The loop of `cmd_trace`: the lines that it prints, and how it ends. -/
def tracePolls (py : PyLib) (deadline : ℚ) : List TracePoll → Nat → String → List String × TraceEnd
  | [], _, _ => ([], .running)
  | poll :: rest, printed, status =>
    if poll.now < deadline then
      let (lines, printed) := printNew py poll.narrated printed
      let status := nextStatus poll.asked status
      if terminalStatuses.contains status then
        (lines, .exit (if status = "success" then 0 else 1))
      else
        let (more, outcome) := tracePolls py deadline rest printed status
        (lines ++ more, outcome)
    else ([], .timedOut)

/-- `cmd_trace` from its header on. -/
def cmdTrace (py : PyLib) (deadline : ℚ) (polls : List TracePoll) : List String × TraceEnd :=
  tracePolls py deadline polls 0 "pending"

end AitpPlayground.Cli
