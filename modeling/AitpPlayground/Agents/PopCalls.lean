import AitpPlayground.Agents.PopChallenges
import AitpPlayground.Lib.Lts

/-!
# `AitpPlayground.Agents.PopCalls`: a `PopChallenges` and its calls

`PopRun` is one `PopChallenges` with what its calls have returned: the challenges that `issue`
recorded and the challenges that `consume` gave back. No function reads the two lists but the
theorems do. `popStep` makes one call. Both methods read the clock once, and a reading that is
before the last one is no step.
-/

set_option autoImplicit false

namespace AitpPlayground.Agents

open AitpPlayground.Lib

/-- A call, at a reading of the clock. -/
inductive PopCall where
  | issue (now : ℚ) (newChallenge : Int → Except PyErr String)
  | consume (now : ℚ) (responseJson : String)

/-- The reading of the clock. -/
def PopCall.now : PopCall → ℚ
  | .issue now _ | .consume now _ => now

/-- A `PopChallenges` in use. -/
structure PopRun where
  challenges : PopChallenges
  /-- The last reading of the clock. -/
  clock : ℚ
  /-- What `issue` returned, the latest first. -/
  issued : List String
  /-- What `consume` returned, the latest first. -/
  consumed : List String

namespace PopRun

/-- A new object. -/
def start (ttlSecs maxEntries : Int) (clock : ℚ) : PopRun :=
  { challenges := { ttlSecs, maxEntries, outstanding := .empty }, clock, issued := []
    consumed := [] }

/-- The object after a call, and what the call returned or raised. -/
def call (py : PyLib) (s : PopRun) : PopCall → PopRun × Except PopExc String
  | .issue now newChallenge =>
    let (challenges, result) := s.challenges.issue py now newChallenge
    ({ s with challenges, clock := now, issued := result.toOption.toList ++ s.issued }, result)
  | .consume now responseJson =>
    let (challenges, result) := s.challenges.consume py now responseJson
    ({ s with challenges, clock := now, consumed := result.toOption.toList ++ s.consumed }, result)

end PopRun

/-- One call. -/
def popStep (py : PyLib) (s : PopRun) (c : PopCall) : Option PopRun :=
  if s.clock ≤ c.now then some (s.call py c).1 else none

end AitpPlayground.Agents
