import AitpPlayground.Lib.Lts
import AitpPlayground.Lib.Double

/-!
# `AitpPlayground.Agents.HandshakeReplay`: the replay guard of the handshake endpoint

`ReplayGuard.check` (`agents/base/handshake_replay.py`) runs on every hello and commit body
before the SDK sees it. It reads `message_id` and `timestamp`, refuses an id on the deny
list, refuses a timestamp outside the window, and otherwise records the id until its
timestamp leaves the window.

`check` returns the guard after the call and either the admission or the exception. An
exception is a `HandshakeRejected`, or any other exception that escapes (`raised`):
`json.loads` can raise something other than `ValueError`, and `now - timestamp` raises
`OverflowError` on an integer too large for a float.

The float operations of `check` take the rounding of their results as an argument, which is
`PyFloat.fin` where the arithmetic is exact and `roundDouble` for the floats of the machine.

`guardStep` is one call in a run of calls under a nondecreasing clock. The run state keeps
the admitted envelopes, which the guard itself does not.
-/

set_option autoImplicit false

namespace AitpPlayground.Agents

open AitpPlayground.Lib

/-- The refusal `HandshakeRejected`. `code` is the AITP error code, `none` for a 429. -/
structure HandshakeRejected where
  code : Option String
  message : String
  status : Nat := 400
deriving DecidableEq, Repr

/-- What `check` raises. -/
inductive CheckError where
  | rejected (refusal : HandshakeRejected)
  | raised (exc : PyErr)
deriving DecidableEq, Repr

/-- The state of a `ReplayGuard`: its two settings and the deny list `_seen`, which maps a
`message_id` to the time after which it is forgotten. -/
structure ReplayGuard where
  toleranceSecs : ℚ
  maxEntries : Int
  seen : Dict String PyFloat
deriving DecidableEq

namespace ReplayGuard

/-- The constructor: the deny list starts empty. -/
def new (toleranceSecs : ℚ) (maxEntries : Int) : ReplayGuard :=
  { toleranceSecs, maxEntries, seen := Dict.empty }

/-- `_prune`: forgets the ids whose time is past. -/
def prune (g : ReplayGuard) (now : ℚ) : ReplayGuard :=
  { g with seen := g.seen.filter fun _ expiry => !expiry.lt (.fin now) }

end ReplayGuard

/-- The timestamp of an envelope: a bool and every non-number come back as `none`. -/
def readTimestamp : Option Json → Option PyNum
  | some (.num n) => some n
  | _ => none

/-- `_read_header`: the `message_id` and the `timestamp` of an envelope. -/
def readHeader (py : PyLib) (envelopeJson : String) :
    Except CheckError (String × Option PyNum) :=
  match py.jsonLoads envelopeJson with
  | .error (.valueError msg _) =>
    .error (.rejected { code := some "INVALID_ENVELOPE"
                        message := "envelope is not JSON: " ++ msg })
  -- `except ValueError` catches nothing else.
  | .error exc => .error (.raised exc)
  | .ok value =>
    match value.dict? with
    | none =>
      .error (.rejected { code := some "INVALID_ENVELOPE"
                          message := "envelope is not a JSON object" })
    | some envelope =>
      match envelope.get? "message_id" with
      | some (.str messageId) =>
        if messageId = "" then
          .error (.rejected { code := some "INVALID_ENVELOPE"
                              message := "envelope has no message_id" })
        else .ok (messageId, readTimestamp (envelope.get? "timestamp"))
      | _ =>
        .error (.rejected { code := some "INVALID_ENVELOPE"
                            message := "envelope has no message_id" })

namespace ReplayGuard

/-- The refusal of a timestamp outside the window. -/
def expired (g : ReplayGuard) : CheckError :=
  .rejected { code := some "TIMESTAMP_EXPIRED"
              message := "envelope timestamp outside ±" ++ toString g.toleranceSecs ++ "s" }

/-- The test `abs(now - timestamp) > self.tolerance_secs`, on the timestamp as a float. -/
def outsideWindow (round : ℚ → PyFloat) (g : ReplayGuard) (now : ℚ) (x : PyFloat) : Bool :=
  (PyFloat.fin g.toleranceSecs).lt ((PyFloat.fin now).sub round x).abs

/-- `check`: admits the envelope once, or raises. `now` is the reading of the clock. -/
def check (round : ℚ → PyFloat) (py : PyLib) (g : ReplayGuard) (now : ℚ)
    (envelopeJson : String) : ReplayGuard × Except CheckError Unit :=
  match readHeader py envelopeJson with
  -- `_read_header` raises before the prune.
  | .error exc => (g, .error exc)
  | .ok (messageId, timestamp) =>
    let g := g.prune now
    -- 1. Deny list.
    if (g.seen.get? messageId).isSome then
      (g, .error (.rejected { code := some "REPLAY_DETECTED"
                              message := "message_id already seen: " ++ messageId }))
    else
      -- 2. Timestamp window, against our clock.
      match timestamp with
      | none => (g, .error g.expired)
      | some ts =>
        match ts.toFloat round with
        | .error exc => (g, .error (.raised exc))
        | .ok x =>
          if g.outsideWindow round now x then
            (g, .error g.expired)
          else if g.maxEntries ≤ g.seen.size then
            -- Refuse rather than forget an id that is still inside the window.
            (g, .error (.rejected { code := none, message := "replay deny list is full"
                                    status := 429 }))
          else
            ({ g with seen := g.seen.set messageId (ts.addTolerance g.toleranceSecs round) },
              .ok ())

end ReplayGuard

/-! ### Runs of the guard -/

/-- An envelope that `check` admitted, and the time of the call. -/
structure Admission where
  messageId : String
  timestamp : PyNum
  time : ℚ
deriving DecidableEq, Repr

/-- The state between two calls: the guard, the last reading of the clock, and the
admissions so far, newest first. -/
structure GuardRun where
  guard : ReplayGuard
  clock : ℚ
  admitted : List Admission
deriving DecidableEq

/-- The start of a run: a new guard. -/
def GuardRun.start (toleranceSecs : ℚ) (maxEntries : Int) (clock : ℚ) : GuardRun :=
  { guard := .new toleranceSecs maxEntries, clock, admitted := [] }

/-- One call of `check`. -/
structure CheckCall where
  now : ℚ
  body : String

/-- What the call adds to the record of admissions. -/
def admission (round : ℚ → PyFloat) (py : PyLib) (g : ReplayGuard) (c : CheckCall) :
    List Admission :=
  match (g.check round py c.now c.body).2, readHeader py c.body with
  | .ok _, .ok (messageId, some timestamp) => [⟨messageId, timestamp, c.now⟩]
  | _, _ => []

/-- One call in a run. The clock does not go back. -/
def guardStep (round : ℚ → PyFloat) (py : PyLib) (s : GuardRun) (c : CheckCall) :
    Option GuardRun :=
  if s.clock ≤ c.now then
    some { guard := (s.guard.check round py c.now c.body).1
           clock := c.now
           admitted := admission round py s.guard c ++ s.admitted }
  else none

end AitpPlayground.Agents
