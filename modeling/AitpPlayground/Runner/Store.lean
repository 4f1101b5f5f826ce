import AitpPlayground.Lib.Py

/-!
# `AitpPlayground.Runner.Store`: the in-memory run store

`RunStore` (`src/aitp_playground/runner/store.py`) maps a run id to its record, and a run id
to the SSE subscribers of the run. Each method body under `_lock` is one function here.

A record is a dictionary with the key `events` among its keys. The model splits that key
off: `Record.scalars` holds the other keys, and `Record.events` holds the list. The same type
is the argument of `upsert`, where an absent `events` key is the empty list. The store never
reads an event, so the model is generic in the type of events.

The locked part of `append_event` returns the subscribers to notify. The notification runs
outside the lock and is modelled where the threads are (`Runner/Delivery.lean`). A subscriber
is named by the number of its queue.

`now` is the reading of `time.time()` inside the call.
-/

set_option autoImplicit false

namespace AitpPlayground.Runner

open AitpPlayground.Lib

/-- The record of a run, or the update `upsert` merges into it. -/
structure Record (ε : Type) where
  /-- Every key other than `events`. -/
  scalars : Dict String Json
  events : List ε

/-- The record `{}`. -/
def Record.empty {ε : Type} : Record ε := ⟨Dict.empty, []⟩

/-- The value `record.get("status")`. -/
def Record.status {ε : Type} (r : Record ε) : Option Json := r.scalars.get? "status"

/-- An update that sets one scalar and carries no events. -/
def Record.ofScalar {ε : Type} (key : String) (value : Json) : Record ε :=
  ⟨Dict.empty.set key value, []⟩

/-- The run store. -/
structure RunStore (ε : Type) where
  /-- `_runs`. -/
  runs : Dict String (Record ε)
  /-- `_subscribers`: the queues of each run, in the order of subscription. -/
  subscribers : Dict String (List Nat)

namespace RunStore

variable {ε : Type}

/-- `RunStore.__init__`. -/
def new : RunStore ε := ⟨Dict.empty, Dict.empty⟩

/-- `get`. -/
def get (s : RunStore ε) (runId : String) : Option (Record ε) := s.runs.get? runId

/-- The status a reader finds, `none` when there is no record or no status. -/
def status (s : RunStore ε) (runId : String) : Option Json := (s.get runId).bind Record.status

/-- The event log a reader finds. -/
def log (s : RunStore ε) (runId : String) : List ε := ((s.get runId).map Record.events).getD []

/-- The subscribers of a run, `self._subscribers.get(run_id, [])`. -/
def subscribersOf (s : RunStore ε) (runId : String) : List Nat :=
  (s.subscribers.get? runId).getD []

/-- The scalars `_merge_locked` writes: a record gets its `created_at` once. -/
def stamped (existing record : Dict String Json) (now : ℚ) : Dict String Json :=
  if (existing.get? "created_at").isNone ∧ (record.get? "created_at").isNone then
    record.set "created_at" (.num (.float (.fin now)))
  else record

/-- `_merge_locked`. -/
def mergeLocked (s : RunStore ε) (runId : String) (record : Record ε) (now : ℚ) : RunStore ε :=
  let existing := (s.get runId).getD Record.empty
  { s with
      runs := s.runs.set runId
        { scalars := existing.scalars.merge (stamped existing.scalars record.scalars now)
          events := existing.events ++ record.events } }

/-- `upsert`. -/
def upsert (s : RunStore ε) (runId : String) (record : Record ε) (now : ℚ) : RunStore ε :=
  s.mergeLocked runId record now

/-- `upsert_unless_cancelled`: the check and the write are one step. -/
def upsertUnlessCancelled (s : RunStore ε) (runId : String) (record : Record ε) (now : ℚ) :
    RunStore ε × Bool :=
  if s.status runId = some (.str "cancelled") then (s, false)
  else (s.mergeLocked runId record now, true)

/-- The record `append_event` creates for an unknown run. -/
def freshRecord (runId : String) (now : ℚ) : Record ε :=
  { scalars := Dict.ofList
      [("run_id", .str runId), ("status", .str "running"),
       ("created_at", .num (.float (.fin now)))]
    events := [] }

/-- The locked part of `append_event`: the new store, and the queues to notify. -/
def appendEvent (s : RunStore ε) (runId : String) (event : ε) (now : ℚ) :
    RunStore ε × List Nat :=
  -- `setdefault`: an unknown run starts with a record of its own.
  let record := (s.get runId).getD (freshRecord runId now)
  ({ s with runs := s.runs.set runId { record with events := record.events ++ [event] } },
    s.subscribersOf runId)

/-- `subscribe`, with the queue `q` it creates: the new store, and the backlog. -/
def subscribe (s : RunStore ε) (runId : String) (q : Nat) : RunStore ε × List ε :=
  ({ s with subscribers := s.subscribers.set runId (s.subscribersOf runId ++ [q]) },
    s.log runId)

/-- `unsubscribe`. -/
def unsubscribe (s : RunStore ε) (runId : String) (q : Nat) : RunStore ε :=
  { s with subscribers :=
      s.subscribers.set runId ((s.subscribersOf runId).filter fun q' => decide (q' ≠ q)) }

/-! ### The calls as data -/

/-- A call of a store method on one run, as a caller makes it. -/
inductive Call (ε : Type) where
  | get
  | upsert (record : Record ε)
  | upsertUnlessCancelled (record : Record ε)
  | appendEvent (event : ε)

/-- What a call returns. -/
inductive Reply (ε : Type) where
  | record (r : Option (Record ε))
  | written (accepted : Bool)
  | done

/-- One call as one atomic step: the new store, the reply, and the queues to notify. -/
def call (s : RunStore ε) (runId : String) (now : ℚ) :
    Call ε → RunStore ε × Reply ε × List Nat
  | .get => (s, .record (s.get runId), [])
  | .upsert record => (s.upsert runId record now, .done, [])
  | .upsertUnlessCancelled record =>
    let (s', accepted) := s.upsertUnlessCancelled runId record now
    (s', .written accepted, [])
  | .appendEvent event =>
    let (s', queues) := s.appendEvent runId event now
    (s', .done, queues)

end RunStore

end AitpPlayground.Runner
