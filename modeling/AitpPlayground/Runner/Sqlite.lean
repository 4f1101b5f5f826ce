import AitpPlayground.Lib.Lts
import AitpPlayground.Runner.Store
import Mathlib.Data.List.Sort

/-!
# `AitpPlayground.Runner.Sqlite`: the run store with a durable copy

`SqliteRunStore` (`src/aitp_playground/runner/store.py`) mirrors every write of the in-memory
store to a SQLite file: the scalars of a run as one JSON text in the table `runs`, its events
one row each in the table `run_events`. A new store reads both tables back.

The table `runs` is a dictionary over its primary key, and `run_events` over its own,
`(run_id, seq)`, so `INSERT OR REPLACE` is an assignment. The rows of `runs` are read without
an `ORDER BY`.

The id of the run and the columns `status`, `scenario_ref` and `created_at` are bound as they
are. SQLite binds `None`, booleans, floats, integers of 64 bits, and texts that it can encode.
Any other value raises, after the write in memory and before the write to the file. The texts
of `json.dumps` are ASCII.

Each method returns the store and what it raises, if it raises. An event is a JSON value.
-/

set_option autoImplicit false

namespace AitpPlayground.Runner

open AitpPlayground.Lib

/-- A row of the table `runs`, without its key. -/
structure RunRow where
  status : Json
  scenarioRef : Json
  createdAt : Json
  record : String
deriving DecidableEq

/-- The database file. -/
structure Database where
  runs : Dict String RunRow
  /-- The table `run_events`: `(run_id, seq)` to the text of the event. -/
  runEvents : Dict (String × Nat) String

/-- The file `_init_schema` makes. -/
def Database.new : Database := ⟨Dict.empty, Dict.empty⟩

/-- `SELECT event FROM run_events WHERE run_id=? ORDER BY seq`. -/
def Database.eventRows (db : Database) (runId : String) : List String :=
  ((db.runEvents.entries.filter fun e => decide (e.1.1 = runId)).insertionSort
    fun e e' => e.1.2 ≤ e'.1.2).map Prod.snd

/-- A value as a parameter of a statement. -/
def sqlBind (py : PyLib) : Json → Except PyErr Json
  | .str s =>
    if py.utf8Encodes s then .ok (.str s)
    -- A `UnicodeEncodeError`.
    else .error (.valueError "'utf-8' codec can't encode characters: surrogates not allowed" none)
  | .num (.int n) =>
    if -2 ^ 63 ≤ n ∧ n < 2 ^ 63 then .ok (.num (.int n))
    else .error (.overflowError "Python int too large to convert to SQLite INTEGER")
  | .arr _ => .error (.sqliteError "Error binding parameter: type 'list' is not supported")
  | .obj _ => .error (.sqliteError "Error binding parameter: type 'dict' is not supported")
  | value => .ok value

/-- The parameter `run_id` of a statement. -/
def bindId (py : PyLib) (runId : String) : Except PyErr Unit :=
  (sqlBind py (.str runId)).map fun _ => ()

/-- The store: the in-memory cache and the file. -/
structure SqliteRunStore where
  cache : RunStore Json
  db : Database

namespace SqliteRunStore

/-- The scalars of a record, as `_persist_record` selects them. -/
def scalarsOf (record : Record Json) : Dict String Json :=
  record.scalars.filter fun k _ => decide (k ≠ "events")

/-- The row `_persist_record` inserts. -/
def rowOf (py : PyLib) (record : Record Json) : Except PyErr RunRow := do
  let scalars := scalarsOf record
  let status ← sqlBind py ((scalars.get? "status").getD .null)
  let scenarioRef ← sqlBind py ((scalars.get? "scenario_ref").getD .null)
  let createdAt ← sqlBind py ((scalars.get? "created_at").getD .null)
  pure { status, scenarioRef, createdAt, record := py.jsonDumps scalars.toJson }

/-- `_persist_record`. -/
def persistRecord (py : PyLib) (s : SqliteRunStore) (runId : String) :
    SqliteRunStore × Except PyErr Unit :=
  match s.cache.get runId with
  | none => (s, .ok ())
  | some record =>
    match bindId py runId >>= fun _ => rowOf py record with
    | .error exc => (s, .error exc)
    | .ok row => ({ s with db := { s.db with runs := s.db.runs.set runId row } }, .ok ())

/-- `upsert`. -/
def upsert (py : PyLib) (s : SqliteRunStore) (runId : String) (record : Record Json) (now : ℚ) :
    SqliteRunStore × Except PyErr Unit :=
  persistRecord py { s with cache := s.cache.upsert runId record now } runId

/-- `upsert_unless_cancelled`. -/
def upsertUnlessCancelled (py : PyLib) (s : SqliteRunStore) (runId : String)
    (record : Record Json) (now : ℚ) : SqliteRunStore × Except PyErr Bool :=
  let (cache, written) := s.cache.upsertUnlessCancelled runId record now
  if written then
    let (s', result) := persistRecord py { s with cache } runId
    (s', result.map fun _ => true)
  else (s, .ok false)

/-- `append_event`: the row of the event, then the row of the run. -/
def appendEvent (py : PyLib) (s : SqliteRunStore) (runId : String) (event : Json) (now : ℚ) :
    SqliteRunStore × Except PyErr Unit :=
  -- The position is read off the memory, which has the event already.
  let cache := (s.cache.appendEvent runId event now).1
  let seq := (cache.log runId).length - 1
  match bindId py runId with
  | .error exc => ({ s with cache }, .error exc)
  | .ok _ =>
    let runEvents := s.db.runEvents.set (runId, seq) (py.jsonDumps event)
    persistRecord py { cache, db := { s.db with runEvents } } runId

/-- The record `_hydrate` makes of a row, `none` for a row it skips. -/
def hydrateRow (py : PyLib) (db : Database) (runId : String) (row : RunRow) :
    Except PyErr (Option (Record Json)) :=
  match py.jsonLoads row.record with
  -- A row that is not JSON is skipped with a warning.
  | .error (.valueError _ _) => .ok none
  | .error exc => .error exc
  | .ok value => do
    let events ← (db.eventRows runId).mapM py.jsonLoads
    match value.dict? with
    | some scalars => pure (some { scalars, events })
    | none => throw (.typeError "object does not support item assignment")

/-- The loop of `_hydrate`. -/
def hydrate (py : PyLib) (db : Database) :
    Dict String (Record Json) → List (String × RunRow) → Except PyErr (Dict String (Record Json))
  | runs, [] => .ok runs
  | runs, (runId, row) :: rows =>
    match hydrateRow py db runId row with
    | .error exc => .error exc
    | .ok none => hydrate py db runs rows
    | .ok (some record) => hydrate py db (runs.set runId record) rows

/-- The constructor: a store on the file. -/
def new (py : PyLib) (db : Database) : Except PyErr SqliteRunStore :=
  (hydrate py db Dict.empty db.runs.entries).map fun runs =>
    { cache := ⟨runs, Dict.empty⟩, db }

end SqliteRunStore

/-! ### Runs of the store -/

/-- One call, or the file closed and opened again. -/
inductive SqliteCall where
  | upsert (runId : String) (record : Record Json)
  | upsertUnlessCancelled (runId : String) (record : Record Json)
  | appendEvent (runId : String) (event : Json)
  | reopen

/-- One call. What it raises goes to the caller and leaves the store as it is then. A store
that cannot be opened is the end of the run. -/
def sqliteStep (py : PyLib) (s : SqliteRunStore) (c : SqliteCall × ℚ) : Option SqliteRunStore :=
  match c with
  | (.upsert runId record, now) => some (s.upsert py runId record now).1
  | (.upsertUnlessCancelled runId record, now) =>
    some (s.upsertUnlessCancelled py runId record now).1
  | (.appendEvent runId event, now) => some (s.appendEvent py runId event now).1
  | (.reopen, _) => (SqliteRunStore.new py s.db).toOption

/-- A store on a new file. -/
def SqliteRunStore.fresh : SqliteRunStore := ⟨.new, .new⟩

end AitpPlayground.Runner
