import AitpPlayground.Lib.Lts
import AitpPlayground.Runner.Sqlite

/-!
# `AitpPlayground.Runner.SqliteThreads`: the durable copy under threads

`Runner/Sqlite.lean` runs each method of `SqliteRunStore` as one step. The code does not. A
method takes `_lock` for the memory and `_db_lock` for the file, one after the other, and
other threads run in between. Here one step is one such section.

`append_event` has five: the append in memory, the reading of the position, the row of the
event, the reading of the scalars, and the row of the run. `upsert` has three: the merge, the
reading of the scalars, and the row of the run. `json.dumps` runs between two sections and
reads only what the thread has already copied out.

Three fields are not in the code. A thread that appended an event keeps the position the
event got, `version` counts how often the scalars of a run changed in memory, and `rowFrom`
is the version that the row of a run was copied from. No step reads them.
-/

set_option autoImplicit false

namespace AitpPlayground.Runner

open AitpPlayground.Lib

/-- Where a thread is in its call. -/
inductive MirrorPc where
  /-- No call, or the call has returned. -/
  | idle
  /-- `append_event` put the event into memory, at `pos`. -/
  | appended (runId : String) (event : Json) (pos : Nat)
  /-- `append_event` has read the position `seq`. -/
  | insertEvent (runId : String) (event : Json) (seq : Nat)
  /-- Before `_persist_record`. -/
  | persist (runId : String)
  /-- `_persist_record` has copied the scalars. -/
  | insertRun (runId : String) (scalars : Dict String Json) (version : Nat)
  /-- The call raised. -/
  | raised (exc : PyErr)
deriving DecidableEq

/-- The store with the threads that call it. -/
structure MirrorThreads where
  store : SqliteRunStore
  threads : Dict Nat MirrorPc
  version : Dict String Nat
  rowFrom : Dict String Nat

namespace MirrorThreads

/-- Where thread `t` is. -/
def pc (m : MirrorThreads) (t : Nat) : MirrorPc := (m.threads.get? t).getD .idle

/-- How often the scalars of the run changed. -/
def versionOf (m : MirrorThreads) (runId : String) : Nat := (m.version.get? runId).getD 0

/-- The version that the row of the run was copied from. -/
def rowFromOf (m : MirrorThreads) (runId : String) : Nat := (m.rowFrom.get? runId).getD 0

/-- Thread `t` goes on at `p`. -/
def goto (m : MirrorThreads) (t : Nat) (p : MirrorPc) : MirrorThreads :=
  { m with threads := m.threads.set t p }

/-- A store that no thread has called yet. -/
def start (s : SqliteRunStore) : MirrorThreads := ⟨s, Dict.empty, Dict.empty, Dict.empty⟩

/-- Every call has returned. -/
def Returned (m : MirrorThreads) : Prop := ∀ e ∈ m.threads.entries, e.2 = .idle

instance (m : MirrorThreads) : Decidable m.Returned :=
  inferInstanceAs (Decidable (∀ e ∈ m.threads.entries, e.2 = .idle))

/-- The scalars a reader of the memory finds. -/
def scalarsIn (cache : RunStore Json) (runId : String) : Option (Dict String Json) :=
  (cache.get runId).map SqliteRunStore.scalarsOf

/-- The memory after a call of the in-memory store, with the version of the run. -/
def recalled (m : MirrorThreads) (runId : String) (cache : RunStore Json) : MirrorThreads :=
  { m with
      store := { m.store with cache }
      version :=
        if scalarsIn cache runId = scalarsIn m.store.cache runId then m.version
        else m.version.set runId (m.versionOf runId + 1) }

/-- The first section of a call: what the in-memory store does under `_lock`. -/
def enter (m : MirrorThreads) (t : Nat) (runId : String) (c : RunStore.Call Json) (now : ℚ) :
    MirrorThreads :=
  let (cache, reply, _) := m.store.cache.call runId now c
  let m' := m.recalled runId cache
  match c, reply with
  | .get, _ => m'
  | .appendEvent event, _ =>
    m'.goto t (.appended runId event (m.store.cache.log runId).length)
  | .upsertUnlessCancelled _, .written false => m'
  | .upsertUnlessCancelled _, _ => m'.goto t (.persist runId)
  | .upsert _, _ => m'.goto t (.persist runId)

/-- The next section of the call that thread `t` is in. -/
def go (py : PyLib) (m : MirrorThreads) (t : Nat) : Option MirrorThreads :=
  match m.pc t with
  | .idle | .raised _ => none
  | .appended runId event _ =>
    -- `run_exists` is false for no run that was appended to: a run is never removed.
    if (m.store.cache.get runId).isSome then
      some (m.goto t (.insertEvent runId event ((m.store.cache.log runId).length - 1)))
    else some (m.goto t .idle)
  | .insertEvent runId event seq =>
    match bindId py runId with
    | .error exc => some (m.goto t (.raised exc))
    | .ok _ =>
      let runEvents := m.store.db.runEvents.set (runId, seq) (py.jsonDumps event)
      some ({ m with store := { m.store with db := { m.store.db with runEvents } } }.goto t
        (.persist runId))
  | .persist runId =>
    match scalarsIn m.store.cache runId with
    | none => some (m.goto t .idle)
    | some scalars => some (m.goto t (.insertRun runId scalars (m.versionOf runId)))
  | .insertRun runId scalars version =>
    match bindId py runId >>= fun _ => SqliteRunStore.rowOf py ⟨scalars, []⟩ with
    | .error exc => some (m.goto t (.raised exc))
    | .ok row =>
      let runs := m.store.db.runs.set runId row
      some ({ m with
          store := { m.store with db := { m.store.db with runs } }
          rowFrom := m.rowFrom.set runId version }.goto t .idle)

end MirrorThreads

/-- What a thread does next: it makes a call, or goes on with the one it is in. -/
inductive MirrorMove where
  | call (runId : String) (c : RunStore.Call Json) (now : ℚ)
  | go

/-- One section of one thread. -/
def mirrorStep (py : PyLib) (m : MirrorThreads) (l : Nat × MirrorMove) : Option MirrorThreads :=
  match l with
  | (t, .call runId c now) => if m.pc t = .idle then some (m.enter t runId c now) else none
  | (t, .go) => m.go py t

end AitpPlayground.Runner
