import AitpPlayground.Runner.Sqlite
import AitpPlayground.Proofs.Runner.Store

/-!
# `AitpPlayground.Proofs.Runner.Sqlite`: run history survives a restart

`Mirrored` is the invariant of a store and its file. The row of a run reads back as the
scalars of its record, and the row `(run_id, seq)` as the event at position `seq` of its log.
Since the events of a run are exactly the rows `0, 1, …, n - 1`, `ORDER BY seq` lists them as
the log has them (`eventRows_eq`), and an append after a restart goes on with row `n`.

`SqliteOk` is what a call has to meet. Updates carry no events, JSON values come back from
the file as they went in, and SQLite binds the id of the run and the three columns. The last
one is not vacuous: an update with a `scenario_ref` that does not encode changes the memory and
not the file (`unencodable_ref_not_persisted`).
-/

set_option autoImplicit false

namespace AitpPlayground.Proofs.Runner

open AitpPlayground.Lib
open AitpPlayground.Runner

/-! ### What a call has to meet -/

/-- The columns of `runs` that `_persist_record` fills from the record. -/
def boundColumns : List String := ["status", "scenario_ref", "created_at"]

/-- SQLite binds the value. -/
def binds (py : PyLib) (value : Json) : Bool := (sqlBind py value).isOk

/-- The values of the three columns can be bound. -/
def Bindable (py : PyLib) (scalars : Dict String Json) : Prop :=
  ∀ column ∈ boundColumns, ∀ value ∈ scalars.get? column, binds py value = true

instance (py : PyLib) (scalars : Dict String Json) : Decidable (Bindable py scalars) :=
  inferInstanceAs (Decidable (∀ column ∈ boundColumns, ∀ value ∈ _, _ = true))

/-- The text of the run row, as a JSON value. -/
def payloadOf (cache : RunStore Json) (runId : String) : List Json :=
  ((cache.get runId).map fun r => (SqliteRunStore.scalarsOf r).toJson).toList

/-- The JSON values a call writes to the file. -/
def writtenBy (s : SqliteRunStore) (c : SqliteCall × ℚ) : List Json :=
  match c with
  | (.upsert runId record, now) => payloadOf (s.cache.upsert runId record now) runId
  | (.upsertUnlessCancelled runId record, now) =>
    if (s.cache.upsertUnlessCancelled runId record now).2 then
      payloadOf (s.cache.upsertUnlessCancelled runId record now).1 runId
    else []
  | (.appendEvent runId event, now) =>
    event :: payloadOf (s.cache.appendEvent runId event now).1 runId
  | (.reopen, _) => []

/-- The record an update carries. -/
def updateOf : SqliteCall → Option (Record Json)
  | .upsert _ record | .upsertUnlessCancelled _ record => some record
  | .appendEvent _ _ | .reopen => none

/-- The run of a call. -/
def runOf : SqliteCall → Option String
  | .upsert runId _ | .upsertUnlessCancelled runId _ | .appendEvent runId _ => some runId
  | .reopen => none

/-- An update carries no events, and what the call writes reads back as it is. -/
def PlainOk (py : PyLib) (s : SqliteRunStore) (c : SqliteCall × ℚ) : Prop :=
  (∀ record ∈ updateOf c.1, record.events = []) ∧ ∀ j ∈ writtenBy s c, py.RoundTrips j

instance (py : PyLib) (s : SqliteRunStore) (c : SqliteCall × ℚ) : Decidable (PlainOk py s c) :=
  inferInstanceAs (Decidable ((∀ record ∈ updateOf c.1, _ = _) ∧ ∀ j ∈ writtenBy s c, _))

/-- SQLite binds the id of the run and the columns of an update. -/
def BoundOk (py : PyLib) (c : SqliteCall) : Prop :=
  (∀ runId ∈ runOf c, binds py (.str runId) = true) ∧
    ∀ record ∈ updateOf c, Bindable py record.scalars

instance (py : PyLib) (c : SqliteCall) : Decidable (BoundOk py c) :=
  inferInstanceAs (Decidable ((∀ runId ∈ runOf c, _ = _) ∧ ∀ record ∈ updateOf c, _))

/-- What a call has to meet. -/
def SqliteOk (py : PyLib) (s : SqliteRunStore) (c : SqliteCall × ℚ) : Prop :=
  PlainOk py s c ∧ BoundOk py c.1

instance (py : PyLib) (s : SqliteRunStore) (c : SqliteCall × ℚ) : Decidable (SqliteOk py s c) :=
  inferInstanceAs (Decidable (_ ∧ _))

/-! ### The order of the rows -/

/-- The rows of a run whose positions are `0, …, n - 1`, in the order of the positions. -/
theorem eventRows_eq {db : Database} {runId : String} {n : Nat} {text : Nat → String}
    (hin : ∀ i, i < n → db.runEvents.get? (runId, i) = some (text i))
    (hout : ∀ i, n ≤ i → db.runEvents.get? (runId, i) = none) :
    db.eventRows runId = (List.range n).map text := by
  -- The rows of the run, in any order, are the expected rows.
  have hmem : ∀ e, e ∈ db.runEvents.entries.filter (fun e => decide (e.1.1 = runId)) ↔
      e ∈ (List.range n).map fun i => ((runId, i), text i) := by
    rintro ⟨⟨r, i⟩, v⟩
    simp only [List.mem_filter, decide_eq_true_eq, List.mem_map, List.mem_range, Prod.mk.injEq]
    rw [← Dict.get?_eq_some_iff]
    constructor
    · rintro ⟨hget, rfl⟩
      by_cases hi : i < n
      · rw [hin i hi, Option.some.injEq] at hget
        exact ⟨i, hi, ⟨rfl, rfl⟩, hget⟩
      · rw [hout i (by omega)] at hget
        cases hget
    · rintro ⟨i, hi, ⟨rfl, rfl⟩, rfl⟩
      exact ⟨hin i hi, rfl⟩
  have hnodup : (db.runEvents.entries.filter fun e => decide (e.1.1 = runId)).Nodup :=
    (List.Nodup.of_map _ db.runEvents.nodup).filter _
  have hnodup' : ((List.range n).map fun i => ((runId, i), text i)).Nodup := by
    refine List.nodup_range.map ?_
    intro i j hij
    exact (Prod.mk.inj (Prod.mk.inj hij).1).2
  have hperm := (List.perm_ext_iff_of_nodup hnodup hnodup').mpr hmem
  have hsorted : (db.runEvents.entries.filter fun e => decide (e.1.1 = runId)).insertionSort
      (fun e e' => e.1.2 ≤ e'.1.2) = (List.range n).map fun i => ((runId, i), text i) := by
    refine List.Perm.eq_of_pairwise ?_ (List.pairwise_insertionSort _ _) ?_
      ((List.perm_insertionSort _ _).trans hperm)
    · -- Two rows of one run at one position are one row.
      intro a b ha hb hab hba
      have ha' := (hperm.mem_iff).mp ((List.perm_insertionSort _ _).mem_iff.mp ha)
      obtain ⟨i, -, rfl⟩ := List.mem_map.mp ha'
      obtain ⟨j, -, rfl⟩ := List.mem_map.mp hb
      have hij : i = j := by
        simp only at hab hba
        omega
      rw [hij]
    · -- The expected rows are sorted already.
      rw [List.pairwise_map]
      exact List.pairwise_le_range
  rw [Database.eventRows, hsorted, List.map_map]
  rfl

/-- Rows that read back one by one read back as a list. -/
theorem mapM_eq_ok {α β : Type} {f : α → Except PyErr β} {xs : List α} {ys : List β}
    (h : xs.map f = ys.map .ok) : xs.mapM f = .ok ys := by
  rw [← List.forall₂_eq_eq_eq, List.forall₂_map_left_iff, List.forall₂_map_right_iff] at h
  exact except_mapM_eq_ok.mpr h

/-! ### The file as a copy of the cache -/

/-- The rows of the file read back as what is in memory, except for the row of the run in
`stale`. -/
structure MirroredBut (stale : Option String) (py : PyLib) (s : SqliteRunStore) : Prop where
  runs : ∀ r, some r ≠ stale → (s.db.runs.get? r).map (fun row => py.jsonLoads row.record) =
    (s.cache.get r).map fun record => .ok (SqliteRunStore.scalarsOf record).toJson
  events : ∀ r i, (s.db.runEvents.get? (r, i)).map py.jsonLoads = ((s.cache.log r)[i]?).map .ok
  columns : ∀ r record, s.cache.get r = some record → Bindable py record.scalars

/-- The file is a copy of the memory. -/
abbrev Mirrored := MirroredBut none

/-- The columns of the row can be bound, so the row is written. -/
theorem rowOf_ok (py : PyLib) {record : Record Json} (h : Bindable py record.scalars) :
    ∃ row, SqliteRunStore.rowOf py record = .ok row ∧
      row.record = py.jsonDumps (SqliteRunStore.scalarsOf record).toJson := by
  have hbind : ∀ column ∈ boundColumns,
      ∃ v, sqlBind py (((SqliteRunStore.scalarsOf record).get? column).getD .null) = .ok v := by
    intro column hcolumn
    -- The columns are read from the scalars, which leave `events` out.
    have hne : column ≠ "events" := by
      rintro rfl
      exact absurd hcolumn (by decide)
    rw [SqliteRunStore.scalarsOf, Dict.get?_filter]
    cases hget : record.scalars.get? column with
    | none => exact ⟨.null, rfl⟩
    | some value =>
      have hok := h column hcolumn value hget
      simp only [hne, ne_eq, not_false_eq_true, decide_true, Option.filter_some, if_true,
        Option.getD_some]
      unfold binds at hok
      cases hv : sqlBind py value with
      | ok v => exact ⟨v, rfl⟩
      | error exc => rw [hv] at hok; cases hok
  obtain ⟨status, hstatus⟩ := hbind "status" (by decide)
  obtain ⟨ref, href⟩ := hbind "scenario_ref" (by decide)
  obtain ⟨created, hcreated⟩ := hbind "created_at" (by decide)
  refine ⟨⟨status, ref, created, _⟩, ?_, rfl⟩
  simp only [SqliteRunStore.rowOf, hstatus, href, hcreated]
  rfl

/-- An id that SQLite binds. -/
theorem bindId_ok {py : PyLib} {runId : String} (h : binds py (.str runId) = true) :
    bindId py runId = .ok () := by
  unfold binds at h
  unfold bindId
  cases hid : sqlBind py (.str runId) with
  | ok value => rfl
  | error exc =>
    rw [hid] at h
    cases h

/-- `_persist_record` brings the row of the run up to date. -/
theorem mirrored_persistRecord {py : PyLib} {s : SqliteRunStore} {runId : String}
    (hs : MirroredBut (some runId) py s) (hid : binds py (.str runId) = true)
    (hsome : (s.cache.get runId).isSome = true)
    (hexact : ∀ j ∈ payloadOf s.cache runId, py.RoundTrips j) :
    Mirrored py (SqliteRunStore.persistRecord py s runId).1 := by
  obtain ⟨record, hget⟩ := Option.isSome_iff_exists.mp hsome
  obtain ⟨row, hrow, htext⟩ := rowOf_ok py (hs.columns runId record hget)
  have hpersist : SqliteRunStore.persistRecord py s runId =
      ({ s with db := { s.db with runs := s.db.runs.set runId row } }, .ok ()) := by
    simp [SqliteRunStore.persistRecord, hget, bindId_ok hid, hrow, bind, Except.bind]
  rw [hpersist]
  refine ⟨?_, hs.events, hs.columns⟩
  intro r _
  show ((s.db.runs.set runId row).get? r).map _ = (s.cache.get r).map _
  rw [Dict.get?_set]
  -- The row of this run is new, and the others are as they were.
  by_cases hr : runId = r
  · subst hr
    have hback : py.RoundTrips (SqliteRunStore.scalarsOf record).toJson :=
      hexact _ (by simp [payloadOf, hget])
    rw [if_pos rfl, hget, Option.map_some, Option.map_some, htext]
    exact congrArg some hback
  · rw [if_neg hr]
    exact hs.runs r (by simpa using Ne.symm hr)

/-- A merged record has columns that can be bound. -/
theorem bindable_merge {py : PyLib} {existing update : Dict String Json} (now : ℚ)
    (he : Bindable py existing) (hu : Bindable py update) :
    Bindable py (existing.merge (RunStore.stamped existing update now)) := by
  -- The `created_at` that the store adds is a float.
  have hstamp : Bindable py (RunStore.stamped existing update now) := by
    unfold RunStore.stamped
    split
    · intro column hcolumn value hvalue
      rw [Option.mem_def, Dict.get?_set] at hvalue
      split at hvalue
      · cases hvalue
        rfl
      · exact hu column hcolumn value hvalue
    · exact hu
  intro column hcolumn value hvalue
  rw [Option.mem_def, Dict.get?_merge, Option.or_eq_some_iff] at hvalue
  rcases hvalue with h | ⟨-, h⟩
  · exact hstamp column hcolumn value h
  · exact he column hcolumn value h

/-- The cache after a merge, before the row of the run is written. -/
theorem mirroredBut_mergeLocked {py : PyLib} {s : SqliteRunStore} {runId : String}
    {record : Record Json} {now : ℚ} (hs : Mirrored py s) (hevents : record.events = [])
    (hbind : Bindable py record.scalars) :
    MirroredBut (some runId) py { s with cache := s.cache.mergeLocked runId record now } := by
  refine ⟨?_, ?_, ?_⟩
  · intro r hr
    have hne : runId ≠ r := by
      rintro rfl
      exact hr rfl
    show (s.db.runs.get? r).map _ = ((s.cache.mergeLocked runId record now).get r).map _
    rw [get_mergeLocked_ne _ _ _ _ _ hne]
    exact hs.runs r (by simp)
  · intro r i
    show _ = (((s.cache.mergeLocked runId record now).log r)[i]?).map _
    -- The update brings no events.
    rw [log_mergeLocked_other, hevents]
    simpa using hs.events r i
  · intro r merged hget
    have hget' : (s.cache.mergeLocked runId record now).get r = some merged := hget
    rw [get_mergeLocked] at hget'
    split at hget'
    · cases hget'
      refine bindable_merge now ?_ hbind
      cases hold : s.cache.get runId with
      | none => simp [Bindable, Record.empty]
      | some existing => exact hs.columns runId existing hold
    · exact hs.columns r merged hget'

/-- The record that `append_event` creates has columns that can be bound. -/
theorem bindable_freshRecord {py : PyLib} (hascii : py.EncodesAscii) (runId : String) (now : ℚ) :
    Bindable py (RunStore.freshRecord runId now : Record Json).scalars := by
  have hnodup : (([("run_id", Json.str runId), ("status", .str "running"),
      ("created_at", .num (.float (.fin now)))]).map Prod.fst).Nodup := by simp
  intro column hcolumn value hvalue
  rw [Option.mem_def, RunStore.freshRecord, Dict.get?_ofList hnodup,
    Dict.lookup_eq_some_iff hnodup] at hvalue
  simp only [List.mem_cons, Prod.mk.injEq, List.not_mem_nil, or_false] at hvalue
  rcases hvalue with ⟨rfl, -⟩ | ⟨-, rfl⟩ | ⟨-, rfl⟩
  · exact absurd hcolumn (by decide)
  · have hall : ("running".toList.all fun c => decide (c.toNat < 128)) = true := by decide
    have hencodes : py.utf8Encodes "running" = true :=
      hascii "running" fun c hc => of_decide_eq_true (List.all_eq_true.mp hall c hc)
    simp [binds, sqlBind, hencodes, Except.isOk, Except.toBool]
  · rfl

/-- The cache after an append, and the row of the event, before the row of the run is
written. -/
theorem mirroredBut_appendEvent {py : PyLib} {s : SqliteRunStore} {runId : String} {event : Json}
    {now : ℚ} (hascii : py.EncodesAscii) (hs : Mirrored py s) (hexact : py.RoundTrips event) :
    MirroredBut (some runId) py ⟨(s.cache.appendEvent runId event now).1, s.db.runs,
      s.db.runEvents.set (runId, ((s.cache.appendEvent runId event now).1.log runId).length - 1)
        (py.jsonDumps event)⟩ := by
  refine ⟨?_, ?_, ?_⟩
  · intro r hr
    have hne : runId ≠ r := by
      rintro rfl
      exact hr rfl
    show (s.db.runs.get? r).map _ = ((s.cache.appendEvent runId event now).1.get r).map _
    rw [get_appendEvent_ne _ _ _ _ _ hne]
    exact hs.runs r (by simp)
  · -- The new row is at the old length of the log, which is the position of the event.
    intro r i
    have hold := hs.events r i
    show ((s.db.runEvents.set _ _).get? (r, i)).map _ =
      (((s.cache.appendEvent runId event now).1.log r)[i]?).map _
    rw [Dict.get?_set, log_appendEvent, log_appendEvent_other]
    simp only [List.length_append, List.length_singleton, Nat.add_sub_cancel, Prod.mk.injEq]
    by_cases hr : runId = r
    · subst hr
      -- An old position, the new one, and one past the end.
      rcases Nat.lt_trichotomy i (s.cache.log runId).length with hlt | rfl | hgt
      · rw [if_neg (by omega), List.getElem?_append_left hlt]
        exact hold
      · simp only [and_self, if_true, Option.map_some, List.getElem?_concat_length]
        exact congrArg some hexact
      · rw [if_neg (by omega), hold, List.getElem?_eq_none (by omega),
          List.getElem?_eq_none (by simp; omega)]
    · simpa [hr] using hold
  · intro r record hget
    have hget' : (s.cache.appendEvent runId event now).1.get r = some record := hget
    unfold RunStore.appendEvent RunStore.get at hget'
    simp only [Dict.get?_set] at hget'
    split at hget'
    · cases hget'
      cases hold : s.cache.runs.get? runId with
      | none => exact bindable_freshRecord hascii runId now
      | some existing => exact hs.columns runId existing hold
    · exact hs.columns r record hget'

/-- After an upsert the store has the run. -/
theorem isSome_get_mergeLocked (s : RunStore Json) (runId : String) (record : Record Json)
    (now : ℚ) : ((s.mergeLocked runId record now).get runId).isSome = true := by
  rw [get_mergeLocked, if_pos rfl]
  rfl

/-- After an event the store has the run. -/
theorem isSome_get_appendEvent (s : RunStore Json) (runId : String) (event : Json) (now : ℚ) :
    ((s.appendEvent runId event now).1.get runId).isSome = true := by
  unfold RunStore.appendEvent RunStore.get
  simp

/-! ### A restart -/

/-- The record that comes back from the file. -/
def restored (record : Record Json) : Record Json :=
  { scalars := Dict.ofList (SqliteRunStore.scalarsOf record).entries, events := record.events }

/-- The scalars that come back. -/
theorem get?_restored (record : Record Json) {key : String} (h : key ≠ "events") :
    (restored record).scalars.get? key = record.scalars.get? key := by
  rw [restored, Dict.ofList_entries, SqliteRunStore.scalarsOf, Dict.get?_filter]
  cases record.scalars.get? key <;> simp [h]

/-- The event rows of a run read back as its log. -/
theorem eventRows_mapM {py : PyLib} {s : SqliteRunStore} (hs : Mirrored py s) (runId : String) :
    (s.db.eventRows runId).mapM py.jsonLoads = .ok (s.cache.log runId) := by
  -- The rows of the run are at the positions of its log and at no others.
  have hin : ∀ i, i < (s.cache.log runId).length → s.db.runEvents.get? (runId, i) =
      some ((s.db.runEvents.get? (runId, i)).getD "") := by
    intro i hi
    have h := hs.events runId i
    rw [List.getElem?_eq_getElem hi, Option.map_some] at h
    obtain ⟨text, htext, -⟩ := Option.map_eq_some_iff.mp h
    simp [htext]
  have hout : ∀ i, (s.cache.log runId).length ≤ i → s.db.runEvents.get? (runId, i) = none := by
    intro i hi
    have h := hs.events runId i
    rw [List.getElem?_eq_none hi, Option.map_none] at h
    exact Option.map_eq_none_iff.mp h
  rw [eventRows_eq hin hout]
  apply mapM_eq_ok
  apply List.ext_getElem?
  intro i
  rw [List.map_map, List.getElem?_map, List.getElem?_map, ← hs.events runId i]
  by_cases hi : i < (s.cache.log runId).length
  · rw [List.getElem?_range hi, hin i hi]
    rfl
  · rw [List.getElem?_eq_none (by simp; omega), hout i (by omega)]
    rfl

/-- A row of the file comes back as the record of the run. -/
theorem hydrateRow_eq {py : PyLib} {s : SqliteRunStore} (hs : Mirrored py s) {runId : String}
    {row : RunRow} (hrow : s.db.runs.get? runId = some row) :
    ∃ record, s.cache.get runId = some record ∧
      SqliteRunStore.hydrateRow py s.db runId row = .ok (some (restored record)) := by
  have h := hs.runs runId (by simp)
  rw [hrow, Option.map_some] at h
  obtain ⟨record, hget, hload⟩ := Option.map_eq_some_iff.mp h.symm
  refine ⟨record, hget, ?_⟩
  have hlog : s.cache.log runId = record.events := by simp [RunStore.log, hget]
  simp only [SqliteRunStore.hydrateRow, ← hload, eventRows_mapM hs runId, hlog]
  rfl

/-- The loop of `_hydrate` over rows that all come back. -/
theorem hydrate_eq {py : PyLib} {db : Database} (f : String → Record Json)
    {rows : List (String × RunRow)}
    (hrows : ∀ e ∈ rows, SqliteRunStore.hydrateRow py db e.1 e.2 = .ok (some (f e.1)))
    (runs : Dict String (Record Json)) :
    SqliteRunStore.hydrate py db runs rows =
      .ok (runs.setAll (rows.map fun e => (e.1, f e.1))) := by
  induction rows generalizing runs with
  | nil => rfl
  | cons e rows ih =>
    obtain ⟨r, row⟩ := e
    have hhead := hrows (r, row) (by simp)
    simp only at hhead
    rw [SqliteRunStore.hydrate, hhead]
    exact ih (fun e he => hrows e (by simp [he])) _

/-- The store that a file reads back as. -/
theorem new_eq {py : PyLib} {s : SqliteRunStore} (hs : Mirrored py s) :
    ∃ s', SqliteRunStore.new py s.db = .ok s' ∧ s'.db = s.db ∧
      ∀ r, s'.cache.get r = (s.cache.get r).map restored := by
  have hrows : ∀ e ∈ s.db.runs.entries, SqliteRunStore.hydrateRow py s.db e.1 e.2 =
      .ok (some (restored ((s.cache.get e.1).getD Record.empty))) := by
    rintro ⟨r, row⟩ he
    obtain ⟨record, hget, hrow⟩ := hydrateRow_eq hs ((Dict.get?_eq_some_iff _ r row).mpr he)
    simp only [hrow, hget, Option.getD_some]
  -- No row is skipped, so the loop assigns a record for each.
  have hhydrate := hydrate_eq (fun r => restored ((s.cache.get r).getD Record.empty)) hrows
    Dict.empty
  refine ⟨⟨⟨Dict.empty.setAll (s.db.runs.entries.map fun e =>
    (e.1, restored ((s.cache.get e.1).getD Record.empty))), Dict.empty⟩, s.db⟩,
    by rw [SqliteRunStore.new, hhydrate]; rfl, rfl, fun r => ?_⟩
  have hkeys : ((s.db.runs.entries.map fun e =>
      (e.1, restored ((s.cache.get e.1).getD Record.empty))).map Prod.fst) = s.db.runs.keys := by
    simp [Dict.keys, Function.comp_def]
  have hnodup : ((s.db.runs.entries.map fun e =>
      (e.1, restored ((s.cache.get e.1).getD Record.empty))).map Prod.fst).Nodup := by
    rw [hkeys]
    exact s.db.runs.nodup
  show (Dict.empty.setAll _).get? r = _
  rw [Dict.get?_setAll _ hnodup, Dict.get?_empty, Option.or_none]
  -- A run is in the file exactly when it is in memory.
  have hruns := hs.runs r (by simp)
  apply Option.ext
  intro record
  rw [Dict.lookup_eq_some_iff hnodup]
  cases hget : s.cache.get r with
  | none =>
    rw [hget, Option.map_none, Option.map_eq_none_iff] at hruns
    simp only [Option.map_none, reduceCtorEq, iff_false, List.mem_map, not_exists, not_and]
    rintro ⟨r', row⟩ he heq
    obtain rfl : r' = r := (Prod.mk.inj heq).1
    rw [(Dict.get?_eq_some_iff _ _ _).mpr he] at hruns
    cases hruns
  | some old =>
    rw [hget, Option.map_some] at hruns
    obtain ⟨row, hrow, -⟩ := Option.map_eq_some_iff.mp hruns
    have hmem := (Dict.get?_eq_some_iff _ _ _).mp hrow
    simp only [Option.map_some, Option.some.injEq, List.mem_map]
    constructor
    · rintro ⟨⟨r', row'⟩, -, heq⟩
      obtain ⟨rfl, rfl⟩ := Prod.mk.inj heq
      simp [hget]
    · rintro rfl
      exact ⟨(r, row), hmem, by simp [hget]⟩

/-- A restart keeps the invariant. -/
theorem mirrored_restored {py : PyLib} {s s' : SqliteRunStore} (hs : Mirrored py s)
    (hdb : s'.db = s.db) (hcache : ∀ r, s'.cache.get r = (s.cache.get r).map restored) :
    Mirrored py s' := by
  have hlog : ∀ r, s'.cache.log r = s.cache.log r := by
    intro r
    simp only [RunStore.log, hcache r, Option.map_map]
    rfl
  refine ⟨?_, ?_, ?_⟩
  · intro r hr
    rw [hdb, hs.runs r hr, hcache r, Option.map_map]
    -- The scalars that came back are written out again as they were read.
    have hsame : ∀ record, (SqliteRunStore.scalarsOf (restored record)).toJson =
        (SqliteRunStore.scalarsOf record).toJson := by
      intro record
      rw [restored, Dict.ofList_entries, SqliteRunStore.scalarsOf, SqliteRunStore.scalarsOf,
        Dict.filter_filter]
    simp only [Function.comp_def, hsame]
  · intro r i
    rw [hdb, hlog r]
    exact hs.events r i
  · intro r record hget
    rw [hcache r] at hget
    obtain ⟨old, hold, rfl⟩ := Option.map_eq_some_iff.mp hget
    intro column hcolumn value hvalue
    have hne : column ≠ "events" := by
      rintro rfl
      exact absurd hcolumn (by decide)
    rw [Option.mem_def, get?_restored old hne] at hvalue
    exact hs.columns r old hold column hcolumn value hvalue

/-! ### Runs of the store -/

/-- Every call that meets `SqliteOk` keeps the file a copy of the memory. -/
theorem mirrored_step {py : PyLib} {s s' : SqliteRunStore} {c : SqliteCall × ℚ}
    (hascii : py.EncodesAscii) (hs : Mirrored py s) (hok : SqliteOk py s c)
    (hstep : sqliteStep py s c = some s') : Mirrored py s' := by
  obtain ⟨call, now⟩ := c
  obtain ⟨⟨hupdate, hexact⟩, hid, hbound⟩ := hok
  cases call with
  | upsert runId record =>
    cases hstep
    have hcache : MirroredBut (some runId) py
        { s with cache := s.cache.mergeLocked runId record now } :=
      mirroredBut_mergeLocked hs (hupdate record rfl) (hbound record rfl)
    exact mirrored_persistRecord hcache (hid runId rfl) (isSome_get_mergeLocked _ _ _ _) hexact
  | upsertUnlessCancelled runId record =>
    cases hstep
    by_cases hc : s.cache.status runId = some (.str "cancelled")
    · -- Nothing is written, in memory or in the file.
      simpa [SqliteRunStore.upsertUnlessCancelled, RunStore.upsertUnlessCancelled, hc] using hs
    · simp only [writtenBy, RunStore.upsertUnlessCancelled, if_neg hc, if_true] at hexact
      simp only [SqliteRunStore.upsertUnlessCancelled, RunStore.upsertUnlessCancelled, if_neg hc,
        if_true]
      exact mirrored_persistRecord
        (mirroredBut_mergeLocked hs (hupdate record rfl) (hbound record rfl)) (hid runId rfl)
        (isSome_get_mergeLocked _ _ _ _) hexact
  | appendEvent runId event =>
    cases hstep
    unfold SqliteRunStore.appendEvent
    simp only [bindId_ok (hid runId rfl)]
    refine mirrored_persistRecord
      (mirroredBut_appendEvent hascii hs (hexact event (by simp [writtenBy]))) (hid runId rfl)
      (isSome_get_appendEvent _ _ _ _) ?_
    intro j hj
    exact hexact j (by simp [writtenBy, hj])
  | reopen =>
    -- Opening the file again reads back what it holds.
    obtain ⟨s₁, hnew, hdb, hcache⟩ := new_eq hs
    simp only [sqliteStep, hnew, Except.toOption, Option.some.injEq] at hstep
    subst hstep
    exact mirrored_restored hs hdb hcache

/-- A new file mirrors an empty store. -/
theorem mirrored_fresh (py : PyLib) : Mirrored py .fresh where
  runs := fun _ _ => rfl
  events := fun _ _ => rfl
  columns := fun _ _ h => nomatch h

/-- The two stores have the same runs, each with the same scalar fields and the same events
in the same order. -/
structure SameRuns (s s' : RunStore Json) : Prop where
  ids : ∀ r, (s.get r).isSome = (s'.get r).isSome
  scalars : ∀ r key, key ≠ "events" → (s.get r).bind (·.scalars.get? key) =
    (s'.get r).bind (·.scalars.get? key)
  events : ∀ r, s.log r = s'.log r

/-- A store that is read back has the same runs. -/
theorem sameRuns_restored {s s' : RunStore Json} (h : ∀ r, s'.get r = (s.get r).map restored) :
    SameRuns s s' where
  ids := fun r => by simp [h r]
  scalars := fun r key hkey => by
    rw [h r]
    cases s.get r with
    | none => rfl
    | some record => simp [get?_restored record hkey]
  events := fun r => by
    simp only [RunStore.log, h r, Option.map_map]
    rfl

/-- **Run history survives a restart.** Take a store on a new file and any sequence of
`upsert`, `upsert_unless_cancelled`, `append_event` and restarts that meets `SqliteOk`. Then
the file can be opened, and the store that opens it has the runs of the memory, with the
same scalar fields and the same events in the same order. -/
theorem history_survives (py : PyLib) (hascii : py.EncodesAscii) {s : SqliteRunStore}
    (hrun : Reach (sqliteStep py) (SqliteOk py) .fresh s) :
    ∃ s', SqliteRunStore.new py s.db = .ok s' ∧ SameRuns s.cache s'.cache := by
  have hs : Mirrored py s :=
    Reach.invariant (fun _ _ _ h hok hstep => mirrored_step hascii h hok hstep) hrun
      (mirrored_fresh py)
  obtain ⟨s', hnew, -, hcache⟩ := new_eq hs
  exact ⟨s', hnew, sameRuns_restored hcache⟩

/-- The texts of a run that is created, gets an event and succeeds. -/
def historyLib : PyLib :=
  PyLib.reading
    [("\x7b\"status\": \"running\", \"created_at\": 1.0\x7d",
        .obj [("status", .str "running"), ("created_at", .num (.float (.fin 1)))]),
     ("\x7b\"status\": \"success\", \"created_at\": 1.0\x7d",
        .obj [("status", .str "success"), ("created_at", .num (.float (.fin 1)))]),
     ("\x7b\"type\": \"run.started\"\x7d", .obj [("type", .str "run.started")])]

/-- A run with a restart before its last update. -/
def restartedRun : List (SqliteCall × ℚ) :=
  [(.upsert "r" (Record.ofScalar "status" (.str "running")), 1),
   (.appendEvent "r" (.obj [("type", .str "run.started")]), 2), (.reopen, 3),
   (.appendEvent "r" (.obj [("type", .str "run.started")]), 4),
   (.upsertUnlessCancelled "r" (Record.ofScalar "status" (.str "success")), 5)]

/-- After `restartedRun` the file opens with the status and the two events of the memory. -/
theorem history_survives_restarted :
    ∃ s s', Reach (sqliteStep historyLib) (SqliteOk historyLib) .fresh s ∧
      s.cache.status "r" = some (.str "success") ∧ (s.cache.log "r").length = 2 ∧
      SqliteRunStore.new historyLib s.db = .ok s' ∧ SameRuns s.cache s'.cache := by
  have hexec : (exec (sqliteStep historyLib) (SqliteOk historyLib) .fresh restartedRun).map
      (fun s => (s.cache.status "r", (s.cache.log "r").length)) =
        some (some (.str "success"), 2) := by decide +kernel
  obtain ⟨s, hrun, heq⟩ := exists_reach_of_exec hexec
  obtain ⟨hstatus, hlog⟩ := Prod.mk.inj heq
  obtain ⟨s', hnew, hsame⟩ := history_survives historyLib (fun _ _ => rfl) hrun
  exact ⟨s, s', hrun, hstatus, hlog, hnew, hsame⟩

/-- The text of the `scenario_ref` of a run. It stands for a text with a lone surrogate. -/
def loneSurrogate : String := "\uFFFD"

/-- The scalars that `create_run` stores, with the time that the store adds. -/
def createdScalars : List (String × Json) :=
  [("run_id", .str "r"), ("status", .str "pending"), ("scenario_ref", .str loneSurrogate),
   ("run_label", .null), ("outputs", .obj []), ("error", .null),
   ("created_at", .num (.float (.fin 1)))]

/-- The library of the run. -/
def createdLib : PyLib :=
  { PyLib.reading [("created", .obj createdScalars)] with
      utf8Encodes := fun s => decide (s ≠ loneSurrogate) }

/-- The library of the concrete run encodes ASCII. -/
theorem createdLib_encodesAscii : createdLib.EncodesAscii := by
  intro s hascii
  refine decide_eq_true fun h => ?_
  rw [h] at hascii
  exact absurd (hascii '\uFFFD' (by decide)) (by decide)

/-- A run whose `scenario_ref` does not encode is in memory and not in the file: SQLite does not
bind it, and `upsert` raises after the write in memory. -/
theorem unencodable_ref_not_persisted :
    ¬∀ (py : PyLib) (s : SqliteRunStore), py.EncodesAscii →
      Reach (sqliteStep py) (PlainOk py) .fresh s →
        ∃ s', SqliteRunStore.new py s.db = .ok s' ∧ SameRuns s.cache s'.cache := by
  intro hall
  have hexec : (exec (sqliteStep createdLib) (PlainOk createdLib) .fresh
      [(.upsert "r" ⟨Dict.ofList (createdScalars.take 6), []⟩, 1)]).map
        (fun s => ((s.cache.get "r").isSome, s.db.runs)) = some (true, Dict.empty) := by
    decide +kernel
  obtain ⟨s, hrun, heq⟩ := exists_reach_of_exec hexec
  obtain ⟨hmem, hruns⟩ := Prod.mk.inj heq
  obtain ⟨s', hnew, hsame⟩ := hall createdLib s createdLib_encodesAscii hrun
  have hempty : s'.cache.get "r" = none := by
    simp only [SqliteRunStore.new, hruns] at hnew
    cases hnew
    rfl
  have hids := hsame.ids "r"
  rw [hmem, hempty] at hids
  cases hids

end AitpPlayground.Proofs.Runner
