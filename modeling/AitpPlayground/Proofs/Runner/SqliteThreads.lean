import AitpPlayground.Runner.SqliteThreads
import AitpPlayground.Proofs.Runner.Sqlite

/-!
# `AitpPlayground.Proofs.Runner.SqliteThreads`: when the file keeps up with the memory

Threads that call one store can leave its file behind the memory for good. Two appends that
both put their event into memory before either reads its position write one row twice and
the other never. A thread that copied the scalars before an update can write its row after
the row of that update. And the events that an `upsert` carries get no row at all.

`MirrorOk` excludes these three, each by a look at the state before the step: at the reading
of the position the thread's own event is still the last of the log, at the writing of a row
the row is not from a later version than the copy, and an update carries no events. It says
nothing about where else the threads may interleave.

`MirrorInv` is what such runs keep. Every event of the log has its row or a thread that is
about to write it, and every row is of the current version or there is a thread that will
make it so. When all calls have returned there is no such thread.
-/

set_option autoImplicit false

namespace AitpPlayground.Proofs.Runner

open AitpPlayground.Lib
open AitpPlayground.Runner
open AitpPlayground.Runner.MirrorThreads

variable {py : PyLib} {m m' : MirrorThreads} {t : Nat} {runId : String}

/-! ### What a step has to meet -/

instance : DecidablePred (PlainCall : RunStore.Call Json → Prop)
  | .upsert record => inferInstanceAs (Decidable (record.events = []))
  | .upsertUnlessCancelled record => inferInstanceAs (Decidable (record.events = []))
  | .get | .appendEvent _ => isTrue trivial

/-- No append of the run came between the append of the event and the reading of its
position, and no later version of the scalars is replaced by an earlier one. -/
def SectionOk (m : MirrorThreads) : MirrorPc → Prop
  | .appended runId _ pos => (m.store.cache.log runId).length = pos + 1
  | .insertRun runId _ version => m.rowFromOf runId ≤ version
  | _ => True

instance (m : MirrorThreads) (p : MirrorPc) : Decidable (SectionOk m p) :=
  match p with
  | .appended _ _ _ => inferInstanceAs (Decidable (_ = _))
  | .insertRun _ _ _ => inferInstanceAs (Decidable (_ ≤ _))
  | .idle | .insertEvent _ _ _ | .persist _ | .raised _ => isTrue trivial

/-- What a step has to meet: an update carries no events, and `SectionOk`. -/
def MirrorOk (m : MirrorThreads) (l : Nat × MirrorMove) : Prop :=
  match l.2 with
  | .call _ c _ => PlainCall c
  | .go => SectionOk m (m.pc l.1)

instance (m : MirrorThreads) (l : Nat × MirrorMove) : Decidable (MirrorOk m l) :=
  match l with
  | (_, .call _ c _) => inferInstanceAs (Decidable (PlainCall c))
  | (t, .go) => inferInstanceAs (Decidable (SectionOk m (m.pc t)))

/-! ### The invariant -/

/-- The row of these scalars. -/
def rowOfScalars (py : PyLib) (scalars : Dict String Json) : Except PyErr RunRow :=
  SqliteRunStore.rowOf py ⟨scalars, []⟩

/-- The row of a record is the row of its scalars. -/
theorem rowOf_eq (py : PyLib) (record : Record Json) :
    SqliteRunStore.rowOf py record = rowOfScalars py (SqliteRunStore.scalarsOf record) := by
  have h : SqliteRunStore.scalarsOf ⟨SqliteRunStore.scalarsOf record, []⟩ =
      SqliteRunStore.scalarsOf record :=
    Dict.filter_filter record.scalars fun k _ => decide (k ≠ "events")
  unfold rowOfScalars SqliteRunStore.rowOf
  rw [h]

/-- The thread is about to write event `e` of the run as row `i`, or has raised. -/
def WritesEvent (runId : String) (i : Nat) (e : Json) : MirrorPc → Prop
  | .appended r event pos => r = runId ∧ event = e ∧ pos = i
  | .insertEvent r event seq => r = runId ∧ event = e ∧ seq = i
  | .raised _ => True
  | .persist _ | .insertRun _ _ _ | .idle => False

/-- The thread is about to write the row of the run with the scalars of this version, or has
raised. -/
def WritesRun (runId : String) (version : Nat) : MirrorPc → Prop
  | .appended r _ _ | .insertEvent r _ _ | .persist r => r = runId
  | .insertRun r _ v => r = runId ∧ v = version
  | .raised _ => True
  | .idle => False

/-- What a thread has copied out of the memory. -/
def PcOk (m : MirrorThreads) : MirrorPc → Prop
  | .appended r event pos => (m.store.cache.log r)[pos]? = some event
  | .insertEvent r event seq => (m.store.cache.log r)[seq]? = some event
  | .persist r => (scalarsIn m.store.cache r).isSome = true
  | .insertRun r scalars v =>
    v ≤ m.versionOf r ∧ (v = m.versionOf r → scalarsIn m.store.cache r = some scalars)
  | _ => True

/-- Every row is there and current, or a thread is about to write it. -/
structure MirrorInv (py : PyLib) (m : MirrorThreads) : Prop where
  pcs : ∀ t, PcOk m (m.pc t)
  rowFrom_le : ∀ r, m.rowFromOf r ≤ m.versionOf r
  row : ∀ r, m.rowFromOf r = m.versionOf r →
    (m.store.db.runs.get? r).map .ok = (scalarsIn m.store.cache r).map (rowOfScalars py)
  run : ∀ r, m.rowFromOf r = m.versionOf r ∨ ∃ t, WritesRun r (m.versionOf r) (m.pc t)
  event : ∀ r i e, (m.store.cache.log r)[i]? = some e →
    m.store.db.runEvents.get? (r, i) = some (py.jsonDumps e) ∨ ∃ t, WritesEvent r i e (m.pc t)
  noEvent : ∀ r i, (m.store.cache.log r).length ≤ i → m.store.db.runEvents.get? (r, i) = none

/-- A move of one thread leaves the others where they are. -/
theorem pc_goto (m : MirrorThreads) (t u : Nat) (p : MirrorPc) :
    (m.goto t p).pc u = if t = u then p else m.pc u := by
  unfold pc goto
  simp only [Dict.get?_set]
  split <;> rfl

/-- The thread that moves is where it goes. -/
@[simp] theorem pc_goto_self (m : MirrorThreads) (t : Nat) (p : MirrorPc) :
    (m.goto t p).pc t = p := by
  rw [pc_goto, if_pos rfl]

/-- A thread other than the one that moves stays where it is. -/
theorem exists_pc_goto {Q : MirrorPc → Prop} {p : MirrorPc} (h : ∃ u, Q (m.pc u))
    (hp : Q (m.pc t) → Q p) : ∃ u, Q ((m.goto t p).pc u) := by
  obtain ⟨u, hu⟩ := h
  by_cases htu : t = u
  · subst htu
    exact ⟨t, by rw [pc_goto_self]; exact hp hu⟩
  · exact ⟨u, by rw [pc_goto, if_neg htu]; exact hu⟩

/-- A run with an event is in the store. -/
theorem isSome_of_log {cache : RunStore Json} {i : Nat} {e : Json}
    (h : (cache.log runId)[i]? = some e) : (scalarsIn cache runId).isSome = true := by
  cases hget : cache.get runId with
  | some record => simp [scalarsIn, hget]
  | none => simp [RunStore.log, hget] at h

/-! ### The first section of a call -/

/-- The version of the run after a change of the memory. -/
theorem versionOf_recall (m : MirrorThreads) (runId r : String) (cache : RunStore Json) :
    (m.recalled runId cache).versionOf r =
      if scalarsIn cache runId = scalarsIn m.store.cache runId then m.versionOf r
      else if runId = r then m.versionOf r + 1 else m.versionOf r := by
  unfold recalled versionOf
  split
  · rfl
  · simp only [Dict.get?_set]
    split
    · rename_i h
      subst h
      rfl
    · rfl

/-- A run keeps its version, with its scalars, or has a new one. -/
theorem recall_version_cases {cache : RunStore Json} {r : String}
    (hframe : ∀ r, runId ≠ r → scalarsIn cache r = scalarsIn m.store.cache r) :
    ((m.recalled runId cache).versionOf r = m.versionOf r ∧
      scalarsIn cache r = scalarsIn m.store.cache r) ∨
    (runId = r ∧ (m.recalled runId cache).versionOf r = m.versionOf r + 1) := by
  rw [versionOf_recall]
  by_cases hsame : scalarsIn cache runId = scalarsIn m.store.cache runId
  · left
    refine ⟨if_pos hsame, ?_⟩
    by_cases hr : runId = r
    · exact hr ▸ hsame
    · exact hframe r hr
  · by_cases hr : runId = r
    · right
      rw [if_neg hsame, if_pos hr]
      exact ⟨hr, rfl⟩
    · left
      rw [if_neg hsame, if_neg hr]
      exact ⟨rfl, hframe r hr⟩

/-- The first section of a call keeps the invariant, when the thread goes on to write what
the section added. -/
theorem mirrorInv_recall {cache : RunStore Json} {p : MirrorPc} (added : List Json)
    (hm : MirrorInv py m) (hidle : m.pc t = .idle)
    (hframe : ∀ r, runId ≠ r → scalarsIn cache r = scalarsIn m.store.cache r)
    (hlog : ∀ r, cache.log r = m.store.cache.log r ++ (if runId = r then added else []))
    (hsome : (scalarsIn cache runId).isSome = true) (hp : PcOk (m.recalled runId cache) p)
    (hrun : ∀ v, WritesRun runId v p) (hadded : ∀ i e, added[i]? = some e →
      WritesEvent runId ((m.store.cache.log runId).length + i) e p) :
    MirrorInv py ((m.recalled runId cache).goto t p) := by
  -- A position of the old log is a position of the new one.
  have hkept : ∀ (r : String) (i : Nat) (e : Json), (m.store.cache.log r)[i]? = some e →
      (cache.log r)[i]? = some e := by
    intro r i e he
    have hi : i < (m.store.cache.log r).length := (List.getElem?_eq_some_iff.mp he).1
    rw [hlog r, List.getElem?_append_left hi]
    exact he
  -- The six fields of the invariant, in their order.
  refine ⟨?_, ?_, ?_, ?_, ?_, ?_⟩
  · intro u
    rw [pc_goto]
    split
    · exact hp
    · have hu := hm.pcs u
      show PcOk (m.recalled runId cache) (m.pc u)
      cases hpc : m.pc u with
      | appended r event pos =>
        rw [hpc] at hu
        exact hkept r pos event hu
      | insertEvent r event seq =>
        rw [hpc] at hu
        exact hkept r seq event hu
      | insertRun r scalars v =>
        rw [hpc] at hu
        obtain ⟨hle, hcur⟩ := hu
        -- A copy of the scalars stays current, or the run has a newer version now.
        rcases recall_version_cases (m := m) (r := r) hframe with ⟨hv, hs⟩ | ⟨-, hv⟩
        · refine ⟨by rw [hv]; exact hle, ?_⟩
          intro hveq
          rw [hv] at hveq
          exact hs.trans (hcur hveq)
        · exact ⟨by omega, fun hveq => by omega⟩
      | persist r =>
        rw [hpc] at hu
        by_cases hr : runId = r
        · exact hr ▸ hsome
        · show (scalarsIn cache r).isSome = true
          rw [hframe r hr]
          exact hu
      | idle => trivial
      | raised exc => trivial
  · intro r
    show m.rowFromOf r ≤ (m.recalled runId cache).versionOf r
    have hle := hm.rowFrom_le r
    rcases recall_version_cases (m := m) (r := r) hframe with ⟨hv, -⟩ | ⟨-, hv⟩ <;> omega
  · intro r hcur
    have hcur' : m.rowFromOf r = (m.recalled runId cache).versionOf r := hcur
    have hle := hm.rowFrom_le r
    rcases recall_version_cases (m := m) (r := r) hframe with ⟨hv, hs⟩ | ⟨-, hv⟩
    · show (m.store.db.runs.get? r).map _ = (scalarsIn cache r).map _
      rw [hs]
      exact hm.row r (hcur'.trans hv)
    · omega
  · intro r
    show m.rowFromOf r = (m.recalled runId cache).versionOf r ∨
      ∃ u, WritesRun r ((m.recalled runId cache).versionOf r)
        (((m.recalled runId cache).goto t p).pc u)
    by_cases hr : runId = r
    · subst hr
      -- This thread writes the row of the run later.
      exact .inr ⟨t, by rw [pc_goto_self]; exact hrun _⟩
    · rcases recall_version_cases (m := m) (r := r) hframe with ⟨hv, -⟩ | ⟨he, -⟩
      · rw [hv]
        rcases hm.run r with h | h
        · exact .inl h
        · refine .inr (exists_pc_goto (m := m.recalled runId cache) h ?_)
          intro ht
          have ht' : WritesRun r (m.versionOf r) (m.pc t) := ht
          rw [hidle] at ht'
          exact ht'.elim
      · exact absurd he hr
  · intro r i e he
    show m.store.db.runEvents.get? (r, i) = _ ∨ _
    have he' : (cache.log r)[i]? = some e := he
    by_cases hi : i < (m.store.cache.log r).length
    · have hold : (m.store.cache.log r)[i]? = some e := by
        rw [hlog r, List.getElem?_append_left hi] at he'
        exact he'
      rcases hm.event r i e hold with h | h
      · exact .inl h
      · refine .inr (exists_pc_goto (m := m.recalled runId cache) h ?_)
        intro ht
        have ht' : WritesEvent r i e (m.pc t) := ht
        rw [hidle] at ht'
        exact ht'.elim
    · -- A new position is one the thread is about to write.
      rw [hlog r, List.getElem?_append_right (by omega)] at he'
      by_cases hr : runId = r
      · subst hr
        rw [if_pos rfl] at he'
        have hw := hadded _ e he'
        rw [Nat.add_sub_cancel' (by omega)] at hw
        exact .inr ⟨t, by rw [pc_goto_self]; exact hw⟩
      · rw [if_neg hr] at he'
        cases he'
  · intro r i hi
    have hi' : (cache.log r).length ≤ i := hi
    rw [hlog r, List.length_append] at hi'
    exact hm.noEvent r i (by omega)

/-- What the first section of a call does. -/
theorem enter_cases (m : MirrorThreads) (t : Nat) (runId : String) (c : RunStore.Call Json)
    (now : ℚ) :
    m.enter t runId c now = m ∨
    (∃ event, c = .appendEvent event ∧ m.enter t runId c now =
      (m.recalled runId (m.store.cache.appendEvent runId event now).1).goto t
        (.appended runId event (m.store.cache.log runId).length)) ∨
    (∃ record, (c = .upsert record ∨ c = .upsertUnlessCancelled record) ∧
      m.enter t runId c now =
        (m.recalled runId (m.store.cache.mergeLocked runId record now)).goto t
          (.persist runId)) := by
  have hsame : m.recalled runId m.store.cache = m := by simp [recalled]
  cases c with
  | get => exact .inl hsame
  | upsert record => exact .inr (.inr ⟨record, .inl rfl, rfl⟩)
  | upsertUnlessCancelled record =>
    simp only [enter, RunStore.call, RunStore.upsertUnlessCancelled]
    by_cases h : m.store.cache.status runId = some (.str "cancelled")
    · left
      simp only [if_pos h]
      exact hsame
    · right; right
      refine ⟨record, .inr rfl, ?_⟩
      simp only [if_neg h]
  | appendEvent event => exact .inr (.inl ⟨event, rfl, rfl⟩)

/-- The first section of a plain call keeps the invariant. -/
theorem mirrorInv_enter {c : RunStore.Call Json} {now : ℚ} (hm : MirrorInv py m)
    (hidle : m.pc t = .idle) (hc : PlainCall c) : MirrorInv py (m.enter t runId c now) := by
  rcases enter_cases m t runId c now with h | ⟨event, -, h⟩ | ⟨record, hrec, h⟩
  · rw [h]
    exact hm
  · rw [h]
    -- `append_event`: the log has one more event, at its end.
    refine mirrorInv_recall [event] hm hidle ?_ ?_ ?_ ?_ ?_ ?_
    · intro r hr
      unfold scalarsIn
      rw [get_appendEvent_ne _ _ _ _ _ hr]
    · exact fun r => log_appendEvent_other _ _ _ _ _
    · simp [scalarsIn, isSome_get_appendEvent]
    · show ((m.store.cache.appendEvent runId event now).1.log runId)[_]? = some event
      rw [log_appendEvent, List.getElem?_concat_length]
    · exact fun v => rfl
    · intro i e he
      cases i with
      | zero => exact ⟨rfl, Option.some.inj he, rfl⟩
      | succ i => cases he
  -- An update that brings no events leaves every log as it is.
  · have hev : record.events = [] := by
      rcases hrec with rfl | rfl <;> exact hc
    have hsome : (scalarsIn (m.store.cache.mergeLocked runId record now) runId).isSome = true := by
      simp [scalarsIn, isSome_get_mergeLocked]
    rw [h]
    refine mirrorInv_recall [] hm hidle ?_ ?_ hsome hsome ?_ ?_
    · intro r hr
      unfold scalarsIn
      rw [get_mergeLocked_ne _ _ _ _ _ hr]
    · intro r
      rw [log_mergeLocked_other, hev]
    · exact fun v => rfl
    · intro i e he
      cases he

/-! ### The later sections -/

/-- A section that changes neither memory nor file keeps the invariant, when the thread goes
on to write whatever it was about to write. -/
theorem mirrorInv_goto {p : MirrorPc} (hm : MirrorInv py m) (hp : PcOk m p)
    (hrun : ∀ r, WritesRun r (m.versionOf r) (m.pc t) → WritesRun r (m.versionOf r) p)
    (hevent : ∀ r i e, WritesEvent r i e (m.pc t) → WritesEvent r i e p) :
    MirrorInv py (m.goto t p) := by
  refine ⟨?_, hm.rowFrom_le, hm.row, ?_, ?_, hm.noEvent⟩
  · intro u
    rw [pc_goto]
    split
    · exact hp
    · exact hm.pcs u
  · intro r
    rcases hm.run r with h | h
    · exact .inl h
    · exact .inr (exists_pc_goto h (hrun r))
  · intro r i e he
    rcases hm.event r i e he with h | h
    · exact .inl h
    · exact .inr (exists_pc_goto h (hevent r i e))

/-- The reading of the position keeps the invariant: the position is that of the event. -/
theorem mirrorInv_readSeq {event : Json} {pos : Nat} (hm : MirrorInv py m)
    (hpc : m.pc t = .appended runId event pos)
    (hlast : (m.store.cache.log runId).length = pos + 1) :
    MirrorInv py
      (m.goto t (.insertEvent runId event ((m.store.cache.log runId).length - 1))) := by
  -- No event was appended since, so `len - 1` is the position of this one.
  have hseq : (m.store.cache.log runId).length - 1 = pos := by omega
  rw [hseq]
  refine mirrorInv_goto hm ?_ ?_ ?_
  · have h := hm.pcs t
    rw [hpc] at h
    exact h
  · intro r h
    rw [hpc] at h
    exact h
  · intro r i e h
    rw [hpc] at h
    exact h

/-- The writing of an event row keeps the invariant. -/
theorem mirrorInv_insertEvent {event : Json} {seq : Nat} (hm : MirrorInv py m)
    (hpc : m.pc t = .insertEvent runId event seq) :
    MirrorInv py ({ m with store := { m.store with db := { m.store.db with
      runEvents := m.store.db.runEvents.set (runId, seq) (py.jsonDumps event) } } }.goto t
        (.persist runId)) := by
  have hat : (m.store.cache.log runId)[seq]? = some event := by
    have h := hm.pcs t
    rw [hpc] at h
    exact h
  refine ⟨?_, hm.rowFrom_le, hm.row, ?_, ?_, ?_⟩
  · intro u
    rw [pc_goto]
    split
    · exact isSome_of_log hat
    · exact hm.pcs u
  · intro r
    rcases hm.run r with h | h
    · exact .inl h
    · refine .inr (exists_pc_goto h ?_)
      intro hw
      have hw' : WritesRun r (m.versionOf r) (m.pc t) := hw
      rw [hpc] at hw'
      exact hw'
  · intro r i e he
    show (m.store.db.runEvents.set (runId, seq) _).get? (r, i) = _ ∨ _
    rw [Dict.get?_set]
    by_cases hk : (runId, seq) = (r, i)
    · -- The row that is written is the one the log has at this position.
      left
      obtain ⟨rfl, rfl⟩ := Prod.mk.inj hk
      have heq : event = e := Option.some.inj (hat.symm.trans he)
      rw [if_pos hk, heq]
    · rw [if_neg hk]
      rcases hm.event r i e he with h | h
      · exact .inl h
      · refine .inr (exists_pc_goto h ?_)
        intro hw
        have hw' : WritesEvent r i e (m.pc t) := hw
        rw [hpc] at hw'
        obtain ⟨hr, -, hi⟩ := hw'
        -- The thread was about to write this position and no other.
        exact absurd (by rw [hr, hi]) hk
  · intro r i hi
    have hi' : (m.store.cache.log r).length ≤ i := hi
    show (m.store.db.runEvents.set (runId, seq) _).get? (r, i) = none
    have hk : (runId, seq) ≠ (r, i) := by
      intro hk
      obtain ⟨rfl, rfl⟩ := Prod.mk.inj hk
      have hlt := (List.getElem?_eq_some_iff.mp hat).1
      omega
    rw [Dict.get?_set_ne _ _ hk]
    exact hm.noEvent r i hi'

/-- The writing of a run row keeps the invariant, when the row does not go back to an earlier
version. -/
theorem mirrorInv_insertRun {scalars : Dict String Json} {version : Nat} {row : RunRow}
    (hm : MirrorInv py m) (hpc : m.pc t = .insertRun runId scalars version)
    (hnew : m.rowFromOf runId ≤ version) (hrow : rowOfScalars py scalars = .ok row) :
    MirrorInv py ({ m with
      store := { m.store with db := { m.store.db with runs := m.store.db.runs.set runId row } }
      rowFrom := m.rowFrom.set runId version }.goto t .idle) := by
  obtain ⟨hle, hcopy⟩ : version ≤ m.versionOf runId ∧
      (version = m.versionOf runId → scalarsIn m.store.cache runId = some scalars) := by
    have h := hm.pcs t
    rw [hpc] at h
    exact h
  have hfrom : ∀ r, ((m.rowFrom.set runId version).get? r).getD 0 =
      if runId = r then version else m.rowFromOf r := by
    intro r
    rw [Dict.get?_set]
    split <;> rfl
  refine ⟨?_, ?_, ?_, ?_, ?_, hm.noEvent⟩
  · intro u
    rw [pc_goto]
    split
    · trivial
    · exact hm.pcs u
  · intro r
    show ((m.rowFrom.set runId version).get? r).getD 0 ≤ m.versionOf r
    rw [hfrom]
    split
    · rename_i hr
      exact hr ▸ hle
    · exact hm.rowFrom_le r
  · intro r hcur
    have hcur' : ((m.rowFrom.set runId version).get? r).getD 0 = m.versionOf r := hcur
    show ((m.store.db.runs.set runId row).get? r).map _ = (scalarsIn m.store.cache r).map _
    rw [hfrom] at hcur'
    rw [Dict.get?_set]
    -- The row is current when its version is that of the memory.
    by_cases hr : runId = r
    · subst hr
      rw [if_pos rfl] at hcur'
      rw [if_pos rfl, hcopy hcur', Option.map_some, Option.map_some, hrow]
    · rw [if_neg hr] at hcur'
      rw [if_neg hr]
      exact hm.row r hcur'
  · intro r
    show ((m.rowFrom.set runId version).get? r).getD 0 = m.versionOf r ∨ _
    rw [hfrom]
    have hothers : (∃ u, WritesRun r (m.versionOf r) (m.pc u)) →
        ¬ (runId = r ∧ version = m.versionOf r) →
        ∃ u, WritesRun r (m.versionOf r) ((m.goto t .idle).pc u) := by
      intro h hnot
      refine exists_pc_goto h ?_
      intro hw
      rw [hpc] at hw
      exact absurd hw hnot
    by_cases hr : runId = r
    · subst hr
      rw [if_pos rfl]
      by_cases hv : version = m.versionOf runId
      · exact .inl hv
      · -- The row was not current before either, so another thread will write it.
        right
        rcases hm.run runId with h | h
        · omega
        · exact hothers h fun hc => hv hc.2
    · rw [if_neg hr]
      rcases hm.run r with h | h
      · exact .inl h
      · exact .inr (hothers h fun hc => hr hc.1)
  · intro r i e he
    rcases hm.event r i e he with h | h
    · exact .inl h
    · refine .inr (exists_pc_goto h ?_)
      intro hw
      have hw' : WritesEvent r i e (m.pc t) := hw
      rw [hpc] at hw'
      exact hw'.elim

/-- A later section of a call keeps the invariant. -/
theorem mirrorInv_go (hm : MirrorInv py m) (hok : SectionOk m (m.pc t))
    (hs : m.go py t = some m') : MirrorInv py m' := by
  unfold go at hs
  cases hpc : m.pc t with
  | idle => simp [hpc] at hs
  | raised exc => simp [hpc] at hs
  | appended r event pos =>
    have hat := hm.pcs t
    rw [hpc] at hat hok
    -- The run of an event in the log is there.
    have hsome : (m.store.cache.get r).isSome = true := by
      simpa [scalarsIn] using isSome_of_log hat
    simp only [hpc, hsome, if_true, Option.some.injEq] at hs
    rw [← hs]
    exact mirrorInv_readSeq hm hpc hok
  | insertEvent r event seq =>
    simp only [hpc] at hs
    cases hid : bindId py r with
    | error exc =>
      rw [hid] at hs
      cases hs
      exact mirrorInv_goto hm trivial (fun _ _ => trivial) fun _ _ _ _ => trivial
    | ok _ =>
      rw [hid] at hs
      cases hs
      exact mirrorInv_insertEvent hm hpc
  | persist r =>
    simp only [hpc] at hs
    -- The copy of the scalars is made now, so it is current.
    cases hscalars : scalarsIn m.store.cache r with
    | none =>
      have hsome := hm.pcs t
      rw [hpc] at hsome
      simp [PcOk, hscalars] at hsome
    | some scalars =>
      rw [hscalars] at hs
      cases hs
      refine mirrorInv_goto hm ⟨Nat.le_refl _, fun _ => hscalars⟩ ?_ ?_
      · intro r' h
        rw [hpc] at h
        have hr : r = r' := h
        subst hr
        exact ⟨rfl, rfl⟩
      · intro r' i e h
        rw [hpc] at h
        exact h.elim
  | insertRun r scalars version =>
    rw [hpc] at hok
    simp only [hpc] at hs
    cases hrow : bindId py r >>= fun _ => SqliteRunStore.rowOf py ⟨scalars, []⟩ with
    | error exc =>
      rw [hrow] at hs
      cases hs
      exact mirrorInv_goto hm trivial (fun _ _ => trivial) fun _ _ _ _ => trivial
    | ok row =>
      rw [hrow] at hs
      cases hs
      obtain ⟨_, -, hrow'⟩ := except_bind_eq_ok.mp hrow
      exact mirrorInv_insertRun hm hpc hok hrow'

/-- Every step that meets the condition keeps the invariant. -/
theorem mirrorInv_step (l : Nat × MirrorMove) (hm : MirrorInv py m) (hok : MirrorOk m l)
    (hs : mirrorStep py m l = some m') : MirrorInv py m' := by
  obtain ⟨t, move⟩ := l
  cases move with
  | call runId c now =>
    simp only [mirrorStep] at hs
    by_cases hidle : m.pc t = .idle
    · rw [if_pos hidle] at hs
      cases hs
      exact mirrorInv_enter hm hidle hok
    · rw [if_neg hidle] at hs
      cases hs
  | go => exact mirrorInv_go hm hok hs

/-! ### Runs -/

/-- The file is a copy of the memory: the row of every run is the row of its record, and the
row at every position is the text of the event there. -/
structure Copies (py : PyLib) (s : SqliteRunStore) : Prop where
  runs : ∀ r, (s.db.runs.get? r).map .ok = (s.cache.get r).map (SqliteRunStore.rowOf py)
  events : ∀ r i, s.db.runEvents.get? (r, i) = ((s.cache.log r)[i]?).map py.jsonDumps

/-- A new file copies an empty store. -/
theorem copies_fresh (py : PyLib) : Copies py SqliteRunStore.fresh :=
  ⟨fun _ => rfl, fun _ _ => rfl⟩

/-- A row is made of the scalars of its record. -/
theorem map_rowOf (py : PyLib) (cache : RunStore Json) (r : String) :
    (cache.get r).map (SqliteRunStore.rowOf py) = (scalarsIn cache r).map (rowOfScalars py) := by
  unfold scalarsIn
  rw [Option.map_map]
  exact congrArg (fun f => (cache.get r).map f) (funext (rowOf_eq py))

/-- The invariant holds at the start. -/
theorem mirrorInv_start {s : SqliteRunStore} (hs : Copies py s) :
    MirrorInv py (MirrorThreads.start s) := by
  refine ⟨fun _ => trivial, fun _ => Nat.le_refl _, ?_, fun _ => .inl rfl, ?_, ?_⟩
  · intro r _
    exact (hs.runs r).trans (map_rowOf py s.cache r)
  · intro r i e he
    have he' : (s.cache.log r)[i]? = some e := he
    left
    show s.db.runEvents.get? (r, i) = _
    rw [hs.events r i, he', Option.map_some]
  · intro r i hi
    have hi' : (s.cache.log r).length ≤ i := hi
    show s.db.runEvents.get? (r, i) = none
    rw [hs.events r i, List.getElem?_eq_none hi', Option.map_none]

/-- A thread that has returned is idle. -/
theorem pc_of_returned (h : m.Returned) (t : Nat) : m.pc t = .idle := by
  unfold pc
  cases hget : m.threads.get? t with
  | none => rfl
  | some p => exact h (t, p) ((Dict.get?_eq_some_iff _ _ _).mp hget)

/-- When every call has returned, the file is a copy of the memory again. -/
theorem copies_of_returned (hm : MirrorInv py m) (hret : m.Returned) : Copies py m.store := by
  refine ⟨?_, ?_⟩
  · intro r
    -- Whatever is not current is about to be written, but no thread writes any more.
    rcases hm.run r with h | ⟨t, h⟩
    · rw [map_rowOf]
      exact hm.row r h
    · rw [pc_of_returned hret t] at h
      exact h.elim
  · intro r i
    cases hat : (m.store.cache.log r)[i]? with
    | none => exact hm.noEvent r i (List.getElem?_eq_none_iff.mp hat)
    | some e =>
      rcases hm.event r i e hat with h | ⟨t, h⟩
      · exact h
      · rw [pc_of_returned hret t] at h
        exact h.elim

/-- The rows of a run in a file that is a copy, in the order of their positions. -/
theorem eventRows_of_copies {s : SqliteRunStore} (hs : Copies py s) (runId : String) :
    s.db.eventRows runId = (s.cache.log runId).map py.jsonDumps := by
  have hin : ∀ i, i < (s.cache.log runId).length → s.db.runEvents.get? (runId, i) =
      some (py.jsonDumps ((s.cache.log runId)[i]?.getD .null)) := by
    intro i hi
    rw [hs.events runId i, List.getElem?_eq_getElem hi]
    rfl
  have hout : ∀ i, (s.cache.log runId).length ≤ i → s.db.runEvents.get? (runId, i) = none := by
    intro i hi
    rw [hs.events runId i, List.getElem?_eq_none hi]
    rfl
  rw [eventRows_eq hin hout]
  apply List.ext_getElem
  · simp
  · intro i h₁ h₂
    have hi : i < (s.cache.log runId).length := by simpa using h₁
    simp [List.getElem?_eq_getElem hi]

/-- What the file holds of a run: the texts of its events in order, and the row of its
record. -/
def FileHolds (py : PyLib) (s : SqliteRunStore) (runId : String) : Prop :=
  s.db.eventRows runId = (s.cache.log runId).map py.jsonDumps ∧
    (s.db.runs.get? runId).map .ok = (s.cache.get runId).map (SqliteRunStore.rowOf py)

/-- Threads start on a store whose file is a copy of its memory, and every section meets
`MirrorOk`. Then the file holds every run as the memory has it, once all calls have
returned. -/
theorem file_holds_memory_of_ordered_sections (py : PyLib) (s : SqliteRunStore)
    (hs : Copies py s) (m : MirrorThreads)
    (hrun : Reach (mirrorStep py) MirrorOk (MirrorThreads.start s) m) (hret : m.Returned)
    (runId : String) : FileHolds py m.store runId := by
  have hinv : MirrorInv py m :=
    Reach.invariant (fun _ l _ hm hok hstep => mirrorInv_step l hm hok hstep) hrun
      (mirrorInv_start hs)
  have hcopy := copies_of_returned hinv hret
  exact ⟨eventRows_of_copies hcopy runId, hcopy.runs runId⟩

/-- A library that writes the events `"a"` and `"b"` as different texts. -/
def twoTexts : PyLib := PyLib.reading [("a", .str "a"), ("b", .str "b")]

/-- Two appends and an update, interleaved. The second append comes after the first one has
read its position, and the row of the update is written last. -/
def orderedSections : List (Nat × MirrorMove) :=
  [(0, .call "r" (.appendEvent (.str "a")) 0), (0, .go),
   (1, .call "r" (.appendEvent (.str "b")) 1), (1, .go), (1, .go), (0, .go), (0, .go), (0, .go),
   (2, .call "r" (.upsert (Record.ofScalar "status" (.str "success"))) 2),
   (1, .go), (1, .go), (2, .go), (2, .go)]

/-- Both events and the status of the update are in the file. -/
theorem file_holds_memory_of_interleaved_calls :
    ∃ m, Reach (mirrorStep twoTexts) MirrorOk (MirrorThreads.start .fresh) m ∧ m.Returned ∧
      m.store.cache.log "r" = [.str "a", .str "b"] ∧ m.store.db.eventRows "r" = ["a", "b"] ∧
      FileHolds twoTexts m.store "r" := by
  have hexec : (exec (mirrorStep twoTexts) MirrorOk (MirrorThreads.start .fresh)
      orderedSections).map (fun m => (decide m.Returned, m.store.cache.log "r",
        m.store.db.eventRows "r")) = some (true, [.str "a", .str "b"], ["a", "b"]) := by
    decide +kernel
  obtain ⟨m, hrun, heq⟩ := exists_reach_of_exec hexec
  obtain ⟨hret, hlog, hrows⟩ := (Prod.mk.injEq ..).mp heq |>.imp_right (Prod.mk.injEq ..).mp
  have hret' : m.Returned := of_decide_eq_true hret
  exact ⟨m, hrun, hret', hlog, hrows,
    file_holds_memory_of_ordered_sections twoTexts .fresh (copies_fresh _) m hrun hret' "r"⟩

/-- Two appends that both put their event into memory before either reads its position. -/
def crossedAppends : List (Nat × MirrorMove) :=
  [(0, .call "r" (.appendEvent (.str "a")) 0), (1, .call "r" (.appendEvent (.str "b")) 1),
   (0, .go), (1, .go), (0, .go), (1, .go), (0, .go), (0, .go), (1, .go), (1, .go)]

/-- An update to `success` between the copy of the scalars and the row of an earlier
update. -/
def crossedUpdates : List (Nat × MirrorMove) :=
  [(0, .call "r" (.upsert (Record.ofScalar "status" (.str "running"))) 0), (0, .go),
   (1, .call "r" (.upsert (Record.ofScalar "status" (.str "success"))) 1), (1, .go), (1, .go),
   (0, .go)]

/-- The column `status` of a row. -/
def statusColumn : Except PyErr RunRow → Json
  | .ok row => row.status
  | .error _ => .null

/-- Two threads lose an event row, and two threads lose an update of the run row. -/
theorem file_loses_event_and_update :
    ¬ (∀ m, Reach (mirrorStep twoTexts) anyStep (MirrorThreads.start .fresh) m → m.Returned →
        m.store.db.eventRows "r" = (m.store.cache.log "r").map twoTexts.jsonDumps) ∧
      ¬ (∀ m, Reach (mirrorStep twoTexts) anyStep (MirrorThreads.start .fresh) m → m.Returned →
        (m.store.db.runs.get? "r").map .ok =
          (m.store.cache.get "r").map (SqliteRunStore.rowOf twoTexts)) := by
  constructor
  · intro hall
    have hexec : (exec (mirrorStep twoTexts) anyStep (MirrorThreads.start .fresh)
        crossedAppends).map (fun m => (decide m.Returned, m.store.db.eventRows "r",
          (m.store.cache.log "r").map twoTexts.jsonDumps)) = some (true, ["b"], ["a", "b"]) := by
      decide +kernel
    obtain ⟨m, hrun, heq⟩ := exists_reach_of_exec hexec
    obtain ⟨hret, hrows, hlog⟩ := (Prod.mk.injEq ..).mp heq |>.imp_right (Prod.mk.injEq ..).mp
    have h := hall m hrun (of_decide_eq_true hret)
    rw [hrows, hlog] at h
    exact absurd h (by decide)
  · intro hall
    have hexec : (exec (mirrorStep twoTexts) anyStep (MirrorThreads.start .fresh)
        crossedUpdates).map (fun m => (decide m.Returned,
          ((m.store.db.runs.get? "r").map .ok).map statusColumn,
          ((m.store.cache.get "r").map (SqliteRunStore.rowOf twoTexts)).map statusColumn)) =
        some (true, some (.str "running"), some (.str "success")) := by
      decide +kernel
    obtain ⟨m, hrun, heq⟩ := exists_reach_of_exec hexec
    obtain ⟨hret, hrow, hstatus⟩ := (Prod.mk.injEq ..).mp heq |>.imp_right (Prod.mk.injEq ..).mp
    rw [hall m hrun (of_decide_eq_true hret), hstatus] at hrow
    exact absurd hrow (by decide)

end AitpPlayground.Proofs.Runner
