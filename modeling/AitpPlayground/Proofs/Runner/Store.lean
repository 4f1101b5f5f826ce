import AitpPlayground.Runner.Store

/-!
# `AitpPlayground.Proofs.Runner.Store`: what each store method does to a run

A reader sees a run through its status and its event log. The lemmas here give both after
each method, and say that no method touches another run. Every later proof cites these and
does not open the store.
-/

set_option autoImplicit false

namespace AitpPlayground.Proofs.Runner

open AitpPlayground.Lib
open AitpPlayground.Runner

variable {ε : Type} (s : RunStore ε) (runId other : String) (record : Record ε) (event : ε)
  (now : ℚ) (q : Nat)

/-- A stamp touches only `created_at`. -/
theorem get?_stamped (existing update : Dict String Json) {key : String}
    (h : key ≠ "created_at") :
    (RunStore.stamped existing update now).get? key = update.get? key := by
  unfold RunStore.stamped
  split
  · exact Dict.get?_set_ne _ _ (Ne.symm h)
  · rfl

/-- The record a merge leaves. -/
theorem get_mergeLocked :
    (s.mergeLocked runId record now).get other =
      if runId = other then
        some { scalars := ((s.get runId).getD Record.empty).scalars.merge
                 (RunStore.stamped ((s.get runId).getD Record.empty).scalars record.scalars now)
               events := ((s.get runId).getD Record.empty).events ++ record.events }
      else s.get other :=
  Dict.get?_set _ _ _ _

/-- A field of the record of a run. -/
def recordField (key : String) : Option Json := (s.get runId).bind fun r => r.scalars.get? key

/-- A merge writes the fields of the update, and keeps the others. -/
theorem recordField_mergeLocked {key : String} (hkey : key ≠ "created_at") :
    recordField (s.mergeLocked runId record now) runId key =
      (record.scalars.get? key).or (recordField s runId key) := by
  unfold recordField
  rw [get_mergeLocked, if_pos rfl]
  simp only [Option.bind_some, Dict.get?_merge, get?_stamped now _ _ hkey]
  cases s.get runId with
  | none => simp [Record.empty]
  | some existing => rfl

/-- A merge writes the status of the update, when it has one. -/
@[simp] theorem status_mergeLocked :
    (s.mergeLocked runId record now).status runId = record.status.or (s.status runId) :=
  recordField_mergeLocked s runId record now (by decide)

/-- An append changes no field, apart from those of a new record. -/
theorem recordField_appendEvent {key : String} (hkey : key ∉ ["run_id", "status", "created_at"]) :
    recordField (s.appendEvent runId event now).1 runId key = recordField s runId key := by
  simp only [List.mem_cons, List.not_mem_nil, or_false, not_or] at hkey
  unfold recordField RunStore.appendEvent RunStore.get
  simp only [Dict.get?_set_self, Option.bind_some]
  cases s.runs.get? runId with
  | some existing => rfl
  | none =>
    show (Dict.ofList _).get? key = none
    rw [Dict.ofList, Dict.get?_setAll_of_ne]
    · rfl
    · simp [Ne.symm hkey.1, Ne.symm hkey.2.1, Ne.symm hkey.2.2]

/-- A call that does not write a field. -/
def Spares (key : String) : RunStore.Call ε → Prop
  | .upsert record | .upsertUnlessCancelled record => record.scalars.get? key = none
  | _ => True

/-- A call that spares a field leaves it as it was. -/
theorem recordField_call {key : String} (hkey : key ∉ ["run_id", "status", "created_at"])
    {c : RunStore.Call ε} (hc : Spares key c) :
    recordField (s.call runId now c).1 runId key = recordField s runId key := by
  have hmerge : ∀ record : Record ε, record.scalars.get? key = none →
      recordField (s.mergeLocked runId record now) runId key = recordField s runId key := by
    intro record hrecord
    rw [recordField_mergeLocked _ _ _ _ fun h => hkey (by simp [h]), hrecord]
    rfl
  cases c with
  | get => rfl
  | upsert record => exact hmerge record hc
  | upsertUnlessCancelled record =>
    show recordField (s.upsertUnlessCancelled runId record now).1 runId key = _
    unfold RunStore.upsertUnlessCancelled
    split
    · rfl
    · exact hmerge record hc
  | appendEvent event => exact recordField_appendEvent s runId event now hkey

/-- A merge appends the events of the update. -/
@[simp] theorem log_mergeLocked :
    (s.mergeLocked runId record now).log runId = s.log runId ++ record.events := by
  unfold RunStore.log
  rw [get_mergeLocked, if_pos rfl]
  cases s.get runId with
  | none => simp [Record.empty]
  | some existing => rfl

/-- After an append the run has a status: its own, or `running` for a new record. -/
@[simp] theorem status_appendEvent :
    (s.appendEvent runId event now).1.status runId =
      ((s.get runId).getD (RunStore.freshRecord runId now)).status := by
  unfold RunStore.status RunStore.appendEvent RunStore.get
  simp only [Dict.get?_set_self, Option.bind_some]
  rfl

/-- An append puts the event at the end of the log. -/
@[simp] theorem log_appendEvent :
    (s.appendEvent runId event now).1.log runId = s.log runId ++ [event] := by
  unfold RunStore.log RunStore.appendEvent RunStore.get
  simp only [Dict.get?_set_self, Option.map_some, Option.getD_some]
  cases s.runs.get? runId with
  | none => rfl
  | some existing => rfl

/-- An append to a run that has a record keeps its status. -/
theorem status_appendEvent_of_status {value : Json} (h : s.status runId = some value) :
    (s.appendEvent runId event now).1.status runId = some value := by
  rw [status_appendEvent]
  unfold RunStore.status at h
  cases hget : s.get runId with
  | none => rw [hget] at h; cases h
  | some existing => rw [hget] at h; exact h

/-- A merge leaves every other run alone. -/
theorem get_mergeLocked_ne (h : runId ≠ other) :
    (s.mergeLocked runId record now).get other = s.get other := by
  rw [get_mergeLocked, if_neg h]

/-- An append leaves every other run alone. -/
theorem get_appendEvent_ne (h : runId ≠ other) :
    (s.appendEvent runId event now).1.get other = s.get other :=
  Dict.get?_set_ne _ _ h

/-- A merge appends the events of the update to its run, and to no other. -/
theorem log_mergeLocked_other :
    (s.mergeLocked runId record now).log other =
      s.log other ++ (if runId = other then record.events else []) := by
  by_cases h : runId = other
  · subst h
    simp
  · unfold RunStore.log
    rw [get_mergeLocked_ne _ _ _ _ _ h]
    simp [h]

/-- An append extends the log of its run, and no other. -/
theorem log_appendEvent_other :
    (s.appendEvent runId event now).1.log other =
      s.log other ++ (if runId = other then [event] else []) := by
  by_cases h : runId = other
  · subst h
    simp
  · unfold RunStore.log
    rw [get_appendEvent_ne _ _ _ _ _ h]
    simp [h]

/-- A call that carries no events in an update. Every caller in the program makes such
calls only. -/
def PlainCall : RunStore.Call ε → Prop
  | .upsert record | .upsertUnlessCancelled record => record.events = []
  | _ => True

/-- The events a plain call adds to the log of its run. -/
def addedBy : RunStore.Call ε → List ε
  | .appendEvent event => [event]
  | _ => []

/-- A plain call extends the log of its run by the event it appends, and no other log. -/
theorem log_call {c : RunStore.Call ε} (hc : PlainCall c) :
    (s.call runId now c).1.log other =
      s.log other ++ (if runId = other then addedBy c else []) := by
  cases c with
  | get => simp [RunStore.call, addedBy]
  | upsert record =>
    have hev : record.events = [] := hc
    simp [RunStore.call, RunStore.upsert, log_mergeLocked_other, addedBy, hev]
  | upsertUnlessCancelled record =>
    have hev : record.events = [] := hc
    show (s.upsertUnlessCancelled runId record now).1.log other = _
    unfold RunStore.upsertUnlessCancelled
    split <;> simp [log_mergeLocked_other, addedBy, hev]
  | appendEvent event => exact log_appendEvent_other s runId other event now

/-- No call touches the subscribers. -/
@[simp] theorem subscribersOf_call (c : RunStore.Call ε) :
    (s.call runId now c).1.subscribersOf other = s.subscribersOf other := by
  cases c with
  | upsertUnlessCancelled record =>
    show (s.upsertUnlessCancelled runId record now).1.subscribersOf other = _
    unfold RunStore.upsertUnlessCancelled
    split <;> rfl
  | _ => rfl

/-- A subscription adds its queue to its run. -/
theorem subscribersOf_subscribe :
    (s.subscribe runId q).1.subscribersOf other =
      s.subscribersOf other ++ (if runId = other then [q] else []) := by
  show ((s.subscribers.set runId (s.subscribersOf runId ++ [q])).get? other).getD [] = _
  rw [Dict.get?_set]
  by_cases h : runId = other
  · subst h
    simp
  · simp only [if_neg h, List.append_nil]
    rfl

/-- The end of a subscription takes the queue out. -/
theorem subscribersOf_unsubscribe :
    (s.unsubscribe runId q).subscribersOf other =
      if runId = other then (s.subscribersOf other).filter fun q' => decide (q' ≠ q)
      else s.subscribersOf other := by
  show ((s.subscribers.set runId _).get? other).getD [] = _
  rw [Dict.get?_set]
  by_cases h : runId = other
  · subst h
    simp
  · simp only [if_neg h]
    rfl

end AitpPlayground.Proofs.Runner
