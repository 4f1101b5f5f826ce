import AitpPlayground.Api.Runs
import AitpPlayground.Proofs.Runner.Store

/-!
# `AitpPlayground.Proofs.Api.Cancellation`: one outcome per run

A run ends once: with `success` and `run.complete`, with `failed` and `run.failed`, or with
`cancelled` and `run.cancelled`. Two guards are atomic in the source, the claim of the run
and the write of `success`. The others are a test followed by a write, and another thread
can move between the two. `StepOk` says that none of them acts on a stale test:

* `cancel_run` writes `cancelled` while the status is not terminal and no terminal event is
  in the log;
* the engine appends `run.failed` and writes `failed` while the status is not `cancelled`.

`Phase` is the invariant of the runs that meet it. It names the four shapes of a run (open,
cancelled, success, failed) and, in each, what the log holds and where the engine can be.
`phase_step` preserves it move by move, and `run_outcome_agrees` reads the three promises
off it. `cancel_overwritten` is a run that breaks all three.
-/

set_option autoImplicit false

namespace AitpPlayground.Proofs.Api

open AitpPlayground.Lib
open AitpPlayground.Runner
open AitpPlayground.Api
open AitpPlayground.Proofs.Runner

/-! ### Events -/

/-- The type of a dumped event. -/
@[simp] theorem eventType_modelDump (e : RunEvent) : eventType e.modelDump = some e.type := by
  have hkeys : (("type", Json.str e.type) :: ("ts", .num (.float (.fin e.ts))) ::
      runEventFields.map fun f => (f, (e.fields.get? f).getD .null)).map Prod.fst
        = "type" :: "ts" :: runEventFields := by
    simp [Function.comp_def]
  have hnodup : ("type" :: "ts" :: runEventFields).Nodup := by decide +kernel
  unfold eventType RunEvent.modelDump
  rw [Dict.get?_ofList (by rw [hkeys]; exact hnodup)]
  rfl

/-- The type of an emitted event. -/
@[simp] theorem eventType_emitted (e : RunEvent) (runId : String) :
    eventType (e.emitted runId) = some e.type := by
  unfold RunEvent.emitted
  split <;> exact eventType_modelDump _

/-- The event of a failure is terminal. -/
@[simp] theorem terminalType_failedEvent (args : RunArgs) (code : Option String) (error : String)
    (ts : ℚ) : terminalType (failedEvent args code error ts) = some "run.failed" := by
  unfold terminalType failedEvent
  rw [eventType_emitted]
  rfl

/-- That of the start is not. -/
@[simp] theorem terminalType_startedEvent (args : RunArgs) (ts : ℚ) :
    terminalType (startedEvent args ts) = none := by
  unfold terminalType startedEvent
  rw [eventType_emitted]
  rfl

/-- That of a success is terminal. -/
@[simp] theorem terminalType_completeEvent (args : RunArgs) (ts : ℚ) :
    terminalType (completeEvent args ts) = some "run.complete" := by
  unfold terminalType completeEvent
  rw [eventType_emitted]
  rfl

/-- The event of a cancel is terminal. -/
@[simp] theorem terminalType_cancelledEvent (runId : String) (ts : ℚ) :
    terminalType (cancelledEvent runId ts) = some "run.cancelled" := by
  unfold terminalType cancelledEvent
  rw [eventType_modelDump]
  rfl

/-- No event of the launch phase or of a workflow step is terminal. -/
theorem terminalType_body {event : RunEvent} (h : event.type ∈ bodyEventTypes)
    (runId : String) : terminalType (event.emitted runId) = none := by
  have hdisjoint : ∀ t ∈ bodyEventTypes, t ∉ terminalTypes := by decide +kernel
  unfold terminalType
  rw [eventType_emitted]
  simp [hdisjoint _ h]

/-- One more event in the log. -/
theorem terminalEvents_append (log : List Event) (e : Event) :
    terminalEvents (log ++ [e]) = terminalEvents log ++ (terminalType e).toList := by
  unfold terminalEvents
  rw [List.filterMap_append]
  cases h : terminalType e <;> simp [h]

/-! ### The store as the run sees it -/

/-- An append never makes a status terminal, and keeps one that is. -/
theorem isTerminal_appendEvent (s : RunStore Event) (runId : String) (e : Event) (now : ℚ)
    (h : isTerminal (s.status runId) = false) :
    isTerminal ((s.appendEvent runId e now).1.status runId) = false := by
  cases hst : s.status runId with
  | some value =>
    rw [status_appendEvent_of_status s runId e now hst, ← hst]
    exact h
  | none =>
    rw [status_appendEvent]
    cases hget : s.get runId with
    | none =>
      simp only [Option.getD_none]
      rfl
    | some r =>
      have hr : r.status = none := by
        rw [RunStore.status, hget] at hst
        exact hst
      simp [hr, isTerminal]

/-- The test of `_is_cancelled` reads the status. -/
theorem readsCancelled_get (s : RunStore Event) (runId : String) :
    readsCancelled (.record (s.get runId)) = decide (s.status runId = some (.str "cancelled")) := by
  unfold readsCancelled RunStore.status
  cases s.get runId <;> simp

/-- The record of the start says `running`. -/
@[simp] theorem status_startRecord (args : RunArgs) :
    (startRecord args).status = some (.str "running") := by
  unfold startRecord Record.status
  rw [Dict.get?_ofList (by simp)]
  rfl

/-- That of a success says so. -/
@[simp] theorem status_successRecord (args : RunArgs) (outputs : Json) :
    (successRecord args outputs).status = some (.str "success") := by
  unfold successRecord Record.status
  rw [Dict.get?_ofList (by simp)]
  rfl

/-- The record of a failure says so. -/
@[simp] theorem status_failureRecord (args : RunArgs) (error : String) :
    (failureRecord args error).status = some (.str "failed") := by
  unfold failureRecord Record.status
  rw [Dict.get?_ofList (by simp)]
  rfl

/-- A record of the status alone. -/
@[simp] theorem status_ofScalar_status {ε : Type} (value : Json) :
    (Record.ofScalar "status" value : Record ε).status = some value := rfl

/-- A record of the webhook alone has no status. -/
@[simp] theorem status_ofScalar_webhook {ε : Type} (value : Json) :
    (Record.ofScalar "cp_webhook" value : Record ε).status = none := rfl

/-! ### The invariant -/

/-- The request wrote `cancelled`. -/
def wrote : CancelPc → Bool
  | .append | .kill | .returned true => true
  | _ => false

/-- Where the engine of an open run can be, and the terminal events it has left. -/
def OpenAt : EnginePc → List String → Prop
  | .finalize _, events | .writeFailed _, events => events = ["run.failed"]
  | .emitComplete, _ | .ingest _, _ | .returned _, _ => False
  | _, events => events = []

/-- The four shapes of a run with its terminal events. -/
inductive Phase (runId : String) (s : RunSystem) : Prop where
  /-- Nothing decided: a `run.failed` is in the log only when its status is next. -/
  | opened (status : isTerminal (s.store.status runId) = false)
      (cancels : ∀ i, wrote (s.cancels i) = false)
      (engine : OpenAt s.engine (terminalEvents (s.store.log runId)))
  /-- One request wrote `cancelled`. Its event is in the log, or it is the one request
  that is about to append it. -/
  | cancelled (status : s.store.status runId = some (.str "cancelled"))
      (events : (∃ i, s.cancels i = .append ∧ (∀ j, s.cancels j = .append → j = i) ∧
          terminalEvents (s.store.log runId) = []) ∨
        ((∀ i, s.cancels i ≠ .append) ∧
          terminalEvents (s.store.log runId) = ["run.cancelled"]))
      (engine : s.engine ≠ .emitComplete)
  | success (status : s.store.status runId = some (.str "success"))
      (cancels : ∀ i, wrote (s.cancels i) = false)
      (engine : (s.engine = .emitComplete ∧ terminalEvents (s.store.log runId) = []) ∨
        ((s.engine = .ingest "success" ∨ s.engine = .returned "success") ∧
          terminalEvents (s.store.log runId) = ["run.complete"]))
  | failed (status : s.store.status runId = some (.str "failed"))
      (cancels : ∀ i, wrote (s.cancels i) = false)
      (engine : s.engine = .returned "failed")
      (events : terminalEvents (s.store.log runId) = ["run.failed"])

/-- The two control points that write a failure. -/
def writesFailure : EnginePc → Bool
  | .emitFailed _ _ | .writeFailed _ => true
  | _ => false

/-- The step does not act on a stale test. -/
def StepOk (runId : String) (s : RunSystem) (l : RunLabel × ℚ) : Prop :=
  match l.1 with
  | .engine _ =>
    writesFailure s.engine = true → s.store.status runId ≠ some (.str "cancelled")
  | .cancel i _ =>
    s.cancels i = .write →
      isTerminal (s.store.status runId) = false ∧ terminalEvents (s.store.log runId) = []

instance (runId : String) (s : RunSystem) : (l : RunLabel × ℚ) → Decidable (StepOk runId s l)
  | (.engine _, _) => inferInstanceAs (Decidable (writesFailure s.engine = true →
      s.store.status runId ≠ some (.str "cancelled")))
  | (.cancel i _, _) => inferInstanceAs (Decidable (s.cancels i = .write →
      isTerminal (s.store.status runId) = false ∧ terminalEvents (s.store.log runId) = []))

/-! ### What a move of the engine can do -/

/-- The control points before the outcome: the log holds no terminal event of the engine. -/
def early : EnginePc → Bool
  | .finalize _ | .writeFailed _ | .emitComplete | .ingest _ | .returned _ => false
  | _ => true

/-- The moves of the engine, by their effect on the store. -/
inductive EngineMoved (args : RunArgs) (now : ℚ) (s : RunStore Event) :
    EnginePc → RunStore Event → EnginePc → Prop where
  /-- The run is claimed. -/
  | claim (open_ : s.status args.runId ≠ some (.str "cancelled")) :
      EngineMoved args now s .start (s.mergeLocked args.runId (startRecord args) now) .load
  /-- A move that leaves the store alone, before the outcome. -/
  | quiet {pc pc' : EnginePc} (h : early pc) (h' : early pc') : EngineMoved args now s pc s pc'
  /-- A test found the run cancelled. -/
  | sawCancelled {pc pc' : EnginePc} (h : s.status args.runId = some (.str "cancelled"))
      (h' : pc' ≠ .emitComplete) : EngineMoved args now s pc s pc'
  /-- An event that ends nothing. -/
  | note {pc pc' : EnginePc} {e : Event} (h : early pc) (h' : early pc')
      (event : terminalType e = none) :
      EngineMoved args now s pc (s.appendEvent args.runId e now).1 pc'
  /-- An update without a status and without events. -/
  | update {record : Record Event} (status : record.status = none)
      (events : record.events = []) :
      EngineMoved args now s .body (s.mergeLocked args.runId record now) .body
  | fail {code : Option String} {error : String} :
      EngineMoved args now s (.emitFailed code error)
        (s.appendEvent args.runId (failedEvent args code error now) now).1 (.finalize error)
  | finalizeOpen {error : String} (h : s.status args.runId ≠ some (.str "cancelled")) :
      EngineMoved args now s (.finalize error) s (.writeFailed error)
  | writeFailed {error : String} :
      EngineMoved args now s (.writeFailed error)
        (s.mergeLocked args.runId (failureRecord args error) now) (.returned "failed")
  | succeed {outputs : Json} (h : s.status args.runId ≠ some (.str "cancelled")) :
      EngineMoved args now s (.succeed outputs)
        (s.mergeLocked args.runId (successRecord args outputs) now) .emitComplete
  | complete :
      EngineMoved args now s .emitComplete
        (s.appendEvent args.runId (completeEvent args now) now).1 (.ingest "success")
  | ingest {status : String} : EngineMoved args now s (.ingest status) s (.returned status)

/-- The two atomic writes. On a run that is cancelled nothing is written. -/
theorem engineMoved_of_write {args : RunArgs} {now : ℚ} {s : RunStore Event}
    {pc pc₁ pc₂ : EnginePc} {record : Record Event} (h₂ : pc₂ ≠ .emitComplete)
    (hopen : s.status args.runId ≠ some (.str "cancelled") →
      EngineMoved args now s pc (s.mergeLocked args.runId record now) pc₁)
    {m : Move EnginePc} (hm : m = ⟨some (.upsertUnlessCancelled record),
      fun reply => if wasWritten reply then pc₁ else pc₂⟩) :
    EngineMoved args now s pc (m.run s args.runId now).1 (m.run s args.runId now).2.1 := by
  subst hm
  by_cases hc : s.status args.runId = some (.str "cancelled")
  · have hrun : Move.run ⟨some (.upsertUnlessCancelled record),
        fun reply => if wasWritten reply then pc₁ else pc₂⟩ s args.runId now = (s, pc₂, []) := by
      simp [Move.run, RunStore.call, RunStore.upsertUnlessCancelled, wasWritten, hc]
    rw [hrun]
    exact .sawCancelled hc h₂
  · have hrun : Move.run ⟨some (.upsertUnlessCancelled record),
        fun reply => if wasWritten reply then pc₁ else pc₂⟩ s args.runId now =
          (s.mergeLocked args.runId record now, pc₁, []) := by
      simp [Move.run, RunStore.call, RunStore.upsertUnlessCancelled, wasWritten, hc]
    rw [hrun]
    exact hopen hc

/-- A test of the record before the outcome: it finds the run cancelled, or goes on. -/
theorem engineMoved_of_test {args : RunArgs} {now : ℚ} {s : RunStore Event}
    {pc pc₁ pc₂ : EnginePc} (h : early pc) (h₁ : pc₁ ≠ .emitComplete) (h₂ : early pc₂) :
    EngineMoved args now s pc s
      (if readsCancelled (.record (s.get args.runId)) then pc₁ else pc₂) := by
  rw [readsCancelled_get]
  split
  case isTrue hc => exact .sawCancelled (of_decide_eq_true hc) h₁
  case isFalse => exact .quiet h h₂

/-- Every move of the engine is one of `EngineMoved`. -/
theorem engineMoved_of_move {args : RunArgs} {now : ℚ} {s : RunStore Event} {pc : EnginePc}
    {choice : EngineChoice} {m : Move EnginePc} (hm : pc.move args now choice = some m) :
    EngineMoved args now s pc (m.run s args.runId now).1 (m.run s args.runId now).2.1 := by
  -- One case for each control point. A choice that the point does not have gives no move.
  cases pc with
  | start =>
    cases choice with
    | go => exact engineMoved_of_write (by simp) .claim (Option.some.inj hm).symm
    | _ => cases hm
  | load =>
    cases choice with
    | refuse | escape | pass =>
      cases hm
      exact .quiet rfl rfl
    | _ => cases hm
  | refused code error =>
    cases choice with
    | go =>
      cases hm
      exact engineMoved_of_test rfl (by simp) rfl
    | _ => cases hm
  | emitFailed code error =>
    cases choice with
    | go =>
      cases hm
      exact .fail
    | _ => cases hm
  | checkStart =>
    cases choice with
    | go =>
      cases hm
      exact engineMoved_of_test rfl (by simp) rfl
    | _ => cases hm
  | emitStarted =>
    cases choice with
    | go =>
      cases hm
      exact .note rfl rfl (terminalType_startedEvent args now)
    | _ => cases hm
  | validate =>
    cases choice with
    | pass | invalid | escape =>
      cases hm
      exact .quiet rfl rfl
    | _ => cases hm
  | body =>
    cases choice with
    | emit event =>
      simp only [EnginePc.move] at hm
      split at hm
      · rename_i hbody
        cases hm
        exact .note rfl rfl (terminalType_body hbody _)
      · cases hm
    | webhook value =>
      cases hm
      exact .update rfl rfl
    | launch =>
      -- The spawn loop raises when it finds the run cancelled.
      cases hm
      exact engineMoved_of_test rfl (by simp) rfl
    | read | fail | escape | finish =>
      cases hm
      exact .quiet rfl rfl
    | _ => cases hm
  | handler code error =>
    cases choice with
    | go =>
      cases hm
      exact engineMoved_of_test rfl (by simp) rfl
    | _ => cases hm
  | finalize error =>
    cases choice with
    | go =>
      -- `_finalize_failure` reads the record a second time.
      cases hm
      show EngineMoved args now s _ s
        (if readsCancelled (.record (s.get args.runId)) then .returned "cancelled"
          else .writeFailed error)
      rw [readsCancelled_get]
      split
      case isTrue hc => exact .sawCancelled (of_decide_eq_true hc) (by simp)
      case isFalse hc => exact .finalizeOpen (by simpa using hc)
    | _ => cases hm
  | writeFailed error =>
    cases choice with
    | go =>
      cases hm
      exact .writeFailed
    | _ => cases hm
  | succeed outputs =>
    cases choice with
    | go => exact engineMoved_of_write (by simp) .succeed (Option.some.inj hm).symm
    | _ => cases hm
  | emitComplete =>
    cases choice with
    | go =>
      cases hm
      exact .complete
    | _ => cases hm
  | ingest status =>
    cases choice with
    | go =>
      cases hm
      exact .ingest
    | _ => cases hm
  | returned status => cases hm
  | raised => cases hm

/-! ### Each move keeps the invariant -/

/-- Before the outcome, an open run has no terminal event. -/
theorem openAt_early {pc : EnginePc} (h : early pc) (events : List String) :
    OpenAt pc events ↔ events = [] := by
  cases pc <;> first | exact Iff.rfl | cases h

/-- A move of the engine in an open run. -/
theorem phase_engine_opened {args : RunArgs} {now : ℚ} {store store' : RunStore Event}
    {pc pc' : EnginePc} {cancels : Nat → CancelPc}
    (hst : isTerminal (store.status args.runId) = false)
    (hno : ∀ i, wrote (cancels i) = false)
    (hpc : OpenAt pc (terminalEvents (store.log args.runId)))
    (hmove : EngineMoved args now store pc store' pc') :
    Phase args.runId ⟨store', pc', cancels⟩ := by
  cases hmove with
  | claim =>
    refine .opened ?_ hno ?_
    · simp [terminalStatuses, isTerminal]
    · simpa [OpenAt, startRecord] using hpc
  | quiet h h' =>
    refine .opened hst hno ?_
    rw [openAt_early h']
    exact (openAt_early h _).mp hpc
  | sawCancelled h =>
    -- An open run is not cancelled.
    rw [h] at hst
    cases hst
  | note h h' event =>
    refine .opened (isTerminal_appendEvent _ _ _ _ hst) hno ?_
    rw [openAt_early h'] at *
    rw [openAt_early h] at hpc
    simp [terminalEvents_append, event, hpc]
  | update status events =>
    refine .opened ?_ hno ?_
    · simpa [status] using hst
    · simpa [events] using hpc
  | fail =>
    refine .opened (isTerminal_appendEvent _ _ _ _ hst) hno ?_
    have hnone : terminalEvents (store.log args.runId) = [] := hpc
    simp [OpenAt, terminalEvents_append, hnone]
  | finalizeOpen => exact .opened hst hno hpc
  | writeFailed =>
    refine .failed (by simp) hno rfl ?_
    have hfailed : terminalEvents (store.log args.runId) = ["run.failed"] := hpc
    simpa [failureRecord] using hfailed
  | succeed =>
    refine .success (by simp) hno (.inl ⟨rfl, ?_⟩)
    have hnone : terminalEvents (store.log args.runId) = [] := hpc
    simpa [successRecord] using hnone
  | complete => exact absurd hpc id
  | ingest => exact absurd hpc id

/-- A move of the engine keeps a cancelled run cancelled, with its terminal events, when it
is not one of the two writes on a stale test. -/
theorem engine_of_cancelled {args : RunArgs} {now : ℚ} {store store' : RunStore Event}
    {pc pc' : EnginePc} (hst : store.status args.runId = some (.str "cancelled"))
    (hpc : pc ≠ .emitComplete) (hfail : ∀ code error, pc ≠ .emitFailed code error)
    (hwrite : ∀ error, pc ≠ .writeFailed error)
    (hmove : EngineMoved args now store pc store' pc') :
    store'.status args.runId = some (.str "cancelled") ∧
      terminalEvents (store'.log args.runId) = terminalEvents (store.log args.runId) ∧
      pc' ≠ .emitComplete := by
  -- The moves of the engine, by what they do to the record.
  cases hmove with
  | claim h => exact absurd hst h
  | quiet h h' =>
    refine ⟨hst, rfl, ?_⟩
    rintro rfl
    cases h'
  | sawCancelled h h' => exact ⟨hst, rfl, h'⟩
  | note h h' event =>
    refine ⟨status_appendEvent_of_status _ _ _ _ hst, ?_, ?_⟩
    · simp [terminalEvents_append, event]
    · rintro rfl
      cases h'
  | update status events => exact ⟨by simp [status, hst], by simp [events], by simp⟩
  | fail => exact absurd rfl (hfail _ _)
  | finalizeOpen h => exact absurd hst h
  | writeFailed => exact absurd rfl (hwrite _)
  | succeed h => exact absurd hst h
  | complete => exact absurd rfl hpc
  | ingest => exact ⟨hst, rfl, by simp⟩

/-- A move of the engine after the write of `success`: the event, then the return. -/
theorem engine_of_success {args : RunArgs} {now : ℚ} {store store' : RunStore Event}
    {pc pc' : EnginePc} (hst : store.status args.runId = some (.str "success"))
    (hpc : (pc = .emitComplete ∧ terminalEvents (store.log args.runId) = []) ∨
      ((pc = .ingest "success" ∨ pc = .returned "success") ∧
        terminalEvents (store.log args.runId) = ["run.complete"]))
    (hmove : EngineMoved args now store pc store' pc') :
    store'.status args.runId = some (.str "success") ∧
      (pc' = .ingest "success" ∨ pc' = .returned "success") ∧
      terminalEvents (store'.log args.runId) = ["run.complete"] := by
  have hnot : store.status args.runId ≠ some (.str "cancelled") := by simp [hst]
  -- The last event is still to be written, or the engine only returns.
  rcases hpc with ⟨rfl, hev⟩ | ⟨rfl | rfl, hev⟩
  · cases hmove with
    | quiet h => cases h
    | sawCancelled h => exact absurd h hnot
    | note h => cases h
    | complete =>
      refine ⟨status_appendEvent_of_status _ _ _ _ hst, .inl rfl, ?_⟩
      simp [terminalEvents_append, hev]
  · cases hmove with
    | quiet h => cases h
    | sawCancelled h => exact absurd h hnot
    | note h => cases h
    | ingest => exact ⟨hst, .inr rfl, hev⟩
  · cases hmove with
    | quiet h => cases h
    | sawCancelled h => exact absurd h hnot
    | note h => cases h

/-- `StepOk` keeps a cancelled run from the two writes on a stale test. -/
theorem stepOk_of_cancelled {runId : String} {s : RunSystem} {choice : EngineChoice} {now : ℚ}
    (hok : StepOk runId s (.engine choice, now))
    (hst : s.store.status runId = some (.str "cancelled")) :
    (∀ code error, s.engine ≠ .emitFailed code error) ∧ ∀ error, s.engine ≠ .writeFailed error := by
  have hquiet : writesFailure s.engine = true → False := fun h => hok h hst
  constructor
  · intro code error hpc
    exact hquiet (by rw [hpc]; rfl)
  · intro error hpc
    exact hquiet (by rw [hpc]; rfl)

/-- A move of the engine keeps the invariant. -/
theorem phase_engine {args : RunArgs} {s s' : RunSystem} {choice : EngineChoice} {now : ℚ}
    (hp : Phase args.runId s) (hok : StepOk args.runId s (.engine choice, now))
    (hstep : runStep args s (.engine choice, now) = some s') : Phase args.runId s' := by
  obtain ⟨m, hm, rfl⟩ := Option.map_eq_some_iff.mp hstep
  have hmove : EngineMoved args now s.store s.engine _ _ := engineMoved_of_move hm
  obtain ⟨store, pc, cancels⟩ := s
  cases hp with
  | opened hst hno hpc => exact phase_engine_opened hst hno hpc hmove
  | cancelled hst hev hpc =>
    obtain ⟨hfail, hwrite⟩ := stepOk_of_cancelled hok hst
    obtain ⟨hst', hev', hpc'⟩ := engine_of_cancelled hst hpc hfail hwrite hmove
    refine .cancelled hst' ?_ hpc'
    rw [hev']
    exact hev
  | success hst hno hpc =>
    obtain ⟨hst', hpc', hev'⟩ := engine_of_success hst hpc hmove
    exact .success hst' hno (.inr ⟨hpc', hev'⟩)
  | failed hst hno hpc hev =>
    -- The engine has returned and makes no move.
    have hpc' : pc = .returned "failed" := hpc
    subst hpc'
    cases hm

/-! ### The requests -/

/-- A move of a request outside a cancelled run writes nothing, unless it is the write of
`cancelled`. -/
theorem cancel_of_unwritten {runId : String} {now : ℚ} {kills : Bool} (store : RunStore Event)
    {pc : CancelPc} {m : Move CancelPc} (hm : pc.move runId now kills = some m)
    (hwrote : wrote pc = false) (hpc : pc ≠ .write) :
    (m.run store runId now).1 = store ∧ wrote (m.run store runId now).2.1 = false := by
  cases pc with
  | idle =>
    cases hm
    refine ⟨rfl, ?_⟩
    show wrote (CancelPc.afterGet (.record (store.get runId))) = false
    cases store.get runId with
    | none => rfl
    | some r =>
      simp only [CancelPc.afterGet]
      split <;> rfl
  | write => exact absurd rfl hpc
  | append => cases hwrote
  | kill => cases hwrote
  | returned b => cases hm
  | raised => cases hm

/-- A move of a request other than the write of `cancelled` keeps the status of a run that
has one. -/
theorem status_cancel {runId : String} {now : ℚ} {kills : Bool} {store : RunStore Event}
    {pc : CancelPc} {m : Move CancelPc} (hm : pc.move runId now kills = some m)
    (hpc : pc ≠ .write) {value : Json} (hst : store.status runId = some value) :
    (m.run store runId now).1.status runId = some value := by
  cases pc with
  | idle => cases hm; exact hst
  | write => exact absurd rfl hpc
  | append => cases hm; exact status_appendEvent_of_status _ _ _ _ hst
  | kill => cases hm; exact hst
  | returned b => cases hm
  | raised => cases hm

/-- The requests after the move of one that has not written. -/
theorem wrote_update {cancels : Nat → CancelPc} {i : Nat} {pc : CancelPc}
    (hno : ∀ j, wrote (cancels j) = false) (hpc : wrote pc = false) :
    ∀ j, wrote (Function.update cancels i pc j) = false := by
  intro j
  by_cases h : j = i
  · subst h
    simpa using hpc
  · simpa [h] using hno j

/-- The write of `cancelled` on a run that is open with no terminal event. -/
theorem phase_cancel_write {runId : String} {now : ℚ} {store : RunStore Event} {pc : EnginePc}
    {cancels : Nat → CancelPc} {i : Nat} (hno : ∀ j, wrote (cancels j) = false)
    (hev : terminalEvents (store.log runId) = []) (hpc : pc ≠ .emitComplete) :
    Phase runId ⟨store.upsert runId (Record.ofScalar "status" (.str "cancelled")) now, pc,
      Function.update cancels i .append⟩ := by
  refine .cancelled (by simp [RunStore.upsert]) (.inl ⟨i, by simp, ?_, ?_⟩) hpc
  · -- No other request has written, so no other one is about to append.
    intro j hj
    by_contra hne
    have hj' : cancels j = .append := by simpa [hne] using hj
    have hfalse := hno j
    rw [hj'] at hfalse
    cases hfalse
  · simpa [RunStore.upsert, Record.ofScalar] using hev

/-- A move of a request in a cancelled run. -/
theorem phase_cancel_cancelled {runId : String} {now : ℚ} {kills : Bool}
    {store : RunStore Event} {pc : EnginePc} {cancels : Nat → CancelPc} {i : Nat}
    {m : Move CancelPc} (hst : store.status runId = some (.str "cancelled"))
    (hev : (∃ i, cancels i = .append ∧ (∀ j, cancels j = .append → j = i) ∧
        terminalEvents (store.log runId) = []) ∨
      ((∀ i, cancels i ≠ .append) ∧ terminalEvents (store.log runId) = ["run.cancelled"]))
    (hpc : pc ≠ .emitComplete) (hm : (cancels i).move runId now kills = some m)
    (hwrite : cancels i ≠ .write) :
    Phase runId ⟨(m.run store runId now).1, pc,
      Function.update cancels i (m.run store runId now).2.1⟩ := by
  -- A move to a point other than `append` of a request that is not at `append`.
  have hkeep : ∀ next : CancelPc, cancels i ≠ .append → next ≠ .append →
      Phase runId ⟨store, pc, Function.update cancels i next⟩ := by
    intro next hi hnext
    refine .cancelled hst ?_ hpc
    have hiff : ∀ j, Function.update cancels i next j = .append ↔ cancels j = .append := by
      intro j
      by_cases h : j = i
      · subst h
        simp [hi, hnext]
      · simp [h]
    rcases hev with ⟨k, hk, huniq, hlog⟩ | ⟨hnone, hlog⟩
    · exact .inl ⟨k, (hiff k).mpr hk, fun j hj => huniq j ((hiff j).mp hj), hlog⟩
    · exact .inr ⟨fun j hj => hnone j ((hiff j).mp hj), hlog⟩
  cases hi : cancels i with
  | idle =>
    rw [hi] at hm
    cases hm
    refine hkeep _ (by simp [hi]) ?_
    show CancelPc.afterGet (.record (store.get runId)) ≠ .append
    cases store.get runId with
    | none => simp [CancelPc.afterGet]
    | some r =>
      simp only [CancelPc.afterGet]
      split <;> simp
  | write => exact absurd hi hwrite
  | append =>
    -- The request is the one that `hev` names, and its event is the first terminal one.
    rw [hi] at hm
    cases hm
    rcases hev with ⟨k, -, huniq, hlog⟩ | ⟨hnone, -⟩
    · refine .cancelled (status_appendEvent_of_status _ _ _ _ hst) (.inr ⟨?_, ?_⟩) hpc
      · intro j hj
        by_cases h : j = i
        · subst h
          simp [Move.run] at hj
        · have hj' : cancels j = .append := by simpa [h] using hj
          exact h ((huniq j hj').trans (huniq i hi).symm)
      · show terminalEvents ((store.appendEvent runId (cancelledEvent runId now) now).1.log runId)
          = ["run.cancelled"]
        simp [terminalEvents_append, hlog]
    · exact absurd hi (hnone i)
  | kill =>
    rw [hi] at hm
    cases hm
    refine hkeep _ (by simp [hi]) ?_
    show (if kills then CancelPc.returned true else .raised) ≠ .append
    split <;> simp
  | returned b => rw [hi] at hm; cases hm
  | raised => rw [hi] at hm; cases hm

/-- A move of a request keeps the invariant. -/
theorem phase_cancel {args : RunArgs} {s s' : RunSystem} {i : Nat} {kills : Bool} {now : ℚ}
    (hp : Phase args.runId s) (hok : StepOk args.runId s (.cancel i kills, now))
    (hstep : runStep args s (.cancel i kills, now) = some s') : Phase args.runId s' := by
  obtain ⟨m, hm, rfl⟩ := Option.map_eq_some_iff.mp hstep
  obtain ⟨store, pc, cancels⟩ := s
  by_cases hwrite : cancels i = .write
  · -- `StepOk` says that the run is open and that nothing ended it yet.
    obtain ⟨hopen, hev⟩ : isTerminal (store.status args.runId) = false ∧
      terminalEvents (store.log args.runId) = [] := hok hwrite
    have hm' : CancelPc.move args.runId now kills .write = some m := hwrite ▸ hm
    cases hm'
    cases hp with
    | opened hst hno hpc =>
      refine phase_cancel_write hno hev ?_
      rintro rfl
      exact hpc
    | cancelled hst => rw [hst] at hopen; cases hopen
    | success hst => rw [hst] at hopen; cases hopen
    | failed hst => rw [hst] at hopen; cases hopen
  · cases hp with
    | opened hst hno hpc =>
      obtain ⟨hstore, hpc'⟩ := cancel_of_unwritten store hm (hno i) hwrite
      refine .opened ?_ (wrote_update hno hpc') ?_
      · simpa only [hstore] using hst
      · simpa only [hstore] using hpc
    | cancelled hst hev hpc => exact phase_cancel_cancelled hst hev hpc hm hwrite
    | success hst hno hpc =>
      obtain ⟨hstore, hpc'⟩ := cancel_of_unwritten store hm (hno i) hwrite
      refine .success ?_ (wrote_update hno hpc') ?_
      · simpa only [hstore] using hst
      · simpa only [hstore] using hpc
    | failed hst hno hpc hev =>
      obtain ⟨hstore, hpc'⟩ := cancel_of_unwritten store hm (hno i) hwrite
      refine .failed ?_ (wrote_update hno hpc') hpc ?_
      · simpa only [hstore] using hst
      · simpa only [hstore] using hev

/-- Every step that meets `StepOk` keeps the invariant. -/
theorem phase_step {args : RunArgs} {s s' : RunSystem} {l : RunLabel × ℚ}
    (hp : Phase args.runId s) (hok : StepOk args.runId s l)
    (hstep : runStep args s l = some s') : Phase args.runId s' := by
  obtain ⟨_ | _, now⟩ := l
  · exact phase_engine hp hok hstep
  · exact phase_cancel hp hok hstep

/-! ### The three promises -/

/-- The start of a run: `run` and the requests are yet to move, the run is open, and no
terminal event is in its log. The record may be absent, or pending from `POST /runs`. -/
structure RunStart (runId : String) (s : RunSystem) : Prop where
  engine : s.engine = .start
  cancels : ∀ i, s.cancels i = .idle
  status : isTerminal (s.store.status runId) = false
  events : terminalEvents (s.store.log runId) = []

/-- A run starts in its first phase. -/
theorem phase_start {runId : String} {s : RunSystem} (h : RunStart runId s) : Phase runId s := by
  refine .opened h.status ?_ ?_
  · intro i
    rw [h.cancels i]
    rfl
  · rw [h.engine]
    exact h.events

/-- The statuses that end a run, with the event of each. -/
def outcomes : List (String × String) :=
  [("success", "run.complete"), ("failed", "run.failed"), ("cancelled", "run.cancelled")]

/-- The status of a cancelled run, once some request answered that it cancelled. -/
theorem status_of_returned {runId : String} {s : RunSystem} (hp : Phase runId s) {i : Nat}
    (hi : s.cancels i = .returned true) : s.store.status runId = some (.str "cancelled") := by
  have habsurd : ∀ hno : ∀ j, wrote (s.cancels j) = false, False := by
    intro hno
    have hfalse := hno i
    rw [hi] at hfalse
    cases hfalse
  cases hp with
  | opened _ hno => exact absurd (habsurd hno) id
  | cancelled hst => exact hst
  | success _ hno => exact absurd (habsurd hno) id
  | failed _ hno => exact absurd (habsurd hno) id

/-- A guarded step of the engine keeps a terminal status. -/
theorem status_engine {args : RunArgs} {s s' : RunSystem} {choice : EngineChoice} {now : ℚ}
    (hp : Phase args.runId s) (hok : StepOk args.runId s (.engine choice, now))
    (hstep : runStep args s (.engine choice, now) = some s')
    (hterm : isTerminal (s.store.status args.runId) = true) :
    s'.store.status args.runId = s.store.status args.runId := by
  obtain ⟨m, hm, rfl⟩ := Option.map_eq_some_iff.mp hstep
  have hmove : EngineMoved args now s.store s.engine _ _ := engineMoved_of_move hm
  cases hp with
  | opened hst => rw [hst] at hterm; cases hterm
  | cancelled hst hev hpc =>
    obtain ⟨hfail, hwrite⟩ := stepOk_of_cancelled hok hst
    rw [hst]
    exact (engine_of_cancelled hst hpc hfail hwrite hmove).1
  | success hst hno hpc =>
    rw [hst]
    exact (engine_of_success hst hpc hmove).1
  | failed hst hno hpc =>
    rw [hpc] at hm
    cases hm

/-- A guarded step keeps a terminal status. -/
theorem status_step {args : RunArgs} {s s' : RunSystem} {l : RunLabel × ℚ}
    (hp : Phase args.runId s) (hok : StepOk args.runId s l)
    (hstep : runStep args s l = some s')
    (hterm : isTerminal (s.store.status args.runId) = true) :
    s'.store.status args.runId = s.store.status args.runId := by
  obtain ⟨choice | ⟨i, kills⟩, now⟩ := l
  · exact status_engine hp hok hstep hterm
  · obtain ⟨m, hm, rfl⟩ := Option.map_eq_some_iff.mp hstep
    -- `StepOk` admits the write of `cancelled` on an open run only.
    have hwrite : s.cancels i ≠ .write := by
      intro hi
      have hopen := (hok hi).1
      rw [hopen] at hterm
      cases hterm
    cases hst : s.store.status args.runId with
    | none => rw [hst] at hterm; cases hterm
    | some value => exact status_cancel hm hwrite hst

/-- A run after a terminal state keeps its status. -/
theorem status_run {args : RunArgs} {s s' : RunSystem} (hp : Phase args.runId s)
    (hterm : isTerminal (s.store.status args.runId) = true)
    (hrun : Reach (runStep args) (StepOk args.runId) s s') :
    s'.store.status args.runId = s.store.status args.runId := by
  have hinv : Phase args.runId s' ∧
      s'.store.status args.runId = s.store.status args.runId := by
    refine Reach.invariant (P := fun r => Phase args.runId r ∧
      r.store.status args.runId = s.store.status args.runId) ?_ hrun ⟨hp, rfl⟩
    rintro r l r' ⟨hr, hst⟩ hok hstep
    refine ⟨phase_step hr hok hstep, ?_⟩
    rw [status_step hr hok hstep (by rw [hst]; exact hterm), hst]
  exact hinv.2

/-- The log of a run that has ended, with every request ended too. -/
theorem outcome_of_ended {runId : String} {s : RunSystem} (hp : Phase runId s) {result : String}
    (hengine : s.engine = .returned result)
    (hended : ∀ i, s.cancels i = .idle ∨ s.cancels i = .raised ∨ ∃ b, s.cancels i = .returned b) :
    ∃ outcome ∈ outcomes, s.store.status runId = some (.str outcome.1) ∧
      terminalEvents (s.store.log runId) = [outcome.2] := by
  cases hp with
  | opened _ _ hpc =>
    rw [hengine] at hpc
    exact absurd hpc id
  | cancelled hst hev =>
    refine ⟨("cancelled", "run.cancelled"), by simp [outcomes], hst, ?_⟩
    rcases hev with ⟨i, hi, -⟩ | ⟨-, hlog⟩
    · -- The request about to append its event has not ended.
      rcases hended i with h | h | ⟨b, h⟩ <;> rw [hi] at h <;> cases h
    · exact hlog
  | success hst hno hpc =>
    refine ⟨("success", "run.complete"), by simp [outcomes], hst, ?_⟩
    rcases hpc with ⟨h, -⟩ | ⟨-, hlog⟩
    · rw [hengine] at h
      cases h
    · exact hlog
  | failed hst hno hpc hev => exact ⟨("failed", "run.failed"), by simp [outcomes], hst, hev⟩

/-- **Run status and cancellation agree**, in every interleaving of one run with any number
of cancel requests in which no step acts on a stale test. Once a request has answered that
it cancelled the run, the status is `cancelled` in every later state. Once the status is
terminal it does not change. And when `run` has returned and every request that was made
has ended, the log holds exactly one terminal event, the one of the final status. -/
theorem run_outcome_agrees (args : RunArgs) {s₀ s : RunSystem} (hstart : RunStart args.runId s₀)
    (hrun : Reach (runStep args) (StepOk args.runId) s₀ s) :
    (∀ i, s.cancels i = .returned true →
      ∀ s', Reach (runStep args) (StepOk args.runId) s s' →
        s'.store.status args.runId = some (.str "cancelled")) ∧
    (isTerminal (s.store.status args.runId) = true →
      ∀ s', Reach (runStep args) (StepOk args.runId) s s' →
        s'.store.status args.runId = s.store.status args.runId) ∧
    (∀ result, s.engine = .returned result →
      (∀ i, s.cancels i = .idle ∨ s.cancels i = .raised ∨ ∃ b, s.cancels i = .returned b) →
      ∃ outcome ∈ outcomes, s.store.status args.runId = some (.str outcome.1) ∧
        terminalEvents (s.store.log args.runId) = [outcome.2]) := by
  have hp : Phase args.runId s :=
    Reach.invariant (fun _ _ _ h hok hs => phase_step h hok hs) hrun (phase_start hstart)
  refine ⟨fun i hi s' hs' => ?_, fun hterm s' hs' => status_run hp hterm hs',
    fun result hengine hended => outcome_of_ended hp hengine hended⟩
  have hst := status_of_returned hp hi
  rw [status_run hp (by rw [hst]; rfl) hs', hst]

/-- The run `r` of a scenario, with nothing stored yet. -/
def bareArgs : RunArgs := { runId := "r", scenarioRef := "s", runLabel := none, template := none }

/-- The start of the run `r`. -/
def bareStart : RunSystem := ⟨.new, .start, fun _ => .idle⟩

/-- The system of the concrete runs is a start. -/
theorem runStart_bareStart : RunStart "r" bareStart where
  engine := rfl
  cancels := fun _ => rfl
  status := rfl
  events := rfl

/-- A run that is cancelled after it was claimed: the engine sees it and returns. -/
def cancelledRun : List (RunLabel × ℚ) :=
  [(.engine .go, 0), (.cancel 0 true, 1), (.cancel 0 true, 1), (.cancel 0 true, 1),
   (.cancel 0 true, 1), (.engine .pass, 2), (.engine .go, 2), (.engine .go, 3)]

/-- A cancelled run in which no step acts on a stale test. -/
theorem run_outcome_agrees_cancelled :
    ∃ s, Reach (runStep bareArgs) (StepOk "r") bareStart s ∧
      s.cancels 0 = .returned true ∧ s.engine = .returned "cancelled" ∧
      s.store.status "r" = some (.str "cancelled") := by
  have hexec : (exec (runStep bareArgs) (StepOk "r") bareStart cancelledRun).map
      (fun s => (s.cancels 0, s.engine)) = some (.returned true, .returned "cancelled") := by
    decide +kernel
  obtain ⟨s, hrun, heq⟩ := exists_reach_of_exec hexec
  obtain ⟨hcancel, hengine⟩ := Prod.mk.inj heq
  exact ⟨s, hrun, hcancel, hengine,
    (run_outcome_agrees bareArgs runStart_bareStart hrun).1 0 hcancel s (Reach.refl s)⟩

/-- A scenario that is refused, and a request between the last test of the record and the
write of `failed`. -/
def overwrittenRun : List (RunLabel × ℚ) :=
  [(.engine .go, 0), (.engine (.refuse "scenario_not_found" "no scenario"), 0),
   (.engine .go, 0), (.engine .go, 0), (.engine .go, 0),
   (.cancel 0 true, 1), (.cancel 0 true, 1), (.cancel 0 true, 1), (.cancel 0 true, 1)]

/-- The three promises fail in general. In `overwrittenRun` the request answers that it
cancelled the run; then the engine writes `failed` over `cancelled`, and the log ends with a
`run.failed` and a `run.cancelled`. -/
theorem cancel_overwritten :
    ¬ ∀ (args : RunArgs) (s₀ s : RunSystem), RunStart args.runId s₀ →
      Reach (runStep args) anyStep s₀ s →
      (∀ i, s.cancels i = .returned true → ∀ s', Reach (runStep args) anyStep s s' →
        s'.store.status args.runId = some (.str "cancelled")) ∧
      (isTerminal (s.store.status args.runId) = true →
        ∀ s', Reach (runStep args) anyStep s s' →
          s'.store.status args.runId = s.store.status args.runId) ∧
      (∀ result, s.engine = .returned result →
        (∀ i, s.cancels i = .idle ∨ s.cancels i = .raised ∨ ∃ b, s.cancels i = .returned b) →
        ∃ outcome ∈ outcomes, s.store.status args.runId = some (.str outcome.1) ∧
          terminalEvents (s.store.log args.runId) = [outcome.2]) := by
  intro hall
  -- The request has returned, and the next move of the engine writes `failed`.
  have hexec : (exec (runStep bareArgs) anyStep bareStart overwrittenRun).map
      (fun s => (s.cancels 0, (runStep bareArgs s (.engine .go, 2)).map
        (·.store.status "r"))) = some (.returned true, some (some (.str "failed"))) := by
    decide +kernel
  obtain ⟨s, hrun, heq⟩ := exists_reach_of_exec hexec
  obtain ⟨hcancel, hnext⟩ := Prod.mk.inj heq
  obtain ⟨s', hs', hfailed⟩ := Option.map_eq_some_iff.mp hnext
  have hcancelled := (hall bareArgs bareStart s runStart_bareStart hrun).1 0
    hcancel s' ((Reach.refl s).snoc trivial hs')
  exact absurd (hfailed.symm.trans hcancelled) (by decide +kernel)

end AitpPlayground.Proofs.Api
