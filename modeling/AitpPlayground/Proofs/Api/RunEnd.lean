import AitpPlayground.Proofs.Api.Cancellation
import AitpPlayground.Runner.Setup

/-!
# `AitpPlayground.Proofs.Api.RunEnd`: when a run ends

A run that nobody cancels ends in one of two ways. `run` returns, and then its record and its
log say so: `Phase` of the cancellation proofs has this already. Or an exception leaves
`run`, and then the record stays `running` for ever and the log has no terminal event.

`PathOk` follows the engine through the regions before the `try` and says what the world must
have been for it to be where it is. `run_ends_terminal_iff` puts the two together: the run
ends properly if and only if each region catches what is raised in it.
-/

set_option autoImplicit false

namespace AitpPlayground.Proofs.Api

open AitpPlayground.Lib
open AitpPlayground.Registry
open AitpPlayground.Runner
open AitpPlayground.Api
open AitpPlayground.Proofs.Runner

variable {δ : Type} {w : SetupWorld δ} {args : RunArgs} {inputs : Json}

/-- A step of the engine on this world, in a run that nobody cancels. What is raised inside
the `try` is an `Exception`. -/
def OnWorld (w : SetupWorld δ) (args : RunArgs) (inputs : Json) (s : RunSystem)
    (l : RunLabel × ℚ) : Prop :=
  match l.1 with
  | .engine choice =>
    (s.engine = .load → choice = w.loadChoice args) ∧
      (s.engine = .validate → choice = w.validateChoice args inputs) ∧
      (s.engine = .body → choice ≠ .escape)
  | .cancel _ _ => False

instance (w : SetupWorld δ) (args : RunArgs) (inputs : Json) (s : RunSystem) :
    (l : RunLabel × ℚ) → Decidable (OnWorld w args inputs s l)
  | (.engine choice, _) => inferInstanceAs (Decidable
      ((s.engine = .load → choice = w.loadChoice args) ∧
        (s.engine = .validate → choice = w.validateChoice args inputs) ∧
        (s.engine = .body → choice ≠ .escape)))
  | (.cancel _ _, _) => inferInstanceAs (Decidable False)

/-! ### What the choices say about the world -/

/-- The choices that lead out of `run`. -/
theorem caught_iff : w.Caught args inputs ↔
    w.loadChoice args ≠ .escape ∧
      (w.loadChoice args = .pass → w.validateChoice args inputs ≠ .escape) := by
  unfold SetupWorld.Caught SetupWorld.loadChoice SetupWorld.validateChoice
  cases w.resolve args with
  | error exc => cases exc <;> simp [RunExc.code?]
  | ok scenario =>
    simp only
    cases w.preflight args scenario with
    | error exc => simp
    | ok refusal =>
      cases refusal with
      | some refusal => simp
      | none =>
        unfold SetupWorld.validateInputs
        simp only
        split
        case isTrue hempty => simp [hempty]
        case isFalse hsome =>
          cases w.validate inputs scenario.spec.schema with
          | ok _ => simp
          | error exc => cases exc <;> simp [hsome]

/-- Where the engine can be on this world. -/
def PathOk (w : SetupWorld δ) (args : RunArgs) (inputs : Json) : EnginePc → Prop
  | .start | .load => True
  | .checkStart | .emitStarted | .validate => w.loadChoice args = .pass
  | .raised => ¬ w.Caught args inputs
  | _ => w.Caught args inputs

/-- A test of the record goes on when the run is not cancelled. -/
theorem next_of_test {s : RunStore Event} {runId : String} {now : ℚ} {pc₁ pc₂ : EnginePc}
    (hopen : s.status runId ≠ some (.str "cancelled")) :
    ((⟨some .get, fun reply => if readsCancelled reply then pc₁ else pc₂⟩ : Move EnginePc).run
      s runId now).2.1 = pc₂ := by
  show (if readsCancelled (.record (s.get runId)) then pc₁ else pc₂) = pc₂
  rw [readsCancelled_get, decide_eq_false hopen]
  rfl

/-- A write that spares a cancelled run goes on as written when the run is not cancelled. -/
theorem next_of_write {s : RunStore Event} {runId : String} {now : ℚ} {pc₁ pc₂ : EnginePc}
    {record : Record Event} (hopen : s.status runId ≠ some (.str "cancelled")) :
    ((⟨some (.upsertUnlessCancelled record), fun reply => if wasWritten reply then pc₁ else pc₂⟩ :
      Move EnginePc).run s runId now).2.1 = pc₁ := by
  simp [Move.run, RunStore.call, RunStore.upsertUnlessCancelled, hopen, wasWritten]

/-- A move of the engine on this world, when the run is not cancelled. -/
theorem pathOk_move {s : RunSystem} {choice : EngineChoice} {now : ℚ} {m : Move EnginePc}
    (hpath : PathOk w args inputs s.engine)
    (hworld : OnWorld w args inputs s (.engine choice, now))
    (hopen : s.store.status args.runId ≠ some (.str "cancelled"))
    (hm : s.engine.move args now choice = some m) :
    PathOk w args inputs (m.run s.store args.runId now).2.1 := by
  obtain ⟨hload, hvalidate, hbody⟩ := hworld
  -- One case for each control point. A choice that the point does not have gives no move.
  cases hpc : s.engine with
  | start =>
    rw [hpc] at hm
    cases choice with
    | go =>
      cases hm
      rw [next_of_write hopen]
      trivial
    | _ => cases hm
  | load =>
    rw [hpc] at hm
    have hworld := hload hpc
    -- What the lookup raises leaves `run`, or is caught there.
    have hcaught := (@caught_iff _ w args inputs)
    cases choice with
    | refuse code error =>
      cases hm
      exact hcaught.mpr ⟨by rw [← hworld]; simp, by rw [← hworld]; simp⟩
    | escape =>
      cases hm
      exact fun h => (hcaught.mp h).1 hworld.symm
    | pass =>
      cases hm
      exact hworld.symm
    | _ => cases hm
  | refused code error =>
    rw [hpc] at hm hpath
    cases choice with
    | go =>
      cases hm
      rw [next_of_test hopen]
      exact hpath
    | _ => cases hm
  | emitFailed code error =>
    rw [hpc] at hm hpath
    cases choice with
    | go =>
      cases hm
      exact hpath
    | _ => cases hm
  | checkStart =>
    rw [hpc] at hm hpath
    cases choice with
    | go =>
      cases hm
      rw [next_of_test hopen]
      exact hpath
    | _ => cases hm
  | emitStarted =>
    rw [hpc] at hm hpath
    cases choice with
    | go =>
      cases hm
      exact hpath
    | _ => cases hm
  | validate =>
    rw [hpc] at hm hpath
    have hworld := hvalidate hpc
    have hcaught := (@caught_iff _ w args inputs)
    -- The lookup has passed, so the one region left is that of the inputs.
    have hpass : w.loadChoice args ≠ .escape := by
      rw [show w.loadChoice args = .pass from hpath]
      simp
    cases choice with
    | pass =>
      cases hm
      exact hcaught.mpr ⟨hpass, fun _ => by rw [← hworld]; simp⟩
    | invalid message =>
      cases hm
      exact hcaught.mpr ⟨hpass, fun _ => by rw [← hworld]; simp⟩
    | escape =>
      cases hm
      exact fun h => (hcaught.mp h).2 hpath hworld.symm
    | _ => cases hm
  | body =>
    rw [hpc] at hm hpath
    cases choice with
    | emit event =>
      simp only [EnginePc.move] at hm
      split at hm
      · cases hm
        exact hpath
      · cases hm
    | launch =>
      cases hm
      rw [next_of_test hopen]
      exact hpath
    -- `OnWorld` lets nothing escape from the inner `try`.
    | escape => exact absurd rfl (hbody hpc)
    | webhook value | read | fail code error | finish outputs =>
      cases hm
      exact hpath
    | _ => cases hm
  | handler code error =>
    rw [hpc] at hm hpath
    cases choice with
    | go =>
      cases hm
      rw [next_of_test hopen]
      exact hpath
    | _ => cases hm
  | finalize error =>
    rw [hpc] at hm hpath
    cases choice with
    | go =>
      cases hm
      rw [next_of_test hopen]
      exact hpath
    | _ => cases hm
  | writeFailed error =>
    rw [hpc] at hm hpath
    cases choice with
    | go =>
      cases hm
      exact hpath
    | _ => cases hm
  | succeed outputs =>
    rw [hpc] at hm hpath
    cases choice with
    | go =>
      cases hm
      rw [next_of_write hopen]
      exact hpath
    | _ => cases hm
  | emitComplete =>
    rw [hpc] at hm hpath
    cases choice with
    | go =>
      cases hm
      exact hpath
    | _ => cases hm
  | ingest status =>
    rw [hpc] at hm hpath
    cases choice with
    | go =>
      cases hm
      exact hpath
    | _ => cases hm
  | returned status =>
    rw [hpc] at hm
    cases hm
  | raised =>
    rw [hpc] at hm
    cases hm

/-! ### Runs that nobody cancels -/

/-- An append does not cancel a run. -/
theorem status_append_ne {s : RunStore Event} {runId : String} {e : Event} {now : ℚ}
    (hopen : s.status runId ≠ some (.str "cancelled")) :
    (s.appendEvent runId e now).1.status runId ≠ some (.str "cancelled") := by
  rw [status_appendEvent]
  unfold RunStore.status at hopen
  cases hget : s.get runId with
  | none =>
    rw [Option.getD_none]
    show some (Json.str "running") ≠ _
    simp
  | some r =>
    rw [hget] at hopen
    exact hopen

/-- The engine does not cancel a run. -/
theorem status_of_engineMoved {now : ℚ} {store store' : RunStore Event} {pc pc' : EnginePc}
    (hopen : store.status args.runId ≠ some (.str "cancelled"))
    (hmove : EngineMoved args now store pc store' pc') :
    store'.status args.runId ≠ some (.str "cancelled") := by
  cases hmove with
  | quiet | sawCancelled | finalizeOpen | ingest => exact hopen
  | claim | writeFailed | succeed => simp
  | update status => simpa [status] using hopen
  | note | fail | complete => exact status_append_ne hopen

/-- What holds in a run on this world, as long as it lasts. -/
structure Uncancelled (w : SetupWorld δ) (args : RunArgs) (inputs : Json) (s : RunSystem) :
    Prop where
  phase : Phase args.runId s
  idle : ∀ i, s.cancels i = .idle
  status : s.store.status args.runId ≠ some (.str "cancelled")
  path : PathOk w args inputs s.engine

/-- A step of the engine leaves the run uncancelled. -/
theorem uncancelled_step {s s' : RunSystem} {l : RunLabel × ℚ} (h : Uncancelled w args inputs s)
    (hworld : OnWorld w args inputs s l) (hstep : runStep args s l = some s') :
    Uncancelled w args inputs s' := by
  obtain ⟨choice | ⟨i, kills⟩, now⟩ := l
  · have hphase : Phase args.runId s' := by
      refine phase_step h.phase ?_ hstep
      exact fun _ => h.status
    -- The engine is alone here: no cancel request comes.
    obtain ⟨m, hm, rfl⟩ := Option.map_eq_some_iff.mp hstep
    exact ⟨hphase, h.idle, status_of_engineMoved h.status (engineMoved_of_move hm),
      pathOk_move h.path hworld h.status hm⟩
  · exact absurd hworld id

/-- `run` has ended: it returned, or an exception left it. -/
def Ended (s : RunSystem) : Prop := (∃ status, s.engine = .returned status) ∨ s.engine = .raised

/-- The record has the status `success` or `failed`, and exactly one of `run.complete` and
`run.failed` is in the log. -/
def EndsTerminal (runId : String) (s : RunSystem) : Prop :=
  (s.store.status runId = some (.str "success") ∨ s.store.status runId = some (.str "failed")) ∧
    (terminalEvents (s.store.log runId) = ["run.complete"] ∨
      terminalEvents (s.store.log runId) = ["run.failed"])

/-- **A run that nobody cancels ends in a terminal state** exactly when each region of `run`
catches what is raised in it. -/
theorem run_ends_terminal_iff (w : SetupWorld δ) (args : RunArgs) (inputs : Json)
    {s₀ s : RunSystem} (hstart : RunStart args.runId s₀)
    (hrun : Reach (runStep args) (OnWorld w args inputs) s₀ s) (hended : Ended s) :
    EndsTerminal args.runId s ↔ w.Caught args inputs := by
  have hinv : Uncancelled w args inputs s := by
    refine Reach.invariant (fun _ _ _ h hworld hs => uncancelled_step h hworld hs) hrun ?_
    refine ⟨phase_start hstart, hstart.cancels, ?_, ?_⟩
    · intro hcancelled
      have hstatus := hstart.status
      rw [hcancelled] at hstatus
      cases hstatus
    · rw [hstart.engine]
      trivial
  -- `run` returns on a world that catches, and is left by an exception on the others.
  rcases hended with ⟨result, hreturned⟩ | hraised
  · have hpath := hinv.path
    rw [hreturned] at hpath
    refine iff_of_true ?_ hpath
    obtain ⟨outcome, hmem, hstatus, hlog⟩ :=
      outcome_of_ended hinv.phase hreturned fun i => .inl (hinv.idle i)
    simp only [outcomes, List.mem_cons, List.not_mem_nil, or_false] at hmem
    rcases hmem with rfl | rfl | rfl
    · exact ⟨.inl hstatus, .inl hlog⟩
    · exact ⟨.inr hstatus, .inr hlog⟩
    · exact absurd hstatus hinv.status
  · have hpath := hinv.path
    rw [hraised] at hpath
    refine iff_of_false ?_ hpath
    rintro ⟨-, hlog⟩
    -- No terminal event was written when the exception left `run`.
    have hnone : terminalEvents (s.store.log args.runId) = [] := by
      cases hinv.phase with
      | opened _ _ hengine =>
        rw [hraised] at hengine
        exact hengine
      | cancelled hstatus => exact absurd hstatus hinv.status
      | success _ _ hengine =>
        rcases hengine with ⟨h, -⟩ | ⟨h | h, -⟩ <;> rw [hraised] at h <;> cases h
      | failed _ _ hengine =>
        rw [hraised] at hengine
        cases hengine
    rw [hnone] at hlog
    rcases hlog with h | h <;> cases h

/-! ### A registry with one scenario -/

/-- `TrustSpec.model_validate` on three plain fields. -/
def validateTrust (fields : Dict String Json) : Except RunExc TrustSpec :=
  match fields.get? "boundary", fields.get? "discovery", fields.get? "eager" with
  | some (.str "intra_org"), some (.str "static"), some (.bool eager) =>
    .ok { boundary := .intraOrg, discovery := .static, eager }
  | _, _, _ => .error (.other "ValidationError" "1 validation error for TrustSpec")

/-- A scenario without steps. -/
def helloScenario : ScenarioVersion where
  metadata := { pack := "demo", scenario := "hello", version := "1.0.0", name := "Hello",
                summary := none }
  spec := { schema := Dict.empty, agents := [], trust := { boundary := .intraOrg }, steps := [] }

/-- A template of it whose trust section is a dictionary, as the model asks, with a boundary
that does not exist. -/
def strictTemplate : ScenarioTemplate where
  name := "strict"
  summary := none
  trust := some (Dict.ofList [("boundary", .str "none")])
  agents := none
  steps := none

/-- The directory of this registry, with documents by name. -/
def helloDir : ScenariosDir String where
  path := "/scenarios"
  present := true
  sharedAgents := []
  packs := .ok [{
    name := "demo"
    packYaml := some (.ok "pack")
    scenarios := .ok [{
      name := "hello"
      versions := .ok [{
        name := "1.0.0"
        scenarioYaml := some (.ok "scenario")
        templates := [("strict.yaml", .ok "template")] }] }] }]

/-- A world with this registry, and an SDK with every feature. -/
def helloWorld : SetupWorld String where
  py := .refusing
  models :=
    { isTemplate := fun data => decide (data = "template")
      pack := fun _ => .ok { slug := "demo", name := "Demo" }
      scenario := fun _ => .ok helloScenario
      template := fun _ => .ok strictTemplate
      agent := fun _ => .error "not an agent"
      trust := validateTrust }
  service := { ttl := 0, cached := none, loadedAt := 0 }
  reads := fun _ => { now := 0, dir := helloDir }
  capabilities := fun _ => .ok { sdkAvailable := true, version := none, features := Dict.empty }
  validate := fun _ _ => .ok ()

/-- The run `r` of the scenario with its template. -/
def strictArgs : RunArgs where
  runId := "r"
  scenarioRef := "demo/hello@1.0.0"
  runLabel := none
  template := some "strict"

/-- What a lookup raises, if it raises. -/
def raised? {α : Type} : Except RunExc α → Option RunExc
  | .error exc => some exc
  | .ok _ => none

/-- What is raised is the exception. -/
theorem eq_error_of_raised {α : Type} {x : Except RunExc α} {exc : RunExc}
    (h : raised? x = some exc) : x = .error exc := by
  cases x with
  | error exc' =>
    cases h
    rfl
  | ok value => cases h

/-- The registry does not have this scenario. -/
theorem resolve_unknown : helloWorld.resolve bareArgs =
    .error (.playground "scenario_not_found" "scenario not found: s") := by
  refine eq_error_of_raised ?_
  decide +kernel

/-- The run of an unknown scenario ends with `failed` and `run.failed`. -/
theorem run_of_unknown_ends_terminal :
    ∃ s, Reach (runStep bareArgs) (OnWorld helloWorld bareArgs .null) bareStart s ∧
      s.engine = .returned "failed" ∧ EndsTerminal "r" s := by
  have hexec : (exec (runStep bareArgs) (OnWorld helloWorld bareArgs .null) bareStart
      [(.engine .go, 0),
       (.engine (.refuse "scenario_not_found" "scenario not found: s"), 0),
       (.engine .go, 0), (.engine .go, 0), (.engine .go, 0), (.engine .go, 0)]).map
        RunSystem.engine = some (.returned "failed") := by
    decide +kernel
  obtain ⟨s, hrun, hengine⟩ := exists_reach_of_exec hexec
  refine ⟨s, hrun, hengine, ?_⟩
  refine (run_ends_terminal_iff _ _ _ runStart_bareStart hrun (.inl ⟨_, hengine⟩)).mpr ?_
  unfold SetupWorld.Caught
  rw [resolve_unknown]
  rfl

/-- The run of the scenario with its template never ends in a terminal state: the exception
leaves `run`, and the record stays `running`. -/
theorem run_of_strict_never_terminal :
    ¬ ∀ s, Reach (runStep strictArgs) (OnWorld helloWorld strictArgs .null) bareStart s →
        Ended s → EndsTerminal "r" s := by
  intro hall
  have hexec : (exec (runStep strictArgs) (OnWorld helloWorld strictArgs .null) bareStart
      [(.engine .go, 0), (.engine .escape, 0)]).map
        (fun s => (s.engine, s.store.status "r")) = some (.raised, some (.str "running")) := by
    decide +kernel
  obtain ⟨s, hrun, hread⟩ := exists_reach_of_exec hexec
  obtain ⟨hengine, hstatus⟩ := Prod.mk.inj hread
  obtain ⟨hterminal, -⟩ := hall s hrun (.inr hengine)
  rw [hstatus] at hterminal
  exact absurd hterminal (by decide)

end AitpPlayground.Proofs.Api
