import AitpPlayground.Observability.Metrics
import Mathlib.Algebra.BigOperators.Group.Multiset.Basic
import Mathlib.Algebra.Ring.Int.Defs

/-!
# `AitpPlayground.Proofs.Observability.Metrics`: the gauge of the active runs

`record_event` first enters or leaves the set of started runs and then moves the gauge, in two
locked steps. Between the two, the call owes the gauge its `+1` or `-1`. So the gauge and
what is owed (`owedBy`) make up the number of started runs, as long as the floor holds no
update back. An update that is held back is lost: the gauge stays one too high for good.

`GaugeInv` is this sum, over the calls that are under way. Its step lemmas follow the two steps
of a call: `recordEvent_balance` for the question to the set, and `gauge_apply` for an update.
-/

set_option autoImplicit false

namespace AitpPlayground.Proofs.Observability

open AitpPlayground.Lib
open AitpPlayground.Observability

/-! ### One method call -/

/-- What a method call adds to the gauge, without its floor. -/
def deltaOf : MetricsCall → Int
  | .inc _ _ => 0
  | .addGauge _ delta _ => delta

/-- What a call of `record_event` still owes the gauge. -/
def owedBy (calls : List MetricsCall) : Int := (calls.map deltaOf).sum

/-- The updates of `record_event`: a counter, or the gauge of the active runs by one up, or by
one down with the floor zero. -/
def IsUpdate : MetricsCall → Prop
  | .inc _ _ => True
  | .addGauge name delta floor =>
    name = runsActive ∧ (delta = 1 ∧ floor = none ∨ delta = -1 ∧ floor = some 0)

/-- Nothing is owed at the end. -/
@[simp] theorem owedBy_nil : owedBy [] = 0 := rfl

/-- What is owed is the next call's delta and the rest. -/
@[simp] theorem owedBy_cons (call : MetricsCall) (calls : List MetricsCall) :
    owedBy (call :: calls) = deltaOf call + owedBy calls := by
  simp [owedBy]

/-- Without a floor the gauge moves by the delta. -/
@[simp] theorem gauge_addGauge_none (m : Metrics) (name : String) (delta : Int) :
    (m.addGauge name delta none).gauge name = m.gauge name + delta := by
  simp [Metrics.addGauge, Metrics.gauge]

/-- With a floor it does not go below it. -/
@[simp] theorem gauge_addGauge_some (m : Metrics) (name : String) (delta floor : Int) :
    (m.addGauge name delta (some floor)).gauge name = max floor (m.gauge name + delta) := by
  simp [Metrics.addGauge, Metrics.gauge]

/-- An update moves the gauge by its delta, and by one more when the floor holds it back. -/
theorem gauge_apply {m : Metrics} {call : MetricsCall} (h : IsUpdate call)
    (hpos : 0 ≤ m.gauge runsActive) :
    0 ≤ (call.apply m).gauge runsActive ∧
    (call.apply m).gauge runsActive =
      m.gauge runsActive + deltaOf call + (if clamps m call then 1 else 0) ∧
    (call.apply m).startedRuns = m.startedRuns := by
  cases call with
  | inc name labels =>
    -- A counter: the gauges are not read.
    refine ⟨hpos, ?_, rfl⟩
    show m.gauge runsActive = m.gauge runsActive + 0 + 0
    omega
  | addGauge name delta floor =>
    obtain ⟨rfl, ⟨rfl, rfl⟩ | ⟨rfl, rfl⟩⟩ := h
    · simp only [MetricsCall.apply, gauge_addGauge_none, clamps, deltaOf]
      refine ⟨by omega, by simp, rfl⟩
    · simp only [MetricsCall.apply, gauge_addGauge_some, clamps, deltaOf, decide_eq_true_eq]
      refine ⟨by omega, ?_, rfl⟩
      -- The floor holds it back exactly at the value zero.
      split <;> omega

/-! ### The question to the set of started runs -/

/-- The calls move counters only. -/
def CountersOnly (calls : List MetricsCall) : Prop :=
  ∀ call ∈ calls, ∃ name labels, call = .inc name labels

/-- A branch of calls that move counters only. -/
theorem countersOnly_ite {p : Prop} [Decidable p] {a b : List MetricsCall} (ha : CountersOnly a)
    (hb : CountersOnly b) : CountersOnly (if p then a else b) := by
  split
  · exact ha
  · exact hb

/-- The calls for the other events do. -/
theorem countersOnly_otherCalls (e : MetricsEvent) : CountersOnly (otherCalls e) := by
  simp only [otherCalls]
  repeat' apply countersOnly_ite
  all_goals cases e.hasCapability <;> simp [CountersOnly]

/-- The calls for the end of a run are updates. -/
theorem terminalCalls_update {e : MetricsEvent} {status : String} {started : Bool} :
    ∀ call ∈ terminalCalls e status started, IsUpdate call := by
  unfold terminalCalls
  cases started <;> simp only [Bool.false_eq_true, if_true, if_false] <;> try split
  all_goals simp [IsUpdate]

/-- The calls for the end of a run take one from the gauge when it had started. -/
theorem owedBy_terminalCalls (e : MetricsEvent) (status : String) (started : Bool) :
    owedBy (terminalCalls e status started) = if started then -1 else 0 := by
  unfold terminalCalls
  cases started <;> simp only [Bool.false_eq_true, if_true, if_false] <;> try split
  all_goals simp [deltaOf]

/-- Counters owe the gauge nothing. -/
theorem owedBy_of_countersOnly {calls : List MetricsCall} (h : CountersOnly calls) :
    owedBy calls = 0 := by
  induction calls with
  | nil => rfl
  | cons call calls ih =>
    obtain ⟨name, labels, rfl⟩ := h call List.mem_cons_self
    rw [owedBy_cons, ih fun c hc => h c (List.mem_cons_of_mem _ hc)]
    rfl

/-- What a call of `record_event` with a run id owes the gauge is what it changed in the number
of started runs. -/
theorem recordEvent_balance (m : Metrics) {e : MetricsEvent} (h : e.runId.isSome = true) :
    (recordEvent m e).1.gauge runsActive = m.gauge runsActive ∧
    (∀ call ∈ (recordEvent m e).2, IsUpdate call) ∧
    ((recordEvent m e).1.startedRuns.card : Int) =
      m.startedRuns.card + owedBy (recordEvent m e).2 := by
  obtain ⟨runId, hrun⟩ := Option.isSome_iff_exists.mp h
  unfold recordEvent
  simp only [hrun]
  split
  case isTrue =>
    unfold Metrics.runStarted
    -- A run that started before is not counted again.
    by_cases hmem : runId ∈ m.startedRuns
    · simp [hmem]
    · simp only [hmem, if_false, if_true, List.mem_singleton, forall_eq]
      refine ⟨rfl, ⟨rfl, .inl ⟨rfl, rfl⟩⟩, ?_⟩
      rw [Finset.card_insert_of_notMem hmem]
      simp [deltaOf]
  case isFalse =>
    cases hstatus : terminalStatus e.type with
    | none =>
      have hinc := countersOnly_otherCalls e
      refine ⟨rfl, ?_, by simp [owedBy_of_countersOnly hinc]⟩
      intro call hcall
      obtain ⟨name, labels, rfl⟩ := hinc call hcall
      trivial
    | some status =>
      -- The gauge goes down for a run that had started, and for no other.
      unfold Metrics.runFinished
      by_cases hmem : runId ∈ m.startedRuns
      · simp only [hmem, if_true]
        refine ⟨rfl, terminalCalls_update, ?_⟩
        have hcard := Finset.card_erase_add_one hmem
        simp only [owedBy_terminalCalls, if_true]
        omega
      · simp only [hmem, if_false]
        exact ⟨trivial, terminalCalls_update, by simp [owedBy_terminalCalls]⟩

/-! ### The calls under way -/

/-- The gauge, what is owed to it and the number of started runs. -/
structure GaugeInv (s : MetricsThreads) : Prop where
  nonneg : 0 ≤ s.metrics.gauge runsActive
  carried : ∀ e ∈ s.entered, e.runId.isSome = true
  updates : ∀ calls ∈ s.updating, ∀ call ∈ calls, IsUpdate call
  balance : s.metrics.gauge runsActive + (s.updating.map owedBy).sum =
    s.metrics.startedRuns.card + s.heldBack

/-- The invariant holds of new metrics. -/
theorem gaugeInv_new : GaugeInv .new := by
  refine ⟨le_refl _, ?_, ?_, rfl⟩ <;> intro x hx <;> exact absurd hx (Multiset.notMem_zero x)

/-- One step keeps the invariant. -/
theorem gaugeInv_step {s s' : MetricsThreads} {l : MetricsLabel} (h : GaugeInv s)
    (hok : carriesRunId s l) (hs : metricsStep s l = some s') : GaugeInv s' := by
  cases l with
  | enter e =>
    cases hs
    refine { h with carried := ?_ }
    intro e' he'
    rcases Multiset.mem_cons.mp he' with rfl | he'
    · exact hok
    · exact h.carried e' he'
  | ask e =>
    simp only [metricsStep] at hs
    split at hs
    case isFalse => cases hs
    case isTrue hmem =>
      cases hs
      obtain ⟨hgauge, hupdates, hcard⟩ := recordEvent_balance s.metrics (h.carried e hmem)
      constructor
      case nonneg => exact hgauge ▸ h.nonneg
      case carried => exact fun e' he' => h.carried e' (Multiset.mem_of_mem_erase he')
      case updates =>
        intro calls hcalls
        rcases Multiset.mem_cons.mp hcalls with rfl | hcalls
        · exact hupdates
        · exact h.updates calls hcalls
      case balance =>
        have hsum := h.balance
        simp only [Multiset.map_cons, Multiset.sum_cons]
        omega
  | update calls =>
    simp only [metricsStep] at hs
    split at hs
    case isFalse => cases hs
    case isTrue hmem =>
      have hsum := h.balance
      rw [← Multiset.sum_map_erase hmem] at hsum
      cases calls with
      | nil =>
        -- The call returns, and owes nothing.
        cases hs
        refine { h with updates := ?_, balance := ?_ }
        · exact fun calls hcalls => h.updates calls (Multiset.mem_of_mem_erase hcalls)
        · simpa only [owedBy_nil, zero_add] using hsum
      | cons call rest =>
        cases hs
        have hall := h.updates _ hmem
        obtain ⟨hpos, hgauge, hruns⟩ := gauge_apply (hall call List.mem_cons_self) h.nonneg
        constructor
        case nonneg => exact hpos
        case carried => exact h.carried
        case updates =>
          intro calls hcalls
          rcases Multiset.mem_cons.mp hcalls with rfl | hcalls
          · exact fun c hc => hall c (List.mem_cons_of_mem _ hc)
          · exact h.updates calls (Multiset.mem_of_mem_erase hcalls)
        case balance =>
          simp only [owedBy_cons] at hsum
          simp only [Multiset.map_cons, Multiset.sum_cons, hruns]
          split at hgauge <;> simp only [*, if_true] <;> push_cast <;> omega

/-- The invariant holds in every run. -/
theorem gaugeInv_reach {s : MetricsThreads} (h : Reach metricsStep carriesRunId .new s) :
    GaugeInv s :=
  h.invariant (fun _ _ _ hinv hok hs => gaugeInv_step hinv hok hs) gaugeInv_new

/-- In every run, when no call is under way, the gauge is the number of started runs if and
only if no decrement of the run has found the gauge at its floor. -/
theorem runs_active_exact_iff {s : MetricsThreads}
    (h : Reach metricsStep carriesRunId .new s) (hquiet : s.Quiet) :
    s.metrics.gauge runsActive = s.metrics.startedRuns.card ↔ s.heldBack = 0 := by
  have hsum := (gaugeInv_reach h).balance
  simp only [hquiet.2, Multiset.map_zero, Multiset.sum_zero] at hsum
  omega

/-- Two runs start and one of them ends, a run that never started fails, and a terminal event
comes twice. -/
theorem runs_active_exact_after_duplicates :
    ∃ s, Reach metricsStep carriesRunId .new s ∧ s.Quiet ∧
      s.metrics.startedRuns.card = 1 ∧
      s.metrics.gauge runsActive = s.metrics.startedRuns.card := by
  let started (r : String) : MetricsEvent := ⟨"run.started", some r, none, false⟩
  let ended (type r : String) : MetricsEvent := ⟨type, some r, none, false⟩
  let up : MetricsCall := .addGauge runsActive 1 none
  let down : MetricsCall := .addGauge runsActive (-1) (some 0)
  let total (status : String) : MetricsCall := .inc runsTotal [("status", status)]
  let refused : MetricsCall := .inc runsRefusedTotal [("code", "unknown")]
  have heval : ((exec metricsStep carriesRunId .new
      [.enter (started "r1"), .enter (started "r2"), .ask (started "r1"), .ask (started "r2"),
        .update [up], .update [up], .update [], .update [],
        .enter (ended "run.complete" "r1"), .enter (ended "run.complete" "r1"),
        .ask (ended "run.complete" "r1"), .ask (ended "run.complete" "r1"),
        .update [total "success"], .update [down, total "success"], .update [total "success"],
        .update [], .update [],
        .enter (ended "run.failed" "r3"), .ask (ended "run.failed" "r3"),
        .update [refused, total "failed"], .update [total "failed"], .update []]).map fun s =>
        (s.entered.card, s.updating.card, s.metrics.startedRuns.card, s.heldBack)) =
      some (0, 0, 1, 0) := by decide +kernel
  obtain ⟨s, hrun, hreads⟩ := exists_reach_of_exec heval
  simp only [Prod.mk.injEq, Multiset.card_eq_zero] at hreads
  obtain ⟨hentered, hupdating, hcard, hheld⟩ := hreads
  exact ⟨s, hrun, ⟨hentered, hupdating⟩, hcard,
    (runs_active_exact_iff hrun ⟨hentered, hupdating⟩).mpr hheld⟩

/-- A cancel ends a run between the two steps of its start: the decrement finds the gauge at
zero, and the increment comes after it. -/
theorem runs_active_left_at_one :
    ¬ ∀ s, Reach metricsStep carriesRunId .new s → s.Quiet →
      s.metrics.gauge runsActive = s.metrics.startedRuns.card := by
  intro hall
  let started : MetricsEvent := ⟨"run.started", some "r1", none, false⟩
  let cancelled : MetricsEvent := ⟨"run.cancelled", some "r1", none, false⟩
  let up : MetricsCall := .addGauge runsActive 1 none
  let down : MetricsCall := .addGauge runsActive (-1) (some 0)
  let total : MetricsCall := .inc runsTotal [("status", "cancelled")]
  have heval : ((exec metricsStep carriesRunId .new
      [.enter started, .enter cancelled, .ask started, .ask cancelled, .update [down, total],
        .update [up], .update [total], .update [], .update []]).map fun s =>
        (s.entered.card, s.updating.card, s.metrics.startedRuns.card,
          s.metrics.gauge runsActive)) =
      some (0, 0, 0, 1) := by decide +kernel
  obtain ⟨s, hrun, hreads⟩ := exists_reach_of_exec heval
  simp only [Prod.mk.injEq, Multiset.card_eq_zero] at hreads
  obtain ⟨hentered, hupdating, hcard, hgauge⟩ := hreads
  have hexact := hall s hrun ⟨hentered, hupdating⟩
  rw [hgauge, hcard] at hexact
  cases hexact

end AitpPlayground.Proofs.Observability
