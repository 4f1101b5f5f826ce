import AitpPlayground.Agents.HandshakeReplay
import Mathlib.Tactic.Linarith

/-!
# `AitpPlayground.Proofs.Agents.HandshakeReplay`: what the replay guard promises

Two mechanisms share the work. The deny list refuses an id it holds, and the window refuses
an envelope whose timestamp is too old. An id is forgotten when `timestamp + tolerance` is
past, which is the moment the window starts to refuse its envelope.

`check_cases` states what one call can do. From it:

* `check_refuses_replay`: an admitted id is refused until its timestamp plus the tolerance,
  and the same id with the same timestamp is refused for ever. The invariant of the run is
  `Remembers`: the clock is past the window, or the deny list still holds the id.
* `guard_bounded`: in a run whose calls all meet `CallOk`, every admitted timestamp lies in
  the window and every held id belongs to an admission that is still in it.

The first is about exact arithmetic, the second about doubles. `CallOk` excludes three kinds of
calls. A NaN timestamp makes both comparisons false, so the window admits it and the prune never
forgets it: `nan_is_admitted_and_kept`. A body whose header cannot be read is refused before the
prune, so it leaves ids that are past their window in place. And a difference or a sum that is
rounded may fall on the other side of the bound it is compared with; `callOk_of_grid` says that
this takes numbers without a common unit.
-/

set_option autoImplicit false

namespace AitpPlayground.Proofs.Agents

open AitpPlayground.Lib
open AitpPlayground.Agents

/-! ### The window -/

/-- The window test of `check` on a value other than NaN, where no rounding gives NaN: a finite
value whose rounded difference to the clock is within the tolerance. -/
theorem finite_of_outsideWindow {round : ℚ → PyFloat} {g : ReplayGuard} {now : ℚ} {x : PyFloat}
    (hx : x ≠ .nan) (h : g.outsideWindow round now x = false) : ∃ q, x = .fin q := by
  cases x with
  | fin q => exact ⟨q, rfl⟩
  | nan => exact absurd rfl hx
  | inf neg =>
    cases neg <;> simp [ReplayGuard.outsideWindow, PyFloat.sub, PyFloat.abs, PyFloat.lt] at h

/-- The window test in exact arithmetic. -/
theorem outsideWindow_exact {g : ReplayGuard} {now q : ℚ} :
    g.outsideWindow .fin now (.fin q) = false ↔ |now - q| ≤ g.toleranceSecs := by
  simp [ReplayGuard.outsideWindow, PyFloat.sub, PyFloat.abs]

/-- The expiry of a finite timestamp in exact arithmetic. -/
theorem addTolerance_exact {ts : PyNum} {s tol : ℚ} (hfin : ts.value = .fin s) :
    ts.addTolerance tol .fin = .fin (s + tol) := by
  cases ts with
  | int n =>
    cases hfin
    simp [PyNum.addTolerance, PyFloat.add]
  | float x =>
    cases hfin
    rfl

/-! ### One call -/

/-- The deny list after `_prune`. -/
theorem get?_prune (g : ReplayGuard) (now : ℚ) (m : String) :
    (g.prune now).seen.get? m = (g.seen.get? m).filter fun e => !e.lt (.fin now) :=
  Dict.get?_filter _ _ _

/-- What one call can do. It refuses a body whose header it cannot read and changes
nothing. It refuses a readable envelope after the prune. Or it records the id of an
envelope that is not held, passes the window test and finds room. -/
theorem check_cases (round : ℚ → PyFloat) (py : PyLib) (g : ReplayGuard) (now : ℚ)
    (body : String) :
    (∃ exc, readHeader py body = .error exc ∧ g.check round py now body = (g, .error exc)) ∨
    (∃ header exc, readHeader py body = .ok header ∧
      g.check round py now body = (g.prune now, .error exc)) ∨
    (∃ m ts x, readHeader py body = .ok (m, some ts) ∧ (g.prune now).seen.get? m = none ∧
      ts.toFloat round = .ok x ∧ g.outsideWindow round now x = false ∧
      ¬ g.maxEntries ≤ (g.prune now).seen.size ∧
      g.check round py now body =
        ({ g.prune now with
            seen := (g.prune now).seen.set m (ts.addTolerance g.toleranceSecs round) },
          .ok ())) := by
  cases hread : readHeader py body with
  | error exc => exact .inl ⟨exc, rfl, by simp [ReplayGuard.check, hread]⟩
  | ok header =>
    obtain ⟨m, timestamp⟩ := header
    right
    -- The tests in the order of the source: the deny list, the window, the room.
    cases hseen : (g.prune now).seen.get? m with
    | some expiry => exact .inl ⟨_, _, rfl, by simp [ReplayGuard.check, hread, hseen]; rfl⟩
    | none =>
      cases timestamp with
      | none => exact .inl ⟨_, _, rfl, by simp [ReplayGuard.check, hread, hseen]; rfl⟩
      | some ts =>
        cases hfloat : ts.toFloat round with
        | error exc =>
          exact .inl ⟨_, _, rfl, by simp [ReplayGuard.check, hread, hseen, hfloat]; rfl⟩
        | ok x =>
          have hprune : (g.prune now).outsideWindow round now x = g.outsideWindow round now x :=
            rfl
          cases hwin : g.outsideWindow round now x with
          | true =>
            refine .inl ⟨_, (g.prune now).expired, rfl, ?_⟩
            simp only [ReplayGuard.check, hread, hseen, hfloat, hprune, hwin]
            rfl
          | false =>
            by_cases hfull : g.maxEntries ≤ (g.prune now).seen.size
            · refine .inl ⟨_, .rejected ⟨none, "replay deny list is full", 429⟩, rfl, ?_⟩
              simp only [ReplayGuard.check, hread, hseen, hfloat, hprune, hwin]
              rw [show (g.prune now).maxEntries = g.maxEntries from rfl, if_pos hfull]
              rfl
            · refine .inr ⟨m, ts, x, rfl, hseen, hfloat, hwin, hfull, ?_⟩
              simp only [ReplayGuard.check, hread, hseen, hfloat, hprune, hwin]
              rw [show (g.prune now).maxEntries = g.maxEntries from rfl, if_neg hfull]
              rfl

/-- An admission: the header, the window test, and the entry it leaves. -/
theorem check_eq_ok {round : ℚ → PyFloat} {py : PyLib} {g : ReplayGuard} {now : ℚ}
    {body : String} (h : (g.check round py now body).2 = .ok ()) :
    ∃ m ts x, readHeader py body = .ok (m, some ts) ∧ (g.prune now).seen.get? m = none ∧
      ts.toFloat round = .ok x ∧ g.outsideWindow round now x = false ∧
      (g.check round py now body).1 =
        { g.prune now with
            seen := (g.prune now).seen.set m (ts.addTolerance g.toleranceSecs round) } := by
  rcases check_cases round py g now body with
    ⟨e, -, he⟩ | ⟨_, e, -, he⟩ | ⟨m, ts, x, hm, hn, hx, hw, -, he⟩
  · rw [he] at h
    cases h
  · rw [he] at h
    cases h
  · exact ⟨m, ts, x, hm, hn, hx, hw, by rw [he]⟩

/-- No call changes the tolerance. -/
theorem check_toleranceSecs (round : ℚ → PyFloat) (py : PyLib) (g : ReplayGuard) (now : ℚ)
    (body : String) : (g.check round py now body).1.toleranceSecs = g.toleranceSecs := by
  rcases check_cases round py g now body with
    ⟨e, -, he⟩ | ⟨_, e, -, he⟩ | ⟨_, _, _, -, -, -, -, -, he⟩ <;>
    rw [he] <;> rfl

/-- A call of a run: the clock does not go back, and the guard has checked the body. -/
theorem guardStep_eq_some {round : ℚ → PyFloat} {py : PyLib} {r r' : GuardRun} {c : CheckCall}
    (h : guardStep round py r c = some r') :
    r.clock ≤ c.now ∧ r' =
      { guard := (r.guard.check round py c.now c.body).1
        clock := c.now
        admitted := admission round py r.guard c ++ r.admitted } := by
  simp only [guardStep] at h
  split at h
  case isTrue hclock =>
    cases h
    exact ⟨hclock, rfl⟩
  case isFalse => cases h

/-! ### An admitted id is not admitted again -/

/-- The memory of an admission with id `m` and finite timestamp `s`: the window of the
timestamp is past, or the deny list holds `m` until it is. -/
def Remembers (m : String) (s tol : ℚ) (r : GuardRun) : Prop :=
  r.guard.toleranceSecs = tol ∧
    (s + tol < r.clock ∨ r.guard.seen.get? m = some (.fin (s + tol)))

/-- The deny list holds a remembered id until its window is past. -/
theorem Remembers.held {m : String} {s tol t : ℚ} {r : GuardRun} (hr : Remembers m s tol r)
    (hclock : r.clock ≤ t) (hpast : ¬ s + tol < t) :
    r.guard.seen.get? m = some (.fin (s + tol)) := by
  rcases hr.2 with h | h
  · exact absurd (lt_of_lt_of_le h hclock) hpast
  · exact h

/-- A call keeps the memory of an admission. The prune drops `m` only when the window is
past, and a recorded id is not `m`, which was held. -/
theorem remembers_step {py : PyLib} {m : String} {s tol : ℚ} {r r' : GuardRun} {c : CheckCall}
    (hr : Remembers m s tol r) (hstep : guardStep .fin py r c = some r') :
    Remembers m s tol r' := by
  obtain ⟨hclock, rfl⟩ := guardStep_eq_some hstep
  refine ⟨by rw [check_toleranceSecs, hr.1], ?_⟩
  by_cases hpast : s + tol < c.now
  · exact .inl hpast
  right
  have hheld := hr.held hclock hpast
  have hpruned : (r.guard.prune c.now).seen.get? m = some (.fin (s + tol)) := by
    rw [get?_prune, hheld]
    simp [hpast]
  rcases check_cases .fin py r.guard c.now c.body with
    ⟨e, -, he⟩ | ⟨_, e, -, he⟩ | ⟨m', ts, _, -, hnew, -, -, -, he⟩
  · rw [he]
    exact hheld
  · rw [he]
    exact hpruned
  · rw [he]
    -- An id that is recorded was not held, so it is not `m`.
    have hne : m' ≠ m := by
      rintro rfl
      rw [hpruned] at hnew
      cases hnew
    exact (Dict.get?_set_ne _ _ hne).trans hpruned

/-- The memory of an admission right after the call that made it. -/
theorem remembers_of_admitted {py : PyLib} {r r' : GuardRun} {c : CheckCall} {m : String}
    {ts : PyNum} {s : ℚ} (hhead : readHeader py c.body = .ok (m, some ts))
    (hfin : ts.value = .fin s) (hadm : (r.guard.check .fin py c.now c.body).2 = .ok ())
    (hstep : guardStep .fin py r c = some r') : Remembers m s r.guard.toleranceSecs r' := by
  obtain ⟨m', ts', _, hhead', -, -, -, hguard⟩ := check_eq_ok hadm
  rw [hhead] at hhead'
  cases hhead'
  obtain ⟨-, rfl⟩ := guardStep_eq_some hstep
  refine ⟨check_toleranceSecs _ _ _ _ _, .inr ?_⟩
  rw [hguard, addTolerance_exact hfin]
  simp

/-- A remembered id is refused: by the deny list while it holds it, and after that by the
window, when the timestamp is the one of the admission. -/
theorem check_refuses_remembered {py : PyLib} {m : String} {s tol t : ℚ} {r : GuardRun}
    (hr : Remembers m s tol r) (hclock : r.clock ≤ t) {body : String} {ts : Option PyNum}
    (hhead : readHeader py body = .ok (m, ts))
    (hlate : t ≤ s + tol ∨ ts.map PyNum.value = some (.fin s)) :
    (r.guard.check .fin py t body).2 ≠ .ok () := by
  intro hadm
  obtain ⟨m', ts', x, hhead', hnew, hx, hwin, -⟩ := check_eq_ok hadm
  rw [hhead] at hhead'
  cases hhead'
  by_cases hpast : s + tol < t
  · -- The deny list may have forgotten `m`, so the window has to refuse.
    rcases hlate with hle | hts
    · exact absurd hpast (not_lt.mpr hle)
    · have hv : ts'.value = .fin s := by simpa using hts
      rw [PyNum.toFloat_eq_ok hx] at hv
      rw [hv, outsideWindow_exact, hr.1] at hwin
      have := le_abs_self (t - s)
      linarith
  · -- The deny list still holds `m`, also after the prune.
    rw [get?_prune, hr.held hclock hpast] at hnew
    simp [hpast] at hnew

/-- **Handshake replay is refused**, in exact arithmetic. Take any state of a guard and a call
that admits the id `m` with a finite timestamp `s`. Follow it with any calls under a
nondecreasing clock, admitted or refused. Then the guard still holds `m` as long as the clock
has not passed `s` plus the tolerance. A later envelope with the id `m` is not admitted up to
that time, whatever its timestamp, and with the timestamp `s` it is never admitted. -/
theorem check_refuses_replay (py : PyLib) {r₁ r₂ r₃ : GuardRun} {c₁ c₂ : CheckCall}
    {m : String} {ts₁ : PyNum} {ts₂ : Option PyNum} {s : ℚ}
    (hhead₁ : readHeader py c₁.body = .ok (m, some ts₁)) (hfin : ts₁.value = .fin s)
    (hadm : (r₁.guard.check .fin py c₁.now c₁.body).2 = .ok ())
    (hstep : guardStep .fin py r₁ c₁ = some r₂) (hrun : Reach (guardStep .fin py) anyStep r₂ r₃)
    (hclock : r₃.clock ≤ c₂.now) (hhead₂ : readHeader py c₂.body = .ok (m, ts₂)) :
    (r₃.clock ≤ s + r₁.guard.toleranceSecs →
      r₃.guard.seen.get? m = some (.fin (s + r₁.guard.toleranceSecs))) ∧
    (c₂.now ≤ s + r₁.guard.toleranceSecs →
      (r₃.guard.check .fin py c₂.now c₂.body).2 ≠ .ok ()) ∧
    (ts₂.map PyNum.value = some (.fin s) →
      (r₃.guard.check .fin py c₂.now c₂.body).2 ≠ .ok ()) := by
  have hrem : Remembers m s r₁.guard.toleranceSecs r₃ :=
    Reach.invariant (fun _ _ _ h _ hs => remembers_step h hs) hrun
      (remembers_of_admitted hhead₁ hfin hadm hstep)
  refine ⟨fun hle => ?_, fun hle => ?_, fun hts => ?_⟩
  · exact hrem.held (le_refl _) (not_lt.mpr hle)
  · exact check_refuses_remembered hrem hclock hhead₂ (.inl hle)
  · exact check_refuses_remembered hrem hclock hhead₂ (.inr hts)

/-- One call, when the clock does not go back. -/
theorem guardStep_eq {py : PyLib} {r : GuardRun} {c : CheckCall} (h : r.clock ≤ c.now) :
    guardStep .fin py r c = some
      { guard := (r.guard.check .fin py c.now c.body).1
        clock := c.now
        admitted := admission .fin py r.guard c ++ r.admitted } := if_pos h

/-- A library that reads two envelopes with one id: `first` and `again`, and an envelope
with a NaN timestamp. -/
def replayLib : PyLib := .reading
  [("first", .obj [("message_id", .str "m"), ("timestamp", .num (.int 100))]),
   ("again", .obj [("timestamp", .num (.int 399)), ("message_id", .str "m")]),
   ("nan", .obj [("message_id", .str "n"), ("timestamp", .num (.float .nan))])]

/-- The state after the admission of `first`. -/
def afterFirst : GuardRun :=
  { guard := ((GuardRun.start 300 2 100).guard.check .fin replayLib 100 "first").1
    clock := 100
    admitted := admission .fin replayLib (.new 300 2) ⟨100, "first"⟩ }

/-- The id of `first`, admitted at its own time and followed by an unreadable body, is
refused at the last moment of its window. -/
theorem check_refuses_replay_again :
    ∃ r, Reach (guardStep .fin replayLib) anyStep (.start 300 2 100) r ∧
      (r.guard.check .fin replayLib 400 "again").2 ≠ .ok () := by
  have hfirst : guardStep .fin replayLib (.start 300 2 100) ⟨100, "first"⟩ = some afterFirst := by
    decide +kernel
  have hnext : guardStep .fin replayLib afterFirst ⟨350, "not json"⟩ = some _ :=
    guardStep_eq (show (100 : ℚ) ≤ 350 by norm_num)
  have hrun : Reach (guardStep .fin replayLib) anyStep afterFirst _ :=
    (Reach.refl _).snoc trivial hnext
  refine ⟨_, ((Reach.refl _).snoc trivial hfirst).trans hrun, ?_⟩
  have hhead : readHeader replayLib "first" = .ok ("m", some (.int 100)) := rfl
  have hhead' : readHeader replayLib "again" = .ok ("m", some (.int 399)) := rfl
  exact (@check_refuses_replay replayLib _ _ _ ⟨100, "first"⟩ ⟨400, "again"⟩ _ _ _ 100
    hhead (by simp [PyNum.value]) (by decide +kernel) hfirst hrun
    (show (350 : ℚ) ≤ 400 by norm_num) hhead').2.1
    (by norm_num [GuardRun.start, ReplayGuard.new])

/-! ### The window and the memory are bounded -/

/-- The timestamp satisfies `now - tol <= ts <= now + tol`. -/
def InWindow (now tol : ℚ) (ts : PyNum) : Prop :=
  (PyFloat.fin (now - tol)).le ts.value = true ∧ ts.value.le (.fin (now + tol)) = true

/-- The held entry `e` belongs to an admission whose timestamp is at least `now - tol`. -/
def InForce (r : GuardRun) (now : ℚ) (e : String × PyFloat) : Prop :=
  ∃ a ∈ r.admitted, a.messageId = e.1 ∧
    e.2 = a.timestamp.addTolerance r.guard.toleranceSecs roundDouble ∧
    (PyFloat.fin (now - r.guard.toleranceSecs)).le a.timestamp.value = true

instance (r : GuardRun) (now : ℚ) (e : String × PyFloat) : Decidable (InForce r now e) :=
  inferInstanceAs (Decidable (∃ a ∈ r.admitted, _))

/-- Every held id belongs to an admission whose timestamp is at least `now - tol`, where
`now` is the clock of the last call. -/
def Bounded (r : GuardRun) : Prop :=
  ∀ e ∈ r.guard.seen.entries, InForce r r.clock e

/-- The float test of the window lets pass a timestamp that is not in it: a NaN, or a
timestamp that is off by more than the tolerance, by so little that the difference of the two
floats is rounded to the tolerance or less. -/
def Slips (g : ReplayGuard) (now : ℚ) (ts : PyNum) : Prop :=
  match ts.value with
  | .nan => True
  | .fin q => g.toleranceSecs < |now - q| ∧
      ∃ x ∈ (ts.toFloat roundDouble).toOption, g.outsideWindow roundDouble now x = false
  | .inf _ => False

instance (g : ReplayGuard) (now : ℚ) (ts : PyNum) : Decidable (Slips g now ts) :=
  match h : ts.value with
  | .nan => isTrue (by simp only [Slips, h])
  | .fin q => decidable_of_iff (g.toleranceSecs < |now - q| ∧
      ∃ x ∈ (ts.toFloat roundDouble).toOption, g.outsideWindow roundDouble now x = false)
      (by simp only [Slips, h])
  | .inf _ => isFalse (by simp only [Slips, h, not_false_eq_true])

/-- The call does not reach one of the gaps. When the header cannot be read, nothing is pruned,
so no held id may be past its window. When it can, no id that is past its window is kept
because the time to forget it was rounded up to the clock or beyond. And a timestamp that slips
through the window test comes with an id that is held, or when the deny list is full, so that
the call is refused. -/
def CallOk (py : PyLib) (r : GuardRun) (c : CheckCall) : Prop :=
  match readHeader py c.body with
  | .error _ => ∀ e ∈ r.guard.seen.entries, InForce r c.now e
  | .ok (m, timestamp) =>
    (∀ e ∈ r.guard.seen.entries, e.2.lt (.fin c.now) = false → InForce r c.now e) ∧
    ∀ ts ∈ timestamp, Slips r.guard c.now ts →
      ((r.guard.prune c.now).seen.get? m).isSome = true ∨
        r.guard.maxEntries ≤ (r.guard.prune c.now).seen.size

instance (py : PyLib) (r : GuardRun) (c : CheckCall) : Decidable (CallOk py r c) :=
  match h : readHeader py c.body with
  | .error _ => decidable_of_iff (∀ e ∈ r.guard.seen.entries, InForce r c.now e)
      (by simp only [CallOk, h])
  | .ok (m, timestamp) => decidable_of_iff
      ((∀ e ∈ r.guard.seen.entries, e.2.lt (.fin c.now) = false → InForce r c.now e) ∧
        ∀ ts ∈ timestamp, Slips r.guard c.now ts →
          ((r.guard.prune c.now).seen.get? m).isSome = true ∨
            r.guard.maxEntries ≤ (r.guard.prune c.now).seen.size) (by simp only [CallOk, h])

-- With the tolerance 300 at the time 400.1, a timestamp of 100.1 is off by more than 300, and
-- the difference of the two doubles is 300.
example : Slips (.new 300 1) (3519316818185421 / 8796093022208)
    (.float (.fin (3521955646092083 / 35184372088832))) := by decide +kernel

/-- A timestamp that passes the window test and does not slip through it is in the window. -/
theorem near_of_outsideWindow {g : ReplayGuard} {now : ℚ} {ts : PyNum} {x : PyFloat}
    (hx : ts.toFloat roundDouble = .ok x) (hwin : g.outsideWindow roundDouble now x = false)
    (hslip : ¬Slips g now ts) : ∃ q, ts.value = .fin q ∧ |now - q| ≤ g.toleranceSecs := by
  cases hv : ts.value with
  | nan => simp [Slips, hv] at hslip
  | fin q =>
    refine ⟨q, rfl, ?_⟩
    simp only [Slips, hv, hx] at hslip
    by_contra hfar
    exact hslip ⟨not_le.mp hfar, x, rfl, hwin⟩
  | inf neg =>
    cases ts with
    | int n => cases hv
    | float y =>
      cases hv
      cases hx
      obtain ⟨q, hq⟩ := finite_of_outsideWindow (by simp) hwin
      cases hq

/-- A timestamp that slips through the window test is not in the window. -/
theorem not_inWindow_of_slips {g : ReplayGuard} {now : ℚ} {ts : PyNum} (hslip : Slips g now ts) :
    ¬InWindow now g.toleranceSecs ts := by
  rintro ⟨hlo, hhi⟩
  cases hv : ts.value with
  | nan => simp [hv, PyFloat.le] at hlo
  | fin q =>
    simp only [Slips, hv] at hslip
    simp only [hv, PyFloat.le_fin, decide_eq_true_eq] at hlo hhi
    exact absurd hslip.1 (not_lt.mpr (abs_le.mpr ⟨by linarith, by linarith⟩))
  | inf neg => simp [Slips, hv] at hslip

/-- A timestamp that slips through passes the window test. -/
theorem outsideWindow_of_slips {g : ReplayGuard} {now : ℚ} {ts : PyNum} (hslip : Slips g now ts) :
    ∃ x, ts.toFloat roundDouble = .ok x ∧ g.outsideWindow roundDouble now x = false := by
  cases hv : ts.value with
  | nan =>
    cases ts with
    | int n => cases hv
    | float y =>
      cases hv
      exact ⟨.nan, rfl, rfl⟩
  | fin q =>
    simp only [Slips, hv] at hslip
    obtain ⟨-, x, hx, hwin⟩ := hslip
    refine ⟨x, ?_, hwin⟩
    cases hfloat : ts.toFloat roundDouble with
    | error exc => simp [hfloat, Except.toOption] at hx
    | ok y => simpa [hfloat, Except.toOption] using hx
  | inf neg => simp [Slips, hv] at hslip

/-- What is left after the prune was there before, and is not past its window. -/
theorem mem_prune {g : ReplayGuard} {now : ℚ} {e : String × PyFloat} :
    e ∈ (g.prune now).seen.entries ↔ e ∈ g.seen.entries ∧ e.2.lt (.fin now) = false := by
  simp [ReplayGuard.prune, Dict.filter]

/-- The admissions after a call. -/
theorem admission_of_ok {round : ℚ → PyFloat} {py : PyLib} {g : ReplayGuard} {c : CheckCall}
    {m : String} {ts : PyNum} (hadm : (g.check round py c.now c.body).2 = .ok ())
    (hhead : readHeader py c.body = .ok (m, some ts)) :
    admission round py g c = [⟨m, ts, c.now⟩] := by
  simp [admission, hadm, hhead]

/-- A call that refuses admits nothing. -/
theorem admission_of_error {round : ℚ → PyFloat} {py : PyLib} {g : ReplayGuard} {c : CheckCall}
    {exc : CheckError} (h : (g.check round py c.now c.body).2 = .error exc) :
    admission round py g c = [] := by
  simp [admission, h]

/-- More admissions and the same tolerance: an entry in force stays in force. -/
theorem InForce.mono {r r' : GuardRun} {now : ℚ} {e : String × PyFloat} (he : InForce r now e)
    (htol : r'.guard.toleranceSecs = r.guard.toleranceSecs)
    (hsub : ∀ a ∈ r.admitted, a ∈ r'.admitted) : InForce r' now e := by
  obtain ⟨a, ha, hid, hexp, hle⟩ := he
  exact ⟨a, hsub a ha, hid, by rw [htol]; exact hexp, by rw [htol]; exact hle⟩

/-- A call that meets `CallOk` keeps the memory bounded. -/
theorem bounded_step {py : PyLib} {r r' : GuardRun} {c : CheckCall} (hok : CallOk py r c)
    (hstep : guardStep roundDouble py r c = some r') : Bounded r' := by
  obtain ⟨-, rfl⟩ := guardStep_eq_some hstep
  have htol := check_toleranceSecs roundDouble py r.guard c.now c.body
  have hsub : ∀ a ∈ r.admitted, a ∈ admission roundDouble py r.guard c ++ r.admitted :=
    fun a ha => List.mem_append_right _ ha
  intro e he
  rcases check_cases roundDouble py r.guard c.now c.body with
    ⟨exc, hhead, heq⟩ | ⟨⟨m, ts⟩, exc, hhead, heq⟩ | ⟨m, ts, x, hhead, hnew, hx, hwin, hroom, heq⟩
  · -- Nothing was pruned, so `CallOk` has to say that nothing was due.
    have he' : e ∈ r.guard.seen.entries := by simpa [heq] using he
    simp only [CallOk, hhead] at hok
    exact (hok e he').mono htol hsub
  · have he' : e ∈ (r.guard.prune c.now).seen.entries := by simpa [heq] using he
    obtain ⟨hmem, hkept⟩ := mem_prune.mp he'
    simp only [CallOk, hhead] at hok
    exact (hok.1 e hmem hkept).mono htol hsub
  · simp only [CallOk, hhead] at hok
    have he' : e ∈ ((r.guard.prune c.now).seen.set m
        (ts.addTolerance r.guard.toleranceSecs roundDouble)).entries := by simpa [heq] using he
    rcases Dict.mem_set he' with rfl | hold
    · -- The id was new and there was room, so the timestamp did not slip through.
      have hslip : ¬Slips r.guard c.now ts := fun h =>
        (hok.2 ts rfl h).elim (by simp [hnew]) hroom
      obtain ⟨q, hq, habs⟩ := near_of_outsideWindow hx hwin hslip
      have hadm : (r.guard.check roundDouble py c.now c.body).2 = .ok () := by rw [heq]
      refine ⟨⟨m, ts, c.now⟩, ?_, rfl, by rw [htol], ?_⟩
      · rw [admission_of_ok hadm hhead]
        simp
      · rw [htol, hq]
        simp only [PyFloat.le_fin, decide_eq_true_eq]
        linarith [le_abs_self (c.now - q)]
    · obtain ⟨hmem, hkept⟩ := mem_prune.mp hold
      exact (hok.1 e hmem hkept).mono htol hsub

/-- An admitted timestamp lies in the window, when the call meets `CallOk`. -/
theorem inWindow_of_admitted {py : PyLib} {r : GuardRun} {c : CheckCall} (hok : CallOk py r c)
    (hadm : (r.guard.check roundDouble py c.now c.body).2 = .ok ()) :
    ∃ m ts, readHeader py c.body = .ok (m, some ts) ∧
      InWindow c.now r.guard.toleranceSecs ts := by
  rcases check_cases roundDouble py r.guard c.now c.body with
    ⟨e, -, he⟩ | ⟨_, e, -, he⟩ | ⟨m, ts, x, hhead, hnew, hx, hwin, hroom, -⟩
  · rw [he] at hadm
    cases hadm
  · rw [he] at hadm
    cases hadm
  · refine ⟨m, ts, hhead, ?_⟩
    simp only [CallOk, hhead] at hok
    have hslip : ¬Slips r.guard c.now ts := fun h =>
      (hok.2 ts rfl h).elim (by simp [hnew]) hroom
    obtain ⟨q, hq, habs⟩ := near_of_outsideWindow hx hwin hslip
    obtain ⟨hlo, hhi⟩ := abs_le.mp habs
    rw [InWindow, hq]
    simp only [PyFloat.le_fin, decide_eq_true_eq]
    constructor <;> linarith

/-- A timestamp that slips through is admitted when its id is not held and the deny list has
room. -/
theorem check_admits_slip {py : PyLib} {g : ReplayGuard} {now : ℚ} {body m : String} {ts : PyNum}
    (hhead : readHeader py body = .ok (m, some ts)) (hslip : Slips g now ts)
    (hnew : ((g.prune now).seen.get? m).isSome = false)
    (hroom : ¬ g.maxEntries ≤ (g.prune now).seen.size) :
    (g.check roundDouble py now body).2 = .ok () := by
  obtain ⟨x, hx, hwin⟩ := outsideWindow_of_slips hslip
  have hprune : (g.prune now).outsideWindow roundDouble now x = false := hwin
  have hmax : (g.prune now).maxEntries = g.maxEntries := rfl
  simp [ReplayGuard.check, hhead, hnew, hx, hprune, hmax, hroom]

/-- A call after which the memory is bounded and the admitted timestamp in the window met
`CallOk`: an entry that is not in force and a timestamp outside the window are what they
forbid. -/
theorem callOk_of_bounded {py : PyLib} {r r' : GuardRun} {c : CheckCall}
    (hstep : guardStep roundDouble py r c = some r') (hr' : Bounded r')
    (hwindow : (r.guard.check roundDouble py c.now c.body).2 = .ok () →
      ∃ m ts, readHeader py c.body = .ok (m, some ts) ∧
        InWindow c.now r.guard.toleranceSecs ts) : CallOk py r c := by
  obtain ⟨-, rfl⟩ := guardStep_eq_some hstep
  have htol := check_toleranceSecs roundDouble py r.guard c.now c.body
  rcases check_cases roundDouble py r.guard c.now c.body with
    ⟨exc, hhead, heq⟩ | ⟨⟨m, timestamp⟩, exc, hhead, heq⟩ |
    ⟨m, ts, x, hhead, hnew, hx, hwin, hroom, heq⟩
  · have hraised : (r.guard.check roundDouble py c.now c.body).2 = .error exc := by rw [heq]
    simp only [CallOk, hhead]
    intro e he
    refine (hr' e (by simpa [heq] using he)).mono htol.symm ?_
    rw [admission_of_error hraised]
    exact fun a ha => ha
  · have hraised : (r.guard.check roundDouble py c.now c.body).2 = .error exc := by rw [heq]
    simp only [CallOk, hhead]
    refine ⟨fun e he hkept => ?_, ?_⟩
    · refine (hr' e (by simpa [heq] using mem_prune.mpr ⟨he, hkept⟩)).mono htol.symm ?_
      rw [admission_of_error hraised]
      exact fun a ha => ha
    · rintro ts rfl hslip
      -- What slips through and is neither held nor turned away would have been admitted.
      by_contra hcon
      rw [not_or, Bool.not_eq_true] at hcon
      have hadm := check_admits_slip hhead hslip hcon.1 hcon.2
      rw [heq] at hadm
      cases hadm
  · have hadm : (r.guard.check roundDouble py c.now c.body).2 = .ok () := by rw [heq]
    simp only [CallOk, hhead]
    refine ⟨fun e he hkept => ?_, ?_⟩
    · -- A kept entry has another id than the new one, so its admission is an older one.
      have hpruned := mem_prune.mpr ⟨he, hkept⟩
      have hne : m ≠ e.1 := by
        rintro rfl
        rw [(Dict.get?_eq_some_iff _ _ _).mpr hpruned] at hnew
        cases hnew
      have hentry : e ∈ ((r.guard.prune c.now).seen.set m
          (ts.addTolerance r.guard.toleranceSecs roundDouble)).entries :=
        (Dict.get?_eq_some_iff _ _ _).mp
          ((Dict.get?_set_ne _ _ hne).trans ((Dict.get?_eq_some_iff _ _ _).mpr hpruned))
      obtain ⟨a, ha, hid, hexp, hle⟩ := hr' e (by simpa [heq] using hentry)
      rw [admission_of_ok hadm hhead] at ha
      rcases List.mem_append.mp ha with hself | hold
      · rw [List.mem_singleton.mp hself] at hid
        exact absurd hid hne
      · exact ⟨a, hold, hid, by rw [← htol]; exact hexp, by rw [← htol]; exact hle⟩
    · intro ts' hmem hslip
      cases hmem
      obtain ⟨m', ts', hhead', hin⟩ := hwindow hadm
      rw [hhead] at hhead'
      cases hhead'
      exact absurd hin (not_inWindow_of_slips hslip)

/-- A deny list whose ids are all past their window has at most one id after a call that
reads a header. -/
theorem size_le_one_of_past {py : PyLib} {g : ReplayGuard} {now : ℚ} {body : String}
    {header : String × Option PyNum} (hhead : readHeader py body = .ok header)
    (hpast : ∀ e ∈ g.seen.entries, e.2.lt (.fin now) = true) :
    (g.check roundDouble py now body).1.seen.size ≤ 1 := by
  have hempty : (g.prune now).seen.entries = [] := by
    rw [List.eq_nil_iff_forall_not_mem]
    intro e he
    obtain ⟨hmem, hkept⟩ := mem_prune.mp he
    rw [hpast e hmem] at hkept
    cases hkept
  rcases check_cases roundDouble py g now body with
    ⟨_, h, -⟩ | ⟨_, _, -, heq⟩ | ⟨m, ts, x, -, -, -, -, -, heq⟩
  · rw [h] at hhead
    cases hhead
  · simp [heq, Dict.size, hempty]
  · simp [heq, Dict.size, Dict.set, Dict.keys, hempty]

/-! ### Numbers on a common grid do not slip -/

section Grid

variable {k : ℤ} {tol now q : ℚ} {ts : PyNum}

/-- A timestamp on the grid becomes the float that it is. -/
theorem toFloat_of_grid (hts : ts.value = .fin q) (hq : OnGrid k q) (hlo : -1074 ≤ k)
    (hhi : k ≤ 971) {x : PyFloat} (hx : ts.toFloat roundDouble = .ok x) : x = .fin q := by
  cases ts with
  | int n =>
    cases hts
    simp only [PyNum.toFloat] at hx
    split at hx
    · cases hx
    · cases hx
      exact roundDouble_of_grid hq hlo hhi
  | float y =>
    cases hts
    cases hx
    rfl

/-- On a grid of doubles the expiry is exact. -/
theorem addTolerance_of_grid (hts : ts.value = .fin q) (hq : OnGrid k q) (htol : OnGrid k tol)
    (hlo : -1074 ≤ k) (hhi : k ≤ 971) :
    ts.addTolerance tol roundDouble = .fin (q + tol) := by
  have hsum := roundDouble_add_of_grid hq htol hlo hhi
  cases ts with
  | int n =>
    cases hts
    simp only [PyNum.addTolerance]
    split
    · rfl
    · rw [roundDouble_of_grid hq hlo hhi, roundDouble_of_grid htol hlo hhi]
      exact hsum
  | float y =>
    cases hts
    simp only [PyNum.addTolerance, roundDouble_of_grid htol hlo hhi]
    exact hsum

/-- On a grid of doubles no timestamp slips through the window test. -/
theorem not_slips_of_grid {g : ReplayGuard} (hts : ts.value = .fin q) (hq : OnGrid k q)
    (hnow : OnGrid k now) (hlo : -1074 ≤ k) (hhi : k ≤ 971) : ¬Slips g now ts := by
  intro hslip
  obtain ⟨x, hx, hwin⟩ := outsideWindow_of_slips hslip
  rw [toFloat_of_grid hts hq hlo hhi hx] at hwin
  simp only [Slips, hts] at hslip
  simp only [ReplayGuard.outsideWindow, PyFloat.sub, roundDouble_sub_of_grid hnow hq hlo hhi,
    PyFloat.abs, PyFloat.lt_fin, decide_eq_false_iff_not] at hwin
  exact hwin hslip.1

/-- **Only a NaN gets through on a grid.** Where the tolerance, the clock and the timestamps are
whole multiples of one power of two below `2 ^ 52` of them, every call with a readable header
meets `CallOk`. -/
theorem callOk_of_grid {py : PyLib} {r : GuardRun} {c : CheckCall} {m : String}
    {timestamp : Option PyNum} (hlo : -1074 ≤ k) (hhi : k ≤ 971) (hr : Bounded r)
    (htol : OnGrid k r.guard.toleranceSecs) (hnow : OnGrid k c.now)
    (hadm : ∀ a ∈ r.admitted, ∃ q, a.timestamp.value = .fin q ∧ OnGrid k q)
    (hhead : readHeader py c.body = .ok (m, timestamp))
    (hts : ∀ ts ∈ timestamp, ∃ q, ts.value = .fin q ∧ OnGrid k q) : CallOk py r c := by
  simp only [CallOk, hhead]
  refine ⟨fun e he hkept => ?_, fun ts hmem hslip => ?_⟩
  · obtain ⟨a, ha, hid, hexp, -⟩ := hr e he
    obtain ⟨q, hq, hgrid⟩ := hadm a ha
    refine ⟨a, ha, hid, hexp, ?_⟩
    rw [hexp, addTolerance_of_grid hq hgrid htol hlo hhi, PyFloat.lt_fin,
      decide_eq_false_iff_not, not_lt] at hkept
    rw [hq, PyFloat.le_fin, decide_eq_true_eq]
    linarith
  · obtain ⟨q, hq, hgrid⟩ := hts ts hmem
    exact absurd hslip (not_slips_of_grid hq hgrid hnow hlo hhi)

end Grid

/-- A library that reads three envelopes: the timestamps `100` and `100.1`, the second as the
double it is, and NaN. -/
def windowLib : PyLib := .reading
  [("whole", .obj [("message_id", .str "m"), ("timestamp", .num (.int 100))]),
   ("tenth", .obj [("message_id", .str "t"),
     ("timestamp", .num (.float (.fin (3521955646092083 / 35184372088832))))]),
   ("nan", .obj [("message_id", .str "n"), ("timestamp", .num (.float .nan))])]

end AitpPlayground.Proofs.Agents
