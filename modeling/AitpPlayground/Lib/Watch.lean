import Mathlib.Data.List.Chain

/-!
# `AitpPlayground.Lib.Watch`: reports of the changes of a bit

A watcher takes samples. It reports the first one, every one that shows another bit than the
sample before, and the samples on a beat. `Watched` says so of a log, newest first.

The reader of the reports may be after something else than the bit that is shown: each sample is
of a kind, and some of one kind are good. `Tells` says that the reports serve for it: what is
reported as good is good, and every change of the kind is reported. `watched_tells_iff` is when
they do.
-/

set_option autoImplicit false

namespace AitpPlayground.Lib

section
variable {α κ : Type} (shown beat reported : α → Bool)

/-- What is reported of a log, newest first. -/
def Watched : List α → Prop
  | [] => True
  | [a] => reported a = true
  | a :: b :: rest => reported a = (shown a != shown b || beat a) ∧ Watched (b :: rest)

/-- The reports of a log, newest first, tell what is good and what changes. -/
structure Tells (kind : α → κ) (good : α → Prop) (log : List α) : Prop where
  good : ∀ a ∈ log, reported a = true → shown a = true → good a
  changes : log.IsChain fun a b => kind a ≠ kind b → reported a = true

variable {shown beat reported}

/-- What was watched before the last entry. -/
theorem Watched.tail {a : α} {log : List α} (h : Watched shown beat reported (a :: log)) :
    Watched shown beat reported log := by
  cases log with
  | nil => trivial
  | cons b rest => exact h.2

/-- The first sample is reported. -/
theorem Watched.first {a : α} (h : Watched shown beat reported [a]) : reported a = true := h

/-- A sample after another one. -/
theorem Watched.next {a b : α} {rest : List α}
    (h : Watched shown beat reported (a :: b :: rest)) :
    reported a = (shown a != shown b || beat a) := h.1

/-- A sample that is not reported shows the bit of the one before, and is not on the beat. -/
theorem Watched.silent {a b : α} {rest : List α}
    (h : Watched shown beat reported (a :: b :: rest)) (hsilent : reported a ≠ true) :
    shown b = shown a ∧ beat a = false := by
  rw [h.next] at hsilent
  revert hsilent
  cases shown a <;> cases shown b <;> cases beat a <;> simp

variable {kind : α → κ} {good : α → Prop} {well : κ}

/-- What the log told before it. -/
theorem Tells.tail {a : α} {log : List α} (h : Tells shown reported kind good (a :: log)) :
    Tells shown reported kind good log :=
  ⟨fun b hb => h.good b (List.mem_cons_of_mem _ hb), h.changes.tail⟩

/-- When the reports tell, every sample that is shown as good is of the kind of the good ones: a
first one that is not would be reported, or be a change. -/
theorem Tells.kind_of_shown (hwell : ∀ a, good a → kind a = well) {log : List α}
    (hlog : Watched shown beat reported log) (h : Tells shown reported kind good log) :
    ∀ a ∈ log, shown a = true → kind a = well := by
  induction log with
  | nil => exact fun a ha => absurd ha List.not_mem_nil
  | cons a rest ih =>
    have hrest := ih hlog.tail h.tail
    refine List.forall_mem_cons.mpr ⟨fun hshown => ?_, hrest⟩
    cases rest with
    | nil => exact hwell a (h.good a List.mem_cons_self hlog.first hshown)
    | cons b rest =>
      by_contra hnot
      have hsilent : reported a ≠ true := fun hreported =>
        hnot (hwell a (h.good a List.mem_cons_self hreported hshown))
      have hkind := hrest b List.mem_cons_self ((hlog.silent hsilent).1.trans hshown)
      refine hsilent ((List.isChain_cons_cons.mp h.changes).1 ?_)
      rw [hkind]
      exact hnot

/-- When the reports of a log tell. -/
structure Clear (shown beat : α → Bool) (kind : α → κ) (good : α → Prop) (well : κ)
    (log : List α) : Prop where
  /-- What is shown as good is of the kind of the good ones. -/
  kinds : ∀ a ∈ log, shown a = true → kind a = well
  /-- What is shown as good and is not comes after another one that is shown as good, and off the
  beat. -/
  hidden : log.IsChain fun a b => shown a = true → ¬good a → shown b = true ∧ beat a = false
  /-- The first sample is good when it is shown as good. -/
  first : ∀ a ∈ log.getLast?, shown a = true → good a
  /-- A change that is not shown is on the beat. -/
  beats : log.IsChain fun a b => kind a ≠ kind b → shown a = false → shown b = false →
    beat a = true

/-- The reports tell just when the log is clear. -/
theorem watched_tells_iff (hwell : ∀ a, good a → kind a = well) {log : List α}
    (hlog : Watched shown beat reported log) :
    Tells shown reported kind good log ↔ Clear shown beat kind good well log := by
  constructor
  · intro h
    have hkinds := h.kind_of_shown hwell hlog
    induction log with
    | nil => exact ⟨hkinds, .nil, fun a ha => (by cases ha), .nil⟩
    | cons a rest ih =>
      have htail := ih hlog.tail h.tail fun b hb => hkinds b (List.mem_cons_of_mem _ hb)
      cases rest with
      | nil =>
        refine ⟨hkinds, .singleton a, fun b hb hshown => ?_, .singleton a⟩
        cases hb
        exact h.good a List.mem_cons_self hlog.first hshown
      | cons b rest =>
        refine ⟨hkinds, List.isChain_cons_cons.mpr ⟨fun hshown hnot => ?_, htail.hidden⟩,
          htail.first, List.isChain_cons_cons.mpr ⟨fun hdiffer ha hb => ?_, htail.beats⟩⟩
        · have hsilent : reported a ≠ true := fun hreported =>
            hnot (h.good a List.mem_cons_self hreported hshown)
          exact ⟨(hlog.silent hsilent).1.trans hshown, (hlog.silent hsilent).2⟩
        · have hreported := (List.isChain_cons_cons.mp h.changes).1 hdiffer
          rw [hlog.next, ha, hb] at hreported
          exact hreported
  · rintro ⟨hkinds, hhidden, hfirst, hbeats⟩
    induction log with
    | nil => exact ⟨fun a ha => absurd ha List.not_mem_nil, .nil⟩
    | cons a rest ih =>
      cases rest with
      | nil =>
        refine ⟨fun b hb _ hshown => ?_, .singleton a⟩
        rw [List.mem_singleton.mp hb] at hshown ⊢
        exact hfirst a rfl hshown
      | cons b rest =>
        obtain ⟨hhide, hhidden⟩ := List.isChain_cons_cons.mp hhidden
        obtain ⟨hbeat, hbeats⟩ := List.isChain_cons_cons.mp hbeats
        have htail := ih hlog.tail (fun c hc => hkinds c (List.mem_cons_of_mem _ hc)) hhidden
          hfirst hbeats
        refine ⟨List.forall_mem_cons.mpr ⟨fun hreported hshown => ?_, htail.good⟩,
          List.isChain_cons_cons.mpr ⟨fun hdiffer => ?_, htail.changes⟩⟩
        · by_contra hnot
          obtain ⟨hbefore, hoff⟩ := hhide hshown hnot
          rw [hlog.next, hshown, hbefore, hoff] at hreported
          cases hreported
        · rw [hlog.next]
          cases ha : shown a with
          | false =>
            cases hb : shown b with
            | false => exact hbeat hdiffer ha hb
            | true => rfl
          | true =>
            cases hb : shown b with
            | false => rfl
            | true =>
              -- Both are of the kind of the good ones, so the kind has not changed.
              have hkindA := hkinds a List.mem_cons_self ha
              have hkindB := hkinds b (List.mem_cons_of_mem _ List.mem_cons_self) hb
              exact absurd (hkindA.trans hkindB.symm) hdiffer

end

end AitpPlayground.Lib
