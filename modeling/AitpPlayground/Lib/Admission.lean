import AitpPlayground.Lib.Calls
import Mathlib.Data.List.Nodup
import Mathlib.Data.List.Perm.Subperm

/-!
# `AitpPlayground.Lib.Admission`: a guard that many parties ask

A guard is a method that answers yes or no, as in `Lib.Calls`. Here parties with names ask it,
each at most once, in any order and among other things that they do. `Admits` says that the
state of the guard comes from some calls in the order of their times, and which parties got a
yes, with their calls. Every call keeps it (`Admits.call`).

`Tracked` is the same from the outside, with the states of the parties: `passed` reads the
granted call of a party off its state, where it still tells, and `waiting` says that the party
has not asked yet. A move of a party keeps it, whether it asks the guard (`Tracked.ask`) or does
something else (`Tracked.move`). So a bound on the calls that are granted is a bound on the
parties that have passed (`Tracked.length_le`), however they took turns.
-/

set_option autoImplicit false

namespace AitpPlayground.Lib

variable {σ ι κ S T : Type}

/-- The state `s` of the guard comes from calls up to `now`, of which these were granted. -/
def Admits [Preorder T] (f : σ → ι → Bool × σ) (time : ι → T) (s₀ : σ) (now : T) (s : σ)
    (admitted : List (κ × ι)) : Prop :=
  ∃ calls, Timed time calls ∧ (∀ c ∈ calls, time c ≤ now) ∧ stateAfter f s₀ calls = s ∧
    granted calls (answers f s₀ calls) = admitted.map Prod.snd ∧
    (admitted.map Prod.fst).Nodup

section
variable [Preorder T] {f : σ → ι → Bool × σ} {time : ι → T} {s₀ s : σ} {now : T}
variable {admitted : List (κ × ι)}

/-- At the start nothing was admitted. -/
theorem admits_start (f : σ → ι → Bool × σ) (time : ι → T) (s₀ : σ) (now : T) :
    Admits f time s₀ now s₀ ([] : List (κ × ι)) :=
  ⟨[], List.Pairwise.nil, fun _ h => absurd h List.not_mem_nil, rfl, rfl, List.nodup_nil⟩

/-- What was admitted stays so. -/
theorem Admits.later {now' : T} (h : Admits f time s₀ now s admitted) (hle : now ≤ now') :
    Admits f time s₀ now' s admitted := by
  obtain ⟨calls, htimed, hnow, hrest⟩ := h
  exact ⟨calls, htimed, fun c hc => (hnow c hc).trans hle, hrest⟩

/-- A party that was not let through before asks. -/
theorem Admits.call {k : κ} {c : ι} (h : Admits f time s₀ now s admitted) (hle : now ≤ time c)
    (hk : k ∉ admitted.map Prod.fst) :
    Admits f time s₀ (time c) (f s c).2
      (if (f s c).1 then admitted ++ [(k, c)] else admitted) := by
  obtain ⟨calls, htimed, hnow, rfl, hgranted, hnodup⟩ := h
  refine ⟨calls ++ [c], ?_, ?_, stateAfter_snoc f s₀ calls c, ?_, ?_⟩
  · refine List.pairwise_append.mpr ⟨htimed, List.pairwise_singleton _ _, ?_⟩
    intro d hd e he
    rw [List.mem_singleton.mp he]
    exact (hnow d hd).trans hle
  · intro d hd
    rcases List.mem_append.mp hd with hd | hd
    · exact (hnow d hd).trans hle
    · rw [List.mem_singleton.mp hd]
  · rw [answers_append, granted_append (length_answers f s₀ calls), hgranted]
    show _ ++ granted [c] [(f (stateAfter f s₀ calls) c).1] = _
    cases (f (stateAfter f s₀ calls) c).1 with
    | true =>
      show _ = (admitted ++ [(k, c)]).map Prod.snd
      rw [List.map_append]
      rfl
    | false => exact List.append_nil _
  · split
    · rw [List.map_append, List.nodup_append']
      refine ⟨hnodup, List.nodup_singleton _, ?_⟩
      intro a ha ha'
      rw [List.map_singleton, List.mem_singleton] at ha'
      exact hk (by rwa [ha'] at ha)
    · exact hnodup

end

/-! ### The states of the parties -/

/-- The guard has let through every party whose state has a call, and none that waits. -/
def Tracked [Preorder T] (f : σ → ι → Bool × σ) (time : ι → T) (s₀ : σ)
    (passed : κ → S → Option ι) (waiting : S → Prop) (now : T) (s : σ) (stage : κ → S) : Prop :=
  ∃ admitted : List (κ × ι), Admits f time s₀ now s admitted ∧
    (∀ k c, passed k (stage k) = some c → (k, c) ∈ admitted) ∧
    ∀ k, waiting (stage k) → k ∉ admitted.map Prod.fst

section
variable [Preorder T] {f : σ → ι → Bool × σ} {time : ι → T} {s₀ s : σ} {now : T}
variable {passed : κ → S → Option ι} {waiting : S → Prop} {stage : κ → S}

/-- At the start nobody has passed. -/
theorem tracked_start (hpassed : ∀ k, passed k (stage k) = none) :
    Tracked f time s₀ passed waiting now s₀ stage := by
  refine ⟨[], admits_start f time s₀ now, fun k c h => ?_, fun k _ => List.not_mem_nil⟩
  rw [hpassed k] at h
  cases h

variable [DecidableEq κ]

/-- A party moves, and the guard is not asked. -/
theorem Tracked.move {now' : T} {k : κ} {st : S}
    (h : Tracked f time s₀ passed waiting now s stage) (hle : now ≤ now')
    (hpassed : ∀ c, passed k st = some c → passed k (stage k) = some c)
    (hwaiting : waiting st → waiting (stage k)) :
    Tracked f time s₀ passed waiting now' s (Function.update stage k st) := by
  obtain ⟨admitted, hadmits, hcalls, hnone⟩ := h
  refine ⟨admitted, hadmits.later hle, fun id c hc => ?_, fun id hid => ?_⟩
  · by_cases hk : id = k
    · subst hk
      rw [Function.update_self] at hc
      exact hcalls id c (hpassed c hc)
    · rw [Function.update_of_ne hk] at hc
      exact hcalls id c hc
  · by_cases hk : id = k
    · subst hk
      rw [Function.update_self] at hid
      exact hnone id (hwaiting hid)
    · rw [Function.update_of_ne hk] at hid
      exact hnone id hid

/-- A party that waits asks the guard. -/
theorem Tracked.ask {k : κ} {c : ι} {st : S} (h : Tracked f time s₀ passed waiting now s stage)
    (hle : now ≤ time c) (hk : waiting (stage k)) (hst : ¬waiting st)
    (hpassed : ∀ d, passed k st = some d → (f s c).1 = true ∧ d = c) :
    Tracked f time s₀ passed waiting (time c) (f s c).2 (Function.update stage k st) := by
  obtain ⟨admitted, hadmits, hcalls, hnone⟩ := h
  refine ⟨_, hadmits.call hle (hnone k hk), fun id d hd => ?_, fun id hid hmem => ?_⟩
  · by_cases hid : id = k
    · subst hid
      rw [Function.update_self] at hd
      obtain ⟨hyes, rfl⟩ := hpassed d hd
      rw [if_pos hyes]
      exact List.mem_append_right _ (List.mem_singleton_self _)
    · rw [Function.update_of_ne hid] at hd
      split
      · exact List.mem_append_left _ (hcalls id d hd)
      · exact hcalls id d hd
  · have hne : id ≠ k := by
      rintro rfl
      rw [Function.update_self] at hid
      exact hst hid
    rw [Function.update_of_ne hne] at hid
    split at hmem
    · rw [List.map_append, List.mem_append, List.map_singleton, List.mem_singleton] at hmem
      exact hmem.elim (hnone id hid) hne
    · exact hnone id hid hmem

omit [DecidableEq κ] in
/-- No more parties have passed with a call of one kind than calls of this kind were granted. -/
theorem Tracked.length_le (h : Tracked f time s₀ passed waiting now s stage) {ids : List κ}
    (hids : ids.Nodup) {p : ι → Prop} [DecidablePred p]
    (hpassed : ∀ k ∈ ids, ∃ c, p c ∧ passed k (stage k) = some c) :
    ∃ calls, Timed time calls ∧
      ids.length ≤ ((granted calls (answers f s₀ calls)).filter fun c => decide (p c)).length := by
  obtain ⟨admitted, ⟨calls, htimed, -, -, hgranted, -⟩, hcalls, -⟩ := h
  refine ⟨calls, htimed, ?_⟩
  have hsub : ids ⊆ (admitted.filter fun a => decide (p a.2)).map Prod.fst := by
    intro k hk
    obtain ⟨c, hp, hc⟩ := hpassed k hk
    exact List.mem_map.mpr
      ⟨(k, c), List.mem_filter.mpr ⟨hcalls k c hc, decide_eq_true hp⟩, rfl⟩
  have hle := (List.subperm_of_subset hids hsub).length_le
  rw [List.length_map] at hle
  have hread : (admitted.map Prod.snd).filter (fun c => decide (p c)) =
      (admitted.filter fun a => decide (p a.2)).map Prod.snd := by
    rw [List.filter_map]
    rfl
  rw [hgranted, hread, List.length_map]
  exact hle

end

end AitpPlayground.Lib
