import AitpPlayground.Runner.SpendGuard
import Mathlib.Algebra.Order.BigOperators.Group.Finset
import Mathlib.Algebra.Order.Ring.Int

/-!
# `AitpPlayground.Proofs.Runner.SpendGuard`: is the budget of a run a cap?

Every process keeps its counter within the budget that it reads. With a share of one token or
more that is the share, and the shares together are at most the budget of the run. The share
of a budget below the number of agents is zero, and a process reads zero as missing: it takes
the default of 40000 for itself.

`budget_is_cap_iff` states both. The run of `reserved_one_each` breaks the cap of a zero share:
every process makes one call of the smallest reservation there is.
-/

set_option autoImplicit false

namespace AitpPlayground.Proofs.Runner

open AitpPlayground.Lib
open AitpPlayground.Agents
open AitpPlayground.Runner

/-! ### One process -/

/-- The budget that a process reads out of its bootstrap. -/
def budgetOf (settings : SpendSettings) (agents : Nat) : Int :=
  orDefault (some (agentTokenBudget settings agents)) defaultTokenBudget

/-- A reservation is refused, or is made within the budget. -/
theorem tryReserve_cases (b : TokenBudget) (tokens budget : Int) :
    (b.spent + tokens ≤ budget ∧ b.tryReserve tokens budget = (true, ⟨b.spent + tokens⟩)) ∨
    (budget < b.spent + tokens ∧ b.tryReserve tokens budget = (false, b)) := by
  unfold TokenBudget.tryReserve
  split
  · exact .inr ⟨‹_›, rfl⟩
  · exact .inl ⟨by omega, rfl⟩

/-- The setting is positive, so the default of the block is not used. -/
theorem maxTokensPerCall_llmBlock {settings : SpendSettings}
    (hm : 0 < settings.llmMaxTokensPerCall) (budget : Option Int) :
    maxTokensPerCall (llmBlock settings budget) = settings.llmMaxTokensPerCall := by
  show (if settings.llmMaxTokensPerCall = 0 then _ else settings.llmMaxTokensPerCall) = _
  rw [if_neg (by omega)]

/-- What a call does to the counters: it changes none, or reserves in the one of its agent. -/
theorem spendStep_cases {n : Nat} {redactSecrets : String → String} {settings : SpendSettings}
    (hm : 0 < settings.llmMaxTokensPerCall) {s s' : SpendRun n} {c : LlmCall n}
    (hs : spendStep redactSecrets settings s c = some s') :
    s' = s ∨ ∃ tokens, settings.llmMaxTokensPerCall ≤ tokens ∧
      (s c.agent).spent + tokens ≤ budgetOf settings n ∧
      s' = Function.update s c.agent ⟨(s c.agent).spent + tokens⟩ := by
  unfold spendStep at hs
  cases hs
  unfold callLlmOr502
  cases c.provider with
  | none => exact .inl (Function.update_eq_self c.agent s)
  | some provider =>
    simp only [maxTokensPerCall_llmBlock hm]
    rcases tryReserve_cases (s c.agent) (max 1 c.llmCalls * settings.llmMaxTokensPerCall)
      (budgetOf settings n) with ⟨hfits, hres⟩ | ⟨-, hres⟩
    · -- A negative or zero `llm_calls` counts as one call.
      refine .inr ⟨max 1 c.llmCalls * settings.llmMaxTokensPerCall, ?_, hfits, ?_⟩
      · exact le_mul_of_one_le_left hm.le (le_max_left _ _)
      · simp only [budgetOf, llmBlock, Option.getD_some] at hres ⊢
        rw [hres]
    · refine .inl ?_
      simp only [budgetOf, llmBlock, Option.getD_some] at hres ⊢
      rw [hres]
      exact Function.update_eq_self c.agent s

/-! ### All processes -/

section
variable {n : Nat} {redactSecrets : String → String} {settings : SpendSettings}

/-- Every process stays within the budget that it reads. -/
theorem spent_le_budget (hm : 0 < settings.llmMaxTokensPerCall) (hb : 0 ≤ budgetOf settings n)
    {s : SpendRun n} (h : Reach (spendStep redactSecrets settings) anyStep (.start n) s)
    (i : Fin n) : (s i).spent ≤ budgetOf settings n := by
  refine h.invariant (P := fun s => ∀ i, (s i).spent ≤ budgetOf settings n) ?_ (fun _ => hb) i
  intro s c s' hle _ hs j
  rcases spendStep_cases hm hs with rfl | ⟨tokens, -, hfits, rfl⟩
  · exact hle j
  · by_cases hj : j = c.agent
    · subst hj
      simpa using hfits
    · rw [Function.update_of_ne hj]
      exact hle j

/-- With a cap on each call above the budget that it reads, a process reserves nothing. -/
theorem spent_eq_zero (hm : 0 < settings.llmMaxTokensPerCall)
    (hb : budgetOf settings n < settings.llmMaxTokensPerCall) {s : SpendRun n}
    (h : Reach (spendStep redactSecrets settings) anyStep (.start n) s) (i : Fin n) :
    (s i).spent = 0 := by
  refine h.invariant (P := fun s => ∀ i, (s i).spent = 0) ?_ (fun _ => rfl) i
  intro s c s' hzero _ hs j
  rcases spendStep_cases hm hs with rfl | ⟨tokens, hmin, hfits, rfl⟩
  · exact hzero j
  · have hagent := hzero c.agent
    omega

/-- The first call of a process, with the smallest reservation. -/
theorem spendStep_first (hm : 0 < settings.llmMaxTokensPerCall)
    (hb : settings.llmMaxTokensPerCall ≤ budgetOf settings n) {s : SpendRun n} {i : Fin n}
    (hi : (s i).spent = 0) :
    spendStep redactSecrets settings s ⟨i, some .openai, 1, .ok ()⟩ =
      some (Function.update s i ⟨settings.llmMaxTokensPerCall⟩) := by
  have hres : (s i).tryReserve settings.llmMaxTokensPerCall (budgetOf settings n) =
      (true, ⟨settings.llmMaxTokensPerCall⟩) := by
    rcases tryReserve_cases (s i) settings.llmMaxTokensPerCall (budgetOf settings n) with
      ⟨-, hres⟩ | ⟨hover, -⟩
    · rw [hres, hi, zero_add]
    · omega
  unfold spendStep callLlmOr502
  simp only [maxTokensPerCall_llmBlock hm, max_self, one_mul]
  simp only [budgetOf, llmBlock, Option.getD_some] at hres ⊢
  rw [hres]

/-- The processes before `k` have made one call each. -/
def oneEach (n : Nat) (tokens : Int) (k : Nat) : SpendRun n :=
  fun i => if i.val < k then ⟨tokens⟩ else .new

/-- The agents reserve one after the other. -/
theorem reached_one_each (hm : 0 < settings.llmMaxTokensPerCall)
    (hb : settings.llmMaxTokensPerCall ≤ budgetOf settings n) (k : Nat) (hk : k ≤ n) :
    Reach (spendStep redactSecrets settings) anyStep (.start n)
      (oneEach n settings.llmMaxTokensPerCall k) := by
  induction k with
  | zero => exact Reach.refl _
  | succ k ih =>
    have hzero : (oneEach n settings.llmMaxTokensPerCall k ⟨k, hk⟩).spent = 0 := by
      simp [oneEach, TokenBudget.new]
    refine (ih (by omega)).snoc trivial ((spendStep_first hm hb hzero).trans ?_)
    congr 1
    funext i
    by_cases hi : i = ⟨k, hk⟩
    · subst hi
      simp [oneEach]
    · have hne : i.val ≠ k := fun heq => hi (Fin.ext heq)
      rw [Function.update_of_ne hi]
      unfold oneEach
      by_cases hlt : i.val < k
      · rw [if_pos hlt, if_pos (by omega)]
      · rw [if_neg hlt, if_neg (by omega)]

/-- What they have reserved together. -/
theorem reserved_one_each (tokens : Int) : (oneEach n tokens n).reserved = n * tokens := by
  simp [SpendRun.reserved, oneEach]

end

/-! ### The budget of the run -/

/-- The share of an agent. -/
theorem agentTokenBudget_eq {settings : SpendSettings} {n : Nat} (hn : 1 ≤ n) :
    agentTokenBudget settings n = settings.runTokenBudget / n := by
  unfold agentTokenBudget
  rw [max_eq_right (by exact_mod_cast hn)]
  exact Int.fdiv_eq_ediv_of_nonneg _ (by omega)

/-- A share of one token or more is read as it is. -/
theorem budgetOf_share {settings : SpendSettings} {n : Nat} (hn : 1 ≤ n)
    (h : (n : Int) ≤ settings.runTokenBudget) :
    budgetOf settings n = settings.runTokenBudget / n ∧ 0 ≤ budgetOf settings n := by
  have hshare : 1 ≤ settings.runTokenBudget / n := by
    rw [Int.le_ediv_iff_mul_le (by omega)]
    omega
  have heq : budgetOf settings n = settings.runTokenBudget / n := by
    unfold budgetOf orDefault
    simp only [agentTokenBudget_eq hn]
    rw [if_neg (by omega)]
  omega

/-- A share of zero is read as the default. -/
theorem budgetOf_zero {settings : SpendSettings} {n : Nat} (hn : 1 ≤ n)
    (hpos : 0 ≤ settings.runTokenBudget) (h : settings.runTokenBudget < n) :
    budgetOf settings n = defaultTokenBudget := by
  unfold budgetOf orDefault
  simp only [agentTokenBudget_eq hn, Int.ediv_eq_zero_of_lt hpos h, if_true]

/-- The budget of a run is a cap on what its processes reserve, in every run, if and only if it
has a token for each agent, or a single call asks for more than the default budget. -/
theorem budget_is_cap_iff {redactSecrets : String → String} {settings : SpendSettings} {n : Nat}
    (hn : 1 ≤ n) (hpos : 0 ≤ settings.runTokenBudget) (hm : 0 < settings.llmMaxTokensPerCall) :
    (∀ s, Reach (spendStep redactSecrets settings) anyStep (.start n) s →
      s.reserved ≤ settings.runTokenBudget) ↔
    ((n : Int) ≤ settings.runTokenBudget ∨
      defaultTokenBudget < settings.llmMaxTokensPerCall) := by
  by_cases hshare : (n : Int) ≤ settings.runTokenBudget
  · refine iff_of_true ?_ (.inl hshare)
    intro s h
    obtain ⟨hbudget, hnonneg⟩ := budgetOf_share hn hshare
    calc s.reserved
        ≤ ∑ _i : Fin n, settings.runTokenBudget / n :=
          Finset.sum_le_sum fun i _ => hbudget ▸ spent_le_budget hm hnonneg h i
      _ = n * (settings.runTokenBudget / n) := by simp
      _ ≤ settings.runTokenBudget := Int.mul_ediv_self_le (by omega)
  -- The share of a process is zero, and zero stands for the default.
  · have hbudget := budgetOf_zero hn hpos (not_le.mp hshare)
    constructor
    · -- One call of each process is more than the budget, if it fits in the default.
      intro hcap
      by_contra hno
      have hfits : settings.llmMaxTokensPerCall ≤ budgetOf settings n := by
        rw [hbudget]
        omega
      have hle := hcap _ (reached_one_each hm hfits n le_rfl)
      rw [reserved_one_each] at hle
      have hmul : (n : Int) ≤ n * settings.llmMaxTokensPerCall :=
        le_mul_of_one_le_right (by omega) hm
      omega
    · rintro (hle | hover) s h
      · exact absurd hle hshare
      · have hzero : s.reserved = 0 :=
          Finset.sum_eq_zero fun i _ => spent_eq_zero hm (hbudget ▸ hover) h i
        omega

/-- The settings as they are delivered, for a scenario with three agents that make a call
each. -/
theorem budget_is_cap_by_default :
    (∃ s, Reach (spendStep (n := 3) id ⟨40000, 1024⟩) anyStep (.start 3) s ∧
      s.reserved = 3072) ∧
    ∀ s, Reach (spendStep (n := 3) id ⟨40000, 1024⟩) anyStep (.start 3) s →
      s.reserved ≤ 40000 := by
  constructor
  · exact ⟨_, reached_one_each (by decide) (by decide) 3 le_rfl, reserved_one_each 1024⟩
  · exact (budget_is_cap_iff (by decide) (by decide) (by decide)).mpr (.inl (by decide))

/-- A budget of two tokens for three agents: each share is zero. -/
theorem zero_share_breaks_cap :
    ¬ ∀ (redactSecrets : String → String) (settings : SpendSettings) (n : Nat), 1 ≤ n →
      0 ≤ settings.runTokenBudget → 0 < settings.llmMaxTokensPerCall →
      ∀ s, Reach (spendStep redactSecrets settings) anyStep (.start n) s →
        s.reserved ≤ settings.runTokenBudget := by
  intro hall
  have hcap := hall id ⟨2, 1024⟩ 3 (by decide) (by decide) (by decide) _
    (reached_one_each (by decide) (by decide) 3 le_rfl)
  rw [reserved_one_each] at hcap
  exact absurd hcap (by decide)

end AitpPlayground.Proofs.Runner
