import AitpPlayground.Agents.Llm
import AitpPlayground.Lib.Lts
import Mathlib.Algebra.BigOperators.Group.Finset.Defs
import Mathlib.Data.Fintype.Basic
import Mathlib.Logic.Function.Basic

/-!
# `AitpPlayground.Runner.SpendGuard`: the token budget of a run

`ScenarioRunner.run` (`src/aitp_playground/runner/engine.py`) splits `run_token_budget` evenly
across the agents of the scenario. `BootstrapBuilder.build`
(`src/aitp_playground/hosting/bootstrap.py`) writes the share into the bootstrap of each agent,
and each agent process checks its own counter against it.

`SpendRun` is the processes of one run, each with its counter. The number of agents is `n`.
-/

set_option autoImplicit false

namespace AitpPlayground.Runner

open AitpPlayground.Agents

/-- The two settings of the guard. -/
structure SpendSettings where
  runTokenBudget : Int
  llmMaxTokensPerCall : Int
deriving DecidableEq

/-- `agent_token_budget`. -/
def agentTokenBudget (settings : SpendSettings) (agents : Nat) : Int :=
  Int.fdiv settings.runTokenBudget (max 1 (agents : Int))

/-- The block `llm` of a bootstrap. A hosted agent has no share and gets the whole budget. -/
def llmBlock (settings : SpendSettings) (tokenBudget : Option Int) : LlmBlock where
  tokenBudget := some (tokenBudget.getD settings.runTokenBudget)
  maxTokensPerCall := some settings.llmMaxTokensPerCall

/-- The counters of the processes of a run. -/
abbrev SpendRun (n : Nat) : Type := Fin n → TokenBudget

/-- The processes as they are spawned. -/
def SpendRun.start (n : Nat) : SpendRun n := fun _ => .new

/-- The output tokens that the processes have reserved. -/
def SpendRun.reserved {n : Nat} (s : SpendRun n) : Int := ∑ i, (s i).spent

/-- A call of `call_llm_or_502` in a process. -/
structure LlmCall (n : Nat) where
  agent : Fin n
  provider : Option Provider
  llmCalls : Int
  answer : Except String Unit

/-- One call. -/
def spendStep {n : Nat} (redactSecrets : String → String) (settings : SpendSettings)
    (s : SpendRun n) (c : LlmCall n) : Option (SpendRun n) :=
  let block := llmBlock settings (some (agentTokenBudget settings n))
  let after := callLlmOr502 redactSecrets block c.provider c.llmCalls c.answer (s c.agent)
  some (Function.update s c.agent after.2)

end AitpPlayground.Runner
