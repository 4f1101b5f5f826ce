import Mathlib.Data.Int.Basic
import Mathlib.Order.Lattice

/-!
# `AitpPlayground.Agents.Llm`: the token budget of an agent process

`agents/base/llm.py` guards every provider call of an agent: `call_llm_or_502` reserves the
output tokens of the call before it starts, and refuses the call when they do not fit. The
counter `_BUDGET` is one for the process, and `try_reserve` holds its lock, so a reservation is
one step.

What `select_provider` returns is handed in, and so is what the provider answers. The text of
a provider error goes through `redact_secrets`, which is a parameter here: the results do not
read it.
-/

set_option autoImplicit false

namespace AitpPlayground.Agents

/-- The block `llm` of the bootstrap: what `get` finds under its two keys. -/
structure LlmBlock where
  tokenBudget : Option Int
  maxTokensPerCall : Option Int
deriving DecidableEq

/-- `int(value or default)`. Zero counts as missing. -/
def orDefault (value : Option Int) (default : Int) : Int :=
  match value with
  | none => default
  | some v => if v = 0 then default else v

/-- `_DEFAULT_MAX_TOKENS_PER_CALL`. -/
def defaultMaxTokensPerCall : Int := 1024

/-- `_DEFAULT_TOKEN_BUDGET`. -/
def defaultTokenBudget : Int := 40000

/-- `max_tokens_per_call`. -/
def maxTokensPerCall (block : LlmBlock) : Int :=
  orDefault block.maxTokensPerCall defaultMaxTokensPerCall

/-- `TokenBudget`. -/
structure TokenBudget where
  spent : Int
deriving DecidableEq

namespace TokenBudget

def new : TokenBudget := { spent := 0 }

/-- `try_reserve`. -/
def tryReserve (b : TokenBudget) (tokens budget : Int) : Bool × TokenBudget :=
  if budget < b.spent + tokens then (false, b) else (true, { spent := b.spent + tokens })

end TokenBudget

/-- `Provider`. -/
inductive Provider where
  | openai
  | anthropic
deriving DecidableEq

/-- What `call_llm_or_502` comes to. -/
inductive LlmReply where
  | returned
  /-- Status 429, with what the telemetry event says. -/
  | refused (budget spent : Int)
  /-- Status 502. -/
  | failed (detail : String)
deriving DecidableEq

/-- `call_llm_or_502`: `answer` is what the provider answers, if it is asked. -/
def callLlmOr502 (redactSecrets : String → String) (block : LlmBlock) (provider : Option Provider)
    (llmCalls : Int) (answer : Except String Unit) (b : TokenBudget) : LlmReply × TokenBudget :=
  let call : LlmReply := match answer with
    | .ok () => .returned
    | .error text =>
      .failed ("LLM provider call failed: " ++
        String.ofList ((redactSecrets text).toList.take 300))
  match provider with
  -- The deterministic stubs cost nothing.
  | none => (call, b)
  | some _ =>
    let budget := orDefault block.tokenBudget defaultTokenBudget
    let reserve := max 1 llmCalls * maxTokensPerCall block
    match b.tryReserve reserve budget with
    | (false, b) => (.refused budget b.spent, b)
    | (true, b) => (call, b)

end AitpPlayground.Agents
