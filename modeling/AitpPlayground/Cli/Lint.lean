import AitpPlayground.Registry.Service
import AitpPlayground.Runner.Dispatch

/-!
# `AitpPlayground.Cli.Lint`: the linter of scenarios

`_lint_scenario` (`src/aitp_playground/cli.py`) yields its findings about a scenario, or about
a scenario with a template. It looks up the manifests of the agents and then goes through the
steps, with the ids of the earlier steps at hand. A finding is the text that the command
prints.
-/

set_option autoImplicit false

namespace AitpPlayground.Cli

open AitpPlayground.Lib
open AitpPlayground.Registry
open AitpPlayground.Runner

/-- `sorted(ids)` as a text. -/
def sortedText (py : PyLib) (ids : List String) : String :=
  py.strOf (textList (ids.dedup.mergeSort fun a b => decide (a ≤ b)))

/-- The fields of a step that the linter takes for agent ids. -/
def agentFields (step : WorkflowStep) : List (String × Option String) :=
  [("agent", step.agent), ("target_agent", step.targetAgent), ("initiator", step.initiator),
   ("responder", step.responder), ("delegator", step.delegator), ("delegatee", step.delegatee),
   ("via_peer", step.viaPeer), ("issuer", step.issuer), ("audience", step.audience)]

section
variable (py : PyLib)

/-! ### Steps -/

section
variable (label : String) (agentIds : List String)

/-- The findings about the agent ids of a step. -/
def lintAgentFields (step : WorkflowStep) : List String :=
  (agentFields step).filterMap fun (field, value) =>
    (given value).bind fun value =>
      if value ∈ agentIds then none
      else some (label ++ ": " ++ field ++ "=" ++ py.reprOf (.str value) ++ " not in agents " ++
        sortedText py agentIds)

/-- The findings about `refresh_agents`. -/
def lintRefreshAgents (step : WorkflowStep) : List String :=
  (step.refreshAgents.getD []).filterMap fun value =>
    if value ∈ agentIds then none
    else some (label ++ ": refresh_agents entry " ++ py.reprOf (.str value) ++
      " not in agents " ++ sortedText py agentIds)

/-- The finding about `local_revoke`. -/
def lintLocalRevoke (step : WorkflowStep) : List String :=
  if step.localRevoke = some false ∧ step.viaCp.getD false = false then
    [label ++ ": local_revoke: false needs via_cp: true " ++
      "(otherwise nothing is revoked anywhere)"]
  else []

/-- The finding about the capability of a step. -/
def lintCapability (offered : Dict String (List String)) (step : WorkflowStep) : List String :=
  match given step.capability with
  | some capability =>
    if offered.entries.any fun e => decide (capability ∈ e.2) then []
    else [label ++ ": capability " ++ py.reprOf (.str capability) ++
      " not offered by any agent in this scenario"]
  | none => []

/-- The finding about the grants of a handshake. -/
def lintRequestedGrants (offered : Dict String (List String)) (step : WorkflowStep) :
    List String :=
  match inferType step, step.responder, step.responder.bind offered.get? with
  | some .handshake, some responder, some caps =>
    match (step.requestedGrants.getD []).filter fun grant => decide (grant ∉ caps) with
    | [] => []
    | missing =>
      [label ++ ": requested_grants " ++ sortedText py missing ++ " not offered by responder " ++
        responder]
  | _, _, _ => []

/-- The finding about a field that refers to an earlier step. -/
def lintStepField (prior : List String) (field : String) (value : Option String) : List String :=
  match given value with
  | some value =>
    if value ∈ prior then []
    else [label ++ ": " ++ field ++ "=" ++ py.reprOf (.str value) ++
      " does not reference an earlier step"]
  | none => []

end

/-- The findings about a step, with the ids of the agents and of the earlier steps. -/
def lintStep (refLabel : String) (agentIds : List String) (offered : Dict String (List String))
    (prior : List String) (step : WorkflowStep) : List String :=
  let label := refLabel ++ " step " ++ step.id
  lintAgentFields py label agentIds step ++ lintRefreshAgents py label agentIds step ++
    lintLocalRevoke label step ++ lintCapability py label offered step ++
    lintRequestedGrants py label offered step ++
    lintStepField py label prior "via_delegation" step.viaDelegation ++
    lintStepField py label prior "input_from" step.inputFrom

/-- The loop over the steps. -/
def lintSteps (refLabel : String) (agentIds : List String) (offered : Dict String (List String)) :
    List String → List WorkflowStep → List String
  | _, [] => []
  | prior, step :: rest =>
    lintStep py refLabel agentIds offered prior step ++
      lintSteps refLabel agentIds offered (prior ++ [step.id]) rest

/-! ### Agents -/

variable {δ : Type} (schema : Schema δ)

/-- What the lookup of a manifest sees: the registry, and the file that the reference names. -/
structure ManifestRead (δ : Type) where
  registry : RegistryRead δ
  file : Option (YamlFile δ)

/-- The loop over the agents: the findings, and the capabilities that each agent offers. -/
def lintAgents (reads : Nat → ManifestRead δ) (refLabel : String) :
    List (AgentSpec × Nat) → List String → Dict String (List String) →
      Act RunExc RegistryService (List String × Dict String (List String))
  | [], found, offered => pure (found, offered)
  | (agent, n) :: rest, found, offered => do
    let manifest ← tryCatch
      (do
        let manifest ← getAgentManifest py schema (reads n).registry (reads n).file agent.ref
        pure (Except.ok manifest))
      fun exc =>
        match exc with
        | .playground _ message => pure (.error message)
        | exc => throw exc
    match manifest with
    | .ok manifest =>
      lintAgents reads refLabel rest found (offered.set agent.id manifest.aitp.offeredCaps)
    | .error message =>
      lintAgents reads refLabel rest
        (found ++ [refLabel ++ ": agent " ++ agent.id ++ " ref=" ++ py.reprOf (.str agent.ref) ++
          " does not resolve (" ++ message ++ ")"]) offered

/-- `_lint_scenario`. -/
def lintScenario (reads : Nat → ManifestRead δ) (refLabel : String) (sv : ScenarioVersion) :
    Act RunExc RegistryService (List String) := do
  let (found, offered) ← lintAgents py schema reads refLabel sv.spec.agents.zipIdx [] Dict.empty
  pure (found ++
    lintSteps py refLabel (sv.spec.agents.map AgentSpec.id) offered [] sv.spec.steps)

end

end AitpPlayground.Cli
