import AitpPlayground.Runner.Dispatch

/-!
# `AitpPlayground.Runner.Lookups`: what a step looks up by an id

`_dispatch_step` (`src/aitp_playground/runner/engine.py`) reads `running`, `peers` and
`step_outputs` by ids that come from the fields of the step. `lookups` lists these reads, branch
by branch. A branch that raises early gets only to the first of them.
-/

set_option autoImplicit false

namespace AitpPlayground.Runner

open AitpPlayground.Lib
open AitpPlayground.Registry

/-- A read by an id. -/
inductive Lookup where
  /-- `running[agent_id]`, `peers[agent_id]` or `agent_id in peers`. The id may be `None`. -/
  | agent (agentId : Option String)
  /-- `step_outputs.get(step_id)` or `step_id in step_outputs`. -/
  | output (stepId : String)
deriving DecidableEq

/-- The read of `_resolve_step_input`. -/
def inputLookup (step : WorkflowStep) : List Lookup :=
  ((given step.inputFrom).map Lookup.output).toList

section
variable (setting : RunSetting)

/-- The agent that executes a `workflow` step. -/
def holderLookup (capability agent : String) : List Lookup :=
  match findCapabilityHolder capability setting.scenario setting.manifests (some agent) with
  | .ok (some holder) => [.agent (some holder)]
  | _ => []

/-- The reads of the branch of a step type. -/
def typeLookups (type : StepType) (step : WorkflowStep) : List Lookup :=
  match type with
  | .capabilityCallNoTrust =>
    match given step.agent, given step.targetAgent, given step.capability with
    | some agent, some target, some _ => [.agent (some agent), .agent (some target)]
    | _, _, _ => []
  | .capabilityProbe =>
    match given step.agent, given step.targetAgent, given step.capability with
    | some agent, some target, some _ =>
      inputLookup step ++ [.agent (some agent), .agent (some target)]
    | _, _, _ => []
  | .handshake =>
    match given step.initiator, given step.responder with
    | some initiator, some responder => [.agent (some initiator), .agent (some responder)]
    | _, _ => []
  | .delegate =>
    match given step.delegator, given step.delegatee, given step.viaPeer with
    | some delegator, some delegatee, some viaPeer =>
      [.agent (some delegator), .agent (some viaPeer), .agent (some delegatee)]
    | _, _, _ => []
  | .redeemDelegation =>
    match given step.delegatee, given step.target, given step.viaDelegation with
    | some delegatee, some target, some viaDelegation =>
      [.output viaDelegation, .agent (some delegatee), .agent (some target)]
    | _, _, _ => []
  | .revokeTct =>
    match given step.issuer, given step.audience with
    | some issuer, some _ =>
      .agent (some issuer) ::
        if step.viaCp.getD false then
          (step.refreshAgents.getD []).map fun agentId => .agent (some agentId)
        else []
    | _, _ => []
  | .renewTct =>
    match given step.agent, given step.viaPeer with
    | some agent, some viaPeer => [.agent (some agent), .agent (some viaPeer)]
    | _, _ => []
  | .exportSessionBundle =>
    match given step.coordinator, step.participants.getD [] with
    | some coordinator, first :: others =>
      .agent (some coordinator) :: (first :: others).map fun agentId => .agent (some agentId)
    | _, _ => []
  | .verifySessionBundle =>
    match given step.verifier, given step.viaStep with
    | some verifier, some viaStep => [.output viaStep, .agent (some verifier)]
    | _, _ => []
  | .workflow =>
    match given step.agent, given step.capability with
    | some agent, some capability =>
      .agent (some agent) :: holderLookup setting capability agent ++ inputLookup step
    | _, _ => []
  | .enrollWithCp | .cpProvisionTrustAnchor | .cpDelegationTree | .rotateKeys
  | .tctCacheStats =>
    match given step.agent with
    | some agent => [.agent (some agent)]
    | none => []
  | .cpSubscribeWebhook | .spkiPinCheck => []

/-- The reads of the action of a step with a fault. -/
def actionLookups (type : StepType) (step : WorkflowStep) (target : String) : List Lookup :=
  match type with
  -- These two fields are not checked before, so each may be `None` here.
  | .handshake => [.agent step.initiator, .agent step.responder]
  | .workflow | .capabilityProbe =>
    inputLookup step ++ [.agent (some ((given step.agent).getD target))]
  | _ => []

/-- The reads of a step with a fault: the target first, and the action when there is one. -/
def faultLookups (type : StepType) (step : WorkflowStep) : List Lookup :=
  match faultTarget setting step type with
  | .ok (some target) => .agent (some target) :: actionLookups type step target
  | _ => []

/-- The reads of a step. -/
def lookups (step : WorkflowStep) : List Lookup :=
  match inferType step, step.fault with
  | none, _ => []
  | some type, some _ => faultLookups setting type step
  | some type, none => typeLookups setting type step

end

end AitpPlayground.Runner
