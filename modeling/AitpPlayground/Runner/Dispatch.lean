import AitpPlayground.Runner.CpSteps
import AitpPlayground.Lib.Lts

/-!
# `AitpPlayground.Runner.Dispatch`: the steps of a run

`_dispatch_step` (`src/aitp_playground/runner/engine.py`) has one branch for each type of step,
and a step with a fault goes to `_dispatch_fault_injected`, which swallows what its call
raises.

`runUpTo` is the part of `ScenarioRunner.run` that the steps are in: the trust stores, the
eager handshakes, and the loop over the steps. `workStep` is the same as a machine. Its labels
are the eager handshakes and the steps, each with what the world answers, and a label is
enabled only if its code returns: what raises ends the run.
-/

set_option autoImplicit false

namespace AitpPlayground.Runner

open AitpPlayground.Lib
open AitpPlayground.Agents
open AitpPlayground.Hosting
open AitpPlayground.Registry

/-- The step type as the messages have it. -/
def stepTypeText : StepType → String
  | .workflow => "workflow"
  | .capabilityCallNoTrust => "capability_call_no_trust"
  | .capabilityProbe => "capability_probe"
  | .handshake => "handshake"
  | .revokeTct => "revoke_tct"
  | .delegate => "delegate"
  | .redeemDelegation => "redeem_delegation"
  | .rotateKeys => "rotate_keys"
  | .enrollWithCp => "enroll_with_cp"
  | .cpSubscribeWebhook => "cp_subscribe_webhook"
  | .renewTct => "renew_tct"
  | .exportSessionBundle => "export_session_bundle"
  | .verifySessionBundle => "verify_session_bundle"
  | .spkiPinCheck => "spki_pin_check"
  | .tctCacheStats => "tct_cache_stats"
  | .cpProvisionTrustAnchor => "cp_provision_trust_anchor"
  | .cpDelegationTree => "cp_delegation_tree"

/-- The fault kind as the messages have it. -/
def faultKindText : FaultKind → String
  | .manifest404 => "manifest_404"
  | .peerOffline => "peer_offline"

/-- `type(exc).__name__`. -/
def excName : RunExc → String
  | .playground _ _ => "PlaygroundError"
  | .invalidInputs _ => "ValidationError"
  | .other name _ => name

section
variable (setting : RunSetting)

/-! ### Faults -/

/-- The agent that a fault is about. -/
def faultTarget (step : WorkflowStep) (type : StepType) : Except PyErr (Option String) :=
  match type with
  | .handshake => .ok step.responder
  | .workflow | .capabilityProbe =>
    match given step.targetAgent with
    | some target => .ok (some target)
    | none => do
      -- The manifests are all `None` here, so an agent in the loop raises `AttributeError`.
      let holder ← findCapabilityHolder (step.capability.getD "") setting.scenario
        (Dict.ofList (setting.scenario.spec.agents.map fun a => (a.id, none))) step.agent
      pure (holder.or step.agent)
  | .delegate => .ok step.viaPeer
  | .redeemDelegation => .ok step.target
  | _ => .ok none

/-- The URL and the port that a fault makes of those of an agent. -/
def mutate (kind : FaultKind) (url : Option String) (port : Int) :
    Except PyErr (String × Int) :=
  match kind, url with
  | .manifest404, some url => .ok (url ++ "-DOES-NOT-EXIST", port)
  | .manifest404, none => .error (.typeError "unsupported operand type(s) for +")
  | .peerOffline, some url => .ok (replaceOnce (":" ++ toString port ++ "/") ":1/" url, 1)
  | .peerOffline, none => .error (.attributeError "'NoneType' object has no attribute 'replace'")

/-- `running[agent_id]` for a field that may be absent. -/
def runningField (field : Option String) : Steps String :=
  match field with
  | some agentId => do
    let _ra ← Steps.runningAgent agentId
    pure agentId
  | none => throw (.other "KeyError" "None")

/-- The action of a step with a fault. -/
def faultAction (step : WorkflowStep) (type : StepType) (target url : String) (port : Int)
    (world : StepWorld) : Steps Unit :=
  match type with
  | .handshake => do
    let initiator ← runningField step.initiator
    let responder ← runningField step.responder
    ensureTrust setting initiator responder (some url) step.requestedGrants world
  | .workflow | .capabilityProbe => do
    -- Port 1 is nobody's, so the caller of a `peer_offline` probe holds no token for it.
    let _target ← Steps.runningAgent target
    let payload := resolveStepInput setting.py step Dict.empty (← get).outputs
    let caller ← runningField (some ((given step.agent).getD target))
    let _result ← probeWithHeldTct setting caller target port (step.capability.getD "") payload
      step.expectStatus world
    pure ()
  | _ => refuseStep step ("fault on step_type='" ++ stepTypeText type ++ "' is not supported")

/-- What an action raised, as a text. -/
def swallow (x : Steps Unit) : Steps Json :=
  tryCatch (do x; pure .null) fun exc => pure (.str (excName exc ++ ": " ++ exc.text))

/-- `_dispatch_fault_injected`. -/
def dispatchFaultInjected (step : WorkflowStep) (type : StepType) (fault : StepFault)
    (world : StepWorld) : Steps Unit := do
  let kind := faultKindText fault.kind
  match (← Steps.lift (faultTarget setting step type)).filter
      fun id => (setting.peers.get? id).isSome with
  | none =>
    refuseStep step
      ("fault '" ++ kind ++ "' could not resolve target peer (step_type=" ++ stepTypeText type ++
        ")")
  | some target => do
    let url ← peerUrl setting target
    let ra ← Steps.runningAgent target
    let (mutatedUrl, mutatedPort) ← Steps.lift (mutate fault.kind url ra.port)
    Steps.emit "step.fault_injected"
      [("step_id", .str step.id), ("target", .str target),
       ("notes", .str ("kind=" ++ kind ++ " note=" ++ (given fault.note).getD ""))]
    -- The run goes on whatever the action raises.
    let error ← swallow (faultAction setting step type target mutatedUrl mutatedPort world)
    let outcome := Json.obj
      [("fault_injected", .bool true), ("kind", .str kind), ("target", .str target),
       ("mutated_url", .str mutatedUrl), ("error", error)]
    Steps.output step.id outcome
    Steps.emit "step.fault_complete"
      [("step_id", .str step.id), ("target", .str target), ("result", outcome)]

/-! ### Steps -/

/-- The type of a step, which may be left out: `none` is `meta`. -/
def inferType (step : WorkflowStep) : Option StepType :=
  step.type.or (if (given step.agent).isSome ∧ (given step.capability).isSome then some .workflow
    else none)

/-- The branch of a step type. -/
def dispatchType (type : StepType) (step : WorkflowStep) (world : StepWorld) : Steps Unit :=
  match type with
  | .capabilityCallNoTrust => dispatchCallNoTrust setting step world
  | .capabilityProbe => dispatchCapabilityProbe setting step world
  | .handshake => dispatchHandshake setting step world
  | .delegate => dispatchDelegate setting step world
  | .redeemDelegation => dispatchRedeemDelegation setting step world
  | .revokeTct => dispatchRevokeTct setting step world
  | .enrollWithCp => dispatchEnrollWithCp setting step world
  | .cpSubscribeWebhook => dispatchCpSubscribeWebhook setting step world
  | .cpProvisionTrustAnchor => dispatchCpProvisionTrustAnchor setting step world
  | .cpDelegationTree => dispatchCpDelegationTree setting step world
  | .renewTct => dispatchRenewTct setting step world
  | .tctCacheStats => dispatchTctCacheStats setting step world
  | .exportSessionBundle => dispatchExportSessionBundle setting step world
  | .verifySessionBundle => dispatchVerifySessionBundle setting step world
  | .spkiPinCheck => dispatchSpkiPinCheck setting step world
  | .rotateKeys => dispatchRotateKeys setting step world
  | .workflow => dispatchWorkflow setting step world

/-- `_dispatch_step`. -/
def dispatchStep (step : WorkflowStep) (world : StepWorld) : Steps Unit :=
  match inferType step, step.fault with
  | none, _ =>
    Steps.emit "step.skipped"
      [("step_id", .str step.id), ("notes", optionalText step.description)]
  -- A step with a fault does not reach the branch of its type.
  | some type, some fault => dispatchFaultInjected setting step type fault world
  | some type, none => dispatchType setting type step world

/-! ### Runs -/

/-- The loop over the steps. -/
def runSteps (worlds : Nat → StepWorld) : List (WorkflowStep × Nat) → Steps Unit
  | [] => pure ()
  | (step, n) :: rest => do
    dispatchStep setting step (worlds n)
    runSteps worlds rest

/-- What the world answers during a run. -/
structure RunWorld where
  /-- The first requests to trust the other agents. -/
  links : Nat → Link
  salt : Nat
  eager : Nat → StepWorld
  step : Nat → StepWorld

/-- The eager handshakes, when the scenario opts in. -/
def eagerTrust (worlds : Nat → StepWorld) : Steps Unit :=
  if setting.scenario.spec.trust.eager then establishPairwiseTrust setting worlds else pure ()

/-- `ScenarioRunner.run` from the end of the launch up to the start of step `n`. -/
def runUpTo (worlds : RunWorld) (n : Nat) : Steps Unit := do
  pushTrustedPeers setting worlds.links worlds.salt
  Steps.emit "trust.peers_resolved"
    [("peers", .obj (setting.peers.entries.map fun e => (e.1, optionalText e.2)))]
  eagerTrust setting worlds.eager
  runSteps setting worlds.step (setting.scenario.spec.steps.take n).zipIdx

/-- An eager handshake or a step, with what the world answers. -/
inductive WorkLabel where
  | eager (a b : String) (world : StepWorld)
  | step (step : WorkflowStep) (world : StepWorld)

/-- The code of a label. -/
def WorkLabel.code : WorkLabel → Steps Unit
  | .eager a b world => eagerHandshake setting a b world
  | .step st world => dispatchStep setting st world

/-- The machine. -/
def workStep (s : Workflow) (l : WorkLabel) : Option Workflow :=
  match l.code setting s with
  | .ok _ s' => some s'
  | .error _ _ => none

end

end AitpPlayground.Runner
