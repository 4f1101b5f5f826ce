import AitpPlayground.Proofs.Runner.RevokeTct

/-!
# `AitpPlayground.Proofs.Runner.Faults`: a step with a fault does not fail the run

`_dispatch_fault_injected` swallows what its action raises. The target of the fault is
resolved before that, outside of the `try` block. A `workflow` step without a `target_agent`
looks for the agent that offers its capability, in a table that has no manifests, and the
lookup raises. In every other case the target is a field of the step.
`fault_step_tolerated_iff` states this for the steps whose fields name agents of the scenario.
-/

set_option autoImplicit false

namespace AitpPlayground.Proofs.Runner

open AitpPlayground.Lib
open AitpPlayground.Lib.Act
open AitpPlayground.Hosting
open AitpPlayground.Registry
open AitpPlayground.Runner

section
variable (setting : RunSetting)

/-- What `run` has made before its first step: every agent of the scenario is running, and
`resolve_peers` has a manifest URL for it. -/
structure Staffed (s : Workflow) : Prop where
  running : ∀ spec ∈ setting.scenario.spec.agents, ∃ ra, s.running.get? spec.id = some ra
  peers : ∀ spec ∈ setting.scenario.spec.agents, ∃ url, setting.peers.get? spec.id = some (some url)

/-- A field is set and names an agent of the scenario. -/
def NamesAgent (field : Option String) : Prop :=
  ∃ spec ∈ setting.scenario.spec.agents, given field = some spec.id

/-- The agent fields of a step that can have a fault. -/
def FaultFields (step : WorkflowStep) : StepType → Prop
  | .handshake => NamesAgent setting step.initiator ∧ NamesAgent setting step.responder
  | .capabilityProbe => NamesAgent setting step.agent ∧ NamesAgent setting step.targetAgent
  | .workflow => NamesAgent setting step.agent ∧
      (given step.targetAgent = none ∨ NamesAgent setting step.targetAgent)
  | _ => False

/-- The step returns, its output says that a fault was injected, and the other outputs are as
they were. -/
def Tolerated (step : WorkflowStep) (world : StepWorld) (s : Workflow) : Prop :=
  ∃ s' outcome, dispatchStep setting step world s = .ok () s' ∧
    s'.outputs.get? step.id = some outcome ∧
    outcome.item "fault_injected" = .ok (.bool true) ∧
    ∀ id, id ≠ step.id → s'.outputs.get? id = s.outputs.get? id

end

section
variable {setting : RunSetting} {step : WorkflowStep}

/-- No step of a run removes an agent from the table. -/
theorem staffed_workStep {s s' : Workflow} {l : WorkLabel} (h : Staffed setting s)
    (hstep : workStep setting s l = some s') : Staffed setting s' := by
  refine ⟨fun spec hspec => ?_, h.peers⟩
  rcases workStep_still_or_rotates hstep with hstill | ⟨step, world, hrotate⟩
  · rw [hstill.running]
    exact h.running spec hspec
  · obtain ⟨ra, hra⟩ := h.running spec hspec
    have hport := (frame_rotate hrotate).ports spec.id
    rw [hra, Option.map_some, Option.map_eq_some_iff] at hport
    obtain ⟨ra', hra', -⟩ := hport
    exact ⟨ra', hra'⟩

/-- The staff is kept in every run. -/
theorem staffed_reach {s s' : Workflow} (h : Staffed setting s)
    (hrun : Reach (workStep setting) anyStep s s') : Staffed setting s' :=
  hrun.invariant (fun _ _ _ hs _ hstep => staffed_workStep hs hstep) h

/-! ### The outputs of the other steps -/

/-- The outputs of the other steps are as they were. -/
def OtherOutputs (stepId : String) (s s' : Workflow) : Prop :=
  ∀ id, id ≠ stepId → s'.outputs.get? id = s.outputs.get? id

instance (stepId : String) : Std.Refl (OtherOutputs stepId) := ⟨fun _ _ _ => rfl⟩

instance (stepId : String) : IsTrans Workflow (OtherOutputs stepId) :=
  ⟨fun _ _ _ h h' id hid => (h' id hid).trans (h id hid)⟩

/-- The rules by which a step leaves the outputs of others. -/
theorem otherOutputs_rules (stepId : String) :
    TokenRules setting stepId (OtherOutputs stepId) where
  emit _ _ _ _ _ := rfl
  output s value _ hid := Dict.get?_set_ne s.outputs value (Ne.symm hid)
  webhook _ _ _ _ _ := rfl
  call _ _ _ _ _ _ _ _ := rfl
  refresh _ _ _ _ _ _ _ := rfl
  established _ _ _ _ := rfl
  tokens _ _ _ _ _ _ _ _ := rfl
  note _ _ _ _ := rfl

/-- A step with a fault writes no output but its own. -/
theorem otherOutputs_of_fault {world : StepWorld} {s s' : Workflow} (hfault : step.fault.isSome)
    (h : dispatchStep setting step world s = .ok () s') : OtherOutputs step.id s s' :=
  (within_tokenStep (otherOutputs_rules step.id) world fun _ => hfault).of_ok h

/-! ### The target of a fault -/

/-- The target is the agent that a field of the step names. -/
theorem faultTarget_eq_ok {type : StepType} (hfields : FaultFields setting step type)
    (htarget : ¬(type = .workflow ∧ given step.targetAgent = none)) :
    ∃ spec ∈ setting.scenario.spec.agents,
      faultTarget setting step type = .ok (some spec.id) := by
  unfold FaultFields at hfields
  split at hfields
  · obtain ⟨-, spec, hspec, hresponder⟩ := hfields
    exact ⟨spec, hspec, congrArg Except.ok (given_eq_some hresponder)⟩
  · obtain ⟨-, spec, hspec, hagent⟩ := hfields
    refine ⟨spec, hspec, ?_⟩
    unfold faultTarget
    rw [hagent]
  · obtain ⟨-, hnone | ⟨spec, hspec, hagent⟩⟩ := hfields
    · exact absurd ⟨rfl, hnone⟩ htarget
    · refine ⟨spec, hspec, ?_⟩
      unfold faultTarget
      rw [hagent]
  · exact hfields.elim

/-- A table without manifests: the first agent in the loop raises. -/
theorem findCapabilityHolder_raises (capability : String) {scenario : ScenarioVersion}
    (hagents : scenario.spec.agents ≠ []) (prefer : Option String) :
    ∃ exc, findCapabilityHolder capability scenario
      (Dict.ofList (scenario.spec.agents.map fun a => (a.id, none))) prefer = .error exc := by
  generalize hmanifests :
    (Dict.ofList (scenario.spec.agents.map fun a => (a.id, (none : Option AgentManifest)))) =
      manifests
  have hnone : ∀ id manifest, manifests.get? id = some manifest → manifest = none := by
    intro id manifest hget
    rw [← hmanifests] at hget
    obtain ⟨a, -, heq⟩ := List.mem_map.mp
      (Dict.mem_of_mem_ofList ((Dict.get?_eq_some_iff _ _ _).mp hget))
    cases heq
    rfl
  obtain ⟨first, rest, hfirst⟩ := List.exists_cons_of_ne_nil hagents
  have hscan : ∃ exc, scanManifests capability manifests scenario.spec.agents = .error exc := by
    rw [hfirst, scanManifests]
    cases hget : manifests.get? first.id with
    | none => exact ⟨_, rfl⟩
    | some manifest =>
      cases hnone _ _ hget
      exact ⟨_, rfl⟩
  unfold findCapabilityHolder
  rw [Option.filter_eq_none_iff.mpr]
  · exact hscan
  · intro id _
    cases hget : manifests.get? id with
    | none => exact Bool.false_ne_true
    | some manifest =>
      cases hnone _ _ hget
      exact Bool.false_ne_true

/-- A `workflow` step without a `target_agent` has no target. -/
theorem faultTarget_raises {type : StepType} (hfields : FaultFields setting step type)
    (htype : type = .workflow) (hnone : given step.targetAgent = none) :
    ∃ exc, faultTarget setting step type = .error exc := by
  subst htype
  obtain ⟨⟨spec, hspec, -⟩, -⟩ := hfields
  obtain ⟨exc, hexc⟩ := findCapabilityHolder_raises (step.capability.getD "")
    (List.ne_nil_of_mem hspec) step.agent
  refine ⟨exc, ?_⟩
  unfold faultTarget
  rw [hnone]
  exact except_bind_eq_error.mpr (.inl hexc)

/-! ### The step -/

/-- Every fault has its mutation. -/
theorem mutate_returns (kind : FaultKind) (url : String) (port : Int) :
    ∃ mutated, mutate kind (some url) port = .ok mutated := by
  cases kind
  · exact ⟨_, rfl⟩
  · exact ⟨_, rfl⟩

/-- Whatever the action does, the runner goes on. -/
theorem swallow_returns (x : Steps Unit) (s : Workflow) :
    ∃ error s', swallow x s = .ok error s' := by
  cases hrun : (do x; pure .null : Steps Json) s with
  | ok error s' => exact ⟨error, s', tryCatch_of_ok hrun⟩
  | error exc s' => exact ⟨_, s', (tryCatch_of_error hrun).trans rfl⟩

/-- With a target that runs and has a URL, the step returns and says so in its output. -/
theorem dispatchFaultInjected_returns {type : StepType} {target url : String} {ra : RunningAgent}
    {s : Workflow} (fault : StepFault) (world : StepWorld)
    (htarget : faultTarget setting step type = .ok (some target))
    (hpeer : setting.peers.get? target = some (some url))
    (hra : s.running.get? target = some ra) :
    ∃ s' outcome, dispatchFaultInjected setting step type fault world s = .ok () s' ∧
      s'.outputs.get? step.id = some outcome ∧
      outcome.item "fault_injected" = .ok (.bool true) := by
  obtain ⟨⟨mutatedUrl, mutatedPort⟩, hmutate⟩ := mutate_returns fault.kind url ra.port
  -- The event is recorded, and the action runs under the handler.
  let injected : Emission :=
    { type := "step.fault_injected"
      fields := Dict.ofList [("step_id", .str step.id), ("target", .str target),
        ("notes", .str ("kind=" ++ faultKindText fault.kind ++ " note=" ++
          (given fault.note).getD ""))] }
  obtain ⟨error, s₁, hswallow⟩ := swallow_returns
    (faultAction setting step type target mutatedUrl mutatedPort world)
    { s with events := s.events ++ [injected] }
  let outcome : Json := .obj
    [("fault_injected", .bool true), ("kind", .str (faultKindText fault.kind)),
     ("target", .str target), ("mutated_url", .str mutatedUrl), ("error", error)]
  let complete : Emission :=
    { type := "step.fault_complete"
      fields := Dict.ofList
        [("step_id", .str step.id), ("target", .str target), ("result", outcome)] }
  refine ⟨{ s₁ with outputs := s₁.outputs.set step.id outcome, events := s₁.events ++ [complete] },
    outcome, ?_, Dict.get?_set_self .., rfl⟩
  refine bind_eq_ok.mpr ⟨some target, s, ofExcept_eq_ok.mpr ⟨htarget, rfl⟩, ?_⟩
  rw [Option.filter_some, hpeer]
  refine bind_eq_ok.mpr ⟨some url, s, orThrow_eq_ok.mpr ⟨hpeer, rfl⟩, ?_⟩
  refine bind_eq_ok.mpr ⟨ra, s, ?_, ?_⟩
  · exact bind_eq_ok.mpr ⟨s, s, rfl, orThrow_eq_ok.mpr ⟨hra, rfl⟩⟩
  refine bind_eq_ok.mpr ⟨_, s, ofExcept_eq_ok.mpr ⟨hmutate, rfl⟩, ?_⟩
  refine bind_eq_ok.mpr ⟨(), _, rfl, ?_⟩
  exact bind_eq_ok.mpr ⟨error, s₁, hswallow, rfl⟩

/-- A step with a fault whose fields name agents of the scenario is tolerated, unless it is a
`workflow` step without a `target_agent`. -/
theorem fault_step_tolerated_iff {s : Workflow} (world : StepWorld) {fault : StepFault}
    {type : StepType} (hstaffed : Staffed setting s) (hfault : step.fault = some fault)
    (htype : inferType step = some type) (hfields : FaultFields setting step type) :
    Tolerated setting step world s ↔ ¬(type = .workflow ∧ given step.targetAgent = none) := by
  have hdispatch : dispatchStep setting step world =
      dispatchFaultInjected setting step type fault world := by
    unfold dispatchStep
    rw [htype, hfault]
  constructor
  · rintro ⟨s', outcome, hrun, -⟩ ⟨hworkflow, hnone⟩
    obtain ⟨exc, hexc⟩ := faultTarget_raises hfields hworkflow hnone
    rw [hdispatch] at hrun
    obtain ⟨target, s₁, htarget, -⟩ := bind_eq_ok.mp hrun
    rw [hexc] at htarget
    cases htarget
  · intro htarget
    obtain ⟨spec, hspec, htarget⟩ := faultTarget_eq_ok hfields htarget
    obtain ⟨ra, hra⟩ := hstaffed.running spec hspec
    obtain ⟨url, hpeer⟩ := hstaffed.peers spec hspec
    obtain ⟨s', outcome, hrun, hout, hinjected⟩ :=
      dispatchFaultInjected_returns fault world htarget hpeer hra
    rw [← hdispatch] at hrun
    refine ⟨s', outcome, hrun, hout, hinjected, otherOutputs_of_fault ?_ hrun⟩
    rw [hfault]
    rfl

end

/-- The two agents of a pair run, and have URLs. -/
theorem staffed_pair (py : PyLib) (steps : List WorkflowStep) :
    Staffed (pairSetting py steps) launchedPair := by
  constructor
  · intro spec hspec
    rcases List.mem_cons.mp hspec with rfl | hspec
    · exact ⟨agentAt "a" 9001, rfl⟩
    · cases List.mem_singleton.mp hspec
      exact ⟨agentAt "b" 9002, rfl⟩
  · intro spec hspec
    rcases List.mem_cons.mp hspec with rfl | hspec
    · exact ⟨_, rfl⟩
    · cases List.mem_singleton.mp hspec
      exact ⟨_, rfl⟩

/-- A handshake of `a` with `b`, whose manifest is not there. -/
def missedHandshake : WorkflowStep :=
  { handshakeOfA with fault := some { kind := .manifest404 } }

/-- `a` calls a capability of `b`, which is offline. -/
def missedCall (targetAgent : Option String) : WorkflowStep :=
  { id := "call", type := some .workflow, agent := some "a", capability := some "demo.echo"
    targetAgent, fault := some { kind := .peerOffline } }

/-- A handshake with a fault. -/
theorem fault_step_tolerated_handshake :
    Tolerated (pairSetting .refusing []) missedHandshake silentWorld launchedPair := by
  have hfields : FaultFields (pairSetting .refusing []) missedHandshake .handshake :=
    ⟨⟨_, List.mem_cons_self .., rfl⟩, _, List.mem_cons_of_mem _ (List.mem_cons_self ..), rfl⟩
  refine (fault_step_tolerated_iff silentWorld (staffed_pair _ _) rfl rfl hfields).mpr ?_
  exact fun h => absurd h.1 (by decide)

/-- A `workflow` step with a fault and without a `target_agent` fails the run. -/
theorem fault_step_fails_without_target :
    ¬ ∀ setting step world fault type s, Staffed setting s → step.fault = some fault →
      inferType step = some type → FaultFields setting step type →
        Tolerated setting step world s := by
  intro hall
  obtain ⟨s', outcome, hrun, -⟩ := hall (pairSetting .refusing []) (missedCall none) silentWorld _ _
    launchedPair (staffed_pair _ _) rfl rfl ⟨⟨_, List.mem_cons_self .., rfl⟩, .inl rfl⟩
  cases hrun

end AitpPlayground.Proofs.Runner
