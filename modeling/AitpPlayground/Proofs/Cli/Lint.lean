import AitpPlayground.Cli.Lint
import AitpPlayground.Proofs.Runner.Lookups

/-!
# `AitpPlayground.Proofs.Cli.Lint`: what a clean scenario can refer to

`_lint_scenario` has a list of fields that it takes for agent ids, and two fields that it takes
for step ids. `_dispatch_step` looks up more than these: the `target` of a redemption, and the
`coordinator`, the `participants`, the `verifier` and the `via_step` of the session bundles.
`lint_sound_iff` says that a clean scenario has all its lookups answered just when these
references are right, and that it fails on none then.
-/

set_option autoImplicit false

namespace AitpPlayground.Proofs.Cli

open AitpPlayground.Lib
open AitpPlayground.Lib.Act
open AitpPlayground.Registry
open AitpPlayground.Runner
open AitpPlayground.Cli
open AitpPlayground.Proofs.Runner

/-! ### What the linter has checked -/

/-- Nothing was found about a step. -/
structure Linted (agentIds prior : List String) (step : WorkflowStep) : Prop where
  agent : ∀ field ∈ agentFields step, ∀ value, given field.2 = some value → value ∈ agentIds
  refresh : ∀ value ∈ step.refreshAgents.getD [], value ∈ agentIds
  viaDelegation : ∀ value, given step.viaDelegation = some value → value ∈ prior
  inputFrom : ∀ value, given step.inputFrom = some value → value ∈ prior

/-- Without a finding, the agents that a step names are agents of the scenario. -/
theorem mem_of_lintAgentFields {py : PyLib} {label : String} {agentIds : List String}
    {step : WorkflowStep} (h : lintAgentFields py label agentIds step = []) :
    ∀ field ∈ agentFields step, ∀ value, given field.2 = some value → value ∈ agentIds := by
  intro field hfield value hvalue
  have hnone := List.filterMap_eq_nil_iff.mp h field hfield
  by_contra hnot
  simp only [hvalue, Option.bind_some, if_neg hnot, reduceCtorEq] at hnone

/-- Without a finding, the agents that a step refreshes are agents of the scenario. -/
theorem mem_of_lintRefreshAgents {py : PyLib} {label : String} {agentIds : List String}
    {step : WorkflowStep} (h : lintRefreshAgents py label agentIds step = []) :
    ∀ value ∈ step.refreshAgents.getD [], value ∈ agentIds := by
  intro value hvalue
  have hnone := List.filterMap_eq_nil_iff.mp h value hvalue
  by_contra hnot
  simp only [if_neg hnot, reduceCtorEq] at hnone

/-- A step that it refers to comes before. -/
theorem mem_of_lintStepField {py : PyLib} {label field : String} {prior : List String}
    {value : Option String} (h : lintStepField py label prior field value = []) :
    ∀ id, given value = some id → id ∈ prior := by
  intro id hid
  unfold lintStepField at h
  rw [hid] at h
  by_contra hnot
  simp only [if_neg hnot, reduceCtorEq] at h

/-- So a step without findings is linted. -/
theorem linted_of_lintStep {py : PyLib} {refLabel : String} {agentIds prior : List String}
    {offered : Dict String (List String)} {step : WorkflowStep}
    (h : lintStep py refLabel agentIds offered prior step = []) : Linted agentIds prior step := by
  obtain ⟨h, hinput⟩ := List.append_eq_nil_iff.mp h
  obtain ⟨h, hdelegation⟩ := List.append_eq_nil_iff.mp h
  obtain ⟨h, -⟩ := List.append_eq_nil_iff.mp h
  obtain ⟨h, -⟩ := List.append_eq_nil_iff.mp h
  obtain ⟨h, -⟩ := List.append_eq_nil_iff.mp h
  obtain ⟨hagents, hrefresh⟩ := List.append_eq_nil_iff.mp h
  exact ⟨mem_of_lintAgentFields hagents, mem_of_lintRefreshAgents hrefresh,
    mem_of_lintStepField hdelegation, mem_of_lintStepField hinput⟩

/-- The loop checks each step against the ids of the steps before it. -/
theorem linted_of_lintSteps {py : PyLib} {refLabel : String} {agentIds prior : List String}
    {offered : Dict String (List String)} {before after : List WorkflowStep} {step : WorkflowStep}
    (h : lintSteps py refLabel agentIds offered prior (before ++ step :: after) = []) :
    Linted agentIds (prior ++ before.map WorkflowStep.id) step := by
  induction before generalizing prior with
  | nil =>
    rw [List.map_nil, List.append_nil]
    exact linted_of_lintStep (List.append_eq_nil_iff.mp h).1
  | cons first before ih =>
    rw [List.map_cons, ← List.singleton_append, ← List.append_assoc]
    exact ih (List.append_eq_nil_iff.mp h).2

/-- A scenario without findings. -/
theorem linted_of_lintScenario {δ : Type} {py : PyLib} {schema : Schema δ}
    {reads : Nat → ManifestRead δ} {refLabel : String} {sv : ScenarioVersion}
    {svc svc' : RegistryService}
    (h : lintScenario py schema reads refLabel sv svc = .ok [] svc')
    {before after : List WorkflowStep} {step : WorkflowStep}
    (hsteps : sv.spec.steps = before ++ step :: after) :
    Linted (sv.spec.agents.map AgentSpec.id) (before.map WorkflowStep.id) step := by
  obtain ⟨⟨found, offered⟩, svc₁, -, hpure⟩ := bind_eq_ok.mp h
  have hnil := (List.append_eq_nil_iff.mp (pure_eq_ok.mp hpure).1).2
  rw [hsteps] at hnil
  have hlinted := linted_of_lintSteps hnil
  rwa [List.nil_append] at hlinted

/-! ### References -/

section
variable (setting : RunSetting)

/-- A read finds the agent or the step that it names. -/
def Resolves (before : List WorkflowStep) : Lookup → Prop
  | .agent agentId => ∃ id, agentId = some id ∧ IsAgent setting id
  | .output stepId => ∃ step ∈ before, step.id = stepId

/-- The references that the linter does not look at are right: the target of a redemption, the
agents of a session bundle, and the step that a bundle comes from. -/
def UnlintedType (before : List WorkflowStep) (step : WorkflowStep) : StepType → Prop
  | .redeemDelegation =>
    ∀ target, given step.target = some target →
      given step.delegatee = none ∨ given step.viaDelegation = none ∨ IsAgent setting target
  | .exportSessionBundle =>
    ∀ coordinator, given step.coordinator = some coordinator →
      step.participants.getD [] = [] ∨
        IsAgent setting coordinator ∧ ∀ id ∈ step.participants.getD [], IsAgent setting id
  | .verifySessionBundle =>
    ∀ verifier viaStep, given step.verifier = some verifier → given step.viaStep = some viaStep →
      IsAgent setting verifier ∧ ∃ earlier ∈ before, earlier.id = viaStep
  | _ => True

/-- The same of a step with a fault. It does not check that a field is set before it reads by
it, and the linter passes over an empty one. -/
def UnlintedFault (step : WorkflowStep) : StepType → Prop
  | .redeemDelegation => ∀ target, step.target = some target → IsAgent setting target
  | .delegate => ∀ viaPeer, step.viaPeer = some viaPeer → IsAgent setting viaPeer
  | .handshake =>
    ∀ responder, step.responder = some responder →
      IsAgent setting responder ∧ ∃ initiator, step.initiator = some initiator ∧
        IsAgent setting initiator
  | .workflow | .capabilityProbe =>
    setting.scenario.spec.agents = [] → step.agent ≠ some ""
  | _ => True

/-- The references of a step that the linter does not look at are right. -/
def Unlinted (before : List WorkflowStep) (step : WorkflowStep) : Prop :=
  match inferType step, step.fault with
  | none, _ => True
  | some type, some _ => UnlintedFault setting step type
  | some type, none => UnlintedType setting before step type

end

section
variable {setting : RunSetting} {before : List WorkflowStep} {step : WorkflowStep}

/-- Nothing was found about a step of this scenario. -/
abbrev LintedIn (setting : RunSetting) (before : List WorkflowStep) (step : WorkflowStep) : Prop :=
  Linted (setting.scenario.spec.agents.map AgentSpec.id) (before.map WorkflowStep.id) step

/-- The lookup of an agent succeeds for the agents of the scenario. -/
theorem resolves_agent {id : String} :
    Resolves setting before (.agent (some id)) ↔ IsAgent setting id := by
  constructor
  · rintro ⟨other, heq, hagent⟩
    cases heq
    exact hagent
  · exact fun h => ⟨id, rfl, h⟩

/-- A field that the linter has checked names an agent. -/
theorem LintedIn.isAgent (h : LintedIn setting before step) (name : String)
    {field : Option String} {value : String} (hvalue : given field = some value)
    (hfield : (name, field) ∈ agentFields step) : IsAgent setting value :=
  List.mem_map.mp (h.agent _ hfield value hvalue)

/-- The agents that a linted step names are found. -/
theorem LintedIn.resolves (h : LintedIn setting before step) (name : String)
    {field : Option String} {value : String} (hvalue : given field = some value)
    (hfield : (name, field) ∈ agentFields step) : Resolves setting before (.agent (some value)) :=
  resolves_agent.mpr (h.isAgent name hvalue hfield)

/-- The step that the input of a linted step comes from is found. -/
theorem LintedIn.resolves_input (h : LintedIn setting before step) :
    ∀ l ∈ inputLookup step, Resolves setting before l := by
  intro l hl
  unfold inputLookup at hl
  rw [Option.mem_toList, Option.map_eq_some_iff] at hl
  obtain ⟨stepId, hgiven, rfl⟩ := hl
  exact List.mem_map.mp (h.inputFrom stepId hgiven)

/-- The agent that offers a capability is the one of the step, or one of the scenario. -/
theorem isAgent_of_findCapabilityHolder {capability agent holder : String}
    {manifests : Dict String (Option AgentManifest)} (hagent : IsAgent setting agent)
    (h : findCapabilityHolder capability setting.scenario manifests (some agent) =
      .ok (some holder)) : IsAgent setting holder := by
  unfold findCapabilityHolder at h
  simp only at h
  split at h
  case h_1 id hprefer =>
    cases h
    rw [Option.filter_eq_some_iff] at hprefer
    obtain ⟨heq, -⟩ := hprefer
    cases heq
    exact hagent
  case h_2 =>
    have hscan : ∀ specs : List AgentSpec, scanManifests capability manifests specs =
        .ok (some holder) → ∃ spec ∈ specs, spec.id = holder := by
      intro specs
      induction specs with
      | nil =>
        intro h
        cases h
      | cons spec rest ih =>
        intro h
        unfold scanManifests at h
        split at h
        case h_1 => cases h
        case h_2 => cases h
        case h_3 =>
          split at h
          case isTrue =>
            cases h
            exact ⟨spec, List.mem_cons_self .., rfl⟩
          case isFalse =>
            obtain ⟨other, hother, heq⟩ := ih h
            exact ⟨other, List.mem_cons_of_mem _ hother, heq⟩
    exact hscan _ h

/-- Two fields that the linter has checked. -/
theorem LintedIn.resolves_pair (h : LintedIn setting before step) (name name' : String)
    {field field' : Option String} {value value' : String} (hvalue : given field = some value)
    (hvalue' : given field' = some value') (hfield : (name, field) ∈ agentFields step)
    (hfield' : (name', field') ∈ agentFields step) :
    ∀ l ∈ [Lookup.agent (some value), .agent (some value')], Resolves setting before l := by
  rw [List.forall_mem_cons, List.forall_mem_singleton]
  exact ⟨h.resolves name hvalue hfield, h.resolves name' hvalue' hfield'⟩

/-- A branch that reads the agent of the step only. -/
theorem LintedIn.resolves_own (h : LintedIn setting before step) :
    ∀ l ∈ (match given step.agent with
      | some agent => [Lookup.agent (some agent)]
      | none => []), Resolves setting before l := by
  cases hagent : given step.agent with
  | none => exact List.forall_mem_nil _
  | some agent =>
    exact List.forall_mem_singleton.mpr (h.resolves "agent" hagent (by simp [agentFields]))

/-- The branches whose reads the linter has checked. -/
theorem typeLookups_resolve (h : LintedIn setting before step) {type : StepType}
    (hredeem : type ≠ .redeemDelegation) (hexport : type ≠ .exportSessionBundle)
    (hverify : type ≠ .verifySessionBundle) :
    ∀ l ∈ typeLookups setting type step, Resolves setting before l := by
  cases type with
  | redeemDelegation => exact absurd rfl hredeem
  | exportSessionBundle => exact absurd rfl hexport
  | verifySessionBundle => exact absurd rfl hverify
  | cpSubscribeWebhook => exact List.forall_mem_nil _
  | spkiPinCheck => exact List.forall_mem_nil _
  | enrollWithCp => exact h.resolves_own
  | cpProvisionTrustAnchor => exact h.resolves_own
  | cpDelegationTree => exact h.resolves_own
  | rotateKeys => exact h.resolves_own
  | tctCacheStats => exact h.resolves_own
  | capabilityCallNoTrust =>
    simp only [typeLookups]
    split
    case h_1 agent target _ hagent htarget _ =>
      exact h.resolves_pair "agent" "target_agent" hagent htarget
        (by simp [agentFields]) (by simp [agentFields])
    case h_2 => exact List.forall_mem_nil _
  | capabilityProbe =>
    simp only [typeLookups]
    split
    case h_1 agent target _ hagent htarget _ =>
      refine List.forall_mem_append.mpr ⟨h.resolves_input, ?_⟩
      exact h.resolves_pair "agent" "target_agent" hagent htarget
        (by simp [agentFields]) (by simp [agentFields])
    case h_2 => exact List.forall_mem_nil _
  | handshake =>
    simp only [typeLookups]
    split
    case h_1 initiator responder hinitiator hresponder =>
      exact h.resolves_pair "initiator" "responder" hinitiator hresponder
        (by simp [agentFields]) (by simp [agentFields])
    case h_2 => exact List.forall_mem_nil _
  | renewTct =>
    simp only [typeLookups]
    split
    case h_1 agent viaPeer hagent hviaPeer =>
      exact h.resolves_pair "agent" "via_peer" hagent hviaPeer
        (by simp [agentFields]) (by simp [agentFields])
    case h_2 => exact List.forall_mem_nil _
  | delegate =>
    simp only [typeLookups]
    split
    case h_1 delegator delegatee viaPeer hdelegator hdelegatee hviaPeer =>
      refine List.forall_mem_cons.mpr ⟨?_, ?_⟩
      · exact h.resolves "delegator" hdelegator (by simp [agentFields])
      · exact h.resolves_pair "via_peer" "delegatee" hviaPeer hdelegatee
          (by simp [agentFields]) (by simp [agentFields])
    case h_2 => exact List.forall_mem_nil _
  | revokeTct =>
    simp only [typeLookups]
    split
    case h_1 issuer _ hissuer _ =>
      refine List.forall_mem_cons.mpr ⟨?_, ?_⟩
      · exact h.resolves "issuer" hissuer (by simp [agentFields])
      · split
        case isTrue =>
          intro l hl
          obtain ⟨agentId, hagent, rfl⟩ := List.mem_map.mp hl
          exact resolves_agent.mpr (List.mem_map.mp (h.refresh agentId hagent))
        case isFalse => exact List.forall_mem_nil _
    case h_2 => exact List.forall_mem_nil _
  | workflow =>
    simp only [typeLookups]
    split
    case h_1 agent capability hagent _ =>
      have hstep := h.isAgent "agent" hagent (by simp [agentFields])
      refine List.forall_mem_append.mpr
        ⟨List.forall_mem_cons.mpr ⟨resolves_agent.mpr hstep, ?_⟩, h.resolves_input⟩
      unfold holderLookup
      split
      case h_1 holder hholder =>
        exact List.forall_mem_singleton.mpr
          (resolves_agent.mpr (isAgent_of_findCapabilityHolder hstep hholder))
      case h_2 => exact List.forall_mem_nil _
    case h_2 => exact List.forall_mem_nil _

/-- The reads of a branch. -/
theorem typeLookups_resolve_iff (h : LintedIn setting before step) (type : StepType) :
    (∀ l ∈ typeLookups setting type step, Resolves setting before l) ↔
      UnlintedType setting before step type := by
  cases type with
  | redeemDelegation =>
    unfold typeLookups UnlintedType
    cases hdelegatee : given step.delegatee with
    | none => simp
    | some delegatee =>
      cases htarget : given step.target with
      | none => simp
      | some target =>
        cases hvia : given step.viaDelegation with
        | none => simp
        | some viaDelegation =>
          have hstep : Resolves setting before (.output viaDelegation) :=
            List.mem_map.mp (h.viaDelegation _ hvia)
          have hagent := h.resolves "delegatee" hdelegatee (by simp [agentFields])
          simp [hstep, hagent, resolves_agent]
  | exportSessionBundle =>
    unfold typeLookups UnlintedType
    cases hcoordinator : given step.coordinator with
    | none => simp
    | some coordinator =>
      cases hparticipants : step.participants.getD [] with
      | nil => simp
      | cons first others => simp [resolves_agent]
  | verifySessionBundle =>
    unfold typeLookups UnlintedType
    cases hverifier : given step.verifier with
    | none => simp
    | some verifier =>
      cases hvia : given step.viaStep with
      | none => simp
      | some viaStep => simp [Resolves, and_comm]
  | _ => exact iff_of_true (typeLookups_resolve h (by simp) (by simp) (by simp)) trivial

/-- The target of a capability step with a fault: without a `target_agent` there is one only in
a scenario without agents. -/
theorem faultTarget_capability {type : StepType}
    (htype : type = .workflow ∨ type = .capabilityProbe) :
    faultTarget setting step type = (match given step.targetAgent with
      | some target => .ok (some target)
      | none => do
        let holder ← findCapabilityHolder (step.capability.getD "") setting.scenario
          (Dict.ofList (setting.scenario.spec.agents.map fun a => (a.id, none))) step.agent
        pure (holder.or step.agent)) := by
  rcases htype with rfl | rfl
  · rfl
  · rfl

/-- Without agents no capability has a holder. -/
theorem findCapabilityHolder_empty {capability : String} {scenario : ScenarioVersion}
    {prefer : Option String} (h : scenario.spec.agents = []) :
    findCapabilityHolder capability scenario
      (Dict.ofList (scenario.spec.agents.map fun a => (a.id, (none : Option AgentManifest))))
      prefer = .ok none := by
  unfold findCapabilityHolder
  rw [h, Option.filter_eq_none_iff.mpr]
  · rfl
  · intro id _
    exact Bool.false_ne_true

/-- The reads of a capability step with a fault. -/
theorem faultLookups_capability_iff (h : LintedIn setting before step) {type : StepType}
    (htype : type = .workflow ∨ type = .capabilityProbe) :
    (∀ l ∈ faultLookups setting type step, Resolves setting before l) ↔
      (setting.scenario.spec.agents = [] → step.agent ≠ some "") := by
  have haction : ∀ target, actionLookups type step target =
      inputLookup step ++ [.agent (some ((given step.agent).getD target))] := by
    intro target
    rcases htype with rfl | rfl
    · rfl
    · rfl
  unfold faultLookups
  rw [faultTarget_capability htype]
  cases htarget : given step.targetAgent with
  | some target =>
    have hagent := h.isAgent "target_agent" htarget (by simp [agentFields])
    refine iff_of_true ?_ fun hempty => ?_
    · refine List.forall_mem_cons.mpr ⟨resolves_agent.mpr hagent, ?_⟩
      rw [haction]
      refine List.forall_mem_append.mpr ⟨h.resolves_input, List.forall_mem_singleton.mpr ?_⟩
      -- The caller is the agent of the step, or the target itself.
      cases hcaller : given step.agent with
      | none => exact resolves_agent.mpr hagent
      | some agent => exact h.resolves "agent" hcaller (by simp [agentFields])
    · obtain ⟨spec, hspec, -⟩ := hagent
      rw [hempty] at hspec
      cases hspec
  | none =>
    by_cases hempty : setting.scenario.spec.agents = []
    · rw [findCapabilityHolder_empty hempty]
      have hnobody : ∀ id, ¬ IsAgent setting id := by
        rintro id ⟨spec, hspec, -⟩
        rw [hempty] at hspec
        cases hspec
      cases hagent : step.agent with
      | none => exact iff_of_true (List.forall_mem_nil _) fun _ => nofun
      | some agent =>
        -- Nobody has this id. A clean scenario has an empty one here.
        have hblank : agent = "" := by
          rcases given_cases hagent with hnone | hgiven
          · by_contra hne
            rw [hagent] at hnone
            exact absurd hnone (by simp [given, hne])
          · exact absurd (h.isAgent "agent" hgiven (by simp [agentFields])) (hnobody _)
        refine iff_of_false (fun hall => ?_) (fun hne => hne hempty (congrArg some hblank))
        exact hnobody agent (resolves_agent.mp (hall _ (List.mem_cons_self ..)))
    · obtain ⟨exc, hexc⟩ := findCapabilityHolder_raises (step.capability.getD "") hempty step.agent
      rw [hexc]
      exact iff_of_true (List.forall_mem_nil _) fun h => absurd h hempty

/-- The reads of a step with a fault. -/
theorem faultLookups_resolve_iff (h : LintedIn setting before step) (type : StepType) :
    (∀ l ∈ faultLookups setting type step, Resolves setting before l) ↔
      UnlintedFault setting step type := by
  cases type with
  | redeemDelegation =>
    unfold faultLookups faultTarget UnlintedFault
    cases step.target with
    | none => simp
    | some target => simp [actionLookups, resolves_agent]
  | delegate =>
    unfold faultLookups faultTarget UnlintedFault
    cases step.viaPeer with
    | none => simp
    | some viaPeer => simp [actionLookups, resolves_agent]
  | handshake =>
    unfold faultLookups faultTarget UnlintedFault
    cases hresponder : step.responder with
    | none => simp
    | some responder =>
      simp only [actionLookups, hresponder, Resolves, List.forall_mem_cons, Option.some.injEq,
        List.not_mem_nil, false_implies, implies_true, and_true, exists_eq_left', forall_eq']
      tauto
  | workflow => exact faultLookups_capability_iff h (.inl rfl)
  | capabilityProbe => exact faultLookups_capability_iff h (.inr rfl)
  | _ => exact iff_of_true (List.forall_mem_nil _) trivial

/-- The reads of a step that the linter has passed. -/
theorem lookups_resolve_iff (h : LintedIn setting before step) :
    (∀ l ∈ lookups setting step, Resolves setting before l) ↔ Unlinted setting before step := by
  unfold lookups Unlinted
  cases inferType step with
  | none => exact iff_of_true (List.forall_mem_nil _) trivial
  | some type =>
    cases step.fault with
    | none => exact typeLookups_resolve_iff h type
    | some fault => exact faultLookups_resolve_iff h type

end

/-! ### Runs -/

section
variable (setting : RunSetting)

/-- What a run has before its first step: its agents run, and the peers and the manifests are
resolved. -/
structure Prepared (s : Workflow) : Prop extends Staffed setting s where
  manifests : ∀ spec ∈ setting.scenario.spec.agents, (setting.manifests.get? spec.id).isSome

/-- Every lookup of every step is for an agent of the scenario, or for an earlier step. -/
def StepGraphSound : Prop :=
  ∀ before step after, setting.scenario.spec.steps = before ++ step :: after →
    ∀ l ∈ lookups setting step, Resolves setting before l

/-- No step of a run raises a `KeyError` of a lookup. -/
def NeverDangles : Prop :=
  ∀ s₀ s step world exc s', Prepared setting s₀ → Reach (workStep setting) anyStep s₀ s →
    step ∈ setting.scenario.spec.steps → dispatchStep setting step world s = .error exc s' →
      Harmless world exc

end

section
variable {setting : RunSetting}

/-- In a sound graph no lookup dangles. -/
theorem neverDangles_of_sound (hpy : setting.py.Documented) (h : StepGraphSound setting) :
    NeverDangles setting := by
  intro s₀ s step world exc s' hstart hreach hstep hrun
  obtain ⟨before, after, hsteps⟩ := List.append_of_mem hstep
  have hstaffed := staffed_reach hstart.toStaffed hreach
  refine ((safe_dispatchStep hpy (fun spec hspec => ?_) hstart.manifests
    fun id hid => ?_) s hstaffed).2 exc s' hrun
  · obtain ⟨url, hurl⟩ := hstaffed.peers spec hspec
    exact Option.isSome_of_eq_some hurl
  · exact resolves_agent.mp (h before step after hsteps _ hid)

/-- The step graph of a scenario that the linter finds nothing about is sound, and its runs fail
on no reference, just when the references are right that the linter does not look at. -/
theorem lint_sound_iff {δ : Type} {schema : Schema δ} {reads : Nat → ManifestRead δ}
    {refLabel : String} {svc svc' : RegistryService} (hpy : setting.py.Documented)
    (hlint : lintScenario setting.py schema reads refLabel setting.scenario svc = .ok [] svc') :
    StepGraphSound setting ∧ NeverDangles setting ↔
      ∀ before step after, setting.scenario.spec.steps = before ++ step :: after →
        Unlinted setting before step := by
  have hsound : StepGraphSound setting ↔
      ∀ before step after, setting.scenario.spec.steps = before ++ step :: after →
        Unlinted setting before step := by
    refine forall_congr' fun before => forall_congr' fun step => forall_congr' fun after => ?_
    exact forall_congr' fun hsteps => lookups_resolve_iff (linted_of_lintScenario hlint hsteps)
  rw [← hsound]
  exact ⟨And.left, fun h => ⟨h, neverDangles_of_sound hpy h⟩⟩

end

/-- `coordinator` makes a session bundle with `b` in it. -/
def bundleStep (coordinator : String) : WorkflowStep :=
  { id := "bundle", type := some .exportSessionBundle, coordinator := some coordinator
    participants := some ["b"] }

/-- A manifest that offers nothing. -/
def idleManifest (id : String) : AgentManifest where
  id := id
  name := id
  framework := .custom
  entrypoint := Dict.empty
  aitp := { offeredCaps := [], displayName := id }

/-- A run of this step alone. -/
def bundleSetting (coordinator : String) : RunSetting :=
  { pairSetting .refusing [bundleStep coordinator] with
      manifests := .ofList [("a", some (idleManifest "a")), ("b", some (idleManifest "b"))] }

/-- A registry that has loaded the manifests of both agents. -/
def pairRegistry : RegistryService where
  ttl := 1
  cached := some { LoadedRegistry.empty with
    agents := .ofList [("a@1", idleManifest "a"), ("b@1", idleManifest "b")] }
  loadedAt := 0

/-- A schema without models. -/
def noSchema : Schema Unit where
  isTemplate _ := false
  pack _ := .error ""
  scenario _ := .error ""
  template _ := .error ""
  agent _ := .error ""
  trust _ := .error (.internal "")

/-- A lookup that finds the registry as it was loaded. -/
def cachedRead : ManifestRead Unit where
  registry :=
    { now := 0
      dir := { path := "", present := true, sharedAgents := [], packs := .ok [] } }
  file := none

/-- The library that refuses everything raises what is documented. -/
theorem refusing_documented : PyLib.refusing.Documented where
  uuidStr h := by
    cases h
    exact ⟨_, _, rfl⟩
  intOfStr h := by
    cases h
    exact ⟨_, _, rfl⟩
  jsonLoads h := by
    cases h
    exact .inl ⟨_, _, rfl⟩
  jsonLoadsBytes h := by
    cases h
    exact .inl ⟨_, _, rfl⟩
  urlsafeB64decode h := by
    cases h
    exact ⟨_, _, rfl⟩
  utf8Decode h := by
    cases h
    exact ⟨_, _, rfl⟩

/-- The findings about a run of a session bundle. -/
def findings (coordinator : String) : Option (List String) :=
  match lintScenario .refusing noSchema (fun _ => cachedRead) "p/s@1"
      (bundleSetting coordinator).scenario pairRegistry with
  | .ok found _ => some found
  | .error _ _ => none

/-- Without findings the lint of the concrete scenario is clean. -/
theorem lint_of_findings (coordinator : String) (h : findings coordinator = some []) :
    ∃ svc, lintScenario .refusing noSchema (fun _ => cachedRead) "p/s@1"
      (bundleSetting coordinator).scenario pairRegistry = .ok [] svc := by
  unfold findings at h
  split at h
  case h_1 found svc hrun =>
    cases h
    exact ⟨svc, hrun⟩
  case h_2 => cases h

/-- A bundle of `a` and `b`. -/
theorem lint_sound_bundle :
    StepGraphSound (bundleSetting "a") ∧ NeverDangles (bundleSetting "a") := by
  obtain ⟨svc, hlint⟩ := lint_of_findings "a" (by decide +kernel)
  refine (lint_sound_iff refusing_documented hlint).mpr fun before step after hsteps => ?_
  have hstep : step = bundleStep "a" := by
    have hmem : step ∈ before ++ step :: after :=
      List.mem_append_right _ (List.mem_cons_self ..)
    rw [← hsteps] at hmem
    exact List.mem_singleton.mp hmem
  subst hstep
  rintro coordinator hcoordinator
  cases hcoordinator
  refine .inr ⟨⟨_, List.mem_cons_self .., rfl⟩, fun id hid => ?_⟩
  cases List.mem_singleton.mp hid
  exact ⟨_, List.mem_cons_of_mem _ (List.mem_cons_self ..), rfl⟩

/-- A bundle whose coordinator is not there passes the linter, and its run fails on it. -/
theorem lint_misses_coordinator :
    ¬ ∀ (setting : RunSetting) (schema : Schema Unit) reads refLabel svc svc',
      setting.py.Documented →
      lintScenario setting.py schema reads refLabel setting.scenario svc = .ok [] svc' →
        StepGraphSound setting ∧ NeverDangles setting := by
  intro hall
  obtain ⟨svc, hlint⟩ := lint_of_findings "ghost" (by decide +kernel)
  obtain ⟨-, hnever⟩ := hall (bundleSetting "ghost") _ _ _ _ _ refusing_documented hlint
  have hprepared : Prepared (bundleSetting "ghost") launchedPair := by
    have hstaffed := staffed_pair .refusing [bundleStep "ghost"]
    refine ⟨⟨hstaffed.running, hstaffed.peers⟩, fun spec hspec => ?_⟩
    rcases List.mem_cons.mp hspec with rfl | hspec
    · rfl
    · cases List.mem_singleton.mp hspec
      rfl
  have hharmless := hnever launchedPair launchedPair (bundleStep "ghost") silentWorld _ _ hprepared
    (Reach.refl _) (List.mem_cons_self ..) rfl
  rcases hharmless "ghost" rfl with ⟨field, hfield, heq⟩ | hspki
  · revert field
    decide
  · exact absurd (Except.error.inj hspki) (by decide)

end AitpPlayground.Proofs.Cli
