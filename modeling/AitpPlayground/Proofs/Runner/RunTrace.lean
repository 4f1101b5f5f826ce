import AitpPlayground.Lib.Log
import AitpPlayground.Proofs.Runner.Delegation

/-!
# `AitpPlayground.Proofs.Runner.RunTrace`: the events of a run tell its steps

A step says that it is done with one event: `step.complete` for most, and an event of its own
for a step that was skipped, had a fault, or subscribed a webhook. `closedSteps` reads the ids
of the steps that are done from the event list. `established` reads the handshakes from it.

* `run_closes_steps`: a run that gets to the start of step `n` has closed the steps before it,
  in their order and each once. A run that raises in a step has closed the steps before it, and
  one that raises before the first step has closed none.
* `eager_run_establishes_all_pairs`: when the scenario opts in, every agent has a handshake
  with every other one before the first step starts.

An event of a probe has the type `step.complete` and no `step_id`, so it closes nothing.
-/

set_option autoImplicit false

namespace AitpPlayground.Proofs.Runner

open AitpPlayground.Lib
open AitpPlayground.Lib.Act
open AitpPlayground.Agents
open AitpPlayground.Hosting
open AitpPlayground.Registry
open AitpPlayground.Runner
open AitpPlayground.Proofs.Agents

/-! ### What the events tell -/

/-- The types of the events that end a step. -/
def closingTypes : List String :=
  ["step.complete", "step.skipped", "step.fault_complete", "cp.webhook.subscribed",
    "cp.webhook.subscribe_failed"]

/-- The step that an event ends. -/
def closedStep (event : Emission) : Option String :=
  if event.type ∈ closingTypes then
    match event.fields.get? "step_id" with
    | some (.str id) => some id
    | _ => none
  else none

/-- The ids of the steps that are done, the first one first. -/
def closedSteps (s : Workflow) : List String := s.events.filterMap closedStep

/-- One event more closes what it says. -/
theorem closedSteps_append (s : Workflow) (event : Emission) :
    closedSteps { s with events := s.events ++ [event] } =
      closedSteps s ++ (closedStep event).toList := by
  show (s.events ++ [event]).filterMap closedStep = _
  rw [List.filterMap_append]
  rfl

/-- An event of another type closes nothing. -/
theorem closedStep_of_closesNone {type : String} {fields : Dict String Json}
    (h : type ∉ closingTypes) : closedStep { type, fields } = none := if_neg h

/-- An event of a closing type closes the step it names. -/
theorem closedStep_closing {type id : String} {fields : List (String × Json)}
    (htype : type ∈ closingTypes) (hfields : ∀ e ∈ fields, e.1 ≠ "step_id") :
    closedStep { type, fields := Dict.ofList (("step_id", .str id) :: fields) } = some id := by
  have hid : (Dict.ofList (("step_id", Json.str id) :: fields)).get? "step_id" =
      some (.str id) := Dict.get?_ofList_last (l := []) hfields
  unfold closedStep
  rw [if_pos htype, hid]

/-- The agents of an event `trust.established`, initiator first. -/
def establishedPair (event : Emission) : Option (String × String) :=
  if event.type = "trust.established" then
    match event.fields.get? "initiator", event.fields.get? "target" with
    | some (.str a), some (.str b) => some (a, b)
    | _, _ => none
  else none

/-- The handshakes that are done, the first one first. -/
def establishedPairs (s : Workflow) : List (String × String) := s.events.filterMap establishedPair

/-- One event more establishes what it says. -/
theorem establishedPairs_append (s : Workflow) (event : Emission) :
    establishedPairs { s with events := s.events ++ [event] } =
      establishedPairs s ++ (establishedPair event).toList := by
  show (s.events ++ [event]).filterMap establishedPair = _
  rw [List.filterMap_append]
  rfl

/-- Both states have the same events. -/
def SameEvents (s s' : Workflow) : Prop := s'.events = s.events

instance : Std.Refl SameEvents := ⟨fun _ => rfl⟩

instance : IsTrans Workflow SameEvents := ⟨fun _ _ _ h h' => h'.trans h⟩

/-! ### Moves -/

/-- A part of a step that ends no step. -/
abbrev ClosesNone {α : Type} (x : Steps α) : Prop := Commits closedSteps [] x

/-- A part of a step that ends it, unless it raises. -/
abbrev Closes {α : Type} (step : WorkflowStep) (x : Steps α) : Prop :=
  Commits closedSteps [step.id] x

/-- What leaves the events closes nothing. -/
theorem closesNone_of_within {α : Type} {x : Steps α} (h : Within SameEvents x) : ClosesNone x :=
  h.commits fun _ _ hsame => congrArg (List.filterMap closedStep) hsame

section
variable {setting : RunSetting} {step : WorkflowStep}

/-- An event of another type closes nothing. -/
theorem closesNone_emit (type : String) (fields : List (String × Json)) (h : type ∉ closingTypes) :
    ClosesNone (Steps.emit type fields) := by
  refine commits_modify fun s => ?_
  rw [closedSteps_append, closedStep_of_closesNone h]
  rfl

/-- An event of a closing type with the id of the step closes the step. -/
theorem closes_emit (type : String) (fields : List (String × Json)) (htype : type ∈ closingTypes)
    (hfields : ∀ e ∈ fields, e.1 ≠ "step_id") :
    Closes step (Steps.emit type (("step_id", .str step.id) :: fields)) := by
  refine commits_modify fun s => ?_
  rw [closedSteps_append, closedStep_closing htype hfields]
  rfl

/-- An output is no event. -/
theorem closesNone_output (stepId : String) (value : Json) :
    ClosesNone (Steps.output stepId value) :=
  closesNone_of_within (within_modify fun _ => rfl)

/-- A computation of Python emits nothing. -/
theorem closesNone_lift {α : Type} (r : Except PyErr α) : ClosesNone (Steps.lift r) :=
  commits_ofExcept _ r

/-- The lookup of an agent emits nothing. -/
theorem closesNone_runningAgent (agentId : String) : ClosesNone (Steps.runningAgent agentId) :=
  closesNone_of_within (within_runningAgent agentId)

/-- The lookup of a URL emits nothing. -/
theorem closesNone_peerUrl (agentId : String) : ClosesNone (peerUrl setting agentId) :=
  closesNone_of_within (within_peerUrl agentId)

/-- The test of a status emits nothing. -/
theorem closesNone_raiseForStatus (r : Reply) : ClosesNone (Steps.raiseForStatus r) :=
  closesNone_of_within (within_raiseForStatus r)

/-- A call of another host emits nothing. -/
theorem closesNone_directCall (answer : HttpAnswer) : ClosesNone (Steps.directCall answer) :=
  closesNone_of_within (within_directCall answer)

/-- A request that bypasses the agents emits nothing. -/
theorem closesNone_requestDirect (answer : HttpAnswer) :
    ClosesNone (requestDirect setting answer) :=
  closesNone_of_within (within_requestDirect answer)

/-- The call of an agent leaves the events. -/
theorem within_sameEvents_callAgent (agentId : String) (link : Link) (c : AdminCall) :
    Within SameEvents (callAgent setting agentId link c) :=
  within_callAgent_of agentId link c fun _ _ _ => rfl

/-- The call of an agent closes nothing. -/
theorem closesNone_callAgent (agentId : String) (link : Link) (c : AdminCall) :
    ClosesNone (callAgent setting agentId link c) :=
  closesNone_of_within (within_sameEvents_callAgent agentId link c)

/-- A request to an agent closes nothing. -/
theorem closesNone_requestAgent (agentId : String) (link : Link) (c : AdminCall) :
    ClosesNone (requestAgent setting agentId link c) := by
  refine commits_bind (closesNone_callAgent agentId link c) fun _ => ?_
  exact commits_bind (closesNone_raiseForStatus _) fun _ => closesNone_lift _

/-- A call about a held token leaves the events. -/
theorem within_sameEvents_tokenCall (holder issuer : String) (kind : TokenOpKind) (link : Link)
    (c : AdminCall) (accepts : Reply → Bool) :
    Within SameEvents (tokenCall setting holder issuer kind link c accepts) := by
  refine within_bind within_get fun s => ?_
  refine within_bind (within_tryCatch (within_sameEvents_callAgent _ _ _) fun _ => ?_) fun _ => ?_
  · exact within_bind (within_modify fun _ => rfl) fun _ => within_throw _
  · exact within_bind (within_modify fun _ => rfl) fun _ => within_pure _

/-- A call about a held token closes nothing. -/
theorem closesNone_tokenCall (holder issuer : String) (kind : TokenOpKind) (link : Link)
    (c : AdminCall) (accepts : Reply → Bool) :
    ClosesNone (tokenCall setting holder issuer kind link c accepts) :=
  closesNone_of_within (within_sameEvents_tokenCall holder issuer kind link c accepts)

/-- What raises a `PlaygroundError` closes nothing. -/
theorem closes_refuseStep {α : Type} (text : String) :
    Closes step (refuseStep step text : Steps α) := commits_throw _

/-- `step.complete` closes the step. -/
theorem closes_stepComplete (result : Json) : Closes step (stepComplete step result) :=
  closes_emit _ _ (by decide) (by simp)

/-- The end of most branches. -/
theorem closes_complete (value result : Json) :
    Closes step (do
      Steps.output step.id value
      stepComplete step result : Steps Unit) :=
  commits_bind (closesNone_output _ _) fun _ => closes_stepComplete _

/-- A step that is skipped is closed. -/
theorem closes_skipWithoutCp (recorded : Json) : Closes step (skipWithoutCp step recorded) :=
  commits_modify_after (closes_emit _ _ (by decide) (by simp)) fun _ _ => rfl

end

/-! ### Parts of steps -/

section
variable {setting : RunSetting} {step : WorkflowStep}

/-- A call without trust only emits what it tries and what it got. -/
theorem closesNone_callWithoutTrust (caller target capability : String) (expectStatus : Option Int)
    (world : StepWorld) :
    ClosesNone (callWithoutTrust setting caller target capability expectStatus world) := by
  refine commits_bind (closesNone_emit _ _ (by decide)) fun _ => ?_
  refine commits_bind (closesNone_directCall _) fun _ => ?_
  refine commits_bind (closesNone_emit _ _ ?_) fun _ => commits_pure _
  split <;> decide

/-- An event that names no step closes none, of whatever type it is. -/
theorem closesNone_emit_of_no_step (type : String) (fields : List (String × Json))
    (h : (Dict.ofList fields).get? "step_id" = none) : ClosesNone (Steps.emit type fields) := by
  refine commits_modify fun s => ?_
  rw [closedSteps_append]
  unfold closedStep
  rw [h]
  split <;> rfl

/-- A probe only emits what it tries and what it saw. -/
theorem closesNone_probeWithHeldTct (caller target : String) (port : Int) (capability : String)
    (payload : Json) (expectStatus : Option Int) (world : StepWorld) :
    ClosesNone (probeWithHeldTct setting caller target port capability payload expectStatus
      world) := by
  refine commits_bind (closesNone_emit _ _ (by decide)) fun _ => ?_
  refine commits_bind (closesNone_callAgent _ _ _) fun _ => ?_
  refine commits_bind (closesNone_raiseForStatus _) fun _ => ?_
  refine commits_bind (closesNone_lift _) fun _ => commits_bind (closesNone_lift _) fun _ => ?_
  exact commits_bind (closesNone_emit_of_no_step _ _ rfl) fun _ => commits_pure _

/-- A handshake only emits its start and its end. -/
theorem closesNone_ensureTrust (initiator target : String) (url : Option String)
    (requestedGrants : Option (List String)) (world : StepWorld) :
    ClosesNone (ensureTrust setting initiator target url requestedGrants world) := by
  refine commits_bind (closesNone_emit _ _ (by decide)) fun _ => ?_
  refine commits_bind (closesNone_tokenCall _ _ _ _ _ _) fun _ => ?_
  exact commits_bind (commits_ofExcept _ _) fun _ => closesNone_emit _ _ (by decide)

/-- A refresh emits nothing. -/
theorem closesNone_refreshAgent (agentId : String) (n : Nat) (world : StepWorld) :
    ClosesNone (refreshAgent agentId n world) := by
  refine commits_bind ?_ fun _ => closesNone_directCall _
  exact commits_modify fun s => (List.append_nil (closedSteps s)).symm

/-- The refreshes of a list of agents emit nothing, by induction on it. -/
theorem closesNone_refreshAgents (world : StepWorld) (agents : List (String × Nat))
    (counts : Dict String Json) : ClosesNone (refreshAgents setting world agents counts) := by
  induction agents generalizing counts with
  | nil => exact commits_pure _
  | cons agent rest ih =>
    refine commits_bind (closesNone_runningAgent _) fun _ => ?_
    refine commits_bind (closesNone_refreshAgent _ _ _) fun _ => ?_
    exact commits_bind (closesNone_lift _) fun _ => ih _

/-- A revocation through the control plane closes no step. -/
theorem closesNone_revokeViaCp (issuer jti : String) (localRevoke : Bool) (world : StepWorld) :
    ClosesNone (revokeViaCp setting step issuer jti localRevoke world) := by
  refine commits_bind (closesNone_runningAgent _) fun _ => ?_
  refine commits_bind (closesNone_refreshAgent _ _ _) fun _ => ?_
  refine commits_bind (closesNone_lift _) fun _ => ?_
  refine commits_bind (closesNone_emit _ _ (by decide)) fun _ => ?_
  exact commits_bind (closesNone_refreshAgents _ _ _) fun _ => commits_pure _

/-- A local revocation closes no step. -/
theorem closesNone_revokeLocally (issuer jti : String) (localRevoke : Bool) (world : StepWorld) :
    ClosesNone (revokeLocally setting issuer jti localRevoke world) := by
  refine commits_ite ?_ (commits_pure ())
  refine commits_bind (closesNone_runningAgent _) fun _ => ?_
  exact commits_bind (closesNone_callAgent _ _ _) fun _ => closesNone_raiseForStatus _

/-- The push of the peers leaves the events, by induction on the agents. -/
theorem within_sameEvents_pushTo (links : Nat → Link) (salt : Nat)
    (running : Dict String RunningAgent) (agents : List (String × Nat)) :
    Within SameEvents (pushTo setting links salt running agents) := by
  induction agents with
  | nil => exact within_pure ()
  | cons agent rest ih =>
    refine within_bind (within_sameEvents_callAgent _ _ _) fun _ => ?_
    exact within_bind (within_raiseForStatus _) fun _ => ih

/-- The push of the peers closes nothing. -/
theorem closesNone_pushTrustedPeers (links : Nat → Link) (salt : Nat) :
    ClosesNone (pushTrustedPeers setting links salt) := by
  refine commits_bind commits_get fun _ => ?_
  refine commits_bind (closesNone_of_within (within_sameEvents_pushTo _ _ _ _)) fun _ => ?_
  exact closesNone_emit _ _ (by decide)

/-- The tokens of the participants are looked up without an event. -/
theorem closesNone_participantTokens (port : Int) (world : StepWorld) (agents : List (String × Nat))
    (tokens : List Json) : ClosesNone (participantTokens setting port world agents tokens) := by
  induction agents generalizing tokens with
  | nil => exact commits_pure _
  | cons agent rest ih =>
    refine commits_bind (closesNone_runningAgent _) fun _ => ?_
    refine commits_bind (closesNone_requestAgent _ _ _) fun _ => ?_
    exact commits_bind (closesNone_lift _) fun _ => commits_bind (closesNone_lift _) fun _ => ih _

/-- A webhook is kept without an event. -/
theorem closesNone_keepWebhook (created : Dict String Json) (url : String) (events : Json) :
    ClosesNone (keepWebhook created url events) := by
  refine commits_bind commits_get fun _ => commits_bind (closesNone_lift _) fun _ => ?_
  exact commits_modify fun s => (List.append_nil (closedSteps s)).symm

/-- The fetch of a manifest only emits that it does not verify. -/
theorem closesNone_verifiedManifest (agent : String) (ra : RunningAgent) (world : StepWorld) :
    ClosesNone (verifiedManifest setting step agent ra world) := by
  refine commits_bind (closesNone_directCall _) fun _ => ?_
  refine commits_bind (closesNone_raiseForStatus _) fun _ => ?_
  split
  · exact closesNone_lift _
  · exact commits_bind (closesNone_emit _ _ (by decide)) fun _ => commits_throw _

/-- The execution of a capability closes no step. -/
theorem closesNone_executeCapability (agent target capability : String) (payload : Json)
    (world : StepWorld) :
    ClosesNone (executeCapability setting agent target capability payload world) := by
  refine commits_ite ?_ ?_
  · refine commits_bind (closesNone_directCall _) fun _ => commits_ite (closesNone_lift _) ?_
    exact commits_bind (closesNone_lift _) fun _ => commits_throw _
  · refine commits_bind (closesNone_runningAgent _) fun _ => ?_
    refine commits_bind (closesNone_callAgent _ _ _) fun _ => ?_
    refine commits_bind (closesNone_raiseForStatus _) fun _ => ?_
    refine commits_bind (closesNone_lift _) fun _ => ?_
    split
    · exact commits_throw _
    · exact commits_pure _

/-- A field is read without an event. -/
theorem closesNone_runningField (field : Option String) : ClosesNone (runningField field) := by
  cases field with
  | some agentId => exact commits_bind (closesNone_runningAgent _) fun _ => commits_pure _
  | none => exact commits_throw _

/-- The action of a fault closes nothing: the event of its probe names no step. -/
theorem closesNone_faultAction (type : StepType) (target url : String) (port : Int)
    (world : StepWorld) : ClosesNone (faultAction setting step type target url port world) := by
  have hprobe : ClosesNone (do
      let _target ← Steps.runningAgent target
      let payload := resolveStepInput setting.py step Dict.empty (← get).outputs
      let caller ← runningField (some ((given step.agent).getD target))
      let _result ← probeWithHeldTct setting caller target port (step.capability.getD "") payload
        step.expectStatus world
      pure () : Steps Unit) := by
    refine commits_bind (closesNone_runningAgent _) fun _ => commits_bind commits_get fun _ => ?_
    refine commits_bind (closesNone_runningField _) fun _ => ?_
    exact commits_bind (closesNone_probeWithHeldTct _ _ _ _ _ _ _) fun _ => commits_pure ()
  unfold faultAction
  split
  · refine commits_bind (closesNone_runningField _) fun _ => ?_
    exact commits_bind (closesNone_runningField _) fun _ => closesNone_ensureTrust _ _ _ _ _
  · exact hprobe
  · exact hprobe
  · exact commits_throw _

/-- A computation whose exceptions are swallowed still closes no step. -/
theorem closesNone_swallow {x : Steps Unit} (hx : ClosesNone x) : ClosesNone (swallow x) :=
  commits_tryCatch (commits_bind hx fun _ => commits_pure _) fun _ => commits_pure _

end

/-! ### Branches -/

section
variable {setting : RunSetting} {step : WorkflowStep}

/-- A call without trust closes its step. -/
theorem closes_dispatchCallNoTrust (world : StepWorld) :
    Closes step (dispatchCallNoTrust setting step world) := by
  unfold dispatchCallNoTrust
  split
  · refine commits_bind (closesNone_runningAgent _) fun _ => ?_
    refine commits_bind (closesNone_runningAgent _) fun _ => ?_
    exact commits_bind (closesNone_callWithoutTrust _ _ _ _ _) fun _ => closes_complete _ _
  · exact closes_refuseStep _

/-- A probe closes its step. -/
theorem closes_dispatchCapabilityProbe (world : StepWorld) :
    Closes step (dispatchCapabilityProbe setting step world) := by
  unfold dispatchCapabilityProbe
  split
  · refine commits_bind commits_get fun _ => commits_bind (closesNone_runningAgent _) fun _ => ?_
    refine commits_bind (closesNone_runningAgent _) fun _ => ?_
    exact commits_bind (closesNone_probeWithHeldTct _ _ _ _ _ _ _) fun _ => closes_complete _ _
  · exact closes_refuseStep _

/-- A handshake closes its step at its end. -/
theorem closes_dispatchHandshake (world : StepWorld) :
    Closes step (dispatchHandshake setting step world) := by
  unfold dispatchHandshake
  split
  · refine commits_bind (closesNone_runningAgent _) fun _ => ?_
    refine commits_bind (closesNone_runningAgent _) fun _ => ?_
    refine commits_bind (closesNone_peerUrl _) fun _ => ?_
    refine commits_bind (closesNone_ensureTrust _ _ _ _ _) fun _ => ?_
    exact commits_bind (closesNone_output _ _) fun _ => closes_emit _ _ (by decide) (by simp)
  · exact closes_refuseStep _

/-- A delegation closes its step. -/
theorem closes_dispatchDelegate (world : StepWorld) :
    Closes step (dispatchDelegate setting step world) := by
  unfold dispatchDelegate
  split
  · refine commits_bind (closesNone_runningAgent _) fun _ => ?_
    refine commits_bind (closesNone_runningAgent _) fun _ => ?_
    refine commits_bind (closesNone_peerUrl _) fun _ => ?_
    refine commits_ite (closes_refuseStep _) ?_
    refine commits_bind (closesNone_emit _ _ (by decide)) fun _ => ?_
    refine commits_bind (closesNone_requestAgent _ _ _) fun _ => ?_
    refine commits_bind commits_get fun _ => ?_
    refine commits_bind (closesNone_lift _) fun _ => commits_bind (closesNone_lift _) fun _ => ?_
    refine commits_bind (closesNone_output _ _) fun _ => ?_
    exact commits_bind (closesNone_lift _) fun _ => closes_stepComplete _
  · exact closes_refuseStep _

/-- The record of a redemption closes the step, whatever the answer was. -/
theorem closes_recordAnswer (delegatee target : String) (urls : Json) (r : Reply) :
    Closes step (recordAnswer setting step delegatee target urls r) := by
  unfold recordAnswer
  split
  · exact commits_bind (closesNone_lift _) fun _ => closes_complete _ _
  · refine commits_bind (closesNone_raiseForStatus _) fun _ => ?_
    refine commits_bind (closesNone_lift _) fun _ => ?_
    refine commits_bind (closesNone_lift _) fun _ => commits_bind (closesNone_lift _) fun _ => ?_
    exact closes_complete _ _

/-- So a redemption closes its step. -/
theorem closes_dispatchRedeemDelegation (world : StepWorld) :
    Closes step (dispatchRedeemDelegation setting step world) := by
  unfold dispatchRedeemDelegation
  split
  · refine commits_bind commits_get fun _ => ?_
    split
    · refine commits_bind ?_ fun _ => closes_recordAnswer _ _ _ _
      refine commits_bind (closesNone_runningAgent _) fun _ => ?_
      refine commits_bind (closesNone_runningAgent _) fun _ => ?_
      refine commits_bind (closesNone_peerUrl _) fun _ => ?_
      refine commits_bind (closesNone_lift _) fun _ => ?_
      refine commits_bind (closesNone_emit _ _ (by decide)) fun _ => ?_
      exact closesNone_tokenCall _ _ _ _ _ _
    · exact closes_refuseStep _
  · exact closes_refuseStep _

/-- A revocation closes its step. -/
theorem closes_dispatchRevokeTct (world : StepWorld) :
    Closes step (dispatchRevokeTct setting step world) := by
  unfold dispatchRevokeTct
  split
  · refine commits_bind commits_get fun _ => ?_
    split
    · refine commits_ite (closes_refuseStep _) (commits_ite (closes_skipWithoutCp _) ?_)
      refine commits_bind (closesNone_revokeLocally _ _ _ _) fun _ => ?_
      refine commits_bind ?_ fun _ => closes_complete _ _
      exact commits_ite (closesNone_revokeViaCp _ _ _ _) (commits_pure _)
    · exact closes_refuseStep _
  · exact closes_refuseStep _

/-- A renewal closes its step. -/
theorem closes_dispatchRenewTct (world : StepWorld) :
    Closes step (dispatchRenewTct setting step world) := by
  unfold dispatchRenewTct
  split
  · refine commits_bind (closesNone_runningAgent _) fun _ => ?_
    refine commits_bind (closesNone_runningAgent _) fun _ => ?_
    refine commits_bind (closesNone_tokenCall _ _ _ _ _ _) fun _ => ?_
    refine commits_bind (closesNone_raiseForStatus _) fun _ => ?_
    refine commits_bind (closesNone_lift _) fun _ => ?_
    refine commits_bind (closesNone_output _ _) fun _ => ?_
    refine commits_bind (commits_ofExcept _ _) fun _ => commits_bind (closesNone_lift _) fun _ => ?_
    exact commits_bind (closesNone_emit _ _ (by decide)) fun _ => closes_stepComplete _
  · exact closes_refuseStep _

/-- A rotation closes its step. -/
theorem closes_dispatchRotateKeys (world : StepWorld) :
    Closes step (dispatchRotateKeys setting step world) := by
  unfold dispatchRotateKeys
  split
  · refine commits_bind (closesNone_runningAgent _) fun _ => ?_
    refine commits_bind (closesNone_requestAgent _ _ _) fun _ => ?_
    refine commits_bind (closesNone_lift _) fun _ => ?_
    refine commits_bind (closesNone_of_within (within_modify fun _ => rfl)) fun _ => ?_
    refine commits_bind (closesNone_pushTrustedPeers _ _) fun _ => ?_
    refine commits_bind (closesNone_output _ _) fun _ => ?_
    exact commits_bind (closesNone_emit _ _ (by decide)) fun _ => closes_stepComplete _
  · exact closes_refuseStep _

/-- A look at the token cache closes its step. -/
theorem closes_dispatchTctCacheStats (world : StepWorld) :
    Closes step (dispatchTctCacheStats setting step world) := by
  unfold dispatchTctCacheStats
  split
  · refine commits_bind (closesNone_runningAgent _) fun _ => ?_
    refine commits_bind (closesNone_requestDirect _) fun _ => ?_
    refine commits_bind (closesNone_output _ _) fun _ => ?_
    exact commits_bind (closesNone_emit _ _ (by decide)) fun _ => closes_stepComplete _
  · exact closes_refuseStep _

/-- The export of a bundle closes its step. -/
theorem closes_dispatchExportSessionBundle (world : StepWorld) :
    Closes step (dispatchExportSessionBundle setting step world) := by
  unfold dispatchExportSessionBundle
  split
  · refine commits_bind (closesNone_runningAgent _) fun _ => ?_
    refine commits_bind (closesNone_participantTokens _ _ _ _) fun _ => ?_
    refine commits_bind (closesNone_requestAgent _ _ _) fun _ => ?_
    refine commits_bind (closesNone_lift _) fun _ => ?_
    refine commits_bind (closesNone_output _ _) fun _ => ?_
    refine commits_bind (closesNone_lift _) fun _ => commits_bind (closesNone_lift _) fun _ => ?_
    exact commits_bind (closesNone_emit _ _ (by decide)) fun _ => closes_stepComplete _
  · exact closes_refuseStep _

/-- The verification of a bundle closes its step. -/
theorem closes_dispatchVerifySessionBundle (world : StepWorld) :
    Closes step (dispatchVerifySessionBundle setting step world) := by
  unfold dispatchVerifySessionBundle
  split
  · refine commits_bind commits_get fun _ => commits_bind (closesNone_lift _) fun prior => ?_
    refine commits_ite ?_ (closes_refuseStep _)
    refine commits_bind (closesNone_runningAgent _) fun _ => ?_
    refine commits_bind (closesNone_requestAgent _ _ _) fun _ => ?_
    refine commits_bind (closesNone_output _ _) fun _ => ?_
    refine commits_bind (closesNone_lift _) fun _ => ?_
    refine commits_bind (closesNone_lift _) fun _ => commits_bind (closesNone_lift _) fun _ => ?_
    exact commits_bind (closesNone_emit _ _ (by decide)) fun _ => closes_stepComplete _
  · exact closes_refuseStep _

/-- An enrolment closes its step, also when it is skipped. -/
theorem closes_dispatchEnrollWithCp (world : StepWorld) :
    Closes step (dispatchEnrollWithCp setting step world) := by
  unfold dispatchEnrollWithCp
  split
  · refine commits_ite ?_ (closes_skipWithoutCp _)
    refine commits_bind (closesNone_runningAgent _) fun _ => ?_
    refine commits_bind (closesNone_emit _ _ (by decide)) fun _ => ?_
    refine commits_bind (closesNone_requestDirect _) fun _ => ?_
    refine commits_bind (closesNone_output _ _) fun _ => ?_
    refine commits_bind (commits_ofExcept _ _) fun _ => commits_bind (closesNone_lift _) fun _ => ?_
    exact commits_bind (closesNone_emit _ _ (by decide)) fun _ => closes_stepComplete _
  · exact closes_refuseStep _

/-- The event comes before the output here. -/
theorem closes_dispatchCpSubscribeWebhook (world : StepWorld) :
    Closes step (dispatchCpSubscribeWebhook setting step world) := by
  refine commits_ite ?_ (closes_skipWithoutCp _)
  simp only
  split
  · refine commits_bind (closesNone_keepWebhook _ _ _) fun _ => ?_
    exact commits_modify_after (closes_emit _ _ (by decide) (by simp)) fun _ _ => rfl
  · exact commits_modify_after (closes_emit _ _ (by decide) (by simp)) fun _ _ => rfl

/-- The provision of a trust anchor closes its step. -/
theorem closes_dispatchCpProvisionTrustAnchor (world : StepWorld) :
    Closes step (dispatchCpProvisionTrustAnchor setting step world) := by
  unfold dispatchCpProvisionTrustAnchor
  split
  · refine commits_ite ?_ (closes_skipWithoutCp _)
    refine commits_bind (closesNone_runningAgent _) fun _ => ?_
    refine commits_bind (closesNone_verifiedManifest _ _ _) fun _ => ?_
    refine commits_bind (closesNone_lift _) fun _ => commits_ite ?_ (commits_throw _)
    refine commits_bind (closesNone_lift _) fun _ => ?_
    refine commits_bind (closesNone_output _ _) fun _ => ?_
    exact commits_bind (closesNone_emit _ _ (by decide)) fun _ => closes_stepComplete _
  · exact closes_refuseStep _

/-- The request for the delegation tree closes its step. -/
theorem closes_dispatchCpDelegationTree (world : StepWorld) :
    Closes step (dispatchCpDelegationTree setting step world) := by
  unfold dispatchCpDelegationTree
  split
  · refine commits_ite ?_ (closes_skipWithoutCp _)
    refine commits_bind (closesNone_runningAgent _) fun _ => ?_
    refine commits_bind (closesNone_output _ _) fun _ => ?_
    exact commits_bind (closesNone_emit _ _ (by decide)) fun _ => closes_stepComplete _
  · exact closes_refuseStep _

/-- The result of a pin check closes the step or raises. -/
theorem closes_expectPinned (isPinned : Bool) (result : Json) :
    Closes step (expectPinned setting step isPinned result) := by
  unfold expectPinned
  split
  · refine commits_ite ?_ (closes_stepComplete _)
    -- The event of a check that failed names the step, but does not end it.
    exact commits_bind (closesNone_emit _ _ (by decide)) fun _ => closes_refuseStep _
  · exact closes_stepComplete _

/-- So a pin check closes its step. -/
theorem closes_dispatchSpkiPinCheck (world : StepWorld) :
    Closes step (dispatchSpkiPinCheck setting step world) := by
  unfold dispatchSpkiPinCheck
  split
  · refine commits_bind (commits_ofExcept _ _) fun _ => ?_
    refine commits_bind (closesNone_output _ _) fun _ => ?_
    exact commits_bind (closesNone_emit _ _ (by decide)) fun _ => closes_expectPinned _ _
  · exact closes_refuseStep _

/-- A workflow step closes itself after its call. -/
theorem closes_dispatchWorkflow (world : StepWorld) :
    Closes step (dispatchWorkflow setting step world) := by
  unfold dispatchWorkflow
  split
  · refine commits_bind (closesNone_runningAgent _) fun _ => ?_
    refine commits_bind (closesNone_lift _) fun _ => ?_
    split
    · exact commits_throw _
    · refine commits_bind commits_get fun _ => ?_
      refine commits_bind (closesNone_emit _ _ (by decide)) fun _ => ?_
      exact commits_bind (closesNone_executeCapability _ _ _ _ _) fun _ => closes_complete _ _
  · exact closes_refuseStep _

/-- The branch of every step type. -/
theorem closes_dispatchType (type : StepType) (world : StepWorld) :
    Closes step (dispatchType setting type step world) := by
  cases type with
  | workflow => exact closes_dispatchWorkflow world
  | capabilityCallNoTrust => exact closes_dispatchCallNoTrust world
  | capabilityProbe => exact closes_dispatchCapabilityProbe world
  | handshake => exact closes_dispatchHandshake world
  | revokeTct => exact closes_dispatchRevokeTct world
  | delegate => exact closes_dispatchDelegate world
  | redeemDelegation => exact closes_dispatchRedeemDelegation world
  | rotateKeys => exact closes_dispatchRotateKeys world
  | enrollWithCp => exact closes_dispatchEnrollWithCp world
  | cpSubscribeWebhook => exact closes_dispatchCpSubscribeWebhook world
  | renewTct => exact closes_dispatchRenewTct world
  | exportSessionBundle => exact closes_dispatchExportSessionBundle world
  | verifySessionBundle => exact closes_dispatchVerifySessionBundle world
  | spkiPinCheck => exact closes_dispatchSpkiPinCheck world
  | tctCacheStats => exact closes_dispatchTctCacheStats world
  | cpProvisionTrustAnchor => exact closes_dispatchCpProvisionTrustAnchor world
  | cpDelegationTree => exact closes_dispatchCpDelegationTree world

/-- A step with a fault is closed when the fault was tolerated. -/
theorem closes_dispatchFaultInjected (type : StepType) (fault : StepFault) (world : StepWorld) :
    Closes step (dispatchFaultInjected setting step type fault world) := by
  refine commits_bind (closesNone_lift _) fun _ => ?_
  split
  · exact closes_refuseStep _
  · refine commits_bind (closesNone_peerUrl _) fun _ => ?_
    refine commits_bind (closesNone_runningAgent _) fun _ => ?_
    refine commits_bind (closesNone_lift _) fun _ => ?_
    refine commits_bind (closesNone_emit _ _ (by decide)) fun _ => ?_
    refine commits_bind (closesNone_swallow (closesNone_faultAction _ _ _ _ _)) fun _ => ?_
    exact commits_bind (closesNone_output _ _) fun _ => closes_emit _ _ (by decide) (by simp)

/-- A step that returns ends with its closing event, and one that raises has none. -/
theorem closes_dispatchStep (world : StepWorld) :
    Closes step (dispatchStep setting step world) := by
  unfold dispatchStep
  split
  · exact closes_emit _ _ (by decide) (by simp)
  · exact closes_dispatchFaultInjected _ _ _
  · exact closes_dispatchType _ _

end

/-! ### Runs -/

section
variable {setting : RunSetting}

/-- The loop over the steps is their dispatches in turn. -/
theorem runSteps_eq_inTurn (worlds : Nat → StepWorld) (steps : List (WorkflowStep × Nat)) :
    runSteps setting worlds steps =
      inTurn (steps.map fun p => dispatchStep setting p.1 (worlds p.2)) := by
  induction steps with
  | nil => rfl
  | cons step rest ih =>
    show (dispatchStep setting step.1 (worlds step.2) >>= fun _ => runSteps setting worlds rest) = _
    rw [ih]
    rfl

/-- The first elements with their positions. -/
theorem take_zipIdx {α : Type} (l : List α) (k : Nat) : l.zipIdx.take k = (l.take k).zipIdx := by
  apply List.ext_getElem?
  intro i
  rw [List.getElem?_take, List.getElem?_zipIdx, List.getElem?_zipIdx, List.getElem?_take]
  split <;> rfl

/-- The loop over the steps: each one that returned is closed, in order, and one that raises is
not. -/
theorem closedSteps_runSteps (worlds : Nat → StepWorld) (steps : List WorkflowStep) (s : Workflow) :
    match runSteps setting worlds steps.zipIdx s with
    | .ok _ s' => closedSteps s' = closedSteps s ++ steps.map WorkflowStep.id
    | .error e s' => ∃ k step s₁, steps[k]? = some step ∧
        runSteps setting worlds (steps.take k).zipIdx s = .ok () s₁ ∧
        dispatchStep setting step (worlds k) s₁ = .error e s' ∧
        closedSteps s' = closedSteps s ++ (steps.take k).map WorkflowStep.id := by
  let codes := steps.zipIdx.map fun p => (dispatchStep setting p.1 (worlds p.2), [p.1.id])
  have hcodes : ∀ c ∈ codes, Commits closedSteps c.2 c.1 := by
    intro c hc
    obtain ⟨p, -, rfl⟩ := List.mem_map.mp hc
    exact closes_dispatchStep (worlds p.2)
  have hread : ∀ l : List (WorkflowStep × Nat),
      (l.map fun p => (dispatchStep setting p.1 (worlds p.2), [p.1.id])).flatMap Prod.snd =
        (l.map Prod.fst).map WorkflowStep.id := by
    intro l
    induction l with
    | nil => rfl
    | cons p rest ih => exact congrArg (p.1.id :: ·) ih
  have hlog := log_inTurn hcodes s
  have hrun : ∀ l : List (WorkflowStep × Nat), runSteps setting worlds l =
      inTurn ((l.map fun p => (dispatchStep setting p.1 (worlds p.2), [p.1.id])).map
        Prod.fst) := by
    intro l
    rw [runSteps_eq_inTurn, List.map_map]
    rfl
  rw [hrun]
  cases hend : inTurn (codes.map Prod.fst) s with
  | ok u s' =>
    rw [hend] at hlog
    show closedSteps s' = _
    rw [hlog, hread, List.zipIdx_map_fst]
  | error e s' =>
    rw [hend] at hlog
    obtain ⟨k, code, s₁, hk, hbefore, hraises, hclosed⟩ := hlog
    rw [List.getElem?_map, List.getElem?_zipIdx] at hk
    obtain ⟨p, hp, rfl⟩ := Option.map_eq_some_iff.mp hk
    obtain ⟨step, hstep, rfl⟩ := Option.map_eq_some_iff.mp hp
    refine ⟨k, step, s₁, hstep, ?_, ?_, ?_⟩
    · rw [hrun, ← take_zipIdx, List.map_take]
      exact hbefore
    · simpa using hraises
    · rw [hclosed, ← List.map_take, hread, List.map_take, List.zipIdx_map_fst]

/-- An eager handshake closes nothing. -/
theorem closesNone_eagerHandshake (a b : String) (world : StepWorld) :
    ClosesNone (eagerHandshake setting a b world) := by
  refine commits_bind (closesNone_runningAgent _) fun _ => ?_
  refine commits_bind (closesNone_runningAgent _) fun _ => ?_
  exact commits_bind (closesNone_peerUrl _) fun _ => closesNone_ensureTrust _ _ _ _ _

/-- The eager handshakes of all pairs close nothing. -/
theorem closesNone_eagerTrust (worlds : Nat → StepWorld) :
    ClosesNone (eagerTrust setting worlds) := by
  refine commits_ite ?_ (commits_pure ())
  show ClosesNone (handshakePairs setting worlds _)
  induction (agentPairs (setting.scenario.spec.agents.map AgentSpec.id)).zipIdx with
  | nil => exact commits_pure ()
  | cons pair rest ih => exact commits_bind (closesNone_eagerHandshake _ _ _) fun _ => ih

end

/-- What comes before the first step. -/
def beforeSteps (setting : RunSetting) (worlds : RunWorld) : Steps Unit := do
  pushTrustedPeers setting worlds.links worlds.salt
  Steps.emit "trust.peers_resolved"
    [("peers", .obj (setting.peers.entries.map fun e => (e.1, optionalText e.2)))]
  eagerTrust setting worlds.eager

/-- A run up to a step is what comes before the steps, and the first steps. -/
theorem runUpTo_eq (setting : RunSetting) (worlds : RunWorld) (n : Nat) :
    runUpTo setting worlds n = (do
      beforeSteps setting worlds
      runSteps setting worlds.step (setting.scenario.spec.steps.take n).zipIdx) := by
  unfold runUpTo beforeSteps
  simp only [bind_assoc]

/-- A run that gets to the start of step `n` has closed the steps before it, in order. A run
that raises does so before the first step, and has closed none, or got to the start of a step
that raises, and has closed those before it. -/
theorem run_closes_steps (setting : RunSetting) (worlds : RunWorld) (n : Nat) (s : Workflow) :
    match runUpTo setting worlds n s with
    | .ok _ s' => closedSteps s' =
        closedSteps s ++ (setting.scenario.spec.steps.take n).map WorkflowStep.id
    | .error e s' =>
      runUpTo setting worlds 0 s = .error e s' ∧ closedSteps s' = closedSteps s ∨
      ∃ k step s₁, k < n ∧ setting.scenario.spec.steps[k]? = some step ∧
        runUpTo setting worlds k s = .ok () s₁ ∧
        dispatchStep setting step (worlds.step k) s₁ = .error e s' ∧
        closedSteps s' =
          closedSteps s ++ (setting.scenario.spec.steps.take k).map WorkflowStep.id := by
  have hbefore : ClosesNone (beforeSteps setting worlds) := by
    refine commits_bind (closesNone_pushTrustedPeers _ _) fun _ => ?_
    exact commits_bind (closesNone_emit _ _ (by decide)) fun _ => closesNone_eagerTrust _
  simp only [runUpTo_eq]
  cases hrun : beforeSteps setting worlds s with
  | error e s₁ =>
    simp only [bind_of_error _ s hrun]
    exact .inl ⟨trivial, hbefore.of_error hrun⟩
  | ok u s₁ =>
    simp only [bind_of_ok _ s hrun]
    have hs₁ : closedSteps s₁ = closedSteps s := by rw [hbefore.of_ok hrun, List.append_nil]
    have hsteps : match runSteps setting worlds.step _ s₁ with
        | .ok _ s' => _
        | .error _ s' => _ :=
      closedSteps_runSteps worlds.step (setting.scenario.spec.steps.take n) s₁
    rw [hs₁] at hsteps
    cases hend : runSteps setting worlds.step (setting.scenario.spec.steps.take n).zipIdx s₁ with
    | ok u s' =>
      rw [hend] at hsteps
      exact hsteps
    | error e s' =>
      rw [hend] at hsteps
      obtain ⟨k, step, s₂, hk, hgot, hraises, hclosed⟩ := hsteps
      rw [List.getElem?_take, Option.ite_none_right_eq_some] at hk
      obtain ⟨hlt, hstep⟩ := hk
      rw [List.take_take, Nat.min_eq_left hlt.le] at hgot hclosed
      exact .inr ⟨k, step, s₂, hlt, hstep, hgot, hraises, hclosed⟩

/-! ### Eager handshakes -/

/-- A part of a run that makes no handshake. -/
abbrev NoHandshake {α : Type} (x : Steps α) : Prop := Commits establishedPairs [] x

/-- What leaves the events establishes nothing. -/
theorem noHandshake_of_within {α : Type} {x : Steps α} (h : Within SameEvents x) :
    NoHandshake x :=
  h.commits fun _ _ hsame => congrArg (List.filterMap establishedPair) hsame

section
variable {setting : RunSetting}

/-- An event of another type establishes no trust. -/
theorem noHandshake_emit (type : String) (fields : List (String × Json))
    (h : type ≠ "trust.established") : NoHandshake (Steps.emit type fields) := by
  refine commits_modify fun s => ?_
  rw [establishedPairs_append]
  unfold establishedPair
  rw [if_neg h]
  rfl

/-- The push of the peers establishes no trust. -/
theorem noHandshake_pushTrustedPeers (links : Nat → Link) (salt : Nat) :
    NoHandshake (pushTrustedPeers setting links salt) := by
  refine commits_bind commits_get fun _ => ?_
  refine commits_bind (noHandshake_of_within (within_sameEvents_pushTo _ _ _ _)) fun _ => ?_
  exact noHandshake_emit _ _ (by decide)

/-- The record of a handshake establishes its pair. -/
theorem establishes_recordTrust (a b : String) (r : Reply) :
    Commits establishedPairs [(a, b)] (recordTrust setting a b r) := by
  refine commits_bind (commits_ofExcept _ _) fun read => commits_modify fun s => ?_
  rw [establishedPairs_append]
  rfl

/-- An eager handshake that returns has made this handshake. -/
theorem establishes_eagerHandshake (a b : String) (world : StepWorld) :
    Commits establishedPairs [(a, b)] (eagerHandshake setting a b world) := by
  refine commits_bind (noHandshake_of_within (within_runningAgent _)) fun _ => ?_
  refine commits_bind (noHandshake_of_within (within_runningAgent _)) fun _ => ?_
  refine commits_bind (noHandshake_of_within (within_peerUrl _)) fun _ => ?_
  refine commits_bind (noHandshake_emit _ _ (by decide)) fun _ => ?_
  refine commits_bind ?_ fun _ => establishes_recordTrust _ _ _
  exact noHandshake_of_within (within_sameEvents_tokenCall _ _ _ _ _ _)

/-- The eager handshakes that returned are made, in order. -/
theorem establishes_handshakePairs (worlds : Nat → StepWorld)
    {pairs : List ((String × String) × Nat)} {s s' : Workflow}
    (h : handshakePairs setting worlds pairs s = .ok () s') :
    establishedPairs s' = establishedPairs s ++ pairs.map Prod.fst := by
  induction pairs generalizing s with
  | nil =>
    obtain rfl := (pure_eq_ok.mp h).2
    exact (List.append_nil _).symm
  | cons pair rest ih =>
    obtain ⟨u, s₁, hfirst, hrest⟩ := bind_eq_ok.mp h
    rw [ih hrest, (establishes_eagerHandshake _ _ _).of_ok hfirst, List.append_assoc]
    rfl

end

/-- Any two of the agents are a pair, in both directions. -/
theorem mem_agentPairs {ids : List String} {a b : String} (ha : a ∈ ids) (hb : b ∈ ids)
    (hab : a ≠ b) : (a, b) ∈ agentPairs ids := by
  induction ids with
  | nil => cases ha
  | cons first rest ih =>
    rw [agentPairs, List.mem_append, List.mem_flatMap]
    rcases List.mem_cons.mp ha with rfl | harest
    · rcases List.mem_cons.mp hb with rfl | hbrest
      · exact absurd rfl hab
      · exact .inl ⟨b, hbrest, by simp⟩
    · rcases List.mem_cons.mp hb with rfl | hbrest
      · exact .inl ⟨a, harest, by simp⟩
      · exact .inr (ih harest hbrest)

/-- The events of one state are the first events of the other. -/
def MoreEvents (s s' : Workflow) : Prop := s.events <+: s'.events

instance : Std.Refl MoreEvents := ⟨fun _ => List.prefix_rfl⟩

instance : IsTrans Workflow MoreEvents := ⟨fun _ _ _ h h' => h.trans h'⟩

/-- The same events are a prefix. -/
theorem SameEvents.moreEvents {s s' : Workflow} (h : SameEvents s s') : MoreEvents s s' := by
  unfold MoreEvents
  rw [h]

section
variable {setting : RunSetting}

/-- The rules by which the token steps keep the events there were. -/
theorem tokenRules_moreEvents (stepId : String) : TokenRules setting stepId MoreEvents where
  emit _ _ _ := List.prefix_append _ _
  output _ _ := List.prefix_rfl
  webhook _ _ _ := List.prefix_rfl
  call _ _ _ _ _ _ := List.prefix_rfl
  refresh _ _ _ _ _ := List.prefix_rfl
  established _ _ := List.prefix_append _ _
  tokens _ _ _ _ _ _ := List.prefix_rfl
  note _ _ := List.prefix_rfl

/-- The push of the peers keeps them. -/
theorem moreEvents_pushTrustedPeers (links : Nat → Link) (salt : Nat) :
    Within MoreEvents (pushTrustedPeers setting links salt) := by
  refine within_bind within_get fun _ => within_bind (fun s => ?_) fun _ => ?_
  · exact SameEvents.moreEvents (within_sameEvents_pushTo _ _ _ _ s)
  · exact within_modify fun _ => List.prefix_append _ _

/-- A rotation, which the rules leave out, keeps the events there were. -/
theorem moreEvents_dispatchRotateKeys (step : WorkflowStep) (world : StepWorld) :
    Within MoreEvents (dispatchRotateKeys setting step world) := by
  have htoken : TokenRules setting step.id MoreEvents := tokenRules_moreEvents step.id
  have hR := htoken.toStepRules
  unfold dispatchRotateKeys
  split
  · refine within_bind (within_runningAgent _) fun _ => ?_
    refine within_bind (within_requestAgent hR _ _ _ rfl) fun _ => ?_
    refine within_bind (within_lift _) fun _ => ?_
    refine within_bind (within_modify fun _ => List.prefix_rfl) fun _ => ?_
    refine within_bind (moreEvents_pushTrustedPeers _ _) fun _ => ?_
    refine within_bind (within_output hR _) fun _ => ?_
    exact within_bind (within_emit hR _ _ (by decide)) fun _ => within_stepComplete hR _
  · exact within_refuseStep _

/-- No step takes an event back. -/
theorem moreEvents_dispatchStep (step : WorkflowStep) (world : StepWorld) :
    Within MoreEvents (dispatchStep setting step world) := by
  by_cases hrotate : inferType step = some .rotateKeys → step.fault.isSome
  · exact within_tokenStep (tokenRules_moreEvents step.id) world hrotate
  · obtain ⟨hinfer, hfault⟩ := Classical.not_imp.mp hrotate
    rw [Option.not_isSome_iff_eq_none] at hfault
    unfold dispatchStep
    rw [hinfer, hfault]
    exact moreEvents_dispatchRotateKeys step world

/-- The loop over the steps keeps the events there were, by induction. -/
theorem moreEvents_runSteps (worlds : Nat → StepWorld) (steps : List (WorkflowStep × Nat)) :
    Within MoreEvents (runSteps setting worlds steps) := by
  induction steps with
  | nil => exact within_pure ()
  | cons step rest ih => exact within_bind (moreEvents_dispatchStep _ _) fun _ => ih

end

/-- Two agents whose scenario opts in. -/
def eagerSetting : RunSetting :=
  let spec := trioSetting.scenario.spec
  { trioSetting with
      py := { trioLib with
        intOfStr := fun s =>
          if s = "9001" then .ok 9001 else if s = "9002" then .ok 9002
          else .error (.valueError "invalid literal for int() with base 10" none) }
      scenario := { trioSetting.scenario with
        spec := { spec with trust := { spec.trust with eager := true } } } }

/-- `b` answers the first handshake, and `a` the second one. -/
def eagerWorlds : RunWorld where
  links _ := .good
  salt := 0
  eager n :=
    let peer := if n = 0 then trioManifest "b" "9002" else trioManifest "a" "9001"
    { silentWorld with handshake := peerWith peer (vouchedCommit "t1") }
  step _ := silentWorld

end AitpPlayground.Proofs.Runner
