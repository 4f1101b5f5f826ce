import AitpPlayground.Runner.Dispatch
import AitpPlayground.Proofs.Agents.HeldTokens

/-!
# `AitpPlayground.Proofs.Runner.Steps`: what the steps of a run keep

A step is put together from a few moves: it records events and its output, it calls an agent,
it notes an operation. `StepRules` says of a relation between two states of the run that it
holds over each of these moves, except for the handshake, the renewal and the redemption, and
for the trust stores. `within_...` says that it then holds over a whole branch. `TokenRules`
has the other three calls too.

So a property of all steps is proved from what one move does, and no branch is opened twice.
-/

set_option autoImplicit false

namespace AitpPlayground.Proofs.Runner

open AitpPlayground.Lib
open AitpPlayground.Lib.Act
open AitpPlayground.Agents
open AitpPlayground.Hosting
open AitpPlayground.Registry
open AitpPlayground.Runner

/-! ### Moves -/

/-- The requests that hand out no token and touch no trust store. -/
def isPlain : AdminCall → Bool
  | .initiateHandshake .. | .renewTct .. | .redeemDelegation .. | .trustPeers .. => false
  | _ => true

/-- The process after a request. -/
abbrev served (setting : RunSetting) (c : AdminCall) (p : AgentProcess) : AgentProcess :=
  (c.route setting.sdk setting.py).after p

/-- A relation that holds over the moves of a step with this id. -/
structure StepRules (setting : RunSetting) (stepId : String) (R : Workflow → Workflow → Prop) :
    Prop where
  emit : ∀ s (event : Emission), event.type ≠ "trust.established" →
    R s { s with events := s.events ++ [event] }
  output : ∀ s value, R s { s with outputs := s.outputs.set stepId value }
  webhook : ∀ s cpWebhook webhookIds, R s { s with cpWebhook, webhookIds }
  call : ∀ s id p c, isPlain c = true → s.processes.get? id = some p →
    R s { s with processes := s.processes.set id (served setting c p) }
  refresh : ∀ s id p snapshot, s.processes.get? id = some p →
    R s { s with
      processes := s.processes.set id { p with revocation := { p.revocation with snapshot } } }

/-- What holds of the moves of a step, those that hand out tokens included. -/
structure TokenRules (setting : RunSetting) (stepId : String) (R : Workflow → Workflow → Prop) :
    Prop extends StepRules setting stepId R where
  established : ∀ s (event : Emission), R s { s with events := s.events ++ [event] }
  tokens : ∀ s id p c, (∀ body salt, c ≠ .trustPeers body salt) → s.processes.get? id = some p →
    R s { s with processes := s.processes.set id (served setting c p) }
  note : ∀ s ops, R s { s with ops }

/-- A call to an agent is not served, or the agent serves it and the answer may be lost. -/
theorem callAgent_cases (setting : RunSetting) (agentId : String) (link : Link) (c : AdminCall)
    (s : Workflow) :
    (∃ e, callAgent setting agentId link c s = .error e s) ∨
    ∃ p, s.processes.get? agentId = some p ∧
      ((∃ e, callAgent setting agentId link c s = .error e
          { s with processes := s.processes.set agentId (served setting c p) }) ∨
        callAgent setting agentId link c s = .ok (.ofRoute (c.route setting.sdk setting.py p))
          { s with processes := s.processes.set agentId (served setting c p) }) := by
  unfold callAgent
  cases hp : s.processes.get? agentId with
  | none =>
    left
    cases link with
    | refused text => exact ⟨_, rfl⟩
    | good =>
      refine ⟨.other "ConnectError" "All connection attempts failed", ?_⟩
      refine (bind_of_ok _ _ rfl).trans ?_
      rw [hp]
      rfl
    -- Nobody is there to serve the request, so no answer can be lost.
    | lost text =>
      refine ⟨.other "ConnectError" "All connection attempts failed", ?_⟩
      refine (bind_of_ok _ _ rfl).trans ?_
      rw [hp]
      rfl
  | some p =>
    cases link with
    | refused text => exact .inl ⟨_, rfl⟩
    | good =>
      refine .inr ⟨p, rfl, .inr ((bind_of_ok _ _ rfl).trans ?_)⟩
      rw [hp]
      rfl
    | lost text =>
      refine .inr ⟨p, rfl, .inl ⟨.other "ReadTimeout" text, (bind_of_ok _ _ rfl).trans ?_⟩⟩
      rw [hp]
      rfl

section
variable {setting : RunSetting} {step : WorkflowStep} {R : Workflow → Workflow → Prop}
variable [Std.Refl R]

/-- A computation of Python leaves the workflow. -/
theorem within_lift {α : Type} (r : Except PyErr α) : Within R (Steps.lift r) :=
  within_ofExcept _ r

/-- The lookup of an agent leaves the workflow. -/
theorem within_runningAgent [IsTrans Workflow R] (agentId : String) :
    Within R (Steps.runningAgent agentId) :=
  within_bind within_get fun _ => within_orThrow _ _

/-- The lookup of a URL leaves the workflow. -/
theorem within_peerUrl (agentId : String) : Within R (peerUrl setting agentId) :=
  within_orThrow _ _

/-- A refusal leaves the workflow. -/
theorem within_refuseStep {α : Type} (text : String) :
    Within R (refuseStep step text : Steps α) := within_throw _

/-- The test of a status leaves the workflow. -/
theorem within_raiseForStatus (r : Reply) : Within R (Steps.raiseForStatus r) :=
  within_ite (within_pure ()) (within_throw _)

/-- A call that bypasses the agents leaves the workflow. -/
theorem within_directCall (answer : HttpAnswer) : Within R (Steps.directCall answer) := by
  cases answer with
  | ok r => exact within_pure _
  | error text => exact within_throw _

/-- A request that bypasses the agents leaves the workflow. -/
theorem within_requestDirect [IsTrans Workflow R] (answer : HttpAnswer) :
    Within R (requestDirect setting answer) := by
  refine within_bind (within_directCall _) fun _ => ?_
  exact within_bind (within_raiseForStatus _) fun _ => within_lift _

/-- A call to an agent changes its process, or nothing. -/
theorem within_callAgent_of [IsTrans Workflow R] (agentId : String) (link : Link) (c : AdminCall)
    (h : ∀ s p, s.processes.get? agentId = some p →
      R s { s with processes := s.processes.set agentId (served setting c p) }) :
    Within R (callAgent setting agentId link c) := by
  intro s
  rcases callAgent_cases setting agentId link c s with ⟨e, hrun⟩ | ⟨p, hp, ⟨e, hrun⟩ | hrun⟩
  · rw [after_congr (y := throw e) hrun]
    exact Std.Refl.refl s
  · rw [after_congr (y := throw e) hrun]
    exact h s p hp
  · rw [after_of_ok hrun]
    exact h s p hp

end

/-! ### Calls that returned -/

section
variable {setting : RunSetting} {s s' : Workflow}

/-- The agent that is found is a running one. -/
theorem runningAgent_eq_ok {agentId : String} {ra : RunningAgent}
    (h : Steps.runningAgent agentId s = .ok ra s') : s.running.get? agentId = some ra ∧ s = s' := by
  obtain ⟨t, s₁, hget, h⟩ := bind_eq_ok.mp h
  obtain ⟨rfl, rfl⟩ := get_eq_ok.mp hget
  exact orThrow_eq_ok.mp h

/-- After the test the reply is a success. -/
theorem raiseForStatus_eq_ok {r : Reply} (h : Steps.raiseForStatus r s = .ok () s') :
    r.isSuccess = true ∧ s = s' := by
  unfold Steps.raiseForStatus at h
  split at h
  case isTrue hsuccess => exact ⟨hsuccess, (pure_eq_ok.mp h).2⟩
  case isFalse => cases h

/-- An event is added at the end. -/
theorem emit_eq_ok {type : String} {fields : List (String × Json)} {u : Unit}
    (h : Steps.emit type fields s = .ok u s') :
    s' = { s with events := s.events ++ [{ type, fields := Dict.ofList fields }] } :=
  (modify_eq_ok.mp h).symm

/-- A call that was answered: the agent has served the request. -/
theorem callAgent_eq_ok {agentId : String} {link : Link} {c : AdminCall} {r : Reply}
    (h : callAgent setting agentId link c s = .ok r s') :
    ∃ p, s.processes.get? agentId = some p ∧ r = .ofRoute (c.route setting.sdk setting.py p) ∧
      s' = { s with processes := s.processes.set agentId (served setting c p) } := by
  rcases callAgent_cases setting agentId link c s with ⟨e, hrun⟩ | ⟨p, hp, ⟨e, hrun⟩ | hrun⟩
  · rw [hrun] at h
    cases h
  · rw [hrun] at h
    cases h
  · rw [hrun] at h
    cases h
    exact ⟨p, hp, rfl, rfl⟩

/-- A request that had to succeed: the agent has served it, and its answer is the data. -/
theorem requestAgent_eq_ok {agentId : String} {link : Link} {c : AdminCall} {data : Json}
    (h : requestAgent setting agentId link c s = .ok data s') :
    ∃ p, s.processes.get? agentId = some p ∧
      (Reply.ofRoute (c.route setting.sdk setting.py p)).isSuccess = true ∧
      (Reply.ofRoute (c.route setting.sdk setting.py p)).json setting.py = .ok data ∧
      s' = { s with processes := s.processes.set agentId (served setting c p) } := by
  obtain ⟨r, s₁, hcall, h⟩ := bind_eq_ok.mp h
  obtain ⟨u, s₂, hraise, hjson⟩ := bind_eq_ok.mp h
  obtain ⟨p, hp, rfl, rfl⟩ := callAgent_eq_ok hcall
  obtain ⟨hsuccess, rfl⟩ := raiseForStatus_eq_ok hraise
  obtain ⟨hdata, rfl⟩ := ofExcept_eq_ok.mp hjson
  exact ⟨p, hp, hsuccess, hdata, rfl⟩

end

/-! ### Branches -/

section
variable {setting : RunSetting} {R : Workflow → Workflow → Prop} {step : WorkflowStep}
variable {stepId : String}

/-- An event of a step, other than that trust was established. -/
theorem within_emit (hR : StepRules setting stepId R) (type : String)
    (fields : List (String × Json)) (htype : type ≠ "trust.established") :
    Within R (Steps.emit type fields) :=
  within_modify fun s => hR.emit s { type, fields := Dict.ofList fields } htype

/-- The output of the step. -/
theorem within_output (hR : StepRules setting step.id R) (value : Json) :
    Within R (Steps.output step.id value) := within_modify fun s => hR.output s value

/-- The end of the step. -/
theorem within_stepComplete (hR : StepRules setting step.id R) (result : Json) :
    Within R (stepComplete step result) := within_emit hR _ _ (by decide)

variable [IsTrans Workflow R]

/-- The end of a step without a control plane. -/
theorem within_skipWithoutCp (hR : StepRules setting step.id R) (recorded : Json) :
    Within R (skipWithoutCp step recorded) :=
  within_bind (within_emit hR _ _ (by decide)) fun _ => within_output hR _

/-- The end of most branches. -/
theorem within_complete (hR : StepRules setting step.id R) (value result : Json) :
    Within R (do
      Steps.output step.id value
      stepComplete step result : Steps Unit) :=
  within_bind (within_output hR _) fun _ => within_stepComplete hR _

variable [Std.Refl R]

/-- A call that neither pins, nor rotates, nor hands out a token. -/
theorem within_callAgent (hR : StepRules setting stepId R) (agentId : String) (link : Link)
    (c : AdminCall) (hc : isPlain c = true) : Within R (callAgent setting agentId link c) :=
  within_callAgent_of agentId link c fun s p hp => hR.call s agentId p c hc hp

/-- A call that neither pins, nor rotates, nor hands out a token, with the test of its status. -/
theorem within_requestAgent (hR : StepRules setting stepId R) (agentId : String) (link : Link)
    (c : AdminCall) (hc : isPlain c = true) :
    Within R (requestAgent setting agentId link c) := by
  refine within_bind (within_callAgent hR agentId link c hc) fun _ => ?_
  exact within_bind (within_raiseForStatus _) fun _ => within_lift _

/-- A call without trust invokes a capability. -/
theorem within_callWithoutTrust (hR : StepRules setting stepId R)
    (caller target capability : String) (expectStatus : Option Int) (world : StepWorld) :
    Within R (callWithoutTrust setting caller target capability expectStatus world) := by
  refine within_bind (within_emit hR _ _ (by decide)) fun _ => ?_
  refine within_bind (within_directCall _) fun _ => ?_
  refine within_bind (within_emit hR _ _ ?_) fun _ => within_pure _
  split <;> decide

/-- A probe invokes a capability with a held token. -/
theorem within_probeWithHeldTct (hR : StepRules setting stepId R) (caller target : String)
    (port : Int) (capability : String) (payload : Json) (expectStatus : Option Int)
    (world : StepWorld) :
    Within R (probeWithHeldTct setting caller target port capability payload expectStatus
      world) := by
  refine within_bind (within_emit hR _ _ (by decide)) fun _ => ?_
  refine within_bind (within_callAgent hR _ _ _ rfl) fun _ => ?_
  refine within_bind (within_raiseForStatus _) fun _ => ?_
  refine within_bind (within_lift _) fun _ => within_bind (within_lift _) fun _ => ?_
  refine within_bind (within_emit hR _ _ ?_) fun _ => within_pure _
  split
  · decide
  · split <;> decide

/-- `capability_call_no_trust`. -/
theorem within_dispatchCallNoTrust (hR : StepRules setting step.id R) (world : StepWorld) :
    Within R (dispatchCallNoTrust setting step world) := by
  unfold dispatchCallNoTrust
  split
  · refine within_bind (within_runningAgent _) fun _ => ?_
    refine within_bind (within_runningAgent _) fun _ => ?_
    refine within_bind (within_callWithoutTrust hR _ _ _ _ _) fun _ => ?_
    exact within_complete hR _ _
  · exact within_refuseStep _

/-- `capability_probe`. -/
theorem within_dispatchCapabilityProbe (hR : StepRules setting step.id R) (world : StepWorld) :
    Within R (dispatchCapabilityProbe setting step world) := by
  unfold dispatchCapabilityProbe
  split
  · refine within_bind within_get fun _ => ?_
    refine within_bind (within_runningAgent _) fun _ => ?_
    refine within_bind (within_runningAgent _) fun _ => ?_
    refine within_bind (within_probeWithHeldTct hR _ _ _ _ _ _ _) fun _ => ?_
    exact within_complete hR _ _
  · exact within_refuseStep _

/-- `delegate`: the delegation is an output. -/
theorem within_dispatchDelegate (hR : StepRules setting step.id R) (world : StepWorld) :
    Within R (dispatchDelegate setting step world) := by
  unfold dispatchDelegate
  split
  · refine within_bind (within_runningAgent _) fun _ => ?_
    refine within_bind (within_runningAgent _) fun _ => ?_
    refine within_bind (within_peerUrl _) fun _ => within_ite (within_refuseStep _) ?_
    refine within_bind (within_emit hR _ _ (by decide)) fun _ => ?_
    refine within_bind (within_requestAgent hR _ _ _ rfl) fun _ => ?_
    refine within_bind within_get fun _ => within_bind (within_lift _) fun _ => ?_
    refine within_bind (within_lift _) fun _ => ?_
    refine within_bind (within_output hR _) fun _ => ?_
    exact within_bind (within_lift _) fun _ => within_stepComplete hR _
  · exact within_refuseStep _

/-- A refresh of the revocations of one agent. -/
theorem within_refreshAgent (hR : StepRules setting stepId R) (agentId : String) (n : Nat)
    (world : StepWorld) : Within R (refreshAgent agentId n world) := by
  refine within_bind (within_modify fun s => ?_) fun _ => within_directCall _
  cases hp : s.processes.get? agentId with
  | none => exact Std.Refl.refl s
  | some p => exact hR.refresh s agentId p _ hp

/-- The refreshes of a list, by induction on it. -/
theorem within_refreshAgents (hR : StepRules setting stepId R) (world : StepWorld)
    (agents : List (String × Nat)) (counts : Dict String Json) :
    Within R (refreshAgents setting world agents counts) := by
  induction agents generalizing counts with
  | nil => exact within_pure _
  | cons agent rest ih =>
    refine within_bind (within_runningAgent _) fun _ => ?_
    refine within_bind (within_refreshAgent hR _ _ _) fun _ => ?_
    exact within_bind (within_lift _) fun _ => ih _

/-- A revocation through the control plane. -/
theorem within_revokeViaCp (hR : StepRules setting step.id R) (issuer jti : String)
    (localRevoke : Bool) (world : StepWorld) :
    Within R (revokeViaCp setting step issuer jti localRevoke world) := by
  refine within_bind (within_runningAgent _) fun _ => ?_
  refine within_bind (within_refreshAgent hR _ _ _) fun _ => within_bind (within_lift _) fun _ => ?_
  refine within_bind (within_emit hR _ _ (by decide)) fun _ => ?_
  exact within_bind (within_refreshAgents hR _ _ _) fun _ => within_pure _

/-- A revocation at the issuer. -/
theorem within_revokeLocally (hR : StepRules setting stepId R) (issuer jti : String)
    (localRevoke : Bool) (world : StepWorld) :
    Within R (revokeLocally setting issuer jti localRevoke world) := by
  refine within_ite ?_ (within_pure ())
  refine within_bind (within_runningAgent _) fun _ => ?_
  exact within_bind (within_callAgent hR _ _ _ rfl) fun _ => within_raiseForStatus _

/-- What a `revoke_tct` step does after the local revocation. -/
theorem within_recordRevocation (hR : StepRules setting step.id R) (issuer jti : String)
    (localRevoke : Bool) (world : StepWorld) :
    Within R (do
      let result ← revokeResult setting step issuer jti localRevoke world
      Steps.output step.id result
      stepComplete step result : Steps Unit) := by
  refine within_bind ?_ fun _ => within_complete hR _ _
  exact within_ite (within_revokeViaCp hR _ _ _ _) (within_pure _)

/-- `revoke_tct`: both of them. -/
theorem within_dispatchRevokeTct (hR : StepRules setting step.id R) (world : StepWorld) :
    Within R (dispatchRevokeTct setting step world) := by
  unfold dispatchRevokeTct
  split
  · refine within_bind within_get fun s => ?_
    split
    · refine within_ite (within_refuseStep _) (within_ite (within_skipWithoutCp hR _) ?_)
      refine within_bind (within_revokeLocally hR _ _ _ _) fun _ => ?_
      exact within_recordRevocation hR _ _ _ _
    · exact within_refuseStep _
  · exact within_refuseStep _

/-- `tct_cache_stats`. -/
theorem within_dispatchTctCacheStats (hR : StepRules setting step.id R) (world : StepWorld) :
    Within R (dispatchTctCacheStats setting step world) := by
  unfold dispatchTctCacheStats
  split
  · refine within_bind (within_runningAgent _) fun _ => ?_
    refine within_bind (within_requestDirect _) fun _ => ?_
    refine within_bind (within_output hR _) fun _ => ?_
    exact within_bind (within_emit hR _ _ (by decide)) fun _ => within_stepComplete hR _
  · exact within_refuseStep _

/-- The tokens of the participants, by induction on them. -/
theorem within_participantTokens (hR : StepRules setting stepId R) (port : Int)
    (world : StepWorld) (agents : List (String × Nat)) (tokens : List Json) :
    Within R (participantTokens setting port world agents tokens) := by
  induction agents generalizing tokens with
  | nil => exact within_pure _
  | cons agent rest ih =>
    refine within_bind (within_runningAgent _) fun _ => ?_
    refine within_bind (within_requestAgent hR _ _ _ rfl) fun _ => ?_
    exact within_bind (within_lift _) fun _ => within_bind (within_lift _) fun _ => ih _

/-- `export_session_bundle`. -/
theorem within_dispatchExportSessionBundle (hR : StepRules setting step.id R)
    (world : StepWorld) : Within R (dispatchExportSessionBundle setting step world) := by
  unfold dispatchExportSessionBundle
  split
  · refine within_bind (within_runningAgent _) fun _ => ?_
    refine within_bind (within_participantTokens hR _ _ _ _) fun _ => ?_
    refine within_bind (within_requestAgent hR _ _ _ rfl) fun _ => ?_
    refine within_bind (within_lift _) fun _ => within_bind (within_output hR _) fun _ => ?_
    refine within_bind (within_lift _) fun _ => within_bind (within_lift _) fun _ => ?_
    exact within_bind (within_emit hR _ _ (by decide)) fun _ => within_stepComplete hR _
  · exact within_refuseStep _

/-- `verify_session_bundle`. -/
theorem within_dispatchVerifySessionBundle (hR : StepRules setting step.id R)
    (world : StepWorld) : Within R (dispatchVerifySessionBundle setting step world) := by
  unfold dispatchVerifySessionBundle
  split
  · refine within_bind within_get fun _ => within_bind (within_lift _) fun prior => ?_
    refine within_ite ?_ (within_refuseStep _)
    refine within_bind (within_runningAgent _) fun _ => ?_
    refine within_bind (within_requestAgent hR _ _ _ rfl) fun _ => ?_
    refine within_bind (within_output hR _) fun _ => within_bind (within_lift _) fun _ => ?_
    refine within_bind (within_lift _) fun _ => within_bind (within_lift _) fun _ => ?_
    exact within_bind (within_emit hR _ _ (by decide)) fun _ => within_stepComplete hR _
  · exact within_refuseStep _

/-- `enroll_with_cp`. -/
theorem within_dispatchEnrollWithCp (hR : StepRules setting step.id R) (world : StepWorld) :
    Within R (dispatchEnrollWithCp setting step world) := by
  unfold dispatchEnrollWithCp
  split
  · refine within_ite ?_ (within_skipWithoutCp hR _)
    refine within_bind (within_runningAgent _) fun _ => ?_
    refine within_bind (within_emit hR _ _ (by decide)) fun _ => ?_
    refine within_bind (within_requestDirect _) fun _ => ?_
    refine within_bind (within_output hR _) fun _ => ?_
    refine within_bind (within_ofExcept _ _) fun _ => within_bind (within_lift _) fun _ => ?_
    exact within_bind (within_emit hR _ _ (by decide)) fun _ => within_stepComplete hR _
  · exact within_refuseStep _

/-- The webhook of the run is kept. -/
theorem within_keepWebhook (hR : StepRules setting stepId R) (created : Dict String Json)
    (url : String) (events : Json) : Within R (keepWebhook created url events) := by
  refine within_bind within_get fun _ => within_bind (within_lift _) fun _ => ?_
  exact within_modify fun s => hR.webhook s _ _

/-- `cp_subscribe_webhook`. -/
theorem within_dispatchCpSubscribeWebhook (hR : StepRules setting step.id R)
    (world : StepWorld) : Within R (dispatchCpSubscribeWebhook setting step world) := by
  refine within_ite ?_ (within_skipWithoutCp hR _)
  simp only
  split
  · refine within_bind (within_keepWebhook hR _ _ _) fun _ => ?_
    exact within_bind (within_emit hR _ _ (by decide)) fun _ => within_output hR _
  · exact within_bind (within_emit hR _ _ (by decide)) fun _ => within_output hR _

/-- The manifest of an agent is fetched. -/
theorem within_verifiedManifest (hR : StepRules setting step.id R) (agent : String)
    (ra : RunningAgent) (world : StepWorld) :
    Within R (verifiedManifest setting step agent ra world) := by
  refine within_bind (within_directCall _) fun _ => ?_
  refine within_bind (within_raiseForStatus _) fun _ => ?_
  split
  · exact within_lift _
  · exact within_bind (within_emit hR _ _ (by decide)) fun _ => within_throw _

/-- `cp_provision_trust_anchor`. -/
theorem within_dispatchCpProvisionTrustAnchor (hR : StepRules setting step.id R)
    (world : StepWorld) : Within R (dispatchCpProvisionTrustAnchor setting step world) := by
  unfold dispatchCpProvisionTrustAnchor
  split
  · refine within_ite ?_ (within_skipWithoutCp hR _)
    refine within_bind (within_runningAgent _) fun _ => ?_
    refine within_bind (within_verifiedManifest hR _ _ _) fun _ => ?_
    refine within_bind (within_lift _) fun _ => within_ite ?_ (within_throw _)
    refine within_bind (within_lift _) fun _ => within_bind (within_output hR _) fun _ => ?_
    exact within_bind (within_emit hR _ _ (by decide)) fun _ => within_stepComplete hR _
  · exact within_refuseStep _

/-- `cp_delegation_tree`. -/
theorem within_dispatchCpDelegationTree (hR : StepRules setting step.id R) (world : StepWorld) :
    Within R (dispatchCpDelegationTree setting step world) := by
  unfold dispatchCpDelegationTree
  split
  · refine within_ite ?_ (within_skipWithoutCp hR _)
    refine within_bind (within_runningAgent _) fun _ => within_bind (within_output hR _) fun _ => ?_
    exact within_bind (within_emit hR _ _ (by decide)) fun _ => within_stepComplete hR _
  · exact within_refuseStep _

/-- The result of a pin check. -/
theorem within_expectPinned (hR : StepRules setting step.id R) (isPinned : Bool)
    (result : Json) : Within R (expectPinned setting step isPinned result) := by
  unfold expectPinned
  split
  · refine within_ite ?_ (within_stepComplete hR _)
    exact within_bind (within_emit hR _ _ (by decide)) fun _ => within_refuseStep _
  · exact within_stepComplete hR _

/-- `spki_pin_check`. -/
theorem within_dispatchSpkiPinCheck (hR : StepRules setting step.id R) (world : StepWorld) :
    Within R (dispatchSpkiPinCheck setting step world) := by
  unfold dispatchSpkiPinCheck
  split
  · refine within_bind (within_ofExcept _ _) fun _ => within_bind (within_output hR _) fun _ => ?_
    exact within_bind (within_emit hR _ _ (by decide)) fun _ => within_expectPinned hR _ _
  · exact within_refuseStep _

/-- A capability is invoked at the agent. -/
theorem within_executeCapability (hR : StepRules setting stepId R)
    (agent target capability : String) (payload : Json) (world : StepWorld) :
    Within R (executeCapability setting agent target capability payload world) := by
  refine within_ite ?_ ?_
  · refine within_bind (within_directCall _) fun _ => within_ite (within_lift _) ?_
    exact within_bind (within_lift _) fun _ => within_throw _
  · refine within_bind (within_runningAgent _) fun _ => ?_
    refine within_bind (within_callAgent hR _ _ _ rfl) fun _ => ?_
    refine within_bind (within_raiseForStatus _) fun _ => within_bind (within_lift _) fun _ => ?_
    split
    · exact within_throw _
    · exact within_pure _

/-- `workflow`. -/
theorem within_dispatchWorkflow (hR : StepRules setting step.id R) (world : StepWorld) :
    Within R (dispatchWorkflow setting step world) := by
  unfold dispatchWorkflow
  split
  · refine within_bind (within_runningAgent _) fun _ => within_bind (within_lift _) fun _ => ?_
    split
    · exact within_throw _
    · refine within_bind within_get fun _ => ?_
      refine within_bind (within_emit hR _ _ (by decide)) fun _ => ?_
      refine within_bind (within_executeCapability hR _ _ _ _ _) fun _ => ?_
      exact within_complete hR _ _
  · exact within_refuseStep _

/-- The types of the steps that hand out a token, or replace a key. -/
def handsOut : StepType → Bool
  | .handshake | .redeemDelegation | .renewTct | .rotateKeys => true
  | _ => false

/-- Every step of a type that hands out no token. -/
theorem within_dispatchType (hR : StepRules setting step.id R) {type : StepType}
    (htype : handsOut type = false) (world : StepWorld) :
    Within R (dispatchType setting type step world) := by
  cases type with
  | capabilityCallNoTrust => exact within_dispatchCallNoTrust hR world
  | capabilityProbe => exact within_dispatchCapabilityProbe hR world
  | delegate => exact within_dispatchDelegate hR world
  | revokeTct => exact within_dispatchRevokeTct hR world
  | enrollWithCp => exact within_dispatchEnrollWithCp hR world
  | cpSubscribeWebhook => exact within_dispatchCpSubscribeWebhook hR world
  | cpProvisionTrustAnchor => exact within_dispatchCpProvisionTrustAnchor hR world
  | cpDelegationTree => exact within_dispatchCpDelegationTree hR world
  | tctCacheStats => exact within_dispatchTctCacheStats hR world
  | exportSessionBundle => exact within_dispatchExportSessionBundle hR world
  | verifySessionBundle => exact within_dispatchVerifySessionBundle hR world
  | spkiPinCheck => exact within_dispatchSpkiPinCheck hR world
  | workflow => exact within_dispatchWorkflow hR world
  | handshake => cases htype
  | redeemDelegation => cases htype
  | renewTct => cases htype
  | rotateKeys => cases htype

/-- The field of an agent is looked up. -/
theorem within_runningField (field : Option String) : Within R (runningField field) := by
  cases field with
  | some agentId => exact within_bind (within_runningAgent _) fun _ => within_pure _
  | none => exact within_throw _

/-- The action of a fault, unless it is a handshake. -/
theorem within_faultAction (hR : StepRules setting stepId R) {type : StepType}
    (htype : type ≠ .handshake) (target url : String) (port : Int) (world : StepWorld) :
    Within R (faultAction setting step type target url port world) := by
  have hprobe : Within R (do
      let _target ← Steps.runningAgent target
      let payload := resolveStepInput setting.py step Dict.empty (← get).outputs
      let caller ← runningField (some ((given step.agent).getD target))
      let _result ← probeWithHeldTct setting caller target port (step.capability.getD "") payload
        step.expectStatus world
      pure () : Steps Unit) := by
    refine within_bind (within_runningAgent _) fun _ => within_bind within_get fun _ => ?_
    refine within_bind (within_runningField _) fun _ => ?_
    exact within_bind (within_probeWithHeldTct hR _ _ _ _ _ _ _) fun _ => within_pure ()
  unfold faultAction
  split
  · exact absurd rfl htype
  · exact hprobe
  · exact hprobe
  · exact within_refuseStep _

/-- What an action does when its exceptions are swallowed. -/
theorem within_swallow {x : Steps Unit} (hx : Within R x) : Within R (swallow x) :=
  within_tryCatch (within_bind hx fun _ => within_pure _) fun _ => within_pure _

/-- A step with a fault, when what its fault does is within the relation. -/
theorem within_dispatchFaultInjected (hR : StepRules setting step.id R) (type : StepType)
    (fault : StepFault) (world : StepWorld)
    (haction : ∀ target url port,
      Within R (faultAction setting step type target url port world)) :
    Within R (dispatchFaultInjected setting step type fault world) := by
  refine within_bind (within_lift _) fun _ => ?_
  split
  · exact within_refuseStep _
  · refine within_bind (within_peerUrl _) fun _ => ?_
    refine within_bind (within_runningAgent _) fun _ => within_bind (within_lift _) fun _ => ?_
    refine within_bind (within_emit hR _ _ (by decide)) fun _ => ?_
    refine within_bind (within_swallow (haction _ _ _)) fun _ => ?_
    exact within_bind (within_output hR _) fun _ => within_emit hR _ _ (by decide)

end

/-! ### Branches that hand out tokens -/

section
variable {setting : RunSetting} {R : Workflow → Workflow → Prop} {step : WorkflowStep}
variable {stepId : String} [Std.Refl R] [IsTrans Workflow R]

/-- A call about a held token, which may be recorded. -/
theorem within_tokenCall (hR : TokenRules setting stepId R) (holder issuer : String)
    (kind : TokenOpKind) (link : Link) {c : AdminCall} (accepts : Reply → Bool)
    (hc : ∀ body salt, c ≠ .trustPeers body salt) :
    Within R (tokenCall setting holder issuer kind link c accepts) := by
  refine within_bind within_get fun s => ?_
  refine within_bind (within_tryCatch ?_ fun _ => ?_) fun _ => ?_
  · exact within_callAgent_of holder link c fun s p hp => hR.tokens s holder p c hc hp
  · exact within_bind (within_modify fun s => hR.note s _) fun _ => within_throw _
  · exact within_bind (within_modify fun s => hR.note s _) fun _ => within_pure _

/-- A handshake between two agents. -/
theorem within_ensureTrust (hR : TokenRules setting stepId R) (initiator target : String)
    (url : Option String) (requestedGrants : Option (List String)) (world : StepWorld) :
    Within R (ensureTrust setting initiator target url requestedGrants world) := by
  refine within_bind (within_modify fun s => hR.established s _) fun _ => ?_
  refine within_bind (within_tokenCall hR _ _ _ _ _ nofun) fun _ => ?_
  exact within_bind (within_ofExcept _ _) fun _ => within_modify fun s => hR.established s _

/-- An eager one. -/
theorem within_eagerHandshake (hR : TokenRules setting stepId R) (a b : String)
    (world : StepWorld) : Within R (eagerHandshake setting a b world) := by
  refine within_bind (within_runningAgent _) fun _ => ?_
  refine within_bind (within_runningAgent _) fun _ => ?_
  exact within_bind (within_peerUrl _) fun _ => within_ensureTrust hR _ _ _ _ _

/-- `handshake`. -/
theorem within_dispatchHandshake (hR : TokenRules setting step.id R) (world : StepWorld) :
    Within R (dispatchHandshake setting step world) := by
  unfold dispatchHandshake
  split
  · refine within_bind (within_runningAgent _) fun _ => ?_
    refine within_bind (within_runningAgent _) fun _ => ?_
    refine within_bind (within_peerUrl _) fun _ => ?_
    refine within_bind (within_ensureTrust hR _ _ _ _ _) fun _ => ?_
    refine within_bind (within_output hR.toStepRules _) fun _ => ?_
    exact within_emit hR.toStepRules _ _ (by decide)
  · exact within_refuseStep _

/-- The record of a redemption. -/
theorem within_recordRedemption (hR : StepRules setting step.id R) (delegatee target : String)
    (urls : Json) (r : Reply) :
    Within R (recordRedemption setting step delegatee target urls r) := by
  refine within_bind (within_raiseForStatus _) fun _ => within_bind (within_lift _) fun _ => ?_
  refine within_bind (within_lift _) fun _ => within_bind (within_lift _) fun _ => ?_
  exact within_complete hR _ _

/-- What a `redeem_delegation` step does after the redemption. -/
theorem within_recordAnswer (hR : StepRules setting step.id R) (delegatee target : String)
    (urls : Json) (r : Reply) :
    Within R (recordAnswer setting step delegatee target urls r) := by
  unfold recordAnswer
  split
  · exact within_bind (within_lift _) fun _ => within_complete hR _ _
  · exact within_recordRedemption hR _ _ _ _

/-- `redeem_delegation`. -/
theorem within_dispatchRedeemDelegation (hR : TokenRules setting step.id R)
    (world : StepWorld) : Within R (dispatchRedeemDelegation setting step world) := by
  unfold dispatchRedeemDelegation
  split
  · refine within_bind within_get fun _ => ?_
    split
    · refine within_bind ?_ fun _ => within_recordAnswer hR.toStepRules _ _ _ _
      refine within_bind (within_runningAgent _) fun _ => ?_
      refine within_bind (within_runningAgent _) fun _ => ?_
      refine within_bind (within_peerUrl _) fun _ => within_bind (within_lift _) fun _ => ?_
      refine within_bind (within_emit hR.toStepRules _ _ (by decide)) fun _ => ?_
      exact within_tokenCall hR _ _ _ _ _ nofun
    · exact within_refuseStep _
  · exact within_refuseStep _

/-- What a `renew_tct` step does after the renewal. -/
theorem within_recordRenewal (hR : StepRules setting step.id R) (agent viaPeer : String)
    (r : Reply) : Within R (recordRenewal setting step agent viaPeer r) := by
  refine within_bind (within_raiseForStatus _) fun _ => within_bind (within_lift _) fun _ => ?_
  refine within_bind (within_output hR _) fun _ => within_bind (within_ofExcept _ _) fun _ => ?_
  refine within_bind (within_lift _) fun _ => ?_
  exact within_bind (within_emit hR _ _ (by decide)) fun _ => within_stepComplete hR _

/-- `renew_tct`. -/
theorem within_dispatchRenewTct (hR : TokenRules setting step.id R) (world : StepWorld) :
    Within R (dispatchRenewTct setting step world) := by
  unfold dispatchRenewTct
  split
  · refine within_bind (within_runningAgent _) fun _ => ?_
    refine within_bind (within_runningAgent _) fun _ => ?_
    refine within_bind (within_tokenCall hR _ _ _ _ _ nofun) fun _ => ?_
    exact within_recordRenewal hR.toStepRules _ _ _
  · exact within_refuseStep _

/-- Every step of a type other than the rotation. -/
theorem within_tokenType (hR : TokenRules setting step.id R) {type : StepType}
    (htype : type ≠ .rotateKeys) (world : StepWorld) :
    Within R (dispatchType setting type step world) := by
  cases htokens : handsOut type with
  | false => exact within_dispatchType hR.toStepRules htokens world
  | true =>
    unfold handsOut at htokens
    split at htokens
    · exact within_dispatchHandshake hR world
    · exact within_dispatchRedeemDelegation hR world
    · exact within_dispatchRenewTct hR world
    · exact absurd rfl htype
    · cases htokens

/-- The action of a fault. -/
theorem within_anyFaultAction (hR : TokenRules setting stepId R) (type : StepType)
    (target url : String) (port : Int) (world : StepWorld) :
    Within R (faultAction setting step type target url port world) := by
  by_cases hhandshake : type = .handshake
  · subst hhandshake
    refine within_bind (within_runningField _) fun _ => ?_
    refine within_bind (within_runningField _) fun _ => ?_
    exact within_ensureTrust hR _ _ _ _ _
  · exact within_faultAction hR.toStepRules hhandshake _ _ _ _

/-- A step that replaces no key. -/
theorem within_tokenStep (hR : TokenRules setting step.id R) (world : StepWorld)
    (htype : inferType step = some .rotateKeys → step.fault.isSome) :
    Within R (dispatchStep setting step world) := by
  unfold dispatchStep
  split
  case h_1 => exact within_emit hR.toStepRules _ _ (by decide)
  case h_2 type fault hinfer hfault =>
    exact within_dispatchFaultInjected hR.toStepRules type fault world fun target url port =>
      within_anyFaultAction hR type target url port world
  case h_3 type hinfer hfault =>
    by_cases hrotate : type = .rotateKeys
    · rw [hfault] at htype
      exact absurd (htype (hrotate ▸ hinfer)) (by decide)
    · exact within_tokenType hR hrotate world

end

/-! ### Runs -/

section
variable {setting : RunSetting} {s s' : Workflow}

/-- A step of the machine is its code, run to the end. -/
theorem workStep_eq_some {l : WorkLabel} :
    workStep setting s l = some s' ↔ l.code setting s = .ok () s' := by
  unfold workStep
  cases l.code setting s with
  | ok u s₁ => simp
  | error e s₁ => simp

/-- A label whose code returns is a step of the machine. -/
theorem reach_code {l : WorkLabel} (h : l.code setting s = .ok () s') :
    Reach (workStep setting) anyStep s s' :=
  (Reach.refl s).snoc trivial (workStep_eq_some.mpr h)

/-- The eager handshakes are steps of the machine, by induction on the pairs. -/
theorem reach_handshakePairs {worlds : Nat → StepWorld} {pairs : List ((String × String) × Nat)}
    (h : handshakePairs setting worlds pairs s = .ok () s') :
    Reach (workStep setting) anyStep s s' := by
  induction pairs generalizing s with
  | nil =>
    obtain rfl := (pure_eq_ok.mp h).2
    exact Reach.refl s
  | cons pair rest ih =>
    obtain ⟨u, s₁, hfirst, hrest⟩ := bind_eq_ok.mp h
    exact (reach_code (l := .eager pair.1.1 pair.1.2 (worlds pair.2)) hfirst).trans (ih hrest)

/-- The steps of the workflow are steps of the machine, by induction on them. -/
theorem reach_runSteps {worlds : Nat → StepWorld} {steps : List (WorkflowStep × Nat)}
    (h : runSteps setting worlds steps s = .ok () s') :
    Reach (workStep setting) anyStep s s' := by
  induction steps generalizing s with
  | nil =>
    obtain rfl := (pure_eq_ok.mp h).2
    exact Reach.refl s
  | cons step rest ih =>
    obtain ⟨u, s₁, hfirst, hrest⟩ := bind_eq_ok.mp h
    exact (reach_code (l := .step step.1 (worlds step.2)) hfirst).trans (ih hrest)

/-- The start of every step is reached from the state after the first trust stores. -/
theorem reach_runUpTo {worlds : RunWorld} {n : Nat} (h : runUpTo setting worlds n s = .ok () s') :
    ∃ s₁ fields, pushTrustedPeers setting worlds.links worlds.salt s = .ok () s₁ ∧
      Reach (workStep setting) anyStep
        { s₁ with events := s₁.events ++ [{ type := "trust.peers_resolved", fields }] } s' := by
  obtain ⟨u, s₁, hpush, h⟩ := bind_eq_ok.mp h
  obtain ⟨u, s₂, hemit, h⟩ := bind_eq_ok.mp h
  obtain ⟨u, s₃, heager, hsteps⟩ := bind_eq_ok.mp h
  have hbegin : Reach (workStep setting) anyStep s₂ s₃ := by
    unfold eagerTrust at heager
    split at heager
    · exact reach_handshakePairs heager
    · obtain rfl := (pure_eq_ok.mp heager).2
      exact Reach.refl _
  obtain rfl := emit_eq_ok hemit
  exact ⟨s₁, _, hpush, hbegin.trans (reach_runSteps hsteps)⟩

end

end AitpPlayground.Proofs.Runner
