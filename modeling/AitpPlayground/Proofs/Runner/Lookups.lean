import AitpPlayground.Runner.Lookups
import AitpPlayground.Proofs.Runner.Faults

/-!
# `AitpPlayground.Proofs.Runner.Lookups`: a step whose references are right

When the agents that a step looks up are agents of the scenario, it raises no `KeyError`
(`safe_dispatchStep`), save for a field that is missing from the answer of an agent, and for
what the decoding of a certificate raises. So `lookups` leaves no read of `running` and
`peers` out.
-/

set_option autoImplicit false

namespace AitpPlayground.Proofs.Runner

open AitpPlayground.Lib
open AitpPlayground.Lib.Act
open AitpPlayground.Agents
open AitpPlayground.Hosting
open AitpPlayground.Registry
open AitpPlayground.Runner

/-! ### Exceptions -/

/-- The fields that `export_session_bundle` takes out of the answer of an agent. -/
def answerFields : List String := ["aid", "tct_token"]

/-- This exception is no `KeyError` of a lookup by an id. -/
def Harmless (world : StepWorld) (exc : RunExc) : Prop :=
  ∀ key, exc = ofPyErr (.keyError key) →
    (∃ field ∈ answerFields, exc = ofPyErr (.keyError field)) ∨ world.spki = .error exc

/-- A call that raises no `KeyError`. -/
def Keyless {α : Type} (r : Except PyErr α) : Prop := ∀ key, r ≠ .error (.keyError key)

section
variable {α β : Type}

/-- A value raises nothing. -/
theorem keyless_ok (a : α) : Keyless (.ok a : Except PyErr α) := nofun

/-- An exception that is no `KeyError`. -/
theorem keyless_error {exc : PyErr} (h : ∀ key, exc ≠ .keyError key) :
    Keyless (.error exc : Except PyErr α) := fun key heq => h key (Except.error.inj heq)

/-- A computation raises no `KeyError` when neither of its parts does. -/
theorem keyless_bind {r : Except PyErr α} {f : α → Except PyErr β} (hr : Keyless r)
    (hf : ∀ a, Keyless (f a)) : Keyless (r >>= f) := by
  cases r with
  | ok a => exact hf a
  | error exc => exact fun key heq => hr key (congrArg Except.error (Except.error.inj heq))

/-- `x.get(key)` of another value than an object is an `AttributeError`. -/
theorem keyless_member (x : Json) (key : String) : Keyless (x.member key) := by
  unfold Json.member
  split
  · exact nofun
  · exact nofun

/-- `x.get(key, default)` of another value than an object is an `AttributeError`. -/
theorem keyless_memberOr (x default : Json) (key : String) :
    Keyless (x.memberOr key default) := by
  unfold Json.memberOr
  split
  · exact nofun
  · exact nofun

/-- The assignment of a member is a `TypeError` there. -/
theorem keyless_setItem (x value : Json) (key : String) : Keyless (x.setItem key value) := by
  unfold Json.setItem
  split
  · exact nofun
  · exact nofun

/-- The iteration over a value that has no items raises a `TypeError`. -/
theorem keyless_iter (x : Json) : Keyless x.iter := by
  cases x <;> exact nofun

/-- A value that cannot be hashed is a `TypeError`. -/
theorem keyless_hashKey (x : Json) : Keyless x.hashKey := by
  cases x <;> exact nofun

/-- The scan of the outputs for a chain reads members only. -/
theorem keyless_scanChains (holder issuer : String) (outs : List Json) :
    Keyless (scanChains holder issuer outs) := by
  induction outs with
  | nil => exact keyless_ok _
  | cons out rest ih =>
    unfold scanChains
    split
    · exact ih
    · refine keyless_bind (keyless_member _ _) fun _ => ?_
      split
      · refine keyless_bind (keyless_member _ _) fun _ => ?_
        split
        · exact keyless_bind (keyless_memberOr _ _ _) keyless_iter
        · exact ih
      · exact ih

/-- The scan of the manifests finds the manifest of every agent. -/
theorem keyless_scanManifests {capability : String}
    {manifests : Dict String (Option AgentManifest)} {specs : List AgentSpec}
    (h : ∀ spec ∈ specs, (manifests.get? spec.id).isSome) :
    Keyless (scanManifests capability manifests specs) := by
  induction specs with
  | nil => exact keyless_ok _
  | cons spec rest ih =>
    unfold scanManifests
    split
    case h_1 hnone =>
      have hsome := h spec (List.mem_cons_self ..)
      rw [hnone] at hsome
      cases hsome
    case h_2 => exact nofun
    case h_3 =>
      split
      · exact keyless_ok _
      · exact ih fun spec hspec => h spec (List.mem_cons_of_mem _ hspec)

/-- The search for the holder of a capability raises no `KeyError`. -/
theorem keyless_findCapabilityHolder {capability : String} {scenario : ScenarioVersion}
    {manifests : Dict String (Option AgentManifest)} {prefer : Option String}
    (h : ∀ spec ∈ scenario.spec.agents, (manifests.get? spec.id).isSome) :
    Keyless (findCapabilityHolder capability scenario manifests prefer) := by
  unfold findCapabilityHolder
  simp only
  split
  · exact keyless_ok _
  · exact keyless_scanManifests h

variable {py : PyLib}

/-- A body that is not JSON is a `ValueError`. -/
theorem keyless_json (hpy : py.Documented) (r : Reply) : Keyless (r.json py) := by
  unfold Reply.json
  split
  · exact nofun
  · intro key heq
    rcases hpy.jsonLoads heq with ⟨msg, code, hexc⟩ | ⟨msg, hexc⟩
    · cases hexc
    · cases hexc

/-- A body that need not be JSON. -/
theorem keyless_jsonOrRaw {setting : RunSetting} (hpy : setting.py.Documented) (r : Reply) :
    Keyless (jsonOrRaw setting r) := by
  unfold jsonOrRaw
  split
  case h_1 => exact keyless_ok _
  case h_2 => exact keyless_ok _
  case h_3 exc _ heq =>
    exact heq ▸ keyless_json hpy r

/-- The probe of a redemption reads the body and its members. -/
theorem keyless_redeemProbe {setting : RunSetting} (hpy : setting.py.Documented) (expected : Int)
    (r : Reply) : Keyless (redeemProbe setting expected r) := by
  unfold redeemProbe
  simp only
  split
  case h_1 => exact keyless_ok _
  case h_2 => exact keyless_ok _
  case h_3 exc _ heq => exact keyless_bind (heq ▸ keyless_json hpy r) fun _ => keyless_ok _

/-- `int` of a value raises no `KeyError`. -/
theorem keyless_int (hpy : py.Documented) (x : Json) : Keyless (py.int x) := by
  intro key heq
  unfold PyLib.int at heq
  split at heq
  case h_6 =>
    obtain ⟨msg, code, hexc⟩ := hpy.intOfStr heq
    cases hexc
  all_goals cases heq

end

section
variable {world : StepWorld}

/-- The errors of the playground are harmless. -/
theorem harmless_playground (code message : String) : Harmless world (.playground code message) :=
  nofun

/-- An exception by another name than `KeyError` is harmless. -/
theorem harmless_other {name : String} (h : name ≠ "KeyError") (text : String) :
    Harmless world (.other name text) := by
  intro key heq
  cases heq
  exact absurd rfl h

/-- An exception of Python that is no `KeyError` is harmless in a step. -/
theorem harmless_ofPyErr {exc : PyErr} (h : ∀ key, exc ≠ .keyError key) :
    Harmless world (ofPyErr exc) := by
  cases exc with
  | keyError key => exact absurd rfl (h key)
  | _ => exact harmless_other (by decide) _

end

/-- A call in the runner of which every exception is harmless. -/
def Harmlessly {α : Type} (world : StepWorld) (r : Except RunExc α) : Prop :=
  ∀ exc, r = .error exc → Harmless world exc

section
variable {α β : Type} {world : StepWorld}

/-- A value raises nothing. -/
theorem harmlessly_ok (a : α) : Harmlessly world (.ok a : Except RunExc α) := nofun

/-- A harmless exception is raised harmlessly. -/
theorem harmlessly_error {exc : RunExc} (h : Harmless world exc) :
    Harmlessly world (.error exc : Except RunExc α) := fun _ heq => Except.error.inj heq ▸ h

/-- A computation raises only what is harmless when its parts do. -/
theorem harmlessly_bind {r : Except RunExc α} {f : α → Except RunExc β} (hr : Harmlessly world r)
    (hf : ∀ a, Harmlessly world (f a)) : Harmlessly world (r >>= f) := by
  cases r with
  | ok a => exact hf a
  | error exc => exact harmlessly_error (hr exc rfl)

/-- Without a `KeyError`, what Python raises is harmless. -/
theorem harmlessly_raised {r : Except PyErr α} (h : Keyless r) : Harmlessly world (raised r) := by
  cases r with
  | ok a => exact harmlessly_ok a
  | error exc =>
    exact harmlessly_error (harmless_ofPyErr fun key heq => h key (congrArg Except.error heq))

/-- A field that is no text is a `ValidationError`. -/
theorem harmlessly_textField (value : Json) : Harmlessly world (textField value) := by
  unfold textField
  split
  · exact harmlessly_ok _
  · exact harmlessly_ok _
  · exact harmlessly_error (harmless_other (by decide) _)

/-- A list with an item that is no text is a `ValidationError`. -/
theorem harmlessly_textsField (items : List Json) : Harmlessly world (textsField items) := by
  refine harmlessly_bind ?_ fun _ => harmlessly_ok _
  induction items with
  | nil => exact harmlessly_ok _
  | cons item items ih =>
    rw [List.mapM_cons]
    refine harmlessly_bind ?_ fun _ => harmlessly_bind ih fun _ => harmlessly_ok _
    split
    · exact harmlessly_ok _
    · exact harmlessly_error (harmless_other (by decide) _)

end

/-! ### Moves -/

section
variable (setting : RunSetting)

/-- An agent of the scenario has this id. -/
def IsAgent (agentId : String) : Prop := ∃ spec ∈ setting.scenario.spec.agents, spec.id = agentId

/-- Every agent stays in the table, and no `KeyError` of a lookup is raised. -/
abbrev SafeStep {α : Type} (world : StepWorld) (x : Steps α) : Prop :=
  Safe (Staffed setting) (Harmless world) x

end

section
variable {setting : RunSetting} {world : StepWorld} {step : WorkflowStep}

/-- A computation without a `KeyError` is a safe step. -/
theorem safe_lift {α : Type} {r : Except PyErr α} (h : Keyless r) :
    SafeStep setting world (Steps.lift r) :=
  safe_ofExcept fun _ hexc => harmless_ofPyErr fun key heq => h key (heq ▸ hexc)

/-- The lookup of an agent of the scenario finds it. -/
theorem safe_runningAgent {agentId : String} (h : IsAgent setting agentId) :
    SafeStep setting world (Steps.runningAgent agentId) := by
  refine safe_get_bind fun s hs => safe_orThrow ?_
  obtain ⟨spec, hspec, rfl⟩ := h
  obtain ⟨ra, hra⟩ := hs.running spec hspec
  exact Option.isSome_of_eq_some hra

/-- The lookup of the peer entry of an agent of the scenario finds it. -/
theorem safe_peerUrl (hpeers : ∀ spec ∈ setting.scenario.spec.agents,
    (setting.peers.get? spec.id).isSome) {agentId : String} (h : IsAgent setting agentId) :
    SafeStep setting world (peerUrl setting agentId) := by
  obtain ⟨spec, hspec, rfl⟩ := h
  exact safe_orThrow (hpeers spec hspec)

/-- A step that leaves the running agents keeps the staff. -/
theorem staffed_running {s s' : Workflow} (h : Staffed setting s)
    (hrunning : s'.running = s.running) :
    Staffed setting s' := ⟨hrunning ▸ h.running, h.peers⟩

/-- A change that leaves the table alone. -/
theorem safe_change {f : Workflow → Workflow} (h : ∀ s, (f s).running = s.running) :
    SafeStep setting world (modify f) := safe_modify fun s hs => staffed_running hs (h s)

/-- An event changes no agent. -/
theorem safe_emit (type : String) (fields : List (String × Json)) :
    SafeStep setting world (Steps.emit type fields) := safe_change fun _ => rfl

/-- An output changes no agent. -/
theorem safe_output (stepId : String) (value : Json) :
    SafeStep setting world (Steps.output stepId value) := safe_change fun _ => rfl

/-- A refusal is an error of the playground. -/
theorem safe_refuse {α : Type} (text : String) :
    SafeStep setting world (Steps.refuse text : Steps α) := safe_throw (harmless_playground _ _)

/-- The refusal of a step is an error of the playground. -/
theorem safe_refuseStep {α : Type} (text : String) :
    SafeStep setting world (refuseStep step text : Steps α) := safe_refuse _

/-- `raise_for_status` raises an exception of `httpx`. -/
theorem safe_raiseForStatus (r : Reply) : SafeStep setting world (Steps.raiseForStatus r) :=
  safe_ite (safe_pure ()) (safe_throw (harmless_other (by decide) _))

/-- A call that does not get through raises an exception of `httpx`. -/
theorem safe_directCall (answer : HttpAnswer) :
    SafeStep setting world (Steps.directCall answer) := by
  cases answer with
  | ok r => exact safe_pure _
  | error text => exact safe_throw (harmless_other (by decide) _)

/-- A call of an agent changes the agent's own state, not who runs. -/
theorem safe_callAgent (agentId : String) (link : Link) (c : AdminCall) :
    SafeStep setting world (callAgent setting agentId link c) := by
  unfold callAgent
  split
  · exact safe_throw (harmless_other (by decide) _)
  · refine safe_get_bind fun s hs => ?_
    split
    · exact safe_throw (harmless_other (by decide) _)
    · refine safe_bind (safe_set (staffed_running hs rfl)) fun _ => ?_
      split
      · exact safe_throw (harmless_other (by decide) _)
      · exact safe_pure _

/-- A call about a held token is a call of the agent, with its record. -/
theorem safe_tokenCall (holder issuer : String) (kind : TokenOpKind) (link : Link) (c : AdminCall)
    (accepts : Reply → Bool) :
    SafeStep setting world (tokenCall setting holder issuer kind link c accepts) := by
  refine safe_bind safe_get fun s => ?_
  refine safe_bind (safe_tryCatch (Q := Harmless world) (safe_callAgent _ _ _)
    fun exc hexc => ?_) fun _ => ?_
  · exact safe_bind (safe_change fun _ => rfl) fun _ => safe_throw hexc
  · exact safe_bind (safe_change fun _ => rfl) fun _ => safe_pure _

/-- The end of a step is an output and an event. -/
theorem safe_stepComplete (result : Json) : SafeStep setting world (stepComplete step result) :=
  safe_emit _ _

/-- A step that is skipped is an output and an event. -/
theorem safe_skipWithoutCp (recorded : Json) :
    SafeStep setting world (skipWithoutCp step recorded) :=
  safe_bind (safe_emit _ _) fun _ => safe_output _ _

/-- The end of most branches. -/
theorem safe_complete (value result : Json) :
    SafeStep setting world (do
      Steps.output step.id value
      stepComplete step result : Steps Unit) :=
  safe_bind (safe_output _ _) fun _ => safe_stepComplete _

/-- A call without trust raises nothing but what the link raises. -/
theorem safe_callWithoutTrust (caller target capability : String) (expectStatus : Option Int)
    (world' : StepWorld) :
    SafeStep setting world
      (callWithoutTrust setting caller target capability expectStatus world') := by
  refine safe_bind (safe_emit _ _) fun _ => safe_bind (safe_directCall _) fun _ => ?_
  exact safe_bind (safe_emit _ _) fun _ => safe_pure _

/-- A new AID replaces that of an agent that is in the table. -/
theorem safe_setAid (agentId : String) (ra : RunningAgent) (newAid : String) :
    SafeStep setting world (setAid agentId ra newAid) := by
  refine safe_modify fun s hs => ⟨fun spec hspec => ?_, hs.peers⟩
  show ∃ ra', (s.running.set agentId _).get? spec.id = some ra'
  rw [Dict.get?_set]
  split
  case isTrue => exact ⟨_, rfl⟩
  case isFalse => exact hs.running spec hspec

/-- The push of the peers raises only what the calls of the agents raise. -/
theorem safe_pushTrustedPeers (links : Nat → Link) (salt : Nat) :
    SafeStep setting world (pushTrustedPeers setting links salt) := by
  refine safe_bind safe_get fun s => safe_bind ?_ fun _ => safe_emit _ _
  induction s.running.keys.zipIdx with
  | nil => exact safe_pure ()
  | cons agent rest ih =>
    refine safe_bind (safe_callAgent _ _ _) fun _ => ?_
    exact safe_bind (safe_raiseForStatus _) fun _ => ih

/-- A refresh raises only what its request raises. -/
theorem safe_refreshAgent (agentId : String) (n : Nat) (world' : StepWorld) :
    SafeStep setting world (refreshAgent agentId n world') :=
  safe_bind (safe_change fun _ => rfl) fun _ => safe_directCall _

/-- The fields that an agent has to have in its answer. -/
theorem safe_item (data : Json) {key : String} (h : key ∈ answerFields) :
    SafeStep setting world (Steps.lift (data.item key)) := by
  refine safe_ofExcept fun exc hexc => ?_
  unfold Json.item at hexc
  split at hexc
  · cases hexc
    exact harmless_ofPyErr nofun
  · split at hexc
    · cases hexc
    · cases hexc
      exact fun _ _ => .inl ⟨key, h, rfl⟩

section
variable (hpy : setting.py.Documented)
include hpy

/-- The body of a reply is read without a `KeyError`. -/
theorem safe_json (r : Reply) : SafeStep setting world (Steps.lift (r.json setting.py)) :=
  safe_lift (keyless_json hpy r)

/-- A request to an agent is a call and its status. -/
theorem safe_requestAgent (agentId : String) (link : Link) (c : AdminCall) :
    SafeStep setting world (requestAgent setting agentId link c) := by
  refine safe_bind (safe_callAgent _ _ _) fun _ => ?_
  exact safe_bind (safe_raiseForStatus _) fun _ => safe_json hpy _

/-- A request that bypasses the agents is a call and its status. -/
theorem safe_requestDirect (answer : HttpAnswer) :
    SafeStep setting world (requestDirect setting answer) := by
  refine safe_bind (safe_directCall _) fun _ => ?_
  exact safe_bind (safe_raiseForStatus _) fun _ => safe_json hpy _

/-- The reply of a handshake is read harmlessly. -/
theorem harmlessly_established (r : Reply) : Harmlessly world (established setting r) := by
  unfold established
  split
  · refine harmlessly_bind (harmlessly_raised (keyless_json hpy r)) fun _ => ?_
    refine harmlessly_bind
      (harmlessly_raised (keyless_bind (keyless_memberOr _ _ _) keyless_iter)) fun _ => ?_
    refine harmlessly_bind (harmlessly_raised (keyless_member _ _)) fun _ => ?_
    refine harmlessly_bind (harmlessly_textsField _) fun _ => ?_
    refine harmlessly_bind (harmlessly_textField _) fun _ => ?_
    exact harmlessly_ok _
  · exact harmlessly_error (harmless_other (by decide) _)

/-- A handshake looks up no agent. -/
theorem safe_ensureTrust (initiator target : String) (url : Option String)
    (requestedGrants : Option (List String)) (world' : StepWorld) :
    SafeStep setting world (ensureTrust setting initiator target url requestedGrants world') := by
  refine safe_bind (safe_emit _ _) fun _ => safe_bind (safe_tokenCall _ _ _ _ _ _) fun _ => ?_
  refine safe_bind (safe_ofExcept (harmlessly_established hpy _)) fun _ => safe_emit _ _

/-- A probe with a held token is one call. -/
theorem safe_probeWithHeldTct (caller target : String) (port : Int) (capability : String)
    (payload : Json) (expectStatus : Option Int) (world' : StepWorld) :
    SafeStep setting world
      (probeWithHeldTct setting caller target port capability payload expectStatus world') := by
  refine safe_bind (safe_emit _ _) fun _ => safe_bind (safe_callAgent _ _ _) fun _ => ?_
  refine safe_bind (safe_raiseForStatus _) fun _ => safe_bind (safe_json hpy _) fun _ => ?_
  refine safe_bind (safe_lift ?_) fun _ => safe_bind (safe_emit _ _) fun _ => safe_pure _
  split
  · exact keyless_bind (keyless_int hpy _) fun _ => keyless_ok _
  · exact keyless_ok _

/-! ### Branches -/

/-- The execution of a capability looks up its target only. -/
theorem safe_executeCapability (agent : String) {target : String} (capability : String)
    (payload : Json) (world' : StepWorld) (h : IsAgent setting target) :
    SafeStep setting world (executeCapability setting agent target capability payload world') := by
  refine safe_ite ?_ ?_
  · refine safe_bind (safe_directCall _) fun r => ?_
    refine safe_ite (safe_lift (keyless_jsonOrRaw hpy r)) ?_
    refine safe_bind (safe_lift ?_) fun _ => safe_refuse _
    split
    case h_1 => exact keyless_ok _
    case h_2 => exact keyless_ok _
    case h_3 exc _ heq =>
      exact keyless_error fun key hexc => keyless_json hpy r key (hexc ▸ heq)
  · refine safe_bind (safe_runningAgent h) fun _ => safe_bind (safe_callAgent _ _ _) fun r => ?_
    refine safe_bind (safe_raiseForStatus _) fun _ => ?_
    refine safe_bind (safe_lift (keyless_jsonOrRaw hpy r)) fun _ => ?_
    split
    · exact safe_refuse _
    · exact safe_pure _

/-- The refreshes look up the agents of the list, by induction on it. -/
theorem safe_refreshAgents (world' : StepWorld) (agents : List (String × Nat))
    (counts : Dict String Json) (h : ∀ agent ∈ agents, IsAgent setting agent.1) :
    SafeStep setting world (refreshAgents setting world' agents counts) := by
  induction agents generalizing counts with
  | nil => exact safe_pure _
  | cons agent rest ih =>
    have hrest := fun agent hagent => h agent (List.mem_cons_of_mem _ hagent)
    refine safe_bind (safe_runningAgent (h agent (List.mem_cons_self ..))) fun _ => ?_
    refine safe_bind (safe_refreshAgent _ _ _) fun rr => ?_
    refine safe_bind (safe_lift ?_) fun _ => ih _ hrest
    split
    · refine keyless_bind (keyless_json hpy _) fun _ => ?_
      exact keyless_bind (keyless_memberOr _ _ _) fun _ => keyless_int hpy _
    · exact keyless_ok _

/-- A revocation looks up the issuer, and through the control plane the agents to refresh. -/
theorem safe_revokeJti {issuer : String} (jti : String) (world' : StepWorld)
    (hissuer : IsAgent setting issuer)
    (hrefresh : step.viaCp.getD false = true →
      ∀ agentId ∈ step.refreshAgents.getD [], IsAgent setting agentId) :
    SafeStep setting world (revokeJti setting step issuer jti world') := by
  refine safe_ite (safe_refuseStep _) (safe_ite (safe_skipWithoutCp _) ?_)
  refine safe_bind (safe_ite ?_ (safe_pure ())) fun _ => ?_
  · refine safe_bind (safe_runningAgent hissuer) fun _ => ?_
    exact safe_bind (safe_callAgent _ _ _) fun _ => safe_raiseForStatus _
  refine safe_bind ?_ fun _ => safe_complete _ _
  unfold revokeResult
  split
  case isFalse => exact safe_pure _
  case isTrue hvia =>
    refine safe_bind (safe_runningAgent hissuer) fun _ => ?_
    refine safe_bind (safe_refreshAgent _ _ _) fun pr => ?_
    refine safe_bind (safe_lift ?_) fun _ => safe_bind (safe_emit _ _) fun _ => ?_
    · split
      · exact keyless_json hpy _
      · exact keyless_ok _
    refine safe_bind (safe_refreshAgents hpy _ _ _ fun agent hagent => ?_) fun _ => safe_pure _
    have hmem := List.fst_mem_of_mem_zipIdx hagent
    split at hmem
    · cases List.mem_singleton.mp hmem
      exact hissuer
    · exact hrefresh hvia _ hmem

/-- The tokens of a bundle look up its participants, by induction on them. -/
theorem safe_participantTokens (port : Int) (world' : StepWorld) (agents : List (String × Nat))
    (tokens : List Json) (h : ∀ agent ∈ agents, IsAgent setting agent.1) :
    SafeStep setting world (participantTokens setting port world' agents tokens) := by
  induction agents generalizing tokens with
  | nil => exact safe_pure _
  | cons agent rest ih =>
    have hrest := fun agent hagent => h agent (List.mem_cons_of_mem _ hagent)
    refine safe_bind (safe_runningAgent (h agent (List.mem_cons_self ..))) fun _ => ?_
    refine safe_bind (safe_requestAgent hpy _ _ _) fun data => ?_
    refine safe_bind (safe_item data (by decide)) fun _ => ?_
    exact safe_bind (safe_item data (by decide)) fun _ => ih _ hrest

/-! ### Branches -/

variable (hpeers : ∀ spec ∈ setting.scenario.spec.agents, (setting.peers.get? spec.id).isSome)
variable (hmanifests : ∀ spec ∈ setting.scenario.spec.agents,
  (setting.manifests.get? spec.id).isSome)
include hpeers

/-- A `delegate` step looks up its delegator and its delegatee. -/
theorem safe_dispatchDelegate
    (h : ∀ id, .agent (some id) ∈ typeLookups setting .delegate step → IsAgent setting id) :
    SafeStep setting world (dispatchDelegate setting step world) := by
  unfold dispatchDelegate
  split
  case h_2 => exact safe_refuseStep _
  case h_1 delegator delegatee viaPeer hdelegator hdelegatee hvia =>
    simp only [typeLookups, hdelegator, hdelegatee, hvia] at h
    refine safe_bind (safe_runningAgent (h delegator (by simp))) fun _ => ?_
    refine safe_bind (safe_runningAgent (h viaPeer (by simp))) fun _ => ?_
    refine safe_bind (safe_peerUrl hpeers (h delegatee (by simp))) fun _ => ?_
    refine safe_ite (safe_refuseStep _) (safe_bind (safe_emit _ _) fun _ => ?_)
    refine safe_bind (safe_requestAgent hpy _ _ _) fun _ => safe_bind safe_get fun _ => ?_
    refine safe_bind (safe_lift (keyless_scanChains _ _ _)) fun _ => ?_
    refine safe_bind (safe_lift (keyless_setItem _ _ _)) fun _ => ?_
    refine safe_bind (safe_output _ _) fun _ => ?_
    exact safe_bind (safe_lift (keyless_member _ _)) fun _ => safe_stepComplete _

/-- A `handshake` step looks up its initiator and its responder. -/
theorem safe_dispatchHandshake
    (h : ∀ id, .agent (some id) ∈ typeLookups setting .handshake step → IsAgent setting id) :
    SafeStep setting world (dispatchHandshake setting step world) := by
  unfold dispatchHandshake
  split
  case h_2 => exact safe_refuseStep _
  case h_1 initiator responder hinitiator hresponder =>
    simp only [typeLookups, hinitiator, hresponder] at h
    refine safe_bind (safe_runningAgent (h initiator (by simp))) fun _ => ?_
    refine safe_bind (safe_runningAgent (h responder (by simp))) fun _ => ?_
    refine safe_bind (safe_peerUrl hpeers (h responder (by simp))) fun _ => ?_
    refine safe_bind (safe_ensureTrust hpy _ _ _ _ _) fun _ => ?_
    exact safe_bind (safe_output _ _) fun _ => safe_emit _ _

/-- A `redeem_delegation` step looks up its delegatee and its target. -/
theorem safe_dispatchRedeemDelegation
    (h : ∀ id, .agent (some id) ∈ typeLookups setting .redeemDelegation step →
      IsAgent setting id) :
    SafeStep setting world (dispatchRedeemDelegation setting step world) := by
  unfold dispatchRedeemDelegation
  split
  case h_2 => exact safe_refuseStep _
  case h_1 delegatee target viaDelegation hdelegatee htarget hvia =>
    simp only [typeLookups, hdelegatee, htarget, hvia] at h
    refine safe_bind safe_get fun _ => ?_
    split
    case h_2 => exact safe_refuseStep _
    case h_1 =>
      refine safe_bind ?_ fun r => ?_
      · refine safe_bind (safe_runningAgent (h delegatee (by simp))) fun _ => ?_
        refine safe_bind (safe_runningAgent (h target (by simp))) fun _ => ?_
        refine safe_bind (safe_peerUrl hpeers (h target (by simp))) fun url => ?_
        refine safe_bind (safe_lift ?_) fun _ => ?_
        · cases url with
          | none => exact nofun
          | some url => exact keyless_ok _
        · exact safe_bind (safe_emit _ _) fun _ => safe_tokenCall _ _ _ _ _ _
      · unfold recordAnswer
        split
        · exact safe_bind (safe_lift (keyless_redeemProbe hpy _ r)) fun _ => safe_complete _ _
        · refine safe_bind (safe_raiseForStatus _) fun _ => safe_bind (safe_json hpy _) fun _ => ?_
          refine safe_bind (safe_lift (keyless_iter _)) fun _ => ?_
          exact safe_bind (safe_lift (keyless_setItem _ _ _)) fun _ => safe_complete _ _

omit hpeers in
/-- A `revoke_tct` step looks up its issuer and the agents to refresh. -/
theorem safe_dispatchRevokeTct
    (h : ∀ id, .agent (some id) ∈ typeLookups setting .revokeTct step → IsAgent setting id) :
    SafeStep setting world (dispatchRevokeTct setting step world) := by
  unfold dispatchRevokeTct
  split
  case h_2 => exact safe_refuseStep _
  case h_1 issuer audience hissuer haudience =>
    simp only [typeLookups, hissuer, haudience] at h
    refine safe_bind safe_get fun _ => ?_
    split
    case h_2 => exact safe_refuseStep _
    case h_1 =>
      refine safe_revokeJti hpy _ _ (h issuer (by simp)) fun hvia agentId hagent => ?_
      exact h agentId (by simp [hvia, hagent])

omit hpeers in
/-- A `rotate_keys` step looks up its agent. -/
theorem safe_dispatchRotateKeys
    (h : ∀ id, .agent (some id) ∈ typeLookups setting .rotateKeys step → IsAgent setting id) :
    SafeStep setting world (dispatchRotateKeys setting step world) := by
  unfold dispatchRotateKeys
  split
  case h_2 => exact safe_refuseStep _
  case h_1 agent hagent =>
    simp only [typeLookups, hagent] at h
    refine safe_bind (safe_runningAgent (h agent (by simp))) fun _ => ?_
    refine safe_bind (safe_requestAgent hpy _ _ _) fun _ => ?_
    refine safe_bind (safe_lift ?_) fun newAid => safe_bind (safe_setAid _ _ _) fun _ => ?_
    · refine keyless_bind (keyless_member _ _) fun _ => ?_
      split
      · exact keyless_ok _
      · exact keyless_ok _
    refine safe_bind (safe_pushTrustedPeers _ _) fun _ => safe_bind (safe_output _ _) fun _ => ?_
    exact safe_bind (safe_emit _ _) fun _ => safe_stepComplete _

omit hpeers in
/-- An `export_session_bundle` step looks up its coordinator and its participants. -/
theorem safe_dispatchExportSessionBundle
    (h : ∀ id, .agent (some id) ∈ typeLookups setting .exportSessionBundle step →
      IsAgent setting id) :
    SafeStep setting world (dispatchExportSessionBundle setting step world) := by
  unfold dispatchExportSessionBundle
  split
  case h_2 => exact safe_refuseStep _
  case h_1 coordinator first others hcoordinator hparticipants =>
    simp only [typeLookups, hcoordinator, hparticipants] at h
    refine safe_bind (safe_runningAgent (h coordinator (by simp))) fun _ => ?_
    refine safe_bind (safe_participantTokens hpy _ _ _ _ fun agent hagent => ?_) fun _ => ?_
    · refine h agent.1 (List.mem_cons_of_mem _ (List.mem_map_of_mem ?_))
      exact List.fst_mem_of_mem_zipIdx hagent
    refine safe_bind (safe_requestAgent hpy _ _ _) fun _ => ?_
    refine safe_bind (safe_lift (keyless_setItem _ _ _)) fun _ => ?_
    refine safe_bind (safe_output _ _) fun _ => ?_
    refine safe_bind (safe_lift (keyless_memberOr _ _ _)) fun _ => ?_
    refine safe_bind (safe_lift (keyless_member _ _)) fun _ => ?_
    exact safe_bind (safe_emit _ _) fun _ => safe_stepComplete _

omit hpeers in
/-- A `verify_session_bundle` step looks up its verifier. -/
theorem safe_dispatchVerifySessionBundle
    (h : ∀ id, .agent (some id) ∈ typeLookups setting .verifySessionBundle step →
      IsAgent setting id) :
    SafeStep setting world (dispatchVerifySessionBundle setting step world) := by
  unfold dispatchVerifySessionBundle
  split
  case h_2 => exact safe_refuseStep _
  case h_1 verifier viaStep hverifier hvia =>
    simp only [typeLookups, hverifier, hvia] at h
    refine safe_bind safe_get fun s => safe_bind (safe_lift ?_) fun prior => ?_
    · unfold priorBundle
      split
      · exact keyless_ok _
      · refine keyless_bind (keyless_member _ _) fun _ => ?_
        exact keyless_bind (keyless_member _ _) fun _ => keyless_ok _
    refine safe_ite ?_ (safe_refuseStep _)
    refine safe_bind (safe_runningAgent (h verifier (by simp))) fun _ => ?_
    refine safe_bind (safe_requestAgent hpy _ _ _) fun _ => ?_
    refine safe_bind (safe_output _ _) fun _ => ?_
    refine safe_bind (safe_lift (keyless_member _ _)) fun _ => ?_
    refine safe_bind (safe_lift (keyless_memberOr _ _ _)) fun _ => ?_
    refine safe_bind (safe_lift (keyless_memberOr _ _ _)) fun _ => ?_
    exact safe_bind (safe_emit _ _) fun _ => safe_stepComplete _

omit hpeers in
/-- A `cp_provision_trust_anchor` step looks up its agent. -/
theorem safe_dispatchCpProvisionTrustAnchor
    (h : ∀ id, .agent (some id) ∈ typeLookups setting .cpProvisionTrustAnchor step →
      IsAgent setting id) :
    SafeStep setting world (dispatchCpProvisionTrustAnchor setting step world) := by
  unfold dispatchCpProvisionTrustAnchor
  split
  case h_2 => exact safe_refuseStep _
  case h_1 agent hagent =>
    simp only [typeLookups, hagent] at h
    refine safe_ite ?_ (safe_skipWithoutCp _)
    refine safe_bind (safe_runningAgent (h agent (by simp))) fun ra => ?_
    refine safe_bind ?_ fun manifest => safe_bind (safe_lift (keyless_member _ _)) fun _ => ?_
    · refine safe_bind (safe_directCall _) fun mr => safe_bind (safe_raiseForStatus _) fun _ => ?_
      split
      · exact safe_lift (keyless_bind (keyless_json hpy _) fun _ => keyless_memberOr _ _ _)
      · exact safe_bind (safe_emit _ _) fun _ => safe_refuse _
    refine safe_ite ?_ (safe_refuse _)
    refine safe_bind (safe_lift ?_) fun _ => ?_
    · refine keyless_bind (keyless_member _ _) fun _ => ?_
      split
      · exact keyless_member _ _
      · exact keyless_ok _
    refine safe_bind (safe_output _ _) fun _ => ?_
    exact safe_bind (safe_emit _ _) fun _ => safe_stepComplete _

omit hpeers in
include hmanifests in
/-- A `workflow` step looks up its agent and the holder of the capability. -/
theorem safe_dispatchWorkflow
    (h : ∀ id, .agent (some id) ∈ typeLookups setting .workflow step → IsAgent setting id) :
    SafeStep setting world (dispatchWorkflow setting step world) := by
  unfold dispatchWorkflow
  split
  case h_2 => exact safe_refuseStep _
  case h_1 agent capability hagent hcapability =>
    simp only [typeLookups, hagent, hcapability] at h
    refine safe_bind (safe_runningAgent (h agent (by simp))) fun _ => ?_
    have hkeyless : Keyless (findCapabilityHolder capability setting.scenario setting.manifests
        (some agent)) := keyless_findCapabilityHolder hmanifests
    cases hholder : findCapabilityHolder capability setting.scenario setting.manifests
        (some agent) with
    | error exc =>
      rw [hholder] at hkeyless
      rw [Steps.lift, ofExcept_error_bind]
      exact safe_throw (harmless_ofPyErr fun key heq => hkeyless key (congrArg Except.error heq))
    | ok holder =>
      rw [Steps.lift, ofExcept_ok_bind]
      cases holder with
      | none => exact safe_refuse _
      | some target =>
        have htarget : IsAgent setting target := h target (by simp [holderLookup, hholder])
        refine safe_bind safe_get fun _ => safe_bind (safe_emit _ _) fun _ => ?_
        exact safe_bind (safe_executeCapability hpy _ _ _ _ htarget) fun _ => safe_complete _ _

omit hpeers hpy in
/-- A call without trust looks up its target. -/
theorem safe_dispatchCallNoTrust
    (h : ∀ id, .agent (some id) ∈ typeLookups setting .capabilityCallNoTrust step →
      IsAgent setting id) :
    SafeStep setting world (dispatchCallNoTrust setting step world) := by
  unfold dispatchCallNoTrust
  split
  case h_2 => exact safe_refuseStep _
  case h_1 agent target capability hagent htarget hcapability =>
    simp only [typeLookups, hagent, htarget, hcapability] at h
    refine safe_bind (safe_runningAgent (h agent (by simp))) fun _ => ?_
    refine safe_bind (safe_runningAgent (h target (by simp))) fun _ => ?_
    exact safe_bind (safe_callWithoutTrust _ _ _ _ _) fun _ => safe_complete _ _

omit hpeers in
/-- A probe looks up the agent that calls and its target. -/
theorem safe_dispatchCapabilityProbe
    (h : ∀ id, .agent (some id) ∈ typeLookups setting .capabilityProbe step →
      IsAgent setting id) :
    SafeStep setting world (dispatchCapabilityProbe setting step world) := by
  unfold dispatchCapabilityProbe
  split
  case h_2 => exact safe_refuseStep _
  case h_1 agent target capability hagent htarget hcapability =>
    simp only [typeLookups, hagent, htarget, hcapability] at h
    refine safe_bind safe_get fun _ => ?_
    refine safe_bind (safe_runningAgent (h agent (by simp))) fun _ => ?_
    refine safe_bind (safe_runningAgent (h target (by simp))) fun _ => ?_
    exact safe_bind (safe_probeWithHeldTct hpy _ _ _ _ _ _ _) fun _ => safe_complete _ _

omit hpeers in
/-- A `renew_tct` step looks up its agent. -/
theorem safe_dispatchRenewTct
    (h : ∀ id, .agent (some id) ∈ typeLookups setting .renewTct step → IsAgent setting id) :
    SafeStep setting world (dispatchRenewTct setting step world) := by
  unfold dispatchRenewTct
  split
  case h_2 => exact safe_refuseStep _
  case h_1 agent viaPeer hagent hvia =>
    simp only [typeLookups, hagent, hvia] at h
    refine safe_bind (safe_runningAgent (h agent (by simp))) fun _ => ?_
    refine safe_bind (safe_runningAgent (h viaPeer (by simp))) fun _ => ?_
    refine safe_bind (safe_tokenCall _ _ _ _ _ _) fun r => ?_
    refine safe_bind (safe_raiseForStatus _) fun _ => safe_bind (safe_json hpy _) fun _ => ?_
    refine safe_bind (safe_output _ _) fun _ => ?_
    refine safe_bind (safe_ofExcept ?_) fun _ => ?_
    · exact harmlessly_bind (harmlessly_raised (keyless_member _ _)) harmlessly_textField
    refine safe_bind (safe_lift (keyless_member _ _)) fun _ => ?_
    exact safe_bind (safe_emit _ _) fun _ => safe_stepComplete _

omit hpeers in
/-- An `enroll_with_cp` step looks up its agent. -/
theorem safe_dispatchEnrollWithCp
    (h : ∀ id, .agent (some id) ∈ typeLookups setting .enrollWithCp step → IsAgent setting id) :
    SafeStep setting world (dispatchEnrollWithCp setting step world) := by
  unfold dispatchEnrollWithCp
  split
  case h_2 => exact safe_refuseStep _
  case h_1 agent hagent =>
    simp only [typeLookups, hagent] at h
    refine safe_ite ?_ (safe_skipWithoutCp _)
    refine safe_bind (safe_runningAgent (h agent (by simp))) fun _ => ?_
    refine safe_bind (safe_emit _ _) fun _ => safe_bind (safe_requestDirect hpy _) fun _ => ?_
    refine safe_bind (safe_output _ _) fun _ => safe_bind (safe_ofExcept ?_) fun _ => ?_
    · exact harmlessly_bind (harmlessly_raised (keyless_member _ _)) harmlessly_textField
    refine safe_bind (safe_lift (keyless_member _ _)) fun _ => ?_
    exact safe_bind (safe_emit _ _) fun _ => safe_stepComplete _

omit hpeers in
/-- A `tct_cache_stats` step looks up its agent. -/
theorem safe_dispatchTctCacheStats
    (h : ∀ id, .agent (some id) ∈ typeLookups setting .tctCacheStats step → IsAgent setting id) :
    SafeStep setting world (dispatchTctCacheStats setting step world) := by
  unfold dispatchTctCacheStats
  split
  case h_2 => exact safe_refuseStep _
  case h_1 agent hagent =>
    simp only [typeLookups, hagent] at h
    refine safe_bind (safe_runningAgent (h agent (by simp))) fun _ => ?_
    refine safe_bind (safe_requestDirect hpy _) fun _ => safe_bind (safe_output _ _) fun _ => ?_
    exact safe_bind (safe_emit _ _) fun _ => safe_stepComplete _

omit hpeers hpy in
/-- A `cp_delegation_tree` step looks up its agent. -/
theorem safe_dispatchCpDelegationTree
    (h : ∀ id, .agent (some id) ∈ typeLookups setting .cpDelegationTree step →
      IsAgent setting id) :
    SafeStep setting world (dispatchCpDelegationTree setting step world) := by
  unfold dispatchCpDelegationTree
  split
  case h_2 => exact safe_refuseStep _
  case h_1 agent hagent =>
    simp only [typeLookups, hagent] at h
    refine safe_ite ?_ (safe_skipWithoutCp _)
    refine safe_bind (safe_runningAgent (h agent (by simp))) fun _ => ?_
    refine safe_bind (safe_output _ _) fun _ => ?_
    exact safe_bind (safe_emit _ _) fun _ => safe_stepComplete _

omit hpeers hpy in
/-- A `cp_subscribe_webhook` step looks up no agent. -/
theorem safe_dispatchCpSubscribeWebhook :
    SafeStep setting world (dispatchCpSubscribeWebhook setting step world) := by
  refine safe_ite ?_ (safe_skipWithoutCp _)
  simp only
  split
  case h_2 => exact safe_bind (safe_emit _ _) fun _ => safe_output _ _
  case h_1 created hcreated =>
    refine safe_bind ?_ fun _ => safe_bind (safe_emit _ _) fun _ => safe_output _ _
    refine safe_bind safe_get fun _ => safe_bind (safe_lift ?_) fun _ => safe_change fun _ => rfl
    unfold rememberId
    split
    · exact keyless_bind (keyless_hashKey _) fun _ => keyless_ok _
    · exact keyless_ok _

omit hpeers hpy in
/-- A `spki_pin_check` step looks up no agent. -/
theorem safe_dispatchSpkiPinCheck :
    SafeStep setting world (dispatchSpkiPinCheck setting step world) := by
  unfold dispatchSpkiPinCheck
  split
  case h_2 => exact safe_refuseStep _
  case h_1 =>
    refine safe_bind (safe_ofExcept fun exc hexc _ _ => .inr hexc) fun check => ?_
    refine safe_bind (safe_output _ _) fun _ => safe_bind (safe_emit _ _) fun _ => ?_
    unfold expectPinned
    split
    · refine safe_ite ?_ (safe_stepComplete _)
      exact safe_bind (safe_emit _ _) fun _ => safe_refuseStep _
    · exact safe_stepComplete _

include hmanifests in
/-- The branch of every step type. -/
theorem safe_dispatchType (type : StepType)
    (h : ∀ id, .agent (some id) ∈ typeLookups setting type step → IsAgent setting id) :
    SafeStep setting world (dispatchType setting type step world) := by
  cases type with
  | capabilityCallNoTrust => exact safe_dispatchCallNoTrust h
  | capabilityProbe => exact safe_dispatchCapabilityProbe hpy h
  | handshake => exact safe_dispatchHandshake hpy hpeers h
  | delegate => exact safe_dispatchDelegate hpy hpeers h
  | redeemDelegation => exact safe_dispatchRedeemDelegation hpy hpeers h
  | revokeTct => exact safe_dispatchRevokeTct hpy h
  | enrollWithCp => exact safe_dispatchEnrollWithCp hpy h
  | cpSubscribeWebhook => exact safe_dispatchCpSubscribeWebhook
  | cpProvisionTrustAnchor => exact safe_dispatchCpProvisionTrustAnchor hpy h
  | cpDelegationTree => exact safe_dispatchCpDelegationTree h
  | renewTct => exact safe_dispatchRenewTct hpy h
  | tctCacheStats => exact safe_dispatchTctCacheStats hpy h
  | exportSessionBundle => exact safe_dispatchExportSessionBundle hpy h
  | verifySessionBundle => exact safe_dispatchVerifySessionBundle hpy h
  | spkiPinCheck => exact safe_dispatchSpkiPinCheck
  | rotateKeys => exact safe_dispatchRotateKeys hpy h
  | workflow => exact safe_dispatchWorkflow hpy hmanifests h

end

/-! ### Steps with a fault -/

/-- A change of the run that keeps every agent in the table. -/
def KeepsStaff (setting : RunSetting) (s s' : Workflow) : Prop :=
  Staffed setting s → Staffed setting s'

instance : Std.Refl (KeepsStaff setting) := ⟨fun _ h => h⟩

instance : IsTrans Workflow (KeepsStaff setting) := ⟨fun _ _ _ h h' hs => h' (h hs)⟩

/-- The rules by which the token steps keep the staff. -/
theorem tokenRules_keepsStaff (setting : RunSetting) (stepId : String) :
    TokenRules setting stepId (KeepsStaff setting) where
  emit _ _ _ hs := staffed_running hs rfl
  output _ _ hs := staffed_running hs rfl
  webhook _ _ _ hs := staffed_running hs rfl
  call _ _ _ _ _ _ hs := staffed_running hs rfl
  refresh _ _ _ _ _ hs := staffed_running hs rfl
  established _ _ hs := staffed_running hs rfl
  tokens _ _ _ _ _ _ hs := staffed_running hs rfl
  note _ _ hs := staffed_running hs rfl

/-- The action of a fault may raise anything. -/
theorem safe_swallow {x : Steps Unit} (h : Within (KeepsStaff setting) x) :
    SafeStep setting world (swallow x) := by
  refine safe_tryCatch (Q := fun _ => True) (safe_bind ?_ fun _ => safe_pure _)
    fun _ _ => safe_pure _
  exact fun s hs => ⟨h s hs, fun _ _ _ => trivial⟩

/-- The target of a fault is found among the agents, not by a key. -/
theorem keyless_faultTarget (type : StepType) : Keyless (faultTarget setting step type) := by
  have htable : ∀ spec ∈ setting.scenario.spec.agents,
      ((Dict.ofList (setting.scenario.spec.agents.map fun a =>
        (a.id, (none : Option AgentManifest)))).get? spec.id).isSome := by
    intro spec hspec
    rw [← Dict.mem_keys_iff]
    exact Dict.mem_keys_ofList (List.mem_map_of_mem hspec)
  unfold faultTarget
  split
  case h_1 => exact keyless_ok _
  case h_4 => exact keyless_ok _
  case h_5 => exact keyless_ok _
  case h_6 => exact keyless_ok _
  all_goals
    split
    · exact keyless_ok _
    · exact keyless_bind (keyless_findCapabilityHolder htable) fun _ => keyless_ok _

/-- A step with a fault looks up what its fault names. -/
theorem safe_dispatchFaultInjected (type : StepType) (fault : StepFault)
    (h : ∀ id, .agent (some id) ∈ faultLookups setting type step → IsAgent setting id) :
    SafeStep setting world (dispatchFaultInjected setting step type fault world) := by
  have hkeyless : Keyless (faultTarget setting step type) := keyless_faultTarget type
  unfold dispatchFaultInjected
  cases htarget : faultTarget setting step type with
  | error exc =>
    rw [htarget] at hkeyless
    rw [Steps.lift, ofExcept_error_bind]
    exact safe_throw (harmless_ofPyErr fun key heq => hkeyless key (congrArg Except.error heq))
  | ok found =>
    rw [Steps.lift, ofExcept_ok_bind]
    split
    case h_1 => exact safe_refuseStep _
    case h_2 target hfilter =>
      obtain ⟨hfound, hpeer⟩ := Option.filter_eq_some_iff.mp hfilter
      have hagent : IsAgent setting target := by
        refine h target ?_
        unfold faultLookups
        rw [htarget, hfound]
        exact List.mem_cons_self ..
      refine safe_bind (safe_orThrow hpeer) fun url => ?_
      refine safe_bind (safe_runningAgent hagent) fun ra => safe_bind (safe_lift ?_) fun _ => ?_
      · unfold mutate
        split
        all_goals exact nofun
      refine safe_bind (safe_emit _ _) fun _ => ?_
      refine safe_bind (safe_swallow ?_) fun _ => ?_
      · exact within_anyFaultAction (tokenRules_keepsStaff setting step.id) _ _ _ _ _
      exact safe_bind (safe_output _ _) fun _ => safe_emit _ _

/-- A step all of whose agents are agents of the scenario raises no `KeyError` of a lookup. -/
theorem safe_dispatchStep (hpy : setting.py.Documented)
    (hpeers : ∀ spec ∈ setting.scenario.spec.agents, (setting.peers.get? spec.id).isSome)
    (hmanifests : ∀ spec ∈ setting.scenario.spec.agents,
      (setting.manifests.get? spec.id).isSome)
    (h : ∀ id, .agent (some id) ∈ lookups setting step → IsAgent setting id) :
    SafeStep setting world (dispatchStep setting step world) := by
  unfold dispatchStep
  unfold lookups at h
  split
  case h_1 => exact safe_emit _ _
  case h_2 type fault htype hfault =>
    rw [htype, hfault] at h
    exact safe_dispatchFaultInjected type fault h
  case h_3 type htype hfault =>
    rw [htype, hfault] at h
    exact safe_dispatchType hpy hpeers hmanifests type h

end

end AitpPlayground.Proofs.Runner
