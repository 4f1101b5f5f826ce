import AitpPlayground.Runner.Helpers

/-!
# `AitpPlayground.Runner.TokenSteps`: the steps about tokens and keys

The branches of `_dispatch_step` (`src/aitp_playground/runner/engine.py`) that hand out, use,
replace or revoke tokens, and the one that replaces a key. Each branch is a definition of its
own, with the body of the request it sends, what it records in `step_outputs`, and its events.
-/

set_option autoImplicit false

namespace AitpPlayground.Runner

open AitpPlayground.Lib
open AitpPlayground.Agents
open AitpPlayground.Hosting
open AitpPlayground.Registry

/-- The `PlaygroundError` of a step. -/
def refuseStep {α : Type} (step : WorkflowStep) (text : String) : Steps α :=
  Steps.refuse ("step " ++ step.id ++ ": " ++ text)

/-- The event `step.complete`. -/
def stepComplete (step : WorkflowStep) (result : Json) : Steps Unit :=
  Steps.emit "step.complete" [("step_id", .str step.id), ("result", result)]

/-- A step that needs the control plane, without one. -/
def skipWithoutCp (step : WorkflowStep) (recorded : Json) : Steps Unit := do
  Steps.emit "step.skipped"
    [("step_id", .str step.id), ("notes", .str "CP not configured (CP_BASE_URL unset)")]
  Steps.output step.id recorded

section
variable (setting : RunSetting)

/-- A request to an agent that has to succeed, and its JSON answer. -/
def requestAgent (agentId : String) (link : Link) (c : AdminCall) : Steps Json := do
  let r ← callAgent setting agentId link c
  Steps.raiseForStatus r
  Steps.lift (r.json setting.py)

/-- The same for a route that is not modelled. -/
def requestDirect (answer : HttpAnswer) : Steps Json := do
  let r ← Steps.directCall answer
  Steps.raiseForStatus r
  Steps.lift (r.json setting.py)

/-! ### Probes and handshakes -/

/-- `capability_call_no_trust`. -/
def dispatchCallNoTrust (step : WorkflowStep) (world : StepWorld) : Steps Unit :=
  match given step.agent, given step.targetAgent, given step.capability with
  | some agent, some target, some capability => do
    let _agent ← Steps.runningAgent agent
    let _target ← Steps.runningAgent target
    let result ← callWithoutTrust setting agent target capability step.expectStatus world
    Steps.output step.id result
    stepComplete step result
  | _, _, _ =>
    refuseStep step "capability_call_no_trust requires agent, target_agent, capability"

/-- `capability_probe`. -/
def dispatchCapabilityProbe (step : WorkflowStep) (world : StepWorld) : Steps Unit :=
  match given step.agent, given step.targetAgent, given step.capability with
  | some agent, some target, some capability => do
    let payload := resolveStepInput setting.py step setting.inputs (← get).outputs
    let _agent ← Steps.runningAgent agent
    let targetRa ← Steps.runningAgent target
    let result ← probeWithHeldTct setting agent target targetRa.port capability payload
      step.expectStatus world
    Steps.output step.id result
    stepComplete step result
  | _, _, _ => refuseStep step "capability_probe requires agent, target_agent, capability"

/-- `handshake`. -/
def dispatchHandshake (step : WorkflowStep) (world : StepWorld) : Steps Unit :=
  match given step.initiator, given step.responder with
  | some initiator, some responder => do
    let _a ← Steps.runningAgent initiator
    let _b ← Steps.runningAgent responder
    let url ← peerUrl setting responder
    ensureTrust setting initiator responder url step.requestedGrants world
    Steps.output step.id (.obj [("trust", .str "established")])
    Steps.emit "step.complete" [("step_id", .str step.id)]
  | _, _ => refuseStep step "handshake requires initiator and responder"

/-! ### Delegation -/

/-- `delegate`. -/
def dispatchDelegate (step : WorkflowStep) (world : StepWorld) : Steps Unit :=
  match given step.delegator, given step.delegatee, given step.viaPeer with
  | some delegator, some delegatee, some viaPeer => do
    let delegatorRa ← Steps.runningAgent delegator
    let viaRa ← Steps.runningAgent viaPeer
    let url ← peerUrl setting delegatee
    let scope := step.scope.getD []
    if scope = [] then refuseStep step "delegate requires non-empty scope"
    else
      Steps.emit "delegation.issuing"
        [("initiator", .str delegator), ("target", .str delegatee), ("grants", textList scope)]
      let data ← requestAgent setting delegator (world.link 0)
        (.delegate
          (.obj [("held_tct_peer_port", .num (.int viaRa.port)),
            ("delegatee_manifest_url", optionalText url), ("scope", textList scope),
            ("ttl_secs", optionalInt step.ttlSecs)])
          world.manifest world.salt)
      -- The delegators behind the grant that is delegated come first.
      let chain ← Steps.lift (heldDelegationChain (← get).outputs delegator viaPeer)
      let data ← Steps.lift
        (data.setItem "issuer_manifest_urls" (.arr (chain ++ [.str delegatorRa.manifestUrl])))
      Steps.output step.id data
      let delegateeAid ← Steps.lift (data.member "delegatee_aid")
      stepComplete step (.obj [("delegatee_aid", delegateeAid), ("scope", textList scope)])
  | _, _, _ => refuseStep step "delegate requires delegator, delegatee, via_peer"

/-- The request of a `redeem_delegation` step. -/
def redeemCall (redeemUrl : String) (token urls : Json) (port : Int) (world : StepWorld) :
    AdminCall :=
  .redeemDelegation
    (.obj [("redeem_url", .str redeemUrl), ("delegation_token", token),
      ("peer_port", .num (.int port)), ("issuer_manifest_urls", urls)])
    world.manifests world.issuer world.salt

/-- The items of a JSON value, and none of one that has no items. -/
def itemsOf (urls : Json) : List Json := (urls.iter.toOption).getD []

/-- The redeem URL of a peer: its manifest URL with the well-known path swapped. -/
def redeemUrlOf (manifestUrl : Option String) : Except PyErr String :=
  match manifestUrl with
  | some url => .ok (replaceAll "/.well-known/aitp-manifest" "/aitp/delegation/redeem" url)
  | none => .error (.attributeError "'NoneType' object has no attribute 'replace'")

/-- What a `redeem_delegation` step records of the answer in probe mode. -/
def redeemProbe (expected : Int) (r : Reply) : Except PyErr Json := do
  let body ← match r.json setting.py with
    | .ok body => .ok body
    -- `except ValueError`: the body is not JSON.
    | .error (.valueError _ _) => .ok (.str (r.text setting.py))
    | .error exc => .error exc
  pure (probeResult r.status (some expected) body)

/-- The field `delegation_chain` of a redemption. -/
def chainOf (holder issuer : String) (urls : List Json) : Json :=
  .obj [("holder", .str holder), ("issuer", .str issuer), ("issuer_manifest_urls", .arr urls)]

/-- The end of `redeem_delegation` outside probe mode. -/
def recordRedemption (step : WorkflowStep) (delegatee target : String) (urls : Json) (r : Reply) :
    Steps Unit := do
  Steps.raiseForStatus r
  let data ← Steps.lift (r.json setting.py)
  let chain ← Steps.lift urls.iter
  let data ← Steps.lift (data.setItem "delegation_chain" (chainOf delegatee target chain))
  Steps.output step.id data
  stepComplete step (.obj [("redeemed_from", .str target), ("by", .str delegatee)])

/-- What a `redeem_delegation` step records. -/
def recordAnswer (step : WorkflowStep) (delegatee target : String) (urls : Json) (r : Reply) :
    Steps Unit :=
  match step.expectStatus with
  -- Probe mode: a refusal does not fail the run.
  | some expected => do
    let probe ← Steps.lift (redeemProbe setting expected r)
    Steps.output step.id probe
    stepComplete step probe
  | none => recordRedemption setting step delegatee target urls r

/-- The `delegation_token` and the `issuer_manifest_urls` of a prior step. -/
def priorDelegation (outputs : Dict String Json) (viaDelegation : String) :
    Option (Json × Json) := do
  let prior ← (outputs.get? viaDelegation).bind Json.dict?
  let token ← prior.get? "delegation_token"
  pure (token, (prior.get? "issuer_manifest_urls").getD (.arr []))

/-- The request of a `redeem_delegation` step, and its answer. -/
def redeem (delegatee target : String) (token urls : Json) (probe : Bool) (world : StepWorld) :
    Steps Reply := do
  let _delegatee ← Steps.runningAgent delegatee
  let targetRa ← Steps.runningAgent target
  let redeemUrl ← Steps.lift (redeemUrlOf (← peerUrl setting target))
  Steps.emit "delegation.redeeming" [("initiator", .str delegatee), ("target", .str target)]
  tokenCall setting delegatee target (.redemption (itemsOf urls) probe) (world.link 0)
    (redeemCall redeemUrl token urls targetRa.port world) Reply.isSuccess

/-- `redeem_delegation`. -/
def dispatchRedeemDelegation (step : WorkflowStep) (world : StepWorld) : Steps Unit :=
  match given step.delegatee, given step.target, given step.viaDelegation with
  | some delegatee, some target, some viaDelegation => do
    -- The prior step has to be one that left a token in its output.
    match priorDelegation (← get).outputs viaDelegation with
    | some (token, urls) => do
      let r ← redeem setting delegatee target token urls step.expectStatus.isSome world
      recordAnswer setting step delegatee target urls r
    | none =>
      refuseStep step
        ("via_delegation '" ++ viaDelegation ++ "' did not produce a delegation_token")
  | _, _, _ => refuseStep step "redeem_delegation requires delegatee, target, via_delegation"

/-! ### Revocation -/

/-- A request to an agent to refresh its revocation list. -/
def refreshAgent (agentId : String) (n : Nat) (world : StepWorld) : Steps Reply := do
  modify fun s => { s with
    processes :=
      match s.processes.get? agentId with
      | some p => s.processes.set agentId
        { p with revocation := { p.revocation with snapshot := world.refreshed n } }
      | none => s.processes }
  Steps.directCall (world.direct n)

/-- The refreshes of a `revoke_tct` step, with the counts so far. -/
def refreshAgents (world : StepWorld) :
    List (String × Nat) → Dict String Json → Steps (Dict String Json)
  | [], counts => pure counts
  | (agentId, n) :: rest, counts => do
    let _ra ← Steps.runningAgent agentId
    let rr ← refreshAgent agentId (n + 1) world
    let count ← Steps.lift
      -- An agent that refuses counts as zero.
      (if rr.isSuccess then do
        setting.py.int (← (← rr.json setting.py).memberOr "revoked_count" (.num (.int 0)))
      else .ok 0)
    refreshAgents world rest (counts.set agentId (.num (.int count)))

/-- The revocation through the control plane: the result of the step. -/
def revokeViaCp (step : WorkflowStep) (issuer jti : String) (localRevoke : Bool)
    (world : StepWorld) : Steps Json := do
  let _issuer ← Steps.runningAgent issuer
  let published := setting.cpEnabled && decide (jti ≠ "") && world.cp.published
  let pr ← refreshAgent issuer 0 world
  let issuerList ← Steps.lift
    (if pr.isSuccess then pr.json setting.py else .ok (.obj [("published", .bool false)]))
  Steps.emit "revocation.published"
    [("step_id", .str step.id), ("jti", .str jti),
     ("result", .obj [("to_cp", .bool published), ("reason", optionalText step.reason)])]
  -- Without `refresh_agents` the issuer alone refreshes its list.
  let agents := if step.refreshAgents.getD [] = [] then [issuer] else step.refreshAgents.getD []
  let refreshed ← refreshAgents setting world agents.zipIdx Dict.empty
  pure (.obj
    [("revoked_jti", .str jti), ("published_to_cp", .bool published),
     ("issuer_revoked_count", (refreshed.get? issuer).getD (.num (.int 0))),
     ("local_revoke", .bool localRevoke), ("refreshed", refreshed.toJson),
     ("issuer_list", issuerList)])

/-- The request of a local revocation. -/
def revokeCall (jti : String) : AdminCall := .revokeTct (.obj [("jti", .str jti)])

/-- The local revocation of a `revoke_tct` step. -/
def revokeLocally (issuer jti : String) (localRevoke : Bool) (world : StepWorld) : Steps Unit :=
  if localRevoke then do
    let _issuer ← Steps.runningAgent issuer
    let r ← callAgent setting issuer (world.link 0) (revokeCall jti)
    Steps.raiseForStatus r
  else pure ()

/-- The result of a `revoke_tct` step, after what it does at the control plane. -/
def revokeResult (step : WorkflowStep) (issuer jti : String) (localRevoke : Bool)
    (world : StepWorld) : Steps Json :=
  if step.viaCp.getD false then revokeViaCp setting step issuer jti localRevoke world
  else pure (.obj [("revoked_jti", .str jti)])

/-- `revoke_tct`, with the `jti` that was found. -/
def revokeJti (step : WorkflowStep) (issuer jti : String) (world : StepWorld) : Steps Unit := do
  let localRevoke := decide (step.localRevoke ≠ some false)
  if !localRevoke && !step.viaCp.getD false then
    refuseStep step "local_revoke: false needs via_cp: true"
  -- A revocation at the control plane only, without one: there is nowhere to revoke.
  else if !localRevoke && !setting.cpEnabled then
    skipWithoutCp step (.obj [("revoked_jti", .str jti), ("skipped", .str "no cp")])
  else
    revokeLocally setting issuer jti localRevoke world
    let result ← revokeResult setting step issuer jti localRevoke world
    Steps.output step.id result
    stepComplete step result

/-- `revoke_tct`. -/
def dispatchRevokeTct (step : WorkflowStep) (world : StepWorld) : Steps Unit :=
  match given step.issuer, given step.audience with
  | some issuer, some audience => do
    match findTctJti (← get).events audience issuer with
    | some jti => revokeJti setting step issuer jti world
    | none =>
      refuseStep step
        ("no prior trust.established event for audience=" ++ audience ++ " issuer=" ++ issuer ++
          " — handshake first")
  | _, _ => refuseStep step "revoke_tct requires issuer and audience"

/-! ### Renewal and rotation -/

/-- The request of a `renew_tct` step. -/
def renewCall (port : Int) (world : StepWorld) : AdminCall :=
  .renewTct (.obj [("peer_port", .num (.int port))]) world.issuer world.salt

/-- What a `renew_tct` step records. -/
def recordRenewal (step : WorkflowStep) (agent viaPeer : String) (r : Reply) : Steps Unit := do
  Steps.raiseForStatus r
  let data ← Steps.lift (r.json setting.py)
  Steps.output step.id data
  let jti ← Act.ofExcept id (raised (data.member "jti") >>= textField)
  let expiresAt ← Steps.lift (data.member "expires_at")
  Steps.emit "tct.renewed"
    [("step_id", .str step.id), ("agent_id", .str agent), ("target", .str viaPeer),
     ("jti", jti), ("result", .obj [("expires_at", expiresAt)])]
  stepComplete step data

/-- `renew_tct`. -/
def dispatchRenewTct (step : WorkflowStep) (world : StepWorld) : Steps Unit :=
  match given step.agent, given step.viaPeer with
  | some agent, some viaPeer => do
    let _holder ← Steps.runningAgent agent
    let issuerRa ← Steps.runningAgent viaPeer
    let r ← tokenCall setting agent viaPeer .renewal (world.link 0)
      (renewCall issuerRa.port world) Reply.isSuccess
    recordRenewal setting step agent viaPeer r
  | _, _ => refuseStep step "renew_tct requires agent (holder) and via_peer (issuer)"

/-- `data.get("aid") or ""`. The route answers with a text. -/
def rotatedAid (data : Json) : Except PyErr String := do
  match ← data.member "aid" with
  | .str aid => pure aid
  | _ => pure ""

/-- `ra.aid = new_aid`. -/
def setAid (agentId : String) (ra : RunningAgent) (newAid : String) : Steps Unit :=
  modify fun s => { s with running := s.running.set agentId { ra with aid := newAid } }

/-- `rotate_keys`. -/
def dispatchRotateKeys (step : WorkflowStep) (world : StepWorld) : Steps Unit :=
  match given step.agent with
  | some agent => do
    let ra ← Steps.runningAgent agent
    let data ← requestAgent setting agent (world.link 0)
      (.rotateKeys world.newAid world.minted world.snapshot)
    -- An answer without an AID leaves an empty one in the table.
    let newAid ← Steps.lift (rotatedAid data)
    setAid agent ra newAid
    -- The others have to trust the new AID before they can make a handshake with it.
    pushTrustedPeers setting (fun n => world.link (n + 1)) world.salt
    let result := Json.obj [("old_aid", .str ra.aid), ("new_aid", .str newAid)]
    Steps.output step.id result
    Steps.emit "identity.key.rotated"
      [("step_id", .str step.id), ("agent_id", .str agent), ("aid", .str newAid),
       ("notes", .str ("old_aid=" ++ ra.aid))]
    stepComplete step result
  | none => refuseStep step "rotate_keys requires agent"

/-- `tct_cache_stats`. -/
def dispatchTctCacheStats (step : WorkflowStep) (world : StepWorld) : Steps Unit :=
  match given step.agent with
  | some agent => do
    let _ra ← Steps.runningAgent agent
    let data ← requestDirect setting (world.direct 0)
    Steps.output step.id data
    Steps.emit "tct.cache.stats"
      [("step_id", .str step.id), ("agent_id", .str agent), ("result", data)]
    stepComplete step data
  | none => refuseStep step "tct_cache_stats requires agent"

/-! ### Session bundles -/

/-- The participants of a bundle with their tokens, so far. -/
def participantTokens (coordinatorPort : Int) (world : StepWorld) :
    List (String × Nat) → List Json → Steps (List Json)
  | [], tokens => pure tokens
  | (agentId, n) :: rest, tokens => do
    let _ra ← Steps.runningAgent agentId
    let h ← requestAgent setting agentId (world.link n) (.heldTct coordinatorPort)
    let aid ← Steps.lift (h.item "aid")
    let token ← Steps.lift (h.item "tct_token")
    participantTokens coordinatorPort world rest
      (tokens ++ [.obj [("aid", aid), ("tct_token", token)]])

/-- `export_session_bundle`. -/
def dispatchExportSessionBundle (step : WorkflowStep) (world : StepWorld) : Steps Unit :=
  match given step.coordinator, step.participants.getD [] with
  | some coordinator, first :: others => do
    let participants := first :: others
    let coordRa ← Steps.runningAgent coordinator
    let tokens ← participantTokens setting coordRa.port world participants.zipIdx []
    let data ← requestAgent setting coordinator (world.link participants.length)
      (.exportSessionBundle (.obj [("participant_tcts", .arr tokens)]) world.sessionId world.salt)
    let data ← Steps.lift (data.setItem "coordinator_manifest_url" (.str coordRa.manifestUrl))
    Steps.output step.id data
    let aids ← Steps.lift (data.memberOr "participant_aids" (.arr []))
    let sessionId ← Steps.lift (data.member "session_id")
    Steps.emit "session.bundle.exported"
      [("step_id", .str step.id), ("agent_id", .str coordinator),
       ("result", .obj [("participant_aids", aids), ("session_id", sessionId)])]
    stepComplete step data
  | _, _ => refuseStep step "export_session_bundle requires coordinator and participants"

/-- The bundle that a `verify_session_bundle` step presents, with the URL of its coordinator. -/
def priorBundle (prior : Option Json) : Except PyErr (Json × Json) :=
  match prior.filter Json.truthy with
  | none => .ok (.null, .null)
  | some prior => do
    pure (← prior.member "bundle_envelope", ← prior.member "coordinator_manifest_url")

/-- `verify_session_bundle`. -/
def dispatchVerifySessionBundle (step : WorkflowStep) (world : StepWorld) : Steps Unit :=
  match given step.verifier, given step.viaStep with
  | some verifier, some viaStep => do
    let (envelope, url) ← Steps.lift (priorBundle ((← get).outputs.get? viaStep))
    if envelope.truthy then
      let _verifier ← Steps.runningAgent verifier
      let data ← requestAgent setting verifier (world.link 0)
        (.verifySessionBundle
          (.obj [("bundle_envelope", envelope), ("coordinator_manifest_url", url)])
          world.manifest world.salt)
      Steps.output step.id data
      let kind ← Steps.lift (data.member "kind")
      let active ← Steps.lift (data.memberOr "active_aids" (.arr []))
      let dropped ← Steps.lift (data.memberOr "dropped_aids" (.arr []))
      Steps.emit "session.bundle.verified"
        [("step_id", .str step.id), ("agent_id", .str verifier),
         ("result",
           .obj [("kind", kind), ("active_aids", active), ("dropped_aids", dropped)])]
      stepComplete step data
    else
      refuseStep step
        ("via_step '" ++ viaStep ++ "' did not produce a bundle_envelope")
  | _, _ => refuseStep step "verify_session_bundle requires verifier and via_step"

end

end AitpPlayground.Runner
