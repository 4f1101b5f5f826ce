import AitpPlayground.Runner.TokenSteps

/-!
# `AitpPlayground.Runner.CpSteps`: the steps about the control plane, and capability steps

The other branches of `_dispatch_step` (`src/aitp_playground/runner/engine.py`): enrolment,
webhooks, trust anchors and the delegation tree of the control plane, the check of SPKI pins,
and the default step, which executes a capability.

`ingest_events` of the client never raises and nothing reads it back, so it is left out.
-/

set_option autoImplicit false

namespace AitpPlayground.Runner

open AitpPlayground.Lib
open AitpPlayground.Agents
open AitpPlayground.Hosting
open AitpPlayground.Registry

section
variable (setting : RunSetting)

/-! ### Control plane -/

/-- `enroll_with_cp`. -/
def dispatchEnrollWithCp (step : WorkflowStep) (world : StepWorld) : Steps Unit :=
  match given step.agent with
  | some agent => do
    if setting.cpEnabled then
      let _ra ← Steps.runningAgent agent
      Steps.emit "cp.enroll_started" [("step_id", .str step.id), ("agent_id", .str agent)]
      let data ← requestDirect setting (world.direct 0)
      Steps.output step.id data
      let aid ← Act.ofExcept id (raised (data.member "aid") >>= textField)
      let registeredAt ← Steps.lift (data.member "registered_at")
      Steps.emit "cp.enroll_complete"
        [("step_id", .str step.id), ("agent_id", .str agent), ("aid", aid),
         ("result", .obj [("registered_at", registeredAt)])]
      stepComplete step data
    else
      skipWithoutCp step (.obj [("enrolled", .bool false), ("skipped", .str "no cp")])
  | none => refuseStep step "enroll_with_cp requires agent"

/-- The record of `create_webhook`, when there is one to keep: `if not created`. -/
def createdRecord (answer : Option (List (String × Json))) : Option (Dict String Json) :=
  (answer.filter fun created => !created.isEmpty).map Dict.ofList

/-- `created.get("id")`. -/
def createdId (created : Dict String Json) : Json := (created.get? "id").getD .null

/-- `webhook_ids` after the record of a webhook: `add` hashes the id, if there is one. -/
def rememberId (webhookIds : List Json) (created : Dict String Json) :
    Except PyErr (List Json) := do
  if (createdId created).truthy then
    let _key ← (createdId created).hashKey
    pure (createdId created :: webhookIds)
  else pure webhookIds

/-- The field `cp_webhook` that the record of the run gets. -/
def webhookField (created : Dict String Json) (url : String) (events : Json) : Json :=
  .obj
    [("id", createdId created), ("secret", (created.get? "secret").getD .null),
     ("url", .str url), ("events", events)]

/-- What becomes of the record of a webhook. -/
def keepWebhook (created : Dict String Json) (url : String) (events : Json) : Steps Unit := do
  -- An id without a hash raises here, before the record has the webhook.
  let webhookIds ← Steps.lift (rememberId (← get).webhookIds created)
  modify fun s => { s with webhookIds, cpWebhook := webhookField created url events }

/-- The URL of the receiver for a run. -/
def webhookUrl (playgroundBaseUrl runId : String) : String :=
  rstripSlash playgroundBaseUrl ++ "/webhooks/cp/" ++ runId

/-- `cp_subscribe_webhook`. -/
def dispatchCpSubscribeWebhook (step : WorkflowStep) (world : StepWorld) : Steps Unit :=
  if setting.cpEnabled then
    let url := webhookUrl setting.playgroundBaseUrl setting.runId
    let events := textList (step.events.getD [])
    match createdRecord world.cp.webhook with
    | some created => do
      keepWebhook created url events
      let id := createdId created
      Steps.emit "cp.webhook.subscribed"
        [("step_id", .str step.id),
         ("result", .obj [("id", id), ("url", .str url), ("events", events)])]
      Steps.output step.id
        (.obj [("subscribed", .bool true), ("webhook_id", id), ("url", .str url),
          ("events", events)])
    -- A refusal is an event of the run and not a failure.
    | none => do
      Steps.emit "cp.webhook.subscribe_failed"
        [("step_id", .str step.id), ("notes", .str "CP refused or unreachable")]
      Steps.output step.id (.obj [("subscribed", .bool false)])
  else skipWithoutCp step (.obj [("subscribed", .bool false), ("skipped", .str "no cp")])

/-- The manifest of an agent, verified: the check of `cp_provision_trust_anchor`. -/
def verifiedManifest (step : WorkflowStep) (agent : String) (ra : RunningAgent)
    (world : StepWorld) : Steps Json := do
  let mr ← Steps.directCall (world.direct 0)
  Steps.raiseForStatus mr
  match setting.sdk.verifyManifestJson (mr.text setting.py) world.salt with
  | .ok _ => Steps.lift ((mr.json setting.py).bind fun v => v.memberOr "manifest" (.obj []))
  | .error exc => do
    let cause := classifyManifestVerifyFailure exc
    Steps.emit "manifest.verify_failed"
      [("step_id", .str step.id), ("agent_id", .str agent), ("cause", .str cause),
       ("source_url", .str ra.manifestUrl)]
    Steps.refuse
      ("manifest at " ++ ra.manifestUrl ++ " failed verification (" ++ cause ++ "): " ++
        exc.text ++ " — refusing to pin a trust anchor from an unverified manifest")

/-- `(manifest.get("identity_hint") or {}).get("public_key")`. -/
def publicKeyOf (manifest : Json) : Except PyErr Json := do
  let hint ← manifest.member "identity_hint"
  if hint.truthy then hint.member "public_key" else pure .null

/-- `cp_provision_trust_anchor`. -/
def dispatchCpProvisionTrustAnchor (step : WorkflowStep) (world : StepWorld) : Steps Unit :=
  match given step.agent with
  | some agent => do
    if setting.cpEnabled then
      let ra ← Steps.runningAgent agent
      let cpNamespace := (given step.cpNamespace).getD setting.scenario.metadata.pack
      let manifest ← verifiedManifest setting step agent ra world
      let declaredAid ← Steps.lift (manifest.member "aid")
      -- Whatever answers at the port has to be the agent that was launched.
      if declaredAid = .str ra.aid then
        let pubkey ← Steps.lift (publicKeyOf manifest)
        -- Without a public key in the manifest, or an AID, nothing is pinned.
        let pinned := if pubkey.truthy && decide (ra.aid ≠ "") then world.cp.pinnedKey else .null
        let anchor := if (given step.issuerUrl).isSome then world.cp.trustAnchor else .null
        let result := Json.obj
          [("provisioned", .bool true), ("namespace", .str cpNamespace), ("pinned_key", pinned),
           ("trust_anchor", anchor),
           ("pinned_key_count", .num (.int world.cp.pinnedKeys.length)),
           ("trust_anchor_count", .num (.int world.cp.trustAnchors.length))]
        Steps.output step.id result
        Steps.emit "cp.trust_anchor.provisioned"
          [("step_id", .str step.id), ("agent_id", .str agent), ("result", result)]
        stepComplete step result
      else
        Steps.refuse
          ("manifest at " ++ ra.manifestUrl ++ " declares aid " ++
            setting.py.reprOf declaredAid ++ ", but the runner launched " ++
            setting.py.reprOf (.str ra.aid) ++
            " — refusing to pin a trust anchor for an agent that is not the one answering at " ++
            "this port")
    else
      skipWithoutCp step (.obj [("provisioned", .bool false), ("skipped", .str "no cp")])
  | none => refuseStep step "cp_provision_trust_anchor requires agent"

/-- `cp_delegation_tree`. -/
def dispatchCpDelegationTree (step : WorkflowStep) (world : StepWorld) : Steps Unit :=
  match given step.agent with
  | some agent => do
    if setting.cpEnabled then
      let ra ← Steps.runningAgent agent
      let result := Json.obj
        [("delegator", .str ra.aid), ("delegations", .arr world.cp.delegations),
         ("count", .num (.int world.cp.delegations.length))]
      Steps.output step.id result
      Steps.emit "cp.delegation.tree"
        [("step_id", .str step.id), ("agent_id", .str agent), ("result", result)]
      stepComplete step result
    else skipWithoutCp step (.obj [("delegations", .arr []), ("skipped", .str "no cp")])
  | none => refuseStep step "cp_delegation_tree requires agent"

/-! ### Pins -/

/-- The end of `spki_pin_check`: the check against what the step expects. -/
def expectPinned (step : WorkflowStep) (isPinned : Bool) (result : Json) : Steps Unit :=
  match step.expectStatus with
  | some expected =>
    let pinned := decide (expected ≠ 0)
    if pinned ≠ isPinned then do
      Steps.emit "step.unexpected_status"
        [("step_id", .str step.id),
         ("result", .obj [("expected_pinned", .bool pinned), ("actual", .bool isPinned)])]
      refuseStep step
        ("spki_pin_check expected_pinned=" ++ setting.py.strOf (.bool pinned) ++ " but got " ++
          setting.py.strOf (.bool isPinned))
    else stepComplete step result
  | none => stepComplete step result

/-- `spki_pin_check`. -/
def dispatchSpkiPinCheck (step : WorkflowStep) (world : StepWorld) : Steps Unit :=
  match given step.certDerB64, step.pins with
  | some _, some _ => do
    let check ← Act.ofExcept id world.spki
    let result := Json.obj
      [("computed_hash_b64", .str check.computedHashB64),
       ("pin_count", .num (.int check.pinCount)), ("is_pinned", .bool check.isPinned)]
    Steps.output step.id result
    Steps.emit "spki.pin.checked" [("step_id", .str step.id), ("result", result)]
    expectPinned setting step check.isPinned result
  | _, _ => refuseStep step "spki_pin_check requires cert_der_b64 and pins"

/-! ### Capability steps -/

/-- The call of a workflow step, by the caller itself or by the agent that offers the
capability. -/
def executeCapability (agent target capability : String) (payload : Json) (world : StepWorld) :
    Steps Json :=
  if target = agent then selfExecute setting agent capability world
  else do
    let targetRa ← Steps.runningAgent target
    invokeTarget setting agent targetRa.port capability payload world

/-- The default step. -/
def dispatchWorkflow (step : WorkflowStep) (world : StepWorld) : Steps Unit :=
  match given step.agent, given step.capability with
  | some agent, some capability => do
    let _caller ← Steps.runningAgent agent
    -- The step executes on its own agent when that one offers the capability.
    let holder ← Steps.lift
      (findCapabilityHolder capability setting.scenario setting.manifests (some agent))
    match holder with
    | none => Steps.refuse ("No agent in scenario offers capability " ++ capability)
    | some target => do
      let payload := resolveStepInput setting.py step setting.inputs (← get).outputs
      Steps.emit "step.started"
        [("step_id", .str step.id), ("agent", .str agent), ("capability", .str capability)]
      let result ← executeCapability setting agent target capability payload world
      Steps.output step.id result
      stepComplete step result
  | _, _ => refuseStep step "workflow step requires agent and capability"

end

end AitpPlayground.Runner
