import AitpPlayground.Runner.Engine

/-!
# `AitpPlayground.Observability.Narrator`: the narration of an event log

`narrate_event` (`src/aitp_playground/observability/narrator.py`) makes one line of an event,
and the empty text of one that it does not tell about. It reads the fields of the event as they
come, so that a field of an unexpected shape can raise.
-/

set_option autoImplicit false

namespace AitpPlayground.Observability

open AitpPlayground.Lib
open AitpPlayground.Runner

/-! ### Values -/

/-- `value or default`. -/
def orElse (value default : Json) : Json := if value.truthy then value else default

/-- `len(value)`. -/
def pyLen : Json → Except PyErr Nat
  | .str s => .ok s.length
  | .arr items => .ok items.length
  | .obj members => .ok (Dict.ofList members).keys.length
  | .null | .bool _ | .num _ => .error (.typeError "object has no len()")

/-- `",".join(value)`. -/
def joinCommas (value : Json) : Except PyErr String := do
  let items ← value.iter
  let texts ← items.mapM fun item =>
    match item with
    | .str s => .ok s
    | _ => .error (.typeError "sequence item: expected str instance")
  pure (",".intercalate texts)

section
variable (py : PyLib)

/-- `_short`. -/
def short (value : Json) (n : Nat) : String :=
  let s := py.strOf (orElse value (.str ""))
  if s.length ≤ n then s else String.ofList (s.toList.take (n - 1)) ++ "…"

/-! ### Events -/

section
variable (event : Event)

/-- `event.get(key)`. -/
def field (key : String) : Json := (event.get? key).getD .null

/-- `event.get(key) or ""`, as a text. -/
def fieldText (key : String) : String := py.strOf (orElse (field event key) (.str ""))

/-- `event.get(key, '?')`, as a text. -/
def fieldOr (key : String) : String := py.strOf ((event.get? key).getD (.str "?"))

/-- `event.get("agent_id") or event.get("agent") or ""`. -/
def agentText : String :=
  py.strOf (orElse (orElse (field event "agent_id") (field event "agent")) (.str ""))

/-- `result`: the field, if it is an object. -/
def resultOf : Dict String Json := ((field event "result").dict?).getD Dict.empty

/-- `result.get(key)`. -/
def resultField (key : String) : Json := ((resultOf event).get? key).getD .null

/-- The list of the grants, or another text when there are none. -/
def grantsText (without : String) : Except PyErr String :=
  if (field event "grants").truthy then joinCommas (field event "grants") else .ok without

/-- The status code of a probe, when there is one. -/
def statusText : String :=
  if (resultField event "status_code").truthy then
    " status=" ++ py.strOf (resultField event "status_code")
  else ""

/-- The line of a `step.complete`. -/
def completeLine : String :=
  let ok := "[step]  ok       id=" ++ fieldText py event "step_id"
  if (field event "capability").truthy then
    ok ++ "  " ++ agentText py event ++ "." ++ fieldText py event "capability"
  else if ((resultOf event).get? "revoked_jti").isSome then ok ++ "  revoke_tct"
  else if ((resultOf event).get? "delegatee_aid").isSome then ok ++ "  delegate"
  else ok

/-- `narrate_event`. -/
def narrateEvent : Except PyErr String :=
  let text := fieldText py event
  let agent := agentText py event
  match eventType event with
  | some "run.started" => .ok ("[run] started — scenario=" ++ fieldOr py event "scenario_ref")
  | some "run.complete" => .ok "[run] complete"
  | some "run.failed" => .ok ("[run] FAILED — " ++ text "error")
  | some "run.cancelled" => .ok "[run] cancelled"
  | some "agent.spawning" =>
    .ok ("[agent] spawning " ++ agent ++ " on port " ++ py.strOf (field event "port"))
  | some "agent.ready" =>
    .ok ("[agent] ready    " ++ agent ++ "  aid=" ++ short py (field event "aid") 28 ++
      "  port=" ++ py.strOf (field event "port"))
  | some "trust.peers_resolved" => do
    let count ← pyLen (orElse (field event "peers") (.obj []))
    pure ("[trust] peer manifest URLs resolved (" ++ toString count ++ ")")
  | some "trust.establishing" =>
    .ok ("[trust] handshaking  " ++ text "initiator" ++ " -> " ++ text "target")
  | some "trust.established" => do
    let g ← grantsText event "<all-offered>"
    pure ("[trust] established  " ++ text "initiator" ++ " <- " ++ text "target" ++
      "  grants=[" ++ g ++ "]  jti=" ++ short py (field event "jti") 14)
  | some "handshake.failed" => .ok ("[trust] FAILED handshake — " ++ text "error")
  | some "delegation.issuing" => do
    let g ← grantsText event ""
    pure ("[delegate] issuing  " ++ text "initiator" ++ " -> " ++ text "target" ++ "  scope=[" ++
      g ++ "]")
  | some "delegation.issued" => .ok "[delegate] issued"
  | some "delegation.redeeming" =>
    .ok ("[delegate] redeeming  " ++ text "initiator" ++ " -> " ++ text "target")
  | some "delegation.redeemed" => .ok "[delegate] redeemed — fresh TCT minted for delegatee"
  | some "delegation.rejected" => .ok ("[delegate] REJECTED — " ++ text "error")
  | some "tct.revoked" =>
    .ok ("[revoke] local deny-set updated  jti=" ++ short py (field event "jti") 14)
  | some "revocation.published" =>
    let ok := resultField event "to_cp"
    .ok ("[revoke] published to CP  jti=" ++ short py (field event "jti") 14 ++ "  to_cp=" ++
      if ok = .null then "?" else py.strOf ok)
  | some "revocation.list_fetched" =>
    .ok ("[revoke] CP revocation-list refreshed  jti_count=" ++ fieldOr py event "jti_count" ++
      "  added=" ++ fieldOr py event "added")
  | some "revocation.refresh_failed" =>
    .ok ("[revoke] CP revocation refresh FAILED — " ++ text "error")
  | some "identity.key.rotated" =>
    .ok ("[identity] " ++ agent ++ " rotated keys  new_aid=" ++ short py (field event "aid") 28)
  | some "step.started" =>
    .ok ("[step]  starting  id=" ++ text "step_id" ++ "  " ++ agent ++ "." ++ text "capability")
  | some "step.complete" => .ok (completeLine py event)
  | some "step.skipped" =>
    .ok ("[step]  skipped  id=" ++ text "step_id" ++ "  (" ++ text "notes" ++ ")")
  | some "step.probing_no_trust" =>
    .ok ("[probe] no-trust call  " ++ text "initiator" ++ " -> " ++ text "target" ++ "." ++
      text "capability")
  | some "step.probing_with_held_tct" =>
    .ok ("[probe] with-TCT call  " ++ text "initiator" ++ " -> " ++ text "target" ++ "." ++
      text "capability")
  | some "step.access_denied" =>
    .ok ("[probe] DENIED   id=" ++ text "step_id" ++ "  " ++ text "capability" ++
      statusText py event)
  | some "step.unexpected_status" =>
    .ok ("[probe] UNEXPECTED  id=" ++ text "step_id" ++ statusText py event)
  | some "step.fault_injected" =>
    .ok ("[fault] INJECTED  id=" ++ text "step_id" ++ "  target=" ++ text "target" ++ "  (" ++
      text "notes" ++ ")")
  | some "step.fault_complete" =>
    .ok ("[fault] complete  id=" ++ text "step_id" ++ "  -> " ++
      py.strOf (orElse (resultField event "error") (.str "no-error?")))
  | some "cp.enroll_started" => .ok ("[cp]    enrolling " ++ agent)
  | some "cp.enroll_complete" =>
    .ok ("[cp]    enrolled  " ++ agent ++ "  aid=" ++ short py (field event "aid") 28)
  | some "cp.enroll_failed" =>
    .ok ("[cp]    enroll FAILED (" ++ fieldOr py event "stage" ++ ") — " ++ text "error")
  | some "cp.enroll_succeeded" => .ok ("[cp]    registered " ++ agent)
  | some "oidc.issuer_minted" =>
    .ok ("[oidc]  per-run issuer minted  url=" ++ py.strOf (resultField event "issuer_url"))
  | some "tct.renewed" =>
    .ok ("[renew] " ++ agent ++ " <- " ++ text "target" ++ "  new_jti=" ++
      short py (field event "jti") 14)
  | some "session.bundle.exported" => do
    let count ← pyLen (orElse (resultField event "participant_aids") (.arr []))
    pure ("[bundle] exported  session=" ++ short py (resultField event "session_id") 14 ++
      "  participants=" ++ toString count)
  | some "session.bundle.verified" => do
    let count ← pyLen (orElse (resultField event "active_aids") (.arr []))
    pure ("[bundle] verified  kind=" ++ py.strOf (resultField event "kind") ++ "  active=" ++
      toString count)
  | some "spki.pin.checked" =>
    .ok ("[spki]  pin checked  is_pinned=" ++ py.strOf (resultField event "is_pinned"))
  | some "cp.webhook.subscribed" => do
    let events := resultField event "events"
    let view ← if events.truthy then joinCommas events else .ok "<all>"
    pure ("[cp]    webhook subscribed  id=" ++ short py (resultField event "id") 14 ++
      "  events=[" ++ view ++ "]")
  | some "cp.webhook.subscribe_failed" =>
    .ok ("[cp]    webhook subscribe FAILED — " ++
      py.strOf (orElse (field event "notes") (.str "?")))
  | some "cp.webhook.delivered" =>
    .ok ("[cp]    webhook delivery  event_type=" ++ fieldOr py event "event_type" ++
      "  delivery=" ++ short py (field event "delivery_id") 14)
  | some "capability.self_execute" =>
    .ok ("[exec]  self     " ++ agent ++ "." ++ text "capability")
  | some "llm.started" => .ok ("[llm]   started   task=" ++ fieldOr py event "task")
  | some "llm.complete" => .ok ("[llm]   complete  task=" ++ fieldOr py event "task")
  | some "llm.failed" =>
    .ok ("[llm]   failed    task=" ++ fieldOr py event "task" ++ "  detail=" ++
      short py (field event "detail") 80)
  -- Every other event is left out of the narration.
  | _ => .ok ""

end

/-- `narrate_events`. -/
def narrateEvents : List Event → Except PyErr (List String)
  | [] => .ok []
  | event :: rest => do
    let line ← narrateEvent py event
    let lines ← narrateEvents rest
    pure (if line = "" then lines else line :: lines)

end

end AitpPlayground.Observability
