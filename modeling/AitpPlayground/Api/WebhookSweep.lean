import AitpPlayground.Lib.Lts
import AitpPlayground.Runner.CpSteps

/-!
# `AitpPlayground.Api.WebhookSweep`: the start-up sweep beside subscribing runs

`sweep_cp_webhooks` (`src/aitp_playground/main.py`) lists the webhooks of the control plane and
deletes those of earlier processes, one at a time. It is a task of the event loop that runs the
`cp_subscribe_webhook` steps, so it meets them at its `await`s. A step adds the id of its
webhook to `runner.webhook_ids` when it gets the answer, and the sweep tests an id against this
set just before it sends the request to delete it.

Each request is a step of its own when it is sent, when the control plane processes it, and
when its caller goes on. A caller may go on before: its request timed out. The control plane
gives each webhook an id that it never gave before. Other parties may delete webhooks too: the
end of a run, for one.

`given` and `swept` are not in the code: the ids that the control plane has given, and those
that it has deleted for the sweep.
-/

set_option autoImplicit false

namespace AitpPlayground.Api

open AitpPlayground.Lib
open AitpPlayground.Agents
open AitpPlayground.Runner

/-! ### The sweep -/

/-- `list_webhooks`, from the body of the answer on. -/
def listWebhooks (data : Json) : Option (List (Dict String Json)) :=
  match data.dict?.bind fun d => d.get? "webhooks" with
  | some (.arr hooks) => some (hooks.filterMap Json.dict?)
  | _ => none

/-- The id of a listed webhook that the sweep deletes. -/
def staleId (playgroundBaseUrl : String) (webhookIds : List Json) (hook : Dict String Json) :
    Option String :=
  match hook.get? "id", hook.get? "url" with
  | some (.str hookId), some (.str url) =>
    if !(webhookUrl playgroundBaseUrl "").toList.isPrefixOf url.toList ||
        decide (.str hookId ∈ webhookIds) then none
    else some hookId
  | _, _ => none

/-- The control points of `sweep_cp_webhooks`. -/
inductive SweepPc where
  | start
  /-- It awaits `list_webhooks`, and the control plane has not processed the request. -/
  | listing
  /-- The same, with the body of the answer. -/
  | listed (body : Json)
  /-- At the head of the loop, with the hooks that are left and the count. -/
  | loop (hooks : List (Dict String Json)) (deleted : Nat)
  /-- It awaits `delete_webhook`. -/
  | deleting (hooks : List (Dict String Json)) (deleted : Nat)
  | returned (deleted : Nat)

/-! ### The control plane -/

/-- A `create_webhook` of a step. -/
structure CreateCall where
  url : String
  /-- The record, when the control plane has processed the request. -/
  record : Option (Dict String Json)
  /-- Whether the record arrived, when the step has gone on. -/
  answer : Option Bool
deriving DecidableEq

/-- The id of a record of the control plane. -/
def hookId? (hook : Json) : Option String :=
  match hook.dict?.bind fun d => d.get? "id" with
  | some (.str id) => some id
  | _ => none

/-- The record of a new webhook, with the other fields that the control plane gives it. -/
def newRecord (id url : String) (fields : List (String × Json)) : Dict String Json :=
  ((Dict.ofList fields).set "id" (.str id)).set "url" (.str url)

/-- The sweep, the steps that subscribe, and the control plane. -/
structure SweepSystem where
  /-- `runner.webhook_ids`. -/
  webhookIds : List Json
  creates : List CreateCall
  sweep : SweepPc
  /-- The requests of the sweep to delete an id that the control plane has not processed. -/
  deletes : List String
  /-- The webhooks of the control plane. -/
  hooks : List Json
  given : List String
  swept : List String

namespace SweepSystem

/-- A process that starts on a control plane with these webhooks, which has given these ids
and those of the webhooks. -/
def start (hooks : List Json) (given : List String) : SweepSystem where
  webhookIds := []
  creates := []
  sweep := .start
  deletes := []
  hooks
  given := hooks.filterMap hookId? ++ given
  swept := []

/-- The ids of the webhooks whose creation this process has requested. -/
def ownIds (s : SweepSystem) : List Json :=
  s.creates.filterMap fun c => c.record.map createdId

/-- The control plane without the webhook of an id. -/
def without (s : SweepSystem) (id : String) : List Json :=
  s.hooks.filter fun hook => decide (hookId? hook ≠ some id)

end SweepSystem

/-- Who moves. -/
inductive SweepLabel where
  /-- The step of a run sends `create_webhook`. -/
  | subscribe (runId : String)
  /-- The control plane makes the webhook: its id, and the other fields of its record. -/
  | create (i : Nat) (id : String) (fields : List (String × Json))
  /-- The step goes on, with the record or without it. -/
  | answer (i : Nat) (arrives : Bool)
  /-- The sweep sends `list_webhooks`. -/
  | list
  | processList
  /-- The sweep goes on, with the body or without it. -/
  | listed (arrives : Bool)
  /-- The loop comes to its next hook, or to its end. -/
  | next
  /-- The control plane deletes an id for the sweep. -/
  | processDelete (id : String)
  /-- The sweep goes on, with what `delete_webhook` returns. -/
  | deleted (success : Bool)
  /-- Another party deletes a webhook. -/
  | remove (id : String)

/-- A step of a run gets the answer to its `create_webhook`. -/
def afterCreate (webhookIds : List Json) (created : Option (Dict String Json)) : List Json :=
  match created.filter fun created => !created.entries.isEmpty with
  -- The step fails when the id has no hash.
  | some created => (rememberId webhookIds created).toOption.getD webhookIds
  | none => webhookIds

/-- The loop at a hook. -/
def sweepHook (base : String) (s : SweepSystem) (hook : Dict String Json)
    (rest : List (Dict String Json)) (deleted : Nat) : SweepSystem :=
  match staleId base s.webhookIds hook with
  | some id =>
    -- `delete_webhook` sends nothing for an empty id.
    if id = "" then { s with sweep := .loop rest deleted }
    else { s with deletes := id :: s.deletes, sweep := .deleting rest deleted }
  | none => { s with sweep := .loop rest deleted }

/-- One step, with the base URL of the playground. -/
def sweepStep (base : String) (s : SweepSystem) : SweepLabel → Option SweepSystem
  | .subscribe runId => some { s with
      creates := s.creates ++ [{ url := webhookUrl base runId, record := none, answer := none }] }
  | .create i id fields =>
    match s.creates[i]? with
    | some { url, record := none, answer } =>
      -- The control plane never gives an id twice.
      if id ∈ s.given then none
      else
        some { s with
          creates := s.creates.set i { url, record := some (newRecord id url fields), answer }
          hooks := s.hooks ++ [(newRecord id url fields).toJson]
          given := id :: s.given }
    | _ => none
  | .answer i arrives =>
    match s.creates[i]? with
    | some { url, record, answer := none } =>
      -- A record arrives only when there is one.
      if arrives && record.isNone then none
      else some { s with
        creates := s.creates.set i { url, record, answer := some arrives }
        webhookIds := afterCreate s.webhookIds (if arrives then record else none) }
    | _ => none
  | .list =>
    match s.sweep with
    | .start => some { s with sweep := .listing }
    | _ => none
  | .processList =>
    match s.sweep with
    | .listing => some { s with sweep := .listed (.obj [("webhooks", .arr s.hooks)]) }
    | _ => none
  | .listed arrives =>
    match s.sweep, arrives with
    | .listed body, true => some { s with
        sweep := match listWebhooks body with
          | some hooks => .loop hooks 0
          -- A body that is no list of webhooks ends the sweep.
          | none => .returned 0 }
    | .listing, false | .listed _, false => some { s with sweep := .returned 0 }
    | _, _ => none
  | .next =>
    match s.sweep with
    | .loop [] deleted => some { s with sweep := .returned deleted }
    | .loop (hook :: rest) deleted => some (sweepHook base s hook rest deleted)
    | _ => none
  | .processDelete id =>
    if id ∈ s.deletes then
      some { s with
        deletes := s.deletes.erase id
        hooks := s.without id
        swept := id :: s.swept }
    else none
  | .deleted success =>
    match s.sweep with
    | .deleting rest deleted =>
      some { s with sweep := .loop rest (if success then deleted + 1 else deleted) }
    | _ => none
  | .remove id => some { s with hooks := s.without id }

/-- At a webhook of this process, its record has arrived at the step that asked for it. -/
def AnsweredAt (s : SweepSystem) : SweepPc → Prop
  | .loop (hook :: _) _ =>
    ∀ c ∈ s.creates, c.record.map createdId = some ((hook.get? "id").getD .null) →
      c.answer = some true
  | _ => True

instance (s : SweepSystem) : (pc : SweepPc) → Decidable (AnsweredAt s pc)
  | .loop (hook :: _) _ => inferInstanceAs (Decidable (∀ c ∈ s.creates,
      c.record.map createdId = some ((hook.get? "id").getD .null) → c.answer = some true))
  | .loop [] _ | .start | .listing | .listed _ | .deleting _ _ | .returned _ => .isTrue trivial

/-- When the sweep comes to a webhook of this process, its record has arrived. -/
def AnsweredWhenSwept (s : SweepSystem) : SweepLabel → Prop
  | .next => AnsweredAt s s.sweep
  | _ => True

instance (s : SweepSystem) : (l : SweepLabel) → Decidable (AnsweredWhenSwept s l)
  | .next => inferInstanceAs (Decidable (AnsweredAt s s.sweep))
  | .subscribe _ | .create _ _ _ | .answer _ _ | .list | .processList | .listed _
  | .processDelete _ | .deleted _ | .remove _ => .isTrue trivial

end AitpPlayground.Api
