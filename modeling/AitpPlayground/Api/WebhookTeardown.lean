import AitpPlayground.Api.Runs
import AitpPlayground.Runner.CpSteps

/-!
# `AitpPlayground.Api.WebhookTeardown`: the webhooks of a run, to the end of its tasks

A `cp_subscribe_webhook` step keeps the record of its webhook in the field `cp_webhook` of the
run. Both exits of `run` (`src/aitp_playground/runner/engine.py`) schedule `_teardown_webhook`,
which reads the field back after a delay and deletes that webhook.

`TeardownSystem` is a run of `RunSystem` with the answers to its create requests and its
teardown tasks. The engine of `RunSystem` has a choice that stores any webhook. Here the choice
comes with the answer that it is made from (`subscribe`). The agents report telemetry for the
run meanwhile.

`answers` and `deleted` are not in the code: the records that the control plane returned, and
the ids that were passed to `delete_webhook`, the last one first.
-/

set_option autoImplicit false

namespace AitpPlayground.Api

open AitpPlayground.Lib
open AitpPlayground.Runner

/-- The id that `_teardown_webhook` reads off the record of its run. -/
def teardownId (record : Option (Record Event)) : Except PyErr Json :=
  let field := ((record.getD Record.empty).scalars.get? "cp_webhook").getD .null
  (if field.truthy then field else .obj []).member "id"

/-- A run with its webhooks. -/
structure TeardownSystem where
  run : RunSystem
  answers : List (Dict String Json)
  /-- The tasks `_teardown_webhook` that have not read the record. -/
  scheduled : Nat
  deleted : List Json

/-- Who moves. -/
inductive TeardownLabel where
  /-- The engine or a cancel request. -/
  | run (l : RunLabel)
  /-- A `cp_subscribe_webhook` step gets the answer to `create_webhook`. -/
  | subscribe (answer : Option (List (String × Json))) (events : Json)
  /-- An agent reports an event of the run. -/
  | telemetry (event : Event)
  /-- A task `_teardown_webhook` goes on after its delay. -/
  | teardown

/-- The control points whose move calls `_schedule_webhook_teardown`. -/
def schedulesTeardown : EnginePc → Bool
  | .finalize _ | .ingest _ => true
  | _ => false

/-- Whether a label moves the engine. -/
def movesEngine : RunLabel → Bool
  | .engine _ => true
  | .cancel _ _ => false

/-- Whether a label stores a webhook. -/
def storesWebhook : RunLabel → Bool
  | .engine (.webhook _) => true
  | _ => false

/-- One step, with the base URL of the playground. -/
def teardownStep (args : RunArgs) (base : String) (s : TeardownSystem) (l : TeardownLabel × ℚ) :
    Option TeardownSystem :=
  match l with
  | (.run l, now) =>
    if storesWebhook l then none
    else (runStep args s.run (l, now)).map fun run =>
      { s with
        run
        scheduled :=
          if movesEngine l && schedulesTeardown s.run.engine then s.scheduled + 1
          else s.scheduled }
  | (.subscribe answer events, now) =>
    match s.run.engine, createdRecord answer with
    | .body, some created =>
      match rememberId [] created with
      | .ok _ =>
        let field := webhookField created (webhookUrl base args.runId) events
        (runStep args s.run (.engine (.webhook field), now)).map fun run =>
          { s with run, answers := created :: s.answers }
      -- `webhook_ids.add` raises, before the record of the run is updated.
      | .error exc => some { s with
          run := { s.run with engine := .handler none exc.text }
          answers := created :: s.answers }
    | .body, none => some s
    | _, _ => none
  | (.telemetry event, now) => some { s with
      run := { s.run with store := (s.run.store.appendEvent args.runId event now).1 } }
  | (.teardown, _) =>
    if s.scheduled = 0 then none
    else some { s with
      scheduled := s.scheduled - 1
      deleted := match teardownId (s.run.store.get args.runId) with
        | .ok id => if id.truthy then id :: s.deleted else s.deleted
        | .error _ => s.deleted }

/-- `run` has returned, and so have the tasks that it scheduled. -/
def TeardownSystem.Finished (s : TeardownSystem) : Prop :=
  (∃ status, s.run.engine = .returned status) ∧ s.scheduled = 0

/-- The ids among the answers of the control plane. -/
def returnedIds (answers : List (Dict String Json)) : List Json :=
  (answers.map createdId).filter Json.truthy

/-- The webhooks that were deleted are those of the run. -/
def TeardownSystem.TornDown (s : TeardownSystem) : Prop :=
  ∀ id, id ∈ s.deleted ↔ id ∈ returnedIds s.answers

/-- Every id is the one in the last answer, and it can be put into a set. -/
def SameIdAsLast (answers : List (Dict String Json)) : Prop :=
  ∀ id ∈ returnedIds answers, id.hashKey.isOk = true ∧ answers.head?.map createdId = some id

instance (answers : List (Dict String Json)) : Decidable (SameIdAsLast answers) :=
  inferInstanceAs (Decidable (∀ id ∈ returnedIds answers,
    id.hashKey.isOk = true ∧ answers.head?.map createdId = some id))

end AitpPlayground.Api
