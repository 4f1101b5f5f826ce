import AitpPlayground.Api.WebhookTeardown
import AitpPlayground.Proofs.Api.Cancellation
import AitpPlayground.Proofs.Runner.Steps

/-!
# `AitpPlayground.Proofs.Api.WebhookTeardown`: which webhooks the end of a run deletes

`_teardown_webhook` reads one id, and the record of the run holds the one of the last webhook
that was kept (`keptId`). `TeardownInv` follows this field through every interleaving of the
engine, the cancel requests, the telemetry and the tasks, and says that a run which is past one
of its exits has a task left or has deleted this id. So the deleted webhooks are the kept one,
and `teardown_complete_iff` says when that is all of them. A second subscription hides the
first (`second_subscription_leaves_first`).

`subscribe_matches_dispatch` ties the step of the machine to `dispatchCpSubscribeWebhook`.
-/

set_option autoImplicit false

namespace AitpPlayground.Proofs.Api

open AitpPlayground.Lib
open AitpPlayground.Lib.Act
open AitpPlayground.Registry
open AitpPlayground.Runner
open AitpPlayground.Api
open AitpPlayground.Proofs.Runner

/-! ### The field of the record -/

/-- The task reads the record through the field only. -/
theorem teardownId_get (s : RunStore Event) (runId : String) {field : Json}
    (h : (recordField s runId "cp_webhook").getD .null = field) :
    teardownId (s.get runId) = (if field.truthy then field else .obj []).member "id" := by
  subst h
  unfold teardownId recordField
  cases s.get runId <;> rfl

/-- The id to delete is that of the field. -/
theorem teardownId_congr {s s' : RunStore Event} {runId : String}
    (h : recordField s' runId "cp_webhook" = recordField s runId "cp_webhook") :
    teardownId (s'.get runId) = teardownId (s.get runId) := by
  rw [teardownId_get s' runId rfl, teardownId_get s runId rfl, h]

/-- The id to delete is that of the answer that was stored. -/
theorem teardownId_of_field {s : RunStore Event} {runId : String} {created : Dict String Json}
    {url : String} {events : Json}
    (h : recordField s runId "cp_webhook" = some (webhookField created url events)) :
    teardownId (s.get runId) = .ok (createdId created) := by
  rw [teardownId_get s runId rfl, h, Option.getD_some]
  show Json.member "id" (webhookField created url events) = _
  simp only [Json.member, webhookField, Json.dict?]
  rw [Dict.get?_ofList (by simp)]
  rfl

/-- Without the field there is none. -/
theorem teardownId_of_no_field {s : RunStore Event} {runId : String}
    (h : recordField s runId "cp_webhook" = none) : teardownId (s.get runId) = .ok .null := by
  rw [teardownId_get s runId rfl, h, Option.getD_none]
  simp [Json.truthy, Json.member, Json.dict?, Dict.ofList, Dict.setAll]

/-! ### What a move does -/

section
variable {π : Type} {m : Move π} {s : RunStore Event} {runId : String} {now : ℚ}

/-- A move that spares the key leaves the field. -/
theorem recordField_run {key : String} (hkey : key ∉ ["run_id", "status", "created_at"])
    (h : ∀ c, m.call = some c → Spares key c) :
    recordField (m.run s runId now).1 runId key = recordField s runId key := by
  unfold Move.run
  cases hc : m.call with
  | none => rfl
  | some c => exact recordField_call s runId now hkey (h c hc)

variable (m s runId now) in
/-- Control goes where the move sends it. -/
theorem exists_next_run : ∃ reply, (m.run s runId now).2.1 = m.next reply := by
  unfold Move.run
  cases m.call with
  | none => exact ⟨_, rfl⟩
  | some c => exact ⟨_, rfl⟩

end

/-- The parts of `run`: before the `try`, up to the end of an exit, and after it. -/
inductive RunPart where
  | before
  | inside
  | after
deriving DecidableEq

def partOf : EnginePc → RunPart
  | .start | .load | .refused _ _ | .checkStart | .emitStarted | .validate => .before
  | .writeFailed _ | .returned _ => .after
  | _ => .inside

/-- How the engine goes from part to part: it comes out of the inside through an exit. -/
structure PartStep (pc pc' : EnginePc) : Prop where
  before : partOf pc' = .before → partOf pc = .before
  inside : partOf pc = .inside → (partOf pc' = .after ↔ schedulesTeardown pc = true)
  after : partOf pc = .after → partOf pc' = .after

section
variable {args : RunArgs} {now : ℚ} {pc : EnginePc} {choice : EngineChoice} {m : Move EnginePc}

/-- A move of the engine goes on within its part of the run. -/
theorem partStep_move (hm : pc.move args now choice = some m) (reply : RunStore.Reply Event) :
    PartStep pc (m.next reply) := by
  unfold EnginePc.move at hm
  -- One case for each row of the table.
  split at hm
  all_goals first
    | cases hm
    | (split at hm <;> cases hm)
  all_goals dsimp only
  -- A test of the reply gives two cases.
  all_goals try split
  all_goals exact ⟨by simp [partOf], by simp [partOf, schedulesTeardown], by simp [partOf]⟩

/-- An update that is made of items without `cp_webhook`. -/
theorem get?_ofList_webhook {l : List (String × Json)} (h : ∀ e ∈ l, e.1 ≠ "cp_webhook") :
    (Dict.ofList l).get? "cp_webhook" = none := Dict.get?_setAll_of_ne _ h

/-- The record of the start has no webhook. -/
theorem webhook_startRecord : (startRecord args).scalars.get? "cp_webhook" = none := by
  rw [startRecord, get?_ofList_webhook]
  simp

/-- The record of a success has no webhook. -/
theorem webhook_successRecord (outputs : Json) :
    (successRecord args outputs).scalars.get? "cp_webhook" = none := by
  rw [successRecord, get?_ofList_webhook]
  simp

/-- The record of a failure has no webhook. -/
theorem webhook_failureRecord (error : String) :
    (failureRecord args error).scalars.get? "cp_webhook" = none := by
  rw [failureRecord, get?_ofList_webhook]
  simp

/-- Only a subscription writes `cp_webhook`. -/
theorem spares_move (hm : pc.move args now choice = some m)
    (hchoice : ∀ value, choice ≠ .webhook value) (c : RunStore.Call Event)
    (hc : m.call = some c) : Spares "cp_webhook" c := by
  unfold EnginePc.move at hm
  split at hm
  all_goals first
    | cases hm
    | (split at hm <;> cases hm)
  all_goals cases hc
  all_goals first
    | exact absurd rfl (hchoice _)
    | simp only [Spares, webhook_startRecord, webhook_successRecord, webhook_failureRecord]

end

section
variable {args : RunArgs} {now : ℚ} {s s' : RunSystem} {l : RunLabel}

/-- A move of the engine, taken apart. -/
theorem runStep_engine {choice : EngineChoice}
    (h : runStep args s (.engine choice, now) = some s') :
    ∃ m, s.engine.move args now choice = some m ∧
      s'.store = (m.run s.store args.runId now).1 ∧ PartStep s.engine s'.engine := by
  simp only [runStep] at h
  obtain ⟨m, hm, rfl⟩ := Option.map_eq_some_iff.mp h
  obtain ⟨reply, hreply⟩ := exists_next_run m s.store args.runId now
  refine ⟨m, hm, rfl, ?_⟩
  show PartStep s.engine (m.run s.store args.runId now).2.1
  rw [hreply]
  exact partStep_move hm reply

/-- A cancel request leaves the engine alone. -/
theorem runStep_cancel {i : Nat} {kills : Bool}
    (h : runStep args s (.cancel i kills, now) = some s') :
    s'.engine = s.engine ∧ recordField s'.store args.runId "cp_webhook" =
      recordField s.store args.runId "cp_webhook" := by
  simp only [runStep] at h
  obtain ⟨m, hm, rfl⟩ := Option.map_eq_some_iff.mp h
  refine ⟨rfl, recordField_run (by decide) ?_⟩
  intro c hc
  -- The table of the cancel request, row by row.
  cases hpc : s.cancels i with
  | idle | append =>
    rw [hpc] at hm
    cases hm
    cases hc
    trivial
  | write =>
    rw [hpc] at hm
    cases hm
    cases hc
    exact Dict.get?_set_ne _ _ (by decide)
  | kill =>
    rw [hpc] at hm
    cases hm
    cases hc
  | returned | raised =>
    rw [hpc] at hm
    cases hm

/-- No step of the run other than a subscription changes the field. -/
theorem recordField_runStep (hl : storesWebhook l = false)
    (h : runStep args s (l, now) = some s') :
    recordField s'.store args.runId "cp_webhook" =
      recordField s.store args.runId "cp_webhook" := by
  cases l with
  | cancel i kills => exact (runStep_cancel h).2
  -- Only the choice `webhook` writes the field, and `storesWebhook` excludes it.
  | engine choice =>
    obtain ⟨m, hm, hstore, -⟩ := runStep_engine h
    rw [hstore]
    refine recordField_run (by decide) (spares_move hm ?_)
    rintro value rfl
    cases hl

end

/-! ### The kept webhook -/

/-- The id that the record of the run holds: of the last answer that was kept. -/
def keptId (answers : List (Dict String Json)) : Json :=
  match answers.find? fun created => (rememberId [] created).isOk with
  | some created => createdId created
  | none => .null

/-- An answer is kept when it has no id, or one that has a hash. -/
theorem rememberId_isOk (webhookIds : List Json) (created : Dict String Json) :
    (rememberId webhookIds created).isOk =
      (!(createdId created).truthy || (createdId created).hashKey.isOk) := by
  unfold rememberId
  cases (createdId created).truthy with
  | false => rfl
  | true => cases (createdId created).hashKey <;> rfl

/-- An answer that is kept is the last one. -/
theorem keptId_cons_of_ok {created : Dict String Json} {answers : List (Dict String Json)}
    (h : (rememberId [] created).isOk = true) :
    keptId (created :: answers) = createdId created := by
  simp [keptId, h]

/-- An answer that raises leaves the one before. -/
theorem keptId_cons_of_error {created : Dict String Json} {answers : List (Dict String Json)}
    (h : (rememberId [] created).isOk = false) :
    keptId (created :: answers) = keptId answers := by
  simp [keptId, h]

/-- The ids of the answers, as far as they are truthy. -/
theorem mem_returnedIds {answers : List (Dict String Json)} {id : Json} :
    id ∈ returnedIds answers ↔
      (∃ created ∈ answers, createdId created = id) ∧ id.truthy = true := by
  simp [returnedIds, List.mem_filter]

/-- The kept id is one of those that were returned, and it has a hash. -/
theorem keptId_spec {answers : List (Dict String Json)} (h : (keptId answers).truthy = true) :
    keptId answers ∈ returnedIds answers ∧ (keptId answers).hashKey.isOk = true := by
  -- `find?` returns the last answer that was kept.
  cases hfind : answers.find? fun created => (rememberId [] created).isOk with
  | none =>
    simp only [keptId, hfind] at h
    cases h
  | some created =>
    have hkept : keptId answers = createdId created := by simp only [keptId, hfind]
    have hok : (rememberId [] created).isOk = true :=
      List.find?_some (p := fun created => (rememberId [] created).isOk) hfind
    rw [hkept] at h ⊢
    rw [rememberId_isOk, h] at hok
    exact ⟨mem_returnedIds.mpr ⟨⟨created, List.mem_of_find?_eq_some hfind, rfl⟩, h⟩,
      by simpa using hok⟩

/-- The kept id is every returned id if and only if they are all that of the last answer. -/
theorem kept_iff_returned {answers : List (Dict String Json)} :
    (∀ id, (id.truthy = true ∧ id = keptId answers) ↔ id ∈ returnedIds answers) ↔
      SameIdAsLast answers := by
  constructor
  · intro h id hid
    obtain ⟨htruthy, hkept⟩ := (h id).mpr hid
    have hhash : id.hashKey.isOk = true := by
      rw [hkept] at htruthy ⊢
      exact (keptId_spec htruthy).2
    refine ⟨hhash, ?_⟩
    cases answers with
    | nil => cases hid
    | cons last rest =>
      -- The last answer was kept: an id without a hash would be returned, and not kept.
      cases hlast : (rememberId [] last).isOk with
      | true => rw [hkept, keptId_cons_of_ok hlast]; rfl
      | false =>
        rw [rememberId_isOk] at hlast
        simp only [Bool.or_eq_false_iff, Bool.not_eq_false'] at hlast
        obtain ⟨-, heq⟩ := (h (createdId last)).mpr
          (mem_returnedIds.mpr ⟨⟨last, List.mem_cons_self, rfl⟩, hlast.1⟩)
        rw [heq, ← hkept, hhash] at hlast
        cases hlast.2
  · intro h id
    constructor
    · rintro ⟨htruthy, rfl⟩
      exact (keptId_spec htruthy).1
    · intro hid
      obtain ⟨hhash, hlast⟩ := h id hid
      have htruthy := (mem_returnedIds.mp hid).2
      refine ⟨htruthy, ?_⟩
      cases answers with
      | nil => cases hlast
      | cons last rest =>
        have heq : createdId last = id := Option.some.inj hlast
        rw [keptId_cons_of_ok, heq]
        rw [rememberId_isOk, heq, hhash]
        exact Bool.or_true _

/-! ### The invariant -/

/-- The invariant of the webhooks of a run. -/
structure TeardownInv (args : RunArgs) (s : TeardownSystem) : Prop where
  field : teardownId (s.run.store.get args.runId) = .ok (keptId s.answers)
  before : partOf s.run.engine = .before → s.answers = []
  unscheduled : partOf s.run.engine ≠ .after → s.scheduled = 0 ∧ s.deleted = []
  kept : ∀ id ∈ s.deleted, id.truthy = true ∧ id = keptId s.answers
  /-- After an exit, a task is left or has deleted the webhook. -/
  torn : partOf s.run.engine = .after → s.answers = [] ∨ 0 < s.scheduled ∨
    ((keptId s.answers).truthy = true → keptId s.answers ∈ s.deleted)

/-- A run that starts, with a record that has no webhook. -/
structure TeardownStart (args : RunArgs) (s : TeardownSystem) : Prop where
  engine : s.run.engine = .start
  field : recordField s.run.store args.runId "cp_webhook" = none
  answers : s.answers = []
  scheduled : s.scheduled = 0
  deleted : s.deleted = []

/-- The invariant holds at the start. -/
theorem teardownInv_start {args : RunArgs} {s : TeardownSystem} (h : TeardownStart args s) :
    TeardownInv args s := by
  refine ⟨?_, fun _ => h.answers, fun _ => ⟨h.scheduled, h.deleted⟩, ?_, ?_⟩
  · rw [teardownId_of_no_field h.field, h.answers]
    rfl
  · rw [h.deleted]
    exact nofun
  · rw [h.engine]
    exact nofun

namespace TeardownInv

variable {args : RunArgs} {base : String} {s : TeardownSystem} {run : RunSystem} {now : ℚ}

/-- The engine stays where it is, and the field is not written. -/
theorem store (h : TeardownInv args s) (hengine : run.engine = s.run.engine)
    (hfield : recordField run.store args.runId "cp_webhook" =
      recordField s.run.store args.runId "cp_webhook") : TeardownInv args { s with run } := by
  refine ⟨(teardownId_congr hfield).trans h.field, ?_, ?_, h.kept, ?_⟩
  · rw [hengine]
    exact h.before
  · rw [hengine]
    exact h.unscheduled
  · rw [hengine]
    exact h.torn

/-- The engine moves, and schedules a task at an exit. -/
theorem engine (h : TeardownInv args s) (hpart : PartStep s.run.engine run.engine)
    (hfield : recordField run.store args.runId "cp_webhook" =
      recordField s.run.store args.runId "cp_webhook") :
    TeardownInv args { s with
      run
      scheduled := if schedulesTeardown s.run.engine then s.scheduled + 1 else s.scheduled } := by
  refine ⟨(teardownId_congr hfield).trans h.field, fun hb => h.before (hpart.before hb), ?_,
    h.kept, ?_⟩
  · intro hnot
    have hpc : partOf s.run.engine ≠ .after := fun ha => hnot (hpart.after ha)
    obtain ⟨hscheduled, hdeleted⟩ := h.unscheduled hpc
    have hquiet : schedulesTeardown s.run.engine = false := by
      cases hs : schedulesTeardown s.run.engine with
      | false => rfl
      | true =>
        have hinside : partOf s.run.engine = .inside := by
          cases hpc : s.run.engine <;> rw [hpc] at hs <;> first | rfl | cases hs
        exact absurd ((hpart.inside hinside).mpr hs) hnot
    simp only [hquiet]
    exact ⟨hscheduled, hdeleted⟩
  · intro hafter
    cases hpc : partOf s.run.engine with
    | before => exact .inl (h.before hpc)
    | inside =>
      -- The engine comes out of the inside: a task is there now.
      simp only [(hpart.inside hpc).mp hafter]
      exact .inr (.inl (Nat.succ_pos _))
    | after =>
      rcases h.torn hpc with hnone | hleft | hdone
      · exact .inl hnone
      · have hle : s.scheduled ≤
            if schedulesTeardown s.run.engine then s.scheduled + 1 else s.scheduled := by
          split <;> omega
        exact .inr (.inl (Nat.lt_of_lt_of_le hleft hle))
      · exact .inr (.inr hdone)

/-- The answer of the control plane is kept. -/
theorem keep (h : TeardownInv args s) (hbody : s.run.engine = .body)
    {created : Dict String Json} {url : String} {events : Json}
    (hok : (rememberId [] created).isOk = true) (hengine : run.engine = .body)
    (hfield : recordField run.store args.runId "cp_webhook" =
      some (webhookField created url events)) :
    TeardownInv args { s with run, answers := created :: s.answers } := by
  obtain ⟨hscheduled, hdeleted⟩ := h.unscheduled (by rw [hbody]; nofun)
  refine ⟨?_, by rw [hengine]; exact nofun, fun _ => ⟨hscheduled, hdeleted⟩, ?_,
    by rw [hengine]; exact nofun⟩
  · rw [teardownId_of_field hfield, keptId_cons_of_ok hok]
  · show ∀ id ∈ s.deleted, _
    rw [hdeleted]
    exact nofun

/-- The step raises at an id without a hash. -/
theorem drop (h : TeardownInv args s) (hbody : s.run.engine = .body)
    {created : Dict String Json} (herror : (rememberId [] created).isOk = false)
    (code : Option String) (error : String) :
    TeardownInv args { s with
      run := { s.run with engine := .handler code error }
      answers := created :: s.answers } := by
  obtain ⟨hscheduled, hdeleted⟩ := h.unscheduled (by rw [hbody]; nofun)
  refine ⟨?_, nofun, fun _ => ⟨hscheduled, hdeleted⟩, ?_, nofun⟩
  · rw [keptId_cons_of_error herror]
    exact h.field
  · show ∀ id ∈ s.deleted, _
    rw [hdeleted]
    exact nofun

/-- A task reads the record. -/
theorem teardown (h : TeardownInv args s) (hleft : s.scheduled ≠ 0) :
    TeardownInv args { s with
      scheduled := s.scheduled - 1
      deleted :=
        if (keptId s.answers).truthy then keptId s.answers :: s.deleted else s.deleted } := by
  have hafter : partOf s.run.engine = .after := by
    by_contra hnot
    exact hleft (h.unscheduled hnot).1
  refine ⟨h.field, h.before, fun hnot => absurd hafter hnot, ?_, ?_⟩
  · intro id hid
    dsimp only at hid
    split at hid
    case isTrue htruthy =>
      rcases List.mem_cons.mp hid with rfl | hid
      · exact ⟨htruthy, rfl⟩
      · exact h.kept id hid
    case isFalse => exact h.kept id hid
  · intro _
    right; right
    intro htruthy
    simp only [htruthy, if_true]
    exact List.mem_cons_self

end TeardownInv

/-- The step that keeps a webhook stores it in the record. -/
theorem recordField_webhook {args : RunArgs} {run run' : RunSystem} {value : Json} {now : ℚ}
    (hbody : run.engine = .body)
    (h : runStep args run (.engine (.webhook value), now) = some run') :
    run'.engine = .body ∧ recordField run'.store args.runId "cp_webhook" = some value := by
  simp only [runStep, hbody, EnginePc.move, Option.map_some] at h
  cases h
  refine ⟨rfl, ?_⟩
  show recordField (run.store.mergeLocked _ _ _) _ _ = _
  rw [recordField_mergeLocked _ _ _ _ (by decide)]
  rfl

/-- Every step keeps the invariant. -/
theorem teardownInv_step {args : RunArgs} {base : String} {s s' : TeardownSystem}
    {l : TeardownLabel × ℚ} (h : TeardownInv args s) (hs : teardownStep args base s l = some s') :
    TeardownInv args s' := by
  obtain ⟨l, now⟩ := l
  cases l with
  | run l =>
    simp only [teardownStep] at hs
    split at hs
    case isTrue => cases hs
    case isFalse hl =>
      -- A step of the run that is no subscription.
      obtain ⟨run, hrun, rfl⟩ := Option.map_eq_some_iff.mp hs
      have hfield := recordField_runStep (Bool.eq_false_iff.mpr hl) hrun
      cases l with
      | engine choice =>
        obtain ⟨m, -, -, hpart⟩ := runStep_engine hrun
        exact h.engine hpart hfield
      | cancel i kills => exact h.store (runStep_cancel hrun).1 hfield
  | subscribe answer events =>
    simp only [teardownStep] at hs
    split at hs
    case h_1 created hbody hrecord =>
      split at hs
      case h_1 ids hremember =>
        obtain ⟨run, hrun, rfl⟩ := Option.map_eq_some_iff.mp hs
        obtain ⟨hengine, hfield⟩ := recordField_webhook hbody hrun
        exact h.keep hbody (by rw [hremember]; rfl) hengine hfield
      -- `webhook_ids.add` raised, so the engine goes to its handler.
      case h_2 exc hremember =>
        cases hs
        exact h.drop hbody (by rw [hremember]; rfl) none exc.text
    case h_2 =>
      cases hs
      exact h
    case h_3 => cases hs
  | telemetry event =>
    cases hs
    exact h.store rfl (recordField_appendEvent _ _ _ _ (by decide))
  | teardown =>
    -- The task reads the field, and the invariant says what it finds.
    simp only [teardownStep, h.field] at hs
    split at hs
    case isTrue => cases hs
    case isFalse hleft =>
      cases hs
      exact h.teardown hleft

/-! ### The end of a run -/

/-- **The deleted webhooks are those of the run** if and only if each returned id is the one
in the last answer, for every run that has returned with its tasks, whatever its workflow, its
answers and its outcome. -/
theorem teardown_complete_iff {args : RunArgs} {base : String} {s₀ s : TeardownSystem}
    (hstart : TeardownStart args s₀)
    (hrun : Reach (teardownStep args base) anyStep s₀ s) (hfinished : s.Finished) :
    s.TornDown ↔ SameIdAsLast s.answers := by
  have hinv : TeardownInv args s :=
    hrun.invariant (fun _ _ _ h _ hs => teardownInv_step h hs) (teardownInv_start hstart)
  obtain ⟨⟨status, hreturned⟩, hdone⟩ := hfinished
  have hdeleted : ∀ id, id ∈ s.deleted ↔ id.truthy = true ∧ id = keptId s.answers := by
    intro id
    refine ⟨hinv.kept id, ?_⟩
    rintro ⟨htruthy, rfl⟩
    -- The engine has returned and no task is left, so a task has deleted the kept webhook.
    rcases hinv.torn (by rw [hreturned]; rfl) with hnone | hleft | htorn
    · rw [hnone] at htruthy
      cases htruthy
    · omega
    · exact htorn htruthy
  unfold TeardownSystem.TornDown
  simp only [hdeleted]
  exact kept_iff_returned

/-- The run `r` before it starts. -/
def unsubscribed : TeardownSystem :=
  { run := bareStart, answers := [], scheduled := 0, deleted := [] }

/-- The system of the concrete runs is a start. -/
theorem teardownStart_unsubscribed : TeardownStart bareArgs unsubscribed :=
  ⟨rfl, rfl, rfl, rfl, rfl⟩

/-- The run `r` up to its workflow. -/
def upToWorkflow : List (TeardownLabel × ℚ) :=
  [.go, .pass, .go, .go, .pass].map fun choice => (.run (.engine choice), 0)

/-- A run with one subscription that fails at a later step. -/
theorem teardown_complete_after_failure :
    ∃ s, Reach (teardownStep bareArgs "http://playground") anyStep unsubscribed s ∧
      s.Finished ∧ s.deleted = [.str "wh-1"] ∧ s.TornDown := by
  have hexec : (exec (teardownStep bareArgs "http://playground") anyStep unsubscribed
      (upToWorkflow ++ (.subscribe (some [("id", .str "wh-1")]) (.arr []), 1) ::
        [.fail none "boom", .go, .go, .go, .go].map (fun choice => (.run (.engine choice), 1)) ++
        [(.teardown, 121)])).map
          (fun s => ((s.run.engine, s.scheduled), s.deleted, decide (SameIdAsLast s.answers))) =
      some ((.returned "failed", 0), [.str "wh-1"], true) := by decide +kernel
  obtain ⟨s, hrun, heq⟩ := exists_reach_of_exec hexec
  obtain ⟨hend, hrest⟩ := Prod.mk.inj heq
  obtain ⟨hengine, hdone⟩ := Prod.mk.inj hend
  obtain ⟨hdeleted, hsame⟩ := Prod.mk.inj hrest
  exact ⟨s, hrun, ⟨⟨_, hengine⟩, hdone⟩, hdeleted,
    (teardown_complete_iff teardownStart_unsubscribed hrun ⟨⟨_, hengine⟩, hdone⟩).mpr
      (of_decide_eq_true hsame)⟩

/-- The property fails on a workflow with two subscriptions. The record of the run holds the
second webhook only, and the first one stays at the control plane. -/
theorem second_subscription_leaves_first :
    ¬ ∀ (args : RunArgs) (base : String) (s₀ s : TeardownSystem), TeardownStart args s₀ →
      Reach (teardownStep args base) anyStep s₀ s → s.Finished → s.TornDown := by
  intro hall
  have hexec : (exec (teardownStep bareArgs "http://playground") anyStep unsubscribed
      (upToWorkflow ++ (.subscribe (some [("id", .str "wh-1")]) (.arr []), 1) ::
        (.subscribe (some [("id", .str "wh-2")]) (.arr []), 2) ::
        [.finish (.obj []), .go, .go, .go].map (fun choice => (.run (.engine choice), 3)) ++
        [(.teardown, 123)])).map
          (fun s => ((s.run.engine, s.scheduled), s.deleted, returnedIds s.answers)) =
      some ((.returned "success", 0), [.str "wh-2"], [.str "wh-2", .str "wh-1"]) := by
    decide +kernel
  obtain ⟨s, hrun, heq⟩ := exists_reach_of_exec hexec
  obtain ⟨hend, hrest⟩ := Prod.mk.inj heq
  obtain ⟨hengine, hdone⟩ := Prod.mk.inj hend
  obtain ⟨hdeleted, hreturned⟩ := Prod.mk.inj hrest
  have htorn := hall _ _ _ s teardownStart_unsubscribed hrun ⟨⟨_, hengine⟩, hdone⟩
  have hfirst : .str "wh-1" ∈ s.deleted := (htorn _).mpr (by simp [hreturned])
  rw [hdeleted] at hfirst
  simp at hfirst

/-! ### The step of the workflow -/

section
variable {created : Dict String Json} {webhookIds : List Json} (url : String) (events : Json)
variable {w : Workflow}

/-- A record whose id has a hash is kept. -/
theorem keepWebhook_of_ok (h : rememberId w.webhookIds created = .ok webhookIds) :
    keepWebhook created url events w =
      .ok () { w with webhookIds, cpWebhook := webhookField created url events } := by
  unfold keepWebhook
  refine (bind_of_ok _ _ rfl).trans ?_
  unfold Steps.lift
  rw [h]
  rfl

/-- An answer whose id cannot be remembered raises. -/
theorem keepWebhook_of_error {exc : PyErr} (h : rememberId w.webhookIds created = .error exc) :
    keepWebhook created url events w = .error (ofPyErr exc) w := by
  unfold keepWebhook
  refine (bind_of_ok _ _ rfl).trans ?_
  unfold Steps.lift
  rw [h]
  rfl

end

section
variable {setting : RunSetting} (step : WorkflowStep) {world : StepWorld} (w : Workflow)
variable {created : Dict String Json}

/-- The branch without a record: the field stays. -/
theorem dispatch_of_none (hcp : setting.cpEnabled = true)
    (h : createdRecord world.cp.webhook = none) :
    ∃ w', dispatchCpSubscribeWebhook setting step world w = .ok () w' ∧
      w'.cpWebhook = w.cpWebhook := by
  unfold dispatchCpSubscribeWebhook
  simp only [hcp, h]
  exact ⟨_, rfl, rfl⟩

/-- The branch with a record that is kept. -/
theorem dispatch_of_kept (hcp : setting.cpEnabled = true)
    (h : createdRecord world.cp.webhook = some created)
    (hok : (rememberId [] created).isOk = true) :
    ∃ w', dispatchCpSubscribeWebhook setting step world w = .ok () w' ∧
      w'.cpWebhook = webhookField created
        (webhookUrl setting.playgroundBaseUrl setting.runId) (textList (step.events.getD [])) := by
  unfold dispatchCpSubscribeWebhook
  simp only [hcp, h]
  cases hremember : rememberId w.webhookIds created with
  | ok webhookIds => exact ⟨_, bind_of_ok _ _ (keepWebhook_of_ok _ _ hremember), rfl⟩
  | error exc =>
    rw [rememberId_isOk, ← rememberId_isOk w.webhookIds, hremember] at hok
    cases hok

/-- The branch with a record whose id has no hash: the step raises. -/
theorem dispatch_of_refused (hcp : setting.cpEnabled = true)
    (h : createdRecord world.cp.webhook = some created)
    (herror : (rememberId [] created).isOk = false) :
    ∃ exc, dispatchCpSubscribeWebhook setting step world w = .error exc w := by
  unfold dispatchCpSubscribeWebhook
  simp only [hcp, h]
  cases hremember : rememberId w.webhookIds created with
  | error exc => exact ⟨_, bind_of_error _ _ (keepWebhook_of_error _ _ hremember)⟩
  | ok webhookIds =>
    rw [rememberId_isOk, ← rememberId_isOk w.webhookIds, hremember] at herror
    cases herror

end

section
variable (args : RunArgs) (base : String) {s : TeardownSystem} (now : ℚ)
variable {answer : Option (List (String × Json))} (events : Json) {created : Dict String Json}

/-- An answer that is no record changes nothing. -/
theorem teardownStep_of_none (hbody : s.run.engine = .body) (h : createdRecord answer = none) :
    teardownStep args base s (.subscribe answer events, now) = some s := by
  simp only [teardownStep, hbody, h]

/-- A record whose id can be remembered is stored, and the body goes on. -/
theorem teardownStep_of_kept (hbody : s.run.engine = .body)
    (h : createdRecord answer = some created) (hok : (rememberId [] created).isOk = true) :
    ∃ s', teardownStep args base s (.subscribe answer events, now) = some s' ∧
      s'.run.engine = .body ∧ recordField s'.run.store args.runId "cp_webhook" =
        some (webhookField created (webhookUrl base args.runId) events) := by
  simp only [teardownStep, hbody, h]
  cases hremember : rememberId [] created with
  | error exc => rw [hremember] at hok; cases hok
  | ok ids =>
    obtain ⟨run, hrun⟩ : ∃ run, runStep args s.run (.engine (.webhook (webhookField created
        (webhookUrl base args.runId) events)), now) = some run := by
      simp only [runStep, hbody, EnginePc.move]
      exact ⟨_, rfl⟩
    refine ⟨{ s with run, answers := created :: s.answers }, ?_, recordField_webhook hbody hrun⟩
    simp only [hrun, Option.map_some]

/-- Another one ends the body, and nothing is stored. -/
theorem teardownStep_of_refused (hbody : s.run.engine = .body)
    (h : createdRecord answer = some created) (herror : (rememberId [] created).isOk = false) :
    ∃ s', teardownStep args base s (.subscribe answer events, now) = some s' ∧
      s'.run.engine ≠ .body ∧ s'.run.store = s.run.store := by
  simp only [teardownStep, hbody, h]
  cases hremember : rememberId [] created with
  | ok ids => rw [hremember] at herror; cases herror
  | error exc => exact ⟨_, rfl, nofun, rfl⟩

end

/-- A subscription of the machine is one of the workflow: it leaves the same field, and the
engine goes on in the body if and only if the step returns. -/
theorem subscribe_matches_dispatch {setting : RunSetting} {step : WorkflowStep}
    {world : StepWorld} {w : Workflow} {args : RunArgs} {s : TeardownSystem} (now : ℚ)
    (hcp : setting.cpEnabled = true) (hrunId : setting.runId = args.runId)
    (hbody : s.run.engine = .body)
    (hfield : (recordField s.run.store args.runId "cp_webhook").getD .null = w.cpWebhook) :
    ∃ s', teardownStep args setting.playgroundBaseUrl s
        (.subscribe world.cp.webhook (textList (step.events.getD [])), now) = some s' ∧
      (recordField s'.run.store args.runId "cp_webhook").getD .null =
        ((dispatchCpSubscribeWebhook setting step world).after w).cpWebhook ∧
      (s'.run.engine = .body ↔
        ∃ w', dispatchCpSubscribeWebhook setting step world w = .ok () w') := by
  cases hrecord : createdRecord world.cp.webhook with
  -- No record came back, or an empty one: both go on without a change.
  | none =>
    obtain ⟨w', hdispatch, hkept⟩ := dispatch_of_none step w hcp hrecord
    refine ⟨s, teardownStep_of_none _ _ _ _ hbody hrecord, ?_, fun _ => ⟨w', hdispatch⟩,
      fun _ => hbody⟩
    rw [after_of_ok hdispatch, hkept]
    exact hfield
  | some created =>
    cases hok : (rememberId [] created).isOk with
    | true =>
      obtain ⟨w', hdispatch, hkept⟩ := dispatch_of_kept step w hcp hrecord hok
      obtain ⟨s', hs', hengine, hstored⟩ := teardownStep_of_kept args
        setting.playgroundBaseUrl now (textList (step.events.getD [])) hbody hrecord hok
      refine ⟨s', hs', ?_, fun _ => ⟨w', hdispatch⟩, fun _ => hengine⟩
      rw [after_of_ok hdispatch, hkept, hstored, hrunId]
      rfl
    | false =>
      obtain ⟨exc, hdispatch⟩ := dispatch_of_refused step w hcp hrecord hok
      obtain ⟨s', hs', hengine, hstore⟩ := teardownStep_of_refused args
        setting.playgroundBaseUrl now (textList (step.events.getD [])) hbody hrecord hok
      refine ⟨s', hs', ?_, fun hb => absurd hb hengine, ?_⟩
      -- The field is written after the id is remembered, so it stays.
      · rw [hstore, after_congr (y := throw exc) hdispatch]
        exact hfield
      · rintro ⟨w', hw'⟩
        rw [hdispatch] at hw'
        cases hw'

end AitpPlayground.Proofs.Api
