import AitpPlayground.Api.WebhookSweep

/-!
# `AitpPlayground.Proofs.Api.WebhookSweep`: which webhooks the sweep deletes

The sweep works through a list that the control plane made at one moment, and it tests each id
against `webhook_ids` at another. `SweepInv` says what ties the two: an id in the list was given
before the list was made, so a webhook that this process creates later is not in it
(`SweepInv.doomed` over a `create`). A webhook that was created before the list was made is in
it, and only the set can save it. The set has its id once the record has arrived
(`SweepInv.remembered`).

So `sweep_spares_own` needs `AnsweredWhenSwept`. Without it the webhook of a step that still
waits for its answer is deleted (`sweep_deletes_unanswered`).
-/

set_option autoImplicit false

namespace AitpPlayground.Proofs.Api

open AitpPlayground.Lib
open AitpPlayground.Runner
open AitpPlayground.Api

/-! ### Records and ids -/

/-- The id of a record of the control plane. -/
theorem createdId_newRecord (id url : String) (fields : List (String × Json)) :
    createdId (newRecord id url fields) = .str id := by
  unfold createdId newRecord
  rw [Dict.get?_set_ne _ _ (by decide), Dict.get?_set_self]
  rfl

/-- The sweep reads it from the list. -/
theorem hookId?_toJson {record : Dict String Json} {id : String}
    (h : createdId record = .str id) : hookId? record.toJson = some id := by
  have hget : record.get? "id" = some (.str id) := by
    unfold createdId at h
    cases hid : record.get? "id" with
    | none => rw [hid] at h; cases h
    | some v => rw [hid] at h; exact congrArg some h
  simp only [hookId?, Dict.toJson, Json.dict?, Dict.ofList_entries, Option.bind_some, hget]

/-- The id that the loop reads is the id of the listed webhook. -/
theorem hookId?_of_dict? {hook : Json} {d : Dict String Json} {id : String}
    (hd : hook.dict? = some d) (hid : d.get? "id" = some (.str id)) : hookId? hook = some id := by
  simp only [hookId?, hd, Option.bind_some, hid]

/-- The list has the records that are objects. -/
theorem listWebhooks_body (hooks : List Json) :
    listWebhooks (.obj [("webhooks", .arr hooks)]) = some (hooks.filterMap Json.dict?) := rfl

/-- The sweep deletes an id that it has read off the hook and not found in the set. -/
theorem staleId_eq_some {base : String} {webhookIds : List Json} {hook : Dict String Json}
    {id : String} (h : staleId base webhookIds hook = some id) :
    hook.get? "id" = some (.str id) ∧ .str id ∉ webhookIds := by
  unfold staleId at h
  split at h
  case h_1 hookId url hid hurl =>
    split at h
    case isTrue => cases h
    case isFalse hfree =>
      cases h
      refine ⟨hid, ?_⟩
      intro hmem
      simp [hmem] at hfree
  case h_2 => cases h

/-- The set only grows when a step gets its answer. -/
theorem mem_afterCreate {webhookIds : List Json} {id : Json} (created : Option (Dict String Json))
    (h : id ∈ webhookIds) : id ∈ afterCreate webhookIds created := by
  unfold afterCreate
  split
  case h_1 record hrecord =>
    cases hr : rememberId webhookIds record with
    | error exc => exact h
    | ok ids =>
      show id ∈ ids
      unfold rememberId at hr
      split at hr
      · obtain ⟨key, -, hr⟩ := except_bind_eq_ok.mp hr
        cases hr
        exact List.mem_cons_of_mem _ h
      · cases hr
        exact h
  case h_2 => exact h

/-- The record of a webhook brings its id into the set. -/
theorem mem_afterCreate_self (webhookIds : List Json) {record : Dict String Json} {id : String}
    (h : createdId record = .str id) (hne : id ≠ "") :
    .str id ∈ afterCreate webhookIds (some record) := by
  have hentries : record.entries.isEmpty = false := by
    cases hrec : record.entries with
    | cons e rest => rfl
    | nil =>
      unfold createdId Dict.get? at h
      rw [hrec] at h
      cases h
  -- A text that is not empty is true, and it has a hash.
  have hremember : rememberId webhookIds record = .ok (.str id :: webhookIds) := by
    unfold rememberId
    rw [h, if_pos (by simpa [Json.truthy] using hne)]
    rfl
  have hsome : (some record).filter (fun created => !created.entries.isEmpty) = some record := by
    simp [hentries]
  simp only [afterCreate, hsome, hremember]
  exact List.mem_cons_self

/-! ### The invariant -/

/-- The hooks that the sweep has not come to yet. -/
def pendingHooks : SweepPc → List (Dict String Json)
  | .listed body => (listWebhooks body).getD []
  | .loop hooks _ | .deleting hooks _ => hooks
  | _ => []

/-- The invariant of the sweep. -/
structure SweepInv (s : SweepSystem) : Prop where
  own : ∀ id ∈ s.ownIds, ∃ text ∈ s.given, id = .str text
  /-- The set has the id of every record that arrived. -/
  remembered : ∀ c ∈ s.creates, c.answer = some true → ∃ text,
    c.record.map createdId = some (.str text) ∧ (text ≠ "" → .str text ∈ s.webhookIds)
  hooks : ∀ hook ∈ s.hooks, ∀ id, hookId? hook = some id → id ∈ s.given
  /-- The list has no id that was given after it was made. -/
  listed : ∀ hook ∈ pendingHooks s.sweep, ∀ id, hook.get? "id" = some (.str id) → id ∈ s.given
  doomed : ∀ id, id ∈ s.deletes ∨ id ∈ s.swept → id ∈ s.given ∧ .str id ∉ s.ownIds

/-- The invariant holds at the start. -/
theorem sweepInv_start (hooks : List Json) (given : List String) :
    SweepInv (.start hooks given) := by
  refine ⟨nofun, nofun, ?_, nofun, ?_⟩
  · intro hook hhook id hid
    exact List.mem_append_left _ (List.mem_filterMap.mpr ⟨hook, hhook, hid⟩)
  · rintro id (hid | hid) <;> cases hid

/-- The own ids are those of the records that were created. -/
theorem mem_ownIds {s : SweepSystem} {id : Json} :
    id ∈ s.ownIds ↔ ∃ c ∈ s.creates, c.record.map createdId = some id := List.mem_filterMap

namespace SweepInv

variable {s : SweepSystem}

/-- The sweep moves, and nothing else does. -/
theorem move (h : SweepInv s) {sweep : SweepPc}
    (hlisted : ∀ hook ∈ pendingHooks sweep, ∀ id, hook.get? "id" = some (.str id) →
      id ∈ s.given) : SweepInv { s with sweep } :=
  ⟨h.own, h.remembered, h.hooks, hlisted, h.doomed⟩

/-- The loop goes on without a hook. -/
theorem skip (h : SweepInv s) {hook : Dict String Json} {rest : List (Dict String Json)}
    {deleted : Nat} (hsweep : s.sweep = .loop (hook :: rest) deleted) :
    ∀ hook ∈ rest, ∀ id, hook.get? "id" = some (.str id) → id ∈ s.given := by
  intro hook' hhook'
  refine h.listed hook' ?_
  rw [hsweep]
  exact List.mem_cons_of_mem _ hhook'

/-- The control plane loses webhooks. -/
theorem lose (h : SweepInv s) (id : String) : SweepInv { s with hooks := s.without id } :=
  ⟨h.own, h.remembered, fun hook hhook => h.hooks hook (List.mem_filter.mp hhook).1, h.listed,
    h.doomed⟩

/-- A new create has no record yet. -/
theorem subscribe (h : SweepInv s) (url : String) :
    SweepInv { s with creates := s.creates ++ [{ url, record := none, answer := none }] } := by
  -- A request that is not processed has no id yet.
  have hown : ∀ {id}, id ∈ SweepSystem.ownIds
      { s with creates := s.creates ++ [{ url, record := none, answer := none }] } →
        id ∈ s.ownIds := by
    intro id hid
    simpa [SweepSystem.ownIds] using hid
  refine ⟨fun id hid => h.own id (hown hid), ?_, h.hooks, h.listed, ?_⟩
  · intro c hc hanswer
    rcases List.mem_append.mp hc with hc | hc
    · exact h.remembered c hc hanswer
    · obtain rfl := List.mem_singleton.mp hc
      cases hanswer
  · intro id hid
    obtain ⟨hgiven, hfree⟩ := h.doomed id hid
    exact ⟨hgiven, fun hmem => hfree (hown hmem)⟩

/-- The control plane makes a webhook of this process, with an id that it never gave. -/
theorem create (h : SweepInv s) {i : Nat} {url : String} {answer : Option Bool} {id : String}
    (fields : List (String × Json)) (hcall : s.creates[i]? = some ⟨url, none, answer⟩)
    (hnew : id ∉ s.given) :
    SweepInv { s with
      creates := s.creates.set i ⟨url, some (newRecord id url fields), answer⟩
      hooks := s.hooks ++ [(newRecord id url fields).toJson]
      given := id :: s.given } := by
  have hown : ∀ {x}, x ∈ SweepSystem.ownIds { s with
      creates := s.creates.set i ⟨url, some (newRecord id url fields), answer⟩
      hooks := s.hooks ++ [(newRecord id url fields).toJson]
      given := id :: s.given } → x ∈ s.ownIds ∨ x = .str id := by
    intro x hx
    obtain ⟨c, hc, hrecord⟩ := mem_ownIds.mp hx
    rcases List.mem_or_eq_of_mem_set hc with hc | rfl
    · exact .inl (mem_ownIds.mpr ⟨c, hc, hrecord⟩)
    · right
      simpa [createdId_newRecord, eq_comm] using hrecord
  refine ⟨?_, ?_, ?_, ?_, ?_⟩
  · intro x hx
    rcases hown hx with hx | rfl
    · obtain ⟨text, hgiven, rfl⟩ := h.own x hx
      exact ⟨text, List.mem_cons_of_mem _ hgiven, rfl⟩
    · exact ⟨id, List.mem_cons_self, rfl⟩
  · intro c hc hanswer
    rcases List.mem_or_eq_of_mem_set hc with hc | rfl
    · exact h.remembered c hc hanswer
    · -- A record does not arrive before it is made.
      obtain ⟨text, hrecord, -⟩ := h.remembered _ (List.mem_of_getElem? hcall) hanswer
      cases hrecord
  · intro hook hhook x hx
    rcases List.mem_append.mp hhook with hhook | hhook
    · exact List.mem_cons_of_mem _ (h.hooks hook hhook x hx)
    · obtain rfl := List.mem_singleton.mp hhook
      rw [hookId?_toJson (createdId_newRecord id url fields)] at hx
      cases hx
      exact List.mem_cons_self
  · intro hook hhook x hx
    exact List.mem_cons_of_mem _ (h.listed hook hhook x hx)
  · -- What is deleted was given before, so it is not the new id.
    intro x hx
    obtain ⟨hgiven, hfree⟩ := h.doomed x hx
    refine ⟨List.mem_cons_of_mem _ hgiven, ?_⟩
    intro hmem
    rcases hown hmem with hmem | heq
    · exact hfree hmem
    · cases heq
      exact hnew hgiven

/-- A step goes on with the answer to its request. -/
theorem answer (h : SweepInv s) {i : Nat} {url : String} {record : Option (Dict String Json)}
    {arrives : Bool} (hcall : s.creates[i]? = some ⟨url, record, none⟩)
    (harrives : (arrives && record.isNone) = false) :
    SweepInv { s with
      creates := s.creates.set i ⟨url, record, some arrives⟩
      webhookIds := afterCreate s.webhookIds (if arrives then record else none) } := by
  have hmem := List.mem_of_getElem? hcall
  have hown : ∀ {x}, x ∈ SweepSystem.ownIds { s with
      creates := s.creates.set i ⟨url, record, some arrives⟩
      webhookIds := afterCreate s.webhookIds (if arrives then record else none) } →
        x ∈ s.ownIds := by
    intro x hx
    obtain ⟨c, hc, hrecord⟩ := mem_ownIds.mp hx
    rcases List.mem_or_eq_of_mem_set hc with hc | rfl
    · exact mem_ownIds.mpr ⟨c, hc, hrecord⟩
    · exact mem_ownIds.mpr ⟨_, hmem, hrecord⟩
  refine ⟨fun x hx => h.own x (hown hx), ?_, h.hooks, h.listed, ?_⟩
  · intro c hc hanswer
    rcases List.mem_or_eq_of_mem_set hc with hc | rfl
    · obtain ⟨text, hrecord, hin⟩ := h.remembered c hc hanswer
      exact ⟨text, hrecord, fun hne => mem_afterCreate _ (hin hne)⟩
    -- The record of the control plane has arrived, and its id goes into the set.
    · cases hanswer
      cases record with
      | none => cases harrives
      | some record =>
        obtain ⟨text, -, hid⟩ := h.own (createdId record) (mem_ownIds.mpr ⟨_, hmem, rfl⟩)
        exact ⟨text, congrArg some hid, fun hne => mem_afterCreate_self _ hid hne⟩
  · intro x hx
    obtain ⟨hgiven, hfree⟩ := h.doomed x hx
    exact ⟨hgiven, fun hx => hfree (hown hx)⟩

/-- The loop at a hook. If the hook is a webhook of this process, its record has arrived, so
the set has its id. -/
theorem hook (h : SweepInv s) {base : String} {hook : Dict String Json}
    {rest : List (Dict String Json)} {deleted : Nat}
    (hsweep : s.sweep = .loop (hook :: rest) deleted)
    (hanswered : AnsweredAt s (.loop (hook :: rest) deleted)) :
    SweepInv (sweepHook base s hook rest deleted) := by
  unfold sweepHook
  split
  case h_2 => exact h.move (h.skip hsweep)
  case h_1 id hstale =>
    split
    case isTrue => exact h.move (h.skip hsweep)
    case isFalse hne =>
      obtain ⟨hid, hfree⟩ := staleId_eq_some hstale
      have hgiven : id ∈ s.given := by
        refine h.listed hook ?_ id hid
        rw [hsweep]
        exact List.mem_cons_self
      -- If the hook were a webhook of this process, the set would have its id.
      have hother : .str id ∉ s.ownIds := by
        intro hmem
        obtain ⟨c, hc, hrecord⟩ := mem_ownIds.mp hmem
        have harrived : c.answer = some true := hanswered c hc (by rw [hrecord, hid]; rfl)
        obtain ⟨text, htext, hin⟩ := h.remembered c hc harrived
        rw [hrecord] at htext
        cases htext
        exact hfree (hin hne)
      refine ⟨h.own, h.remembered, h.hooks, h.skip hsweep, ?_⟩
      rintro x (hx | hx)
      · rcases List.mem_cons.mp hx with rfl | hx
        · exact ⟨hgiven, hother⟩
        · exact h.doomed x (.inl hx)
      · exact h.doomed x (.inr hx)

end SweepInv

/-- A step keeps the invariant. -/
theorem sweepInv_step {base : String} {s s' : SweepSystem} {l : SweepLabel} (h : SweepInv s)
    (hok : AnsweredWhenSwept s l) (hs : sweepStep base s l = some s') : SweepInv s' := by
  cases l with
  | subscribe runId =>
    cases hs
    exact h.subscribe _
  | create i id fields =>
    simp only [sweepStep] at hs
    split at hs
    case h_1 url answer hcall =>
      split at hs
      case isTrue => cases hs
      case isFalse hnew =>
        cases hs
        exact h.create fields hcall hnew
    case h_2 => cases hs
  | answer i arrives =>
    simp only [sweepStep] at hs
    split at hs
    case h_1 url record hcall =>
      split at hs
      case isTrue => cases hs
      case isFalse harrives =>
        cases hs
        exact h.answer hcall (Bool.eq_false_iff.mpr harrives)
    case h_2 => cases hs
  | list =>
    simp only [sweepStep] at hs
    split at hs <;> cases hs
    exact h.move nofun
  | processList =>
    simp only [sweepStep] at hs
    split at hs <;> cases hs
    refine h.move ?_
    -- The list is what the control plane has now.
    intro hook hhook id hid
    rw [pendingHooks, listWebhooks_body] at hhook
    obtain ⟨raw, hraw, hdict⟩ := List.mem_filterMap.mp hhook
    exact h.hooks raw hraw id (hookId?_of_dict? hdict hid)
  | listed arrives =>
    simp only [sweepStep] at hs
    split at hs <;> cases hs
    case h_1 body hsweep =>
      refine h.move ?_
      -- The loop starts with the hooks of the body.
      have hlisted := h.listed
      rw [hsweep] at hlisted
      intro hook hhook
      refine hlisted hook ?_
      cases hbody : listWebhooks body with
      | none => rw [hbody] at hhook; cases hhook
      | some hooks =>
        rw [hbody] at hhook
        show hook ∈ (listWebhooks body).getD []
        rw [hbody]
        exact hhook
    case h_2 | h_3 => exact h.move nofun
  | next =>
    simp only [sweepStep] at hs
    split at hs <;> cases hs
    case h_1 deleted hsweep => exact h.move nofun
    case h_2 hook rest deleted hsweep =>
      simp only [AnsweredWhenSwept, hsweep] at hok
      exact h.hook hsweep hok
  | processDelete id =>
    simp only [sweepStep] at hs
    split at hs
    case isTrue hmem =>
      cases hs
      -- The id goes from the requests to the swept ones: it was doomed before.
      have hlose := h.lose id
      refine ⟨hlose.own, hlose.remembered, hlose.hooks, hlose.listed, ?_⟩
      rintro x (hx | hx)
      · exact h.doomed x (.inl (List.mem_of_mem_erase hx))
      · rcases List.mem_cons.mp hx with rfl | hx
        · exact h.doomed x (.inl hmem)
        · exact h.doomed x (.inr hx)
    case isFalse => cases hs
  | deleted success =>
    simp only [sweepStep] at hs
    split at hs <;> cases hs
    case h_1 rest deleted hsweep =>
      refine h.move ?_
      have hlisted := h.listed
      rw [hsweep] at hlisted
      exact hlisted
  | remove id =>
    cases hs
    exact h.lose id

/-- The invariant holds in every run whose creates are answered before the sweep comes to them. -/
theorem sweepInv_reach {base : String} {hooks : List Json} {given : List String} {s : SweepSystem}
    (h : Reach (sweepStep base) AnsweredWhenSwept (.start hooks given) s) : SweepInv s :=
  h.invariant (fun _ _ _ hinv hok hs => sweepInv_step hinv hok hs) (sweepInv_start hooks given)

/-! ### The sweep spares this process -/

/-- **The sweep deletes no webhook of this process**, with any webhooks left by others and any
order of the messages, in every run where the record of a webhook has arrived when the sweep
comes to it. -/
theorem sweep_spares_own {base : String} {hooks : List Json} {given : List String}
    {s : SweepSystem}
    (h : Reach (sweepStep base) AnsweredWhenSwept (.start hooks given) s) :
    ∀ id ∈ s.swept, .str id ∉ s.ownIds :=
  fun id hid => ((sweepInv_reach h).doomed id (.inr hid)).2

/-- A webhook of an earlier process. -/
def leftOver : Json :=
  .obj [("id", .str "wh-0"), ("url", .str "http://playground/webhooks/cp/run-0")]

/-- A run in which the record arrives while the sweep deletes a webhook of an earlier
process. -/
theorem sweep_spares_own_answered :
    ∃ s, Reach (sweepStep "http://playground/") AnsweredWhenSwept (.start [leftOver] []) s ∧
      s.swept = ["wh-0"] ∧ s.ownIds = [.str "wh-1"] ∧
      ∀ id ∈ s.swept, .str id ∉ s.ownIds := by
  have hexec : (exec (sweepStep "http://playground/") AnsweredWhenSwept (.start [leftOver] [])
      [.list, .subscribe "run-1", .create 0 "wh-1" [("secret", .str "s")], .processList,
       .listed true, .next, .answer 0 true, .processDelete "wh-0", .deleted true, .next,
       .next]).map (fun s => (s.swept, s.ownIds)) = some (["wh-0"], [.str "wh-1"]) := by
    decide +kernel
  obtain ⟨s, hrun, heq⟩ := exists_reach_of_exec hexec
  obtain ⟨hswept, hown⟩ := Prod.mk.inj heq
  exact ⟨s, hrun, hswept, hown, sweep_spares_own hrun⟩

/-- The property fails when the sweep comes to a webhook whose record has not arrived. The
control plane creates `wh-1` and lists it, and the step still waits for the answer when the
sweep sends the request to delete it. -/
theorem sweep_deletes_unanswered :
    ¬ ∀ (base : String) (hooks : List Json) (given : List String) (s : SweepSystem),
      Reach (sweepStep base) anyStep (.start hooks given) s →
        ∀ id ∈ s.swept, .str id ∉ s.ownIds := by
  intro hall
  -- The answer arrives last, after the control plane has deleted the webhook.
  have hexec : (exec (sweepStep "http://playground/") anyStep (.start [] [])
      [.subscribe "run-1", .list, .create 0 "wh-1" [], .processList, .listed true, .next,
       .processDelete "wh-1", .answer 0 true]).map (fun s => (s.swept, s.ownIds)) =
      some (["wh-1"], [.str "wh-1"]) := by decide +kernel
  obtain ⟨s, hrun, heq⟩ := exists_reach_of_exec hexec
  obtain ⟨hswept, hown⟩ := Prod.mk.inj heq
  refine hall _ _ _ s hrun "wh-1" ?_ ?_
  · simp [hswept]
  · simp [hown]

end AitpPlayground.Proofs.Api
