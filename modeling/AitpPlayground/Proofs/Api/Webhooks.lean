import AitpPlayground.Api.Webhooks
import AitpPlayground.Proofs.Runner.Store

/-!
# `AitpPlayground.Proofs.Api.Webhooks`: when a delivery is recorded once

The check for a duplicate reads the record object that the request fetched before it waited
for its body. While no update replaces that object, it is the one that deliveries are
appended to, and the check sees them all. After an update the request holds a copy that no
delivery reaches any more. Two requests that wait across one update can then record one id
twice (`delivery_recorded_twice_after_upsert`).

`WebhookOk` excludes exactly that: an id that was recorded since the request lost sight of the
record. The check compares ids by `==`, and NaN is not equal to itself, so a NaN that was
recorded is excluded too. A delivery without an id, neither in the body nor in the header, is not
checked at all, so `RecordedOnce` speaks of the ids that the route takes for one.
-/

set_option autoImplicit false

namespace AitpPlayground.Proofs.Api

open AitpPlayground.Lib
open AitpPlayground.Runner
open AitpPlayground.Api
open AitpPlayground.Proofs.Runner

variable {py : PyLib} {hmacHex : String → List UInt8 → String} {runId : String}
  {s s' : WebhookSystem}

/-! ### The statement -/

/-- No two deliveries of the list have one id, neither as values nor by `==`. -/
def RecordedOnce (recorded : List Event) : Prop :=
  recorded.Pairwise fun e e' =>
    (idOf e').truthy = true → idOf e ≠ idOf e' ∧ (idOf e).pyEq (idOf e') = false

/-- The deliveries recorded since the record object with this number was replaced. -/
def missed (s : WebhookSystem) (n : Nat) : List Event :=
  if n = s.replaced.length then []
  else s.recorded.drop (((s.replaced[n]?).map Replaced.recorded).getD 0)

/-- The id was not recorded since the record object was replaced, and if it is NaN, not at all. -/
def SeesRecorded (s : WebhookSystem) (n : Nat) (id : Json) : Prop :=
  (∀ e ∈ missed s n, idOf e ≠ id ∧ (idOf e).pyEq id = false) ∧
    (id = .num (.float .nan) → ∀ e ∈ s.recorded, idOf e ≠ id)

instance (s : WebhookSystem) (n : Nat) (id : Json) : Decidable (SeesRecorded s n id) :=
  inferInstanceAs (Decidable (_ ∧ _))

/-- What a request that resumes has to meet, when its delivery passes the checks and has an id. -/
def ResumeOk (py : PyLib) (hmacHex : String → List UInt8 → String) (s : WebhookSystem)
    (raw : List UInt8) (now : ℚ) : Option WebhookPc → Prop
  | some (.waiting n secret headers) =>
    ∀ body ∈ (verifyDelivery py hmacHex secret headers raw now).toOption,
      (deliveryId body headers).truthy = true → SeesRecorded s n (deliveryId body headers)
  | _ => True

instance (s : WebhookSystem) (raw : List UInt8) (now : ℚ) :
    (p : Option WebhookPc) → Decidable (ResumeOk py hmacHex s raw now p)
  | some (.waiting _ _ _) => inferInstanceAs (Decidable (∀ body ∈ Except.toOption _, _ → _))
  | some (.replied _) => isTrue trivial
  | none => isTrue trivial

/-- What a move has to meet. -/
def WebhookOk (py : PyLib) (hmacHex : String → List UInt8 → String) (s : WebhookSystem)
    (l : WebhookLabel × ℚ) : Prop :=
  match l with
  | (.resume i raw, now) => ResumeOk py hmacHex s raw now (s.requests.get? i)
  | _ => True

instance (s : WebhookSystem) (l : WebhookLabel × ℚ) : Decidable (WebhookOk py hmacHex s l) :=
  match l with
  | (.resume i raw, now) =>
    inferInstanceAs (Decidable (ResumeOk py hmacHex s raw now (s.requests.get? i)))
  | (.write _ _, _) | (.arrive _ _, _) | (.append, _) => isTrue trivial

/-! ### The event of a delivery -/

section
variable (runId : String) (body : Dict String Json) (headers : WebhookHeaders) (now : ℚ)

/-- The event has each of its fields. -/
theorem get?_deliveredEvent {key : String} {value : Json}
    (h : (key, value) ∈ (deliveredEvent runId body headers now).entries) :
    (deliveredEvent runId body headers now).get? key = some value :=
  (Dict.get?_eq_some_iff _ _ _).mpr h

/-- The event is one of a delivery. -/
theorem isDelivered_deliveredEvent :
    isDelivered (deliveredEvent runId body headers now) = true :=
  decide_eq_true (get?_deliveredEvent runId body headers now (.head _))

/-- The id of the event is the one that was checked. -/
theorem idOf_deliveredEvent :
    idOf (deliveredEvent runId body headers now) = deliveryId body headers := by
  unfold idOf
  rw [get?_deliveredEvent runId body headers now (.tail _ (.tail _ (.tail _ (.head _))))]
  rfl

end

/-- A check that finds no duplicate: the id is none of the ids in the list. -/
theorem pyEq_of_isDuplicate {events : List Event} {id : Json} {e : Event}
    (hdup : isDuplicate events id = false) (htruthy : id.truthy = true) (he : e ∈ events)
    (hdel : isDelivered e = true) : (idOf e).pyEq id = false := by
  simp only [isDuplicate, htruthy, Bool.true_and, List.any_eq_false] at hdup
  simpa [hdel] using hdup e he

/-! ### The invariant -/

/-- The current record and every replaced one have the deliveries recorded by their time,
and the delivery that is about to be appended is new. -/
structure WebhookInv (runId : String) (s : WebhookSystem) : Prop where
  sublist : s.recorded.Sublist (s.store.log runId)
  marks : ∀ old ∈ s.replaced, old.recorded ≤ s.recorded.length
  replaced : ∀ old ∈ s.replaced, ∀ e ∈ s.recorded.take old.recorded, e ∈ old.record.events
  delivered : ∀ e ∈ s.recorded, isDelivered e = true
  once : RecordedOnce s.recorded
  appending : ∀ i e, s.appending = some (i, e) → isDelivered e = true ∧
    ((idOf e).truthy = true →
      ∀ e' ∈ s.recorded, idOf e' ≠ idOf e ∧ (idOf e').pyEq (idOf e) = false)

/-- What a request missed is the only thing that is recorded and not in the object it holds. -/
theorem mem_object_or_missed {n : Nat} (hs : WebhookInv runId s) {e : Event}
    (he : e ∈ s.recorded) :
    e ∈ ((s.object runId n).map Record.events).getD [] ∨ e ∈ missed s n := by
  unfold WebhookSystem.object missed
  by_cases hcurrent : n = s.replaced.length
  · rw [if_pos hcurrent]
    exact .inl (hs.sublist.subset he)
  rw [if_neg hcurrent, if_neg hcurrent]
  cases hold : s.replaced[n]? with
  | none => exact .inr he
  | some old =>
    -- The object has the deliveries up to its mark.
    rw [← List.take_append_drop old.recorded s.recorded] at he
    exact (List.mem_append.mp he).imp_left (hs.replaced old (List.mem_of_getElem? hold) e)

/-- The id of a request that goes on is not recorded. -/
theorem distinct_of_seesRecorded {n : Nat} {id : Json} (hs : WebhookInv runId s)
    (hdup : isDuplicate (((s.object runId n).map Record.events).getD []) id = false)
    (htruthy : id.truthy = true) (hsees : SeesRecorded s n id) {e : Event}
    (he : e ∈ s.recorded) : idOf e ≠ id ∧ (idOf e).pyEq id = false := by
  rcases mem_object_or_missed (n := n) hs he with hin | hmissed
  · have hnot := pyEq_of_isDuplicate hdup htruthy hin (hs.delivered e he)
    refine ⟨fun heq => ?_, hnot⟩
    -- A value that is not NaN is equal to itself, so the ids differ as values too.
    by_cases hnan : id = .num (.float .nan)
    · exact hsees.2 hnan e he heq
    · rw [heq, Json.pyEq_self hnan] at hnot
      cases hnot
  · exact hsees.1 e hmissed

/-- The invariant says nothing about where the requests are. -/
theorem webhookInv_requests (hs : WebhookInv runId s) (requests : Dict Nat WebhookPc) :
    WebhookInv runId { s with requests } :=
  ⟨hs.sublist, hs.marks, hs.replaced, hs.delivered, hs.once, hs.appending⟩

/-- A store call only extends the log of a run. -/
theorem exists_log_call (store : RunStore Event) (runId r : String) (c : RunStore.Call Event)
    (now : ℚ) : ∃ added, (store.call r now c).1.log runId = store.log runId ++ added := by
  cases c with
  | get => exact ⟨[], (List.append_nil _).symm⟩
  | upsert record => exact ⟨_, log_mergeLocked_other store r runId record now⟩
  | upsertUnlessCancelled record =>
    simp only [RunStore.call, RunStore.upsertUnlessCancelled]
    -- A cancelled run is not written.
    by_cases h : store.status r = some (.str "cancelled")
    · rw [if_pos h]
      exact ⟨[], (List.append_nil _).symm⟩
    · rw [if_neg h]
      exact ⟨_, log_mergeLocked_other store r runId record now⟩
  | appendEvent event => exact ⟨_, log_appendEvent_other store r runId event now⟩

/-- Another writer keeps the invariant: an object it replaces has every delivery recorded by
then. -/
theorem webhookInv_write {r : String} {c : RunStore.Call Event} {now : ℚ}
    (hs : WebhookInv runId s) : WebhookInv runId (s.write runId r c now) := by
  -- At most one more object is replaced: the one that the store has now.
  have hold : ∀ old ∈ (s.write runId r c now).replaced,
      old ∈ s.replaced ∨ (s.store.get runId = some old.record ∧
        old.recorded = s.recorded.length) := by
    intro old hmem
    rcases List.mem_append.mp hmem with h | h
    · exact .inl h
    · obtain ⟨record, hrec, rfl⟩ := List.mem_map.mp h
      have hget := (List.mem_ite_nil_right.mp hrec).2
      exact .inr ⟨Option.mem_toList.mp hget, rfl⟩
  refine ⟨?_, ?_, ?_, hs.delivered, hs.once, hs.appending⟩
  · obtain ⟨added, hadded⟩ := exists_log_call s.store runId r c now
    show s.recorded.Sublist ((s.store.call r now c).1.log runId)
    rw [hadded]
    exact hs.sublist.trans (List.sublist_append_left _ _)
  · intro old hmem
    rcases hold old hmem with h | ⟨-, h⟩
    · exact hs.marks old h
    · exact h.le
  · intro old hmem e he
    rcases hold old hmem with h | ⟨hget, -⟩
    · exact hs.replaced old h e he
    · have hlog : s.store.log runId = old.record.events := by
        simp [RunStore.log, hget]
      rw [← hlog]
      exact hs.sublist.subset (List.mem_of_mem_take he)

/-- A request that resumes keeps the invariant: what it is about to append is new. -/
theorem webhookInv_resume {i : Nat} {raw : List UInt8} {now : ℚ} (hs : WebhookInv runId s)
    (hok : ResumeOk py hmacHex s raw now (s.requests.get? i))
    (hstep : s.resume py hmacHex runId i raw now = some s') : WebhookInv runId s' := by
  unfold WebhookSystem.resume at hstep
  cases hreq : s.requests.get? i with
  | none => simp [hreq] at hstep
  | some p =>
    cases p with
    | replied reply => simp [hreq] at hstep
    | waiting n secret headers =>
      rw [hreq] at hok
      simp only [hreq] at hstep
      cases hver : verifyDelivery py hmacHex secret headers raw now with
      -- A delivery that does not verify is answered, and nothing is recorded.
      | error reply =>
        rw [hver] at hstep
        cases hstep
        exact webhookInv_requests hs _
      | ok body =>
        rw [hver] at hstep
        simp only at hstep
        have hsees := hok body (by rw [hver]; rfl)
        cases hdup : isDuplicate (((s.object runId n).map Record.events).getD [])
            (deliveryId body headers) with
        | true =>
          rw [hdup] at hstep
          cases hstep
          exact webhookInv_requests hs _
        | false =>
          rw [hdup] at hstep
          cases hstep
          refine ⟨hs.sublist, hs.marks, hs.replaced, hs.delivered, hs.once, ?_⟩
          intro j e he
          cases he
          refine ⟨isDelivered_deliveredEvent runId body headers now, ?_⟩
          rw [idOf_deliveredEvent]
          intro htruthy e' he'
          exact distinct_of_seesRecorded hs hdup htruthy (hsees htruthy) he'

/-- The append of a delivery keeps the invariant. -/
theorem webhookInv_append {now : ℚ} (hs : WebhookInv runId s)
    (hstep : s.append runId now = some s') : WebhookInv runId s' := by
  unfold WebhookSystem.append at hstep
  cases happ : s.appending with
  | none => simp [happ] at hstep
  | some p =>
    obtain ⟨i, event⟩ := p
    simp only [happ, Option.some.injEq] at hstep
    subst hstep
    obtain ⟨hdel, hnew⟩ := hs.appending i event happ
    refine ⟨?_, ?_, ?_, ?_, ?_, ?_⟩
    · show (s.recorded ++ [event]).Sublist ((s.store.appendEvent runId event now).1.log runId)
      rw [log_appendEvent]
      exact hs.sublist.append (List.Sublist.refl _)
    · intro old hmem
      have hle := hs.marks old hmem
      show old.recorded ≤ (s.recorded ++ [event]).length
      rw [List.length_append]
      omega
    · intro old hmem e he
      have he' : e ∈ (s.recorded ++ [event]).take old.recorded := he
      -- An object that was replaced before has the deliveries up to its mark.
      rw [List.take_append_of_le_length (hs.marks old hmem)] at he'
      exact hs.replaced old hmem e he'
    · intro e he
      rcases List.mem_append.mp he with h | h
      · exact hs.delivered e h
      · rw [List.mem_singleton.mp h]
        exact hdel
    · refine List.pairwise_append.mpr ⟨hs.once, List.pairwise_singleton _ _, ?_⟩
      intro e he e' he'
      rw [List.mem_singleton.mp he']
      exact fun htruthy => hnew htruthy e he
    · intro j e he
      cases he

/-- Every move that meets the condition keeps the invariant. -/
theorem webhookInv_step (l : WebhookLabel × ℚ) (hs : WebhookInv runId s)
    (hok : WebhookOk py hmacHex s l) (hstep : webhookStep py hmacHex runId s l = some s') :
    WebhookInv runId s' := by
  obtain ⟨label, now⟩ := l
  cases label with
  | write r c =>
    cases hstep
    exact webhookInv_write hs
  | arrive i headers =>
    simp only [webhookStep] at hstep
    split at hstep
    · cases hstep
      unfold WebhookSystem.arrive
      cases webhookSecret (s.store.get runId) with
      | error reply => exact webhookInv_requests hs _
      | ok secret => exact webhookInv_requests hs _
    · cases hstep
  | resume i raw =>
    simp only [webhookStep] at hstep
    -- A request resumes when no other one is about to append.
    by_cases hfree : s.appending.isNone = true
    · rw [if_pos hfree] at hstep
      exact webhookInv_resume hs hok hstep
    · rw [if_neg hfree] at hstep
      cases hstep
  | append => exact webhookInv_append hs hstep

/-- The invariant holds at the start. -/
theorem webhookInv_start {store : RunStore Event}
    (h : RecordedOnce ((store.log runId).filter isDelivered)) :
    WebhookInv runId (WebhookSystem.start runId store) := by
  refine ⟨List.filter_sublist, ?_, ?_, ?_, h, ?_⟩
  · intro old hold
    cases hold
  · intro old hold
    cases hold
  · intro e he
    exact (List.mem_filter.mp he).2
  · intro i e he
    cases he

/-- Requests start on a store whose log has every id once, and every request that resumes
meets `WebhookOk`. Then no id is recorded twice, and what was recorded is in the log in that
order. -/
theorem deliveries_recorded_once (py : PyLib) (hmacHex : String → List UInt8 → String)
    (runId : String) (store : RunStore Event)
    (hstore : RecordedOnce ((store.log runId).filter isDelivered)) (s : WebhookSystem)
    (hrun : Reach (webhookStep py hmacHex runId) (WebhookOk py hmacHex)
      (WebhookSystem.start runId store) s) :
    RecordedOnce s.recorded ∧ s.recorded.Sublist (s.store.log runId) := by
  have hinv : WebhookInv runId s :=
    Reach.invariant (fun _ l _ hs hok hstep => webhookInv_step l hs hok hstep) hrun
      (webhookInv_start hstore)
  exact ⟨hinv.once, hinv.sublist⟩

/-! ### Concrete runs -/

/-- The bytes of a text in ASCII. -/
def asciiBytes (text : String) : List UInt8 := text.toList.map fun c => UInt8.ofNat c.toNat

/-- The text of a delivery with the id `"d"`. -/
def deliveryText : String := "\x7b\"deliveryId\":\"d\"\x7d"

/-- The bytes of `deliveryText`. -/
def deliveryBytes : List UInt8 := asciiBytes deliveryText

/-- The text of a delivery with the id `"e"`. -/
def otherText : String := "\x7b\"deliveryId\":\"e\"\x7d"

/-- A library that reads the timestamp and the bodies of the requests below. -/
def deliveryLib : PyLib :=
  { PyLib.reading [(deliveryText, .obj [("deliveryId", .str "d")]),
        (otherText, .obj [("deliveryId", .str "e")]), ("{}", .obj [])] with
      utf8Decode := fun raw =>
        match [deliveryText, otherText, "{}"].find? fun text => raw = asciiBytes text with
        | some text => .ok text
        | none => .error (.valueError "invalid start byte" none)
      intOfStr := fun s =>
        if s = "0" then .ok 0 else .error (.valueError "invalid literal for int()" none) }

/-- The signature of every text is `"s"`. -/
def oneHmac (_ : String) (_ : List UInt8) : String := "s"

/-- Headers that verify under `oneHmac`. -/
def signedHeaders : WebhookHeaders :=
  ⟨some "sha256=s", none, none, some "0", some "sha256=s"⟩

/-- A run with a webhook secret. -/
def subscribedStore : RunStore Event :=
  RunStore.new.upsert "r" (Record.ofScalar "cp_webhook" (.obj [("secret", .str "k")])) 0

/-- Requests with two ids and one without any, which all wait across an update, and a request with
the first id that comes later. -/
def separateRequests : List (WebhookLabel × ℚ) :=
  [(.arrive 0 signedHeaders, 0), (.arrive 1 signedHeaders, 0), (.arrive 2 signedHeaders, 0),
   (.write "r" (.upsert (Record.ofScalar "status" (.str "success"))), 0),
   (.resume 0 deliveryBytes, 0), (.append, 0),
   (.resume 1 (asciiBytes otherText), 0), (.append, 0),
   (.resume 2 (asciiBytes "{}"), 0), (.append, 0),
   (.arrive 3 signedHeaders, 0), (.resume 3 deliveryBytes, 0)]

/-- What waits across the update is recorded, and the last request is a duplicate. -/
theorem delivery_recorded_once_across_upsert :
    ∃ s, Reach (webhookStep deliveryLib oneHmac "r") (WebhookOk deliveryLib oneHmac)
        (WebhookSystem.start "r" subscribedStore) s ∧
      s.recorded.map idOf = [.str "d", .str "e", .null] ∧ RecordedOnce s.recorded := by
  have hexec : (exec (webhookStep deliveryLib oneHmac "r") (WebhookOk deliveryLib oneHmac)
      (WebhookSystem.start "r" subscribedStore) separateRequests).map
        (fun s => s.recorded.map idOf) = some [.str "d", .str "e", .null] := by
    decide +kernel
  obtain ⟨s, hrun, hids⟩ := exists_reach_of_exec hexec
  exact ⟨s, hrun, hids, (deliveries_recorded_once deliveryLib oneHmac "r" subscribedStore
    List.Pairwise.nil s hrun).1⟩

/-- Two requests with one id that both wait across an update. -/
def requestsAcrossUpsert : List (WebhookLabel × ℚ) :=
  [(.arrive 0 signedHeaders, 0), (.arrive 1 signedHeaders, 0),
   (.write "r" (.upsert (Record.ofScalar "status" (.str "success"))), 0),
   (.resume 0 deliveryBytes, 0), (.append, 0),
   (.resume 1 deliveryBytes, 0), (.append, 0)]

/-- One delivery id is appended to the log twice. -/
theorem delivery_recorded_twice_after_upsert :
    ¬ ∀ s, Reach (webhookStep deliveryLib oneHmac "r") anyStep
        (WebhookSystem.start "r" subscribedStore) s → RecordedOnce s.recorded := by
  intro hall
  have hexec : (exec (webhookStep deliveryLib oneHmac "r") anyStep
      (WebhookSystem.start "r" subscribedStore) requestsAcrossUpsert).map
        (fun s => s.recorded.map idOf) = some [.str "d", .str "d"] := by
    decide +kernel
  obtain ⟨s, hrun, hids⟩ := exists_reach_of_exec hexec
  have honce : (s.recorded.map idOf).Pairwise fun a b => b.truthy = true → a ≠ b := by
    rw [List.pairwise_map]
    exact (hall s hrun).imp fun h htruthy => (h htruthy).1
  rw [hids] at honce
  exact absurd honce (by decide)

end AitpPlayground.Proofs.Api
