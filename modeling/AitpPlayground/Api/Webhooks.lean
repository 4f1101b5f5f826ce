import AitpPlayground.Lib.Lts
import AitpPlayground.Runner.Engine

/-!
# `AitpPlayground.Api.Webhooks`: deliveries of the control plane

`receive_cp_webhook` (`src/aitp_playground/api/webhooks.py`) fetches the record of the run,
suspends until the body is there, verifies it, and appends the delivery to the event log
unless the log has its id already.

`RunStore.get` returns the record object itself. `append_event` extends the event list of the
object the store has at that moment. `upsert` makes a new object with a copy of the list, and
the old one stays as it was with whoever holds it. So the model keeps the objects that were
replaced, and a request holds the number of the object it fetched.

The route is async. A request is suspended only at `await request.body()`, so no other
request runs between its check and its append. The writers of other threads do run in
between. They may also append while the check goes through the list. None of them writes a
`cp.webhook.delivered`, so the check reads the list in one step here.

`hmacHex` is `_hmac_hex`, and stays abstract. `recorded` and `Replaced.recorded` are not in
the code. No step reads them.
-/

set_option autoImplicit false

namespace AitpPlayground.Api

open AitpPlayground.Lib
open AitpPlayground.Runner

/-! ### One delivery -/

/-- The headers the route reads. -/
structure WebhookHeaders where
  signature : Option String
  event : Option String
  delivery : Option String
  timestamp : Option String
  timestampSignature : Option String

/-- How a request ends. -/
inductive WebhookReply where
  | refused (status : Nat) (detail : String)
  | duplicate
  | appended
  /-- An exception that the route does not catch. -/
  | raised (exc : PyErr)
deriving DecidableEq

/-- `REPLAY_WINDOW_SECS`. -/
def replayWindowSecs : ℚ := 300

/-- `_parse_signature_header`. -/
def parseSignatureHeader : Option String → Option String
  | none => none
  | some value =>
    let chars := value.toList
    if chars = [] then none
    else if '=' ∈ chars then
      let scheme := chars.takeWhile fun c => decide (c ≠ '=')
      let sig := (chars.dropWhile fun c => decide (c ≠ '=')).tail
      if (strip scheme).map Char.toLower ≠ "sha256".toList then none else nonEmpty (strip sig)
    else nonEmpty (strip chars)

/-- `_TIMESTAMP_RE.fullmatch`. -/
def isTimestamp (value : String) : Bool :=
  let chars := value.toList
  decide (1 ≤ chars.length ∧ chars.length ≤ 20) && chars.all Char.isDigit

/-- The bytes of `f"{timestamp}.{raw}"`, for a timestamp in ASCII. -/
def signedBytes (timestamp : String) (raw : List UInt8) : List UInt8 :=
  timestamp.toList.map (fun c => UInt8.ofNat c.toNat) ++ 46 :: raw

/-- The secret on the record, or how the request ends. -/
def webhookSecret : Option (Record Event) → Except WebhookReply Json
  | none => .error (.refused 410 "run not found")
  | some record =>
    let cpWebhook := ((record.scalars.get? "cp_webhook").filter Json.truthy).getD (.obj [])
    match cpWebhook.dict? with
    | none => .error (.raised (.attributeError "object has no attribute 'get'"))
    | some cpWebhook =>
      match (cpWebhook.get? "secret").filter Json.truthy with
      | none => .error (.refused 401 "no webhook secret on file")
      | some secret => .ok secret

/-- The delivery body as `json.loads` has it. -/
def deliveryBody (py : PyLib) (raw : List UInt8) : Except WebhookReply Json :=
  if raw = [] then .ok (.obj [])
  else
    match py.utf8Decode raw >>= py.jsonLoads with
    | .ok value => .ok value
    | .error (.valueError _ _) => .error (.refused 401 "delivery body is not JSON")
    | .error exc => .error (.raised exc)

/-- The checks of the route: the body of a delivery that passes them. -/
def verifyDelivery (py : PyLib) (hmacHex : String → List UInt8 → String) (secret : Json)
    (headers : WebhookHeaders) (raw : List UInt8) (now : ℚ) :
    Except WebhookReply (Dict String Json) :=
  match parseSignatureHeader headers.signature with
  | none => .error (.refused 401 "missing X-Aitp-Signature")
  | some sig =>
    match secret with
    | .str secret =>
      if sig ≠ hmacHex secret raw then .error (.refused 401 "bad signature")
      else
        match headers.timestamp.filter isTimestamp with
        | none => .error (.refused 401 "missing or invalid X-Aitp-Timestamp")
        | some timestamp =>
          match parseSignatureHeader headers.timestampSignature with
          | none => .error (.refused 401 "missing X-Aitp-Timestamp-Signature")
          | some tsSig =>
            if tsSig ≠ hmacHex secret (signedBytes timestamp raw) then
              .error (.refused 401 "bad timestamp signature")
            else
              match py.intOfStr timestamp with
              | .error exc => .error (.raised exc)
              | .ok seconds =>
                if replayWindowSecs < |now - seconds| then .error (.refused 401 "stale delivery")
                else
                  match deliveryBody py raw with
                  | .error reply => .error reply
                  | .ok body =>
                    match body.dict? with
                    | none => .error (.refused 401 "delivery body is not a JSON object")
                    | some body => .ok body
    -- A secret that is not text has no `encode`.
    | _ => .error (.raised (.attributeError "object has no attribute 'encode'"))

/-- The value of a header, `None` when it is absent. -/
def headerValue : Option String → Json
  | none => .null
  | some value => .str value

/-- `body_obj.get("deliveryId") or x_aitp_delivery`. -/
def deliveryId (body : Dict String Json) (headers : WebhookHeaders) : Json :=
  ((body.get? "deliveryId").filter Json.truthy).getD (headerValue headers.delivery)

/-- The event of a delivery. -/
def deliveredEvent (runId : String) (body : Dict String Json) (headers : WebhookHeaders)
    (now : ℚ) : Event :=
  Dict.ofList
    [("type", .str "cp.webhook.delivered"),
     ("ts", .num (.float (.fin now))),
     ("run_id", .str runId),
     ("delivery_id", deliveryId body headers),
     ("event_type",
      ((some (headerValue headers.event)).filter Json.truthy).getD
        ((body.get? "eventType").getD .null)),
     ("payload", body.toJson)]

/-- The event is a delivery. -/
def isDelivered (e : Event) : Bool :=
  decide (e.get? "type" = some (.str "cp.webhook.delivered"))

/-- The value `e.get("delivery_id")`. -/
def idOf (e : Event) : Json := (e.get? "delivery_id").getD .null

/-- The test for a delivery id that the record has already. -/
def isDuplicate (events : List Event) (id : Json) : Bool :=
  id.truthy && events.any fun e => isDelivered e && (idOf e).pyEq id

/-- `receive_cp_webhook` on the record that it fetched, when nothing comes in between: how it
ends, and the event that it appends. -/
def receiveCpWebhook (py : PyLib) (hmacHex : String → List UInt8 → String) (runId : String)
    (record : Option (Record Event)) (headers : WebhookHeaders) (raw : List UInt8) (now : ℚ) :
    WebhookReply × Option Event :=
  match webhookSecret record with
  | .error reply => (reply, none)
  | .ok secret =>
    match verifyDelivery py hmacHex secret headers raw now with
    | .error reply => (reply, none)
    | .ok body =>
      let events := (record.map Record.events).getD []
      if isDuplicate events (deliveryId body headers) then (.duplicate, none)
      else (.appended, some (deliveredEvent runId body headers now))

/-! ### The requests of one run -/

/-- Where a request is. -/
inductive WebhookPc where
  /-- At `await request.body()`, with the number of the record object it fetched. -/
  | waiting (object : Nat) (secret : Json) (headers : WebhookHeaders)
  | replied (reply : WebhookReply)

/-- A record object that an update replaced, and how many deliveries were recorded by
then. -/
structure Replaced where
  record : Record Event
  recorded : Nat

/-- The store, the requests for one run, and the deliveries they recorded. -/
structure WebhookSystem where
  store : RunStore Event
  /-- The objects that were the record of the run, first replaced first. -/
  replaced : List Replaced
  requests : Dict Nat WebhookPc
  /-- The request on the loop that is between its check and its append. -/
  appending : Option (Nat × Event)
  /-- The deliveries in the log. -/
  recorded : List Event

namespace WebhookSystem

/-- The record object with this number. -/
def object (runId : String) (s : WebhookSystem) (n : Nat) : Option (Record Event) :=
  if n = s.replaced.length then s.store.get runId else (s.replaced[n]?).map Replaced.record

/-- The call puts a new record object into the store. -/
def replaces : RunStore.Call Event → RunStore.Reply Event → Bool
  | .upsert _, _ => true
  | .upsertUnlessCancelled _, .written accepted => accepted
  | _, _ => false

/-- A call of another writer, on any run. -/
def write (runId : String) (s : WebhookSystem) (r : String) (c : RunStore.Call Event) (now : ℚ) :
    WebhookSystem :=
  let (store, reply, _) := s.store.call r now c
  let old := if r = runId ∧ replaces c reply = true then (s.store.get runId).toList else []
  { s with store, replaced := s.replaced ++ old.map fun record => ⟨record, s.recorded.length⟩ }

/-- A request arrives and fetches the record. -/
def arrive (runId : String) (s : WebhookSystem) (i : Nat) (headers : WebhookHeaders) :
    WebhookSystem :=
  match webhookSecret (s.store.get runId) with
  | .error reply => { s with requests := s.requests.set i (.replied reply) }
  | .ok secret =>
    { s with requests := s.requests.set i (.waiting s.replaced.length secret headers) }

/-- The body of a request is there: its checks, against the record it fetched. -/
def resume (py : PyLib) (hmacHex : String → List UInt8 → String) (runId : String)
    (s : WebhookSystem) (i : Nat) (raw : List UInt8) (now : ℚ) : Option WebhookSystem :=
  match s.requests.get? i with
  | some (.waiting n secret headers) =>
    match verifyDelivery py hmacHex secret headers raw now with
    | .error reply => some { s with requests := s.requests.set i (.replied reply) }
    | .ok body =>
      let events := ((s.object runId n).map Record.events).getD []
      if isDuplicate events (deliveryId body headers) then
        some { s with requests := s.requests.set i (.replied .duplicate) }
      else some { s with appending := some (i, deliveredEvent runId body headers now) }
  | _ => none

/-- The append of the delivery that passed its checks. -/
def append (runId : String) (s : WebhookSystem) (now : ℚ) : Option WebhookSystem :=
  match s.appending with
  | none => none
  | some (i, event) =>
    some { s with
      store := (s.store.appendEvent runId event now).1
      requests := s.requests.set i (.replied .appended)
      appending := none
      recorded := s.recorded ++ [event] }

/-- A store before any request, with the deliveries its log has. -/
def start (runId : String) (store : RunStore Event) : WebhookSystem :=
  { store, replaced := [], requests := Dict.empty, appending := none
    recorded := (store.log runId).filter isDelivered }

end WebhookSystem

/-- Who moves. -/
inductive WebhookLabel where
  /-- Another writer, on any thread. -/
  | write (runId : String) (c : RunStore.Call Event)
  | arrive (i : Nat) (headers : WebhookHeaders)
  | resume (i : Nat) (raw : List UInt8)
  | append

/-- One move. A request moves only when no other one is between its check and its append. -/
def webhookStep (py : PyLib) (hmacHex : String → List UInt8 → String) (runId : String)
    (s : WebhookSystem) (l : WebhookLabel × ℚ) : Option WebhookSystem :=
  match l with
  | (.write r c, now) => some (s.write runId r c now)
  | (.arrive i headers, _) =>
    if s.appending.isNone ∧ (s.requests.get? i).isNone then some (s.arrive runId i headers)
    else none
  | (.resume i raw, now) =>
    if s.appending.isNone then s.resume py hmacHex runId i raw now else none
  | (.append, now) => s.append runId now

end AitpPlayground.Api
