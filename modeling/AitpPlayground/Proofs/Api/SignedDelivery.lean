import AitpPlayground.Proofs.Api.Webhooks

/-!
# `AitpPlayground.Proofs.Api.SignedDelivery`: what the unsigned headers of a delivery do

The two signatures cover the body and the timestamp. The route also reads `X-Aitp-Event` and
`X-Aitp-Delivery`, which nobody signs. The first one goes before the `eventType` of the body.
The second one stands in for a `deliveryId` that the body does not have, and so takes part in
the check for duplicates. `received_eq_iff` says that they do nothing else: two requests with
the same signed data are treated in the same way if and only if the route reads the same id
and the same type off them, or has both of the ids in its log.
-/

set_option autoImplicit false

namespace AitpPlayground.Proofs.Api

open AitpPlayground.Lib
open AitpPlayground.Runner
open AitpPlayground.Api

variable {py : PyLib} {hmacHex : String → List UInt8 → String} {runId : String}
  {record : Option (Record Event)} {headers headers' : WebhookHeaders} {raw : List UInt8}
  {now : ℚ}

/-- Two requests agree on the headers that carry a signature or are signed. -/
structure SameSigned (headers headers' : WebhookHeaders) : Prop where
  signature : headers.signature = headers'.signature
  timestamp : headers.timestamp = headers'.timestamp
  timestampSignature : headers.timestampSignature = headers'.timestampSignature

/-- The checks read nothing but the signed data. -/
theorem verifyDelivery_eq (h : SameSigned headers headers') (secret : Json) :
    verifyDelivery py hmacHex secret headers raw now =
      verifyDelivery py hmacHex secret headers' raw now := by
  unfold verifyDelivery
  rw [h.signature, h.timestamp, h.timestampSignature]

/-- The body of a request that passes the checks. -/
def verifiedBody (py : PyLib) (hmacHex : String → List UInt8 → String)
    (record : Option (Record Event)) (headers : WebhookHeaders) (raw : List UInt8) (now : ℚ) :
    Option (Dict String Json) :=
  match webhookSecret record with
  | .error _ => none
  | .ok secret => (verifyDelivery py hmacHex secret headers raw now).toOption

/-- The verification reads the signed headers only. -/
theorem verifiedBody_eq (h : SameSigned headers headers') :
    verifiedBody py hmacHex record headers raw now =
      verifiedBody py hmacHex record headers' raw now := by
  unfold verifiedBody
  cases webhookSecret record with
  | error reply => rfl
  | ok secret => simp only [verifyDelivery_eq h]

/-- The event log of a record. -/
def loggedEvents (record : Option (Record Event)) : List Event :=
  (record.map Record.events).getD []

/-- The type of a delivery, as the route reads it. -/
def eventType (body : Dict String Json) (headers : WebhookHeaders) : Json :=
  ((some (headerValue headers.event)).filter Json.truthy).getD
    ((body.get? "eventType").getD .null)

/-- A request that passes the checks is a duplicate or is appended. -/
theorem received_of_verified {body : Dict String Json}
    (h : verifiedBody py hmacHex record headers raw now = some body) :
    receiveCpWebhook py hmacHex runId record headers raw now =
      if isDuplicate (loggedEvents record) (deliveryId body headers) then (.duplicate, none)
      else (.appended, some (deliveredEvent runId body headers now)) := by
  unfold verifiedBody at h
  unfold receiveCpWebhook
  cases hsecret : webhookSecret record with
  | error reply => simp [hsecret] at h
  | ok secret =>
    simp only [hsecret] at h
    cases hver : verifyDelivery py hmacHex secret headers raw now with
    | error reply => simp [hver, Except.toOption] at h
    | ok b =>
      rw [hver] at h
      cases h
      simp only [hver]
      rfl

/-- The events of two requests with one body are equal when their ids and types are. -/
theorem deliveredEvent_eq_iff (body : Dict String Json) :
    deliveredEvent runId body headers now = deliveredEvent runId body headers' now ↔
      deliveryId body headers = deliveryId body headers' ∧
        eventType body headers = eventType body headers' := by
  constructor
  · intro h
    have hid := congrArg idOf h
    rw [idOf_deliveredEvent, idOf_deliveredEvent] at hid
    have htype : ∀ hs : WebhookHeaders,
        (deliveredEvent runId body hs now).get? "event_type" = some (eventType body hs) :=
      fun hs => get?_deliveredEvent runId body hs now
        (.tail _ (.tail _ (.tail _ (.tail _ (.head _)))))
    refine ⟨hid, Option.some.inj ?_⟩
    rw [← htype, ← htype, h]
  · rintro ⟨hid, htype⟩
    unfold deliveredEvent
    unfold eventType at htype
    rw [hid, htype]

/-- A request of the machine is handled as `receive_cp_webhook` is, on the record object that it
holds. -/
theorem resume_eq_received {s : WebhookSystem} {i n : Nat} {secret : Json}
    (hreq : s.requests.get? i = some (.waiting n secret headers))
    (hsecret : webhookSecret (s.object runId n) = .ok secret) :
    ∃ reply event, receiveCpWebhook py hmacHex runId (s.object runId n) headers raw now =
        (reply, event) ∧
      s.resume py hmacHex runId i raw now =
        some (event.elim { s with requests := s.requests.set i (.replied reply) }
          fun e => { s with appending := some (i, e) }) := by
  unfold receiveCpWebhook WebhookSystem.resume
  simp only [hreq, hsecret]
  cases verifyDelivery py hmacHex secret headers raw now with
  | error reply => exact ⟨reply, none, rfl, rfl⟩
  | ok body =>
    simp only
    split
    · exact ⟨.duplicate, none, rfl, rfl⟩
    · exact ⟨.appended, _, rfl, rfl⟩

/-- Two requests pass the checks with the same signed data. They are treated in the same way if
they agree on `X-Aitp-Event`, and on `X-Aitp-Delivery` unless the body has an id. They are
treated in the same way only if both ids are in the log, or neither is and they have one id
and one type. -/
theorem received_eq_of_same_signed (py : PyLib) (hmacHex : String → List UInt8 → String)
    (runId : String) (record : Option (Record Event)) (headers headers' : WebhookHeaders)
    (raw : List UInt8) (now : ℚ) (hsame : SameSigned headers headers')
    (body : Dict String Json)
    (hbody : verifiedBody py hmacHex record headers raw now = some body) :
    (headers.event = headers'.event →
      headers.delivery = headers'.delivery ∨
        ((body.get? "deliveryId").filter Json.truthy).isSome = true →
      receiveCpWebhook py hmacHex runId record headers raw now =
        receiveCpWebhook py hmacHex runId record headers' raw now) ∧
    (receiveCpWebhook py hmacHex runId record headers raw now =
        receiveCpWebhook py hmacHex runId record headers' raw now ↔
      (isDuplicate (loggedEvents record) (deliveryId body headers) = true ∧
        isDuplicate (loggedEvents record) (deliveryId body headers') = true) ∨
      (isDuplicate (loggedEvents record) (deliveryId body headers) = false ∧
        deliveryId body headers = deliveryId body headers' ∧
        eventType body headers = eventType body headers')) := by
  have hbody' : verifiedBody py hmacHex record headers' raw now = some body :=
    (verifiedBody_eq hsame).symm.trans hbody
  rw [received_of_verified hbody, received_of_verified hbody']
  refine ⟨?_, ?_⟩
  · intro hevent hdelivery
    have hid : deliveryId body headers = deliveryId body headers' := by
      unfold deliveryId
      rcases hdelivery with heq | hsome
      · rw [heq]
      · obtain ⟨id, hid⟩ := Option.isSome_iff_exists.mp hsome
        rw [hid]
        rfl
    have htype : eventType body headers = eventType body headers' := by
      unfold eventType
      rw [hevent]
    rw [hid, (deliveredEvent_eq_iff body).mpr ⟨hid, htype⟩]
  · cases hdup : isDuplicate (loggedEvents record) (deliveryId body headers) with
    | true =>
      cases hdup' : isDuplicate (loggedEvents record) (deliveryId body headers') with
      | true => simp
      | false => simp
    | false =>
      cases hdup' : isDuplicate (loggedEvents record) (deliveryId body headers') with
      | true =>
        -- One is in the log and the other is not, so the ids differ.
        have hne : deliveryId body headers ≠ deliveryId body headers' := by
          intro heq
          rw [heq, hdup'] at hdup
          cases hdup
        simp [hne]
      | false => simp [deliveredEvent_eq_iff body]

/-- Two requests with other headers that nobody signs, and an id in the body. -/
theorem received_eq_of_same_signed_other_delivery :
    receiveCpWebhook deliveryLib oneHmac "r" (subscribedStore.get "r") signedHeaders
        deliveryBytes 0 =
      receiveCpWebhook deliveryLib oneHmac "r" (subscribedStore.get "r")
        { signedHeaders with delivery := some "other" } deliveryBytes 0 :=
  (received_eq_of_same_signed deliveryLib oneHmac "r" (subscribedStore.get "r") signedHeaders
    { signedHeaders with delivery := some "other" } deliveryBytes 0 ⟨rfl, rfl, rfl⟩
    (Dict.ofList [("deliveryId", .str "d")]) (by decide +kernel)).1 rfl (.inr (by decide +kernel))

/-- A header that nobody signs is the type of the event. And when two requests agree on it,
another one is the id of the event, if the body has none. -/
theorem unsigned_header_recorded :
    (¬∀ (py : PyLib) (hmacHex : String → List UInt8 → String) (record : Option (Record Event))
      (headers headers' : WebhookHeaders) (raw : List UInt8) (now : ℚ),
      SameSigned headers headers' →
      (verifiedBody py hmacHex record headers raw now).isSome = true →
      (verifiedBody py hmacHex record headers' raw now).isSome = true →
      receiveCpWebhook py hmacHex "r" record headers raw now =
        receiveCpWebhook py hmacHex "r" record headers' raw now) ∧
    ¬∀ (py : PyLib) (hmacHex : String → List UInt8 → String) (record : Option (Record Event))
      (headers headers' : WebhookHeaders) (raw : List UInt8) (now : ℚ),
      SameSigned headers headers' → headers.event = headers'.event →
      (verifiedBody py hmacHex record headers raw now).isSome = true →
      (verifiedBody py hmacHex record headers' raw now).isSome = true →
      receiveCpWebhook py hmacHex "r" record headers raw now =
        receiveCpWebhook py hmacHex "r" record headers' raw now := by
  constructor
  · intro hclaim
    have heq := hclaim deliveryLib oneHmac (subscribedStore.get "r") signedHeaders
      { signedHeaders with event := some "tct.revoked" } deliveryBytes 0 ⟨rfl, rfl, rfl⟩
      (by decide +kernel) (by decide +kernel)
    exact absurd heq (by decide +kernel)
  · intro hclaim
    -- The empty body has no id.
    have heq := hclaim deliveryLib oneHmac (subscribedStore.get "r") signedHeaders
      { signedHeaders with delivery := some "other" } [] 0 ⟨rfl, rfl, rfl⟩ rfl
      (by decide +kernel) (by decide +kernel)
    exact absurd heq (by decide +kernel)

end AitpPlayground.Proofs.Api
