import AitpPlayground.Agents.AgentAdmin

/-!
# `AitpPlayground.Proofs.Agents.AgentAdmin`: what each admin route does to the process

An admin route does little to the process besides what it is for. It writes down uses of the
key and calls it sends, and it takes responses. These are the moves `QuietMove`, and all routes
that store nothing are made of them (`quietly_...`).

Three routes store tokens. `Stored` says what that does: for one port there is a new token,
and perhaps a new voucher, of one response. Everything else about the process stays.
`holding_...` says of each of these routes that it ends quietly or with such a store.
-/

set_option autoImplicit false

namespace AitpPlayground.Proofs.Agents

open AitpPlayground.Lib
open AitpPlayground.Lib.Act
open AitpPlayground.Agents

/-! ### Quiet moves -/

/-- A move that stores nothing. -/
inductive QuietMove : AgentProcess → AgentProcess → Prop
  | use (p : AgentProcess) (op : KeyOp) : QuietMove p { p with
      uses := ⟨op, p.adminAid, p.serverAid, p.manifestAid, p.rotations⟩ :: p.uses }
  | send (p : AgentProcess) (call : SentCall) : QuietMove p { p with sent := call :: p.sent }
  | response (p : AgentProcess) : QuietMove p { p with responses := p.responses + 1 }

/-- Any number of quiet moves. -/
abbrev Quietly : AgentProcess → AgentProcess → Prop := Relation.ReflTransGen QuietMove

instance : Std.Refl Quietly := ⟨fun _ => .refl⟩

instance : IsTrans AgentProcess Quietly := ⟨fun _ _ _ h h' => h.trans h'⟩

section
variable (sdk : AdminSdk) (py : PyLib)

/-- A use of the key is quiet: it is only written down. -/
theorem quietly_useKey {α : Type} (op : KeyOp) (call : String → Except PyErr α) :
    Within Quietly (Route.useKey op call) := by
  refine within_bind within_get fun _ => ?_
  exact within_bind (within_modify fun q => .single (.use q op)) fun _ => within_ofExcept _ _

/-- A call that goes out is quiet: it is only written down. -/
theorem quietly_sendCall (call : SentCall) : Within Quietly (sendCall call) :=
  within_modify fun p => .single (.send p call)

/-- A computation of Python changes nothing. -/
theorem quietly_lift {α : Type} (r : Except PyErr α) : Within Quietly (Route.lift r) :=
  within_ofExcept _ r

/-- The wait for an answer changes nothing. -/
theorem quietly_await (answer : HttpAnswer) : Within Quietly (Route.await answer) :=
  within_ofExcept _ answer

/-- The test of a status changes nothing. -/
theorem quietly_raiseForStatus (r : HttpResponse) : Within Quietly (Route.raiseForStatus r) :=
  within_ite (within_pure ()) (within_throw _)

/-- The test for a refusal of the peer changes nothing. -/
theorem quietly_raiseIfPeerRefused (r : HttpResponse) (step : String) :
    Within Quietly (raiseIfPeerRefused r step) :=
  within_ite (within_pure ()) (within_throw _)

/-- A held token is read. -/
theorem quietly_heldToken (port : Int) : Within Quietly (heldToken port) := by
  refine within_bind within_get fun p => ?_
  cases p.heldTcts.get? port with
  | some token => exact within_ite (within_pure token) (within_throw _)
  | none => exact within_throw _

/-- A manifest is verified. -/
theorem quietly_verifyPeerManifest (envelopeJson sourceUrl : String) (salt : Nat) :
    Within Quietly (verifyPeerManifest sdk py envelopeJson sourceUrl salt) := by
  unfold verifyPeerManifest
  cases sdk.verifyManifestJson envelopeJson salt with
  | error exc => exact within_throw _
  | ok _ =>
    cases py.jsonLoads envelopeJson with
    | error exc => exact within_ite (within_throw _) (within_throw _)
    | ok envelope =>
      simp only
      split
      · exact within_pure _
      · exact within_throw _

/-- A JWT is minted for the peer. -/
theorem quietly_mintCallback : Within Quietly mintCallback :=
  within_bind within_get fun _ => within_ite (quietly_useKey _ _) (within_pure ())

/-- The hello is built with the key. -/
theorem quietly_buildHelloFor (body : Json) (manifest : HttpAnswer) (salt : Nat) :
    Within Quietly (buildHelloFor sdk py body manifest salt) := by
  refine within_bind (quietly_lift _) fun _ => ?_
  refine within_bind (quietly_lift _) fun _ => ?_
  refine within_bind (quietly_await _) fun _ => ?_
  refine within_bind (quietly_raiseForStatus _) fun _ => ?_
  refine within_bind (quietly_verifyPeerManifest sdk py _ _ _) fun _ => ?_
  refine within_bind (quietly_lift _) fun _ => ?_
  refine within_bind (quietly_useKey _ _) fun _ => ?_
  refine within_bind (quietly_lift _) fun _ => ?_
  refine within_bind (quietly_lift _) fun _ => ?_
  refine within_bind quietly_mintCallback fun _ => ?_
  exact within_bind (quietly_useKey _ _) fun _ => quietly_lift _

/-- The completion of the session is quiet. -/
theorem quietly_completeSession (response : String) (salt : Nat) :
    Within Quietly (completeSession sdk py response salt) := by
  refine within_bind within_get fun _ => within_tryCatch (quietly_useKey _ _) fun exc => ?_
  cases exc with
  | raised e => exact within_ite (within_throw _) (within_throw _)
  | http refusal => exact within_throw _
  | transport detail => exact within_throw _
  | response status text => exact within_throw _

/-- So the whole exchange of a handshake holds no token yet. -/
theorem quietly_handshakeExchange (body : Json) (peer : HandshakeAnswers) (salt : Nat) :
    Within Quietly (handshakeExchange sdk py body peer salt) := by
  refine within_bind (quietly_buildHelloFor sdk py _ _ _) fun endpoint => ?_
  cases endpoint with
  | str helloEp =>
    refine within_bind (quietly_await _) fun _ => ?_
    refine within_bind (quietly_raiseIfPeerRefused _ _) fun _ => ?_
    refine within_bind (within_orThrow _ _) fun _ => ?_
    refine within_bind (quietly_useKey _ _) fun _ => ?_
    refine within_bind (quietly_await _) fun _ => ?_
    refine within_bind (quietly_raiseIfPeerRefused _ _) fun _ => ?_
    exact within_bind (quietly_completeSession sdk py _ _) fun _ => within_pure _
  | null => exact within_throw _
  | bool b => exact within_throw _
  | num n => exact within_throw _
  | arr items => exact within_throw _
  | obj members => exact within_throw _

/-- A challenge is answered with the key. -/
theorem quietly_answerChallenge (challenge : String) (salt : Nat) :
    Within Quietly (answerChallenge sdk py challenge salt) := by
  refine within_tryCatch ?_ fun exc => ?_
  · refine within_bind (quietly_lift _) fun _ => ?_
    exact within_bind (quietly_useKey _ _) fun _ => within_pure _
  · cases exc with
    | raised e => exact within_ite (within_pure _) (within_throw _)
    | http refusal => exact within_throw _
    | transport detail => exact within_throw _
    | response status text => exact within_throw _

/-- A call goes out, and again with the answer to the challenge. -/
theorem quietly_awaitReply (call : SentCall) (first second : HttpAnswer) (salt : Nat) :
    Within Quietly (awaitReply sdk py call first second salt) := by
  refine within_bind (quietly_await _) fun _ => within_ite ?_ (within_pure _)
  refine within_bind (quietly_answerChallenge sdk py _ _) fun response => ?_
  cases response with
  | error refusal => exact within_pure _
  | ok response =>
    refine within_bind (quietly_sendCall _) fun _ => ?_
    exact within_bind (quietly_await _) fun _ => within_pure _

/-- A call to a peer goes out, and again with the answer to its challenge. -/
theorem quietly_callPeer (call : SentCall) (first second : HttpAnswer) (salt : Nat) :
    Within Quietly (callPeer sdk py call first second salt) :=
  within_bind (quietly_sendCall call) fun _ => quietly_awaitReply sdk py call first second salt

/-- `invoke_capability` reads the token that is held. -/
theorem quietly_invokeCapability (body : Json) (first second : HttpAnswer) (salt : Nat) :
    Within Quietly (invokeCapability sdk py body first second salt) := by
  refine within_bind (quietly_lift _) fun _ => ?_
  refine within_bind (quietly_lift _) fun _ => ?_
  refine within_bind (quietly_lift _) fun _ => ?_
  refine within_bind (quietly_lift _) fun _ => ?_
  refine within_bind within_get fun _ => ?_
  refine within_bind (quietly_lift _) fun _ => ?_
  refine within_bind (quietly_heldToken _) fun token => ?_
  cases token with
  | str tct => exact quietly_callPeer sdk py _ _ _ _
  | null => exact within_throw _
  | bool b => exact within_throw _
  | num n => exact within_throw _
  | arr items => exact within_throw _
  | obj members => exact within_throw _

/-- `get_held_tct` reads the token that is held. -/
theorem quietly_getHeldTct (peerPort : Int) : Within Quietly (getHeldTct peerPort) := by
  refine within_bind (quietly_heldToken _) fun _ => ?_
  exact within_bind (quietly_useKey _ _) fun _ => within_pure _

/-- `process_renewal` mints a token for the peer and holds none. -/
theorem quietly_processRenewal (payload : String) (manifestExp ttlSecs : Int) (salt : Nat) :
    Within Quietly (processRenewal sdk py payload manifestExp ttlSecs salt) := by
  refine within_ite ?_ (within_throw _)
  refine within_bind within_get fun _ => ?_
  refine within_bind (within_tryCatch (quietly_useKey _ _) fun exc => ?_) fun _ => ?_
  · cases exc with
    | raised e =>
      exact within_ite (within_throw _) (within_ite (within_throw _) (within_throw _))
    | http refusal => exact within_throw _
    | transport detail => exact within_throw _
    | response status text => exact within_throw _
  · refine within_bind (quietly_lift _) fun _ => ?_
    exact within_bind (quietly_lift _) fun _ => within_pure _

/-- `export_session_bundle` signs with the key. -/
theorem quietly_exportSessionBundle (body : Json) (sessionId : String) (salt : Nat) :
    Within Quietly (exportSessionBundle sdk py body sessionId salt) := by
  refine within_bind (quietly_lift _) fun _ => ?_
  refine within_bind (quietly_lift _) fun _ => ?_
  refine within_ite (within_throw _) (within_ite ?_ (within_throw _))
  refine within_bind (quietly_useKey _ _) fun _ => ?_
  refine within_bind (quietly_lift _) fun _ => ?_
  exact within_bind (quietly_lift _) fun _ => within_pure _

/-- `verify_session_bundle` only verifies. -/
theorem quietly_verifySessionBundle (body : Json) (manifest : HttpAnswer) (salt : Nat) :
    Within Quietly (verifySessionBundleEndpoint sdk py body manifest salt) := by
  refine within_bind (quietly_lift _) fun _ => ?_
  refine within_bind (quietly_lift _) fun _ => ?_
  refine within_ite (within_ite ?_ (within_throw _)) (within_throw _)
  refine within_bind (quietly_await _) fun _ => ?_
  refine within_bind (quietly_raiseForStatus _) fun _ => ?_
  refine within_bind (quietly_verifyPeerManifest sdk py _ _ _) fun _ => ?_
  refine within_tryCatch (quietly_useKey _ _) fun exc => ?_
  cases exc with
  | raised e => exact within_ite (within_throw _) (within_ite (within_throw _) (within_throw _))
  | http refusal => exact within_throw _
  | transport detail => exact within_throw _
  | response status text => exact within_throw _

/-- `delegate` reads a voucher and signs. -/
theorem quietly_issueDelegation (body : Json) (manifest : HttpAnswer) (salt : Nat) :
    Within Quietly (issueDelegation sdk py body manifest salt) := by
  refine within_bind (quietly_lift _) fun _ => ?_
  refine within_bind (quietly_lift _) fun _ => ?_
  refine within_bind (quietly_lift _) fun _ => ?_
  refine within_bind (quietly_lift _) fun _ => ?_
  refine within_bind within_get fun p => ?_
  cases (p.heldVouchers.get? _).filter Json.truthy with
  | none => exact within_throw _
  | some voucher =>
    refine within_bind (quietly_await _) fun _ => ?_
    refine within_bind (quietly_raiseForStatus _) fun _ => ?_
    refine within_bind (quietly_verifyPeerManifest sdk py _ _ _) fun _ => ?_
    refine within_bind (quietly_lift _) fun _ => ?_
    exact within_bind (quietly_useKey _ _) fun _ => within_pure _

/-- The manifests of the issuers are fetched, by induction on the URLs. -/
theorem quietly_fetchIssuerManifests (salt : Nat) (urls : List (Json × HttpAnswer)) :
    Within Quietly (fetchIssuerManifests sdk py salt urls) := by
  induction urls with
  | nil => exact within_pure ()
  | cons url rest ih =>
    refine within_bind (quietly_await _) fun _ => ?_
    refine within_bind (quietly_raiseForStatus _) fun _ => ?_
    exact within_bind (quietly_verifyPeerManifest sdk py _ _ _) fun _ => ih

/-! ### Stores -/

/-- One response brought a token for a port, and perhaps a voucher. Nothing else changed. -/
structure Stored (port : Int) (token : Json) (voucher : Option Json) (p p' : AgentProcess) :
    Prop where
  heldTcts : ∀ x, p'.heldTcts.get? x = if port = x then some token else p.heldTcts.get? x
  heldVouchers : ∀ x, p'.heldVouchers.get? x =
    if port = x then voucher.or (p.heldVouchers.get? x) else p.heldVouchers.get? x
  responses : p'.responses = p.responses + 1
  tctFrom : ∀ x, p'.tctFrom.get? x = if port = x then some p'.responses else p.tctFrom.get? x
  voucherFrom : ∀ x, p'.voucherFrom.get? x =
    if port = x then (voucher.map fun _ => p'.responses).or (p.voucherFrom.get? x)
    else p.voucherFrom.get? x
  rest : p = { p' with
    heldTcts := p.heldTcts, heldVouchers := p.heldVouchers, responses := p.responses
    tctFrom := p.tctFrom, voucherFrom := p.voucherFrom }

/-- The state after a response, its token and its voucher. -/
def AgentProcess.holding (p : AgentProcess) (port : Int) (token : Json) (voucher : Option Json) :
    AgentProcess :=
  { p with
      responses := p.responses + 1
      heldTcts := p.heldTcts.set port token
      tctFrom := p.tctFrom.set port (p.responses + 1)
      heldVouchers := (voucher.map (p.heldVouchers.set port)).getD p.heldVouchers
      voucherFrom :=
        (voucher.map fun _ => p.voucherFrom.set port (p.responses + 1)).getD p.voucherFrom }

/-- The token and its voucher are stored under the port, and nothing else changes. -/
theorem stored_holding (p : AgentProcess) (port : Int) (token : Json) (voucher : Option Json) :
    Stored port token voucher p (AgentProcess.holding p port token voucher) := by
  cases voucher with
  | some v => refine ⟨?_, ?_, rfl, ?_, ?_, rfl⟩ <;> intro x <;> exact Dict.get?_set _ _ _ _
  | none =>
    refine ⟨?_, ?_, rfl, ?_, ?_, rfl⟩
    · intro x
      exact Dict.get?_set _ _ _ _
    · intro x
      exact (ite_self _).symm
    · intro x
      exact Dict.get?_set _ _ _ _
    · intro x
      exact (ite_self _).symm

/-- A second token of the same response for the same port. -/
theorem stored_again {port : Int} {token token' : Json} {voucher : Option Json}
    {p p' : AgentProcess} (h : Stored port token voucher p p') :
    Stored port token' voucher p ((Route.holdTct port token').after p') := by
  refine ⟨?_, h.heldVouchers, h.responses, ?_, h.voucherFrom, h.rest⟩
  · intro x
    show (p'.heldTcts.set port token').get? x = _
    -- The later token replaces the one of the same port.
    rw [Dict.get?_set, h.heldTcts x]
    split <;> rfl
  · intro x
    show (p'.tctFrom.set port p'.responses).get? x = if port = x then some p'.responses else _
    rw [Dict.get?_set, h.tctFrom x]
    split <;> rfl

/-- What a response makes the agent hold. -/
structure Receipt where
  port : Int
  token : Json
  voucher : Option Json

/-- The voucher of a response, when it is one. -/
def voucherOf (value : Json) : Option Json :=
  (value.member "grant_voucher").toOption.filter Json.truthy

/-- What the end of a handshake makes the agent hold. -/
def receiptOfCompleted (py : PyLib) (endpoint : String) (completed : Json) : Option Receipt :=
  match completed.item "tct" with
  | .error _ => none
  | .ok token =>
    match claimsOf py token with
    | .error _ => none
    | .ok _ =>
      match portFromUrl py endpoint with
      | .error _ => none
      | .ok port => some ⟨port, token, voucherOf completed⟩

/-- What the text of a renewal makes the agent hold. -/
def receiptOfRenewed (py : PyLib) (port : Int) (text : String) : Option Receipt :=
  match py.jsonLoads text with
  | .error _ => none
  | .ok value =>
    match value.item "tct" with
    | .error _ => none
    | .ok token => some ⟨port, token, voucherOf value⟩

/-- The exceptions that `redeem_delegation` catches. -/
def caughtByRedeem : PyErr → Bool
  | .valueError _ _ | .keyError _ => true
  | _ => false

/-- What the text of a redemption makes the agent hold: without claims to read, the text. -/
def receiptOfRedeemed (py : PyLib) (port : Int) (text : String) : Option Receipt :=
  match py.jsonLoads text with
  | .error exc => if caughtByRedeem exc then some ⟨port, .str text, none⟩ else none
  | .ok value =>
    match value.item "tct" with
    | .error exc => if caughtByRedeem exc then some ⟨port, .str text, none⟩ else none
    | .ok token =>
      match claimsOf py token with
      | .error exc =>
        some ⟨port, if caughtByRedeem exc then .str text else token, voucherOf value⟩
      | .ok _ => some ⟨port, token, voucherOf value⟩

/-- The process after a route that received what the receipt says. -/
def Outcome (p p' : AgentProcess) : Option Receipt → Prop
  | none => Quietly p p'
  | some r => ∃ q, Quietly p q ∧ Stored r.port r.token r.voucher q p'

/-- A value with an item is a dictionary. -/
theorem member_of_item {value token : Json} {key : String} (other : String)
    (h : value.item key = .ok token) : ∃ v, value.member other = .ok v := by
  unfold Json.item at h
  unfold Json.member
  cases hd : value.dict? with
  | none => simp [hd] at h
  | some d => exact ⟨_, rfl⟩

/-- The voucher of a value that has the member, when it is truthy. -/
theorem voucherOf_eq {value v : Json} (h : value.member "grant_voucher" = .ok v) :
    voucherOf value = if v.truthy = true then some v else none := by
  unfold voucherOf
  rw [h]
  exact Option.filter_some

/-- The two stores of a response, from the process that has counted it. -/
theorem run_holdFrom {value token : Json} {port : Int} (p : AgentProcess)
    (h : value.item "tct" = .ok token) :
    holdFrom port token value { p with responses := p.responses + 1 } =
      .ok () (AgentProcess.holding p port token (voucherOf value)) := by
  obtain ⟨v, hv⟩ := member_of_item "grant_voucher" h
  unfold holdFrom Route.holdVoucher
  rw [hv, voucherOf_eq hv]
  -- A voucher that is empty is none.
  by_cases ht : v.truthy = true
  · rw [if_pos ht]
    show (if v.truthy then _ else _ : Route Unit) _ = _
    rw [if_pos ht]
    rfl
  · rw [if_neg ht]
    show (if v.truthy then _ else _ : Route Unit) _ = _
    rw [if_neg ht]
    rfl

/-- A response that made the agent hold nothing. -/
theorem outcome_response (p : AgentProcess) :
    Outcome p { p with responses := p.responses + 1 } none := .single (.response p)

/-- A response that made the agent hold a token. -/
theorem outcome_holding (p : AgentProcess) (port : Int) (token : Json) (voucher : Option Json) :
    Outcome p (AgentProcess.holding p port token voucher) (some ⟨port, token, voucher⟩) :=
  ⟨p, .refl, stored_holding p port token voucher⟩

/-- What a completed handshake stores is what its receipt says. -/
theorem outcome_holdCompleted (endpoint sessionId : String) (completed : Json)
    (p : AgentProcess) :
    Outcome p ((holdCompleted py endpoint sessionId completed).after p)
      (receiptOfCompleted py endpoint completed) := by
  unfold receiptOfCompleted holdCompleted Route.nextResponse Route.lift
  rw [after_modify_bind]
  cases htoken : completed.item "tct" with
  | error exc => exact outcome_response p
  | ok token =>
    simp only [ofExcept_ok_bind]
    cases claimsOf py token with
    | error exc => exact outcome_response p
    | ok claims =>
      simp only [ofExcept_ok_bind]
      cases portFromUrl py endpoint with
      | error exc => exact outcome_response p
      | ok port =>
        simp only [ofExcept_ok_bind]
        rw [after_congr (bind_of_ok _ _ (run_holdFrom p htoken))]
        exact outcome_holding p port token _

/-- What a renewal stores is what its receipt says. -/
theorem outcome_holdRenewed (port : Int) (text : String) (p : AgentProcess) :
    Outcome p ((holdRenewed py port text).after p) (receiptOfRenewed py port text) := by
  unfold receiptOfRenewed holdRenewed Route.nextResponse Route.lift
  rw [after_modify_bind]
  cases py.jsonLoads text with
  | error exc => exact outcome_response p
  | ok value =>
    simp only [ofExcept_ok_bind]
    cases htoken : value.item "tct" with
    | error exc => exact outcome_response p
    | ok token =>
      simp only [ofExcept_ok_bind]
      rw [after_congr (bind_of_ok _ _ (run_holdFrom p htoken))]
      -- The token is held by now, whether or not its claims read.
      cases claimsOf py token with
      | error exc => exact outcome_holding p port token _
      | ok claims => exact outcome_holding p port token _

/-- What is held after a redemption that was not read, when `p'` has counted its response. -/
theorem outcome_redeemFallback {exc : PyErr} (port : Int) (text : String) (p : AgentProcess) :
    Outcome p
      ((redeemFallback port text (.raised exc)).after { p with responses := p.responses + 1 })
      (if caughtByRedeem exc then some ⟨port, .str text, none⟩ else none) := by
  cases exc <;> first
    | exact outcome_response p
    | exact outcome_holding p port (.str text) none

/-- What is held after a redemption whose claims were not read. -/
theorem outcome_redeemFallback_held {exc : PyErr} (port : Int) (text : String) (token : Json)
    (voucher : Option Json) (p : AgentProcess) :
    Outcome p
      ((redeemFallback port text (.raised exc)).after
        (AgentProcess.holding p port token voucher))
      (some ⟨port, if caughtByRedeem exc then .str text else token, voucher⟩) := by
  cases exc <;> first
    | exact outcome_holding p port token voucher
    | exact ⟨p, .refl, stored_again (stored_holding p port token voucher)⟩

/-- What a redemption stores is what its receipt says. -/
theorem outcome_holdRedeemed (port : Int) (text : String) (p : AgentProcess) :
    Outcome p ((holdRedeemed py port text).after p) (receiptOfRedeemed py port text) := by
  unfold receiptOfRedeemed holdRedeemed Route.nextResponse
  rw [after_modify_bind]
  cases hvalue : py.jsonLoads text with
  | error exc =>
    have hrun : readRedeemed py port text { p with responses := p.responses + 1 } =
        .error (.raised exc) { p with responses := p.responses + 1 } := by
      unfold readRedeemed Route.lift
      rw [hvalue]
      rfl
    rw [after_tryCatch_error hrun]
    exact outcome_redeemFallback port text p
  | ok value =>
    simp only
    cases htoken : value.item "tct" with
    | error exc =>
      have hrun : readRedeemed py port text { p with responses := p.responses + 1 } =
          .error (.raised exc) { p with responses := p.responses + 1 } := by
        unfold readRedeemed Route.lift
        simp only [hvalue, ofExcept_ok_bind, htoken]
        rfl
      rw [after_tryCatch_error hrun]
      exact outcome_redeemFallback port text p
    | ok token =>
      -- The stores come before the claims are read.
      have hread : readRedeemed py port text { p with responses := p.responses + 1 } =
          (do
            let _claims ← Route.lift (claimsOf py token)
            pure () : Route Unit) (AgentProcess.holding p port token (voucherOf value)) := by
        unfold readRedeemed Route.lift
        simp only [hvalue, ofExcept_ok_bind, htoken]
        exact bind_of_ok _ _ (run_holdFrom p htoken)
      simp only
      cases hclaims : claimsOf py token with
      | error exc =>
        rw [hclaims] at hread
        rw [after_tryCatch_error hread]
        exact outcome_redeemFallback_held port text token _ p
      | ok claims =>
        rw [hclaims] at hread
        rw [after_tryCatch_ok hread]
        exact outcome_holding p port token _

/-! ### Requests -/

/-- The exchange of a renewal holds no token yet. -/
theorem quietly_renewExchange (body : Json) (answer : HttpAnswer) (salt : Nat) :
    Within Quietly (renewExchange sdk py body answer salt) := by
  refine within_bind (quietly_lift _) fun _ => ?_
  refine within_bind (quietly_heldToken _) fun _ => within_ite ?_ (within_throw _)
  refine within_bind (quietly_useKey _ _) fun _ => ?_
  refine within_bind (quietly_await _) fun _ => ?_
  refine within_bind (quietly_lift _) fun _ => within_ite (within_throw _) ?_
  exact within_bind (quietly_raiseForStatus _) fun _ => within_pure _

/-- The exchange of a redemption holds no token yet. -/
theorem quietly_redeemExchange (body : Json) (manifests : Nat → HttpAnswer) (answer : HttpAnswer)
    (salt : Nat) : Within Quietly (redeemExchange sdk py body manifests answer salt) := by
  refine within_bind (quietly_lift _) fun _ => ?_
  refine within_bind (quietly_lift _) fun _ => ?_
  refine within_bind (quietly_lift _) fun _ => ?_
  refine within_bind (quietly_lift _) fun _ => within_ite ?_ (within_throw _)
  refine within_bind (quietly_lift _) fun _ => ?_
  refine within_bind (quietly_fetchIssuerManifests sdk py _ _) fun _ => ?_
  refine within_bind (quietly_await _) fun _ => within_ite (within_throw _) ?_
  exact within_bind (quietly_raiseForStatus _) fun _ => within_pure _

/-- What the result of an exchange makes the agent hold. An exchange that raised brings
nothing. -/
def receivedBy {α : Type} (exchange : Route α) (p : AgentProcess)
    (received : α → Option Receipt) : Option Receipt :=
  match exchange p with
  | .ok a _ => received a
  | .error _ _ => none

/-- The response that a request receives for this agent to hold. -/
def receipt (p : AgentProcess) : AdminCall → Option Receipt
  | .initiateHandshake body peer salt =>
    receivedBy (handshakeExchange sdk py body peer salt) p
      fun (endpoint, _, completed) => receiptOfCompleted py endpoint completed
  | .renewTct body answer salt =>
    receivedBy (renewExchange sdk py body answer salt) p
      fun (port, text) => receiptOfRenewed py port text
  | .redeemDelegation body manifests answer salt =>
    receivedBy (redeemExchange sdk py body manifests answer salt) p
      fun (port, text) => receiptOfRedeemed py port text
  | _ => none

/-- What the other requests do to the process. -/
inductive Administered (p : AgentProcess) : AdminCall → AgentProcess → Prop
  | revoked (body : Json) (jti : String) :
    Administered p (.revokeTct body) { p with revocation := p.revocation.revokeLocal jti }
  | trusted (body : Json) (salt : Nat) (aids : Finset String) :
    Administered p (.trustPeers body salt) { p with trustedPeerAids := aids }
  | rotated (newAid manifest : String) (snapshot : Option Snapshot) :
    Administered p (.rotateKeys newAid (.ok manifest) snapshot)
      { p with
          serverAid := newAid
          manifestJson := manifest
          manifestAid := newAid
          rotations := p.rotations + 1
          revocation := { p.revocation with snapshot } }
  | minted (manifest : String) :
    Administered p (.getManifest (.ok manifest))
      { p with manifestJson := manifest, manifestAid := p.serverAid }

/-- An exchange that is quiet, and then what is made of its result. -/
theorem outcome_exchange {α β : Type} {x : Route α} {g : α → Route β} {p : AgentProcess}
    {received : α → Option Receipt} (hx : Within Quietly x)
    (hg : ∀ a q, Outcome q ((g a).after q) (received a)) :
    Outcome p ((x >>= g).after p) (receivedBy x p received) := by
  have hquiet := hx p
  unfold receivedBy
  -- An exchange that raised brings nothing, and the state is what it left.
  cases hrun : x p with
  | error e q =>
    have hafter : (x >>= g).after p = q := after_congr (y := throw e) (bind_of_error _ _ hrun)
    have hq : x.after p = q := after_congr (y := throw e) hrun
    rw [hafter, ← hq]
    exact hquiet
  | ok a q =>
    have hafter : (x >>= g).after p = (g a).after q := after_congr (bind_of_ok _ _ hrun)
    have hq : x.after p = q := after_congr (y := pure a) hrun
    rw [hafter]
    rw [hq] at hquiet
    have h := hg a q
    simp only
    cases hr : received a with
    | none =>
      rw [hr] at h
      exact hquiet.trans h
    | some r =>
      rw [hr] at h
      obtain ⟨q', hqq', hstored⟩ := h
      exact ⟨q', hquiet.trans hqq', hstored⟩

/-- `initiate_handshake` stores what its receipt says, or nothing. -/
theorem outcome_initiateHandshake (body : Json) (peer : HandshakeAnswers) (salt : Nat)
    (p : AgentProcess) :
    Outcome p ((initiateHandshake sdk py body peer salt).after p)
      (receipt sdk py p (.initiateHandshake body peer salt)) := by
  refine outcome_exchange (quietly_handshakeExchange sdk py body peer salt) ?_
  rintro ⟨endpoint, sessionId, completed⟩ q
  exact outcome_holdCompleted py endpoint sessionId completed q

/-- `renew_tct` stores what its receipt says, or nothing. -/
theorem outcome_renewTct (body : Json) (answer : HttpAnswer) (salt : Nat) (p : AgentProcess) :
    Outcome p ((renewTct sdk py body answer salt).after p)
      (receipt sdk py p (.renewTct body answer salt)) := by
  refine outcome_exchange (quietly_renewExchange sdk py body answer salt) ?_
  rintro ⟨port, text⟩ q
  exact outcome_holdRenewed py port text q

/-- `redeem_delegation` stores what its receipt says, or nothing. -/
theorem outcome_redeemDelegation (body : Json) (manifests : Nat → HttpAnswer)
    (answer : HttpAnswer) (salt : Nat) (p : AgentProcess) :
    Outcome p ((redeemDelegation sdk py body manifests answer salt).after p)
      (receipt sdk py p (.redeemDelegation body manifests answer salt)) := by
  refine outcome_exchange (quietly_redeemExchange sdk py body manifests answer salt) ?_
  rintro ⟨port, text⟩ q
  -- The answer of the route is built after the stores.
  have hstays : (holdRedeemed py port text >>= fun _ => pure
      (.obj [("ok", .bool true), ("peer_port", .num (.int port))]) : Route Json).after q =
      (holdRedeemed py port text).after q := by
    cases hrun : holdRedeemed py port text q with
    | ok _ q' =>
      rw [after_congr (bind_of_ok _ _ hrun), after_congr (y := pure ()) hrun]
      rfl
    | error e q' =>
      rw [after_congr (y := throw e) (bind_of_error _ _ hrun), after_congr (y := throw e) hrun]
      rfl
  show Outcome q (after _ q) _
  rw [hstays]
  exact outcome_holdRedeemed py port text q

/-- A `trust_peers` request is refused and leaves the process as it is, or replaces the trust
store by AIDs that the SDK accepts. -/
theorem trustPeers_cases (body : Json) (salt : Nat) (p : AgentProcess) :
    (∃ e, trustPeers sdk body salt p = .error e p) ∨
    ∃ reply aids replace, (body.member "aids").toOption.bind aidList = some aids ∧
      body.member "replace" = .ok replace ∧
      sdk.newResponder p.serverAid ((trustCandidate p replace aids).sort (· ≤ ·)) salt = .ok () ∧
      trustPeers sdk body salt p =
        .ok reply { p with trustedPeerAids := trustCandidate p replace aids } := by
  unfold trustPeers Route.lift
  -- The route reads, asks the SDK, and writes last.
  cases hgiven : body.member "aids" with
  | error exc => exact .inl ⟨_, rfl⟩
  | ok given =>
    simp only [ofExcept_ok_bind]
    cases haids : aidList given with
    | none => exact .inl ⟨_, rfl⟩
    | some aids =>
      cases hreplace : body.member "replace" with
      | error exc => exact .inl ⟨_, rfl⟩
      | ok replace =>
        cases hsdk : sdk.newResponder p.serverAid
            ((trustCandidate p replace aids).sort (· ≤ ·)) salt with
        | error exc =>
          left
          refine ⟨trustRefusal exc, ?_⟩
          show (Act.ofExcept trustRefusal (sdk.newResponder p.serverAid _ salt) >>= _ :
            Route Json) p = _
          rw [hsdk]
          rfl
        | ok _ =>
          right
          refine ⟨trustReply (trustCandidate p replace aids), aids, replace, haids, rfl, hsdk, ?_⟩
          show (Act.ofExcept trustRefusal (sdk.newResponder p.serverAid _ salt) >>= _ :
            Route Json) p = _
          rw [hsdk]
          rfl

/-- What one request does to the process. -/
theorem adminStep_cases {p p' : AgentProcess} {c : AdminCall}
    (h : adminStep sdk py p c = some p') :
    Outcome p p' (receipt sdk py p c) ∨ (receipt sdk py p c = none ∧ Administered p c p') := by
  obtain rfl : (c.route sdk py).after p = p' := Option.some.inj h
  -- The three requests that bring tokens, those that are quiet, and the others.
  cases c with
  | initiateHandshake body peer salt =>
    exact .inl (outcome_initiateHandshake sdk py body peer salt p)
  | renewTct body answer salt => exact .inl (outcome_renewTct sdk py body answer salt p)
  | redeemDelegation body manifests answer salt =>
    exact .inl (outcome_redeemDelegation sdk py body manifests answer salt p)
  | invoke body first second salt =>
    exact .inl (quietly_invokeCapability sdk py body first second salt p)
  | heldTct port => exact .inl (quietly_getHeldTct port p)
  | processRenewal payload exp ttl salt =>
    exact .inl (quietly_processRenewal sdk py payload exp ttl salt p)
  | exportSessionBundle body sessionId salt =>
    exact .inl (quietly_exportSessionBundle sdk py body sessionId salt p)
  | verifySessionBundle body answer salt =>
    exact .inl (quietly_verifySessionBundle sdk py body answer salt p)
  | delegate body answer salt => exact .inl (quietly_issueDelegation sdk py body answer salt p)
  | served => exact .inl .refl
  | revokeTct body =>
    show Outcome p ((revokeTct py body).after p) none ∨
      (none = none ∧ Administered p _ ((revokeTct py body).after p))
    unfold revokeTct
    cases (body.item "jti").bind (uuidOf py) with
    | ok jti => exact .inr ⟨rfl, .revoked body jti⟩
    | error exc => cases exc <;> exact .inl .refl
  | trustPeers body salt =>
    rcases trustPeers_cases sdk body salt p with ⟨e, hrun⟩ | ⟨reply, aids, replace, -, -, -, hrun⟩
    · left
      show Quietly p ((trustPeers sdk body salt).after p)
      rw [after_congr (y := throw e) hrun]
      exact .refl
    · right
      refine ⟨rfl, ?_⟩
      show Administered p _ ((trustPeers sdk body salt).after p)
      rw [after_congr (y := pure reply) hrun]
      exact .trusted body salt _
  | rotateKeys newAid minted snapshot =>
    cases minted with
    | ok manifest => exact .inr ⟨rfl, .rotated newAid manifest snapshot⟩
    | error exc => exact .inl .refl
  | getManifest minted =>
    cases minted with
    | ok manifest => exact .inr ⟨rfl, .minted manifest⟩
    | error exc => exact .inl .refl

end

end AitpPlayground.Proofs.Agents
