import AitpPlayground.Proofs.Agents.AgentAdmin

/-!
# `AitpPlayground.Proofs.Agents.HeldTokens`: tokens and vouchers by port

An agent keeps the token and the voucher of a peer in two maps, both keyed by a port number.

The first part is about the pairing of the two maps. A response always replaces the token of
its port, and the voucher only if it brings one. So a response without a voucher leaves the
voucher of an older token behind. `BringsVoucher` is the condition that excludes it, and
`vouchers_paired_iff` says that it is exact: a request keeps the maps paired if and only if
it meets the condition.

The second part is about whose token a port number stands for. The number is computed from
the handshake endpoint and the host does not enter it, so two peers on one port share an
entry. `invoke_presents_token_iff` says when the token of a peer is still the one that is
presented.
-/

set_option autoImplicit false

namespace AitpPlayground.Proofs.Agents

open AitpPlayground.Lib
open AitpPlayground.Lib.Act
open AitpPlayground.Agents

variable {sdk : AdminSdk} {py : PyLib} {p p' : AgentProcess}

/-! ### What other requests leave alone -/

/-- The fields that say what is held, and where it came from. -/
structure SameHeld (p p' : AgentProcess) : Prop where
  heldTcts : p'.heldTcts = p.heldTcts
  heldVouchers : p'.heldVouchers = p.heldVouchers
  tctFrom : p'.tctFrom = p.tctFrom
  voucherFrom : p'.voucherFrom = p.voucherFrom
  responses : p.responses ≤ p'.responses

/-- What holds no token leaves the tokens. -/
theorem sameHeld_quietly (h : Quietly p p') : SameHeld p p' := by
  induction h with
  | refl => exact ⟨rfl, rfl, rfl, rfl, Nat.le_refl _⟩
  | tail _ hquiet ih =>
    cases hquiet with
    | use op => exact ⟨ih.heldTcts, ih.heldVouchers, ih.tctFrom, ih.voucherFrom, ih.responses⟩
    | send call => exact ⟨ih.heldTcts, ih.heldVouchers, ih.tctFrom, ih.voucherFrom, ih.responses⟩
    | response =>
      exact ⟨ih.heldTcts, ih.heldVouchers, ih.tctFrom, ih.voucherFrom,
        Nat.le_succ_of_le ih.responses⟩

/-- A request that hands out no token leaves the tokens. -/
theorem sameHeld_administered {c : AdminCall} (h : Administered p c p') : SameHeld p p' := by
  cases h <;> exact ⟨rfl, rfl, rfl, rfl, Nat.le_refl _⟩

/-- A request stores what it received, or leaves what is held alone. -/
theorem held_step_cases {c : AdminCall} (h : adminStep sdk py p c = some p') :
    (receipt sdk py p c = none ∧ SameHeld p p') ∨
    ∃ r q, receipt sdk py p c = some r ∧ SameHeld p q ∧ Stored r.port r.token r.voucher q p' := by
  rcases adminStep_cases sdk py h with hout | ⟨hnone, hadm⟩
  · cases hr : receipt sdk py p c with
    | none =>
      rw [hr] at hout
      exact .inl ⟨rfl, sameHeld_quietly hout⟩
    | some r =>
      rw [hr] at hout
      obtain ⟨q, hq, hstored⟩ := hout
      exact .inr ⟨r, q, rfl, sameHeld_quietly hq, hstored⟩
  · exact .inl ⟨hnone, sameHeld_administered hadm⟩

/-! ### Token and voucher -/

/-- A voucher that is held came in the response that the held token of its port came in. -/
def Paired (p : AgentProcess) : Prop :=
  ∀ port voucher, p.heldVouchers.get? port = some voucher →
    ∃ token n, p.heldTcts.get? port = some token ∧ p.tctFrom.get? port = some n ∧
      p.voucherFrom.get? port = some n

/-- A response that the request receives brings a voucher, or none is held for its port. -/
def BringsVoucher (sdk : AdminSdk) (py : PyLib) (p : AgentProcess) (c : AdminCall) : Prop :=
  ∀ r ∈ receipt sdk py p c, r.voucher.isSome = true ∨ p.heldVouchers.get? r.port = none

instance (sdk : AdminSdk) (py : PyLib) (p : AgentProcess) (c : AdminCall) :
    Decidable (BringsVoucher sdk py p c) :=
  inferInstanceAs (Decidable (∀ r ∈ receipt sdk py p c, _))

/-- The origins are those of what is held, and of responses so far. -/
structure FromInv (p : AgentProcess) : Prop where
  vouchers : ∀ port, (p.voucherFrom.get? port).isSome = (p.heldVouchers.get? port).isSome
  bound : ∀ port n, p.voucherFrom.get? port = some n → n ≤ p.responses

/-- Tokens that stay are still received ones. -/
theorem fromInv_sameHeld (hp : FromInv p) (h : SameHeld p p') : FromInv p' := by
  refine ⟨?_, ?_⟩
  · intro port
    rw [h.voucherFrom, h.heldVouchers]
    exact hp.vouchers port
  · intro port n hn
    rw [h.voucherFrom] at hn
    exact (hp.bound port n hn).trans h.responses

/-- Storing a token keeps the invariant. -/
theorem fromInv_stored {port : Int} {token : Json} {voucher : Option Json} (hp : FromInv p)
    (h : Stored port token voucher p p') : FromInv p' := by
  refine ⟨?_, ?_⟩
  · intro x
    rw [h.voucherFrom, h.heldVouchers]
    have hx := hp.vouchers x
    split
    · cases voucher with
      | some v => rfl
      | none => exact hx
    · exact hx
  · intro x n hn
    have hlt := h.responses
    rw [h.voucherFrom] at hn
    split at hn
    · cases voucher with
      | some v =>
        cases hn
        exact Nat.le_refl _
      | none =>
        have hle := hp.bound x n hn
        omega
    -- A voucher of another port is from an earlier response.
    · have hle := hp.bound x n hn
      omega

/-- While the tokens and vouchers stay, so does their pairing. -/
theorem paired_sameHeld (h : SameHeld p p') : Paired p' ↔ Paired p := by
  unfold Paired
  rw [h.heldTcts, h.heldVouchers, h.tctFrom, h.voucherFrom]

/-- A store keeps the maps paired exactly when it brings a voucher or there is none. -/
theorem paired_stored_iff {port : Int} {token : Json} {voucher : Option Json} (hinv : FromInv p)
    (hp : Paired p) (h : Stored port token voucher p p') :
    Paired p' ↔ voucher.isSome = true ∨ p.heldVouchers.get? port = none := by
  constructor
  · intro hpaired
    cases voucher with
    | some v => exact .inl rfl
    | none =>
      right
      cases hheld : p.heldVouchers.get? port with
      | none => rfl
      | some old =>
        -- The voucher stays, and its response is older than that of the token.
        have hstays : p'.heldVouchers.get? port = some old := by
          rw [h.heldVouchers, if_pos rfl]
          exact hheld
        obtain ⟨token', n, -, htct, hvoucher⟩ := hpaired port old hstays
        rw [h.tctFrom, if_pos rfl, Option.some.injEq] at htct
        rw [h.voucherFrom, if_pos rfl] at hvoucher
        have hle := hinv.bound port n hvoucher
        have hnew := h.responses
        omega
  · intro hok x v hv
    rw [h.heldVouchers] at hv
    rw [h.heldTcts, h.tctFrom, h.voucherFrom]
    by_cases hx : port = x
    · subst hx
      rw [if_pos rfl] at hv ⊢
      rw [if_pos rfl, if_pos rfl]
      cases voucher with
      | some w => exact ⟨token, p'.responses, rfl, rfl, rfl⟩
      | none =>
        -- Without a voucher in the response there is none for the port.
        rcases hok with hsome | hnone
        · cases hsome
        · rw [hnone] at hv
          cases hv
    · rw [if_neg hx] at hv ⊢
      rw [if_neg hx, if_neg hx]
      exact hp x v hv

/-- One request from a paired process. -/
theorem paired_step_iff {c : AdminCall} (hinv : FromInv p) (hp : Paired p)
    (h : adminStep sdk py p c = some p') :
    FromInv p' ∧ (Paired p' ↔ BringsVoucher sdk py p c) := by
  rcases held_step_cases h with ⟨hnone, hsame⟩ | ⟨r, q, hr, hsame, hstored⟩
  · refine ⟨fromInv_sameHeld hinv hsame, ?_⟩
    constructor
    · intro _ r hr
      rw [hnone] at hr
      cases hr
    · intro _
      exact (paired_sameHeld hsame).mpr hp
  · have hq : FromInv q := fromInv_sameHeld hinv hsame
    refine ⟨fromInv_stored hq hstored, ?_⟩
    rw [paired_stored_iff hq ((paired_sameHeld hsame).mpr hp) hstored, hsame.heldVouchers]
    unfold BringsVoucher
    rw [hr]
    constructor
    · intro h r' hr'
      rw [Option.mem_some_iff] at hr'
      exact hr' ▸ h
    · exact fun h => h r rfl

/-- In every run from the start of a worker whose requests all meet `BringsVoucher`, token and
voucher are paired, and the next request keeps them so exactly when it meets the condition
too. -/
theorem vouchers_paired_iff (sdk : AdminSdk) (py : PyLib) (aid manifestJson : String)
    (oidc loopbackTls : Bool) (p : AgentProcess)
    (hrun : Reach (adminStep sdk py) (BringsVoucher sdk py)
      (.start aid manifestJson oidc loopbackTls) p) :
    Paired p ∧ ∀ c p', adminStep sdk py p c = some p' → (Paired p' ↔ BringsVoucher sdk py p c) := by
  have hinv : FromInv p ∧ Paired p := by
    refine Reach.invariant (P := fun p => FromInv p ∧ Paired p) ?_ hrun ?_
    · rintro q c q' ⟨hfrom, hpaired⟩ hok hstep
      obtain ⟨hfrom', hiff⟩ := paired_step_iff hfrom hpaired hstep
      exact ⟨hfrom', hiff.mpr hok⟩
    · refine ⟨⟨fun _ => rfl, ?_⟩, ?_⟩
      · intro port n hn
        cases hn
      · intro port voucher hv
        cases hv
  exact ⟨hinv.2, fun c p' hstep => (paired_step_iff hinv.1 hinv.2 hstep).2⟩

/-- A text that is a token without claims. -/
def tokenText (name : String) : String := name ++ ".e30.signature"

/-- The manifest of a peer, as its text and as the value that is read from it. -/
def peerManifest (aid endpoint : String) : String × Json :=
  ("\x7b\"manifest\":\x7b\"aid\":\"" ++ aid ++ "\",\"handshake_endpoint\":\"" ++ endpoint ++
      "\"\x7d\x7d",
    .obj [("manifest", .obj [("aid", .str aid), ("handshake_endpoint", .str endpoint)])])

/-- What a peer commits to, with a voucher and without one. -/
def vouchedCommit (name : String) : String × Json :=
  ("\x7b\"tct\":\"" ++ tokenText name ++ "\",\"grant_voucher\":\"voucher of " ++ name ++ "\"\x7d",
    .obj [("tct", .str (tokenText name)), ("grant_voucher", .str ("voucher of " ++ name))])

def bareCommit (name : String) : String × Json :=
  ("\x7b\"tct\":\"" ++ tokenText name ++ "\"\x7d", .obj [("tct", .str (tokenText name))])

/-- A library that reads these texts, and the claims of a token without claims. -/
def peersLib (texts : List (String × Json)) : PyLib :=
  { PyLib.reading texts with
      urlsafeB64decode := fun s =>
        if s = "e30=" then .ok [0x7b, 0x7d] else .error (.valueError "Incorrect padding" none)
      jsonLoadsBytes := fun bytes =>
        if bytes = [0x7b, 0x7d] then .ok (.obj [])
        else .error (.valueError "Expecting value" none)
      intOfStr := fun s =>
        if s = "8443" then .ok 8443
        else .error (.valueError "invalid literal for int() with base 10" none)
      strOf := fun
        | .str s => s
        | _ => "" }

/-- A response with this text. -/
def answerOf (text : String) : HttpAnswer :=
  .ok { status := 200, text, headers := .ofList [("x-aitp-session-id", "session")] }

/-- The body of a handshake request. -/
def handshakeBody : Json :=
  .obj [("peer_manifest_url", .str "https://peer.test/.well-known/aitp-manifest")]

/-- A peer that answers with this manifest and this commit. -/
def peerWith (manifest commit : String × Json) : HandshakeAnswers where
  manifest := answerOf manifest.1
  hello := answerOf "ack"
  commit := answerOf commit.1

/-- A peer without a port in its endpoint. -/
def manifestA : String × Json := peerManifest "a" "https://a.test/aitp/handshake/hello"

/-- A library for a handshake with this peer and a renewal by it. -/
def renewalLib : PyLib := peersLib [manifestA, vouchedCommit "t1", vouchedCommit "t2"]

/-- A handshake, and then a request whose response has this text. -/
def handshakeThenRenewal (text : String) : List AdminCall :=
  [.initiateHandshake handshakeBody (peerWith manifestA (vouchedCommit "t1")) 0,
   .renewTct (.obj [("peer_port", .num (.int 443))]) (answerOf text) 0]

def handshakeThenRedemption (text : String) : List AdminCall :=
  [.initiateHandshake handshakeBody (peerWith manifestA (vouchedCommit "t1")) 0,
   .redeemDelegation
     (.obj [("redeem_url", .str "https://a.test/aitp/delegation/redeem"),
       ("delegation_token", .str "d"), ("peer_port", .num (.int 443)),
       ("issuer_manifest_urls", .arr [.str "https://a.test/.well-known/aitp-manifest"])])
     (fun _ => answerOf manifestA.1) (answerOf text) 0]

/-- A renewal that brings a voucher replaces both. -/
theorem vouchers_paired_after_renewal :
    ∃ p, Reach (adminStep .accepting renewalLib) (BringsVoucher .accepting renewalLib)
        (.start "b" "m" false false) p ∧
      p.heldVouchers.get? 443 = some (.str "voucher of t2") ∧ Paired p := by
  have hexec : (exec (adminStep .accepting renewalLib) (BringsVoucher .accepting renewalLib)
      (.start "b" "m" false false) (handshakeThenRenewal (vouchedCommit "t2").1)).map
        (fun p => p.heldVouchers.get? 443) = some (some (.str "voucher of t2")) := by
    decide +kernel
  obtain ⟨p, hrun, hheld⟩ := exists_reach_of_exec hexec
  exact ⟨p, hrun, hheld, (vouchers_paired_iff _ _ _ _ _ _ p hrun).1⟩

/-- A redemption whose answer is not JSON leaves the voucher of the token it replaces. -/
theorem voucher_outlives_token :
    ¬ ∀ p, Reach (adminStep .accepting renewalLib) anyStep (.start "b" "m" false false) p →
        Paired p := by
  intro hall
  -- The token came in the second response, and the voucher in the first.
  have hexec : (exec (adminStep .accepting renewalLib) anyStep (.start "b" "m" false false)
      (handshakeThenRedemption "redeemed")).map
        (fun p => (p.heldVouchers.get? 443, p.tctFrom.get? 443, p.voucherFrom.get? 443)) =
      some (some (.str "voucher of t1"), some 2, some 1) := by
    decide +kernel
  obtain ⟨p, hrun, hread⟩ := exists_reach_of_exec hexec
  simp only [Prod.mk.injEq] at hread
  obtain ⟨hheld, htct, hvoucher⟩ := hread
  obtain ⟨token, n, -, htct', hvoucher'⟩ := hall p hrun 443 _ hheld
  rw [htct] at htct'
  rw [hvoucher, ← htct'] at hvoucher'
  cases hvoucher'

/-! ### Port numbers -/

/-- A handshake that was completed: the endpoint of the peer, the token it issued, the
`peer_port` of the reply, and which response of the agent's life it was. -/
structure Handshake where
  endpoint : String
  token : Json
  port : Int
  response : Nat
deriving DecidableEq

/-- A successful call of `initiate_handshake`. -/
def HandshakeOk (sdk : AdminSdk) (py : PyLib) (p : AgentProcess) (h : Handshake)
    (p' : AgentProcess) : Prop :=
  ∃ body peer salt sessionId completed q reply,
    handshakeExchange sdk py body peer salt p = .ok (h.endpoint, sessionId, completed) q ∧
    completed.item "tct" = .ok h.token ∧
    initiateHandshake sdk py body peer salt p = .ok reply p' ∧
    reply.item "peer_port" = .ok (.num (.int h.port)) ∧
    p'.responses = h.response

/-- Successful handshakes, one after the other. -/
inductive Handshakes (sdk : AdminSdk) (py : PyLib) :
    AgentProcess → List Handshake → AgentProcess → Prop
  | nil (p : AgentProcess) : Handshakes sdk py p [] p
  | cons {p q r : AgentProcess} {h : Handshake} {hs : List Handshake}
      (first : HandshakeOk sdk py p h q) (rest : Handshakes sdk py q hs r) :
      Handshakes sdk py p (h :: hs) r

/-- The `peer_port` of a reply. -/
theorem item_handshakeReply (claims : Dict String Json) (sessionId : String) (port : Int) :
    (handshakeReply claims sessionId port).item "peer_port" = .ok (.num (.int port)) := by
  have hget : (Dict.ofList
      [("grants", (claims.get? "grants").getD (.arr [])), ("session_id", .str sessionId),
       ("peer_aid", (claims.get? "iss").getD .null), ("peer_port", .num (.int port)),
       ("jti", (claims.get? "jti").getD .null)]).get? "peer_port" = some (.num (.int port)) := by
    rw [Dict.get?_ofList (by simp)]
    rfl
  simp only [handshakeReply, Json.item, Json.dict?, hget]

/-- A token whose claims were read is a text that is not empty. -/
theorem token_of_claimsOf {token : Json} {claims : Dict String Json}
    (h : claimsOf py token = .ok claims) : ∃ tct, token = .str tct ∧ tct ≠ "" := by
  cases token with
  | str tct =>
    refine ⟨tct, rfl, ?_⟩
    rintro rfl
    simp [claimsOf, decodeClaims] at h
  | null => cases h
  | bool b => cases h
  | num n => cases h
  | arr items => cases h
  | obj members => cases h

/-- What a successful handshake does: the port is that of the endpoint, and the token is held
for it. -/
theorem handshakeOk_spec {h : Handshake} (hok : HandshakeOk sdk py p h p') :
    portFromUrl py h.endpoint = .ok h.port ∧ (∃ tct, h.token = .str tct ∧ tct ≠ "") ∧
      p.responses < h.response ∧ p'.responses = h.response ∧
      ∀ x, p'.heldTcts.get? x = if h.port = x then some h.token else p.heldTcts.get? x := by
  obtain ⟨body, peer, salt, sessionId, completed, q, reply, hex, htoken, hrun, hport, hresponse⟩ :=
    hok
  have hsame : SameHeld p q := by
    have hquiet := quietly_handshakeExchange sdk py body peer salt p
    rw [after_congr (y := pure _) hex] at hquiet
    exact sameHeld_quietly hquiet
  have hhold : holdCompleted py h.endpoint sessionId completed q = .ok reply p' :=
    (bind_of_ok _ _ hex).symm.trans hrun
  -- The exchange stores nothing. The rest of the route reads the token and its port, and stores.
  unfold holdCompleted Route.lift at hhold
  rw [htoken] at hhold
  cases hclaims : claimsOf py h.token with
  | error exc =>
    simp only [ofExcept_ok_bind, hclaims] at hhold
    cases hhold
  | ok claims =>
    cases hurl : portFromUrl py h.endpoint with
    | error exc =>
      simp only [ofExcept_ok_bind, hclaims, hurl] at hhold
      cases hhold
    | ok port =>
      simp only [ofExcept_ok_bind, hclaims, hurl] at hhold
      have hheld := (bind_of_ok _ _ (run_holdFrom q htoken)).symm.trans hhold
      obtain ⟨hreply, hp'⟩ := pure_eq_ok.mp hheld
      rw [← hreply, item_handshakeReply] at hport
      -- The reply names the port that the token is held for.
      obtain rfl : port = h.port := by
        simpa using hport
      have hstored := stored_holding q h.port h.token (voucherOf completed)
      refine ⟨rfl, token_of_claimsOf hclaims, ?_, hresponse, ?_⟩
      · rw [← hresponse, ← hp', hstored.responses]
        exact Nat.lt_succ_of_le hsame.responses
      · intro x
        rw [← hp', hstored.heldTcts x, hsame.heldTcts]

/-- The token held for a port is that of the last handshake with this port number. -/
theorem heldTcts_handshakes {hs : List Handshake} (h : Handshakes sdk py p hs p') (x : Int) :
    p'.heldTcts.get? x =
      (((hs.filter fun h => decide (h.port = x)).getLast?).map Handshake.token).or
        (p.heldTcts.get? x) := by
  induction h with
  | nil p => rfl
  | cons first rest ih =>
    rename_i p q r h hs
    obtain ⟨-, -, -, -, hheld⟩ := handshakeOk_spec first
    rw [ih, hheld x]
    -- A later handshake with this port number replaces the token.
    by_cases hx : h.port = x
    · cases hlast : (hs.filter fun h => decide (h.port = x)).getLast? with
      | none => simp [hx, List.getLast?_cons, hlast]
      | some last => simp [hx, List.getLast?_cons, hlast]
    · simp [hx]

/-- The port number of each handshake is that of its endpoint, its token is a text, and its
response is new. -/
theorem handshakes_spec {hs : List Handshake} (hrun : Handshakes sdk py p hs p') {h : Handshake}
    (hmem : h ∈ hs) :
    portFromUrl py h.endpoint = .ok h.port ∧ (∃ tct, h.token = .str tct ∧ tct ≠ "") ∧
      p.responses < h.response := by
  induction hrun with
  | nil p => cases hmem
  | cons first rest ih =>
    obtain ⟨hurl, htoken, hlt, hresponse, -⟩ := handshakeOk_spec first
    rcases List.mem_cons.mp hmem with rfl | hmem
    · exact ⟨hurl, htoken, hlt⟩
    · obtain ⟨hurl', htoken', hlt'⟩ := ih hmem
      refine ⟨hurl', htoken', ?_⟩
      omega

/-- The handshakes after the first of a list. -/
theorem handshakes_of_append {before later : List Handshake}
    (hrun : Handshakes sdk py p (before ++ later) p') : ∃ q, Handshakes sdk py q later p' := by
  induction before generalizing p with
  | nil => exact ⟨p, hrun⟩
  | cons h before ih =>
    cases hrun with
    | cons first rest => exact ih rest

/-- The calls that went out between two states: all with this URL and this token. -/
def Sent (url tct : String) (p p' : AgentProcess) : Prop :=
  ∃ calls, p'.sent = calls ++ p.sent ∧ ∀ call ∈ calls, call.url = url ∧ call.tct = tct

instance (url tct : String) : Std.Refl (Sent url tct) := by
  refine ⟨fun p => ⟨[], rfl, ?_⟩⟩
  intro call hcall
  cases hcall

instance (url tct : String) : IsTrans AgentProcess (Sent url tct) := by
  refine ⟨fun p q r hpq hqr => ?_⟩
  obtain ⟨calls, heq, hcalls⟩ := hpq
  obtain ⟨calls', heq', hcalls'⟩ := hqr
  refine ⟨calls' ++ calls, by rw [heq', heq, List.append_assoc], ?_⟩
  intro call hmem
  rcases List.mem_append.mp hmem with h | h
  · exact hcalls' call h
  · exact hcalls call h

/-- A use of the key sends nothing. -/
theorem sent_useKey {α : Type} {url tct : String} (op : KeyOp) (call : String → Except PyErr α) :
    Within (Sent url tct) (Route.useKey op call) := by
  refine within_bind within_get fun _ => within_bind (within_modify fun q => ?_) fun _ =>
    within_ofExcept _ _
  exact ⟨[], rfl, fun call hcall => by cases hcall⟩

/-- A call that goes out is the one that is meant. -/
theorem sent_sendCall {call : SentCall} : Within (Sent call.url call.tct) (sendCall call) := by
  refine within_modify fun p => ⟨[call], rfl, ?_⟩
  intro call' hcall'
  rw [List.mem_singleton.mp hcall']
  exact ⟨rfl, rfl⟩

/-- The answer to a challenge sends nothing. -/
theorem sent_answerChallenge {url tct : String} (challenge : String) (salt : Nat) :
    Within (Sent url tct) (answerChallenge sdk py challenge salt) := by
  refine within_tryCatch ?_ fun exc => ?_
  · refine within_bind (within_ofExcept _ _) fun _ => ?_
    exact within_bind (sent_useKey _ _) fun _ => within_pure _
  · cases exc with
    | raised e => exact within_ite (within_pure _) (within_throw _)
    | http refusal => exact within_throw _
    | transport detail => exact within_throw _
    | response status text => exact within_throw _

/-- The second call goes to the same URL with the same token. -/
theorem sent_awaitReply (sdk : AdminSdk) (py : PyLib) (call : SentCall)
    (first second : HttpAnswer) (salt : Nat) :
    Within (Sent call.url call.tct) (awaitReply sdk py call first second salt) := by
  refine within_bind (within_ofExcept _ _) fun _ => within_ite ?_ (within_pure _)
  refine within_bind (sent_answerChallenge _ _) fun response => ?_
  cases response with
  | error refusal => exact within_pure _
  | ok response =>
    refine within_bind sent_sendCall fun _ => ?_
    exact within_bind (within_ofExcept _ _) fun _ => within_pure _

/-- A capability call goes out at least once, and every time with its token. -/
theorem sent_callPeer (sdk : AdminSdk) (py : PyLib) (call : SentCall)
    (first second : HttpAnswer) (salt : Nat) (p : AgentProcess) :
    ∃ calls, calls ≠ [] ∧
      ((callPeer sdk py call first second salt).after p).sent = calls ++ p.sent ∧
      ∀ c ∈ calls, c.url = call.url ∧ c.tct = call.tct := by
  obtain ⟨calls, heq, hcalls⟩ :=
    sent_awaitReply sdk py call first second salt { p with sent := call :: p.sent }
  refine ⟨calls ++ [call], by simp, ?_, ?_⟩
  · unfold callPeer sendCall
    rw [after_modify_bind, heq, List.append_assoc, List.singleton_append]
  · intro c hc
    rcases List.mem_append.mp hc with h | h
    · exact hcalls c h
    · rw [List.mem_singleton.mp h]
      exact ⟨rfl, rfl⟩

/-- The body of an `invoke` request. -/
def invokeBody (peerPort : Int) (peerBaseUrl capability : String) (payload : Json) : Json :=
  .obj [("peer_port", .num (.int peerPort)), ("peer_base_url", .str peerBaseUrl),
    ("capability", .str capability), ("payload", payload)]

/-- What an `invoke` request sends, for a port with a token. -/
theorem sent_invokeCapability {port : Int} {tct baseUrl : String} (capability : String)
    (payload : Json) (first second : HttpAnswer) (salt : Nat)
    (hheld : p.heldTcts.get? port = some (.str tct)) (htct : tct ≠ "") (hbase : baseUrl ≠ "") :
    ∃ calls, calls ≠ [] ∧
      ((invokeCapability sdk py (invokeBody port baseUrl capability payload) first second
        salt).after p).sent = calls ++ p.sent ∧
      ∀ call ∈ calls, call.tct = tct ∧
        call.url = rstripSlash baseUrl ++ "/capabilities/" ++ py.strOf (.str capability) := by
  have hnodup : (([("peer_port", Json.num (.int port)), ("peer_base_url", .str baseUrl),
      ("capability", .str capability), ("payload", payload)]).map Prod.fst).Nodup := by simp
  -- What the route reads from the body.
  have hport : ((invokeBody port baseUrl capability payload).item "peer_port").bind py.int =
      .ok port := by
    simp only [Json.item, invokeBody, Json.dict?, Dict.get?_ofList hnodup]
    rfl
  have hcap : (invokeBody port baseUrl capability payload).item "capability" =
      .ok (.str capability) := by
    simp only [Json.item, invokeBody, Json.dict?, Dict.get?_ofList hnodup]
    rfl
  have hpayload : (invokeBody port baseUrl capability payload).member "payload" = .ok payload := by
    simp only [Json.member, invokeBody, Json.dict?, Dict.get?_ofList hnodup]
    rfl
  have hgiven : (invokeBody port baseUrl capability payload).member "peer_base_url" =
      .ok (.str baseUrl) := by
    simp only [Json.member, invokeBody, Json.dict?, Dict.get?_ofList hnodup]
    rfl
  have hurl : peerBaseUrl (.str baseUrl) p.loopbackTls port = .ok (rstripSlash baseUrl) := by
    simp [peerBaseUrl, Json.truthy, hbase]
  have htoken : heldToken port p = .ok (.str tct) p := by
    unfold heldToken
    refine (bind_of_ok _ _ rfl).trans ?_
    rw [hheld]
    simp only [Json.truthy, htct, decide_false, Bool.not_false, if_true]
    rfl
  -- So the route comes down to the call of the peer.
  have hafter : (invokeCapability sdk py (invokeBody port baseUrl capability payload) first second
      salt).after p =
      (callPeer sdk py ⟨rstripSlash baseUrl ++ "/capabilities/" ++ py.strOf (.str capability), tct,
        payloadContent py payload, none⟩ first second salt).after p := by
    unfold invokeCapability Route.lift
    simp only [hport, hcap, hpayload, hgiven, ofExcept_ok_bind, after_get_bind, hurl]
    exact after_congr (bind_of_ok _ _ htoken)
  obtain ⟨calls, hne, heq, hcalls⟩ := sent_callPeer sdk py
    ⟨rstripSlash baseUrl ++ "/capabilities/" ++ py.strOf (.str capability), tct,
      payloadContent py payload, none⟩ first second salt p
  refine ⟨calls, hne, hafter ▸ heq, ?_⟩
  intro call hcall
  exact (hcalls call hcall).symm

/-- The handshake whose token is held for the port of `h`, after `h` and later handshakes: it
is `h` itself exactly when no later endpoint has the port number of its endpoint. -/
theorem holder_of_handshakes {later : List Handshake} {h : Handshake}
    (hrun : Handshakes sdk py p (h :: later) p') :
    ∃ held ∈ h :: later, p'.heldTcts.get? h.port = some held.token ∧
      (held = h ↔ ∀ h' ∈ later, portFromUrl py h'.endpoint ≠ portFromUrl py h.endpoint) := by
  obtain ⟨hurl, -, -⟩ := handshakes_spec hrun (List.mem_cons_self ..)
  have hport : ∀ h' ∈ later,
      (portFromUrl py h'.endpoint = portFromUrl py h.endpoint ↔ h'.port = h.port) := by
    intro h' hmem
    obtain ⟨hurl', -, -⟩ := handshakes_spec hrun (List.mem_cons_of_mem _ hmem)
    rw [hurl, hurl', Except.ok.injEq]
  -- The token is that of the last handshake with this port number.
  have hheld := heldTcts_handshakes hrun h.port
  rw [List.filter_cons_of_pos (by simp), List.getLast?_cons] at hheld
  cases hlast : (later.filter fun h' => decide (h'.port = h.port)).getLast? with
  | none =>
    refine ⟨h, List.mem_cons_self .., ?_, ?_⟩
    · rw [hheld, hlast]
      rfl
    · rw [List.getLast?_eq_none_iff, List.filter_eq_nil_iff] at hlast
      refine iff_of_true rfl fun h' hmem heq => ?_
      exact hlast h' hmem (decide_eq_true ((hport h' hmem).mp heq))
  | some held =>
    have hmem := List.mem_filter.mp (List.mem_of_getLast? hlast)
    refine ⟨held, List.mem_cons_of_mem _ hmem.1, ?_, ?_⟩
    · rw [hheld, hlast]
      rfl
    · refine iff_of_false ?_ fun hall => ?_
      · -- The response of a later handshake is a later one.
        rintro rfl
        cases hrun with
        | cons first rest =>
          obtain ⟨-, -, -, hresponse, -⟩ := handshakeOk_spec first
          obtain ⟨-, -, hlt⟩ := handshakes_spec rest hmem.1
          omega
      · exact hall held hmem.1 ((hport held hmem.1).mpr (of_decide_eq_true hmem.2))

/-- After any handshakes, the token that an `invoke` request presents for the port of `h` is
that of a handshake from `h` on, and of `h` itself exactly when no later endpoint has the port
number of its endpoint. -/
theorem invoke_presents_token_iff (sdk : AdminSdk) (py : PyLib) {p₀ p : AgentProcess}
    {before later : List Handshake} {h : Handshake}
    (hrun : Handshakes sdk py p₀ (before ++ h :: later) p) (baseUrl capability : String)
    (payload : Json) (first second : HttpAnswer) (salt : Nat) (hbase : baseUrl ≠ "") :
    ∃ held ∈ h :: later, ∃ calls, calls ≠ [] ∧
      ((invokeCapability sdk py (invokeBody h.port baseUrl capability payload) first second
        salt).after p).sent = calls ++ p.sent ∧
      (∀ call ∈ calls, .str call.tct = held.token ∧
        call.url = rstripSlash baseUrl ++ "/capabilities/" ++ py.strOf (.str capability)) ∧
      (held = h ↔ ∀ h' ∈ later, portFromUrl py h'.endpoint ≠ portFromUrl py h.endpoint) := by
  obtain ⟨q, hrun⟩ := handshakes_of_append hrun
  obtain ⟨held, hmem, hheld, hiff⟩ := holder_of_handshakes hrun
  obtain ⟨-, ⟨tct, htoken, htct⟩, -⟩ := handshakes_spec hrun hmem
  rw [htoken] at hheld
  obtain ⟨calls, hne, heq, hcalls⟩ :=
    sent_invokeCapability capability payload first second salt hheld htct hbase
  refine ⟨held, hmem, calls, hne, heq, ?_, hiff⟩
  intro call hcall
  obtain ⟨hsent, hto⟩ := hcalls call hcall
  exact ⟨by rw [hsent, htoken], hto⟩

/-- A handshake, evaluated. -/
def handshake? (sdk : AdminSdk) (py : PyLib) (p : AgentProcess)
    (c : Json × HandshakeAnswers × Nat) : Option (Handshake × AgentProcess) :=
  match handshakeExchange sdk py c.1 c.2.1 c.2.2 p, initiateHandshake sdk py c.1 c.2.1 c.2.2 p with
  | .ok (endpoint, _, completed) _, .ok reply p' =>
    match completed.item "tct", reply.item "peer_port" with
    | .ok token, .ok (.num (.int port)) =>
      some ({ endpoint, token, port, response := p'.responses }, p')
    | _, _ => none
  | _, _ => none

def handshakes? (sdk : AdminSdk) (py : PyLib) :
    AgentProcess → List (Json × HandshakeAnswers × Nat) → Option (List Handshake × AgentProcess)
  | p, [] => some ([], p)
  | p, c :: cs => do
    let (h, q) ← handshake? sdk py p c
    let (hs, r) ← handshakes? sdk py q cs
    pure (h :: hs, r)

/-- A handshake that is evaluated is one of the sequence. -/
theorem handshakeOk_of_eval {c : Json × HandshakeAnswers × Nat} {h : Handshake}
    (heval : handshake? sdk py p c = some (h, p')) : HandshakeOk sdk py p h p' := by
  unfold handshake? at heval
  split at heval
  case h_1 endpoint sessionId completed q reply p'' hex hrun =>
    split at heval
    case h_1 token port htoken hport =>
      cases heval
      exact ⟨c.1, c.2.1, c.2.2, sessionId, completed, q, reply, hex, htoken, hrun, hport, rfl⟩
    case h_2 => cases heval
  case h_2 => cases heval

/-- A sequence of handshakes that is evaluated is one. -/
theorem handshakes_of_eval {cs : List (Json × HandshakeAnswers × Nat)} {hs : List Handshake}
    (heval : handshakes? sdk py p cs = some (hs, p')) : Handshakes sdk py p hs p' := by
  induction cs generalizing p hs with
  | nil =>
    cases heval
    exact .nil _
  | cons c cs ih =>
    obtain ⟨⟨h, q⟩, hfirst, hrest⟩ := Option.bind_eq_some_iff.mp heval
    obtain ⟨⟨hs', r⟩, hrest, heq⟩ := Option.bind_eq_some_iff.mp hrest
    cases heq
    exact .cons (handshakeOk_of_eval hfirst) (ih hrest)

/-- A second peer without a port in its endpoint, and one with a port. -/
def manifestB : String × Json := peerManifest "b" "https://b.test/aitp/handshake/hello"

def manifestC : String × Json := peerManifest "c" "https://c.test:8443/aitp/handshake/hello"

def threePeersLib : PyLib :=
  peersLib [manifestA, manifestB, manifestC, bareCommit "ta", bareCommit "tb", bareCommit "tc"]

/-- A handshake with `a`, and then one with a second peer. -/
def handshakesWithA (manifest commit : String × Json) : List (Json × HandshakeAnswers × Nat) :=
  [(handshakeBody, peerWith manifestA (bareCommit "ta"), 0),
   (handshakeBody, peerWith manifest commit, 0)]

/-- The handshake with `a` as the first of the agent, and the other two as its second. -/
def handshakeA : Handshake where
  endpoint := "https://a.test/aitp/handshake/hello"
  token := .str (tokenText "ta")
  port := 443
  response := 1

def handshakeB : Handshake where
  endpoint := "https://b.test/aitp/handshake/hello"
  token := .str (tokenText "tb")
  port := 443
  response := 2

def handshakeC : Handshake where
  endpoint := "https://c.test:8443/aitp/handshake/hello"
  token := .str (tokenText "tc")
  port := 8443
  response := 2

/-- A request to call a capability of `a`. -/
def invokeA : Route Json :=
  invokeCapability .accepting threePeersLib
    (invokeBody handshakeA.port "https://a.test" "summarize" .null) (answerOf "ok")
    (answerOf "ok") 0

/-- A handshake with a peer on another port leaves the token of `a` in place. -/
theorem invoke_presents_token_beside_other_port :
    ∃ p, Handshakes .accepting threePeersLib (.start "d" "m" false false)
        ([] ++ handshakeA :: [handshakeC]) p ∧
      ∃ calls, calls ≠ [] ∧ (invokeA.after p).sent = calls ++ p.sent ∧
        ∀ call ∈ calls, .str call.tct = handshakeA.token := by
  have heval : (handshakes? .accepting threePeersLib (.start "d" "m" false false)
      (handshakesWithA manifestC (bareCommit "tc"))).map Prod.fst =
      some [handshakeA, handshakeC] := by
    decide +kernel
  obtain ⟨⟨hs, p⟩, hsome, hhs⟩ := Option.map_eq_some_iff.mp heval
  obtain rfl : hs = _ := hhs
  have hrun : Handshakes _ _ _ ([] ++ handshakeA :: [handshakeC]) p := handshakes_of_eval hsome
  refine ⟨p, hrun, ?_⟩
  obtain ⟨held, -, calls, hne, hsent, hcalls, hiff⟩ :=
    invoke_presents_token_iff .accepting threePeersLib hrun "https://a.test" "summarize" .null
      (answerOf "ok") (answerOf "ok") 0 (by decide)
  have hheld : held = handshakeA := by
    refine hiff.mpr ?_
    decide +kernel
  exact ⟨calls, hne, hsent, fun call hcall => hheld ▸ (hcalls call hcall).1⟩

/-- A handshake with a second peer without a port replaces the token of `a`, and a call of a
capability of `a` presents the token of that peer. -/
theorem invoke_presents_token_of_other_peer :
    ¬ ∀ p later, Handshakes .accepting threePeersLib (.start "d" "m" false false)
        (handshakeA :: later) p → (∀ h' ∈ later, h'.endpoint ≠ handshakeA.endpoint) →
      ∀ call ∈ (invokeA.after p).sent, .str call.tct = handshakeA.token := by
  intro hall
  have heval : (handshakes? .accepting threePeersLib (.start "d" "m" false false)
      (handshakesWithA manifestB (bareCommit "tb"))).map
        (fun r => (r.1, (invokeA.after r.2).sent.map SentCall.tct)) =
      some ([handshakeA, handshakeB], [tokenText "tb"]) := by
    decide +kernel
  obtain ⟨⟨hs, p⟩, hsome, hread⟩ := Option.map_eq_some_iff.mp heval
  simp only [Prod.mk.injEq] at hread
  obtain ⟨rfl, hsent⟩ := hread
  have hcalls := hall p _ (handshakes_of_eval hsome) (by decide)
  obtain ⟨call, hcall, htct⟩ := List.mem_map.mp (hsent ▸ List.mem_singleton_self (tokenText "tb"))
  have hclash := hcalls call hcall
  rw [htct] at hclash
  exact absurd hclash (by decide +kernel)

end AitpPlayground.Proofs.Agents
