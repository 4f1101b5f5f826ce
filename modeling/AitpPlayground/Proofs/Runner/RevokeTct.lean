import AitpPlayground.Proofs.Runner.TokenOps
import AitpPlayground.Proofs.Runner.TrustStores

/-!
# `AitpPlayground.Proofs.Runner.RevokeTct`: the token that `revoke_tct` revokes

`revoke_tct` takes the `jti` from the last event `trust.established` of its two agents. The
token that the audience holds is in its process, under the port of the issuer. A handshake
replaces the token and writes the event. A renewal and a redemption replace the token and write
no such event, and so does a handshake whose answer did not reach the runner.

`Logged` is what holds of every run: when the last operation on a token was a handshake of its
two agents, then the token that is held is the one of the event. `revoke_tct_denies_held` puts
this together with the local revocation.
-/

set_option autoImplicit false

namespace AitpPlayground.Proofs.Runner

open AitpPlayground.Lib
open AitpPlayground.Lib.Act
open AitpPlayground.Agents
open AitpPlayground.Hosting
open AitpPlayground.Registry
open AitpPlayground.Runner
open AitpPlayground.Proofs.Agents

variable {setting : RunSetting} {s s' : Workflow}

/-! ### Held, denied, last replaced -/

/-- The `jti` of the token that `holder` holds for `issuer`. A request to call a capability of
`issuer` presents this token. -/
def heldTctJti (py : PyLib) (s : Workflow) (holder issuer : String) : Option Json := do
  let ra ← s.running.get? issuer
  let p ← s.processes.get? holder
  let token ← p.heldTcts.get? ra.port
  let claims ← (claimsOf py token).toOption
  claims.get? "jti"

/-- The local revocations of `issuer` have this `jti`. -/
def Denies (s : Workflow) (issuer : String) (jti : Json) : Prop :=
  ∃ q text, s.processes.get? issuer = some q ∧ jti = .str text ∧ text ∈ q.revocation.local_

/-- The operation replaced the token of `holder` for this port, or the runner has logged it as
a handshake of `holder` with `issuer`. -/
def Concerns (holder issuer : String) (port : Int) (op : TokenOp) : Prop :=
  op.holder = holder ∧ (op.replaced = some port ∨
    op.kind = .handshake ∧ op.accepted = true ∧ op.issuer = issuer)

instance (holder issuer : String) (port : Int) (op : TokenOp) :
    Decidable (Concerns holder issuer port op) :=
  inferInstanceAs (Decidable (op.holder = holder ∧ _))

/-- The last operation on the token of `holder` for `issuer`. -/
def lastOp (ops : List TokenOp) (holder issuer : String) (port : Int) : Option TokenOp :=
  ops.find? fun op => decide (Concerns holder issuer port op)

/-- The operation is a handshake with `issuer` that replaced the token and was answered. -/
def ByHandshake (issuer : String) (port : Int) (op : TokenOp) : Prop :=
  op.kind = .handshake ∧ op.accepted = true ∧ op.issuer = issuer ∧ op.replaced = some port

/-- The last operation on the token of `holder` for `issuer` was a handshake of the two. -/
def HeldByHandshake (s : Workflow) (holder issuer : String) : Prop :=
  ∃ ra op, s.running.get? issuer = some ra ∧ lastOp s.ops holder issuer ra.port = some op ∧
    ByHandshake issuer ra.port op

/-- What the SDK promises of the tokens that `complete` returns: the `jti` is a UUID in its
canonical form. -/
def CanonicalJtis (sdk : AdminSdk) (py : PyLib) : Prop :=
  ∀ aid response revoked salt text completed token claims,
    sdk.complete aid response revoked salt = .ok text → py.jsonLoads text = .ok completed →
    completed.item "tct" = .ok token → claimsOf py token = .ok claims →
    ∃ jti, claims.get? "jti" = some (.str jti) ∧ jti ≠ "" ∧ py.uuidStr jti = .ok jti

/-! ### The event log -/

/-- The lookup reads the events `trust.established` only. -/
theorem findTctJti_trustEvents (events : List Emission) (audience issuer : String) :
    findTctJti (trustEvents events) audience issuer = findTctJti events audience issuer := by
  unfold findTctJti trustEvents
  rw [← List.filter_reverse]
  induction events.reverse with
  | nil => rfl
  | cons event rest ih =>
    by_cases htype : event.type = "trust.established"
    · rw [List.filter_cons_of_pos (by simpa using htype), List.findSome?_cons,
        List.findSome?_cons, ih]
    · rw [List.filter_cons_of_neg (by simpa using htype), List.findSome?_cons, ih,
        if_neg fun h => htype h.1]

/-- The search for a jti reads the trust events only. -/
theorem findTctJti_congr {events events' : List Emission}
    (h : trustEvents events' = trustEvents events) (audience issuer : String) :
    findTctJti events' audience issuer = findTctJti events audience issuer := by
  rw [← findTctJti_trustEvents, h, findTctJti_trustEvents]

/-- The fields of the event that a lookup reads. -/
theorem establishedEvent_fields (initiator target : String) (grants jti : Json) :
    (establishedEvent initiator target grants jti).fields.get? "initiator" =
        some (.str initiator) ∧
      (establishedEvent initiator target grants jti).fields.get? "target" = some (.str target) ∧
      (establishedEvent initiator target grants jti).fields.get? "jti" = some jti := by
  unfold establishedEvent
  refine ⟨?_, ?_, ?_⟩ <;> rw [Dict.get?_ofList (by simp)] <;> rfl

/-- The lookup after a handshake of the two. -/
theorem findTctJti_established {events events' : List Emission} {initiator target jti : String}
    {grants : Json} (h : trustEvents events' =
      trustEvents events ++ [establishedEvent initiator target grants (.str jti)])
    (hjti : jti ≠ "") : findTctJti events' initiator target = some jti := by
  obtain ⟨hinitiator, htarget, hfield⟩ :=
    establishedEvent_fields initiator target grants (.str jti)
  rw [← findTctJti_trustEvents, h]
  unfold findTctJti
  rw [List.reverse_append, List.reverse_singleton, List.singleton_append, List.findSome?_cons,
    hinitiator, htarget, hfield, if_pos ⟨rfl, rfl, rfl⟩]
  simp only [if_neg hjti]

/-- The lookup after a handshake of others. -/
theorem findTctJti_established_other {events events' : List Emission} {initiator target : String}
    {grants jti : Json} {audience issuer : String}
    (h : trustEvents events' =
      trustEvents events ++ [establishedEvent initiator target grants jti])
    (hne : ¬(initiator = audience ∧ target = issuer)) :
    findTctJti events' audience issuer = findTctJti events audience issuer := by
  obtain ⟨hinitiator, htarget, -⟩ := establishedEvent_fields initiator target grants jti
  rw [← findTctJti_trustEvents, h, ← findTctJti_trustEvents events]
  unfold findTctJti
  rw [List.reverse_append, List.reverse_singleton, List.singleton_append, List.findSome?_cons,
    hinitiator, htarget, if_neg ?_]
  -- The event would be about these two.
  rintro ⟨-, haudience, hissuer⟩
  cases haudience
  cases hissuer
  exact hne ⟨rfl, rfl⟩

/-! ### Handshakes -/

/-- A use of the key that returns gave its value. -/
theorem useKey_eq_ok {α : Type} {op : KeyOp} {call : String → Except PyErr α} {p q : AgentProcess}
    {a : α} (h : Route.useKey op call p = .ok a q) : call p.adminAid = .ok a := by
  obtain ⟨p₁, q₁, hget, h⟩ := bind_eq_ok.mp h
  obtain ⟨rfl, rfl⟩ := get_eq_ok.mp hget
  obtain ⟨u, q₂, -, h⟩ := bind_eq_ok.mp h
  exact (ofExcept_eq_ok.mp h).1

/-- What a session completed with is a text of the SDK. -/
theorem completeSession_eq_ok {sdk : AdminSdk} {py : PyLib} {response : String} {salt : Nat}
    {p q : AgentProcess} {completed : Json}
    (h : completeSession sdk py response salt p = .ok completed q) :
    ∃ revoked text, sdk.complete p.adminAid response revoked salt = .ok text ∧
      py.jsonLoads text = .ok completed := by
  obtain ⟨p₁, q₁, hget, h⟩ := bind_eq_ok.mp h
  obtain ⟨rfl, rfl⟩ := get_eq_ok.mp hget
  rcases tryCatch_eq_ok h with hkey | ⟨exc, q₂, -, hraised⟩
  · obtain ⟨text, htext, hloads⟩ := except_bind_eq_ok.mp (useKey_eq_ok hkey)
    exact ⟨_, text, htext, hloads⟩
  · -- The handler raises in any case.
    cases exc with
    | raised e =>
      simp only at hraised
      split at hraised <;> cases hraised
    | http refusal => cases hraised
    | transport detail => cases hraised
    | response status text => cases hraised

/-- The tokens that an exchange brings are out of a text of the SDK. -/
theorem handshakeExchange_eq_ok {sdk : AdminSdk} {py : PyLib} {body : Json}
    {peer : HandshakeAnswers} {salt : Nat} {p q : AgentProcess} {endpoint sessionId : String}
    {completed : Json}
    (h : handshakeExchange sdk py body peer salt p = .ok (endpoint, sessionId, completed) q) :
    ∃ aid response revoked text, sdk.complete aid response revoked salt = .ok text ∧
      py.jsonLoads text = .ok completed := by
  obtain ⟨hello, q₁, -, h⟩ := bind_eq_ok.mp h
  cases hello with
  | str helloEp =>
    obtain ⟨r1, q₂, -, h⟩ := bind_eq_ok.mp h
    obtain ⟨u, q₃, -, h⟩ := bind_eq_ok.mp h
    obtain ⟨session, q₄, -, h⟩ := bind_eq_ok.mp h
    obtain ⟨commit, q₅, -, h⟩ := bind_eq_ok.mp h
    obtain ⟨r2, q₆, -, h⟩ := bind_eq_ok.mp h
    obtain ⟨u', q₇, -, h⟩ := bind_eq_ok.mp h
    obtain ⟨value, q₈, hcomplete, h⟩ := bind_eq_ok.mp h
    obtain ⟨heq, -⟩ := pure_eq_ok.mp h
    cases heq
    obtain ⟨revoked, text, htext, hloads⟩ := completeSession_eq_ok hcomplete
    exact ⟨_, _, revoked, text, htext, hloads⟩
  | null => cases h
  | bool b => cases h
  | num n => cases h
  | arr items => cases h
  | obj members => cases h

/-- A handshake that brought a token returns, with the claims of this token. -/
theorem handshake_of_receipt {sdk : AdminSdk} {py : PyLib} {body : Json} {peer : HandshakeAnswers}
    {salt : Nat} {p : AgentProcess} {r : Receipt} (hsdk : CanonicalJtis sdk py)
    (hr : receipt sdk py p (.initiateHandshake body peer salt) = some r) :
    ∃ claims jti sessionId q, claimsOf py r.token = .ok claims ∧
      claims.get? "jti" = some (.str jti) ∧ jti ≠ "" ∧ py.uuidStr jti = .ok jti ∧
      initiateHandshake sdk py body peer salt p =
        .ok (handshakeReply claims sessionId r.port) q := by
  change receivedBy (handshakeExchange sdk py body peer salt) p
    (fun result => receiptOfCompleted py result.1 result.2.2) = some r at hr
  unfold receivedBy at hr
  cases hex : handshakeExchange sdk py body peer salt p with
  | error exc q =>
    rw [hex] at hr
    cases hr
  | ok result q =>
    obtain ⟨endpoint, sessionId, completed⟩ := result
    rw [hex] at hr
    change receiptOfCompleted py endpoint completed = some r at hr
    obtain ⟨aid, response, revoked, text, htext, hloads⟩ := handshakeExchange_eq_ok hex
    unfold receiptOfCompleted at hr
    cases htoken : completed.item "tct" with
    | error exc =>
      rw [htoken] at hr
      cases hr
    | ok token =>
      cases hclaims : claimsOf py token with
      | error exc =>
        simp only [htoken, hclaims] at hr
        cases hr
      | ok claims =>
        cases hport : portFromUrl py endpoint with
        | error exc =>
          simp only [htoken, hclaims, hport] at hr
          cases hr
        | ok port =>
          simp only [htoken, hclaims, hport, Option.some.injEq] at hr
          subst hr
          -- The SDK issues tokens with a canonical `jti`.
          obtain ⟨jti, hjti, hne, huuid⟩ :=
            hsdk aid response revoked salt text completed token claims htext hloads htoken hclaims
          refine ⟨claims, jti, sessionId, AgentProcess.holding q port token (voucherOf completed),
            hclaims, hjti, hne, huuid, (bind_of_ok _ _ hex).trans ?_⟩
          show holdCompleted py endpoint sessionId completed q = _
          unfold holdCompleted Route.lift
          simp only [htoken, ofExcept_ok_bind, hclaims, hport]
          exact (bind_of_ok _ _ rfl).trans ((bind_of_ok _ _ (run_holdFrom q htoken)).trans rfl)

/-- A computation that does not raise. -/
theorem raised_eq_ok {α : Type} {r : Except PyErr α} {a : α} (h : raised r = .ok a) :
    r = .ok a := by
  cases r with
  | ok b =>
    cases h
    rfl
  | error exc => cases h

/-- The event for the answer to a handshake has the `jti` of the answer. -/
theorem established_jti {claims : Dict String Json} {sessionId jti : String} {port : Int}
    {q : AgentProcess} {grants logged : Json} (hjti : claims.get? "jti" = some (.str jti))
    (h : established setting (.ofRoute (.ok (handshakeReply claims sessionId port) q)) =
      .ok (grants, logged)) : logged = .str jti := by
  have hmember : (handshakeReply claims sessionId port).member "jti" = .ok (.str jti) := by
    show Except.ok (((Dict.ofList _).get? "jti").getD Json.null) = _
    rw [Dict.get?_ofList (by simp), hjti]
    rfl
  have hsuccess : (Reply.ofRoute (.ok (handshakeReply claims sessionId port) q)).isSuccess = true :=
    rfl
  unfold established at h
  rw [if_pos hsuccess] at h
  -- The reply is read member by member.
  obtain ⟨data, hdata, h⟩ := except_bind_eq_ok.mp h
  cases raised_eq_ok hdata
  obtain ⟨items, -, h⟩ := except_bind_eq_ok.mp h
  obtain ⟨value, hvalue, h⟩ := except_bind_eq_ok.mp h
  rw [hmember] at hvalue
  cases hvalue
  obtain ⟨texts, -, h⟩ := except_bind_eq_ok.mp h
  obtain ⟨text, htext, h⟩ := except_bind_eq_ok.mp h
  cases htext
  cases h
  rfl

/-! ### Runs -/

/-- The token that `holder` holds for this port has this `jti`, in canonical form. -/
def HoldsJti (py : PyLib) (d : Dict String AgentProcess) (holder : String) (port : Int)
    (jti : String) : Prop :=
  ∃ p token claims, d.get? holder = some p ∧ p.heldTcts.get? port = some token ∧
    claimsOf py token = .ok claims ∧ claims.get? "jti" = some (.str jti) ∧
    py.uuidStr jti = .ok jti

/-- What holds in every run: after a handshake of the two the event log has the `jti` of the
token that is held. -/
structure Logged (py : PyLib) (s : Workflow) : Prop where
  bounded : Bounded s.processes
  logged : ∀ holder issuer port op, lastOp s.ops holder issuer port = some op →
    ByHandshake issuer port op →
      ∃ jti, HoldsJti py s.processes holder port jti ∧
        findTctJti s.events holder issuer = some jti

/-- A token stays held while its port keeps it. -/
theorem holdsJti_kept {py : PyLib} {d d' : Dict String AgentProcess} {holder jti : String}
    {port : Int}
    (hkept : ∀ p, d.get? holder = some p →
      ∃ p', d'.get? holder = some p' ∧ p'.heldTcts.get? port = p.heldTcts.get? port)
    (h : HoldsJti py d holder port jti) : HoldsJti py d' holder port jti := by
  obtain ⟨p, token, claims, hp, htoken, hclaims⟩ := h
  obtain ⟨p', hp', heq⟩ := hkept p hp
  exact ⟨p', token, claims, hp', heq.trans htoken, hclaims⟩

/-- What is within the frame keeps the held tokens in the log. -/
theorem logged_frame {py : PyLib} {stepId : Option String} (h : Frame stepId s s')
    (hs : Logged py s) : Logged py s' := by
  refine ⟨bounded_kept h.processes hs.bounded, ?_⟩
  intro holder issuer port op hlast hby
  rw [h.ops] at hlast
  obtain ⟨jti, hheld, hfind⟩ := hs.logged holder issuer port op hlast hby
  refine ⟨jti, holdsJti_kept ?_ hheld, (findTctJti_congr h.events _ _).trans hfind⟩
  intro p hp
  obtain ⟨p', hp', hkept⟩ := h.processes.get? hp
  exact ⟨p', hp', by rw [hkept.held.heldTcts]⟩

/-- The last operation after one more. -/
theorem lastOp_cons (op : TokenOp) (ops : List TokenOp) (holder issuer : String) (port : Int) :
    lastOp (op :: ops) holder issuer port =
      if Concerns holder issuer port op then some op else lastOp ops holder issuer port := by
  unfold lastOp
  rw [List.find?_cons]
  by_cases h : Concerns holder issuer port op
  · rw [decide_eq_true h, if_pos h]
  · rw [decide_eq_false h, if_neg h]

/-- A request of a handshake is an `initiate_handshake` request. -/
theorem Requests.isHandshake {l : WorkLabel} {op : TokenOp} {c : AdminCall}
    (h : Requests l op c) (hkind : op.kind = .handshake) :
    ∃ body peer salt, c = .initiateHandshake body peer salt := by
  cases h with
  | eager url holder issuer kind => exact ⟨_, _, _, rfl⟩
  | handshake url type holder issuer kind => exact ⟨_, _, _, rfl⟩
  | renewal port type kind =>
    rw [kind] at hkind
    cases hkind
  | redemption redeemUrl port type fault holder issuer kind =>
    rw [kind] at hkind
    cases hkind

/-- A handshake that replaced the token and was answered: the token is the one of the event. -/
theorem logged_handshake {l : WorkLabel} {op : TokenOp} {c : AdminCall} {issuer : String}
    {port : Int} (hsdk : CanonicalJtis setting.sdk setting.py) (hrequests : Requests l op c)
    (h : Handed setting op c s s') (hby : ByHandshake issuer port op) :
    ∃ jti, HoldsJti setting.py s'.processes op.holder port jti ∧
      findTctJti s'.events op.holder issuer = some jti := by
  obtain ⟨hkind, haccepted, rfl, hreplaced⟩ := hby
  obtain ⟨body, peer, salt, rfl⟩ := hrequests.isHandshake hkind
  have hreceived := h.received
  rw [hreplaced] at hreceived
  generalize hd : s'.processes = d' at hreceived
  cases hreceived with
  | @token p p' q r hp hr hq stored hd' denied =>
    obtain ⟨claims, jti, sessionId, q', hclaims, hjti, hne, huuid, hroute⟩ :=
      handshake_of_receipt hsdk hr
    refine ⟨jti, ⟨p', r.token, claims, ?_, ?_, hclaims, hjti, huuid⟩, ?_⟩
    · rw [hd']
      exact Dict.get?_set_self _ _ _
    · rw [stored.heldTcts, if_pos rfl]
    -- An accepted handshake is recorded, with the `jti` of its reply.
    · cases h.recorded with
      | silent events hop =>
        rw [hop hkind] at haccepted
        cases haccepted
      | @event p₁ grants logged kind accepted hp₁ answer events =>
        obtain rfl : p = p₁ := Option.some.inj (hp.symm.trans hp₁)
        change established setting (.ofRoute (initiateHandshake setting.sdk setting.py body peer
          salt p)) = .ok (grants, logged) at answer
        rw [hroute] at answer
        obtain rfl := established_jti hjti answer
        exact findTctJti_established events hne

/-- A token that is handed out is logged. -/
theorem logged_handed {l : WorkLabel} {op : TokenOp} {c : AdminCall}
    (hsdk : CanonicalJtis setting.sdk setting.py) (hrequests : Requests l op c)
    (h : Handed setting op c s s') (hs : Logged setting.py s) : Logged setting.py s' := by
  refine ⟨bounded_received h.received hs.bounded, ?_⟩
  intro holder issuer port last hlast hby
  rw [h.ops, lastOp_cons] at hlast
  split at hlast
  case isTrue hconcerns =>
    -- The operation is the last one on this token now.
    cases hlast
    obtain ⟨rfl, -⟩ := hconcerns
    exact logged_handshake hsdk hrequests h hby
  case isFalse hother =>
    -- The operation is about another token, and is not logged for these two.
    obtain ⟨jti, hheld, hfind⟩ := hs.logged holder issuer port last hlast hby
    refine ⟨jti, holdsJti_kept ?_ hheld, ?_⟩
    · intro p hp
      exact heldTcts_received h.received (fun heq hrep => hother ⟨heq, .inl hrep⟩) hp
    · cases h.recorded with
      | silent events hop => exact (findTctJti_congr events _ _).trans hfind
      | @event p₁ grants logged kind accepted hp₁ answer events =>
        refine (findTctJti_established_other events ?_).trans hfind
        rintro ⟨hholder, hissuer⟩
        exact hother ⟨hholder, .inr ⟨kind, accepted, hissuer⟩⟩

/-- One eager handshake or step. -/
theorem logged_workStep {l : WorkLabel} (hsdk : CanonicalJtis setting.sdk setting.py)
    (hs : Logged setting.py s) (h : workStep setting s l = some s') : Logged setting.py s' := by
  rcases workStep_cases hs.bounded h with
    hframe | ⟨events, op, c, s₂, hevents, hrequests, hhanded, hframe⟩
  · exact logged_frame hframe hs
  · have hstart : Frame none s { s with events } := ⟨fun _ => rfl, .refl _, rfl, hevents, .inl rfl⟩
    exact logged_frame hframe (logged_handed hsdk hrequests hhanded (logged_frame hstart hs))

/-- At the launch there is none to log. -/
theorem logged_launched (py : PyLib) (h : Launched s) : Logged py s := by
  refine ⟨bounded_launched h, ?_⟩
  intro holder issuer port op hlast
  rw [h.ops] at hlast
  cases hlast

/-- The start of every step. -/
theorem logged_runUpTo {worlds : RunWorld} {n : Nat} {s₀ : Workflow}
    (hsdk : CanonicalJtis setting.sdk setting.py) (hlaunched : Launched s₀)
    (hrun : runUpTo setting worlds n s₀ = .ok () s) : Logged setting.py s := by
  obtain ⟨s₁, hbegin, hreach⟩ := launched_runUpTo hlaunched hrun
  exact hreach.invariant (fun _ _ _ hs _ hstep => logged_workStep hsdk hs hstep)
    (logged_launched setting.py hbegin)

/-! ### Revocation -/

/-- A revocation with this `jti` in its canonical form. -/
theorem served_revokeCall {jti : String} {p : AgentProcess}
    (huuid : setting.py.uuidStr jti = .ok jti) :
    (served setting (revokeCall jti) p).revocation = p.revocation.revokeLocal jti := by
  have hparsed : ((Json.obj [("jti", .str jti)]).item "jti").bind (uuidOf setting.py) =
      .ok jti := huuid
  show ((revokeTct setting.py (.obj [("jti", .str jti)])).after p).revocation = _
  unfold revokeTct
  rw [hparsed]
  rfl

/-- A step of this type with a fault does not return. -/
theorem revokeTct_noFault {step : WorkflowStep} {world : StepWorld}
    (htype : inferType step = some .revokeTct)
    (h : dispatchStep setting step world s = .ok () s') :
    dispatchRevokeTct setting step world s = .ok () s' := by
  unfold dispatchStep at h
  rw [htype] at h
  cases hfault : step.fault with
  | none =>
    rw [hfault] at h
    exact h
  | some fault =>
    rw [hfault] at h
    cases h

/-- A `revoke_tct` step with a local revocation that returns denies the `jti` of the event. -/
theorem denies_revokeTct {step : WorkflowStep} {world : StepWorld} {issuer audience jti : String}
    (h : dispatchRevokeTct setting step world s = .ok () s') (hissuer : step.issuer = some issuer)
    (haudience : step.audience = some audience) (hlocal : step.localRevoke ≠ some false)
    (hfind : findTctJti s.events audience issuer = some jti)
    (huuid : setting.py.uuidStr jti = .ok jti) : Denies s' issuer (.str jti) := by
  have hR := stepRules_frame setting step.id
  unfold dispatchRevokeTct at h
  rcases given_cases hissuer with hnone | hi
  · rw [hnone] at h
    cases h
  · rcases given_cases haudience with hnone | ha
    · rw [hi, hnone] at h
      cases h
    · rw [hi, ha] at h
      obtain ⟨t, s₁, hget, h⟩ := bind_eq_ok.mp h
      obtain ⟨rfl, rfl⟩ := get_eq_ok.mp hget
      rw [hfind] at h
      unfold revokeJti at h
      simp only [decide_eq_true hlocal, Bool.not_true, Bool.false_and] at h
      obtain ⟨u, s₁, hrevoke, hrecord⟩ := bind_eq_ok.mp h
      have hframe : Frame (some step.id) s₁ s' := (within_recordRevocation hR _ _ _ _).of_ok hrecord
      obtain ⟨ra, s₂, hra, hrevoke⟩ := bind_eq_ok.mp hrevoke
      obtain ⟨-, rfl⟩ := runningAgent_eq_ok hra
      obtain ⟨r, s₂, hcall, hraise⟩ := bind_eq_ok.mp hrevoke
      obtain ⟨-, rfl⟩ := raiseForStatus_eq_ok hraise
      obtain ⟨p, -, -, rfl⟩ := callAgent_eq_ok hcall
      -- What comes after the request takes no local revocation back.
      obtain ⟨q, hq, hkept⟩ := hframe.processes.get? (Dict.get?_set_self _ _ _)
      refine ⟨q, jti, hq, rfl, hkept.denied ?_⟩
      rw [served_revokeCall huuid]
      exact Finset.mem_insert_self jti _

/-- The property: the token that `audience` holds for `issuer` is denied. -/
def HeldIsDenied (py : PyLib) (s : Workflow) (issuer audience : String) : Prop :=
  ∀ jti, heldTctJti py s audience issuer = some jti → Denies s issuer jti

/-- The search finds the token that the holder has. -/
theorem heldTctJti_frame {py : PyLib} {stepId : Option String} (h : Frame stepId s s')
    {holder issuer jti : String} {ra : RunningAgent} (hra : s.running.get? issuer = some ra)
    (hheld : HoldsJti py s.processes holder ra.port jti) :
    heldTctJti py s' holder issuer = some (.str jti) := by
  -- The issuer keeps its port, and the holder its token for it.
  have hport := h.ports issuer
  rw [hra, Option.map_some, Option.map_eq_some_iff] at hport
  obtain ⟨ra', hra', hsame⟩ := hport
  obtain ⟨p, token, claims, hp, htoken, hclaims, hjti, -⟩ := hheld
  obtain ⟨p', hp', hkept⟩ := h.processes.get? hp
  unfold heldTctJti
  rw [hra', hp']
  show (p'.heldTcts.get? ra'.port).bind _ = _
  rw [hsame, hkept.held.heldTcts, htoken, Option.bind_some, hclaims]
  exact hjti

/-- A `revoke_tct` step of any run, with a local revocation, denies the token that the audience
holds for the issuer, when the last operation on this token was a handshake of the two. -/
theorem revoke_tct_denies_held (setting : RunSetting) (worlds : RunWorld) (n : Nat)
    {s₀ s s' : Workflow} {step : WorkflowStep} {world : StepWorld} {issuer audience : String}
    (hsdk : CanonicalJtis setting.sdk setting.py) (hlaunched : Launched s₀)
    (hrun : runUpTo setting worlds n s₀ = .ok () s)
    (htype : inferType step = some .revokeTct) (hissuer : step.issuer = some issuer)
    (haudience : step.audience = some audience) (hlocal : step.localRevoke ≠ some false)
    (hstep : workStep setting s (.step step world) = some s')
    (hlast : HeldByHandshake s audience issuer) :
    (heldTctJti setting.py s' audience issuer).isSome ∧
      HeldIsDenied setting.py s' issuer audience := by
  have hlogged := logged_runUpTo hsdk hlaunched hrun
  obtain ⟨ra, op, hra, hop, hby⟩ := hlast
  obtain ⟨jti, hheld, hfind⟩ := hlogged.logged audience issuer ra.port op hop hby
  have hcode := revokeTct_noFault htype (workStep_eq_some.mp hstep)
  have hframe : Frame (some step.id) s s' :=
    (within_dispatchRevokeTct (stepRules_frame setting step.id) world).of_ok hcode
  have hafter := heldTctJti_frame hframe hra hheld
  obtain ⟨-, -, -, -, -, -, -, huuid⟩ := hheld
  refine ⟨Option.isSome_of_eq_some hafter, ?_⟩
  intro jti' hjti'
  obtain rfl : Json.str jti = jti' := Option.some.inj (hafter.symm.trans hjti')
  exact denies_revokeTct hcode hissuer haudience hlocal hfind huuid

/-- The `jti` of the token of a handshake, and of the one that renews it. -/
def firstJti : String := "00000000-0000-4000-8000-000000000001"

def renewedJti : String := "00000000-0000-4000-8000-000000000002"

/-- A token with one claim, its `jti`: the payload is its base64 form. -/
def firstToken : String :=
  "h.eyJqdGkiOiIwMDAwMDAwMC0wMDAwLTQwMDAtODAwMC0wMDAwMDAwMDAwMDEifQ.s"

def renewedToken : String :=
  "h.eyJqdGkiOiIwMDAwMDAwMC0wMDAwLTQwMDAtODAwMC0wMDAwMDAwMDAwMDIifQ.s"

/-- The payload of a token, as bytes. -/
def jtiPayload (jti : String) : List UInt8 :=
  ("\x7b\"jti\":\"" ++ jti ++ "\"\x7d").toList.map fun c => UInt8.ofNat c.toNat

/-- A response with a token. -/
def tokenResponse (token : String) : String × Json :=
  ("\x7b\"tct\":\"" ++ token ++ "\"\x7d", .obj [("tct", .str token)])

/-- The agent `b` of a run, as a peer. -/
def manifestOfB : String × Json :=
  peerManifest "aid:b" "https://localhost:9002/aitp/handshake/hello"

/-- A library that reads the texts of a handshake with `b` and a renewal by it. -/
def pairLib : PyLib :=
  { PyLib.reading [manifestOfB, tokenResponse firstToken, tokenResponse renewedToken] with
      urlsafeB64decode := fun s =>
        if s = "eyJqdGkiOiIwMDAwMDAwMC0wMDAwLTQwMDAtODAwMC0wMDAwMDAwMDAwMDEifQ==" then
          .ok (jtiPayload firstJti)
        else if s = "eyJqdGkiOiIwMDAwMDAwMC0wMDAwLTQwMDAtODAwMC0wMDAwMDAwMDAwMDIifQ==" then
          .ok (jtiPayload renewedJti)
        else .error (.valueError "Incorrect padding" none)
      jsonLoadsBytes := fun bytes =>
        if bytes = jtiPayload firstJti then .ok (.obj [("jti", .str firstJti)])
        else if bytes = jtiPayload renewedJti then .ok (.obj [("jti", .str renewedJti)])
        else .error (.valueError "Expecting value" none)
      uuidStr := fun s =>
        if s = firstJti ∨ s = renewedJti then .ok s
        else .error (.valueError "badly formed hexadecimal UUID string" none)
      intOfStr := fun s =>
        if s = "9002" then .ok 9002
        else .error (.valueError "invalid literal for int() with base 10" none) }

/-- `a` makes a handshake with `b`, and renews its token. -/
def handshakeOfA : WorkflowStep :=
  { id := "handshake", type := some .handshake, initiator := some "a", responder := some "b" }

def renewalOfA : WorkflowStep :=
  { id := "renew", type := some .renewTct, agent := some "a", viaPeer := some "b" }

/-- `b` revokes the token of `a`. -/
def revocationByB : WorkflowStep :=
  { id := "revoke", type := some .revokeTct, issuer := some "b", audience := some "a" }

/-- `b` completes the handshake, and renews the token. -/
def worldOfB : StepWorld :=
  { silentWorld with
      handshake := peerWith manifestOfB (tokenResponse firstToken)
      issuer := answerOf (tokenResponse renewedToken).1 }

def pairWorlds : RunWorld := ⟨fun _ => .good, 0, fun _ => worldOfB, fun _ => worldOfB⟩

def renewalSetting : RunSetting := pairSetting pairLib [handshakeOfA, renewalOfA]

/-- A library of fixed texts reads nothing else. -/
theorem mem_of_jsonLoads_reading {texts : List (String × Json)} {text : String} {value : Json}
    (h : (PyLib.reading texts).jsonLoads text = .ok value) : (text, value) ∈ texts := by
  simp only [PyLib.reading] at h
  cases hlookup : texts.lookup text with
  | none =>
    rw [hlookup] at h
    cases h
  | some found =>
    rw [hlookup] at h
    cases h
    obtain ⟨before, after, rfl, -⟩ := List.lookup_eq_some_iff.mp hlookup
    simp

/-- The two agents of the concrete run are as launched. -/
theorem launched_pair : Launched launchedPair := by
  refine ⟨rfl, rfl, rfl, ?_⟩
  intro agentId p hp
  have hmem := (Dict.get?_eq_some_iff _ _ _).mp hp
  rcases List.mem_cons.mp hmem with heq | hmem
  · cases heq
    exact ⟨rfl, rfl⟩
  · cases List.mem_singleton.mp hmem
    exact ⟨rfl, rfl⟩

/-- The library of the pair gives jtis in canonical form. -/
theorem canonicalJtis_pairLib : CanonicalJtis .accepting pairLib := by
  intro aid response revoked salt text completed token claims _ hloads htoken hclaims
  have hmem : (text, completed) ∈
      [manifestOfB, tokenResponse firstToken, tokenResponse renewedToken] :=
    mem_of_jsonLoads_reading hloads
  have hfirst : (claimsOf pairLib (.str firstToken)).toOption =
      some (.ofList [("jti", .str firstJti)]) := by
    decide +kernel
  have hrenewed : (claimsOf pairLib (.str renewedToken)).toOption =
      some (.ofList [("jti", .str renewedJti)]) := by
    decide +kernel
  rcases List.mem_cons.mp hmem with heq | hmem
  · cases heq
    cases htoken
  · rcases List.mem_cons.mp hmem with heq | hmem
    · cases heq
      cases htoken
      rw [hclaims] at hfirst
      cases hfirst
      exact ⟨firstJti, rfl, by decide, rfl⟩
    · cases List.mem_singleton.mp hmem
      cases htoken
      rw [hclaims] at hrenewed
      cases hrenewed
      exact ⟨renewedJti, rfl, by decide, rfl⟩

/-- The last operation on the token that `a` holds for `b` at the start of step `n`, and, after
a revocation at this moment, the `jti` of this token and the local revocations of `b`. -/
def revocation? (n : Nat) :
    Option ((Option Int × Option TokenOp) × Option Json × Option (Finset String)) := do
  let s ← runUpTo? renewalSetting pairWorlds n launchedPair
  let s' ← workStep renewalSetting s (.step revocationByB silentWorld)
  pure (((s.running.get? "b").map RunningAgent.port, lastOp s.ops "a" "b" 9002),
    heldTctJti pairLib s' "a" "b", (s'.processes.get? "b").map fun p => p.revocation.local_)

/-- After a handshake the token is denied. -/
theorem revoke_tct_denies_first_token :
    ∃ s s', runUpTo renewalSetting pairWorlds 1 launchedPair = .ok () s ∧
      workStep renewalSetting s (.step revocationByB silentWorld) = some s' ∧
      (heldTctJti pairLib s' "a" "b").isSome ∧ HeldIsDenied pairLib s' "b" "a" := by
  have heval : (revocation? 1).map Prod.fst = some (some 9002,
      some { holder := "a", issuer := "b", kind := .handshake, accepted := true
             replaced := some 9002 }) := by
    decide +kernel
  obtain ⟨read, hread, heq⟩ := Option.map_eq_some_iff.mp heval
  obtain ⟨s, hs, hread⟩ := Option.bind_eq_some_iff.mp hread
  obtain ⟨s', hs', hread⟩ := Option.bind_eq_some_iff.mp hread
  cases hread
  obtain ⟨hport, hop⟩ := Prod.mk.inj heq
  obtain ⟨ra, hra, hport⟩ := Option.map_eq_some_iff.mp hport
  refine ⟨s, s', runUpTo_of_eval hs, hs', ?_⟩
  refine revoke_tct_denies_held renewalSetting pairWorlds 1 canonicalJtis_pairLib launched_pair
    (runUpTo_of_eval hs) rfl rfl rfl (by decide) hs' ⟨ra, _, hra, hport ▸ hop, ?_⟩
  rw [hport]
  exact ⟨rfl, rfl, rfl, rfl⟩

/-- After a renewal `revoke_tct` denies the `jti` of the handshake, and the token that is held
stays good. -/
theorem renewed_token_not_denied :
    ¬ ∀ setting worlds n s₀ s s' step world issuer audience,
      CanonicalJtis setting.sdk setting.py → Launched s₀ →
      runUpTo setting worlds n s₀ = .ok () s → inferType step = some .revokeTct →
      step.issuer = some issuer → step.audience = some audience →
      step.localRevoke ≠ some false → workStep setting s (.step step world) = some s' →
      HeldIsDenied setting.py s' issuer audience := by
  intro hall
  -- `b` has denied the first `jti`, and `a` holds a token with the renewed one.
  have heval : (revocation? 2).map Prod.snd =
      some (some (.str renewedJti), some {firstJti}) := by
    decide +kernel
  obtain ⟨read, hread, heq⟩ := Option.map_eq_some_iff.mp heval
  obtain ⟨s, hs, hread⟩ := Option.bind_eq_some_iff.mp hread
  obtain ⟨s', hs', hread⟩ := Option.bind_eq_some_iff.mp hread
  cases hread
  obtain ⟨hheld, hlocal⟩ := Prod.mk.inj heq
  obtain ⟨q, text, hq, htext, hmem⟩ := hall renewalSetting pairWorlds 2 launchedPair s s'
    revocationByB silentWorld "b" "a" canonicalJtis_pairLib launched_pair (runUpTo_of_eval hs) rfl
    rfl rfl (by decide) hs' _ hheld
  cases htext
  rw [hq, Option.map_some, Option.some.injEq] at hlocal
  rw [hlocal, Finset.mem_singleton] at hmem
  exact absurd hmem (by decide)

end AitpPlayground.Proofs.Runner
