import AitpPlayground.Proofs.Agents.AgentAdmin

/-!
# `AitpPlayground.Proofs.Agents.Redemption`: a redemption that was answered

The runner sees of a redemption the answer of `/admin/redeem-delegation` only. Whatever this
route raises is answered with an error status (`refuses_redeemDelegation`), and when the route
returns it has received a token for the port of the request (`receipt_redeemDelegation`).
-/

set_option autoImplicit false

namespace AitpPlayground.Proofs.Agents

open AitpPlayground.Lib
open AitpPlayground.Lib.Act
open AitpPlayground.Agents

/-- The status that a route is answered with when it raises. -/
def statusOf : AdminExc → Nat
  | .http refusal => refusal.status
  | .response status _ => status
  | .raised _ | .transport _ => 500

/-- The exception is answered with an error status. -/
def Refuses (exc : AdminExc) : Prop := ¬(200 ≤ statusOf exc ∧ statusOf exc < 300)

/-- A status that is no success refuses. -/
theorem refuses_of_status {exc : AdminExc} (status : Nat) (h : statusOf exc = status)
    (herror : ¬(200 ≤ status ∧ status < 300)) : Refuses exc := by
  unfold Refuses
  rwa [h]

/-- An exception of Python is a 500. -/
theorem refuses_raised (exc : PyErr) : Refuses (.raised exc) :=
  refuses_of_status 500 rfl (by decide)

/-- An exception of the connection is a 500: no route catches it. -/
theorem refuses_transport (detail : String) : Refuses (.transport detail) :=
  refuses_of_status 500 rfl (by decide)

/-- A 502 refuses. -/
theorem refuses_badGateway (detail : String) : Refuses (.status 502 detail) :=
  refuses_of_status 502 rfl (by decide)

section
variable (sdk : AdminSdk) (py : PyLib)

/-- A computation of Python raises only exceptions that refuse. -/
theorem refuses_lift {α : Type} (r : Except PyErr α) : Raises Refuses (Route.lift r) :=
  raises_ofExcept r refuses_raised

/-- The wait for an answer raises only exceptions that refuse. -/
theorem refuses_await (answer : HttpAnswer) : Raises Refuses (Route.await answer) :=
  raises_ofExcept answer refuses_transport

/-- The test of a status raises only exceptions that refuse. -/
theorem refuses_raiseForStatus (r : HttpResponse) : Raises Refuses (Route.raiseForStatus r) :=
  raises_ite (fun _ => raises_pure ()) fun _ => raises_throw (refuses_transport _)

/-- A manifest that does not verify is a 502. -/
theorem refuses_verifyPeerManifest (envelopeJson sourceUrl : String) (salt : Nat) :
    Raises Refuses (verifyPeerManifest sdk py envelopeJson sourceUrl salt) := by
  unfold verifyPeerManifest
  cases sdk.verifyManifestJson envelopeJson salt with
  | error exc => exact raises_throw (refuses_badGateway _)
  | ok _ =>
    cases py.jsonLoads envelopeJson with
    | error exc =>
      refine raises_ite (fun _ => raises_throw (refuses_badGateway _)) fun _ => ?_
      exact raises_throw (refuses_raised exc)
    | ok envelope =>
      simp only
      split
      · exact raises_pure _
      · exact raises_throw (refuses_badGateway _)

/-- The fetch of the manifests raises only exceptions that refuse, by induction on the URLs. -/
theorem refuses_fetchIssuerManifests (salt : Nat) (urls : List (Json × HttpAnswer)) :
    Raises Refuses (fetchIssuerManifests sdk py salt urls) := by
  induction urls with
  | nil => exact raises_pure ()
  | cons url rest ih =>
    refine raises_bind (refuses_await _) fun _ => ?_
    refine raises_bind (refuses_raiseForStatus _) fun _ => ?_
    exact raises_bind (refuses_verifyPeerManifest sdk py _ _ _) fun _ => ih

/-- The refusal of a grantor is handed on with its status. -/
theorem refuses_redeemRefusal {r : HttpResponse} (h : r.status = 401 ∨ r.status = 403) :
    Refuses (redeemRefusal py r) := by
  have hstatus : ∀ detail, Refuses (.status r.status detail) := by
    intro detail
    show ¬(200 ≤ r.status ∧ r.status < 300)
    omega
  unfold redeemRefusal
  cases py.jsonLoads r.text with
  | ok body =>
    simp only
    split
    · exact hstatus _
    · exact hstatus _
  | error exc =>
    simp only
    split
    · exact hstatus _
    · exact refuses_raised exc

/-- The exchange of a redemption refuses when it raises. -/
theorem refuses_redeemExchange (body : Json) (manifests : Nat → HttpAnswer) (answer : HttpAnswer)
    (salt : Nat) : Raises Refuses (redeemExchange sdk py body manifests answer salt) := by
  refine raises_bind (refuses_lift _) fun _ => ?_
  refine raises_bind (refuses_lift _) fun _ => ?_
  refine raises_bind (refuses_lift _) fun _ => ?_
  refine raises_bind (refuses_lift _) fun _ => ?_
  refine raises_ite (fun _ => ?_) fun _ => raises_throw (refuses_of_status 400 rfl (by decide))
  refine raises_bind (refuses_lift _) fun _ => ?_
  refine raises_bind (refuses_fetchIssuerManifests sdk py _ _) fun _ => ?_
  refine raises_bind (refuses_await _) fun _ => ?_
  refine raises_ite (fun hrefused => raises_throw (refuses_redeemRefusal py hrefused)) fun _ => ?_
  exact raises_bind (refuses_raiseForStatus _) fun _ => raises_pure _

/-- The storing of a token raises only exceptions that refuse. -/
theorem refuses_holdFrom (port : Int) (token response : Json) :
    Raises Refuses (holdFrom port token response) := by
  refine raises_bind (raises_modify _) fun _ => raises_bind (refuses_lift _) fun _ => ?_
  exact raises_ite (fun _ => raises_modify _) fun _ => raises_pure ()

/-- The reading of the reply raises only exceptions that refuse. -/
theorem refuses_readRedeemed (port : Int) (text : String) :
    Raises Refuses (readRedeemed py port text) := by
  refine raises_bind (refuses_lift _) fun _ => raises_bind (refuses_lift _) fun _ => ?_
  refine raises_bind (refuses_holdFrom _ _ _) fun _ => ?_
  exact raises_bind (refuses_lift _) fun _ => raises_pure ()

/-- The fallback after an exception raises only exceptions that refuse. -/
theorem refuses_redeemFallback (port : Int) (text : String) {exc : AdminExc}
    (h : Refuses exc) : Raises Refuses (redeemFallback port text exc) := by
  unfold redeemFallback
  split
  · exact raises_modify _
  · exact raises_modify _
  · exact raises_throw h

/-- What a redemption raises is answered with an error status. -/
theorem refuses_redeemDelegation (body : Json) (manifests : Nat → HttpAnswer)
    (answer : HttpAnswer) (salt : Nat) :
    Raises Refuses (redeemDelegation sdk py body manifests answer salt) := by
  refine raises_bind (refuses_redeemExchange sdk py _ _ _ _) fun result => ?_
  refine raises_bind (raises_bind (raises_modify _) fun _ => ?_) fun _ => raises_pure _
  exact raises_tryCatch (refuses_readRedeemed py _ _) fun _ hexc => refuses_redeemFallback _ _ hexc

/-- The port of an exchange is the one of its request. -/
theorem redeemExchange_port {body : Json} {manifests : Nat → HttpAnswer} {answer : HttpAnswer}
    {salt : Nat} {p q : AgentProcess} {port : Int} {text : String}
    (h : redeemExchange sdk py body manifests answer salt p = .ok (port, text) q) :
    (body.item "peer_port").bind py.int = .ok port := by
  obtain ⟨redeemUrl, q₁, -, h⟩ := bind_eq_ok.mp h
  obtain ⟨token, q₂, -, h⟩ := bind_eq_ok.mp h
  obtain ⟨peerPort, q₃, hrun, h⟩ := bind_eq_ok.mp h
  obtain ⟨hport, -⟩ := ofExcept_eq_ok.mp hrun
  obtain ⟨given, q₄, -, h⟩ := bind_eq_ok.mp h
  split at h
  case isFalse => cases h
  case isTrue =>
    obtain ⟨urls, q₅, -, h⟩ := bind_eq_ok.mp h
    obtain ⟨u, q₆, -, h⟩ := bind_eq_ok.mp h
    obtain ⟨r, q₇, -, h⟩ := bind_eq_ok.mp h
    split at h
    case isTrue => cases h
    case isFalse =>
      obtain ⟨u', q₈, -, h⟩ := bind_eq_ok.mp h
      obtain ⟨heq, -⟩ := pure_eq_ok.mp h
      cases heq
      exact hport

/-- The end of a redemption that returns has received a token. -/
theorem receipt_holdRedeemed {port : Int} {text : String} {p q : AgentProcess}
    (h : holdRedeemed py port text p = .ok () q) :
    ∃ r, receiptOfRedeemed py port text = some r ∧ r.port = port := by
  obtain ⟨u, p₁, -, h⟩ := bind_eq_ok.mp h
  -- The handler returned, so it caught what was raised.
  have hfallback : ∀ {exc : PyErr}, readRedeemed py port text p₁ = .error (.raised exc) p₁ →
      caughtByRedeem exc = true := by
    intro exc hread
    rw [tryCatch_of_error hread] at h
    cases exc <;> first | rfl | cases h
  unfold receiptOfRedeemed
  cases hvalue : py.jsonLoads text with
  | error exc =>
    have hread : readRedeemed py port text p₁ = .error (.raised exc) p₁ := by
      unfold readRedeemed Route.lift
      rw [hvalue]
      rfl
    exact ⟨⟨port, .str text, none⟩, if_pos (hfallback hread), rfl⟩
  | ok value =>
    simp only
    cases htoken : value.item "tct" with
    | error exc =>
      have hread : readRedeemed py port text p₁ = .error (.raised exc) p₁ := by
        unfold readRedeemed Route.lift
        simp only [hvalue, ofExcept_ok_bind, htoken]
        rfl
      exact ⟨⟨port, .str text, none⟩, if_pos (hfallback hread), rfl⟩
    | ok token =>
      simp only
      cases claimsOf py token with
      | error exc =>
        refine ⟨_, rfl, ?_⟩
        rfl
      | ok claims =>
        refine ⟨_, rfl, ?_⟩
        rfl

/-- A redemption that returns has received a token for the port of its request. -/
theorem receipt_redeemDelegation {body value : Json} {manifests : Nat → HttpAnswer}
    {answer : HttpAnswer} {salt : Nat} {p q : AgentProcess} {port : Int}
    (hport : (body.item "peer_port").bind py.int = .ok port)
    (h : redeemDelegation sdk py body manifests answer salt p = .ok value q) :
    ∃ r, receipt sdk py p (.redeemDelegation body manifests answer salt) = some r ∧
      r.port = port := by
  obtain ⟨⟨port', text⟩, q₁, hexchange, h⟩ := bind_eq_ok.mp h
  obtain ⟨u, q₂, hhold, -⟩ := bind_eq_ok.mp h
  obtain rfl : port = port' :=
    Except.ok.inj (hport.symm.trans (redeemExchange_port sdk py hexchange))
  obtain ⟨r, hr, hrport⟩ := receipt_holdRedeemed py hhold
  refine ⟨r, ?_, hrport⟩
  show receivedBy (redeemExchange sdk py body manifests answer salt) p
    (fun result => receiptOfRedeemed py result.1 result.2) = some r
  unfold receivedBy
  rw [hexchange]
  exact hr

end

end AitpPlayground.Proofs.Agents
