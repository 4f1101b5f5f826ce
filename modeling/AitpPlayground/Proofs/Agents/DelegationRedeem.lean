import AitpPlayground.Agents.DelegationRedeem
import AitpPlayground.Lib.Codecs
import AitpPlayground.Proofs.Agents.Capability

/-!
# `AitpPlayground.Proofs.Agents.DelegationRedeem`: no credential from a revoked grant

A redemption mints a TCT for a third party, so a revoked grant must not be redeemed.

* `redeemDelegation_minted`: what a redemption that mints a TCT has established.
* `delegation_redemption_sound`: in every run, the deny-set that the SDK verified against has
  every jti that the agent revoked before, and with a control plane it is not stale.
* `revoked_source_never_redeems`: so once the source of a delegation is revoked, no later request
  redeems it, whatever the agent does in between. When the SDK refuses it for that, the reply
  names the local revocation.
-/

set_option autoImplicit false

namespace AitpPlayground.Proofs.Agents

open AitpPlayground.Lib
open AitpPlayground.Agents

variable {sdk : Sdk} {redeemSdk : RedeemSdk} {py : PyLib} {cfg : Dict String Json}

/-! ### One redemption -/

/-- Values that are all texts. -/
theorem mapM_asText {items : List Json} {texts : List String}
    (h : items.mapM asText = some texts) : items = texts.map .str := by
  induction items generalizing texts with
  | nil =>
    cases h
    rfl
  | cons item items ih =>
    rw [List.mapM_cons] at h
    obtain ⟨text, htext, h⟩ := Option.bind_eq_some_iff.mp h
    obtain ⟨rest, hrest, h⟩ := Option.bind_eq_some_iff.mp h
    cases h
    cases item with
    | str s =>
      cases htext
      rw [ih hrest]
      rfl
    | null | bool _ | num _ | arr _ | obj _ => cases htext

/-- The manifests of a request are a list of texts that is not empty. -/
theorem manifestTexts_eq_some {x : Json} {texts : List String}
    (h : manifestTexts x = some texts) : x = .arr (texts.map .str) ∧ texts ≠ [] := by
  unfold manifestTexts at h
  split at h
  · cases h
  · rename_i items hne
    have hitems := mapM_asText h
    subst hitems
    refine ⟨rfl, ?_⟩
    rintro rfl
    exact hne rfl
  · cases h

/-- A body is refused with one of two statuses, or its token and its manifests are read. -/
theorem readRedeemRequest_spec {body : Json} {read : Except RedeemReply RedeemRequest}
    (h : readRedeemRequest redeemSdk py cfg body = .ok read) :
    match read with
    | .error refusal => refusal.status = 400 ∨ refusal.status = 501
    | .ok request => body.item "delegation_token" = .ok request.delegationToken ∧
        body.member "issuer_manifests" = .ok (.arr (request.issuerManifests.map .str)) ∧
        request.issuerManifests ≠ [] := by
  unfold readRedeemRequest at h
  obtain ⟨token, htoken, h⟩ := except_bind_eq_ok.mp h
  obtain ⟨manifests, hmanifests, h⟩ := except_bind_eq_ok.mp h
  cases htexts : manifestTexts manifests with
  | none =>
    rw [htexts] at h
    cases h
    exact .inl rfl
  | some texts =>
    rw [htexts] at h
    obtain ⟨maxHops, -, h⟩ := except_bind_eq_ok.mp h
    obtain ⟨rfl, hne⟩ := manifestTexts_eq_some htexts
    -- With the feature or without, single hop or not, the two fields are the same.
    split at h
    · split at h
      · cases h
        exact ⟨htoken, hmanifests, hne⟩
      · cases h
        exact .inr rfl
    · cases h
      exact ⟨htoken, hmanifests, hne⟩

/-- A redemption changes one counter at most. -/
theorem redeemDelegation_fst (s : AitpServer) (now : ℚ) (body : Json) (salt : Nat) :
    ∃ n, (s.redeemDelegation redeemSdk py cfg now body salt).1 =
      { s with degradedServes := n } := by
  obtain ⟨n, hn⟩ := enforceRevocationFreshness_fst py s now
  unfold AitpServer.redeemDelegation
  split
  · exact ⟨_, rfl⟩
  · exact ⟨_, rfl⟩
  · dsimp only
    split
    · rename_i heq
      rw [heq] at hn
      exact ⟨n, hn⟩
    · rename_i heq
      rw [heq] at hn
      split
      · split <;> exact ⟨n, hn⟩
      · split <;> exact ⟨n, hn⟩

/-- The reply to a delegation that the SDK refused is a 403. -/
theorem delegationRejected_status {s : AitpServer} {token : Json} {exc : PyErr}
    {reply : RedeemReply} (h : s.delegationRejected py token exc = .ok reply) :
    reply.status = 403 := by
  unfold AitpServer.delegationRejected at h
  split at h
  · cases h
  · cases h
    rfl

/-- A redemption that mints a TCT: the SDK verified the delegation against the deny-set of that
moment, and the checks of the revocation state passed. -/
theorem redeemDelegation_minted {s : AitpServer} {now : ℚ} {body : Json} {salt : Nat}
    {freshTct : String}
    (h : (s.redeemDelegation redeemSdk py cfg now body salt).2 = .ok ⟨200, freshTct⟩) :
    ∃ token request verified, readRedeemRequest redeemSdk py cfg body = .ok (.ok request) ∧
      request.delegationToken = .str token ∧
      (s.enforceRevocationFreshness py now).2 = .ok () ∧
      redeemSdk.verify request.policy token s.aid request.issuerManifests
        s.revocation.effectiveJtis salt = .ok verified ∧
      redeemSdk.issueTctForDelegatee s.aid verified salt = .ok freshTct := by
  obtain ⟨n, hn⟩ := enforceRevocationFreshness_fst py s now
  unfold AitpServer.redeemDelegation at h
  split at h
  · cases h
  · rename_i refusal hread
    cases h
    have hstatus := readRedeemRequest_spec hread
    simp at hstatus
  · rename_i request hread
    dsimp only at h
    split at h
    · cases h
    · rename_i s' u hfresh
      rw [hfresh] at hn
      cases hn
      split at h
      · split at h
        · have hstatus := delegationRejected_status h
          cases hstatus
        · cases h
      · rename_i verified hverify
        split at h
        · cases h
        · rename_i text hissue
          cases h
          unfold RedeemSdk.verifyToken at hverify
          split at hverify
          · rename_i token htoken
            exact ⟨token, request, verified, hread, htoken, by rw [hfresh], hverify, hissue⟩
          · cases hverify

/-! ### Runs -/

/-- A local revocation stays, redemptions or not. -/
theorem local_servingStep {s s' : AgentSystem} {l : ServingLabel}
    (h : servingStep sdk redeemSdk py cfg s l = some s') :
    s.server.revocation.local_ ⊆ s'.server.revocation.local_ := by
  cases l with
  | agent step =>
    have hrun : Reach (agentStep sdk py) anyStep s s' := (Reach.refl s).snoc trivial h
    exact local_run hrun
  | redeem body salt =>
    cases h
    show _ ⊆ (s.server.redeemDelegation redeemSdk py cfg s.clock body salt).1.revocation.local_
    obtain ⟨n, hn⟩ : ∃ n, (s.server.redeemDelegation redeemSdk py cfg s.clock body salt).1 =
      { s.server with degradedServes := n } := redeemDelegation_fst s.server s.clock body salt
    rw [hn]

/-- The local revocations only grow. -/
theorem local_serving {s s' : AgentSystem}
    (hrun : Reach (servingStep sdk redeemSdk py cfg) anyStep s s') :
    s.server.revocation.local_ ⊆ s'.server.revocation.local_ :=
  hrun.invariant (P := fun u => s.server.revocation.local_ ⊆ u.server.revocation.local_)
    (fun _ _ _ hu _ h => hu.trans (local_servingStep h)) (Finset.Subset.refl _)

/-- The local revocations are in the deny-set. -/
theorem mem_effectiveJtis_of_local {r : RevocationState} {jti : String} (h : jti ∈ r.local_) :
    jti ∈ r.effectiveJtis := by
  unfold RevocationState.effectiveJtis
  split
  · exact h
  · exact Finset.mem_union_left _ h

/-- A jti that was revoked is in the deny-set of every later state. -/
theorem revoked_mem_effectiveJtis {s₁ s₂ s : AgentSystem} {jti : String}
    (hrevoke : servingStep sdk redeemSdk py cfg s₁ (.agent (.revokeLocal jti)) = some s₂)
    (hrun : Reach (servingStep sdk redeemSdk py cfg) anyStep s₂ s) :
    jti ∈ s.server.revocation.effectiveJtis := by
  cases hrevoke
  exact mem_effectiveJtis_of_local (local_serving hrun (Finset.mem_insert_self _ _))

/-- **A redemption is sound**, in every state that is reached. When it mints a TCT, then the body
has a token and manifests, and the SDK verified this token for the AID of the agent against a
deny-set that has every jti which an earlier step revoked locally. With a control plane, under
every mode but `soft_fail`, the snapshot in that deny-set is neither expired nor stale. And the
redemption itself changes nothing but the count of degraded serves. -/
theorem delegation_redemption_sound (sdk : Sdk) (redeemSdk : RedeemSdk) (py : PyLib)
    (cfg : Dict String Json) {s : AgentSystem} {body : Json} {salt : Nat} {freshTct : String}
    (hminted : (s.redeem redeemSdk py cfg body salt).2 = .ok ⟨200, freshTct⟩) :
    ∃ token manifests policy verified,
      body.item "delegation_token" = .ok (.str token) ∧
      body.member "issuer_manifests" = .ok (.arr (manifests.map .str)) ∧ manifests ≠ [] ∧
      redeemSdk.verify policy token s.server.aid manifests s.server.revocation.effectiveJtis
        salt = .ok verified ∧
      redeemSdk.issueTctForDelegatee s.server.aid verified salt = .ok freshTct ∧
      (∀ s₁ s₂ jti, servingStep sdk redeemSdk py cfg s₁ (.agent (.revokeLocal jti)) = some s₂ →
        Reach (servingStep sdk redeemSdk py cfg) anyStep s₂ s →
          jti ∈ s.server.revocation.effectiveJtis) ∧
      (s.server.cpConfigured = true → s.server.revocationFailMode ≠ "soft_fail" →
        ∃ snap, s.server.revocation.snapshot = some snap ∧
          snap.entries ⊆ s.server.revocation.effectiveJtis ∧ s.clock < snap.expiresAt ∧
          s.clock - snap.publishedAt ≤ s.server.revocationMaxStalenessSecs) ∧
      ∃ n, (s.redeem redeemSdk py cfg body salt).1 =
        { s with server := { s.server with degradedServes := n } } := by
  obtain ⟨token, request, verified, hread, htoken, hfresh, hverify, hissue⟩ :=
    redeemDelegation_minted hminted
  obtain ⟨hitem, hmanifests, hne⟩ := readRedeemRequest_spec hread
  rw [htoken] at hitem
  refine ⟨token, request.issuerManifests, request.policy, verified, hitem, hmanifests, hne,
    hverify, hissue, ?_, ?_, ?_⟩
  · intro s₁ s₂ jti hrevoke hrun
    exact revoked_mem_effectiveJtis hrevoke hrun
  · intro hcp hmode
    obtain ⟨snap, hsnap, hend, hage⟩ := enforceRevocationFreshness_current hcp hmode hfresh
    refine ⟨snap, hsnap, ?_, hend, hage⟩
    unfold RevocationState.effectiveJtis
    rw [hsnap]
    exact Finset.subset_union_right
  · obtain ⟨n, hn⟩ := redeemDelegation_fst s.server s.clock body salt
    refine ⟨n, ?_⟩
    show { s with server := (s.server.redeemDelegation redeemSdk py cfg s.clock body salt).1 } = _
    rw [hn]

/-! ### A revoked source -/

/-- The SDK refuses a delegation whose source is in the deny-set. -/
def RefusesRevokedSource (redeemSdk : RedeemSdk) (py : PyLib) : Prop :=
  ∀ policy token aid manifests revokedJtis salt verified,
    redeemSdk.verify policy token aid manifests revokedJtis salt = .ok verified →
      ∀ jti, AitpServer.sourceJti py token = .ok (.str jti) → jti ∉ revokedJtis

/-- A reply with a 403 is the one to a delegation that the SDK refused. -/
theorem redeemDelegation_rejected {s : AitpServer} {now : ℚ} {body : Json} {salt : Nat}
    {reply : RedeemReply}
    (h : (s.redeemDelegation redeemSdk py cfg now body salt).2 = .ok reply)
    (hstatus : reply.status = 403) :
    ∃ n token exc, body.item "delegation_token" = .ok token ∧
      AitpServer.delegationRejected py { s with degradedServes := n } token exc = .ok reply := by
  obtain ⟨n, hn⟩ := enforceRevocationFreshness_fst py s now
  unfold AitpServer.redeemDelegation at h
  split at h
  · cases h
  · rename_i refusal hread
    cases h
    have hother := readRedeemRequest_spec hread
    simp only at hother
    omega
  · rename_i request hread
    obtain ⟨hitem, -⟩ := readRedeemRequest_spec hread
    dsimp only at h
    split at h
    · cases h
    · rename_i s' u hfresh
      rw [hfresh] at hn
      cases hn
      split at h
      · rename_i exc _
        split at h
        · exact ⟨n, _, exc, hitem, h⟩
        · cases h
      · split at h
        · cases h
        · cases h
          cases hstatus

/-- The reply names a source that is revoked locally. -/
theorem delegationRejected_local {s : AitpServer} {token jti : String} {exc : PyErr}
    (hsource : AitpServer.sourceJti py token = .ok (.str jti)) (hne : jti ≠ "")
    (hlocal : jti ∈ s.revocation.local_) :
    s.delegationRejected py (.str token) exc = .ok ⟨403, py.jsonDumps (.obj [("error",
      .str ("delegation rejected: " ++ exc.text ++ (" (source revoked (" ++ "local" ++
        "): src_jti=" ++ jti ++ ")")))])⟩ := by
  have hrevoked : s.revokedSourceOf py token = .ok (some ("local", jti)) := by
    unfold AitpServer.revokedSourceOf
    simp [hsource, Json.truthy, hne, RevocationState.isRevoked, RevocationState.isLocallyRevoked,
      hlocal]
  simp only [AitpServer.delegationRejected, hrevoked]

/-- **A revoked source is never redeemed.** Once an agent has revoked a jti, no later request
with a delegation from this source mints a TCT, in any order of refreshes, rotations, capability
calls and other redemptions. And when the request is refused with the verdict of the SDK, the
reply says that the source was revoked locally. -/
theorem revoked_source_never_redeems (sdk : Sdk) {redeemSdk : RedeemSdk} {py : PyLib}
    {cfg : Dict String Json} (hsdk : RefusesRevokedSource redeemSdk py) {s₁ s₂ s : AgentSystem}
    {jti token : String} (hne : jti ≠ "")
    (hrevoke : servingStep sdk redeemSdk py cfg s₁ (.agent (.revokeLocal jti)) = some s₂)
    (hrun : Reach (servingStep sdk redeemSdk py cfg) anyStep s₂ s)
    (hsource : AitpServer.sourceJti py token = .ok (.str jti)) {body : Json} (salt : Nat)
    (htoken : body.item "delegation_token" = .ok (.str token)) :
    (∀ freshTct, (s.redeem redeemSdk py cfg body salt).2 ≠ .ok ⟨200, freshTct⟩) ∧
      ∀ reply, (s.redeem redeemSdk py cfg body salt).2 = .ok reply → reply.status = 403 →
        ∃ exc : PyErr, reply.text = py.jsonDumps (.obj [("error",
          .str ("delegation rejected: " ++ exc.text ++ (" (source revoked (" ++ "local" ++
            "): src_jti=" ++ jti ++ ")")))]) := by
  constructor
  · intro freshTct hminted
    obtain ⟨token', request, verified, hread, htoken', -, hverify, -⟩ :=
      redeemDelegation_minted hminted
    obtain ⟨hitem, -⟩ := readRedeemRequest_spec hread
    rw [htoken'] at hitem
    cases htoken.symm.trans hitem
    exact hsdk _ _ _ _ _ _ _ hverify jti hsource (revoked_mem_effectiveJtis hrevoke hrun)
  · intro reply hreply hstatus
    obtain ⟨n, token', exc, hitem, hrejected⟩ := redeemDelegation_rejected hreply hstatus
    cases htoken.symm.trans hitem
    have hlocal : jti ∈ s.server.revocation.local_ := by
      cases hrevoke
      exact local_serving hrun (Finset.mem_insert_self _ _)
    have hnamed : AitpServer.delegationRejected py { s.server with degradedServes := n }
        (.str token) exc = _ := delegationRejected_local hsource hne hlocal
    cases hnamed.symm.trans hrejected
    exact ⟨exc, rfl⟩

/-- The claims of a delegation and of the voucher in it, and the lists of an agent. -/
def redeemTexts : List (String × Json) :=
  [("{}", .obj [("voucher", .str "h.W10.s")]), ("[]", .obj [("src_jti", .str "j")])] ++
    agentLists.map fun l => (l.2, envelopeOf l.1.1 l.1.2)

/-- A library that reads them. -/
def redeemLib : PyLib :=
  { PyLib.reading redeemTexts with uuidStr := .ok }.withCodecs fun _ => "invalid start byte"

/-- An SDK that looks for the source in the deny-set. -/
def sourceSdk : RedeemSdk where
  sdkVersion := "0.24"
  hasMultihopDelegation := false
  verifyDelegation token _ _ revokedJtis _ :=
    match AitpServer.sourceJti redeemLib token with
    | .ok (.str jti) =>
      if jti ∈ revokedJtis then .error (.runtimeError "source revoked" none)
      else .ok ⟨"delegatee", ["read"]⟩
    | _ => .error (.runtimeError "no source" none)
  verifyDelegationMultihop _ _ _ _ _ _ := .error (.runtimeError "unavailable" none)
  issueTctForDelegatee _ _ _ := .ok "fresh"

/-- The body of a redemption. -/
def redeemBody : Json :=
  .obj [("delegation_token", .str "h.e30.s"), ("issuer_manifests", .arr [.str "manifest"])]

/-- The agent pulls its list, and half a minute goes by. -/
def pulledSteps : List ServingLabel :=
  [.agent (.startRefresh true), .agent (.resume 0 (entriesAnswer "a" [jtiA]) 1 0),
   .agent (.emitted 0 0), .agent (.tick 30)]

/-- An agent with a control plane revokes another jti and pulls its list. Then it redeems a
delegation, against a deny-set that has both. -/
theorem delegation_redemption_sound_minted :
    ∃ s policy manifests verified snap,
      Reach (servingStep agentSdk sourceSdk redeemLib Dict.empty) anyStep newAgent s ∧
      (s.redeem sourceSdk redeemLib Dict.empty redeemBody 0).2 = .ok ⟨200, "fresh"⟩ ∧
      sourceSdk.verify policy "h.e30.s" s.server.aid manifests s.server.revocation.effectiveJtis 0 =
        .ok verified ∧
      "k" ∈ s.server.revocation.effectiveJtis ∧ s.server.revocation.snapshot = some snap ∧
      snap.entries = {jtiA} ∧ snap.entries ⊆ s.server.revocation.effectiveJtis ∧
      s.clock < snap.expiresAt ∧ s.clock - snap.publishedAt ≤ 300 := by
  let s₁ : AgentSystem := { newAgent with
    server := { newAgent.server with
      revocation := newAgent.server.revocation.revokeLocal "k" } }
  have hrevoke : servingStep agentSdk sourceSdk redeemLib Dict.empty newAgent
      (.agent (.revokeLocal "k")) = some s₁ := rfl
  have heval : (exec (servingStep agentSdk sourceSdk redeemLib Dict.empty) anyStep s₁
      pulledSteps).map (fun s =>
        (decide ((s.redeem sourceSdk redeemLib Dict.empty redeemBody 0).2 = .ok ⟨200, "fresh"⟩),
          s.server.cpConfigured, s.server.revocationFailMode, s.server.revocationMaxStalenessSecs,
          s.server.revocation.snapshot.map Snapshot.entries)) =
      some (true, true, "fail_closed", 300, some {jtiA}) := by
    decide +kernel
  obtain ⟨s, hrun, hreads⟩ := exists_reach_of_exec heval
  simp only [Prod.mk.injEq] at hreads
  obtain ⟨hreply, hcp, hmode, hstale, hentries⟩ := hreads
  have hminted := of_decide_eq_true hreply
  obtain ⟨token, manifests, policy, verified, htoken, -, -, hverify, -, hrevoked, hfresh, -⟩ :=
    delegation_redemption_sound agentSdk sourceSdk redeemLib Dict.empty hminted
  cases htoken
  obtain ⟨snap, hsnap, hsubset, hend, hage⟩ := hfresh hcp (by rw [hmode]; decide)
  rw [hsnap] at hentries
  rw [hstale] at hage
  exact ⟨s, policy, manifests, verified, snap, ((Reach.refl newAgent).snoc trivial hrevoke).trans
    hrun, hminted, hverify, hrevoked newAgent s₁ "k" hrevoke hrun, hsnap,
    Option.some.inj hentries, hsubset, hend, by simpa using hage⟩

/-- The SDK of the concrete run refuses revoked sources. -/
theorem sourceSdk_refuses : RefusesRevokedSource sourceSdk redeemLib := by
  intro policy token aid manifests revokedJtis salt verified hverify jti hsource
  cases policy with
  | single =>
    simp only [RedeemSdk.verify, sourceSdk, hsource] at hverify
    split at hverify
    · cases hverify
    · assumption
  | multihop maxHops => cases hverify

/-- After it, the same body is refused, and another jti was revoked in between. -/
theorem revoked_source_never_redeems_again :
    ∃ s, Reach (servingStep Sdk.refusing sourceSdk redeemLib Dict.empty) anyStep localAgent s ∧
      (∀ freshTct, (s.redeem sourceSdk redeemLib Dict.empty redeemBody 0).2 ≠
        .ok ⟨200, freshTct⟩) := by
  let s₂ : AgentSystem := { localAgent with
    server := { localAgent.server with
      revocation := localAgent.server.revocation.revokeLocal "j" } }
  let s : AgentSystem := { s₂ with
    server := { s₂.server with revocation := s₂.server.revocation.revokeLocal "k" } }
  have hrevoke : servingStep Sdk.refusing sourceSdk redeemLib Dict.empty localAgent
      (.agent (.revokeLocal "j")) = some s₂ := rfl
  have hrun : Reach (servingStep Sdk.refusing sourceSdk redeemLib Dict.empty) anyStep s₂ s :=
    (Reach.refl s₂).snoc (l := .agent (.revokeLocal "k")) trivial rfl
  have hsource : AitpServer.sourceJti redeemLib "h.e30.s" = .ok (.str "j") := by decide +kernel
  have htoken : redeemBody.item "delegation_token" = .ok (.str "h.e30.s") := rfl
  obtain ⟨hnever, -⟩ := revoked_source_never_redeems Sdk.refusing sourceSdk_refuses
    (by decide) hrevoke hrun hsource 0 htoken
  exact ⟨s, ((Reach.refl localAgent).snoc trivial hrevoke).trans hrun, hnever⟩

end AitpPlayground.Proofs.Agents
