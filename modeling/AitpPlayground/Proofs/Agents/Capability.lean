import AitpPlayground.Proofs.Agents.Revocation

/-!
# `AitpPlayground.Proofs.Agents.Capability`: what an accepted call has established

`capability_acceptance_sound` is about every run of an agent, with a control plane or without.
The checks of one call are in `Proofs.Agents.AitpServer`. What a run adds is two invariants:

* A local revocation stays: no step takes a jti out of the local set.
* An outstanding challenge was issued by the agent, and no call has consumed it since
  (`Tracked`).
-/

set_option autoImplicit false

namespace AitpPlayground.Proofs.Agents

open AitpPlayground.Lib
open AitpPlayground.Agents

variable {sdk : Sdk} {py : PyLib}

/-! ### Steps that are no calls -/

/-- A step that has nothing to do with challenges, and only adds local revocations. -/
structure Quiet (s s' : AgentSystem) : Prop where
  pop : s'.server.popChallenges = s.server.popChallenges
  history : ∃ newer, s'.history = newer ++ s.history ∧ ∀ e ∈ newer, isPopEvent e = false
  locals : s.server.revocation.local_ ⊆ s'.server.revocation.local_

/-- Two quiet changes in turn. -/
theorem Quiet.trans {s₁ s₂ s₃ : AgentSystem} (h : Quiet s₁ s₂) (h' : Quiet s₂ s₃) :
    Quiet s₁ s₃ := by
  obtain ⟨newer, heq, hnewer⟩ := h.history
  obtain ⟨newer', heq', hnewer'⟩ := h'.history
  refine ⟨h'.pop.trans h.pop, ⟨newer' ++ newer, by rw [heq', heq, List.append_assoc], ?_⟩,
    h.locals.trans h'.locals⟩
  intro e he
  rcases List.mem_append.mp he with he | he
  · exact hnewer' e he
  · exact hnewer e he

/-- The same challenges, history and local revocations. -/
theorem Quiet.of_eq {s s' : AgentSystem}
    (hpop : s'.server.popChallenges = s.server.popChallenges) (hhist : s'.history = s.history)
    (hlocal : s'.server.revocation.local_ = s.server.revocation.local_) : Quiet s s' :=
  ⟨hpop, ⟨[], hhist, by simp⟩, by rw [hlocal]⟩

/-- A list leaves the local revocations. -/
theorem applyList_local (sdk : Sdk) (py : PyLib) (l : IssuerRevocationList) (r : RevocationState)
    (aid : String) (now : ℚ) (salt : Nat) :
    (applyList sdk py l r aid now salt).2.1.local_ = r.local_ := by
  unfold applyList
  split
  · rfl
  · rfl
  · split
    · rfl
    · split
      · rfl
      · rfl

/-- The end of a refresh is quiet. -/
theorem afterRefresh_quiet (s : AgentSystem) (i : Nat) (t : Task) (pulled : Option Nat)
    (salt : Nat) : Quiet s (s.afterRefresh sdk py i t pulled salt) := by
  unfold AgentSystem.afterRefresh
  split
  · exact Quiet.of_eq rfl rfl rfl
  · refine ⟨rfl, ⟨_, rfl, ?_⟩, ?_⟩
    · intro e he
      obtain ⟨list, -, rfl⟩ := Option.map_eq_some_iff.mp (Option.mem_toList.mp he)
      rfl
    · exact (applyList_local sdk py s.server.issuedRevocations s.server.revocation s.server.aid
        s.clock salt).ge

/-- The resumption of a task is quiet. -/
theorem resume_quiet (s : AgentSystem) (i : Nat) (t : Task) (aid : String) (answer : Answer)
    (version salt : Nat) : Quiet s (s.resume sdk py i t aid answer version salt) := by
  unfold AgentSystem.resume
  split
  · exact Quiet.of_eq rfl rfl rfl
  · rename_i issued emits pulled _
    have hpublish : Quiet s { s with
        server := { s.server with issuedRevocations := issued }
        history := AgentSystem.publishedBy aid answer version issued pulled ++ s.history } := by
      refine ⟨rfl, ⟨_, rfl, ?_⟩, Finset.Subset.refl _⟩
      intro e he
      unfold AgentSystem.publishedBy at he
      split at he
      · obtain ⟨list, -, rfl⟩ := Option.map_eq_some_iff.mp (Option.mem_toList.mp he)
        rfl
      · cases he
    dsimp only
    split
    · exact hpublish.trans (Quiet.of_eq rfl rfl rfl)
    · exact hpublish.trans (afterRefresh_quiet _ i t _ salt)

/-- A rotation is quiet. -/
theorem rotate_quiet (s : AgentSystem) (newAid : String) (salt : Nat) :
    Quiet s (s.rotate sdk py newAid salt) := by
  unfold AgentSystem.rotate
  dsimp only
  split
  · exact ⟨rfl, ⟨[.rotated newAid], rfl, by simp [isPopEvent]⟩, Finset.Subset.refl _⟩
  · exact ⟨rfl, ⟨[.rotated newAid], rfl, by simp [isPopEvent]⟩, Finset.Subset.refl _⟩

/-- Every step but a capability call. -/
theorem agentStep_quiet {s s' : AgentSystem} {l : AgentLabel}
    (h : agentStep sdk py s l = some s') :
    Quiet s s' ∨ ∃ tctToken requiredGrant popResponse salt,
      s' = (s.capability sdk py tctToken requiredGrant popResponse salt).1 := by
  cases l with
  | tick now =>
    simp only [agentStep] at h
    split at h
    · cases h
      exact .inl (Quiet.of_eq rfl rfl rfl)
    · cases h
  | revokeLocal jti =>
    cases h
    -- The local set grows by one jti.
    exact .inl ⟨rfl, ⟨[], rfl, by simp⟩, Finset.subset_insert _ _⟩
  | startRefresh quiet =>
    cases h
    exact .inl (Quiet.of_eq rfl rfl rfl)
  | rotate newAid salt =>
    cases h
    exact .inl (rotate_quiet s newAid salt)
  | resume i answer version salt =>
    simp only [agentStep] at h
    split at h
    · cases h
      exact .inl (resume_quiet s i _ _ answer version salt)
    · cases h
  | emitted i salt =>
    simp only [agentStep] at h
    split at h
    · cases h
      exact .inl (afterRefresh_quiet s i _ _ salt)
    · cases h
  | serve salt =>
    cases h
    exact .inl (Quiet.of_eq rfl rfl rfl)
  | capability tctToken requiredGrant popResponse salt =>
    cases h
    exact .inr ⟨tctToken, requiredGrant, popResponse, salt, rfl⟩

/-! ### Local revocations -/

/-- A capability call leaves the revocations alone. -/
theorem capability_revocation (sdk : Sdk) (py : PyLib) (s : AgentSystem)
    (tctToken requiredGrant popResponse : String) (salt : Nat) :
    (s.capability sdk py tctToken requiredGrant popResponse salt).1.server.revocation =
      s.server.revocation := by
  obtain ⟨pop, hits, misses, serves, hfst⟩ :=
    verifyCapabilityTct_fst sdk py s.server s.clock tctToken requiredGrant popResponse salt
  simp only [AgentSystem.capability, hfst]

/-- A local revocation stays for the rest of the run. -/
theorem local_run {guard : AgentSystem → AgentLabel → Prop} {s s' : AgentSystem}
    (hrun : Reach (agentStep sdk py) guard s s') :
    s.server.revocation.local_ ⊆ s'.server.revocation.local_ := by
  refine hrun.invariant (P := fun u => s.server.revocation.local_ ⊆ u.server.revocation.local_)
    ?_ (Finset.Subset.refl _)
  intro u l u' hu _ hstep
  -- No step takes an entry out of the local set.
  rcases agentStep_quiet hstep with hquiet | ⟨tctToken, requiredGrant, popResponse, salt, rfl⟩
  · exact hu.trans hquiet.locals
  · rw [capability_revocation]
    exact hu

/-! ### Challenges -/

/-- The challenge with this nonce was issued, and not consumed since. -/
def Unconsumed (history : List AgentEvent) (nonce : PyKey) (challenge : String)
    (expiresAt : PyFloat) : Prop :=
  ∃ newer older, history = newer ++ .popIssued nonce challenge expiresAt :: older ∧
    .popConsumed nonce ∉ newer

/-- Every outstanding challenge was issued, and not consumed since. -/
def Tracked (s : AgentSystem) : Prop :=
  ∀ nonce challenge expiresAt,
    s.server.popChallenges.outstanding.get? nonce = some (challenge, expiresAt) →
      Unconsumed s.history nonce challenge expiresAt

/-- A challenge stays unconsumed while nobody consumes it. -/
theorem Unconsumed.append {history newer : List AgentEvent} {nonce : PyKey} {challenge : String}
    {expiresAt : PyFloat} (h : Unconsumed history nonce challenge expiresAt)
    (hnewer : .popConsumed nonce ∉ newer) :
    Unconsumed (newer ++ history) nonce challenge expiresAt := by
  obtain ⟨newer', older, rfl, hnot⟩ := h
  refine ⟨newer ++ newer', older, by simp, ?_⟩
  simp [hnewer, hnot]

/-- What a call does to the challenges, with the events it leaves: nothing new, one more, or
one less. -/
inductive PopMove (before : Dict PyKey (String × PyFloat)) :
    List AgentEvent → Dict PyKey (String × PyFloat) → Prop where
  | kept (after : Dict PyKey (String × PyFloat))
      (h : ∀ k e, after.get? k = some e → before.get? k = some e) : PopMove before [] after
  | issued (nonce : PyKey) (challenge : String) (expiresAt : PyFloat)
      (after : Dict PyKey (String × PyFloat))
      (h : ∀ k e, after.get? k = some e →
        k = nonce ∧ e = (challenge, expiresAt) ∨ before.get? k = some e) :
      PopMove before [.popIssued nonce challenge expiresAt] after
  | consumed (nonce : PyKey) (after : Dict PyKey (String × PyFloat))
      (h : ∀ k e, after.get? k = some e → k ≠ nonce ∧ before.get? k = some e) :
      PopMove before [.popConsumed nonce] after

/-- A challenge that is left after the prune was there before. -/
theorem outstanding_of_prune {p : PopChallenges} {now : ℚ} {k : PyKey} {e : String × PyFloat}
    (h : (p.prune now).outstanding.get? k = some e) : p.outstanding.get? k = some e :=
  (outstanding_prune.mp h).1

/-- A call on the challenges. -/
theorem capability_popMove (sdk : Sdk) (py : PyLib) (s : AgentSystem)
    (tctToken requiredGrant popResponse : String) (salt : Nat) :
    PopMove s.server.popChallenges.outstanding (s.popEvents sdk py tctToken popResponse salt)
      (s.capability sdk py tctToken requiredGrant popResponse
        salt).1.server.popChallenges.outstanding := by
  have hpop := verifyCapabilityTct_popChallenges sdk py s.server s.clock tctToken requiredGrant
    popResponse salt
  obtain ⟨n, hpre⟩ := precheck_fst py s.server s.clock tctToken
  simp only [AgentSystem.capability, hpop]
  unfold AgentSystem.popEvents
  split
  · -- The call was not admitted.
    rename_i heq
    rw [heq]
    exact .kept _ fun k e h => h
  · rename_i server _ heq
    rw [heq] at hpre ⊢
    dsimp only at hpre ⊢
    subst hpre
    split
    · -- Without a response the call asks for one.
      rcases issue_cases py s.server.popChallenges s.clock
        (fun ttl => sdk.newPopChallenge s.server.aid tctToken ttl salt) with
        ⟨exc, hissue⟩ | ⟨challenge, nonce, expiresAt, hentry, hissue⟩
      · simp only [hissue]
        exact .kept _ fun k e h => outstanding_of_prune h
      · simp only [hissue, hentry]
        refine .issued nonce challenge expiresAt _ ?_
        intro k e h
        rw [Dict.get?_set] at h
        split at h
        · rename_i hk
          cases h
          exact .inl ⟨hk.symm, rfl⟩
        · exact .inr (outstanding_of_prune h)
    · cases decodeHeader py popResponse with
      | error exc => exact .kept _ fun k e h => h
      | ok responseJson =>
        dsimp only
        -- The response takes its challenge out, or is refused and takes none.
        rcases consume_cases py s.server.popChallenges s.clock responseJson with
          ⟨p', exc, hconsume, hp'⟩ | ⟨nonce, challenge, expiresAt, hecho, hget, hconsume⟩
        · simp only [hconsume]
          refine .kept _ ?_
          intro k e h
          rcases hp' with rfl | rfl
          · exact h
          · exact outstanding_of_prune h
        · simp only [hconsume, hecho]
          refine .consumed (.str nonce) _ ?_
          intro k e h
          rw [Dict.get?_erase] at h
          split at h
          · cases h
          · rename_i hk
            exact ⟨hk, outstanding_of_prune h⟩

/-- A step keeps track of the challenges. -/
theorem tracked_step {s s' : AgentSystem} {l : AgentLabel} (hs : Tracked s)
    (h : agentStep sdk py s l = some s') : Tracked s' := by
  intro nonce challenge expiresAt hget
  rcases agentStep_quiet h with hquiet | ⟨tctToken, requiredGrant, popResponse, salt, rfl⟩
  · rw [hquiet.pop] at hget
    obtain ⟨newer, heq, hnewer⟩ := hquiet.history
    rw [heq]
    refine (hs nonce challenge expiresAt hget).append ?_
    -- None of the new events is about a challenge.
    intro hmem
    cases hnewer _ hmem
  · have hmove := capability_popMove sdk py s tctToken requiredGrant popResponse salt
    show Unconsumed (s.popEvents sdk py tctToken popResponse salt ++ s.history) _ _ _
    generalize s.popEvents sdk py tctToken popResponse salt = events at hmove
    cases hmove with
    | kept _ hafter => exact hs _ _ _ (hafter _ _ hget)
    | issued nonce' challenge' expiresAt' _ hafter =>
      rcases hafter _ _ hget with ⟨rfl, heq⟩ | hold
      · -- The challenge itself. A challenge that had its nonce before is replaced.
        cases heq
        exact ⟨[], s.history, rfl, by simp⟩
      · exact (hs _ _ _ hold).append (by simp)
    | consumed nonce' _ hafter =>
      -- The challenge that was consumed is another one.
      obtain ⟨hne, hold⟩ := hafter _ _ hget
      exact (hs _ _ _ hold).append (by simpa using hne)

/-- A run keeps track of the challenges. -/
theorem tracked_run {guard : AgentSystem → AgentLabel → Prop} {s s' : AgentSystem}
    (hrun : Reach (agentStep sdk py) guard s s') (hs : Tracked s) : Tracked s' :=
  hrun.invariant (fun _ _ _ hu _ => tracked_step hu) hs

/-- At the start there is none. -/
theorem tracked_start {s : AgentSystem} (hs : AgentStart s) : Tracked s := by
  intro nonce challenge expiresAt hget
  rw [hs.outstanding] at hget
  cases hget

/-! ### Acceptance -/

/-- A call that returns an identity consumed a challenge that was outstanding. -/
theorem capability_consumes {s : AgentSystem} {tctToken requiredGrant popResponse : String}
    {salt : Nat} {identity : TctIdentity}
    (h : (s.capability sdk py tctToken requiredGrant popResponse salt).2 = .ok identity) :
    ∃ nonce challenge expiresAt,
      s.server.popChallenges.outstanding.get? nonce = some (challenge, expiresAt) ∧
      expiresAt.lt (.fin s.clock) = false ∧
      (s.capability sdk py tctToken requiredGrant popResponse salt).1.history =
        .popConsumed nonce :: s.history ∧
      (s.capability sdk py tctToken requiredGrant popResponse
        salt).1.server.popChallenges.outstanding.get? nonce = none := by
  obtain ⟨hpre, hne, responseJson, challenge, hdecode, hconsume⟩ := verifyCapabilityTct_ok h
  obtain ⟨nonce, expiresAt, hecho, hget, hlive, hgone⟩ := consume_ok hconsume
  refine ⟨.str nonce, challenge, expiresAt, hget, hlive, ?_, ?_⟩
  · -- The events of the call, along the same path.
    obtain ⟨n, hfst⟩ := precheck_fst py s.server s.clock tctToken
    have hpair : s.server.precheck py s.clock tctToken =
        ({ s.server with degradedServes := n }, .ok ()) := Prod.ext hfst hpre
    have hevents : s.popEvents sdk py tctToken popResponse salt = [.popConsumed (.str nonce)] := by
      simp only [AgentSystem.popEvents, hpair, if_neg hne, hdecode, hconsume, hecho]
    simp only [AgentSystem.capability, hevents, List.singleton_append]
  · simp only [AgentSystem.capability, verifyCapabilityTct_popChallenges, hpre, if_neg hne, hdecode]
    exact hgone

/-- **Capability acceptance is sound**, in every run of an agent and for every token, grant and
response. When a call returns an identity, then the claims of the token name a jti that is in
no deny-set, and that no earlier step of the run revoked locally. They name the agent as the
issuer. The call consumed a challenge that the agent had issued, that no call had consumed
since, and that is not expired. And with a control plane, under every mode but `soft_fail`,
the snapshot in force is neither expired nor stale. -/
theorem capability_acceptance_sound (sdk : Sdk) (py : PyLib) {s₀ s : AgentSystem}
    (hstart : AgentStart s₀) (hrun : Reach (agentStep sdk py) anyStep s₀ s)
    {tctToken requiredGrant popResponse : String} {salt : Nat} {identity : TctIdentity}
    (haccept : (s.capability sdk py tctToken requiredGrant popResponse salt).2 = .ok identity) :
    ∃ claims, decodeClaims py tctToken = .ok claims ∧
      (∀ jti, claims.get? "jti" = some (.str jti) → jti ≠ "" →
        jti ∉ s.server.revocation.local_ ∧
        (∀ snap, s.server.revocation.snapshot = some snap → jti ∉ snap.entries) ∧
        ∀ s₁ s₂ revoked, agentStep sdk py s₁ (.revokeLocal revoked) = some s₂ →
          Reach (agentStep sdk py) anyStep s₂ s → jti ≠ revoked) ∧
      claims.get? "iss" = some (.str s.server.aid) ∧
      (∃ nonce challenge expiresAt, Unconsumed s.history nonce challenge expiresAt ∧
        expiresAt.lt (.fin s.clock) = false ∧
        (s.capability sdk py tctToken requiredGrant popResponse salt).1.history =
          .popConsumed nonce :: s.history ∧
        (s.capability sdk py tctToken requiredGrant popResponse
          salt).1.server.popChallenges.outstanding.get? nonce = none) ∧
      (s.server.cpConfigured = true → s.server.revocationFailMode ≠ "soft_fail" →
        ∃ snap, s.server.revocation.snapshot = some snap ∧ s.clock < snap.expiresAt ∧
          s.clock - snap.publishedAt ≤ s.server.revocationMaxStalenessSecs) := by
  obtain ⟨hpre, -⟩ := verifyCapabilityTct_ok haccept
  obtain ⟨claims, hclaims, hscreen, hfresh, hiss⟩ := precheck_ok hpre
  refine ⟨claims, hclaims, ?_, hiss, ?_, ?_⟩
  · intro jti hjti hne
    obtain ⟨hlocal, hsnap⟩ := screenJti_ok hscreen (j := jti) (by rw [hjti]; rfl) hne
    refine ⟨hlocal, hsnap, ?_⟩
    rintro s₁ s₂ revoked hrevoke hrest rfl
    -- The revocation is in the local set from then on.
    cases hrevoke
    exact hlocal (local_run hrest (Finset.mem_insert_self _ _))
  · obtain ⟨nonce, challenge, expiresAt, hget, hlive, hhist, hgone⟩ := capability_consumes haccept
    have htracked := tracked_run hrun (tracked_start hstart)
    exact ⟨nonce, challenge, expiresAt, htracked nonce challenge expiresAt hget, hlive, hhist,
      hgone⟩
  · intro hcp hmode
    exact enforceRevocationFreshness_current hcp hmode hfresh

/-- The texts of a call: the claims of a token, a challenge, and the response to it. Each has
its base64url form and its value. -/
def callTexts : List (String × String × Json) :=
  [("eyJpc3MiOiJhIiwianRpIjoiOWIxZDZhNTItM2M3Ny00ZTBiLThmMjEtNmMxZjBhNGQ5ZTAyIn0=",
    "\x7b\"iss\":\"a\",\"jti\":\"9b1d6a52-3c77-4e0b-8f21-6c1f0a4d9e02\"\x7d",
    .obj [("iss", .str "a"), ("jti", .str "9b1d6a52-3c77-4e0b-8f21-6c1f0a4d9e02")]),
   ("eyJub25jZSI6Im4xIiwiZXhwaXJlc19hdCI6NjB9", "\x7b\"nonce\":\"n1\",\"expires_at\":60\x7d",
    .obj [("nonce", .str "n1"), ("expires_at", .num (.int 60))]),
   ("eyJub25jZV9lY2hvIjoibjEifQ==", "\x7b\"nonce_echo\":\"n1\"\x7d",
    .obj [("nonce_echo", .str "n1")])]

/-- The library of the concrete calls: it also decodes and reads these texts. -/
def callLib : PyLib :=
  { agentLib with
      jsonLoads := fun text =>
        match callTexts.find? fun e => decide (e.2.1 = text) with
        | some e => .ok e.2.2
        | none => agentLib.jsonLoads text
      jsonLoadsBytes := fun raw =>
        match callTexts.find? fun e => decide (e.2.1.toUTF8.toList = raw) with
        | some e => .ok e.2.2
        | none => .error (.valueError "Expecting value" none)
      urlsafeB64decode := fun text =>
        match callTexts.find? fun e => decide (e.1 = text) with
        | some e => .ok e.2.1.toUTF8.toList
        | none => .error (.valueError "Incorrect padding" none)
      urlsafeB64encode := fun raw =>
        match callTexts.find? fun e => decide (e.2.1.toUTF8.toList = raw) with
        | some e => e.1
        | none => ""
      utf8Decode := fun raw =>
        match callTexts.find? fun e => decide (e.2.1.toUTF8.toList = raw) with
        | some e => .ok e.2.1
        | none => .error (.valueError "invalid start byte" none) }

/-- The SDK of the concrete calls: it makes the challenge of these texts, and verifies the
response to it. -/
def callSdk : Sdk :=
  { agentSdk with
      newPopChallenge := fun _ _ _ _ => .ok "\x7b\"nonce\":\"n1\",\"expires_at\":60\x7d"
      verifyTct := fun _ _ requiredGrant _ pop _ =>
        if pop.2 = "\x7b\"nonce_echo\":\"n1\"\x7d" then
          .ok (⟨"peer", [requiredGrant], 3600, "9b1d6a52-3c77-4e0b-8f21-6c1f0a4d9e02"⟩, true)
        else .error (.runtimeError "refused" (some "POP_RESPONSE_INVALID")) }

/-- The token of the concrete calls. -/
def callToken : String :=
  "eyJhbGciOiJFZERTQSJ9.eyJpc3MiOiJhIiwianRpIjoiOWIxZDZhNTItM2M3Ny00ZTBiLThmMjEtNmMxZjBhNGQ5ZTAyIn0.c2ln"

/-- The agent `a` applies its list. A call gets a challenge, and the next call answers it. -/
theorem capability_acceptance_answered :
    ∃ s identity, Reach (agentStep callSdk callLib) anyStep newAgent s ∧
      (s.capability callSdk callLib callToken "read" "eyJub25jZV9lY2hvIjoibjEifQ" 0).2 =
        .ok identity ∧
      (∃ claims, decodeClaims callLib callToken = .ok claims ∧
        claims.get? "iss" = some (.str s.server.aid)) ∧
      ∃ nonce challenge expiresAt, Unconsumed s.history nonce challenge expiresAt := by
  have hexec : (exec (agentStep callSdk callLib) anyStep newAgent
      [.startRefresh true, .resume 0 (entriesAnswer "a" [jtiA]) 1 0, .emitted 0 0,
       .capability callToken "read" "" 0, .tick 30]).map
        (fun s =>
          (s.capability callSdk callLib callToken "read" "eyJub25jZV9lY2hvIjoibjEifQ" 0).2) =
      some (.ok ⟨"peer", ["read"], 3600, "9b1d6a52-3c77-4e0b-8f21-6c1f0a4d9e02"⟩) := by
    decide +kernel
  obtain ⟨s, hrun, haccept⟩ := exists_reach_of_exec hexec
  obtain ⟨claims, hclaims, -, hiss, ⟨nonce, challenge, expiresAt, hissued, -⟩, -⟩ :=
    capability_acceptance_sound callSdk callLib newAgent_start hrun haccept
  exact ⟨s, _, hrun, haccept, ⟨claims, hclaims, hiss⟩, nonce, challenge, expiresAt, hissued⟩

end AitpPlayground.Proofs.Agents
