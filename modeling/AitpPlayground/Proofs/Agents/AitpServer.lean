import AitpPlayground.Agents.AitpServer

/-!
# `AitpPlayground.Proofs.Agents.AitpServer`: what a capability call checks and changes

`verify_capability_tct` has one success path, and each of its checks has one lemma here that
says what the check has established when it passes:

* `screenJti_ok`: the jti is neither revoked locally nor named by the snapshot in force.
* `enforceRevocationFreshness_current`: under a mode that is not `soft_fail` the snapshot in
  force is neither expired nor stale.
* `precheck_ok`: these two, and the issuer is the agent.
* `consume_ok`: the challenge was outstanding, and is not any more.

`verifyCapabilityTct_ok` puts them together. `verifyCapabilityTct_fst` says what a call changes,
whether it succeeds or not: the challenges and three counters.
-/

set_option autoImplicit false

namespace AitpPlayground.Proofs.Agents

open AitpPlayground.Lib
open AitpPlayground.Agents

variable {sdk : Sdk} {py : PyLib} {s : AitpServer} {now : ℚ}

/-! ### The checks -/

/-- A jti that passes the look at the deny-set is in neither part of it. -/
theorem screenJti_ok {jti : Json} (h : s.screenJti jti = .ok ()) {j : String}
    (hj : jti = .str j) (hne : j ≠ "") :
    j ∉ s.revocation.local_ ∧ ∀ snap, s.revocation.snapshot = some snap → j ∉ snap.entries := by
  subst hj
  simp only [AitpServer.screenJti] at h
  split at h
  · cases h
  · rename_i hcond
    have hfree : s.revocation.isRevoked j = false := by simpa [hne] using hcond
    simp only [RevocationState.isRevoked, Bool.or_eq_false_iff, decide_eq_false_iff_not] at hfree
    refine ⟨hfree.1, ?_⟩
    intro snap hsnap
    simpa [hsnap] using hfree.2

/-- The freshness check changes one counter at most. -/
theorem enforceRevocationFreshness_fst (py : PyLib) (s : AitpServer) (now : ℚ) :
    ∃ n, (s.enforceRevocationFreshness py now).1 = { s with degradedServes := n } := by
  unfold AitpServer.enforceRevocationFreshness
  split
  · exact ⟨_, rfl⟩
  · exact ⟨_, rfl⟩
  · exact ⟨_, rfl⟩
  · split
    · exact ⟨_, rfl⟩
    · split
      · exact ⟨_, rfl⟩
      · exact ⟨_, rfl⟩

/-- A posture that is `current` has a snapshot that is neither expired nor stale. -/
theorem posture_current {r : RevocationState} {maxStalenessSecs : Int}
    (h : r.posture true maxStalenessSecs now = .ok .current) :
    ∃ snap, r.snapshot = some snap ∧ now < snap.expiresAt ∧
      now - snap.publishedAt ≤ maxStalenessSecs := by
  simp only [RevocationState.posture, if_true] at h
  split at h
  · cases h
  · rename_i snap hsnap
    split at h
    · cases h
    · rename_i hexp
      refine ⟨snap, hsnap, by simpa [Snapshot.isExpired] using hexp, ?_⟩
      -- `now - published_at` may raise, and then there is no posture.
      simp only [Snapshot.ageSecs] at h
      cases hfloat : (PyNum.int snap.publishedAt).toFloat with
      | error exc =>
        rw [hfloat] at h
        cases h
      | ok x =>
        rw [hfloat] at h
        simp only [Except.map, Except.ok.injEq] at h
        split at h
        · cases h
        · rename_i hstale
          exact not_lt.mp hstale

/-- With a control plane, a posture is never `unchecked`. -/
theorem posture_ne_unchecked (r : RevocationState) (maxStalenessSecs : Int) :
    r.posture true maxStalenessSecs now ≠ .ok .unchecked := by
  simp only [RevocationState.posture, if_true]
  split
  · simp
  · split
    · simp
    · rename_i snap _ _
      cases hage : snap.ageSecs now with
      | error exc => simp [Except.map]
      | ok age =>
        simp only [Except.map, ne_eq, Except.ok.injEq]
        split <;> simp

/-- Under a mode that is not `soft_fail`, the freshness check passes with a current
snapshot. -/
theorem enforceRevocationFreshness_current (hcp : s.cpConfigured = true)
    (hmode : s.revocationFailMode ≠ "soft_fail")
    (h : (s.enforceRevocationFreshness py now).2 = .ok ()) :
    ∃ snap, s.revocation.snapshot = some snap ∧ now < snap.expiresAt ∧
      now - snap.publishedAt ≤ s.revocationMaxStalenessSecs := by
  unfold AitpServer.enforceRevocationFreshness at h
  rw [hcp] at h
  cases hpost : s.revocation.posture true s.revocationMaxStalenessSecs now with
  | error exc =>
    rw [hpost] at h
    cases h
  | ok posture =>
    rw [hpost] at h
    cases posture with
    | unchecked => exact absurd hpost (posture_ne_unchecked _ _)
    | current => exact posture_current hpost
    | degraded =>
      -- The reason may raise. If it does not, the mode fails closed.
      cases hreason : s.revocation.degradedReason s.revocationMaxStalenessSecs now with
      | error exc => simp [hreason] at h
      | ok reason => simp [hreason, hmode] at h

/-- The checks before the proof of possession change one counter at most. -/
theorem precheck_fst (py : PyLib) (s : AitpServer) (now : ℚ) (tctToken : String) :
    ∃ n, (s.precheck py now tctToken).1 = { s with degradedServes := n } := by
  -- The freshness check is the only one that writes.
  obtain ⟨n, hn⟩ := enforceRevocationFreshness_fst py s now
  unfold AitpServer.precheck
  split
  · exact ⟨_, rfl⟩
  · split
    · exact ⟨_, rfl⟩
    · exact ⟨_, rfl⟩
    · split
      · exact ⟨_, rfl⟩
      · split
        · rename_i heq
          rw [heq] at hn
          exact ⟨n, hn⟩
        · rename_i heq
          rw [heq] at hn
          dsimp only
          split
          · exact ⟨n, hn⟩
          · exact ⟨n, hn⟩

/-- A token that is admitted: its claims, with what the checks have established about them. -/
theorem precheck_ok {tctToken : String} (h : (s.precheck py now tctToken).2 = .ok ()) :
    ∃ claims, decodeClaims py tctToken = .ok claims ∧
      s.screenJti ((claims.get? "jti").getD (.str "")) = .ok () ∧
      (s.enforceRevocationFreshness py now).2 = .ok () ∧
      claims.get? "iss" = some (.str s.aid) := by
  obtain ⟨n, hn⟩ := enforceRevocationFreshness_fst py s now
  unfold AitpServer.precheck at h
  split at h
  · cases h
  · split at h
    · cases h
    · cases h
    · rename_i claims hclaims
      split at h
      · cases h
      · rename_i hscreen
        split at h
        · cases h
        · rename_i heq
          rw [heq] at hn
          dsimp only at h hn
          split at h
          · cases h
          · rename_i hiss
            refine ⟨claims, hclaims, hscreen, by rw [heq], ?_⟩
            -- A missing `iss` reads as `None`, which is no AID.
            rw [not_not, hn] at hiss
            cases hget : claims.get? "iss" with
            | none => simp [hget] at hiss
            | some iss => simpa [hget] using hiss

/-! ### The proof of possession -/

/-- A call for a challenge is refused when the table is full, raises what the builder or the
reading of the challenge raises, or records the challenge. -/
theorem issue_spec (py : PyLib) (p : PopChallenges) (now : ℚ)
    (newChallenge : Int → Except PyErr String) :
    (p.maxEntries ≤ (p.prune now).outstanding.size ∧
      ∃ refusal, p.issue py now newChallenge = (p.prune now, .error (.rejected refusal))) ∨
    (∃ exc, p.issue py now newChallenge = (p.prune now, .error (.raised exc))) ∨
    ∃ challenge nonce expiresAt, ¬p.maxEntries ≤ (p.prune now).outstanding.size ∧
      newChallenge p.ttlSecs = .ok challenge ∧
      PopChallenges.entryFor py challenge = .ok (nonce, expiresAt) ∧
      p.issue py now newChallenge =
        ({ p.prune now with
            outstanding := (p.prune now).outstanding.set nonce (challenge, expiresAt) },
          .ok challenge) := by
  unfold PopChallenges.issue
  dsimp only
  split
  · rename_i hfull
    exact .inl ⟨hfull, _, rfl⟩
  · rename_i hroom
    split
    · exact .inr (.inl ⟨_, rfl⟩)
    · rename_i challenge hnew
      split
      · exact .inr (.inl ⟨_, rfl⟩)
      · rename_i nonce expiresAt hentry
        exact .inr (.inr ⟨challenge, nonce, expiresAt, hroom, hnew, hentry, rfl⟩)

/-- A challenge is issued or not. In both cases the expired ones are gone. -/
theorem issue_cases (py : PyLib) (p : PopChallenges) (now : ℚ)
    (newChallenge : Int → Except PyErr String) :
    (∃ exc, p.issue py now newChallenge = (p.prune now, .error exc)) ∨
    ∃ challenge nonce expiresAt, PopChallenges.entryFor py challenge = .ok (nonce, expiresAt) ∧
      p.issue py now newChallenge =
        ({ p.prune now with
            outstanding := (p.prune now).outstanding.set nonce (challenge, expiresAt) },
          .ok challenge) := by
  rcases issue_spec py p now newChallenge with
    ⟨-, refusal, h⟩ | ⟨exc, h⟩ | ⟨challenge, nonce, expiresAt, -, -, hentry, h⟩
  · exact .inl ⟨_, h⟩
  · exact .inl ⟨_, h⟩
  · exact .inr ⟨challenge, nonce, expiresAt, hentry, h⟩

/-- A challenge is consumed or not. When it is, it was outstanding, and it is taken out. -/
theorem consume_cases (py : PyLib) (p : PopChallenges) (now : ℚ) (responseJson : String) :
    (∃ p' exc, p.consume py now responseJson = (p', .error exc) ∧ (p' = p ∨ p' = p.prune now)) ∨
    ∃ nonce challenge expiresAt, PopChallenges.nonceEcho py responseJson = .ok nonce ∧
      (p.prune now).outstanding.get? (.str nonce) = some (challenge, expiresAt) ∧
      p.consume py now responseJson =
        ({ p.prune now with outstanding := (p.prune now).outstanding.erase (.str nonce) },
          .ok challenge) := by
  unfold PopChallenges.consume
  split
  · exact .inl ⟨_, _, rfl, .inl rfl⟩
  · rename_i nonce hecho
    dsimp only
    split
    · exact .inl ⟨_, _, rfl, .inr rfl⟩
    · rename_i entry hget
      exact .inr ⟨nonce, entry.1, entry.2, hecho, hget, rfl⟩

/-- What a look without the expired challenges finds. -/
theorem outstanding_prune {p : PopChallenges} {nonce : PyKey} {challenge : String}
    {expiresAt : PyFloat} :
    (p.prune now).outstanding.get? nonce = some (challenge, expiresAt) ↔
      p.outstanding.get? nonce = some (challenge, expiresAt) ∧ expiresAt.lt (.fin now) = false := by
  simp [PopChallenges.prune, Dict.get?_filter, Option.filter_eq_some_iff]

/-- A challenge that is consumed was outstanding and not expired, and is taken out. -/
theorem consume_ok {p : PopChallenges} {responseJson challenge : String}
    (h : (p.consume py now responseJson).2 = .ok challenge) :
    ∃ nonce expiresAt, PopChallenges.nonceEcho py responseJson = .ok nonce ∧
      p.outstanding.get? (.str nonce) = some (challenge, expiresAt) ∧
      expiresAt.lt (.fin now) = false ∧
      (p.consume py now responseJson).1.outstanding.get? (.str nonce) = none := by
  rcases consume_cases py p now responseJson with
    ⟨p', exc, heq, -⟩ | ⟨nonce, c, expiresAt, hecho, hget, heq⟩
  · rw [heq] at h
    cases h
  · rw [heq] at h ⊢
    cases h
    obtain ⟨hold, hlive⟩ := outstanding_prune.mp hget
    exact ⟨nonce, expiresAt, hecho, hold, hlive, by simp [Dict.get?_erase]⟩

/-- A new challenge changes the challenges only. -/
theorem challengeCaller_fst (sdk : Sdk) (py : PyLib) (s : AitpServer) (now : ℚ)
    (tctToken : String) (salt : Nat) :
    (s.challengeCaller sdk py now tctToken salt).1 =
      { s with popChallenges := (s.popChallenges.issue py now fun ttl =>
          sdk.newPopChallenge s.aid tctToken ttl salt).1 } := by
  unfold AitpServer.challengeCaller
  dsimp only
  split <;> rfl

/-- The look at the response changes the challenges only. -/
theorem consumeResponse_fst (py : PyLib) (s : AitpServer) (now : ℚ) (popResponse : String) :
    ∃ pop, (s.consumeResponse py now popResponse).1 = { s with popChallenges := pop } := by
  unfold AitpServer.consumeResponse
  split
  · split <;> exact ⟨_, rfl⟩
  · dsimp only
    split <;> exact ⟨_, rfl⟩

/-- The challenges after the look at the response. -/
theorem consumeResponse_popChallenges (py : PyLib) (s : AitpServer) (now : ℚ)
    (popResponse : String) :
    (s.consumeResponse py now popResponse).1.popChallenges =
      match decodeHeader py popResponse with
      | .error _ => s.popChallenges
      | .ok responseJson => (s.popChallenges.consume py now responseJson).1 := by
  unfold AitpServer.consumeResponse
  cases decodeHeader py popResponse with
  | error exc => cases exc <;> rfl
  | ok responseJson =>
    dsimp only
    split <;> rfl

/-- A response that is consumed. -/
theorem consumeResponse_ok {popResponse : String} {pop : String × String}
    (h : (s.consumeResponse py now popResponse).2 = .ok pop) :
    decodeHeader py popResponse = .ok pop.2 ∧
      (s.popChallenges.consume py now pop.2).2 = .ok pop.1 := by
  unfold AitpServer.consumeResponse at h
  split at h
  · split at h <;> cases h
  · rename_i responseJson hdecode
    dsimp only at h
    split at h
    · cases h
    · rename_i challenge hconsume
      cases h
      exact ⟨hdecode, hconsume⟩

/-- The verification by the SDK changes two counters at most. -/
theorem verifyBySdk_fst (sdk : Sdk) (s : AitpServer) (tctToken requiredGrant : String)
    (pop : String × String) (salt : Nat) :
    ∃ hits misses, (s.verifyBySdk sdk tctToken requiredGrant pop salt).1 =
      { s with tctCacheHits := hits, tctCacheMisses := misses } := by
  unfold AitpServer.verifyBySdk
  split
  · exact ⟨_, _, rfl⟩
  · split
    · split <;> exact ⟨_, _, rfl⟩
    · exact ⟨_, _, rfl⟩

/-! ### The call -/

/-- A call changes the challenges and three counters at most. -/
theorem verifyCapabilityTct_fst (sdk : Sdk) (py : PyLib) (s : AitpServer) (now : ℚ)
    (tctToken requiredGrant popResponse : String) (salt : Nat) :
    ∃ pop hits misses serves,
      (s.verifyCapabilityTct sdk py now tctToken requiredGrant popResponse salt).1 =
        { s with popChallenges := pop, tctCacheHits := hits, tctCacheMisses := misses
                 degradedServes := serves } := by
  -- The server goes through the checks, the challenges and the SDK, and each has its lemma.
  obtain ⟨n, hpre⟩ := precheck_fst py s now tctToken
  unfold AitpServer.verifyCapabilityTct
  split
  · rename_i heq
    rw [heq] at hpre
    exact ⟨_, _, _, n, hpre⟩
  · rename_i s₁ _ heq
    rw [heq] at hpre
    dsimp only at hpre
    split
    · exact ⟨_, _, _, n, by rw [challengeCaller_fst, hpre]⟩
    · obtain ⟨pop, hconsume⟩ := consumeResponse_fst py s₁ now popResponse
      split
      · rename_i heq'
        rw [heq'] at hconsume
        dsimp only at hconsume
        exact ⟨pop, _, _, n, by rw [hconsume, hpre]⟩
      · rename_i s₂ answered heq'
        rw [heq'] at hconsume
        dsimp only at hconsume
        obtain ⟨hits, misses, hsdk⟩ := verifyBySdk_fst sdk s₂ tctToken requiredGrant answered salt
        exact ⟨pop, hits, misses, n, by rw [hsdk, hconsume, hpre]⟩

/-- The challenges after a call. -/
theorem verifyCapabilityTct_popChallenges (sdk : Sdk) (py : PyLib) (s : AitpServer) (now : ℚ)
    (tctToken requiredGrant popResponse : String) (salt : Nat) :
    (s.verifyCapabilityTct sdk py now tctToken requiredGrant popResponse salt).1.popChallenges =
      match (s.precheck py now tctToken).2 with
      | .error _ => s.popChallenges
      | .ok _ =>
        if popResponse = "" then
          (s.popChallenges.issue py now fun ttl => sdk.newPopChallenge s.aid tctToken ttl salt).1
        else
          match decodeHeader py popResponse with
          | .error _ => s.popChallenges
          | .ok responseJson => (s.popChallenges.consume py now responseJson).1 := by
  obtain ⟨n, hpre⟩ := precheck_fst py s now tctToken
  unfold AitpServer.verifyCapabilityTct
  -- The call is not admitted, or it is with a count of degraded serves.
  split
  · rename_i heq
    rw [heq] at hpre ⊢
    dsimp only at hpre ⊢
    rw [hpre]
  · rename_i s₁ _ heq
    rw [heq] at hpre ⊢
    dsimp only at hpre ⊢
    subst hpre
    split
    · rw [challengeCaller_fst]
    · rw [← consumeResponse_popChallenges py { s with degradedServes := n } now popResponse]
      split
      · rename_i heq'
        rw [heq']
      · rename_i s₂ answered heq'
        obtain ⟨hits, misses, hsdk⟩ := verifyBySdk_fst sdk s₂ tctToken requiredGrant answered salt
        rw [heq', hsdk]

/-- A call that returns an identity was admitted, and consumed the challenge its response
names. -/
theorem verifyCapabilityTct_ok {tctToken requiredGrant popResponse : String} {salt : Nat}
    {identity : TctIdentity}
    (h : (s.verifyCapabilityTct sdk py now tctToken requiredGrant popResponse salt).2 =
      .ok identity) :
    (s.precheck py now tctToken).2 = .ok () ∧ popResponse ≠ "" ∧
      ∃ responseJson challenge, decodeHeader py popResponse = .ok responseJson ∧
        (s.popChallenges.consume py now responseJson).2 = .ok challenge := by
  obtain ⟨n, hpre⟩ := precheck_fst py s now tctToken
  unfold AitpServer.verifyCapabilityTct at h
  split at h
  · cases h
  · rename_i s₁ _ heq
    rw [heq] at hpre
    dsimp only at hpre
    subst hpre
    split at h
    · cases h
    · rename_i hne
      split at h
      · cases h
      · rename_i s₂ answered heq'
        -- What the SDK says comes after the challenge was consumed.
        obtain ⟨hdecode, hconsume⟩ :=
          consumeResponse_ok (s := { s with degradedServes := n }) (by rw [heq'])
        exact ⟨by rw [heq], hne, answered.2, answered.1, hdecode, hconsume⟩

end AitpPlayground.Proofs.Agents
