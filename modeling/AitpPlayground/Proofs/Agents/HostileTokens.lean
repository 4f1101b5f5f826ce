import AitpPlayground.Proofs.Agents.Capability

/-!
# `AitpPlayground.Proofs.Agents.HostileTokens`: the tokens that are not refused but crash

The claims of a token are read before anything is verified, so the sender chooses them, type
included. `verify_capability_tct` turns what it does not like into an `HTTPException` with one
of three statuses (`Answered`), and what it does not catch escapes. `hostile_token_refused_iff`
lists what escapes:

* `json.loads` gives up on a payload that is nested too deeply;
* the `jti` is a list or an object that is not empty, and the look at the deny-set hashes it;
* the publication time of the snapshot in force is too large for a float;
* the SDK makes a challenge whose nonce or expiry cannot be read.

The sender chooses the first two. `_revoked_source_of` catches two classes of exceptions, around
the decoding only, and the same two kinds of tokens escape there.
-/

set_option autoImplicit false

namespace AitpPlayground.Proofs.Agents

open AitpPlayground.Lib
open AitpPlayground.Agents

variable {sdk : Sdk} {py : PyLib} {s : AitpServer} {now : ℚ}
  {tctToken requiredGrant popResponse : String} {salt : Nat}

/-! ### The statement -/

/-- The SDK raises `RuntimeError` or `ValueError` and nothing else. -/
structure RaisesRefusals (sdk : Sdk) : Prop where
  newPopChallenge : ∀ {aid tctToken ttl salt exc},
    sdk.newPopChallenge aid tctToken ttl salt = .error exc →
      ∃ msg code, exc = .runtimeError msg code ∨ exc = .valueError msg code
  verifyTct : ∀ {aid tctToken requiredGrant revokedJtis pop salt exc},
    sdk.verifyTct aid tctToken requiredGrant revokedJtis pop salt = .error exc →
      ∃ msg code, exc = .runtimeError msg code ∨ exc = .valueError msg code

/-- The call returned an identity, or raised an `HTTPException` with one of these statuses. -/
def Answered (result : Except CallExc TctIdentity) : Prop :=
  (∃ identity, result = .ok identity) ∨
    ∃ refusal, result = .error (.http refusal) ∧ refusal.status ∈ [401, 403, 429]

/-- A value that counts as true and has no hash. -/
def Unhashable (x : Json) : Prop := x.truthy = true ∧ ∃ exc, x.hashKey = .error exc

/-- `json.loads` gives up on the payload of the token. -/
def TooDeep (py : PyLib) (token : String) : Prop :=
  ∃ msg, decodeClaims py token = .error (.recursionError msg)

/-- The snapshot in force is not expired, and its publication time is too large for a float. -/
def FreshnessOverflows (s : AitpServer) (now : ℚ) : Prop :=
  s.cpConfigured = true ∧ ∃ snap, s.revocation.snapshot = some snap ∧
    snap.isExpired now = false ∧ floatOverflow ≤ |snap.publishedAt|

/-- Neither a `RuntimeError`, which a `RecursionError` is, nor a `ValueError`. -/
def Uncaught (exc : PyErr) : Prop :=
  (∀ msg code, exc ≠ .runtimeError msg code) ∧ (∀ msg code, exc ≠ .valueError msg code) ∧
    ∀ msg, exc ≠ .recursionError msg

/-- There is room for a challenge, and the SDK makes one that cannot be read. -/
def ChallengeUnreadable (sdk : Sdk) (py : PyLib) (s : AitpServer) (now : ℚ) (tctToken : String)
    (salt : Nat) : Prop :=
  ¬s.popChallenges.maxEntries ≤ (s.popChallenges.prune now).outstanding.size ∧
    ∃ challenge exc,
      sdk.newPopChallenge s.aid tctToken s.popChallenges.ttlSecs salt = .ok challenge ∧
      PopChallenges.entryFor py challenge = .error exc ∧ Uncaught exc

/-- The claim `jti` of a token, as the look at the deny-set reads it. -/
def jtiOf (claims : Dict String Json) : Json := (claims.get? "jti").getD (.str "")

/-- The jti has a hash, and is no text of the deny-set. -/
def NotDenied (s : AitpServer) (jti : Json) : Prop :=
  ¬Unhashable jti ∧ ∀ j, jti = .str j → j ≠ "" → s.revocation.isRevoked j = false

/-- The posture of the agent lets it decide about a token. -/
def FreshEnough (s : AitpServer) (now : ℚ) : Prop :=
  ∃ posture, s.revocation.posture s.cpConfigured s.revocationMaxStalenessSecs now = .ok posture ∧
    (posture = .degraded → s.revocationFailMode = "soft_fail")

/-- The tokens and states that the checks before the proof of possession let through. -/
def Admitted (py : PyLib) (s : AitpServer) (now : ℚ) (tctToken : String) : Prop :=
  tctToken ≠ "" ∧ ∃ claims, decodeClaims py tctToken = .ok claims ∧
    NotDenied s (jtiOf claims) ∧ FreshEnough s now ∧ claims.get? "iss" = some (.str s.aid)

/-- The tokens and states on which the checks before the proof of possession escape. -/
def PrecheckEscapes (py : PyLib) (s : AitpServer) (now : ℚ) (tctToken : String) : Prop :=
  tctToken ≠ "" ∧
    (TooDeep py tctToken ∨ ∃ claims, decodeClaims py tctToken = .ok claims ∧
      (Unhashable (jtiOf claims) ∨
        (NotDenied s (jtiOf claims) ∧ FreshnessOverflows s now)))

/-- The calls that end with an exception that is not caught. -/
def CallEscapes (sdk : Sdk) (py : PyLib) (s : AitpServer) (now : ℚ) (tctToken popResponse : String)
    (salt : Nat) : Prop :=
  PrecheckEscapes py s now tctToken ∨
    (Admitted py s now tctToken ∧ popResponse = "" ∧
      ChallengeUnreadable sdk py s now tctToken salt)

/-- The delegation tokens whose source cannot be told. -/
def SourceEscapes (py : PyLib) (delegationToken : String) : Prop :=
  TooDeep py delegationToken ∨
    ∃ claims, decodeClaims py delegationToken = .ok claims ∧
      ∃ voucher, claims.get? "voucher" = some (.str voucher) ∧
        (TooDeep py voucher ∨ ∃ voucherClaims, decodeClaims py voucher = .ok voucherClaims ∧
          Unhashable ((voucherClaims.get? "src_jti").getD (.str "")))

/-! ### The checks one by one -/

/-- `decode_claims` raises `ValueError`, or `json.loads` gave up. -/
theorem decodeClaims_error (hpy : py.Documented) {token : String} {exc : PyErr}
    (h : decodeClaims py token = .error exc) :
    (∃ msg code, exc = .valueError msg code) ∨ ∃ msg, exc = .recursionError msg := by
  unfold decodeClaims at h
  split at h
  · rename_i first payload last hparts
    have hread : ∀ e, (py.urlsafeB64decode (padded payload)).bind py.jsonLoadsBytes = .error e →
        (∃ msg code, e = .valueError msg code) ∨ ∃ msg, e = .recursionError msg := fun _ =>
      except_bind_raises (fun _ hraw => .inl (hpy.urlsafeB64decode hraw)) fun _ _ hload =>
        hpy.jsonLoadsBytes hload
    cases hbytes : (py.urlsafeB64decode (padded payload)).bind py.jsonLoadsBytes with
    | error e =>
      rw [hbytes] at h
      rcases hread e hbytes with ⟨msg, code, rfl⟩ | ⟨msg, rfl⟩
      · cases h
        exact .inl ⟨_, _, rfl⟩
      · cases h
        exact .inr ⟨_, rfl⟩
    | ok claims =>
      rw [hbytes] at h
      simp only at h
      split at h
      · cases h
        exact .inl ⟨_, _, rfl⟩
      · cases h
  · cases h
    exact .inl ⟨_, _, rfl⟩

/-- The look at the deny-set raises on a value without a hash only. -/
theorem screenJti_raises_iff {jti : Json} :
    (∃ exc, s.screenJti jti = .error (.raised exc)) ↔ Unhashable jti := by
  unfold AitpServer.screenJti Unhashable
  cases jti with
  | str j =>
    simp only [Json.hashKey]
    split <;> simp [forbidden]
  | arr items =>
    simp only [Json.hashKey]
    split <;> simp_all
  | obj members =>
    simp only [Json.hashKey]
    split <;> simp_all
  | null | bool _ | num _ => simp [Json.hashKey]

/-- The look at the deny-set passes. -/
theorem screenJti_ok_iff {jti : Json} : s.screenJti jti = .ok () ↔ NotDenied s jti := by
  unfold NotDenied
  rw [← screenJti_raises_iff (s := s)]
  unfold AitpServer.screenJti
  cases jti with
  | str j =>
    simp only
    split
    · rename_i hdenied
      simp [hdenied]
    · rename_i hpass
      simpa [forbidden] using hpass
  | arr items | obj members =>
    simp only
    split <;> simp
  | null | bool _ | num _ => simp

/-- The age of a snapshot is an error when its publication time does not convert. -/
theorem ageSecs_raises_iff (now : ℚ) {snap : Snapshot} :
    (∃ exc, snap.ageSecs now = .error exc) ↔ floatOverflow ≤ |snap.publishedAt| := by
  have hraises := @PyNum.toFloat_raises_iff (.int snap.publishedAt) .fin
  simp only [PyNum.int.injEq, exists_eq_left'] at hraises
  rw [← hraises]
  unfold Snapshot.ageSecs
  cases (PyNum.int snap.publishedAt).toFloat <;> simp [Except.map]

/-- The age is not looked at when the snapshot is expired. -/
theorem posture_raises_iff (r : RevocationState) (canVerify : Bool) (maxStalenessSecs : Int)
    (now : ℚ) :
    (∃ exc, r.posture canVerify maxStalenessSecs now = .error exc) ↔
      canVerify = true ∧ ∃ snap, r.snapshot = some snap ∧ snap.isExpired now = false ∧
        floatOverflow ≤ |snap.publishedAt| := by
  unfold RevocationState.posture
  cases canVerify with
  | false => simp
  | true =>
    cases hsnap : r.snapshot with
    | none => simp
    | some snap =>
      simp only [if_true, true_and, Option.some.injEq, exists_eq_left',
        ← ageSecs_raises_iff now]
      cases snap.isExpired now with
      | true => simp
      | false => cases snap.ageSecs now <;> simp [Except.map]

/-- Only a publication time that is no float raises. -/
theorem degradedReason_raises {r : RevocationState} {maxStalenessSecs : Int} {exc : PyErr}
    (h : r.degradedReason maxStalenessSecs now = .error exc) :
    ∃ snap, r.snapshot = some snap ∧ snap.isExpired now = false ∧
      floatOverflow ≤ |snap.publishedAt| := by
  unfold RevocationState.degradedReason at h
  cases hsnap : r.snapshot with
  | none => simp [hsnap] at h
  | some snap =>
    simp only [hsnap] at h
    cases hexp : snap.isExpired now with
    | true => simp [hexp] at h
    | false =>
      refine ⟨snap, rfl, hexp, (ageSecs_raises_iff now).mp ?_⟩
      cases hage : snap.ageSecs now with
      | error e => exact ⟨e, rfl⟩
      | ok age => simp [hexp, hage, Except.map] at h

/-- Where there is a posture, there is a reason for it. -/
theorem degradedReason_of_posture {posture : Posture} {exc : PyErr}
    (h : s.revocation.posture s.cpConfigured s.revocationMaxStalenessSecs now = .ok posture)
    (hposture : posture = .degraded) :
    s.revocation.degradedReason s.revocationMaxStalenessSecs now ≠ .error exc := by
  intro hreason
  have hcp : s.cpConfigured = true := by
    cases hcp : s.cpConfigured with
    | true => rfl
    | false =>
      subst hposture
      simp [RevocationState.posture, hcp] at h
  obtain ⟨exc', hraises⟩ := (posture_raises_iff _ _ _ _).mpr ⟨hcp, degradedReason_raises hreason⟩
  rw [hraises] at h
  cases h

/-- The freshness check raises when the subtraction does. -/
theorem enforceRevocationFreshness_raises_iff (py : PyLib) :
    (∃ exc, (s.enforceRevocationFreshness py now).2 = .error (.raised exc)) ↔
      FreshnessOverflows s now := by
  have hraises := posture_raises_iff s.revocation s.cpConfigured
    s.revocationMaxStalenessSecs now
  unfold FreshnessOverflows
  rw [← hraises]
  unfold AitpServer.enforceRevocationFreshness
  cases hposture : s.revocation.posture s.cpConfigured s.revocationMaxStalenessSecs now with
  | error exc => simp
  | ok posture =>
    cases posture with
    | unchecked | current => simp
    | degraded =>
      simp only
      cases hreason : s.revocation.degradedReason s.revocationMaxStalenessSecs now with
      | ok reason =>
        simp only
        split <;> simp [forbidden]
      | error exc =>
        exact absurd hreason (degradedReason_of_posture hposture rfl)

/-- The freshness check passes. -/
theorem enforceRevocationFreshness_ok_iff :
    (s.enforceRevocationFreshness py now).2 = .ok () ↔ FreshEnough s now := by
  unfold AitpServer.enforceRevocationFreshness FreshEnough
  cases hposture : s.revocation.posture s.cpConfigured s.revocationMaxStalenessSecs now with
  | error exc => simp
  | ok posture =>
    cases posture with
    | unchecked | current => simp
    | degraded =>
      simp only [Except.ok.injEq, exists_eq_left', forall_const]
      cases hreason : s.revocation.degradedReason s.revocationMaxStalenessSecs now with
      | ok reason =>
        simp only
        split <;> simp_all
      | error exc =>
        exact absurd hreason (degradedReason_of_posture hposture rfl)

/-- The checks before the proof of possession raise on these tokens and states only. -/
theorem precheck_raises_iff (hpy : py.Documented) (s : AitpServer) (now : ℚ)
    (tctToken : String) :
    (∃ exc, (s.precheck py now tctToken).2 = .error (.raised exc)) ↔
      PrecheckEscapes py s now tctToken := by
  unfold AitpServer.precheck PrecheckEscapes TooDeep
  by_cases hempty : tctToken = ""
  · simp [hempty, forbidden]
  · rw [if_neg hempty]
    cases hclaims : decodeClaims py tctToken with
    | error exc =>
      rcases decodeClaims_error hpy hclaims with ⟨msg, code, rfl⟩ | ⟨msg, rfl⟩
      · simp [forbidden]
      · simp [hempty]
    | ok claims =>
      have hjti : (claims.get? "jti").getD (.str "") = jtiOf claims := rfl
      simp only [hjti, hempty, ne_eq, not_false_eq_true, true_and, reduceCtorEq, exists_false,
        false_or, Except.ok.injEq, exists_eq_left']
      rw [← screenJti_raises_iff (s := s), ← screenJti_ok_iff]
      cases hscreen : s.screenJti (jtiOf claims) with
      | error exc => simp
      | ok u =>
        rw [← enforceRevocationFreshness_raises_iff py]
        simp only [reduceCtorEq, exists_false, false_or, true_and]
        cases hfresh : s.enforceRevocationFreshness py now with
        | mk s₁ result =>
          cases result with
          | error exc => simp
          | ok u =>
            simp only
            split <;> simp [forbidden]

/-- The checks before the proof of possession pass. -/
theorem precheck_ok_iff :
    (s.precheck py now tctToken).2 = .ok () ↔ Admitted py s now tctToken := by
  unfold Admitted
  constructor
  · intro h
    obtain ⟨claims, hclaims, hscreen, hfresh, hiss⟩ := precheck_ok h
    refine ⟨?_, claims, hclaims, screenJti_ok_iff.mp hscreen,
      enforceRevocationFreshness_ok_iff.mp hfresh, hiss⟩
    rintro rfl
    simp [AitpServer.precheck] at h
  · rintro ⟨hne, claims, hclaims, hjti, hfresh, hiss⟩
    have hscreen : s.screenJti ((claims.get? "jti").getD (.str "")) = .ok () :=
      screenJti_ok_iff.mpr hjti
    obtain ⟨n, hsame⟩ := enforceRevocationFreshness_fst py s now
    have hpair : s.enforceRevocationFreshness py now = ({ s with degradedServes := n }, .ok ()) :=
      Prod.ext hsame (enforceRevocationFreshness_ok_iff.mpr hfresh)
    unfold AitpServer.precheck
    simp [hne, hclaims, hscreen, hpair, hiss]

/-- What the handler of a step of the exchange does not catch. -/
theorem popRefusal_raises_iff (exc : PyErr) :
    (∃ exc', AitpServer.popRefusal (.raised exc) = .raised exc') ↔ Uncaught exc := by
  unfold Uncaught
  cases exc <;> simp [AitpServer.popRefusal, forbidden]

/-- A refusal of the exchange keeps its status. -/
theorem popRefusal_rejected (r : PopRejected) :
    ∃ refusal, AitpServer.popRefusal (.rejected r) = .http refusal ∧ refusal.status = r.status := by
  cases hcode : r.code with
  | none =>
    simp only [AitpServer.popRefusal, hcode]
    exact ⟨_, rfl, rfl⟩
  | some code =>
    simp only [AitpServer.popRefusal, hcode]
    exact ⟨_, rfl, rfl⟩

/-- The 401 with a new challenge is raised, unless the challenge cannot be read. -/
theorem challengeCaller_raises_iff (hsdk : RaisesRefusals sdk) (py : PyLib) (s : AitpServer)
    (now : ℚ) (tctToken : String) (salt : Nat) :
    (∃ exc, (s.challengeCaller sdk py now tctToken salt).2 = .raised exc) ↔
      ChallengeUnreadable sdk py s now tctToken salt := by
  unfold AitpServer.challengeCaller PopChallenges.issue ChallengeUnreadable
  have hsame : (s.popChallenges.prune now).maxEntries = s.popChallenges.maxEntries := rfl
  have httl : (s.popChallenges.prune now).ttlSecs = s.popChallenges.ttlSecs := rfl
  simp only [hsame, httl]
  by_cases hfull : s.popChallenges.maxEntries ≤ (s.popChallenges.prune now).outstanding.size
  · simp [hfull, AitpServer.popRefusal]
  · simp only [hfull, if_false, not_false_eq_true, true_and]
    cases hnew : sdk.newPopChallenge s.aid tctToken s.popChallenges.ttlSecs salt with
    | error exc =>
      obtain ⟨msg, code, rfl | rfl⟩ := hsdk.newPopChallenge hnew
      · simp [AitpServer.popRefusal, forbidden]
      · simp [AitpServer.popRefusal, forbidden]
    | ok challenge =>
      cases hentry : PopChallenges.entryFor py challenge with
      | error exc =>
        simp only [hentry, Except.ok.injEq]
        refine (popRefusal_raises_iff exc).trans
          ⟨fun h => ⟨challenge, exc, rfl, hentry, h⟩, ?_⟩
        rintro ⟨_, exc', rfl, hentry', h⟩
        cases hentry.symm.trans hentry'
        exact h
      | ok entry =>
        simp only [hentry, Except.ok.injEq]
        constructor
        · rintro ⟨exc, h⟩
          cases h
        · rintro ⟨_, exc, rfl, hentry', -⟩
          cases hentry.symm.trans hentry'

/-- A response that names no nonce is refused with a 403, unless `json.loads` gives up on it. -/
theorem nonceEcho_error (hpy : py.Documented) {responseJson : String} {exc : PopExc}
    (h : PopChallenges.nonceEcho py responseJson = .error exc) :
    (∃ refusal, exc = .rejected refusal ∧ refusal.status = 403) ∨
      ∃ msg, exc = .raised (.recursionError msg) := by
  unfold PopChallenges.nonceEcho at h
  cases hload : py.jsonLoads responseJson with
  | error e =>
    rw [hload] at h
    rcases hpy.jsonLoads hload with ⟨msg, code, rfl⟩ | ⟨msg, rfl⟩
    · cases h
      exact .inl ⟨_, rfl, rfl⟩
    · cases h
      exact .inr ⟨msg, rfl⟩
  | ok response =>
    rw [hload] at h
    simp only at h
    split at h
    · split at h
      · cases h
        exact .inl ⟨_, rfl, rfl⟩
      · cases h
    · cases h
      exact .inl ⟨_, rfl, rfl⟩

/-- A response that names no outstanding challenge is refused with a 403 as well. -/
theorem consume_error (hpy : py.Documented) {p : PopChallenges} {responseJson : String}
    {exc : PopExc} (h : (p.consume py now responseJson).2 = .error exc) :
    (∃ refusal, exc = .rejected refusal ∧ refusal.status = 403) ∨
      ∃ msg, exc = .raised (.recursionError msg) := by
  unfold PopChallenges.consume at h
  cases hnonce : PopChallenges.nonceEcho py responseJson with
  | error e =>
    rw [hnonce] at h
    cases h
    exact nonceEcho_error hpy hnonce
  | ok nonce =>
    rw [hnonce] at h
    simp only at h
    split at h
    · cases h
      exact .inl ⟨_, rfl, rfl⟩
    · cases h

/-- A header that does not decode is a `ValueError`. -/
theorem decodeHeader_error (hpy : py.Documented) {value : String} {exc : PyErr}
    (h : decodeHeader py value = .error exc) : ∃ msg code, exc = .valueError msg code := by
  unfold decodeHeader at h
  cases hraw : py.urlsafeB64decode (padded value) with
  | error e =>
    obtain ⟨msg, code, rfl⟩ := hpy.urlsafeB64decode hraw
    rw [hraw] at h
    cases h
    exact ⟨_, _, rfl⟩
  | ok raw =>
    rw [hraw] at h
    simp only at h
    cases htext : py.utf8Decode raw with
    | error e =>
      obtain ⟨msg, code, rfl⟩ := hpy.utf8Decode htext
      rw [htext] at h
      cases h
      exact ⟨_, _, rfl⟩
    | ok text =>
      rw [htext] at h
      cases h

/-- The look at the response refuses with a 403. -/
theorem consumeResponse_error (hpy : py.Documented) {exc : CallExc}
    (h : (s.consumeResponse py now popResponse).2 = .error exc) :
    ∃ refusal, exc = .http refusal ∧ refusal.status = 403 := by
  unfold AitpServer.consumeResponse at h
  cases hdecode : decodeHeader py popResponse with
  | error e =>
    obtain ⟨msg, code, rfl⟩ := decodeHeader_error hpy hdecode
    rw [hdecode] at h
    cases h
    exact ⟨_, rfl, rfl⟩
  | ok responseJson =>
    rw [hdecode] at h
    simp only at h
    cases hconsume : (s.popChallenges.consume py now responseJson).2 with
    | ok challenge =>
      rw [hconsume] at h
      cases h
    | error e =>
      rw [hconsume] at h
      cases h
      rcases consume_error hpy hconsume with ⟨refusal, rfl, hstatus⟩ | ⟨msg, rfl⟩
      · obtain ⟨r, hr, heq⟩ := popRefusal_rejected refusal
        exact ⟨r, hr, heq.trans hstatus⟩
      · exact ⟨_, rfl, rfl⟩

/-- What the SDK raises becomes a 403. -/
theorem sdkRefusal_status {exc : PyErr}
    (h : ∃ msg code, exc = .runtimeError msg code ∨ exc = .valueError msg code) :
    ∃ refusal, AitpServer.sdkRefusal exc = .http refusal ∧ refusal.status = 403 := by
  obtain ⟨msg, code, rfl | rfl⟩ := h
  all_goals
    cases code with
    | none => exact ⟨_, rfl, rfl⟩
    | some c =>
      simp only [AitpServer.sdkRefusal]
      split <;> exact ⟨_, rfl, rfl⟩

/-- What the SDK refuses is a 403. -/
theorem verifyBySdk_error (hsdk : RaisesRefusals sdk) {pop : String × String} {exc : CallExc}
    (h : (s.verifyBySdk sdk tctToken requiredGrant pop salt).2 = .error exc) :
    ∃ refusal, exc = .http refusal ∧ refusal.status = 403 := by
  unfold AitpServer.verifyBySdk at h
  cases hverify : sdk.verifyTct s.aid tctToken requiredGrant s.revocation.effectiveJtis pop
      salt with
  | ok answer =>
    rw [hverify] at h
    simp only at h
    split at h
    · split at h <;> cases h
    · cases h
  | error e =>
    rw [hverify] at h
    cases h
    exact sdkRefusal_status (hsdk.verifyTct hverify)

/-- The look at the deny-set refuses with a 403. -/
theorem screenJti_status {jti : Json} {refusal : HttpError}
    (h : s.screenJti jti = .error (.http refusal)) : refusal.status = 403 := by
  unfold AitpServer.screenJti at h
  cases jti with
  | str j =>
    simp only at h
    split at h <;> cases h
    rfl
  | arr _ | obj _ =>
    simp only at h
    split at h <;> cases h
  | null | bool _ | num _ => cases h

/-- The freshness check refuses with a 403. -/
theorem enforceRevocationFreshness_status {refusal : HttpError}
    (h : (s.enforceRevocationFreshness py now).2 = .error (.http refusal)) :
    refusal.status = 403 := by
  unfold AitpServer.enforceRevocationFreshness at h
  split at h
  · cases h
  · cases h
  · cases h
  · split at h
    · cases h
    · split at h <;> cases h
      rfl

/-- The checks before the proof of possession refuse with a 403. -/
theorem precheck_status {refusal : HttpError}
    (h : (s.precheck py now tctToken).2 = .error (.http refusal)) : refusal.status = 403 := by
  unfold AitpServer.precheck at h
  split at h
  · cases h
    rfl
  · split at h
    · cases h
      rfl
    · cases h
    · split at h
      · rename_i exc hexc
        cases h
        exact screenJti_status hexc
      · split at h
        · rename_i s₁ exc heq
          cases h
          exact enforceRevocationFreshness_status (by rw [heq])
        · simp only at h
          split at h <;> cases h
          rfl

/-- A call for a challenge is answered with a 401, or refused with a 403 or a 429. -/
theorem challengeCaller_status {refusal : HttpError}
    (h : (s.challengeCaller sdk py now tctToken salt).2 = .http refusal) :
    refusal.status ∈ [401, 403, 429] := by
  have hraised : ∀ {exc}, AitpServer.popRefusal (.raised exc) = .http refusal →
      refusal.status = 403 := by
    intro exc h
    cases exc <;> cases h <;> rfl
  unfold AitpServer.challengeCaller at h
  simp only at h
  split at h
  · rename_i exc hissue
    simp only at h
    unfold PopChallenges.issue at hissue
    simp only at hissue
    split at hissue
    · cases hissue
      cases h
      simp
    · split at hissue
      · cases hissue
        simp [hraised h]
      · split at hissue
        · cases hissue
          simp [hraised h]
        · cases hissue
  · cases h
    simp

/-! ### The calls -/

/-- The result of a call after the checks. -/
theorem verifyCapabilityTct_snd {n : Nat}
    (hcheck : s.precheck py now tctToken = ({ s with degradedServes := n }, .ok ())) :
    (s.verifyCapabilityTct sdk py now tctToken requiredGrant popResponse salt).2 =
      if popResponse = "" then
        .error (AitpServer.challengeCaller sdk py { s with degradedServes := n } now tctToken
          salt).2
      else
        (AitpServer.consumeResponse py { s with degradedServes := n } now popResponse).2 >>=
          fun pop => (AitpServer.verifyBySdk sdk
            (AitpServer.consumeResponse py { s with degradedServes := n } now popResponse).1
            tctToken requiredGrant pop salt).2 := by
  unfold AitpServer.verifyCapabilityTct
  rw [hcheck]
  simp only
  split
  · rfl
  · cases AitpServer.consumeResponse py { s with degradedServes := n } now popResponse with
    | mk s₂ result => cases result <;> rfl

/-- The result of a call that the checks refuse. -/
theorem verifyCapabilityTct_of_precheck_error {exc : CallExc}
    (h : (s.precheck py now tctToken).2 = .error exc) :
    (s.verifyCapabilityTct sdk py now tctToken requiredGrant popResponse salt).2 =
      .error exc := by
  unfold AitpServer.verifyCapabilityTct
  cases hcheck : s.precheck py now tctToken with
  | mk s₁ result =>
    rw [hcheck] at h
    simp only at h
    subst h
    rfl

/-- What a call with a response raises is a 403. -/
theorem answered_response (hpy : py.Documented) (hsdk : RaisesRefusals sdk) {exc : CallExc}
    (h : ((s.consumeResponse py now popResponse).2 >>= fun pop =>
      ((s.consumeResponse py now popResponse).1.verifyBySdk sdk tctToken requiredGrant pop
        salt).2) = .error exc) : ∃ refusal, exc = .http refusal ∧ refusal.status = 403 := by
  cases hconsume : (s.consumeResponse py now popResponse).2 with
  | error e =>
    rw [hconsume] at h
    cases h
    exact consumeResponse_error hpy hconsume
  | ok pop =>
    rw [hconsume] at h
    exact verifyBySdk_error hsdk h

/-- A call escapes on these inputs and states only, and what it raises besides is an
`HTTPException` with one of three statuses. -/
theorem verifyCapabilityTct_answered_iff (hpy : py.Documented) (hsdk : RaisesRefusals sdk) :
    Answered (s.verifyCapabilityTct sdk py now tctToken requiredGrant popResponse salt).2 ↔
      ¬CallEscapes sdk py s now tctToken popResponse salt := by
  have hpre := precheck_raises_iff hpy s now tctToken
  obtain ⟨n, hsame⟩ := precheck_fst py s now tctToken
  unfold CallEscapes
  rw [← hpre, ← precheck_ok_iff]
  cases hresult : (s.precheck py now tctToken).2 with
  | error exc =>
    rw [verifyCapabilityTct_of_precheck_error hresult]
    cases exc with
    | http refusal => simp [Answered, precheck_status hresult]
    | raised exc => simp [Answered]
  | ok u =>
    rw [verifyCapabilityTct_snd (Prod.ext hsame hresult)]
    by_cases hpop : popResponse = ""
    · have hcaller := challengeCaller_raises_iff hsdk py { s with degradedServes := n } now
        tctToken salt
      have hsame' : ChallengeUnreadable sdk py { s with degradedServes := n } now tctToken salt ↔
          ChallengeUnreadable sdk py s now tctToken salt := Iff.rfl
      rw [if_pos hpop, ← hsame', ← hcaller]
      cases hexc : (AitpServer.challengeCaller sdk py { s with degradedServes := n } now tctToken
          salt).2 with
      | http refusal => simpa [Answered] using challengeCaller_status hexc
      | raised exc => simp [Answered, hpop]
    · rw [if_neg hpop]
      cases hexc : (AitpServer.consumeResponse py { s with degradedServes := n } now
          popResponse).2 >>= fun pop => (AitpServer.verifyBySdk sdk
            (AitpServer.consumeResponse py { s with degradedServes := n } now popResponse).1
            tctToken requiredGrant pop salt).2 with
      | ok identity => simp [Answered, hpop]
      | error exc =>
        obtain ⟨refusal, rfl, hstatus⟩ := answered_response hpy hsdk hexc
        simp [Answered, hstatus, hpop]

/-! ### The refusal of a redemption -/

/-- `decode_claims` on a voucher that is no text is one of the errors that are caught. -/
theorem decodeVoucher_error (hpy : py.Documented) {voucher : Json} {exc : PyErr}
    (h : AitpServer.decodeVoucher py voucher = .error exc) :
    ((∃ msg code, exc = .valueError msg code) ∨ ∃ msg, exc = .attributeError msg) ∨
      ∃ msg, exc = .recursionError msg := by
  cases voucher with
  | str token =>
    rcases decodeClaims_error hpy h with ⟨msg, code, rfl⟩ | ⟨msg, rfl⟩
    · exact .inl (.inl ⟨msg, code, rfl⟩)
    · exact .inr ⟨msg, rfl⟩
  | null | bool _ | num _ | arr _ | obj _ =>
    cases h
    exact .inl (.inr ⟨_, rfl⟩)

/-- The source of a deny is told unless `json.loads` gave up, or the `src_jti` has no hash. -/
theorem revokedSourceOf_raises {token : String} :
    (∃ exc, s.revokedSourceOf py token = .error exc) ↔
      (∃ exc, AitpServer.sourceJti py token = .error exc ∧
        (∀ msg code, exc ≠ .valueError msg code) ∧ ∀ msg, exc ≠ .attributeError msg) ∨
      ∃ srcJti, AitpServer.sourceJti py token = .ok srcJti ∧ Unhashable srcJti := by
  unfold AitpServer.revokedSourceOf
  cases hsource : AitpServer.sourceJti py token with
  | error exc => cases exc <;> simp
  | ok srcJti =>
    simp only [reduceCtorEq, false_and, exists_false, Except.ok.injEq, exists_eq_left', false_or]
    unfold Unhashable
    cases srcJti with
    | str j =>
      simp only [Json.hashKey]
      split
      · split <;> simp
      · simp
    | arr items | obj members =>
      simp only [Json.hashKey]
      split <;> simp_all
    | null | bool _ | num _ => simp [Json.hashKey]

/-- A voucher decodes, or is too deep, only if the claim is there and is a text. -/
theorem decodeVoucher_eq_iff (py : PyLib) (claims : Dict String Json)
    {r : Except PyErr (Dict String Json)}
    (hvalue : ∀ msg code, r ≠ .error (.valueError msg code))
    (hattr : ∀ msg, r ≠ .error (.attributeError msg)) :
    AitpServer.decodeVoucher py ((claims.get? "voucher").getD (.str "")) = r ↔
      ∃ voucher, claims.get? "voucher" = some (.str voucher) ∧ decodeClaims py voucher = r := by
  cases hget : claims.get? "voucher" with
  | none =>
    -- The default is the empty text, which is no JWS.
    have hempty : AitpServer.decodeVoucher py (.str "") =
        .error (.valueError "not a compact JWS: 1 segment(s)" none) := rfl
    rw [Option.getD_none, hempty]
    constructor
    · intro h
      exact absurd h.symm (hvalue _ _)
    · rintro ⟨voucher, h, -⟩
      cases h
  | some x =>
    rw [Option.getD_some]
    cases x with
    | str voucher => simp [AitpServer.decodeVoucher]
    | null | bool _ | num _ | arr _ | obj _ =>
      constructor
      · intro h
        exact absurd h.symm (hattr _)
      · rintro ⟨voucher, h, -⟩
        cases h

/-- The source of a deny is not told for these tokens only. -/
theorem revokedSourceOf_raises_iff (hpy : py.Documented) {token : String} :
    (∃ exc, s.revokedSourceOf py token = .error exc) ↔ SourceEscapes py token := by
  rw [revokedSourceOf_raises]
  unfold SourceEscapes TooDeep AitpServer.sourceJti
  cases hclaims : decodeClaims py token with
  | error exc =>
    rcases decodeClaims_error hpy hclaims with ⟨msg, code, rfl⟩ | ⟨msg, rfl⟩ <;>
      simp [bind, Except.bind]
  | ok claims =>
    have hdeep := fun msg => decodeVoucher_eq_iff py claims
      (r := .error (.recursionError msg)) (by simp) (by simp)
    have hread := fun d => decodeVoucher_eq_iff py claims
      (r := .ok d) (by simp) (by simp)
    simp only [bind, Except.bind, pure, Except.pure, reduceCtorEq, exists_false, false_or,
      Except.ok.injEq, exists_eq_left']
    constructor
    · rintro (⟨exc, hsource, hvalue, hattr⟩ | ⟨srcJti, hsource, hhash⟩)
      · cases hvoucher : AitpServer.decodeVoucher py ((claims.get? "voucher").getD (.str "")) with
        | error e =>
          rw [hvoucher] at hsource
          cases hsource
          rcases decodeVoucher_error hpy hvoucher with (⟨msg, code, rfl⟩ | ⟨msg, rfl⟩) | ⟨msg, rfl⟩
          · exact absurd rfl (hvalue msg code)
          · exact absurd rfl (hattr msg)
          · obtain ⟨voucher, hget, htoken⟩ := (hdeep msg).mp hvoucher
            exact ⟨voucher, hget, .inl ⟨msg, htoken⟩⟩
        | ok voucherClaims =>
          rw [hvoucher] at hsource
          cases hsource
      · cases hvoucher : AitpServer.decodeVoucher py ((claims.get? "voucher").getD (.str "")) with
        | error e =>
          rw [hvoucher] at hsource
          cases hsource
        | ok voucherClaims =>
          rw [hvoucher] at hsource
          cases hsource
          obtain ⟨voucher, hget, htoken⟩ := (hread voucherClaims).mp hvoucher
          exact ⟨voucher, hget, .inr ⟨voucherClaims, htoken, hhash⟩⟩
    · rintro ⟨voucher, hget, ⟨msg, htoken⟩ | ⟨voucherClaims, htoken, hhash⟩⟩
      · left
        rw [(hdeep msg).mpr ⟨voucher, hget, htoken⟩]
        exact ⟨_, rfl, by simp, by simp⟩
      · right
        rw [(hread voucherClaims).mpr ⟨voucher, hget, htoken⟩]
        exact ⟨_, rfl, hhash⟩

/-! ### Any token -/

/-- For every token, grant, response and state, a capability call returns an identity or raises
an `HTTPException` with status 401, 403 or 429, if and only if none of the four escapes is
taken. For every delegation token, the source of the deny is told if and only if neither of the
two decodings gives up and the `src_jti` has a hash or counts as false. -/
theorem hostile_token_refused_iff (hpy : py.Documented) (hsdk : RaisesRefusals sdk)
    (s : AitpServer) (now : ℚ) (tctToken requiredGrant popResponse : String) (salt : Nat)
    (delegationToken : String) :
    (Answered (s.verifyCapabilityTct sdk py now tctToken requiredGrant popResponse salt).2 ↔
      ¬CallEscapes sdk py s now tctToken popResponse salt) ∧
    ((∃ source, s.revokedSourceOf py delegationToken = .ok source) ↔
      ¬SourceEscapes py delegationToken) := by
  refine ⟨verifyCapabilityTct_answered_iff hpy hsdk, ?_⟩
  rw [← revokedSourceOf_raises_iff (s := s) hpy]
  cases s.revokedSourceOf py delegationToken <;> simp

/-! ### Concrete tokens -/

/-- The payloads of three tokens: a `jti` and a `src_jti` that are lists, and a voucher. Each
has its base64url form and its value. -/
def hostileTexts : List (String × String × Json) :=
  [("eyJpc3MiOiJhIiwianRpIjpbIngiXX0=", "\x7b\"iss\":\"a\",\"jti\":[\"x\"]\x7d",
    .obj [("iss", .str "a"), ("jti", .arr [.str "x"])]),
   ("eyJzcmNfanRpIjpbIngiXX0=", "\x7b\"src_jti\":[\"x\"]\x7d",
    .obj [("src_jti", .arr [.str "x"])]),
   ("eyJ2b3VjaGVyIjoiZXlKaGJHY2lPaUpGWkVSVFFTSjkuZXlKemNtTmZhblJwSWpwYkluZ2lYWDAuYzJsbiJ9",
    "\x7b\"voucher\":\"eyJhbGciOiJFZERTQSJ9.eyJzcmNfanRpIjpbIngiXX0.c2ln\"\x7d",
    .obj [("voucher", .str "eyJhbGciOiJFZERTQSJ9.eyJzcmNfanRpIjpbIngiXX0.c2ln")])]

/-- The library of the concrete calls, which decodes and reads these payloads too. -/
def hostileLib : PyLib :=
  { callLib with
      jsonLoadsBytes := fun raw =>
        match hostileTexts.find? fun e => decide (e.2.1.toUTF8.toList = raw) with
        | some e => .ok e.2.2
        | none => callLib.jsonLoadsBytes raw
      urlsafeB64decode := fun text =>
        match hostileTexts.find? fun e => decide (e.1 = text) with
        | some e => .ok e.2.1.toUTF8.toList
        | none => callLib.urlsafeB64decode text }

/-- The library of the concrete runs raises what is documented. -/
theorem hostileLib_documented : hostileLib.Documented where
  uuidStr := by
    intro s exc h
    cases h
  intOfStr := by
    intro s exc h
    cases h
    exact ⟨_, _, rfl⟩
  jsonLoads := by
    intro s exc h
    simp only [hostileLib, callLib, agentLib, PyLib.reading, PyLib.refusing] at h
    split at h
    · cases h
    · split at h <;> cases h
      exact .inl ⟨_, _, rfl⟩
  jsonLoadsBytes := by
    intro raw exc h
    simp only [hostileLib, callLib] at h
    split at h
    · cases h
    · split at h <;> cases h
      exact .inl ⟨_, _, rfl⟩
  urlsafeB64decode := by
    intro s exc h
    simp only [hostileLib, callLib] at h
    split at h
    · cases h
    · split at h <;> cases h
      exact ⟨_, _, rfl⟩
  utf8Decode := by
    intro raw exc h
    simp only [hostileLib, callLib] at h
    split at h <;> cases h
    exact ⟨_, _, rfl⟩

/-- Its SDK raises refusals only. -/
theorem callSdk_raisesRefusals : RaisesRefusals callSdk where
  newPopChallenge := by
    intro _ _ _ _ _ h
    cases h
  verifyTct := by
    intro _ _ _ _ pop _ _ h
    simp only [callSdk] at h
    split at h <;> cases h
    exact ⟨_, _, .inl rfl⟩

/-- The agent `a` without a control plane. -/
def aloneServer : AitpServer :=
  { newAgent.server with
      issuedRevocations := { newAgent.server.issuedRevocations with cpBaseUrl := none } }

/-- A call with a token that the agent issued gets a challenge, and a token that is no
delegation has no source. -/
theorem hostile_token_refused_iff_challenged :
    Answered (aloneServer.verifyCapabilityTct callSdk hostileLib 0 callToken "read" "" 0).2 ∧
      ∃ source, aloneServer.revokedSourceOf hostileLib callToken = .ok source := by
  obtain ⟨hcall, hsource⟩ := hostile_token_refused_iff hostileLib_documented
    callSdk_raisesRefusals aloneServer 0 callToken "read" "" 0 callToken
  have hclaims : decodeClaims hostileLib callToken =
      .ok (Dict.ofList [("iss", .str "a"),
        ("jti", .str "9b1d6a52-3c77-4e0b-8f21-6c1f0a4d9e02")]) := by
    decide +kernel
  refine ⟨hcall.mpr ?_, hsource.mpr ?_⟩
  · rintro (⟨-, ⟨msg, hdeep⟩ | ⟨claims, hclaims', hbad | ⟨-, hcp, -⟩⟩⟩ | ⟨-, -, -, challenge,
      exc, hnew, hentry, -⟩)
    · cases hclaims.symm.trans hdeep
    · cases hclaims.symm.trans hclaims'
      obtain ⟨-, exc, hhash⟩ := hbad
      cases hhash
    · cases hcp
    · cases hnew
      have hread : PopChallenges.entryFor hostileLib
          "\x7b\"nonce\":\"n1\",\"expires_at\":60\x7d" = .ok (.str "n1", .fin 60) := by
        decide +kernel
      cases hread.symm.trans hentry
  · rintro (⟨msg, hdeep⟩ | ⟨claims, hclaims', voucher, hget, -⟩)
    · cases hclaims.symm.trans hdeep
    · cases hclaims.symm.trans hclaims'
      cases hget

/-- A delegation token with a voucher the `src_jti` of which is a list. -/
def listSourceToken : String :=
  "eyJhbGciOiJFZERTQSJ9.eyJ2b3VjaGVyIjoiZXlKaGJHY2lPaUpGWkVSVFFTSjkuZXlKemNtTmZhblJwSWpwYkluZ2lY" ++
    "WDAuYzJsbiJ9.c2ln"

/-- A token whose `jti` is a list escapes as a `TypeError`, and so does a delegation token the
`src_jti` of which is one. -/
theorem list_jti_raises :
    (¬∀ (sdk : Sdk) (py : PyLib), py.Documented → RaisesRefusals sdk →
      ∀ (s : AitpServer) (now : ℚ) (tctToken requiredGrant popResponse : String) (salt : Nat),
        Answered
          (s.verifyCapabilityTct sdk py now tctToken requiredGrant popResponse salt).2) ∧
    ¬∀ (py : PyLib), py.Documented → ∀ (s : AitpServer) (delegationToken : String),
      ∃ source, s.revokedSourceOf py delegationToken = .ok source := by
  constructor
  · intro hclaim
    have hraised : (aloneServer.verifyCapabilityTct callSdk hostileLib 0
        "eyJhbGciOiJFZERTQSJ9.eyJpc3MiOiJhIiwianRpIjpbIngiXX0.c2ln" "read" "" 0).2 =
          .error (.raised (.typeError "unhashable type")) := by
      decide +kernel
    rcases hclaim callSdk hostileLib hostileLib_documented callSdk_raisesRefusals aloneServer 0
      "eyJhbGciOiJFZERTQSJ9.eyJpc3MiOiJhIiwianRpIjpbIngiXX0.c2ln" "read" "" 0 with
      ⟨identity, h⟩ | ⟨refusal, h, -⟩
    · cases hraised.symm.trans h
    · cases hraised.symm.trans h
  · intro hclaim
    obtain ⟨source, h⟩ := hclaim hostileLib hostileLib_documented aloneServer listSourceToken
    have hraised : aloneServer.revokedSourceOf hostileLib listSourceToken =
        .error (.typeError "unhashable type") := by
      decide +kernel
    cases hraised.symm.trans h

end AitpPlayground.Proofs.Agents
