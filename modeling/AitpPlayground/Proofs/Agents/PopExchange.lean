import AitpPlayground.Proofs.Agents.Capability
import AitpPlayground.Proofs.Agents.Encodings
import AitpPlayground.Proofs.Agents.HeldTokens
import AitpPlayground.Proofs.Agents.HostileTokens
import AitpPlayground.Proofs.Agents.PopChallenges

/-!
# `AitpPlayground.Proofs.Agents.PopExchange`: a challenge and its answer, between two agents

An agent asks the caller of a capability for a proof of possession, and the caller sends the same
call again with its answer. Between the two the agent goes on: it serves other callers, refreshes
its revocations and rotates its keys.

* `held_run`: the challenge of the first call stays outstanding until it expires, if no other
  call answers its nonce or gets a challenge with the same nonce.
* `capability_verdict`: then the answer brings the challenge and the response to the SDK, and
  what the SDK says is the result.
* `spent_run`: after that no call is accepted with a response to this nonce.

`pop_exchange_completes` puts them together with what the caller sends.
-/

set_option autoImplicit false

namespace AitpPlayground.Proofs.Agents

open AitpPlayground.Lib
open AitpPlayground.Lib.Act
open AitpPlayground.Agents

variable {sdk : Sdk} {py : PyLib}

/-! ### The statement -/

/-- The step records a challenge with this nonce. -/
def IssuesNonce (sdk : Sdk) (py : PyLib) (nonce : String) (s : AgentSystem) : AgentLabel → Prop
  | .capability tctToken _ popResponse salt =>
    popResponse = "" ∧ ∃ challenge expiresAt,
      sdk.newPopChallenge s.server.aid tctToken s.server.popChallenges.ttlSecs salt =
        .ok challenge ∧
      PopChallenges.entryFor py challenge = .ok (.str nonce, expiresAt)
  | _ => False

/-- The step is a call with a response that names this nonce. -/
def AnswersNonce (py : PyLib) (nonce : String) : AgentLabel → Prop
  | .capability _ _ popResponse _ =>
    ∃ response, decodeHeader py popResponse = .ok response ∧ Names py response nonce
  | _ => False

/-- The step has nothing to do with this nonce. -/
def LeavesNonce (sdk : Sdk) (py : PyLib) (nonce : String) (s : AgentSystem)
    (l : AgentLabel) : Prop :=
  ¬IssuesNonce sdk py nonce s l ∧ ¬AnswersNonce py nonce l

/-- What becomes of a call whose challenge was found: the checks, and then what the SDK says of
the challenge and the response. -/
def verdict (sdk : Sdk) (py : PyLib) (s : AgentSystem) (tctToken requiredGrant : String)
    (pop : String × String) (salt : Nat) : Except CallExc TctIdentity :=
  match (s.server.precheck py s.clock tctToken).2 with
  | .error exc => .error exc
  | .ok _ =>
    match sdk.verifyTct s.server.aid tctToken requiredGrant s.server.revocation.effectiveJtis pop
        salt with
    | .error exc => .error (AitpServer.sdkRefusal exc)
    | .ok (identity, _) => .ok identity

/-! ### The challenge -/

/-- A refusal of the local checks has no challenge. -/
theorem screenJti_challenge {s : AitpServer} {jti : Json} {refusal : HttpError}
    (h : s.screenJti jti = .error (.http refusal)) : refusal.challenge = none := by
  unfold AitpServer.screenJti at h
  split at h
  · dsimp only at h
    split at h
    · cases h
      rfl
    · cases h
  · split at h <;> cases h
  · split at h <;> cases h
  · cases h
  · cases h
  · cases h

/-- A refusal for the age of the snapshot has no challenge. -/
theorem enforceRevocationFreshness_challenge {s : AitpServer} {now : ℚ} {refusal : HttpError}
    (h : (s.enforceRevocationFreshness py now).2 = .error (.http refusal)) :
    refusal.challenge = none := by
  unfold AitpServer.enforceRevocationFreshness at h
  split at h
  · cases h
  · cases h
  · cases h
  · split at h
    · cases h
    · split at h
      · cases h
        rfl
      · cases h

/-- No check before the proof of possession sends a challenge. -/
theorem precheck_challenge {s : AitpServer} {now : ℚ} {tctToken : String} {refusal : HttpError}
    (h : (s.precheck py now tctToken).2 = .error (.http refusal)) : refusal.challenge = none := by
  unfold AitpServer.precheck at h
  split at h
  · cases h
    rfl
  · split at h
    · cases h
      rfl
    · cases h
    · split at h
      · rename_i hscreen
        cases h
        exact screenJti_challenge hscreen
      · split at h
        · rename_i hfresh
          cases h
          exact enforceRevocationFreshness_challenge (congrArg Prod.snd hfresh)
        · dsimp only at h
          split at h
          · cases h
            rfl
          · cases h

/-- A refusal of a response has no challenge. -/
theorem popRefusal_challenge {exc : PopExc} {refusal : HttpError}
    (h : AitpServer.popRefusal exc = .http refusal) : refusal.challenge = none := by
  match exc, h with
  | .rejected ⟨some code, message, status⟩, h | .rejected ⟨none, message, status⟩, h =>
    cases h
    rfl
  | .raised e, h =>
    cases e
    case runtimeError | valueError | recursionError =>
      cases h
      rfl
    all_goals cases h

/-- A call that is answered with a challenge: the SDK made it, and it is outstanding. -/
theorem capability_challenged {s : AgentSystem} {tctToken requiredGrant header : String}
    {salt : Nat} {refusal : HttpError}
    (h : (s.capability sdk py tctToken requiredGrant "" salt).2 = .error (.http refusal))
    (hheader : refusal.challenge = some header) :
    ∃ challenge nonce expiresAt, refusal.status = 401 ∧ header = encodeHeader py challenge ∧
      sdk.newPopChallenge s.server.aid tctToken s.server.popChallenges.ttlSecs salt =
        .ok challenge ∧
      PopChallenges.entryFor py challenge = .ok (nonce, expiresAt) ∧
      (s.capability sdk py tctToken requiredGrant "" salt).1.server.popChallenges.outstanding.get?
        nonce = some (challenge, expiresAt) := by
  have hsnd : (s.server.verifyCapabilityTct sdk py s.clock tctToken requiredGrant "" salt).2 =
      .error (.http refusal) := h
  have hpop : (s.capability sdk py tctToken requiredGrant "" salt).1.server.popChallenges =
      (s.server.verifyCapabilityTct sdk py s.clock tctToken requiredGrant ""
        salt).1.popChallenges := rfl
  rw [hpop, verifyCapabilityTct_popChallenges]
  cases hcheck : (s.server.precheck py s.clock tctToken).2 with
  | error exc =>
    rw [verifyCapabilityTct_of_precheck_error hcheck] at hsnd
    cases hsnd
    rw [precheck_challenge hcheck] at hheader
    cases hheader
  | ok u =>
    obtain ⟨n, hfst⟩ := precheck_fst py s.server s.clock tctToken
    rw [verifyCapabilityTct_snd (Prod.ext hfst hcheck), if_pos rfl] at hsnd
    simp only [if_true]
    rcases issue_spec py s.server.popChallenges s.clock
        (fun ttl => sdk.newPopChallenge s.server.aid tctToken ttl salt) with
      ⟨-, r, hissue⟩ | ⟨exc, hissue⟩ | ⟨challenge, nonce, expiresAt, -, hnew, hentry, hissue⟩
    · simp only [AitpServer.challengeCaller, hissue, Except.error.injEq] at hsnd
      rw [popRefusal_challenge hsnd] at hheader
      cases hheader
    · simp only [AitpServer.challengeCaller, hissue, Except.error.injEq] at hsnd
      rw [popRefusal_challenge hsnd] at hheader
      cases hheader
    · simp only [AitpServer.challengeCaller, hissue] at hsnd
      cases hsnd
      cases hheader
      refine ⟨challenge, nonce, expiresAt, rfl, rfl, hnew, hentry, ?_⟩
      rw [hissue]
      exact Dict.get?_set_self _ _ _

/-! ### What other steps do to it -/

/-- The challenges after a step that is no call. -/
theorem popChallenges_of_no_call {s s' : AgentSystem} {l : AgentLabel}
    (h : agentStep sdk py s l = some s')
    (hl : ∀ tctToken requiredGrant popResponse salt,
      l ≠ .capability tctToken requiredGrant popResponse salt) :
    s'.server.popChallenges = s.server.popChallenges := by
  cases l with
  | tick now =>
    simp only [agentStep] at h
    split at h
    · cases h
      rfl
    · cases h
  | revokeLocal jti =>
    cases h
    rfl
  | startRefresh quiet =>
    cases h
    rfl
  | rotate newAid salt =>
    cases h
    exact (rotate_quiet s newAid salt).pop
  | resume i answer version salt =>
    simp only [agentStep] at h
    split at h
    · cases h
      exact (resume_quiet s i _ _ answer version salt).pop
    · cases h
  | emitted i salt =>
    simp only [agentStep] at h
    split at h
    · cases h
      exact (afterRefresh_quiet s i _ _ salt).pop
    · cases h
  | serve salt =>
    cases h
    rfl
  | capability tctToken requiredGrant popResponse salt =>
    exact absurd rfl (hl tctToken requiredGrant popResponse salt)

/-- The end of a refresh leaves the clock. -/
theorem afterRefresh_clock (s : AgentSystem) (i : Nat) (t : Task) (pulled : Option Nat)
    (salt : Nat) : (s.afterRefresh sdk py i t pulled salt).clock = s.clock := by
  unfold AgentSystem.afterRefresh
  split <;> rfl

/-- The resumption of a task leaves the clock. -/
theorem resume_clock (s : AgentSystem) (i : Nat) (t : Task) (aid : String) (answer : Answer)
    (version salt : Nat) : (s.resume sdk py i t aid answer version salt).clock = s.clock := by
  unfold AgentSystem.resume
  split
  · rfl
  · dsimp only
    split
    · rfl
    · exact afterRefresh_clock _ _ _ _ _

/-- A rotation leaves the clock. -/
theorem rotate_clock (s : AgentSystem) (newAid : String) (salt : Nat) :
    (s.rotate sdk py newAid salt).clock = s.clock := by
  unfold AgentSystem.rotate
  dsimp only
  split <;> rfl

/-- The clock does not go back. -/
theorem clock_step {s s' : AgentSystem} {l : AgentLabel} (h : agentStep sdk py s l = some s') :
    s.clock ≤ s'.clock := by
  cases l with
  | tick now =>
    simp only [agentStep] at h
    split at h
    · rename_i hle
      cases h
      exact hle
    · cases h
  | revokeLocal jti | startRefresh quiet | serve salt
  | capability tctToken requiredGrant popResponse salt =>
    cases h
    exact le_refl _
  | rotate newAid salt =>
    cases h
    exact (rotate_clock s newAid salt).ge
  | resume i answer version salt =>
    simp only [agentStep] at h
    split at h
    · cases h
      exact (resume_clock s i _ _ answer version salt).ge
    · cases h
  | emitted i salt =>
    simp only [agentStep] at h
    split at h
    · cases h
      exact (afterRefresh_clock s i _ _ salt).ge
    · cases h

/-- Until it expires, the challenge with this nonce is outstanding. -/
def HeldUntil (nonce challenge : String) (expiresAt : PyFloat) (s : AgentSystem) : Prop :=
  expiresAt.lt (.fin s.clock) = false →
    s.server.popChallenges.outstanding.get? (.str nonce) = some (challenge, expiresAt)

/-- A call that neither answers the nonce nor gets a challenge with it leaves the challenge. -/
theorem held_call {s : AgentSystem} {nonce challenge : String} {expiresAt : PyFloat}
    {tctToken requiredGrant popResponse : String} {salt : Nat}
    (hissues : ¬IssuesNonce sdk py nonce s (.capability tctToken requiredGrant popResponse salt))
    (hanswers : ¬AnswersNonce py nonce (.capability tctToken requiredGrant popResponse salt))
    (hlive : expiresAt.lt (.fin s.clock) = false)
    (hget : s.server.popChallenges.outstanding.get? (.str nonce) = some (challenge, expiresAt)) :
    (s.capability sdk py tctToken requiredGrant popResponse
      salt).1.server.popChallenges.outstanding.get? (.str nonce) = some (challenge, expiresAt) := by
  have hpruned : (s.server.popChallenges.prune s.clock).outstanding.get? (.str nonce) =
      some (challenge, expiresAt) := outstanding_prune.mpr ⟨hget, hlive⟩
  show (s.server.verifyCapabilityTct sdk py s.clock tctToken requiredGrant popResponse
    salt).1.popChallenges.outstanding.get? (.str nonce) = _
  rw [verifyCapabilityTct_popChallenges]
  split
  · exact hget
  · split
    · rename_i hempty
      rcases issue_spec py s.server.popChallenges s.clock
          (fun ttl => sdk.newPopChallenge s.server.aid tctToken ttl salt) with
        ⟨-, r, hissue⟩ | ⟨exc, hissue⟩ | ⟨other, nonce', e, -, hnew, hentry, hissue⟩
      · rw [hissue]
        exact hpruned
      · rw [hissue]
        exact hpruned
      · -- The new challenge has another nonce.
        have hne : nonce' ≠ .str nonce := by
          rintro rfl
          exact hissues ⟨hempty, other, e, hnew, hentry⟩
        rw [hissue]
        exact (Dict.get?_set_ne _ _ hne).trans hpruned
    · cases hdecode : decodeHeader py popResponse with
      | error exc => exact hget
      | ok response =>
        dsimp only
        rcases consume_cases py s.server.popChallenges s.clock response with
          ⟨p', exc, hconsume, rfl | rfl⟩ | ⟨nonce', other, e, hecho, -, hconsume⟩
        · rw [hconsume]
          exact hget
        · rw [hconsume]
          exact hpruned
        · -- The response is to another nonce.
          have hne : nonce ≠ nonce' := by
            rintro rfl
            exact hanswers ⟨response, hdecode, nonceEcho_eq_ok.mp hecho⟩
          rw [hconsume]
          show ((s.server.popChallenges.prune s.clock).outstanding.erase (.str nonce')).get? _ = _
          rw [Dict.get?_erase, if_neg (by simpa using hne)]
          exact hpruned

/-- A step that leaves the nonce keeps the challenge until it expires. -/
theorem held_step {s s' : AgentSystem} {l : AgentLabel} {nonce challenge : String}
    {expiresAt : PyFloat} (hs : HeldUntil nonce challenge expiresAt s)
    (hl : LeavesNonce sdk py nonce s l) (h : agentStep sdk py s l = some s') :
    HeldUntil nonce challenge expiresAt s' := by
  intro hlive
  have hbefore : expiresAt.lt (.fin s.clock) = false := lt_fin_mono (clock_step h) hlive
  by_cases hcall : ∃ tctToken requiredGrant popResponse salt,
      l = .capability tctToken requiredGrant popResponse salt
  · obtain ⟨tctToken, requiredGrant, popResponse, salt, rfl⟩ := hcall
    cases h
    exact held_call hl.1 hl.2 hbefore (hs hbefore)
  · have hsame := popChallenges_of_no_call h fun t g r n heq => hcall ⟨t, g, r, n, heq⟩
    rw [hsame]
    exact hs hbefore

/-- A run of steps that leave the nonce keeps the challenge until it expires. -/
theorem held_run {s s' : AgentSystem} {nonce challenge : String} {expiresAt : PyFloat}
    (hrun : Reach (agentStep sdk py) (LeavesNonce sdk py nonce) s s')
    (hs : HeldUntil nonce challenge expiresAt s) : HeldUntil nonce challenge expiresAt s' :=
  hrun.invariant (fun _ _ _ hu hl h => held_step hu hl h) hs

/-! ### The answer -/

/-- What becomes of a call with a response whose challenge is found. -/
theorem capability_verdict {s : AgentSystem} {header response nonce challenge : String}
    {expiresAt : PyFloat} (tctToken requiredGrant : String) (salt : Nat) (hne : header ≠ "")
    (hdecode : decodeHeader py header = .ok response) (hnames : Names py response nonce)
    (hlive : expiresAt.lt (.fin s.clock) = false)
    (hget : s.server.popChallenges.outstanding.get? (.str nonce) = some (challenge, expiresAt)) :
    (s.capability sdk py tctToken requiredGrant header salt).2 =
      verdict sdk py s tctToken requiredGrant (challenge, response) salt := by
  show (s.server.verifyCapabilityTct sdk py s.clock tctToken requiredGrant header salt).2 = _
  unfold verdict
  cases hcheck : (s.server.precheck py s.clock tctToken).2 with
  | error exc => rw [verifyCapabilityTct_of_precheck_error hcheck]
  | ok u =>
    obtain ⟨n, hfst⟩ := precheck_fst py s.server s.clock tctToken
    have hpruned : (s.server.popChallenges.prune s.clock).outstanding.get? (.str nonce) =
        some (challenge, expiresAt) := outstanding_prune.mpr ⟨hget, hlive⟩
    rw [verifyCapabilityTct_snd (Prod.ext hfst hcheck), if_neg hne]
    have hconsume : AitpServer.consumeResponse py { s.server with degradedServes := n } s.clock
        header = ({ s.server with
          degradedServes := n
          popChallenges := { s.server.popChallenges.prune s.clock with
            outstanding :=
              (s.server.popChallenges.prune s.clock).outstanding.erase (.str nonce) } },
          .ok (challenge, response)) := by
      simp only [AitpServer.consumeResponse, hdecode, PopChallenges.consume,
        nonceEcho_eq_ok.mpr hnames, hpruned]
    rw [hconsume]
    -- The checks and the look at the response left what the SDK is asked with.
    show (AitpServer.verifyBySdk sdk _ tctToken requiredGrant (challenge, response) salt).2 = _
    unfold AitpServer.verifyBySdk
    dsimp only
    cases sdk.verifyTct s.server.aid tctToken requiredGrant s.server.revocation.effectiveJtis
      (challenge, response) salt with
    | error exc => rfl
    | ok said =>
      dsimp only
      split
      · split <;> rfl
      · rfl

/-- No challenge with this nonce is outstanding. -/
def Spent (nonce : String) (s : AgentSystem) : Prop :=
  s.server.popChallenges.outstanding.get? (.str nonce) = none

/-- A nonce that is gone is not pruned back. -/
theorem spent_prune {p : PopChallenges} {now : ℚ} {nonce : PyKey}
    (h : p.outstanding.get? nonce = none) : (p.prune now).outstanding.get? nonce = none := by
  simp [PopChallenges.prune, Dict.get?_filter, h]

/-- A call that was admitted takes out the challenge that its response names. -/
theorem spent_of_answer {s : AgentSystem} {header response nonce : String}
    (tctToken requiredGrant : String) (salt : Nat) (hne : header ≠ "")
    (hdecode : decodeHeader py header = .ok response) (hnames : Names py response nonce)
    (hcheck : (s.server.precheck py s.clock tctToken).2 = .ok ()) :
    Spent nonce (s.capability sdk py tctToken requiredGrant header salt).1 := by
  show (s.server.verifyCapabilityTct sdk py s.clock tctToken requiredGrant header
    salt).1.popChallenges.outstanding.get? (.str nonce) = none
  rw [verifyCapabilityTct_popChallenges, hcheck]
  simp only [if_neg hne, hdecode, PopChallenges.consume, nonceEcho_eq_ok.mpr hnames]
  split
  · assumption
  · show ((s.server.popChallenges.prune s.clock).outstanding.erase (.str nonce)).get? _ = none
    rw [Dict.get?_erase, if_pos rfl]

/-- A call that does not issue the nonce anew leaves it gone. -/
theorem spent_call {s : AgentSystem} {nonce tctToken requiredGrant popResponse : String}
    {salt : Nat}
    (hissues : ¬IssuesNonce sdk py nonce s (.capability tctToken requiredGrant popResponse salt))
    (hs : Spent nonce s) :
    Spent nonce (s.capability sdk py tctToken requiredGrant popResponse salt).1 := by
  have hpruned : (s.server.popChallenges.prune s.clock).outstanding.get? (.str nonce) = none :=
    spent_prune hs
  show (s.server.verifyCapabilityTct sdk py s.clock tctToken requiredGrant popResponse
    salt).1.popChallenges.outstanding.get? (.str nonce) = none
  rw [verifyCapabilityTct_popChallenges]
  split
  · exact hs
  · split
    · rename_i hempty
      rcases issue_spec py s.server.popChallenges s.clock
          (fun ttl => sdk.newPopChallenge s.server.aid tctToken ttl salt) with
        ⟨-, r, hissue⟩ | ⟨exc, hissue⟩ | ⟨other, nonce', e, -, hnew, hentry, hissue⟩
      · rw [hissue]
        exact hpruned
      · rw [hissue]
        exact hpruned
      · have hne : nonce' ≠ .str nonce := by
          rintro rfl
          exact hissues ⟨hempty, other, e, hnew, hentry⟩
        rw [hissue]
        exact (Dict.get?_set_ne _ _ hne).trans hpruned
    · cases decodeHeader py popResponse with
      | error exc => exact hs
      | ok response =>
        dsimp only
        rcases consume_cases py s.server.popChallenges s.clock response with
          ⟨p', exc, hconsume, rfl | rfl⟩ | ⟨nonce', other, e, -, -, hconsume⟩
        · rw [hconsume]
          exact hs
        · rw [hconsume]
          exact hpruned
        · rw [hconsume]
          show ((s.server.popChallenges.prune s.clock).outstanding.erase (.str nonce')).get? _ = _
          rw [Dict.get?_erase]
          split
          · rfl
          · exact hpruned

/-- A step that does not issue the nonce anew leaves it gone. -/
theorem spent_step {s s' : AgentSystem} {l : AgentLabel} {nonce : String} (hs : Spent nonce s)
    (hl : ¬IssuesNonce sdk py nonce s l) (h : agentStep sdk py s l = some s') :
    Spent nonce s' := by
  by_cases hcall : ∃ tctToken requiredGrant popResponse salt,
      l = .capability tctToken requiredGrant popResponse salt
  · obtain ⟨tctToken, requiredGrant, popResponse, salt, rfl⟩ := hcall
    cases h
    exact spent_call hl hs
  · unfold Spent
    rw [popChallenges_of_no_call h fun t g r n heq => hcall ⟨t, g, r, n, heq⟩]
    exact hs

/-- A run of steps that do not issue the nonce anew leaves it gone. -/
theorem spent_run {s s' : AgentSystem} {nonce : String}
    (hrun : Reach (agentStep sdk py) (fun u l => ¬IssuesNonce sdk py nonce u l) s s')
    (hs : Spent nonce s) : Spent nonce s' :=
  hrun.invariant (fun _ _ _ hu hl h => spent_step hu hl h) hs

/-- A response to a nonce that is spent is not accepted, whatever the token. -/
theorem spent_refused {s : AgentSystem} {nonce header response : String} (hs : Spent nonce s)
    (hdecode : decodeHeader py header = .ok response) (hnames : Names py response nonce)
    (tctToken requiredGrant : String) (salt : Nat) (identity : TctIdentity) :
    (s.capability sdk py tctToken requiredGrant header salt).2 ≠ .ok identity := by
  intro hok
  obtain ⟨-, -, response', challenge, hdecode', hconsume⟩ := verifyCapabilityTct_ok hok
  cases hdecode.symm.trans hdecode'
  obtain ⟨nonce', expiresAt, hecho, hget, -⟩ := consume_ok hconsume
  cases (nonceEcho_eq_ok.mpr hnames).symm.trans hecho
  cases hs.symm.trans hget

/-! ### The exchange -/

/-- The caller signs an answer to the challenge. -/
theorem answerChallenge_signs {adminSdk : AdminSdk} {p : AgentProcess}
    {header challenge response : String} {salt : Nat}
    (hdecode : decodeHeader py header = .ok challenge)
    (hsign : adminSdk.signPopResponse p.adminAid challenge salt = .ok response) :
    ∃ p', answerChallenge adminSdk py header salt p = .ok (.ok response) p' ∧ p'.sent = p.sent := by
  refine ⟨{ p with uses := ⟨.signPopResponse, p.adminAid, p.serverAid, p.manifestAid, p.rotations⟩
    :: p.uses }, tryCatch_of_ok ?_, rfl⟩
  have huse : Route.useKey .signPopResponse
      (fun aid => adminSdk.signPopResponse aid challenge salt) p = .ok response
        { p with uses := ⟨.signPopResponse, p.adminAid, p.serverAid, p.manifestAid,
          p.rotations⟩ :: p.uses } := by
    show Route.lift (adminSdk.signPopResponse p.adminAid challenge salt) _ = _
    rw [hsign]
    rfl
  simp only [hdecode, Route.lift, ofExcept_ok_bind]
  exact bind_of_ok _ _ huse

/-- The caller sends the same call again, with its answer. -/
theorem callPeer_answers {adminSdk : AdminSdk} {p : AgentProcess} {call : SentCall}
    {first : HttpResponse} {header challenge response : String} {salt : Nat} (second : HttpAnswer)
    (hstatus : first.status = 401) (hheader : first.headers.get? challengeHeader = some header)
    (hne : header ≠ "") (hdecode : decodeHeader py header = .ok challenge)
    (hsign : adminSdk.signPopResponse p.adminAid challenge salt = .ok response) :
    ((callPeer adminSdk py call (.ok first) second salt).after p).sent =
      { call with popResponse := some (encodeHeader py response) } :: call :: p.sent := by
  unfold callPeer sendCall
  rw [after_modify_bind]
  obtain ⟨p', hanswer, hsent⟩ := answerChallenge_signs (p := { p with sent := call :: p.sent })
    hdecode hsign
  have hasked : first.status = 401 ∧ (first.headers.get? challengeHeader).getD "" ≠ "" := by
    rw [hheader]
    exact ⟨hstatus, hne⟩
  simp only [awaitReply, Route.await, ofExcept_ok_bind, if_pos hasked]
  simp only [hheader, Option.getD_some]
  rw [after_congr (bind_of_ok _ _ hanswer)]
  show _ = _ :: ({ p with sent := call :: p.sent } : AgentProcess).sent
  rw [← hsent]
  cases second with
  | error detail => rfl
  | ok r => rfl

section
variable (py) (utf8Error : List UInt8 → String)

/-- The header is decoded to the text it was encoded from. -/
theorem decodeHeader_encodeHeader (text : String) :
    decodeHeader (py.withCodecs utf8Error) (encodeHeader (py.withCodecs utf8Error) text) =
      .ok text := by
  rw [decodeHeader_eq_ok_iff, encodeHeader_eq, String.toList_ofList]
  exact carries_unpadded _

/-- Only the empty text has the empty header. -/
theorem encodeHeader_ne_empty {text : String} (h : text ≠ "") :
    encodeHeader (py.withCodecs utf8Error) text ≠ "" := by
  intro hempty
  have htext := decodeHeader_encodeHeader py utf8Error text
  have hnone := decodeHeader_encodeHeader py utf8Error ""
  have hchars : utf8 "" = [] := by
    rw [utf8_eq_flatMap]
    rfl
  rw [encodeHeader_eq, hchars] at hnone
  rw [hempty] at htext
  cases htext.symm.trans hnone
  exact h rfl

end

/-- **A proof of possession completes.** An agent refuses a call with a challenge, which the SDK
made for it. Take a caller whose SDK signs a response that names the nonce of this challenge.

The caller sends the same call again with this response. Whatever the agent did in between,
other calls, refreshes and rotations in any order, if no other call answered the nonce or got a
challenge with it and the challenge has not expired, then the second call is decided by the
checks and by what the SDK says of this challenge and this response. And once it passed the
checks, no later call is accepted with a response to the nonce, unless the SDK makes the nonce
again. -/
theorem pop_exchange_completes (sdk : Sdk) (adminSdk : AdminSdk) {py lib : PyLib}
    {utf8Error : List UInt8 → String} (hlib : lib = py.withCodecs utf8Error)
    (hempty : ∀ value, lib.jsonLoads "" ≠ .ok value)
    {s₁ : AgentSystem} {tct grant header : String} {salt : Nat} {refusal : HttpError}
    (hrefused : (s₁.capability sdk lib tct grant "" salt).2 = .error (.http refusal))
    (hheader : refusal.challenge = some header) :
    ∃ challenge,
      sdk.newPopChallenge s₁.server.aid tct s₁.server.popChallenges.ttlSecs salt =
        .ok challenge ∧
      ∀ nonce expiresAt, PopChallenges.entryFor lib challenge = .ok (.str nonce, expiresAt) →
      ∀ (caller : AgentProcess) (response : String) (signing : Nat),
        adminSdk.signPopResponse caller.adminAid challenge signing = .ok response →
        Names lib response nonce →
      (∀ (url content : String) (first : HttpResponse) (second : HttpAnswer),
        first.status = refusal.status → first.headers.get? challengeHeader = refusal.challenge →
        ((callPeer adminSdk lib ⟨url, tct, content, none⟩ (.ok first) second signing).after
            caller).sent =
          ⟨url, tct, content, some (encodeHeader lib response)⟩ ::
            ⟨url, tct, content, none⟩ :: caller.sent) ∧
      ∀ s₂, Reach (agentStep sdk lib) (LeavesNonce sdk lib nonce)
          (s₁.capability sdk lib tct grant "" salt).1 s₂ →
        expiresAt.lt (.fin s₂.clock) = false →
      ∀ grant' salt',
        (s₂.capability sdk lib tct grant' (encodeHeader lib response) salt').2 =
          verdict sdk lib s₂ tct grant' (challenge, response) salt' ∧
        ((s₂.server.precheck lib s₂.clock tct).2 = .ok () →
          ∀ s₃, Reach (agentStep sdk lib) (fun u l => ¬IssuesNonce sdk lib nonce u l)
            (s₂.capability sdk lib tct grant' (encodeHeader lib response) salt').1 s₃ →
          ∀ header' response', decodeHeader lib header' = .ok response' →
            Names lib response' nonce →
          ∀ tct' grant'' salt'' identity,
            (s₃.capability sdk lib tct' grant'' header' salt'').2 ≠ .ok identity) := by
  subst hlib
  obtain ⟨challenge, nonceKey, expiresAt, hstatus, rfl, hnew, hentry, houtstanding⟩ :=
    capability_challenged hrefused hheader
  refine ⟨challenge, hnew, ?_⟩
  intro nonce e hnonce caller response signing hsign hnames
  cases hentry.symm.trans hnonce
  -- Neither text is empty: both are read as JSON.
  have hchallenge : challenge ≠ "" := by
    rintro rfl
    unfold PopChallenges.entryFor at hentry
    cases hload : (py.withCodecs utf8Error).jsonLoads "" with
    | error exc =>
      rw [hload] at hentry
      cases hentry
    | ok value => exact hempty value hload
  have hresponse : response ≠ "" := by
    rintro rfl
    obtain ⟨body, d, hload, -⟩ := hnames
    exact hempty body hload
  have hdecode := decodeHeader_encodeHeader py utf8Error response
  have hne := encodeHeader_ne_empty py utf8Error hresponse
  refine ⟨?_, ?_⟩
  · intro url content first second hfirst hchallenged
    exact callPeer_answers second (hfirst.trans hstatus) (hchallenged.trans hheader)
      (encodeHeader_ne_empty py utf8Error hchallenge)
      (decodeHeader_encodeHeader py utf8Error challenge) hsign
  · intro s₂ hrun hlive grant' salt'
    have hheld := held_run hrun (fun _ => houtstanding) hlive
    refine ⟨capability_verdict tct grant' salt' hne hdecode hnames hlive hheld, ?_⟩
    intro hcheck s₃ hrest header' response' hdecode' hnames' tct' grant'' salt'' identity
    have hspent := spent_run hrest (spent_of_answer tct grant' salt' hne hdecode hnames hcheck)
    exact spent_refused hspent hdecode' hnames' tct' grant'' salt'' identity

/-- The claims of a token, two challenges, a response to the first one, and the lists of an
agent. -/
def exchangeTexts : List (String × Json) :=
  [("{}", .obj [("iss", .str "a"), ("jti", .str "j")]),
    ("c", .obj [("nonce", .str "n"), ("expires_at", .num (.int 60))]),
    ("d", .obj [("nonce", .str "m"), ("expires_at", .num (.int 60))]),
    ("r", .obj [("nonce_echo", .str "n")])] ++
    agentLists.map fun l => (l.2, envelopeOf l.1.1 l.1.2)

/-- A library that reads them. -/
def exchangeLib : PyLib :=
  { PyLib.reading exchangeTexts with
      uuidStr := .ok
      strOf := fun value =>
        match value with
        | .str s => s
        | _ => "" }.withCodecs fun _ => "invalid start byte"

/-- The SDK of the agent makes a challenge for each salt, and accepts the response to the first. -/
def exchangeSdk : Sdk :=
  { agentSdk with
      newPopChallenge := fun _ _ _ salt => .ok (if salt = 0 then "c" else "d")
      verifyTct := fun aid _ requiredGrant revokedJtis pop _ =>
        if aid = "a" ∧ "j" ∉ revokedJtis ∧ pop = ("c", "r") then
          .ok (⟨"peer", [requiredGrant], 3600, "j"⟩, true)
        else .error (.runtimeError "refused" none) }

/-- Anything but a call with a response, or one that gets the first challenge. -/
def byOthers (_ : AgentSystem) : AgentLabel → Prop
  | .capability _ _ popResponse salt => popResponse = "" ∧ salt = 1
  | _ => True

instance (s : AgentSystem) : (l : AgentLabel) → Decidable (byOthers s l)
  | .capability _ _ popResponse salt => inferInstanceAs (Decidable (popResponse = "" ∧ salt = 1))
  | .tick _ | .revokeLocal _ | .startRefresh _ | .rotate .. | .resume .. | .emitted ..
  | .serve _ => isTrue trivial

/-- The library of the concrete run reads nothing in the empty text. -/
theorem exchangeLib_empty (value : Json) : exchangeLib.jsonLoads "" ≠ .ok value := by
  intro hload
  have hraises : exchangeLib.jsonLoads "" = .error (.valueError "Expecting value" none) := by
    decide +kernel
  cases hraises.symm.trans hload

/-- Steps of others leave the nonce of the first challenge. -/
theorem leavesNonce_of_byOthers (s : AgentSystem) (l : AgentLabel) (h : byOthers s l) :
    LeavesNonce exchangeSdk exchangeLib "n" s l := by
  cases l with
  | capability tctToken requiredGrant popResponse salt =>
    obtain ⟨rfl, rfl⟩ := h
    constructor
    · rintro ⟨-, challenge, expiresAt, hnew, hentry⟩
      cases hnew
      have hother : PopChallenges.entryFor exchangeLib "d" = .ok (.str "m", .fin 60) := by
        decide +kernel
      obtain ⟨hnonce, -⟩ := Prod.mk.inj (Except.ok.inj (hother.symm.trans hentry))
      exact absurd hnonce (by decide)
    · rintro ⟨response, hdecode, body, d, hload, -⟩
      have hnone : decodeHeader exchangeLib "" = .ok "" := by decide +kernel
      cases hnone.symm.trans hdecode
      exact exchangeLib_empty body hload
  | tick | revokeLocal | startRefresh | rotate | resume | emitted | serve => exact ⟨id, id⟩

/-- Up to the call: the agent has a list of its own. -/
def beforeCall : List AgentLabel :=
  [.startRefresh true, .resume 0 (entriesAnswer "a" [jtiA]) 1 0, .emitted 0 0]

/-- After it another caller gets a challenge, and the agent refreshes its list. -/
def afterCall : List AgentLabel :=
  [.capability "h.e30.s" "read" "" 1, .startRefresh true, .tick 20,
   .resume 1 (entriesAnswer "a" []) 2 0, .emitted 1 0, .tick 30]

/-- Then the agent gets another key. -/
def afterRotation : List AgentLabel :=
  afterCall ++ [.rotate "b" 0, .resume 2 (entriesAnswer "b" []) 3 0,
    .resume 2 (entriesAnswer "b" []) 3 0, .tick 40]

/-- A caller gets a challenge. Half a minute later the agent has served another caller and
refreshed its list, and it accepts the answer. Had it got another key as well, it would refuse the
token, which is of the old one. -/
theorem pop_exchange_completes_accepted :
    ∃ s₁ s₂ s₃, Reach (agentStep exchangeSdk exchangeLib) anyStep newAgent s₁ ∧
      Reach (agentStep exchangeSdk exchangeLib) (LeavesNonce exchangeSdk exchangeLib "n")
        (s₁.capability exchangeSdk exchangeLib "h.e30.s" "read" "" 0).1 s₂ ∧
      (s₂.capability exchangeSdk exchangeLib "h.e30.s" "read" (encodeHeader exchangeLib "r")
        0).2 = .ok ⟨"peer", ["read"], 3600, "j"⟩ ∧
      Reach (agentStep exchangeSdk exchangeLib) (LeavesNonce exchangeSdk exchangeLib "n")
        (s₁.capability exchangeSdk exchangeLib "h.e30.s" "read" "" 0).1 s₃ ∧
      s₃.server.aid = "b" ∧
      (s₃.capability exchangeSdk exchangeLib "h.e30.s" "read" (encodeHeader exchangeLib "r")
        0).2 = .error (forbidden "tct issuer mismatch: a != b") := by
  let refusal : HttpError :=
    { status := 401
      detail := .coded "POP_RESPONSE_INVALID"
        "proof of possession required: answer x-aitp-pop-challenge"
      challenge := some "Yw" }
  let reads (s : AgentSystem) := (s.clock, s.server.aid,
    verdict exchangeSdk exchangeLib s "h.e30.s" "read" ("c", "r") 0)
  let later (s₁ : AgentSystem) (labels : List AgentLabel) :=
    (exec (agentStep exchangeSdk exchangeLib) byOthers
      (s₁.capability exchangeSdk exchangeLib "h.e30.s" "read" "" 0).1 labels).map reads
  have heval : (exec (agentStep exchangeSdk exchangeLib) anyStep newAgent beforeCall).map
      (fun s₁ => decide
        ((s₁.capability exchangeSdk exchangeLib "h.e30.s" "read" "" 0).2 =
            .error (.http refusal) ∧
          later s₁ afterCall = some (30, "a", .ok ⟨"peer", ["read"], 3600, "j"⟩) ∧
          later s₁ afterRotation =
            some (40, "b", .error (forbidden "tct issuer mismatch: a != b")))) =
      some true := by
    decide +kernel
  obtain ⟨s₁, hrun, hreads⟩ := exists_reach_of_exec heval
  obtain ⟨hrefused, hlater₂, hlater₃⟩ := of_decide_eq_true hreads
  have hnames : Names exchangeLib "r" "n" :=
    ⟨.obj [("nonce_echo", .str "n")], Dict.ofList [("nonce_echo", .str "n")],
      by decide +kernel, rfl, rfl, by decide⟩
  obtain ⟨challenge, hnew, hcompletes⟩ := pop_exchange_completes exchangeSdk
    { AdminSdk.refusing with signPopResponse := fun _ _ _ => .ok "r" } rfl exchangeLib_empty
    hrefused rfl
  cases hnew
  obtain ⟨-, hanswered⟩ := hcompletes "n" (.fin 60) (by decide +kernel)
    (.start "peer" "manifest" false false) "r" 0 rfl hnames
  obtain ⟨s₂, hrun₂, hreads₂⟩ := exists_reach_of_exec hlater₂
  obtain ⟨s₃, hrun₃, hreads₃⟩ := exists_reach_of_exec hlater₃
  simp only [reads, Prod.mk.injEq] at hreads₂ hreads₃
  obtain ⟨hclock₂, -, hverdict₂⟩ := hreads₂
  obtain ⟨hclock₃, haid₃, hverdict₃⟩ := hreads₃
  have hleaves₂ := hrun₂.weaken leavesNonce_of_byOthers
  have hleaves₃ := hrun₃.weaken leavesNonce_of_byOthers
  obtain ⟨haccepted, -⟩ := hanswered s₂ hleaves₂ (by rw [hclock₂]; decide +kernel) "read" 0
  obtain ⟨hjudged, -⟩ := hanswered s₃ hleaves₃ (by rw [hclock₃]; decide +kernel) "read" 0
  exact ⟨s₁, s₂, s₃, hrun, hleaves₂, haccepted.trans hverdict₂, hleaves₃, haid₃,
    hjudged.trans hverdict₃⟩

end AitpPlayground.Proofs.Agents
