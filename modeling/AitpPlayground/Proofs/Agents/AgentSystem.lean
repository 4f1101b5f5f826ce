import AitpPlayground.Agents.AgentSystem
import AitpPlayground.Proofs.Agents.AitpServer

/-!
# `AitpPlayground.Proofs.Agents.AgentSystem`: what a step of an agent can do

`AgentCore` is the part of an agent that revocation is about: its AID, the signed list, the
snapshot in force, and the history. A step of `agentStep` changes it by a sequence of four
effects (`Effect`): a rotation, the publication of a list, `apply_snapshot`, and an event of
the challenges. `agentStep_spec` says so once, with a control plane configured, and every
invariant of the core is then proved effect by effect (`Effects.invariant`).

What a publication has to meet beyond what the code checks is the parameter `ok` of `Effect`,
and `ResumeOk` is the guard on the steps that gives it.
-/

set_option autoImplicit false

namespace AitpPlayground.Proofs.Agents

open AitpPlayground.Lib
open AitpPlayground.Agents

variable {sdk : Sdk} {py : PyLib}

/-! ### The functions of the refresh -/

/-- The list that `_sign` returned for these arguments. -/
structure SignedFor (sdk : Sdk) (py : PyLib) (aid : String) (ttlSecs : Int)
    (entries : List Entry) (salt : Nat) (list : SignedList) : Prop where
  envelope : sdk.signRevocationList aid entries ttlSecs salt = .ok list.envelopeJson
  signer : list.signerAid = aid
  count : list.entryCount = entries.length
  /-- The end of the list is read out of its envelope. -/
  expires : (((py.jsonLoads list.envelopeJson >>= Json.item "revocation_list") >>=
    Json.item "expires_at") >>= py.int) = .ok list.expiresAt

/-- A list that is signed is signed for these entries. -/
theorem signedFor_of_sign {aid : String} {ttlSecs : Int} {entries : List Entry} {salt : Nat}
    {list : SignedList} (h : sign sdk py aid ttlSecs entries salt = .ok list) :
    SignedFor sdk py aid ttlSecs entries salt list := by
  simp only [sign, except_bind_eq_ok] at h
  obtain ⟨text, htext, parsed, hparsed, body, hbody, p, -, publishedAt, -, e, he, expiresAt, hint,
    heq⟩ := h
  cases heq
  refine ⟨htext, rfl, rfl, ?_⟩
  simp only [except_bind_eq_ok]
  exact ⟨e, ⟨body, ⟨parsed, hparsed, hbody⟩, he⟩, hint⟩

/-- `refresh` at the answer: the list is as it was, or it is a list of the entries that were
pulled, signed by the agent of that moment. -/
theorem finishRefresh_cases (sdk : Sdk) (py : PyLib) (l : IssuerRevocationList)
    (aid agent : String) (quiet : Bool) (answer : Answer) (salt : Nat) :
    (∃ out, l.finishRefresh sdk py aid agent quiet answer salt = (l, out) ∧
      (out = .raised ∨ ∃ emits, out = .returned emits none)) ∨
    (∃ entries signed emits, pull py aid answer = .ok entries ∧
      sign sdk py agent l.ttlSecs entries salt = .ok signed ∧
      l.finishRefresh sdk py aid agent quiet answer salt =
        ({ l with current := some signed }, .returned emits (some entries))) := by
  unfold IssuerRevocationList.finishRefresh
  cases hpull : pull py aid answer with
  | error exc =>
    cases exc with
    | refused cause detail => exact .inl ⟨_, rfl, .inr ⟨_, rfl⟩⟩
    | raised exc => exact .inl ⟨_, rfl, .inl rfl⟩
  | ok entries =>
    cases hsign : sign sdk py agent l.ttlSecs entries salt with
    | error exc =>
      -- `_sign` raises before the assignment of `current`.
      refine .inl ⟨.raised, ?_, .inl rfl⟩
      simp only [hsign]
    | ok signed =>
      refine .inr ⟨entries, signed,
        !quiet || decide (l.current.map SignedList.entryCount ≠ some entries.length), rfl,
        hsign, ?_⟩
      simp only [hsign]

/-- With a control plane, `serveable` only looks. -/
theorem serveable_of_cp {l : IssuerRevocationList} (hcp : l.cpBaseUrl.isSome = true)
    (aid : String) (now : ℚ) (salt : Nat) :
    l.serveable sdk py aid now salt = (l, .ok (l.inForce aid now)) := by
  obtain ⟨url, hurl⟩ := Option.isSome_iff_exists.mp hcp
  unfold IssuerRevocationList.serveable
  cases l.inForce aid now <;> simp [hurl]

/-- The second half of a refresh, with a control plane: nothing, or the list in force is
applied. -/
theorem applyList_cases (sdk : Sdk) (py : PyLib) {l : IssuerRevocationList}
    (hcp : l.cpBaseUrl.isSome = true) (r : RevocationState) (aid : String) (now : ℚ)
    (salt : Nat) :
    applyList sdk py l r aid now salt = (l, r, none) ∨
    ∃ list jtis publishedAt expiresAt, l.inForce aid now = some list ∧
      readEnvelope py list.envelopeJson = .ok (jtis, publishedAt, expiresAt) ∧
      applyList sdk py l r aid now salt =
        (l, r.applySnapshot jtis publishedAt expiresAt, some list) := by
  unfold applyList
  rw [serveable_of_cp hcp]
  cases hforce : l.inForce aid now with
  | none => exact .inl rfl
  | some list =>
    cases hverify : sdk.verifyRevocationList list.envelopeJson list.signerAid salt with
    | error exc => exact .inl (by simp [hverify])
    | ok _ =>
      cases hread : readEnvelope py list.envelopeJson with
      | error exc => exact .inl (by simp [hverify, hread])
      | ok read =>
        obtain ⟨jtis, publishedAt, expiresAt⟩ := read
        exact .inr ⟨list, jtis, publishedAt, expiresAt, rfl, hread, by simp [hverify, hread]⟩

/-- A list in force is the current one, is signed by the agent and not expired. -/
theorem inForce_eq_some {l : IssuerRevocationList} {aid : String} {now : ℚ}
    {list : SignedList} :
    l.inForce aid now = some list ↔
      l.current = some list ∧ list.signerAid = aid ∧ list.isExpired now = false := by
  simp [IssuerRevocationList.inForce, Option.filter_eq_some_iff]

/-! ### Effects -/

/-- What revocation is about. -/
structure AgentCore where
  aid : String
  issued : IssuerRevocationList
  snapshot : Option Snapshot
  history : List AgentEvent

/-- The core of an agent. -/
def coreOfAgent (s : AgentSystem) : AgentCore :=
  ⟨s.server.aid, s.server.issuedRevocations, s.server.revocation.snapshot, s.history⟩

/-- An event of the challenges. -/
def isPopEvent : AgentEvent → Bool
  | .popIssued _ _ _ | .popConsumed _ => true
  | _ => false

/-- The effects on the core. `ok` is what a publication has to meet. -/
inductive Effect (sdk : Sdk) (py : PyLib) (ok : AgentCore → Publication → Prop) :
    AgentCore → AgentCore → Prop where
  | rotate (c : AgentCore) (aid : String) :
      Effect sdk py ok c { c with aid, history := .rotated aid :: c.history }
  | publish (c : AgentCore) (p : Publication) (salt : Nat)
      (pulled : pull py p.requestAid p.answer = .ok p.entries)
      (signed : sign sdk py c.aid c.issued.ttlSecs p.entries salt = .ok p.signed)
      (meets : ok c p) :
      Effect sdk py ok c { c with
        issued := { c.issued with current := some p.signed }
        history := .published p :: c.history }
  | apply (c : AgentCore) (list : SignedList) (now : ℚ) (jtis : List String)
      (publishedAt expiresAt : Int) (version : Option Nat)
      (inForce : c.issued.inForce c.aid now = some list)
      (read : readEnvelope py list.envelopeJson = .ok (jtis, publishedAt, expiresAt))
      (pulled : ∀ v, version = some v → ∃ p, .published p ∈ c.history ∧ p.version = v) :
      Effect sdk py ok c { c with
        snapshot := some ⟨jtis.toFinset, publishedAt, expiresAt⟩
        history := .applied list (lastPublished c.history) version :: c.history }
  | challenge (c : AgentCore) (e : AgentEvent) (h : isPopEvent e = true) :
      Effect sdk py ok c { c with history := e :: c.history }

/-- A sequence of effects. -/
def Effects (sdk : Sdk) (py : PyLib) (ok : AgentCore → Publication → Prop) :
    AgentCore → AgentCore → Prop := Relation.ReflTransGen (Effect sdk py ok)

variable {ok : AgentCore → Publication → Prop}

/-! ### The functions of a step -/

/-- `refresh` has returned, after a pull of `version`. -/
theorem afterRefresh_effects {s : AgentSystem} (hcp : s.server.cpConfigured = true) (i : Nat)
    (t : Task) {version : Option Nat} (salt : Nat)
    (hpulled : ∀ v, version = some v → ∃ p, .published p ∈ s.history ∧ p.version = v) :
    Effects sdk py ok (coreOfAgent s) (coreOfAgent (s.afterRefresh sdk py i t version salt)) := by
  unfold AgentSystem.afterRefresh
  split
  · -- A rotation has published its list and starts a refresh.
    exact .refl
  · rcases applyList_cases sdk py hcp s.server.revocation s.server.aid s.clock
      salt with heq | ⟨list, jtis, publishedAt, expiresAt, hforce, hread, heq⟩
    · rw [heq]
      exact .refl
    · rw [heq]
      exact .single (.apply (coreOfAgent s) list s.clock jtis publishedAt expiresAt version
        hforce hread hpulled)

/-- What a call does with the challenges is at most one event. -/
theorem popEvents_cases (sdk : Sdk) (py : PyLib) (s : AgentSystem)
    (tctToken popResponse : String) (salt : Nat) :
    s.popEvents sdk py tctToken popResponse salt = [] ∨
    ∃ e, isPopEvent e = true ∧ s.popEvents sdk py tctToken popResponse salt = [e] := by
  unfold AgentSystem.popEvents
  split
  · exact .inl rfl
  · split
    · split
      · exact .inl rfl
      · split
        · exact .inl rfl
        · exact .inr ⟨_, rfl, rfl⟩
    · split
      · exact .inl rfl
      · split
        · exact .inr ⟨_, rfl, rfl⟩
        · exact .inl rfl

/-- A capability call. -/
theorem capability_effects (s : AgentSystem) (tctToken requiredGrant popResponse : String)
    (salt : Nat) :
    Effects sdk py ok (coreOfAgent s)
      (coreOfAgent (s.capability sdk py tctToken requiredGrant popResponse salt).1) := by
  obtain ⟨pop, hits, misses, serves, hfst⟩ :=
    verifyCapabilityTct_fst sdk py s.server s.clock tctToken requiredGrant popResponse salt
  have hcore : coreOfAgent (s.capability sdk py tctToken requiredGrant popResponse salt).1 =
      { coreOfAgent s with
        history := s.popEvents sdk py tctToken popResponse salt ++ s.history } := by
    simp only [AgentSystem.capability, coreOfAgent, hfst]
  rw [hcore]
  rcases popEvents_cases sdk py s tctToken popResponse salt with hnil | ⟨e, he, hone⟩
  · rw [hnil]
    exact .refl
  · rw [hone]
    exact .single (.challenge (coreOfAgent s) e he)

/-! ### Steps -/

/-- A coroutine that awaits a telemetry event after a pull has published its version. -/
def Backed (history : List AgentEvent) (t : Task) : Prop :=
  ∀ v, t.pc = .emitting (some v) → ∃ p, .published p ∈ history ∧ p.version = v

/-- What every step keeps: the control plane, and that the coroutines are backed. -/
structure AgentInv (s : AgentSystem) : Prop where
  cp : s.server.cpConfigured = true
  backed : ∀ t ∈ s.tasks, Backed s.history t

/-- The guard: a pull that comes back with entries makes a publication that meets `ok`. -/
def ResumeOk (py : PyLib) (ok : AgentCore → Publication → Prop) (s : AgentSystem)
    (l : AgentLabel) : Prop :=
  ∀ i answer version salt, l = .resume i answer version salt →
    ∀ t, s.tasks[i]? = some t → ∀ aid, t.pc = .pulling aid →
      ∀ entries, pull py aid answer = .ok entries →
        ∀ signed, ok (coreOfAgent s) ⟨aid, answer, entries, version, signed⟩

/-- A task that emits nothing is backed. -/
theorem Backed.of_done {history : List AgentEvent} {t : Task} (h : ∀ v, t.pc ≠ .emitting v) :
    Backed history t := by
  intro v hv
  exact absurd hv (h (some v))

/-- A task stays backed while the history grows. -/
theorem Backed.mono {history history' : List AgentEvent} {t : Task} (h : Backed history t)
    (hsub : history ⊆ history') : Backed history' t := by
  intro v hv
  obtain ⟨p, hp, hpv⟩ := h v hv
  exact ⟨p, hsub hp, hpv⟩

/-- A refresh begins backed. -/
theorem beginRefresh_backed (s : AgentSystem) (quiet : Bool) (history : List AgentEvent) :
    Backed history (s.beginRefresh quiet) := by
  apply Backed.of_done
  intro v
  unfold AgentSystem.beginRefresh
  cases s.server.cpConfigured <;> simp

/-- An effect only adds to the history, and keeps the control plane. -/
theorem Effect.keeps {c c' : AgentCore} (h : Effect sdk py ok c c') :
    c.history <:+ c'.history ∧ c'.issued.cpBaseUrl = c.issued.cpBaseUrl := by
  cases h <;> exact ⟨List.suffix_cons _ _, rfl⟩

/-- What every effect preserves, a sequence of effects preserves. -/
theorem Effects.invariant {P : AgentCore → Prop} (hP : ∀ c c', P c → Effect sdk py ok c c' → P c')
    {c c' : AgentCore} (h : Effects sdk py ok c c') (hc : P c) : P c' := by
  induction h with
  | refl => exact hc
  | tail _ hlast ih => exact hP _ _ ih hlast

/-- Effects only add to the history, and keep the control plane. -/
theorem Effects.keeps {c c' : AgentCore} (h : Effects sdk py ok c c') :
    c.history <:+ c'.history ∧ c'.issued.cpBaseUrl = c.issued.cpBaseUrl :=
  h.invariant (P := fun d => c.history <:+ d.history ∧ d.issued.cpBaseUrl = c.issued.cpBaseUrl)
    (fun _ _ hd he => ⟨hd.1.trans he.keeps.1, he.keeps.2.trans hd.2⟩) ⟨List.suffix_refl _, rfl⟩

/-- A step keeps the invariant when it makes effects and its new coroutines are backed. -/
theorem AgentInv.step {s s' : AgentSystem} (hs : AgentInv s)
    (heff : Effects sdk py ok (coreOfAgent s) (coreOfAgent s'))
    (htasks : ∀ u ∈ s'.tasks, u ∈ s.tasks ∨ Backed s'.history u) : AgentInv s' := by
  refine ⟨?_, ?_⟩
  · have hurl : s'.server.issuedRevocations.cpBaseUrl = s.server.issuedRevocations.cpBaseUrl :=
      heff.keeps.2
    have hcp := hs.cp
    unfold AitpServer.cpConfigured at hcp ⊢
    rw [hurl]
    exact hcp
  · intro u hu
    rcases htasks u hu with hold | hnew
    · exact (hs.backed u hold).mono heff.keeps.1.subset
    · exact hnew

/-- The coroutines after `refresh` has returned: the one that moves is done, or pulls. -/
theorem afterRefresh_tasks (sdk : Sdk) (py : PyLib) (s : AgentSystem) (i : Nat) (t : Task)
    (version : Option Nat) (salt : Nat) (history : List AgentEvent) :
    ∀ u ∈ (s.afterRefresh sdk py i t version salt).tasks, u ∈ s.tasks ∨ Backed history u := by
  intro u hu
  unfold AgentSystem.afterRefresh at hu
  split at hu
  · rcases List.mem_or_eq_of_mem_set hu with hold | rfl
    · exact .inl hold
    · exact .inr (beginRefresh_backed s true history)
  · rcases List.mem_or_eq_of_mem_set hu with hold | rfl
    · exact .inl hold
    · exact .inr (Backed.of_done (by simp))

/-- The pull of a coroutine comes back. -/
theorem resume_effects {s : AgentSystem} (hs : AgentInv s) (i : Nat) (t : Task) (aid : String)
    (answer : Answer) (version salt : Nat)
    (hok : ∀ entries, pull py aid answer = .ok entries →
      ∀ signed, ok (coreOfAgent s) ⟨aid, answer, entries, version, signed⟩) :
    Effects sdk py ok (coreOfAgent s)
        (coreOfAgent (s.resume sdk py i t aid answer version salt)) ∧
      ∀ u ∈ (s.resume sdk py i t aid answer version salt).tasks, u ∈ s.tasks ∨
        Backed (s.resume sdk py i t aid answer version salt).history u := by
  unfold AgentSystem.resume
  rcases finishRefresh_cases sdk py s.server.issuedRevocations aid s.server.aid t.quiet answer salt
    with ⟨out, heq, hout⟩ | ⟨entries, signed, emits, hpull, hsign, heq⟩
  · -- No list was signed. The coroutine ends, goes on with its second pull, or emits.
    rw [heq]
    rcases hout with rfl | ⟨emits, rfl⟩
    · refine ⟨.refl, ?_⟩
      intro u hu
      rcases List.mem_or_eq_of_mem_set hu with hold | rfl
      · exact .inl hold
      -- Only a rotation has a second pull.
      · cases t.rotation
        · exact .inr (Backed.of_done (by simp))
        · exact .inr (beginRefresh_backed s true _)
    · cases emits
      · exact ⟨afterRefresh_effects hs.cp i t salt (by simp),
          afterRefresh_tasks sdk py s i t none salt _⟩
      · refine ⟨.refl, ?_⟩
        intro u hu
        rcases List.mem_or_eq_of_mem_set hu with hold | rfl
        · exact .inl hold
        · exact .inr (by intro v hv; simp at hv)
  · -- A list was published, which is one effect. `s₁` is the state after it.
    rw [heq]
    let p : Publication := ⟨aid, answer, entries, version, signed⟩
    let s₁ : AgentSystem := { s with
      server := { s.server with
        issuedRevocations := { s.server.issuedRevocations with current := some signed } }
      history := .published p :: s.history }
    have hpublish : Effect sdk py ok (coreOfAgent s) (coreOfAgent s₁) :=
      .publish (coreOfAgent s) p salt hpull hsign (hok entries hpull signed)
    -- The task that goes on is backed by this publication.
    have hbacked : ∀ v, some version = some v →
        ∃ p, AgentEvent.published p ∈ s₁.history ∧ p.version = v := by
      rintro v ⟨⟩
      exact ⟨p, List.mem_cons_self, rfl⟩
    cases emits
    · refine ⟨Relation.ReflTransGen.trans (.single hpublish)
        (afterRefresh_effects (s := s₁) hs.cp i t salt hbacked), ?_⟩
      exact afterRefresh_tasks sdk py s₁ i t (some version) salt _
    · refine ⟨.single hpublish, ?_⟩
      intro u hu
      rcases List.mem_or_eq_of_mem_set hu with hold | rfl
      · exact .inl hold
      · refine .inr ?_
        intro v hv
        apply hbacked v
        simpa using hv

/-- A step with a control plane is a sequence of effects, and keeps the invariant. -/
theorem agentStep_spec {s s' : AgentSystem} {l : AgentLabel} (hs : AgentInv s)
    (hok : ResumeOk py ok s l) (h : agentStep sdk py s l = some s') :
    Effects sdk py ok (coreOfAgent s) (coreOfAgent s') ∧ AgentInv s' := by
  -- The invariant follows from the effects and from where the coroutines stand.
  suffices hspec : Effects sdk py ok (coreOfAgent s) (coreOfAgent s') ∧
      ∀ u ∈ s'.tasks, u ∈ s.tasks ∨ Backed s'.history u from
    ⟨hspec.1, hs.step hspec.1 hspec.2⟩
  cases l with
  | tick now =>
    simp only [agentStep] at h
    split at h
    · cases h
      exact ⟨.refl, fun u hu => .inl hu⟩
    · cases h
  | revokeLocal jti =>
    cases h
    exact ⟨.refl, fun u hu => .inl hu⟩
  | startRefresh quiet =>
    cases h
    refine ⟨.refl, ?_⟩
    intro u hu
    rcases List.mem_append.mp hu with hold | hnew
    · exact .inl hold
    · rw [List.mem_singleton.mp hnew]
      exact .inr (beginRefresh_backed s quiet _)
  | rotate newAid salt =>
    cases h
    have hcp : ({ s.server with aid := newAid } : AitpServer).cpConfigured = true := hs.cp
    simp only [AgentSystem.rotate, hcp, if_true]
    refine ⟨.single (.rotate (coreOfAgent s) newAid), ?_⟩
    intro u hu
    rcases List.mem_append.mp hu with hold | hnew
    · exact .inl hold
    · rw [List.mem_singleton.mp hnew]
      exact .inr (Backed.of_done (by simp))
  | resume i answer version salt =>
    simp only [agentStep] at h
    split at h
    · rename_i rotation quiet aid htask
      cases h
      exact resume_effects hs i _ aid answer version salt
        (hok i answer version salt rfl _ htask aid rfl)
    · cases h
  | emitted i salt =>
    simp only [agentStep] at h
    split at h
    · rename_i rotation quiet pulled htask
      cases h
      -- The version that this refresh pulled was published before it emitted.
      have hbacked := hs.backed _ (List.mem_of_getElem? htask)
      refine ⟨afterRefresh_effects hs.cp i _ salt ?_,
        afterRefresh_tasks sdk py s i _ pulled salt _⟩
      intro v hv
      exact hbacked v (by rw [hv])
    · cases h
  | serve salt =>
    cases h
    rw [serveable_of_cp hs.cp]
    exact ⟨.refl, fun u hu => .inl hu⟩
  | capability tctToken requiredGrant popResponse salt =>
    cases h
    exact ⟨capability_effects s tctToken requiredGrant popResponse salt, fun u hu => .inl hu⟩

/-- A run with a control plane is a sequence of effects. -/
theorem run_effects {guard : AgentSystem → AgentLabel → Prop}
    (hguard : ∀ s l, guard s l → ResumeOk py ok s l) {s s' : AgentSystem}
    (hrun : Reach (agentStep sdk py) guard s s') (hs : AgentInv s) :
    Effects sdk py ok (coreOfAgent s) (coreOfAgent s') ∧ AgentInv s' := by
  induction hrun with
  | refl => exact ⟨.refl, hs⟩
  | tail _ hnext ih =>
    obtain ⟨l, hl, hstep⟩ := hnext
    obtain ⟨heff, hinv⟩ := agentStep_spec ih.2 (hguard _ l hl) hstep
    exact ⟨ih.1.trans heff, hinv⟩

end AitpPlayground.Proofs.Agents
