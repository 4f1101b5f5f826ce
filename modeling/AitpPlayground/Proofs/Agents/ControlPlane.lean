import AitpPlayground.Agents.ControlPlane
import AitpPlayground.Proofs.Agents.Revocation

/-!
# `AitpPlayground.Proofs.Agents.ControlPlane`: revocations that roll back

A refresh replaces the list and the snapshot with what it pulled, whatever is there. So
revocation state is as new as the last answer to arrive, and not as the newest.

`revocation_never_rolls_back` is the property under `InOrder`: no answer arrives after the
list of a newer version was published. `older_answer_rolls_back` is a run of two refreshes
whose answers arrive the other way round.

The versions are read off the history. `Ordered` is the invariant: the version an event puts
into place is at least every version that stands before it, and the last publication has the
newest.
-/

set_option autoImplicit false

namespace AitpPlayground.Proofs.Agents

open AitpPlayground.Lib
open AitpPlayground.Agents

variable {sdk : Sdk} {py : PyLib} {cpAnswer : Nat → String → Answer}

/-! ### Versions -/

/-- The version that an event puts into place: a list is published, or applied. -/
def installs : AgentEvent → Option Nat
  | .published p => some p.version
  | .applied _ source _ => source.map Publication.version
  | .rotated _ | .popIssued _ _ _ | .popConsumed _ => none

/-- The version that the refresh of an `apply_snapshot` pulled. -/
def appliedPull : AgentEvent → Option Nat
  | .applied _ _ pulled => pulled
  | .rotated _ | .published _ | .popIssued _ _ _ | .popConsumed _ => none

/-- Every version that an event stands for: what it puts into place, and what the refresh of
an `apply_snapshot` pulled. -/
def versions (e : AgentEvent) : List Nat := (installs e).toList ++ (appliedPull e).toList

/-- Once a refresh that pulled `v` has executed `apply_snapshot`, nothing older than `v` is put
into place. -/
def NoRollback (history : List AgentEvent) : Prop :=
  history.Pairwise fun newer older => ∀ v ∈ appliedPull older, ∀ w ∈ installs newer, v ≤ w

instance (history : List AgentEvent) : Decidable (NoRollback history) :=
  inferInstanceAs (Decidable (history.Pairwise _))

/-- The versions are in order, and the last publication has the newest. -/
structure Ordered (history : List AgentEvent) : Prop where
  pairs : history.Pairwise fun newer older => ∀ v ∈ versions older, ∀ w ∈ installs newer, v ≤ w
  newest : ∀ e ∈ history, ∀ v ∈ versions e, ∃ q, lastPublished history = some q ∧ v ≤ q.version

/-- In an ordered history no list is rolled back. -/
theorem Ordered.noRollback {history : List AgentEvent} (h : Ordered history) :
    NoRollback history := by
  refine h.pairs.imp ?_
  intro newer older hpair v hv
  exact hpair v (List.mem_append_right _ (Option.mem_toList.mpr hv))

/-- What a publication has to meet: it is the answer of the control plane at its version, and
not older than the last one. -/
def inOrder (cpAnswer : Nat → String → Answer) (c : AgentCore) (p : Publication) : Prop :=
  p.answer = cpAnswer p.version p.requestAid ∧
    ∀ q, lastPublished c.history = some q → q.version ≤ p.version

/-- An event that puts nothing into place. -/
theorem Ordered.cons_silent {history : List AgentEvent} (h : Ordered history) {e : AgentEvent}
    (hi : installs e = none) (hv : versions e = []) (hp : e.publication? = none) :
    Ordered (e :: history) := by
  constructor
  · refine List.pairwise_cons.mpr ⟨?_, h.pairs⟩
    intro older _ v _ w hw
    rw [hi] at hw
    cases hw
  · intro e' he' v hv'
    rcases List.mem_cons.mp he' with rfl | hold
    · rw [hv] at hv'
      cases hv'
    · obtain ⟨q, hq, hle⟩ := h.newest e' hold v hv'
      exact ⟨q, by simpa [lastPublished, hp] using hq, hle⟩

/-- An answer in order keeps the history ordered. -/
theorem ordered_effect {c c' : AgentCore} (hc : Ordered c.history)
    (he : Effect sdk py (inOrder cpAnswer) c c') : Ordered c'.history := by
  cases he with
  | rotate aid => exact hc.cons_silent rfl rfl rfl
  | challenge e hpop =>
    cases e <;> first | exact hc.cons_silent rfl rfl rfl | cases hpop
  | publish p salt pulled signed meets =>
    -- Every version before is at most the last publication's, and so at most the new one's.
    have hold : ∀ e ∈ c.history, ∀ v ∈ versions e, v ≤ p.version := by
      intro e he v hv
      obtain ⟨q, hq, hle⟩ := hc.newest e he v hv
      exact hle.trans (meets.2 q hq)
    constructor
    · refine List.pairwise_cons.mpr ⟨?_, hc.pairs⟩
      intro older holder v hv w hw
      cases hw
      exact hold older holder v hv
    · intro e he v hv
      refine ⟨p, rfl, ?_⟩
      rcases List.mem_cons.mp he with rfl | hmem
      · have hvp : v = p.version := by simpa [versions, installs, appliedPull] using hv
        omega
      · exact hold e hmem v hv
  | apply list now jtis publishedAt expiresAt version inForce read pulled =>
    constructor
    · refine List.pairwise_cons.mpr ⟨?_, hc.pairs⟩
      intro older holder v hv w hw
      -- What is applied is the last publication, which has the newest version.
      obtain ⟨q, hq, hle⟩ := hc.newest older holder v hv
      simp only [installs, hq, Option.map_some, Option.mem_def, Option.some.injEq] at hw
      omega
    · intro e he v hv
      rcases List.mem_cons.mp he with rfl | hmem
      · rcases List.mem_append.mp hv with hv | hv
        · -- The version of the last publication.
          obtain ⟨q, hq, hqv⟩ : ∃ q, lastPublished c.history = some q ∧ q.version = v := by
            simpa [installs] using hv
          exact ⟨q, hq, hqv.ge⟩
        · -- The version the refresh pulled was published before.
          obtain ⟨p, hp, hpv⟩ := pulled v (by simpa [appliedPull] using hv)
          exact hc.newest _ hp v (by simp [versions, installs, hpv])
      · exact hc.newest e hmem v hv

/-! ### Where a list and a snapshot come from -/

/-- The publication that an `apply_snapshot` put into force. -/
def appliedSource? : AgentEvent → Option Publication
  | .applied _ source _ => source
  | .rotated _ | .published _ | .popIssued _ _ _ | .popConsumed _ => none

/-- The publication that the snapshot in force was read from. -/
def snapshotSource (history : List AgentEvent) : Option Publication :=
  history.findSome? appliedSource?

/-- The jtis of a publication. -/
def publishedJtis (p : Publication) : Finset String := (p.entries.map Entry.jti).toFinset

/-- The SDK signs the entries it is given: an envelope reads back their jtis. -/
def SignsEntries (sdk : Sdk) (py : PyLib) : Prop :=
  ∀ aid entries ttlSecs salt text jtis publishedAt expiresAt,
    sdk.signRevocationList aid entries ttlSecs salt = .ok text →
    readEnvelope py text = .ok (jtis, publishedAt, expiresAt) →
    jtis.toFinset = (entries.map Entry.jti).toFinset

/-- The last publication is in the history. -/
theorem lastPublished_mem {history : List AgentEvent} {p : Publication}
    (h : lastPublished history = some p) : .published p ∈ history := by
  obtain ⟨e, he, hp⟩ := List.exists_of_findSome?_eq_some h
  cases e with
  | published q =>
    cases hp
    exact he
  | rotated | applied | popIssued | popConsumed => cases hp

/-- Every publication was pulled at its version and signed. The current list is the last
publication, an `apply_snapshot` applies a publication, and the snapshot in force holds the
jtis of the one it was read from. -/
structure Sourced (sdk : Sdk) (py : PyLib) (cpAnswer : Nat → String → Answer) (c : AgentCore) :
    Prop where
  published : ∀ p, .published p ∈ c.history →
    pull py p.requestAid (cpAnswer p.version p.requestAid) = .ok p.entries ∧
      ∃ aid ttlSecs salt, sign sdk py aid ttlSecs p.entries salt = .ok p.signed
  current : c.issued.current = (lastPublished c.history).map Publication.signed
  applied : ∀ list source pulled, .applied list source pulled ∈ c.history →
    ∃ p, source = some p ∧ p.signed = list ∧ .published p ∈ c.history
  snapshot : c.snapshot.map Snapshot.entries = (snapshotSource c.history).map publishedJtis

/-- An event that is neither a publication nor an `apply_snapshot`. -/
theorem Sourced.cons_silent {c : AgentCore} (h : Sourced sdk py cpAnswer c) (aid : String)
    {e : AgentEvent} (hp : e.publication? = none) (ha : appliedSource? e = none)
    (hne : ∀ list source pulled, e ≠ .applied list source pulled) :
    Sourced sdk py cpAnswer { c with aid, history := e :: c.history } := by
  constructor
  · intro p hmem
    rcases List.mem_cons.mp hmem with rfl | hold
    · cases hp
    · exact h.published p hold
  · simpa [lastPublished, hp] using h.current
  · intro list source pulled hmem
    rcases List.mem_cons.mp hmem with heq | hold
    · exact absurd heq.symm (hne list source pulled)
    · obtain ⟨p, hsource, hsigned, hpub⟩ := h.applied list source pulled hold
      exact ⟨p, hsource, hsigned, List.mem_cons_of_mem _ hpub⟩
  · simpa [snapshotSource, ha] using h.snapshot

/-- Every effect keeps the lists sourced. -/
theorem sourced_effect (hsigns : SignsEntries sdk py) {c c' : AgentCore}
    (hc : Sourced sdk py cpAnswer c) (he : Effect sdk py (inOrder cpAnswer) c c') :
    Sourced sdk py cpAnswer c' := by
  cases he with
  | rotate aid => exact hc.cons_silent aid rfl rfl (by simp)
  | challenge e hpop =>
    cases e <;> first | exact hc.cons_silent c.aid rfl rfl (by simp) | cases hpop
  | publish p salt pulled signed meets =>
    constructor
    · intro q hq
      rcases List.mem_cons.mp hq with heq | hold
      · cases heq
        rw [← meets.1]
        exact ⟨pulled, c.aid, c.issued.ttlSecs, salt, signed⟩
      · exact hc.published q hold
    · rfl
    · intro list source version hmem
      rcases List.mem_cons.mp hmem with heq | hold
      · cases heq
      · obtain ⟨q, hsource, hsigned, hpub⟩ := hc.applied list source version hold
        exact ⟨q, hsource, hsigned, List.mem_cons_of_mem _ hpub⟩
    · exact hc.snapshot
  | apply list now jtis publishedAt expiresAt version inForce read pulled =>
    -- The list in force is the last publication.
    have hcur : (lastPublished c.history).map Publication.signed = some list := by
      rw [← hc.current]
      exact (inForce_eq_some.mp inForce).1
    obtain ⟨p, hlast, hsigned⟩ := Option.map_eq_some_iff.mp hcur
    have hpub := lastPublished_mem hlast
    obtain ⟨-, aid, ttlSecs, salt, hsign⟩ := hc.published p hpub
    constructor
    · intro q hq
      rcases List.mem_cons.mp hq with heq | hold
      · cases heq
      · exact hc.published q hold
    · exact hc.current
    · intro list' source version' hmem
      rcases List.mem_cons.mp hmem with heq | hold
      · cases heq
        exact ⟨p, hlast, hsigned, List.mem_cons_of_mem _ hpub⟩
      · obtain ⟨q, hsource, hq, hqpub⟩ := hc.applied list' source version' hold
        exact ⟨q, hsource, hq, List.mem_cons_of_mem _ hqpub⟩
    · -- The envelope reads back what was signed.
      have hjtis : jtis.toFinset = publishedJtis p :=
        hsigns _ _ _ _ _ _ _ _ (signedFor_of_sign hsign).envelope (by rw [hsigned]; exact read)
      have hsource : snapshotSource (.applied list (lastPublished c.history) version :: c.history) =
          some p := by
        rw [hlast]
        rfl
      show some jtis.toFinset = _
      rw [hsource, hjtis]
      rfl

/-- The source of the snapshot was applied. -/
theorem snapshotSource_mem {history : List AgentEvent} {p : Publication}
    (h : snapshotSource history = some p) :
    ∃ list pulled, .applied list (some p) pulled ∈ history := by
  obtain ⟨e, he, hp⟩ := List.exists_of_findSome?_eq_some h
  cases e with
  | applied list source pulled =>
    cases hp
    exact ⟨list, pulled, he⟩
  | rotated | published | popIssued | popConsumed => cases hp

/-- The snapshot of a later state was read from a publication that is not older. -/
theorem snapshotSource_le {history history' : List AgentEvent} (hord : Ordered history')
    (hsuffix : history <:+ history') {p : Publication} (hp : snapshotSource history = some p) :
    ∃ p', snapshotSource history' = some p' ∧ p.version ≤ p'.version := by
  obtain ⟨newer, rfl⟩ := hsuffix
  rw [snapshotSource, List.findSome?_append]
  cases hnew : newer.findSome? appliedSource? with
  | none => exact ⟨p, hp, le_refl _⟩
  | some q =>
    -- Both were applied, and the newer event is the one of `q`.
    obtain ⟨list, pulled, hmem⟩ := snapshotSource_mem hp
    obtain ⟨list', pulled', hmem'⟩ := snapshotSource_mem hnew
    have hpair := (List.pairwise_append.mp hord.pairs).2.2 _ hmem' _ hmem
    exact ⟨q, rfl, hpair p.version (by simp [versions, installs]) q.version rfl⟩

/-! ### Runs -/

/-- The guard on the moves: an answer that is accepted is not older than the last
publication. -/
def InOrder (py : PyLib) (cpAnswer : Nat → String → Answer) (s : CpSystem) : CpLabel → Prop
  | .deliver i _ => ∀ aid ∈ s.pulling? i, ∀ v ∈ s.handled i,
    (pull py aid (cpAnswer v aid)).isOk = true → ∀ q ∈ lastPublished s.agent.history, q.version ≤ v
  | .bump | .handle _ | .fail _ _ _ | .call _ => True

instance (py : PyLib) (cpAnswer : Nat → String → Answer) (s : CpSystem) (l : CpLabel) :
    Decidable (InOrder py cpAnswer s l) :=
  match l with
  | .deliver i _ => inferInstanceAs (Decidable (∀ aid ∈ s.pulling? i, ∀ v ∈ s.handled i,
      (pull py aid (cpAnswer v aid)).isOk = true →
        ∀ q ∈ lastPublished s.agent.history, q.version ≤ v))
  | .bump | .handle _ | .fail _ _ _ | .call _ => isTrue trivial

/-- The runs without a key rotation. -/
def NoRotation (_ : CpSystem) : CpLabel → Prop
  | .call l => l.isRotate = false
  | .bump | .handle _ | .deliver _ _ | .fail _ _ _ => True

instance (s : CpSystem) (l : CpLabel) : Decidable (NoRotation s l) :=
  match l with
  | .call l => inferInstanceAs (Decidable (l.isRotate = false))
  | .bump | .handle _ | .deliver _ _ | .fail _ _ _ => isTrue trivial

/-- An answer arrives: the agent takes one step. -/
theorem resumed_agent {s s' : CpSystem} {i : Nat} {answer : Answer} {version salt : Nat}
    (h : s.resumed sdk py i answer version salt = some s') :
    agentStep sdk py s.agent (.resume i answer version salt) = some s'.agent := by
  obtain ⟨agent, hstep, heq⟩ := Option.map_eq_some_iff.mp h
  rw [hstep, ← heq]

/-- A move leaves the agent alone, or is a step of it that meets the guard. -/
theorem cpStep_agent {s s' : CpSystem} {l : CpLabel} (hok : InOrder py cpAnswer s l)
    (h : cpStep sdk py cpAnswer s l = some s') :
    s'.agent = s.agent ∨ ∃ l', ResumeOk py (inOrder cpAnswer) s.agent l' ∧
      agentStep sdk py s.agent l' = some s'.agent := by
  cases l with
  | bump =>
    cases h
    exact .inl rfl
  | handle i =>
    simp only [cpStep] at h
    split at h
    · cases h
      exact .inl rfl
    · cases h
  | deliver i salt =>
    simp only [cpStep] at h
    split at h
    · rename_i aid v haid hv
      refine .inr ⟨_, ?_, resumed_agent h⟩
      -- The answer is for the AID of the request of this coroutine.
      rintro i' answer version salt' ⟨⟩ t ht aid' haid' entries hpull signed
      have hsame : aid' = aid := by simpa [CpSystem.pulling?, ht, Task.pulling?, haid'] using haid
      subst hsame
      exact ⟨rfl, fun q hq => hok aid' haid v hv (by rw [hpull]; rfl) q hq⟩
    · cases h
  | fail i answer salt =>
    simp only [cpStep] at h
    split at h
    · rename_i aid haid
      split at h
      · cases h
      · rename_i hrefused
        refine .inr ⟨_, ?_, resumed_agent h⟩
        rintro i' answer' version salt' ⟨⟩ t ht aid' haid' entries hpull signed
        have hsame : aid' = aid := by simpa [CpSystem.pulling?, ht, Task.pulling?, haid'] using haid
        rw [hsame] at hpull
        exact absurd (by rw [hpull]; rfl) hrefused
    · cases h
  | call l =>
    simp only [cpStep] at h
    split at h
    · cases h
    · rename_i hcall
      obtain ⟨agent, hstep, heq⟩ := Option.map_eq_some_iff.mp h
      refine .inr ⟨l, ?_, by rw [hstep, ← heq]⟩
      rintro i answer version salt rfl
      exact absurd rfl hcall

/-- A run in order is a sequence of effects on the agent. -/
theorem cp_run_effects {s s' : CpSystem}
    (hrun : Reach (cpStep sdk py cpAnswer) (InOrder py cpAnswer) s s') (hs : AgentInv s.agent) :
    Effects sdk py (inOrder cpAnswer) (coreOfAgent s.agent) (coreOfAgent s'.agent) ∧
      AgentInv s'.agent := by
  induction hrun with
  | refl => exact ⟨.refl, hs⟩
  | tail _ hnext ih =>
    obtain ⟨l, hl, hstep⟩ := hnext
    rcases cpStep_agent hl hstep with hsame | ⟨l', hok, hagent⟩
    · rw [hsame]
      exact ih
    · obtain ⟨heff, hinv⟩ := agentStep_spec ih.2 hok hagent
      exact ⟨ih.1.trans heff, hinv⟩

/-- What holds in every state of a run in order. -/
structure CpInv (sdk : Sdk) (py : PyLib) (cpAnswer : Nat → String → Answer) (s : CpSystem) :
    Prop where
  agent : AgentInv s.agent
  ordered : Ordered s.agent.history
  sourced : Sourced sdk py cpAnswer (coreOfAgent s.agent)

/-- The invariant holds in every run in order. -/
theorem cpInv_run (hsigns : SignsEntries sdk py) {s s' : CpSystem}
    (hrun : Reach (cpStep sdk py cpAnswer) (InOrder py cpAnswer) s s')
    (hs : CpInv sdk py cpAnswer s) : CpInv sdk py cpAnswer s' := by
  obtain ⟨heff, hagent⟩ := cp_run_effects hrun hs.agent
  exact ⟨hagent,
    heff.invariant (P := fun c => Ordered c.history) (fun _ _ => ordered_effect) hs.ordered,
    heff.invariant (fun _ _ => sourced_effect hsigns) hs.sourced⟩

/-- The invariant holds at the start. -/
theorem cpInv_start {s : CpSystem} (hs : AgentStart s.agent)
    (hcp : s.agent.server.cpConfigured = true) : CpInv sdk py cpAnswer s := by
  have hnil : (coreOfAgent s.agent).history = [] := hs.history
  have hcur : (coreOfAgent s.agent).issued.current = none := hs.current
  have hsnap : (coreOfAgent s.agent).snapshot = none := hs.snapshot
  refine ⟨agentInv_start hs hcp, ?_, ?_⟩
  · rw [hs.history]
    exact ⟨.nil, fun e he => by cases he⟩
  · refine ⟨?_, ?_, ?_, ?_⟩
    · intro p hp
      rw [hnil] at hp
      cases hp
    · rw [hnil, hcur]
      rfl
    · intro list source pulled hmem
      rw [hnil] at hmem
      cases hmem
    · rw [hnil, hsnap]
      rfl

/-- The jtis that the agent enforces from a list. -/
def snapshotJtis (s : AgentSystem) : Finset String :=
  (s.server.revocation.snapshot.map Snapshot.entries).getD ∅

/-- The jtis of the snapshot are those of its source. -/
theorem snapshotJtis_eq {s : AgentSystem} (h : Sourced sdk py cpAnswer (coreOfAgent s)) :
    snapshotJtis s = ((snapshotSource s.history).map publishedJtis).getD ∅ :=
  congrArg (·.getD ∅) h.snapshot

/-- **Revocation state never rolls back**, in every run whose answers arrive in order. Once a
refresh that pulled version `v` has applied a list, nothing older than `v` is published or
applied. What is applied is a list that was published. And when a jti that was enforced from a
list is not enforced any more, a version that is not older, and that does not name it, has
been pulled and published. -/
theorem revocation_never_rolls_back (sdk : Sdk) (py : PyLib) (cpAnswer : Nat → String → Answer)
    (hsigns : SignsEntries sdk py) {s₀ s : CpSystem} (hstart : AgentStart s₀.agent)
    (hcp : s₀.agent.server.cpConfigured = true)
    (hrun : Reach (cpStep sdk py cpAnswer) (InOrder py cpAnswer) s₀ s) :
    NoRollback s.agent.history ∧
    (∀ list source pulled, .applied list source pulled ∈ s.agent.history →
      ∃ p, source = some p ∧ p.signed = list ∧ .published p ∈ s.agent.history) ∧
    ∀ s' jti, Reach (cpStep sdk py cpAnswer) (InOrder py cpAnswer) s s' →
      jti ∈ snapshotJtis s.agent → jti ∉ snapshotJtis s'.agent →
      ∃ p p', snapshotSource s.agent.history = some p ∧ .published p' ∈ s'.agent.history ∧
        p.version ≤ p'.version ∧
        pull py p'.requestAid (cpAnswer p'.version p'.requestAid) = .ok p'.entries ∧
        jti ∉ p'.entries.map Entry.jti := by
  have hs := cpInv_run hsigns hrun (cpInv_start hstart hcp)
  refine ⟨hs.ordered.noRollback, hs.sourced.applied, ?_⟩
  intro s' jti hrun' hin hout
  have hs' := cpInv_run hsigns hrun' hs
  rw [snapshotJtis_eq hs.sourced] at hin
  rw [snapshotJtis_eq hs'.sourced] at hout
  cases hp : snapshotSource s.agent.history with
  | none => simp [hp] at hin
  | some p =>
    -- The history only grows, so the later source is not older.
    have hsuffix : s.agent.history <:+ s'.agent.history := (cp_run_effects hrun' hs.agent).1.keeps.1
    obtain ⟨p', hp', hle⟩ := snapshotSource_le hs'.ordered hsuffix hp
    obtain ⟨list, pulled, hmem⟩ := snapshotSource_mem hp'
    obtain ⟨q, hq, -, hpub⟩ := hs'.sourced.applied list (some p') pulled hmem
    cases hq
    refine ⟨p, p', rfl, hpub, hle, (hs'.sourced.published p' hpub).1, ?_⟩
    simpa [hp', publishedJtis] using hout

/-- The SDK of the concrete runs signs the entries it is given. -/
theorem agentSdk_signsEntries : SignsEntries agentSdk agentLib := by
  intro aid entries ttlSecs salt text jtis publishedAt expiresAt hsign hread
  simp only [agentSdk, Sdk.signing] at hsign
  split at hsign
  · rename_i found hlookup
    cases hsign
    obtain ⟨before, after, hlists, -⟩ := List.lookup_eq_some_iff.mp hlookup
    have hall : ∀ l ∈ agentLists, (readEnvelope agentLib l.2).map Prod.fst = .ok l.1.2 := by
      decide +kernel
    have hjtis := hall ((aid, entries.map Entry.jti), text) (by rw [hlists]; simp)
    rw [hread] at hjtis
    cases hjtis
    rfl
  · cases hsign

/-- The control plane of the concrete runs: at version 1 it names one jti, and at the others
none. -/
def cpEntries (v : Nat) (aid : String) : Answer := entriesAnswer aid (if v = 1 then [jtiA] else [])

/-- The agent `a` and its control plane. -/
def newCp : CpSystem := { agent := newAgent, version := 0, handled := fun _ => none }

/-- Two refreshes, of version 1 and then of version 2. The jti of version 1 is enforced until
the list of version 2 is applied. -/
theorem revocation_never_rolls_back_lifted :
    ∃ s s', Reach (cpStep agentSdk agentLib cpEntries) (InOrder agentLib cpEntries) newCp s ∧
      Reach (cpStep agentSdk agentLib cpEntries) (InOrder agentLib cpEntries) s s' ∧
      NoRollback s.agent.history ∧
      ∃ p p', snapshotSource s.agent.history = some p ∧ .published p' ∈ s'.agent.history ∧
        p.version ≤ p'.version ∧ jtiA ∉ p'.entries.map Entry.jti := by
  have hexec : (exec (cpStep agentSdk agentLib cpEntries) (InOrder agentLib cpEntries) newCp
      [.bump, .call (.startRefresh true), .handle 0, .deliver 0 0, .call (.emitted 0 0)]).map
        (fun s => (snapshotJtis s.agent, (exec (cpStep agentSdk agentLib cpEntries)
          (InOrder agentLib cpEntries) s
          [.bump, .call (.startRefresh true), .handle 1, .deliver 1 0, .call (.emitted 1 0)]).map
            fun s' => snapshotJtis s'.agent)) =
      some ({jtiA}, some ∅) := by decide +kernel
  obtain ⟨s, hrun, heq⟩ := exists_reach_of_exec hexec
  obtain ⟨hin, hexec'⟩ := Prod.mk.inj heq
  obtain ⟨s', hrun', hout⟩ := exists_reach_of_exec hexec'
  have hstart : AgentStart newCp.agent := newAgent_start
  obtain ⟨hback, -, hlift⟩ := revocation_never_rolls_back agentSdk agentLib cpEntries
    agentSdk_signsEntries hstart rfl hrun
  obtain ⟨p, p', hp, hp', hle, -, hnot⟩ := hlift s' jtiA hrun' (by simp [hin]) (by simp [hout])
  exact ⟨s, s', hrun, hrun', hback, p, p', hp, hp', hle, hnot⟩

/-- Revocation state rolls back when an older answer arrives late. The first refresh is
handled at version 0 and the second at version 1. The answer of the second arrives first, its
list is applied, and then the answer of the first replaces it. -/
theorem older_answer_rolls_back :
    ¬ ∀ (sdk : Sdk) (py : PyLib) (cpAnswer : Nat → String → Answer) (s₀ s : CpSystem),
      SignsEntries sdk py → AgentStart s₀.agent → s₀.agent.server.cpConfigured = true →
      Reach (cpStep sdk py cpAnswer) NoRotation s₀ s → NoRollback s.agent.history := by
  intro hall
  have hexec : (exec (cpStep agentSdk agentLib cpEntries) NoRotation newCp
      [.call (.startRefresh true), .handle 0, .bump, .call (.startRefresh true), .handle 1,
       .deliver 1 0, .call (.emitted 1 0), .deliver 0 0, .call (.emitted 0 0)]).map
        (fun s => decide (NoRollback s.agent.history)) = some false := by decide +kernel
  obtain ⟨s, hrun, hback⟩ := exists_reach_of_exec hexec
  exact of_decide_eq_false hback (hall agentSdk agentLib cpEntries newCp s agentSdk_signsEntries
    newAgent_start rfl hrun)

end AitpPlayground.Proofs.Agents
