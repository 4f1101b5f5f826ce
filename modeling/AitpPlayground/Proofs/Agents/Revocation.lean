import AitpPlayground.Proofs.Agents.AgentSystem

/-!
# `AitpPlayground.Proofs.Agents.Revocation`: whose list is it

An agent signs the entries of the control plane for one AID, and a key rotation gives it
another AID. Two properties say that the two do not mix.

* `list_entries_asked_for_by_signer`: a list signed by `x` holds the entries that the control
  plane gave for `x`. `refresh` reads the AID before the pull and the signing key after it, so
  this needs `AskedForByAgent`: no rotation between a request and its answer
  (`list_signed_across_rotation`).
* `snapshot_of_current_identity`: a capability call that passes the freshness check is judged
  on a snapshot of the agent's own AID, if and only if no rotation came after the snapshot was
  applied. `serveable` compares the signer with the agent, but a snapshot that is in force has
  no signer (`snapshot_outlives_rotation`).
-/

set_option autoImplicit false

namespace AitpPlayground.Proofs.Agents

open AitpPlayground.Lib
open AitpPlayground.Agents

variable {sdk : Sdk} {py : PyLib} {ok : AgentCore → Publication → Prop}

/-- The invariant holds at the start. -/
theorem agentInv_start {s : AgentSystem} (hs : AgentStart s)
    (hcp : s.server.cpConfigured = true) : AgentInv s := by
  refine ⟨hcp, ?_⟩
  rw [hs.tasks]
  intro t ht
  cases ht

/-! ### A concrete agent -/

/-- A call that returns nothing, read off its truth value. -/
theorem eq_ok_of_isOk {ε : Type} {x : Except ε Unit} (h : x.isOk = true) : x = .ok () := by
  cases x with
  | error e => cases h
  | ok u => rfl

/-- A jti of the concrete runs. -/
def jtiA : String := "5f0c2b1e-7d1a-4c55-9d0f-0b6f3f6d7a01"

/-- The body of a signed list of the concrete runs. -/
def envelopeOf (aid : String) (jtis : List String) : Json :=
  .obj [("revocation_list", .obj
    [("iss", .str aid), ("published_at", .num (.int 0)), ("expires_at", .num (.int 3600)),
     ("entries", .arr (jtis.map fun j => .obj [("jti", .str j), ("revoked_at", .num (.int 0))]))])]

/-- The lists of the concrete runs: a signer and its jtis, to the text of the envelope. -/
def agentLists : List ((String × List String) × String) :=
  [(("a", [jtiA]), "list of a"), (("a", []), "empty list of a"),
   (("b", [jtiA]), "list of b"), (("b", []), "empty list of b")]

/-- The library of the concrete runs: it reads the envelopes of these lists. -/
def agentLib : PyLib :=
  { PyLib.reading (agentLists.map fun l => (l.2, envelopeOf l.1.1 l.1.2)) with uuidStr := .ok }

/-- The SDK of the concrete runs. -/
def agentSdk : Sdk := .signing agentLists

/-- The answer of the control plane with the entries of an issuer. -/
def entriesAnswer (aid : String) (jtis : List String) : Answer :=
  .response 200 (.ok (.obj
    [("iss", .str aid),
     ("entries", .arr (jtis.map fun j => .obj [("jti", .str j), ("revoked_at", .num (.int 0))]))]))

/-- The agent `a` with a control plane, as it is built. -/
def newAgent : AgentSystem where
  server :=
    { aid := "a"
      issuedRevocations := { cpBaseUrl := some "http://cp", ttlSecs := 3600, current := none }
      revocation := .new
      revocationFailMode := "fail_closed"
      revocationMaxStalenessSecs := 300
      popChallenges := .new
      tctStore := false
      tctCacheHits := 0
      tctCacheMisses := 0
      degradedServes := 0 }
  clock := 0
  tasks := []
  history := []

/-- The agent of the concrete runs is a start. -/
theorem newAgent_start : AgentStart newAgent := ⟨rfl, rfl, rfl, rfl, rfl⟩

/-- The same agent without a control plane. -/
def localAgent : AgentSystem :=
  { newAgent with
      server := { newAgent.server with
        issuedRevocations := { cpBaseUrl := none, ttlSecs := 3600, current := none } } }

/-! ### The entries of a list -/

/-- The current list was signed from the entries that the control plane gave for its
signer. -/
def OwnEntries (sdk : Sdk) (py : PyLib) (c : AgentCore) : Prop :=
  ∀ list, c.issued.current = some list →
    ∃ p, .published p ∈ c.history ∧ p.signed = list ∧ p.requestAid = list.signerAid ∧
      pull py p.requestAid p.answer = .ok p.entries ∧
      ∃ salt, sign sdk py list.signerAid c.issued.ttlSecs p.entries salt = .ok list

/-- A publication was asked for under the AID of the agent. -/
def askedByAgent (c : AgentCore) (p : Publication) : Prop := p.requestAid = c.aid

/-- Every effect keeps the entries the agent's own. -/
theorem ownEntries_effect {c c' : AgentCore} (hc : OwnEntries sdk py c)
    (he : Effect sdk py askedByAgent c c') : OwnEntries sdk py c' := by
  intro list hlist
  cases he with
  | publish p salt pulled signed meets =>
    cases hlist
    -- The signer is the agent of this moment, and so is the AID of the request.
    have hsigner := (signedFor_of_sign signed).signer
    refine ⟨p, List.mem_cons_self, rfl, meets.trans hsigner.symm, pulled, salt, ?_⟩
    rw [hsigner]
    exact signed
  | rotate | apply | challenge =>
    -- The list is as it was, and the history is longer.
    obtain ⟨p, hp, hrest⟩ := hc list hlist
    exact ⟨p, List.mem_cons_of_mem _ hp, hrest⟩

/-- The guard on the steps: entries that come back were asked for under the AID that the agent
has when they come back. -/
def AskedForByAgent (py : PyLib) (s : AgentSystem) : AgentLabel → Prop
  | .resume i answer _ _ =>
    ∀ aid ∈ s.tasks[i]?.bind Task.pulling?, (pull py aid answer).isOk = true → aid = s.server.aid
  | _ => True

instance (py : PyLib) (s : AgentSystem) (l : AgentLabel) : Decidable (AskedForByAgent py s l) :=
  match l with
  | .resume i answer _ _ => inferInstanceAs (Decidable (∀ aid ∈ s.tasks[i]?.bind Task.pulling?,
      (pull py aid answer).isOk = true → aid = s.server.aid))
  | .tick _ | .revokeLocal _ | .startRefresh _ | .rotate _ _ | .emitted _ _ | .serve _
  | .capability _ _ _ _ => isTrue trivial

/-- An answer that was asked for under the AID is a good one to resume with. -/
theorem resumeOk_of_askedForByAgent {s : AgentSystem} {l : AgentLabel}
    (h : AskedForByAgent py s l) : ResumeOk py askedByAgent s l := by
  rintro i answer version salt rfl t ht aid haid entries hpull signed
  apply h aid
  · simp [ht, Task.pulling?, haid]
  · rw [hpull]
    rfl

/-- **A signed list carries only its signer's entries**, in every run of an agent with a
control plane whose steps all meet `AskedForByAgent`. -/
theorem list_entries_asked_for_by_signer (sdk : Sdk) (py : PyLib) {s₀ s : AgentSystem}
    (hstart : AgentStart s₀) (hcp : s₀.server.cpConfigured = true)
    (hrun : Reach (agentStep sdk py) (AskedForByAgent py) s₀ s) :
    ∀ list, s.server.issuedRevocations.current = some list →
      ∃ p, .published p ∈ s.history ∧ p.signed = list ∧ p.requestAid = list.signerAid ∧
        pull py p.requestAid p.answer = .ok p.entries ∧
        ∃ salt, sign sdk py list.signerAid s.server.issuedRevocations.ttlSecs p.entries salt =
          .ok list := by
  obtain ⟨heff, -⟩ := run_effects (fun _ _ => resumeOk_of_askedForByAgent) hrun
    (agentInv_start hstart hcp)
  refine heff.invariant (P := OwnEntries sdk py) (fun _ _ => ownEntries_effect) ?_
  intro list hlist
  have hnone : (coreOfAgent s₀).issued.current = none := hstart.current
  rw [hnone] at hlist
  cases hlist

/-- A run with a rotation that waits for the answer: the list of the agent `b` holds the
entries of `b`. -/
theorem list_entries_asked_for_after_rotation :
    ∃ s list, Reach (agentStep agentSdk agentLib) (AskedForByAgent agentLib) newAgent s ∧
      s.server.issuedRevocations.current = some list ∧ list.signerAid = "b" ∧
      ∃ p, .published p ∈ s.history ∧ p.signed = list ∧ p.requestAid = list.signerAid ∧
        pull agentLib p.requestAid p.answer = .ok p.entries ∧
        ∃ salt, sign agentSdk agentLib list.signerAid s.server.issuedRevocations.ttlSecs p.entries
          salt = .ok list := by
  have hexec : (exec (agentStep agentSdk agentLib) (AskedForByAgent agentLib) newAgent
      [.startRefresh true, .resume 0 (entriesAnswer "a" [jtiA]) 1 0, .rotate "b" 0,
       .resume 1 (entriesAnswer "b" []) 1 0]).map (·.server.issuedRevocations.current) =
      some (some ⟨"empty list of b", "b", 0, 0, 3600⟩) := by decide +kernel
  obtain ⟨s, hrun, hcur⟩ := exists_reach_of_exec hexec
  exact ⟨s, _, hrun, hcur, rfl,
    list_entries_asked_for_by_signer agentSdk agentLib newAgent_start rfl hrun _ hcur⟩

/-- The property fails on a rotation that lands while a pull is under way. The agent `a` asks
for its entries, becomes `b`, and then signs the entries of `a` as a list of `b`. -/
theorem list_signed_across_rotation :
    ¬ ∀ (sdk : Sdk) (py : PyLib) (s₀ s : AgentSystem), AgentStart s₀ →
      s₀.server.cpConfigured = true → Reach (agentStep sdk py) anyStep s₀ s →
      ∀ list, s.server.issuedRevocations.current = some list →
        ∃ p, .published p ∈ s.history ∧ p.signed = list ∧ p.requestAid = list.signerAid := by
  intro hall
  have hexec : (exec (agentStep agentSdk agentLib) anyStep newAgent
      [.startRefresh true, .rotate "b" 0, .resume 0 (entriesAnswer "a" [jtiA]) 1 0]).map
        (fun s => (s.server.issuedRevocations.current,
          s.history.map fun e => e.publication?.map Publication.requestAid)) =
      some (some ⟨"list of b", "b", 1, 0, 3600⟩, [some "a", none]) := by decide +kernel
  obtain ⟨s, hrun, heq⟩ := exists_reach_of_exec hexec
  obtain ⟨hcur, hasked⟩ := Prod.mk.inj heq
  obtain ⟨p, hp, -, hsigner⟩ :=
    hall agentSdk agentLib newAgent s newAgent_start rfl hrun _ hcur
  have hmem := List.mem_map_of_mem (f := fun e => e.publication?.map Publication.requestAid) hp
  rw [hasked] at hmem
  simp [AgentEvent.publication?, hsigner] at hmem

/-! ### The identity of the snapshot -/

/-- The list that was applied last, and whether a rotation came after. -/
def lastApplied : List AgentEvent → Option (SignedList × Bool)
  | [] => none
  | .applied list _ _ :: _ => some (list, false)
  | .rotated _ :: history => (lastApplied history).map fun a => (a.1, true)
  | .published _ :: history | .popIssued _ _ _ :: history | .popConsumed _ :: history =>
    lastApplied history

/-- A rotation makes a key that no list was signed with before. -/
def FreshKeys (history : List AgentEvent) : Prop :=
  history.Pairwise fun newer older => ∀ aid list source pulled,
    newer = .rotated aid → older = .applied list source pulled → list.signerAid ≠ aid

/-- The last application is in the history. -/
theorem lastApplied_mem {history : List AgentEvent} {list : SignedList} {rotated : Bool}
    (h : lastApplied history = some (list, rotated)) :
    ∃ source pulled, .applied list source pulled ∈ history := by
  induction history generalizing rotated with
  | nil => cases h
  | cons e history ih =>
    cases e with
    | applied l source pulled =>
      cases h
      exact ⟨source, pulled, List.mem_cons_self⟩
    | rotated aid =>
      obtain ⟨⟨l, r⟩, hlast, heq⟩ := Option.map_eq_some_iff.mp h
      cases heq
      obtain ⟨source, pulled, hmem⟩ := ih hlast
      exact ⟨source, pulled, List.mem_cons_of_mem _ hmem⟩
    | published p | popIssued nonce challenge expiresAt | popConsumed nonce =>
      obtain ⟨source, pulled, hmem⟩ := ih h
      exact ⟨source, pulled, List.mem_cons_of_mem _ hmem⟩

/-- An event of a challenge applies nothing. -/
theorem lastApplied_popEvent {e : AgentEvent} (he : isPopEvent e = true)
    (history : List AgentEvent) : lastApplied (e :: history) = lastApplied history := by
  cases e <;> first | rfl | cases he

/-- The snapshot in force is what the last applied list says. Its signer is the agent unless a
rotation came after, and then it is another one, when keys are fresh. -/
structure SnapshotOf (py : PyLib) (c : AgentCore) (snap : Snapshot) (list : SignedList)
    (rotated : Bool) : Prop where
  last : lastApplied c.history = some (list, rotated)
  read : ∃ jtis, readEnvelope py list.envelopeJson = .ok (jtis, snap.publishedAt, snap.expiresAt) ∧
    snap.entries = jtis.toFinset
  own : rotated = false → list.signerAid = c.aid
  other : FreshKeys c.history → rotated = true → list.signerAid ≠ c.aid

/-- The snapshot in force has a list. -/
def SnapshotListed (py : PyLib) (c : AgentCore) : Prop :=
  ∀ snap, c.snapshot = some snap → ∃ list rotated, SnapshotOf py c snap list rotated

/-- Every effect keeps the snapshot that of a list. -/
theorem snapshotListed_effect {c c' : AgentCore} (hc : SnapshotListed py c)
    (he : Effect sdk py ok c c') : SnapshotListed py c' := by
  intro snap hsnap
  cases he with
  | rotate aid =>
    obtain ⟨list, rotated, hof⟩ := hc snap hsnap
    refine ⟨list, true, ?_, hof.read, ?_, ?_⟩
    · simp [lastApplied, hof.last]
    · intro hrot
      cases hrot
    · -- The new key signed no list that was applied before.
      intro hfresh _
      obtain ⟨source, pulled, hmem⟩ := lastApplied_mem hof.last
      exact (List.pairwise_cons.mp hfresh).1 _ hmem aid list source pulled rfl rfl
  | publish p salt pulled signed meets =>
    obtain ⟨list, rotated, hof⟩ := hc snap hsnap
    exact ⟨list, rotated, hof.last, hof.read, hof.own,
      fun hfresh => hof.other (List.pairwise_cons.mp hfresh).2⟩
  | apply list now jtis publishedAt expiresAt version inForce read pulled =>
    -- `serveable` gives a list of the agent only.
    cases hsnap
    refine ⟨list, false, rfl, ⟨jtis, read, rfl⟩, fun _ => (inForce_eq_some.mp inForce).2.1, ?_⟩
    intro _ hrot
    cases hrot
  | challenge e hpop =>
    obtain ⟨list, rotated, hof⟩ := hc snap hsnap
    exact ⟨list, rotated, (lastApplied_popEvent hpop _).trans hof.last, hof.read, hof.own,
      fun hfresh => hof.other (List.pairwise_cons.mp hfresh).2⟩

/-- Without a condition on the publications, every step is admitted. -/
theorem resumeOk_trivial (s : AgentSystem) (l : AgentLabel) :
    ResumeOk py (fun _ _ => True) s l := by
  intro i answer version salt _ t _ aid _ entries _ signed
  trivial

/-- **The freshness check is about the current identity, exactly when no rotation came after
the snapshot was applied.** In every run of an agent with a control plane, and under every
mode but `soft_fail`, a call that passes the check finds a snapshot that was read from the list
applied last. That list is signed by the agent of the moment if no rotation came after. And
only then, where a rotation makes a fresh key. -/
theorem snapshot_of_current_identity (sdk : Sdk) (py : PyLib) {s₀ s : AgentSystem}
    (hstart : AgentStart s₀) (hcp : s₀.server.cpConfigured = true)
    (hrun : Reach (agentStep sdk py) anyStep s₀ s)
    (hmode : s.server.revocationFailMode ≠ "soft_fail")
    (hpass : (s.server.enforceRevocationFreshness py s.clock).2 = .ok ()) :
    ∃ snap list rotated, s.server.revocation.snapshot = some snap ∧
      lastApplied s.history = some (list, rotated) ∧
      (∃ jtis, readEnvelope py list.envelopeJson = .ok (jtis, snap.publishedAt, snap.expiresAt) ∧
        snap.entries = jtis.toFinset) ∧
      (rotated = false → list.signerAid = s.server.aid) ∧
      (FreshKeys s.history → (list.signerAid = s.server.aid ↔ rotated = false)) := by
  obtain ⟨heff, hinv⟩ := run_effects (fun s l _ => resumeOk_trivial s l) hrun
    (agentInv_start hstart hcp)
  -- The check passes only with a snapshot.
  obtain ⟨snap, hsnap, -, -⟩ := enforceRevocationFreshness_current hinv.cp hmode hpass
  have hlisted : SnapshotListed py (coreOfAgent s) := by
    refine heff.invariant (P := SnapshotListed py) (fun _ _ => snapshotListed_effect) ?_
    intro snap₀ hsnap₀
    have hnone : (coreOfAgent s₀).snapshot = none := hstart.snapshot
    rw [hnone] at hsnap₀
    cases hsnap₀
  obtain ⟨list, rotated, hof⟩ := hlisted snap hsnap
  refine ⟨snap, list, rotated, hsnap, hof.last, hof.read, hof.own, ?_⟩
  intro hfresh
  refine ⟨?_, hof.own⟩
  intro hsigner
  cases rotated with
  | false => rfl
  | true => exact absurd hsigner (hof.other hfresh rfl)

/-- The agent `a` refreshes once, and its calls are judged on its own list. -/
theorem snapshot_of_current_identity_refreshed :
    ∃ s snap list, Reach (agentStep agentSdk agentLib) anyStep newAgent s ∧
      s.server.revocation.snapshot = some snap ∧
      lastApplied s.history = some (list, false) ∧ list.signerAid = s.server.aid := by
  have hexec : (exec (agentStep agentSdk agentLib) anyStep newAgent
      [.startRefresh true, .resume 0 (entriesAnswer "a" [jtiA]) 1 0, .emitted 0 0]).map
        (fun s => (s.server.revocationFailMode,
          (s.server.enforceRevocationFreshness agentLib s.clock).2.isOk,
          (lastApplied s.history).map Prod.snd)) =
      some ("fail_closed", true, some false) := by decide +kernel
  obtain ⟨s, hrun, heq⟩ := exists_reach_of_exec hexec
  obtain ⟨hmode, heq⟩ := Prod.mk.inj heq
  obtain ⟨hisOk, hlast⟩ := Prod.mk.inj heq
  have hpass : (s.server.enforceRevocationFreshness agentLib s.clock).2 = .ok () :=
    eq_ok_of_isOk hisOk
  obtain ⟨snap, list, rotated, hsnap, hlist, -, hown, -⟩ :=
    snapshot_of_current_identity agentSdk agentLib newAgent_start rfl hrun
      (by rw [hmode]; decide) hpass
  rw [hlist] at hlast
  cases hlast
  exact ⟨s, snap, list, hrun, hsnap, hlist, hown rfl⟩

/-- The property fails on a rotation that is followed by an outage. The agent `a` applies its
list and becomes `b`, and both pulls of the rotation fail. A call then passes the freshness
check of `b` on the snapshot of `a`. -/
theorem snapshot_outlives_rotation :
    ¬ ∀ (sdk : Sdk) (py : PyLib) (s₀ s : AgentSystem), AgentStart s₀ →
      s₀.server.cpConfigured = true → Reach (agentStep sdk py) anyStep s₀ s →
      s.server.revocationFailMode ≠ "soft_fail" →
      (s.server.enforceRevocationFreshness py s.clock).2 = .ok () →
      ∃ list rotated, lastApplied s.history = some (list, rotated) ∧
        list.signerAid = s.server.aid := by
  intro hall
  -- Both pulls of the rotation fail, and the snapshot of `a` is still fresh.
  have hexec : (exec (agentStep agentSdk agentLib) anyStep newAgent
      [.startRefresh true, .resume 0 (entriesAnswer "a" [jtiA]) 1 0, .emitted 0 0, .rotate "b" 0,
       .resume 1 (.failed "unreachable") 0 0, .resume 1 (.failed "unreachable") 0 0, .tick 60]).map
        (fun s => (s.server.revocationFailMode,
          (s.server.enforceRevocationFreshness agentLib s.clock).2.isOk, s.server.aid,
          (lastApplied s.history).map fun a => a.1.signerAid)) =
      some ("fail_closed", true, "b", some "a") := by decide +kernel
  obtain ⟨s, hrun, heq⟩ := exists_reach_of_exec hexec
  obtain ⟨hmode, heq⟩ := Prod.mk.inj heq
  obtain ⟨hisOk, heq⟩ := Prod.mk.inj heq
  obtain ⟨haid, hlast⟩ := Prod.mk.inj heq
  obtain ⟨list, rotated, hlist, hsigner⟩ :=
    hall agentSdk agentLib newAgent s newAgent_start rfl hrun
      (by rw [hmode]; decide) (eq_ok_of_isOk hisOk)
  rw [hlist] at hlast
  simp [hsigner, haid] at hlast

end AitpPlayground.Proofs.Agents
