import AitpPlayground.Agents.RevocationServe
import AitpPlayground.Proofs.Agents.Revocation

/-!
# `AitpPlayground.Proofs.Agents.RevocationServe`: an honest list or none

An empty signed list says that nothing is revoked, so it must not stand in for a list that is
missing. `ListInv` ties the list that an agent holds to the last pull for its signer. A failed
pull moves neither of the two. A rotation moves neither either: the list of the old key stays,
and `serveable` passes it over.
-/

set_option autoImplicit false

namespace AitpPlayground.Proofs.Agents

open AitpPlayground.Lib
open AitpPlayground.Agents

variable {sdk : Sdk} {py : PyLib}

/-- A list in force is before its end. -/
theorem lt_expiresAt_of_inForce {l : IssuerRevocationList} {aid : String} {now : ℚ}
    {list : SignedList} (h : l.inForce aid now = some list) : now < list.expiresAt := by
  have hlive := (inForce_eq_some.mp h).2.2
  simpa [SignedList.isExpired] using hlive

/-- The list that is held was signed from the last pull for its signer. -/
structure ListInv (sdk : Sdk) (py : PyLib) (s : ListServer) : Prop where
  cp : s.issued.cpBaseUrl.isSome = true
  pulled : ∀ list, s.issued.current = some list →
    ∃ entries salt, s.lastPull list.signerAid = some entries ∧
      sign sdk py list.signerAid s.issued.ttlSecs entries salt = .ok list

/-- The invariant holds at the start. -/
theorem listInv_start (aid url : String) (ttlSecs : Int) (clock : ℚ) :
    ListInv sdk py (.start aid url ttlSecs clock) := ⟨rfl, nofun⟩

/-- A refresh whose pull fails leaves the list as it was. -/
theorem finishRefresh_of_failed {l : IssuerRevocationList} {aid agent : String}
    {answer : Answer} {exc : PullExc} (h : pull py aid answer = .error exc) (quiet : Bool)
    (salt : Nat) : (l.finishRefresh sdk py aid agent quiet answer salt).1 = l := by
  unfold IssuerRevocationList.finishRefresh
  rw [h]
  cases exc <;> rfl

/-- A refresh whose pull returns holds the list of its entries. -/
theorem finishRefresh_of_pulled {l : IssuerRevocationList} {aid agent : String}
    {answer : Answer} {entries : List Entry} {signed : SignedList} {salt : Nat}
    (h : pull py aid answer = .ok entries)
    (hsign : sign sdk py agent l.ttlSecs entries salt = .ok signed) (quiet : Bool) :
    (l.finishRefresh sdk py aid agent quiet answer salt).1 =
      { l with current := some signed } := by
  unfold IssuerRevocationList.finishRefresh
  rw [h]
  simp only [hsign]

/-- A step keeps it. -/
theorem listInv_step {s s' : ListServer} {l : ListLabel} (h : ListInv sdk py s)
    (hok : refreshCompletes sdk py s l) (hs : listStep sdk py s l = some s') :
    ListInv sdk py s' := by
  cases l with
  | rotate newAid =>
    cases hs
    exact ⟨h.cp, h.pulled⟩
  | advance clock =>
    simp only [listStep] at hs
    split at hs <;> cases hs
    exact ⟨h.cp, h.pulled⟩
  | refresh quiet answer salt =>
    cases hpull : pull py s.aid answer with
    | error exc =>
      simp only [listStep, hpull, finishRefresh_of_failed hpull] at hs
      cases hs
      exact ⟨h.cp, h.pulled⟩
    | ok entries =>
      simp only [refreshCompletes, hpull] at hok
      -- A pull that returned is signed with the key of the agent as it is then.
      cases hsign : sign sdk py s.aid s.issued.ttlSecs entries salt with
      | error exc =>
        rw [hsign] at hok
        cases hok
      | ok signed =>
        simp only [listStep, hpull, finishRefresh_of_pulled hpull hsign] at hs
        cases hs
        refine ⟨h.cp, ?_⟩
        intro list hlist
        cases hlist
        have hsigner := (signedFor_of_sign hsign).signer
        refine ⟨entries, salt, ?_, ?_⟩
        · simp [ListServer.lastPull, hsigner]
        · rw [hsigner]
          exact hsign

/-- The invariant holds in every run. -/
theorem listInv_reach {aid url : String} {ttlSecs : Int} {clock : ℚ} {s : ListServer}
    (h : Reach (listStep sdk py) (refreshCompletes sdk py) (.start aid url ttlSecs clock) s) :
    ListInv sdk py s :=
  h.invariant (fun _ _ _ hinv hok hs => listInv_step hinv hok hs)
    (listInv_start aid url ttlSecs clock)

/-- The list is served honestly: what is served, if anything, is a list that has not reached
its end, signed by the agent from the entries of the last pull for it. -/
def ServedHonestly (sdk : Sdk) (py : PyLib) (s : ListServer) (signed : Option SignedList) :
    Prop :=
  signed = none ∧ (getRevocationList py signed).status = 503 ∨
  ∃ list entries salt, signed = some list ∧ s.clock < list.expiresAt ∧
    list.signerAid = s.aid ∧ s.lastPull s.aid = some entries ∧
    sign sdk py s.aid s.issued.ttlSecs entries salt = .ok list

/-- In every run of refreshes that complete, rotations and readings of the clock, the list is
served honestly, an empty one only if the last pull for the agent returned no entries. And a
refresh whose pull fails leaves what is served as it was. -/
theorem served_list_honest {aid url : String} {ttlSecs : Int} {clock : ℚ} {s : ListServer}
    (h : Reach (listStep sdk py) (refreshCompletes sdk py) (.start aid url ttlSecs clock) s)
    (salt : Nat) :
    ∃ signed, s.served sdk py salt = .ok signed ∧ ServedHonestly sdk py s signed ∧
      (∀ list, signed = some list → list.entryCount = 0 → s.lastPull s.aid = some []) ∧
      ∀ quiet answer salt' s', (∃ exc, pull py s.aid answer = .error exc) →
        listStep sdk py s (.refresh quiet answer salt') = some s' →
          s'.served sdk py salt = .ok signed := by
  have hinv := listInv_reach h
  have hserved : s.served sdk py salt = .ok (s.issued.inForce s.aid s.clock) := by
    unfold ListServer.served
    rw [serveable_of_cp hinv.cp]
  have hhonest : ServedHonestly sdk py s (s.issued.inForce s.aid s.clock) := by
    -- The list of an earlier key is not in force, and no list is a 503.
    cases hforce : s.issued.inForce s.aid s.clock with
    | none => exact .inl ⟨rfl, rfl⟩
    | some list =>
      obtain ⟨hcur, hsigner, -⟩ := inForce_eq_some.mp hforce
      obtain ⟨entries, salt', hpull, hsign⟩ := hinv.pulled list hcur
      rw [hsigner] at hpull hsign
      exact .inr ⟨list, entries, salt', rfl, lt_expiresAt_of_inForce hforce, hsigner, hpull,
        hsign⟩
  refine ⟨_, hserved, hhonest, ?_, ?_⟩
  · intro list hlist hempty
    rcases hhonest with ⟨hnone, -⟩ | ⟨list', entries, salt', hsome, -, -, hpull, hsign⟩
    · rw [hnone] at hlist
      cases hlist
    · rw [hsome] at hlist
      cases hlist
      -- The signed list has as many entries as the pull.
      have hlen := (signedFor_of_sign hsign).count
      rw [hempty] at hlen
      rw [hpull, List.eq_nil_of_length_eq_zero hlen.symm]
  · rintro quiet answer salt' s' ⟨exc, hpull⟩ hs
    simp only [listStep, hpull, finishRefresh_of_failed hpull] at hs
    cases hs
    exact hserved

/-- A run in which a pull fails after one that returned: the list of that one is served. -/
theorem served_list_honest_after_failed_pull :
    ∃ s signed, Reach (listStep agentSdk agentLib) (refreshCompletes agentSdk agentLib)
        (.start "a" "http://cp" 3600 0) s ∧
      s.lastPull "a" = some [⟨jtiA, 0, none⟩] ∧
      s.served agentSdk agentLib 0 = .ok signed ∧ ServedHonestly agentSdk agentLib s signed := by
  have hexec : (exec (listStep agentSdk agentLib) (refreshCompletes agentSdk agentLib)
      (.start "a" "http://cp" 3600 0)
      [.refresh true (entriesAnswer "a" [jtiA]) 0, .refresh true (.failed "refused") 0,
       .advance 100]).map (fun s => s.lastPull "a") = some (some [⟨jtiA, 0, none⟩]) := by
    decide +kernel
  obtain ⟨s, hrun, hpull⟩ := exists_reach_of_exec hexec
  obtain ⟨signed, hserved, hhonest, -, -⟩ := served_list_honest hrun 0
  exact ⟨s, signed, hrun, hpull, hserved, hhonest⟩

end AitpPlayground.Proofs.Agents
