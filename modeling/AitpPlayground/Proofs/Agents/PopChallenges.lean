import AitpPlayground.Agents.PopCalls
import AitpPlayground.Proofs.Agents.AitpServer

/-!
# `AitpPlayground.Proofs.Agents.PopChallenges`: each challenge is answered once

The table of a `PopChallenges` drops an expired challenge at the next call that looks at it, so
it holds more than the challenges that can still be answered. `Faithful` says what it holds in
every run: only challenges that were issued and not consumed, and among them all that are not
expired. From this `consume_once` reads off when a response is accepted, when a call is refused,
and what a call that raises leaves.
-/

set_option autoImplicit false

namespace AitpPlayground.Proofs.Agents

open AitpPlayground.Lib
open AitpPlayground.Agents

variable {py : PyLib} {s s' : PopRun} {c : PopCall} {now : ℚ}

/-! ### The statement -/

/-- The builder of the call, if it returns, gives a nonce that no earlier challenge has. -/
def FreshNonce (py : PyLib) (s : PopRun) : PopCall → Prop
  | .issue _ newChallenge => ∀ challenge nonce expiresAt,
      newChallenge s.challenges.ttlSecs = .ok challenge →
      PopChallenges.entryFor py challenge = .ok (nonce, expiresAt) →
        ∀ old ∈ s.issued, ∀ e, PopChallenges.entryFor py old ≠ .ok (nonce, e)
  | .consume _ _ => True

/-- The challenge is not past its end. -/
def live (py : PyLib) (now : ℚ) (challenge : String) : Bool :=
  match PopChallenges.entryFor py challenge with
  | .ok (_, expiresAt) => !expiresAt.lt (.fin now)
  | .error _ => false

/-- The challenges that are still to be answered: issued, not consumed, not past their end. -/
def unanswered (py : PyLib) (s : PopRun) (now : ℚ) : List String :=
  s.issued.filter fun challenge => !s.consumed.contains challenge && live py now challenge

/-- The response is a JSON object that names this nonce, and the nonce is not empty. -/
def Names (py : PyLib) (responseJson nonce : String) : Prop :=
  ∃ body d, py.jsonLoads responseJson = .ok body ∧ body.dict? = some d ∧
    d.get? "nonce_echo" = some (.str nonce) ∧ nonce ≠ ""

/-! ### The invariant -/

/-- The table and what has been issued and consumed. -/
structure Faithful (py : PyLib) (s : PopRun) : Prop where
  nodup : s.issued.Nodup
  /-- The challenges have different nonces. -/
  distinct : ∀ c ∈ s.issued, ∀ c' ∈ s.issued, ∀ nonce e e',
    PopChallenges.entryFor py c = .ok (nonce, e) →
      PopChallenges.entryFor py c' = .ok (nonce, e') → c = c'
  consumed : ∀ c ∈ s.consumed, c ∈ s.issued
  /-- What the table holds was issued and is not consumed. -/
  sound : ∀ nonce c e, s.challenges.outstanding.get? nonce = some (c, e) →
    PopChallenges.entryFor py c = .ok (nonce, e) ∧ c ∈ s.issued ∧ c ∉ s.consumed
  /-- What was issued, is not consumed and not past its end is in the table. -/
  complete : ∀ nonce c e, c ∈ s.issued → c ∉ s.consumed →
    PopChallenges.entryFor py c = .ok (nonce, e) → e.lt (.fin s.clock) = false →
      s.challenges.outstanding.get? nonce = some (c, e)
  bounded : (s.challenges.outstanding.size : Int) ≤ max 0 s.challenges.maxEntries

/-- At the start nothing is outstanding. -/
theorem faithful_start (ttlSecs maxEntries : Int) (clock : ℚ) :
    Faithful py (.start ttlSecs maxEntries clock) :=
  ⟨.nil, nofun, nofun, nofun, nofun, le_max_left _ _⟩

/-- A challenge that is past its end stays so. -/
theorem lt_fin_mono {x : PyFloat} {t t' : ℚ} (hle : t ≤ t') (h : x.lt (.fin t') = false) :
    x.lt (.fin t) = false := by
  cases x with
  | fin q =>
    simp only [PyFloat.lt_fin, decide_eq_false_iff_not, not_lt] at h ⊢
    exact hle.trans h
  | nan => rfl
  | inf neg => exact h

/-! ### The calls -/

/-- The clock moves on. -/
theorem Faithful.later (h : Faithful py s) (hle : s.clock ≤ now) :
    Faithful py { s with clock := now } :=
  ⟨h.nodup, h.distinct, h.consumed, h.sound,
    fun nonce c e hc hnot he hlive => h.complete nonce c e hc hnot he (lt_fin_mono hle hlive),
    h.bounded⟩

/-- The clock moves on, and the table drops what is past its end. -/
theorem Faithful.pruned (h : Faithful py s) (hle : s.clock ≤ now) :
    Faithful py { s with challenges := s.challenges.prune now, clock := now } := by
  refine ⟨h.nodup, h.distinct, h.consumed, ?_, ?_, ?_⟩
  · intro nonce c e hget
    exact h.sound nonce c e (outstanding_prune.mp hget).1
  · intro nonce c e hc hnot he hlive
    exact outstanding_prune.mpr
      ⟨h.complete nonce c e hc hnot he (lt_fin_mono hle hlive), hlive⟩
  · exact (Int.ofNat_le.mpr (Dict.size_filter_le _ _)).trans h.bounded

/-- A challenge with a new nonce is recorded, where there is room. -/
theorem Faithful.issue (h : Faithful py s) {challenge : String} {nonce : PyKey}
    {expiresAt : PyFloat} (hentry : PopChallenges.entryFor py challenge = .ok (nonce, expiresAt))
    (hfresh : ∀ old ∈ s.issued, ∀ e, PopChallenges.entryFor py old ≠ .ok (nonce, e))
    (hroom : ¬s.challenges.maxEntries ≤ s.challenges.outstanding.size) :
    Faithful py { s with
      challenges := { s.challenges with
        outstanding := s.challenges.outstanding.set nonce (challenge, expiresAt) }
      issued := challenge :: s.issued } := by
  have hnew : challenge ∉ s.issued := fun hold => hfresh challenge hold expiresAt hentry
  refine ⟨List.nodup_cons.mpr ⟨hnew, h.nodup⟩, ?_, ?_, ?_, ?_, ?_⟩
  · intro c hc c' hc' nonce' e e' he he'
    rcases List.mem_cons.mp hc with rfl | hold
    · rcases List.mem_cons.mp hc' with rfl | hold'
      · rfl
      · cases hentry.symm.trans he
        exact absurd he' (hfresh c' hold' e')
    · rcases List.mem_cons.mp hc' with rfl | hold'
      · cases hentry.symm.trans he'
        exact absurd he (hfresh c hold e)
      · exact h.distinct c hold c' hold' nonce' e e' he he'
  · exact fun c hc => List.mem_cons_of_mem _ (h.consumed c hc)
  · intro nonce' c e hget
    rw [Dict.get?_set] at hget
    split at hget
    · rename_i heq
      cases heq
      cases hget
      exact ⟨hentry, List.mem_cons_self, fun hconsumed => hnew (h.consumed _ hconsumed)⟩
    · obtain ⟨he, hc, hnot⟩ := h.sound nonce' c e hget
      exact ⟨he, List.mem_cons_of_mem _ hc, hnot⟩
  · intro nonce' c e hc hnot he hlive
    rcases List.mem_cons.mp hc with rfl | hc
    · cases hentry.symm.trans he
      exact Dict.get?_set_self _ _ _
    · -- An old challenge has another nonce.
      have hne : nonce ≠ nonce' := by
        rintro rfl
        exact hfresh c hc e he
      rw [Dict.get?_set_ne _ _ hne]
      exact h.complete nonce' c e hc hnot he hlive
  · have hsize := Dict.size_set_le s.challenges.outstanding nonce (challenge, expiresAt)
    rw [not_le] at hroom
    simp only
    omega

/-- A challenge is taken out. -/
theorem Faithful.consume (h : Faithful py s) {challenge : String} {nonce : PyKey}
    {expiresAt : PyFloat}
    (hget : s.challenges.outstanding.get? nonce = some (challenge, expiresAt)) :
    Faithful py { s with
      challenges := { s.challenges with outstanding := s.challenges.outstanding.erase nonce }
      consumed := challenge :: s.consumed } := by
  obtain ⟨hentry, hissued, hnot⟩ := h.sound nonce challenge expiresAt hget
  refine ⟨h.nodup, h.distinct, ?_, ?_, ?_, ?_⟩
  · intro c hc
    rcases List.mem_cons.mp hc with rfl | hc
    · exact hissued
    · exact h.consumed c hc
  · intro nonce' c e hget'
    rw [Dict.get?_erase] at hget'
    split at hget'
    · cases hget'
    · rename_i hne
      obtain ⟨he, hc, hnot'⟩ := h.sound nonce' c e hget'
      refine ⟨he, hc, ?_⟩
      rw [List.mem_cons, not_or]
      refine ⟨?_, hnot'⟩
      rintro rfl
      cases hentry.symm.trans he
      exact hne rfl
  · intro nonce' c e hc hnot' he hlive
    rw [List.mem_cons, not_or] at hnot'
    have hne : nonce' ≠ nonce := by
      rintro rfl
      exact hnot'.1 (h.distinct c hc _ hissued _ _ _ he hentry)
    rw [Dict.get?_erase, if_neg hne]
    exact h.complete nonce' c e hc hnot'.2 he hlive
  · exact (Int.ofNat_le.mpr (Dict.size_filter_le _ _)).trans h.bounded

/-! ### Runs -/

/-- A call is made when its clock does not go back. -/
theorem popStep_eq_some (h : popStep py s c = some s') :
    s.clock ≤ c.now ∧ s' = (s.call py c).1 := by
  unfold popStep at h
  split at h
  · rename_i hle
    cases h
    exact ⟨hle, rfl⟩
  · cases h

/-- A call with a fresh nonce keeps the table faithful. -/
theorem faithful_step (h : Faithful py s) (hfresh : FreshNonce py s c)
    (hstep : popStep py s c = some s') : Faithful py s' := by
  obtain ⟨hle, rfl⟩ := popStep_eq_some hstep
  cases c with
  | issue now newChallenge =>
    have hpruned := h.pruned hle
    rcases issue_spec py s.challenges now newChallenge with
      ⟨-, refusal, hissue⟩ | ⟨exc, hissue⟩ | ⟨challenge, nonce, expiresAt, hroom, hnew, hentry,
        hissue⟩
    · simp only [PopRun.call, hissue]
      exact hpruned
    · simp only [PopRun.call, hissue]
      exact hpruned
    · have hnonce := hfresh challenge nonce expiresAt hnew hentry
      simp only [PopRun.call, hissue]
      exact hpruned.issue hentry hnonce hroom
  | consume now responseJson =>
    rcases consume_cases py s.challenges now responseJson with
      ⟨p', exc, hconsume, rfl | rfl⟩ | ⟨nonce, challenge, expiresAt, -, hget, hconsume⟩
    · simp only [PopRun.call, hconsume]
      exact h.later hle
    · simp only [PopRun.call, hconsume]
      exact h.pruned hle
    · simp only [PopRun.call, hconsume]
      exact (h.pruned hle).consume hget

/-- The table is faithful in every run. -/
theorem faithful_run {ttlSecs maxEntries : Int} {clock : ℚ}
    (hrun : Reach (popStep py) (FreshNonce py) (.start ttlSecs maxEntries clock) s) :
    Faithful py s :=
  hrun.invariant (fun _ _ _ h hfresh hstep => faithful_step h hfresh hstep)
    (faithful_start ttlSecs maxEntries clock)

/-- The capacity stays. -/
theorem maxEntries_run {ttlSecs maxEntries : Int} {clock : ℚ}
    (hrun : Reach (popStep py) (FreshNonce py) (.start ttlSecs maxEntries clock) s) :
    s.challenges.maxEntries = maxEntries := by
  refine hrun.invariant (P := fun u => u.challenges.maxEntries = maxEntries) ?_ rfl
  intro u c u' hu _ hstep
  obtain ⟨-, rfl⟩ := popStep_eq_some hstep
  rw [← hu]
  cases c with
  | issue now newChallenge =>
    rcases issue_cases py u.challenges now newChallenge with ⟨_, h⟩ | ⟨_, _, _, -, h⟩ <;>
      simp only [PopRun.call, h] <;> rfl
  | consume now responseJson =>
    rcases consume_cases py u.challenges now responseJson with
      ⟨_, _, h, rfl | rfl⟩ | ⟨_, _, _, -, -, h⟩ <;> simp only [PopRun.call, h] <;> rfl

/-! ### What the calls do -/

/-- A response is read as a nonce when it names one. -/
theorem nonceEcho_eq_ok {responseJson nonce : String} :
    PopChallenges.nonceEcho py responseJson = .ok nonce ↔ Names py responseJson nonce := by
  unfold PopChallenges.nonceEcho Names
  cases hload : py.jsonLoads responseJson with
  | error exc => cases exc <;> simp
  | ok body =>
    simp only [Except.ok.injEq, exists_and_left, exists_eq_left']
    cases hdict : body.dict? with
    | none => simp
    | some d =>
      simp only [Option.bind_some, Option.some.injEq, exists_eq_left']
      cases hget : d.get? "nonce_echo" with
      | none => simp
      | some x =>
        cases x with
        | str echo =>
          simp only [Option.some.injEq, Json.str.injEq]
          split
          · rename_i hempty
            subst hempty
            simp only [reduceCtorEq, false_iff, not_and, not_not]
            exact Eq.symm
          · rename_i hne
            simp only [Except.ok.injEq]
            exact ⟨fun h => ⟨h, h ▸ hne⟩, And.left⟩
        | null | bool _ | num _ | arr _ | obj _ => simp

/-- A response gives back the challenge that it names, if that was issued, is not consumed and
not past its end. -/
theorem Faithful.consume_eq_ok (h : Faithful py s) (hle : s.clock ≤ now)
    {responseJson challenge : String} :
    (s.challenges.consume py now responseJson).2 = .ok challenge ↔
      ∃ nonce expiresAt, Names py responseJson nonce ∧
        PopChallenges.entryFor py challenge = .ok (.str nonce, expiresAt) ∧
        challenge ∈ s.issued ∧ challenge ∉ s.consumed ∧ expiresAt.lt (.fin now) = false := by
  simp only [← nonceEcho_eq_ok]
  constructor
  · intro hok
    obtain ⟨nonce, expiresAt, hecho, hget, hlive, -⟩ := consume_ok hok
    obtain ⟨hentry, hissued, hnot⟩ := h.sound _ _ _ hget
    exact ⟨nonce, expiresAt, hecho, hentry, hissued, hnot, hlive⟩
  · rintro ⟨nonce, expiresAt, hecho, hentry, hissued, hnot, hlive⟩
    have hget : (s.challenges.prune now).outstanding.get? (.str nonce) =
        some (challenge, expiresAt) :=
      outstanding_prune.mpr
        ⟨h.complete _ _ _ hissued hnot hentry (lt_fin_mono hle hlive), hlive⟩
    simp [PopChallenges.consume, hecho, hget]

/-- What the table holds after the look for expired challenges is what is to be answered. -/
theorem Faithful.size_prune (h : Faithful py s) (hle : s.clock ≤ now) :
    (s.challenges.prune now).outstanding.size = (unanswered py s now).length := by
  have hpruned := h.pruned hle
  have hperm : ((s.challenges.prune now).outstanding.entries.map fun e => e.2.1).Perm
      (unanswered py s now) := by
    rw [List.perm_ext_iff_of_nodup]
    · intro challenge
      simp only [List.mem_map, unanswered, List.mem_filter, Bool.and_eq_true, Bool.not_eq_true',
        List.contains_eq_mem, decide_eq_false_iff_not]
      constructor
      · rintro ⟨⟨nonce, c, e⟩, hmem, rfl⟩
        have hget := (Dict.get?_eq_some_iff _ _ _).mpr hmem
        obtain ⟨hold, hlive⟩ := outstanding_prune.mp hget
        obtain ⟨hentry, hissued, hnot⟩ := h.sound _ _ _ hold
        exact ⟨hissued, hnot, by simp [live, hentry, hlive]⟩
      · rintro ⟨hissued, hnot, hlive⟩
        unfold live at hlive
        split at hlive
        · rename_i nonce e hentry
          have hget := hpruned.complete nonce challenge e hissued hnot hentry (by simpa using hlive)
          exact ⟨(nonce, challenge, e), (Dict.get?_eq_some_iff _ _ _).mp hget, rfl⟩
        · cases hlive
    · -- The entries have different keys, and a challenge has one nonce.
      refine (List.Nodup.of_map _ (s.challenges.prune now).outstanding.nodup).map_on ?_
      rintro ⟨nonce, c, e⟩ hmem ⟨nonce', c', e'⟩ hmem' heq
      have hget := hpruned.sound _ _ _ ((Dict.get?_eq_some_iff _ _ _).mpr hmem)
      have hget' := hpruned.sound _ _ _ ((Dict.get?_eq_some_iff _ _ _).mpr hmem')
      simp only at heq
      subst heq
      cases hget.1.symm.trans hget'.1
      rfl
    · exact h.nodup.filter _
  rw [← hperm.length_eq, List.length_map]
  rfl

/-- A call that raises keeps every challenge that is not past its end. -/
theorem call_raises_keeps (hraise : ∃ exc, (s.call py c).2 = .error exc) {nonce : PyKey}
    {challenge : String} {expiresAt : PyFloat}
    (hget : s.challenges.outstanding.get? nonce = some (challenge, expiresAt))
    (hlive : expiresAt.lt (.fin c.now) = false) :
    (s.call py c).1.challenges.outstanding.get? nonce = some (challenge, expiresAt) := by
  obtain ⟨exc, hraise⟩ := hraise
  cases c with
  | issue now newChallenge =>
    rcases issue_cases py s.challenges now newChallenge with
      ⟨exc', hissue⟩ | ⟨_, _, _, -, hissue⟩
    · simp only [PopRun.call, hissue]
      exact outstanding_prune.mpr ⟨hget, hlive⟩
    · simp [PopRun.call, hissue] at hraise
  | consume now responseJson =>
    rcases consume_cases py s.challenges now responseJson with
      ⟨p', exc', hconsume, rfl | rfl⟩ | ⟨_, _, _, -, -, hconsume⟩
    · simp only [PopRun.call, hconsume]
      exact hget
    · simp only [PopRun.call, hconsume]
      exact outstanding_prune.mpr ⟨hget, hlive⟩
    · simp [PopRun.call, hconsume] at hraise

/-- In every run of calls with a clock that does not go back and builders with different
nonces, at every later reading of the clock: a response gives back a challenge if and only if it
names the challenge's nonce, which is not empty, and the challenge was issued, was not given
back before and is not past its end. The table never holds more than `max_entries`. A call for a
challenge is refused only when that many challenges are still to be answered. And a call that
raises keeps every challenge that is not past its end. -/
theorem consume_once {ttlSecs maxEntries : Int} {clock : ℚ}
    (hrun : Reach (popStep py) (FreshNonce py) (.start ttlSecs maxEntries clock) s)
    (hle : s.clock ≤ now) :
    (∀ responseJson challenge, (s.challenges.consume py now responseJson).2 = .ok challenge ↔
      ∃ nonce expiresAt, Names py responseJson nonce ∧
        PopChallenges.entryFor py challenge = .ok (.str nonce, expiresAt) ∧
        challenge ∈ s.issued ∧ challenge ∉ s.consumed ∧ expiresAt.lt (.fin now) = false) ∧
    (s.challenges.outstanding.size : Int) ≤ max 0 maxEntries ∧
    (∀ newChallenge refusal,
      (s.challenges.issue py now newChallenge).2 = .error (.rejected refusal) →
        maxEntries ≤ (unanswered py s now).length) ∧
    ∀ c, c.now = now → (∃ exc, (s.call py c).2 = .error exc) →
      ∀ nonce challenge expiresAt,
        s.challenges.outstanding.get? nonce = some (challenge, expiresAt) →
        expiresAt.lt (.fin now) = false →
          (s.call py c).1.challenges.outstanding.get? nonce = some (challenge, expiresAt) := by
  have h := faithful_run hrun
  have hmax := maxEntries_run hrun
  refine ⟨fun _ _ => h.consume_eq_ok hle, hmax ▸ h.bounded, ?_, ?_⟩
  · intro newChallenge refusal hrefused
    rw [← h.size_prune hle, ← hmax]
    rcases issue_spec py s.challenges now newChallenge with
      ⟨hfull, -⟩ | ⟨exc, hissue⟩ | ⟨_, _, _, -, -, -, hissue⟩
    · exact hfull
    · rw [hissue] at hrefused
      cases hrefused
    · rw [hissue] at hrefused
      cases hrefused
  · rintro c rfl hraise nonce challenge expiresAt hget hlive
    exact call_raises_keeps hraise hget hlive

/-- A library that reads a challenge and a response to it. -/
def popLib : PyLib :=
  .reading [("challenge", .obj [("nonce", .str "n1"), ("expires_at", .num (.int 60))]),
    ("response", .obj [("nonce_echo", .str "n1")])]

/-- A challenge is answered at its end, when it fills the table. -/
theorem consume_once_at_end :
    ∃ s, Reach (popStep popLib) (FreshNonce popLib) (.start 60 1 0) s ∧
      (s.challenges.consume popLib 60 "response").2 = .ok "challenge" ∧
      (s.challenges.outstanding.size : Int) ≤ max 0 1 := by
  have hrun : Reach (popStep popLib) (FreshNonce popLib) (.start 60 1 0)
      ((PopRun.start 60 1 0).call popLib (.issue 0 fun _ => .ok "challenge")).1 :=
    (Reach.refl _).snoc (l := .issue 0 fun _ => .ok "challenge")
      (fun _ _ _ _ _ old hold => (List.not_mem_nil hold).elim) rfl
  have hle : ((PopRun.start 60 1 0).call popLib (.issue 0 fun _ => .ok "challenge")).1.clock ≤
      60 := by decide +kernel
  obtain ⟨hconsume, hsize, -, -⟩ := consume_once hrun hle
  refine ⟨_, hrun, (hconsume "response" "challenge").mpr ⟨"n1", .fin 60, ?_, ?_, ?_, ?_, ?_⟩,
    hsize⟩
  · exact ⟨.obj [("nonce_echo", .str "n1")], Dict.ofList [("nonce_echo", .str "n1")],
      by decide +kernel, rfl, rfl, by decide⟩
  · decide +kernel
  · decide +kernel
  · decide +kernel
  · decide +kernel

end AitpPlayground.Proofs.Agents
