import AitpPlayground.Agents.ManifestCalls
import Mathlib.Tactic.Linarith

/-!
# `AitpPlayground.Proofs.Agents.ManifestFloor`: a served manifest has half of its life left

A manifest is returned for one of three reasons: its deadline is not reached, it was minted in
this call, or a mint failed less than a cooldown ago. `FloorInv` has the facts that this needs:
the manifest lives for `ttl` from its mint on, a cooldown that can still be in force comes from a
failure, and a failure from a call in which the mint raises. A rotation and a mint reset the
cooldown, and leave no failure behind it.

`fresh_thread` and `rotate_thread` tie the calls to the threads: a thread that nobody comes
between does what the call says.
-/

set_option autoImplicit false

namespace AitpPlayground.Proofs.Agents

open AitpPlayground.Lib
open AitpPlayground.Agents

variable {ttl : ℚ} {s s' : ManifestRun}

/-! ### The floor -/

/-- More than half of the life is left, or a mint has failed in the last 30 seconds. -/
def Floor (ttl : ℚ) (failures : List ℚ) (reply : Manifest × ℚ) : Prop :=
  ttl / 2 < reply.1.expiresAt - reply.2 ∨
    ∃ f ∈ failures, reply.2 - manifestRemintCooldownSecs < f ∧ f ≤ reply.2

/-- A re-mint failed at this time, in a call in which the mint raises. -/
def MintFailed (s : ManifestRun) (f : ℚ) : Prop :=
  f ∈ s.failures ∧ ∃ r, ManifestCall.fresh r false ∈ s.calls ∧ r.failed = f

/-- The invariant of a sequence of calls. -/
structure FloorInv (ttl : ℚ) (s : ManifestRun) : Prop where
  clock : 0 ≤ s.clock
  life : s.fields.manifest.expiresAt = s.fields.manifest.publishedAt + ttl
  /-- A cooldown comes from a failure, or was reset. -/
  cooldown : s.fields.cooldownUntil = 0 ∨
    ∃ f ∈ s.failures, s.fields.cooldownUntil = f + manifestRemintCooldownSecs ∧ f ≤ s.clock
  /-- A failure was that of a mint that raises. -/
  raised : ∀ f ∈ s.failures, MintFailed s f
  replies : ∀ reply ∈ s.replies, Floor ttl s.failures reply

/-- The invariant holds at the start. -/
theorem floorInv_start (agent : String) {minted : ℚ} (hminted : 0 ≤ minted) :
    FloorInv ttl (.start agent minted ttl) :=
  ⟨hminted, rfl, .inl rfl, nofun, nofun⟩

/-- Before its deadline a manifest has more than half of its life left. -/
theorem half_left {m : Manifest} {t : ℚ} (hlife : m.expiresAt = m.publishedAt + ttl)
    (ht : t < manifestDeadline m) : ttl / 2 < m.expiresAt - t := by
  unfold manifestDeadline at ht
  rw [hlife] at ht ⊢
  linarith

/-- A failure stays one. -/
theorem MintFailed.mono {f : ℚ} (h : MintFailed s f) (hfailures : s.failures ⊆ s'.failures)
    (hcalls : s.calls ⊆ s'.calls) : MintFailed s' f := by
  obtain ⟨hmem, r, hcall, heq⟩ := h
  exact ⟨hfailures hmem, r, hcalls hcall, heq⟩

/-- A reply keeps its floor while failures are added. -/
theorem Floor.mono {failures failures' : List ℚ} {reply : Manifest × ℚ}
    (h : Floor ttl failures reply) (hsub : failures ⊆ failures') : Floor ttl failures' reply :=
  h.imp_right fun ⟨f, hf, hin⟩ => ⟨f, hsub hf, hin⟩

/-- A cooldown stays accounted for as the clock goes on. -/
theorem FloorInv.cooldown_later (h : FloorInv ttl s) {t : ℚ} (hlater : s.clock ≤ t) :
    s.fields.cooldownUntil = 0 ∨
      ∃ f ∈ s.failures, s.fields.cooldownUntil = f + manifestRemintCooldownSecs ∧ f ≤ t :=
  h.cooldown.imp_right fun ⟨f, hf, heq, hfle⟩ => ⟨f, hf, heq, hfle.trans hlater⟩

/-- A cooldown that is in force comes from a failure. -/
theorem FloorInv.floor_of_cooldown (h : FloorInv ttl s) {t : ℚ} (hlater : s.clock ≤ t)
    (hcooldown : t < s.fields.cooldownUntil) : Floor ttl s.failures (s.fields.manifest, t) := by
  rcases h.cooldown_later hlater with hzero | ⟨f, hf, heq, hfle⟩
  · rw [hzero] at hcooldown
    exact absurd hcooldown (not_lt.mpr (h.clock.trans hlater))
  · rw [heq] at hcooldown
    exact .inr ⟨f, hf, sub_lt_iff_lt_add.mpr hcooldown, hfle⟩

/-- One more reply that is above the floor. -/
theorem FloorInv.replies_cons (h : FloorInv ttl s) {failures : List ℚ} {reply : Manifest × ℚ}
    (hsub : s.failures ⊆ failures) (hreply : Floor ttl failures reply) :
    ∀ r ∈ reply :: s.replies, Floor ttl failures r := by
  intro r hr
  rcases List.mem_cons.mp hr with rfl | hold
  · exact hreply
  · exact (h.replies r hold).mono hsub

/-- A call of `_fresh_manifest_json` returns the manifest that it finds, before the deadline or
in the cooldown. Or it mints, and a mint that raises starts a cooldown. -/
theorem freshManifestJson_cases (s : ManifestFields) (r : Readings) (mint : Option (ℚ × ℚ)) :
    (∃ t, (t = r.first ∨ t = r.locked) ∧ t < manifestDeadline s.manifest ∧
      s.freshManifestJson r mint = ⟨s, s.manifest, t, none⟩) ∨
    (r.first < s.cooldownUntil ∧
      s.freshManifestJson r mint = ⟨s, s.manifest, r.first, none⟩) ∨
    (mint = none ∧ s.freshManifestJson r mint =
      ⟨{ s with cooldownUntil := r.failed + manifestRemintCooldownSecs }, s.manifest, r.failed,
        some r.failed⟩) ∨
    ∃ publishedAt expiresAt, mint = some (publishedAt, expiresAt) ∧
      s.freshManifestJson r mint =
        ⟨{ s with manifest := ⟨s.agent, publishedAt, expiresAt⟩, cooldownUntil := 0 },
          ⟨s.agent, publishedAt, expiresAt⟩, r.minted, none⟩ := by
  unfold ManifestFields.freshManifestJson
  split
  · rename_i hfirst
    exact .inl ⟨r.first, .inl rfl, hfirst, rfl⟩
  · split
    · rename_i hcooldown
      exact .inr (.inl ⟨hcooldown, rfl⟩)
    · split
      · rename_i hlocked
        exact .inl ⟨r.locked, .inr rfl, hlocked, rfl⟩
      · cases mint with
        | none => exact .inr (.inr (.inl ⟨rfl, rfl⟩))
        | some times => exact .inr (.inr (.inr ⟨times.1, times.2, rfl, rfl⟩))

/-- What the SDK mints lives for `ttl` from the mint on. -/
theorem mintAt_eq_some {now publishedAt expiresAt : ℚ} {mints : Bool}
    (h : mintAt ttl now mints = some (publishedAt, expiresAt)) :
    publishedAt = now ∧ expiresAt = now + ttl := by
  unfold mintAt at h
  split at h
  · cases h
    exact ⟨rfl, rfl⟩
  · cases h

/-- A mint that gives nothing is one that raises. -/
theorem mintAt_eq_none {now : ℚ} {mints : Bool} (h : mintAt ttl now mints = none) :
    mints = false := by
  cases mints with
  | false => rfl
  | true => cases h

/-- What a call returns is above the floor, and the call keeps the invariant. -/
theorem floorInv_fresh (httl : 0 < ttl) (h : FloorInv ttl s) {r : Readings}
    (hle : s.clock ≤ r.first) (hr : r.Ordered) (mints : Bool)
    (hstep : manifestCall ttl s (.fresh r mints) = some s') : FloorInv ttl s' := by
  obtain ⟨hlocked, hminted, hfailed⟩ := hr
  simp only [manifestCall] at hstep
  rw [if_pos ⟨hle, hlocked, hminted, hfailed⟩] at hstep
  cases hstep
  rcases freshManifestJson_cases s.fields r (mintAt ttl r.minted mints) with
    ⟨t, ht, hdeadline, hserved⟩ | ⟨hcooldown, hserved⟩ | ⟨hmint, hserved⟩ | ⟨publishedAt,
      expiresAt, hmint, hserved⟩
  · have hlater : s.clock ≤ t := by
      rcases ht with rfl | rfl
      · exact hle
      · exact hle.trans hlocked
    rw [hserved]
    exact ⟨h.clock.trans hlater, h.life, h.cooldown_later hlater,
      fun f hf => (h.raised f hf).mono (List.Subset.refl _) (List.subset_cons_self _ _),
      h.replies_cons (List.Subset.refl _) (.inl (half_left h.life hdeadline))⟩
  · rw [hserved]
    exact ⟨h.clock.trans hle, h.life, h.cooldown_later hle,
      fun f hf => (h.raised f hf).mono (List.Subset.refl _) (List.subset_cons_self _ _),
      h.replies_cons (List.Subset.refl _) (h.floor_of_cooldown hle hcooldown)⟩
  · have hlater : s.clock ≤ r.failed := ((hle.trans hlocked).trans hminted).trans hfailed
    rw [hserved]
    obtain rfl := mintAt_eq_none hmint
    refine ⟨h.clock.trans hlater, h.life, ?_, ?_, ?_⟩
    · exact .inr ⟨r.failed, List.mem_cons_self, rfl, le_refl _⟩
    · intro f hf
      rcases List.mem_cons.mp hf with rfl | hold
      · exact ⟨hf, r, List.mem_cons_self, rfl⟩
      · exact (h.raised f hold).mono (List.subset_cons_self _ _) (List.subset_cons_self _ _)
    · refine h.replies_cons (List.subset_cons_self _ _) (.inr ⟨r.failed, List.mem_cons_self, ?_,
        le_refl _⟩)
      simp only [manifestRemintCooldownSecs]
      linarith
  · have hlater : s.clock ≤ r.minted := (hle.trans hlocked).trans hminted
    obtain ⟨rfl, rfl⟩ := mintAt_eq_some hmint
    rw [hserved]
    refine ⟨h.clock.trans hlater, rfl, .inl rfl,
      fun f hf => (h.raised f hf).mono (List.Subset.refl _) (List.subset_cons_self _ _),
      h.replies_cons (List.Subset.refl _) (.inl ?_)⟩
    -- A new manifest has all of its life left.
    show ttl / 2 < r.minted + ttl - r.minted
    linarith

/-- A call or a rotation keeps the invariant. -/
theorem floorInv_step (httl : 0 < ttl) (h : FloorInv ttl s) {c : ManifestCall}
    (hstep : manifestCall ttl s c = some s') : FloorInv ttl s' := by
  cases c with
  | fresh r mints =>
    have hguard : s.clock ≤ r.first ∧ r.Ordered := by
      by_contra hnot
      simp [manifestCall, hnot] at hstep
    exact floorInv_fresh httl h hguard.1 hguard.2 mints hstep
  | rotate newAgent minted mints =>
    simp only [manifestCall] at hstep
    split at hstep
    · rename_i hle
      cases hstep
      have hraised : ∀ f ∈ s.failures, MintFailed { s with
          fields := s.fields.rotateKeys newAgent (mintAt ttl minted mints)
          clock := minted
          calls := .rotate newAgent minted mints :: s.calls } f := fun f hf =>
        (h.raised f hf).mono (List.Subset.refl _) (List.subset_cons_self _ _)
      cases mints with
      | false =>
        -- The mint raised, and nothing is as new.
        exact ⟨h.clock.trans hle, h.life, h.cooldown_later hle, hraised, h.replies⟩
      | true => exact ⟨h.clock.trans hle, rfl, .inl rfl, hraised, h.replies⟩
    · cases hstep

/-- In every sequence of calls and rotations with a clock that does not go back, every manifest
that is returned has more than half of its life left, or a re-mint has failed in the 30 seconds
up to the return, in a call in which the mint raises. The clock counts from the epoch on, so it
is not negative at the first mint. -/
theorem served_manifest_floor (httl : 0 < ttl) {agent : String} {minted : ℚ}
    (hminted : 0 ≤ minted)
    (hrun : Reach (manifestCall ttl) anyStep (.start agent minted ttl) s) :
    ∀ m t, (m, t) ∈ s.replies →
      ttl / 2 < m.expiresAt - t ∨ ∃ r, ManifestCall.fresh r false ∈ s.calls ∧
        r.failed ∈ s.failures ∧ t - 30 < r.failed ∧ r.failed ≤ t := by
  have h := hrun.invariant (P := FloorInv ttl) (fun _ _ _ hu _ => floorInv_step httl hu)
    (floorInv_start agent hminted)
  intro m t hreply
  rcases h.replies (m, t) hreply with hleft | ⟨f, hf, hrecent, hpast⟩
  · exact .inl hleft
  · obtain ⟨-, r, hcall, rfl⟩ := h.raised f hf
    exact .inr ⟨r, hcall, hf, hrecent, hpast⟩

/-- A call at the half-life mints anew. A later one finds a mint that raises, and one in the
cooldown that follows serves the second manifest with less than half of its life left. -/
theorem served_manifest_floor_after_failure :
    ∃ s m, Reach (manifestCall 100) anyStep (.start "a" 0 100) s ∧
      s.replies.map (fun reply => (reply.1.publishedAt, reply.2)) =
        [(60, 125), (60, 115), (60, 60)] ∧ (m, (125 : ℚ)) ∈ s.replies ∧
      ((100 : ℚ) / 2 < m.expiresAt - 125 ∨ ∃ r, ManifestCall.fresh r false ∈ s.calls ∧
        r.failed ∈ s.failures ∧ 125 - 30 < r.failed ∧ r.failed ≤ 125) := by
  have hexec : (exec (manifestCall 100) anyStep (.start "a" 0 100)
      [.fresh ⟨60, 60, 60, 60⟩ true, .fresh ⟨115, 115, 115, 115⟩ false,
        .fresh ⟨125, 125, 125, 125⟩ true]).map (fun s => s.replies) =
      some [(⟨"a", 60, 160⟩, 125), (⟨"a", 60, 160⟩, 115), (⟨"a", 60, 160⟩, 60)] := by
    decide +kernel
  obtain ⟨s, hrun, hreplies⟩ := exists_reach_of_exec hexec
  have hmem : ((⟨"a", 60, 160⟩ : Manifest), (125 : ℚ)) ∈ s.replies := by
    rw [hreplies]
    simp
  exact ⟨s, _, hrun, by rw [hreplies]; rfl, hmem,
    served_manifest_floor (by norm_num) (le_refl 0) hrun _ _ hmem⟩

/-! ### The threads -/

/-- The fields of a server. -/
def fieldsOf (s : ManifestServer) : ManifestFields := ⟨s.agent, s.manifest, s.cooldownUntil⟩

/-- A thread that nobody comes between, up to where it is under the lock. -/
theorem reach_locked {s : ManifestServer} {t : Nat} {reply : Option Manifest}
    (hidle : s.threads t = .idle reply) (hlock : s.lock = none) {read : ℚ}
    (hdeadline : ¬read < manifestDeadline s.manifest) (hcooldown : ¬read < s.cooldownUntil) :
    ∃ s', Reach manifestStep anyStep s s' ∧ s'.lock = some t ∧ s'.threads t = .locked ∧
      fieldsOf s' = fieldsOf s := by
  have hexec : (exec manifestStep anyStep s
      [.get t read, .go t read none, .go t read none, .go t read none]).map
        (fun s' => (s'.lock, s'.threads t, fieldsOf s')) =
      some (some t, .locked, fieldsOf s) := by
    simp [exec, anyStep, manifestStep, manifestGo, ManifestServer.goto, ManifestServer.acquire,
      hidle, hdeadline, hcooldown, hlock, fieldsOf]
  obtain ⟨s', hreach, heq⟩ := exists_reach_of_exec hexec
  simp only [Prod.mk.injEq] at heq
  exact ⟨s', hreach, heq⟩

/-- Under the lock a thread ends as the call does when both of its first looks fail. -/
theorem exec_locked {s : ManifestServer} {t : Nat} (hpc : s.threads t = .locked) (r : Readings)
    (mint : Option (ℚ × ℚ)) (hdeadline : ¬r.first < manifestDeadline s.manifest)
    (hcooldown : ¬r.first < s.cooldownUntil) :
    ∃ labels, (exec manifestStep anyStep s labels).map
        (fun s' => (s'.lock, s'.threads t, fieldsOf s')) =
      some (none, .idle (some ((fieldsOf s).freshManifestJson r mint).reply),
        ((fieldsOf s).freshManifestJson r mint).fields) := by
  unfold ManifestFields.freshManifestJson
  by_cases hlocked : r.locked < manifestDeadline s.manifest
  · refine ⟨[.go t r.locked none], ?_⟩
    simp [exec, anyStep, manifestStep, manifestGo, ManifestServer.goto, ManifestServer.release,
      hpc, hdeadline, hcooldown, hlocked, fieldsOf]
  · cases mint with
    | none =>
      refine ⟨[.go t r.locked none, .go t r.minted none, .go t r.failed none], ?_⟩
      simp [exec, anyStep, manifestStep, manifestGo, ManifestServer.goto,
        ManifestServer.release, hpc, hdeadline, hcooldown, hlocked, fieldsOf]
    | some times =>
      refine ⟨[.go t r.locked none, .go t r.minted (some times), .go t r.minted none,
        .go t r.minted none, .go t r.minted none], ?_⟩
      simp [exec, anyStep, manifestStep, manifestGo, ManifestServer.goto,
        ManifestServer.release, hpc, hdeadline, hcooldown, hlocked, fieldsOf]

/-- A thread that finds a manifest before its deadline, or a cooldown, answers with it. -/
theorem exec_unlocked {s : ManifestServer} {t : Nat} {reply : Option Manifest}
    (hidle : s.threads t = .idle reply) (hlock : s.lock = none) (r : Readings)
    (mint : Option (ℚ × ℚ))
    (hfound : r.first < manifestDeadline s.manifest ∨ r.first < s.cooldownUntil) :
    ∃ labels, (exec manifestStep anyStep s labels).map
        (fun s' => (s'.lock, s'.threads t, fieldsOf s')) =
      some (none, .idle (some ((fieldsOf s).freshManifestJson r mint).reply),
        ((fieldsOf s).freshManifestJson r mint).fields) := by
  unfold ManifestFields.freshManifestJson
  by_cases hdeadline : r.first < manifestDeadline s.manifest
  · refine ⟨[.get t r.first, .go t r.first none, .go t r.first none], ?_⟩
    simp [exec, anyStep, manifestStep, manifestGo, ManifestServer.goto, hidle, hdeadline, hlock,
      fieldsOf]
  · have hcooldown : r.first < s.cooldownUntil := hfound.resolve_left hdeadline
    refine ⟨[.get t r.first, .go t r.first none, .go t r.first none, .go t r.first none], ?_⟩
    simp [exec, anyStep, manifestStep, manifestGo, ManifestServer.goto, hidle, hdeadline,
      hcooldown, hlock, fieldsOf]

/-- A thread that nobody comes between answers a request as the call does. -/
theorem fresh_thread {s : ManifestServer} {t : Nat} {reply : Option Manifest}
    (hidle : s.threads t = .idle reply) (hlock : s.lock = none) (r : Readings)
    (mint : Option (ℚ × ℚ)) :
    ∃ s', Reach manifestStep anyStep s s' ∧ s'.lock = none ∧
      s'.threads t = .idle (some ((fieldsOf s).freshManifestJson r mint).reply) ∧
      fieldsOf s' = ((fieldsOf s).freshManifestJson r mint).fields := by
  by_cases hfound : r.first < manifestDeadline s.manifest ∨ r.first < s.cooldownUntil
  · obtain ⟨labels, hexec⟩ := exec_unlocked hidle hlock r mint hfound
    obtain ⟨s', hreach, heq⟩ := exists_reach_of_exec hexec
    simp only [Prod.mk.injEq] at heq
    exact ⟨s', hreach, heq⟩
  · rw [not_or] at hfound
    obtain ⟨s₁, hreach, -, hpc, hfields⟩ := reach_locked hidle hlock hfound.1 hfound.2
    have hmanifest : s₁.manifest = s.manifest := congrArg ManifestFields.manifest hfields
    have huntil : s₁.cooldownUntil = s.cooldownUntil :=
      congrArg ManifestFields.cooldownUntil hfields
    obtain ⟨labels, hexec⟩ :=
      exec_locked hpc r mint (hmanifest ▸ hfound.1) (huntil ▸ hfound.2)
    obtain ⟨s', hreach', heq⟩ := exists_reach_of_exec hexec
    rw [hfields] at heq
    simp only [Prod.mk.injEq] at heq
    exact ⟨s', hreach.trans hreach', heq⟩

/-- A thread that nobody comes between rotates the key as the call does. -/
theorem rotate_thread {s : ManifestServer} {t : Nat} {reply : Option Manifest}
    (hidle : s.threads t = .idle reply) (hlock : s.lock = none) {newAgent : String}
    (hnew : newAgent ∉ s.generated) (now : ℚ) (mint : Option (ℚ × ℚ)) :
    ∃ s', Reach manifestStep anyStep s s' ∧ s'.lock = none ∧ s'.threads t = .idle none ∧
      fieldsOf s' = (fieldsOf s).rotateKeys newAgent mint := by
  have hexec : ∃ labels, (exec manifestStep anyStep s labels).map
      (fun s' => (s'.lock, s'.threads t, fieldsOf s')) =
        some (none, .idle none, (fieldsOf s).rotateKeys newAgent mint) := by
    cases mint with
    | none =>
      refine ⟨[.rotate t newAgent, .go t now none], ?_⟩
      simp [exec, anyStep, manifestStep, manifestGo, ManifestServer.goto, hidle, hlock, hnew,
        ManifestFields.rotateKeys, fieldsOf]
    | some times =>
      refine ⟨[.rotate t newAgent, .go t now (some times), .go t now none, .go t now none,
        .go t now none, .go t now none], ?_⟩
      simp [exec, anyStep, manifestStep, manifestGo, ManifestServer.goto, ManifestServer.acquire,
        ManifestServer.release, hidle, hlock, hnew, ManifestFields.rotateKeys,
        fieldsOf]
  obtain ⟨labels, hexec⟩ := hexec
  obtain ⟨s', hreach, heq⟩ := exists_reach_of_exec hexec
  simp only [Prod.mk.injEq] at heq
  exact ⟨s', hreach, heq⟩

end AitpPlayground.Proofs.Agents
