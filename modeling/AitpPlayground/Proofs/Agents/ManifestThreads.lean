import AitpPlayground.Agents.ManifestThreads

/-!
# `AitpPlayground.Proofs.Agents.ManifestThreads`: whose manifest is served

The lock carries the argument. A thread that has read the agent under the lock still finds it
when it writes, since only the holder of the lock writes the agent. So a mint that is slow
either waits in the section and keeps a rotation out, or starts after it and signs with the new
key. The two writes of a rotation are apart, and only inside its section the manifest is one of
the key before.

`ManifestInv` is the invariant, by the place of each thread. `goto`, `acquire` and `release`
are its rules, one for each way a thread moves.
-/

set_option autoImplicit false

namespace AitpPlayground.Proofs.Agents

open AitpPlayground.Lib
open AitpPlayground.Agents

/-- What a thread at a place knows, when the agent of the server is `agent`. -/
def PlaceOk (agent : String) : ManifestAt → Prop
  | .signing a => a = agent
  | .minted a m => a = agent ∧ m.mintedBy = agent
  | .rotated a m => m.mintedBy = a
  | .installing a m => m.mintedBy = a
  | .publishing m => m.mintedBy = agent
  | _ => True

/-- The invariant of the server and its threads. -/
structure ManifestInv (s : ManifestServer) : Prop where
  lock : ∀ t, (s.threads t).inside = true ↔ s.lock = some t
  places : ∀ t, PlaceOk s.agent (s.threads t)
  current : s.manifest.mintedBy = s.agent ∨ ∃ t m, s.threads t = .publishing m
  pending : ∀ t k, (s.threads t).pendingKey = some k → k ∈ s.generated ∧ k ∉ s.installed
  /-- No two rotations have one key. -/
  apart : ∀ t u k, (s.threads t).pendingKey = some k → (s.threads u).pendingKey = some k → t = u
  installed : ∃ earlier, s.installed = s.agent :: earlier
  nodup : s.installed.Nodup
  generated : ∀ k ∈ s.installed, k ∈ s.generated

/-- The invariant holds at the start. -/
theorem manifestInv_start (agent : String) (publishedAt expiresAt : ℚ) :
    ManifestInv (.start agent publishedAt expiresAt) := by
  constructor <;> simp [ManifestServer.start, ManifestAt.inside, ManifestAt.pendingKey, PlaceOk]

namespace ManifestInv

variable {s : ManifestServer} {t : Nat} {p : ManifestAt}

/-- At most one thread is inside. -/
theorem outside (h : ManifestInv s) {u : Nat} (ht : (s.threads t).inside = true) (hu : u ≠ t) :
    (s.threads u).inside = false := by
  by_contra hin
  have hlock := ((h.lock u).mp (by simpa using hin)).symm.trans ((h.lock t).mp ht)
  exact hu (Option.some.inj hlock)

/-- A new cooldown keeps it. -/
theorem cooldown (h : ManifestInv s) (c : ℚ) : ManifestInv { s with cooldownUntil := c } :=
  ⟨h.lock, h.places, h.current, h.pending, h.apart, h.installed, h.nodup, h.generated⟩

/-- A manifest of the current key is written. -/
theorem store (h : ManifestInv s) {m : Manifest} (hm : m.mintedBy = s.agent) :
    ManifestInv { s with manifest := m } :=
  ⟨h.lock, h.places, .inl hm, h.pending, h.apart, h.installed, h.nodup, h.generated⟩

/-- A thread goes to another place, with the lock after it. -/
theorem move (h : ManifestInv s) (lock : Option Nat)
    (hlock : ∀ u, (Function.update s.threads t p u).inside = true ↔ lock = some u)
    (hp : PlaceOk s.agent p)
    (hkey : p.pendingKey = none ∨ p.pendingKey = (s.threads t).pendingKey)
    (hpub : s.manifest.mintedBy = s.agent ∨ ∀ m, s.threads t ≠ .publishing m) :
    ManifestInv { s.goto t p with lock } := by
  -- The thread keeps its pending key or drops it.
  have hpending : ∀ u k, (Function.update s.threads t p u).pendingKey = some k →
      (s.threads u).pendingKey = some k := by
    intro u k hu
    by_cases hut : u = t
    · subst hut
      rw [Function.update_self] at hu
      rcases hkey with hkey | hkey
      · rw [hkey] at hu
        cases hu
      · rw [← hkey]
        exact hu
    · rwa [Function.update_of_ne hut] at hu
  refine ⟨hlock, ?_, ?_, ?_, ?_, h.installed, h.nodup, h.generated⟩
  · intro u
    show PlaceOk s.agent (Function.update s.threads t p u)
    by_cases hut : u = t
    · subst hut
      rwa [Function.update_self]
    · rw [Function.update_of_ne hut]
      exact h.places u
  · rcases h.current with hcur | ⟨u, m, hu⟩
    · exact .inl hcur
    · -- Another thread is about to write, unless it is this one that has written.
      rcases hpub with hcur | hpub
      · exact .inl hcur
      · have hut : u ≠ t := fun heq => hpub m (heq ▸ hu)
        have hstill : Function.update s.threads t p u = .publishing m := by
          rw [Function.update_of_ne hut, hu]
        exact .inr ⟨u, m, hstill⟩
  · exact fun u k hu => h.pending u k (hpending u k hu)
  · exact fun u v k hu hv => h.apart u v k (hpending u k hu) (hpending v k hv)

/-- A thread goes on, on the same side of the lock. -/
theorem goto (h : ManifestInv s) (hin : p.inside = (s.threads t).inside)
    (hp : PlaceOk s.agent p)
    (hkey : p.pendingKey = none ∨ p.pendingKey = (s.threads t).pendingKey)
    (hpub : s.manifest.mintedBy = s.agent ∨ ∀ m, s.threads t ≠ .publishing m) :
    ManifestInv (s.goto t p) := by
  refine h.move s.lock ?_ hp hkey hpub
  intro u
  by_cases hut : u = t
  · subst hut
    rw [Function.update_self, hin]
    exact h.lock u
  · rw [Function.update_of_ne hut]
    exact h.lock u

/-- A thread enters the section under the lock. -/
theorem acquire (h : ManifestInv s) {s' : ManifestServer} (hs : s.acquire t p = some s')
    (hin : p.inside = true) (hp : PlaceOk s.agent p)
    (hkey : p.pendingKey = none ∨ p.pendingKey = (s.threads t).pendingKey) : ManifestInv s' := by
  unfold ManifestServer.acquire at hs
  split at hs
  case isFalse => cases hs
  case isTrue hfree =>
    cases hs
    -- The lock was free, so no thread is inside.
    have hout : ∀ u, (s.threads u).inside = false := by
      intro u
      by_contra hu
      have hlock := (h.lock u).mp (by simpa using hu)
      rw [hfree] at hlock
      cases hlock
    refine h.move _ ?_ hp hkey (.inr ?_)
    · intro u
      by_cases hut : u = t
      · subst hut
        simp [hin]
      · simp [Function.update_of_ne hut, hout u, Ne.symm hut]
    · intro m heq
      have hu := hout t
      rw [heq] at hu
      cases hu

/-- A thread leaves the section under the lock. -/
theorem release (h : ManifestInv s) (ht : (s.threads t).inside = true) (hin : p.inside = false)
    (hp : PlaceOk s.agent p) (hkey : p.pendingKey = none)
    (hpub : s.manifest.mintedBy = s.agent ∨ ∀ m, s.threads t ≠ .publishing m) :
    ManifestInv (s.release t p) := by
  refine h.move _ ?_ hp (.inl hkey) hpub
  intro u
  by_cases hut : u = t
  · subst hut
    simp [hin]
  · simp [Function.update_of_ne hut, h.outside ht hut]

/-- A rotation generates a key. -/
theorem generate (h : ManifestInv s) {k : String} (hidle : (s.threads t).inside = false)
    (hnew : k ∉ s.generated) :
    ManifestInv { s.goto t (.rotating k) with generated := k :: s.generated } := by
  -- The new key is pending at this thread, and the others keep theirs.
  have hpending : ∀ u k', (Function.update s.threads t (.rotating k) u).pendingKey = some k' →
      (u = t ∧ k' = k) ∨ (u ≠ t ∧ (s.threads u).pendingKey = some k') := by
    intro u k' hu
    by_cases hut : u = t
    · subst hut
      rw [Function.update_self] at hu
      exact .inl ⟨rfl, (Option.some.inj hu).symm⟩
    · rw [Function.update_of_ne hut] at hu
      exact .inr ⟨hut, hu⟩
  refine ⟨?_, ?_, ?_, ?_, ?_, h.installed, h.nodup, fun k' hk' =>
    List.mem_cons_of_mem k (h.generated k' hk')⟩
  · intro u
    show (Function.update s.threads t _ u).inside = true ↔ s.lock = some u
    by_cases hut : u = t
    · subst hut
      rw [Function.update_self, ← h.lock u, hidle]
      rfl
    · rw [Function.update_of_ne hut]
      exact h.lock u
  · intro u
    show PlaceOk s.agent (Function.update s.threads t _ u)
    by_cases hut : u = t
    · subst hut
      rw [Function.update_self]
      trivial
    · rw [Function.update_of_ne hut]
      exact h.places u
  · rcases h.current with hcur | ⟨u, m, hu⟩
    · exact .inl hcur
    · have hut : u ≠ t := by
        rintro rfl
        rw [hu] at hidle
        cases hidle
      have hstill : Function.update s.threads t (.rotating k) u = .publishing m := by
        rw [Function.update_of_ne hut, hu]
      exact .inr ⟨u, m, hstill⟩
  · intro u k' hu
    rcases hpending u k' hu with ⟨-, rfl⟩ | ⟨-, hu⟩
    · exact ⟨List.mem_cons_self, fun hmem => hnew (h.generated k' hmem)⟩
    · exact ⟨List.mem_cons_of_mem k (h.pending u k' hu).1, (h.pending u k' hu).2⟩
  · intro u v k' hu hv
    -- A key that was generated before is not the new one.
    rcases hpending u k' hu with ⟨hut, heq⟩ | ⟨-, hold⟩ <;>
      rcases hpending v k' hv with ⟨hvt, heq'⟩ | ⟨-, hold'⟩
    · rw [hut, hvt]
    · exact absurd (heq ▸ (h.pending v k' hold').1) hnew
    · exact absurd (heq' ▸ (h.pending u k' hold).1) hnew
    · exact h.apart u v k' hold hold'

/-- A rotation writes the agent. The other threads are outside, so none of them has read it. -/
theorem install (h : ManifestInv s) {k : String} {m : Manifest}
    (ht : s.threads t = .installing k m) :
    ManifestInv { s.goto t (.publishing m) with agent := k, installed := k :: s.installed } := by
  have hin : (s.threads t).inside = true := by rw [ht]; rfl
  have hkey : (s.threads t).pendingKey = some k := by rw [ht]; rfl
  -- Its own key is pending no more.
  have hpending : ∀ u k', (Function.update s.threads t (.publishing m) u).pendingKey = some k' →
      u ≠ t ∧ (s.threads u).pendingKey = some k' := by
    intro u k' hu
    by_cases hut : u = t
    · subst hut
      rw [Function.update_self] at hu
      cases hu
    · rw [Function.update_of_ne hut] at hu
      exact ⟨hut, hu⟩
  refine ⟨?_, ?_, .inr ⟨t, m, Function.update_self ..⟩, ?_, ?_, ⟨s.installed, rfl⟩, ?_, ?_⟩
  · intro u
    show (Function.update s.threads t _ u).inside = true ↔ s.lock = some u
    by_cases hut : u = t
    · subst hut
      rw [Function.update_self, ← h.lock u, hin]
      rfl
    · rw [Function.update_of_ne hut]
      exact h.lock u
  · intro u
    show PlaceOk k (Function.update s.threads t _ u)
    by_cases hut : u = t
    · subst hut
      rw [Function.update_self]
      have hplace := h.places u
      rw [ht] at hplace
      exact hplace
    · rw [Function.update_of_ne hut]
      -- Outside the lock a thread holds neither the agent nor a manifest of it.
      have hout := h.outside hin hut
      have hplace := h.places u
      cases hu : s.threads u <;> simp_all [PlaceOk, ManifestAt.inside]
  · intro u k' hu
    obtain ⟨hut, hold⟩ := hpending u k' hu
    refine ⟨(h.pending u k' hold).1, ?_⟩
    intro hmem
    rcases List.mem_cons.mp hmem with heq | hmem
    · exact hut (h.apart u t k (heq ▸ hold) hkey)
    · exact (h.pending u k' hold).2 hmem
  · exact fun u v k' hu hv => h.apart u v k' (hpending u k' hu).2 (hpending v k' hv).2
  · exact List.nodup_cons.mpr ⟨(h.pending t k hkey).2, h.nodup⟩
  · intro k' hmem
    rcases List.mem_cons.mp hmem with rfl | hmem
    · exact (h.pending t k' hkey).1
    · exact h.generated k' hmem

end ManifestInv

/-! ### The steps -/

/-- The next step of a thread keeps the invariant. -/
theorem manifestInv_go {s s' : ManifestServer} (h : ManifestInv s) {t : Nat} {now : ℚ}
    {mint : Option (ℚ × ℚ)} (hs : manifestGo s t now mint = some s') : ManifestInv s' := by
  unfold manifestGo at hs
  have hplace := h.places t
  cases ht : s.threads t with
  | idle reply =>
    simp only [ht] at hs
    cases hs
  | readDeadline read =>
    simp only [ht] at hs
    cases hs
    split <;>
      exact h.goto (by rw [ht]; rfl) trivial (.inl rfl) (.inr (by rw [ht]; nofun))
  | readCooldown read =>
    simp only [ht] at hs
    cases hs
    split <;>
      exact h.goto (by rw [ht]; rfl) trivial (.inl rfl) (.inr (by rw [ht]; nofun))
  | waiting =>
    simp only [ht] at hs
    exact h.acquire hs rfl trivial (.inl rfl)
  | locked =>
    simp only [ht] at hs
    -- Another thread has minted meanwhile, or this one reads the agent to mint.
    split at hs <;> cases hs
    · exact h.release (by rw [ht]; rfl) rfl trivial rfl (.inr (by rw [ht]; nofun))
    · exact h.goto (by rw [ht]; rfl) rfl (.inl rfl) (.inr (by rw [ht]; nofun))
  | signing agent =>
    rw [ht] at hplace
    simp only [ht] at hs
    cases mint with
    | none =>
      cases hs
      exact h.goto (by rw [ht]; rfl) trivial (.inl rfl) (.inr (by rw [ht]; nofun))
    | some times =>
      cases hs
      exact h.goto (by rw [ht]; rfl) ⟨hplace, hplace⟩ (.inl rfl) (.inr (by rw [ht]; nofun))
  | failed =>
    simp only [ht] at hs
    cases hs
    exact (h.cooldown _).release (by rw [ht]; rfl) rfl trivial rfl (.inr (by rw [ht]; nofun))
  | minted agent manifest =>
    rw [ht] at hplace
    simp only [ht] at hs
    split at hs <;> cases hs
    · exact h.release (by rw [ht]; rfl) rfl trivial rfl (.inr (by rw [ht]; nofun))
    · exact (h.store hplace.2).goto (by rw [ht]; rfl) trivial (.inl rfl) (.inl hplace.2)
  | stored =>
    simp only [ht] at hs
    cases hs
    exact (h.cooldown 0).release (by rw [ht]; rfl) rfl trivial rfl (.inr (by rw [ht]; nofun))
  | replying =>
    simp only [ht] at hs
    cases hs
    exact h.goto (by rw [ht]; rfl) trivial (.inl rfl) (.inr (by rw [ht]; nofun))
  | rotating agent =>
    simp only [ht] at hs
    cases mint with
    | none =>
      cases hs
      exact h.goto (by rw [ht]; rfl) trivial (.inl rfl) (.inr (by rw [ht]; nofun))
    | some times =>
      cases hs
      exact h.goto (by rw [ht]; rfl) rfl (.inr (by rw [ht]; rfl)) (.inr (by rw [ht]; nofun))
  | rotated agent manifest =>
    rw [ht] at hplace
    simp only [ht] at hs
    exact h.acquire hs rfl hplace (.inr (by rw [ht]; rfl))
  | installing agent manifest =>
    simp only [ht] at hs
    cases hs
    exact h.install ht
  | publishing manifest =>
    rw [ht] at hplace
    simp only [ht] at hs
    cases hs
    -- The manifest of the rotation is written, and the two fields agree again.
    exact (h.store hplace).goto (by rw [ht]; rfl) trivial (.inl rfl) (.inl hplace)
  | published =>
    simp only [ht] at hs
    cases hs
    exact (h.cooldown 0).release (by rw [ht]; rfl) rfl trivial rfl (.inr (by rw [ht]; nofun))

/-- Every step keeps the invariant. -/
theorem manifestInv_step {s s' : ManifestServer} {l : ManifestLabel} (h : ManifestInv s)
    (hs : manifestStep s l = some s') : ManifestInv s' := by
  cases l with
  | get t now =>
    simp only [manifestStep] at hs
    split at hs
    case h_1 reply ht =>
      cases hs
      exact h.goto (by rw [ht]; rfl) trivial (.inl rfl) (.inr (by rw [ht]; nofun))
    case h_2 => cases hs
  | rotate t newAgent =>
    simp only [manifestStep] at hs
    split at hs
    case h_1 reply ht =>
      split at hs
      case isTrue => cases hs
      case isFalse hnew =>
        cases hs
        exact h.generate (by rw [ht]; rfl) hnew
    case h_2 => cases hs
  | go t now mint => exact manifestInv_go h hs

/-- The invariant holds in every run. -/
theorem manifestInv_reach {agent : String} {publishedAt expiresAt : ℚ} {s : ManifestServer}
    (h : Reach manifestStep anyStep (.start agent publishedAt expiresAt) s) : ManifestInv s :=
  h.invariant (fun _ _ _ hinv _ hs => manifestInv_step hinv hs)
    (manifestInv_start agent publishedAt expiresAt)

/-! ### What is written -/

/-- The keys that the server had before its present one. -/
def earlierKeys (s : ManifestServer) : List String := s.installed.tail

/-- The key of the server is none of the earlier ones. -/
theorem agent_notMem_earlierKeys {s : ManifestServer} (h : ManifestInv s) :
    s.agent ∉ earlierKeys s := by
  obtain ⟨earlier, heq⟩ := h.installed
  have hnodup := h.nodup
  unfold earlierKeys
  rw [heq] at hnodup ⊢
  exact (List.nodup_cons.mp hnodup).1

/-- A step writes the manifest that `manifestStored` says, and installs a key at most. -/
theorem manifestStep_effect {s s' : ManifestServer} {l : ManifestLabel}
    (hs : manifestStep s l = some s') :
    s'.manifest = (manifestStored s l).getD s.manifest ∧
      (s'.installed = s.installed ∨ ∃ k, s'.installed = k :: s.installed) := by
  cases l with
  | get t now =>
    simp only [manifestStep] at hs
    split at hs <;> cases hs
    exact ⟨rfl, .inl rfl⟩
  | rotate t newAgent =>
    simp only [manifestStep] at hs
    split at hs
    · split at hs <;> cases hs
      exact ⟨rfl, .inl rfl⟩
    · cases hs
  | go t now mint =>
    simp only [manifestStep, manifestGo] at hs
    unfold manifestStored
    cases ht : s.threads t <;> simp only [ht] at hs ⊢
    case idle => cases hs
    case readDeadline | readCooldown | replying | stored | failed | published =>
      cases hs
      exact ⟨rfl, .inl rfl⟩
    case waiting | rotated =>
      unfold ManifestServer.acquire at hs
      split at hs <;> cases hs
      exact ⟨rfl, .inl rfl⟩
    case locked =>
      split at hs <;> cases hs <;> exact ⟨rfl, .inl rfl⟩
    case signing | rotating =>
      cases mint <;> cases hs <;> exact ⟨rfl, .inl rfl⟩
    case minted agent manifest =>
      by_cases hne : agent ≠ s.agent
      · rw [if_pos hne] at hs ⊢
        cases hs
        exact ⟨rfl, .inl rfl⟩
      · rw [if_neg hne] at hs ⊢
        cases hs
        exact ⟨rfl, .inl rfl⟩
    case installing agent manifest =>
      cases hs
      exact ⟨rfl, .inr ⟨agent, rfl⟩⟩
    case publishing =>
      cases hs
      exact ⟨rfl, .inl rfl⟩

/-- What is written was minted by the present key. -/
theorem mintedBy_stored {s : ManifestServer} {l : ManifestLabel} {m : Manifest}
    (h : ManifestInv s) (hm : manifestStored s l = some m) : m.mintedBy = s.agent := by
  unfold manifestStored at hm
  split at hm
  case h_2 => cases hm
  case h_1 t now mint =>
    have hplace := h.places t
    cases ht : s.threads t <;> simp only [ht] at hm hplace
    case minted agent manifest =>
      split at hm <;> cases hm
      exact hplace.2
    case publishing manifest =>
      cases hm
      exact hplace
    -- No other place writes a manifest.
    all_goals cases hm

/-- An earlier key stays one. -/
theorem earlierKeys_reach {s s' : ManifestServer} {k : String} (hk : k ∈ earlierKeys s)
    (h : Reach manifestStep anyStep s s') : k ∈ earlierKeys s' := by
  refine h.invariant (P := fun s => k ∈ earlierKeys s) ?_ hk
  intro s l s' hmem _ hs
  unfold earlierKeys at hmem ⊢
  rcases (manifestStep_effect hs).2 with heq | ⟨k', heq⟩
  · rwa [heq]
  · rw [heq]
    exact List.mem_of_mem_tail hmem

/-- In every run, the manifest is one of the present key whenever no thread is inside the
section under the lock. And once a key was replaced, no manifest that it minted is written. -/
theorem manifest_belongs_to_key {agent : String} {publishedAt expiresAt : ℚ}
    {s : ManifestServer} (h : Reach manifestStep anyStep (.start agent publishedAt expiresAt) s) :
    ((∀ t, (s.threads t).inside = false) → s.manifest.mintedBy = s.agent) ∧
    ∀ k ∈ s.installed, k ≠ s.agent → ∀ s', Reach manifestStep anyStep s s' →
      ∀ l m, manifestStored s' l = some m → m.mintedBy ≠ k := by
  have hinv := manifestInv_reach h
  constructor
  · intro hout
    rcases hinv.current with hcur | ⟨t, m, ht⟩
    · exact hcur
    · have hin := hout t
      rw [ht] at hin
      cases hin
  · intro k hk hne s' hs' l m hm heq
    have hinv' := manifestInv_reach (h.trans hs')
    obtain ⟨earlier, hinstalled⟩ := hinv.installed
    -- A key that was installed and is not the present one is an earlier key.
    have hearlier : k ∈ earlierKeys s := by
      unfold earlierKeys
      rw [hinstalled] at hk ⊢
      exact (List.mem_cons.mp hk).resolve_left hne
    have hagent := mintedBy_stored hinv' hm
    rw [← heq, hagent] at hearlier
    have hlater := earlierKeys_reach hearlier hs'
    exact agent_notMem_earlierKeys hinv' hlater

/-- A thread waits for the lock to mint with the old key while a rotation holds it, and finds
the new key under the lock. -/
theorem manifest_belongs_to_key_after_rotation :
    ∃ s, Reach manifestStep anyStep (.start "k1" 0 2) s ∧ s.agent = "k2" ∧
      s.manifest.mintedBy = "k2" ∧
      ∀ s', Reach manifestStep anyStep s s' → ∀ l m, manifestStored s' l = some m →
        m.mintedBy ≠ "k1" := by
  have heval : ((exec manifestStep anyStep (.start "k1" 0 2)
      [.get 0 10, .go 0 10 none, .go 0 10 none,
        .rotate 1 "k2", .go 1 10 (some (10, 12)), .go 1 10 none, .go 1 10 none, .go 1 10 none,
        .go 1 10 none, .go 0 20 none, .go 0 20 none, .go 0 20 (some (20, 22)), .go 0 20 none,
        .go 0 20 none]).map fun s => (s.lock, s.agent, s.installed)) =
      some (none, "k2", ["k2", "k1"]) := by decide +kernel
  obtain ⟨s, hrun, hreads⟩ := exists_reach_of_exec heval
  simp only [Prod.mk.injEq] at hreads
  obtain ⟨hlock, hagent, hinstalled⟩ := hreads
  have hout : ∀ t, (s.threads t).inside = false := by
    intro t
    by_contra hin
    have ht := ((manifestInv_reach hrun).lock t).mp (by simpa using hin)
    rw [hlock] at ht
    cases ht
  obtain ⟨hcurrent, hearlier⟩ := manifest_belongs_to_key hrun
  refine ⟨s, hrun, hagent, (hcurrent hout).trans hagent, ?_⟩
  intro s' hs' l m hm
  refine hearlier "k1" ?_ ?_ s' hs' l m hm
  · rw [hinstalled]
    decide
  · rw [hagent]
    decide

end AitpPlayground.Proofs.Agents
