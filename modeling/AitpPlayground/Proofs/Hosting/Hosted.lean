import AitpPlayground.Hosting.Hosted
import AitpPlayground.Lib.Lts
import AitpPlayground.Proofs.Hosting.PortAllocator
import AitpPlayground.Proofs.Hosting.Supervisor

/-!
# `AitpPlayground.Proofs.Hosting.Hosted`: what a host call does to the other agents

A pinned port goes the same way back as an allocated one, through `release`. So a call that
pins the port of another agent and fails gives that port back. And `launch` registers the
token before anything can fail, so a launch that fails leaves its token.

`HostInv` holds in every run whose failing calls meet `failsClean`: the hosted agents have a
port each, their ports are in use and their tokens are registered. `failed_call_clean_iff`
states for such a state that `failsClean` is what a failing call must meet to leave no trace.
-/

set_option autoImplicit false

namespace AitpPlayground.Proofs.Hosting

open AitpPlayground.Lib
open AitpPlayground.Hosting
open AitpPlayground.Hosting.HostedAgentManager

/-- The invariant of the manager. -/
structure HostInv (m : HostedAgentManager) : Prop where
  valid : Valid m.portAlloc
  kept : HostedKept m
  /-- No two hosted agents have one port. -/
  apart : ∀ i i' h h', m.hosted.get? i = some h → m.hosted.get? i' = some h' →
    h.port = h'.port → i = i'
  record : ∀ i h, m.hosted.get? i = some h →
    (m.sup.agents.get? (AgentSupervisor.key (runId i) h.agentId)).map RunningAgent.port =
      some h.port
  drawn : ∀ i h, m.hosted.get? i = some h → i ∈ m.drawn
  plain : ∀ i ∈ m.drawn, ':' ∉ i.toList

/-- The invariant holds of a new manager. -/
theorem hostInv_new (start : Int) : HostInv (.new start) where
  valid := valid_new start
  kept := ⟨nofun, nofun⟩
  apart := nofun
  record := nofun
  drawn := nofun
  plain := nofun

/-! ### The run ids of hosted agents -/

/-- The run of a hosted agent has no colon when its id has none. -/
theorem runId_plain {i : String} (h : ':' ∉ i.toList) : ':' ∉ (runId i).toList := by
  unfold runId
  simp [h]

/-- The keys of two hosted agents differ. -/
theorem key_runId_inj {i i' a a' : String} (h : ':' ∉ i.toList) (h' : ':' ∉ i'.toList)
    (heq : AgentSupervisor.key (runId i) a = AgentSupervisor.key (runId i') a') : i = i' := by
  have hrun := key_inj (runId_plain h) (runId_plain h') heq
  unfold runId at hrun
  exact String.append_right_inj _ |>.mp hrun

/-! ### The port of a call -/

/-- The port that is chosen, and the ports in use after it. -/
theorem choosePort_cases {m : HostedAgentManager} (h : Valid m.portAlloc) (port : Option Int) :
    Valid (m.choosePort port).2 ∧
    (m.portAlloc.inUse ⊆ (m.choosePort port).2.inUse) ∧
    (port = none → (m.choosePort port).1 ∈ (m.choosePort port).2.inUse) ∧
    ((m.choosePort port).2.release (m.choosePort port).1).inUse =
      m.portAlloc.inUse.erase (m.choosePort port).1 := by
  cases port with
  | some port => exact ⟨h, fun _ hp => hp, nofun, inUse_release _ _⟩
  | none =>
    have halloc := allocated_allocate h 0
    simp only [choosePort]
    refine ⟨halloc.valid, ?_, ?_, ?_⟩
    · rw [halloc.inUse]
      exact Finset.subset_insert _ _
    · intro _
      rw [halloc.inUse]
      exact Finset.mem_insert_self _ _
    · -- The port is new, so the release undoes the allocation.
      rw [inUse_release, halloc.inUse, Finset.erase_insert halloc.new,
        Finset.erase_eq_of_notMem halloc.new]

/-- A release after a failure keeps the ports in use, unless the caller pinned one of them. -/
theorem inUse_unprepared_iff {m : HostedAgentManager} (h : Valid m.portAlloc)
    (port : Option Int) :
    ((m.choosePort port).2.release (m.choosePort port).1).inUse = m.portAlloc.inUse ↔
      ∀ p ∈ port, p ∉ m.portAlloc.inUse := by
  rw [(choosePort_cases h port).2.2.2, Finset.erase_eq_self]
  cases port with
  | some port => simp [choosePort]
  | none => simpa [choosePort] using (allocated_allocate h 0).new

/-! ### The draws of a call -/

/-- The draws of a call are fresh. -/
theorem freshDraws_iff {m : HostedAgentManager} {c : HostCall} :
    freshDraws m c = true ↔
      ':' ∉ c.hostedId.toList ∧ c.hostedId ∉ m.drawn ∧ c.adminToken ≠ "" ∧
        ∀ port, m.sup.adminTokens.get? port ≠ some c.adminToken := by
  have hfresh : c.adminToken ∉ m.sup.adminTokens.entries.map Prod.snd ↔
      ∀ port, m.sup.adminTokens.get? port ≠ some c.adminToken := by
    simp only [List.mem_map, not_exists, not_and, ne_eq, Dict.get?_eq_some_iff]
    exact ⟨fun h port hmem => h _ hmem rfl, fun h e hmem heq => h e.1 (by rw [← heq]; exact hmem)⟩
  simp only [freshDraws, Bool.and_eq_true, Bool.not_eq_true', List.contains_eq_mem,
    decide_eq_false_iff_not, bne_iff_ne, ne_eq, hfresh, and_assoc]

/-- What an enabled `host` call comes to. -/
theorem hostStep_host {m m' : HostedAgentManager} {c : HostCall}
    (hs : hostStep m (.host c) = some m') :
    m' = m.host c ∧ freshDraws m c = true ∧
      ∀ aid, c.ending = .ready aid → listening m (m.choosePort c.port).1 = false := by
  unfold hostStep at hs
  cases hend : c.ending with
  | ready aid =>
    simp only [hend] at hs
    split at hs
    case isFalse => cases hs
    case isTrue hok =>
      simp only [Bool.and_eq_true, Bool.not_eq_true'] at hok
      cases hs
      exact ⟨rfl, hok.1, fun _ _ => hok.2⟩
  | early | unprepared | unspawned | notReady | interrupted =>
    simp only [hend] at hs
    split at hs
    case isFalse => cases hs
    case isTrue hok =>
      cases hs
      exact ⟨rfl, hok, nofun⟩

/-- No hosted agent has a port where nothing listens. -/
theorem not_listening {m : HostedAgentManager} {port : Int} (h : listening m port = false)
    {i : String} {x : HostedAgent} (hx : m.hosted.get? i = some x) : x.port ≠ port := by
  rintro rfl
  have hmem : x.port ∈ m.hosted.entries.map fun e => e.2.port :=
    List.mem_map_of_mem ((Dict.get?_eq_some_iff _ _ _).mp hx)
  simp only [listening, List.contains_eq_mem, decide_eq_false_iff_not] at h
  exact h hmem

/-! ### The steps -/

/-- An id that is drawn changes no agent. -/
theorem hostInv_drawn {m : HostedAgentManager} {i : String} (h : HostInv m)
    (hi : ':' ∉ i.toList) : HostInv { m with drawn := i :: m.drawn } := by
  refine ⟨h.valid, ⟨h.kept.inUse, h.kept.token⟩, h.apart, h.record, ?_, ?_⟩
  · exact fun i' x hx => List.mem_cons_of_mem i (h.drawn i' x hx)
  · intro i' hmem
    rcases List.mem_cons.mp hmem with rfl | hmem
    · exact hi
    · exact h.plain i' hmem

/-- An allocator with more ports in use. -/
theorem hostInv_ports {m : HostedAgentManager} {portAlloc : PortAllocator} (h : HostInv m)
    (hvalid : Valid portAlloc) (hports : m.portAlloc.inUse ⊆ portAlloc.inUse) :
    HostInv { m with portAlloc } :=
  { h with
    valid := hvalid
    kept := ⟨fun i x hx ha => hports (h.kept.inUse i x hx ha), h.kept.token⟩ }

/-- A launch that gets ready: its port is not the one of a hosted agent. -/
theorem hostInv_ready {m : HostedAgentManager} {c : HostCall} {aid : String} (h : HostInv m)
    (hend : c.ending = .ready aid) (hfresh : freshDraws m c = true)
    (hfree : listening m (m.choosePort c.port).1 = false) : HostInv (m.host c) := by
  obtain ⟨hplain, hnew, htoken, -⟩ := freshDraws_iff.mp hfresh
  obtain ⟨hvalid, hports, hgiven, -⟩ := choosePort_cases h.valid c.port
  have hm : m.host c =
      { m with
        drawn := c.hostedId :: m.drawn
        sup := (m.launched c (m.choosePort c.port).1).signalReady (runId c.hostedId) c.agentId aid
        portAlloc := (m.choosePort c.port).2
        hosted := m.hosted.set c.hostedId
          { hostedId := c.hostedId, agentId := c.agentId, port := (m.choosePort c.port).1, aid
            allocated := c.port.isNone, adminToken := c.adminToken } } := by
    simp only [host, hend]
    rfl
  rw [hm]
  generalize hport : (m.choosePort c.port).1 = port at hfree hgiven ⊢
  have hother : ∀ i x, m.hosted.get? i = some x → i ≠ c.hostedId :=
    fun i x hx heq => hnew (heq ▸ h.drawn i x hx)
  have hne : ∀ i x, m.hosted.get? i = some x → x.port ≠ port :=
    fun i x hx => not_listening hfree hx
  have hvalid' := (hostInv_drawn h hplain).plain
  refine ⟨hvalid, ⟨?_, ?_⟩, ?_, ?_, ?_, hvalid'⟩
  · intro i x hx ha
    simp only [Dict.get?_set] at hx
    split at hx
    case isTrue =>
      cases hx
      exact hgiven (Option.isNone_iff_eq_none.mp ha)
    case isFalse => exact hports (h.kept.inUse i x hx ha)
  · intro i x hx
    simp only [adminTokens_signalReady, launched, adminTokens_register _ _ _ _ _ _ htoken]
    simp only [Dict.get?_set] at hx
    split at hx
    case isTrue =>
      cases hx
      exact Dict.get?_set_self _ _ _
    case isFalse =>
      -- The token of another port.
      rw [Dict.get?_set_ne _ _ (hne i x hx).symm]
      exact h.kept.token i x hx
  · intro i i' x x' hx hx' heq
    simp only [Dict.get?_set] at hx hx'
    split at hx <;> split at hx'
    case isTrue.isTrue h₁ h₂ => rw [← h₁, ← h₂]
    case isTrue.isFalse =>
      cases hx
      exact absurd heq.symm (hne i' x' hx')
    case isFalse.isTrue =>
      cases hx'
      exact absurd heq (hne i x hx)
    case isFalse.isFalse => exact h.apart i i' x x' hx hx' heq
  · intro i x hx
    simp only [recordPort_signalReady, launched, recordPort_register]
    simp only [Dict.get?_set] at hx
    split at hx
    case isTrue heq =>
      cases hx
      rw [if_pos (by rw [heq])]
    case isFalse hi =>
      rw [if_neg]
      · exact h.record i x hx
      · intro hkey
        exact hi (key_runId_inj (h.plain i (h.drawn i x hx)) hplain hkey).symm
  · intro i x hx
    simp only [Dict.get?_set] at hx
    split at hx
    case isTrue heq => exact heq ▸ List.mem_cons_self
    case isFalse => exact List.mem_cons_of_mem _ (h.drawn i x hx)

/-- A stop keeps the invariant. -/
theorem hostInv_stop {m : HostedAgentManager} (h : HostInv m) (i : String) :
    HostInv (m.stop i) := by
  unfold stop
  cases hx : m.hosted.get? i with
  | none => exact h
  | some x =>
    have hrest : ∀ i' x', (m.hosted.erase i).get? i' = some x' →
        i' ≠ i ∧ m.hosted.get? i' = some x' := by
      intro i' x' hx'
      rw [Dict.get?_erase] at hx'
      split at hx'
      case isTrue => cases hx'
      case isFalse hne => exact ⟨hne, hx'⟩
    -- The agents that stay have other ports than the one that stops.
    have hne : ∀ i' x', (m.hosted.erase i).get? i' = some x' → x'.port ≠ x.port := by
      intro i' x' hx' heq
      exact (hrest i' x' hx').1 (h.apart i' i x' x (hrest i' x' hx').2 hx heq)
    refine ⟨valid_release h.valid x.port, ⟨?_, ?_⟩, ?_, ?_, ?_, h.plain⟩
    · intro i' x' hx' ha
      rw [inUse_release]
      exact Finset.mem_erase.mpr ⟨hne i' x' hx', h.kept.inUse i' x' (hrest i' x' hx').2 ha⟩
    · intro i' x' hx'
      rw [adminTokens_kill, h.record i x hx, if_neg]
      · exact h.kept.token i' x' (hrest i' x' hx').2
      · exact fun heq => hne i' x' hx' (Option.some.inj heq).symm
    · intro i₁ i₂ x₁ x₂ h₁ h₂ heq
      exact h.apart i₁ i₂ x₁ x₂ (hrest i₁ x₁ h₁).2 (hrest i₂ x₂ h₂).2 heq
    · intro i' x' hx'
      rw [recordPort_kill]
      exact h.record i' x' (hrest i' x' hx').2
    · exact fun i' x' hx' => h.drawn i' x' (hrest i' x' hx').2

/-- A call that meets the condition keeps the invariant. -/
theorem hostInv_step {m m' : HostedAgentManager} {l : HostLabel} (h : HostInv m)
    (hok : failsClean m l) (hs : hostStep m l = some m') : HostInv m' := by
  cases l with
  | stop i =>
    cases hs
    exact hostInv_stop h i
  | host c =>
    obtain ⟨rfl, hfresh, hfree⟩ := hostStep_host hs
    have hplain := (freshDraws_iff.mp hfresh).1
    cases hend : c.ending with
    | ready aid => exact hostInv_ready h hend hfresh (hfree aid hend)
    | early =>
      simp only [host, hend]
      exact hostInv_drawn h hplain
    | unprepared =>
      simp only [failsClean, endsClean, hend] at hok
      simp only [host, hend]
      refine hostInv_ports (hostInv_drawn h hplain) ?_ ?_
      · exact valid_release (choosePort_cases h.valid c.port).1 _
      · exact ((inUse_unprepared_iff h.valid c.port).mpr hok).ge
    | unspawned | notReady | interrupted => simp only [failsClean, endsClean, hend] at hok

/-- The invariant holds in every run whose failures are clean. -/
theorem hostInv_reach {start : Int} {m : HostedAgentManager}
    (h : Reach hostStep failsClean (.new start) m) : HostInv m :=
  h.invariant (fun _ _ _ hinv hok hs => hostInv_step hinv hok hs) (hostInv_new start)

/-! ### The calls that fail -/

/-- A launch that fails leaves its token. -/
theorem adminTokens_launched_ne {m : HostedAgentManager} {c : HostCall}
    (hfresh : freshDraws m c = true) (port : Int) :
    m.sup.adminTokens.set port c.adminToken ≠ m.sup.adminTokens := by
  intro heq
  refine (freshDraws_iff.mp hfresh).2.2.2 port ?_
  rw [← heq]
  exact Dict.get?_set_self _ _ _

/-- A call that raises leaves the table, the ports in use and the tokens as they were if and
only if it raises before its launch and has not pinned a port of the allocator. -/
theorem sameHosting_iff {m m' : HostedAgentManager} {c : HostCall} (h : Valid m.portAlloc)
    (hraises : c.raises) (hs : hostStep m (.host c) = some m') :
    SameHosting m m' ↔ failsClean m (.host c) := by
  obtain ⟨rfl, hfresh, -⟩ := hostStep_host hs
  have htoken := (freshDraws_iff.mp hfresh).2.2.1
  cases hend : c.ending with
  | ready aid => exact absurd hend (hraises aid)
  | early =>
    simp only [failsClean, endsClean, hend, host]
    exact iff_of_true ⟨rfl, rfl, rfl⟩ trivial
  | unprepared =>
    simp only [failsClean, endsClean, hend, host]
    rw [← inUse_unprepared_iff h c.port]
    exact ⟨fun hsame => hsame.inUse, fun hports => ⟨rfl, hports, rfl⟩⟩
  | unspawned =>
    simp only [failsClean, endsClean, hend, host, iff_false]
    intro hsame
    -- The token of the launch stays.
    refine adminTokens_launched_ne hfresh (m.choosePort c.port).1 ?_
    rw [← adminTokens_setToken _ _ htoken]
    exact hsame.adminTokens
  | notReady | interrupted =>
    simp only [failsClean, endsClean, hend, host, iff_false]
    intro hsame
    refine adminTokens_launched_ne hfresh (m.choosePort c.port).1 ?_
    rw [← adminTokens_register _ (runId c.hostedId) c.agentId _ _ c.pid htoken]
    exact hsame.adminTokens

end AitpPlayground.Proofs.Hosting
