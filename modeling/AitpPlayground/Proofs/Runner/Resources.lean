import AitpPlayground.Proofs.Hosting.PortAllocator
import AitpPlayground.Proofs.Hosting.Supervisor
import AitpPlayground.Runner.Resources

/-!
# `AitpPlayground.Proofs.Runner.Resources`: a run gives back what it took

Who holds a port is written down nowhere. The allocator has a set of ports in use, and a run
has a dictionary from agent ids to ports, which is all that `_cleanup_run` looks at. So a run
gives back every port it took exactly when its dictionary has them all, and that is when its
agents have distinct ids. No model of the registry asks for this, so it is a guard here,
`DistinctIds`.

`ResourceInv` says that every port in use is held by one run that has not ended, that such a
run has its ports in its dictionary, and that a registered process belongs to a run that has
not ended. `run_gives_back` reads the promises off it. `duplicate_id_keeps_port` is a run that
ends with a port in use.
-/

set_option autoImplicit false

namespace AitpPlayground.Proofs.Runner

open AitpPlayground.Lib
open AitpPlayground.Hosting
open AitpPlayground.Registry
open AitpPlayground.Runner
open AitpPlayground.Proofs.Hosting

/-- The agents of a run have distinct ids. -/
def DistinctIds (_ : Service) : ResourceLabel → Prop
  | .enter _ agents => (agents.map AgentSpec.id).Nodup
  | _ => True

instance (s : Service) : (l : ResourceLabel) → Decidable (DistinctIds s l)
  | .enter _ agents => inferInstanceAs (Decidable (agents.map AgentSpec.id).Nodup)
  | .allocate _ | .launch _ _ _ _ | .launchFails _ _ | .fail _ | .finish _ | .abort _
  | .killStart _ _ | .killNext _ => inferInstanceAs (Decidable True)

/-! ### The invariant -/

/-- The ports in the dictionary of a run. -/
def portsOf (run : RunResources) : List Int := run.ports.entries.map Prod.snd

/-- What holds of a run that has not ended. -/
structure RunOk (s : Service) (runId : String) (run : RunResources) : Prop where
  held : ∀ p ∈ run.allocated, p ∈ s.alloc.inUse ∧ s.owner p = some runId
  /-- The dictionary has exactly the ports that were allocated. -/
  ports : ∀ p, p ∈ portsOf run ↔ p ∈ run.allocated
  /-- The agents without a port have new ids. -/
  rest : ∀ rest, run.phase = .allocating rest →
    (rest.map AgentSpec.id).Nodup ∧ ∀ a ∈ rest, a.id ∉ run.ports.keys

/-- The invariant of the service. -/
structure ResourceInv (s : Service) : Prop where
  valid : Valid s.alloc
  colon : ∀ r run, s.runs r = some run → ':' ∉ r.toList
  runs : ∀ r run, s.runs r = some run → run.phase ≠ .ended → RunOk s r run
  /-- A port in use is held by a run that has not ended. -/
  inUse : ∀ p ∈ s.alloc.inUse, ∃ r run, s.owner p = some r ∧ s.runs r = some run ∧
    run.phase ≠ .ended ∧ p ∈ run.allocated
  /-- A registered process belongs to a run that has not ended. -/
  processes : ∀ k proc, s.sup.processes.get? k = some proc →
    ∃ agentId run, k = AgentSupervisor.key proc.launchedBy agentId ∧
      s.runs proc.launchedBy = some run ∧ run.phase ≠ .ended

/-- The invariant holds at the start. -/
theorem resourceInv_new (start : Int) : ResourceInv (.new start) := by
  refine ⟨valid_new start, ?_, ?_, ?_, ?_⟩
  · intro r run h
    cases h
  · intro r run h
    cases h
  · intro p hp
    cases hp
  · intro k proc h
    cases h

/-! ### Cleanup -/

/-- What the cleanup of a run leaves, called once or twice. -/
structure Cleaned (runId : String) (run : RunResources) (s s' : Service) : Prop where
  valid : Valid s'.alloc
  inUse : s'.alloc.inUse = s.alloc.inUse \ (portsOf run).toFinset
  processes : ∀ k, s'.sup.processes.get? k =
    if (runId ++ ":").toList.isPrefixOf k.toList then none else s.sup.processes.get? k
  runs : s'.runs = s.runs
  owner : s'.owner = s.owner

/-- A cleanup gives back what the run has. -/
theorem cleaned_cleanupRun {s : Service} {runId : String} (run : RunResources)
    (hvalid : Valid s.alloc) (hcolon : ':' ∉ runId.toList) :
    Cleaned runId run s (cleanupRun s runId run.ports) :=
  ⟨valid_releaseAll hvalid _, inUse_releaseAll _ _, get?_killRun hcolon, rfl, rfl⟩

/-- A second cleanup changes nothing any more. -/
theorem cleaned_twice {s : Service} {runId : String} (run : RunResources)
    (hvalid : Valid s.alloc) (hcolon : ':' ∉ runId.toList) :
    Cleaned runId run s (cleanupRun (cleanupRun s runId run.ports) runId run.ports) := by
  have hfirst := cleaned_cleanupRun run hvalid hcolon
  have hsecond := cleaned_cleanupRun run hfirst.valid hcolon
  refine ⟨hsecond.valid, ?_, ?_, rfl, rfl⟩
  · rw [hsecond.inUse, hfirst.inUse, sdiff_idem]
  · intro k
    rw [hsecond.processes, hfirst.processes]
    split <;> rfl

/-- A cleanup after a token was set is a cleanup from before. -/
theorem cleaned_setToken {s s' : Service} {runId : String} {run : RunResources} (port : Int)
    (token : String)
    (h : Cleaned runId run { s with sup := s.sup.setToken port token } s') :
    Cleaned runId run s s' := by
  refine ⟨h.valid, h.inUse, ?_, h.runs, h.owner⟩
  intro k
  rw [h.processes, processes_setToken]

/-- The end of a run that has not ended. -/
theorem resourceInv_endRun {s s' : Service} {runId : String} {run : RunResources}
    (h : ResourceInv s) (hrun : s.runs runId = some run) (hlive : run.phase ≠ .ended)
    (hclean : Cleaned runId run s s') : ResourceInv (endRun s' runId run) := by
  have hok := h.runs runId run hrun hlive
  have hruns : ∀ r, (endRun s' runId run).runs r =
      if r = runId then some { run with phase := .ended } else s.runs r := by
    intro r
    show Function.update s'.runs runId _ r = _
    rw [hclean.runs, Function.update_apply]
  have hother : ∀ r run', (endRun s' runId run).runs r = some run' → run'.phase ≠ .ended →
      r ≠ runId ∧ s.runs r = some run' := by
    intro r run' hr hlive'
    rw [hruns] at hr
    split at hr
    · cases hr
      exact absurd rfl hlive'
    · exact ⟨‹_›, hr⟩
  have howner : ∀ p, (endRun s' runId run).owner p = s.owner p := by
    intro p
    show s'.owner p = _
    rw [hclean.owner]
  have hinUse : ∀ p, p ∈ (endRun s' runId run).alloc.inUse ↔
      p ∈ s.alloc.inUse ∧ p ∉ run.allocated := by
    intro p
    show p ∈ s'.alloc.inUse ↔ _
    rw [hclean.inUse, Finset.mem_sdiff, List.mem_toFinset, hok.ports]
  refine ⟨hclean.valid, ?_, ?_, ?_, ?_⟩
  · intro r run' hr
    rw [hruns] at hr
    split at hr
    case isTrue heq => exact heq ▸ h.colon runId run hrun
    case isFalse => exact h.colon r run' hr
  · intro r run' hr hlive'
    obtain ⟨hne, hr⟩ := hother r run' hr hlive'
    have hok' := h.runs r run' hr hlive'
    refine ⟨?_, hok'.ports, hok'.rest⟩
    intro p hp
    obtain ⟨hin, hown⟩ := hok'.held p hp
    refine ⟨(hinUse p).mpr ⟨hin, ?_⟩, by rw [howner, hown]⟩
    -- A port of both runs would be owned by both.
    intro hp'
    rw [(hok.held p hp').2] at hown
    exact hne (Option.some.inj hown).symm
  · intro p hp
    obtain ⟨hin, hnot⟩ := (hinUse p).mp hp
    obtain ⟨r, run', hown, hr, hlive', hmem⟩ := h.inUse p hin
    refine ⟨r, run', by rw [howner, hown], ?_, hlive', hmem⟩
    rw [hruns, if_neg]
    · exact hr
    · rintro rfl
      rw [hrun] at hr
      cases hr
      exact hnot hmem
  · intro k proc hk
    have hk' : (if (runId ++ ":").toList.isPrefixOf k.toList then none
        else s.sup.processes.get? k) = some proc := by
      rw [← hclean.processes]
      exact hk
    split at hk'
    · cases hk'
    case isFalse hbegins =>
      obtain ⟨agentId, run', hkey, hr, hlive'⟩ := h.processes k proc hk'
      refine ⟨agentId, run', hkey, ?_, hlive'⟩
      rw [hruns, if_neg]
      · exact hr
      · intro heq
        exact hbegins (isPrefixOf_key.mpr ⟨agentId, heq ▸ hkey⟩)

/-! ### Each step keeps the invariant -/

/-- The runs after one of them was put in place. -/
theorem runs_update_cases {runs : String → Option RunResources} {r r' : String}
    {run run' : RunResources} (h : Function.update runs r (some run) r' = some run') :
    (r' = r ∧ run' = run) ∨ (r' ≠ r ∧ runs r' = some run') := by
  rw [Function.update_apply] at h
  split at h
  case isTrue heq => exact .inl ⟨heq, (Option.some.inj h).symm⟩
  case isFalse hne => exact .inr ⟨hne, h⟩

/-- The update of one run leaves the others. -/
theorem runs_update_of_ne {runs : String → Option RunResources} {r r' : String}
    {run run' : RunResources} (hne : r' ≠ r) (h : runs r' = some run') :
    Function.update runs r (some run) r' = some run' := by
  rw [Function.update_of_ne hne]
  exact h

/-- A new run. -/
theorem resourceInv_enter {s : Service} {runId : String} {agents : List AgentSpec}
    (h : ResourceInv s) (hfresh : freshRunId s runId = true)
    (hids : (agents.map AgentSpec.id).Nodup) :
    ResourceInv { s with runs := Function.update s.runs runId (some (.start agents)) } := by
  obtain ⟨hnone, hcolon⟩ : s.runs runId = none ∧ ':' ∉ runId.toList := by
    simpa [freshRunId] using hfresh
  -- The id is new, so every run that is there is another one.
  have hother : ∀ {r run}, s.runs r = some run → r ≠ runId := by
    rintro r run hr rfl
    rw [hnone] at hr
    cases hr
  refine ⟨h.valid, ?_, ?_, ?_, ?_⟩
  · intro r run hr
    rcases runs_update_cases hr with ⟨rfl, -⟩ | ⟨-, hr⟩
    · exact hcolon
    · exact h.colon r run hr
  · intro r run hr hlive
    rcases runs_update_cases hr with ⟨rfl, rfl⟩ | ⟨-, hr⟩
    · refine ⟨?_, ?_, ?_⟩
      · intro p hp
        cases hp
      · intro p
        exact Iff.rfl
      · intro rest hrest
        cases hrest
        exact ⟨hids, fun a _ hmem => by cases hmem⟩
    · have hok := h.runs r run hr hlive
      exact ⟨hok.held, hok.ports, hok.rest⟩
  · intro p hp
    obtain ⟨r, run, hown, hr, hlive, hmem⟩ := h.inUse p hp
    exact ⟨r, run, hown, runs_update_of_ne (hother hr) hr, hlive, hmem⟩
  · intro k proc hk
    obtain ⟨agentId, run, hkey, hr, hlive⟩ := h.processes k proc hk
    exact ⟨agentId, run, hkey, runs_update_of_ne (hother hr) hr, hlive⟩

/-- A run that is replaced by one with the same ports, and maybe a further process of it. -/
theorem resourceInv_replace {s : Service} {runId : String} {run run' : RunResources}
    {sup : AgentSupervisor} (h : ResourceInv s) (hrun : s.runs runId = some run)
    (hlive : run.phase ≠ .ended) (hports : run'.ports = run.ports)
    (hallocated : run'.allocated = run.allocated) (hphase : ∃ rest, run'.phase = .launching rest)
    (hsup : ∀ k proc, sup.processes.get? k = some proc →
      s.sup.processes.get? k = some proc ∨
        ∃ agentId, k = AgentSupervisor.key runId agentId ∧ proc.launchedBy = runId) :
    ResourceInv { s with sup, runs := Function.update s.runs runId (some run') } := by
  obtain ⟨rest, hphase⟩ := hphase
  have hlive' : run'.phase ≠ .ended := by
    rw [hphase]
    simp
  -- A run that has not ended is still there, as it was or replaced.
  have hkeep : ∀ {r run₀}, s.runs r = some run₀ → run₀.phase ≠ .ended →
      ∃ run₁, Function.update s.runs runId (some run') r = some run₁ ∧ run₁.phase ≠ .ended ∧
        run₁.allocated = run₀.allocated := by
    intro r run₀ hr hlive₀
    by_cases heq : r = runId
    · rw [heq, hrun] at hr
      cases hr
      exact ⟨run', heq ▸ Function.update_self .., hlive', hallocated⟩
    · exact ⟨run₀, runs_update_of_ne heq hr, hlive₀, rfl⟩
  refine ⟨h.valid, ?_, ?_, ?_, ?_⟩
  · intro r run₀ hr
    rcases runs_update_cases hr with ⟨rfl, -⟩ | ⟨-, hr⟩
    · exact h.colon r run hrun
    · exact h.colon r run₀ hr
  · intro r run₀ hr hlive₀
    rcases runs_update_cases hr with ⟨rfl, rfl⟩ | ⟨-, hr⟩
    · have hok := h.runs r run hrun hlive
      refine ⟨?_, ?_, ?_⟩
      · rw [hallocated]
        exact hok.held
      · unfold portsOf
        rw [hports, hallocated]
        exact hok.ports
      · intro rest' hrest
        rw [hphase] at hrest
        cases hrest
    · have hok := h.runs r run₀ hr hlive₀
      exact ⟨hok.held, hok.ports, hok.rest⟩
  · intro p hp
    obtain ⟨r, run₀, hown, hr, hlive₀, hmem⟩ := h.inUse p hp
    obtain ⟨run₁, hr₁, hlive₁, hallocated₁⟩ := hkeep hr hlive₀
    exact ⟨r, run₁, hown, hr₁, hlive₁, hallocated₁ ▸ hmem⟩
  · intro k proc hk
    rcases hsup k proc hk with hold | ⟨agentId, hkey, hby⟩
    · obtain ⟨agentId, run₀, hkey, hr, hlive₀⟩ := h.processes k proc hold
      obtain ⟨run₁, hr₁, hlive₁, -⟩ := hkeep hr hlive₀
      exact ⟨agentId, run₁, hkey, hr₁, hlive₁⟩
    · refine ⟨agentId, run', hby ▸ hkey, ?_, hlive'⟩
      rw [hby]
      exact Function.update_self ..

/-- The next port of a run. -/
theorem resourceInv_allocate {s : Service} {runId : String} {run : RunResources} {a : AgentSpec}
    {rest : List AgentSpec} (h : ResourceInv s) (hrun : s.runs runId = some run)
    (hphase : run.phase = .allocating (a :: rest)) :
    ResourceInv { s with
      alloc := (s.alloc.allocate a.portOffset).2
      owner := Function.update s.owner (s.alloc.allocate a.portOffset).1 (some runId)
      runs := Function.update s.runs runId (some { run with
        phase := .allocating rest
        ports := run.ports.set a.id (s.alloc.allocate a.portOffset).1
        allocated := (s.alloc.allocate a.portOffset).1 :: run.allocated }) } := by
  have hlive : run.phase ≠ .ended := by
    rw [hphase]
    simp
  have hok := h.runs runId run hrun hlive
  have halloc := allocated_allocate h.valid a.portOffset
  generalize (s.alloc.allocate a.portOffset).1 = port at halloc ⊢
  generalize (s.alloc.allocate a.portOffset).2 = alloc at halloc ⊢
  -- A port that was in use is not the new one, so its owner stays.
  have hold : ∀ {p}, p ∈ s.alloc.inUse →
      Function.update s.owner port (some runId) p = s.owner p := by
    rintro p hp
    rw [Function.update_of_ne]
    rintro rfl
    exact halloc.new hp
  have hin : ∀ {p}, p ∈ s.alloc.inUse → p ∈ alloc.inUse := by
    intro p hp
    rw [halloc.inUse]
    exact Finset.mem_insert_of_mem hp
  -- The id is not in the map yet, so the port is a new entry and replaces none.
  obtain ⟨hnodup, hnew⟩ := hok.rest _ hphase
  have hkey : a.id ∉ run.ports.keys := hnew a (List.mem_cons_self ..)
  refine ⟨halloc.valid, ?_, ?_, ?_, ?_⟩
  · intro r run' hr
    rcases runs_update_cases hr with ⟨rfl, -⟩ | ⟨-, hr⟩
    · exact h.colon r run hrun
    · exact h.colon r run' hr
  · intro r run' hr hlive'
    rcases runs_update_cases hr with ⟨rfl, rfl⟩ | ⟨-, hr⟩
    · refine ⟨?_, ?_, ?_⟩
      · intro p hp
        rcases List.mem_cons.mp hp with rfl | hp
        · exact ⟨halloc.inUse ▸ Finset.mem_insert_self .., Function.update_self ..⟩
        · obtain ⟨hused, hown⟩ := hok.held p hp
          exact ⟨hin hused, (hold hused).trans hown⟩
      · intro p
        unfold portsOf
        rw [Dict.entries_set_of_notMem port hkey, List.map_append, List.mem_append,
          List.mem_cons, ← hok.ports p]
        unfold portsOf
        simp [or_comm]
      · intro rest' hrest
        cases hrest
        refine ⟨(List.nodup_cons.mp hnodup).2, ?_⟩
        intro b hb hmem
        rw [Dict.keys, Dict.entries_set_of_notMem port hkey, List.map_append] at hmem
        rcases List.mem_append.mp hmem with hmem | hmem
        · exact hnew b (List.mem_cons_of_mem _ hb) hmem
        · have heq' : b.id = a.id := List.mem_singleton.mp hmem
          exact (List.nodup_cons.mp hnodup).1 (heq' ▸ List.mem_map_of_mem hb)
    · have hok' := h.runs r run' hr hlive'
      refine ⟨?_, hok'.ports, hok'.rest⟩
      intro p hp
      obtain ⟨hused, hown⟩ := hok'.held p hp
      exact ⟨hin hused, (hold hused).trans hown⟩
  · intro p hp
    have hin' : p ∈ insert port s.alloc.inUse := halloc.inUse ▸ hp
    rcases Finset.mem_insert.mp hin' with rfl | hused
    · exact ⟨runId, _, Function.update_self .., Function.update_self .., by simp,
        List.mem_cons_self ..⟩
    · obtain ⟨r, run', hown, hr, hlive', hmem⟩ := h.inUse p hused
      -- The other ports keep their owner: the new one was not in use.
      by_cases heq : r = runId
      · subst heq
        rw [hrun] at hr
        cases hr
        exact ⟨r, _, (hold hused).trans hown, Function.update_self .., by simp,
          List.mem_cons_of_mem _ hmem⟩
      · exact ⟨r, run', (hold hused).trans hown, runs_update_of_ne heq hr, hlive', hmem⟩
  · intro k proc hk
    obtain ⟨agentId, run', hkey, hr, hlive'⟩ := h.processes k proc hk
    by_cases heq : proc.launchedBy = runId
    · subst heq
      exact ⟨agentId, _, hkey, Function.update_self .., by simp⟩
    · exact ⟨agentId, run', hkey, runs_update_of_ne heq hr, hlive'⟩

/-- The kills of a cancel request. -/
theorem resourceInv_kill {s : Service} (h : ResourceInv s) (runId agentId : String)
    (kills : Nat → Option (String × List String)) :
    ResourceInv { s with sup := s.sup.kill runId agentId, kills } := by
  refine ⟨h.valid, h.colon, ?_, h.inUse, ?_⟩
  · intro r run hr hlive
    have hok := h.runs r run hr hlive
    exact ⟨hok.held, hok.ports, hok.rest⟩
  · intro k proc hk
    have hk' := (get?_kill s.sup runId agentId k).symm.trans hk
    split at hk'
    · cases hk'
    · exact h.processes k proc hk'

/-- Every step whose run has distinct agent ids keeps the invariant. -/
theorem resourceInv_step {s s' : Service} {l : ResourceLabel} (h : ResourceInv s)
    (hok : DistinctIds s l) (hstep : resourceStep s l = some s') : ResourceInv s' := by
  cases l with
  | enter runId agents =>
    obtain ⟨hfresh, rfl⟩ : freshRunId s runId = true ∧ _ = s' := by
      simpa [resourceStep] using hstep
    exact resourceInv_enter h hfresh hok
  | allocate runId =>
    obtain ⟨run, hrun, hstep⟩ := Option.bind_eq_some_iff.mp hstep
    cases hphase : run.phase with
    | allocating rest =>
      rw [hphase] at hstep
      cases rest with
      | nil =>
        cases hstep
        -- Every agent has its port: the run goes on to launch them.
        exact resourceInv_replace h hrun (by simp [hphase]) rfl rfl ⟨_, rfl⟩
          fun k proc hk => .inl hk
      | cons a rest =>
        cases hstep
        exact resourceInv_allocate h hrun hphase
    | launching rest =>
      rw [hphase] at hstep
      cases hstep
    | ended =>
      rw [hphase] at hstep
      cases hstep
  | launch runId adminToken origin pid =>
    obtain ⟨run, hrun, hstep⟩ := Option.bind_eq_some_iff.mp hstep
    cases hphase : run.phase with
    | launching rest =>
      rw [hphase] at hstep
      cases rest with
      | nil => cases hstep
      | cons a rest =>
        obtain ⟨port, -, hstep⟩ := Option.bind_eq_some_iff.mp hstep
        cases hstep
        refine resourceInv_replace h hrun (by simp [hphase]) rfl rfl ⟨_, rfl⟩ ?_
        intro k proc hk
        -- The one new process is that of the agent which is launched.
        rw [processes_register, Dict.get?_set] at hk
        split at hk
        case isTrue hkey =>
          cases hk
          exact .inr ⟨a.id, hkey.symm, rfl⟩
        case isFalse => exact .inl hk
    | allocating rest =>
      rw [hphase] at hstep
      cases hstep
    | ended =>
      rw [hphase] at hstep
      cases hstep
  | launchFails runId adminToken =>
    obtain ⟨run, hrun, hstep⟩ := Option.bind_eq_some_iff.mp hstep
    cases hphase : run.phase with
    | launching rest =>
      rw [hphase] at hstep
      cases rest with
      | nil => cases hstep
      | cons a rest =>
        obtain ⟨port, -, hstep⟩ := Option.bind_eq_some_iff.mp hstep
        cases hstep
        refine resourceInv_endRun h hrun (by simp [hphase]) (cleaned_setToken port adminToken ?_)
        exact cleaned_twice run h.valid (h.colon _ _ hrun)
    | allocating rest =>
      rw [hphase] at hstep
      cases hstep
    | ended =>
      rw [hphase] at hstep
      cases hstep
  | fail runId =>
    obtain ⟨run, hrun, hstep⟩ := Option.bind_eq_some_iff.mp hstep
    have hclean := cleaned_twice run h.valid (h.colon _ _ hrun)
    cases hphase : run.phase with
    | allocating rest | launching rest =>
      rw [hphase] at hstep
      cases hstep
      exact resourceInv_endRun h hrun (by simp [hphase]) hclean
    | ended =>
      rw [hphase] at hstep
      cases hstep
  | finish runId =>
    obtain ⟨run, hrun, hstep⟩ := Option.bind_eq_some_iff.mp hstep
    cases hphase : run.phase with
    | launching rest =>
      rw [hphase] at hstep
      cases rest with
      | nil =>
        cases hstep
        exact resourceInv_endRun h hrun (by simp [hphase])
          (cleaned_cleanupRun run h.valid (h.colon _ _ hrun))
      | cons a rest => cases hstep
    | allocating rest =>
      rw [hphase] at hstep
      cases hstep
    | ended =>
      rw [hphase] at hstep
      cases hstep
  | abort runId =>
    obtain ⟨run, hrun, hstep⟩ := Option.bind_eq_some_iff.mp hstep
    have hclean := cleaned_cleanupRun run h.valid (h.colon _ _ hrun)
    cases hphase : run.phase with
    | allocating rest | launching rest =>
      rw [hphase] at hstep
      cases hstep
      exact resourceInv_endRun h hrun (by simp [hphase]) hclean
    | ended =>
      rw [hphase] at hstep
      cases hstep
  | killStart request runId =>
    cases hstep
    refine ⟨h.valid, h.colon, ?_, h.inUse, h.processes⟩
    intro r run hr hlive
    have hok := h.runs r run hr hlive
    exact ⟨hok.held, hok.ports, hok.rest⟩
  | killNext request =>
    -- The loop of the request kills at its next key.
    simp only [resourceStep] at hstep
    split at hstep
    · cases hstep
      exact resourceInv_kill h _ _ _
    · cases hstep

/-! ### What a run gives back -/

/-- What a service owes for a run that has ended, and for one that has not. -/
structure GivenBack (s : Service) (runId : String) (run : RunResources) : Prop where
  /-- A port of an ended run is not in use, unless another run allocated it since. -/
  ports : run.phase = .ended → ∀ p ∈ run.allocated,
    p ∈ s.alloc.inUse → ∃ r, s.owner p = some r ∧ r ≠ runId
  /-- No process of an ended run is registered. -/
  processes : run.phase = .ended → ∀ k proc, s.sup.processes.get? k = some proc →
    proc.launchedBy ≠ runId
  /-- Nobody else released a port of a run that has not ended. -/
  held : run.phase ≠ .ended → ∀ p ∈ run.allocated, p ∈ s.alloc.inUse ∧ s.owner p = some runId

/-- **A run gives back everything it took**, in every interleaving of any number of runs and
cancel requests in which every run has agents with distinct ids. -/
theorem run_gives_back (start : Int) {s : Service}
    (hrun : Reach resourceStep DistinctIds (.new start) s) (runId : String) (run : RunResources)
    (hruns : s.runs runId = some run) : GivenBack s runId run := by
  have hinv : ResourceInv s :=
    Reach.invariant (fun _ _ _ h hok hstep => resourceInv_step h hok hstep) hrun
      (resourceInv_new start)
  refine ⟨?_, ?_, ?_⟩
  · intro hended p hp hin
    obtain ⟨r, run', hown, hr, hlive, -⟩ := hinv.inUse p hin
    -- A port in use is that of a run that has not ended.
    refine ⟨r, hown, ?_⟩
    rintro rfl
    rw [hruns] at hr
    cases hr
    exact hlive hended
  · intro hended k proc hk hby
    obtain ⟨agentId, run', -, hr, hlive⟩ := hinv.processes k proc hk
    rw [hby, hruns] at hr
    cases hr
    exact hlive hended
  · intro hlive
    exact (hinv.runs runId run hruns hlive).held

/-- Two runs at once: the first fails after its launch, while a cancel request is at work, and
the second gets its port. -/
def twoRuns : List ResourceLabel :=
  [.enter "r1" [{ id := "a", ref := "a" }], .enter "r2" [{ id := "a", ref := "a" }],
   .allocate "r1", .allocate "r1", .launch "r1" "token" "https://localhost:8100" 1,
   .killStart 0 "r1", .fail "r1", .allocate "r2", .killNext 0]

/-- The port of the first run is in use again, by the second. -/
theorem run_gives_back_beside_another :
    ∃ s run, Reach resourceStep DistinctIds (.new 8100) s ∧ s.runs "r1" = some run ∧
      run.phase = .ended ∧ run.allocated = [8100] ∧ s.owner 8100 = some "r2" ∧
      GivenBack s "r1" run := by
  have hexec : (exec resourceStep DistinctIds (.new 8100) twoRuns).map
      (fun s => ((s.runs "r1").map fun run => (run.phase, run.allocated), s.owner 8100)) =
      some (some (.ended, [8100]), some "r2") := by
    decide +kernel
  obtain ⟨s, hrun, hread⟩ := exists_reach_of_exec hexec
  obtain ⟨hruns, hown⟩ := Prod.mk.inj hread
  obtain ⟨run, hruns, hread⟩ := Option.map_eq_some_iff.mp hruns
  obtain ⟨hended, hallocated⟩ := Prod.mk.inj hread
  exact ⟨s, run, hrun, hruns, hended, hallocated, hown, run_gives_back 8100 hrun "r1" run hruns⟩

/-- A run with two agents of one id. -/
def duplicateRun : List ResourceLabel :=
  [.enter "r" [{ id := "a", ref := "a" }, { id := "a", ref := "b", portOffset := 1 }],
   .allocate "r", .allocate "r", .allocate "r", .fail "r"]

/-- A run whose agents share an id ends with a port in use that it allocated last. -/
theorem duplicate_id_keeps_port :
    ¬ ∀ s, Reach resourceStep anyStep (.new 8100) s →
        ∀ runId run, s.runs runId = some run → GivenBack s runId run := by
  intro hall
  have hexec : (exec resourceStep anyStep (.new 8100) duplicateRun).map
      (fun s => ((s.runs "r").map fun run => (run.phase, run.allocated), s.owner 8100,
        decide (8100 ∈ s.alloc.inUse))) =
      some (some (.ended, [8101, 8100]), some "r", true) := by
    decide +kernel
  obtain ⟨s, hrun, hread⟩ := exists_reach_of_exec hexec
  simp only [Prod.mk.injEq, decide_eq_true_eq] at hread
  obtain ⟨hruns, hown, hin⟩ := hread
  obtain ⟨run, hruns, hread⟩ := Option.map_eq_some_iff.mp hruns
  obtain ⟨hended, hallocated⟩ := Prod.mk.inj hread
  have hmem : (8100 : Int) ∈ run.allocated := by
    rw [hallocated]
    decide
  obtain ⟨r, hown', hne⟩ := (hall s hrun "r" run hruns).ports hended 8100 hmem hin
  rw [hown] at hown'
  exact hne (Option.some.inj hown').symm

end AitpPlayground.Proofs.Runner
