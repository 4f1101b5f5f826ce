import AitpPlayground.Hosting.KillRun
import AitpPlayground.Proofs.Hosting.Supervisor

/-!
# `AitpPlayground.Proofs.Hosting.KillRun`: what a kill takes from other runs

A kill removes the process under its key, and the token of the port in the record of the
agent. The key is one of the run. The record stays in the table for good, so the port of a
second kill can be somebody else's by then.

`KillInv` says which keys and ports are apart: the live agents have a port each, and a loop
has keys of its run only. So the first kill of an agent takes its own token. `keeps_iff`
states when a kill takes the token of another run. It holds in every state that is reached,
also after a kill that came too late.
-/

set_option autoImplicit false

namespace AitpPlayground.Proofs.Hosting

open AitpPlayground.Lib
open AitpPlayground.Hosting

/-! ### The operations of the supervisor -/

/-- A live port is that of an agent with a process. -/
theorem livePort_eq_some {s : AgentSupervisor} {k : String} {port : Int} :
    s.livePort k = some port ↔
      (∃ p, s.processes.get? k = some p) ∧
        ∃ agent, s.agents.get? k = some agent ∧ agent.port = port := by
  unfold AgentSupervisor.livePort
  cases s.processes.get? k <;> simp

/-- A kill leaves the ports of the other agents. -/
theorem livePort_kill (s : AgentSupervisor) (runId agentId k : String) :
    (s.kill runId agentId).livePort k =
      if k = AgentSupervisor.key runId agentId then none else s.livePort k := by
  unfold AgentSupervisor.livePort
  rw [get?_kill, recordPort_kill]
  by_cases hk : k = AgentSupervisor.key runId agentId <;> simp [hk]

/-- A launch makes its port live. -/
theorem livePort_register (s : AgentSupervisor) (runId agentId : String) (port : Int)
    (token origin : String) (pid : Nat) (k : String) :
    (s.register runId agentId port token origin pid).livePort k =
      if k = AgentSupervisor.key runId agentId then some port else s.livePort k := by
  unfold AgentSupervisor.livePort
  rw [processes_register, recordPort_register, Dict.get?_set]
  by_cases hk : k = AgentSupervisor.key runId agentId
  · simp [hk]
  · simp [hk, Ne.symm hk]

/-- A token leaves the live ports. -/
@[simp] theorem livePort_setToken (s : AgentSupervisor) (port : Int) (token k : String) :
    (s.setToken port token).livePort k = s.livePort k := by
  unfold AgentSupervisor.livePort
  rw [processes_setToken, agents_setToken]

/-- The signal leaves the live ports. -/
@[simp] theorem livePort_signalReady (s : AgentSupervisor) (runId agentId aid k : String) :
    (s.signalReady runId agentId aid).livePort k = s.livePort k := by
  unfold AgentSupervisor.livePort
  rw [processes_signalReady, recordPort_signalReady]

/-! ### The invariant -/

/-- A plain run id has no colon. -/
theorem plainRunId_iff {runId : String} : plainRunId runId = true ↔ ':' ∉ runId.toList := by
  simp [plainRunId]

/-- The invariant of the supervisor and its loops. -/
structure KillInv (s : KillThreads) : Prop where
  /-- A process is under a key of the run that launched it. -/
  owned : ∀ k p, s.sup.processes.get? k = some p →
    ':' ∉ p.launchedBy.toList ∧ ∃ agentId, k = AgentSupervisor.key p.launchedBy agentId
  taken : ∀ k port, s.sup.livePort k = some port → port ∈ s.taken
  /-- No two live agents have one port. -/
  apart : ∀ k k' port, s.sup.livePort k = some port → s.sup.livePort k' = some port → k = k'
  /-- A loop has keys of its run. -/
  loops : ∀ thread runId keys, s.loops thread = some (runId, keys) →
    ':' ∉ runId.toList ∧ ∀ k ∈ keys, ∃ agentId, k = AgentSupervisor.key runId agentId

/-- The invariant holds of a new supervisor. -/
theorem killInv_new : KillInv .new := by
  constructor <;> intros <;> simp_all [KillThreads.new, AgentSupervisor.new, livePort_eq_some]

/-- A launch on a port that nobody holds. -/
theorem killInv_launch {s : KillThreads} (h : KillInv s) {runId : String} (agentId : String)
    {port : Int} (token origin : String) (pid : Nat) (hport : port ∉ s.taken)
    (hrun : ':' ∉ runId.toList) :
    KillInv { s with
      sup := s.sup.register runId agentId port token origin pid
      taken := insert port s.taken } := by
  constructor
  case owned =>
    intro k p hp
    simp only [processes_register, Dict.get?_set] at hp
    split at hp
    case isTrue hk =>
      cases hp
      exact ⟨hrun, agentId, hk.symm⟩
    case isFalse => exact h.owned k p hp
  case taken =>
    intro k port' hk
    simp only [livePort_register] at hk
    split at hk
    case isTrue =>
      cases hk
      exact Finset.mem_insert_self _ _
    case isFalse => exact Finset.mem_insert_of_mem (h.taken k port' hk)
  case apart =>
    intro k k' port' hk hk'
    simp only [livePort_register] at hk hk'
    -- The port is new, so an agent that was live before does not have it.
    have hnew : ∀ k, s.sup.livePort k ≠ some port := fun k hlive => hport (h.taken k port hlive)
    split at hk <;> split at hk'
    case isTrue.isTrue hk₁ hk₂ => rw [hk₁, hk₂]
    case isTrue.isFalse =>
      cases hk
      exact absurd hk' (hnew k')
    case isFalse.isTrue =>
      cases hk'
      exact absurd hk (hnew k)
    case isFalse.isFalse => exact h.apart k k' port' hk hk'
  case loops => exact h.loops

/-- A kill, with the loops after it. -/
theorem killInv_kill {s : KillThreads} (h : KillInv s) (runId agentId : String)
    {loops : Nat → Option (String × List String)}
    (hloops : ∀ thread runId keys, loops thread = some (runId, keys) →
      ':' ∉ runId.toList ∧ ∀ k ∈ keys, ∃ agentId, k = AgentSupervisor.key runId agentId) :
    KillInv { s with sup := s.sup.kill runId agentId, loops } := by
  have hlive : ∀ k port, (s.sup.kill runId agentId).livePort k = some port →
      s.sup.livePort k = some port := by
    intro k port hk
    rw [livePort_kill] at hk
    split at hk
    case isTrue => cases hk
    case isFalse => exact hk
  constructor
  case owned =>
    intro k p hp
    simp only [get?_kill] at hp
    split at hp
    case isTrue => cases hp
    case isFalse => exact h.owned k p hp
  case taken => exact fun k port hk => h.taken k port (hlive k port hk)
  case apart =>
    exact fun k k' port hk hk' => h.apart k k' port (hlive k port hk) (hlive k' port hk')
  case loops => exact hloops

/-- The table of loops after one of them has moved. -/
theorem loops_update {loops : Nat → Option (String × List String)} {thread : Nat}
    {entry : Option (String × List String)}
    (hloops : ∀ t runId keys, loops t = some (runId, keys) →
      ':' ∉ runId.toList ∧ ∀ k ∈ keys, ∃ agentId, k = AgentSupervisor.key runId agentId)
    (hentry : ∀ runId keys, entry = some (runId, keys) →
      ':' ∉ runId.toList ∧ ∀ k ∈ keys, ∃ agentId, k = AgentSupervisor.key runId agentId) :
    ∀ t runId keys, Function.update loops thread entry t = some (runId, keys) →
      ':' ∉ runId.toList ∧ ∀ k ∈ keys, ∃ agentId, k = AgentSupervisor.key runId agentId := by
  intro t runId keys ht
  by_cases heq : t = thread
  · subst heq
    rw [Function.update_self] at ht
    exact hentry runId keys ht
  · rw [Function.update_of_ne heq] at ht
    exact hloops t runId keys ht

/-- One step keeps the invariant. -/
theorem killInv_step {s s' : KillThreads} {l : KillLabel} (h : KillInv s)
    (hs : killStep s l = some s') : KillInv s' := by
  cases l with
  | launch runId agentId port token origin pid =>
    simp only [killStep] at hs
    split at hs
    case isTrue hok =>
      cases hs
      exact killInv_launch h agentId token origin pid hok.1 (plainRunId_iff.mp hok.2)
    case isFalse => cases hs
  | launchFails port token =>
    simp only [killStep] at hs
    split at hs
    case isTrue =>
      cases hs
      constructor
      · simpa using h.owned
      · simpa using fun k p hk => Or.inr (h.taken k p hk)
      · simpa using h.apart
      · exact h.loops
    case isFalse => cases hs
  | ready runId agentId aid =>
    cases hs
    constructor
    · simpa using h.owned
    · simpa using h.taken
    · simpa using h.apart
    · exact h.loops
  | release port =>
    simp only [killStep] at hs
    split at hs
    case isTrue hfree =>
      cases hs
      refine ⟨h.owned, ?_, h.apart, h.loops⟩
      intro k port' hk
      -- A port that is released belongs to no live agent.
      obtain ⟨⟨p, hp⟩, -⟩ := livePort_eq_some.mp hk
      have hmem : k ∈ s.sup.processes.keys := (Dict.mem_keys_iff _ k).mpr (by simp [hp])
      have hne : s.sup.livePort k ≠ some port := by
        simpa using List.all_eq_true.mp hfree k hmem
      exact Finset.mem_erase.mpr ⟨fun heq => hne (heq ▸ hk), h.taken k port' hk⟩
    case isFalse => cases hs
  | killStart thread runId =>
    simp only [killStep] at hs
    split at hs
    case isTrue hok =>
      cases hs
      refine ⟨h.owned, h.taken, h.apart, loops_update h.loops ?_⟩
      rintro _ _ ⟨⟩
      -- The keys of the snapshot start with the run id.
      exact ⟨plainRunId_iff.mp hok.2,
        fun k hk => isPrefixOf_key.mp (List.mem_filter.mp hk).2⟩
    case isFalse => cases hs
  | killNext thread =>
    simp only [killStep] at hs
    split at hs
    case h_1 => cases hs
    case h_2 =>
      cases hs
      exact ⟨h.owned, h.taken, h.apart, loops_update h.loops nofun⟩
    case h_3 runId k rest hloop =>
      cases hs
      refine killInv_kill h runId _ (loops_update h.loops ?_)
      rintro _ _ ⟨⟩
      -- The loop goes on with the rest of its keys.
      obtain ⟨hrun, hkeys⟩ := h.loops thread runId _ hloop
      exact ⟨hrun, fun k hk => hkeys k (List.mem_cons_of_mem _ hk)⟩

/-! ### What a step of `kill_run` takes from other runs -/

/-- A kill keeps the entries of other runs, unless it comes too late. -/
theorem othersKept_kill {s : KillThreads} (h : KillInv s) {thread : Nat} {runId k : String}
    {rest : List String} (hloop : s.loops thread = some (runId, k :: rest)) :
    OthersKept runId s.sup (s.sup.kill runId (AgentSupervisor.agentOf k)) ↔
      ¬ KillsRecycled s (.killNext thread) := by
  obtain ⟨hrun, hkeys⟩ := h.loops thread runId _ hloop
  obtain ⟨agentId, rfl⟩ := hkeys k (List.mem_cons_self ..)
  rw [agentOf_key hrun]
  -- The killed key is that of an agent of this run, whatever is registered there.
  have hother : ∀ k' p, s.sup.processes.get? k' = some p → p.launchedBy ≠ runId →
      k' ≠ AgentSupervisor.key runId agentId := by
    rintro k' p hp hne rfl
    obtain ⟨hown, agentId', heq⟩ := h.owned _ p hp
    exact hne (key_inj hown hrun heq.symm)
  constructor
  · -- A late kill takes the token that is there.
    rintro hkept ⟨thread', runId', k', rest', stale, hl, hloop', hdead, hstale, htoken,
      k'', p, hp, hne, hport⟩
    cases hl
    rw [hloop] at hloop'
    cases hloop'
    have hsame := hkept.token k'' p stale.port hp hne hport
    rw [adminTokens_kill, hstale, Option.map_some, if_pos rfl] at hsame
    rw [← hsame] at htoken
    cases htoken
  · intro hnot
    constructor
    case process =>
      intro k' p hp hne
      rw [get?_kill, if_neg (hother k' p hp hne)]
      exact hp
    case token =>
      intro k' p port hp hne hport
      rw [adminTokens_kill]
      split
      case isFalse => rfl
      case isTrue hmap =>
        obtain ⟨stale, hstale, rfl⟩ := Option.map_eq_some_iff.mp hmap
        cases hproc : s.sup.processes.get? (AgentSupervisor.key runId agentId) with
        | some p' =>
          -- Both agents are live, and no two live agents have one port.
          have hlive : s.sup.livePort (AgentSupervisor.key runId agentId) = some stale.port :=
            livePort_eq_some.mpr ⟨⟨p', hproc⟩, stale, hstale, rfl⟩
          exact absurd (h.apart _ _ _ hport hlive) (hother k' p hp hne)
        | none =>
          -- The process was killed before, and the record still names its port.
          cases htoken : s.sup.adminTokens.get? stale.port with
          | none => rfl
          | some token =>
            refine absurd ⟨thread, runId, _, rest, stale, rfl, hloop, hproc, hstale, ?_,
              k', p, hp, hne, hport⟩ hnot
            rw [htoken]
            rfl

/-- A step of `kill_run` keeps the entries of the live agents of other runs, unless it is a
kill that comes too late. -/
theorem othersKept_iff {s s' : KillThreads} {l : KillLabel} {runId : String} (h : KillInv s)
    (hl : killedRun s l = some runId) (hs : killStep s l = some s') :
    OthersKept runId s.sup s'.sup ↔ ¬ KillsRecycled s l := by
  cases l with
  | launch => cases hl
  | launchFails => cases hl
  | ready => cases hl
  | release => cases hl
  | killStart thread runId' =>
    -- Only the keys are read.
    have hsup : s'.sup = s.sup := by
      simp only [killStep] at hs
      split at hs <;> cases hs
      rfl
    rw [hsup]
    refine iff_of_true ⟨fun _ _ hp _ => hp, fun _ _ _ _ _ _ => rfl⟩ ?_
    rintro ⟨_, _, _, _, _, heq, -⟩
    cases heq
  | killNext thread =>
    simp only [killStep] at hs
    split at hs
    case h_1 => cases hs
    case h_2 hloop =>
      -- The loop is at its end.
      cases hs
      refine iff_of_true ⟨fun _ _ hp _ => hp, fun _ _ _ _ _ _ => rfl⟩ ?_
      rintro ⟨_, _, _, _, _, heq, hloop', -⟩
      cases heq
      rw [hloop] at hloop'
      cases hloop'
    case h_3 runId' k rest hloop =>
      cases hs
      rw [killedRun, hloop] at hl
      cases hl
      exact othersKept_kill h hloop

/-- The invariant holds in every run. -/
theorem killInv_reach {s : KillThreads} (h : Reach killStep anyStep .new s) : KillInv s :=
  h.invariant (fun _ _ _ hinv _ hs => killInv_step hinv hs) killInv_new

/-- In every run, a step of `kill_run` keeps the process and the token of every live agent of
another run if and only if it is not a kill that comes too late. -/
theorem kill_run_keeps_others_iff {s s' : KillThreads} {l : KillLabel} {runId : String}
    (h : Reach killStep anyStep .new s) (hl : killedRun s l = some runId)
    (hs : killStep s l = some s') :
    OthersKept runId s.sup s'.sup ↔ ¬ KillsRecycled s l :=
  othersKept_iff (killInv_reach h) hl hs

/-- The first kill of an agent, beside an agent of another run. -/
theorem kill_run_keeps_others_first_kill :
    ∃ s s', Reach killStep anyStep .new s ∧ killStep s (.killNext 0) = some s' ∧
      s.sup.livePort "r2:b" = some 8101 ∧ OthersKept "r1" s.sup s'.sup := by
  have heval : ((exec killStep anyStep .new
      [.launch "r1" "a" 8100 "t1" "http://localhost:8100" 1,
        .launch "r2" "b" 8101 "t2" "http://localhost:8101" 2, .killStart 0 "r1"]).map fun s =>
        (s.loops 0, s.sup.livePort "r2:b", (s.sup.processes.get? "r1:a").isSome)) =
      some (some ("r1", ["r1:a"]), some 8101, true) := by decide +kernel
  obtain ⟨s, hrun, hreads⟩ := exists_reach_of_exec heval
  simp only [Prod.mk.injEq] at hreads
  obtain ⟨hloop, hlive, hproc⟩ := hreads
  have hs : killStep s (.killNext 0) = some { s with
      sup := s.sup.kill "r1" (AgentSupervisor.agentOf "r1:a")
      loops := Function.update s.loops 0 (some ("r1", [])) } := by
    simp only [killStep, hloop]
  refine ⟨s, _, hrun, hs, hlive, ?_⟩
  refine (kill_run_keeps_others_iff hrun ?_ hs).mpr ?_
  · rw [killedRun, hloop]
    rfl
  · rintro ⟨_, _, _, _, _, heq, hloop', hdead, -⟩
    cases heq
    rw [hloop] at hloop'
    cases hloop'
    rw [hdead] at hproc
    cases hproc

/-- A cancel request and the cleanup both kill the run `r1`. The port of its agent is launched
on again between the two kills. -/
theorem late_kill_takes_token :
    ¬ ∀ (s s' : KillThreads) (l : KillLabel) (runId : String),
      Reach killStep anyStep .new s → killedRun s l = some runId → killStep s l = some s' →
        OthersKept runId s.sup s'.sup := by
  intro hall
  have heval : ((exec killStep anyStep .new
      [.launch "r1" "a" 8100 "t1" "http://localhost:8100" 1, .killStart 0 "r1",
        .killStart 1 "r1", .killNext 1, .release 8100,
        .launch "r2" "b" 8100 "t2" "http://localhost:8100" 2]).map fun s =>
        (killedRun s (.killNext 0), s.sup.processes.get? "r2:b", s.sup.livePort "r2:b",
          (killStep s (.killNext 0)).map fun s' =>
            [s.sup.adminTokens.get? 8100, s'.sup.adminTokens.get? 8100])) =
      some (some "r1", some ⟨2, "r2"⟩, some 8100, some [some "t2", none]) := by decide +kernel
  obtain ⟨s, hrun, hreads⟩ := exists_reach_of_exec heval
  simp only [Prod.mk.injEq] at hreads
  obtain ⟨hl, hproc, hlive, hafter⟩ := hreads
  obtain ⟨s', hs, htokens⟩ := Option.map_eq_some_iff.mp hafter
  have hkept := (hall s s' _ "r1" hrun hl hs).token "r2:b" _ 8100 hproc (by decide) hlive
  simp only [List.cons.injEq] at htokens
  rw [htokens.1, htokens.2.1] at hkept
  cases hkept

end AitpPlayground.Proofs.Hosting
