import AitpPlayground.Hosting.Supervisor

/-!
# `AitpPlayground.Proofs.Hosting.Supervisor`: what `kill_run` removes

The key of a process is the run id, a colon and the agent id. A run id has no colon, so a key
can be read back: `kill_run` finds the agent id behind the first colon, whatever the agent id
is, and removes exactly the keys of its run.
-/

set_option autoImplicit false

namespace AitpPlayground.Proofs.Hosting

open AitpPlayground.Lib
open AitpPlayground.Hosting

/-- The key is the run, a colon and the agent. -/
theorem toList_key (runId agentId : String) :
    (AgentSupervisor.key runId agentId).toList = runId.toList ++ ':' :: agentId.toList := by
  unfold AgentSupervisor.key
  simp

/-- The agent id of a key. -/
theorem agentOf_key {runId : String} (h : ':' ∉ runId.toList) (agentId : String) :
    AgentSupervisor.agentOf (AgentSupervisor.key runId agentId) = agentId := by
  unfold AgentSupervisor.agentOf
  rw [toList_key, splitOnce_append h]
  exact String.ofList_toList

/-- A key has one run and one agent. -/
theorem key_eq_iff {runId runId' agentId agentId' : String} (h : ':' ∉ runId.toList)
    (h' : ':' ∉ runId'.toList) :
    AgentSupervisor.key runId agentId = AgentSupervisor.key runId' agentId' ↔
      runId = runId' ∧ agentId = agentId' := by
  rw [← String.toList_inj, toList_key, toList_key, append_sep_inj h h', String.toList_inj,
    String.toList_inj]

/-- Two runs have no key in common. -/
theorem key_inj {runId runId' agentId agentId' : String} (h : ':' ∉ runId.toList)
    (h' : ':' ∉ runId'.toList)
    (heq : AgentSupervisor.key runId agentId = AgentSupervisor.key runId' agentId') :
    runId = runId' :=
  ((key_eq_iff h h').mp heq).1

/-- The keys of a run are those that start with its id and a colon. -/
theorem isPrefixOf_key {runId k : String} :
    (runId ++ ":").toList.isPrefixOf k.toList = true ↔
      ∃ agentId, k = AgentSupervisor.key runId agentId := by
  rw [List.isPrefixOf_iff_prefix]
  constructor
  · rintro ⟨rest, hrest⟩
    refine ⟨String.ofList rest, ?_⟩
    apply String.toList_injective
    rw [toList_key, ← hrest]
    simp
  · rintro ⟨agentId, rfl⟩
    rw [toList_key]
    exact ⟨agentId.toList, by simp⟩

/-- What a kill removes. -/
theorem get?_kill (s : AgentSupervisor) (runId agentId k : String) :
    (s.kill runId agentId).processes.get? k =
      if k = AgentSupervisor.key runId agentId then none else s.processes.get? k := by
  unfold AgentSupervisor.kill
  cases s.agents.get? (AgentSupervisor.key runId agentId) with
  | none => exact Dict.get?_erase s.processes _ k
  | some agent => exact Dict.get?_erase s.processes _ k

/-- What the kills of a list of keys remove. -/
theorem get?_kills {runId : String} (keys : List String) (s : AgentSupervisor) (k : String)
    (h : ∀ x ∈ keys, AgentSupervisor.key runId (AgentSupervisor.agentOf x) = x) :
    (keys.foldl (fun s x => s.kill runId (AgentSupervisor.agentOf x)) s).processes.get? k =
      if k ∈ keys then none else s.processes.get? k := by
  induction keys generalizing s with
  | nil => rfl
  | cons x keys ih =>
    rw [List.foldl_cons, ih _ fun y hy => h y (List.mem_cons_of_mem _ hy), get?_kill,
      h x (List.mem_cons_self ..)]
    by_cases hx : k = x
    · simp [hx]
    · simp [hx]

/-- `kill_run` removes the processes under the keys of its run, and no other. -/
theorem get?_killRun {s : AgentSupervisor} {runId : String} (h : ':' ∉ runId.toList)
    (k : String) :
    (s.killRun runId).processes.get? k =
      if (runId ++ ":").toList.isPrefixOf k.toList then none else s.processes.get? k := by
  have hkeys : ∀ x ∈ s.keysOf runId,
      AgentSupervisor.key runId (AgentSupervisor.agentOf x) = x := by
    intro x hx
    obtain ⟨agentId, rfl⟩ := isPrefixOf_key.mp (List.mem_filter.mp hx).2
    rw [agentOf_key h]
  unfold AgentSupervisor.killRun
  rw [get?_kills _ _ _ hkeys]
  by_cases hk : (runId ++ ":").toList.isPrefixOf k.toList = true
  · rw [if_pos hk]
    split
    case isTrue => rfl
    case isFalse hnot =>
      -- A key that is not in the list is not in the table.
      have hkeys : k ∉ s.processes.keys := fun hmem => hnot (List.mem_filter.mpr ⟨hmem, hk⟩)
      rw [Dict.mem_keys_iff, Bool.not_eq_true, Option.isSome_eq_false_iff,
        Option.isNone_iff_eq_none] at hkeys
      exact hkeys
  · rw [if_neg hk, if_neg]
    intro hmem
    exact hk (List.mem_filter.mp hmem).2

/-- A token leaves the processes. -/
@[simp] theorem processes_setToken (s : AgentSupervisor) (port : Int) (token : String) :
    (s.setToken port token).processes = s.processes := by
  unfold AgentSupervisor.setToken
  split <;> rfl

/-- A launch adds its process. -/
@[simp] theorem processes_register (s : AgentSupervisor) (runId agentId : String) (port : Int)
    (token origin : String) (pid : Nat) :
    (s.register runId agentId port token origin pid).processes =
      s.processes.set (AgentSupervisor.key runId agentId) ⟨pid, runId⟩ := by
  unfold AgentSupervisor.register
  simp

/-- A token leaves the records. -/
@[simp] theorem agents_setToken (s : AgentSupervisor) (port : Int) (token : String) :
    (s.setToken port token).agents = s.agents := by
  unfold AgentSupervisor.setToken
  split <;> rfl

/-- A launch with a token registers it under its port. -/
theorem adminTokens_setToken (s : AgentSupervisor) (port : Int) {token : String}
    (h : token ≠ "") : (s.setToken port token).adminTokens = s.adminTokens.set port token := by
  unfold AgentSupervisor.setToken
  rw [if_neg h]

/-- A launch sets the token of its port. -/
theorem adminTokens_register (s : AgentSupervisor) (runId agentId : String) (port : Int)
    {token : String} (origin : String) (pid : Nat) (h : token ≠ "") :
    (s.register runId agentId port token origin pid).adminTokens =
      s.adminTokens.set port token :=
  adminTokens_setToken s port h

/-- The signal leaves the processes. -/
@[simp] theorem processes_signalReady (s : AgentSupervisor) (runId agentId aid : String) :
    (s.signalReady runId agentId aid).processes = s.processes := by
  unfold AgentSupervisor.signalReady
  split <;> rfl

/-- The signal leaves the tokens. -/
@[simp] theorem adminTokens_signalReady (s : AgentSupervisor) (runId agentId aid : String) :
    (s.signalReady runId agentId aid).adminTokens = s.adminTokens := by
  unfold AgentSupervisor.signalReady
  split <;> rfl

/-! ### The ports in the records

A record stays for good, and no step but a launch changes its port. -/

/-- A launch records its port. -/
theorem recordPort_register (s : AgentSupervisor) (runId agentId : String) (port : Int)
    (token origin : String) (pid : Nat) (k : String) :
    ((s.register runId agentId port token origin pid).agents.get? k).map RunningAgent.port =
      if k = AgentSupervisor.key runId agentId then some port
      else (s.agents.get? k).map RunningAgent.port := by
  simp only [AgentSupervisor.register, agents_setToken, Dict.get?_set]
  by_cases hk : k = AgentSupervisor.key runId agentId
  · simp [hk]
  · simp [hk, Ne.symm hk]

/-- The signal leaves the ports. -/
theorem recordPort_signalReady (s : AgentSupervisor) (runId agentId aid k : String) :
    ((s.signalReady runId agentId aid).agents.get? k).map RunningAgent.port =
      (s.agents.get? k).map RunningAgent.port := by
  unfold AgentSupervisor.signalReady
  cases hagent : s.agents.get? (AgentSupervisor.key runId agentId) with
  | none => rfl
  | some agent =>
    by_cases hk : k = AgentSupervisor.key runId agentId
    · simp [hk, hagent]
    · simp [Dict.get?_set_ne s.agents _ (Ne.symm hk)]

/-- A kill leaves the ports, as the record stays. -/
theorem recordPort_kill (s : AgentSupervisor) (runId agentId k : String) :
    ((s.kill runId agentId).agents.get? k).map RunningAgent.port =
      (s.agents.get? k).map RunningAgent.port := by
  unfold AgentSupervisor.kill
  cases hagent : s.agents.get? (AgentSupervisor.key runId agentId) with
  | none => rfl
  | some agent =>
    by_cases hk : k = AgentSupervisor.key runId agentId
    · simp [hk, hagent]
    · simp [Dict.get?_set_ne s.agents _ (Ne.symm hk)]

/-- A kill removes the token of the port in the record, whoever launched on it last. -/
theorem adminTokens_kill (s : AgentSupervisor) (runId agentId : String) (port : Int) :
    (s.kill runId agentId).adminTokens.get? port =
      if (s.agents.get? (AgentSupervisor.key runId agentId)).map RunningAgent.port = some port
      then none else s.adminTokens.get? port := by
  unfold AgentSupervisor.kill
  cases s.agents.get? (AgentSupervisor.key runId agentId) with
  | none => simp
  | some agent => simp [Dict.get?_erase, eq_comm]

end AitpPlayground.Proofs.Hosting
