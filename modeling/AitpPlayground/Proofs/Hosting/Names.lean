import AitpPlayground.Hosting.Names
import AitpPlayground.Proofs.Hosting.KillRun

/-!
# `AitpPlayground.Proofs.Hosting.Names`: two agents have no name in common

A run id has no separator, so each name can be read back: the run id ends at the first
separator behind it, and what follows is the agent id, whatever it contains. The loop of
`kill_run` reads its keys back in this way.
-/

set_option autoImplicit false

namespace AitpPlayground.Proofs.Hosting

open AitpPlayground.Lib
open AitpPlayground.Hosting

/-- A plain name has neither a colon nor an underscore. -/
theorem plainName_iff {runId : String} :
    plainName runId = true ↔ ':' ∉ runId.toList ∧ '_' ∉ runId.toList := by
  simp [plainName, plainRunId]

/-- The seed is of the org, the run and the agent, with colons between them. -/
theorem toList_seedMaterial (runId agentId : String) (org : Org) :
    (seedMaterial runId agentId org).toList =
      org.text.toList ++ ':' :: (runId.toList ++ ':' :: agentId.toList) := by
  simp [seedMaterial]

/-- The file has the run, an underscore and the agent. -/
theorem toList_bootstrapName (runId agentId : String) :
    (bootstrapName runId agentId).toList =
      runId.toList ++ '_' :: (agentId.toList ++ ".json".toList) := by
  simp [bootstrapName]

/-- The two orgs have different texts. -/
theorem orgText_inj {org org' : Org} (h : org.text = org'.text) : org = org' := by
  cases org <;> cases org' <;> first | rfl | exact absurd h (by decide)

/-- Seed material is that of one agent of one run in one organisation. -/
theorem seedMaterial_inj {runId runId' agentId agentId' : String} {org org' : Org}
    (h : ':' ∉ runId.toList) (h' : ':' ∉ runId'.toList)
    (heq : seedMaterial runId agentId org = seedMaterial runId' agentId' org') :
    org = org' ∧ runId = runId' ∧ agentId = agentId' := by
  have hcolon : ∀ org : Org, ':' ∉ org.text.toList := by
    intro org
    cases org <;> decide
  rw [← String.toList_inj, toList_seedMaterial, toList_seedMaterial,
    append_sep_inj (hcolon org) (hcolon org'), append_sep_inj h h', String.toList_inj,
    String.toList_inj, String.toList_inj] at heq
  exact ⟨orgText_inj heq.1, heq.2⟩

/-- A bootstrap file is that of one agent of one run. -/
theorem bootstrapName_inj {runId runId' agentId agentId' : String}
    (h : '_' ∉ runId.toList) (h' : '_' ∉ runId'.toList)
    (heq : bootstrapName runId agentId = bootstrapName runId' agentId') :
    runId = runId' ∧ agentId = agentId' := by
  rw [← String.toList_inj, toList_bootstrapName, toList_bootstrapName, append_sep_inj h h',
    List.append_cancel_right_eq, String.toList_inj, String.toList_inj] at heq
  exact heq

/-- A write leaves the file of every other agent. -/
theorem writeBootstrap_other {β : Type} {files files' : Dict String β} {bootstrap : β}
    {runId runId' agentId agentId' : String} (h : '_' ∉ runId.toList) (h' : '_' ∉ runId'.toList)
    (hne : (runId, agentId) ≠ (runId', agentId'))
    (hwrite : writeBootstrap files runId agentId bootstrap = some files') :
    files'.get? (bootstrapName runId' agentId') = files.get? (bootstrapName runId' agentId') := by
  simp only [writeBootstrap] at hwrite
  split at hwrite
  · cases hwrite
  · cases hwrite
    refine Dict.get?_set_ne files _ fun heq => hne ?_
    obtain ⟨rfl, rfl⟩ := bootstrapName_inj h h' heq
    rfl

/-- The loop of `kill_run` is over the launches of its run. -/
theorem keysOf_launched {s : AgentSupervisor} {launched : List (String × String)}
    (hkeys : s.HasKeys launched) (hplain : ∀ e ∈ launched, ':' ∉ e.1.toList) {runId : String}
    (h : ':' ∉ runId.toList) :
    s.keysOf runId =
      (launched.filter fun e => e.1 = runId).map fun e => AgentSupervisor.key e.1 e.2 := by
  unfold AgentSupervisor.keysOf
  rw [hkeys, List.filter_map]
  congr 1
  refine List.filter_congr fun e he => ?_
  rw [Function.comp_apply, Bool.eq_iff_iff, decide_eq_true_iff, isPrefixOf_key]
  constructor
  · rintro ⟨agentId, heq⟩
    exact key_inj (hplain e he) h heq
  · rintro rfl
    exact ⟨e.2, rfl⟩

/-- The agent ids that the loop reads are those of the launches of its run. -/
theorem agentOf_keysOf {s : AgentSupervisor} {launched : List (String × String)}
    (hkeys : s.HasKeys launched) (hplain : ∀ e ∈ launched, ':' ∉ e.1.toList) {runId : String}
    (h : ':' ∉ runId.toList) :
    (s.keysOf runId).map AgentSupervisor.agentOf =
      (launched.filter fun e => e.1 = runId).map Prod.snd := by
  rw [keysOf_launched hkeys hplain h, List.map_map]
  refine List.map_congr_left fun e he => ?_
  exact agentOf_key (hplain e (List.mem_filter.mp he).1) e.2

/-- `kill_run` kills the agents of the run that were launched, in their order. -/
theorem killRun_launched {s : AgentSupervisor} {launched : List (String × String)}
    (hkeys : s.HasKeys launched) (hplain : ∀ e ∈ launched, ':' ∉ e.1.toList) {runId : String}
    (h : ':' ∉ runId.toList) :
    s.killRun runId = ((launched.filter fun e => e.1 = runId).map Prod.snd).foldl
      (fun s agentId => s.kill runId agentId) s := by
  rw [← agentOf_keysOf hkeys hplain h, List.foldl_map]
  rfl

/-- Every table that the supervisor comes to have is that of launches of runs without a
colon. -/
theorem hasKeys_of_reach {s : KillThreads} (h : Reach killStep anyStep .new s) :
    ∃ launched, s.sup.HasKeys launched ∧ ∀ e ∈ launched, ':' ∉ e.1.toList := by
  have hentry : ∀ e ∈ s.sup.processes.entries, ':' ∉ e.2.launchedBy.toList ∧
      ∃ agentId, e.1 = AgentSupervisor.key e.2.launchedBy agentId := by
    intro e he
    exact (killInv_reach h).owned e.1 e.2 ((Dict.get?_eq_some_iff _ _ _).mpr he)
  refine ⟨s.sup.processes.entries.map fun e => (e.2.launchedBy, AgentSupervisor.agentOf e.1),
    ?_, ?_⟩
  · unfold AgentSupervisor.HasKeys Dict.keys
    rw [List.map_map]
    refine List.map_congr_left fun e he => ?_
    obtain ⟨hplain, agentId, heq⟩ := hentry e he
    rw [Function.comp_apply, heq, agentOf_key hplain]
  · intro e he
    obtain ⟨entry, hmem, rfl⟩ := List.mem_map.mp he
    exact (hentry entry hmem).1

/-- Equal seed material, equal keys of the supervisor and equal names of the bootstrap file
are those of one agent of one run, and of one organisation in the case of the seed. A write
leaves the files of the other agents, and the loop of `kill_run` is over the launches of its
run, with their agent ids. -/
theorem names_separate_agents {runId runId' : String} (h : plainName runId)
    (h' : plainName runId') (agentId agentId' : String) (org org' : Org) :
    (seedMaterial runId agentId org = seedMaterial runId' agentId' org' →
      org = org' ∧ runId = runId' ∧ agentId = agentId') ∧
    (∀ {Digest : Type} (sha256 : ByteArray → Digest), Function.Injective sha256 →
      deriveSeedHex sha256 runId agentId org = deriveSeedHex sha256 runId' agentId' org' →
        org = org' ∧ runId = runId' ∧ agentId = agentId') ∧
    (AgentSupervisor.key runId agentId = AgentSupervisor.key runId' agentId' →
      runId = runId' ∧ agentId = agentId') ∧
    (bootstrapName runId agentId = bootstrapName runId' agentId' →
      runId = runId' ∧ agentId = agentId') ∧
    (∀ {β : Type} (files files' : Dict String β) (bootstrap : β),
      writeBootstrap files runId agentId bootstrap = some files' →
      (runId, agentId) ≠ (runId', agentId') →
        files'.get? (bootstrapName runId' agentId') =
          files.get? (bootstrapName runId' agentId')) ∧
    ∀ (s : AgentSupervisor) (launched : List (String × String)), s.HasKeys launched →
      (∀ e ∈ launched, plainRunId e.1) →
        s.keysOf runId =
          (launched.filter fun e => e.1 = runId).map (fun e => AgentSupervisor.key e.1 e.2) ∧
        s.killRun runId = ((launched.filter fun e => e.1 = runId).map Prod.snd).foldl
          (fun s agentId => s.kill runId agentId) s := by
  obtain ⟨hcolon, hunder⟩ := plainName_iff.mp h
  obtain ⟨hcolon', hunder'⟩ := plainName_iff.mp h'
  refine ⟨seedMaterial_inj hcolon hcolon', ?_, (key_eq_iff hcolon hcolon').mp,
    bootstrapName_inj hunder hunder', ?_, ?_⟩
  · intro Digest sha256 hinj heq
    exact seedMaterial_inj hcolon hcolon' (String.toByteArray_inj.mp (hinj heq))
  · intro β files files' bootstrap hwrite hne
    exact writeBootstrap_other hunder hunder' hne hwrite
  · intro s launched hkeys hplain
    have hplain' : ∀ e ∈ launched, ':' ∉ e.1.toList := fun e he =>
      plainRunId_iff.mp (hplain e he)
    exact ⟨keysOf_launched hkeys hplain' hcolon, killRun_launched hkeys hplain' hcolon⟩

/-- Agent ids with both separators, in two runs. -/
theorem names_separate_separators :
    AgentSupervisor.key "r1" "a:b_c" ≠ AgentSupervisor.key "r2" "a:b_c" ∧
      bootstrapName "r1" "r2_a" ≠ bootstrapName "r2" "r1_a" ∧
      (AgentSupervisor.new.register "r1" "a:b" 8100 "t" "http://localhost:8100" 1).keysOf "r1" =
        ["r1:a:b"] := by
  have hrun₁ : plainName "r1" = true := by decide
  have hrun₂ : plainName "r2" = true := by decide
  have hkeys : (AgentSupervisor.new.register "r1" "a:b" 8100 "t" "http://localhost:8100"
      1).HasKeys [("r1", "a:b")] := by
    unfold AgentSupervisor.HasKeys
    decide
  obtain ⟨-, -, hkey, -, -, hkill⟩ :=
    names_separate_agents hrun₁ hrun₂ "a:b_c" "a:b_c" .internal .internal
  obtain ⟨-, -, -, hname, -, -⟩ :=
    names_separate_agents hrun₁ hrun₂ "r2_a" "r1_a" .internal .internal
  refine ⟨fun heq => ?_, fun heq => ?_, ?_⟩
  · exact absurd (hkey heq).1 (by decide)
  · exact absurd (hname heq).1 (by decide)
  · exact (hkill _ _ hkeys (by decide)).1

end AitpPlayground.Proofs.Hosting
