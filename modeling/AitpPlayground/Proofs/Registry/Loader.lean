import AitpPlayground.Registry.Service
import Mathlib.Data.List.Induction

/-!
# `AitpPlayground.Proofs.Registry.Loader`: which scenarios the loader keeps

`load` finds a scenario by the place of its file and keeps it under the reference in its
metadata. `foundVersions` are the files that the walk comes across, and `Loads` says what a
walk that returns has done: it has loaded these files in order and put each into the tables.
So the registry has, under each reference, the scenario of the last file with it. The
templates are those of the last file with this reference that has any.
-/

set_option autoImplicit false

namespace AitpPlayground.Proofs.Registry

open AitpPlayground.Lib
open AitpPlayground.Registry

/-! ### What the walk finds -/

/-- A `scenario.yaml` with the templates beside it. -/
structure FoundVersion (δ : Type) where
  path : String
  scenarioYaml : YamlFile δ
  templates : List (String × YamlFile δ)

/-- What a found version is loaded as. -/
structure LoadedVersion where
  scenario : ScenarioVersion
  templates : Dict String ScenarioTemplate

/-- The entries of a directory that can be listed. -/
def listed {α : Type} : Except RunExc (List α) → List α
  | .ok entries => entries
  | .error _ => []

section
variable {δ : Type}

/-- A version directory, when it has a `scenario.yaml`. -/
def foundVersion (dir : String) (version : VersionDir δ) : List (FoundVersion δ) :=
  (version.scenarioYaml.map fun file =>
    ⟨dir ++ "/" ++ version.name, file, version.templates⟩).toList

def foundInScenario (dir : String) (scenario : ScenarioDir δ) : List (FoundVersion δ) :=
  (listed scenario.versions).flatMap (foundVersion (dir ++ "/" ++ scenario.name))

/-- A directory of the root is a pack when it has a `pack.yaml`, and no underscore in front of
its name. -/
def foundInPack (root : String) (pack : PackDir δ) : List (FoundVersion δ) :=
  if pack.name.toList.head? ≠ some '_' ∧ pack.packYaml.isSome then
    (listed pack.scenarios).flatMap (foundInScenario (root ++ "/" ++ pack.name))
  else []

/-- The files `scenario.yaml` in the version directories of the packs. -/
def foundVersions (dir : ScenariosDir δ) : List (FoundVersion δ) :=
  (listed dir.packs).flatMap (foundInPack dir.path)

end

section
variable {δ : Type} (py : PyLib) (schema : Schema δ)

/-- A found version, loaded. -/
def FoundVersion.load (f : FoundVersion δ) : Except RunExc LoadedVersion := do
  let scenario ← loadModel schema.scenario (f.path ++ "/scenario.yaml") f.scenarioYaml
  let templates ← loadTemplates py schema f.path f.templates
  pure ⟨scenario, templates⟩

/-- The registry has the scenario under its reference, and there the templates beside it. -/
structure Retrievable (reg : LoadedRegistry) (v : LoadedVersion) : Prop where
  scenario : reg.scenarios.get? (scenarioKey v.scenario) = some v.scenario
  templates : (reg.templates.get? (scenarioKey v.scenario)).getD Dict.empty = v.templates

/-- Two files with one reference are loaded as one scenario with the same templates. -/
def Agree (f f' : FoundVersion δ) : Prop :=
  ∀ v v', f.load py schema = .ok v → f'.load py schema = .ok v' →
    scenarioKey v.scenario = scenarioKey v'.scenario → v = v'

/-! ### What a walk does -/

/-- The tables of scenarios and templates. -/
abbrev Tables := Dict String ScenarioVersion × Dict String (Dict String ScenarioTemplate)

def tables (reg : LoadedRegistry) : Tables := (reg.scenarios, reg.templates)

/-- A loaded version is put into the tables. -/
def putVersion (t : Tables) (v : LoadedVersion) : Tables :=
  (t.1.set (scenarioKey v.scenario) v.scenario,
    if v.templates.entries = [] then t.2 else t.2.set (scenarioKey v.scenario) v.templates)

/-- A part of the walk that returns: it loads what it finds, in order. -/
def Loads (found : List (FoundVersion δ)) (reg reg' : LoadedRegistry) : Prop :=
  ∃ vs, List.Forall₂ (fun f v => f.load py schema = .ok v) found vs ∧
    tables reg' = vs.foldl putVersion (tables reg)

variable {py schema}

/-- Nothing is found where the tables stay. -/
theorem Loads.of_tables_eq {reg reg' : LoadedRegistry} (h : tables reg' = tables reg) :
    Loads py schema [] reg reg' := ⟨[], .nil, h⟩

/-- What two parts of the walk find. -/
theorem Loads.append {found found' : List (FoundVersion δ)} {reg reg' reg'' : LoadedRegistry}
    (h : Loads py schema found reg reg') (h' : Loads py schema found' reg' reg'') :
    Loads py schema (found ++ found') reg reg'' := by
  obtain ⟨vs, hvs, htables⟩ := h
  obtain ⟨vs', hvs', htables'⟩ := h'
  refine ⟨vs ++ vs', List.rel_append hvs hvs', ?_⟩
  rw [List.foldl_append, ← htables, htables']

/-- A loop of the walk, from what one round does. -/
theorem Loads.of_foldlM {α : Type} {found : α → List (FoundVersion δ)}
    {round : LoadedRegistry → α → Except RunExc LoadedRegistry}
    (hround : ∀ reg a reg', round reg a = .ok reg' → Loads py schema (found a) reg reg')
    {entries : List α} {reg reg' : LoadedRegistry} (h : entries.foldlM round reg = .ok reg') :
    Loads py schema (entries.flatMap found) reg reg' := by
  induction entries generalizing reg with
  | nil =>
    cases h
    exact .of_tables_eq rfl
  | cons a entries ih =>
    rw [List.foldlM_cons, except_bind_eq_ok] at h
    obtain ⟨mid, hmid, hrest⟩ := h
    rw [List.flatMap_cons]
    exact (hround reg a mid hmid).append (ih hrest)

/-- A version directory puts in its scenario. -/
theorem loads_version {dir : String} {reg reg' : LoadedRegistry} {version : VersionDir δ}
    (h : loadVersion py schema dir reg version = .ok reg') :
    Loads py schema (foundVersion dir version) reg reg' := by
  unfold loadVersion at h
  unfold foundVersion
  cases hfile : version.scenarioYaml with
  | none =>
    rw [hfile] at h
    cases h
    exact .of_tables_eq rfl
  | some file =>
    rw [hfile] at h
    obtain ⟨sv, hsv, h⟩ := except_bind_eq_ok.mp h
    obtain ⟨templates, htemplates, h⟩ := except_bind_eq_ok.mp h
    cases h
    refine ⟨[⟨sv, templates⟩], .cons ?_ .nil, rfl⟩
    exact except_bind_eq_ok.mpr ⟨sv, hsv, except_bind_eq_ok.mpr ⟨templates, htemplates, rfl⟩⟩

/-- A scenario directory puts in its versions. -/
theorem loads_scenario {dir : String} {reg reg' : LoadedRegistry} {scenario : ScenarioDir δ}
    (h : loadScenarioDir py schema dir reg scenario = .ok reg') :
    Loads py schema (foundInScenario dir scenario) reg reg' := by
  obtain ⟨versions, hversions, h⟩ := except_bind_eq_ok.mp h
  unfold foundInScenario
  rw [hversions]
  exact .of_foldlM (fun _ _ _ => loads_version) h

/-- A pack directory puts in its scenarios. -/
theorem loads_pack {root : String} {reg reg' : LoadedRegistry} {pack : PackDir δ}
    (h : loadPackDir py schema root reg pack = .ok reg') :
    Loads py schema (foundInPack root pack) reg reg' := by
  unfold loadPackDir at h
  unfold foundInPack
  by_cases hname : pack.name.toList.head? = some '_'
  · rw [if_pos hname] at h
    cases h
    rw [if_neg fun hpack => hpack.1 hname]
    exact .of_tables_eq rfl
  rw [if_neg hname] at h
  cases hfile : pack.packYaml with
  | none =>
    rw [hfile] at h
    cases h
    rw [if_neg (by simp)]
    exact .of_tables_eq rfl
  | some file =>
    rw [hfile] at h
    obtain ⟨model, -, h⟩ := except_bind_eq_ok.mp h
    obtain ⟨scenarios, hscenarios, h⟩ := except_bind_eq_ok.mp h
    rw [if_pos ⟨hname, rfl⟩, hscenarios]
    -- The entry of the pack itself is in a table of its own.
    have hwalk := Loads.of_foldlM (fun _ _ _ => loads_scenario) h
    exact hwalk

/-- The shared agents are in a table of their own. -/
theorem tables_sharedAgents {root : String} {files : List (String × YamlFile δ)}
    {reg reg' : LoadedRegistry}
    (h : files.foldlM (loadSharedAgent schema root) reg = .ok reg') : tables reg' = tables reg := by
  induction files generalizing reg with
  | nil =>
    cases h
    rfl
  | cons file files ih =>
    rw [List.foldlM_cons, except_bind_eq_ok] at h
    obtain ⟨mid, hmid, hrest⟩ := h
    obtain ⟨manifest, -, hmid⟩ := except_bind_eq_ok.mp hmid
    cases hmid
    have htables := ih hrest
    exact htables

/-- The registry has what was put into empty tables, in the order of the walk. -/
theorem loads_load {dir : ScenariosDir δ} {reg : LoadedRegistry}
    (h : load py schema dir = .ok reg) :
    Loads py schema (foundVersions dir) LoadedRegistry.empty reg := by
  unfold load at h
  split at h
  · obtain ⟨shared, hshared, h⟩ := except_bind_eq_ok.mp h
    obtain ⟨packs, hpacks, h⟩ := except_bind_eq_ok.mp h
    have hwalk : Loads py schema (foundVersions dir) shared reg := by
      unfold foundVersions
      rw [hpacks]
      exact .of_foldlM (fun _ _ _ => loads_pack) h
    exact (Loads.of_tables_eq (tables_sharedAgents hshared)).append hwalk
  · cases h

end

/-! ### What is in the tables -/

/-- The tables have the versions, and no templates under another reference. -/
structure Holds (t : Tables) (vs : List LoadedVersion) : Prop where
  scenario : ∀ v ∈ vs, t.1.get? (scenarioKey v.scenario) = some v.scenario
  templates : ∀ v ∈ vs, (t.2.get? (scenarioKey v.scenario)).getD Dict.empty = v.templates
  other : ∀ key, (∀ v ∈ vs, scenarioKey v.scenario ≠ key) → t.2.get? key = none

/-- What is under a reference after one version is put. -/
theorem scenarios_putVersion (t : Tables) (v : LoadedVersion) (key : String) :
    (putVersion t v).1.get? key =
      if scenarioKey v.scenario = key then some v.scenario else t.1.get? key :=
  Dict.get?_set ..

/-- The templates of a reference after a version was put in. -/
theorem templates_putVersion (t : Tables) (v : LoadedVersion) (key : String) :
    (putVersion t v).2.get? key =
      if scenarioKey v.scenario = key ∧ v.templates.entries ≠ [] then some v.templates
      else t.2.get? key := by
  unfold putVersion
  by_cases hempty : v.templates.entries = []
  · simp [hempty]
  · simp [hempty, Dict.get?_set]

/-- A version is put beside versions that agree with it. -/
theorem Holds.snoc {t : Tables} {vs : List LoadedVersion} (h : Holds t vs) {v : LoadedVersion}
    (hagree : ∀ v' ∈ vs, scenarioKey v'.scenario = scenarioKey v.scenario → v' = v) :
    Holds (putVersion t v) (vs ++ [v]) := by
  have hnew : ((putVersion t v).2.get? (scenarioKey v.scenario)).getD Dict.empty =
      v.templates := by
    rw [templates_putVersion]
    by_cases hempty : v.templates.entries = []
    · rw [if_neg fun hput => hput.2 hempty]
      by_cases hold : ∃ v' ∈ vs, scenarioKey v'.scenario = scenarioKey v.scenario
      · obtain ⟨v', hmem, hkey⟩ := hold
        cases hagree v' hmem hkey
        exact h.templates v hmem
      · rw [h.other _ fun v' hmem hkey => hold ⟨v', hmem, hkey⟩, Dict.eq_empty hempty]
        rfl
    · rw [if_pos ⟨rfl, hempty⟩]
      rfl
  -- A version under the key of the new one is the new one, any other is an old one.
  have hcases : ∀ v' ∈ vs ++ [v], v' = v ∨
      v' ∈ vs ∧ scenarioKey v.scenario ≠ scenarioKey v'.scenario := by
    intro v' hmem
    rcases List.mem_append.mp hmem with hmem | hmem
    · by_cases hkey : scenarioKey v'.scenario = scenarioKey v.scenario
      · exact .inl (hagree v' hmem hkey)
      · exact .inr ⟨hmem, Ne.symm hkey⟩
    · exact .inl (List.mem_singleton.mp hmem)
  constructor
  case scenario =>
    intro v' hmem
    rw [scenarios_putVersion]
    rcases hcases v' hmem with rfl | ⟨hold, hkey⟩
    · rw [if_pos rfl]
    · rw [if_neg hkey]
      exact h.scenario v' hold
  case templates =>
    intro v' hmem
    rcases hcases v' hmem with rfl | ⟨hold, hkey⟩
    · exact hnew
    · rw [templates_putVersion, if_neg fun hput => hkey hput.1]
      exact h.templates v' hold
  case other =>
    intro key hne
    rw [templates_putVersion, if_neg fun hput => hne v (by simp) hput.1]
    exact h.other key fun v' hmem => hne v' (List.mem_append_left _ hmem)

/-- Versions that agree are all in the tables that they are put into. -/
theorem holds_foldl {vs : List LoadedVersion}
    (hagree : ∀ v ∈ vs, ∀ v' ∈ vs, scenarioKey v.scenario = scenarioKey v'.scenario → v = v') :
    Holds (vs.foldl putVersion (Dict.empty, Dict.empty)) vs := by
  induction vs using List.reverseRecOn with
  | nil => exact ⟨by simp, by simp, fun _ _ => rfl⟩
  | append_singleton vs v ih =>
    rw [List.foldl_append, List.foldl_cons, List.foldl_nil]
    refine (ih fun w hw w' hw' => ?_).snoc fun v' hmem => ?_
    · exact hagree w (List.mem_append_left _ hw) w' (List.mem_append_left _ hw')
    · exact hagree v' (List.mem_append_left _ hmem) v (by simp)

/-! ### The lookups of the service -/

section
variable {δ : Type} {py : PyLib} {schema : Schema δ}

/-- `get_scenario` gives the scenario of a version that the registry has. -/
theorem getScenario_of_retrievable {read : RegistryRead δ} {svc svc' : RegistryService}
    {reg : LoadedRegistry} {v : LoadedVersion} (h : Retrievable reg v)
    (hread : maybeReload py schema read svc = .ok reg svc') :
    getScenario py schema read (scenarioKey v.scenario) svc = .ok v.scenario svc' :=
  Act.bind_eq_ok.mpr ⟨reg, svc', hread, Act.orThrow_eq_ok.mpr ⟨h.scenario, rfl⟩⟩

/-- `list_templates` gives the templates beside it. -/
theorem listTemplates_of_retrievable {first second : RegistryRead δ}
    {svc mid svc' : RegistryService} {reg : LoadedRegistry} {v : LoadedVersion}
    (h : Retrievable reg v) (hfirst : maybeReload py schema first svc = .ok reg mid)
    (hsecond : maybeReload py schema second mid = .ok reg svc') :
    listTemplates py schema first second (scenarioKey v.scenario) svc =
      .ok (v.templates.entries.map Prod.snd) svc' := by
  refine Act.bind_eq_ok.mpr ⟨reg, mid, hfirst, ?_⟩
  refine Act.bind_eq_ok.mpr ⟨v.scenario, svc', getScenario_of_retrievable h hsecond, ?_⟩
  rw [h.templates]
  rfl

/-- A load that returns has every scenario that it found, with the templates beside it, if and
only if the files with one reference agree. -/
theorem loader_loses_no_scenario_iff {dir : ScenariosDir δ} {reg : LoadedRegistry}
    (h : load py schema dir = .ok reg) :
    (∀ f ∈ foundVersions dir, ∃ v, f.load py schema = .ok v ∧ Retrievable reg v) ↔
      ∀ f ∈ foundVersions dir, ∀ f' ∈ foundVersions dir, Agree py schema f f' := by
  obtain ⟨vs, hvs, htables⟩ := loads_load h
  constructor
  · intro hall f hf f' hf' v v' hv hv' hkey
    obtain ⟨w, hw, hret⟩ := hall f hf
    obtain ⟨w', hw', hret'⟩ := hall f' hf'
    cases hv.symm.trans hw
    cases hv'.symm.trans hw'
    -- One reference has one scenario and one table of templates.
    have hscenario := hret.scenario
    rw [hkey, hret'.scenario] at hscenario
    have htemplates := hret.templates
    rw [hkey, hret'.templates] at htemplates
    cases v
    cases v'
    cases hscenario
    cases htemplates
    rfl
  · intro hagree
    have hfrom : ∀ v ∈ vs, ∃ f ∈ foundVersions dir, f.load py schema = .ok v := by
      intro v hv
      obtain ⟨i, hi, rfl⟩ := List.getElem_of_mem hv
      have hlen := hvs.length_eq
      exact ⟨_, List.getElem_mem (by omega), List.forall₂_iff_get.mp hvs |>.2 i (by omega) hi⟩
    have hholds : Holds (tables reg) vs := by
      rw [htables]
      refine holds_foldl fun v hv v' hv' hkey => ?_
      obtain ⟨f, hf, hload⟩ := hfrom v hv
      obtain ⟨f', hf', hload'⟩ := hfrom v' hv'
      exact hagree f hf f' hf' v v' hload hload' hkey
    intro f hf
    obtain ⟨i, hi, rfl⟩ := List.getElem_of_mem hf
    have hlen := hvs.length_eq
    refine ⟨vs[i], List.forall₂_iff_get.mp hvs |>.2 i hi (by omega), ?_⟩
    have hmem : vs[i] ∈ vs := List.getElem_mem _
    exact ⟨hholds.scenario _ hmem, hholds.templates _ hmem⟩

end

/-! ### A copied directory -/

/-- A document that is valid, as the model it is. -/
inductive Document where
  | pack (p : Pack)
  | scenario (sv : ScenarioVersion)
  | template (t : ScenarioTemplate)

def Document.pack? : Document → Except String Pack
  | .pack p => .ok p
  | _ => .error "not a pack"

def Document.scenario? : Document → Except String ScenarioVersion
  | .scenario sv => .ok sv
  | _ => .error "not a scenario"

def Document.template? : Document → Except String ScenarioTemplate
  | .template t => .ok t
  | _ => .error "not a template"

/-- The models of such documents. -/
def documentSchema : Schema Document where
  isTemplate doc := doc.template?.isOk
  pack := Document.pack?
  scenario := Document.scenario?
  template := Document.template?
  agent _ := .error "not an agent"
  trust _ := .ok { boundary := .intraOrg }

/-- The scenario `demo/basic`, with this version in its metadata and this name. -/
def basicScenario (version name : String) : ScenarioVersion where
  metadata := { pack := "demo", scenario := "basic", version, name }
  spec := { schema := Dict.empty, agents := [], trust := { boundary := .intraOrg }, steps := [] }

/-- The template `strict`, with a summary. -/
def namedTemplate (summary : String) : ScenarioTemplate where
  name := "strict"
  summary := some summary
  trust := none
  agents := none
  steps := none

/-- A version directory of `basic`. -/
def basicVersion (name : String) (sv : ScenarioVersion) (templates : List ScenarioTemplate) :
    VersionDir Document where
  name
  scenarioYaml := some (.ok (.scenario sv))
  templates := templates.map fun t => (t.name ++ ".yaml", .ok (.template t))

/-- A pack with these version directories of `basic`. -/
def basicDir (versions : List (VersionDir Document)) : ScenariosDir Document where
  path := "/scenarios"
  present := true
  sharedAgents := []
  packs := .ok [{
    name := "demo"
    packYaml := some (.ok (.pack { slug := "demo", name := "Demo" }))
    scenarios := .ok [{ name := "basic", versions := .ok versions }] }]

/-- Two versions with a template each. -/
def twoVersions : ScenariosDir Document :=
  basicDir
    [basicVersion "1.0.0" (basicScenario "1.0.0" "First") [namedTemplate "of the first"],
     basicVersion "1.1.0" (basicScenario "1.1.0" "Second") [namedTemplate "of the second"]]

/-- Two version directories whose metadata have the version of the directory: a service that has
just been started answers with each scenario and the templates beside it. -/
theorem loader_loses_no_scenario_versions :
    ∃ reg, load .refusing documentSchema twoVersions = .ok reg ∧
      (foundVersions twoVersions).length = 2 ∧
      ∀ f ∈ foundVersions twoVersions,
        ∃ v, f.load .refusing documentSchema = .ok v ∧ Retrievable reg v ∧
          (∃ svc, getScenario .refusing documentSchema ⟨0, twoVersions⟩ (scenarioKey v.scenario)
            ⟨0, none, 0⟩ = .ok v.scenario svc) ∧
          ∃ svc, listTemplates .refusing documentSchema ⟨0, twoVersions⟩ ⟨1, twoVersions⟩
            (scenarioKey v.scenario) ⟨0, none, 0⟩ =
              .ok (v.templates.entries.map Prod.snd) svc := by
  refine ⟨_, rfl, rfl, ?_⟩
  suffices hagree : ∀ f ∈ foundVersions twoVersions, ∀ f' ∈ foundVersions twoVersions,
      Agree .refusing documentSchema f f' by
    intro f hf
    obtain ⟨v, hv, hret⟩ := (loader_loses_no_scenario_iff rfl).mpr hagree f hf
    exact ⟨v, hv, hret, ⟨_, getScenario_of_retrievable hret rfl⟩,
      ⟨_, listTemplates_of_retrievable hret rfl rfl⟩⟩
  have hfound : foundVersions twoVersions =
      [⟨"/scenarios/demo/basic/1.0.0", .ok (.scenario (basicScenario "1.0.0" "First")),
          [("strict.yaml", .ok (.template (namedTemplate "of the first")))]⟩,
       ⟨"/scenarios/demo/basic/1.1.0", .ok (.scenario (basicScenario "1.1.0" "Second")),
          [("strict.yaml", .ok (.template (namedTemplate "of the second")))]⟩] := rfl
  rw [hfound]
  intro f hf f' hf' v v' hv hv' hkey
  -- One directory, or two references.
  rcases List.mem_pair.mp hf with rfl | rfl <;> rcases List.mem_pair.mp hf' with rfl | rfl <;>
    cases hv <;> cases hv'
  · rfl
  · exact absurd hkey (by decide)
  · exact absurd hkey (by decide)
  · rfl

/-- The directory `1.0.0` was copied to `1.1.0`, and the metadata in the copy was left as it
was: the scenario in `1.0.0` is lost. -/
theorem load_loses_copied_scenario :
    ¬ ∀ (dir : ScenariosDir Document) (reg : LoadedRegistry),
      load .refusing documentSchema dir = .ok reg → ∀ f ∈ foundVersions dir,
        ∃ v, f.load .refusing documentSchema = .ok v ∧ Retrievable reg v := by
  intro hall
  have hret := hall (basicDir
    [basicVersion "1.0.0" (basicScenario "1.0.0" "First") [],
     basicVersion "1.1.0" (basicScenario "1.0.0" "Second") []]) _ rfl
    ⟨"/scenarios/demo/basic/1.0.0", .ok (.scenario (basicScenario "1.0.0" "First")), []⟩
    (List.mem_cons_self ..)
  obtain ⟨v, hv, hret⟩ := hret
  cases hv
  exact absurd (congrArg (Option.map fun sv => sv.metadata.name) hret.scenario) (by decide)

end AitpPlayground.Proofs.Registry
