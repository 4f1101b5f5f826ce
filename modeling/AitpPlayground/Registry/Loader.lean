import AitpPlayground.Registry.Models

/-!
# `AitpPlayground.Registry.Loader`: the registry from its files

`FileRegistryLoader` (`src/aitp_playground/registry/loader.py`) walks the scenarios
directory: the shared agent manifests, and in each pack the versions of its scenarios with
their templates.

A directory is what the walk sees of it, with its entries in the order of `sorted`. A file is
what `load_yaml` makes of it, a document or an exception: a file that cannot be read, or that
is not YAML, or an `!include` that fails. The listing of a directory can raise too. `Schema`
has the models, which are checked by a foreign package: a document is a model, or there is
the text of a `ValidationError`.
-/

set_option autoImplicit false

namespace AitpPlayground.Registry

open AitpPlayground.Lib

/-- What `load_yaml` gives for a file. -/
abbrev YamlFile (δ : Type) := Except RunExc δ

/-- A version of a scenario: `scenario.yaml`, and the files `templates/*.yaml` by name. -/
structure VersionDir (δ : Type) where
  name : String
  scenarioYaml : Option (YamlFile δ)
  templates : List (String × YamlFile δ)

/-- A scenario with its versions. -/
structure ScenarioDir (δ : Type) where
  name : String
  versions : Except RunExc (List (VersionDir δ))

/-- A directory of the root: `pack.yaml`, and its scenarios. -/
structure PackDir (δ : Type) where
  name : String
  packYaml : Option (YamlFile δ)
  scenarios : Except RunExc (List (ScenarioDir δ))

/-- The scenarios directory. It is absent, or has shared agent manifests and packs. -/
structure ScenariosDir (δ : Type) where
  path : String
  present : Bool
  sharedAgents : List (String × YamlFile δ)
  packs : Except RunExc (List (PackDir δ))

/-- The models of the documents. -/
structure Schema (δ : Type) where
  /-- `isinstance(data, dict) and data.get("kind") == "ScenarioTemplate"`. -/
  isTemplate : δ → Bool
  pack : δ → Except String Pack
  scenario : δ → Except String ScenarioVersion
  template : δ → Except String ScenarioTemplate
  agent : δ → Except String AgentManifest
  /-- `TrustSpec.model_validate`, with the `ValidationError` as it is raised. -/
  trust : Dict String Json → Except RunExc TrustSpec

/-- `LoadedRegistry`. -/
structure LoadedRegistry where
  packs : Dict String Pack
  scenarios : Dict String ScenarioVersion
  agents : Dict String AgentManifest
  templates : Dict String (Dict String ScenarioTemplate)

def LoadedRegistry.empty : LoadedRegistry :=
  ⟨Dict.empty, Dict.empty, Dict.empty, Dict.empty⟩

section
variable {δ : Type} (py : PyLib) (schema : Schema δ)

/-- `_load_pack`, `_load_scenario_version` and `_load_agent_manifest`: the document of a file
as a model. -/
def loadModel {μ : Type} (model : δ → Except String μ) (path : String) (file : YamlFile δ) :
    Except RunExc μ := do
  let data ← file
  match model data with
  | .ok value => pure value
  | .error exc => throw (.registryValidation (path ++ ": " ++ exc))

/-- One file of `_load_templates`. -/
def loadTemplate (dir : String) (out : Dict String ScenarioTemplate)
    (file : String × YamlFile δ) : Except RunExc (Dict String ScenarioTemplate) := do
  let data ← file.2
  if schema.isTemplate data then
    let tpl ← loadModel schema.template (dir ++ "/" ++ file.1) (.ok data)
    if (out.get? tpl.name).isSome then
      throw (.registryValidation (dir ++ "/" ++ file.1 ++ ": duplicate template name " ++
        py.reprOf (.str tpl.name)))
    else pure (out.set tpl.name tpl)
  else pure out

/-- `_load_templates`. -/
def loadTemplates (dir : String) (files : List (String × YamlFile δ)) :
    Except RunExc (Dict String ScenarioTemplate) :=
  files.foldlM (loadTemplate py schema (dir ++ "/templates")) Dict.empty

/-- The reference of a scenario, `pack/scenario@version`. -/
def scenarioKey (sv : ScenarioVersion) : String :=
  sv.metadata.pack ++ "/" ++ sv.metadata.scenario ++ "@" ++ sv.metadata.version

/-- One version directory of the walk. -/
def loadVersion (dir : String) (reg : LoadedRegistry) (version : VersionDir δ) :
    Except RunExc LoadedRegistry :=
  let path := dir ++ "/" ++ version.name
  match version.scenarioYaml with
  | none => .ok reg
  | some file => do
    let sv ← loadModel schema.scenario (path ++ "/scenario.yaml") file
    let key := scenarioKey sv
    let templates ← loadTemplates py schema path version.templates
    pure { reg with
      scenarios := reg.scenarios.set key sv
      templates := if templates.entries = [] then reg.templates
        else reg.templates.set key templates }

/-- One scenario directory of the walk. -/
def loadScenarioDir (dir : String) (reg : LoadedRegistry) (scenario : ScenarioDir δ) :
    Except RunExc LoadedRegistry := do
  let versions ← scenario.versions
  versions.foldlM (loadVersion py schema (dir ++ "/" ++ scenario.name)) reg

/-- One directory of the root. -/
def loadPackDir (root : String) (reg : LoadedRegistry) (pack : PackDir δ) :
    Except RunExc LoadedRegistry :=
  if pack.name.toList.head? = some '_' then .ok reg
  else
    match pack.packYaml with
    | none => .ok reg
    | some file => do
      let path := root ++ "/" ++ pack.name
      let model ← loadModel schema.pack (path ++ "/pack.yaml") file
      let reg := { reg with packs := reg.packs.set model.slug model }
      let scenarios ← pack.scenarios
      scenarios.foldlM (loadScenarioDir py schema path) reg

/-- One shared agent manifest. -/
def loadSharedAgent (root : String) (reg : LoadedRegistry) (file : String × YamlFile δ) :
    Except RunExc LoadedRegistry := do
  let manifest ← loadModel schema.agent (root ++ "/_shared/agents/" ++ file.1 ++ ".yaml") file.2
  pure { reg with agents := reg.agents.set ("_shared/agents/" ++ file.1) manifest }

/-- `FileRegistryLoader.load`. -/
def load (dir : ScenariosDir δ) : Except RunExc LoadedRegistry :=
  if dir.present then do
    let reg ← dir.sharedAgents.foldlM (loadSharedAgent schema dir.path) LoadedRegistry.empty
    let packs ← dir.packs
    packs.foldlM (loadPackDir py schema dir.path) reg
  else .error (.registryValidation ("scenarios_dir does not exist: " ++ dir.path))

/-- `load_agent_by_ref`, with the file of the reference, if it exists. -/
def loadAgentByRef (path ref : String) (file : Option (YamlFile δ)) :
    Except RunExc AgentManifest :=
  match file with
  | none => .error (.registryValidation ("agent manifest not found for ref: " ++ ref))
  | some file => loadModel schema.agent (path ++ "/" ++ ref ++ ".yaml") file

end

end AitpPlayground.Registry
