import AitpPlayground.Lib.Act
import AitpPlayground.Registry.Loader
import Mathlib.Data.Rat.Defs

/-!
# `AitpPlayground.Registry.Service`: scenarios by reference

`RegistryService` (`src/aitp_playground/registry/service.py`) keeps the registry for a time
and loads it again after that. Each lookup starts with `_maybe_reload`, so one call of
`get_scenario_resolved` may load up to three times, and see three states of the files.
`apply_template` (`src/aitp_playground/registry/templates.py`) puts a template on top of a
scenario.

`missing_sdk_features` (`src/aitp_playground/capabilities.py`) is the preflight of the run.
-/

set_option autoImplicit false

namespace AitpPlayground.Registry

open AitpPlayground.Lib

/-- What a lookup of the service sees: `time.monotonic() * 1000`, and the files. -/
structure RegistryRead (δ : Type) where
  now : ℚ
  dir : ScenariosDir δ

/-- The service. -/
structure RegistryService where
  /-- `registry_cache_ttl_ms`. -/
  ttl : ℚ
  cached : Option LoadedRegistry
  loadedAt : ℚ

section
variable {δ : Type} (py : PyLib) (schema : Schema δ)

/-- `_maybe_reload`. -/
def maybeReload (read : RegistryRead δ) : Act RunExc RegistryService LoadedRegistry := do
  let svc ← get
  let reload : Act RunExc RegistryService LoadedRegistry := do
    let reg ← Act.ofExcept id (load py schema read.dir)
    set { svc with cached := some reg, loadedAt := read.now }
    pure reg
  match svc.cached with
  | none => reload
  | some reg =>
    if svc.ttl = 0 ∨ svc.ttl ≤ read.now - svc.loadedAt then reload else pure reg

/-- `get_scenario`. -/
def getScenario (read : RegistryRead δ) (ref : String) :
    Act RunExc RegistryService ScenarioVersion := do
  let reg ← maybeReload py schema read
  Act.orThrow (.scenarioNotFound ("scenario not found: " ++ ref)) (reg.scenarios.get? ref)

/-- `list_templates`, with its two lookups. -/
def listTemplates (first second : RegistryRead δ) (ref : String) :
    Act RunExc RegistryService (List ScenarioTemplate) := do
  let reg ← maybeReload py schema first
  let _scenario ← getScenario py schema second ref
  pure (((reg.templates.get? ref).getD Dict.empty).entries.map Prod.snd)

/-- `get_template`, with its two lookups. -/
def getTemplate (first second : RegistryRead δ) (ref name : String) :
    Act RunExc RegistryService ScenarioTemplate := do
  let reg ← maybeReload py schema first
  let _scenario ← getScenario py schema second ref
  Act.orThrow
    (.scenarioNotFound ("template " ++ py.reprOf (.str name) ++ " not found for scenario " ++ ref))
    ((reg.templates.get? ref).bind fun templates => templates.get? name)

/-- `get_agent_manifest`, with the file that the reference names outside of the registry. -/
def getAgentManifest (read : RegistryRead δ) (file : Option (YamlFile δ)) (ref : String) :
    Act RunExc RegistryService AgentManifest := do
  let reg ← maybeReload py schema read
  match reg.agents.get? ref with
  | some manifest => pure manifest
  | none =>
    -- Whatever is wrong with the file, the reference is not found.
    match loadAgentByRef schema read.dir.path ref file with
    | .ok manifest => pure manifest
    | .error _ =>
      throw (.playground "agent_manifest_not_found" ("agent manifest not found: " ++ ref))

/-- `TrustSpec.model_dump()`. -/
def TrustSpec.modelDump (trust : TrustSpec) : Dict String Json :=
  Dict.ofList
    [("boundary", .str (match trust.boundary with
        | .intraOrg => "intra_org"
        | .crossOrg => "cross_org"
        | .crossCloud => "cross_cloud")),
     ("discovery", .str (match trust.discovery with
        | .static => "static"
        | .cpRegistry => "cp_registry"
        | .didWeb => "did_web")),
     ("eager", .bool trust.eager)]

/-- `s.endswith(suffix)`. -/
def endsWith (s suffix : String) : Bool := suffix.toList.isSuffixOf s.toList

/-- The name of a scenario with a template. -/
def templatedName (name template : String) : String :=
  let suffix := " (template: " ++ template ++ ")"
  if endsWith name suffix then name else name ++ suffix

/-- `tpl.metadata.summary or base.metadata.summary`. -/
def templatedSummary (tpl base : Option String) : Option String :=
  match tpl with
  | some summary => if summary = "" then base else some summary
  | none => base

/-- `apply_template`. -/
def applyTemplate (base : ScenarioVersion) (tpl : ScenarioTemplate) :
    Except RunExc ScenarioVersion := do
  let trust ← match tpl.trust with
    | none => .ok base.spec.trust
    | some patch => schema.trust (base.spec.trust.modelDump.merge patch)
  pure
    { metadata := { base.metadata with
        name := templatedName base.metadata.name tpl.name
        summary := templatedSummary tpl.summary base.metadata.summary }
      spec := { base.spec with
        trust
        agents := tpl.agents.getD base.spec.agents
        steps := tpl.steps.getD base.spec.steps } }

/-- `get_scenario_resolved`, with what its up to three lookups see. -/
def getScenarioResolved (reads : Nat → RegistryRead δ) (ref : String) (template : Option String) :
    Act RunExc RegistryService ScenarioVersion := do
  let base ← getScenario py schema (reads 0) ref
  match template with
  | none => pure base
  | some name =>
    let tpl ← getTemplate py schema (reads 1) (reads 2) ref name
    Act.ofExcept id (applyTemplate schema base tpl)

end

/-! ### Features of the SDK -/

/-- `get_capabilities()`. -/
structure Capabilities where
  sdkAvailable : Bool
  version : Option String
  features : Dict String Bool

/-- `STEP_SDK_FEATURES`. -/
def stepSdkFeature : StepType → Option String
  | .renewTct => some "tct_renewal"
  | .exportSessionBundle => some "session_bundle"
  | .verifySessionBundle => some "session_bundle"
  | _ => none

/-- `required_sdk_features`: the features, sorted. -/
def requiredSdkFeatures (scenario : ScenarioVersion) : List String :=
  let used := scenario.spec.steps.filterMap fun step => step.type.bind stepSdkFeature
  (used.dedup).mergeSort fun a b => decide (a ≤ b)

/-- `missing_sdk_features`, with the report of the provider. -/
def missingSdkFeatures (scenario : ScenarioVersion) (caps : Capabilities) : List String :=
  let features := if caps.sdkAvailable then caps.features else Dict.empty
  (requiredSdkFeatures scenario).filter fun f => !(features.get? f).getD false

/-- `SdkFeatureUnavailableError`. -/
def sdkFeatureUnavailable (scenarioRef : String) (missing : List String)
    (sdkVersion : Option String) : RunExc :=
  .playground "sdk_feature_unavailable"
    ("sdk_feature_unavailable: " ++ scenarioRef ++ " needs " ++ ", ".intercalate missing ++
      "; the installed aitp-sdk " ++ ((sdkVersion.filter fun v => decide (v ≠ "")).getD "(none)") ++
      " lacks it")

end AitpPlayground.Registry
