import AitpPlayground.Registry.Service

/-!
# `AitpPlayground.Registry.Lookups`: the service over a run

The remaining lookups of `RegistryService` (`src/aitp_playground/registry/service.py`), and the
service as the playground uses it: one lookup after the other, while somebody edits the files
of the scenarios.

The edits are a function `files` from the clock to the directory. A lookup that looks at the
clock at a time sees the directory of that time. The file that an agent reference names
outside of the registry is read past the cache, so it is part of the label.
-/

set_option autoImplicit false

namespace AitpPlayground.Registry

open AitpPlayground.Lib

section
variable {δ : Type} (py : PyLib) (schema : Schema δ)

/-- `list_packs`. -/
def listPacks (read : RegistryRead δ) : Act RunExc RegistryService (List Pack) := do
  let reg ← maybeReload py schema read
  pure (reg.packs.entries.map Prod.snd)

/-- `list_scenarios`. -/
def listScenarios (read : RegistryRead δ) : Act RunExc RegistryService (List ScenarioVersion) := do
  let reg ← maybeReload py schema read
  pure (reg.scenarios.entries.map Prod.snd)

/-- `all_agent_refs`. -/
def allAgentRefs (read : RegistryRead δ) : Act RunExc RegistryService (List String) := do
  let reg ← maybeReload py schema read
  pure reg.agents.keys

/-! ### A lookup as a label -/

/-- A call of the service. -/
inductive RegistryCall (δ : Type) where
  | listPacks
  | listScenarios
  | allAgentRefs
  | getScenario (ref : String)
  | listTemplates (ref : String)
  | getTemplate (ref name : String)
  | getScenarioResolved (ref : String) (template : Option String)
  | getAgentManifest (ref : String) (file : Option (YamlFile δ))

/-- What a call returns. -/
inductive RegistryAnswer where
  | packs (packs : List Pack)
  | scenarios (scenarios : List ScenarioVersion)
  | refs (refs : List String)
  | scenario (scenario : ScenarioVersion)
  | templates (templates : List ScenarioTemplate)
  | template (template : ScenarioTemplate)
  | manifest (manifest : AgentManifest)

/-- The call, with what its reloads see. -/
def RegistryCall.run (reads : Nat → RegistryRead δ) :
    RegistryCall δ → Act RunExc RegistryService RegistryAnswer
  | .listPacks => RegistryAnswer.packs <$> Registry.listPacks py schema (reads 0)
  | .listScenarios => RegistryAnswer.scenarios <$> Registry.listScenarios py schema (reads 0)
  | .allAgentRefs => RegistryAnswer.refs <$> Registry.allAgentRefs py schema (reads 0)
  | .getScenario ref => RegistryAnswer.scenario <$> Registry.getScenario py schema (reads 0) ref
  | .listTemplates ref =>
    RegistryAnswer.templates <$> Registry.listTemplates py schema (reads 0) (reads 1) ref
  | .getTemplate ref name =>
    RegistryAnswer.template <$> Registry.getTemplate py schema (reads 0) (reads 1) ref name
  | .getScenarioResolved ref template =>
    RegistryAnswer.scenario <$> Registry.getScenarioResolved py schema reads ref template
  | .getAgentManifest ref file =>
    RegistryAnswer.manifest <$> Registry.getAgentManifest py schema (reads 0) file ref

/-! ### A run -/

/-- The service and the clock. -/
structure RegistryState where
  service : RegistryService
  clock : ℚ

/-- `RegistryService(settings)`, at a time. -/
def registryStart (ttl clock : ℚ) : RegistryState where
  service := { ttl, cached := none, loadedAt := 0 }
  clock := clock

/-- A lookup with the times at which its reloads look at the clock. -/
structure TimedLookup (δ : Type) where
  lookup : RegistryCall δ
  times : Nat → ℚ

variable (files : ℚ → ScenariosDir δ)

/-- What a reload sees at a time. -/
def readAt (time : ℚ) : RegistryRead δ := ⟨time, files time⟩

/-- The call with what its reloads see at these times. -/
def RegistryCall.runAt (l : RegistryCall δ) (times : Nat → ℚ) :
    Act RunExc RegistryService RegistryAnswer :=
  l.run py schema fun i => readAt files (times i)

/-- A lookup, whether it returns or raises. `time.monotonic` does not go back. -/
def registryStep (s : RegistryState) (l : TimedLookup δ) : Option RegistryState :=
  if s.clock ≤ l.times 0 ∧ l.times 0 ≤ l.times 1 ∧ l.times 1 ≤ l.times 2 then
    some {
      service := (l.lookup.runAt py schema files l.times).after s.service
      clock := l.times 2 }
  else none

end

end AitpPlayground.Registry
