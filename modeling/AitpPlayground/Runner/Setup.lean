import AitpPlayground.Registry.Service
import AitpPlayground.Runner.Engine

/-!
# `AitpPlayground.Runner.Setup`: a run before its `try`

`ScenarioRunner.run` has four regions, and each catches other exceptions. The lookup of the
scenario catches `PlaygroundError`. The preflight of the SDK features catches nothing. The
validation of the inputs catches `jsonschema.ValidationError`. Everything from the ports on
is in one `try` that catches every `Exception`. What leaves the first three goes to
`_run_in_background`, which logs it.

`SetupWorld` has what the first three regions meet. `loadChoice` and `validateChoice` are the
choices of the engine that follow from it.
-/

set_option autoImplicit false

namespace AitpPlayground.Runner

open AitpPlayground.Lib
open AitpPlayground.Registry

/-- What the setup of a run meets. -/
structure SetupWorld (δ : Type) where
  py : PyLib
  models : Schema δ
  service : RegistryService
  /-- What the lookups of the registry see. -/
  reads : Nat → RegistryRead δ
  /-- The calls of `capabilities_provider`. -/
  capabilities : Nat → Except RunExc Capabilities
  /-- `jsonschema.validate(inputs, schema)`. -/
  validate : Json → Dict String Json → Except RunExc Unit

namespace SetupWorld

variable {δ : Type} (w : SetupWorld δ) (args : RunArgs) (inputs : Json)

/-- The scenario, or what `get_scenario_resolved` raises. -/
def resolve : Except RunExc ScenarioVersion :=
  match getScenarioResolved w.py w.models w.reads args.scenarioRef args.template w.service with
  | .ok scenario _ => .ok scenario
  | .error exc _ => .error exc

/-- The refusal of the preflight, if there is one. -/
def preflight (scenario : ScenarioVersion) : Except RunExc (Option RunExc) := do
  let caps ← w.capabilities 0
  let missing := missingSdkFeatures scenario caps
  if missing = [] then pure none
  else
    -- The provider is asked again for the version.
    let caps ← w.capabilities 1
    pure (some (sdkFeatureUnavailable args.scenarioRef missing caps.version))

/-- What the engine does with the scenario reference. -/
def loadChoice : EngineChoice :=
  match w.resolve args with
  | .error (.playground code message) => .refuse code message
  | .error _ => .escape
  | .ok scenario =>
    match w.preflight args scenario with
    | .error _ => .escape
    | .ok none => .pass
    | .ok (some refusal) => .refuse (refusal.code?.getD "") refusal.text

/-- What the engine does with the inputs of a scenario. -/
def validateInputs (scenario : ScenarioVersion) : EngineChoice :=
  if scenario.spec.schema.entries = [] then .pass
  else
    match w.validate inputs scenario.spec.schema with
    | .ok _ => .pass
    | .error (.invalidInputs message) => .invalid message
    | .error _ => .escape

/-- What the engine does with the inputs. -/
def validateChoice : EngineChoice :=
  match w.resolve args with
  | .ok scenario => w.validateInputs inputs scenario
  | .error _ => .pass

/-- Each region catches what is raised in it. -/
def Caught : Prop :=
  match w.resolve args with
  | .error exc => exc.code?.isSome = true
  | .ok scenario =>
    match w.preflight args scenario with
    | .error _ => False
    | .ok (some _) => True
    | .ok none => scenario.spec.schema.entries ≠ [] →
        ∀ exc, w.validate inputs scenario.spec.schema = .error exc →
          ∃ message, exc = .invalidInputs message

end SetupWorld

end AitpPlayground.Runner
