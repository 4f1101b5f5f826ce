import AitpPlayground.Lib.Py

/-!
# `AitpPlayground.Registry.Models`: scenarios

The documents of the registry (`src/aitp_playground/registry/models.py`) after validation, with
all that a document stores. The fields `apiVersion` and `kind` have one value each in a document
that is valid, and are left out.

`RunExc` has the exceptions of the runner, by the classes its handlers tell apart.
-/

set_option autoImplicit false

namespace AitpPlayground.Registry

open AitpPlayground.Lib

/-! ### Exceptions -/

/-- An `Exception` in the runner. -/
inductive RunExc where
  /-- A `PlaygroundError`, with its code and message. -/
  | playground (code message : String)
  /-- `jsonschema.ValidationError`, with its message. -/
  | invalidInputs (message : String)
  /-- Any other exception: its class and `str(exc)`. -/
  | other (name text : String)
deriving DecidableEq

namespace RunExc

/-- `str(exc)`. -/
def text : RunExc → String
  | .playground _ message | .invalidInputs message => message
  | .other _ text => text

/-- `exc.code if isinstance(exc, PlaygroundError) else None`. -/
def code? : RunExc → Option String
  | .playground code _ => some code
  | _ => none

/-- `ScenarioNotFoundError`. -/
def scenarioNotFound (message : String) : RunExc := .playground "scenario_not_found" message

/-- `RegistryValidationError`. -/
def registryValidation (message : String) : RunExc :=
  .playground "registry_validation_error" message

/-- `PlaygroundError` without a code of its own. -/
def internal (message : String) : RunExc := .playground "internal_error" message

end RunExc

/-! ### Scenarios -/

inductive Boundary where
  | intraOrg | crossOrg | crossCloud
deriving DecidableEq

inductive Discovery where
  | static | cpRegistry | didWeb
deriving DecidableEq

/-- `IdentityType`. -/
inductive IdentityType where
  | pinnedKey
  | oidc
deriving DecidableEq

/-- `IdentityType`, as the YAML has it. -/
def IdentityType.text : IdentityType → String
  | .pinnedKey => "pinned_key"
  | .oidc => "oidc"

/-- The values of `signing_suite`. -/
inductive SigningSuite where
  | ed25519 | p256
deriving DecidableEq

/-- The values of `org`. -/
inductive Org where
  | internal | external
deriving DecidableEq

/-- `AgentSpec`. -/
structure AgentSpec where
  id : String
  ref : String
  portOffset : Int := 0
  org : Org := .internal
  cloud : Option String := none
  didWebHost : Option String := none
  signingSuite : Option SigningSuite := none
  acceptedIdentityTypes : Option (List IdentityType) := none
deriving DecidableEq

/-- `TrustSpec`. -/
structure TrustSpec where
  boundary : Boundary
  discovery : Discovery := .static
  eager : Bool := true
deriving DecidableEq

/-- `WorkflowStepType`. -/
inductive StepType where
  | workflow
  | capabilityCallNoTrust
  | capabilityProbe
  | handshake
  | revokeTct
  | delegate
  | redeemDelegation
  | rotateKeys
  | enrollWithCp
  | cpSubscribeWebhook
  | renewTct
  | exportSessionBundle
  | verifySessionBundle
  | spkiPinCheck
  | tctCacheStats
  | cpProvisionTrustAnchor
  | cpDelegationTree
deriving DecidableEq

/-- `FaultKind`. -/
inductive FaultKind where
  | manifest404
  | peerOffline
deriving DecidableEq

/-- `StepFault`. -/
structure StepFault where
  kind : FaultKind
  note : Option String := none
deriving DecidableEq

/-- `WorkflowStep`. -/
structure WorkflowStep where
  id : String
  type : Option StepType := none
  description : Option String := none
  agent : Option String := none
  capability : Option String := none
  inputTemplate : Option String := none
  inputFrom : Option String := none
  targetAgent : Option String := none
  expectStatus : Option Int := none
  initiator : Option String := none
  responder : Option String := none
  requestedGrants : Option (List String) := none
  issuer : Option String := none
  audience : Option String := none
  viaCp : Option Bool := none
  reason : Option String := none
  localRevoke : Option Bool := none
  refreshAgents : Option (List String) := none
  delegator : Option String := none
  delegatee : Option String := none
  viaPeer : Option String := none
  scope : Option (List String) := none
  ttlSecs : Option Int := none
  viaDelegation : Option String := none
  target : Option String := none
  events : Option (List String) := none
  newTtlSecs : Option Int := none
  coordinator : Option String := none
  participants : Option (List String) := none
  verifier : Option String := none
  viaStep : Option String := none
  certDerB64 : Option String := none
  pins : Option (List String) := none
  cpNamespace : Option String := none
  issuerUrl : Option String := none
  fault : Option StepFault := none
deriving DecidableEq

/-- `ScenarioSpec`, with `inputs.schema_` and `workflow.steps` as fields of their own. -/
structure ScenarioSpec where
  schema : Dict String Json
  agents : List AgentSpec
  trust : TrustSpec
  steps : List WorkflowStep

/-- `ScenarioMeta`. -/
structure ScenarioMeta where
  pack : String
  scenario : String
  version : String
  name : String
  summary : Option String := none
  tags : List String := []

/-- `ScenarioVersion`. -/
structure ScenarioVersion where
  metadata : ScenarioMeta
  spec : ScenarioSpec

/-- `ScenarioTemplate`: a field that is absent leaves the one of the scenario. -/
structure ScenarioTemplate where
  name : String
  summary : Option String
  trust : Option (Dict String Json)
  agents : Option (List AgentSpec)
  steps : Option (List WorkflowStep)

/-! ### Manifests and packs -/

/-- `AitpAgentSpec`. -/
structure AitpAgentSpec where
  offeredCaps : List String
  displayName : String
  identityType : IdentityType := .pinnedKey
  acceptedIdentityTypes : Option (List IdentityType) := none
  oidcIssuer : Option String := none
  oidcSubject : Option String := none
  signingSuite : SigningSuite := .ed25519
  ttlSecs : Int := 3600
deriving DecidableEq

/-- The values of `framework`. -/
inductive Framework where
  | crewai | langchain | langgraph | custom
deriving DecidableEq

/-- `AgentManifest`, with the fields of its metadata and of its `spec`. -/
structure AgentManifest where
  id : String
  name : String
  framework : Framework
  version : String := "1.0.0"
  entrypoint : Dict String Json
  host : Dict String Json := Dict.empty
  aitp : AitpAgentSpec
  didWeb : Bool := false

/-- `Pack`, with the fields of its metadata. -/
structure Pack where
  slug : String
  name : String
  description : Option String := none
  tags : List String := []

end AitpPlayground.Registry
