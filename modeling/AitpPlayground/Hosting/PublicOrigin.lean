import AitpPlayground.Api.Hosted
import AitpPlayground.Lib.Quote

/-!
# `AitpPlayground.Hosting.PublicOrigin`: the addresses of a hosted agent

A hosted agent is known at the public origin of the service. `HostedAgentManager.host` makes its
DID and its URLs of the host and the scheme (`src/aitp_playground/hosting/hosted.py`), and the
bootstrap makes the agent's own view of them out of the origin
(`src/aitp_playground/hosting/bootstrap.py`). The agent serves the DID document
(`src/agents/base/aitp_server.py`), and a peer takes the endpoint of the commit from the one of
the hello (`src/agents/base/agent_admin.py`).
-/

set_option autoImplicit false

namespace AitpPlayground.Hosting

open AitpPlayground.Lib
open AitpPlayground.Trust
open AitpPlayground.Api

/-- `AgentLoopback.scheme`. -/
def loopbackScheme (insecure : Bool) : String := if insecure then "http" else "https"

/-- `AgentLoopback.origin`. -/
def loopbackOrigin (insecure : Bool) (port : Int) : String :=
  loopbackScheme insecure ++ "://localhost:" ++ toString port

/-- `encode_did_web`. -/
def encodeDidWeb (host : String) : String :=
  didWebPrefix ++ String.ofList (quote ".".toList host.toList)

/-- The host and the scheme that `host` goes on with. -/
structure PublicAddress where
  host : String
  scheme : String
  host_ne : host ≠ ""
deriving DecidableEq

/-- `public_host`, `public_scheme` of the settings. -/
structure PublicSettings where
  publicHost : String
  publicScheme : String
deriving DecidableEq

/-- `a or b`, on an optional text. -/
def orText (a : Option String) (b : String) : String :=
  match a with
  | none => b
  | some a => if a = "" then b else a

/-- The checks at the beginning of `host`. -/
def publicAddress (settings : PublicSettings) (onRailway : Bool)
    (publicHost publicScheme : Option String) : Except PyErr PublicAddress :=
  if onRailway then
    .error (.valueError "hosted agents are not available on Railway" none)
  else
    let host := orText publicHost settings.publicHost
    let scheme := orText publicScheme settings.publicScheme
    if h : host = "" then
      .error (.valueError
        "no public host configured — set PUBLIC_HOST or pass public_host" none)
    else .ok ⟨host, scheme, h⟩

namespace PublicAddress

variable (a : PublicAddress)

/-- `f"{scheme}://{host}".rstrip("/")`. -/
def origin : String := String.ofList (rstripSlashes (a.scheme ++ "://" ++ a.host).toList)

/-- The DID, which `host` writes as `encode_did_web` does. -/
def did : String := encodeDidWeb a.host

/-- `manifest_url`. -/
def manifestUrl : String := a.origin ++ "/.well-known/aitp-manifest"

/-- `handshake_url`. -/
def handshakeUrl : String := a.origin ++ "/aitp/handshake/hello"

/-- `did_document_url`. -/
def didDocumentUrl : String := a.origin ++ "/.well-known/did.json"

end PublicAddress

/-- What a bootstrap says of the addresses of its agent. -/
structure AddressBlock where
  handshakeEndpoint : String
  didWebHost : Option String
  didWebScheme : String
deriving DecidableEq

/-- `s.split("://", 1)[0]`. -/
def beforeScheme (s : List Char) : List Char :=
  match splitOnce "://".toList s with
  | some (scheme, _) => scheme
  | none => s

/-- The addresses in `BootstrapBuilder.build`. -/
def addressBlock (insecure : Bool) (port : Int) (didWebHost publicOrigin : Option String) :
    AddressBlock :=
  let baseOrigin := match publicOrigin with
    | none => loopbackOrigin insecure port
    | some publicOrigin =>
      if publicOrigin = "" then loopbackOrigin insecure port
      else String.ofList (rstripSlashes publicOrigin.toList)
  { handshakeEndpoint := baseOrigin ++ "/aitp/handshake/hello"
    didWebHost
    didWebScheme := String.ofList (beforeScheme baseOrigin.toList) }

/-- The bootstrap of a hosted agent. -/
def PublicAddress.block (a : PublicAddress) (insecure : Bool) (port : Int) : AddressBlock :=
  addressBlock insecure port (some a.host) (some a.origin)

/-- `get_did_document`. Without a host the agent has no such route. -/
def AddressBlock.didDocument (b : AddressBlock) : Option Json :=
  match b.didWebHost with
  | none => none
  | some host =>
    if host = "" then none
    else
      let scheme := if b.didWebScheme = "" then "http" else b.didWebScheme
      some (.obj
        [("@context", .arr [.str "https://www.w3.org/ns/did/v1"]),
         ("id", .str ("did:web:" ++ host)),
         ("service", .arr [.obj
           [("id", .str ("did:web:" ++ host ++ "#aitp")),
            ("type", .str "AitpManifest"),
            ("serviceEndpoint", .str (scheme ++ "://" ++ host))]])])

/-- The scheme in which `resolve_did_web` asks a host. -/
def resolverScheme (insecure : Bool) (host : String) : String :=
  if isLoopbackHost host.toList then loopbackScheme insecure else "https"

/-- The endpoint to which `initiate_handshake` sends the commit. -/
def commitEndpoint (helloEp : String) : String := replaceAll "/hello" "/commit" helloEp

end AitpPlayground.Hosting
