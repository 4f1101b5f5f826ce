import AitpPlayground.Lib.Percent
import AitpPlayground.Lib.Py
import Mathlib.Data.List.DropRight

/-!
# `AitpPlayground.Trust.Resolver`: from a did:web to the URL of a manifest

`resolve_did_web` (`src/aitp_playground/trust/resolver.py`) asks the host of the DID for its
`did.json`, and takes the URL of the manifest out of the first service of the type
`AitpManifest`.

`fetch` is the client: the JSON of a URL, or what the request, `raise_for_status` or `json`
raises.
-/

set_option autoImplicit false

namespace AitpPlayground.Trust

open AitpPlayground.Lib

/-- `"did:web:"`. -/
def didWebPrefix : String := "did:web:"

/-- `host.split(":", 1)[0]`. -/
def bareHost (host : List Char) : List Char := host.takeWhile fun c => c != ':'

/-- `_is_loopback_host`. -/
def isLoopbackHost (host : List Char) : Bool :=
  let bare := bareHost host
  bare == "localhost".toList || "127.".toList.isPrefixOf bare

/-- `unquote(did[len("did:web:"):])`. -/
def didHost (did : String) : List Char := unquote (did.toList.drop didWebPrefix.length)

/-- The URL of the DID document. -/
def didJsonUrl (loopbackScheme did : String) : String :=
  let host := didHost did
  let scheme := if isLoopbackHost host then loopbackScheme else "https"
  scheme ++ "://" ++ String.ofList host ++ "/.well-known/did.json"

/-- The first service of the type `AitpManifest`. The services after it are not looked at. -/
def manifestService : List Json → Except PyErr (Option (Dict String Json))
  | [] => .ok none
  | s :: rest =>
    match s.dict? with
    | none => .error (.attributeError "object has no attribute 'get'")
    | some d =>
      if d.get? "type" = some (.str "AitpManifest") then .ok (some d) else manifestService rest

/-- The `serviceEndpoint` of a DID document. -/
def manifestEndpoint (did : String) (doc : Json) : Except PyErr String := do
  let services ← (← doc.memberOr "service" (.arr [])).iter
  match ← manifestService services with
  | none => .error (.valueError ("no AitpManifest service in DID document for " ++ did) none)
  | some svc =>
    match svc.get? "serviceEndpoint" with
    | none => .error (.keyError "serviceEndpoint")
    | some (.str endpoint) => .ok endpoint
    | some _ => .error (.attributeError "object has no attribute 'rstrip'")

/-- `s.rstrip("/")`. -/
def rstripSlashes (s : List Char) : List Char := s.rdropWhile fun c => c == '/'

/-- `resolve_did_web`. -/
def resolveDidWeb (fetch : String → Except PyErr Json) (loopbackScheme did : String) :
    Except PyErr String :=
  if didWebPrefix.toList.isPrefixOf did.toList then do
    let doc ← fetch (didJsonUrl loopbackScheme did)
    let endpoint ← manifestEndpoint did doc
    pure (String.ofList (rstripSlashes endpoint.toList) ++ "/.well-known/aitp-manifest")
  else .error (.valueError ("not a did:web DID: " ++ did) none)

end AitpPlayground.Trust
