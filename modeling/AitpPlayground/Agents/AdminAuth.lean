import AitpPlayground.Agents.AgentAdmin
import AitpPlayground.Lib.Codecs

/-!
# `AitpPlayground.Agents.AdminAuth`: the guard of the admin routes

`run_agent` serves an agent behind `AdminAuthMiddleware` (`agents/base/admin_auth.py`). It looks
at the path of a request before any route does. A request under `/admin` goes on only with the
token of the bootstrap in `X-Aitp-Admin-Token`. `/admin/process-renewal` is exempt: its body is
signed, and the SDK judges it.

`AdminCall.path` has the paths of the routes of `AgentAdmin`.
-/

set_option autoImplicit false

namespace AitpPlayground.Agents

open AitpPlayground.Lib

/-- What the middleware reads of an ASGI scope. The names of the headers are in lower case. -/
structure Scope where
  type : String
  path : String
  headers : List (String × List UInt8)

/-- `ADMIN_TOKEN_HEADER`. -/
def adminTokenHeader : String := "x-aitp-admin-token"

/-- `EXEMPT_PATHS`. -/
def exemptPaths : List String := ["/admin/process-renewal"]

/-- `_guarded`. -/
def guarded (path : String) : Bool :=
  (path == "/admin" || "/admin/".toList.isPrefixOf path.toList) && !exemptPaths.contains path

/-- `AdminAuthMiddleware`. -/
structure AdminAuthMiddleware where
  token : Option (List UInt8)

namespace AdminAuthMiddleware

/-- `__init__`. An empty token is none. -/
def new (token : Option String) : AdminAuthMiddleware :=
  ⟨(token.filter fun t => decide (t ≠ "")).map utf8⟩

/-- `_authorized`: the first header with the name decides. -/
def authorized (m : AdminAuthMiddleware) (s : Scope) : Bool :=
  match m.token with
  | none => false
  | some token =>
    match s.headers.lookup adminTokenHeader with
    | none => false
    | some value => value == token

/-- `__call__`: the request gets to the routes. The others are answered with a 401. -/
def passes (m : AdminAuthMiddleware) (s : Scope) : Bool :=
  s.type != "http" || !guarded s.path || m.authorized s

end AdminAuthMiddleware

/-- The path of a request. Those that `served` stands for have paths of their own outside of
`/admin`, and this is one of them. -/
def AdminCall.path : AdminCall → String
  | .initiateHandshake .. => "/admin/initiate-handshake"
  | .invoke .. => "/admin/invoke"
  | .heldTct _ => "/admin/held-tct"
  | .renewTct .. => "/admin/renew-tct"
  | .processRenewal .. => "/admin/process-renewal"
  | .exportSessionBundle .. => "/admin/export-session-bundle"
  | .verifySessionBundle .. => "/admin/verify-session-bundle"
  | .delegate .. => "/admin/delegate"
  | .redeemDelegation .. => "/admin/redeem-delegation"
  | .revokeTct _ => "/admin/revoke-tct"
  | .trustPeers .. => "/admin/trust-peers"
  | .rotateKeys .. => "/admin/rotate-keys"
  | .getManifest _ => "/.well-known/aitp-manifest"
  | .served => "/aitp/handshake/hello"

/-- A request to an agent. -/
structure AgentRequest where
  headers : List (String × List UInt8)
  call : AdminCall

/-- Its scope. -/
def AgentRequest.scope (r : AgentRequest) : Scope := ⟨"http", r.call.path, r.headers⟩

/-- One request to an agent behind the guard. -/
def guardedStep (sdk : AdminSdk) (py : PyLib) (m : AdminAuthMiddleware) (p : AgentProcess)
    (r : AgentRequest) : Option AgentProcess :=
  if m.passes r.scope then adminStep sdk py p r.call else some p

end AitpPlayground.Agents
