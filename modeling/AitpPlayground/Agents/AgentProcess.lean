import AitpPlayground.Agents.AitpServer
import AitpPlayground.Lib.Act

/-!
# `AitpPlayground.Agents.AgentProcess`: one agent process and its routes

A worker (`agents/researcher/main.py`, and the other workers alike) makes one key, hands it
to `AitpServer` and to `build_admin_router`, and serves the routes of both. The server keeps
the key in `self.agent` and `rotate_keys` replaces it there. The admin router has it in its
closures. So the process has two fields for it.

A route is code over the process that returns a JSON value or raises. What a peer answers is
an argument of the route. `useKey` is the only way for an admin route to the key, and writes
down the use.

These fields are not in the code, and no route reads them: `uses`, `sent` (the capability
calls that went out), `rotations`, `responses` (how many responses brought tokens so far),
and `tctFrom` and `voucherFrom`, which say for each port which of these responses its token
and its voucher came in. Telemetry is left out: `emit_event` never raises and nothing reads
it back.
-/

set_option autoImplicit false

namespace AitpPlayground.Agents

open AitpPlayground.Lib

/-- The operations of the admin router that take the key of the agent. -/
inductive KeyOp where
  | newSession
  | mintJwt
  | buildHello
  | processHelloAck
  | complete
  | signPopResponse
  | heldTctAid
  | buildRenewalRequest
  | processRenewalRequest
  | sessionBundleBuilder
  | verifySessionBundle
  | buildDelegation
deriving DecidableEq

/-- A use of the key by an admin route, with what the server had at that moment. -/
structure KeyUse where
  op : KeyOp
  /-- The AID of the key that was used. -/
  aid : String
  serverAid : String
  manifestAid : String
  rotations : Nat
deriving DecidableEq

/-- A capability call that went out. -/
structure SentCall where
  url : String
  /-- The header `X-AITP-TCT`. -/
  tct : String
  content : String
  popResponse : Option String
deriving DecidableEq

/-- The process. A key is named by its AID. -/
structure AgentProcess where
  /-- `AitpServer.agent`. -/
  serverAid : String
  /-- `AitpServer.manifest_json`, and the key that minted it. -/
  manifestJson : String
  manifestAid : String
  /-- `AitpServer.trusted_peer_aids`. -/
  trustedPeerAids : Finset String
  /-- `revocation`, which the server and the admin router share. -/
  revocation : RevocationState
  /-- The `agent` that `build_admin_router` was called with. -/
  adminAid : String
  heldTcts : Dict Int Json
  heldVouchers : Dict Int Json
  /-- `OidcContext.identity_type` is `oidc`. -/
  oidc : Bool
  /-- `loopback_tls` is configured. -/
  loopbackTls : Bool
  /-- How the admin router has used its key. The public routes use the key of the server, for acks,
  the tokens of a commit and those of a redemption, and that is not written down. -/
  uses : List KeyUse
  sent : List SentCall
  rotations : Nat
  responses : Nat
  tctFrom : Dict Int Nat
  voucherFrom : Dict Int Nat

/-- A worker that was just started with this key. -/
def AgentProcess.start (aid manifestJson : String) (oidc loopbackTls : Bool) : AgentProcess where
  serverAid := aid
  manifestJson := manifestJson
  manifestAid := aid
  trustedPeerAids := ∅
  revocation := .new
  adminAid := aid
  heldTcts := Dict.empty
  heldVouchers := Dict.empty
  oidc := oidc
  loopbackTls := loopbackTls
  uses := []
  sent := []
  rotations := 0
  responses := 0
  tctFrom := Dict.empty
  voucherFrom := Dict.empty

/-- What a route raises. -/
inductive AdminExc where
  | http (refusal : HttpError)
  | raised (exc : PyErr)
  /-- An `httpx` exception: no answer, or a status that `raise_for_status` refuses. -/
  | transport (detail : String)
  /-- A `Response` with an error status, which the route returns. -/
  | response (status : Nat) (text : String)
deriving DecidableEq

/-- The code of a route. -/
abbrev Route := Act AdminExc AgentProcess

/-- An `HTTPException` with a text. -/
def AdminExc.status (status : Nat) (detail : String) : AdminExc :=
  .http { status, detail := .text detail }

/-- The response of a peer. -/
structure HttpResponse where
  status : Nat
  text : String
  /-- The headers the routes read, by their lower-case names. -/
  headers : Dict String String

/-- What a request to a peer comes back with. -/
abbrev HttpAnswer := Except String HttpResponse

/-- `is_success`. -/
def HttpResponse.isSuccess (r : HttpResponse) : Bool := decide (200 ≤ r.status ∧ r.status < 300)

namespace Route

/-- A call that may raise an exception of the language. -/
def lift {α : Type} (r : Except PyErr α) : Route α := Act.ofExcept .raised r

/-- Awaits the answer of a peer. -/
def await (answer : HttpAnswer) : Route HttpResponse := Act.ofExcept .transport answer

/-- `raise_for_status`. -/
def raiseForStatus (r : HttpResponse) : Route Unit :=
  if r.isSuccess then pure () else throw (.transport ("status " ++ toString r.status))

/-- A call with the key of the admin router. -/
def useKey {α : Type} (op : KeyOp) (call : String → Except PyErr α) : Route α := do
  let p ← get
  modify fun p => { p with
    uses := ⟨op, p.adminAid, p.serverAid, p.manifestAid, p.rotations⟩ :: p.uses }
  lift (call p.adminAid)

/-- A response brought a token for this port: `held_tcts[port] = token`. -/
def holdTct (port : Int) (token : Json) : Route Unit :=
  modify fun p => { p with
    heldTcts := p.heldTcts.set port token
    tctFrom := p.tctFrom.set port p.responses }

/-- The voucher of a response, `held_vouchers[port] = voucher`, unless it is falsy. -/
def holdVoucher (port : Int) (voucher : Json) : Route Unit :=
  if voucher.truthy then
    modify fun p => { p with
      heldVouchers := p.heldVouchers.set port voucher
      voucherFrom := p.voucherFrom.set port p.responses }
  else pure ()

/-- The response that the tokens from here on come from. -/
def nextResponse : Route Unit := modify fun p => { p with responses := p.responses + 1 }

/-- `loopback.origin(port)`. -/
def origin (tls : Bool) (port : Int) : String :=
  (if tls then "https" else "http") ++ "://localhost:" ++ toString port

end Route

/-- `decode_claims` of a value out of a JSON text. -/
def claimsOf (py : PyLib) : Json → Except PyErr (Dict String Json)
  | .str token => decodeClaims py token
  | _ => .error (.attributeError "object has no attribute 'split'")

/-- `_port_from_url`. -/
def portFromUrl (py : PyLib) (url : String) : Except PyErr Int :=
  let chars := url.toList
  let (scheme, rest) := (splitOnce "://".toList chars).getD ("http".toList, chars)
  let hostPart := rest.takeWhile fun c => decide (c ≠ '/')
  match splitOnce [':'] hostPart with
  | some (_, port) => py.intOfStr (String.ofList port)
  | none => .ok (if scheme = "https".toList then 443 else 80)

end AitpPlayground.Agents
