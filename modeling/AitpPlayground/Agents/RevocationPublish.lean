import AitpPlayground.Agents.Sdk

/-!
# `AitpPlayground.Agents.RevocationPublish`: the signed list an agent publishes

`IssuerRevocationList` (`agents/base/revocation_publish.py`) pulls the entries of this issuer
from the control plane, signs them and holds the result. `refresh` is a coroutine that is
suspended in `_pull` while the request is under way. `finishRefresh` is the part from the
answer on. The AID of the request is read before it, and the agent that signs in it.

An `Answer` is what the request comes back with. `pull` reads it: a refusal is `PullRefused`,
and any other exception escapes (`raised`).

The URL, the headers of the request and the fields of the telemetry events are left out:
nothing here reads them back.
-/

set_option autoImplicit false

namespace AitpPlayground.Agents

open AitpPlayground.Lib

/-! ### The pull -/

/-- What the request comes back with: an `httpx.HTTPError`, or a status and what
`resp.json()` gives. -/
inductive Answer where
  | failed (detail : String)
  | response (status : Nat) (json : Except PyErr Json)
deriving DecidableEq

/-- What `_pull` raises. -/
inductive PullExc where
  | refused (cause detail : String)
  | raised (exc : PyErr)

/-- `uuid.UUID(x)`, as text. -/
def uuidOf (py : PyLib) : Json → Except PyErr String
  | .str s => py.uuidStr s
  | .null =>
    .error (.typeError "one of the hex, bytes, bytes_le, fields, or int arguments must be given")
  | _ => .error (.attributeError "object has no attribute 'replace'")

/-- `_entry`. -/
def entryOf (py : PyLib) (raw : Json) : Except PyErr Entry := do
  let jti ← uuidOf py (← raw.item "jti")
  let revokedAt ← py.int (← raw.item "revoked_at")
  -- `raw` has items, so it is a dictionary.
  let reason := (raw.dict?.bind fun d => d.get? "reason").bind fun r =>
    if r = .null then none else some (py.strOf r)
  pure { jti, revokedAt, reason }

/-- `_error_code`. -/
def errorCode : Except PyErr Json → Except PyErr (Option String)
  | .error (.valueError _ _) | .error (.attributeError _) => .ok none
  | .error exc => .error exc
  | .ok body =>
    match body.dict?.bind fun d => d.get? "code" with
    | some (.str code) => .ok (some code)
    | _ => .ok none

/-- The body of an answer with status 200, read for the issuer `aid`. -/
def readBody (py : PyLib) (aid : String) (json : Except PyErr Json) :
    Except PyErr (Except PullExc (List Entry)) := do
  let body ← json
  let iss ← body.item "iss"
  if iss ≠ .str aid then
    pure (.error (.refused "issuer_mismatch"
      ("CP answered for " ++ py.reprOf iss ++ ", not " ++ py.reprOf (.str aid))))
  else
    let items ← (← body.item "entries").iter
    let entries ← items.mapM (entryOf py)
    pure (.ok entries)

/-- `_pull`, from the answer on. -/
def pull (py : PyLib) (aid : String) : Answer → Except PullExc (List Entry)
  | .failed detail => .error (.refused "cp_unreachable" detail)
  | .response status json =>
    if status ≠ 200 then
      match errorCode json with
      | .error exc => .error (.raised exc)
      | .ok code =>
        let code := match code with
          | some c => if c = "" then "http_" ++ toString status else c
          | none => "http_" ++ toString status
        .error (.refused code ("CP answered " ++ toString status ++ " (" ++ code ++ ")"))
    else
      match readBody py aid json with
      | .ok result => result
      | .error exc =>
        -- An `AttributeError` of `uuid.UUID` escapes.
        match exc with
        | .keyError _ | .typeError _ | .valueError _ _ =>
          .error (.refused "malformed_body" ("CP revocation body: " ++ exc.text))
        | _ => .error (.raised exc)

/-! ### The list -/

/-- One signed list. -/
structure SignedList where
  envelopeJson : String
  signerAid : String
  entryCount : Nat
  publishedAt : Int
  expiresAt : Int
deriving DecidableEq

/-- `SignedList.is_expired`. -/
def SignedList.isExpired (l : SignedList) (now : ℚ) : Bool := decide ((l.expiresAt : ℚ) ≤ now)

/-- `_sign`, under the agent `aid`. -/
def sign (sdk : Sdk) (py : PyLib) (aid : String) (ttlSecs : Int) (entries : List Entry)
    (salt : Nat) : Except PyErr SignedList := do
  let envelopeJson ← sdk.signRevocationList aid entries ttlSecs salt
  let body ← (← py.jsonLoads envelopeJson).item "revocation_list"
  let publishedAt ← py.int (← body.item "published_at")
  let expiresAt ← py.int (← body.item "expires_at")
  pure { envelopeJson, signerAid := aid, entryCount := entries.length, publishedAt, expiresAt }

/-- The holder of the list. -/
structure IssuerRevocationList where
  cpBaseUrl : Option String
  ttlSecs : Int
  current : Option SignedList
deriving DecidableEq

namespace IssuerRevocationList

/-- The list in force for the agent `aid`: signed by it, and not expired. -/
def inForce (l : IssuerRevocationList) (aid : String) (now : ℚ) : Option SignedList :=
  l.current.filter fun signed => decide (signed.signerAid = aid) && !signed.isExpired now

/-- `serveable`: the list to serve, `none` for a 503. Without a control plane an empty list
is signed on demand. -/
def serveable (sdk : Sdk) (py : PyLib) (l : IssuerRevocationList) (aid : String) (now : ℚ)
    (salt : Nat) : IssuerRevocationList × Except PyErr (Option SignedList) :=
  match l.inForce aid now, l.cpBaseUrl with
  | none, none =>
    match sign sdk py aid l.ttlSecs [] salt with
    | .error exc => (l, .error exc)
    | .ok signed => ({ l with current := some signed }, .ok (some signed))
  | signed, _ => (l, .ok signed)

/-- What `refresh` does at the answer: raise, or return after it has awaited a telemetry
event or not. `pulled` holds the entries when it signed a list of them. -/
inductive Refreshed where
  | raised
  | returned (emits : Bool) (pulled : Option (List Entry))

/-- `refresh` from the answer on: `aid` is the agent of the request, and `agent` the one that
signs. -/
def finishRefresh (sdk : Sdk) (py : PyLib) (l : IssuerRevocationList) (aid agent : String)
    (quiet : Bool) (answer : Answer) (salt : Nat) : IssuerRevocationList × Refreshed :=
  match pull py aid answer with
  | .error (.raised _) => (l, .raised)
  -- The list in force is left as it was.
  | .error (.refused _ _) => (l, .returned (!quiet) none)
  | .ok entries =>
    let previous := l.current.map SignedList.entryCount
    -- `_sign` asks for the agent again, after the pull.
    match sign sdk py agent l.ttlSecs entries salt with
    | .error _ => (l, .raised)
    | .ok signed =>
      ({ l with current := some signed },
        .returned (!quiet || decide (previous ≠ some entries.length)) (some entries))

end IssuerRevocationList

end AitpPlayground.Agents
