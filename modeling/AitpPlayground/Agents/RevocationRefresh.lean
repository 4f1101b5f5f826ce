import AitpPlayground.Agents.RevocationPublish
import AitpPlayground.Agents.RevocationState

/-!
# `AitpPlayground.Agents.RevocationRefresh`: the list put into force

`refresh_revocations` (`agents/base/revocation_refresh.py`) refreshes the list, and then
verifies the list in force and applies its entries, whether the refresh succeeded or not.
There is no `await` between the look at the list and `apply_snapshot`, so this part is one
function.

`refreshRevocations` is the whole of it from the answer of the pull on, for an agent that has a
control plane, keeps its AID, and runs no other refresh meanwhile.
-/

set_option autoImplicit false

namespace AitpPlayground.Agents

open AitpPlayground.Lib

/-- The jtis of the entries of an envelope body: of the entries that are dictionaries, the
jtis that are text. -/
def jtisOf (entries : List Json) : List String :=
  entries.filterMap fun e =>
    match e.dict?.bind fun d => d.get? "jti" with
    | some (.str jti) => some jti
    | _ => none

/-- What is read out of a verified envelope: the jtis, `published_at` and `expires_at`. -/
def readEnvelope (py : PyLib) (envelopeJson : String) :
    Except PyErr (List String × Int × Int) := do
  let body ← (← py.jsonLoads envelopeJson).item "revocation_list"
  let entries ← match body.dict? with
    | none => throw (PyErr.attributeError "object has no attribute 'get'")
    | some d => ((d.get? "entries").getD (.arr [])).iter
  let publishedAt ← py.int (← body.item "published_at")
  let expiresAt ← py.int (← body.item "expires_at")
  pure (jtisOf entries, publishedAt, expiresAt)

/-- `refresh_revocations` from the look at the list on: the holder, the state, and the list
that was applied. -/
def applyList (sdk : Sdk) (py : PyLib) (l : IssuerRevocationList) (r : RevocationState)
    (aid : String) (now : ℚ) (salt : Nat) :
    IssuerRevocationList × RevocationState × Option SignedList :=
  match l.serveable sdk py aid now salt with
  | (l, .error _) | (l, .ok none) => (l, r, none)
  | (l, .ok (some current)) =>
    -- A list that does not verify or cannot be read is discarded.
    match sdk.verifyRevocationList current.envelopeJson current.signerAid salt with
    | .error _ => (l, r, none)
    | .ok _ =>
      match readEnvelope py current.envelopeJson with
      | .error _ => (l, r, none)
      | .ok (jtis, publishedAt, expiresAt) =>
        -- Wholesale replacement, not a merge.
        (l, r.applySnapshot jtis publishedAt expiresAt, some current)

/-- `refresh_revocations` from the answer on: the holder and the state after it has returned or
raised. The SDK signs at `signSalt` and verifies at `salt`. -/
def refreshRevocations (sdk : Sdk) (py : PyLib) (l : IssuerRevocationList) (r : RevocationState)
    (aid : String) (quiet : Bool) (answer : Answer) (now : ℚ) (signSalt salt : Nat) :
    IssuerRevocationList × RevocationState :=
  match l.finishRefresh sdk py aid aid quiet answer signSalt with
  | (l, .raised) => (l, r)
  | (l, .returned _ _) =>
    let (l, r, _) := applyList sdk py l r aid now salt
    (l, r)

end AitpPlayground.Agents
