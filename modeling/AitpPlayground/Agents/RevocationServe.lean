import AitpPlayground.Agents.RevocationPublish
import AitpPlayground.Lib.Lts

/-!
# `AitpPlayground.Agents.RevocationServe`: the list as it is served

`get_revocation_list` (`agents/base/aitp_server.py`) serves what `serveable` returns, and a
503 for `None`. `ListServer` is an agent with a control plane whose refreshes and rotations
follow one another: each refresh has come back before the key changes. Interleaved ones are in
`AgentSystem`.

`pulls` is not in the code. It records the pulls that returned, the last one first, with the
AID that each was made for.
-/

set_option autoImplicit false

namespace AitpPlayground.Agents

open AitpPlayground.Lib

/-- The answer of a route: the status, the body and `Retry-After`. -/
structure ListResponse where
  status : Nat
  body : String
  retryAfter : Option Nat
deriving DecidableEq

/-- `RETRY_AFTER_SECS`. -/
def retryAfterSecs : Nat := 30

/-- `get_revocation_list`, for what `serveable` returns. -/
def getRevocationList (py : PyLib) : Option SignedList → ListResponse
  | none =>
    { status := 503
      body := py.jsonDumps (.obj
        [("error", .str "no current revocation list for this issuer"),
         ("code", .str "REVOCATION_UNAVAILABLE")])
      retryAfter := some retryAfterSecs }
  | some signed => { status := 200, body := signed.envelopeJson, retryAfter := none }

/-- An agent that publishes its list. -/
structure ListServer where
  aid : String
  issued : IssuerRevocationList
  clock : ℚ
  pulls : List (String × List Entry)

namespace ListServer

/-- An agent with a control plane, as it is built. -/
def start (aid url : String) (ttlSecs : Int) (clock : ℚ) : ListServer where
  aid
  issued := { cpBaseUrl := some url, ttlSecs, current := none }
  clock
  pulls := []

/-- `serveable`, now. -/
def served (sdk : Sdk) (py : PyLib) (s : ListServer) (salt : Nat) :
    Except PyErr (Option SignedList) :=
  (s.issued.serveable sdk py s.aid s.clock salt).2

/-- The entries of the last pull for an AID that returned. -/
def lastPull (s : ListServer) (aid : String) : Option (List Entry) :=
  (s.pulls.find? fun p => p.1 = aid).map Prod.snd

end ListServer

/-- Who moves. -/
inductive ListLabel where
  /-- A refresh, with what its request comes back with. -/
  | refresh (quiet : Bool) (answer : Answer) (salt : Nat)
  /-- A rotation of the key, without the refreshes after it. -/
  | rotate (newAid : String)
  | advance (clock : ℚ)

/-- One step. -/
def listStep (sdk : Sdk) (py : PyLib) (s : ListServer) : ListLabel → Option ListServer
  | .refresh quiet answer salt =>
    some { s with
      issued := (s.issued.finishRefresh sdk py s.aid s.aid quiet answer salt).1
      pulls := match pull py s.aid answer with
        | .ok entries => (s.aid, entries) :: s.pulls
        | .error _ => s.pulls }
  | .rotate newAid => some { s with aid := newAid }
  | .advance clock => if s.clock ≤ clock then some { s with clock } else none

/-- The refresh completes: a pull that returned is signed. -/
def refreshCompletes (sdk : Sdk) (py : PyLib) (s : ListServer) : ListLabel → Prop
  | .refresh _ answer salt =>
    match pull py s.aid answer with
    | .ok entries => (sign sdk py s.aid s.issued.ttlSecs entries salt).isOk = true
    | .error _ => True
  | _ => True

instance (sdk : Sdk) (py : PyLib) (s : ListServer) :
    (l : ListLabel) → Decidable (refreshCompletes sdk py s l)
  | .refresh _ answer salt =>
    match h : pull py s.aid answer with
    | .ok entries => decidable_of_iff
        ((sign sdk py s.aid s.issued.ttlSecs entries salt).isOk = true)
        (by rw [refreshCompletes, h])
    | .error _ => .isTrue (by rw [refreshCompletes, h]; trivial)
  | .rotate _ => inferInstanceAs (Decidable True)
  | .advance _ => inferInstanceAs (Decidable True)

end AitpPlayground.Agents
