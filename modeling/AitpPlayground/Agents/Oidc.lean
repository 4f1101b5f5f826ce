import AitpPlayground.Agents.HandshakeReplay

/-!
# `AitpPlayground.Agents.Oidc`: the AID of the peer in a hello

`peer_aid_from_hello_envelope` (`agents/base/oidc.py`) reads the AID of the initiator off a
hello body that nobody has verified yet. The endpoint calls it after the replay guard, for an
agent with an OIDC identity.

`json.JSONDecodeError` is a subclass of `ValueError` that the exceptions of `PyErr` do not tell
apart, so the function takes the class test as an argument.
-/

set_option autoImplicit false

namespace AitpPlayground.Agents

open AitpPlayground.Lib

/-- The text at a key, when it is text. -/
def textAt (key : String) (d : Dict String Json) : Option String :=
  match d.get? key with
  | some (.str s) => some s
  | _ => none

/-- `payload.get("manifest") or {}`: any value that counts as true, or an empty object. -/
def manifestOf (payload : Dict String Json) : Json :=
  ((payload.get? "manifest").filter Json.truthy).getD (.obj [])

/-- `peer_aid_from_hello_envelope`. -/
def peerAidFromHelloEnvelope (py : PyLib) (isJsonDecodeError : PyErr → Bool)
    (helloJson : String) : Except PyErr (Option String) :=
  match py.jsonLoads helloJson with
  | .error exc => if isJsonDecodeError exc then .ok none else .error exc
  | .ok env =>
    match env.dict? with
    | none => .error (.attributeError "object has no attribute 'get'")
    | some env =>
      match ((env.get? "payload").getD .null).dict? with
      | some payload =>
        match (manifestOf payload).dict? with
        | none => .error (.attributeError "object has no attribute 'get'")
        | some manifest => .ok ((textAt "aid" manifest).or (textAt "sender" env))
      | none => .ok (textAt "sender" env)

end AitpPlayground.Agents
