import AitpPlayground.Agents.AgentSystem
import Mathlib.Logic.Function.Basic

/-!
# `AitpPlayground.Agents.ControlPlane`: an agent and the versions of its entries

The control plane of an agent holds the entries of each issuer, and they change over time.
`CpSystem` numbers the states that they go through. A request is answered with the version
that is there when the control plane handles it, and the answer may take any time to arrive.
So answers may arrive in another order than the requests were handled in.

`cpAnswer v aid` is the answer for the issuer `aid` at version `v`. A request may also fail,
with an answer that `_pull` refuses.
-/

set_option autoImplicit false

namespace AitpPlayground.Agents

open AitpPlayground.Lib

/-- An agent and its control plane. -/
structure CpSystem where
  agent : AgentSystem
  /-- The version of the entries now. -/
  version : Nat
  /-- The version that the request of each coroutine was answered with, until the answer
  arrives. -/
  handled : Nat → Option Nat

/-- The moves of the two. -/
inductive CpLabel where
  /-- The entries change. -/
  | bump
  /-- The control plane handles the request of a coroutine. -/
  | handle (i : Nat)
  /-- The answer arrives. -/
  | deliver (i : Nat) (salt : Nat)
  /-- The request fails, with an answer that is refused. -/
  | fail (i : Nat) (answer : Answer) (salt : Nat)
  /-- Another step of the agent. -/
  | call (l : AgentLabel)

/-- The label is the answer of a pull. -/
def AgentLabel.isResume : AgentLabel → Bool
  | .resume _ _ _ _ => true
  | _ => false

/-- The label is a key rotation. -/
def AgentLabel.isRotate : AgentLabel → Bool
  | .rotate _ _ => true
  | _ => false

namespace CpSystem

/-- The AID of the request that a coroutine awaits. -/
def pulling? (s : CpSystem) (i : Nat) : Option String := s.agent.tasks[i]?.bind Task.pulling?

/-- The answer of a request has arrived at the agent. -/
def resumed (sdk : Sdk) (py : PyLib) (s : CpSystem) (i : Nat) (answer : Answer)
    (version salt : Nat) : Option CpSystem :=
  (agentStep sdk py s.agent (.resume i answer version salt)).map fun agent =>
    { s with agent, handled := Function.update s.handled i none }

end CpSystem

/-- One move. -/
def cpStep (sdk : Sdk) (py : PyLib) (cpAnswer : Nat → String → Answer) (s : CpSystem) :
    CpLabel → Option CpSystem
  | .bump => some { s with version := s.version + 1 }
  | .handle i =>
    match s.pulling? i, s.handled i with
    | some _, none => some { s with handled := Function.update s.handled i (some s.version) }
    | _, _ => none
  | .deliver i salt =>
    match s.pulling? i, s.handled i with
    | some aid, some v => s.resumed sdk py i (cpAnswer v aid) v salt
    | _, _ => none
  | .fail i answer salt =>
    match s.pulling? i with
    | some aid => if (pull py aid answer).isOk then none else s.resumed sdk py i answer 0 salt
    | none => none
  | .call l =>
    if l.isResume then none
    else (agentStep sdk py s.agent l).map fun agent => { s with agent }

end AitpPlayground.Agents
