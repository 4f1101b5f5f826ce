import AitpPlayground.Hosting.KillRun

/-!
# `AitpPlayground.Hosting.Names`: the names that are made from a run and an agent

An agent of a run has a seed (`derive_seed_hex`, `src/aitp_playground/hosting/identity.py`), a
key in the tables of the supervisor (`AgentSupervisor.key`) and a bootstrap file
(`BootstrapBuilder.write`, `src/aitp_playground/hosting/bootstrap.py`). All three names are
made by joining the ids.

The bootstrap files are in one directory, where no other directory is ever made. A name with a
slash is a path through a directory that is not there, and `open` refuses it.
-/

set_option autoImplicit false

namespace AitpPlayground.Hosting

open AitpPlayground.Lib

/-- `AgentSpec.org`. -/
inductive Org where
  | internal
  | external
deriving DecidableEq

def Org.text : Org → String
  | .internal => "internal"
  | .external => "external"

/-- The material of a seed, `f"{org}:{run_id}:{agent_id}"`. -/
def seedMaterial (runId agentId : String) (org : Org) : String :=
  org.text ++ ":" ++ runId ++ ":" ++ agentId

/-- `derive_seed_hex`. The hash of the encoded material is a parameter. -/
def deriveSeedHex {Digest : Type} (sha256 : ByteArray → Digest) (runId agentId : String)
    (org : Org) : Digest :=
  sha256 (seedMaterial runId agentId org).toUTF8

/-- The name of the file that `write` opens. -/
def bootstrapName (runId agentId : String) : String := runId ++ "_" ++ agentId ++ ".json"

/-- `write`, on the files of the directory. It returns when the file can be opened. -/
def writeBootstrap {β : Type} (files : Dict String β) (runId agentId : String) (bootstrap : β) :
    Option (Dict String β) :=
  let name := bootstrapName runId agentId
  if name.toList.contains '/' || name.toList.contains (Char.ofNat 0) then none
  else some (files.set name bootstrap)

/-- A run id of `uuid4`, with `hosted-` before it or not, has neither separator. -/
def plainName (runId : String) : Bool := plainRunId runId && !runId.toList.contains '_'

/-- The keys of the process table are those of these launches, in order. -/
def AgentSupervisor.HasKeys (s : AgentSupervisor) (launched : List (String × String)) : Prop :=
  s.processes.keys = launched.map fun e => AgentSupervisor.key e.1 e.2

end AitpPlayground.Hosting
