import AitpPlayground.Lib.Lts
import Mathlib.Data.Rat.Defs
import Mathlib.Algebra.Order.Ring.Rat
import Mathlib.Logic.Function.Basic

/-!
# `AitpPlayground.Agents.ManifestThreads`: the served manifest and the rotation of its key

`AitpServer._fresh_manifest_json` (`agents/base/aitp_server.py`) mints the served manifest anew
at its half-life. It runs on the threads of the pool, beside `/admin/rotate-keys` on the event
loop. Both write under `_manifest_lock`. The reads before the lock are unlocked, and so is the
last one of `_fresh_manifest_json`, which reads what it returns.

A thread is at one place of the two functions (`ManifestAt`), and every read, write and mint is
a step of its own, those under the lock included. The clock and the outcome of a mint come with
the step. A manifest is its minting key and its two times: `build_manifest` signs with the key
of the agent that it is called on.

`installed` and `generated` are not in the code. They are the keys that the server has had, the
last one first, and the keys that were generated.
-/

set_option autoImplicit false

namespace AitpPlayground.Agents

open AitpPlayground.Lib

/-- A manifest. -/
structure Manifest where
  mintedBy : String
  publishedAt : ℚ
  expiresAt : ℚ
deriving DecidableEq

/-- `_manifest_deadline`: the half-life. -/
def manifestDeadline (m : Manifest) : ℚ := m.publishedAt + (m.expiresAt - m.publishedAt) / 2

/-- `_MANIFEST_REMINT_COOLDOWN_SECS`. -/
def manifestRemintCooldownSecs : ℚ := 30

/-- Where a thread is. -/
inductive ManifestAt where
  /-- It serves no request, or has returned this manifest. -/
  | idle (reply : Option Manifest)
  /-- `_fresh_manifest_json`: the clock is read, the deadline of the manifest is next. -/
  | readDeadline (now : ℚ)
  /-- The cooldown is next. -/
  | readCooldown (now : ℚ)
  /-- The lock is next. -/
  | waiting
  /-- It holds the lock. The second look at the deadline is next. -/
  | locked
  /-- It holds the lock and has read the agent. The mint is next. -/
  | signing (agent : String)
  /-- It holds the lock, and the mint has raised. -/
  | failed
  /-- It holds the lock. The second look at the agent is next. -/
  | minted (agent : String) (manifest : Manifest)
  /-- It holds the lock and has written the manifest. -/
  | stored
  /-- It has released the lock, and reads the manifest that it returns. -/
  | replying
  /-- `rotate_keys`: the key is generated, the mint is next. -/
  | rotating (agent : String)
  /-- The lock is next. -/
  | rotated (agent : String) (manifest : Manifest)
  /-- It holds the lock. The agent is written next. -/
  | installing (agent : String) (manifest : Manifest)
  /-- It holds the lock. The manifest is written next. -/
  | publishing (manifest : Manifest)
  /-- It holds the lock and has written both. -/
  | published
deriving DecidableEq

namespace ManifestAt

/-- The thread is inside a section under `_manifest_lock`. -/
def inside : ManifestAt → Bool
  | .locked | .signing _ | .failed | .minted _ _ | .stored | .installing _ _ | .publishing _
  | .published => true
  | _ => false

/-- The key that a rotation has generated and not installed yet. -/
def pendingKey : ManifestAt → Option String
  | .rotating agent | .rotated agent _ | .installing agent _ => some agent
  | _ => none

end ManifestAt

/-- The fields of `AitpServer` around the manifest, and the threads. -/
structure ManifestServer where
  agent : String
  manifest : Manifest
  cooldownUntil : ℚ
  lock : Option Nat
  threads : Nat → ManifestAt
  installed : List String
  generated : List String

namespace ManifestServer

/-- `__init__`: the caller mints the manifest with the agent that it passes. -/
def start (agent : String) (publishedAt expiresAt : ℚ) : ManifestServer where
  agent
  manifest := { mintedBy := agent, publishedAt, expiresAt }
  cooldownUntil := 0
  lock := none
  threads _ := .idle none
  installed := [agent]
  generated := [agent]

/-- The thread goes on to another place. -/
def goto (s : ManifestServer) (t : Nat) (at_ : ManifestAt) : ManifestServer :=
  { s with threads := Function.update s.threads t at_ }

/-- The thread enters the section under the lock, if nobody is in it. -/
def acquire (s : ManifestServer) (t : Nat) (at_ : ManifestAt) : Option ManifestServer :=
  if s.lock = none then some { s.goto t at_ with lock := some t } else none

/-- The thread leaves the section under the lock. -/
def release (s : ManifestServer) (t : Nat) (at_ : ManifestAt) : ManifestServer :=
  { s.goto t at_ with lock := none }

end ManifestServer

/-- Who moves. -/
inductive ManifestLabel where
  /-- A request for the manifest. -/
  | get (thread : Nat) (now : ℚ)
  /-- A request to rotate the key, and the key that it generates. -/
  | rotate (thread : Nat) (newAgent : String)
  /-- The thread makes its next step: what the clock reads in it, and the times of the minted
  manifest, `none` when the mint raises. -/
  | go (thread : Nat) (now : ℚ) (mint : Option (ℚ × ℚ))

/-- The next step of a thread. -/
def manifestGo (s : ManifestServer) (t : Nat) (now : ℚ) (mint : Option (ℚ × ℚ)) :
    Option ManifestServer :=
  match s.threads t with
  | .idle _ => none
  | .readDeadline read =>
    some (s.goto t (if read < manifestDeadline s.manifest then .replying else .readCooldown read))
  | .readCooldown read =>
    some (s.goto t (if read < s.cooldownUntil then .replying else .waiting))
  | .waiting => s.acquire t .locked
  | .locked =>
    -- The manifest it returns is read under the lock here.
    if now < manifestDeadline s.manifest then some (s.release t (.idle (some s.manifest)))
    else some (s.goto t (.signing s.agent))
  | .signing agent =>
    match mint with
    | none => some (s.goto t .failed)
    | some (publishedAt, expiresAt) =>
      some (s.goto t (.minted agent { mintedBy := agent, publishedAt, expiresAt }))
  | .failed =>
    some { s.release t (.idle (some s.manifest)) with
      cooldownUntil := now + manifestRemintCooldownSecs }
  | .minted agent manifest =>
    -- A rotation that landed while it was signing.
    if agent ≠ s.agent then some (s.release t (.idle (some s.manifest)))
    else some { s.goto t .stored with manifest }
  | .stored => some { s.release t .replying with cooldownUntil := 0 }
  | .replying => some (s.goto t (.idle (some s.manifest)))
  | .rotating agent =>
    match mint with
    | none => some (s.goto t (.idle none))
    | some (publishedAt, expiresAt) =>
      some (s.goto t (.rotated agent { mintedBy := agent, publishedAt, expiresAt }))
  | .rotated agent manifest => s.acquire t (.installing agent manifest)
  | .installing agent manifest =>
    some { s.goto t (.publishing manifest) with agent, installed := agent :: s.installed }
  | .publishing manifest => some { s.goto t .published with manifest }
  | .published => some { s.release t (.idle none) with cooldownUntil := 0 }

/-- One step. A key that is generated is a new one. -/
def manifestStep (s : ManifestServer) : ManifestLabel → Option ManifestServer
  | .get t now =>
    match s.threads t with
    | .idle _ => some (s.goto t (.readDeadline now))
    | _ => none
  | .rotate t newAgent =>
    match s.threads t with
    | .idle _ =>
      if newAgent ∈ s.generated then none
      else some { s.goto t (.rotating newAgent) with generated := newAgent :: s.generated }
    | _ => none
  | .go t now mint => manifestGo s t now mint

/-- The manifest that a step writes to `manifest_json`. -/
def manifestStored (s : ManifestServer) : ManifestLabel → Option Manifest
  | .go t _ _ =>
    match s.threads t with
    | .minted agent manifest => if agent ≠ s.agent then none else some manifest
    | .publishing manifest => some manifest
    | _ => none
  | _ => none

end AitpPlayground.Agents
