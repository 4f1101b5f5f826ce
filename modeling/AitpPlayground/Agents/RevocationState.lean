import AitpPlayground.Lib.Py
import Mathlib.Data.Finset.Card

/-!
# `AitpPlayground.Agents.RevocationState`: what an agent denies

`RevocationState` (`agents/base/revocation_state.py`) keeps the local revocations and the
snapshot in force apart, and joins them where they are enforced. `apply_snapshot` replaces
the snapshot as a whole.

`posture` says whether the agent can make a revocation decision. It subtracts an integer from
the clock, so an integer too large for a float raises.
-/

set_option autoImplicit false

namespace AitpPlayground.Agents

open AitpPlayground.Lib

/-- A snapshot in force. -/
structure Snapshot where
  entries : Finset String
  publishedAt : Int
  expiresAt : Int
deriving DecidableEq

namespace Snapshot

/-- `age_secs`. -/
def ageSecs (snap : Snapshot) (now : ℚ) : Except PyErr ℚ :=
  (PyNum.int snap.publishedAt).toFloat.map fun _ => now - snap.publishedAt

/-- `is_expired`. -/
def isExpired (snap : Snapshot) (now : ℚ) : Bool := decide ((snap.expiresAt : ℚ) ≤ now)

end Snapshot

/-- The state: local revocations and the snapshot in force. -/
structure RevocationState where
  local_ : Finset String
  snapshot : Option Snapshot
deriving DecidableEq

/-- What an agent can say about revocation. -/
inductive Posture where
  | unchecked
  | current
  | degraded
deriving DecidableEq

namespace RevocationState

/-- The initial state. -/
def new : RevocationState := ⟨∅, none⟩

/-- `revoke_local`. -/
def revokeLocal (r : RevocationState) (jti : String) : RevocationState :=
  { r with local_ := insert jti r.local_ }

/-- `apply_snapshot`. -/
def applySnapshot (r : RevocationState) (entries : List String) (publishedAt expiresAt : Int) :
    RevocationState :=
  { r with snapshot := some ⟨entries.toFinset, publishedAt, expiresAt⟩ }

/-- `effective_jtis`. -/
def effectiveJtis (r : RevocationState) : Finset String :=
  match r.snapshot with
  | none => r.local_
  | some snap => r.local_ ∪ snap.entries

/-- `is_revoked`. -/
def isRevoked (r : RevocationState) (jti : String) : Bool :=
  decide (jti ∈ r.local_) ||
    match r.snapshot with
    | none => false
    | some snap => decide (jti ∈ snap.entries)

/-- `is_locally_revoked`. -/
def isLocallyRevoked (r : RevocationState) (jti : String) : Bool := decide (jti ∈ r.local_)

/-- `posture`. -/
def posture (r : RevocationState) (canVerify : Bool) (maxStalenessSecs : Int) (now : ℚ) :
    Except PyErr Posture :=
  if canVerify then
    match r.snapshot with
    | none => .ok .degraded
    | some snap =>
      if snap.isExpired now then .ok .degraded
      else (snap.ageSecs now).map fun age =>
        if (maxStalenessSecs : ℚ) < age then .degraded else .current
  else .ok .unchecked

/-- `degraded_reason`. -/
def degradedReason (r : RevocationState) (maxStalenessSecs : Int) (now : ℚ) :
    Except PyErr String :=
  match r.snapshot with
  | none => .ok "no verified snapshot has ever been applied"
  | some snap =>
    if snap.isExpired now then .ok "the last verified snapshot is past its signed expires_at"
    else (snap.ageSecs now).map fun age =>
      "the last verified snapshot is " ++ toString (if 0 ≤ age then age.floor else age.ceil) ++
        "s old, over the " ++ toString maxStalenessSecs ++ "s staleness budget"

end RevocationState

end AitpPlayground.Agents
