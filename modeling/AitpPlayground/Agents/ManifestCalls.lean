import AitpPlayground.Agents.ManifestThreads

/-!
# `AitpPlayground.Agents.ManifestCalls`: the served manifest, call by call

`freshManifestJson` and `rotateKeys` are `_fresh_manifest_json` and the part of `rotate_keys`
that writes the manifest, each as one step: the calls of `AitpPlayground.Agents.ManifestThreads`
when no other thread comes between. A call reads the clock at several places (`Readings`).

`ManifestRun` is a sequence of such calls, under an SDK that mints a manifest for `ttl` seconds
from the time of the mint, or raises. `calls`, `failures` and `replies` are not in the code. They
are the calls so far, with what a mint would do in each of them, the times at which a re-mint
failed, and what was returned with the last reading of the call.
-/

set_option autoImplicit false

namespace AitpPlayground.Agents

open AitpPlayground.Lib

/-- The fields of `AitpServer` around the manifest. -/
structure ManifestFields where
  agent : String
  manifest : Manifest
  cooldownUntil : ℚ
deriving DecidableEq

/-- What the clock reads in a call: at its start, at the second look under the lock, in the
mint, and after a mint that raised. -/
structure Readings where
  first : ℚ
  locked : ℚ
  minted : ℚ
  failed : ℚ

/-- The readings of one call, none before the last. -/
def Readings.Ordered (r : Readings) : Prop :=
  r.first ≤ r.locked ∧ r.locked ≤ r.minted ∧ r.minted ≤ r.failed

instance (r : Readings) : Decidable r.Ordered := inferInstanceAs (Decidable (_ ∧ _ ∧ _))

/-- What a call of `_fresh_manifest_json` leaves and returns. -/
structure Served where
  fields : ManifestFields
  reply : Manifest
  /-- The last reading of the clock. -/
  at_ : ℚ
  /-- The time at which its mint raised. -/
  failure : Option ℚ
deriving DecidableEq

namespace ManifestFields

/-- `_fresh_manifest_json`, with the times of the manifest that it would mint, `none` when the
mint raises. -/
def freshManifestJson (s : ManifestFields) (r : Readings) (mint : Option (ℚ × ℚ)) : Served :=
  if r.first < manifestDeadline s.manifest then ⟨s, s.manifest, r.first, none⟩
  else if r.first < s.cooldownUntil then ⟨s, s.manifest, r.first, none⟩
  else if r.locked < manifestDeadline s.manifest then ⟨s, s.manifest, r.locked, none⟩
  else
    match mint with
    | none =>
      ⟨{ s with cooldownUntil := r.failed + manifestRemintCooldownSecs }, s.manifest, r.failed,
        some r.failed⟩
    | some (publishedAt, expiresAt) =>
      -- The agent is still the one that signed.
      ⟨{ s with manifest := ⟨s.agent, publishedAt, expiresAt⟩, cooldownUntil := 0 },
        ⟨s.agent, publishedAt, expiresAt⟩, r.minted, none⟩

/-- `rotate_keys`: a mint that raises leaves everything as it was. -/
def rotateKeys (s : ManifestFields) (newAgent : String) (mint : Option (ℚ × ℚ)) :
    ManifestFields :=
  match mint with
  | none => s
  | some (publishedAt, expiresAt) =>
    { agent := newAgent, manifest := ⟨newAgent, publishedAt, expiresAt⟩, cooldownUntil := 0 }

end ManifestFields

/-- A call. A mint that does not raise is a mint for `ttl` seconds. -/
inductive ManifestCall where
  | fresh (r : Readings) (mints : Bool)
  | rotate (newAgent : String) (minted : ℚ) (mints : Bool)

/-- A sequence of calls. -/
structure ManifestRun where
  fields : ManifestFields
  /-- The last reading of the clock. -/
  clock : ℚ
  calls : List ManifestCall
  failures : List ℚ
  replies : List (Manifest × ℚ)

/-- The start-up: the manifest is minted before the first call. -/
def ManifestRun.start (agent : String) (minted ttl : ℚ) : ManifestRun where
  fields := { agent, manifest := ⟨agent, minted, minted + ttl⟩, cooldownUntil := 0 }
  clock := minted
  calls := []
  failures := []
  replies := []

/-- The times of a manifest that is minted at `now`. -/
def mintAt (ttl : ℚ) (now : ℚ) (mints : Bool) : Option (ℚ × ℚ) :=
  if mints then some (now, now + ttl) else none

/-- One call. -/
def manifestCall (ttl : ℚ) (s : ManifestRun) : ManifestCall → Option ManifestRun
  | .fresh r mints =>
    if s.clock ≤ r.first ∧ r.Ordered then
      let served := s.fields.freshManifestJson r (mintAt ttl r.minted mints)
      some
        { fields := served.fields
          clock := served.at_
          calls := .fresh r mints :: s.calls
          failures := served.failure.toList ++ s.failures
          replies := (served.reply, served.at_) :: s.replies }
    else none
  | .rotate newAgent minted mints =>
    if s.clock ≤ minted then
      some { s with
        fields := s.fields.rotateKeys newAgent (mintAt ttl minted mints), clock := minted
        calls := .rotate newAgent minted mints :: s.calls }
    else none

end AitpPlayground.Agents
