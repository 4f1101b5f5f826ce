import AitpPlayground.Agents.Oidc
import AitpPlayground.Proofs.Agents.HandshakeReplay

/-!
# `AitpPlayground.Proofs.Agents.HandshakeScreen`: the bodies that the screen cannot read

A handshake body is screened before anything in it is verified. `check` refuses what it cannot
use, except in two cases. `json.loads` may raise something other than `ValueError`, as it does
for a text that is nested too deeply. And an integer timestamp may be too large for a float,
which the difference to the clock finds out. `check_raises_iff` says that there is no third
case.

The endpoint of an agent with an OIDC identity then looks for the AID of the peer. It expects
an object under `manifest`, and any other value that counts as true has no `get`
(`peerAid_raises_iff`).
-/

set_option autoImplicit false

namespace AitpPlayground.Proofs.Agents

open AitpPlayground.Lib
open AitpPlayground.Agents

variable {round : ℚ → PyFloat} {py : PyLib} {g : ReplayGuard} {now : ℚ} {body : String}

/-- `json.loads` raises something other than `ValueError`. -/
def Undecodable (py : PyLib) (body : String) : Prop :=
  ∃ exc, py.jsonLoads body = .error exc ∧ ∀ msg code, exc ≠ .valueError msg code

/-- The envelope has a new `message_id` and an integer timestamp that no float can hold. -/
def TimestampOverflows (py : PyLib) (g : ReplayGuard) (now : ℚ) (body : String) : Prop :=
  ∃ m n, readHeader py body = .ok (m, some (.int n)) ∧ (g.prune now).seen.get? m = none ∧
    floatOverflow ≤ |n|

/-- The payload of a body that is an object, when the payload is an object. -/
def helloPayload (py : PyLib) (body : String) : Option (Dict String Json) := do
  let env ← (py.jsonLoads body).toOption.bind Json.dict?
  (env.get? "payload").bind Json.dict?

/-- The manifest in the payload is neither an object nor a value that counts as false. -/
def ManifestUnreadable (py : PyLib) (body : String) : Prop :=
  ∃ payload, helloPayload py body = some payload ∧
    ∃ manifest, payload.get? "manifest" = some manifest ∧ manifest.truthy = true ∧
      manifest.dict? = none

/-- The header is read, or the body refused, or `json.loads` raised something else. -/
theorem readHeader_raises_iff :
    (∃ exc, readHeader py body = .error (.raised exc)) ↔ Undecodable py body := by
  unfold readHeader Undecodable
  cases hload : py.jsonLoads body with
  | error exc =>
    cases exc with
    | valueError msg code => simp
    | runtimeError _ _ | typeError _ | keyError _ | attributeError _ | overflowError _
    | recursionError _ | sqliteError _ => simp
  | ok value =>
    simp only [reduceCtorEq, false_and, exists_false, iff_false]
    rintro ⟨exc, h⟩
    split at h
    · cases h
    · split at h
      · split at h <;> cases h
      · cases h

/-- A readable header: `check` raises on a new id with a timestamp that no float holds. -/
theorem check_raises_of_header {m : String} {timestamp : Option PyNum}
    (hread : readHeader py body = .ok (m, timestamp)) :
    (∃ exc, (g.check round py now body).2 = .error (.raised exc)) ↔
      (g.prune now).seen.get? m = none ∧ ∃ n, timestamp = some (.int n) ∧ floatOverflow ≤ |n| := by
  unfold ReplayGuard.check
  simp only [hread]
  cases hseen : (g.prune now).seen.get? m with
  | some expiry => simp
  | none =>
    simp only [Option.isSome_none, Bool.false_eq_true, if_false, true_and]
    cases timestamp with
    | none => simp [ReplayGuard.expired]
    | some ts =>
      have hraises : (∃ exc, ts.toFloat round = .error exc) ↔
          ∃ n, some ts = some (.int n) ∧ floatOverflow ≤ |n| := by
        simpa using PyNum.toFloat_raises_iff (n := ts)
      rw [← hraises]
      cases hfloat : ts.toFloat round with
      | error exc => simp [hfloat]
      | ok x =>
        simp only [hfloat]
        split
        · simp [ReplayGuard.expired]
        · split <;> simp

/-- `check` raises something other than a refusal on these bodies only. -/
theorem check_raises_iff :
    (∃ exc, (g.check round py now body).2 = .error (.raised exc)) ↔
      Undecodable py body ∨ TimestampOverflows py g now body := by
  rw [← readHeader_raises_iff]
  unfold TimestampOverflows
  cases hread : readHeader py body with
  | error exc => simp [ReplayGuard.check, hread]
  | ok header =>
    obtain ⟨m, timestamp⟩ := header
    rw [check_raises_of_header hread]
    constructor
    · rintro ⟨hseen, n, rfl, hbig⟩
      exact .inr ⟨m, n, rfl, hseen, hbig⟩
    · rintro (⟨exc, h⟩ | ⟨m', n, h, hseen, hbig⟩)
      · cases h
      · cases h
        exact ⟨hseen, n, rfl, hbig⟩

/-- A body that `check` admits is an object. -/
theorem exists_envelope_of_admitted (h : (g.check round py now body).2 = .ok ()) :
    ∃ env, (py.jsonLoads body).toOption.bind Json.dict? = some env := by
  obtain ⟨m, ts, x, hread, -⟩ := check_eq_ok h
  unfold readHeader at hread
  cases hload : py.jsonLoads body with
  | error exc =>
    rw [hload] at hread
    cases exc <;> cases hread
  | ok value =>
    rw [hload] at hread
    cases hdict : value.dict? with
    | none => simp [hdict] at hread
    | some env => exact ⟨env, hdict⟩

/-- The manifest is no object when it is there, counts as true and is none. -/
theorem manifestOf_dict?_eq_none_iff {payload : Dict String Json} :
    (manifestOf payload).dict? = none ↔
      ∃ manifest, payload.get? "manifest" = some manifest ∧ manifest.truthy = true ∧
        manifest.dict? = none := by
  unfold manifestOf
  cases hmanifest : (payload.get? "manifest").filter Json.truthy with
  | none =>
    constructor
    · intro h
      cases h
    · rintro ⟨manifest, hget, htruthy, -⟩
      rw [hget, Option.filter_some, if_pos htruthy] at hmanifest
      cases hmanifest
  | some manifest =>
    obtain ⟨hget, htruthy⟩ := Option.filter_eq_some_iff.mp hmanifest
    constructor
    · exact fun h => ⟨manifest, hget, htruthy, h⟩
    · rintro ⟨manifest', hget', -, hnone⟩
      cases hget.symm.trans hget'
      exact hnone

/-- On an object, the AID cannot be read if and only if the manifest is neither an object nor a
value that counts as false. -/
theorem peerAid_raises_iff (isJsonDecodeError : PyErr → Bool) {env : Dict String Json}
    (henv : (py.jsonLoads body).toOption.bind Json.dict? = some env) :
    (∃ exc, peerAidFromHelloEnvelope py isJsonDecodeError body = .error exc) ↔
      ManifestUnreadable py body := by
  have hunreadable : ManifestUnreadable py body ↔ ∃ payload,
      (env.get? "payload").bind Json.dict? = some payload ∧
        (manifestOf payload).dict? = none := by
    unfold ManifestUnreadable helloPayload
    simp only [henv, manifestOf_dict?_eq_none_iff]
    exact Iff.rfl
  rw [hunreadable]
  unfold peerAidFromHelloEnvelope
  cases hload : py.jsonLoads body with
  | error exc =>
    rw [hload] at henv
    cases henv
  | ok value =>
    rw [hload] at henv
    have hdict : value.dict? = some env := henv
    have hpayload : ((env.get? "payload").getD .null).dict? =
        (env.get? "payload").bind Json.dict? := by
      cases env.get? "payload" <;> rfl
    simp only [hdict, hpayload]
    cases hp : (env.get? "payload").bind Json.dict? with
    | none => simp
    | some payload => cases hm : (manifestOf payload).dict? <;> simp [hm]

/-- For every body, every guard and every rounding, `check` returns or refuses, if and only if
`json.loads` reads the body or raises a `ValueError`, and a new id does not come with an integer
timestamp that no float can hold. On a body that it admits, `peer_aid_from_hello_envelope`
returns if and only if the manifest is an object, absent, or a value that counts as false. -/
theorem screen_returns_iff (round : ℚ → PyFloat) (py : PyLib) (isJsonDecodeError : PyErr → Bool)
    (g : ReplayGuard) (now : ℚ) (body : String) :
    (((g.check round py now body).2 = .ok () ∨
        ∃ refusal, (g.check round py now body).2 = .error (.rejected refusal)) ↔
      ¬Undecodable py body ∧ ¬TimestampOverflows py g now body) ∧
    ((g.check round py now body).2 = .ok () →
      ((∃ aid, peerAidFromHelloEnvelope py isJsonDecodeError body = .ok aid) ↔
        ¬ManifestUnreadable py body)) := by
  constructor
  · rw [← not_or, ← check_raises_iff]
    cases (g.check round py now body).2 with
    | ok u => simp
    | error e =>
      cases e with
      | rejected refusal => simp
      | raised exc => simp
  · intro hadmitted
    obtain ⟨env, henv⟩ := exists_envelope_of_admitted hadmitted
    rw [← peerAid_raises_iff isJsonDecodeError henv]
    cases peerAidFromHelloEnvelope py isJsonDecodeError body <;> simp

/-! ### Concrete bodies -/

/-- An envelope with this timestamp and this manifest. -/
def envelopeWith (timestamp : Int) (manifest : Json) : Json :=
  .obj [("message_id", .str "m"), ("timestamp", .num (.int timestamp)), ("sender", .str "aid:a"),
    ("payload", .obj [("manifest", manifest)])]

/-- A library that reads one text. -/
def oneText (value : Json) : PyLib := .reading [("hello", value)]

/-- The test for `json.JSONDecodeError`, for a library all `ValueError`s of which are one. -/
def isDecodeError : PyErr → Bool
  | .valueError _ _ => true
  | _ => false

/-- A hello with an object as its manifest is admitted, and the AID is read. -/
theorem screen_returns_iff_hello :
    ((ReplayGuard.new 300 10).check roundDouble (oneText (envelopeWith 0 (.obj []))) 0
        "hello").2 = .ok () ∧
      ∃ aid, peerAidFromHelloEnvelope (oneText (envelopeWith 0 (.obj []))) isDecodeError "hello" =
        .ok aid := by
  have hadmitted : ((ReplayGuard.new 300 10).check roundDouble
      (oneText (envelopeWith 0 (.obj []))) 0 "hello").2 = .ok () := by decide +kernel
  refine ⟨hadmitted, ((screen_returns_iff roundDouble (oneText (envelopeWith 0 (.obj [])))
    isDecodeError (.new 300 10) 0 "hello").2 hadmitted).mpr ?_⟩
  rintro ⟨payload, hpayload, manifest, hget, htruthy, -⟩
  have hread : helloPayload (oneText (envelopeWith 0 (.obj []))) "hello" =
      some (Dict.ofList [("manifest", .obj [])]) := by decide +kernel
  cases hread.symm.trans hpayload
  cases hget
  cases htruthy

/-- An integer timestamp of 400 digits escapes as an `OverflowError`, and a manifest that is a
text as an `AttributeError`. -/
theorem screen_raises :
    (¬∀ (py : PyLib) (g : ReplayGuard) (now : ℚ) (body : String),
      (g.check roundDouble py now body).2 = .ok () ∨
        ∃ refusal, (g.check roundDouble py now body).2 = .error (.rejected refusal)) ∧
    ¬∀ (py : PyLib) (g : ReplayGuard) (now : ℚ) (body : String),
      (g.check roundDouble py now body).2 = .ok () →
        ∃ aid, peerAidFromHelloEnvelope py isDecodeError body = .ok aid := by
  constructor
  · intro hclaim
    have hraised : ((ReplayGuard.new 300 10).check roundDouble
        (oneText (envelopeWith (10 ^ 400) .null)) 0 "hello").2 = .error (.raised
          (.overflowError "int too large to convert to float")) := by
      decide +kernel
    rcases hclaim (oneText (envelopeWith (10 ^ 400) .null)) (.new 300 10) 0 "hello" with h | ⟨r, h⟩
    · rw [hraised] at h
      cases h
    · rw [hraised] at h
      cases h
  · intro hclaim
    obtain ⟨aid, h⟩ := hclaim (oneText (envelopeWith 0 (.str "x"))) (.new 300 10) 0 "hello"
      (by decide +kernel)
    have hraised : peerAidFromHelloEnvelope (oneText (envelopeWith 0 (.str "x"))) isDecodeError
        "hello" = .error (.attributeError "object has no attribute 'get'") := by decide +kernel
    rw [hraised] at h
    cases h

end AitpPlayground.Proofs.Agents
