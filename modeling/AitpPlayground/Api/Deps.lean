import AitpPlayground.Lib.Codecs
import AitpPlayground.Limits

/-!
# `AitpPlayground.Api.Deps`: what a request has to pass before a route

The dependencies of `src/aitp_playground/api/_deps.py`. `require_api_key` compares the bearer
token with the configured keys. `enforce_spend_limits` comes after it on the two routes that
spend credit: a bucket for the address of the caller, one for its key, and the hourly cap.

The dependency runs in a thread of its own for each request, and each of the three limits has
its own lock, which it takes after a look at the clock. So requests take turns before each look
and before each lock. A `Gate` is the limits and, for each request, what it has to do next. The
clock does not go back, but of two requests the one that has read it first may come second to the
lock (`InOrder`).

`hashlib.sha256` is a parameter.
-/

set_option autoImplicit false

namespace AitpPlayground.Api

open AitpPlayground.Lib

variable {𝕜 : Type} [Field 𝕜] [LinearOrder 𝕜]

/-- What the dependencies read of a request: the headers in order, with their names in lower
case, and `request.client.host`. -/
structure ApiRequest where
  headers : List (String × String)
  client : Option String

/-- What the dependencies read of the settings. -/
structure ApiSettings where
  playgroundApiKey : String
  rateLimitPerMinute : Int
  rateLimitBurst : Int
  maxRunsPerHour : Int

/-- An `HTTPException` with a header. -/
structure GateRefusal where
  status : Nat
  detail : String
  header : Option (String × String)
deriving DecidableEq

/-- `request.headers.get(name, "")`: the first header with this name. -/
def ApiRequest.header (r : ApiRequest) (name : String) : String := (r.headers.lookup name).getD ""

/-! ### Keys -/

/-- `_configured_keys`. -/
def configuredKeys (s : ApiSettings) : List (List UInt8) :=
  ((s.playgroundApiKey.toList.splitOn ',').map strip |>.filter fun k => decide (k ≠ [])).map
    fun k => utf8 (String.ofList k)

/-- `_bearer`. -/
def bearer (r : ApiRequest) : Option (List UInt8) :=
  let value := (r.header "authorization").toList
  let (scheme, token) := (splitOnce [' '] value).getD (value, [])
  let token := strip token
  if scheme.map Char.toLower ≠ "bearer".toList ∨ token = [] then none
  else some (utf8 (String.ofList token))

/-- `_unauthorized`. -/
def unauthorized : GateRefusal :=
  ⟨401, "missing or invalid API key", some ("WWW-Authenticate", "Bearer")⟩

/-- `hashlib.sha256(presented).hexdigest()[:16]`, by the hash. -/
def keyId (sha256Hex : List UInt8 → String) (presented : List UInt8) : String :=
  String.ofList ((sha256Hex presented).toList.take 16)

/-- `require_api_key`. -/
def requireApiKey (sha256Hex : List UInt8 → String) (s : ApiSettings) (r : ApiRequest) :
    Except GateRefusal String :=
  if configuredKeys s = [] then .error ⟨503, "API key not configured on this service", none⟩
  else
    match bearer r with
    | none => .error unauthorized
    | some presented =>
      if (configuredKeys s).any (fun key => key == presented) then
        .ok (keyId sha256Hex presented)
      else .error unauthorized

/-! ### Addresses -/

/-- `s.split(",")[-1]`. -/
def lastEntry (s : List Char) : List Char := (s.splitOn ',').getLast (List.splitOn_ne_nil _ _)

/-- `client_ip`. -/
def clientIp (r : ApiRequest) : String :=
  let xff := (r.header "x-forwarded-for").toList
  if strip xff ≠ [] then String.ofList (strip (lastEntry xff)) else r.client.getD "unknown"

/-! ### Limits -/

/-- The limits from the settings. -/
def spendLimits (s : ApiSettings) : SpendLimits 𝕜 :=
  .new s.rateLimitPerMinute s.rateLimitBurst s.maxRunsPerHour

/-- How far a request has got, with the times that the checks it has passed went by. `read` is the
time that it has read for the check it is at. -/
inductive GateStage (𝕜 : Type) where
  | arrived
  | atIp (keyId : String) (read : Option 𝕜)
  | atKey (keyId : String) (ipAt : 𝕜) (read : Option 𝕜)
  | atHour (keyId : String) (ipAt keyAt : 𝕜) (read : Option 𝕜)
  | passed (keyId : String) (ipAt keyAt hourAt : 𝕜)
  | refused (refusal : GateRefusal)
deriving DecidableEq

/-- The limits of a process, and the requests by number. -/
structure Gate (𝕜 : Type) where
  limits : SpendLimits 𝕜
  stage : Nat → GateStage 𝕜
  /-- The time of the last step. -/
  now : 𝕜
  /-- The time that the last check of each limit went by. No step reads it. -/
  ipTime : 𝕜
  keyTime : 𝕜
  hourTime : 𝕜

/-- A process that has just started. -/
def Gate.start (s : ApiSettings) (now : 𝕜) : Gate 𝕜 :=
  { limits := spendLimits s, stage := fun _ => .arrived, now, ipTime := now, keyTime := now
    hourTime := now }

/-- The keys of the two buckets. -/
def ipBucket (r : ApiRequest) : String := "ip:" ++ clientIp r
def keyBucket (keyId : String) : String := "key:" ++ keyId

/-- The refusal of the two buckets. -/
def rateExceeded : GateRefusal := ⟨429, "rate limit exceeded", some ("Retry-After", "60")⟩

/-- The refusal of the hourly cap. -/
def hourlyReached : GateRefusal :=
  ⟨429, "hourly run limit reached for this service", some ("Retry-After", "300")⟩

/-- The next step of a request: the limits and the stage after it. A request that is through
has no more steps. -/
def enforceSpendLimits (sha256Hex : List UInt8 → String) (s : ApiSettings) (r : ApiRequest)
    (limits : SpendLimits 𝕜) (now : 𝕜) : GateStage 𝕜 → Option (SpendLimits 𝕜 × GateStage 𝕜)
  | .arrived =>
    match requireApiKey sha256Hex s r with
    | .ok keyId => some (limits, .atIp keyId none)
    | .error refusal => some (limits, .refused refusal)
  | .atIp keyId none => some (limits, .atIp keyId (some now))
  | .atIp keyId (some read) =>
    let answer := limits.perIp.allow (ipBucket r) read
    some ({ limits with perIp := answer.2 },
      if answer.1 then .atKey keyId read none else .refused rateExceeded)
  | .atKey keyId ipAt none => some (limits, .atKey keyId ipAt (some now))
  | .atKey keyId ipAt (some read) =>
    let answer := limits.perKey.allow (keyBucket keyId) read
    some ({ limits with perKey := answer.2 },
      if answer.1 then .atHour keyId ipAt read none else .refused rateExceeded)
  | .atHour keyId ipAt keyAt none => some (limits, .atHour keyId ipAt keyAt (some now))
  | .atHour keyId ipAt keyAt (some read) =>
    let answer := limits.hourly.tryAcquire read
    some ({ limits with hourly := answer.2 },
      if answer.1 then .passed keyId ipAt keyAt read else .refused hourlyReached)
  | .passed .. | .refused _ => none

/-- The time that the next step has read for the bucket of the address, if it takes its lock. -/
def GateStage.ipRead? : GateStage 𝕜 → Option 𝕜
  | .atIp _ read => read
  | .arrived | .atKey .. | .atHour .. | .passed .. | .refused _ => none

/-- The time that the next step has read for the bucket of the key. -/
def GateStage.keyRead? : GateStage 𝕜 → Option 𝕜
  | .atKey _ _ read => read
  | .arrived | .atIp .. | .atHour .. | .passed .. | .refused _ => none

/-- The time that the next step has read for the hourly cap. -/
def GateStage.hourRead? : GateStage 𝕜 → Option 𝕜
  | .atHour _ _ _ read => read
  | .arrived | .atIp .. | .atKey .. | .passed .. | .refused _ => none

/-- The next step of the request with this number, at this time. -/
def gateStep (sha256Hex : List UInt8 → String) (s : ApiSettings) (requests : Nat → ApiRequest)
    (g : Gate 𝕜) (l : Nat × 𝕜) : Option (Gate 𝕜) :=
  (enforceSpendLimits sha256Hex s (requests l.1) g.limits l.2 (g.stage l.1)).map fun after =>
    { limits := after.1
      stage := Function.update g.stage l.1 after.2
      now := l.2
      ipTime := (g.stage l.1).ipRead?.getD g.ipTime
      keyTime := (g.stage l.1).keyRead?.getD g.keyTime
      hourTime := (g.stage l.1).hourRead?.getD g.hourTime }

/-- The clock does not go back. -/
def OnTime (g : Gate 𝕜) (l : Nat × 𝕜) : Prop := g.now ≤ l.2

instance (g : Gate 𝕜) (l : Nat × 𝕜) : Decidable (OnTime g l) :=
  inferInstanceAs (Decidable (g.now ≤ l.2))

/-- The requests come to each lock in the order in which they have read the clock for it. -/
def InOrder (g : Gate 𝕜) (l : Nat × 𝕜) : Prop :=
  (∀ read ∈ (g.stage l.1).ipRead?, g.ipTime ≤ read) ∧
    (∀ read ∈ (g.stage l.1).keyRead?, g.keyTime ≤ read) ∧
    ∀ read ∈ (g.stage l.1).hourRead?, g.hourTime ≤ read

instance (g : Gate 𝕜) (l : Nat × 𝕜) : Decidable (InOrder g l) :=
  inferInstanceAs (Decidable (_ ∧ _ ∧ _))

end AitpPlayground.Api
