import AitpPlayground.Lib.Calls
import AitpPlayground.Lib.Dict
import Mathlib.Algebra.Order.Field.Basic

/-!
# `AitpPlayground.Limits`: the rate limiter and the rolling cap

`TokenBucket` and `RollingCap` (`src/aitp_playground/limits.py`) are the two limits on the
routes that spend credit. Each method reads the clock, and then works under the lock. A call is
the part under the lock here, and the time that was read before is an argument.

The arithmetic is exact: numbers are elements of an ordered field, for which ℚ stands where
something is evaluated.
-/

set_option autoImplicit false

namespace AitpPlayground

open AitpPlayground.Lib

variable {𝕜 : Type} [Field 𝕜] [LinearOrder 𝕜]

/-- `_PRUNE_ABOVE`: above this many keys the full buckets are dropped. -/
def pruneAbove : Int := 10000

/-- `burst` tokens per key, refilled at `rate` per second. -/
structure TokenBucket (𝕜 : Type) where
  rate : 𝕜
  burst : Int
  /-- The tokens of a key, and when they were counted. -/
  buckets : Dict String (𝕜 × 𝕜)

namespace TokenBucket

/-- `TokenBucket(rate_per_sec=…, burst=…)`. -/
def new (ratePerSec : 𝕜) (burst : Int) : TokenBucket 𝕜 :=
  { rate := ratePerSec, burst := max 1 burst, buckets := .empty }

/-- `_prune`. -/
def prune (b : TokenBucket 𝕜) (now : 𝕜) : TokenBucket 𝕜 :=
  { b with buckets := b.buckets.filter fun _ v =>
      !decide ((b.burst : 𝕜) ≤ v.1 + (now - v.2) * b.rate) }

/-- The body of `allow` without its last test, which prunes. -/
def allowWithoutPruning (b : TokenBucket 𝕜) (key : String) (now : 𝕜) : Bool × TokenBucket 𝕜 :=
  let (tokens, last) := (b.buckets.get? key).getD ((b.burst : 𝕜), now)
  let tokens := min (b.burst : 𝕜) (tokens + (now - last) * b.rate)
  let allowed := decide (1 ≤ tokens)
  let tokens := if allowed then tokens - 1 else tokens
  (allowed, { b with buckets := b.buckets.set key (tokens, now) })

/-- `allow`, with the number of keys above which it prunes. -/
def allow (b : TokenBucket 𝕜) (key : String) (now : 𝕜) (above : Int := pruneAbove) :
    Bool × TokenBucket 𝕜 :=
  let (allowed, b) := b.allowWithoutPruning key now
  (allowed, if above < b.buckets.size then b.prune now else b)

/-- The answers of a sequence of calls `allow(key)`, each with the time that it reads. -/
def answers (b : TokenBucket 𝕜) (above : Int) (calls : List (String × 𝕜)) : List Bool :=
  Lib.answers (fun b c => b.allow c.1 c.2 above) b calls

/-- The answers of the bucket that never prunes. -/
def answersWithoutPruning (b : TokenBucket 𝕜) (calls : List (String × 𝕜)) : List Bool :=
  Lib.answers (fun b c => b.allowWithoutPruning c.1 c.2) b calls

end TokenBucket

/-- At most `limit` acquisitions in any rolling `window`. -/
structure RollingCap (𝕜 : Type) where
  limit : Int
  window : 𝕜
  /-- The times of the acquisitions, the earliest first. -/
  stamps : List 𝕜

namespace RollingCap

/-- `RollingCap(limit=…, window_secs=…)`. -/
def new (limit : Int) (windowSecs : 𝕜) : RollingCap 𝕜 :=
  { limit, window := windowSecs, stamps := [] }

/-- `try_acquire`. -/
def tryAcquire (c : RollingCap 𝕜) (now : 𝕜) : Bool × RollingCap 𝕜 :=
  let stamps := c.stamps.dropWhile fun s => decide (c.window ≤ now - s)
  if c.limit ≤ stamps.length then (false, { c with stamps })
  else (true, { c with stamps := stamps ++ [now] })

/-- The answers of a sequence of calls, by the times that they read. -/
def answers (c : RollingCap 𝕜) (calls : List 𝕜) : List Bool := Lib.answers tryAcquire c calls

/-- The times of the acquisitions of a sequence of calls. -/
def acquired (c : RollingCap 𝕜) (calls : List 𝕜) : List 𝕜 := granted calls (c.answers calls)

end RollingCap

/-- The limits on the routes that spend credit. -/
structure SpendLimits (𝕜 : Type) where
  perIp : TokenBucket 𝕜
  perKey : TokenBucket 𝕜
  hourly : RollingCap 𝕜

/-- `SpendLimits(settings)`, by the three settings that it reads. -/
def SpendLimits.new (rateLimitPerMinute rateLimitBurst maxRunsPerHour : Int) : SpendLimits 𝕜 :=
  let rate : 𝕜 := (rateLimitPerMinute : 𝕜) / 60
  { perIp := .new rate rateLimitBurst
    perKey := .new rate rateLimitBurst
    hourly := .new maxRunsPerHour 3600 }

end AitpPlayground
