import BearerAuth.Decimal.Text
import BearerAuth.RateLimit.Quantity
import BearerAuth.Table
import BearerAuth.Time.DurationText

/-! # Rate limits

Every key has a bucket that holds up to `capacity` requests and refills at a steady rate. Refilling
happens when the key is next seen, so a bucket is its content and the time of that reckoning. A key
that was not seen before has a full bucket, which is why forgetting idle keys is harmless.
-/

namespace BearerAuth.RateLimit

open BearerAuth.Time

/-- The size of buckets, how they refill, and when idle ones are forgotten. -/
structure Settings (ν : Type) where
  capacity : ν
  /-- Requests per second. -/
  refillRate : ν
  idleTimeout : Duration
  sweepInterval : Duration

namespace Settings

/-- Bursts of twenty, five per second, forgotten after an hour, looked at every five minutes. -/
def default : Settings Float := ⟨20.0, 5.0, .ofSeconds 3600, .ofSeconds 300⟩

def describe (s : Settings Float) : String :=
  "RateLimitConfig \x7b capacity: " ++ Decimal.text .report s.capacity ++ ", refill_rate: " ++
    Decimal.text .report s.refillRate ++ ", idle_timeout: " ++ s.idleTimeout.text ++
    ", sweep_interval: " ++ s.sweepInterval.text ++ " \x7d"

end Settings

/-- The content of a bucket at the time it was last reckoned. -/
structure Bucket (ν : Type) where
  tokens : ν
  reckoned : Instant

section

variable {ν : Type} [Quantity ν]

namespace Bucket

/-- A full bucket. -/
def full (s : Settings ν) (now : Instant) : Bucket ν := ⟨s.capacity, now⟩

/-- Adds what has come in since the last reckoning. A clock that went back adds nothing. -/
def refill (b : Bucket ν) (s : Settings ν) (now : Instant) : Bucket ν :=
  let gained := Quantity.ofDuration (now.since b.reckoned) * s.refillRate
  ⟨Quantity.atMost (b.tokens + gained) s.capacity, now⟩

/-- Takes one request's worth, if there is that much. -/
def take (b : Bucket ν) : Bool × Bucket ν :=
  if Quantity.reachesOne b.tokens then (true, { b with tokens := b.tokens - Quantity.one })
  else (false, b)

/-- The key was not seen for longer than the timeout. -/
def isIdle (b : Bucket ν) (s : Settings ν) (now : Instant) : Bool :=
  s.idleTimeout < now.since b.reckoned

end Bucket

/-- The buckets of all keys seen. -/
structure Limiter (ν : Type) where
  settings : Settings ν
  buckets : Table String (Bucket ν)

namespace Limiter

def new (settings : Settings ν) : Limiter ν := ⟨settings, .empty⟩

/-- Whether a request of this key is admitted now. -/
def allow (l : Limiter ν) (key : String) (now : Instant) : Bool × Limiter ν :=
  let bucket := (l.buckets.get? key).getD (.full l.settings now)
  let (admitted, bucket) := (bucket.refill l.settings now).take
  (admitted, { l with buckets := l.buckets.insert key bucket })

/-- What the key's bucket held when it was last reckoned. -/
def tokens (l : Limiter ν) (key : String) : Option ν := (l.buckets.get? key).map (·.tokens)

/-- How many keys are remembered. -/
def trackedKeys (l : Limiter ν) : Nat := l.buckets.size

/-- Forgets idle keys, and says how many they were. -/
def sweep (l : Limiter ν) (now : Instant) : Nat × Limiter ν :=
  let kept := l.buckets.filter fun _ bucket => !bucket.isIdle l.settings now
  (l.buckets.size - kept.size, { l with buckets := kept })

end Limiter

end

def Limiter.describe (l : Limiter Float) : String :=
  "TokenBucketLimiter \x7b config: " ++ l.settings.describe ++ ", tracked_keys: " ++
    String.ofList (Nat.toDigits 10 l.trackedKeys) ++ " \x7d"

end BearerAuth.RateLimit
