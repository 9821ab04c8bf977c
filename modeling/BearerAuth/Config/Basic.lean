import BearerAuth.Cache.Remote
import BearerAuth.Logging
import BearerAuth.RateLimit.Limiter
import BearerAuth.Session.Config

/-! # Configuration

What an operator can set, section by section. Every setting has a default, but the signing secret
has none that passes the check.
-/

namespace BearerAuth

open BearerAuth.Time

namespace Config

/-- How tokens are signed and how long they live. -/
structure Tokens where
  secret : String := ""
  accessTtlSecs : Nat := 900
  refreshTtlSecs : Nat := 604800
deriving DecidableEq, Repr

/-- How long accounts are remembered, and how long a call may take. -/
structure Sessions where
  clientCacheTtlSecs : Nat := 3600
  userCacheTtlSecs : Nat := 300
  operationTimeoutMs : Nat := 2000
deriving DecidableEq, Repr

/-- Where the session cache lives. -/
inductive Backend where
  | memory
  | redis
deriving DecidableEq, Repr

namespace Backend

def name : Backend → String
  | memory => "memory"
  | redis => "redis"

/-- The backend of exactly that name. -/
def ofName? : String → Option Backend
  | "memory" => some memory
  | "redis" => some redis
  | _ => none

/-- The backend of that name in any case. -/
def ofText (text : String) : Except String Backend :=
  match ofName? (Text.lower text) with
  | some backend => .ok backend
  | none => .error ("unknown cache backend: " ++ Text.lower text)

end Backend

/-- Which cache to use. -/
structure Cache where
  backend : Backend := .memory
  /-- The server, for a cache that lives on one. -/
  redis : Option RemoteConfig := none
deriving DecidableEq, Repr

/-- The size of buckets, how they refill, and when idle ones are forgotten. -/
structure RateLimits where
  capacity : Float := 20.0
  refillPerSec : Float := 5.0
  idleTimeoutSecs : Nat := 3600
  sweepIntervalSecs : Nat := 300

/-- What is logged, and how. -/
structure Logs where
  level : String := "info"
  format : String := "json"
deriving DecidableEq, Repr

/-- Why there is no configuration to work with. -/
inductive Error where
  | fileRead (reason : String)
  | parse (reason : String)
  | invalidValue (reason : String)
  | missingRequired (name : String)
deriving DecidableEq, Repr

def Error.message : Error → String
  | fileRead reason => "Failed to read configuration file: " ++ reason
  | parse reason => "Failed to parse configuration: " ++ reason
  | invalidValue reason => "Invalid configuration value: " ++ reason
  | missingRequired name => "Missing required configuration: " ++ name

/-- The least length of a signing secret in bytes. -/
def minSecretLength : Nat := 32

end Config

/-- Everything an operator can set. -/
structure Config where
  tokens : Config.Tokens := {}
  sessions : Config.Sessions := {}
  cache : Config.Cache := {}
  rateLimits : Config.RateLimits := {}
  logs : Config.Logs := {}

namespace Config

def default : Config := {}

instance : Inhabited Config := ⟨default⟩

/-- The settings of the rate limits are equal as numbers. -/
def RateLimits.same (a b : RateLimits) : Bool :=
  a.capacity == b.capacity && a.refillPerSec == b.refillPerSec &&
    a.idleTimeoutSecs == b.idleTimeoutSecs && a.sweepIntervalSecs == b.sweepIntervalSecs

/-- All settings are equal. Numbers are compared as numbers, so one that is none equals nothing. -/
def same (a b : Config) : Bool :=
  a.tokens == b.tokens && a.sessions == b.sessions && a.cache == b.cache && a.logs == b.logs &&
    a.rateLimits.same b.rateLimits

/-- Checks what the rest of the program relies on; the first fault is reported. -/
def validate (c : Config) : Except Error Unit := do
  if c.tokens.secret.isEmpty then throw (.missingRequired "jwt.secret")
  if (Text.utf8 c.tokens.secret).length < minSecretLength then
    throw (.invalidValue "jwt.secret must be at least 32 bytes")
  if c.tokens.accessTtlSecs = 0 ∨ c.tokens.refreshTtlSecs = 0 then
    throw (.invalidValue "jwt token ttls must be positive")
  if c.sessions.clientCacheTtlSecs = 0 ∨ c.sessions.userCacheTtlSecs = 0 then
    throw (.invalidValue "session cache ttls must be positive")
  if c.sessions.operationTimeoutMs = 0 then
    throw (.invalidValue "session.operation_timeout_ms must be positive")
  if c.cache.backend = .redis ∧ c.cache.redis.isNone then throw (.missingRequired "cache.redis")
  if c.rateLimits.capacity.isNaN ∨ c.rateLimits.capacity < 1.0 then
    throw (.invalidValue "rate_limit.capacity must be at least 1")
  if !c.rateLimits.refillPerSec.isFinite ∨ c.rateLimits.refillPerSec ≤ 0.0 then
    throw (.invalidValue "rate_limit.refill_per_sec must be positive")
  if c.rateLimits.idleTimeoutSecs = 0 ∨ c.rateLimits.sweepIntervalSecs = 0 then
    throw (.invalidValue "rate limit idle timeout and sweep interval must be positive")

/-- The settings that tokens are issued by. -/
def tokenConfig (c : Config) : TokenConfig :=
  ⟨c.tokens.secret, .ofSeconds c.tokens.accessTtlSecs, .ofSeconds c.tokens.refreshTtlSecs⟩

/-- The settings that sessions run by. -/
def sessionConfig (c : Config) : SessionConfig :=
  ⟨c.tokenConfig, .ofSeconds c.sessions.clientCacheTtlSecs, .ofSeconds c.sessions.userCacheTtlSecs,
    .ofMillis c.sessions.operationTimeoutMs⟩

/-- The settings that rates are limited by. -/
def rateLimitSettings (c : Config) : RateLimit.Settings Float :=
  ⟨c.rateLimits.capacity, c.rateLimits.refillPerSec, .ofSeconds c.rateLimits.idleTimeoutSecs,
    .ofSeconds c.rateLimits.sweepIntervalSecs⟩

end Config

end BearerAuth
