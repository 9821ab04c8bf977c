import BearerAuth.Config.Basic
import BearerAuth.Text.Quoted

/-! # The text of a configuration

A configuration is shown setting by setting, one to a line, without the signing secret.
-/

namespace BearerAuth.Config

/-- The text with all lines but the first moved to the right. -/
def indented (text : String) : String :=
  String.ofList (text.toList.flatMap fun c => if c = '\n' then "\n    ".toList else [c])

/-- Named values below a heading, each ended by a comma. -/
def showRecord (heading : String) (fields : List (String × String)) : String :=
  let lines := fields.map fun (name, value) => "    " ++ indented (name ++ ": " ++ value) ++ ",\n"
  heading ++ " \x7b\n" ++ String.join lines ++ "\x7d"

/-- A value that may be missing. -/
def showOptional : Option String → String
  | none => "None"
  | some value => "Some(\n    " ++ indented value ++ ",\n)"

/-- A number in decimal digits. -/
def showNat (n : Nat) : String := String.ofList (Nat.toDigits 10 n)

def Tokens.describe (s : Tokens) : String :=
  showRecord "JwtConfig" [("secret", Text.reportQuote "<redacted>"),
    ("access_ttl_secs", showNat s.accessTtlSecs), ("refresh_ttl_secs", showNat s.refreshTtlSecs)]

def Sessions.describe (s : Sessions) : String :=
  showRecord "SessionSettings" [("client_cache_ttl_secs", showNat s.clientCacheTtlSecs),
    ("user_cache_ttl_secs", showNat s.userCacheTtlSecs),
    ("operation_timeout_ms", showNat s.operationTimeoutMs)]

def describeRemote (s : RemoteConfig) : String :=
  showRecord "RedisConfig"
    [("url", Text.reportQuote s.url), ("namespace", Text.reportQuote s.keyspace)]

def Backend.describe : Backend → String
  | memory => "Memory"
  | redis => "Redis"

def Cache.describe (s : Cache) : String :=
  showRecord "CacheConfig" [("backend", s.backend.describe),
    ("redis", showOptional (s.redis.map describeRemote))]

def RateLimits.describe (s : RateLimits) : String :=
  showRecord "RateLimitSettings" [("capacity", Decimal.text .report s.capacity),
    ("refill_per_sec", Decimal.text .report s.refillPerSec),
    ("idle_timeout_secs", showNat s.idleTimeoutSecs),
    ("sweep_interval_secs", showNat s.sweepIntervalSecs)]

def Logs.describe (s : Logs) : String :=
  showRecord "LoggingConfig"
    [("level", Text.reportQuote s.level), ("format", Text.reportQuote s.format)]

/-- All settings but the secret. -/
def describe (c : Config) : String :=
  showRecord "Config" [("jwt", c.tokens.describe), ("session", c.sessions.describe),
    ("cache", c.cache.describe), ("rate_limit", c.rateLimits.describe),
    ("logging", c.logs.describe)]

end BearerAuth.Config
