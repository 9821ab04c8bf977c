import BearerAuth.Config.Basic
import BearerAuth.Config.Template
import BearerAuth.Decimal.Literal

/-! # Configuration from the environment

Without a file every setting may come from an environment variable of its own. Variables are read in
a fixed order, and the first one that cannot be read is reported.
-/

namespace BearerAuth.Config

/-- What the names of all variables begin with. -/
def variableStart : String := "SESSION_KERNEL_"

/-- The names of all variables, after what they begin with. -/
def variableNames : List String :=
  ["JWT_SECRET", "JWT_ACCESS_TTL_SECS", "JWT_REFRESH_TTL_SECS", "SESSION_CLIENT_CACHE_TTL_SECS",
    "SESSION_USER_CACHE_TTL_SECS", "SESSION_OPERATION_TIMEOUT_MS", "CACHE_BACKEND",
    "CACHE_REDIS_URL", "CACHE_REDIS_NAMESPACE", "RATE_LIMIT_CAPACITY", "RATE_LIMIT_REFILL_PER_SEC",
    "RATE_LIMIT_IDLE_TIMEOUT_SECS", "RATE_LIMIT_SWEEP_INTERVAL_SECS", "LOG_LEVEL", "LOG_FORMAT"]

namespace Environment

variable {α : Type} (env : Environment)

/-- The text of a variable. -/
def text (name absent : String) : String := (env (variableStart ++ name)).getD absent

/-- The value in a variable, blanks around it apart. -/
def value (read : String → Except String α) (name : String) (absent : α) : Except Error α :=
  match env (variableStart ++ name) with
  | none => .ok absent
  | some raw =>
    match read (Text.trim raw) with
    | .ok a => .ok a
    | .error reason => .error (.parse ("Invalid " ++ variableStart ++ name ++ ": " ++ reason))

/-- The whole number in a variable. -/
def whole (name : String) (absent : Nat) : Except Error Nat :=
  env.value (fun text => (Decimal.whole text.toList).mapError (·.message)) name absent

/-- The real number in a variable. -/
def real (name : String) (absent : Float) : Except Error Float :=
  env.value (fun text => (Decimal.real text.toList).mapError (·.message)) name absent

end Environment

/-- The server that the environment names, if it says anything about one. -/
def redisOfEnvironment (env : Environment) : Option RemoteConfig :=
  let url := env (variableStart ++ "CACHE_REDIS_URL")
  let keyspace := env (variableStart ++ "CACHE_REDIS_NAMESPACE")
  let absent : RemoteConfig := {}
  if url.isNone && keyspace.isNone then none
  else some ⟨url.getD absent.url, keyspace.getD absent.keyspace⟩

/-- The configuration in the environment. -/
def ofEnvironment (env : Environment) : Except Error Config := do
  let absent := Config.default
  let accessTtlSecs ← env.whole "JWT_ACCESS_TTL_SECS" absent.tokens.accessTtlSecs
  let refreshTtlSecs ← env.whole "JWT_REFRESH_TTL_SECS" absent.tokens.refreshTtlSecs
  let clientCacheTtlSecs ←
    env.whole "SESSION_CLIENT_CACHE_TTL_SECS" absent.sessions.clientCacheTtlSecs
  let userCacheTtlSecs ← env.whole "SESSION_USER_CACHE_TTL_SECS" absent.sessions.userCacheTtlSecs
  let operationTimeoutMs ←
    env.whole "SESSION_OPERATION_TIMEOUT_MS" absent.sessions.operationTimeoutMs
  let backend ← env.value Backend.ofText "CACHE_BACKEND" absent.cache.backend
  let capacity ← env.real "RATE_LIMIT_CAPACITY" absent.rateLimits.capacity
  let refillPerSec ← env.real "RATE_LIMIT_REFILL_PER_SEC" absent.rateLimits.refillPerSec
  let idleTimeoutSecs ← env.whole "RATE_LIMIT_IDLE_TIMEOUT_SECS" absent.rateLimits.idleTimeoutSecs
  let sweepIntervalSecs ←
    env.whole "RATE_LIMIT_SWEEP_INTERVAL_SECS" absent.rateLimits.sweepIntervalSecs
  return {
    tokens := ⟨env.text "JWT_SECRET" absent.tokens.secret, accessTtlSecs, refreshTtlSecs⟩
    sessions := ⟨clientCacheTtlSecs, userCacheTtlSecs, operationTimeoutMs⟩
    cache := ⟨backend, redisOfEnvironment env⟩
    rateLimits := ⟨capacity, refillPerSec, idleTimeoutSecs, sweepIntervalSecs⟩
    logs := ⟨env.text "LOG_LEVEL" absent.logs.level, env.text "LOG_FORMAT" absent.logs.format⟩ }

end BearerAuth.Config
