import BearerAuth.Config.Basic
import BearerAuth.Config.Template
import BearerAuth.Yaml.Typed

/-! # Configuration from a file

A configuration file is YAML with references to the environment. Sections and settings that are not
there have their defaults; unknown ones are passed over.
-/

namespace BearerAuth.Config

open BearerAuth.Yaml

section

variable (d : Document)

def tokens? (node : Node) : Option Tokens := do
  let fields ← d.fields? ["secret", "access_ttl_secs", "refresh_ttl_secs"] node
  let absent : Tokens := {}
  return {
    secret := ← field fields "secret" absent.secret d.text?
    accessTtlSecs := ← field fields "access_ttl_secs" absent.accessTtlSecs d.nat?
    refreshTtlSecs := ← field fields "refresh_ttl_secs" absent.refreshTtlSecs d.nat? }

def sessions? (node : Node) : Option Sessions := do
  let fields ←
    d.fields? ["client_cache_ttl_secs", "user_cache_ttl_secs", "operation_timeout_ms"] node
  let absent : Sessions := {}
  return {
    clientCacheTtlSecs := ← field fields "client_cache_ttl_secs" absent.clientCacheTtlSecs d.nat?
    userCacheTtlSecs := ← field fields "user_cache_ttl_secs" absent.userCacheTtlSecs d.nat?
    operationTimeoutMs := ← field fields "operation_timeout_ms" absent.operationTimeoutMs d.nat? }

def redis? (node : Node) : Option RemoteConfig := do
  let fields ← d.fields? ["url", "namespace"] node
  let absent : RemoteConfig := {}
  return {
    url := ← field fields "url" absent.url d.text?
    keyspace := ← field fields "namespace" absent.keyspace d.text? }

def cache? (node : Node) : Option Cache := do
  let fields ← d.fields? ["backend", "redis"] node
  return {
    backend := ← field fields "backend" .memory (d.named? Backend.ofName?)
    redis := ← field fields "redis" none (d.optional? (redis? d)) }

def rateLimits? (node : Node) : Option RateLimits := do
  let fields ←
    d.fields? ["capacity", "refill_per_sec", "idle_timeout_secs", "sweep_interval_secs"] node
  let absent : RateLimits := {}
  return {
    capacity := ← field fields "capacity" absent.capacity d.float?
    refillPerSec := ← field fields "refill_per_sec" absent.refillPerSec d.float?
    idleTimeoutSecs := ← field fields "idle_timeout_secs" absent.idleTimeoutSecs d.nat?
    sweepIntervalSecs := ← field fields "sweep_interval_secs" absent.sweepIntervalSecs d.nat? }

def logs? (node : Node) : Option Logs := do
  let fields ← d.fields? ["level", "format"] node
  let absent : Logs := {}
  return {
    level := ← field fields "level" absent.level d.text?
    format := ← field fields "format" absent.format d.text? }

/-- The configuration that a document describes. -/
def ofDocument? : Option Config := do
  let fields ← d.fields? ["jwt", "session", "cache", "rate_limit", "logging"] d.root
  return {
    tokens := ← field fields "jwt" {} (tokens? d)
    sessions := ← field fields "session" {} (sessions? d)
    cache := ← field fields "cache" {} (cache? d)
    rateLimits := ← field fields "rate_limit" {} (rateLimits? d)
    logs := ← field fields "logging" {} (logs? d) }

end

/-- The configuration in a text, whose references are replaced before it is read as YAML. -/
def ofYaml (env : Environment) (text : String) : Except Error Config :=
  match document? (expand env text) >>= ofDocument? with
  | some config => .ok config
  | none => .error (.parse "Failed to parse YAML: not a configuration")

/-- The configuration in a file: its bytes, or why it cannot be read. -/
def ofFile (env : Environment) (file : Except String (List UInt8)) : Except Error Config :=
  let unreadable (reason : String) : Except Error Config :=
    .error (.fileRead ("Failed to read config file: " ++ reason))
  match file with
  | .error reason => unreadable reason
  | .ok bytes =>
    match Text.ofUtf8? bytes with
    | some text => ofYaml env text
    | none => unreadable "stream did not contain valid UTF-8"

end BearerAuth.Config
