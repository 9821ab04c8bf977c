import BearerAuth.Time.DurationText
import BearerAuth.Token.Signed

/-! # Settings of sessions -/

namespace BearerAuth

open BearerAuth.Time

/-- How tokens are issued, how long accounts are remembered, and how long a call may take. -/
structure SessionConfig where
  tokens : TokenConfig
  clientCacheTtl : Duration
  userCacheTtl : Duration
  operationTimeout : Duration
deriving DecidableEq, Repr

namespace SessionConfig

/-- Clients are remembered for an hour, users for five minutes, and a call may take two seconds. -/
def default : SessionConfig := ⟨.default, .ofSeconds 3600, .ofSeconds 300, .ofSeconds 2⟩

/-- The settings without the secret, for reports. -/
def describe (c : SessionConfig) : String :=
  "SessionConfig \x7b tokens: " ++ c.tokens.describe ++ ", client_cache_ttl: " ++
    c.clientCacheTtl.text ++ ", user_cache_ttl: " ++ c.userCacheTtl.text ++
    ", operation_timeout: " ++ c.operationTimeout.text ++ " \x7d"

end SessionConfig

end BearerAuth
