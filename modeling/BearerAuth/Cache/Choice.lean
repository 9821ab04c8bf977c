import BearerAuth.Cache.Memory
import BearerAuth.Cache.Remote
import BearerAuth.Config.Basic

/-! # Choosing a session cache -/

namespace BearerAuth

/-- A session cache that is ready for use. -/
inductive CacheChoice where
  | memory (cache : MemoryCache)
  | remote (config : RemoteConfig)

namespace CacheChoice

def name : CacheChoice → String
  | memory _ => MemoryCache.name
  | remote _ => Remote.name

/-- The cache that a configuration asks for. A server has to be named and reached; the settings of
one that is not asked for do not matter. -/
def ofConfig (c : Config.Cache) (connect : RemoteConfig → Except CacheError Unit) :
    Except CacheError CacheChoice :=
  match c.backend, c.redis with
  | .memory, _ => .ok (memory .empty)
  | .redis, none => .error (.backend "redis backend selected without a redis section")
  | .redis, some config => do
    connect config
    return remote config

end CacheChoice

end BearerAuth
