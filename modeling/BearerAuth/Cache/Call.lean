import BearerAuth.Cache.Key
import BearerAuth.Error
import BearerAuth.Json.Value
import BearerAuth.Time.Instant

/-! # What is asked of a session cache

The cache keeps bytes for a time under a key in an area. Areas may nest: the key in an area and the
area's own name make one text, parted by a colon, and all keys of an area can be dropped at once.
-/

namespace BearerAuth

open BearerAuth.Time

/-- A request to the session cache. -/
inductive CacheCall where
  /-- The value under a key, if there is a live one. -/
  | get (area key : String)
  /-- Keeps a value for a time, in place of an earlier one. -/
  | set (area key : String) (ttl : Duration) (value : List UInt8)
  /-- Whether there is a live value. -/
  | holds (area key : String)
  /-- Drops a value. -/
  | evict (area key : String)
  /-- Drops all values in an area, and counts them. -/
  | evictArea (area : String)
deriving DecidableEq, Repr

namespace CacheCall

/-- What a request is answered with. -/
def Answer : CacheCall → Type
  | get .. => Option (List UInt8)
  | set .. => Unit
  | holds .. => Bool
  | evict .. => Unit
  | evictArea .. => Nat

/-- Keeps a value as JSON. -/
def setJson (area key : String) (ttl : Duration) (value : Json.Value) : CacheCall :=
  set area key ttl (Text.utf8 value.compact)

end CacheCall

/-- A value that was kept as JSON. -/
def decodeCached {α : Type} (reader : Json.Reader α) (bytes : List UInt8) : Except CacheError α :=
  match reader.run bytes with
  | some a => .ok a
  | none => .error (.serialization "the stored value has another form")

end BearerAuth
