import BearerAuth.Cache.Call
import BearerAuth.Table

/-! # A session cache in memory

Values are kept with the instant they expire at. A value that has expired is not served; reading it
drops it, and the others are dropped by `purge`.
-/

namespace BearerAuth

open BearerAuth.Time

/-- A value and the last instant it is served at. -/
structure CacheEntry where
  value : List UInt8
  expiresAt : Instant
deriving DecidableEq

/-- The entry is past its time; at the very instant of its expiry it is not. -/
def CacheEntry.isExpired (e : CacheEntry) (now : Instant) : Bool := e.expiresAt < now

/-- The entries by their whole keys. -/
structure MemoryCache where
  entries : Table String CacheEntry

namespace MemoryCache

def empty : MemoryCache := ⟨.empty⟩

instance : Inhabited MemoryCache := ⟨empty⟩

/-- The name of this kind of cache. -/
def name : String := "memory"

/-- How many entries there are, expired ones too. -/
def size (c : MemoryCache) : Nat := c.entries.size

/-- When something kept for that time expires. -/
def expiry (now : Instant) (ttl : Duration) : Except CacheError Instant :=
  if Duration.longestSpan < ttl then
    .error (.backend "ttl out of range: Source duration value is out of range for the target type")
  else
    match now.add? ttl with
    | some expiresAt => .ok expiresAt
    | none => .error (.backend "ttl out of range")

/-- Keeps a value, unless no instant lies that far ahead. -/
def set (c : MemoryCache) (now : Instant) (area key : String) (ttl : Duration)
    (value : List UInt8) : Except CacheError MemoryCache := do
  let expiresAt ← expiry now ttl
  return ⟨c.entries.insert (cacheKey area key) ⟨value, expiresAt⟩⟩

/-- Drops a value. -/
def evict (c : MemoryCache) (area key : String) : MemoryCache :=
  ⟨c.entries.erase (cacheKey area key)⟩

/-- The live value under a key. An expired one is dropped. -/
def get (c : MemoryCache) (now : Instant) (area key : String) : Option (List UInt8) × MemoryCache :=
  match c.entries.get? (cacheKey area key) with
  | some entry => if entry.isExpired now then (none, c.evict area key) else (some entry.value, c)
  | none => (none, c)

/-- There is a live value under a key. -/
def holds (c : MemoryCache) (now : Instant) (area key : String) : Bool :=
  (c.entries.get? (cacheKey area key)).any (!·.isExpired now)

/-- Drops all values in an area, expired ones too, and counts them. -/
def evictArea (c : MemoryCache) (area : String) : Nat × MemoryCache :=
  let kept := c.entries.filter fun key _ => !liesIn area key
  (c.entries.size - kept.size, ⟨kept⟩)

/-- Drops all expired values, and counts them. -/
def purge (c : MemoryCache) (now : Instant) : Nat × MemoryCache :=
  let kept := c.entries.filter fun _ entry => !entry.isExpired now
  (c.entries.size - kept.size, ⟨kept⟩)

/-- Answers a request. -/
def perform (now : Instant) (c : MemoryCache) :
    (call : CacheCall) → Except CacheError call.Answer × MemoryCache
  | .get area key =>
    let (value, c) := c.get now area key
    (.ok value, c)
  | .set area key ttl value =>
    match c.set now area key ttl value with
    | .ok c => (.ok (), c)
    | .error e => (.error e, c)
  | .holds area key => (.ok (c.holds now area key), c)
  | .evict area key => (.ok (), c.evict area key)
  | .evictArea area =>
    let (count, c) := c.evictArea area
    (.ok count, c)

end MemoryCache

end BearerAuth
