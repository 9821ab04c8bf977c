import BearerAuth.Cache.Pattern
import BearerAuth.Decimal.Literal

/-! # A session cache on a server

Programs that share a server see the same entries, and the server drops what has expired. A command
is a list of byte strings; every request takes one command, but an area is dropped batch by batch.
-/

namespace BearerAuth

open BearerAuth.Time

/-- What a server replies to a command. -/
inductive Reply where
  | nothing
  | number (n : Int)
  | status (text : String)
  | text (bytes : List UInt8)
  | list (items : List Reply)
  | error (reason : String)
deriving Repr, Inhabited

/-- A command and its arguments. -/
abbrev Command := List (List UInt8)

/-- A server: it replies to each command, or hangs up. -/
structure Server (σ : Type) where
  reply : Command → σ → Option Reply × σ

/-- Where the cache server is, and which keys on it are ours. -/
structure RemoteConfig where
  url : String := "redis://localhost:6379"
  keyspace : String := "session-kernel"
deriving DecidableEq, Repr

namespace Remote

/-- The name of this kind of cache. -/
def name : String := "redis"

/-- How many keys the server is asked to look at for one batch. -/
def batchSize : Nat := 100

/-- The most milliseconds a server can be asked to keep a value. -/
def longestTtl : Nat := 18446744073709551615

/-- A number as an argument. -/
def argument (n : Nat) : List UInt8 := Text.utf8 (String.ofList (Nat.toDigits 10 n))

/-- The bytes of a key on the server. -/
def keyArgument (config : RemoteConfig) (area key : String) : List UInt8 :=
  Text.utf8 (Pattern.spaced config.keyspace (cacheKey area key))

/-- Keeps a value. Servers refuse a time of nothing, so one millisecond is the least. -/
def setCommand (config : RemoteConfig) (area key : String) (ttl : Duration) (value : List UInt8) :
    Command :=
  [Text.utf8 "SET", keyArgument config area key, value, Text.utf8 "PX",
    argument (max 1 (min ttl.millis longestTtl))]

/-- Asks for a batch of the keys of an area, from where the last batch ended. -/
def scanCommand (config : RemoteConfig) (area : String) (cursor : Nat) : Command :=
  [Text.utf8 "SCAN", argument cursor, Text.utf8 "MATCH",
    Text.utf8 (String.ofList (Pattern.ofArea config.keyspace area)), Text.utf8 "COUNT",
    argument batchSize]

/-! ## Replies -/

/-- The server's answer was of no use. -/
def unusable : CacheError := .backend "response was of incompatible type"

/-- The text of a reply. -/
def Reply.text? : Reply → Option String
  | .text bytes => Text.ofUtf8? bytes
  | .status text => some text
  | .number n => some (toString n)
  | _ => none

/-- The count in a reply. Counts are 64-bit words, and so a negative number is a large one. -/
def Reply.count? : Reply → Option Nat
  | .number n => some (n % 18446744073709551616).toNat
  | .list _ | .nothing | .error _ => none
  | r => do
    match Decimal.whole (← Reply.text? r).toList with
    | .ok n => some n
    | .error _ => none

/-- The value in a reply, or that there is none. -/
def Reply.value? : Reply → Option (Option (List UInt8))
  | .nothing => some none
  | .text bytes => some (some bytes)
  | _ => none

/-- The keys in a reply. -/
def Reply.keys? : Reply → Option (List String)
  | .list items => items.mapM Reply.text?
  | .text bytes => (Text.ofUtf8? bytes).map ([·])
  | .nothing => some []
  | _ => none

/-- A batch of keys, and where the next one begins; nowhere if that is zero. -/
def Reply.batch? : Reply → Option (Nat × List String)
  | .list [cursor, keys] => do return (← Reply.count? cursor, ← Reply.keys? keys)
  | _ => none

/-! ## Requests -/

section

variable {σ α : Type} (server : Server σ) (config : RemoteConfig)

/-- Sends a command and reads the reply. -/
def ask (command : Command) (read : Reply → Option α) (s : σ) : Except CacheError α × σ :=
  match server.reply command s with
  | (none, s) => (.error (.backend "broken pipe"), s)
  | (some (.error reason), s) => (.error (.backend reason), s)
  | (some reply, s) =>
    match read reply with
    | some a => (.ok a, s)
    | none => (.error unusable, s)

/-- Drops keys batch by batch, until the server has come round. A server that does not within that
many batches has failed. -/
def dropBatches (area : String) : Nat → Nat → Nat → σ → Except CacheError Nat × σ
  | 0, _, _, s => (.error (.backend "the server found no end of keys"), s)
  | rounds + 1, cursor, dropped, s =>
    match ask server (scanCommand config area cursor) Reply.batch? s with
    | (.error e, s) => (.error e, s)
    | (.ok (next, keys), s) =>
      let (removed, s) :=
        if keys.isEmpty then (.ok 0, s)
        else ask server (Text.utf8 "DEL" :: keys.map Text.utf8) Reply.count? s
      match removed with
      | .error e => (.error e, s)
      | .ok removed =>
        if next = 0 then (.ok (dropped + removed), s)
        else dropBatches area rounds next (dropped + removed) s

/-- Answers a request with commands to the server. An area is dropped in up to `rounds` batches. -/
def perform (rounds : Nat) (s : σ) : (call : CacheCall) → Except CacheError call.Answer × σ
  | .get area key => ask server [Text.utf8 "GET", keyArgument config area key] Reply.value? s
  | .set area key ttl value =>
    ask server (setCommand config area key ttl value) (fun _ => some ()) s
  | .holds area key =>
    ask server [Text.utf8 "EXISTS", keyArgument config area key]
      (fun r => (Reply.count? r).map (decide <| 0 < ·)) s
  | .evict area key =>
    ask server [Text.utf8 "DEL", keyArgument config area key]
      (fun r => (Reply.count? r).map fun _ => ()) s
  | .evictArea area => dropBatches server config area rounds 0 0 s

end

end Remote

end BearerAuth
