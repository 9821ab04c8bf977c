import BearerAuth.Cache.Remote
import BearerAuth.Proofs.Cache.Glob

/-! # What a cache server is documented to do

A server keeps a value under a key until a time that is given with it; when exactly it drops one whose time
has come is its own affair. Keys are looked for in an iteration of batches, each of which says where the next
one begins: keys that are there throughout are in one of the batches at least, some may be in several, a
batch may be empty, and the iteration comes to an end.
-/

namespace BearerAuth

open BearerAuth.Text

/-! ## Commands -/

namespace Command

def get (key : List UInt8) : Command := [utf8 "GET", key]

def put (key value : List UInt8) (millis : Nat) : Command :=
  [utf8 "SET", key, value, utf8 "PX", Remote.argument millis]

def holds (key : List UInt8) : Command := [utf8 "EXISTS", key]

def delete (keys : List (List UInt8)) : Command := utf8 "DEL" :: keys

def scan (cursor : Nat) (pattern : List UInt8) (count : Nat) : Command :=
  [utf8 "SCAN", Remote.argument cursor, utf8 "MATCH", pattern, utf8 "COUNT", Remote.argument count]

/-- The command is well-formed, and reads, changes or deletes nothing but keys of ours. -/
inductive Within (ours : List UInt8 → Prop) : Command → Prop
  | get {key : List UInt8} : ours key → Within ours (get key)
  | put {key value : List UInt8} {millis : Nat} : ours key → 0 < millis → millis ≤ Remote.longestTtl →
      Within ours (put key value millis)
  | holds {key : List UInt8} : ours key → Within ours (holds key)
  | delete {keys : List (List UInt8)} : keys ≠ [] → (∀ key ∈ keys, ours key) → Within ours (delete keys)
  | scan {cursor count : Nat} {pattern : List UInt8} : 0 < count →
      (∀ key, Glob.Matches pattern key → ours key) → Within ours (scan cursor pattern count)

end Command

/-! ## The server's side -/

/-- What a server holds under a key: what it replies to whoever asks for it, a value or that there is something
else, and the millisecond from which on it may let go of it, if there is one. -/
structure Held where
  content : Reply
  goes : Option Nat

/-- The time for it has come. -/
def Held.due (clock : Nat) (h : Held) : Bool := h.goes.any (· ≤ clock)

/-- What was held is held still, unless its time has come. -/
def Held.Stays (clock : Nat) (before after : Option Held) : Prop :=
  after = before ∨ after = none ∧ ∃ h, before = some h ∧ h.due clock = true

theorem Held.due_mono {clock later : Nat} {h : Held} (le : clock ≤ later) (due : h.due clock = true) :
    h.due later = true := by
  obtain ⟨content, _ | time⟩ := h
  · cases due
  · simp only [Held.due, Option.any_some, decide_eq_true_eq] at due ⊢
    omega

namespace Held.Stays

variable {clock : Nat} {before after : Option Held}

theorem refl (clock : Nat) (held : Option Held) : Held.Stays clock held held := .inl rfl

theorem trans {later : Nat} {last : Option Held} (first : Held.Stays clock before after)
    (le : clock ≤ later) (second : Held.Stays later after last) : Held.Stays later before last := by
  rcases first with rfl | ⟨rfl, h, held, came⟩
  · exact second
  · rcases second with rfl | ⟨rfl, -⟩ <;> exact .inr ⟨rfl, h, held, Held.due_mono le came⟩

/-- What is not due is held still. -/
theorem eq_of_lasting (stays : Held.Stays clock before after)
    (lasts : ∀ h, before = some h → h.due clock = false) : after = before := by
  rcases stays with same | ⟨-, h, held, came⟩
  · exact same
  · rw [lasts h held] at came
    cases came

end Held.Stays

namespace Server

variable {σ : Type}

/-- What the clock of a server says, in milliseconds, and what it holds. -/
structure View (σ : Type) where
  clock : σ → Nat
  held : σ → List UInt8 → Option Held

/-- From one state to another nothing has happened to a key but that its time may have come. -/
def View.Stays (view : View σ) (s s' : σ) (key : List UInt8) : Prop :=
  Held.Stays (view.clock s') (view.held s key) (view.held s' key)

/-- The reply that gives a batch of keys, and says where the next one begins. -/
def batch (next : Nat) (keys : List (List UInt8)) : Reply :=
  .list [.text (Remote.argument next), .list (keys.map .text)]

section

variable (server : Server σ) (pattern : List UInt8) (count : Nat)

/-- From one place of an iteration a batch of keys leads to the next one, whatever is deleted before the
iteration goes on. -/
inductive Onward : Nat × σ → List (List UInt8) → Nat × σ → Prop
  | batch {cursor next : Nat} {s s' : σ} {keys : List (List UInt8)} :
      server.reply (.scan cursor pattern count) s = (some (batch next keys), s') → next ≠ 0 →
        Onward (cursor, s) keys (next, s')
  | delete {place : Nat × σ} {next : Nat} {s s' : σ} {keys dropped : List (List UInt8)}
      {reply : Option Reply} : Onward place keys (next, s) → dropped ≠ [] →
        server.reply (.delete dropped) s = (reply, s') → Onward place keys (next, s')

/-- An iteration that began at a state has come to a place, with the keys of all batches up to there. -/
inductive Scanning (start : σ) : List (List UInt8) → Nat × σ → Prop
  | begun : Scanning start [] (0, start)
  | onward {found keys : List (List UInt8)} {place next : Nat × σ} : Scanning start found place →
      Onward server pattern count place keys next → Scanning start (found ++ keys) next

end

/-- The server does what is documented of the commands that a session cache sends. -/
structure Documented (server : Server σ) (view : View σ) : Prop where
  forward : ∀ command s, view.clock s ≤ view.clock (server.reply command s).2
  get : ∀ {key s s' reply}, server.reply (.get key) s = (reply, s') →
    (∀ other, view.Stays s s' other) ∧
      reply = some (((view.held s' key).map (·.content)).getD .nothing)
  /-- A value is put in place of an earlier one and its time, or refused. -/
  put : ∀ {key value millis s s' reply}, 0 < millis → millis ≤ Remote.longestTtl →
    server.reply (.put key value millis) s = (reply, s') →
      (∀ other, other ≠ key → view.Stays s s' other) ∧
        (reply = some (.status "OK") ∧ view.held s' key = some ⟨.text value, some (view.clock s' + millis)⟩ ∨
          (∃ reason, reply = some (.error reason)) ∧ view.Stays s s' key)
  holds : ∀ {key s s' reply}, server.reply (.holds key) s = (reply, s') →
    (∀ other, view.Stays s s' other) ∧
      reply = some (.number (if (view.held s' key).isSome then 1 else 0))
  /-- Keys are deleted, and those that were there are counted, each once, by a signed word. -/
  delete : ∀ {keys s s' reply}, keys ≠ [] → server.reply (.delete keys) s = (reply, s') →
    (∀ key, key ∉ keys → view.Stays s s' key) ∧ (∀ key ∈ keys, view.held s' key = none) ∧
      ∃ removed : List (List UInt8), reply = some (.number removed.length) ∧
        removed.length ≤ 9223372036854775807 ∧ removed.Nodup ∧
        (∀ key ∈ removed, key ∈ keys ∧ (view.held s key).isSome) ∧
        ∀ key ∈ keys, key ∉ removed → view.Stays s s' key
  scan_stays : ∀ {cursor pattern count s s' reply}, 0 < count →
    server.reply (.scan cursor pattern count) s = (reply, s') → ∀ key, view.Stays s s' key
  /-- A batch has only keys that match and were there, and when it is the last one, then whatever matches
  and is still there was in one of the batches. -/
  scan : ∀ {pattern count start found cursor s s' reply}, 0 < count →
    Scanning server pattern count start found (cursor, s) →
    server.reply (.scan cursor pattern count) s = (reply, s') →
      ∃ next keys, next ≤ 18446744073709551615 ∧ reply = some (batch next keys) ∧
        (∀ key ∈ keys, Glob.Matches pattern key ∧ (view.held start key).isSome) ∧
        (next = 0 → ∀ key, Glob.Matches pattern key → (view.held s' key).isSome → key ∈ found ++ keys)
  /-- No iteration goes on forever. -/
  ends : ∀ pattern {count} start, 0 < count →
    Acc (fun next place => ∃ keys, Onward server pattern count place keys next) (0, start)

/-! ## What passes between the two -/

/-- A command, with the server before and after it. -/
structure Exchange (σ : Type) where
  command : Command
  before : σ
  after : σ

/-- The server, with a record of what it was sent. -/
def recording (server : Server σ) : Server (σ × List (Exchange σ)) :=
  ⟨fun command s =>
    ((server.reply command s.1).1, (server.reply command s.1).2,
      s.2 ++ [⟨command, s.1, (server.reply command s.1).2⟩])⟩

/-- What is held under a key does not run out up to a later state. -/
def View.Lasting (view : View σ) (s s' : σ) (key : List UInt8) : Prop :=
  ∀ h, view.held s key = some h → h.due (view.clock s') = false

/-- No time has come for any of these keys at any of these exchanges. -/
def View.Calm (view : View σ) (ours : List UInt8 → Prop) (exchanges : List (Exchange σ)) : Prop :=
  ∀ x ∈ exchanges, ∀ key, ours key → view.Lasting x.before x.after key

/-- Where no time has come, what was held is held still. -/
theorem View.Stays.eq_of_lasting {view : View σ} {s s' : σ} {key : List UInt8}
    (stays : view.Stays s s' key) (lasting : view.Lasting s s' key) :
    view.held s' key = view.held s key :=
  Held.Stays.eq_of_lasting stays lasting

theorem View.Stays.shrinks {view : View σ} {s s' : σ} {key : List UInt8} (stays : view.Stays s s' key) :
    view.held s' key = none ∨ view.held s' key = view.held s key := by
  rcases stays with same | ⟨gone, -⟩
  · exact .inr same
  · exact .inl gone

namespace View.Calm

variable {view : View σ} {ours : List UInt8 → Prop} {exchanges more : List (Exchange σ)}

theorem append_iff : view.Calm ours (exchanges ++ more) ↔
    view.Calm ours exchanges ∧ view.Calm ours more := List.forall_mem_append

theorem singleton_iff {x : Exchange σ} : view.Calm ours [x] ↔
    ∀ key, ours key → view.Lasting x.before x.after key := List.forall_mem_singleton

end View.Calm

namespace Documented

variable {server : Server σ} {view : View σ} {ours : List UInt8 → Prop} {command : Command} {s s' : σ}
  {reply : Option Reply}

theorem clock_le (documented : Documented server view) (replied : server.reply command s = (reply, s')) :
    view.clock s ≤ view.clock s' := by
  have forward := documented.forward command s
  rwa [replied] at forward

/-- A command that touches nothing but keys of ours leaves the other ones as they are. -/
theorem stays_of_within (documented : Documented server view) (within : command.Within ours)
    (replied : server.reply command s = (reply, s')) {key : List UInt8} (foreign : ¬ours key) :
    view.Stays s s' key := by
  cases within with
  | get => exact (documented.get replied).1 key
  | holds => exact (documented.holds replied).1 key
  | put mine lasting short =>
    apply (documented.put lasting short replied).1 key
    rintro rfl
    exact foreign mine
  | @delete keys nonempty mine =>
    apply (documented.delete nonempty replied).1 key
    intro member
    exact foreign (mine key member)
  | scan counted => exact documented.scan_stays counted replied key

end Documented

end Server

end BearerAuth
