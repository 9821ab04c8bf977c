import BearerAuth.Proofs.Cache.Documented
import BearerAuth.Proofs.Cache.Entries
import BearerAuth.Proofs.Decimal.Digits

/-! # A small cache server

A server with room for a thousand keys, whose clock goes on by a millisecond with every command. It drops
what has run out before it obeys a command, gives all keys it is asked for in one batch, and refuses what it
does not understand or has no room for. It does what is documented of a cache server.
-/

namespace BearerAuth

open BearerAuth.Text

structure SmallServer where
  clock : Nat
  table : Table (List UInt8) Held
  fits : table.size ≤ 1000

namespace SmallServer

/-- What a command orders. -/
inductive Order where
  | get (key : List UInt8)
  | put (key value : List UInt8) (millis : Nat)
  | holds (key : List UInt8)
  | delete (keys : List (List UInt8))
  | scan (pattern : List UInt8)

/-- A number of 64 bits. -/
def number? (argument : List UInt8) : Option Nat := do
  match Decimal.whole (← ofUtf8? argument).toList with
  | .ok n => some n
  | .error _ => none

def Order.ofCommand? : Command → Option Order
  | [] => none
  | name :: arguments =>
    if name = utf8 "DEL" then some (.delete arguments)
    else
      match arguments with
      | [key] =>
        if name = utf8 "GET" then some (.get key)
        else if name = utf8 "EXISTS" then some (.holds key)
        else none
      | [key, value, _, millis] =>
        if name = utf8 "SET" then (number? millis).map (.put key value) else none
      | [_, _, pattern, _, _] => if name = utf8 "SCAN" then some (.scan pattern) else none
      | _ => none

/-- A millisecond later, without what has run out by then. -/
def tick (s : SmallServer) : SmallServer where
  clock := s.clock + 1
  table := s.table.filter fun _ h => !h.due (s.clock + 1)
  fits := Nat.le_trans (List.length_filter_le ..) s.fits

def obey (s : SmallServer) : Order → Reply × SmallServer
  | .get key => (((s.table.get? key).map (·.content)).getD .nothing, s)
  | .put key value millis =>
    if room : (s.table.insert key ⟨.text value, some (s.clock + millis)⟩).size ≤ 1000 then
      (.status "OK", ⟨s.clock, s.table.insert key ⟨.text value, some (s.clock + millis)⟩, room⟩)
    else (.error "OOM command not allowed when used memory > 'maxmemory'", s)
  | .holds key => (.number (if (s.table.get? key).isSome then 1 else 0), s)
  | .delete keys =>
    (.number ((s.table.rows.map Prod.fst).filter (· ∈ keys)).length,
      ⟨s.clock, s.table.filter fun key _ => key ∉ keys,
        Nat.le_trans (List.length_filter_le ..) s.fits⟩)
  | .scan pattern =>
    (Server.batch 0 ((s.table.rows.map Prod.fst).filter fun key => Glob.Matches pattern key), s)

def server : Server SmallServer :=
  ⟨fun command s =>
    match Order.ofCommand? command with
    | some order => (some (s.tick.obey order).1, (s.tick.obey order).2)
    | none => (some (.error "ERR unknown command"), s.tick)⟩

def view : Server.View SmallServer := ⟨clock, fun s key => s.table.get? key⟩

/-! ## What it does -/

variable {s s' : SmallServer} {reply : Option Reply}

theorem clock_obey (s : SmallServer) (order : Order) : (s.obey order).2.clock = s.clock := by
  cases order with
  | put key value millis =>
    simp only [obey]
    split <;> rfl
  | _ => rfl

/-- The time of a millisecond has come for what is dropped in it. -/
theorem stays_tick (s : SmallServer) (key : List UInt8) :
    Held.Stays (s.clock + 1) (view.held s key) (view.held s.tick key) := by
  have left : view.held s.tick key = (view.held s key).filter fun h => !h.due (s.clock + 1) :=
    s.table.get?_filter _ key
  rw [left]
  cases view.held s key with
  | none => exact .refl _ _
  | some h =>
    cases due : h.due (s.clock + 1) with
    | false =>
      left
      simp [Option.filter, due]
    | true =>
      right
      exact ⟨by simp [Option.filter, due], h, rfl, due⟩

/-- Of the keys that are held, those with a property. -/
theorem mem_filter_keys {p : List UInt8 → Prop} [DecidablePred p] {key : List UInt8} :
    key ∈ (s.table.rows.map Prod.fst).filter (fun key => p key) ↔ (view.held s key).isSome ∧ p key := by
  rw [List.mem_filter, decide_eq_true_eq]
  exact and_congr_left' Table.isSome_get?_iff.symm

theorem isSome_of_tick (s : SmallServer) {key : List UInt8} (held : (view.held s.tick key).isSome) :
    (view.held s key).isSome := by
  rcases s.stays_tick key with same | ⟨gone, -⟩
  · rwa [← same]
  · rw [gone] at held
    cases held

theorem reply_eq {command : Command} {order : Order} (understood : Order.ofCommand? command = some order)
    (replied : server.reply command s = (reply, s')) :
    reply = some (s.tick.obey order).1 ∧ s' = (s.tick.obey order).2 := by
  simp only [server, understood, Prod.mk.injEq] at replied
  exact ⟨replied.1.symm, replied.2.symm⟩

/-- Where an order changes nothing, time is all that passes. -/
theorem stays_of_obey {order : Order} (same : (s.tick.obey order).2 = s.tick)
    (after : s' = (s.tick.obey order).2) (key : List UInt8) : view.Stays s s' key := by
  rw [after, same]
  exact s.stays_tick key

@[simp] theorem ofCommand?_get (key : List UInt8) :
    Order.ofCommand? (.get key) = some (.get key) := by
  simp [Order.ofCommand?, Command.get, utf8_inj]

@[simp] theorem ofCommand?_holds (key : List UInt8) :
    Order.ofCommand? (.holds key) = some (.holds key) := by
  simp [Order.ofCommand?, Command.holds, utf8_inj]

@[simp] theorem ofCommand?_delete (keys : List (List UInt8)) :
    Order.ofCommand? (.delete keys) = some (.delete keys) := by
  simp [Order.ofCommand?, Command.delete]

@[simp] theorem ofCommand?_scan (cursor : Nat) (pattern : List UInt8) (count : Nat) :
    Order.ofCommand? (.scan cursor pattern count) = some (.scan pattern) := by
  simp [Order.ofCommand?, Command.scan, utf8_inj]

theorem ofCommand?_put (key value : List UInt8) {millis : Nat} (short : millis ≤ Remote.longestTtl) :
    Order.ofCommand? (.put key value millis) = some (.put key value millis) := by
  have read : number? (Remote.argument millis) = some millis := by
    simp only [number?, Remote.argument, ofUtf8?_utf8, String.toList_ofList, Option.bind_eq_bind,
      Option.bind_some, Decimal.whole_toDigits short]
  simp [Order.ofCommand?, Command.put, utf8_inj, read]

/-- Numbers are told apart by their digits. -/
theorem argument_inj {n m : Nat} (same : Remote.argument n = Remote.argument m) : n = m := by
  rw [Remote.argument, Remote.argument, utf8_inj, String.ofList_inj] at same
  have read := congrArg (Nat.ofDigitChars 10 · 0) same
  simpa only [Nat.ofDigitChars_ten_toDigits] using read

/-- All keys come in the first batch, so that no iteration goes on. -/
theorem not_onward {pattern : List UInt8} {count : Nat} {place next : Nat × SmallServer}
    {keys : List (List UInt8)} : ¬server.Onward pattern count place keys next := by
  intro onward
  induction onward with
  | batch replied more =>
    obtain ⟨same, -⟩ := reply_eq (ofCommand?_scan _ _ _) replied
    simp only [obey, Server.batch, Option.some.injEq, Reply.list.injEq, List.cons.injEq,
      Reply.text.injEq] at same
    exact more (argument_inj same.1)
  | delete _ _ _ ih => exact ih

/-! ## What is documented -/

theorem clock_le_reply (command : Command) (s : SmallServer) :
    s.clock ≤ (server.reply command s).2.clock := by
  simp only [server]
  cases Order.ofCommand? command with
  | none => exact Nat.le_succ _
  | some order =>
    rw [clock_obey]
    exact Nat.le_succ _

theorem reply_put {key value : List UInt8} {millis : Nat} (short : millis ≤ Remote.longestTtl)
    (replied : server.reply (.put key value millis) s = (reply, s')) :
    (∀ other, other ≠ key → view.Stays s s' other) ∧
      (reply = some (.status "OK") ∧
          view.held s' key = some ⟨.text value, some (view.clock s' + millis)⟩ ∨
        (∃ reason, reply = some (.error reason)) ∧ view.Stays s s' key) := by
  obtain ⟨rfl, after⟩ := reply_eq (ofCommand?_put key value short) replied
  by_cases room : (s.tick.table.insert key ⟨.text value, some (s.tick.clock + millis)⟩).size ≤ 1000
  · simp only [obey, dif_pos room] at after ⊢
    have found (other : List UInt8) : view.held s' other =
        if other = key then some ⟨.text value, some (s.tick.clock + millis)⟩
        else view.held s.tick other := by
      rw [after]
      exact s.tick.table.get?_insert _ _ _
    have clock : view.clock s' = s.tick.clock := by rw [after]; rfl
    constructor
    · intro other differs
      have stays := s.stays_tick other
      rwa [Server.View.Stays, clock, found, if_neg differs]
    · left
      rw [found, if_pos rfl, clock]
      exact ⟨trivial, rfl⟩
  · have same : (s.tick.obey (.put key value millis)).2 = s.tick := by simp only [obey, dif_neg room]
    refine ⟨fun other _ => stays_of_obey same after other, .inr ⟨?_, stays_of_obey same after key⟩⟩
    simp only [obey, dif_neg room]
    exact ⟨_, rfl⟩

theorem reply_delete {keys : List (List UInt8)} (replied : server.reply (.delete keys) s = (reply, s')) :
    (∀ key, key ∉ keys → view.Stays s s' key) ∧ (∀ key ∈ keys, view.held s' key = none) ∧
      ∃ removed : List (List UInt8), reply = some (.number removed.length) ∧
        removed.length ≤ 9223372036854775807 ∧ removed.Nodup ∧
        (∀ key ∈ removed, key ∈ keys ∧ (view.held s key).isSome) ∧
        ∀ key ∈ keys, key ∉ removed → view.Stays s s' key := by
  obtain ⟨rfl, after⟩ := reply_eq (ofCommand?_delete keys) replied
  have found (key : List UInt8) : view.held s' key =
      (view.held s.tick key).filter fun _ => key ∉ keys := by
    rw [after]
    exact s.tick.table.get?_filter _ key
  have clock : view.clock s' = s.tick.clock := by rw [after]; rfl
  have few : ((s.tick.table.rows.map Prod.fst).filter (· ∈ keys)).length ≤ 1000 := by
    apply Nat.le_trans (List.length_filter_le ..)
    rw [List.length_map]
    exact s.tick.fits
  refine ⟨?_, ?_, _, rfl, by omega, s.tick.table.distinct.filter _, ?_, ?_⟩
  · intro key outside
    have stays := s.stays_tick key
    have kept : view.held s' key = view.held s.tick key := by
      rw [found]
      cases view.held s.tick key <;> simp [Option.filter, outside]
    rwa [Server.View.Stays, clock, kept]
  · intro key member
    rw [found]
    cases view.held s.tick key <;> simp [Option.filter, member]
  · intro key member
    obtain ⟨held, inside⟩ := mem_filter_keys.mp member
    exact ⟨inside, s.isSome_of_tick held⟩
  · intro key member missed
    have none : view.held s.tick key = none := by
      rw [mem_filter_keys, and_iff_left member] at missed
      simpa using missed
    have stays := s.stays_tick key
    rw [none] at stays
    rw [Server.View.Stays, clock, found, none]
    exact stays

theorem reply_scan {cursor count : Nat} {pattern : List UInt8}
    (replied : server.reply (.scan cursor pattern count) s = (reply, s')) :
    ∃ keys, reply = some (Server.batch 0 keys) ∧
      (∀ key ∈ keys, Glob.Matches pattern key ∧ (view.held s key).isSome) ∧
      ∀ key, Glob.Matches pattern key → (view.held s' key).isSome → key ∈ keys := by
  obtain ⟨rfl, after⟩ := reply_eq (ofCommand?_scan cursor pattern count) replied
  refine ⟨_, rfl, ?_, ?_⟩
  · intro key member
    obtain ⟨held, hit⟩ := mem_filter_keys.mp member
    exact ⟨hit, s.isSome_of_tick held⟩
  · intro key hit held
    rw [after] at held
    exact mem_filter_keys.mpr ⟨held, hit⟩

theorem documented : server.Documented view where
  forward := clock_le_reply
  get {key s s' reply} replied := by
    obtain ⟨rfl, after⟩ := reply_eq (ofCommand?_get key) replied
    refine ⟨stays_of_obey rfl after, ?_⟩
    rw [after]
    rfl
  put _ short replied := reply_put short replied
  holds {key s s' reply} replied := by
    obtain ⟨rfl, after⟩ := reply_eq (ofCommand?_holds key) replied
    refine ⟨stays_of_obey rfl after, ?_⟩
    rw [after]
    rfl
  delete _ replied := reply_delete replied
  scan_stays {cursor pattern count s s' reply} _ replied := by
    obtain ⟨-, after⟩ := reply_eq (ofCommand?_scan cursor pattern count) replied
    exact stays_of_obey rfl after
  scan {pattern count start found cursor s s' reply} _ scanning replied := by
    cases scanning with
    | onward _ onward => exact absurd onward not_onward
    | begun =>
      obtain ⟨keys, same, there, all⟩ := reply_scan replied
      exact ⟨0, keys, by decide, same, there, fun _ => all⟩
  ends pattern count start _ := by
    constructor
    rintro next ⟨keys, onward⟩
    exact absurd onward not_onward

end SmallServer

end BearerAuth
