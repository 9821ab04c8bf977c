import BearerAuth.Proofs.Cache.Entries
import BearerAuth.Proofs.Token.Issued

/-! # How long a token lasts

The expiry of a token is the sum of two numbers of whole seconds, each rounded down. A token is issued exactly if
a lifetime has a whole second and the calendar holds that sum; it lasts for its lifetime then, less than two
seconds short, whatever the fractions, and before 1970 too. What is left of it at any reading is
exact, so that a marker which is kept for that time goes at the very instant of the expiry.
-/

namespace BearerAuth

open BearerAuth.Time

namespace Token

variable {id userId secret : String} {clientType : ClientType} {kind : TokenKind} {ttl : Duration}
  {now reading : Instant} {t : Token}

/-- The token lasts for its lifetime, as exactly as whole seconds can. -/
structure LastsFor (ttl : Duration) (now : Instant) (t : Token) : Prop where
  /-- The sum does not wrap. -/
  seconds : t.expiresAt.seconds = now.seconds + ttl.seconds
  whole : t.expiresAt.instant.nanos = t.expiresAt.seconds * 1000000000 ∧ t.expiresAt.inLeapSecond = false
  later : now < t.expiresAt.instant
  within : t.expiresAt.instant.nanos ≤ now.nanos + ttl.nanos
  /-- It is less than two seconds short. -/
  close : now.nanos + ttl.nanos - 2000000000 < t.expiresAt.instant.nanos
  remaining : 0 < (t.remaining now).nanos ∧ now.nanos + (t.remaining now).nanos = t.expiresAt.instant.nanos

/-- What is kept from that reading on for the time that the token has left is there as long as the token counts,
and not any longer. -/
def MarkedExactly (reading : Instant) (t : Token) : Prop :=
  ∀ (c : MemoryCache) (area key : String) (value : List UInt8), ∃ c',
    c.perform reading (.set area key (t.remaining reading) value) = (.ok (), c') ∧
      c'.lookup? (cacheKey area key) = some ⟨value, t.expiresAt.instant⟩ ∧
      ∀ later, c'.holds later area key = !t.isExpired later

/-- With a secret, a user and a client type, only the lifetime and the calendar can speak against a token. -/
theorem issue_eq (secretSet : secret.isEmpty = false) (userSet : userId.isEmpty = false)
    (typeSet : clientType.isEmpty = false) :
    issue id userId clientType kind secret ttl now =
      if ttl.seconds = 0 then .error (.validation "token ttl must be at least one second")
      else match now.addSeconds? ttl with
        | some expiresAt => .ok (signed id userId clientType kind secret now expiresAt)
        | none => .error (.validation "token ttl out of range") := by
  simp only [issue, expiry, secretSet, userSet, typeSet, Bool.false_eq_true, ↓reduceIte]
  split_ifs
  · rfl
  · cases now.addSeconds? ttl <;> rfl

theorem lastsFor_of_issue (issued : issue id userId clientType kind secret ttl now = .ok t) :
    t.LastsFor ttl now := by
  have ⟨whole, plain⟩ := (issuedAs_of_issue issued).expiresAt
  obtain ⟨expiresAt, found, rfl⟩ := issue_eq_ok_iff.mp issued
  obtain ⟨-, -, -, lasting, nanos⟩ := expiry_ok found
  have left := remaining_nanos plain now
  have instant : (signed id userId clientType kind secret now expiresAt).expiresAt.instant = expiresAt := rfl
  rw [instant] at whole left
  -- Both numbers of seconds are rounded down, so each is less than a second short.
  have floor : now.seconds = now.nanos / 1000000000 := rfl
  have floor' : ttl.seconds = ttl.nanos / 1000000000 := rfl
  refine ⟨by omega, ⟨whole, plain⟩, ?_, ?_, ?_, ?_⟩
  · change now.nanos < expiresAt.nanos
    omega
  · change expiresAt.nanos ≤ _
    omega
  · change _ < expiresAt.nanos
    omega
  · change _ ∧ _ = expiresAt.nanos
    omega

/-- What is kept for the time that a token has left expires with it. -/
theorem expiry_remaining (plain : t.expiresAt.inLeapSecond = false) (early : reading ≤ t.expiresAt.instant) :
    MemoryCache.expiry reading (t.remaining reading) = .ok t.expiresAt.instant := by
  have left := remaining_nanos plain reading
  have first := reading.inCalendar.1
  have last := t.expiresAt.instant.inCalendar.2
  change reading.nanos ≤ t.expiresAt.instant.nanos at early
  refine MemoryCache.expiry_eq_ok_iff.mpr ⟨?_, by omega⟩
  change (t.remaining reading).nanos ≤ 9223372036854775807 * 1000000
  omega

theorem markedExactly_of_plain (plain : t.expiresAt.inLeapSecond = false)
    (early : reading ≤ t.expiresAt.instant) : t.MarkedExactly reading := by
  intro c area key value
  have fits := expiry_remaining plain early
  have kept := c.lookup?_set area key (cacheKey area key) value fits
  rw [if_pos rfl] at kept
  refine ⟨_, Prod.ext ?_ rfl, kept, fun later => ?_⟩
  · rw [MemoryCache.perform_set, fits]
  · rw [Bool.eq_iff_iff, MemoryCache.holds_iff, kept]
    simp [isExpired_eq_decide plain, CacheEntry.isExpired]

/-- Whatever the lifetime and the reading, a token is issued exactly if the lifetime has a whole second and the
calendar holds the sum of the whole seconds, and is refused as invalid otherwise. A token that is
issued lasts for its lifetime, less than two seconds short, and so do its markers. -/
theorem lasts_exactly (id : String) (kind : TokenKind) (ttl : Duration) (now : Instant)
    (secretSet : secret.isEmpty = false) (userSet : userId.isEmpty = false)
    (typeSet : clientType.isEmpty = false) :
    ((∃ t, issue id userId clientType kind secret ttl now = .ok t) ↔
      1 ≤ ttl.seconds ∧ ∃ later : Instant, later.nanos = (now.seconds + ttl.seconds) * 1000000000) ∧
    ((¬∃ t, issue id userId clientType kind secret ttl now = .ok t) →
      issue id userId clientType kind secret ttl now = .error (.validation
        (if ttl.seconds = 0 then "token ttl must be at least one second" else "token ttl out of range"))) ∧
    ∀ t, issue id userId clientType kind secret ttl now = .ok t →
      t.LastsFor ttl now ∧ ∀ reading, reading ≤ t.expiresAt.instant → t.MarkedExactly reading := by
  refine ⟨?_, ?_, ?_⟩
  · simp only [← Instant.addSeconds?_eq_some_iff]
    rw [issue_eq secretSet userSet typeSet]
    split_ifs with short
    · simp [short]
    · cases now.addSeconds? ttl <;> simp [Nat.one_le_iff_ne_zero.mpr short]
  · rw [issue_eq secretSet userSet typeSet]
    split_ifs
    · exact fun _ => rfl
    · cases now.addSeconds? ttl with
      | none => exact fun _ => rfl
      | some later => exact fun refused => absurd ⟨_, rfl⟩ refused
  · intro t issued
    exact ⟨lastsFor_of_issue issued, fun _ => markedExactly_of_plain (issuedAs_of_issue issued).expiresAt.2⟩

/-- A token for a nanosecond less than two seconds that is issued in the last nanosecond of 1969 lasts for one
nanosecond. The longest lifetime that an unsigned word can count is refused, and does not wrap around. -/
theorem lasts_exactly_one_nanosecond :
    let now : Instant := ⟨-1, by decide⟩
    (∃ t, issue "id" "ann" ⟨"WEB"⟩ .access "key" (.ofParts 1 999999999) now = .ok t ∧
      t.expiresAt.instant = .epoch ∧ (t.remaining now).nanos = 1 ∧ t.MarkedExactly now) ∧
    issue "id" "ann" ⟨"WEB"⟩ .access "key" (.ofParts 18446744073709551615 999999999) now =
      .error (.validation "token ttl out of range") := by
  intro now
  have secretSet : "key".isEmpty = false := by decide
  have userSet : "ann".isEmpty = false := by decide
  have typeSet : ClientType.isEmpty ⟨"WEB"⟩ = false := by decide
  constructor
  · obtain ⟨issues, -, lasts⟩ :=
      lasts_exactly "id" .access (.ofParts 1 999999999) now secretSet userSet typeSet
    obtain ⟨t, issued⟩ := issues.mpr ⟨by decide, .epoch, by decide⟩
    obtain ⟨span, marked⟩ := lasts t issued
    have seconds : t.expiresAt.seconds = 0 := span.seconds
    have expires : t.expiresAt.instant = .epoch := by
      rw [← Option.some.injEq, ← Instant.ofNanos?_eq_some_iff.mpr span.whole.1, seconds]
      rfl
    refine ⟨t, issued, expires, ?_, marked now (Int.le_of_lt span.later)⟩
    have left : (-1 : Int) + (t.remaining now).nanos = t.expiresAt.instant.nanos := span.remaining.2
    rw [expires] at left
    change (-1 : Int) + _ = 0 at left
    omega
  · obtain ⟨issues, refused, -⟩ :=
      lasts_exactly "id" .access (.ofParts 18446744073709551615 999999999) now secretSet userSet typeSet
    refine refused fun issued => ?_
    obtain ⟨-, later, sum⟩ := issues.mp issued
    have last := later.inCalendar.2
    have total : (now.seconds + (Duration.ofParts 18446744073709551615 999999999).seconds : Int) =
        18446744073709551614 := by decide
    rw [total] at sum
    omega

end Token

end BearerAuth
