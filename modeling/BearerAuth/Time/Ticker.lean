import BearerAuth.Time.Instant

/-! # Work in the background

A ticker does its work once in every period, first when one period has passed, until it is told to
stop. Waits end at whole milliseconds of a time that runs on its own, counted from any start. Of the
waits that end at the same millisecond the foreground's is the first to go on, so the work that is
due just when the foreground wakes up is done when it next gives way.
-/

namespace BearerAuth.Time

/-- The longest span that can still be added to the present, in seconds. The present is a signed
64-bit count of seconds of a clock that has been running for a day at the least. -/
def longestWait : Nat := 9223372036854775807 - 86400

/-- How long a wait goes on when it is too long to be counted: thirty years. -/
def farWait : Duration := .ofSeconds (30 * 365 * 86400)

/-- How many milliseconds a wait takes. A part of a millisecond counts as a whole one. -/
def waitMillis (span : Duration) : Nat :=
  let span := if longestWait < span.seconds then farWait else span
  (span.nanos + 999999) / 1000000

inductive TickerState where
  | running
  /-- It was told to stop. -/
  | finished
  /-- It never began. -/
  | failed
deriving DecidableEq, Repr

structure Ticker where
  period : Duration
  /-- When the work is done next. -/
  due : Duration
  state : TickerState
deriving DecidableEq, Repr

namespace Ticker

/-- Begins at that time. A period of nothing and one that cannot be waited for are failures. -/
def start (now period : Duration) : Ticker :=
  let possible := period ≠ .zero ∧ (now + period).seconds ≤ longestWait
  ⟨period, now + period, if possible then .running else .failed⟩

def isRunning (t : Ticker) : Bool := t.state = .running

/-- Tells the ticker to stop. -/
def stop (t : Ticker) : Ticker := if t.isRunning then { t with state := .finished } else t

/-- How often the work is done up to and including that time. -/
def ticksUntil (t : Ticker) (now : Duration) : Nat :=
  if t.isRunning ∧ t.due ≤ now then (now.nanos - t.due.nanos) / t.period.nanos + 1 else 0

/-- The ticker when its work has been done up to that time. -/
def waited (t : Ticker) (now : Duration) : Ticker :=
  { t with due := ⟨t.due.nanos + t.ticksUntil now * t.period.nanos⟩ }

end Ticker

/-- The tickers of a process, and how many milliseconds have passed. -/
structure Background where
  millis : Nat := 0
  tickers : List Ticker := []
deriving DecidableEq, Repr

namespace Background

/-- How often work is done up to and including that millisecond, and what is left for later. -/
def runUntil (b : Background) (millis : Nat) : Nat × Background :=
  let now := Duration.ofMillis millis
  (b.tickers.foldl (fun sofar ticker => sofar + ticker.ticksUntil now) 0,
    { b with tickers := b.tickers.map (·.waited now) })

/-- Gives way to the work that is due, then begins another ticker. -/
def spawn (b : Background) (period : Duration) : Nat × Background :=
  let (ticks, b) := b.runUntil b.millis
  (ticks, { b with tickers := b.tickers ++ [.start (.ofMillis b.millis) period] })

/-- Lets time pass. Work that falls due at its very end is not done in it. -/
def sleep (b : Background) (span : Duration) : Nat × Background :=
  let wake := b.millis + waitMillis span
  let (ticks, b) := b.runUntil (wake - 1)
  (ticks, { b with millis := wake })

/-- Tells every ticker to stop. -/
def stop (b : Background) : Background := { b with tickers := b.tickers.map (·.stop) }

/-- How many tickers are at work. -/
def running (b : Background) : Nat := (b.tickers.filter (·.isRunning)).length

end Background

end BearerAuth.Time
