import PodCommand.Time.Duration

namespace PodCommand

/-- A point on the clock, counted in nanoseconds from the clock's start. -/
abbrev Instant := Nat

namespace Instant

/-!
Points on the clock.  The clock counts seconds in a signed word of 64 bits, so not every span can be
added to every point; timers go off at whole milliseconds.
-/

/-- The seconds that the clock can count. -/
def secondsLimit : Nat := 9223372036854775808

/-- The instant a span later, if the clock can count so far. -/
def add? (start : Instant) (span : Duration) : Option Instant :=
  if (start + span.nanos) / Duration.nanosPerSecond < secondsLimit then some (start + span.nanos)
  else none

/-- The first whole millisecond that is not before an instant. -/
def nextTick (instant : Instant) : Instant :=
  (instant + 999999) / 1000000 * 1000000

/-- The whole milliseconds before an instant. -/
def millis (instant : Instant) : Nat := instant / 1000000

end Instant
end PodCommand
