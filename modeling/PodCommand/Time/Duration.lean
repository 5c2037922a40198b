import PodCommand.Text.Digits

namespace PodCommand

/-- A span of time, counted in nanoseconds. -/
structure Duration where
  nanos : Nat
  deriving DecidableEq, Repr, Inhabited

namespace Duration

/-!
Spans of time and their text: a decimal number in the largest of the units s, ms, µs and ns in
which the span has a whole part, without zeros at the end of the fraction.
-/

/-- Nanoseconds in one second. -/
def nanosPerSecond : Nat := 1000000000

/-- A number of whole seconds. -/
def ofSeconds (seconds : Nat) : Duration := ⟨seconds * nanosPerSecond⟩

/-- A number of whole milliseconds. -/
def ofMillis (millis : Nat) : Duration := ⟨millis * 1000000⟩

/-- The whole seconds in a span. -/
def seconds (duration : Duration) : Nat := duration.nanos / nanosPerSecond

/-- A unit in which a span can be written: its name, and the decimal places of a nanosecond in
it. -/
structure TimeUnit where
  name : String
  places : Nat
  deriving DecidableEq, Repr

/-- The largest unit in which the span has a whole part; nanoseconds for the empty span. -/
def unit (duration : Duration) : TimeUnit :=
  if 1000000000 ≤ duration.nanos then ⟨"s", 9⟩
  else if 1000000 ≤ duration.nanos then ⟨"ms", 6⟩
  else if 1000 ≤ duration.nanos then ⟨"µs", 3⟩
  else ⟨"ns", 0⟩

/-- The digits of a fraction with the given number of decimal places, without zeros at its end. -/
def fraction (places value : Nat) : List Char :=
  (((Text.padLeft places (Nat.toDigits 10 value)).reverse.dropWhile (· == '0'))).reverse

/-- A count of the last of so many decimal places, written with a point. -/
def decimal (places count : Nat) : List Char :=
  let whole := Nat.toDigits 10 (count / Nat.pow 10 places)
  let rest := count % Nat.pow 10 places
  if rest = 0 then whole else whole ++ '.' :: fraction places rest

/-- The text of a span, such as `1.5s`, `30ms` or `0ns`. -/
def text (duration : Duration) : String :=
  String.ofList (decimal duration.unit.places duration.nanos ++ duration.unit.name.toList)

end Duration
end PodCommand
