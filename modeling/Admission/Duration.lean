/-!
# Durations

A span of time in whole nanoseconds. Its text uses the largest of the units second, millisecond,
microsecond and nanosecond that does not exceed it, with all the digits it has and no trailing
zeros.
-/

namespace Admission

/-- A span of time. -/
structure Duration where
  nanoseconds : Nat
deriving DecidableEq, Repr, Inhabited

namespace Duration

/-- Seconds and the nanoseconds beyond them. -/
def ofParts (seconds nanoseconds : Nat) : Duration :=
  ⟨seconds * 1000000000 + nanoseconds⟩

def ofMilliseconds (milliseconds : Nat) : Duration :=
  ⟨milliseconds * 1000000⟩

/-- Whole seconds. -/
def seconds (duration : Duration) : Nat :=
  duration.nanoseconds / 1000000000

/-- Nanoseconds beyond the last whole second. -/
def remainder (duration : Duration) : Nat :=
  duration.nanoseconds % 1000000000

/-- Whole milliseconds. -/
def milliseconds (duration : Duration) : Nat :=
  duration.nanoseconds / 1000000

/-- The first tick of a millisecond clock at which a span that began on a tick is over. -/
def ticks (duration : Duration) : Nat :=
  (duration.nanoseconds + 999999) / 1000000

/-- The longest time for which anybody pauses, in milliseconds: thirty years of 365 days. -/
def longestPause : Nat := 30 * 365 * 24 * 60 * 60 * 1000

def pause (milliseconds : Nat) : Nat :=
  min milliseconds longestPause

/-- Whether the span is empty. -/
def isZero (duration : Duration) : Bool :=
  duration.nanoseconds == 0

/-- A fraction of a unit as digits, padded to the unit's width and without trailing zeros. -/
def fractionDigits (width fraction : Nat) : List Char :=
  let digits := Nat.toDigits 10 fraction
  let padded := List.replicate (width - digits.length) '0' ++ digits
  (padded.reverse.dropWhile (· == '0')).reverse

/-- A number of units, of which `10 ^ width` parts make one, followed by the unit's name. -/
def inUnit (width : Nat) (unit : String) (parts : Nat) : String :=
  let whole := parts / Nat.pow 10 width
  let fraction := parts % Nat.pow 10 width
  if fraction = 0 then toString whole ++ unit
  else toString whole ++ "." ++ String.ofList (fractionDigits width fraction) ++ unit

/-- The text of a duration in the largest unit that does not exceed it. -/
def text (duration : Duration) : String :=
  let nanoseconds := duration.nanoseconds
  if 1000000000 ≤ nanoseconds then inUnit 9 "s" nanoseconds
  else if 1000000 ≤ nanoseconds then inUnit 6 "ms" nanoseconds
  else if 1000 ≤ nanoseconds then inUnit 3 "µs" nanoseconds
  else inUnit 0 "ns" nanoseconds

end Duration

end Admission
