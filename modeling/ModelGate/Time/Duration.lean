/-!
# Durations

Spans of time, and points of a clock that starts at zero, are counted in nanoseconds.
-/

namespace ModelGate

/-- A span of time in nanoseconds. -/
abbrev Duration := Nat

namespace Duration

/-- A number of seconds. -/
def ofSeconds (n : Nat) : Duration :=
  n * 1000000000

/-- A number of milliseconds. -/
def ofMillis (n : Nat) : Duration :=
  n * 1000000

/-- The whole seconds of a span. -/
def seconds (d : Duration) : Nat :=
  d / 1000000000

/-- The nanoseconds of a span beyond its whole seconds. -/
def subsecond (d : Duration) : Nat :=
  d % 1000000000

/-- The longest span that can be represented: 64-bit seconds and their fraction. -/
def longest : Duration :=
  UInt64.size * 1000000000 - 1

/-- The digits of a fraction with a number of places, without its trailing zeros. -/
def fractionDigits (places n : Nat) : String :=
  let digits := (toString n).toList
  let padded := List.replicate (places - digits.length) '0' ++ digits
  String.ofList (padded.reverse.dropWhile (· == '0')).reverse

/-- A number of units with a fraction, which is left out when it is zero. -/
def inUnits (whole places fraction : Nat) (unit : String) : String :=
  let point := if fraction = 0 then "" else "." ++ fractionDigits places fraction
  toString whole ++ point ++ unit

/-- The text of a span in the largest unit of which it holds a whole one. -/
def text (d : Duration) : String :=
  if 1000000000 ≤ d then inUnits (d / 1000000000) 9 (d % 1000000000) "s"
  else if 1000000 ≤ d then inUnits (d / 1000000) 6 (d % 1000000) "ms"
  else if 1000 ≤ d then inUnits (d / 1000) 3 (d % 1000) "µs"
  else inUnits d 0 0 "ns"

end Duration

end ModelGate
