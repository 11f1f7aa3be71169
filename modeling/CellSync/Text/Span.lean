/-
Spans of time in text.

A span is a count of nanoseconds. It is shown in the largest unit that
gives a whole part, with as many decimals as it needs.
-/
import CellSync.Digits

namespace CellSync.Text

/-- The decimals of `rest` in a unit of `10 ^ places`, without trailing zeros. -/
def decimals (places rest : Nat) : String :=
  let ds := ((digits 10 places rest).reverse.dropWhile (· == 0)).reverse
  if ds.isEmpty then "" else "." ++ String.join (ds.map toString)

/-- A count in a unit of `10 ^ places`, followed by the unit's sign. -/
def inUnit (places : Nat) (sign : String) (n : Nat) : String :=
  toString (n / Nat.pow 10 places) ++ decimals places (n % Nat.pow 10 places) ++ sign

/-- A span of so many nanoseconds. -/
def span (nanos : Nat) : String :=
  if 1000000000 ≤ nanos then inUnit 9 "s" nanos
  else if 1000000 ≤ nanos then inUnit 6 "ms" nanos
  else if 1000 ≤ nanos then inUnit 3 "µs" nanos
  else inUnit 0 "ns" nanos

end CellSync.Text
