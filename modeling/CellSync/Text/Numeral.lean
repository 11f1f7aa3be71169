/-
Numbers in text.

Decimal digits spell a natural number; one plus sign may stand in front.
Where other text follows, the digits end at the first character that is
not one.
-/
import CellSync.Octets.Hex

namespace CellSync.Text

/-- The value of a digit in a base of at most sixteen. -/
def digit? (base : Nat) (c : Char) : Option Nat := (Hex.value? c).filter (· < base)

/-- The digits that some characters begin with, and the characters after them. -/
def digitsOf (base : Nat) (cs : List Char) : List Char × List Char :=
  (cs.takeWhile fun c => (digit? base c).isSome, cs.dropWhile fun c => (digit? base c).isSome)

/-- The number that some digits spell. -/
def spelled (base : Nat) (ds : List Char) : Nat := ofDigits base (ds.filterMap (digit? base))

/-- The number that decimal digits spell; there must be one at least. -/
def decimal? (cs : List Char) : Option Nat :=
  match digitsOf 10 cs with
  | (d :: ds, []) => some (spelled 10 (d :: ds))
  | _ => none

/-- The number below `bound` that a text spells. A plus sign may stand in
front. -/
def natural? (bound : Nat) (text : String) : Option Nat :=
  let number := match text.toList with
    | '+' :: cs => decimal? cs
    | cs => decimal? cs
  number.filter (· < bound)

end CellSync.Text
