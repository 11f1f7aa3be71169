/-
Sets of code points given as ranges.

The properties of a character that this library looks at are tables of
ranges, both ends included, in modules of their own.
-/
namespace CellSync.Text

/-- Whether a code point lies in one of the ranges. -/
def inRanges (ranges : List (Nat × Nat)) (n : Nat) : Bool :=
  ranges.any fun (first, last) => first ≤ n && n ≤ last

end CellSync.Text
