/-
Positional numerals of a fixed width, in both directions.

Identifiers are read as numbers whose digits stand most significant
first (`digits`, `ofDigits`); the words of a frame stand least
significant byte first (`leBytes`, `leValue`). One pair of functions
serves bytes, base-32 symbols and 64-bit words alike, so the order of a
number, of its bytes and of its text are facts about one definition.
-/
namespace CellSync

-- ============================================ most significant first

/-- The `width` digits of `value` in `base`, most significant first.
Digits above the width are cut off. -/
def digits (base : Nat) : Nat → Nat → List Nat
  | 0, _ => []
  | width + 1, value => digits base width (value / base) ++ [value % base]

/-- The number that a list of digits spells, most significant first. -/
def ofDigits (base : Nat) (ds : List Nat) : Nat :=
  ds.foldl (fun acc d => acc * base + d) 0

theorem length_digits (base width value : Nat) :
    (digits base width value).length = width := by
  induction width generalizing value with
  | zero => rfl
  | succ width ih => simp [digits, ih]

-- =========================================== least significant first

/-- The `width` bytes of `value`, least significant first. -/
def leBytes : Nat → Nat → List UInt8
  | 0, _ => []
  | width + 1, value => UInt8.ofNat value :: leBytes width (value / 256)

/-- The number that a list of bytes spells, least significant first. -/
def leValue : List UInt8 → Nat
  | [] => 0
  | b :: rest => b.toNat + 256 * leValue rest

theorem length_leBytes (width value : Nat) : (leBytes width value).length = width := by
  induction width generalizing value with
  | zero => rfl
  | succ width ih => simp [leBytes, ih]

end CellSync
