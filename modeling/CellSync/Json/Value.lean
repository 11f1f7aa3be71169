/-
JSON documents as far as a reader has looked at them.

A document is checked for its shape first and for its meaning where it
is used. So a string whose escapes or bytes spell no text is kept as
`none`, which a reader that skips the value never notices, and a number
is kept as its digits. `isPlain` is the stricter test of a reader that
wants the whole document in memory: every string is text, every number
fits in double precision, and the nesting is bounded.
-/
import CellSync.Digits

namespace CellSync.Json

-- =============================================================== numbers

/-- A number as it is written: digits, decimals, and a power of ten. -/
structure Number where
  negative : Bool
  whole : List Nat
  decimals : List Nat
  exponent : Int
deriving DecidableEq

/-- The nearest multiple of a power of two with 53 leading bits; a tie goes to
the even one. -/
def roundToDouble (n : Nat) : Nat :=
  let unit := 1 <<< (n.log2 + 1 - 53)
  let low := n % unit
  let down := n - low
  if 2 * low < unit then down
  else if unit < 2 * low then down + unit
  else if down / unit % 2 = 0 then down else down + unit

/-- The least number that rounds to more than the largest double. -/
def doubleLimit : Nat := 1 <<< 1024 - 1 <<< 970

namespace Number

/-- Appends digits to a 64-bit significand while it does not overflow: the
significand, and the digits that found no place. -/
def gather (significand : Nat) : List Nat → Nat × List Nat
  | [] => (significand, [])
  | d :: rest =>
    if significand * 10 + d < 0x10000000000000000 then gather (significand * 10 + d) rest
    else (significand, d :: rest)

/-- The significand and the power of ten that a reader works with. Digits that
do not fit in 64 bits count for their place only. -/
def scaled (n : Number) : Nat × Int :=
  let (significand, extra) := gather 0 n.whole
  let (significand', unused) := gather significand n.decimals
  (significand', n.exponent + extra.length - (n.decimals.length - unused.length : Nat))

/-- Whether a number is too large for double precision. -/
def overflows (n : Number) : Bool :=
  let (significand, exponent) := n.scaled
  significand ≠ 0 &&
    (308 < exponent ||
      0 ≤ exponent &&
        doubleLimit ≤ roundToDouble significand * roundToDouble (Nat.pow 10 exponent.toNat))

end Number

-- ============================================================= documents

/-- A JSON value. -/
inductive Value where
  | null
  | bool (b : Bool)
  | number (n : Number)
  /-- A string, unless its bytes and escapes spell no text. -/
  | string (text : Option String)
  | array (items : List Value)
  | object (members : List (Option String × Value))

namespace Value

/-- Whether every string is text, every number fits in double precision, and
nothing is nested deeper than `depth` levels. -/
def isPlain : Nat → Value → Bool
  | _, null => true
  | _, bool _ => true
  | _, number n => !n.overflows
  | _, string text => text.isSome
  | 0, array _ => false
  | 0, object _ => false
  | depth + 1, array items => items.all (isPlain depth)
  | depth + 1, object members => members.all fun (key, v) => key.isSome && isPlain depth v

/-- The text of a string. -/
def text? : Value → Option String
  | string text => text
  | _ => none

/-- The items of an array. -/
def items? : Value → Option (List Value)
  | array items => some items
  | _ => none

/-- The member of a vocabulary that a value names: its name, or an object whose
one member has this name and the value null. -/
def member? {α : Type} (ofName : String → Option α) : Value → Option α
  | string text => text.bind ofName
  | object [(some key, null)] => ofName key
  | _ => none

end Value

-- =============================================================== members

/-- The members of an object. -/
abbrev Members := List (Option String × Value)

namespace Members

/-- The values under a name. -/
def valuesOf (members : Members) (name : String) : List Value :=
  members.filterMap fun (key, v) => if key = some name then some v else none

/-- The value under a name that must be there once. -/
def required (members : Members) (name : String) : Option Value :=
  match members.valuesOf name with
  | [v] => some v
  | _ => none

/-- The value under a name that may be there once. -/
def optional (members : Members) (name : String) : Option (Option Value) :=
  match members.valuesOf name with
  | [] => some none
  | [v] => some (some v)
  | _ => none

/-- Whether every key is text. -/
def keysAreText (members : Members) : Bool := members.all fun (key, _) => key.isSome

end Members

end CellSync.Json
