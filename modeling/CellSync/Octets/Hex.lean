/-
Hexadecimal text: two lowercase digits a byte on the way out, either
case on the way in.
-/
import CellSync.Octets

namespace CellSync.Hex

/-- The lowercase digit of a number below sixteen. -/
def digit (d : Nat) : Char := "0123456789abcdef".toList.getD d '0'

/-- The value of a hexadecimal digit of either case. -/
def value? (c : Char) : Option Nat :=
  if '0' ≤ c ∧ c ≤ '9' then some (c.toNat - '0'.toNat)
  else if 'a' ≤ c ∧ c ≤ 'f' then some (c.toNat - 'a'.toNat + 10)
  else if 'A' ≤ c ∧ c ≤ 'F' then some (c.toNat - 'A'.toNat + 10)
  else none

/-- Two digits for each byte. -/
def encodeBytes (bs : List UInt8) : String :=
  String.ofList (bs.flatMap fun b => [digit (b.toNat / 16), digit (b.toNat % 16)])

/-- Two digits for each byte, from the array form. -/
def encode (bs : ByteArray) : String := encodeBytes bs.data.toList

/-- The bytes that an even number of hexadecimal digits spell. -/
def decodeChars? : List Char → Option (List UInt8)
  | [] => some []
  | [_] => none
  | hi :: lo :: rest => do
      let h ← value? hi
      let l ← value? lo
      let bytes ← decodeChars? rest
      pure (UInt8.ofNat (16 * h + l) :: bytes)

/-- The bytes of a hexadecimal text. -/
def decode? (text : String) : Option (List UInt8) := decodeChars? text.toList

/-- Whether a text holds lowercase hexadecimal digits only. -/
def isLower (text : String) : Bool :=
  text.toList.all fun c => ('0' ≤ c ∧ c ≤ '9') ∨ ('a' ≤ c ∧ c ≤ 'f')

/-- A word as `0x` and sixteen digits. -/
def word (w : UInt64) : String :=
  "0x" ++ String.ofList ((digits 16 16 w.toNat).map digit)

/-- A byte as `0x` and two digits. -/
def byte (b : UInt8) : String := "0x" ++ encodeBytes [b]

end CellSync.Hex

namespace CellSync.Octets

/-- The hexadecimal text of an identifier. -/
def toHex {n : Nat} (a : Octets n) : String := Hex.encodeBytes a.toBytes

/-- The identifier of exactly `n` bytes that a hexadecimal text of either
case spells. -/
def ofHex? {n : Nat} (text : String) : Option (Octets n) :=
  (Hex.decode? text).bind ofBytes?

end CellSync.Octets
