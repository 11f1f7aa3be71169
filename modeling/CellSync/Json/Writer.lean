/-
Writing JSON, in the compact form.

A document is put together from the bytes of its parts. Strings escape
quotes, backslashes and control characters and keep every other byte.
-/
import CellSync.Bytes
import CellSync.Octets.Hex

namespace CellSync.Json

/-- The bytes of a text. -/
def plain (text : String) : List UInt8 := Bytes.list text.toUTF8

/-- How a byte of a string is written. -/
def escaped (b : UInt8) : List UInt8 :=
  match b.toNat with
  | 0x22 => [0x5c, 0x22]
  | 0x5c => [0x5c, 0x5c]
  | 0x08 => [0x5c, 0x62]
  | 0x0c => [0x5c, 0x66]
  | 0x0a => [0x5c, 0x6e]
  | 0x0d => [0x5c, 0x72]
  | 0x09 => [0x5c, 0x74]
  | _ => if b < 0x20 then plain ("\\u00" ++ Hex.encodeBytes [b]) else [b]

/-- A string. -/
def string (text : String) : List UInt8 :=
  0x22 :: (plain text).flatMap escaped ++ [0x22]

/-- A natural number. -/
def natural (n : Nat) : List UInt8 := plain (toString n)

/-- A value that may be missing. -/
def nullable {α : Type} (write : α → List UInt8) : Option α → List UInt8
  | none => plain "null"
  | some a => write a

/-- Parts with commas between them. -/
def separated (parts : List (List UInt8)) : List UInt8 := (parts.intersperse [0x2c]).flatten

/-- An array of parts. -/
def array (parts : List (List UInt8)) : List UInt8 := 0x5b :: separated parts ++ [0x5d]

/-- An object of named parts. -/
def object (fields : List (String × List UInt8)) : List UInt8 :=
  0x7b :: separated (fields.map fun (name, part) => string name ++ 0x3a :: part) ++ [0x7d]

end CellSync.Json
