/-
Quoted text for diagnostics.

A text stands between double quotes. A quote, a backslash and the four
usual controls have short escapes; every other character that has no
glyph of its own, or shows nothing, or would attach to the one before it,
is shown by its number.
-/
import CellSync.Octets.Hex
import CellSync.Text.Extending
import CellSync.Text.Ignorable
import CellSync.Text.Unprintable

namespace CellSync.Text

/-- The hexadecimal digits of a number, with no leading zeros. -/
def hexDigits (n : Nat) : List Char :=
  (digits 16 6 n).dropWhile (· == 0) |>.map Hex.digit

/-- A character shown by its number. -/
def numbered (c : Char) : List Char :=
  ['\\', 'u', '\x7b'] ++ hexDigits c.toNat ++ ['\x7d']

/-- Whether a character could not be made out between quotes. -/
def isObscure (c : Char) : Bool :=
  isUnprintable c || isIgnorable c || (isExtending c && !isSoundMark c)

/-- How a character is shown between quotes. -/
def quotedChar (c : Char) : List Char :=
  if c = '"' then ['\\', '"']
  else if c = '\\' then ['\\', '\\']
  else if c = '\n' then ['\\', 'n']
  else if c = '\r' then ['\\', 'r']
  else if c = '\t' then ['\\', 't']
  else if c.toNat = 0 then ['\\', '0']
  else if 0x20 ≤ c.toNat ∧ c.toNat < 0x7f then [c]
  else if isObscure c then numbered c
  else [c]

/-- A text between double quotes. -/
def quoted (text : String) : String :=
  String.ofList ('"' :: text.toList.flatMap quotedChar ++ ['"'])

end CellSync.Text
