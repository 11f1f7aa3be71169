/-
White space and control characters.

White space is the property White_Space of the Unicode character
database, control characters are the general category Cc. An identifier
of a target may hold neither.
-/
import CellSync.Text.Ranges

namespace CellSync.Text

/-- The ranges of the property White_Space. -/
def blankRanges : List (Nat × Nat) :=
  [(0x9, 0xd), (0x20, 0x20), (0x85, 0x85), (0xa0, 0xa0), (0x1680, 0x1680), (0x2000, 0x200a),
  (0x2028, 0x2029), (0x202f, 0x202f), (0x205f, 0x205f), (0x3000, 0x3000)]

/-- Whether a character is white space. -/
def isBlank (c : Char) : Bool := inRanges blankRanges c.toNat

/-- Whether a character is a control character. -/
def isControl (c : Char) : Bool := inRanges [(0x0, 0x1f), (0x7f, 0x9f)] c.toNat

/-- Whether a text holds white space or a control character. -/
def hasBlankOrControl (text : String) : Bool :=
  text.toList.any fun c => isBlank c || isControl c

/-- A text without the white space at its ends. -/
def trimmed (text : String) : String :=
  let front := text.toList.dropWhile isBlank
  String.ofList (front.reverse.dropWhile isBlank).reverse

end CellSync.Text
