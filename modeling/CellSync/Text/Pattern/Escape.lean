/-
What is written with a backslash, and what may be left out, in a pattern.

Where blanks are left out so are remarks, which run from a number sign to
the end of the line. Each reader takes the characters that are still to be
read and returns those after what it has read.
-/
import CellSync.Text.Blank
import CellSync.Text.Numeral
import CellSync.Text.Pattern.Basic

namespace CellSync.Text.Pattern

-- ================================================================ blanks

/-- Some characters without the blanks and remarks at their front. -/
def dropBlanks (inRemark : Bool) : List Char → List Char
  | [] => []
  | c :: rest =>
    if inRemark then dropBlanks (c ≠ '\n') rest
    else if isBlank c then dropBlanks false rest
    else if c = '#' then dropBlanks true rest
    else c :: rest

/-- Some characters without what is left out at their front. -/
def unspaced (spaced : Bool) (cs : List Char) : List Char :=
  if spaced then dropBlanks false cs else cs

/-- The character that is seen from the one before it. A look past a number sign
sees the remark itself, and where nothing but blanks is left they are seen. -/
def seen? (spaced : Bool) (cs : List Char) : Option Char :=
  let beyond := cs.dropWhile isBlank
  let beyond := if beyond.head? = some '#' then (beyond.drop 1).dropWhile isBlank else beyond
  if spaced && !beyond.isEmpty then beyond.head? else cs.head?

-- =============================================================== escapes

/-- The number that so many hexadecimal digits spell after those of a number
read before. -/
def numbered? (spaced : Bool) (count number : Nat) (cs : List Char) : Option (Nat × List Char) :=
  match count with
  | 0 => some (number, cs)
  | count + 1 => match unspaced spaced cs with
    | [] => none
    | c :: rest =>
      (digit? 16 c).bind fun d => numbered? spaced count (16 * number + d) rest

/-- The character with the number that so many digits spell. -/
def character? (spaced : Bool) (count : Nat) (cs : List Char) : Option (Atom × List Char) :=
  (numbered? spaced count 0 cs).bind fun (n, rest) =>
    if n.isValidChar then some (.char ⟨Char.ofNat n, count = 2⟩, rest) else none

/-- Whether a backslash makes a character stand for itself. -/
def isEscapable (c : Char) : Bool :=
  c.toNat < 0x80 && !c.isAlphanum && c ≠ '<' && c ≠ '>'

/-- The control character that a letter after a backslash stands for. -/
def control? : Char → Option Char
  | 'a' => some '\x07'
  | 't' => some '\t'
  | 'n' => some '\n'
  | 'v' => some '\x0b'
  | 'f' => some '\x0c'
  | 'r' => some '\r'
  | _ => none

/-- What a character after a backslash stands for, where no digits follow it. -/
def escaped? (c : Char) : Option Atom :=
  if c = 'd' || c = 's' || c = 'w' then some (.shorthand false)
  else if c = 'D' || c = 'S' || c = 'W' then some (.shorthand true)
  else if c = 'A' || c = 'z' then some .place
  else if c = 'b' || c = 'B' || c = '<' || c = '>' then some .wordEdge
  else if isEscapable c then some (.char ⟨c, false⟩)
  else (control? c).map fun c => .char ⟨c, false⟩

/-- The escape whose characters after the backslash are at the front. A set of
characters given by a property is none: nothing is known of properties. -/
def escape? (spaced : Bool) : List Char → Option (Atom × List Char)
  | 'x' :: rest => character? spaced 2 rest
  | 'u' :: rest => character? spaced 4 rest
  | 'U' :: rest => character? spaced 8 rest
  | c :: rest => (escaped? c).map (·, rest)
  | [] => none

end CellSync.Text.Pattern
