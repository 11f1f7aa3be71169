/-
Regular expressions.

A pattern is alternatives of sequences of parts: single characters, sets
of characters in brackets, places between characters, groups, repeated
parts, and flags that change how what follows is read. Which characters a
shorthand or a named set holds is not kept, nor how often a part is
repeated: `Pattern` holds what decides whether a pattern can be used.
-/
namespace CellSync.Text

namespace Pattern

/-- A character as it is written. One that is spelled by two digits is a byte
where bytes are matched, others are the bytes that encode them. -/
structure Literal where
  char : Char
  isByte : Bool
deriving DecidableEq

/-- Members of a set in brackets. -/
inductive Members where
  | char (c : Literal)
  | range (low high : Literal)
  /-- The digits, the white space or the word characters of all scripts. -/
  | shorthand (negated : Bool)
  /-- The ASCII characters of a kind, given by its name. -/
  | named (negated : Bool)
  | bracketed (negated : Bool) (members : Members)
  | together (members : List Members)
  /-- What an operator makes of two sets, such as what they share. -/
  | operated (left right : Members)

/-- A part that holds no other. -/
inductive Atom where
  | char (c : Literal)
  | any
  | shorthand (negated : Bool)
  /-- A place that is told by where a line or the text begins or ends. -/
  | place
  /-- A place that is told by the word characters on its sides. -/
  | wordEdge
deriving DecidableEq

/-- The ways of reading and matching that can be turned on and off. -/
inductive Flag where
  | ignoreCase
  | multiLine
  | dotAll
  | reluctant
  /-- Characters are matched, not bytes. -/
  | unicode
  | returnEndsLine
  /-- Blanks and remarks in the pattern are left out. -/
  | spaced
deriving DecidableEq

namespace Flag

/-- The letter of a flag. -/
def ofChar? : Char → Option Flag
  | 'i' => some ignoreCase
  | 'm' => some multiLine
  | 's' => some dotAll
  | 'U' => some reluctant
  | 'u' => some unicode
  | 'R' => some returnEndsLine
  | 'x' => some spaced
  | _ => none

end Flag

/-- Flags that are turned on or off. -/
abbrev Settings := List (Flag × Bool)

/-- What settings make of a flag. -/
def Settings.apply (settings : Settings) (flag : Flag) (current : Bool) : Bool :=
  (settings.lookup flag).getD current

end Pattern

/-- A regular expression. -/
inductive Pattern where
  | atom (a : Pattern.Atom)
  | set (negated : Bool) (members : Pattern.Members)
  /-- Settings that hold up to the end of the group they stand in. -/
  | flags (settings : Pattern.Settings)
  | group (settings : Pattern.Settings) (body : Pattern)
  | repeated (body : Pattern)
  | sequence (parts : List Pattern)
  | choice (branches : List Pattern)

end CellSync.Text
