/-
Whether a pattern can be matched.

Text is always characters, so a pattern whose flags ask for bytes may ask
for those of ASCII only, and may not ask for all but some. Of characters
nothing is known but their numbers: a pattern may not ignore their case,
nor ask for the letters or digits of all scripts.
-/
import CellSync.Text.Pattern.Basic

namespace CellSync.Text.Pattern

/-- How a part of a pattern is matched. -/
structure Mode where
  unicode : Bool
  ignoresCase : Bool
deriving DecidableEq

namespace Mode

/-- The mode at the start of a pattern. -/
def start : Mode := ⟨true, false⟩

/-- A mode after some settings. -/
def under (m : Mode) (settings : Settings) : Mode :=
  ⟨settings.apply .unicode m.unicode, settings.apply .ignoreCase m.ignoresCase⟩

end Mode

/-- Whether a character can be matched on its own. -/
def Literal.isMatched (m : Mode) (c : Literal) : Bool :=
  if m.unicode then !m.ignoresCase else !c.isByte || c.char.toNat < 0x80

/-- Whether a character can be matched as a member of a set. -/
def Literal.isMember (m : Mode) (c : Literal) : Bool :=
  if m.unicode then !m.ignoresCase else c.char.toNat < 0x80

/-- Whether a shorthand can be matched. -/
def shorthandIsMatched (m : Mode) (negated : Bool) : Bool := !m.unicode && !negated

/-- Whether a part that holds no other can be matched. -/
def Atom.isMatched (m : Mode) : Atom → Bool
  | .char c => c.isMatched m
  | .any => m.unicode
  | .shorthand negated => shorthandIsMatched m negated
  | .place => true
  | .wordEdge => !m.unicode

mutual

/-- Whether members of a set can be matched. -/
def Members.isMatched (m : Mode) : Members → Bool
  | .char c => c.isMember m
  | .range low high => low.isMember m && high.isMember m
  | .shorthand negated => shorthandIsMatched m negated
  | .named negated => if m.unicode then !m.ignoresCase else !negated
  | .bracketed negated members => (m.unicode || !negated) && members.isMatched m
  | .together members => Members.areMatched m members
  | .operated left right => left.isMatched m && right.isMatched m

/-- Whether each of some members can be matched. -/
def Members.areMatched (m : Mode) : List Members → Bool
  | [] => true
  | first :: rest => first.isMatched m && Members.areMatched m rest

end

mutual

/-- The mode after a pattern that is matched in a mode, none if it cannot be. -/
def after? (m : Mode) : Pattern → Option Mode
  | .atom a => if a.isMatched m then some m else none
  | .set negated members =>
    if (m.unicode || !negated) && members.isMatched m then some m else none
  | .flags settings => some (m.under settings)
  | .group settings body => (body.after? (m.under settings)).map fun _ => m
  | .repeated body => body.after? m
  | .sequence parts => afterAll? m parts
  | .choice branches => afterAll? m branches

/-- The mode after some patterns, each matched in the mode after the one before
it. -/
def afterAll? (m : Mode) : List Pattern → Option Mode
  | [] => some m
  | p :: rest => match p.after? m with
    | none => none
    | some m => afterAll? m rest

end

/-- Whether a pattern can be matched. -/
def isMatched (p : Pattern) : Bool := (p.after? .start).isSome

end CellSync.Text.Pattern
