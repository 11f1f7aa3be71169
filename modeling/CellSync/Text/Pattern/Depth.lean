/-
How deep the parts of a pattern lie in each other.

Groups, repetitions and sets in brackets are a level each, and so are a
sequence, alternatives, and a list of members, where there are two or
more of them. Patterns that go too deep are refused.
-/
import CellSync.Text.Pattern.Basic

namespace CellSync.Text.Pattern

/-- The most levels of a pattern. -/
def maxDepth : Nat := 250

/-- The levels that a list adds to those of what it lists. -/
def levelOf {α : Type} : List α → Nat
  | [] | [_] => 0
  | _ => 1

mutual

/-- The levels of members of a set. -/
def Members.depth : Members → Nat
  | .char _ | .range .. | .shorthand _ | .named _ => 0
  | .bracketed _ members => members.depth + 1
  | .together members => Members.deepest 0 members + levelOf members
  | .operated left right => max left.depth right.depth + 1

/-- The levels of the deepest of some members, or so many if none has more. -/
def Members.deepest (least : Nat) : List Members → Nat
  | [] => least
  | m :: rest => Members.deepest (max least m.depth) rest

end

mutual

/-- The levels of a pattern. -/
def depth : Pattern → Nat
  | .atom _ | .flags _ => 0
  | .set _ members => members.depth + 1
  | .group _ body | .repeated body => body.depth + 1
  | .sequence parts => deepest 0 parts + levelOf parts
  | .choice branches => deepest 0 branches + levelOf branches

/-- The levels of the deepest of some patterns, or so many if none has more. -/
def deepest (least : Nat) : List Pattern → Nat
  | [] => least
  | p :: rest => deepest (max least p.depth) rest

end

end CellSync.Text.Pattern
