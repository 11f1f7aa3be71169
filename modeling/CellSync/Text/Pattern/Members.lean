/-
Sets of characters in brackets.

A set lists characters, ranges, shorthands, named sets and other sets in
brackets, and operators may stand between such lists: two ampersands for
what they share, two dashes for what only the first has, two tildes for
what only one has. Operators are taken from left to right.
-/
import CellSync.Text.Pattern.Escape

namespace CellSync.Text.Pattern

-- ============================================================= one member

/-- The names of the sets of ASCII characters. -/
def asciiNames : List String :=
  ["alnum", "alpha", "ascii", "blank", "cntrl", "digit", "graph", "lower", "print", "punct",
  "space", "upper", "word", "xdigit"]

/-- The named set whose characters after the opening bracket are at the front.
Nothing is left out in it. -/
def named? (cs : List Char) : Option (Members × List Char) :=
  match cs with
  | ':' :: rest =>
    let negated := rest.head? = some '^'
    let named := if negated then rest.drop 1 else rest
    let name := String.ofList (named.takeWhile (· ≠ ':'))
    match named.dropWhile (· ≠ ':') with
    | ':' :: ']' :: rest =>
      if asciiNames.contains name then some (.named negated, rest) else none
    | _ => none
  | _ => none

/-- The character or shorthand at the front. -/
def single? (spaced : Bool) (cs : List Char) : Option (Members × List Char) :=
  match cs with
  | '\\' :: rest => match escape? spaced rest with
    | some (.char c, rest) => some (.char c, rest)
    | some (.shorthand negated, rest) => some (.shorthand negated, rest)
    | _ => none
  | c :: rest => some (.char ⟨c, false⟩, rest)
  | [] => none

/-- The range between two members, where both are characters and in order. -/
def Members.upTo? : Members → Members → Option Members
  | .char low, .char high =>
    if low.char.toNat ≤ high.char.toNat then some (.range low high) else none
  | _, _ => none

/-- The character, shorthand or range at the front. A dash is that of a range
unless it ends the set or another dash follows it. -/
def member? (spaced : Bool) (cs : List Char) : Option (Members × List Char) :=
  (single? spaced cs).bind fun (first, rest) =>
    match unspaced spaced rest with
    | '-' :: others =>
      if seen? spaced others = some ']' ∨ seen? spaced others = some '-' then
        some (first, '-' :: others)
      else (single? spaced (unspaced spaced others)).bind fun (last, rest) =>
        (first.upTo? last).map (·, rest)
    | rest => some (first, rest)

-- ================================================================ a set

/-- A set that is still open: what stands before its last operator, and the
members after it, the last of them first. -/
structure OpenSet where
  negated : Bool
  before : Option Members
  members : List Members
  /-- Whether nothing has been read but dashes. -/
  isFresh : Bool

namespace OpenSet

/-- The set whose characters after the opening bracket are at the front. -/
def opening (spaced : Bool) (cs : List Char) : OpenSet × List Char :=
  match unspaced spaced cs with
  | '^' :: rest => (⟨true, none, [], true⟩, rest)
  | rest => (⟨false, none, [], true⟩, rest)

/-- A set with one more member. -/
def push (s : OpenSet) (m : Members) : OpenSet :=
  { s with members := m :: s.members, isFresh := false }

/-- A set with a dash at its front. -/
def pushDash (s : OpenSet) : OpenSet :=
  { s with members := .char ⟨'-', false⟩ :: s.members }

/-- All members of a set. -/
def content (s : OpenSet) : Members :=
  match s.before with
  | none => .together s.members.reverse
  | some left => .operated left (.together s.members.reverse)

/-- A set after an operator. -/
def operate (s : OpenSet) : OpenSet := ⟨s.negated, some s.content, [], false⟩

end OpenSet

/-- The set that some characters complete, of an open one and those it stands in.
A closing bracket at the front of a set is a member of it, and so are the dashes
there. -/
def set? (fuel : Nat) (spaced : Bool) (outer : List OpenSet) (s : OpenSet) (cs : List Char) :
    Option (OpenSet × List Char) :=
  match fuel with
  | 0 => none
  | fuel + 1 => match unspaced spaced cs with
    | [] => none
    | '[' :: rest => match named? rest with
      | some (m, rest) => set? fuel spaced outer (s.push m) rest
      | none =>
        let (inner, rest) := OpenSet.opening spaced rest
        set? fuel spaced (s :: outer) inner rest
    | ']' :: rest =>
      if s.isFresh && s.members.isEmpty then
        set? fuel spaced outer (s.push (.char ⟨']', false⟩)) rest
      else match outer with
        | [] => some (s, rest)
        | t :: outer => set? fuel spaced outer (t.push (.bracketed s.negated s.content)) rest
    | '-' :: rest =>
      if s.isFresh then set? fuel spaced outer s.pushDash rest
      else if rest.head? = some '-' then set? fuel spaced outer s.operate (rest.drop 1)
      else (member? spaced ('-' :: rest)).bind fun (m, rest) =>
        set? fuel spaced outer (s.push m) rest
    | '&' :: '&' :: rest | '~' :: '~' :: rest => set? fuel spaced outer s.operate rest
    | cs => (member? spaced cs).bind fun (m, rest) => set? fuel spaced outer (s.push m) rest

end CellSync.Text.Pattern
