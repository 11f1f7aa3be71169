/-
Patterns read from text.

Groups are kept on a stack of what has been read in them. Braces never
enclose a count here: none can be written where patterns are read.
-/
import CellSync.Text.Alphanumeric
import CellSync.Text.Pattern.Members

namespace CellSync.Text

namespace Pattern

-- ================================================================ groups

/-- What an opening parenthesis begins. -/
inductive Opening where
  | group (name : Option (List Char)) (settings : Settings)
  /-- No group, but settings for what follows. -/
  | flags (settings : Settings)

/-- Whether a name can be given to a group. -/
def isGroupName : List Char → Bool
  | [] => false
  | c :: rest => (c = '_' || isAlphabetic c) &&
    rest.all fun c => isAlphanumeric c || c = '_' || c = '.' || c = '[' || c = ']'

/-- The settings that letters spell: each letter once at most, and those after a
minus turn off. -/
def settings? (cs : List Char) : Option Settings :=
  let isFlag c := c = '-' || (Flag.ofChar? c).isSome
  if cs.all (fun c => isFlag c && cs.count c = 1) ∧ cs.getLast? ≠ some '-' then
    let on := cs.takeWhile (· ≠ '-')
    let off := (cs.dropWhile (· ≠ '-')).drop 1
    some ((on.filterMap Flag.ofChar?).map (·, true) ++ (off.filterMap Flag.ofChar?).map (·, false))
  else none

/-- What the parenthesis before some characters begins. -/
def opening? (cs : List Char) : Option (Opening × List Char) :=
  match cs with
  | '?' :: 'P' :: '<' :: rest | '?' :: '<' :: rest =>
    let name := rest.takeWhile (· ≠ '>')
    match rest.dropWhile (· ≠ '>') with
    | '>' :: rest => if isGroupName name then some (.group (some name) [], rest) else none
    | _ => none
  | '?' :: rest =>
    let letters := rest.takeWhile fun c => c ≠ ':' && c ≠ ')'
    (settings? letters).bind fun settings =>
      match rest.drop letters.length with
      | ':' :: rest => some (.group none settings, rest)
      | ')' :: rest => if letters.isEmpty then none else some (.flags settings, rest)
      | _ => none
  | cs => some (.group none [], cs)

/-- A group that is still open, or the whole pattern: its branches before the one
that is read, and the parts of that, the last of them first. -/
structure OpenGroup where
  settings : Settings
  /-- Whether blanks are left out around the group. -/
  spacedAround : Bool
  branches : List Pattern
  parts : List Pattern

namespace OpenGroup

/-- A group in which nothing has been read. -/
def opening (settings : Settings) (spacedAround : Bool) : OpenGroup :=
  ⟨settings, spacedAround, [], []⟩

/-- A group with one more part. -/
def push (g : OpenGroup) (p : Pattern) : OpenGroup := { g with parts := p :: g.parts }

/-- A group with one more branch. -/
def endBranch (g : OpenGroup) : OpenGroup :=
  { g with branches := .sequence g.parts.reverse :: g.branches, parts := [] }

/-- What has been read in a group. -/
def content (g : OpenGroup) : Pattern := .choice g.endBranch.branches.reverse

/-- A group whose last part is repeated. Settings cannot be. -/
def repeat? (g : OpenGroup) : Option OpenGroup :=
  match g.parts with
  | [] | .flags _ :: _ => none
  | p :: parts => some { g with parts := .repeated p :: parts }

end OpenGroup

-- ============================================================= patterns

/-- The part at the front that is neither a group nor a set. -/
def atom? (spaced : Bool) (cs : List Char) : Option (Atom × List Char) :=
  match cs with
  | '\\' :: rest => escape? spaced rest
  | '.' :: rest => some (.any, rest)
  | '^' :: rest | '$' :: rest => some (.place, rest)
  | '\x7b' :: _ => none
  | c :: rest => some (.char ⟨c, false⟩, rest)
  | [] => none

/-- What has been read of a pattern: the groups that are open, the innermost
first, the whole pattern apart, the names given to groups, and whether blanks
are left out. -/
structure Reading where
  inner : OpenGroup
  outer : List OpenGroup
  names : List (List Char)
  spaced : Bool

namespace Reading

/-- The start of a pattern. -/
def start : Reading := ⟨.opening [] false, [], [], false⟩

/-- A reading with one more part. -/
def push (r : Reading) (p : Pattern) : Reading := { r with inner := r.inner.push p }

/-- A reading after an opening parenthesis and what goes with it. No two groups
have the same name. -/
def open? (r : Reading) : Opening → Option Reading
  | .flags settings =>
    some { r.push (.flags settings) with spaced := settings.apply .spaced r.spaced }
  | .group name settings =>
    if name.any r.names.contains then none
    else some
      { inner := .opening settings r.spaced
        outer := r.inner :: r.outer
        names := name.toList ++ r.names
        spaced := settings.apply .spaced r.spaced }

/-- A reading after a closing parenthesis. -/
def close? (r : Reading) : Option Reading :=
  match r.outer with
  | [] => none
  | g :: outer => some
    { inner := g.push (.group r.inner.settings r.inner.content)
      outer
      names := r.names
      spaced := r.inner.spacedAround }

/-- The pattern that has been read, where no group is open. -/
def end? (r : Reading) : Option Pattern :=
  if r.outer.isEmpty then some r.inner.content else none

end Reading

/-- The pattern that some characters complete. A question mark right after a
repetition belongs to it. -/
def complete? (fuel : Nat) (r : Reading) (cs : List Char) : Option Pattern :=
  match fuel with
  | 0 => none
  | fuel + 1 => match unspaced r.spaced cs with
    | [] => r.end?
    | '(' :: rest =>
      (opening? (unspaced r.spaced rest)).bind fun (opening, rest) =>
        (r.open? opening).bind fun r => complete? fuel r rest
    | ')' :: rest => r.close?.bind fun r => complete? fuel r rest
    | '|' :: rest => complete? fuel { r with inner := r.inner.endBranch } rest
    | '*' :: rest | '+' :: rest | '?' :: rest =>
      r.inner.repeat?.bind fun inner =>
        complete? fuel { r with inner } (if rest.head? = some '?' then rest.drop 1 else rest)
    | '[' :: rest =>
      let (s, rest) := OpenSet.opening r.spaced rest
      (set? (rest.length + 1) r.spaced [] s rest).bind fun (s, rest) =>
        complete? fuel (r.push (.set s.negated s.content)) rest
    | cs => (atom? r.spaced cs).bind fun (a, rest) => complete? fuel (r.push (.atom a)) rest

end Pattern

/-- The pattern that a text spells. -/
def Pattern.ofString? (text : String) : Option Pattern :=
  complete? (text.length + 1) .start text.toList

end CellSync.Text
