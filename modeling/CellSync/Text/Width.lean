/-
The columns of a terminal that a text takes.

`charWidth` counts the columns of a character that stands alone: one for
most, two for wide ones, none for those that attach to another or show
nothing. `width` counts those of a line, where some characters come
together as one sign: letters of a few scripts, pictures with their skin
tones and joiners, the two letters of a flag. Which of them come together
is told by what follows, so a line is read from its end, and `Follower`
is all that a character needs to know of what stands after it.
-/
import CellSync.Text.Emoji
import CellSync.Text.Extending
import CellSync.Text.Ignorable
import CellSync.Text.Joining
import CellSync.Text.Wide

namespace CellSync.Text

-- ============================================================ one character

/-- Vowels and finals of Korean, which complete the letter before them. -/
def jamoRanges : List (Nat × Nat) := [(0x1160, 0x11ff), (0xd7b0, 0xd7c6), (0xd7cb, 0xd7fb)]

/-- Signs that are written before a letter and shown on it. -/
def leadingRanges : List (Nat × Nat) :=
  [(0x605, 0x605), (0x70f, 0x70f), (0x890, 0x891), (0x8e2, 0x8e2), (0xd4e, 0xd4e),
  (0xa8fa, 0xa8fa), (0x111c2, 0x111c3), (0x113d1, 0x113d1), (0x1193f, 0x1193f),
  (0x11941, 0x11941), (0x11a84, 0x11a89), (0x11d46, 0x11d46), (0x11f02, 0x11f02)]

/-- The columns of a character that stands alone. The consonant joiner of
Tifinagh is shown when it joins nothing, two letters that others are meant to
complete are as wide as the whole, and a word written as one sign takes three. -/
def charWidth (c : Char) : Nat :=
  let n := c.toNat
  if n < 0xa0 || n = 0x2d7f then 1
  else if n = 0x115f || n = 0x17a4 then 2
  else if n = 0x17d8 then 3
  else if isIgnorable c || isMark c || inRanges jamoRanges n || inRanges leadingRanges n then 0
  else if isWide c then 2
  else 1

-- ============================================================ what follows

/-- The second of two characters that make one sign. -/
inductive Partner where
  /-- A Hebrew lamed, tied to an alef by a joiner. -/
  | lamed
  /-- A letter of Khmer that is written below another after a coeng. -/
  | subscript
  /-- A Buginese ya, tied to a vowel sign by a joiner. -/
  | ya
  /-- A Buginese vowel sign with the ya tied to it. -/
  | vowelAndYa
  /-- A consonant of Tifinagh, tied to another by a joiner. -/
  | consonant
  /-- A consonant of Tifinagh with the script's own joiner before it. -/
  | joinedConsonant
  /-- The second half of a tone letter of Lisu. -/
  | toneHalf
  /-- The Old Turkic letter i, tied to another by a joiner. -/
  | orkhon
deriving DecidableEq

/-- Pictures tied by a joiner to what stands before them, and how much of a
picture that is not a single character has been read there. -/
inductive Tied where
  | nothing
  | keycap
  | oneIndicator
  | evenIndicators
  | oddIndicators
  /-- Tag letters, up to the end of a tag. -/
  | tagLetters (count : Nat)
  /-- Tag digits, and what else stands up to the end of a tag. -/
  | tagDigits (count : Nat)
deriving DecidableEq

/-- What stands after a character, as far as it bears on its columns. -/
inductive Follower where
  | plain
  | newline
  /-- An Arabic alef, which joins with a lam. -/
  | alef
  | partner (p : Partner) (joined : Bool)
  /-- The vowel e of Kirat Rai. -/
  | vowelE
  /-- The vowel ai of Kirat Rai, which is two of e. -/
  | vowelAI
  | picture
  | tone
  | indicator
  | indicators
  | tied (t : Tied)
deriving DecidableEq

/-- A sign that asks how the character before it is to be shown. -/
inductive Shape where
  | picture
  | text
  | fullWidth
deriving DecidableEq

/-- What stands after a character: perhaps a sign about its shape, and then the
rest. -/
structure Ahead where
  shape : Option Shape
  follower : Follower
deriving DecidableEq

namespace Follower

/-- Whether two letters still come together with a sign about shape between
them. -/
def seenThroughShape : Follower → Bool
  | alef | partner .. => true
  | _ => false

/-- What is left of a follower once the sign about shape before it is read. -/
def behindShape (f : Follower) : Follower := if f.seenThroughShape then f else plain

/-- A follower with a sign about shape before it. A tied picture waits for one
that the sign makes. -/
def after (f : Follower) (shape : Shape) : Ahead :=
  match shape, f with
  | .picture, tied .nothing => ⟨shape, f⟩
  | .picture, tied .keycap => ⟨shape, f⟩
  | _, _ => ⟨shape, f.behindShape⟩

end Follower

/-- Whether a character is one of the letters that spell flags. -/
def isIndicator (c : Char) : Bool := 0x1f1e6 ≤ c.toNat && c.toNat ≤ 0x1f1ff

/-- Whether a character is a consonant of Tifinagh that joins. -/
def isTifinagh (c : Char) : Bool := inRanges [(0x2d31, 0x2d65), (0x2d6f, 0x2d6f)] c.toNat

/-- The letters of Khmer that are written below another after a coeng. -/
def subscriptRanges : List (Nat × Nat) :=
  [(0x1780, 0x1782), (0x1784, 0x1787), (0x1789, 0x178c), (0x178e, 0x1793), (0x1795, 0x1798),
  (0x179b, 0x179d), (0x17a0, 0x17a0), (0x17a2, 0x17a2), (0x17a7, 0x17a7), (0x17ab, 0x17ac),
  (0x17af, 0x17af)]

/-- The marks that show nothing, which part no letters but those of Arabic. -/
def blankMarkRanges : List (Nat × Nat) :=
  [(0x34f, 0x34f), (0x17b4, 0x17b5), (0x180b, 0x180d), (0x180f, 0x180f), (0xfe00, 0xfe0f),
  (0xe0100, 0xe01ef)]

/-- What a character is to the one before it. -/
def Follower.ofChar (c : Char) : Follower :=
  let n := c.toNat
  if isAlef c then .alef
  else if n = 0x5dc then .partner .lamed false
  else if inRanges subscriptRanges n then .partner .subscript false
  else if n = 0x1a10 then .partner .ya false
  else if isTifinagh c then .partner .consonant false
  else if n = 0xa4fc || n = 0xa4fd then .partner .toneHalf false
  else if n = 0x10c03 then .partner .orkhon false
  else if n = 0x16d67 then .vowelE
  else if n = 0x16d68 then .vowelAI
  else if isIndicator c then .indicator
  else if isTone c then .tone
  else if isPicture c then .picture
  else .plain

-- ============================================================ coming together

/-- The columns that a character adds to those of its partner, and what the two
are to the one before them. -/
def Partner.meet? (c : Char) (joined : Bool) : Partner → Option (Int × Follower)
  | .lamed => if joined ∧ c.toNat = 0x5d0 then some (0, .plain) else none
  | .subscript => if c.toNat = 0x17d2 then some (-1, .plain) else none
  | .ya => if joined ∧ c.toNat = 0x1a17 then some (0, .partner .vowelAndYa true) else none
  | .vowelAndYa => if c.toNat = 0x1a15 then some (0, .plain) else none
  | .consonant =>
    if c.toNat = 0x2d7f then some (1, .partner .joinedConsonant true)
    else if joined && isTifinagh c then some (0, .plain)
    else none
  | .joinedConsonant => if isTifinagh c then some (-1, .plain) else none
  | .toneHalf => if 0xa4f8 ≤ c.toNat ∧ c.toNat ≤ 0xa4fb then some (0, .plain) else none
  | .orkhon => if joined ∧ c.toNat = 0x10c32 then some (0, .plain) else none

/-- The columns that a character adds to a picture it is tied to, and what the
two are to the one before them. A flag is two of its letters, and a tag spells
a region and a part of it. -/
def Tied.meet? (c : Char) (t : Tied) : Option (Int × Follower) :=
  let n := c.toNat
  let isLetter := 0xe0061 ≤ n && n ≤ 0xe007a
  let isDigit := 0xe0030 ≤ n && n ≤ 0xe0039
  match t with
  | .nothing =>
    if n = 0x20e3 then some (0, .tied .keycap)
    else if isIndicator c then some (1, .tied .oneIndicator)
    else if isTone c then some (0, .tone)
    else if n = 0xe007f then some (0, .tied (.tagLetters 0))
    else if isPicture c then some (0, .picture)
    else none
  | .keycap => none
  | .oneIndicator => if isIndicator c then some (-1, .tied .evenIndicators) else none
  | .evenIndicators =>
    if isIndicator c then some (3, .tied .oddIndicators)
    else if n = 0x200d then some (0, .tied .nothing)
    else none
  | .oddIndicators =>
    if isIndicator c then some (-1, .tied .evenIndicators)
    else if n = 0x200d then some (0, .tied .nothing)
    else none
  | .tagLetters count =>
    if isLetter && count < 6 then some (0, .tied (.tagLetters (count + 1)))
    else if isDigit && count ≤ 4 then some (0, .tied (.tagDigits 1))
    else if n = 0x1f3f4 && 3 ≤ count then some (0, .picture)
    else none
  | .tagDigits count =>
    if isDigit && count < 3 then some (0, .tied (.tagDigits (count + 1)))
    else if n = 0x1f3f4 && count = 3 then some (0, .picture)
    else none

/-- The columns that a character adds where it comes together with what follows,
and what the whole is to the one before. -/
def Follower.meet? (c : Char) (f : Follower) : Option (Int × Follower) :=
  let n := c.toNat
  match f with
  | .plain | .newline => none
  | .alef =>
    if isLam c then some (0, .plain)
    else if charWidth c = 0 && !isParting c then some (0, .alef)
    else none
  | .partner p joined =>
    if n = 0x200d then some (0, .partner p true)
    else if inRanges blankMarkRanges n then some (0, f)
    else p.meet? c joined
  | .vowelE =>
    if n = 0x16d63 || n = 0x16d69 then some (0, .plain)
    else if n = 0x16d67 then some (0, .vowelAI)
    else if n = 0x16d68 then some (1, .vowelE)
    else none
  | .vowelAI => if n = 0x16d63 then some (0, .plain) else none
  | .picture => if n = 0x200d then some (0, .tied .nothing) else none
  | .tone =>
    if takesTone c then some (0, .picture)
    else if n = 0x200d then some (0, .tied .nothing)
    else none
  | .indicator => if isIndicator c then some (1, .indicators) else none
  | .indicators =>
    if isIndicator c then some (1, .indicators)
    else if n = 0x200d then some (0, .tied .nothing)
    else none
  | .tied t => t.meet? c

/-- The sign about shape that a character is. -/
def Shape.ofChar? (c : Char) : Option Shape :=
  if c.toNat = 0xfe0f then some .picture
  else if c.toNat = 0xfe0e then some .text
  else if c.toNat = 0xfe01 then some .fullWidth
  else none

/-- The columns of a character in the shape that the sign after it asks for,
where the sign bears on it. A picture that becomes text is one column wide,
except for ideographs in a frame; quotes alone have a full width. -/
def Shape.columns? (c : Char) (f : Follower) : Shape → Option Int
  | .picture =>
    if isSelectable c then
      match f with
      | .tied _ => some 0
      | _ => some 2
    else none
  | .text =>
    if isSelectable c && isPicture c && !(0x1f200 ≤ c.toNat && c.toNat ≤ 0x1f2ff) then some 1
    else none
  | .fullWidth =>
    if [0x2018, 0x2019, 0x201c, 0x201d].contains c.toNat then some 2 else none

/-- The columns that a character adds before what follows it, and what the whole
is to the one before. -/
def place (c : Char) (ahead : Ahead) : Int × Ahead :=
  match ahead.shape.bind (Shape.columns? c ahead.follower) with
  | some columns => (columns, ⟨none, if ahead.shape = some .picture then .picture else .plain⟩)
  | none =>
    let follower := if ahead.shape.isSome then ahead.follower.behindShape else ahead.follower
    if c = '\n' then (1, ⟨none, .newline⟩)
    else if c = '\r' && follower = .newline then (0, ⟨none, .plain⟩)
    else if c.toNat ≤ 0xa0 then (1, ⟨none, .plain⟩)
    else match Shape.ofChar? c with
      | some shape => (0, follower.after shape)
      | none => match follower.meet? c with
        | some (columns, whole) => (columns, ⟨none, whole⟩)
        | none => (charWidth c, ⟨none, .ofChar c⟩)

/-- The columns of some characters. -/
def widthOf (cs : List Char) : Nat :=
  (cs.foldr (fun c (total, ahead) =>
    let (columns, ahead) := place c ahead
    (total + columns, ahead)) ((0 : Int), (⟨none, .plain⟩ : Ahead))).1.toNat

/-- The columns of a line. -/
def width (line : String) : Nat := widthOf line.toList

end CellSync.Text
