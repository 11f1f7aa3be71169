/-
Reading JSON.

The reader works on bytes and looks at each once. A string is first cut
into units, which are its own bytes and the 16-bit numbers of its `\u`
escapes, and then spelled: two surrogate numbers make one character, a
lone one makes none. White space may stand around every token and a
whole document may be followed by white space only.

The first argument of `value`, `items` and `members` bounds the
recursion. A call consumes a byte at least every second time, so twice
the size of the input is always enough.
-/
import CellSync.Bytes
import CellSync.Json.Value

namespace CellSync.Json

-- ================================================================ tokens

/-- The bytes after white space. -/
def skipBlanks (bs : List UInt8) : List UInt8 :=
  bs.dropWhile fun b => b = 0x20 || b = 0x09 || b = 0x0a || b = 0x0d

/-- The value of a hexadecimal digit. -/
def hexValue? (b : UInt8) : Option Nat :=
  if 0x30 ≤ b ∧ b ≤ 0x39 then some (b.toNat - 0x30)
  else if 0x61 ≤ b ∧ b ≤ 0x66 then some (b.toNat - 0x57)
  else if 0x41 ≤ b ∧ b ≤ 0x46 then some (b.toNat - 0x37)
  else none

-- =============================================================== strings

/-- A piece of a string: a byte of its text, or a 16-bit number. -/
inductive Piece where
  | byte (b : UInt8)
  | unit (u : Nat)

/-- The byte that a short escape stands for. -/
def shortEscape? (b : UInt8) : Option UInt8 :=
  match b.toNat with
  | 0x22 => some 0x22
  | 0x5c => some 0x5c
  | 0x2f => some 0x2f
  | 0x62 => some 0x08
  | 0x66 => some 0x0c
  | 0x6e => some 0x0a
  | 0x72 => some 0x0d
  | 0x74 => some 0x09
  | _ => none

/-- The pieces of a string whose opening quote has been read, and the bytes
after its closing quote. A raw control character is no part of a string. -/
def pieces : List UInt8 → Option (List Piece × List UInt8)
  | 0x5c :: 0x75 :: a :: b :: c :: d :: rest => do
    let a ← hexValue? a
    let b ← hexValue? b
    let c ← hexValue? c
    let d ← hexValue? d
    let (ps, rest) ← pieces rest
    pure (.unit (ofDigits 16 [a, b, c, d]) :: ps, rest)
  | 0x5c :: e :: rest => do
    let b ← shortEscape? e
    let (ps, rest) ← pieces rest
    pure (.byte b :: ps, rest)
  | 0x22 :: rest => some ([], rest)
  | b :: rest =>
    if b < 0x20 || b = 0x5c then none
    else do
      let (ps, rest) ← pieces rest
      pure (.byte b :: ps, rest)
  | [] => none

/-- Whether a 16-bit number is the first of a surrogate pair. -/
def isLeading (u : Nat) : Bool := 0xd800 ≤ u && u < 0xdc00

/-- Whether a 16-bit number is the second of a surrogate pair. -/
def isTrailing (u : Nat) : Bool := 0xdc00 ≤ u && u < 0xe000

/-- The bytes that pieces spell. -/
def spell : List Piece → Option (List UInt8)
  | [] => some []
  | .byte b :: rest => (spell rest).map (b :: ·)
  | .unit u :: .unit v :: rest =>
    if isLeading u then
      if isTrailing v then
        let c := Char.ofNat (0x10000 + (u - 0xd800) * 0x400 + (v - 0xdc00))
        (spell rest).map (String.utf8EncodeChar c ++ ·)
      else none
    else if isTrailing u then none
    else (spell (.unit v :: rest)).map (String.utf8EncodeChar (Char.ofNat u) ++ ·)
  | .unit u :: rest =>
    if isLeading u || isTrailing u then none
    else (spell rest).map (String.utf8EncodeChar (Char.ofNat u) ++ ·)

/-- The text of some pieces, if they spell one. -/
def textOf (ps : List Piece) : Option String :=
  (spell ps).bind fun bs => String.fromUTF8? (Bytes.pack bs)

/-- The string whose opening quote has been read. -/
def stringTail (bs : List UInt8) : Option (Option String × List UInt8) :=
  (pieces bs).map fun (ps, rest) => (textOf ps, rest)

-- =============================================================== numbers

/-- Whether a byte is a decimal digit. -/
def isDigit (b : UInt8) : Bool := 0x30 ≤ b && b ≤ 0x39

/-- The decimal digits that some bytes begin with, and the bytes after them. -/
def digitRun (bs : List UInt8) : List Nat × List UInt8 :=
  ((bs.takeWhile isDigit).map fun b => b.toNat - 0x30, bs.dropWhile isDigit)

/-- The decimals after a point, or none where there is no point. -/
def decimalsOf : List UInt8 → Option (List Nat × List UInt8)
  | 0x2e :: rest =>
    let (ds, rest) := digitRun rest
    if ds.isEmpty then none else some (ds, rest)
  | bs => some ([], bs)

/-- The power of ten after an `e`, zero where there is none. -/
def exponentOf : List UInt8 → Option (Int × List UInt8)
  | [] => some (0, [])
  | b :: rest =>
    if b ≠ 0x65 ∧ b ≠ 0x45 then some (0, b :: rest)
    else
      let negative := rest.head? = some 0x2d
      let unsigned := if negative || rest.head? = some 0x2b then rest.drop 1 else rest
      let (ds, rest) := digitRun unsigned
      if ds.isEmpty then none
      else
        let size : Int := (ofDigits 10 ds : Nat)
        some (if negative then -size else size, rest)

/-- The number that some bytes begin with. A leading zero stands alone. -/
def number (bs : List UInt8) : Option (Number × List UInt8) := do
  let negative := bs.head? = some 0x2d
  let (whole, rest) := digitRun (if negative then bs.drop 1 else bs)
  if whole.isEmpty || (whole.head? = some 0 && 1 < whole.length) then none
  let (decimals, rest) ← decimalsOf rest
  let (exponent, rest) ← exponentOf rest
  pure (⟨negative, whole, decimals, exponent⟩, rest)

-- ================================================================ values

mutual

/-- The value that some bytes begin with, and the bytes after it. -/
def value : Nat → List UInt8 → Option (Value × List UInt8)
  | 0, _ => none
  | fuel + 1, bs =>
    match skipBlanks bs with
    | 0x6e :: 0x75 :: 0x6c :: 0x6c :: rest => some (.null, rest)
    | 0x74 :: 0x72 :: 0x75 :: 0x65 :: rest => some (.bool true, rest)
    | 0x66 :: 0x61 :: 0x6c :: 0x73 :: 0x65 :: rest => some (.bool false, rest)
    | 0x22 :: rest => (stringTail rest).map fun (text, rest) => (.string text, rest)
    | 0x5b :: rest =>
      match skipBlanks rest with
      | 0x5d :: rest => some (.array [], rest)
      | rest => (items fuel rest).map fun (vs, rest) => (.array vs, rest)
    | 0x7b :: rest =>
      match skipBlanks rest with
      | 0x7d :: rest => some (.object [], rest)
      | rest => (members fuel rest).map fun (ms, rest) => (.object ms, rest)
    | rest => (number rest).map fun (n, rest) => (.number n, rest)

/-- One or more items of an array and its closing bracket. -/
def items : Nat → List UInt8 → Option (List Value × List UInt8)
  | 0, _ => none
  | fuel + 1, bs => do
    let (v, rest) ← value fuel bs
    match skipBlanks rest with
    | 0x2c :: rest =>
      let (vs, rest) ← items fuel rest
      pure (v :: vs, rest)
    | 0x5d :: rest => pure ([v], rest)
    | _ => none

/-- One or more members of an object and its closing brace. -/
def members : Nat → List UInt8 → Option (Members × List UInt8)
  | 0, _ => none
  | fuel + 1, bs =>
    match skipBlanks bs with
    | 0x22 :: rest => do
      let (key, rest) ← stringTail rest
      match skipBlanks rest with
      | 0x3a :: rest =>
        let (v, rest) ← value fuel rest
        match skipBlanks rest with
        | 0x2c :: rest =>
          let (ms, rest) ← members fuel rest
          pure ((key, v) :: ms, rest)
        | 0x7d :: rest => pure ([(key, v)], rest)
        | _ => none
      | _ => none
    | _ => none

end

/-- The value that a whole document holds. -/
def parse (bs : List UInt8) : Option Value := do
  let (v, rest) ← value (2 * bs.length + 2) bs
  if (skipBlanks rest).isEmpty then some v else none

end CellSync.Json
