/-
The sortable base-32 text of an identifier.

Thirty-two symbols in ascending ASCII order, most significant bits
first, no padding. An identifier of `n` bytes has `8 n` bits; its text
has the fewest symbols that hold them, and the spare low bits of the
last symbol are zero. Texts of one length compare as the identifiers
do. Reading accepts exactly what writing produces: a wrong length, a
foreign symbol and non-zero spare bits are refused, in that order.
-/
import CellSync.Octets

namespace CellSync

namespace Base32

/-- The symbols, in ascending order; `a`, `i`, `l` and `o` are left out. -/
def alphabet : List Char := "0123456789bcdefghjkmnpqrstuvwxyz".toList

/-- The symbol of a number below thirty-two. -/
def symbol (d : Nat) : Char := alphabet.getD d '0'

/-- The number that a symbol stands for. -/
def value? (c : Char) : Option Nat := alphabet.idxOf? c

/-- How many symbols hold `n` bytes. -/
def textLength (n : Nat) : Nat := (8 * n + 4) / 5

/-- How many bits of the last symbol are spare. -/
def spareBits (n : Nat) : Nat := 5 * textLength n - 8 * n

/-- Why a text is not the form of an identifier. -/
inductive Fault where
  /-- The text has the wrong size in bytes. -/
  | wrongLength (expected got : Nat)
  /-- The first foreign symbol begins at this byte. -/
  | foreignSymbol (position : Nat)
  /-- The last symbol, at this position, sets spare bits. -/
  | spareBitsSet (position : Nat)
deriving DecidableEq

/-- The wording of a refusal. -/
def Fault.message : Fault → String
  | .wrongLength expected got => s!"expected {expected} characters, got {got}"
  | .foreignSymbol position => s!"invalid symbol at {position}"
  | .spareBitsSet position => s!"non-zero trailing bits at {position}"

/-- The numbers of a list of symbols that starts at `position`, or the
position of the first foreign one. Every symbol before it is one byte. -/
def values (position : Nat) : List Char → Except Fault (List Nat)
  | [] => .ok []
  | c :: rest =>
    match value? c with
    | none => .error (.foreignSymbol position)
    | some d => (values (position + 1) rest).map (d :: ·)

end Base32

namespace Octets

variable {n : Nat}

/-- The base-32 text. -/
def encode (a : Octets n) : String :=
  String.ofList ((digits 32 (Base32.textLength n) (a.value <<< Base32.spareBits n)).map
    Base32.symbol)

/-- The identifier that a base-32 text stands for. -/
def decode (text : String) : Except Base32.Fault (Octets n) :=
  let expected := Base32.textLength n
  if text.utf8ByteSize ≠ expected then
    .error (.wrongLength expected text.utf8ByteSize)
  else
    match Base32.values 0 text.toList with
    | .error fault => .error fault
    | .ok ds =>
      let padded := ofDigits 32 ds
      if padded % 1 <<< Base32.spareBits n ≠ 0 then .error (.spareBitsSet (expected - 1))
      else .ok (ofNat (padded >>> Base32.spareBits n))

end Octets

end CellSync
