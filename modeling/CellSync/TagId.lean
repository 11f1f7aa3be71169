/-
Identifiers of cells, attributes and series positions.

Twenty-four bytes, most often the head of the hash of a name. On the
wire an identifier takes three 64-bit words, most significant first; its
text is 39 base-32 symbols.
-/
import CellSync.Blake3
import CellSync.Octets.Base32

namespace CellSync

/-- An identifier of 24 bytes. -/
structure TagId where
  octets : Octets 24
deriving DecidableEq

namespace TagId

instance : LT TagId := ⟨fun a b => a.octets < b.octets⟩

instance (a b : TagId) : Decidable (a < b) := inferInstanceAs (Decidable (a.octets < b.octets))

instance : LE TagId := ⟨fun a b => a.octets ≤ b.octets⟩

instance (a b : TagId) : Decidable (a ≤ b) := inferInstanceAs (Decidable (a.octets ≤ b.octets))

/-- The identifier with all bytes zero. -/
def nil : TagId := ⟨.zero⟩

/-- Whether all bytes are zero. -/
def isNil (t : TagId) : Bool := t.octets.isZero

/-- The identifier of a name: the first 24 bytes of its hash. -/
def ofName (name : String) : TagId := ⟨(Blake3.hash name.toUTF8).take 24⟩

/-- The identifier with the three given words, most significant first. -/
def ofTriplet (hi mid lo : UInt64) : TagId := ⟨.ofWords [hi, mid, lo]⟩

/-- The three words, most significant first. -/
def triplet (t : TagId) : List UInt64 := t.octets.toWords

/-- The identifier whose last word is a small number. -/
def ofWord (w : UInt64) : TagId := ofTriplet 0 0 w

/-- The 39-symbol text. -/
def encode (t : TagId) : String := t.octets.encode

/-- The identifier that a text stands for. -/
def decode (text : String) : Except Base32.Fault TagId := (Octets.decode text).map TagId.mk

/-- One of each run of equal neighbours. -/
def squeeze : List TagId → List TagId
  | a :: b :: rest => if a = b then squeeze (b :: rest) else a :: squeeze (b :: rest)
  | short => short

/-- The identifiers of a list, each once and in ascending order. -/
def distinct (ts : List TagId) : List TagId :=
  squeeze (ts.mergeSort fun a b => decide (a ≤ b))

end TagId

end CellSync
