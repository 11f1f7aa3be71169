/-
Mutation records and their wire form.

An op is written as its opcode, the number of its 64-bit slots, and the
slots, each least significant byte first. The slots of an opcode are
positional: an identifier takes three, a value reference two, a content
hash one. `Op.slots` and `Op.ofSlots?` are that table, once in each
direction; everything about bytes is in `encode` and `decode`.

Values live outside the ops, in the data segment of the transaction; a
`DataRef` names a range of it.
-/
import CellSync.TagId

namespace CellSync

-- ====================================================== value references

/-- A byte range of a data segment. -/
structure DataRef where
  offset : UInt64
  len : UInt64
deriving DecidableEq

namespace DataRef

/-- The position after the range, as a number that cannot wrap. -/
def stop (r : DataRef) : Nat := r.offset.toNat + r.len.toNat

/-- Whether the range lies inside a segment of `size` bytes. An end that does
not fit in 64 bits lies outside every segment. -/
def fits (r : DataRef) (size : Nat) : Bool := r.stop ≤ size && r.stop < 0x10000000000000000

end DataRef

/-- The content hash that goes with a value: the first word of its digest. -/
def valueHash (value : ByteArray) : UInt64 :=
  UInt64.ofNat (((Blake3.hash value).take 8).value)

-- ================================================================= codes

/-- The operation codes. -/
inductive OpCode where
  | noOp | metaAttr | upsertAttr | deleteAttr | deleteCell | upsertLink | deleteLink
deriving DecidableEq

namespace OpCode

/-- Every opcode. -/
def all : List OpCode :=
  [noOp, metaAttr, upsertAttr, deleteAttr, deleteCell, upsertLink, deleteLink]

/-- The number on the wire. -/
def toNat : OpCode → Nat
  | noOp => 0 | metaAttr => 1 | upsertAttr => 2 | deleteAttr => 3
  | deleteCell => 4 | upsertLink => 5 | deleteLink => 6

/-- How many slots follow. -/
def slotCount : OpCode → Nat
  | noOp => 0 | metaAttr => 8 | upsertAttr => 12 | deleteAttr => 9
  | deleteCell => 3 | upsertLink => 12 | deleteLink => 9

/-- The name in text. -/
def name : OpCode → String
  | noOp => "no_op" | metaAttr => "meta_attr" | upsertAttr => "upsert_attr"
  | deleteAttr => "delete_attr" | deleteCell => "delete_cell"
  | upsertLink => "upsert_link" | deleteLink => "delete_link"

/-- The opcode with a number. -/
def ofNat? (n : Nat) : Option OpCode := all.find? fun c => c.toNat == n

end OpCode

/-- The most slots an op may carry. -/
def maxSlots : Nat := 24

/-- The largest wire size of one op. -/
def maxOpSize : Nat := 2 + 8 * maxSlots

-- =================================================================== ops

/-- One mutation. -/
inductive Op where
  | noOp
  /-- A metadata value, not part of the cell's versioned state. -/
  | metaAttr (target attr : TagId) (value : DataRef)
  | upsertAttr (target attr index : TagId) (hash : UInt64) (value : DataRef)
  | deleteAttr (target attr index : TagId)
  | deleteCell (target : TagId)
  | upsertLink (source target attr index : TagId)
  | deleteLink (source target attr : TagId)
deriving DecidableEq

namespace Op

/-- The opcode of an op. -/
def code : Op → OpCode
  | noOp => .noOp
  | metaAttr .. => .metaAttr
  | upsertAttr .. => .upsertAttr
  | deleteAttr .. => .deleteAttr
  | deleteCell .. => .deleteCell
  | upsertLink .. => .upsertLink
  | deleteLink .. => .deleteLink

/-- The cell an op mutates. -/
def target? : Op → Option TagId
  | noOp => none
  | metaAttr target .. => some target
  | upsertAttr target .. => some target
  | deleteAttr target .. => some target
  | deleteCell target => some target
  | upsertLink _ target .. => some target
  | deleteLink _ target _ => some target

/-- The attribute an op touches. -/
def attr? : Op → Option TagId
  | noOp => none
  | metaAttr _ attr _ => some attr
  | upsertAttr _ attr .. => some attr
  | deleteAttr _ attr _ => some attr
  | deleteCell _ => none
  | upsertLink _ _ attr _ => some attr
  | deleteLink _ _ attr => some attr

/-- The value an op refers to. -/
def value? : Op → Option DataRef
  | metaAttr _ _ value => some value
  | upsertAttr _ _ _ _ value => some value
  | _ => none

/-- The size of an op on the wire. -/
def wireSize (op : Op) : Nat := 2 + 8 * op.code.slotCount

/-- The size of some ops on the wire. -/
def totalSize : List Op → Nat
  | [] => 0
  | op :: ops => op.wireSize + totalSize ops

-- ================================================================= slots

/-- The slots of an op, in order. -/
def slots : Op → List UInt64
  | noOp => []
  | metaAttr target attr value => target.triplet ++ attr.triplet ++ [value.offset, value.len]
  | upsertAttr target attr index hash value =>
      target.triplet ++ attr.triplet ++ index.triplet ++ [hash, value.offset, value.len]
  | deleteAttr target attr index => target.triplet ++ attr.triplet ++ index.triplet
  | deleteCell target => target.triplet
  | upsertLink source target attr index =>
      source.triplet ++ target.triplet ++ attr.triplet ++ index.triplet
  | deleteLink source target attr => source.triplet ++ target.triplet ++ attr.triplet

/-- The op of an opcode and its slots. -/
def ofSlots? : OpCode → List UInt64 → Option Op
  | .noOp, [] => some noOp
  | .metaAttr, [a, b, c, d, e, f, g, h] =>
      some (metaAttr (.ofTriplet a b c) (.ofTriplet d e f) ⟨g, h⟩)
  | .upsertAttr, [a, b, c, d, e, f, g, h, i, j, k, l] =>
      some (upsertAttr (.ofTriplet a b c) (.ofTriplet d e f) (.ofTriplet g h i) j ⟨k, l⟩)
  | .deleteAttr, [a, b, c, d, e, f, g, h, i] =>
      some (deleteAttr (.ofTriplet a b c) (.ofTriplet d e f) (.ofTriplet g h i))
  | .deleteCell, [a, b, c] => some (deleteCell (.ofTriplet a b c))
  | .upsertLink, [a, b, c, d, e, f, g, h, i, j, k, l] =>
      some (upsertLink (.ofTriplet a b c) (.ofTriplet d e f) (.ofTriplet g h i) (.ofTriplet j k l))
  | .deleteLink, [a, b, c, d, e, f, g, h, i] =>
      some (deleteLink (.ofTriplet a b c) (.ofTriplet d e f) (.ofTriplet g h i))
  | _, _ => none

-- ================================================================= bytes

/-- The wire form of an op. -/
def encode (op : Op) : List UInt8 :=
  UInt8.ofNat op.code.toNat :: UInt8.ofNat op.code.slotCount ::
    op.slots.flatMap fun slot => leBytes 8 slot.toNat

/-- The first `count` slots of some bytes. -/
def readSlots : Nat → List UInt8 → List UInt64
  | 0, _ => []
  | count + 1, bs => UInt64.ofNat (leValue (bs.take 8)) :: readSlots count (bs.drop 8)

/-- Why bytes do not begin with an op. -/
inductive Fault where
  | truncatedHead
  | unknownCode (code : Nat)
  | tooManySlots (count : Nat)
  | wrongSlots (code : OpCode) (count : Nat)
  | truncated (code : OpCode)
deriving DecidableEq

/-- The wording of a refusal. -/
def Fault.message : Fault → String
  | .truncatedHead => "truncated op header"
  | .unknownCode code => s!"unknown opcode {code}"
  | .tooManySlots count => s!"op carries {count} slots (max {maxSlots})"
  | .wrongSlots code count =>
      s!"{code.name} expects {code.slotCount} slots, got {count}"
  | .truncated code => s!"truncated {code.name} op"

/-- The op that some bytes begin with, and the bytes after it. -/
def decode : List UInt8 → Except Fault (Op × List UInt8)
  | number :: count :: rest =>
    match OpCode.ofNat? number.toNat with
    | none => .error (.unknownCode number.toNat)
    | some code =>
      if maxSlots < count.toNat then .error (.tooManySlots count.toNat)
      else if count.toNat ≠ code.slotCount then .error (.wrongSlots code count.toNat)
      else if (rest.take (8 * count.toNat)).length < 8 * count.toNat then .error (.truncated code)
      else
        match ofSlots? code (readSlots count.toNat rest) with
        | some op => .ok (op, rest.drop (8 * count.toNat))
        | none => .error (.truncated code)
  | _ => .error .truncatedHead

end Op

end CellSync
