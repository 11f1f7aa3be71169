/-
The texts of an identifier: what they spell, and how long they are.

Hexadecimal text reads back as the bytes that it was written from:
sixteen digits are read back one by one, a byte is its two digits, and
the rest is by induction on the bytes. In both texts, hexadecimal and
base 32, a symbol is one byte, so their sizes are those of the numerals.
-/
import CellSync.Octets.Base32
import CellSync.Octets.Hex
import CellSync.Proofs.Digits

namespace CellSync

/-- Text of characters that take one byte each has one byte for each. -/
theorem size_utf8Encode {cs : List Char} (h : ∀ c ∈ cs, c.utf8Size = 1) :
    cs.utf8Encode.size = cs.length := by
  induction cs with
  | nil => rfl
  | cons c cs ih =>
      obtain ⟨hc, hcs⟩ := List.forall_mem_cons.mp h
      have hone : [c].utf8Encode.size = 1 := by
        rw [List.utf8Encode, List.size_toByteArray, List.flatMap_singleton,
          String.length_utf8EncodeChar, hc]
      rw [List.utf8Encode_cons, ByteArray.size_append, hone, ih hcs, List.length_cons]
      exact Nat.add_comm _ _

namespace Hex

/-- A digit is read back as the number that it stands for. -/
theorem value?_digit {d : Nat} (h : d < 16) : value? (digit d) = some d := by
  have hall : ∀ d < 16, value? (digit d) = some d := by decide
  exact hall d h

/-- A byte is its high half times sixteen and its low half. -/
theorem ofNat_halves (b : UInt8) : UInt8.ofNat (16 * (b.toNat / 16) + b.toNat % 16) = b := by
  rw [Nat.div_add_mod, UInt8.ofNat_toNat]

/-- So are digits in pairs, as the bytes that they were written from. -/
theorem decodeChars?_digits (bs : List UInt8) :
    decodeChars? (bs.flatMap fun b => [digit (b.toNat / 16), digit (b.toNat % 16)]) = some bs := by
  induction bs with
  | nil => rfl
  | cons b bs ih =>
      have hbyte : b.toNat < 256 := b.toNat_lt
      have hhigh : value? (digit (b.toNat / 16)) = some (b.toNat / 16) := value?_digit (by omega)
      have hlow : value? (digit (b.toNat % 16)) = some (b.toNat % 16) := value?_digit (by omega)
      rw [List.flatMap_cons, List.cons_append, List.cons_append, List.nil_append, decodeChars?,
        hhigh, hlow, ih]
      exact congrArg (fun c => some (c :: bs)) (ofNat_halves b)

/-- A numeral is read back as its bytes. -/
theorem decode?_encodeBytes (bs : List UInt8) : decode? (encodeBytes bs) = some bs := by
  rw [decode?, encodeBytes, String.toList_ofList]
  exact decodeChars?_digits bs

/-- A digit is one byte of text. -/
theorem utf8Size_digit {d : Nat} (h : d < 16) : (digit d).utf8Size = 1 := by
  have hall : ∀ d < 16, (digit d).utf8Size = 1 := by decide
  exact hall d h

/-- A numeral takes two bytes for each that it stands for. -/
theorem utf8ByteSize_encodeBytes (bs : List UInt8) :
    (encodeBytes bs).utf8ByteSize = 2 * bs.length := by
  have hdigits : ∀ c ∈ bs.flatMap fun b => [digit (b.toNat / 16), digit (b.toNat % 16)],
      c.utf8Size = 1 := by
    intro c hc
    obtain ⟨b, -, hcb⟩ := List.mem_flatMap.mp hc
    have hbyte : b.toNat < 256 := b.toNat_lt
    rcases List.mem_cons.mp hcb with rfl | hlow
    · exact utf8Size_digit (by omega)
    · rw [List.mem_singleton.mp hlow]
      exact utf8Size_digit (by omega)
  rw [encodeBytes, String.utf8ByteSize, String.toByteArray_ofList, size_utf8Encode hdigits,
    List.length_flatMap]
  simp only [List.length_cons, List.length_nil, List.map_const', List.sum_replicate_nat]
  exact Nat.mul_comm _ _

end Hex

/-- So is a symbol of the other alphabet. -/
theorem Base32.utf8Size_symbol {d : Nat} (h : d < 32) : (symbol d).utf8Size = 1 := by
  have hall : ∀ d < 32, (symbol d).utf8Size = 1 := by decide +kernel
  exact hall d h

namespace Octets

variable {n : Nat}

/-- An identifier is read back from its numeral. -/
theorem ofHex?_toHex (a : Octets n) : (ofHex? a.toHex : Option (Octets n)) = some a := by
  rw [ofHex?, toHex, Hex.decode?_encodeBytes, Option.bind_some, ofBytes?,
    if_pos a.length_toBytes, ofBytes_toBytes]

theorem utf8ByteSize_toHex (a : Octets n) : a.toHex.utf8ByteSize = 2 * n := by
  rw [toHex, Hex.utf8ByteSize_encodeBytes, a.length_toBytes]

theorem utf8ByteSize_encode (a : Octets n) : a.encode.utf8ByteSize = Base32.textLength n := by
  have hsymbols : ∀ c ∈ (digits 32 (Base32.textLength n)
      (a.value <<< Base32.spareBits n)).map Base32.symbol, c.utf8Size = 1 := by
    intro c hc
    obtain ⟨d, hd, rfl⟩ := List.mem_map.mp hc
    exact Base32.utf8Size_symbol (lt_of_mem_digits (by decide) hd)
  rw [encode, String.utf8ByteSize, String.toByteArray_ofList, size_utf8Encode hsymbols,
    List.length_map, length_digits]

end Octets

end CellSync
