/-
Byte strings of one fixed length, held as the number they spell.

An identifier of `n` bytes is the number with `8 n` bits whose bytes,
most significant first, are the identifier's bytes. Byte order is then
numeric order, and the bytes, the hex text, the base-32 text and the
64-bit words of an identifier are its digits in four bases.
-/
import CellSync.Digits

namespace CellSync

/-- Exactly `n` bytes, held as the number they spell with the most
significant byte first. -/
structure Octets (n : Nat) where
  value : Nat
  value_lt : value < 1 <<< (8 * n)
deriving DecidableEq

namespace Octets

variable {n : Nat}

-- ============================================================= order

instance : LT (Octets n) := ⟨fun a b => a.value < b.value⟩

instance : LE (Octets n) := ⟨fun a b => a.value ≤ b.value⟩

instance (a b : Octets n) : Decidable (a < b) :=
  inferInstanceAs (Decidable (a.value < b.value))

instance (a b : Octets n) : Decidable (a ≤ b) :=
  inferInstanceAs (Decidable (a.value ≤ b.value))

theorem ext_value {a b : Octets n} (h : a.value = b.value) : a = b := by
  cases a; cases b; cases h; rfl

-- ======================================================== the number

/-- The `n` lowest bytes of a number. -/
def ofNat (v : Nat) : Octets n :=
  ⟨v % 1 <<< (8 * n), Nat.mod_lt _ (by rw [Nat.one_shiftLeft]; exact Nat.two_pow_pos _)⟩

/-- All bytes zero. -/
def zero : Octets n := ofNat 0

/-- Whether all bytes are zero. -/
def isZero (a : Octets n) : Bool := a.value == 0

-- ========================================================= the bytes

/-- The bytes, most significant first. -/
def toBytes (a : Octets n) : List UInt8 := (digits 256 n a.value).map UInt8.ofNat

/-- The number that some bytes spell; of too many bytes the last `n` count. -/
def ofBytes (bs : List UInt8) : Octets n := ofNat (ofDigits 256 (bs.map UInt8.toNat))

/-- The value of a byte string that has exactly the right length. -/
def ofBytes? (bs : List UInt8) : Option (Octets n) :=
  if bs.length = n then some (ofBytes bs) else none

theorem length_toBytes (a : Octets n) : a.toBytes.length = n := by
  simp [toBytes, length_digits]

-- ========================================================= the words

/-- The 64-bit words, most significant first, of a length that eight divides. -/
def toWords (a : Octets n) : List UInt64 :=
  (digits 0x10000000000000000 (n / 8) a.value).map UInt64.ofNat

/-- The value that some 64-bit words spell, most significant first. -/
def ofWords (ws : List UInt64) : Octets n :=
  ofNat (ofDigits 0x10000000000000000 (ws.map UInt64.toNat))

-- ======================================================= leading bytes

/-- The first `m` bytes. -/
def take (m : Nat) (a : Octets n) : Octets m := ofNat (a.value >>> (8 * (n - m)))

/-- The last `m` bytes. -/
def takeLast (m : Nat) (a : Octets n) : Octets m := ofNat a.value

end Octets

end CellSync
