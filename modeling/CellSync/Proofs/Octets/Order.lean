/-
Identifiers sort as their bytes do, as their texts do, and as their words.

Two numerals of one width compare symbol by symbol as the numbers that
they spell, whatever the symbols are, as long as a greater digit has a
greater symbol (`map_digits_lt`). The bytes of an identifier, its base-32
text and its words are three such numerals. None of the orders has two
values before each other, so each of the three decides the order of the
identifiers (`lt_iff_of_lt`).
-/
import CellSync.Octets.Base32
import CellSync.Proofs.Digits

namespace CellSync

-- ==================================================== the leading digit

/-- A numeral begins with the digit of its highest place; what follows is the
numeral of one place less. -/
theorem digits_succ_eq_cons (base width value : Nat) :
    digits base (width + 1) value
      = value / base ^ width % base :: digits base width value := by
  induction width generalizing value with
  | zero => simp [digits]
  | succ width ih =>
      have hplace : value / base / base ^ width = value / base ^ (width + 1) := by
        rw [Nat.div_div_eq_div_mul, Nat.pow_succ, Nat.mul_comm base]
      rw [digits, ih, hplace]
      rfl

/-- Numerals compare as the numbers that they spell. -/
theorem map_digits_lt {α : Type} [LT α] {base : Nat} {symbol : Nat → α} (hbase : 0 < base)
    (hsymbol : ∀ d e, d < e → e < base → symbol d < symbol e) {width a b : Nat}
    (h : a % base ^ width < b % base ^ width) :
    (digits base width a).map symbol < (digits base width b).map symbol := by
  induction width with
  | zero => simp [Nat.mod_one] at h
  | succ width ih =>
      rw [digits_succ_eq_cons, digits_succ_eq_cons, List.map_cons, List.map_cons,
        List.cons_lt_cons_iff]
      rw [Nat.pow_succ, Nat.mod_mul, Nat.mod_mul] at h
      have hlow : b % base ^ width < base ^ width := Nat.mod_lt _ (Nat.pow_pos hbase)
      rcases Nat.lt_trichotomy (a / base ^ width % base) (b / base ^ width % base)
        with hlt | heq | hgt
      · exact .inl (hsymbol _ _ hlt (Nat.mod_lt _ hbase))
      · rw [heq] at h ⊢
        exact .inr ⟨rfl, ih (Nat.lt_of_add_lt_add_right h)⟩
      · -- A greater leading digit outweighs all that follows.
        refine absurd h (Nat.not_lt.mpr ?_)
        calc b % base ^ width + base ^ width * (b / base ^ width % base)
            ≤ base ^ width * (b / base ^ width % base + 1) := by
              rw [Nat.mul_add, Nat.mul_one, Nat.add_comm]
              exact Nat.add_le_add_left (Nat.le_of_lt hlow) _
          _ ≤ base ^ width * (a / base ^ width % base) := Nat.mul_le_mul_left _ hgt
          _ ≤ a % base ^ width + base ^ width * (a / base ^ width % base) :=
              Nat.le_add_left _ _

-- ======================================================== identifiers

namespace Base32

/-- The alphabet is in ascending order. -/
theorem symbol_lt_symbol (d e : Nat) (h : d < e) (he : e < 32) : symbol d < symbol e := by
  have hall : ∀ e < 32, ∀ d < e, symbol d < symbol e := by decide +kernel
  exact hall e he d h

/-- The symbols of a text hold the bytes and the spare bits. -/
theorem pow_textLength (n : Nat) : 32 ^ textLength n = 256 ^ n * 2 ^ spareBits n := by
  have hbits : 5 * textLength n = 8 * n + spareBits n := by
    unfold spareBits textLength
    omega
  calc 32 ^ textLength n
      = 2 ^ (5 * textLength n) := by rw [Nat.pow_mul]
    _ = 256 ^ n * 2 ^ spareBits n := by rw [hbits, Nat.pow_add, Nat.pow_mul]

end Base32

namespace Octets

variable {n : Nat} {a b : Octets n}

/-- Bytes sort as the identifiers that they are the bytes of. -/
theorem toBytes_lt_toBytes (h : a < b) : a.toBytes < b.toBytes := by
  refine map_digits_lt (by decide) (fun d e hde he => ?_) ?_
  · rw [UInt8.lt_iff_toNat_lt, UInt8.toNat_ofNat', UInt8.toNat_ofNat', Nat.mod_eq_of_lt he,
      Nat.mod_eq_of_lt (Nat.lt_trans hde he)]
    exact hde
  · rw [Nat.mod_eq_of_lt a.value_lt_pow, Nat.mod_eq_of_lt b.value_lt_pow]
    exact h

/-- Texts sort as the identifiers that they are the texts of. -/
theorem encode_lt_encode (h : a < b) : a.encode < b.encode := by
  have hfits : ∀ c : Octets n, c.value <<< Base32.spareBits n < 32 ^ Base32.textLength n := by
    intro c
    rw [Base32.pow_textLength, Nat.shiftLeft_eq]
    exact Nat.mul_lt_mul_of_pos_right c.value_lt_pow (Nat.two_pow_pos _)
  rw [String.lt_iff, encode, encode, String.toList_ofList, String.toList_ofList]
  refine map_digits_lt (by decide) Base32.symbol_lt_symbol ?_
  rw [Nat.mod_eq_of_lt (hfits a), Nat.mod_eq_of_lt (hfits b), Nat.shiftLeft_eq, Nat.shiftLeft_eq]
  exact Nat.mul_lt_mul_of_pos_right h (Nat.two_pow_pos _)

/-- Words sort as the identifiers that they are the words of. -/
theorem toWords_lt_toWords {k : Nat} (hsize : 8 * k = n) (h : a < b) :
    a.toWords < b.toWords := by
  have hk : n / 8 = k := by omega
  rw [toWords, toWords, hk]
  apply map_digits_lt (by decide)
  · intro d e hde he
    rw [UInt64.lt_iff_toNat_lt, UInt64.toNat_ofNat', UInt64.toNat_ofNat', Nat.mod_eq_of_lt he,
      Nat.mod_eq_of_lt (Nat.lt_trans hde he)]
    exact hde
  · rw [word_pow hsize, Nat.mod_eq_of_lt a.value_lt_pow, Nat.mod_eq_of_lt b.value_lt_pow]
    exact h

/-- A form that sorts as the identifiers do tells their order. -/
theorem lt_iff_of_lt {α : Type} [LT α] {f : Octets n → α}
    (hasymm : ∀ x y : α, x < y → ¬y < x) (hmono : ∀ {a b : Octets n}, a < b → f a < f b) :
    a < b ↔ f a < f b := by
  constructor
  · exact hmono
  · intro h
    rcases Nat.lt_trichotomy a.value b.value with hlt | heq | hgt
    · exact hlt
    · rw [ext_value heq] at h
      exact absurd h (hasymm _ _ h)
    · exact absurd (hmono hgt) (hasymm _ _ h)

end Octets

end CellSync
