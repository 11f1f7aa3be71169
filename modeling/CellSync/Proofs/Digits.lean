/-
Fixed-width numerals lose nothing.

Both directions of both byte orders: writing a number and reading it
back gives the number below the capacity of the width, and reading
digits and writing them back gives the digits. The second half is what
makes a form canonical, so that no two texts, words or frames stand for
one value.
-/
import CellSync.Octets
import Mathlib.Algebra.Group.Nat.Defs
import Mathlib.Data.List.Induction

namespace CellSync

-- =========================================== least significant first

/-- Numbers survive little-endian bytes up to the capacity of the width. -/
theorem leValue_leBytes (width value : Nat) :
    leValue (leBytes width value) = value % 256 ^ width := by
  induction width generalizing value with
  | zero => simp [leBytes, leValue, Nat.mod_one]
  | succ width ih =>
      have hhead : (UInt8.ofNat value).toNat = value % 256 := by simp
      rw [leBytes, leValue, ih, hhead, Nat.pow_succ, Nat.mul_comm (256 ^ width) 256,
        Nat.mod_mul]

/-- Numbers within the capacity of the width survive little-endian bytes. -/
theorem leValue_leBytes_of_lt {width value : Nat} (h : value < 256 ^ width) :
    leValue (leBytes width value) = value := by
  rw [leValue_leBytes, Nat.mod_eq_of_lt h]

/-- Little-endian bytes spell a number below the capacity of their width. -/
theorem leValue_lt (bs : List UInt8) : leValue bs < 256 ^ bs.length := by
  induction bs with
  | nil => simp [leValue]
  | cons b rest ih =>
      have hb : b.toNat < 256 := b.toNat_lt
      rw [leValue, List.length_cons, Nat.pow_succ]
      omega

/-- Bytes survive their little-endian number: there is one spelling only. -/
theorem leBytes_leValue (bs : List UInt8) : leBytes bs.length (leValue bs) = bs := by
  induction bs with
  | nil => rfl
  | cons b rest ih =>
      have hb : b.toNat < 256 := b.toNat_lt
      have hhead : UInt8.ofNat (b.toNat + 256 * leValue rest) = b := by
        apply UInt8.toNat.inj
        rw [UInt8.toNat_ofNat']
        omega
      have htail : (b.toNat + 256 * leValue rest) / 256 = leValue rest := by omega
      rw [leValue, List.length_cons, leBytes, hhead, htail, ih]

/-- Bytes of a known width survive their little-endian number. -/
theorem leBytes_leValue_of_length {width : Nat} {bs : List UInt8} (h : bs.length = width) :
    leBytes width (leValue bs) = bs := by
  rw [← h, leBytes_leValue]

-- ============================================ most significant first

theorem ofDigits_concat (base : Nat) (ds : List Nat) (d : Nat) :
    ofDigits base (ds ++ [d]) = ofDigits base ds * base + d := by
  simp [ofDigits]

/-- Digits stay below their base. -/
theorem lt_of_mem_digits {base width value d : Nat} (hbase : 0 < base)
    (h : d ∈ digits base width value) : d < base := by
  induction width generalizing value with
  | zero => cases h
  | succ width ih =>
      rw [digits, List.mem_append, List.mem_singleton] at h
      rcases h with h | rfl
      · exact ih h
      · exact Nat.mod_lt _ hbase

/-- Numbers survive their digits up to the capacity of the width. -/
theorem ofDigits_digits (base width value : Nat) :
    ofDigits base (digits base width value) = value % base ^ width := by
  induction width generalizing value with
  | zero => simp [digits, ofDigits, Nat.mod_one]
  | succ width ih =>
      rw [digits, ofDigits_concat, ih, Nat.pow_succ, Nat.mul_comm (base ^ width) base,
        Nat.mod_mul, Nat.mul_comm base, Nat.add_comm]

/-- Digits spell a number below the capacity of their width. -/
theorem ofDigits_lt {base : Nat} {ds : List Nat} (h : ∀ d ∈ ds, d < base) :
    ofDigits base ds < base ^ ds.length := by
  induction ds using List.reverseRecOn with
  | nil => simp [ofDigits]
  | append_singleton ds d ih =>
      have hinit := ih fun e he => h e (List.mem_append_left _ he)
      have hlast : d < base := h d (by simp)
      rw [ofDigits_concat, List.length_append, List.length_singleton, Nat.pow_succ]
      calc ofDigits base ds * base + d
          < ofDigits base ds * base + base := by omega
        _ = (ofDigits base ds + 1) * base := by rw [Nat.add_mul, Nat.one_mul]
        _ ≤ base ^ ds.length * base := Nat.mul_le_mul_right base hinit

/-- Digits survive their number: there is one spelling only. -/
theorem digits_ofDigits {base : Nat} {ds : List Nat} (h : ∀ d ∈ ds, d < base) :
    digits base ds.length (ofDigits base ds) = ds := by
  induction ds using List.reverseRecOn with
  | nil => rfl
  | append_singleton ds d ih =>
      have hlast : d < base := h d (by simp)
      have hshift : (ofDigits base ds * base + d) / base = ofDigits base ds := by
        rw [Nat.add_comm, Nat.add_mul_div_right _ _ (by omega), Nat.div_eq_of_lt hlast,
          Nat.zero_add]
      have hlow : (ofDigits base ds * base + d) % base = d := by
        rw [Nat.add_comm, Nat.add_mul_mod_self_right, Nat.mod_eq_of_lt hlast]
      rw [ofDigits_concat, List.length_append, List.length_singleton, digits, hshift, hlow,
        ih fun e he => h e (List.mem_append_left _ he)]

/-- Digits take no notice of what is above their width. -/
theorem digits_mod (base width value : Nat) :
    digits base width (value % base ^ width) = digits base width value := by
  induction width generalizing value with
  | zero => rfl
  | succ width ih =>
      rw [digits, digits, Nat.pow_succ, Nat.mul_comm, Nat.mod_mul_right_div_self, ih,
        Nat.mod_mul_right_mod]

/-- The last digits of a number are its digits at a smaller width. -/
theorem drop_digits (base more width value : Nat) :
    (digits base (more + width) value).drop more = digits base width value := by
  induction width generalizing value with
  | zero => rw [digits, List.drop_of_length_le (by rw [length_digits]; exact Nat.le_refl _)]
  | succ width ih =>
      have hlen : more ≤ (digits base (more + width) (value / base)).length := by
        rw [length_digits]
        omega
      show (digits base (more + width) (value / base) ++ [value % base]).drop more = _
      rw [List.drop_append_of_le_length hlen, ih, digits]

-- =================================================== fixed-size bytes

namespace Octets

variable {n : Nat}

theorem value_ofNat (v : Nat) : (ofNat v : Octets n).value = v % 256 ^ n := by
  show v % 1 <<< (8 * n) = v % 256 ^ n
  rw [Nat.one_shiftLeft, Nat.pow_mul]

theorem value_lt_pow (a : Octets n) : a.value < 256 ^ n := by
  have h := a.value_lt
  rw [Nat.one_shiftLeft, Nat.pow_mul] at h
  exact h

/-- The digits of an identifier, in a base of which its size is a power,
spell it again. -/
theorem ofNat_ofDigits {base width : Nat} (h : base ^ width = 256 ^ n) (a : Octets n) :
    (ofNat (ofDigits base (digits base width a.value)) : Octets n) = a := by
  apply ext_value
  rw [value_ofNat, ofDigits_digits, h, Nat.mod_mod, Nat.mod_eq_of_lt a.value_lt_pow]

/-- Digits that fill an identifier are the identifier's digits. -/
theorem digits_value_ofNat {base width : Nat} {ds : List Nat} (hlen : ds.length = width)
    (h : base ^ width = 256 ^ n) (hlt : ∀ d ∈ ds, d < base) :
    digits base width (ofNat (ofDigits base ds) : Octets n).value = ds := by
  subst hlen
  rw [value_ofNat, Nat.mod_eq_of_lt (h ▸ ofDigits_lt hlt), digits_ofDigits hlt]

-- ========================================================= the bytes

/-- The bytes of an identifier spell it again. -/
theorem ofBytes_toBytes (a : Octets n) : ofBytes a.toBytes = a := by
  have hbytes : a.toBytes.map UInt8.toNat = digits 256 n a.value := by
    rw [toBytes, List.map_map]
    refine (List.map_congr_left fun d hd => ?_).trans (List.map_id _)
    show (UInt8.ofNat d).toNat = d
    rw [UInt8.toNat_ofNat', Nat.mod_eq_of_lt (lt_of_mem_digits (by decide) hd)]
  rw [ofBytes, hbytes]
  exact ofNat_ofDigits rfl a

/-- As many bytes as an identifier has are the identifier's bytes. -/
theorem toBytes_ofBytes {bs : List UInt8} (h : bs.length = n) :
    (ofBytes bs : Octets n).toBytes = bs := by
  have hlt : ∀ d ∈ bs.map UInt8.toNat, d < 256 := by
    intro d hd
    obtain ⟨b, -, rfl⟩ := List.mem_map.mp hd
    exact b.toNat_lt
  rw [toBytes, ofBytes, digits_value_ofNat (by rw [List.length_map, h]) rfl hlt, List.map_map]
  refine (List.map_congr_left fun b _ => ?_).trans (List.map_id _)
  exact UInt8.ofNat_toNat

/-- The last bytes of an identifier. -/
theorem toBytes_takeLast {more m : Nat} (a : Octets (more + m)) :
    (a.takeLast m).toBytes = a.toBytes.drop more := by
  rw [toBytes, toBytes, takeLast, value_ofNat, digits_mod, ← List.map_drop, drop_digits]

-- ========================================================= the words

/-- As many words as make up an identifier hold as much as its bytes. -/
theorem word_pow {k : Nat} (h : 8 * k = n) : 0x10000000000000000 ^ k = 256 ^ n := by
  rw [← h, Nat.pow_mul]

/-- The words of an identifier spell it again. -/
theorem ofWords_toWords {k : Nat} (h : 8 * k = n) (a : Octets n) : ofWords a.toWords = a := by
  have hk : n / 8 = k := by omega
  have hwords : a.toWords.map UInt64.toNat = digits 0x10000000000000000 k a.value := by
    rw [toWords, hk, List.map_map]
    refine (List.map_congr_left fun d hd => ?_).trans (List.map_id _)
    show (UInt64.ofNat d).toNat = d
    rw [UInt64.toNat_ofNat', Nat.mod_eq_of_lt (lt_of_mem_digits (by decide) hd)]
  rw [ofWords, hwords]
  exact ofNat_ofDigits (word_pow h) a

/-- As many words as an identifier has are the identifier's words. -/
theorem toWords_ofWords {ws : List UInt64} (h : 8 * ws.length = n) :
    (ofWords ws : Octets n).toWords = ws := by
  have hk : n / 8 = ws.length := by omega
  have hlt : ∀ d ∈ ws.map UInt64.toNat, d < 0x10000000000000000 := by
    intro d hd
    obtain ⟨w, -, rfl⟩ := List.mem_map.mp hd
    exact w.toNat_lt
  rw [toWords, ofWords, hk, digits_value_ofNat (List.length_map ..) (word_pow h) hlt,
    List.map_map]
  refine (List.map_congr_left fun w _ => ?_).trans (List.map_id _)
  exact UInt64.ofNat_toNat

end Octets

end CellSync
