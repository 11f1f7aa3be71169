/-
The texts and the words of identifiers are canonical.

Reading a text takes it symbol by symbol, so what is read is what the
symbols spell and nothing else (`values_eq_ok_iff`). The spare bits of the
last symbol have to be zero, and so the number that a text spells is that
of one identifier, and the text is the one that is written for it
(`decode_eq_ok_iff`): a wrong length, a foreign symbol and spare bits that
are set are no text of any identifier. Both kinds of identifiers have
texts and words of this one form (`tid_tagId_canonical`).
-/
import CellSync.Proofs.Octets.Order
import CellSync.Proofs.Octets.Text
import CellSync.TagId
import CellSync.Tid
import Mathlib.Logic.Equiv.Basic

namespace CellSync

-- =============================================================== symbols

namespace Base32

theorem value?_symbol {d : Nat} (h : d < 32) : value? (symbol d) = some d := by
  have hall : ∀ d < 32, value? (symbol d) = some d := by decide +kernel
  exact hall d h

/-- A symbol is that of the number that it stands for. -/
theorem symbol_of_value? {c : Char} {d : Nat} (h : value? c = some d) : d < 32 ∧ symbol d = c := by
  obtain ⟨hd, hc, -⟩ := List.idxOf?_eq_some_iff.mp h
  constructor
  · exact hd
  · rw [symbol, List.getD_eq_getElem?_getD, List.getElem?_eq_getElem hd, hc, Option.getD_some]

/-- Symbols are read as the numbers that they stand for, and no other characters
are read. -/
theorem values_eq_ok_iff {position : Nat} {cs : List Char} {ds : List Nat} :
    values position cs = .ok ds ↔ (∀ d ∈ ds, d < 32) ∧ cs = ds.map symbol := by
  induction cs generalizing position ds with
  | nil =>
      constructor
      · intro h
        cases h
        simp
      · rintro ⟨-, hcs⟩
        rw [List.map_eq_nil_iff.mp hcs.symm]
        rfl
  | cons c cs ih =>
      rw [values]
      constructor
      · intro h
        cases hvalue : value? c with
        | none => rw [hvalue] at h; cases h
        | some d =>
            rw [hvalue] at h
            cases hrest : values (position + 1) cs with
            | error fault => rw [hrest] at h; cases h
            | ok es =>
                rw [hrest] at h
                cases h
                obtain ⟨hd, hc⟩ := symbol_of_value? hvalue
                obtain ⟨hes, hcs⟩ := ih.mp hrest
                exact ⟨List.forall_mem_cons.mpr ⟨hd, hes⟩, by rw [List.map_cons, hc, hcs]⟩
      · rintro ⟨hds, hcs⟩
        cases ds with
        | nil => cases hcs
        | cons d es =>
            obtain ⟨hd, hes⟩ := List.forall_mem_cons.mp hds
            rw [List.map_cons, List.cons.injEq] at hcs
            obtain ⟨rfl, hcs⟩ := hcs
            rw [value?_symbol hd]
            show (values (position + 1) cs).map (d :: ·) = _
            rw [ih.mpr ⟨hes, hcs⟩]
            rfl

end Base32

-- ================================================================== text

namespace Octets

variable {n : Nat} {a : Octets n}

/-- What the text of an identifier spells: the identifier, above spare bits that
are zero. -/
def padded (a : Octets n) : Nat := a.value <<< Base32.spareBits n

theorem padded_lt (a : Octets n) : a.padded < 32 ^ Base32.textLength n := by
  rw [Base32.pow_textLength, padded, Nat.shiftLeft_eq]
  exact Nat.mul_lt_mul_of_pos_right a.value_lt_pow (Nat.two_pow_pos _)

theorem length_encode (a : Octets n) : a.encode.length = Base32.textLength n := by
  rw [encode, String.length_ofList, List.length_map, length_digits]

/-- Reading undoes writing. -/
theorem decode_encode (a : Octets n) : decode a.encode = .ok a := by
  have hvalues : Base32.values 0 a.encode.toList
      = .ok (digits 32 (Base32.textLength n) a.padded) := by
    rw [Base32.values_eq_ok_iff]
    refine ⟨fun d hd => lt_of_mem_digits (by decide) hd, ?_⟩
    rw [encode, String.toList_ofList]
    rfl
  have hspare : a.padded % 1 <<< Base32.spareBits n = 0 := by
    rw [padded, Nat.shiftLeft_eq, Nat.shiftLeft_eq, Nat.one_mul, Nat.mul_mod_left]
  have hvalue : a.padded >>> Base32.spareBits n = a.value := Nat.shiftLeft_shiftRight ..
  unfold decode
  dsimp only
  rw [utf8ByteSize_encode, if_neg (by simp), hvalues]
  dsimp only
  rw [ofDigits_digits, Nat.mod_eq_of_lt a.padded_lt, hspare, if_neg (by simp), hvalue]
  apply congrArg Except.ok
  apply ext_value
  rw [value_ofNat, Nat.mod_eq_of_lt a.value_lt_pow]

/-- What is read is what is written: there is one text only. -/
theorem eq_encode_of_decode {text : String} (h : decode text = .ok a) : text = a.encode := by
  unfold decode at h
  dsimp only at h
  split at h
  · cases h
  next hsize =>
    split at h
    · cases h
    next ds hvalues =>
      split at h
      · cases h
      next hspare =>
        obtain ⟨hds, htext⟩ := Base32.values_eq_ok_iff.mp hvalues
        have hlength : ds.length = Base32.textLength n := by
          -- Each symbol is one byte.
          have hone : ∀ c ∈ text.toList, c.utf8Size = 1 := by
            intro c hc
            rw [htext] at hc
            obtain ⟨d, hd, rfl⟩ := List.mem_map.mp hc
            exact Base32.utf8Size_symbol (hds d hd)
          have hbytes : text.utf8ByteSize = text.toList.length := by
            rw [← size_utf8Encode hone, String.utf8ByteSize, ← String.toByteArray_ofList,
              String.ofList_toList]
          rw [Decidable.not_not.mp hsize, htext, List.length_map] at hbytes
          exact hbytes.symm
        have hfits : ofDigits 32 ds < 256 ^ n * 2 ^ Base32.spareBits n := by
          rw [← Base32.pow_textLength, ← hlength]
          exact ofDigits_lt hds
        have hpadded : a.padded = ofDigits 32 ds := by
          have hzero : ofDigits 32 ds % 2 ^ Base32.spareBits n = 0 := by
            rw [Decidable.not_not, Nat.one_shiftLeft] at hspare
            exact hspare
          have hquotient : ofDigits 32 ds / 2 ^ Base32.spareBits n < 256 ^ n :=
            Nat.div_lt_of_lt_mul (Nat.mul_comm _ _ ▸ hfits)
          rw [padded, ← Except.ok.inj h, value_ofNat, Nat.shiftRight_eq_div_pow,
            Nat.mod_eq_of_lt hquotient, Nat.shiftLeft_eq]
          exact Nat.div_mul_cancel (Nat.dvd_of_mod_eq_zero hzero)
        have hdigits : digits 32 (Base32.textLength n) a.padded = ds := by
          rw [hpadded, ← hlength, digits_ofDigits hds]
        rw [encode]
        show text = String.ofList ((digits 32 (Base32.textLength n) a.padded).map Base32.symbol)
        rw [hdigits, ← htext, String.ofList_toList]

/-- A text is read as an identifier exactly when it is the one that is written
for it. -/
theorem decode_eq_ok_iff {text : String} : decode text = .ok a ↔ text = a.encode := by
  constructor
  · exact eq_encode_of_decode
  · rintro rfl
    exact decode_encode a

end Octets

-- ========================================================= canonical form

/-- What makes a text and a list of words canonical forms of identifiers that have
so many bytes: an identifier is any bytes of that number, its text has so many
symbols of one byte each and is the only one that is read as the identifier,
its words give it back, and bytes, texts and words compare alike. -/
structure Canonical {α : Type} [LT α] (size symbols words : Nat) (toBytes : α → List UInt8)
    (encode : α → String) (Reads : String → α → Prop)
    (toWords : α → List UInt64) (ofWords : List UInt64 → α) : Prop where
  exists_unique_of_bytes : ∀ bs, bs.length = size ↔ ∃! a, toBytes a = bs
  length_text : ∀ a, (encode a).length = symbols ∧ (encode a).utf8ByteSize = symbols
  reads_iff : ∀ text a, Reads text a ↔ text = encode a
  ofWords_toWords : ∀ a, ofWords (toWords a) = a
  toWords_ofWords : ∀ ws, ws.length = words → toWords (ofWords ws) = ws
  lt_iff_bytes : ∀ a b, a < b ↔ toBytes a < toBytes b
  bytes_iff_text : ∀ a b, toBytes a < toBytes b ↔ encode a < encode b
  bytes_iff_words : ∀ a b, toBytes a < toBytes b ↔ toWords a < toWords b

/-- Bytes of one number, with their text and their words. -/
theorem Octets.canonical {n k : Nat} (hsize : 8 * k = n) :
    Canonical (α := Octets n) n (Base32.textLength n) k toBytes encode
      (fun text a => decode text = .ok a) toWords ofWords where
  exists_unique_of_bytes bs := by
    constructor
    · intro hlength
      refine ⟨ofBytes bs, toBytes_ofBytes hlength, fun a ha => ?_⟩
      rw [← ha, ofBytes_toBytes]
    · rintro ⟨a, ha, -⟩
      rw [← ha, a.length_toBytes]
  length_text a := ⟨a.length_encode, a.utf8ByteSize_encode⟩
  reads_iff _ _ := decode_eq_ok_iff
  ofWords_toWords := ofWords_toWords hsize
  toWords_ofWords ws hlength := toWords_ofWords (by rw [hlength, hsize])
  lt_iff_bytes a b := lt_iff_of_lt (fun _ _ => List.lt_asymm) toBytes_lt_toBytes
  bytes_iff_text a b :=
    (lt_iff_of_lt (fun _ _ => List.lt_asymm) toBytes_lt_toBytes).symm.trans
      (lt_iff_of_lt (fun _ _ => String.lt_asymm) encode_lt_encode)
  bytes_iff_words a b :=
    (lt_iff_of_lt (fun _ _ => List.lt_asymm) toBytes_lt_toBytes).symm.trans
      (lt_iff_of_lt (fun _ _ => List.lt_asymm) (toWords_lt_toWords hsize))

/-- The same identifiers under another name have the same forms. -/
theorem Canonical.of_equiv {α β : Type} [LT α] [LT β] {size symbols words : Nat}
    {toBytes : α → List UInt8} {encode : α → String} {Reads : String → α → Prop}
    {toWords : α → List UInt64} {ofWords : List UInt64 → α}
    (h : Canonical size symbols words toBytes encode Reads toWords ofWords) (e : β ≃ α)
    (hlt : ∀ a b, a < b ↔ e a < e b) {Reads' : String → β → Prop}
    (hreads : ∀ text b, Reads' text b ↔ Reads text (e b)) :
    Canonical size symbols words (fun b => toBytes (e b)) (fun b => encode (e b)) Reads'
      (fun b => toWords (e b)) (fun ws => e.symm (ofWords ws)) where
  exists_unique_of_bytes bs :=
    (h.exists_unique_of_bytes bs).trans (e.existsUnique_congr_right).symm
  length_text b := h.length_text (e b)
  reads_iff text b := (hreads text b).trans (h.reads_iff text (e b))
  ofWords_toWords b := by rw [h.ofWords_toWords, e.symm_apply_apply]
  toWords_ofWords ws hlength := by rw [e.apply_symm_apply, h.toWords_ofWords ws hlength]
  lt_iff_bytes a b := (hlt a b).trans (h.lt_iff_bytes _ _)
  bytes_iff_text a b := h.bytes_iff_text _ _
  bytes_iff_words a b := h.bytes_iff_words _ _

theorem Tid.decode_eq_ok_iff {text : String} {t : Tid} :
    decode text = .ok t ↔ Octets.decode text = .ok t.octets := by
  unfold decode
  cases Octets.decode text with
  | error fault => exact ⟨nofun, nofun⟩
  | ok octets =>
      constructor
      · intro h
        rw [← Except.ok.inj h]
      · intro h
        rw [Except.ok.inj h]

theorem TagId.decode_eq_ok_iff {text : String} {t : TagId} :
    decode text = .ok t ↔ Octets.decode text = .ok t.octets := by
  unfold decode
  cases Octets.decode text with
  | error fault => exact ⟨nofun, nofun⟩
  | ok octets =>
      constructor
      · intro h
        rw [← Except.ok.inj h]
      · intro h
        rw [Except.ok.inj h]
        rfl

/-- The 52 symbols and four words of transaction identifiers, and the 39 symbols and
three words of the identifiers of cells and attributes, are canonical and sort as
the 32 and 24 bytes do: no other text is read, whatever is wrong with it. -/
theorem tid_tagId_canonical :
    Canonical 32 52 4 (fun t : Tid => t.octets.toBytes) Tid.encode
        (fun text t => Tid.decode text = .ok t) (fun t => t.octets.toWords)
        (fun ws => ⟨.ofWords ws⟩)
      ∧ Canonical 24 39 3 (fun t : TagId => t.octets.toBytes) TagId.encode
        (fun text t => TagId.decode text = .ok t) TagId.triplet
        (fun ws => ⟨.ofWords ws⟩) := by
  constructor
  · apply (Octets.canonical (n := 32) (k := 4) rfl).of_equiv
      ⟨Tid.octets, Tid.mk, fun _ => rfl, fun _ => rfl⟩
    · intro a b
      exact Iff.rfl
    · intro text t
      exact Tid.decode_eq_ok_iff
  · apply (Octets.canonical (n := 24) (k := 3) rfl).of_equiv
      ⟨TagId.octets, TagId.mk, fun _ => rfl, fun _ => rfl⟩
    · intro a b
      exact Iff.rfl
    · intro text t
      exact TagId.decode_eq_ok_iff

end CellSync
