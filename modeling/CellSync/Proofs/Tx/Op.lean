/-
The wire form of an op is canonical.

`decode` undoes `encode` whatever follows (`decode_encode`), and what it
accepts is an encoding (`eq_encode_of_decode`): no second byte form of an
op exists. Both rest on the same two facts about the positional table,
that `ofSlots?` and `slots` are inverse to each other, and on the
little-endian words of `Digits`. `decode` never falls through its table:
a slot count that passes the checks fits the opcode.
-/
import CellSync.Tx.Op
import CellSync.Proofs.Digits
import Mathlib.Data.List.Basic

namespace CellSync

-- ============================================================ identifiers

namespace TagId

@[simp] theorem triplet_ofTriplet (hi mid lo : UInt64) :
    (ofTriplet hi mid lo).triplet = [hi, mid, lo] :=
  Octets.toWords_ofWords rfl

/-- An identifier is its three words. -/
@[elab_as_elim]
theorem triplet_cases {motive : TagId → Prop}
    (h : ∀ hi mid lo, motive (ofTriplet hi mid lo)) (t : TagId) : motive t := by
  have hlen : t.triplet.length = 3 := by
    rw [triplet, Octets.toWords, List.length_map, length_digits]
  obtain ⟨hi, mid, lo, hw⟩ := List.length_eq_three.mp hlen
  have ht : ofTriplet hi mid lo = t := by
    rw [ofTriplet, ← hw, triplet, Octets.ofWords_toWords (k := 3) rfl]
  exact ht ▸ h hi mid lo

@[simp] theorem length_triplet (t : TagId) : t.triplet.length = 3 := by
  cases t using triplet_cases
  simp

end TagId

-- ================================================================= codes

namespace OpCode

theorem ofNat?_toNat (c : OpCode) : ofNat? c.toNat = some c := by cases c <;> rfl

/-- The number of an opcode determines it. -/
theorem toNat_of_ofNat? {n : Nat} {c : OpCode} (h : ofNat? n = some c) : c.toNat = n := by
  have := List.find?_some h
  simpa using this

theorem toNat_lt (c : OpCode) : c.toNat < 256 := by cases c <;> decide

/-- No op takes more slots than an op may have. -/
theorem slotCount_le (c : OpCode) : c.slotCount ≤ maxSlots := by cases c <;> decide

end OpCode

namespace Op

-- ================================================== the positional table

/-- An op has as many slots as its opcode says. -/
theorem length_slots (op : Op) : op.slots.length = op.code.slotCount := by
  cases op <;> simp [slots, code, OpCode.slotCount]

/-- The table read after it was written. -/
theorem ofSlots?_slots (op : Op) : ofSlots? op.code op.slots = some op := by
  cases op with
  | noOp => rfl
  | metaAttr target attr value =>
      cases target using TagId.triplet_cases
      cases attr using TagId.triplet_cases
      simp [slots, code, ofSlots?]
  | upsertAttr target attr index hash value =>
      cases target using TagId.triplet_cases
      cases attr using TagId.triplet_cases
      cases index using TagId.triplet_cases
      simp [slots, code, ofSlots?]
  | deleteAttr target attr index =>
      cases target using TagId.triplet_cases
      cases attr using TagId.triplet_cases
      cases index using TagId.triplet_cases
      simp [slots, code, ofSlots?]
  | deleteCell target =>
      cases target using TagId.triplet_cases
      simp [slots, code, ofSlots?]
  | upsertLink source target attr index =>
      cases source using TagId.triplet_cases
      cases target using TagId.triplet_cases
      cases attr using TagId.triplet_cases
      cases index using TagId.triplet_cases
      simp [slots, code, ofSlots?]
  | deleteLink source target attr =>
      cases source using TagId.triplet_cases
      cases target using TagId.triplet_cases
      cases attr using TagId.triplet_cases
      simp [slots, code, ofSlots?]

/-- The table written after it was read. -/
theorem slots_of_ofSlots? {c : OpCode} {ws : List UInt64} {op : Op}
    (h : ofSlots? c ws = some op) : op.code = c ∧ op.slots = ws := by
  unfold ofSlots? at h
  split at h
  case h_8 => cases h
  all_goals
    injection h with h
    subst h
    exact ⟨rfl, by simp [slots]⟩

/-- Three words and more begin with an identifier. -/
theorem exists_triplet {n : Nat} {ws : List UInt64} (h : ws.length = 3 + n) :
    ∃ (t : TagId) (rest : List UInt64), ws = t.triplet ++ rest ∧ rest.length = n := by
  have hfirst : (ws.take 3).length = 3 := by
    rw [List.length_take]
    omega
  obtain ⟨hi, mid, lo, hws⟩ := List.length_eq_three.mp hfirst
  refine ⟨.ofTriplet hi mid lo, ws.drop 3, ?_, ?_⟩
  · rw [TagId.triplet_ofTriplet, ← hws, List.take_append_drop]
  · rw [List.length_drop]
    omega

/-- As many words as an opcode takes are the slots of an op. -/
theorem exists_slots {c : OpCode} {ws : List UInt64} (h : ws.length = c.slotCount) :
    ∃ op : Op, op.code = c ∧ op.slots = ws := by
  cases c with
  | noOp => exact ⟨noOp, rfl, (List.length_eq_zero_iff.mp h).symm⟩
  | metaAttr =>
      obtain ⟨target, ws, rfl, h5⟩ := exists_triplet (n := 5) h
      obtain ⟨attr, ws, rfl, h2⟩ := exists_triplet (n := 2) h5
      obtain ⟨offset, len, rfl⟩ := List.length_eq_two.mp h2
      exact ⟨metaAttr target attr ⟨offset, len⟩, rfl, List.append_assoc ..⟩
  | upsertAttr =>
      obtain ⟨target, ws, rfl, h9⟩ := exists_triplet (n := 9) h
      obtain ⟨attr, ws, rfl, h6⟩ := exists_triplet (n := 6) h9
      obtain ⟨index, ws, rfl, h3⟩ := exists_triplet (n := 3) h6
      obtain ⟨hash, offset, len, rfl⟩ := List.length_eq_three.mp h3
      exact ⟨upsertAttr target attr index hash ⟨offset, len⟩, rfl, by simp [slots]⟩
  | deleteAttr =>
      obtain ⟨target, ws, rfl, h6⟩ := exists_triplet (n := 6) h
      obtain ⟨attr, ws, rfl, h3⟩ := exists_triplet (n := 3) h6
      obtain ⟨index, rest, rfl, h0⟩ := exists_triplet (n := 0) h3
      rw [List.length_eq_zero_iff.mp h0]
      exact ⟨deleteAttr target attr index, rfl, by simp [slots]⟩
  | deleteCell =>
      obtain ⟨target, rest, rfl, h0⟩ := exists_triplet (n := 0) h
      rw [List.length_eq_zero_iff.mp h0]
      exact ⟨deleteCell target, rfl, (List.append_nil _).symm⟩
  | upsertLink =>
      obtain ⟨source, ws, rfl, h9⟩ := exists_triplet (n := 9) h
      obtain ⟨target, ws, rfl, h6⟩ := exists_triplet (n := 6) h9
      obtain ⟨attr, ws, rfl, h3⟩ := exists_triplet (n := 3) h6
      obtain ⟨index, rest, rfl, h0⟩ := exists_triplet (n := 0) h3
      rw [List.length_eq_zero_iff.mp h0]
      exact ⟨upsertLink source target attr index, rfl, by simp [slots]⟩
  | deleteLink =>
      obtain ⟨source, ws, rfl, h6⟩ := exists_triplet (n := 6) h
      obtain ⟨target, ws, rfl, h3⟩ := exists_triplet (n := 3) h6
      obtain ⟨attr, rest, rfl, h0⟩ := exists_triplet (n := 0) h3
      rw [List.length_eq_zero_iff.mp h0]
      exact ⟨deleteLink source target attr, rfl, by simp [slots]⟩

-- ================================================================= words

/-- The bytes of some slots, each least significant byte first. -/
def slotBytes (ws : List UInt64) : List UInt8 := ws.flatMap fun w => leBytes 8 w.toNat

theorem slotBytes_cons (w : UInt64) (ws : List UInt64) :
    slotBytes (w :: ws) = leBytes 8 w.toNat ++ slotBytes ws := rfl

/-- A slot takes eight bytes. -/
theorem length_slotBytes (ws : List UInt64) : (slotBytes ws).length = 8 * ws.length := by
  induction ws with
  | nil => rfl
  | cons w ws ih =>
      rw [slotBytes_cons, List.length_append, length_leBytes, List.length_cons, ih]
      omega

/-- As many slots are read as are asked for. -/
theorem length_readSlots (count : Nat) (bs : List UInt8) :
    (readSlots count bs).length = count := by
  induction count generalizing bs with
  | zero => rfl
  | succ count ih => rw [readSlots, List.length_cons, ih]

/-- Slots read after they were written, whatever follows. -/
theorem readSlots_slotBytes (ws : List UInt64) (rest : List UInt8) :
    readSlots ws.length (slotBytes ws ++ rest) = ws := by
  induction ws with
  | nil => rfl
  | cons w ws ih =>
      have hlen : (leBytes 8 w.toNat).length = 8 := length_leBytes 8 _
      have hword : UInt64.ofNat (leValue (leBytes 8 w.toNat)) = w := by
        rw [leValue_leBytes_of_lt w.toNat_lt, UInt64.ofNat_toNat]
      rw [slotBytes_cons, List.append_assoc, List.length_cons, readSlots,
        List.take_left' hlen, List.drop_left' hlen, hword, ih]

/-- Slots written after they were read. -/
theorem slotBytes_readSlots {count : Nat} {bs : List UInt8} (h : 8 * count ≤ bs.length) :
    slotBytes (readSlots count bs) = bs.take (8 * count) := by
  induction count generalizing bs with
  | zero => rfl
  | succ count ih =>
      have hhead : (bs.take 8).length = 8 := by rw [List.length_take]; omega
      have hlt : leValue (bs.take 8) < UInt64.size := by
        have := leValue_lt (bs.take 8)
        rwa [hhead] at this
      have htail : slotBytes (readSlots count (bs.drop 8)) = (bs.drop 8).take (8 * count) :=
        ih (by rw [List.length_drop]; omega)
      rw [readSlots, slotBytes_cons, htail, UInt64.toNat_ofNat_of_lt' hlt,
        leBytes_leValue_of_length hhead, ← List.take_add]
      congr 1
      omega

-- =================================================================== ops

/-- An op is its opcode, the count of its slots, and the slots. -/
theorem encode_eq (op : Op) :
    encode op = UInt8.ofNat op.code.toNat :: UInt8.ofNat op.code.slotCount
      :: slotBytes op.slots := rfl

/-- How long an op is on the wire is known before it is written. -/
theorem length_encode (op : Op) : (encode op).length = op.wireSize := by
  rw [encode_eq, List.length_cons, List.length_cons, length_slotBytes, length_slots, wireSize]
  omega

theorem toNat_codeByte (op : Op) : (UInt8.ofNat op.code.toNat).toNat = op.code.toNat := by
  rw [UInt8.toNat_ofNat', Nat.mod_eq_of_lt op.code.toNat_lt]

theorem toNat_countByte (op : Op) :
    (UInt8.ofNat op.code.slotCount).toNat = op.code.slotCount := by
  have hle : op.code.slotCount ≤ 24 := op.code.slotCount_le
  rw [UInt8.toNat_ofNat', Nat.mod_eq_of_lt (by omega)]

/-- An op read after it was written, whatever follows. -/
theorem decode_encode (op : Op) (rest : List UInt8) :
    decode (encode op ++ rest) = .ok (op, rest) := by
  have hlen : (slotBytes op.slots).length = 8 * op.code.slotCount := by
    rw [length_slotBytes, length_slots]
  have hread : readSlots op.code.slotCount (slotBytes op.slots ++ rest) = op.slots := by
    rw [← length_slots, readSlots_slotBytes]
  rw [encode_eq, List.cons_append, List.cons_append, decode]
  simp only [toNat_codeByte, toNat_countByte, OpCode.ofNat?_toNat]
  rw [if_neg (by have := op.code.slotCount_le; omega), if_neg (by simp),
    List.take_left' hlen, if_neg (by omega), hread, ofSlots?_slots, List.drop_left' hlen]

/-- What is accepted as an op is the encoding of that op. -/
theorem eq_encode_of_decode {bs rest : List UInt8} {op : Op}
    (h : decode bs = .ok (op, rest)) : bs = encode op ++ rest := by
  match bs, h with
  | number :: count :: tail, h =>
      rw [decode] at h
      split at h
      · cases h
      next c hc =>
        split at h
        · cases h
        split at h
        · cases h
        next hcount =>
          split at h
          · cases h
          next hroom =>
            split at h
            next o ho =>
              injection h with h
              injection h with hop hrest
              subst hop hrest
              have hcount' : count.toNat = c.slotCount := Decidable.not_not.mp hcount
              have hlen : 8 * count.toNat ≤ tail.length := by
                rw [List.length_take] at hroom
                omega
              obtain ⟨hcode, hslots⟩ := slots_of_ofSlots? ho
              rw [encode_eq, hcode, hslots, OpCode.toNat_of_ofNat? hc, ← hcount',
                UInt8.ofNat_toNat, UInt8.ofNat_toNat, slotBytes_readSlots hlen,
                List.cons_append, List.cons_append, List.take_append_drop]
            · cases h

end Op

end CellSync
