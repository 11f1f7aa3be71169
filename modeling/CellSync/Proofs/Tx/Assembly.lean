/-
The values of a transaction that is put together part by part.

A part is a value or an op, and `assemble` adds parts in any order and
collects the references that the values are given. Data only ever grows
at its end, so a value stays where it was put: it is read back through
its reference from the finished transaction (`yields_assemble`), from
the same transaction over other ops, which keeps its data, and from what
either of them is written and read as (`kept_of_yields`).
-/
import CellSync.Proofs.Pin.Passing
import CellSync.Proofs.Tx.Exact

namespace CellSync.Tx

-- ================================================================= parts

/-- What is added to a transaction. -/
inductive Part where
  | value (bytes : ByteArray)
  | op (op : Op)

/-- The bytes of a value. -/
def Part.bytes? : Part → Option ByteArray
  | .value bytes => some bytes
  | .op _ => none

/-- The values among some parts, in order. -/
def values (parts : List Part) : List ByteArray := parts.filterMap Part.bytes?

/-- Adds parts one after another. Returns the references to the values, in order. -/
def assemble (tx : Tx) : List Part → Tx × List DataRef
  | [] => (tx, [])
  | .value bytes :: parts =>
    let (tx, r) := tx.push bytes
    let (tx, refs) := tx.assemble parts
    (tx, r :: refs)
  | .op op :: parts => (tx.pushOp op).assemble parts

/-- Whether a transaction has these values under these references. -/
def Yields (tx : Tx) (refs : List DataRef) (values : List ByteArray) : Prop :=
  List.Forall₂ (fun r value => tx.value? r = some value) refs values

variable {tx : Tx} {parts : List Part} {refs : List DataRef}

theorem assemble_append (tx : Tx) (parts more : List Part) :
    tx.assemble (parts ++ more)
      = (((tx.assemble parts).1.assemble more).1,
          (tx.assemble parts).2 ++ ((tx.assemble parts).1.assemble more).2) := by
  induction parts generalizing tx with
  | nil => rfl
  | cons part parts ih =>
      cases part with
      | value bytes => simp [assemble, ih]
      | op op => simp [assemble, ih]

theorem info_assemble (tx : Tx) (parts : List Part) : (tx.assemble parts).1.info = tx.info := by
  induction parts generalizing tx with
  | nil => rfl
  | cons part parts ih =>
      cases part with
      | value bytes => exact ih (tx.push bytes).1
      | op op => exact ih (tx.pushOp op)

/-- Ops alone are appended, and leave the data as it is. -/
theorem assemble_ops (tx : Tx) (ops : List Op) :
    tx.assemble (ops.map .op) = ({ tx with ops := tx.ops ++ ops }, []) := by
  induction ops generalizing tx with
  | nil => simp [assemble]
  | cons op ops ih => simp [assemble, pushOp, ih]

theorem values_append (parts more : List Part) :
    values (parts ++ more) = values parts ++ values more := List.filterMap_append

/-- Ops alone hold no value. -/
theorem values_ops (ops : List Op) : values (ops.map .op) = [] := by
  induction ops with
  | nil => rfl
  | cons op ops ih => exact ih

-- ================================================================= values

/-- A value stays readable when more data comes behind it. -/
theorem value?_of_extends {other : Tx} {more value : ByteArray} {r : DataRef}
    (hdata : other.data = tx.data ++ more) (h : tx.value? r = some value) :
    other.value? r = some value := by
  unfold value? at h ⊢
  split at h
  · rename_i hfits
    obtain ⟨hstop, hword⟩ : r.stop ≤ tx.data.size ∧ r.stop < 0x10000000000000000 := by
      simpa [DataRef.fits] using hfits
    have hlonger : r.fits other.data.size = true := by
      rw [hdata, ByteArray.size_append]
      simp only [DataRef.fits, Bool.and_eq_true, decide_eq_true_eq]
      omega
    rw [if_pos hlonger, hdata, Bytes.extract_append_left hstop]
    exact h
  · cases h

/-- A value is read back through the reference that it was given, if the data is no
longer than a 64-bit word can tell. -/
theorem value?_push {value : ByteArray} (h : (tx.push value).1.data.size ≤ maxWord) :
    (tx.push value).1.value? (tx.push value).2 = some value := by
  have hsize : tx.data.size + value.size ≤ maxWord := by
    rwa [push, ByteArray.size_append] at h
  have hmax : maxWord = 18446744073709551615 := rfl
  have hword : tx.data.size < 2 ^ 64 ∧ value.size < 2 ^ 64 := by omega
  have hoffset : (UInt64.ofNat tx.data.size).toNat = tx.data.size :=
    UInt64.toNat_ofNat_of_lt' hword.1
  have hlen : (UInt64.ofNat value.size).toNat = value.size :=
    UInt64.toNat_ofNat_of_lt' hword.2
  have hstop : (tx.push value).2.stop = tx.data.size + value.size := by
    rw [push, DataRef.stop, hoffset, hlen]
  have hfits : (tx.push value).2.fits (tx.data ++ value).size = true := by
    rw [DataRef.fits, hstop, ByteArray.size_append]
    simp only [Bool.and_eq_true, decide_eq_true_eq]
    omega
  show (if (tx.push value).2.fits (tx.data ++ value).size then _ else _) = _
  rw [if_pos hfits, hstop]
  show some ((tx.data ++ value).extract (UInt64.ofNat tx.data.size).toNat _) = _
  rw [hoffset, ByteArray.extract_append_eq_right rfl rfl]

theorem exists_data_assemble (tx : Tx) (parts : List Part) :
    ∃ more, (tx.assemble parts).1.data = tx.data ++ more := by
  induction parts generalizing tx with
  | nil => exact ⟨.empty, ByteArray.append_empty.symm⟩
  | cons part parts ih =>
      cases part with
      | value bytes =>
          obtain ⟨more, hmore⟩ := ih (tx.push bytes).1
          exact ⟨bytes ++ more, hmore.trans ByteArray.append_assoc⟩
      | op op => exact ih (tx.pushOp op)

/-- Every value of the parts is read back from what they make. -/
theorem yields_assemble (tx : Tx) (parts : List Part)
    (h : (tx.assemble parts).1.data.size ≤ maxWord) :
    (tx.assemble parts).1.Yields (tx.assemble parts).2 (values parts) := by
  induction parts generalizing tx with
  | nil => exact .nil
  | cons part parts ih =>
      cases part with
      | value bytes =>
          obtain ⟨more, hmore⟩ := exists_data_assemble (tx.push bytes).1 parts
          have hfirst : (tx.push bytes).1.data.size ≤ maxWord := by
            have hall : (((tx.push bytes).1.assemble parts).1.data).size ≤ maxWord := h
            rw [hmore, ByteArray.size_append] at hall
            omega
          exact .cons (value?_of_extends hmore (value?_push hfirst)) (ih (tx.push bytes).1 h)
      | op op => exact ih (tx.pushOp op) h

/-- References that values are read through lie inside the data. -/
theorem Yields.fits {values : List ByteArray} (h : tx.Yields refs values) {r : DataRef}
    (hr : r ∈ refs) : r.fits tx.data.size = true := by
  induction h with
  | nil => cases hr
  | cons hvalue _ ih =>
      rcases List.mem_cons.mp hr with rfl | hr
      · unfold value? at hvalue
        split at hvalue
        · assumption
        · cases hvalue
      · exact ih hr

-- ============================================================= the wire

/-- What a transaction over some of its ops keeps of its values: they are read back
from it as it stands, and if the whole can be written then so can it, and is read
again with the same values. -/
structure Kept (tx : Tx) (ops : List Op) (refs : List DataRef) (values : List ByteArray) :
    Prop where
  yields : (tx.withOps ops).Yields refs values
  exists_read : ∀ frame, tx.serialize = .ok frame →
    ∃ narrowed read, (tx.withOps ops).serialize = .ok narrowed
      ∧ Tx.deserialize narrowed = .ok read ∧ read.Yields refs values

theorem kept_of_yields {ops : List Op} {values : List ByteArray} (hops : ops.Sublist tx.ops)
    (h : tx.Yields refs values) : Kept tx ops refs values := by
  have hnarrow : (tx.withOps ops).Yields refs values := h
  refine ⟨hnarrow, fun frame hframe => ?_⟩
  have hsendable := (Frame.sendable_iff.mpr ⟨frame, hframe⟩).narrow (m := tx.withOps ops)
    hops rfl rfl
  obtain ⟨narrowed, hnarrowed⟩ := Frame.sendable_iff.mp hsendable
  exact ⟨narrowed, _, hnarrowed, Frame.deserialize_of_serialize hnarrowed, hnarrow⟩

/-- Where every op refers to a value that was added, only the limits can keep a
transaction from being written. -/
theorem exists_serialize {values : List ByteArray} (hyields : tx.Yields refs values)
    (hrefs : ∀ op ∈ tx.ops, ∀ r, op.value? = some r → r ∈ refs) (hin : Frame.Within {} tx)
    (htid : tx.info.tid ≠ some .zero) : ∃ frame, tx.serialize = .ok frame := by
  apply Frame.sendable_iff.mp
  refine ⟨hin, ?_, ?_, ?_, htid⟩
  · have htotal := Frame.totalSize_le tx.ops
    have hcount : tx.ops.length * maxOpSize ≤ 6144 * maxOpSize :=
      Nat.mul_le_mul_right _ hin.1
    have hbody : tx.bodySize = 64 + Op.totalSize tx.ops := rfl
    have hmost : 64 + 6144 * maxOpSize ≤ Frame.maxSize := by decide
    omega
  · exact Nat.le_trans hin.2 (by decide)
  · rw [Frame.strayReference?_eq_none_iff]
    intro op hop r hr
    exact hyields.fits (hrefs op hop r hr)

end CellSync.Tx
