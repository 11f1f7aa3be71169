/-
A document that is wrapped in a control transaction is unwrapped again.

The transaction of `wrap` has one op and the document as its data, so
all that decides whether it may be written is the size of the document:
`Fits`, which a shorter document inherits.
-/
import CellSync.Control
import CellSync.Proofs.Tx.Frame

namespace CellSync.Control

variable {config : TxConfig} {info : Info} {attr : String} {document : List UInt8}

-- ========================================================= what is wrapped

@[simp] theorem data_wrap (info : Info) (attr : String) (document : List UInt8) :
    (wrap info attr document).data = Bytes.pack document := ByteArray.empty_append

theorem ops_wrap (info : Info) (attr : String) (document : List UInt8) :
    (wrap info attr document).ops
      = [.metaAttr .nil (.ofName attr) ⟨0, UInt64.ofNat document.length⟩] := rfl

/-- The reference to a whole document ends where the document does. -/
theorem stop_whole {size : Nat} (h : size ≤ Frame.maxSize) :
    DataRef.stop ⟨0, UInt64.ofNat size⟩ = size := by
  have hword : size < 2 ^ 64 := Nat.lt_of_le_of_lt h (by decide)
  rw [DataRef.stop, UInt64.toNat_ofNat_of_lt' hword]
  exact Nat.zero_add _

/-- The one value of a wrapped document lies within its data. -/
theorem fits_whole {size : Nat} (h : size ≤ Frame.maxSize) :
    DataRef.fits ⟨0, UInt64.ofNat size⟩ size = true := by
  have hword : size < 2 ^ 64 := Nat.lt_of_le_of_lt h (by decide)
  rw [DataRef.fits, stop_whole h]
  simp only [Nat.le_refl, decide_true, Bool.true_and, decide_eq_true_eq]
  exact hword

-- ================================================================== limits

/-- Whether a document may be carried by a transaction within some limits. -/
structure Fits (config : TxConfig) (document : List UInt8) : Prop where
  ops : 1 ≤ config.maxOps
  data : document.length ≤ config.maxData
  size : document.length ≤ Frame.maxSize

/-- What fits is fitted by anything shorter. -/
theorem Fits.of_le {other : List UInt8} (h : Fits config document)
    (hle : other.length ≤ document.length) : Fits config other :=
  ⟨h.ops, Nat.le_trans hle h.data, Nat.le_trans hle h.size⟩

/-- A wrapped document is one op, and as much data as it is long. -/
theorem within_wrap_iff :
    Frame.Within config (wrap info attr document)
      ↔ 1 ≤ config.maxOps ∧ document.length ≤ config.maxData := by
  rw [Frame.Within, data_wrap, ops_wrap, Bytes.size_pack]
  exact Iff.rfl

/-- It may be written unless it is longer than any frame. -/
theorem writable_wrap_iff (htid : info.tid ≠ some .zero) :
    Frame.Writable (wrap info attr document) ↔ document.length ≤ Frame.maxSize := by
  constructor
  · intro h
    have hsize := h.data_le
    rwa [data_wrap, Bytes.size_pack] at hsize
  · intro h
    refine ⟨?_, ?_, ?_, htid⟩
    · rw [Tx.bodySize, ops_wrap]
      exact (by decide : Frame.minBody + (2 + 8 * OpCode.metaAttr.slotCount) ≤ Frame.maxSize)
    · rwa [data_wrap, Bytes.size_pack]
    · rw [Frame.strayReference?_eq_none_iff, ops_wrap, data_wrap, Bytes.size_pack]
      intro op hop r hr
      rw [List.mem_singleton.mp hop] at hr
      rw [← Option.some.inj hr]
      exact fits_whole h

/-- The frame of a document that fits. -/
theorem encode_wrap_iff (htid : info.tid ≠ some .zero) {frame : ByteArray} :
    Frame.encode (wrap info attr document) config = .ok frame
      ↔ Fits config document ∧ frame = Frame.bytes (wrap info attr document) := by
  rw [Frame.encode_eq_ok_iff, within_wrap_iff, writable_wrap_iff htid]
  constructor
  · rintro ⟨⟨hops, hdata⟩, hsize, rfl⟩
    exact ⟨⟨hops, hdata, hsize⟩, rfl⟩
  · rintro ⟨⟨hops, hdata, hsize⟩, rfl⟩
    exact ⟨⟨hops, hdata⟩, hsize, rfl⟩

-- =============================================================== unwrapping

/-- A document of any size that a frame can carry comes out as it went in. -/
theorem unwrap_wrap (h : document.length ≤ Frame.maxSize) :
    unwrap (wrap info attr document) attr = .ok document := by
  have hvalue : (wrap info attr document).value? ⟨0, UInt64.ofNat document.length⟩
      = some (Bytes.pack document) := by
    rw [Tx.value?, data_wrap, Bytes.size_pack, if_pos (fits_whole h), stop_whole h]
    exact congrArg some (ByteArray.extract_zero_size (b := Bytes.pack document))
  rw [unwrap, ops_wrap]
  dsimp only
  rw [if_neg (fun hne => hne rfl), hvalue]
  dsimp only
  rw [Bytes.list_pack]

/-- What is written as JSON is read as JSON, if the two agree. -/
theorem read_wrap {α : Type} {ofJson? : List UInt8 → Option α} {a : α}
    (hread : ofJson? document = some a) (h : document.length ≤ Frame.maxSize) :
    read ofJson? (wrap info attr document) attr = .ok a := by
  rw [read, unwrap_wrap h]
  dsimp only
  rw [hread]

end CellSync.Control
