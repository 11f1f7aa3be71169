/-
The four ways in which a look at a buffer ends, and that there is no
other and no two at once.

Whatever the bytes are, the decoder stays inside of them, and what it
gives accounts for every byte: a transaction stands for the very frame
that would be written for it, a frame at fault is gone as a whole, and
otherwise the buffer is as it was.
-/
import CellSync.Proofs.Tx.Bounds

namespace CellSync

namespace Frame

-- ============================================================== endings

/-- The ways in which a look at a buffer ends. -/
inductive Ending where
  /-- A transaction, and its frame is removed. -/
  | message
  /-- More bytes are needed. -/
  | unfinished
  /-- The header is malformed or over the limits. -/
  | refused
  /-- The body is at fault, and its frame is removed. -/
  | spoiled
deriving DecidableEq

/-- Whether a buffer begins with a header that is well formed and within limits. -/
def Opens (config : TxConfig) (buffer : ByteArray) (h : Header) : Prop :=
  Header.parse (Bytes.slice buffer 0 headerSize) = .ok h ∧ h.check config = .ok ()

/-- What a way of ending says of a look at `buffer` that gave `result` and left
`rest` of it. -/
def Ending.Holds (config : TxConfig) (buffer : ByteArray) (result : Except TxError (Option Tx))
    (rest : ByteArray) : Ending → Prop
  | .message => ∃ tx frame, result = .ok (some tx) ∧ encode tx config = .ok frame
      ∧ buffer = frame ++ rest ∧ ∀ op ∈ tx.ops, ∀ r, op.value? = some r → (tx.value? r).isSome
  | .unfinished => result = .ok none ∧ rest = buffer
  | .refused => ∃ error, result = .error error ∧ rest = buffer ∧ headerSize ≤ buffer.size
      ∧ ((∃ fault, Header.parse (Bytes.slice buffer 0 headerSize) = .error fault
            ∧ error = .malformedTx fault)
          ∨ ∃ h, Header.parse (Bytes.slice buffer 0 headerSize) = .ok h
            ∧ h.check config = .error error)
  | .spoiled => ∃ error h frame, result = .error error ∧ Opens config buffer h
      ∧ buffer = frame ++ rest ∧ frame.size = h.total ∧ decodeFrame config h frame = .error error

theorem heading_eq_error_iff {config : TxConfig} {buffer : ByteArray} {error : TxError} :
    heading config buffer = .error error ↔
      (∃ fault, Header.parse (Bytes.slice buffer 0 headerSize) = .error fault
          ∧ error = .malformedTx fault)
        ∨ ∃ h, Header.parse (Bytes.slice buffer 0 headerSize) = .ok h
          ∧ h.check config = .error error := by
  unfold heading
  cases Header.parse (Bytes.slice buffer 0 headerSize) with
  | error fault =>
      constructor
      · intro h
        exact .inl ⟨fault, rfl, (Except.error.inj h).symm⟩
      · rintro (⟨_, hfault, rfl⟩ | ⟨_, hnone, -⟩)
        · rw [Except.error.inj hfault]
        · cases hnone
  | ok g =>
      constructor
      · intro h
        dsimp only at h
        refine .inr ⟨g, rfl, ?_⟩
        cases hcheck : g.check config with
        | error e =>
            rw [hcheck] at h
            rw [Except.error.inj h]
        | ok u =>
            rw [hcheck] at h
            cases h
      · rintro (⟨_, hnone, -⟩ | ⟨_, hg, hcheck⟩)
        · cases hnone
        · rw [← Except.ok.inj hg] at hcheck
          dsimp only
          rw [hcheck]
          rfl

/-- Every value reference of a transaction that may be written has its bytes. -/
theorem Writable.isSome_value? {tx : Tx} (hw : Writable tx) {op : Op} (hop : op ∈ tx.ops)
    {r : DataRef} (hr : op.value? = some r) : (tx.value? r).isSome := by
  rw [Tx.value?, if_pos (strayReference?_eq_none_iff.mp hw.refs op hop r hr)]
  rfl

/-- The way in which a look at a buffer ends. -/
def Decoded.ending : Decoded → Ending
  | .incomplete => .unfinished
  | .refused _ => .refused
  | .spoiled _ _ => .spoiled
  | .complete _ _ => .message

theorem holds_ending (config : TxConfig) (buffer : ByteArray) :
    (decode config buffer).ending.Holds config buffer (decode config buffer).result
      ((decode config buffer).rest buffer) := by
  generalize hdecode : decode config buffer = decoded
  cases decode_eq_iff.mp hdecode with
  | short hshort => exact ⟨rfl, rfl⟩
  | refused hlong hheading => exact ⟨_, rfl, rfl, hlong, heading_eq_error_iff.mp hheading⟩
  | waiting hlong hheading hpart => exact ⟨rfl, rfl⟩
  | spoiled hheading hwhole hread =>
      refine ⟨_, _, _, rfl, heading_eq_ok_iff.mp hheading,
        (Bytes.extract_append_rest hwhole).symm, ?_, hread⟩
      rw [ByteArray.size_extract]
      omega
  | complete hheading hwhole hread =>
      obtain ⟨frame, hframe, hbuffer⟩ := decode_eq_complete_iff.mp hdecode
      refine ⟨_, frame, rfl, hframe, hbuffer, fun op hop r hr => ?_⟩
      exact (encode_eq_ok_iff.mp hframe).2.1.isSome_value? hop hr

/-- What a way of ending tells of the result: a transaction, none yet, or an error. -/
def Ending.shape : Ending → Option Bool
  | .message => some true
  | .unfinished => some false
  | .refused => none
  | .spoiled => none

theorem Ending.Holds.shape_eq {config : TxConfig} {buffer rest : ByteArray}
    {result : Except TxError (Option Tx)} {ending : Ending}
    (h : ending.Holds config buffer result rest) :
    result.toOption.map Option.isSome = ending.shape := by
  cases ending with
  | message => obtain ⟨tx, _, rfl, -⟩ := h; rfl
  | unfinished => obtain ⟨rfl, -⟩ := h; rfl
  | refused => obtain ⟨_, rfl, -⟩ := h; rfl
  | spoiled => obtain ⟨_, _, _, rfl, -⟩ := h; rfl

/-- Of the two errors, one comes from the header and one from behind it. -/
theorem Ending.Holds.not_spoiled {config : TxConfig} {buffer rest : ByteArray}
    {result : Except TxError (Option Tx)} (h : Ending.refused.Holds config buffer result rest) :
    ¬Ending.spoiled.Holds config buffer result rest := by
  rintro ⟨_, g, _, -, ⟨hparse, hcheck⟩, -⟩
  obtain ⟨_, -, -, -, ⟨_, hfault, -⟩ | ⟨_, hother, hover⟩⟩ := h
  · rw [hfault] at hparse
    cases hparse
  · rw [hother] at hparse
    rw [Except.ok.inj hparse, hcheck] at hover
    cases hover

/-- No two ways of ending hold of one look. -/
theorem Ending.Holds.unique {config : TxConfig} {buffer rest : ByteArray}
    {result : Except TxError (Option Tx)} {a b : Ending}
    (ha : a.Holds config buffer result rest) (hb : b.Holds config buffer result rest) :
    a = b := by
  have hshape : a.shape = b.shape := ha.shape_eq.symm.trans hb.shape_eq
  cases a with
  | message => cases b with
    | message => rfl
    | unfinished | refused | spoiled => cases hshape
  | unfinished => cases b with
    | unfinished => rfl
    | message | refused | spoiled => cases hshape
  | refused => cases b with
    | refused => rfl
    | spoiled => exact absurd hb ha.not_spoiled
    | message | unfinished => cases hshape
  | spoiled => cases b with
    | spoiled => rfl
    | refused => exact absurd ha hb.not_spoiled
    | message | unfinished => cases hshape

-- ======================================================= the accounting

/-- More bytes are asked for exactly when the header is not there as a whole, or
is accepted and declares more than there is. -/
theorem decode_eq_incomplete_iff {config : TxConfig} {buffer : ByteArray} :
    decode config buffer = .incomplete ↔
      buffer.size < headerSize ∨ ∃ h, Opens config buffer h ∧ buffer.size < h.total := by
  rw [decode_eq_iff]
  constructor
  · intro h
    cases h with
    | short hshort => exact .inl hshort
    | waiting hlong hheading hpart => exact .inr ⟨_, heading_eq_ok_iff.mp hheading, hpart⟩
  · rintro (hshort | ⟨h, hopen, hpart⟩)
    · exact .short hshort
    · by_cases hlong : headerSize ≤ buffer.size
      · exact .waiting hlong (heading_eq_ok_iff.mpr hopen) hpart
      · exact .short (Nat.not_le.mp hlong)

theorem result_eq_none_iff {decoded : Decoded} :
    decoded.result = .ok none ↔ decoded = .incomplete := by
  cases decoded with
  | incomplete => exact ⟨fun _ => rfl, fun _ => rfl⟩
  | refused error | spoiled error rest => exact ⟨nofun, nofun⟩
  | complete tx rest => exact ⟨nofun, nofun⟩

/-- Any bytes, under any limits: the decoder stays in bounds and ends in exactly
one of four ways, each with its account of the bytes. It asks for more bytes
exactly when a frame that may still be accepted is not there as a whole, and it
gives a transaction exactly when the buffer begins with what is written for it. -/
theorem decode_accounts (config : TxConfig) (buffer : ByteArray) :
    Bounds.decode? config buffer = some (decode config buffer)
      ∧ (∃! ending : Ending, ending.Holds config buffer (decode config buffer).result
          ((decode config buffer).rest buffer))
      ∧ ((decode config buffer).result = .ok none ↔
          buffer.size < headerSize ∨ ∃ h, Opens config buffer h ∧ buffer.size < h.total)
      ∧ ∀ tx rest, decode config buffer = .complete tx rest ↔
          ∃ frame, encode tx config = .ok frame ∧ buffer = frame ++ rest := by
  refine ⟨Bounds.decode?_eq config buffer, ?_, ?_, fun tx rest => decode_eq_complete_iff⟩
  · refine ⟨(decode config buffer).ending, holds_ending config buffer, fun ending h => ?_⟩
    exact h.unique (holds_ending config buffer)
  · rw [result_eq_none_iff, decode_eq_incomplete_iff]

end Frame

end CellSync
