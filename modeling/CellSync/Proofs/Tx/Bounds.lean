/-
No bytes make the decoder read outside of what it holds.

The definitions of this file follow the decoder access by access, and
every access is checked: a byte at a place, a range of a buffer, the
front of what is left to read. An access that is out of bounds is
`none`, and so is then the whole look. That `decode?` never is, and
gives what `decode` gives, is `decode?_eq`.

Each access is in bounds because of a test that comes before it, in the
same function or in its caller: sixteen bytes before the header is read,
the declared total before a frame is cut off, the smallest body before
the control fields, the slot count of the opcode before its slots.
-/
import CellSync.Proofs.Tx.Frame

namespace CellSync

namespace Bounds

-- ============================================================= accesses

/-- The first `size` bytes and those after them. -/
def cut? (size : Nat) (bs : List UInt8) : Option (List UInt8 × List UInt8) :=
  if size ≤ bs.length then some (bs.take size, bs.drop size) else none

/-- The bytes from one position up to another. -/
def range? (b : ByteArray) (start stop : Nat) : Option ByteArray :=
  if start ≤ stop ∧ stop ≤ b.size then some (b.extract start stop) else none

/-- As many bytes as there are can be cut off. -/
theorem cut?_eq {size : Nat} {bs : List UInt8} (h : size ≤ bs.length) :
    cut? size bs = some (bs.take size, bs.drop size) := if_pos h

theorem cut?_append {size : Nat} {bs rest : List UInt8} (h : bs.length = size) :
    cut? size (bs ++ rest) = some (bs, rest) := by
  rw [cut?_eq (by rw [List.length_append]; omega), List.take_left' h, List.drop_left' h]

/-- A range that ends within the buffer is there. -/
theorem range?_eq {b : ByteArray} {start stop : Nat} (h : start ≤ stop) (h' : stop ≤ b.size) :
    range? b start stop = some (b.extract start stop) := if_pos ⟨h, h'⟩

-- =============================================================== header

/-- `Header.parse`, access by access. -/
def parse? (b : ByteArray) : Option (Except Frame.Fault Frame.Header) :=
  if b.size < Frame.headerSize then some (.error (.shortHeader b.size))
  else do
    let mark ← range? b 0 3
    if Bytes.list mark ≠ Frame.marker then return .error .badMarker
    let version ← (Bytes.list b)[3]?
    if version ≠ Frame.version then return .error (.unknownVersion version)
    let reserved ← range? b 12 16
    if Bytes.list reserved ≠ [0, 0, 0, 0] then return .error .reservedSet
    let sizes ← range? b 4 12
    let (body, sizes) ← cut? 4 (Bytes.list sizes)
    let (data, _) ← cut? 4 sizes
    return .ok ⟨leValue body, leValue data⟩

/-- The header is read only after sixteen bytes have been seen to be there. -/
theorem parse?_eq (b : ByteArray) : parse? b = some (Frame.Header.parse (Bytes.list b)) := by
  unfold parse? Frame.Header.parse
  rw [Bytes.length_list]
  by_cases hshort : b.size < Frame.headerSize
  · rw [if_pos hshort, if_pos hshort]
  · have hsize : 16 ≤ b.size := Nat.not_lt.mp hshort
    have hversion : (Bytes.list b)[3]? = some ((Bytes.list b)[3]?.getD 0) := by
      rw [List.getElem?_eq_getElem (by rw [Bytes.length_list]; omega)]
      rfl
    have hslice (start stop : Nat) : Bytes.list (b.extract start stop)
        = ((Bytes.list b).drop start).take (stop - start) := Bytes.slice_eq b start stop
    have hsizes : (((Bytes.list b).drop 4).take (12 - 4)).length = 8 := by
      rw [List.length_take, List.length_drop, Bytes.length_list]
      omega
    have hbody : (((Bytes.list b).drop 4).take (12 - 4)).take 4
        = ((Bytes.list b).drop 4).take 4 := by
      rw [List.take_take]
      rfl
    have hdata : ((((Bytes.list b).drop 4).take (12 - 4)).drop 4).take 4
        = ((Bytes.list b).drop 8).take 4 := by
      rw [List.drop_take, List.drop_drop, List.take_take]
      rfl
    rw [if_neg hshort, if_neg hshort, range?_eq (by omega) (by omega),
      range?_eq (by omega) (by omega), range?_eq (by omega) (by omega), hversion]
    simp only [Option.bind_eq_bind, Option.bind_some, hslice, List.drop_zero, Nat.sub_zero,
      Option.getD_some]
    split
    · rfl
    · split
      · rfl
      · split
        · rfl
        · rw [cut?_eq (by omega)]
          dsimp only [Option.bind_some]
          rw [cut?_eq (by rw [List.length_drop]; omega)]
          dsimp only [Option.bind_some]
          rw [hbody, hdata]
          rfl

-- ======================================================= control fields

/-- `decodeInfo`, access by access. -/
def info? (bs : List UInt8) : Option (Except Frame.Fault (Info × Nat)) := do
  let (tid, bs) ← cut? 32 bs
  let (context, bs) ← cut? 8 bs
  let (kind, bs) ← cut? 1 bs
  let (status, bs) ← cut? 1 bs
  let (code, bs) ← cut? 2 bs
  let (count, _) ← cut? 4 bs
  return do
    let some kind' := Kind.ofNat? (leValue kind) | throw (.unknownKind (leValue kind))
    let some status' := Status.ofNat? (leValue status) | throw (.unknownStatus (leValue status))
    let some code' := ErrorCode.ofNat? (leValue code) | throw (.unknownCode (leValue code))
    pure (⟨kind', Frame.tidOfBytes tid, UInt64.ofNat (leValue context), status', code'⟩,
      leValue count)

theorem leValue_singleton (k : UInt8) : leValue [k] = k.toNat := by
  rw [leValue, leValue, Nat.mul_zero, Nat.add_zero]

/-- The control fields are within the smallest body. -/
theorem info?_eq {bs : List UInt8} (h : bs.length = Frame.infoSize) :
    info? bs = some (Frame.decodeInfo bs) := by
  obtain ⟨t, c, k, s, e, n, rfl, ht, hc, he, hn⟩ := Frame.exists_infoFields h
  have hbyte (b : UInt8) (rest : List UInt8) : cut? 1 (b :: rest) = some ([b], rest) := by
    show cut? 1 ([b] ++ rest) = some ([b], rest)
    exact cut?_append rfl
  have hcount : cut? 4 n = some (n, []) := by
    have h : cut? 4 (n ++ []) = some (n, []) := cut?_append hn
    rwa [List.append_nil] at h
  rw [Frame.decodeInfo_fields ht hc he hn, info?, cut?_append ht]
  dsimp only [Option.bind_eq_bind, Option.bind_some]
  rw [cut?_append hc]
  dsimp only [Option.bind_some]
  rw [hbyte]
  dsimp only [Option.bind_some]
  rw [hbyte]
  dsimp only [Option.bind_some]
  rw [cut?_append he]
  dsimp only [Option.bind_some]
  rw [hcount]
  dsimp only [Option.bind_some]
  rw [leValue_singleton, leValue_singleton]
  rfl

-- ================================================================== ops

/-- The next slot. -/
def word? (bs : List UInt8) : Option (UInt64 × List UInt8) := do
  let (head, rest) ← cut? 8 bs
  return (UInt64.ofNat (leValue head), rest)

/-- The next identifier. -/
def tag? (bs : List UInt8) : Option (TagId × List UInt8) := do
  let (high, bs) ← word? bs
  let (middle, bs) ← word? bs
  let (low, bs) ← word? bs
  return (.ofTriplet high middle low, bs)

/-- The next value reference. -/
def ref? (bs : List UInt8) : Option (DataRef × List UInt8) := do
  let (offset, bs) ← word? bs
  let (len, bs) ← word? bs
  return (⟨offset, len⟩, bs)

/-- The op of an opcode, from its slots one by one. -/
def fields? (bs : List UInt8) : OpCode → Option Op
  | .noOp => some .noOp
  | .metaAttr => do
    let (target, bs) ← tag? bs
    let (attr, bs) ← tag? bs
    let (value, _) ← ref? bs
    return .metaAttr target attr value
  | .upsertAttr => do
    let (target, bs) ← tag? bs
    let (attr, bs) ← tag? bs
    let (index, bs) ← tag? bs
    let (hash, bs) ← word? bs
    let (value, _) ← ref? bs
    return .upsertAttr target attr index hash value
  | .deleteAttr => do
    let (target, bs) ← tag? bs
    let (attr, bs) ← tag? bs
    let (index, _) ← tag? bs
    return .deleteAttr target attr index
  | .deleteCell => do
    let (target, _) ← tag? bs
    return .deleteCell target
  | .upsertLink => do
    let (source, bs) ← tag? bs
    let (target, bs) ← tag? bs
    let (attr, bs) ← tag? bs
    let (index, _) ← tag? bs
    return .upsertLink source target attr index
  | .deleteLink => do
    let (source, bs) ← tag? bs
    let (target, bs) ← tag? bs
    let (attr, _) ← tag? bs
    return .deleteLink source target attr

/-- A slot that was written is there to be read. -/
theorem word?_cons (w : UInt64) (ws : List UInt64) :
    word? (Op.slotBytes (w :: ws)) = some (w, Op.slotBytes ws) := by
  have hvalue : UInt64.ofNat (leValue (leBytes 8 w.toNat)) = w := by
    rw [leValue_leBytes_of_lt w.toNat_lt, UInt64.ofNat_toNat]
  rw [word?, Op.slotBytes_cons, cut?_append (length_leBytes 8 _)]
  dsimp only [Option.bind_eq_bind, Option.bind_some]
  rw [hvalue]
  rfl

/-- An identifier takes three of them. -/
theorem tag?_triplet (t : TagId) (ws : List UInt64) :
    tag? (Op.slotBytes (t.triplet ++ ws)) = some (t, Op.slotBytes ws) := by
  cases t using TagId.triplet_cases with
  | h hi mid lo =>
      rw [TagId.triplet_ofTriplet, tag?]
      show (word? (Op.slotBytes (hi :: mid :: lo :: ws))).bind _ = _
      rw [word?_cons]
      dsimp only [Option.bind_eq_bind, Option.bind_some]
      rw [word?_cons]
      dsimp only [Option.bind_some]
      rw [word?_cons]
      rfl

/-- A value reference takes two. -/
theorem ref?_cons (a b : UInt64) (ws : List UInt64) :
    ref? (Op.slotBytes (a :: b :: ws)) = some (⟨a, b⟩, Op.slotBytes ws) := by
  rw [ref?, word?_cons]
  dsimp only [Option.bind_eq_bind, Option.bind_some]
  rw [word?_cons]
  rfl

/-- The slots of an op are enough for it, read one by one. -/
theorem fields?_slots (op : Op) : fields? (Op.slotBytes op.slots) op.code = some op := by
  have hlast := fun t : TagId => List.append_nil t.triplet ▸ tag?_triplet t []
  cases op with
  | noOp => rfl
  | metaAttr => simp [Op.slots, Op.code, fields?, tag?_triplet, ref?_cons]
  | upsertAttr => simp [Op.slots, Op.code, fields?, tag?_triplet, word?_cons, ref?_cons]
  | deleteAttr => simp [Op.slots, Op.code, fields?, tag?_triplet, hlast]
  | deleteCell => simp [Op.slots, Op.code, fields?, hlast]
  | upsertLink => simp [Op.slots, Op.code, fields?, tag?_triplet, hlast]
  | deleteLink => simp [Op.slots, Op.code, fields?, tag?_triplet, hlast]

/-- `Op.decode`, access by access. -/
def op? (bs : List UInt8) : Option (Except Op.Fault (Op × List UInt8)) :=
  if bs.length < 2 then some (.error .truncatedHead)
  else do
    let number ← bs[0]?
    match OpCode.ofNat? number.toNat with
    | none => return .error (.unknownCode number.toNat)
    | some code =>
      let count ← bs[1]?
      if maxSlots < count.toNat then return .error (.tooManySlots count.toNat)
      if count.toNat ≠ code.slotCount then return .error (.wrongSlots code count.toNat)
      if bs.length < 2 + 8 * count.toNat then return .error (.truncated code)
      let (_, rest) ← cut? 2 bs
      let (slots, rest) ← cut? (8 * count.toNat) rest
      let op ← fields? slots code
      return .ok (op, rest)

/-- An op is read within its slots, which are as many as its opcode says. -/
theorem op?_eq (bs : List UInt8) : op? bs = some (Op.decode bs) := by
  match bs with
  | [] => rfl
  | [_] => rfl
  | number :: count :: rest =>
      have hlong : ¬(number :: count :: rest).length < 2 := by
        rw [List.length_cons, List.length_cons]
        omega
      rw [op?, Op.decode, if_neg hlong]
      dsimp only [List.getElem?_cons_zero, List.getElem?_cons_succ, Option.bind_eq_bind,
        Option.bind_some]
      cases hcode : OpCode.ofNat? number.toNat with
      | none => rfl
      | some code =>
          dsimp only
          split
          · rfl
          · split
            · rfl
            next hcount =>
              have hslots : count.toNat = code.slotCount := Decidable.not_not.mp hcount
              have hroom : (number :: count :: rest).length < 2 + 8 * count.toNat
                  ↔ (rest.take (8 * count.toNat)).length < 8 * count.toNat := by
                rw [List.length_cons, List.length_cons, List.length_take]
                omega
              simp only [hroom]
              split
              · rfl
              next hheld =>
                have hlen : 8 * count.toNat ≤ rest.length := by
                  rw [List.length_take] at hheld
                  omega
                obtain ⟨op, hcode, hread⟩ := Op.exists_slots
                  ((Op.length_readSlots count.toNat rest).trans hslots)
                have hcut : cut? 2 (number :: count :: rest) = some ([number, count], rest) := by
                  show cut? 2 ([number, count] ++ rest) = some ([number, count], rest)
                  exact cut?_append rfl
                rw [hcut]
                dsimp only [Option.bind_some]
                rw [cut?_eq hlen]
                dsimp only [Option.bind_some]
                rw [← Op.slotBytes_readSlots hlen, ← hread, ← hcode, fields?_slots,
                  Op.ofSlots?_slots]
                rfl

/-- `decodeOps`, access by access. -/
def ops? : Nat → List UInt8 → Option (Except Op.Fault (List Op × List UInt8))
  | 0, bs => some (.ok ([], bs))
  | count + 1, bs => do
    match ← op? bs with
    | .error fault => return .error fault
    | .ok (op, rest) =>
      match ← ops? count rest with
      | .error fault => return .error fault
      | .ok (ops, rest) => return .ok (op :: ops, rest)

/-- Ops are read one after another, each from what the last has left. -/
theorem ops?_eq (count : Nat) (bs : List UInt8) :
    ops? count bs = some (Frame.decodeOps count bs) := by
  induction count generalizing bs with
  | zero => rfl
  | succ count ih =>
      rw [ops?, Frame.decodeOps, op?_eq]
      dsimp only [Option.bind_eq_bind, Option.bind_some]
      cases Op.decode bs with
      | error fault => rfl
      | ok read =>
          dsimp only
          rw [ih]
          dsimp only [Option.bind_some]
          show _ = some (Except.bind (Frame.decodeOps count read.2) _)
          cases Frame.decodeOps count read.2 with
          | error fault => rfl
          | ok more => rfl

-- =============================================================== frames

/-- `decodeFrame`, access by access. -/
def frame? (config : TxConfig) (h : Frame.Header) (frame : ByteArray) :
    Option (Except TxError Tx) := do
  let region ← range? frame Frame.headerSize Frame.minBody
  match ← info? (Bytes.list region) with
  | .error fault => return .error (.malformedTx fault)
  | .ok (info, count) =>
    if config.maxOps < count then return .error (.tooManyOps count config.maxOps)
    let region ← range? frame Frame.minBody h.bodySize
    match ← ops? count (Bytes.list region) with
    | .error fault => return .error (.malformedTx (.op fault))
    | .ok (ops, left) =>
      if left ≠ [] then return .error (.malformedTx (.leftover left.length count))
      let data ← range? frame h.bodySize frame.size
      match Tx.strayReference? ops data.size with
      | some (i, r) => return .error (.malformedTx (.strayReference i r data.size))
      | none => return .ok ⟨info, ops, data⟩

/-- A frame of the declared size holds a body and the data after it. -/
theorem frame?_eq {config : TxConfig} {h : Frame.Header} {frame : ByteArray}
    (hsize : frame.size = h.total) (hbody : Frame.minBody ≤ h.bodySize) :
    frame? config h frame = some (Frame.decodeFrame config h frame) := by
  have htotal : h.total = h.bodySize + h.dataSize := rfl
  have hmin : Frame.minBody = Frame.headerSize + Frame.infoSize := rfl
  have hlen : (Bytes.list (frame.extract Frame.headerSize Frame.minBody)).length
      = Frame.infoSize := by
    rw [Bytes.length_list, ByteArray.size_extract]
    omega
  have hhead : Frame.headerSize ≤ Frame.minBody := by omega
  have hheld : Frame.minBody ≤ frame.size := by omega
  unfold frame? Frame.decodeFrame
  rw [range?_eq hhead hheld]
  dsimp only [Option.bind_eq_bind, Option.bind_some]
  rw [info?_eq hlen]
  dsimp only [Option.bind_some, Bytes.slice]
  cases Frame.decodeInfo (Bytes.list (frame.extract Frame.headerSize Frame.minBody)) with
  | error fault => rfl
  | ok fields =>
      obtain ⟨info, count⟩ := fields
      dsimp only
      split
      · rfl
      · have hops : h.bodySize ≤ frame.size := by omega
        rw [range?_eq hbody hops]
        dsimp only [Option.bind_some]
        rw [ops?_eq]
        dsimp only [Option.bind_some]
        cases Frame.decodeOps count (Bytes.list (frame.extract Frame.minBody h.bodySize)) with
        | error fault => rfl
        | ok read =>
            obtain ⟨ops, left⟩ := read
            dsimp only
            split
            · rfl
            · rw [range?_eq hops (Nat.le_refl _), hsize]
              dsimp only [Option.bind_some]
              cases Tx.strayReference? ops (frame.extract h.bodySize h.total).size with
              | none => rfl
              | some stray => rfl

-- ================================================== fronts of a buffer

/-- `decode`, access by access. -/
def decode? (config : TxConfig) (buffer : ByteArray) : Option Frame.Decoded :=
  if buffer.size < Frame.headerSize then some .incomplete
  else do
    let front ← range? buffer 0 Frame.headerSize
    match ← parse? front with
    | .error fault => return .refused (.malformedTx fault)
    | .ok h =>
      match h.check config with
      | .error error => return .refused error
      | .ok () =>
        if buffer.size < h.total then return .incomplete
        let frame ← range? buffer 0 h.total
        let rest ← range? buffer h.total buffer.size
        match ← frame? config h frame with
        | .error error => return .spoiled error rest
        | .ok tx => return .complete tx rest

/-- Every access of a look at a buffer is in bounds. -/
theorem decode?_eq (config : TxConfig) (buffer : ByteArray) :
    decode? config buffer = some (Frame.decode config buffer) := by
  unfold decode? Frame.decode Frame.heading
  by_cases hshort : buffer.size < Frame.headerSize
  · rw [if_pos hshort, if_pos hshort]
  · rw [if_neg hshort, if_neg hshort, range?_eq (Nat.zero_le _) (Nat.not_lt.mp hshort)]
    dsimp only [Option.bind_eq_bind, Option.bind_some]
    rw [parse?_eq]
    dsimp only [Option.bind_some, Bytes.slice]
    cases Frame.Header.parse (Bytes.list (buffer.extract 0 Frame.headerSize)) with
    | error fault => rfl
    | ok h =>
        dsimp only
        cases hcheck : h.check config with
        | error error => rfl
        | ok u =>
            dsimp only [Except.map]
            split
            · rfl
            next hwhole =>
              have htotal : h.total ≤ buffer.size := Nat.not_lt.mp hwhole
              have hsize : (buffer.extract 0 h.total).size = h.total := by
                rw [ByteArray.size_extract]
                omega
              rw [range?_eq (Nat.zero_le _) htotal]
              dsimp only [Option.bind_some]
              rw [range?_eq htotal (Nat.le_refl _)]
              dsimp only [Option.bind_some]
              rw [frame?_eq hsize (Frame.Header.check_eq_ok_iff.mp hcheck).2.1]
              dsimp only [Option.bind_some]
              cases Frame.decodeFrame config h (buffer.extract 0 h.total) with
              | error error => rfl
              | ok tx => rfl

end Bounds

end CellSync
