/-
Frames are read as they were written, and no other bytes are read.

The three parts of a frame's body are taken one by one: the header, the
control fields, the ops. For each of them a reading lemma undoes the
writing, and a converse says that what is read is a writing. From these,
`decodeFrame` of a whole frame is settled in both directions, and
`decode` looks at the front of a buffer through it.

The limits of the two sides meet in `accepts_sizes`: a transaction within
a reader's limits never declares sizes that the reader refuses, although
the writer counts ops and the reader counts bytes and saturates.
-/
import CellSync.Tx.Frame
import CellSync.Proofs.Tx.Op

namespace CellSync

-- ========================================================== sequencing

/-- Steps in sequence succeed when each does. -/
theorem bind_eq_ok {ε α β : Type} {x : Except ε α} {f : α → Except ε β} {b : β} :
    (x >>= f) = .ok b ↔ ∃ a, x = .ok a ∧ f a = .ok b := by
  cases x with
  | error e => exact ⟨nofun, fun ⟨_, h, _⟩ => nomatch h⟩
  | ok a => exact ⟨fun h => ⟨a, rfl, h⟩, fun ⟨_, ha, h⟩ => Except.ok.inj ha ▸ h⟩

-- ======================================================== vocabularies

theorem Kind.ofNat?_toNat (k : Kind) : Kind.ofNat? k.toNat = some k := by cases k <;> rfl

theorem Kind.toNat_of_ofNat? {n : Nat} {k : Kind} (h : Kind.ofNat? n = some k) :
    k.toNat = n := by
  have := List.find?_some h
  simpa using this

theorem Kind.toNat_lt (k : Kind) : k.toNat < 256 := by cases k <;> decide

theorem Status.ofNat?_toNat (s : Status) : Status.ofNat? s.toNat = some s := by
  cases s <;> rfl

theorem Status.toNat_of_ofNat? {n : Nat} {s : Status} (h : Status.ofNat? n = some s) :
    s.toNat = n := by
  have := List.find?_some h
  simpa using this

theorem Status.toNat_lt (s : Status) : s.toNat < 256 := by cases s <;> decide

theorem ErrorCode.ofNat?_toNat (c : ErrorCode) : ErrorCode.ofNat? c.toNat = some c := by
  cases c <;> rfl

theorem ErrorCode.toNat_of_ofNat? {n : Nat} {c : ErrorCode} (h : ErrorCode.ofNat? n = some c) :
    c.toNat = n := by
  have := List.find?_some h
  simpa using this

theorem ErrorCode.toNat_lt (c : ErrorCode) : c.toNat < 256 ^ 2 := by cases c <;> decide

namespace Frame

-- ============================================================== header

/-- Sizes that fit their field are those that four bytes spell. -/
theorem le_maxSize_iff {n : Nat} : n ≤ maxSize ↔ n < 256 ^ 4 := by
  show n ≤ 4294967295 ↔ n < 256 ^ 4
  omega

namespace Header

theorem length_encode (h : Header) : h.encode.length = headerSize := by
  simp [encode, marker, length_leBytes, headerSize]

/-- A header read after it was written. -/
theorem parse_encode {h : Header} (hbody : h.bodySize ≤ maxSize) (hdata : h.dataSize ≤ maxSize) :
    parse h.encode = .ok h := by
  have hb : leValue (leBytes 4 h.bodySize) = h.bodySize :=
    leValue_leBytes_of_lt (le_maxSize_iff.mp hbody)
  have hd : leValue (leBytes 4 h.dataSize) = h.dataSize :=
    leValue_leBytes_of_lt (le_maxSize_iff.mp hdata)
  have hlb : (leBytes 4 h.bodySize).length = 4 := length_leBytes 4 _
  have hld : (leBytes 4 h.dataSize).length = 4 := length_leBytes 4 _
  rw [encode]
  generalize leBytes 4 h.bodySize = b at hb hlb
  generalize leBytes 4 h.dataSize = d at hd hld
  match b, hlb, d, hld with
  | [_, _, _, _], _, [_, _, _, _], _ =>
      simp [parse, marker, version, headerSize, hb, hd]

/-- Sixteen bytes that are read as a header are that header's, and both sizes
fit their fields. -/
theorem eq_encode_of_parse {bs : List UInt8} {h : Header} (hlen : bs.length = headerSize)
    (hp : parse bs = .ok h) : bs = h.encode ∧ h.bodySize ≤ maxSize ∧ h.dataSize ≤ maxSize := by
  match bs, hlen with
  | [b0, b1, b2, b3, b4, b5, b6, b7, b8, b9, b10, b11, b12, b13, b14, b15], _ =>
      rw [parse] at hp
      split at hp
      · cases hp
      split at hp
      · cases hp
      next hmarker =>
        split at hp
        · cases hp
        next hversion =>
          split at hp
          · cases hp
          next hreserved =>
            injection hp with hp
            subst hp
            have hbody : leBytes 4 (leValue [b4, b5, b6, b7]) = [b4, b5, b6, b7] :=
              leBytes_leValue_of_length rfl
            have hdata : leBytes 4 (leValue [b8, b9, b10, b11]) = [b8, b9, b10, b11] :=
              leBytes_leValue_of_length rfl
            refine ⟨?_, le_maxSize_iff.mpr (leValue_lt [b4, b5, b6, b7]),
              le_maxSize_iff.mpr (leValue_lt [b8, b9, b10, b11])⟩
            have hmarker' : [b0, b1, b2] = marker := Decidable.not_not.mp hmarker
            have hversion' : b3 = version := Decidable.not_not.mp hversion
            have hreserved' : [b12, b13, b14, b15] = [0, 0, 0, 0] :=
              Decidable.not_not.mp hreserved
            show _ = marker ++ version :: leBytes 4 (leValue [b4, b5, b6, b7])
              ++ leBytes 4 (leValue [b8, b9, b10, b11]) ++ [0, 0, 0, 0]
            rw [hbody, hdata, ← hmarker', ← hversion', ← hreserved']
            rfl

/-- What the limits ask of the declared sizes. -/
theorem check_eq_ok_iff {h : Header} {config : TxConfig} : h.check config = .ok () ↔
    h.dataSize ≤ config.maxData ∧ minBody ≤ h.bodySize ∧ h.bodySize ≤ config.maxBody := by
  unfold check
  constructor
  · intro hcheck
    split at hcheck
    · cases hcheck
    · split at hcheck
      · cases hcheck
      · omega
  · rintro ⟨hdata, hmin, hmax⟩
    rw [if_neg (by omega), if_neg (by omega)]

theorem total_eq (tx : Tx) : total ⟨tx.bodySize, tx.data.size⟩ = tx.wireSize := rfl

end Header

-- ====================================================== control fields

/-- The identifier as the control fields tell it: all bytes zero mean none. -/
def tidOfBytes (bs : List UInt8) : Option Tid :=
  let tid : Tid := ⟨.ofBytes bs⟩
  if tid.isZero then none else some tid

theorem isZero_iff {tid : Tid} : tid.isZero = true ↔ tid = .zero := by
  constructor
  · intro h
    have hvalue : tid.octets.value = 0 := by simpa [Tid.isZero, Octets.isZero] using h
    cases tid with
    | mk octets => exact congrArg Tid.mk (Octets.ext_value hvalue)
  · rintro rfl
    rfl

/-- The convention for a missing identifier loses nothing but the zero one. -/
theorem tidOfBytes_toBytes {tid : Option Tid} (h : tid ≠ some .zero) :
    tidOfBytes (tid.getD .zero).octets.toBytes = tid := by
  rw [tidOfBytes, Octets.ofBytes_toBytes]
  cases tid with
  | none => rfl
  | some tid =>
      have hne : ¬tid.isZero = true := fun hz => h (congrArg some (isZero_iff.mp hz))
      exact if_neg hne

/-- Bytes that are read as an identifier, or as none, are what it is written as. -/
theorem toBytes_of_tidOfBytes {bs : List UInt8} (h : bs.length = 32) :
    ((tidOfBytes bs).getD .zero).octets.toBytes = bs ∧ tidOfBytes bs ≠ some .zero := by
  have hbytes := Octets.toBytes_ofBytes h
  by_cases hz : (⟨.ofBytes bs⟩ : Tid).isZero = true
  · have hnone : tidOfBytes bs = none := if_pos hz
    rw [hnone]
    refine ⟨?_, nofun⟩
    rw [Option.getD_none, ← isZero_iff.mp hz]
    exact hbytes
  · have hsome : tidOfBytes bs = some ⟨.ofBytes bs⟩ := if_neg hz
    rw [hsome]
    refine ⟨hbytes, fun h => hz (isZero_iff.mpr (Option.some.inj h))⟩

theorem length_encodeInfo (info : Info) (count : Nat) :
    (encodeInfo info count).length = infoSize := by
  simp [encodeInfo, Octets.length_toBytes, length_leBytes, infoSize]

/-- Control fields as they are read: the bytes of each field, decoded. -/
theorem decodeInfo_fields {t c e n : List UInt8} {k s : UInt8} (ht : t.length = 32)
    (hc : c.length = 8) (he : e.length = 2) (hn : n.length = 4) :
    decodeInfo (t ++ (c ++ (k :: s :: (e ++ n)))) = (do
      let some kind := Kind.ofNat? k.toNat | throw (.unknownKind k.toNat)
      let some status := Status.ofNat? s.toNat | throw (.unknownStatus s.toNat)
      let some code := ErrorCode.ofNat? (leValue e) | throw (.unknownCode (leValue e))
      pure (⟨kind, tidOfBytes t, UInt64.ofNat (leValue c), status, code⟩, leValue n)) := by
  have h32 : (t ++ (c ++ (k :: s :: (e ++ n)))).drop 32 = c ++ (k :: s :: (e ++ n)) :=
    List.drop_left' ht
  have h40 : (t ++ (c ++ (k :: s :: (e ++ n)))).drop 40 = k :: s :: (e ++ n) := by
    rw [← List.append_assoc, List.drop_left' (by rw [List.length_append, ht, hc])]
  have h41 : (t ++ (c ++ (k :: s :: (e ++ n)))).drop 41 = s :: (e ++ n) := by
    rw [← List.drop_drop (i := 1), h40, List.drop_one, List.tail_cons]
  have h42 : (t ++ (c ++ (k :: s :: (e ++ n)))).drop 42 = e ++ n := by
    rw [← List.drop_drop (i := 1), h41, List.drop_one, List.tail_cons]
  have h44 : (t ++ (c ++ (k :: s :: (e ++ n)))).drop 44 = n := by
    rw [← List.drop_drop (i := 2), h42, List.drop_left' he]
  have htake : (t ++ (c ++ (k :: s :: (e ++ n)))).take 32 = t := List.take_left' ht
  unfold decodeInfo
  simp only [h32, h40, h41, h42, h44, htake, List.take_left' hc, List.take_left' he,
    List.take_of_length_le (Nat.le_of_eq hn), List.take_succ_cons, List.take_zero, leValue,
    Nat.mul_zero, Nat.add_zero]
  rfl

/-- Forty-eight bytes, cut into the fields. -/
theorem exists_infoFields {bs : List UInt8} (h : bs.length = infoSize) :
    ∃ t c k s e n, bs = t ++ (c ++ (k :: s :: (e ++ n))) ∧ t.length = 32 ∧ c.length = 8
      ∧ e.length = 2 ∧ n.length = 4 := by
  obtain ⟨k, s, tail, hmid⟩ : ∃ k s tail, bs.drop 40 = k :: s :: tail := by
    match hd : bs.drop 40, (by rw [List.length_drop, h]; rfl : (bs.drop 40).length = 8) with
    | k :: s :: tail, _ => exact ⟨k, s, tail, rfl⟩
  have htail : tail.length = 6 := by
    have := congrArg List.length hmid
    rw [List.length_drop, h] at this
    simpa [infoSize] using this.symm
  refine ⟨bs.take 32, (bs.drop 32).take 8, k, s, tail.take 2, tail.drop 2, ?_, ?_, ?_, ?_, ?_⟩
  · have h40 : bs.drop 40 = (bs.drop 32).drop 8 := by rw [List.drop_drop]
    rw [List.take_append_drop, ← hmid, h40, List.take_append_drop, List.take_append_drop]
  · rw [List.length_take, h]
    rfl
  · rw [List.length_take, List.length_drop, h]
    rfl
  · rw [List.length_take, htail]
    rfl
  · rw [List.length_drop, htail]

/-- Control fields read after they were written. -/
theorem decodeInfo_encodeInfo {info : Info} {count : Nat} (htid : info.tid ≠ some .zero)
    (hcount : count ≤ maxSize) : decodeInfo (encodeInfo info count) = .ok (info, count) := by
  have hkind : (UInt8.ofNat info.kind.toNat).toNat = info.kind.toNat := by
    rw [UInt8.toNat_ofNat', Nat.mod_eq_of_lt info.kind.toNat_lt]
  have hstatus : (UInt8.ofNat info.status.toNat).toNat = info.status.toNat := by
    rw [UInt8.toNat_ofNat', Nat.mod_eq_of_lt info.status.toNat_lt]
  have hsplit : encodeInfo info count
      = (info.tid.getD .zero).octets.toBytes ++ (leBytes 8 info.contextId.toNat
        ++ (UInt8.ofNat info.kind.toNat :: UInt8.ofNat info.status.toNat
          :: (leBytes 2 info.code.toNat ++ leBytes 4 count))) := by
    simp [encodeInfo, List.append_assoc]
  rw [hsplit, decodeInfo_fields (Octets.length_toBytes _) (length_leBytes 8 _)
    (length_leBytes 2 _) (length_leBytes 4 _), hkind, hstatus,
    leValue_leBytes_of_lt info.code.toNat_lt, leValue_leBytes_of_lt info.contextId.toNat_lt,
    leValue_leBytes_of_lt (le_maxSize_iff.mp hcount), Kind.ofNat?_toNat, Status.ofNat?_toNat,
    ErrorCode.ofNat?_toNat, tidOfBytes_toBytes htid, UInt64.ofNat_toNat]
  rfl

/-- Forty-eight bytes that are read as control fields are the writing of those. -/
theorem eq_encodeInfo_of_decodeInfo {bs : List UInt8} {info : Info} {count : Nat}
    (hlen : bs.length = infoSize) (h : decodeInfo bs = .ok (info, count)) :
    bs = encodeInfo info count ∧ info.tid ≠ some .zero ∧ count ≤ maxSize := by
  obtain ⟨t, c, k, s, e, n, rfl, ht, hc, he, hn⟩ := exists_infoFields hlen
  rw [decodeInfo_fields ht hc he hn] at h
  cases hk : Kind.ofNat? k.toNat with
  | none => rw [hk] at h; cases h
  | some kind =>
  cases hs : Status.ofNat? s.toNat with
  | none => rw [hk, hs] at h; cases h
  | some status =>
  cases hcode : ErrorCode.ofNat? (leValue e) with
  | none => rw [hk, hs, hcode] at h; cases h
  | some code =>
      rw [hk, hs, hcode] at h
      injection h with h
      injection h with hinfo hcount
      subst hinfo hcount
      obtain ⟨htid, hne⟩ := toBytes_of_tidOfBytes ht
      have hctx : leBytes 8 (UInt64.ofNat (leValue c)).toNat = c := by
        have hlt := leValue_lt c
        rw [hc] at hlt
        rw [UInt64.toNat_ofNat_of_lt' hlt, leBytes_leValue_of_length hc]
      have hn' := leValue_lt n
      rw [hn] at hn'
      refine ⟨?_, hne, le_maxSize_iff.mpr hn'⟩
      rw [encodeInfo, htid, hctx, Kind.toNat_of_ofNat? hk, Status.toNat_of_ofNat? hs,
        ErrorCode.toNat_of_ofNat? hcode, leBytes_leValue_of_length he,
        leBytes_leValue_of_length hn, UInt8.ofNat_toNat, UInt8.ofNat_toNat]
      simp [List.append_assoc]

-- ================================================================= ops

theorem length_flatMap_encode (ops : List Op) :
    (ops.flatMap Op.encode).length = Op.totalSize ops := by
  induction ops with
  | nil => rfl
  | cons op ops ih =>
      rw [List.flatMap_cons, List.length_append, Op.length_encode, ih, Op.totalSize]

/-- Ops read after they were written, whatever follows. -/
theorem decodeOps_flatMap_encode (ops : List Op) (rest : List UInt8) :
    decodeOps ops.length (ops.flatMap Op.encode ++ rest) = .ok (ops, rest) := by
  induction ops with
  | nil => rfl
  | cons op ops ih =>
      rw [List.flatMap_cons, List.append_assoc, List.length_cons, decodeOps, bind_eq_ok]
      exact ⟨_, Op.decode_encode op _, bind_eq_ok.mpr ⟨_, ih, rfl⟩⟩

/-- What is read as so many ops is the writing of those. -/
theorem eq_flatMap_encode_of_decodeOps {count : Nat} {bs rest : List UInt8} {ops : List Op}
    (h : decodeOps count bs = .ok (ops, rest)) :
    bs = ops.flatMap Op.encode ++ rest ∧ ops.length = count := by
  induction count generalizing bs ops with
  | zero =>
      injection h with h
      injection h with hops hrest
      subst hops hrest
      exact ⟨rfl, rfl⟩
  | succ count ih =>
      rw [decodeOps, bind_eq_ok] at h
      obtain ⟨⟨op, left⟩, hop, h⟩ := h
      obtain ⟨⟨ops', rest'⟩, hops, h⟩ := bind_eq_ok.mp h
      injection h with h
      injection h with hlist hrest
      subst hlist hrest
      obtain ⟨hleft, hcount⟩ := ih hops
      rw [List.flatMap_cons, List.append_assoc, ← hleft, List.length_cons, hcount]
      exact ⟨Op.eq_encode_of_decode hop, rfl⟩

theorem wireSize_le (op : Op) : op.wireSize ≤ maxOpSize := by
  have h := op.code.slotCount_le
  rw [Op.wireSize, maxOpSize]
  omega

/-- Ops take at most as many bytes as the reader allows for their number. -/
theorem totalSize_le (ops : List Op) : Op.totalSize ops ≤ ops.length * maxOpSize := by
  induction ops with
  | nil => exact Nat.le_refl _
  | cons op ops ih =>
      have h := wireSize_le op
      rw [Op.totalSize, List.length_cons, Nat.add_mul, Nat.one_mul]
      omega

/-- An op takes at least its two leading bytes. -/
theorem length_le_totalSize (ops : List Op) : 2 * ops.length ≤ Op.totalSize ops := by
  induction ops with
  | nil => exact Nat.le_refl _
  | cons op ops ih =>
      rw [Op.totalSize, List.length_cons, Op.wireSize]
      omega

-- ========================================================== what may pass

/-- Whether a transaction stays within some limits. -/
def Within (config : TxConfig) (tx : Tx) : Prop :=
  tx.ops.length ≤ config.maxOps ∧ tx.data.size ≤ config.maxData

/-- What a frame asks of a transaction whatever the limits are: its sizes fit
their fields, its references its data, and its identifier is not the one that
stands for none. -/
structure Writable (tx : Tx) : Prop where
  body_le : tx.bodySize ≤ maxSize
  data_le : tx.data.size ≤ maxSize
  refs : Tx.strayReference? tx.ops tx.data.size = none
  tid_ne : tx.info.tid ≠ some .zero

/-- The number of ops fits its field. -/
theorem Writable.length_le {tx : Tx} (hw : Writable tx) : tx.ops.length ≤ maxSize := by
  have htotal := length_le_totalSize tx.ops
  have hbody : tx.bodySize = minBody + Op.totalSize tx.ops := rfl
  have hle := hw.body_le
  omega

theorem check_eq_ok_iff {tx : Tx} {config : TxConfig} :
    check tx config = .ok () ↔ Within config tx ∧ Writable tx := by
  constructor
  · intro h
    unfold check at h
    dsimp only at h
    split at h
    · cases h
    next hops =>
      split at h
      · cases h
      next hdata =>
        split at h
        · cases h
        next hrefs =>
          split at h
          · cases h
          next htid =>
            split at h
            · cases h
            next hbody => exact ⟨⟨by omega, by omega⟩, ⟨by omega, by omega, hrefs, htid⟩⟩
  · rintro ⟨⟨hops, hdata⟩, ⟨hbody, hsize, hrefs, htid⟩⟩
    unfold check
    dsimp only
    rw [if_neg (by omega), if_neg (by omega), hrefs]
    dsimp only
    rw [if_neg htid, if_neg (by omega)]

/-- What `encode` gives: the frame of a transaction that may be written. -/
theorem encode_eq_ok_iff {tx : Tx} {config : TxConfig} {frame : ByteArray} :
    encode tx config = .ok frame ↔ Within config tx ∧ Writable tx ∧ frame = bytes tx := by
  rw [encode, ← and_assoc, ← check_eq_ok_iff]
  cases check tx config with
  | error e => exact ⟨nofun, nofun⟩
  | ok u => exact ⟨fun h => ⟨rfl, (Except.ok.inj h).symm⟩, fun h => congrArg Except.ok h.2.symm⟩

/-- No reference is stray exactly when every one lies inside the data. -/
theorem strayReference?_eq_none_iff {ops : List Op} {size : Nat} :
    Tx.strayReference? ops size = none ↔
      ∀ op ∈ ops, ∀ r, op.value? = some r → r.fits size = true := by
  rw [Tx.strayReference?, List.findSome?_eq_none_iff]
  constructor
  · intro h op hop r hr
    obtain ⟨i, hi⟩ := List.mem_iff_getElem?.mp hop
    have hnone := h (op, i) (List.mem_zipIdx_iff_getElem?.mpr hi)
    dsimp only at hnone
    rw [hr, Option.bind_some] at hnone
    by_contra hfits
    rw [if_neg hfits] at hnone
    cases hnone
  · rintro h ⟨op, i⟩ hmem
    have hop : op ∈ ops :=
      List.mem_iff_getElem?.mpr ⟨i, List.mem_zipIdx_iff_getElem?.mp hmem⟩
    dsimp only
    cases hr : op.value? with
    | none => rfl
    | some r => rw [Option.bind_some, if_pos (h op hop r hr)]

/-- A transaction within a reader's limits declares no size that it refuses. -/
theorem accepts_sizes {tx : Tx} {config : TxConfig} (hw : Writable tx) (hin : Within config tx) :
    Header.check ⟨tx.bodySize, tx.data.size⟩ config = .ok () := by
  have htotal := totalSize_le tx.ops
  have hmax : tx.ops.length * maxOpSize ≤ config.maxOps * maxOpSize :=
    Nat.mul_le_mul_right _ hin.1
  have hbody := hw.body_le
  have hlarge : maxSize ≤ maxWord := by decide
  have hsize : tx.bodySize = minBody + Op.totalSize tx.ops := rfl
  refine Header.check_eq_ok_iff.mpr ⟨hin.2, ?_, ?_⟩
  · show minBody ≤ tx.bodySize
    omega
  · show tx.bodySize ≤ config.maxBody
    rw [TxConfig.maxBody]
    omega

-- ========================================================= whole frames

theorem list_bytes (tx : Tx) : Bytes.list (bytes tx)
    = Header.encode ⟨tx.bodySize, tx.data.size⟩ ++ (encodeInfo tx.info tx.ops.length
      ++ (tx.ops.flatMap Op.encode ++ Bytes.list tx.data)) := by
  rw [bytes, Bytes.list_append, Bytes.list_pack, encodeBody, List.append_assoc,
    List.append_assoc]

/-- A frame is as large as its header says. -/
theorem size_bytes (tx : Tx) : (bytes tx).size = tx.wireSize := by
  have h := congrArg List.length (list_bytes tx)
  rw [Bytes.length_list, List.length_append, List.length_append, List.length_append,
    Header.length_encode, length_encodeInfo, length_flatMap_encode, Bytes.length_list] at h
  rw [h, Tx.wireSize, Tx.bodySize]
  have : minBody = headerSize + infoSize := rfl
  omega

/-- No frame is empty. -/
theorem wireSize_pos (tx : Tx) : 0 < tx.wireSize := by
  have hmin : minBody = 64 := rfl
  rw [Tx.wireSize, Tx.bodySize]
  omega

/-- The parts of a frame, cut where the reader cuts them. -/
theorem slices_bytes (tx : Tx) :
    Bytes.slice (bytes tx) 0 headerSize = Header.encode ⟨tx.bodySize, tx.data.size⟩
      ∧ Bytes.slice (bytes tx) headerSize minBody = encodeInfo tx.info tx.ops.length
      ∧ Bytes.slice (bytes tx) minBody tx.bodySize = tx.ops.flatMap Op.encode
      ∧ (bytes tx).extract tx.bodySize tx.wireSize = tx.data := by
  have hlist := list_bytes tx
  have hh := Header.length_encode ⟨tx.bodySize, tx.data.size⟩
  have hi := length_encodeInfo tx.info tx.ops.length
  have ho := length_flatMap_encode tx.ops
  have hmin : minBody = headerSize + infoSize := rfl
  have hbody : tx.bodySize = minBody + Op.totalSize tx.ops := rfl
  refine ⟨?_, ?_, ?_, ?_⟩
  · exact Bytes.slice_of_list (hlist.trans (List.nil_append _).symm) rfl (by omega)
  · exact Bytes.slice_of_list hlist hh (by omega)
  · rw [← List.append_assoc] at hlist
    exact Bytes.slice_of_list hlist (by rw [List.length_append]; omega) (by omega)
  · apply Bytes.list_inj
    rw [← List.append_assoc, ← List.append_assoc,
      ← List.append_nil (Bytes.list tx.data)] at hlist
    refine Bytes.slice_of_list hlist (by rw [List.length_append, List.length_append]; omega) ?_
    rw [Bytes.length_list, Tx.wireSize]

/-- The frame of a transaction within the limits is read as that transaction. -/
theorem decodeFrame_bytes {tx : Tx} {config : TxConfig} (hw : Writable tx)
    (hin : Within config tx) :
    decodeFrame config ⟨tx.bodySize, tx.data.size⟩ (bytes tx) = .ok tx := by
  obtain ⟨-, hinfo, hops, hdata⟩ := slices_bytes tx
  have hread := decodeOps_flatMap_encode tx.ops []
  rw [List.append_nil] at hread
  unfold decodeFrame
  rw [hinfo, decodeInfo_encodeInfo hw.tid_ne hw.length_le]
  dsimp only
  rw [if_neg (Nat.not_lt.mpr hin.1), hops, hread]
  dsimp only
  rw [if_neg (by simp), Header.total_eq, hdata, hw.refs]

/-- A frame with more ops than the limits allow is at fault for that. -/
theorem decodeFrame_bytes_of_lt {tx : Tx} {config : TxConfig} (hw : Writable tx)
    (hover : config.maxOps < tx.ops.length) :
    decodeFrame config ⟨tx.bodySize, tx.data.size⟩ (bytes tx)
      = .error (.tooManyOps tx.ops.length config.maxOps) := by
  unfold decodeFrame
  rw [(slices_bytes tx).2.1, decodeInfo_encodeInfo hw.tid_ne hw.length_le]
  dsimp only
  rw [if_pos hover]

/-- What each part of a frame was read as. -/
theorem decodeFrame_eq_ok {config : TxConfig} {h : Header} {frame : ByteArray} {tx : Tx}
    (hread : decodeFrame config h frame = .ok tx) :
    ∃ count, count ≤ config.maxOps
      ∧ decodeInfo (Bytes.slice frame headerSize minBody) = .ok (tx.info, count)
      ∧ decodeOps count (Bytes.slice frame minBody h.bodySize) = .ok (tx.ops, [])
      ∧ frame.extract h.bodySize h.total = tx.data
      ∧ Tx.strayReference? tx.ops tx.data.size = none := by
  unfold decodeFrame at hread
  split at hread
  · cases hread
  next info count hinfo =>
    split at hread
    · cases hread
    next hcount =>
      split at hread
      · cases hread
      next ops left hops =>
        split at hread
        · cases hread
        next hleft =>
          dsimp only at hread
          split at hread
          · cases hread
          next hrefs =>
            cases hread
            rw [Decidable.not_not.mp hleft] at hops
            exact ⟨count, Nat.not_lt.mp hcount, hinfo, hops, rfl, hrefs⟩

/-- A frame is its parts, cut where the reader cuts them. -/
theorem append_slices {frame : ByteArray} {body : Nat} (hmin : minBody ≤ body)
    (hsize : body ≤ frame.size) :
    Bytes.slice frame 0 headerSize ++ (Bytes.slice frame headerSize minBody
      ++ (Bytes.slice frame minBody body ++ Bytes.slice frame body frame.size))
      = Bytes.list frame := by
  have hheader : headerSize ≤ minBody := by decide
  rw [Bytes.slice_append_slice hmin hsize,
    Bytes.slice_append_slice hheader (Nat.le_trans hmin hsize),
    Bytes.slice_append_slice (Nat.zero_le _) (by omega), Bytes.slice_zero_size]

/-- A whole frame that is read as a transaction is that transaction's frame,
and the transaction may be written under the same limits. -/
theorem eq_bytes_of_decodeFrame {config : TxConfig} {h : Header} {frame : ByteArray} {tx : Tx}
    (hsize : frame.size = h.total)
    (hparse : Header.parse (Bytes.slice frame 0 headerSize) = .ok h)
    (hcheck : h.check config = .ok ()) (hread : decodeFrame config h frame = .ok tx) :
    Within config tx ∧ Writable tx ∧ frame = bytes tx := by
  obtain ⟨hdataMax, hbodyMin, -⟩ := Header.check_eq_ok_iff.mp hcheck
  have htotal : h.total = h.bodySize + h.dataSize := rfl
  have hmin : minBody = headerSize + infoSize := rfl
  have hlen0 : (Bytes.slice frame 0 headerSize).length = headerSize := by
    rw [Bytes.length_slice]
    omega
  have hlen1 : (Bytes.slice frame headerSize minBody).length = infoSize := by
    rw [Bytes.length_slice]
    omega
  obtain ⟨hheader, hbodySize, hdataSize⟩ := Header.eq_encode_of_parse hlen0 hparse
  obtain ⟨count, hcount, hinfo, hops, hdata, hrefs⟩ := decodeFrame_eq_ok hread
  obtain ⟨hinfoBytes, htid, -⟩ := eq_encodeInfo_of_decodeInfo hlen1 hinfo
  obtain ⟨hopBytes, hopCount⟩ := eq_flatMap_encode_of_decodeOps hops
  rw [List.append_nil] at hopBytes
  -- The declared sizes are the transaction's own.
  have hdataOwn : tx.data.size = h.dataSize := by
    rw [← hdata, ByteArray.size_extract]
    omega
  have hbodyOwn : tx.bodySize = h.bodySize := by
    rw [Tx.bodySize, ← length_flatMap_encode, ← hopBytes, Bytes.length_slice]
    omega
  refine ⟨⟨by omega, by omega⟩, ⟨by omega, by omega, hrefs, htid⟩, ?_⟩
  apply Bytes.list_inj
  rw [← append_slices hbodyMin (by omega), list_bytes, hheader, hinfoBytes, hopBytes, hopCount,
    hbodyOwn, hdataOwn, hsize, ← hdata]
  rfl

-- ================================================= fronts of a buffer

/-- The ways through `decode`, each with what is found on it. -/
inductive Found (config : TxConfig) (buffer : ByteArray) : Decoded → Prop where
  | short (hshort : buffer.size < headerSize) : Found config buffer .incomplete
  | refused {error : TxError} (hlong : headerSize ≤ buffer.size)
      (hheading : heading config buffer = .error error) : Found config buffer (.refused error)
  | waiting {h : Header} (hlong : headerSize ≤ buffer.size)
      (hheading : heading config buffer = .ok h) (hpart : buffer.size < h.total) :
      Found config buffer .incomplete
  | spoiled {h : Header} {error : TxError} (hheading : heading config buffer = .ok h)
      (hwhole : h.total ≤ buffer.size)
      (hread : decodeFrame config h (buffer.extract 0 h.total) = .error error) :
      Found config buffer (.spoiled error (buffer.extract h.total buffer.size))
  | complete {h : Header} {tx : Tx} (hheading : heading config buffer = .ok h)
      (hwhole : h.total ≤ buffer.size)
      (hread : decodeFrame config h (buffer.extract 0 h.total) = .ok tx) :
      Found config buffer (.complete tx (buffer.extract h.total buffer.size))

/-- A frame with an accepted header is longer than the header. -/
theorem headerSize_le_total {config : TxConfig} {buffer : ByteArray} {h : Header}
    (hheading : heading config buffer = .ok h) : headerSize ≤ h.total := by
  have hmin := Header.minBody_le_total (heading_eq_ok_iff.mp hheading).2
  have : minBody = headerSize + infoSize := rfl
  omega

theorem found_decode (config : TxConfig) (buffer : ByteArray) :
    Found config buffer (decode config buffer) := by
  unfold decode
  split
  next hshort => exact .short hshort
  next hlong =>
    have hlong := Nat.not_lt.mp hlong
    split
    next error hheading => exact .refused hlong hheading
    next h hheading =>
      split
      next hpart => exact .waiting hlong hheading hpart
      next hwhole =>
        have hwhole := Nat.not_lt.mp hwhole
        dsimp only
        split
        next error hread => exact .spoiled hheading hwhole hread
        next tx hread => exact .complete hheading hwhole hread

/-- What is found is what `decode` gives. -/
theorem decode_eq_iff {config : TxConfig} {buffer : ByteArray} {decoded : Decoded} :
    decode config buffer = decoded ↔ Found config buffer decoded := by
  constructor
  · rintro rfl
    exact found_decode config buffer
  · intro h
    unfold decode
    cases h with
    | short hshort => rw [if_pos hshort]
    | refused hlong hheading => rw [if_neg (Nat.not_lt.mpr hlong), hheading]
    | waiting hlong hheading hpart =>
        rw [if_neg (Nat.not_lt.mpr hlong), hheading]
        dsimp only
        rw [if_pos hpart]
    | spoiled hheading hwhole hread =>
        have hlong := Nat.le_trans (headerSize_le_total hheading) hwhole
        rw [if_neg (Nat.not_lt.mpr hlong), hheading]
        dsimp only
        rw [if_neg (Nat.not_lt.mpr hwhole), hread]
    | complete hheading hwhole hread =>
        have hlong := Nat.le_trans (headerSize_le_total hheading) hwhole
        rw [if_neg (Nat.not_lt.mpr hlong), hheading]
        dsimp only
        rw [if_neg (Nat.not_lt.mpr hwhole), hread]

/-- A header that is there as a whole is read the same whatever follows. -/
theorem heading_append (config : TxConfig) {buffer : ByteArray} (h : headerSize ≤ buffer.size)
    (more : ByteArray) : heading config (buffer ++ more) = heading config buffer := by
  rw [heading, heading, Bytes.slice_append_left h]

theorem heading_bytes (config : TxConfig) {tx : Tx} (hw : Writable tx) :
    heading config (bytes tx)
      = (Header.check ⟨tx.bodySize, tx.data.size⟩ config).map fun _ =>
          ⟨tx.bodySize, tx.data.size⟩ := by
  rw [heading, (slices_bytes tx).1, Header.parse_encode hw.body_le hw.data_le]

/-- At the front of a buffer a frame is looked at as if it stood alone. -/
theorem decode_append (config : TxConfig) {tx : Tx} (hw : Writable tx) (rest : ByteArray) :
    decode config (bytes tx ++ rest) =
      match Header.check ⟨tx.bodySize, tx.data.size⟩ config with
      | .error error => .refused error
      | .ok () =>
        match decodeFrame config ⟨tx.bodySize, tx.data.size⟩ (bytes tx) with
        | .error error => .spoiled error rest
        | .ok tx => .complete tx rest := by
  have hframe := size_bytes tx
  have hmin : headerSize ≤ tx.wireSize := by
    rw [Tx.wireSize, Tx.bodySize]
    have : minBody = headerSize + infoSize := rfl
    omega
  unfold decode
  rw [if_neg (by rw [ByteArray.size_append]; omega),
    heading_append config (hframe.symm ▸ hmin) rest, heading_bytes config hw]
  cases Header.check ⟨tx.bodySize, tx.data.size⟩ config with
  | error e => rfl
  | ok u =>
      dsimp only [Except.map]
      rewrite [Header.total_eq, if_neg (by rw [ByteArray.size_append]; omega),
        ByteArray.extract_append_eq_left hframe.symm,
        ByteArray.extract_append_eq_right hframe.symm
          (by rw [ByteArray.size_append])]
      cases decodeFrame config ⟨tx.bodySize, tx.data.size⟩ (bytes tx) with
      | error e => rfl
      | ok read => rfl

/-- The frame of a transaction within the limits is read as that transaction,
whatever follows. -/
theorem decode_bytes_append {config : TxConfig} {tx : Tx} (hw : Writable tx)
    (hin : Within config tx) (rest : ByteArray) :
    decode config (bytes tx ++ rest) = .complete tx rest := by
  rw [decode_append config hw rest, accepts_sizes hw hin]
  dsimp only
  rw [decodeFrame_bytes hw hin]

/-- The frame of a transaction over the limits is refused with its header, or
removed for the number of its ops. -/
theorem decode_bytes_append_over {config : TxConfig} {tx : Tx} (hw : Writable tx)
    (hover : ¬Within config tx) (rest : ByteArray) :
    (∃ error, decode config (bytes tx ++ rest) = .refused error)
      ∨ decode config (bytes tx ++ rest)
        = .spoiled (.tooManyOps tx.ops.length config.maxOps) rest := by
  rw [decode_append config hw rest]
  cases hcheck : Header.check ⟨tx.bodySize, tx.data.size⟩ config with
  | error error => exact .inl ⟨error, rfl⟩
  | ok u =>
      -- The header vouches for the data, so it is the ops.
      have hdata : tx.data.size ≤ config.maxData := (Header.check_eq_ok_iff.mp hcheck).1
      have hops : config.maxOps < tx.ops.length :=
        Nat.not_le.mp fun hle => hover ⟨hle, hdata⟩
      dsimp only
      rw [decodeFrame_bytes_of_lt hw hops]
      exact .inr rfl

/-- The frame of a transaction over the limits is answered with an error. -/
theorem decode_bytes_append_of_not_within {config : TxConfig} {tx : Tx} (hw : Writable tx)
    (hover : ¬Within config tx) (rest : ByteArray) :
    ∃ error, (decode config (bytes tx ++ rest)).result = .error error := by
  rcases decode_bytes_append_over hw hover rest with ⟨error, hrefused⟩ | hspoiled
  · rw [hrefused]
    exact ⟨error, rfl⟩
  · rw [hspoiled]
    exact ⟨_, rfl⟩

/-- What is read at the front of a buffer is a transaction that may be written
under the same limits, and its frame is exactly what is removed. -/
theorem eq_bytes_append_of_decode {config : TxConfig} {buffer rest : ByteArray} {tx : Tx}
    (h : decode config buffer = .complete tx rest) :
    Within config tx ∧ Writable tx ∧ buffer = bytes tx ++ rest := by
  cases decode_eq_iff.mp h with
  | @complete header _ hheading hwhole hread =>
      obtain ⟨hparse, hcheck⟩ := heading_eq_ok_iff.mp hheading
      have hsize : (buffer.extract 0 header.total).size = header.total := by
        rw [ByteArray.size_extract]
        omega
      have hfront : Bytes.slice (buffer.extract 0 header.total) 0 headerSize
          = Bytes.slice buffer 0 headerSize :=
        Bytes.slice_extract_zero (headerSize_le_total hheading)
      rw [← hfront] at hparse
      obtain ⟨hin, hw, hframe⟩ := eq_bytes_of_decodeFrame hsize hparse hcheck hread
      refine ⟨hin, hw, ?_⟩
      rw [← hframe]
      exact (Bytes.extract_append_rest hwhole).symm

/-- Reading undoes writing and nothing else: a transaction comes out of a buffer
exactly when the buffer begins with what is written of it. -/
theorem decode_eq_complete_iff {config : TxConfig} {buffer rest : ByteArray} {tx : Tx} :
    decode config buffer = .complete tx rest ↔
      ∃ frame, encode tx config = .ok frame ∧ buffer = frame ++ rest := by
  constructor
  · intro h
    obtain ⟨hin, hw, hbuffer⟩ := eq_bytes_append_of_decode h
    exact ⟨bytes tx, encode_eq_ok_iff.mpr ⟨hin, hw, rfl⟩, hbuffer⟩
  · rintro ⟨frame, hframe, rfl⟩
    obtain ⟨hin, hw, rfl⟩ := encode_eq_ok_iff.mp hframe
    exact decode_bytes_append hw hin rest

-- ================================================ one look after another

/-- The results of so many looks at a buffer, one after another, and what they
leave of it. -/
def looks (config : TxConfig) : Nat → ByteArray →
    List (Except TxError (Option Tx)) × ByteArray
  | 0, buffer => ([], buffer)
  | count + 1, buffer =>
    let decoded := decode config buffer
    let (results, rest) := looks config count (decoded.rest buffer)
    (decoded.result :: results, rest)

theorem looks_succ_results (config : TxConfig) (count : Nat) (buffer : ByteArray) :
    (looks config (count + 1) buffer).1 = (decode config buffer).result
      :: (looks config count ((decode config buffer).rest buffer)).1 := rfl

/-- A transaction is read from the front of a buffer. -/
theorem looks_succ_of_complete {config : TxConfig} {buffer rest : ByteArray} {tx : Tx}
    (h : decode config buffer = .complete tx rest) (count : Nat) :
    looks config (count + 1) buffer
      = (.ok (some tx) :: (looks config count rest).1, (looks config count rest).2) := by
  rw [looks, h]
  rfl

end Frame

end CellSync
