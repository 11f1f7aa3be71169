/-
The wire form of a transaction.

    marker "amp" | version | body size | data size | four zero bytes
    tid | context id | kind | status | code | op count
    ops …
    data …

The body size counts everything up to the data; all numbers are least
significant byte first. `encode` writes a frame or says which limit or
rule the transaction breaks. `decode` looks at the front of a buffer and
ends in one of four ways: it needs more bytes, it refuses the header and
touches nothing, it removes a frame whose body is at fault, or it
removes a frame and returns its transaction. Limits are checked as soon
as the header is there, so a peer cannot make a reader wait for a frame
that it would refuse.
-/
import CellSync.Bytes
import CellSync.Tx.Error

namespace CellSync

-- ================================================================ limits

/-- Limits and timeouts for reading and writing transactions. Timeouts are
in nanoseconds. -/
structure TxConfig where
  maxOps : Nat := maxSlots * 256
  maxData : Nat := 16 * 1024 * 1024
  readTimeout : Option Nat := none
  writeTimeout : Option Nat := none
deriving DecidableEq

/-- The largest number of a 64-bit word, at which limits saturate. -/
def maxWord : Nat := 0xffffffffffffffff

/-- The largest body that a peer may declare. -/
def TxConfig.maxBody (config : TxConfig) : Nat :=
  min maxWord (Frame.minBody + min maxWord (config.maxOps * maxOpSize))

namespace Tx

/-- The size of header, control fields and ops. -/
def bodySize (tx : Tx) : Nat := Frame.minBody + Op.totalSize tx.ops

/-- The size of the whole frame. -/
def wireSize (tx : Tx) : Nat := tx.bodySize + tx.data.size

/-- The first op, with its index, whose reference lies outside the data. -/
def strayReference? (ops : List Op) (dataSize : Nat) : Option (Nat × DataRef) :=
  ops.zipIdx.findSome? fun (op, i) =>
    op.value?.bind fun r => if r.fits dataSize then none else some (i, r)

end Tx

namespace Frame

-- ================================================================ header

/-- The first three bytes of every frame. -/
def marker : List UInt8 := [0x61, 0x6d, 0x70]

/-- The version of the format. -/
def version : UInt8 := 0x33

/-- The size of the header. -/
def headerSize : Nat := 16

/-- The size of the control fields. -/
def infoSize : Nat := 48

/-- The largest size that a header can tell. -/
def maxSize : Nat := 0xffffffff

/-- What a header tells. -/
structure Header where
  bodySize : Nat
  dataSize : Nat
deriving DecidableEq

namespace Header

/-- The size of the frame that follows. -/
def total (h : Header) : Nat := h.bodySize + h.dataSize

/-- The sixteen bytes of a header. -/
def encode (h : Header) : List UInt8 :=
  marker ++ version :: leBytes 4 h.bodySize ++ leBytes 4 h.dataSize ++ [0, 0, 0, 0]

/-- The header that some bytes begin with. -/
def parse (bs : List UInt8) : Except Fault Header :=
  if bs.length < headerSize then .error (.shortHeader bs.length)
  else if bs.take 3 ≠ marker then .error .badMarker
  else if bs[3]?.getD 0 ≠ version then .error (.unknownVersion (bs[3]?.getD 0))
  else if (bs.drop 12).take 4 ≠ [0, 0, 0, 0] then .error .reservedSet
  else .ok ⟨leValue ((bs.drop 4).take 4), leValue ((bs.drop 8).take 4)⟩

/-- Whether the declared sizes are within limits. -/
def check (h : Header) (config : TxConfig) : Except TxError Unit :=
  if config.maxData < h.dataSize then .error (.dataTooLarge h.dataSize config.maxData)
  else if h.bodySize < minBody ∨ config.maxBody < h.bodySize then
    .error (.malformedTx (.bodySize h.bodySize config.maxBody))
  else .ok ()

end Header

-- =============================================================== writing

/-- Whether a transaction may be written, and if not which rule it breaks. -/
def check (tx : Tx) (config : TxConfig) : Except TxError Unit :=
  let dataMax := min config.maxData maxSize
  if config.maxOps < tx.ops.length then .error (.tooManyOps tx.ops.length config.maxOps)
  else if dataMax < tx.data.size then .error (.dataTooLarge tx.data.size dataMax)
  else
    match Tx.strayReference? tx.ops tx.data.size with
    | some (i, r) => .error (.malformedTx (.strayReference i r tx.data.size))
    | none =>
      if tx.info.tid = some .zero then .error (.malformedTid .reserved)
      else if maxSize < tx.bodySize then .error (.malformedTx (.bodyOverflow tx.bodySize))
      else .ok ()

/-- The control fields, with the number of ops. -/
def encodeInfo (info : Info) (opCount : Nat) : List UInt8 :=
  (info.tid.getD .zero).octets.toBytes ++ leBytes 8 info.contextId.toNat ++
    [UInt8.ofNat info.kind.toNat, UInt8.ofNat info.status.toNat] ++
    leBytes 2 info.code.toNat ++ leBytes 4 opCount

/-- The body of a frame: header, control fields and ops. -/
def encodeBody (tx : Tx) : List UInt8 :=
  Header.encode ⟨tx.bodySize, tx.data.size⟩ ++ encodeInfo tx.info tx.ops.length ++
    tx.ops.flatMap Op.encode

/-- The frame of a transaction. -/
def bytes (tx : Tx) : ByteArray := Bytes.pack (encodeBody tx) ++ tx.data

/-- The frame of a transaction that may be written. -/
def encode (tx : Tx) (config : TxConfig) : Except TxError ByteArray :=
  (check tx config).map fun _ => bytes tx

/-- Appends the frame of a transaction to a buffer, and tells whether it may be
written. For a transaction that may not, the buffer stays as it is. -/
def append (buffer : ByteArray) (tx : Tx) (config : TxConfig) : Except TxError Unit × ByteArray :=
  match encode tx config with
  | .ok frame => (.ok (), buffer ++ frame)
  | .error error => (.error error, buffer)

/-- Appends the frames of some transactions one after another, up to the first
that may not be written. -/
def appendAll (config : TxConfig) (buffer : ByteArray) : List Tx → Except TxError Unit × ByteArray
  | [] => (.ok (), buffer)
  | tx :: rest =>
    match append buffer tx config with
    | (.ok (), buffer) => appendAll config buffer rest
    | refused => refused

-- =============================================================== reading

/-- The `count` ops that some bytes begin with, and the bytes after them. -/
def decodeOps : Nat → List UInt8 → Except Op.Fault (List Op × List UInt8)
  | 0, bs => .ok ([], bs)
  | count + 1, bs => do
    let (op, rest) ← Op.decode bs
    let (ops, rest) ← decodeOps count rest
    pure (op :: ops, rest)

/-- The control fields and the number of ops, from their 48 bytes. -/
def decodeInfo (bs : List UInt8) : Except Fault (Info × Nat) := do
  let number (start size : Nat) := leValue ((bs.drop start).take size)
  let tid : Tid := ⟨.ofBytes (bs.take 32)⟩
  let some kind := Kind.ofNat? (number 40 1) | throw (.unknownKind (number 40 1))
  let some status := Status.ofNat? (number 41 1) | throw (.unknownStatus (number 41 1))
  let some code := ErrorCode.ofNat? (number 42 2) | throw (.unknownCode (number 42 2))
  pure (⟨kind, if tid.isZero then none else some tid, UInt64.ofNat (number 32 8), status, code⟩,
    number 44 4)

/-- The transaction of a whole frame whose header has been checked. -/
def decodeFrame (config : TxConfig) (h : Header) (frame : ByteArray) : Except TxError Tx :=
  match decodeInfo (Bytes.slice frame headerSize minBody) with
  | .error fault => .error (.malformedTx fault)
  | .ok (info, count) =>
    if config.maxOps < count then .error (.tooManyOps count config.maxOps)
    else
      match decodeOps count (Bytes.slice frame minBody h.bodySize) with
      | .error fault => .error (.malformedTx (.op fault))
      | .ok (ops, left) =>
        if left ≠ [] then .error (.malformedTx (.leftover left.length count))
        else
          let data := frame.extract h.bodySize h.total
          match Tx.strayReference? ops data.size with
          | some (i, r) => .error (.malformedTx (.strayReference i r data.size))
          | none => .ok ⟨info, ops, data⟩

/-- How a look at the front of a buffer ends. -/
inductive Decoded where
  /-- More bytes are needed. -/
  | incomplete
  /-- The header or the sizes it declares are refused; nothing is removed. -/
  | refused (error : TxError)
  /-- The body is at fault; its frame is removed. -/
  | spoiled (error : TxError) (rest : ByteArray)
  /-- A transaction, removed from the buffer. -/
  | complete (tx : Tx) (rest : ByteArray)

/-- The header that a buffer begins with, if it is well formed and declares sizes
within the limits. -/
def heading (config : TxConfig) (buffer : ByteArray) : Except TxError Header :=
  match Header.parse (Bytes.slice buffer 0 headerSize) with
  | .error fault => .error (.malformedTx fault)
  | .ok h => (h.check config).map fun _ => h

/-- Looks at the front of a buffer. -/
def decode (config : TxConfig) (buffer : ByteArray) : Decoded :=
  if buffer.size < headerSize then .incomplete
  else
    match heading config buffer with
    | .error error => .refused error
    | .ok h =>
      if buffer.size < h.total then .incomplete
      else
        let rest := buffer.extract h.total buffer.size
        match decodeFrame config h (buffer.extract 0 h.total) with
        | .error error => .spoiled error rest
        | .ok tx => .complete tx rest

theorem heading_eq_ok_iff {config : TxConfig} {buffer : ByteArray} {h : Header} :
    heading config buffer = .ok h ↔
      Header.parse (Bytes.slice buffer 0 headerSize) = .ok h ∧ h.check config = .ok () := by
  unfold heading
  cases Header.parse (Bytes.slice buffer 0 headerSize) with
  | error fault => exact ⟨nofun, nofun⟩
  | ok g =>
      dsimp only
      constructor
      · intro hmap
        cases hcheck : g.check config with
        | error e => rw [hcheck] at hmap; cases hmap
        | ok u => rw [hcheck] at hmap; cases hmap; exact ⟨rfl, hcheck⟩
      · rintro ⟨hg, hcheck⟩
        cases hg
        rw [hcheck]
        rfl

theorem Header.minBody_le_total {h : Header} {config : TxConfig} (ok : h.check config = .ok ()) :
    minBody ≤ h.total := by
  unfold Header.check at ok
  split at ok
  · cases ok
  · split at ok
    · cases ok
    · rename_i sizes
      have := not_or.1 sizes
      unfold Header.total
      omega

theorem size_lt_of_complete {config : TxConfig} {buffer rest : ByteArray} {tx : Tx}
    (h : decode config buffer = .complete tx rest) : rest.size < buffer.size := by
  unfold decode at h
  split at h
  · cases h
  · split at h
    · cases h
    · rename_i header ok
      split at h
      · cases h
      · dsimp only at h
        split at h
        · cases h
        · have total := header.minBody_le_total (heading_eq_ok_iff.1 ok).2
          injection h with _ rest_eq
          subst rest_eq
          simp only [ByteArray.size_extract]
          have : minBody = 64 := rfl
          omega

namespace Decoded

/-- The transaction if there is one, or the error. -/
def result : Decoded → Except TxError (Option Tx)
  | incomplete => .ok none
  | refused error => .error error
  | spoiled error _ => .error error
  | complete tx _ => .ok (some tx)

/-- What is left of the buffer. -/
def rest (buffer : ByteArray) : Decoded → ByteArray
  | incomplete => buffer
  | refused _ => buffer
  | spoiled _ rest => rest
  | complete _ rest => rest

end Decoded

/-- The transactions that a buffer begins with, at most so many. -/
def decodeSome (config : TxConfig) : Nat → ByteArray → List Tx
  | 0, _ => []
  | most + 1, buffer =>
    match decode config buffer with
    | .complete tx rest => tx :: decodeSome config most rest
    | _ => []

/-- The transactions that a buffer begins with. Each takes at least one byte. -/
def decodeAll (config : TxConfig) (buffer : ByteArray) : List Tx :=
  decodeSome config buffer.size buffer

end Frame

namespace Tx

-- ========================================================= one whole frame

/-- The frame of a transaction under the default limits. -/
def serialize (tx : Tx) : Except TxError ByteArray := Frame.encode tx {}

/-- The transaction of exactly one frame, under the default limits. -/
def deserialize (bs : ByteArray) : Except TxError Tx :=
  match Frame.heading {} bs with
  | .error error => .error error
  | .ok h =>
    if bs.size < h.total then .error (.malformedTx (.shortMessage h.total bs.size))
    else if h.total < bs.size then .error (.malformedTx (.trailing (bs.size - h.total)))
    else Frame.decodeFrame {} h bs

end Tx

end CellSync
