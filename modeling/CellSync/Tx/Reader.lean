/-
Reading transactions from a stream.

A stream is seen through its read calls: each gives some bytes or fails,
and a call that gives no bytes is the end of the stream. A reader keeps
the bytes it has not used. `read` looks at its buffer, and calls the
stream only when the buffer holds no whole frame; a call that was merely
interrupted is made again. Past the end of a script of calls the stream
is at its end.
-/
import CellSync.Tx.Frame

namespace CellSync

-- ============================================================ read calls

/-- What one read call gives. -/
inductive Read where
  /-- Some bytes; none at all at the end of the stream. -/
  | bytes (chunk : ByteArray)
  | failed (error : IoError)
deriving DecidableEq

/-- The most bytes that a reader asks for in one call. -/
def chunkSize : Nat := 8192

/-- The read calls that carry `pieces` pieces of some bytes from `start` on. -/
def Read.pieces (bs : ByteArray) : Nat → Nat → List Read
  | 0, _ => []
  | pieces + 1, start =>
    .bytes (bs.extract start (start + chunkSize)) :: Read.pieces bs pieces (start + chunkSize)

/-- The read calls that carry some bytes, as many in each as a reader asks
for. No bytes are one empty call. -/
def Read.ofBytes (bs : ByteArray) : List Read :=
  Read.pieces bs (max 1 ((bs.size + chunkSize - 1) / chunkSize)) 0

/-- How many bytes a call gives. -/
def Read.size : Read → Nat
  | .bytes chunk => chunk.size
  | .failed _ => 0

/-- How many bytes some calls give. -/
def Read.totalSize : List Read → Nat
  | [] => 0
  | call :: rest => call.size + Read.totalSize rest

-- =============================================================== readers

/-- A reader: its limits, and the bytes it has read and not used. -/
structure Reader where
  config : TxConfig
  buffer : ByteArray := ByteArray.empty

namespace Reader

/-- The next whole transaction of the buffer, if it holds one. -/
def poll (r : Reader) : Except TxError (Option Tx) × Reader :=
  let decoded := Frame.decode r.config r.buffer
  (decoded.result, { r with buffer := decoded.rest r.buffer })

/-- The reader after one read call. -/
def absorb (r : Reader) : Read → Except TxError Reader
  | .bytes chunk =>
    if chunk.size = 0 then .error .connectionClosed
    else .ok { r with buffer := r.buffer ++ chunk }
  | .failed error => if error.kind = .interrupted then .ok r else .error (.io error)

/-- How a read ends: its result, the reader, and the calls not made. -/
structure Outcome where
  result : Except TxError Tx
  reader : Reader
  rest : List Read

/-- Reads the next transaction. -/
def read (r : Reader) (calls : List Read) : Outcome :=
  match r.poll with
  | (.ok (some tx), r) => ⟨.ok tx, r, calls⟩
  | (.error error, r) => ⟨.error error, r, calls⟩
  | (.ok none, r) =>
    match calls with
    | [] => ⟨.error .connectionClosed, r, []⟩
    | call :: rest =>
      match r.absorb call with
      | .ok r => read r rest
      | .error error => ⟨.error error, r, rest⟩

/-- The same reader under another limit for data. -/
def withMaxData (r : Reader) (maxData : Nat) : Reader :=
  { r with config := { r.config with maxData := maxData } }

end Reader

-- =============================================================== progress

namespace Reader

/-- The bytes that a reader holds or is still to be given. -/
def outlook (r : Reader) (calls : List Read) : Nat := r.buffer.size + Read.totalSize calls

theorem poll_shrinks {r s : Reader} {tx : Tx} (h : r.poll = (.ok (some tx), s)) :
    s.buffer.size < r.buffer.size := by
  unfold poll at h
  dsimp only at h
  cases hd : Frame.decode r.config r.buffer with
  | complete tx rest =>
    rw [hd] at h
    cases h
    exact Frame.size_lt_of_complete hd
  | incomplete => rw [hd] at h; cases h
  | refused => rw [hd] at h; cases h
  | spoiled => rw [hd] at h; cases h

theorem poll_keeps {r s : Reader} (h : r.poll = (.ok none, s)) : s = r := by
  unfold poll at h
  dsimp only at h
  cases hd : Frame.decode r.config r.buffer with
  | incomplete => rw [hd] at h; cases h; rfl
  | complete => rw [hd] at h; cases h
  | refused => rw [hd] at h; cases h
  | spoiled => rw [hd] at h; cases h

theorem absorb_size {r s : Reader} {call : Read} (h : r.absorb call = .ok s) :
    s.buffer.size = r.buffer.size + call.size := by
  cases call with
  | bytes chunk =>
    simp only [absorb] at h
    split at h
    · cases h
    · cases h
      simp [Read.size, ByteArray.size_append]
  | failed error =>
    simp only [absorb] at h
    split at h
    · cases h
      simp [Read.size]
    · cases h

/-- Every transaction that is read uses some of the bytes. -/
theorem outlook_read {r : Reader} {calls : List Read} {tx : Tx}
    (h : (r.read calls).result = .ok tx) :
    (r.read calls).reader.outlook (r.read calls).rest < r.outlook calls := by
  induction calls generalizing r with
  | nil =>
    unfold read at h ⊢
    split
    · rename_i hp
      have := poll_shrinks hp
      simp only [outlook]
      omega
    · simp_all
    · simp_all
  | cons call rest ih =>
    unfold read at h ⊢
    split
    · rename_i hp
      have := poll_shrinks hp
      simp only [outlook]
      omega
    · simp_all
    · rename_i s hp
      have same := poll_keeps hp
      subst same
      simp only [hp] at h
      dsimp only at h ⊢
      cases ha : s.absorb call with
      | error e => simp [ha] at h
      | ok next =>
        simp only [ha] at h ⊢
        have size := absorb_size ha
        have step := ih h
        simp only [outlook, Read.totalSize] at step ⊢
        omega

end Reader

-- ==================================================== growing buffers

namespace Frame

/-- Every whole transaction that a buffer begins with, up to the first frame at
fault, and what is left of the buffer. -/
def takeAll (config : TxConfig) (buffer : ByteArray) : List Tx × Except TxError Unit × ByteArray :=
  match _h : decode config buffer with
  | .incomplete => ([], .ok (), buffer)
  | .refused error => ([], .error error, buffer)
  | .spoiled error rest => ([], .error error, rest)
  | .complete tx rest =>
    let (txs, result, rest) := takeAll config rest
    (tx :: txs, result, rest)
termination_by buffer.size
decreasing_by exact size_lt_of_complete _h

/-- The last look at a buffer that will not grow any more: bytes that are no
whole frame mean that the stream was cut off. -/
def decodeEnd (config : TxConfig) (buffer : ByteArray) : Except TxError (Option Tx) × ByteArray :=
  let decoded := decode config buffer
  let rest := decoded.rest buffer
  match decoded.result with
  | .ok none => (if rest.size = 0 then .ok none else .error .connectionClosed, rest)
  | result => (result, rest)

end Frame

end CellSync
