/-
A frame on its way to a side of a login.

However a frame is cut, each piece but the last only makes the buffer
grow (`feed_part`); with the last the transaction is received, and the
buffer is empty again (`feed_whole`).
-/
import CellSync.Login.Exchange
import CellSync.Proofs.Login.Message
import CellSync.Proofs.Tx.Stream

namespace CellSync

namespace Frame

theorem size_bytes_ne_zero (tx : Tx) : (bytes tx).size ≠ 0 := by
  rw [size_bytes]
  exact Nat.ne_of_gt (wireSize_pos tx)

/-- The front of a frame is no frame. -/
theorem decode_front {config : TxConfig} {tx : Tx} {front rest : ByteArray} (hw : Writable tx)
    (hin : Within config tx) (hframe : bytes tx = front ++ rest) (hrest : rest.size ≠ 0) :
    decode config front = .incomplete := by
  -- A front that decodes keeps its result when the rest is appended, and the whole
  -- frame leaves nothing over.
  by_contra hfound
  have hdecode := decode_bytes_append hw hin .empty
  rw [ByteArray.append_empty, hframe, decode_append_of_ne_incomplete hfound] at hdecode
  cases hleft : decode config front with
  | incomplete => exact hfound hleft
  | refused | spoiled =>
      rw [hleft] at hdecode
      cases hdecode
  | complete other left =>
      rw [hleft] at hdecode
      injection hdecode with _ hempty
      have hsize := congrArg ByteArray.size hempty
      rw [ByteArray.size_append] at hsize
      exact hrest (Nat.eq_zero_of_add_eq_zero_left hsize)

end Frame

namespace Login.Exchange

variable {σ : Type} {side : Side σ} {x : Exchange σ}

/-- A side that waits for more bytes. -/
theorem settle_of_incomplete (htimeout : side.timeout ≠ 0) (most : Nat)
    (hbuffer : Frame.decode x.reader.config x.reader.buffer = .incomplete) :
    settle side most x = x := by
  cases most with
  | zero => rfl
  | succ most =>
      have hpoll : x.reader.poll = (.ok none, x.reader) := by
        rw [Reader.poll, hbuffer]
        rfl
      rw [settle, if_neg htimeout, hpoll]
      split <;> rfl

theorem reader_send (config : TxConfig) (m : Message) : (x.send config m).reader = x.reader := by
  unfold send
  split <;> rfl

theorem reader_handle (m : Message) : (x.handle side m).reader = x.reader := by
  unfold handle
  dsimp only
  cases (side.react x.state m).reply with
  | none => dsimp only; split <;> rfl
  | some reply =>
      dsimp only
      split <;> exact reader_send side.limits reply

theorem reader_receive (side : Side σ) (x : Exchange σ) (tx : Tx) :
    (x.receive side tx).reader = x.reader := by
  unfold receive
  split
  · exact reader_handle _
  · rfl

/-- A side whose buffer begins with one frame receives it, and waits for more. -/
theorem await_of_complete {tx : Tx} {rest : ByteArray} (hopen : x.result = none)
    (htimeout : side.timeout ≠ 0)
    (hdecode : Frame.decode x.reader.config x.reader.buffer = .complete tx rest)
    (hrest : Frame.decode x.reader.config rest = .incomplete) :
    x.await side = { x with reader := { x.reader with buffer := rest } }.receive side tx := by
  have hsome : ¬x.result.isSome = true := by rw [hopen]; exact Bool.false_ne_true
  have hpoll : x.reader.poll = (.ok (some tx), { x.reader with buffer := rest }) := by
    rw [Reader.poll, hdecode]
    rfl
  have hreader := reader_receive side { x with reader := { x.reader with buffer := rest } } tx
  rw [await, settle, if_neg hsome, if_neg htimeout, hpoll]
  exact settle_of_incomplete htimeout _ (by rw [hreader]; exact hrest)

/-- A call that gives bytes adds them to the buffer. -/
theorem feed_bytes {chunk : ByteArray} (hopen : x.result = none) (hchunk : chunk.size ≠ 0)
    (waited : Nat) :
    x.feed side (.bytes chunk) waited
      = { x with reader := { x.reader with buffer := x.reader.buffer ++ chunk } }.await side := by
  have hsome : ¬x.result.isSome = true := by rw [hopen]; exact Bool.false_ne_true
  rw [feed, if_neg hsome, Reader.absorb, if_neg hchunk]

/-- A piece of a frame that is not the last only makes the buffer grow. -/
theorem feed_part {tx : Tx} {chunk rest : ByteArray} (hopen : x.result = none)
    (htimeout : side.timeout ≠ 0) (hw : Frame.Writable tx)
    (hin : Frame.Within x.reader.config tx)
    (hframe : Frame.bytes tx = x.reader.buffer ++ (chunk ++ rest)) (hchunk : chunk.size ≠ 0)
    (hrest : rest.size ≠ 0) (waited : Nat) :
    x.feed side (.bytes chunk) waited
      = { x with reader := { x.reader with buffer := x.reader.buffer ++ chunk } } := by
  rw [← ByteArray.append_assoc] at hframe
  rw [feed_bytes hopen hchunk]
  exact settle_of_incomplete htimeout _ (Frame.decode_front hw hin hframe hrest)

/-- With the last piece of a frame the transaction is received. -/
theorem feed_whole {tx : Tx} {chunk : ByteArray} (hopen : x.result = none)
    (htimeout : side.timeout ≠ 0) (hw : Frame.Writable tx)
    (hin : Frame.Within x.reader.config tx)
    (hframe : Frame.bytes tx = x.reader.buffer ++ chunk) (hchunk : chunk.size ≠ 0) (waited : Nat) :
    x.feed side (.bytes chunk) waited
      = { x with reader := { x.reader with buffer := .empty } }.receive side tx := by
  have hdecode : Frame.decode x.reader.config (x.reader.buffer ++ chunk) = .complete tx .empty := by
    have hwhole := Frame.decode_bytes_append hw hin .empty
    rwa [ByteArray.append_empty, hframe] at hwhole
  rw [feed_bytes hopen hchunk]
  exact await_of_complete hopen htimeout hdecode rfl

end Login.Exchange

end CellSync
