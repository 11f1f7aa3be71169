/-
A reader gives the same transactions however its stream is cut.

What is found at the front of a buffer stays found when more bytes come
(`decode_append_of_ne_incomplete`), and as long as nothing is found
nothing is touched. So the bytes that a reader holds, followed by those
that its stream is still to deliver, are one buffer, and a read is a
look at that buffer: `read_cases`, by induction on the read calls. The
only reads that are none are those that end in a failure of the stream,
and they leave the buffer alone.
-/
import CellSync.Tx.Reader
import CellSync.Proofs.Tx.Frame

namespace CellSync

namespace Frame

-- ============================================================ stability

/-- An ending, with more bytes behind what is left. -/
def Decoded.before (more : ByteArray) : Decoded → Decoded
  | incomplete => incomplete
  | refused error => refused error
  | spoiled error rest => spoiled error (rest ++ more)
  | complete tx rest => complete tx (rest ++ more)

/-- What is found stays found when more bytes come. -/
theorem decode_append_of_ne_incomplete {config : TxConfig} {buffer : ByteArray}
    (h : decode config buffer ≠ .incomplete) (more : ByteArray) :
    decode config (buffer ++ more) = (decode config buffer).before more := by
  generalize hdecode : decode config buffer = decoded at h
  have hsize : (buffer ++ more).size = buffer.size + more.size := ByteArray.size_append
  rw [decode_eq_iff]
  cases decode_eq_iff.mp hdecode with
  | short hshort => exact absurd rfl h
  | waiting hlong hheading hpart => exact absurd rfl h
  | refused hlong hheading =>
      rw [← heading_append config hlong more] at hheading
      exact .refused (by omega) hheading
  | spoiled hheading hwhole hread =>
      have hlong := Nat.le_trans (headerSize_le_total hheading) hwhole
      rw [← heading_append config hlong more] at hheading
      rw [← Bytes.extract_append_left hwhole] at hread
      rw [Decoded.before, ← Bytes.extract_append_size hwhole]
      exact .spoiled hheading (by omega) hread
  | complete hheading hwhole hread =>
      have hlong := Nat.le_trans (headerSize_le_total hheading) hwhole
      rw [← heading_append config hlong more] at hheading
      rw [← Bytes.extract_append_left hwhole] at hread
      rw [Decoded.before, ← Bytes.extract_append_size hwhole]
      exact .complete hheading (by omega) hread

-- ================================================= faults of the bytes

/-- Whether an error is one that the bytes themselves are at fault for. -/
def blamesBytes : TxError → Bool
  | .malformedTx _ | .tooManyOps .. | .dataTooLarge .. => true
  | .malformedTid _ | .malformedTag _ | .invalidInput _ | .io _ | .connectionClosed => false

theorem blamesBytes_of_decodeFrame {config : TxConfig} {h : Header} {frame : ByteArray}
    {error : TxError} (hread : decodeFrame config h frame = .error error) :
    blamesBytes error = true := by
  unfold decodeFrame at hread
  split at hread
  · rw [← Except.error.inj hread]
    rfl
  · split at hread
    · rw [← Except.error.inj hread]
      rfl
    · split at hread
      · rw [← Except.error.inj hread]
        rfl
      · split at hread
        · rw [← Except.error.inj hread]
          rfl
        · dsimp only at hread
          split at hread
          · rw [← Except.error.inj hread]
            rfl
          · cases hread

theorem blamesBytes_of_heading {config : TxConfig} {buffer : ByteArray} {error : TxError}
    (hheading : heading config buffer = .error error) : blamesBytes error = true := by
  unfold heading at hheading
  split at hheading
  · rw [← Except.error.inj hheading]
    rfl
  next h _ =>
    unfold Header.check at hheading
    split at hheading
    · rw [← Except.error.inj hheading]
      rfl
    · split at hheading
      · rw [← Except.error.inj hheading]
        rfl
      · cases hheading

/-- A look finds fault with nothing but the bytes. -/
theorem blamesBytes_of_decode {config : TxConfig} {buffer : ByteArray} {error : TxError}
    (h : (decode config buffer).result = .error error) : blamesBytes error = true := by
  generalize hdecode : decode config buffer = decoded at h
  cases decode_eq_iff.mp hdecode with
  | short | waiting | complete => cases h
  | refused _ hheading =>
      rw [← Except.error.inj h]
      exact blamesBytes_of_heading hheading
  | spoiled _ _ hread =>
      rw [← Except.error.inj h]
      exact blamesBytes_of_decodeFrame hread

/-- Whether a result is a failure of the stream. -/
def isIo {α : Type} : Except TxError α → Bool
  | .error (.io _) => true
  | _ => false

/-- What a look at the last of a stream answers: bytes that are no whole frame
mean that the stream has ended. -/
def answer : Except TxError (Option Tx) → Except TxError Tx
  | .ok (some tx) => .ok tx
  | .ok none => .error .connectionClosed
  | .error error => .error error

/-- Bytes are never at fault for a failure of the stream. -/
theorem not_isIo_answer (config : TxConfig) (buffer : ByteArray) :
    isIo (answer (decode config buffer).result) = false := by
  cases hresult : (decode config buffer).result with
  | ok tx? => cases tx? <;> rfl
  | error error =>
      have hblames := blamesBytes_of_decode hresult
      cases error with
      | io cause => cases hblames
      | _ => rfl

theorem answer_before {decoded : Decoded} {more : ByteArray} :
    answer (decoded.before more).result = answer decoded.result := by
  cases decoded <;> rfl

theorem rest_before {decoded : Decoded} (h : decoded ≠ .incomplete) (buffer more : ByteArray) :
    (decoded.before more).rest (buffer ++ more) = decoded.rest buffer ++ more := by
  cases decoded with
  | incomplete => exact absurd rfl h
  | refused | spoiled | complete => rfl

end Frame

-- ============================================================== scripts

namespace Read

/-- The bytes that some read calls deliver. -/
def delivered : List Read → ByteArray
  | [] => .empty
  | .bytes chunk :: calls => chunk ++ delivered calls
  | .failed _ :: calls => delivered calls

/-- Whether a call ends a read with a failure. An interrupted call is made again. -/
def breaks : Read → Bool
  | .bytes _ => false
  | .failed error => error.kind != .interrupted

/-- Whether every call that delivers bytes delivers at least one. -/
def Full (calls : List Read) : Prop := ∀ chunk, .bytes chunk ∈ calls → chunk.size ≠ 0

end Read

-- ============================================================= one read

namespace Reader

/-- How a read ends, seen from the buffer of all bytes that the reader holds or
is still to be given. Either the stream failed and no byte is used, or
the result and the bytes used are those of a look at that buffer. -/
structure Reads (r : Reader) (calls : List Read) (out : Outcome) : Prop where
  config_eq : out.reader.config = r.config
  full : Read.Full out.rest
  result : (Frame.isIo out.result = true
        ∧ out.reader.buffer ++ Read.delivered out.rest = r.buffer ++ Read.delivered calls
        ∧ out.rest.countP Read.breaks + 1 ≤ calls.countP Read.breaks)
      ∨ (out.result
          = Frame.answer (Frame.decode r.config (r.buffer ++ Read.delivered calls)).result
        ∧ out.reader.buffer ++ Read.delivered out.rest
          = (Frame.decode r.config (r.buffer ++ Read.delivered calls)).rest
              (r.buffer ++ Read.delivered calls)
        ∧ out.rest.countP Read.breaks ≤ calls.countP Read.breaks)

/-- A reader whose buffer is enough for a result does not call the stream. -/
theorem reads_of_ne_incomplete {r : Reader} {calls : List Read} (hfull : Read.Full calls)
    (h : Frame.decode r.config r.buffer ≠ .incomplete) :
    Reads r calls ⟨Frame.answer (Frame.decode r.config r.buffer).result,
      { r with buffer := (Frame.decode r.config r.buffer).rest r.buffer }, calls⟩ := by
  refine ⟨rfl, hfull, .inr ⟨?_, ?_, Nat.le_refl _⟩⟩
  · rw [Frame.decode_append_of_ne_incomplete h, Frame.answer_before]
  · rw [Frame.decode_append_of_ne_incomplete h, Frame.rest_before h]

/-- What `read` does when the buffer is enough for a result. -/
theorem read_of_ne_incomplete {r : Reader} (h : Frame.decode r.config r.buffer ≠ .incomplete)
    (calls : List Read) :
    r.read calls = ⟨Frame.answer (Frame.decode r.config r.buffer).result,
      { r with buffer := (Frame.decode r.config r.buffer).rest r.buffer }, calls⟩ := by
  unfold read poll
  dsimp only
  cases hdecode : Frame.decode r.config r.buffer with
  | incomplete => exact absurd hdecode h
  | refused | spoiled | complete => rfl

/-- What `read` does when it has to call the stream. -/
theorem read_of_incomplete {r : Reader} (h : Frame.decode r.config r.buffer = .incomplete)
    (call : Read) (calls : List Read) :
    r.read (call :: calls) = match r.absorb call with
      | .ok s => s.read calls
      | .error error => ⟨.error error, r, calls⟩ := by
  rw [read, poll, h]
  rfl

/-- One read, whatever its stream does. -/
theorem read_cases {r : Reader} {calls : List Read} (hfull : Read.Full calls) :
    Reads r calls (r.read calls) := by
  induction calls generalizing r with
  | nil =>
      by_cases h : Frame.decode r.config r.buffer = .incomplete
      · have hread : r.read [] = ⟨.error .connectionClosed, r, []⟩ := by
          rw [read, poll, h]
          rfl
        rw [hread]
        refine ⟨rfl, hfull, .inr ?_⟩
        rw [Read.delivered, ByteArray.append_empty, h]
        exact ⟨rfl, rfl, Nat.le_refl _⟩
      · rw [read_of_ne_incomplete h]
        exact reads_of_ne_incomplete hfull h
  | cons call calls ih =>
      by_cases h : Frame.decode r.config r.buffer = .incomplete
      · rw [read_of_incomplete h]
        have hrest : Read.Full calls := fun chunk hmem => hfull chunk (List.mem_cons_of_mem _ hmem)
        cases call with
        | bytes chunk =>
            -- The bytes move from the stream into the buffer.
            have hsize : chunk.size ≠ 0 := hfull chunk List.mem_cons_self
            rw [absorb, if_neg hsize]
            have hnext := ih (r := { r with buffer := r.buffer ++ chunk }) hrest
            obtain ⟨hconfig, hleft, hresult⟩ := hnext
            refine ⟨hconfig, hleft, ?_⟩
            rw [Read.delivered, ← ByteArray.append_assoc]
            exact hresult
        | failed error =>
            by_cases hkind : error.kind = .interrupted
            · -- Nothing happens but that the call is gone.
              rw [absorb, if_pos hkind]
              obtain ⟨hconfig, hleft, hresult⟩ := ih (r := r) hrest
              have hbreaks : ¬Read.breaks (.failed error) = true := by
                simp [Read.breaks, hkind]
              refine ⟨hconfig, hleft, ?_⟩
              rw [Read.delivered, List.countP_cons_of_neg hbreaks]
              exact hresult
            · rw [absorb, if_neg hkind]
              have hbreaks : Read.breaks (.failed error) = true := by
                simp [Read.breaks, hkind]
              refine ⟨rfl, hrest, .inl ⟨rfl, rfl, ?_⟩⟩
              rewrite [List.countP_cons_of_pos hbreaks]
              exact Nat.le_refl _
      · rw [read_of_ne_incomplete h]
        exact reads_of_ne_incomplete hfull h

-- ============================================================ all reads

/-- The results of so many reads, one after another, with the reader and the calls
that are left. -/
def run (r : Reader) : Nat → List Read → List (Except TxError Tx) × Reader × List Read
  | 0, calls => ([], r, calls)
  | count + 1, calls =>
    let out := r.read calls
    let (results, reader, rest) := run out.reader count out.rest
    (out.result :: results, reader, rest)

theorem run_succ_results (r : Reader) (count : Nat) (calls : List Read) :
    (r.run (count + 1) calls).1
      = (r.read calls).result :: ((r.read calls).reader.run count (r.read calls).rest).1 := rfl

/-- Reads from any state, against looks at the buffer of all bytes. -/
theorem run_looks (count : Nat) {r : Reader} {calls : List Read} (hfull : Read.Full calls) :
    ∃ looked, looked ≤ count ∧ count ≤ looked + calls.countP Read.breaks
      ∧ ((r.run count calls).1.filter fun result => !Frame.isIo result)
        = (Frame.looks r.config looked (r.buffer ++ Read.delivered calls)).1.map Frame.answer
      ∧ (r.run count calls).2.1.buffer ++ Read.delivered (r.run count calls).2.2
        = (Frame.looks r.config looked (r.buffer ++ Read.delivered calls)).2 := by
  induction count generalizing r calls with
  | zero => exact ⟨0, Nat.le_refl _, Nat.zero_le _, rfl, rfl⟩
  | succ count ih =>
      have hread := read_cases (r := r) hfull
      obtain ⟨looked, hle, hcount, hresults, hleft⟩ := ih (r := (r.read calls).reader) hread.full
      rw [hread.config_eq] at hresults hleft
      rcases hread.result with ⟨hio, hsame, hbreaks⟩ | ⟨hanswer, hrest, hbreaks⟩
      · -- A failure of the stream is left out, and the looks are those that were to come.
        rw [hsame] at hresults hleft
        refine ⟨looked, by omega, by omega, ?_, hleft⟩
        rw [run_succ_results, List.filter_cons_of_neg (by rw [hio]; decide)]
        exact hresults
      · rw [hrest] at hresults hleft
        refine ⟨looked + 1, by omega, by omega, ?_, hleft⟩
        have hkept : (!Frame.isIo (r.read calls).result) = true := by
          rw [hanswer, Frame.not_isIo_answer]
          rfl
        rw [run_succ_results,
          List.filter_cons_of_pos (p := fun result => !Frame.isIo result) hkept,
          Frame.looks_succ_results, List.map_cons, ← hanswer, hresults]

/-- A stream that delivers its bytes in chunks of any sizes, with failures
anywhere between them, is read as one buffer of all the bytes: the results
of so many reads, without the failures of the stream, are those of looking
at that buffer again and again, where bytes that are no whole frame are
answered with the end of the stream. Every read is such a look, save at
most one for each failure, and no byte is lost, repeated or moved. -/
theorem run_eq_looks (config : TxConfig) {calls : List Read} (hfull : Read.Full calls)
    (count : Nat) :
    ∃ looked, looked ≤ count ∧ count ≤ looked + calls.countP Read.breaks
      ∧ ((run { config := config } count calls).1.filter fun result => !Frame.isIo result)
        = (Frame.looks config looked (Read.delivered calls)).1.map Frame.answer
      ∧ (run { config := config } count calls).2.1.buffer
          ++ Read.delivered (run { config := config } count calls).2.2
        = (Frame.looks config looked (Read.delivered calls)).2 := by
  have h := run_looks count (r := { config := config }) hfull
  rw [ByteArray.empty_append] at h
  exact h

/-- An interruption, a failure and two single bytes. -/
theorem run_eq_looks_interrupted :
    ∃ looked, 3 ≤ looked + 1 ∧
      ((run { config := {} } 3 [.failed (.ofKind .interrupted), .bytes (Bytes.pack [0x61]),
          .failed (.ofKind .timedOut), .bytes (Bytes.pack [0x6d])]).1.filter
            fun result => !Frame.isIo result)
        = (Frame.looks {} looked (Bytes.pack [0x61, 0x6d])).1.map Frame.answer := by
  have hfull : Read.Full [.failed (.ofKind .interrupted), .bytes (Bytes.pack [0x61]),
      .failed (.ofKind .timedOut), .bytes (Bytes.pack [0x6d])] := by
    intro chunk hmem
    simp only [List.mem_cons, List.not_mem_nil, Read.bytes.injEq, reduceCtorEq, false_or,
      or_false] at hmem
    rcases hmem with rfl | rfl <;> decide
  obtain ⟨looked, -, hcount, hresults, -⟩ := run_eq_looks {} hfull 3
  exact ⟨looked, hcount, hresults⟩

end Reader

end CellSync
