/-
What a writer reports as written has reached the sink whole.

The bytes of a frame go out in as many pieces as the sink likes, with
calls repeated in between. `write_ok` holds of every sink: if the write
succeeds, the sink has the frame behind what it had. A sink that accepts
something of every write, and otherwise only fails in ways that are tried
again, is `Willing`; no course of a write on such a sink ends before the
frame is sent, so a write succeeds for every transaction that may be
written (`write_of_willing`).
-/
import CellSync.Proofs.Tx.Sending

namespace CellSync

-- ====================================================== willing sinks

/-- Whether a flush call succeeds, or fails in a way that is tried again. -/
def Flush.Harmless (timeout : Option Nat) : Flush → Prop
  | .done => True
  | .failed error waited => Writer.afterFailure timeout error waited = .ok ()

/-- A sink that takes everything, in pieces of any size. -/
structure Sink.Willing (timeout : Option Nat) (sink : Sink) : Prop where
  writes : ∀ call ∈ sink.writes, call.Harmless timeout
  flushes : ∀ call ∈ sink.flushes, call.Harmless timeout

/-- A sink without a script takes everything at once. -/
theorem Sink.willing_empty (timeout : Option Nat) : ({} : Sink).Willing timeout := ⟨nofun, nofun⟩

namespace Writer

variable {timeout : Option Nat}

-- ============================================================== failures

/-- Whether an error is one of the stream, and not of what was to be written. -/
def OfStream (error : TxError) : Prop := (∃ cause, error = .io cause) ∨ error = .connectionClosed

theorem Fails.ofStream {cause : IoError} {waited : Nat} {error : TxError}
    (h : Fails timeout cause waited error) : OfStream error := by
  cases h with
  | stalled | broken => exact .inl ⟨_, rfl⟩

/-- A call that fails a write is not one that is tried again. -/
theorem Fails.not_ok {cause : IoError} {waited : Nat} {error : TxError}
    (h : Fails timeout cause waited error) : afterFailure timeout cause waited ≠ .ok () := by
  rw [afterFailure_of_fails h]
  nofun

section Course

variable {frame : ByteArray} {sink after : Sink} {result : Except TxError Unit}

theorem Course.ofStream {error : TxError} (h : Course timeout frame sink (.error error) after) :
    OfStream error := by
  cases h with
  | cut hpush =>
      cases hpush with
      | closed => exact .inr rfl
      | failed _ _ hfails => exact hfails.ofStream
  | sent _ hflush =>
      cases hflush with
      | failed _ _ hfails => exact hfails.ofStream

/-- A willing sink ends no write before the frame is sent, and what it is still to
do is no worse. -/
theorem Course.of_willing (h : Course timeout frame sink result after)
    (hwilling : sink.Willing timeout) : result = .ok () ∧ after.Willing timeout := by
  have hharmless := hwilling.writes
  have hagain := hwilling.flushes
  cases h with
  | cut hpush =>
      cases hpush with
      | closed hscript _ =>
          rw [hscript] at hharmless
          exact absurd (hharmless _ List.mem_append_cons_self) (Nat.lt_irrefl 0)
      | failed hscript _ hfails =>
          rw [hscript] at hharmless
          exact absurd (hharmless _ List.mem_append_cons_self) hfails.not_ok
  | @sent _ rest _ _ _ _ hpush hflush =>
      have hwrites : ∀ call ∈ rest, call.Harmless timeout := by
        cases hpush with
        | filled hscript _ _ =>
            rw [hscript] at hharmless
            exact fun call hmem =>
              hharmless call (List.mem_append_right _ (List.mem_cons_of_mem _ hmem))
        | beyond _ => exact nofun
      cases hflush with
      | failed hscript _ hfails =>
          rw [hscript] at hagain
          exact absurd (hagain _ List.mem_append_cons_self) hfails.not_ok
      | flushed hscript _ =>
          rw [hscript] at hagain
          exact ⟨rfl, hwrites, fun call hmem =>
            hagain call (List.mem_append_right _ (List.mem_cons_of_mem _ hmem))⟩
      | beyond _ => exact ⟨rfl, hwrites, nofun⟩

end Course

-- =============================================================== writing

/-- A write that succeeds has added the frame to what the sink had accepted. -/
theorem write_ok {config : TxConfig} {tx : Tx} {sink after : Sink}
    (h : write config tx sink = (.ok (), after)) :
    ∃ frame, Frame.encode tx config = .ok frame ∧ after.accepted = sink.accepted ++ frame := by
  cases hframe : Frame.encode tx config with
  | error error =>
      rw [write, hframe] at h
      cases h
  | ok frame => exact ⟨frame, rfl, ((write_eq_iff hframe).mp h).whole.1⟩

/-- Only the stream makes a write fail of what may be written. -/
theorem ofStream_write {config : TxConfig} {tx : Tx} {sink after : Sink} {frame : ByteArray}
    {e : TxError} (hframe : Frame.encode tx config = .ok frame)
    (h : write config tx sink = (.error e, after)) : OfStream e :=
  ((write_eq_iff hframe).mp h).ofStream

/-- A willing sink gets every frame that may be written, and stays willing. -/
theorem write_of_willing {config : TxConfig} {tx : Tx} {sink : Sink} {frame : ByteArray}
    (hframe : Frame.encode tx config = .ok frame) (hwilling : sink.Willing config.writeTimeout) :
    ∃ after, write config tx sink = (.ok (), after)
      ∧ after.accepted = sink.accepted ++ frame ∧ after.Willing config.writeTimeout := by
  have hcourse := course_write hframe sink
  obtain ⟨hok, hafter⟩ := hcourse.of_willing hwilling
  rw [hok] at hcourse
  exact ⟨_, Prod.ext hok rfl, hcourse.whole.1, hafter⟩

/-- A willing sink stays willing, whether the transaction may be written or not. -/
theorem write_willing {config : TxConfig} {tx : Tx} {sink after : Sink}
    {result : Except TxError Unit}
    (hwrite : write config tx sink = (result, after))
    (hwilling : sink.Willing config.writeTimeout) : after.Willing config.writeTimeout := by
  cases hframe : Frame.encode tx config with
  | error error =>
      rw [write, hframe] at hwrite
      rw [← (Prod.mk.inj hwrite).2]
      exact hwilling
  | ok frame =>
      obtain ⟨sink', hwritten, -, hafter⟩ := write_of_willing hframe hwilling
      rw [hwritten] at hwrite
      rw [← (Prod.mk.inj hwrite).2]
      exact hafter

end Writer

end CellSync
