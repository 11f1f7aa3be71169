/-
What a side of a login hears and says, read off its run.

An exchange is driven by read calls, but what it does depends only on
the transactions that it finds in its buffer. `Trace` breaks a run into
its steps: bytes are read, a message is heard and answered in one turn,
a transaction that carries no message ends the login, and so does a
failure of the link. Every run of read calls is such a trace
(`trace_play`), so what holds along all traces holds for every script of
reads, whatever bytes it delivers and wherever it cuts them.

As long as no write has failed, the sink holds the frames of exactly
what was said (`Trace.accepted`), and a sink that is willing stays so
(`Trace.willing`).
-/
import CellSync.Login.Exchange
import CellSync.Proofs.Login.Transit
import CellSync.Proofs.Tx.RoundTrip
import CellSync.Proofs.Tx.Writer

namespace CellSync

/-- Whether a failure is one of the link: a stream or a frame at fault, or a peer
that is late or gone. -/
def SessionError.isLink : SessionError → Bool
  | transport _ | tx _ | timeout _ | disconnected _ => true
  | json _ | protocol _ | rejected .. => false

namespace Login

variable {σ : Type} {side : Side σ}

-- ================================================================= turns

/-- A transaction that was heard, as the message it carries or the reason why it
carries none, and what was said to it. -/
structure Turn where
  heard : Except SessionError Message
  said : Option Message

/-- The transactions in which some turns were said. -/
def Turn.allSaid (turns : List Turn) : List Tx := (turns.filterMap Turn.said).map Message.toTx

theorem Turn.allSaid_append (turns : List Turn) (turn : Turn) :
    Turn.allSaid (turns ++ [turn]) = Turn.allSaid turns ++ turn.said.toList.map Message.toTx := by
  rw [allSaid, List.filterMap_append, List.map_append]
  cases hsaid : turn.said with
  | none => rw [List.filterMap_cons_none hsaid]; rfl
  | some m => rw [List.filterMap_cons_some hsaid]; rfl

namespace Exchange

/-- The turns that an exchange has taken since it was `x₀`, and what it is now. -/
inductive Trace (side : Side σ) (x₀ : Exchange σ) : List Turn → Exchange σ → Prop
  | start : Trace side x₀ [] x₀
  | read {turns : List Turn} {x : Exchange σ} {call : Read} {reader : Reader}
      (before : Trace side x₀ turns x) (hopen : x.result = none)
      (habsorb : x.reader.absorb call = .ok reader) :
      Trace side x₀ turns { x with reader := reader }
  | turn {turns : List Turn} {x : Exchange σ} {reader : Reader} {tx : Tx} {m : Message}
      (before : Trace side x₀ turns x) (hopen : x.result = none)
      (hpoll : x.reader.poll = (.ok (some tx), reader)) (hmessage : Message.ofTx tx = .ok m) :
      Trace side x₀ (turns ++ [⟨.ok m, (side.react x.state m).reply⟩])
        ({ x with reader := reader }.handle side m)
  | stray {turns : List Turn} {x : Exchange σ} {reader : Reader} {tx : Tx} {error : SessionError}
      (before : Trace side x₀ turns x) (hopen : x.result = none)
      (hpoll : x.reader.poll = (.ok (some tx), reader))
      (hmessage : Message.ofTx tx = .error error) :
      Trace side x₀ (turns ++ [⟨.error error, none⟩])
        ({ x with reader := reader }.finish (.error error))
  | cut {turns : List Turn} {x : Exchange σ} {error : SessionError}
      (before : Trace side x₀ turns x) (reader : Reader) (hopen : x.result = none)
      (hlink : error.isLink = true) :
      Trace side x₀ turns ({ x with reader := reader }.finish (.error error))

/-- A run of read calls, each with the nanoseconds that its wait had lasted. -/
def play (side : Side σ) (x : Exchange σ) (calls : List (Read × Nat)) : Exchange σ :=
  calls.foldl (fun x call => x.feed side call.1 call.2) (x.await side)

-- ===================================================== runs are traces

theorem isLink_of_afterFailure {timeout waited : Nat} {error : TxError} {failure : SessionError}
    (h : afterFailure timeout waited error = some failure) : failure.isLink = true := by
  unfold afterFailure at h
  split at h
  · split at h
    · split at h
      · rw [← Option.some.inj h]; rfl
      · cases h
    · rw [← Option.some.inj h]; rfl
  · rw [← Option.some.inj h]; rfl
  · rw [← Option.some.inj h]; rfl

variable {x₀ x : Exchange σ} {turns : List Turn}

theorem trace_settle (most : Nat) (h : Trace side x₀ turns x) :
    ∃ turns', Trace side x₀ turns' (settle side most x) := by
  induction most generalizing x turns with
  | zero => exact ⟨turns, h⟩
  | succ most ih =>
      rw [settle]
      split
      · exact ⟨turns, h⟩
      next hsome =>
        have hopen : x.result = none := Option.not_isSome_iff_eq_none.mp hsome
        split
        · exact ⟨turns, h.cut x.reader hopen rfl⟩
        · split
          next reader hpoll =>
            rw [Reader.poll_keeps hpoll]
            exact ⟨turns, h⟩
          next tx reader hpoll =>
            cases hmessage : Message.ofTx tx with
            | ok m =>
                rw [receive, hmessage]
                exact ih (h.turn hopen hpoll hmessage)
            | error error =>
                rw [receive, hmessage]
                exact ih (h.stray hopen hpoll hmessage)
          next error reader hpoll => exact ⟨turns, h.cut reader hopen rfl⟩

theorem trace_feed (call : Read) (waited : Nat) (h : Trace side x₀ turns x) :
    ∃ turns', Trace side x₀ turns' (x.feed side call waited) := by
  rw [feed]
  split
  · exact ⟨turns, h⟩
  next hsome =>
    have hopen : x.result = none := Option.not_isSome_iff_eq_none.mp hsome
    split
    next reader habsorb => exact trace_settle _ (h.read hopen habsorb)
    next error _ =>
      split
      next failure hfailure =>
        exact ⟨turns, h.cut x.reader hopen (isLink_of_afterFailure hfailure)⟩
      · exact ⟨turns, h⟩

/-- Every run of read calls is a trace. -/
theorem trace_play (side : Side σ) (x₀ : Exchange σ) (calls : List (Read × Nat)) :
    ∃ turns, Trace side x₀ turns (play side x₀ calls) := by
  obtain ⟨first, hfirst⟩ := trace_settle (x₀.reader.buffer.size + 1) (@Trace.start _ side x₀)
  rw [play]
  change Trace side x₀ first (x₀.await side) at hfirst
  generalize x₀.await side = x at hfirst
  induction calls generalizing x first with
  | nil => exact ⟨first, hfirst⟩
  | cons call calls ih =>
      obtain ⟨next, hnext⟩ := trace_feed call.1 call.2 hfirst
      exact ih _ _ hnext

/-- A run in which one whole frame is delivered. -/
theorem play_frame {tx : Tx} (hopen : x.result = none) (htimeout : side.timeout ≠ 0)
    (hempty : x.reader.buffer = .empty) (hw : Frame.Writable tx)
    (hin : Frame.Within x.reader.config tx) :
    play side x [(.bytes (Frame.bytes tx), 0)] = x.receive side tx := by
  have hwait : x.await side = x :=
    settle_of_incomplete htimeout _ (by rw [hempty]; rfl)
  have hframe : Frame.bytes tx = x.reader.buffer ++ Frame.bytes tx := by
    rw [hempty, ByteArray.empty_append]
  have hreader : { x.reader with buffer := .empty } = x.reader := by rw [← hempty]
  rw [play, hwait, List.foldl_cons, List.foldl_nil,
    feed_whole hopen htimeout hw hin hframe (Frame.size_bytes_ne_zero tx), hreader]

-- ============================================================== one turn

/-- What becomes of an open exchange that handles a message: the reaction is taken
over, unless the reply could not be written. -/
inductive Handled (side : Side σ) (x : Exchange σ) (m : Message) : Exchange σ → Prop
  | silent (hreply : (side.react x.state m).reply = none) :
      Handled side x m { x with
        state := (side.react x.state m).state, result := (side.react x.state m).result }
  | said {reply : Message} {sink : Sink} (hreply : (side.react x.state m).reply = some reply)
      (hwrite : Writer.write side.limits reply.toTx x.sink = (.ok (), sink)) :
      Handled side x m { x with
        state := (side.react x.state m).state, sink := sink,
        result := (side.react x.state m).result }
  | unsaid {reply : Message} {sink : Sink} {error : TxError}
      (hreply : (side.react x.state m).reply = some reply)
      (hwrite : Writer.write side.limits reply.toTx x.sink = (.error error, sink)) :
      Handled side x m { x with
        state := (side.react x.state m).state, sink := sink,
        result := some (.error (.tx error)) }

theorem handled (side : Side σ) (hopen : x.result = none) (m : Message) :
    Handled side x m (x.handle side m) := by
  unfold handle
  dsimp only
  cases hreply : (side.react x.state m).reply with
  | none =>
      dsimp only
      rw [hopen]
      exact .silent hreply
  | some reply =>
      dsimp only
      unfold send
      dsimp only
      generalize hwrite : Writer.write side.limits reply.toTx x.sink = written
      obtain ⟨result, sink⟩ := written
      cases result with
      | ok _ =>
          dsimp only
          rw [hopen]
          exact .said hreply hwrite
      | error error =>
          dsimp only
          exact .unsaid hreply hwrite

theorem state_handle (side : Side σ) (hopen : x.result = none) (m : Message) :
    (x.handle side m).state = (side.react x.state m).state := by
  have hcases := handled side hopen m
  generalize x.handle side m = after at hcases ⊢
  cases hcases <;> rfl

/-- A turn has the outcome of its reaction, unless a write has failed. -/
theorem result_handle (side : Side σ) (hopen : x.result = none) (m : Message) :
    (x.handle side m).result = (side.react x.state m).result
      ∨ ∃ error, (x.handle side m).result = some (.error (.tx error)) := by
  have hcases := handled side hopen m
  generalize x.handle side m = after at hcases ⊢
  cases hcases with
  | silent | said => exact .inl rfl
  | unsaid => exact .inr ⟨_, rfl⟩

/-- While no write has failed, the sink holds what was said. -/
theorem Trace.accepted (h : Trace side x₀ turns x)
    (hwritten : ∀ error, x.result ≠ some (.error (.tx error))) :
    x.sink.accepted = x₀.sink.accepted ++ Frame.wire (Turn.allSaid turns) := by
  induction h with
  | start => exact ByteArray.append_empty.symm
  | read before hopen _ ih =>
      exact ih (fun error h => by rw [hopen] at h; cases h)
  | @turn turns x reader tx m before hopen hpoll hmessage ih =>
      have hbefore := ih (fun error h => by rw [hopen] at h; cases h)
      rw [Turn.allSaid_append, Frame.wire_append, ← ByteArray.append_assoc, ← hbefore]
      generalize hafter : handle side { x with reader := reader } m = after at hwritten ⊢
      have hcases := handled side (x := { x with reader := reader }) hopen m
      rw [hafter] at hcases
      cases hcases with
      | silent hreply =>
          dsimp only at hreply
          rw [hreply]
          exact ByteArray.append_empty.symm
      | said hreply hwrite =>
          dsimp only at hreply hwrite
          obtain ⟨frame, hframe, haccepted⟩ := Writer.write_ok hwrite
          rw [haccepted, hreply, (Message.encode_toTx_iff.mp hframe).2]
          exact congrArg _ ByteArray.append_empty.symm
      | unsaid hreply hwrite => exact absurd rfl (hwritten _)
  | stray before hopen _ _ ih =>
      rw [Turn.allSaid_append, Option.toList_none, List.map_nil, List.append_nil]
      exact ih (fun error h => by rw [hopen] at h; cases h)
  | cut before _ hopen _ ih => exact ih (fun error h => by rw [hopen] at h; cases h)

/-- A willing sink stays willing. -/
theorem Trace.willing (h : Trace side x₀ turns x)
    (hwilling : x₀.sink.Willing side.limits.writeTimeout) :
    x.sink.Willing side.limits.writeTimeout := by
  induction h with
  | start => exact hwilling
  | read _ _ _ ih | stray _ _ _ _ ih | cut _ _ _ _ ih => exact ih
  | @turn turns x reader tx m before hopen hpoll hmessage ih =>
      generalize hafter : handle side { x with reader := reader } m = after
      have hcases := handled side (x := { x with reader := reader }) hopen m
      rw [hafter] at hcases
      cases hcases with
      | silent => exact ih
      | said _ hwrite | unsaid _ hwrite => exact Writer.write_willing hwrite ih

/-- On a willing sink a turn has the outcome of its reaction, if what is to be said
fits. -/
theorem result_handle_of_willing (side : Side σ) (hopen : x.result = none) {m : Message}
    (hwilling : x.sink.Willing side.limits.writeTimeout)
    (hfits : ∀ reply ∈ (side.react x.state m).reply, reply.Fits side.limits) :
    (x.handle side m).result = (side.react x.state m).result := by
  have hcases := handled side hopen m
  generalize x.handle side m = after at hcases
  cases hcases with
  | silent | said => rfl
  | unsaid hreply hwrite =>
      have hframe := Message.encode_toTx_iff.mpr ⟨hfits _ hreply, rfl⟩
      obtain ⟨sink, hwritten, -⟩ := Writer.write_of_willing hframe hwilling
      rw [hwritten] at hwrite
      cases hwrite

end Exchange

end Login

end CellSync
