/-
What a writer reports as written can be read, as long as no frame is torn.

A call may have handed over nothing of its frame, all of it, or a piece,
and a writer goes on after a failure as if nothing had happened. Up to
the first frame of which there is only a piece, what the sink has
accepted is whole frames, those of every call that succeeded among them
(`heard_of_writeAll`). The bytes of the next frame complete the torn one
for the reader, so that a write which is reported as done may never be
read (`exists_written_unread`).
-/
import CellSync.Proofs.Tx.RoundTrip
import CellSync.Proofs.Tx.Stream
import CellSync.Proofs.Tx.Writer

namespace CellSync

-- ============================================================ one write

namespace Writer

variable {config : TxConfig} {sink : Sink} {tx : Tx} {txs : List Tx}

/-- One write: what was to be written, how the call ended, and what the sink has
accepted of it. -/
structure Entry where
  tx : Tx
  result : Except TxError Unit
  sent : ByteArray

/-- Writes transactions one after another, whatever becomes of each. -/
def writeAll (config : TxConfig) : List Tx → Sink → List Entry × Sink
  | [], sink => ([], sink)
  | tx :: txs, sink =>
    let (result, after) := write config tx sink
    let (entries, last) := writeAll config txs after
    (⟨tx, result, after.accepted.extract sink.accepted.size after.accepted.size⟩ :: entries, last)

namespace Entry

/-- Whether the sink has a piece of the frame, and not all of it. -/
def Torn (entry : Entry) : Prop := 0 < entry.sent.size ∧ entry.sent.size < entry.tx.wireSize

instance (entry : Entry) : Decidable entry.Torn := inferInstanceAs (Decidable (_ ∧ _))

/-- What is true of every write. -/
structure Sound (config : TxConfig) (entry : Entry) : Prop where
  /-- What the sink has is the front of the frame. -/
  piece : ∃ count ≤ (Frame.bytes entry.tx).size, entry.sent = (Frame.bytes entry.tx).extract 0 count
  fits : entry.sent.size ≠ 0 → Frame.Within config entry.tx ∧ Frame.Writable entry.tx
  done : entry.result = .ok () → entry.sent = Frame.bytes entry.tx
  /-- Only the stream makes a write fail that has begun. -/
  failed : ∀ error, entry.result = .error error → entry.sent.size ≠ 0 → OfStream error

/-- The transactions of which the sink has the whole frame. -/
def whole (entries : List Entry) : List Tx :=
  (entries.filter fun entry => entry.sent.size = entry.tx.wireSize).map (·.tx)

/-- The transactions that are reported as written. -/
def reported (entries : List Entry) : List Tx :=
  (entries.filter fun entry => entry.result.isOk).map (·.tx)

/-- What the sink has accepted of some writes. -/
def stream : List Entry → ByteArray
  | [] => .empty
  | entry :: entries => entry.sent ++ stream entries

end Entry

open Entry

theorem write_sound (config : TxConfig) (tx : Tx) (sink : Sink) :
    ∃ sent, (write config tx sink).2.accepted = sink.accepted ++ sent
      ∧ Sound config ⟨tx, (write config tx sink).1, sent⟩ := by
  cases hframe : Frame.encode tx config with
  | error error =>
      have hwrite : write config tx sink = (.error error, sink) := by
        rw [write, hframe]
      rw [hwrite]
      refine ⟨.empty, ByteArray.append_empty.symm, ⟨0, Nat.zero_le _, by simp⟩, ?_, ?_, ?_⟩
      · intro hsome
        exact absurd rfl hsome
      · intro hok
        cases hok
      · intro _ _ hsome
        exact absurd rfl hsome
  | ok frame =>
      obtain ⟨hin, hw, rfl⟩ := Frame.encode_eq_ok_iff.mp hframe
      obtain ⟨count, hle, hcount⟩ := (course_write hframe sink).front
      refine ⟨_, hcount, ⟨count, hle, rfl⟩, fun _ => ⟨hin, hw⟩, ?_, ?_⟩
      · intro hok
        obtain ⟨frame, hsame, hall⟩ := write_ok (Prod.ext hok rfl)
        rw [hcount, ← Except.ok.inj (hframe.symm.trans hsame)] at hall
        exact (ByteArray.append_right_inj sink.accepted).mp hall
      · intro error herror _
        exact ofStream_write hframe (Prod.ext herror rfl)

theorem sound_writeAll (config : TxConfig) (txs : List Tx) (sink : Sink) :
    (writeAll config txs sink).2.accepted
        = sink.accepted ++ stream (writeAll config txs sink).1
      ∧ ∀ entry ∈ (writeAll config txs sink).1, entry.Sound config := by
  induction txs generalizing sink with
  | nil => exact ⟨ByteArray.append_empty.symm, fun _ hmem => absurd hmem List.not_mem_nil⟩
  | cons tx txs ih =>
      obtain ⟨sent, hsent, hsound⟩ := write_sound config tx sink
      obtain ⟨haccepted, hrest⟩ := ih (write config tx sink).2
      have hentry : (write config tx sink).2.accepted.extract sink.accepted.size
          (write config tx sink).2.accepted.size = sent := by
        rw [hsent]
        exact ByteArray.extract_append_eq_right rfl ByteArray.size_append
      have hcons : (writeAll config (tx :: txs) sink).1
          = ⟨tx, (write config tx sink).1, sent⟩
            :: (writeAll config txs (write config tx sink).2).1 := by
        rw [← hentry]
        rfl
      rw [hcons]
      refine ⟨?_, List.forall_mem_cons.mpr ⟨hsound, hrest⟩⟩
      show (writeAll config txs (write config tx sink).2).2.accepted = _
      rw [haccepted, hsent, stream, ByteArray.append_assoc]

-- ========================================================== whole frames

namespace Entry

variable {entry : Entry} {entries : List Entry}

theorem stream_append (before after : List Entry) :
    stream (before ++ after) = stream before ++ stream after := by
  induction before with
  | nil => exact ByteArray.empty_append.symm
  | cons entry before ih => rw [List.cons_append, stream, stream, ih, ByteArray.append_assoc]

/-- A frame that is not torn is there, or nothing of it. -/
theorem Sound.sent_eq (hsound : entry.Sound config) (hwhole : ¬entry.Torn) :
    entry.sent = if entry.sent.size = entry.tx.wireSize then Frame.bytes entry.tx else .empty := by
  obtain ⟨count, hle, hcount⟩ := hsound.piece
  have hsize : entry.sent.size = count := by
    rw [hcount, ByteArray.size_extract]
    omega
  split
  next hall =>
    rw [hcount, ← hsize, hall, ← Frame.size_bytes, ByteArray.extract_zero_size]
  next hpart =>
    apply ByteArray.size_eq_zero_iff.mp
    rw [Frame.size_bytes] at hle
    unfold Torn at hwhole
    omega

theorem stream_eq_wire (hsound : ∀ entry ∈ entries, entry.Sound config)
    (hwhole : ∀ entry ∈ entries, ¬entry.Torn) : stream entries = Frame.wire (whole entries) := by
  induction entries with
  | nil => rfl
  | cons entry entries ih =>
      obtain ⟨hentry, hsound⟩ := List.forall_mem_cons.mp hsound
      obtain ⟨huntorn, hwhole⟩ := List.forall_mem_cons.mp hwhole
      rw [stream, ih hsound hwhole, hentry.sent_eq huntorn]
      unfold whole
      by_cases hall : entry.sent.size = entry.tx.wireSize
      · rw [if_pos hall, List.filter_cons_of_pos (by simpa using hall)]
        rfl
      · rw [if_neg hall, List.filter_cons_of_neg (by simpa using hall), ByteArray.empty_append]

/-- Who is reported as written is there whole. -/
theorem reported_sublist (hsound : ∀ entry ∈ entries, entry.Sound config) :
    (reported entries).Sublist (whole entries) := by
  have hfilter : (entries.filter fun entry => entry.result.isOk)
      = (entries.filter fun entry => entry.sent.size = entry.tx.wireSize).filter
          fun entry => entry.result.isOk := by
    rw [List.filter_filter]
    apply List.filter_congr
    intro entry hmem
    cases hresult : entry.result with
    | error _ => simp [Except.isOk, Except.toBool]
    | ok _ =>
        have hdone := congrArg ByteArray.size ((hsound entry hmem).done hresult)
        rw [Frame.size_bytes] at hdone
        simp [hdone]
  unfold reported
  rw [hfilter]
  exact List.filter_sublist.map _

theorem ok_of_mem_whole (hsound : ∀ entry ∈ entries, entry.Sound config) :
    ∀ tx ∈ whole entries, Frame.Within config tx ∧ Frame.Writable tx := by
  intro tx hmem
  obtain ⟨entry, hentry, rfl⟩ := List.mem_map.mp hmem
  obtain ⟨hentry, hall⟩ := List.mem_filter.mp hentry
  have hsome : entry.sent.size ≠ 0 := by
    rw [of_decide_eq_true hall]
    exact Nat.ne_of_gt (Frame.wireSize_pos entry.tx)
  exact (hsound entry hentry).fits hsome

end Entry

end Writer

-- =============================================================== reading

namespace Reader

variable {config : TxConfig} {calls : List Read}

/-- The transactions that some reads have given. -/
def heard (results : List (Except TxError Tx)) : List Tx := results.filterMap Except.toOption

/-- Failures of the stream give nothing. -/
theorem heard_filter (results : List (Except TxError Tx)) :
    heard (results.filter fun result => !Frame.isIo result) = heard results := by
  rw [heard, List.filterMap_filter]
  apply List.filterMap_congr
  intro result _
  cases result with
  | ok tx => rfl
  | error error => cases error <;> rfl

/-- What is heard in a stream is heard in the buffer of all its bytes, by as many
looks as there are reads, save at most one for each failure of the stream. -/
theorem heard_run (config : TxConfig) (hfull : Read.Full calls) (count : Nat) :
    ∃ looked, count ≤ looked + calls.countP Read.breaks
      ∧ heard (run { config := config } count calls).1
        = heard ((Frame.looks config looked (Read.delivered calls)).1.map Frame.answer) := by
  obtain ⟨looked, -, henough, hresults, -⟩ := run_looks count (r := { config := config }) hfull
  rw [ByteArray.empty_append] at hresults
  refine ⟨looked, henough, ?_⟩
  rw [← heard_filter, hresults]

/-- Whole frames are heard, and then whatever is to be heard behind them. -/
theorem heard_looks_wire {txs : List Tx} (rest : ByteArray)
    (hok : ∀ tx ∈ txs, Frame.Within config tx ∧ Frame.Writable tx) {count : Nat}
    (hcount : txs.length ≤ count) :
    heard ((Frame.looks config count (Frame.wire txs ++ rest)).1.map Frame.answer)
      = txs ++ heard ((Frame.looks config (count - txs.length) rest).1.map Frame.answer) := by
  induction txs generalizing count with
  | nil => rw [Frame.wire, ByteArray.empty_append, List.nil_append, List.length_nil, Nat.sub_zero]
  | cons tx txs ih =>
      obtain ⟨⟨hin, hw⟩, hok⟩ := List.forall_mem_cons.mp hok
      obtain ⟨count, rfl⟩ : ∃ later, count = later + 1 :=
        Nat.exists_eq_succ_of_ne_zero (Nat.ne_zero_of_lt hcount)
      rw [Frame.wire, ByteArray.append_assoc,
        Frame.looks_succ_of_complete (Frame.decode_bytes_append hw hin _), List.length_cons,
        Nat.add_sub_add_right]
      show tx :: heard _ = _
      rw [ih hok (Nat.le_of_succ_le_succ hcount), List.cons_append]

/-- Where a look removes nothing and gives nothing, nothing is ever heard. -/
theorem heard_looks_of_stuck {buffer : ByteArray}
    (hrest : (Frame.decode config buffer).rest buffer = buffer)
    (hresult : (Frame.answer (Frame.decode config buffer).result).toOption = none) (count : Nat) :
    heard ((Frame.looks config count buffer).1.map Frame.answer) = [] := by
  induction count with
  | zero => rfl
  | succ count ih =>
      rw [Frame.looks_succ_results, hrest, List.map_cons, heard, List.filterMap_cons_none hresult]
      exact ih

end Reader

-- ============================================================ what is heard

namespace Writer

open Entry

variable {config : TxConfig} {sink : Sink} {tx : Tx} {txs : List Tx} {calls : List Read}

/-- A writer that goes on after failures. A write that fails for another reason than
the stream has sent nothing. As long as no frame is torn, a reader with the
same limits hears what has been sent whole, which is everything that is
reported as written and perhaps some of what is not: it hears just that
when no frame is torn at all, and that first when one is torn later. -/
theorem heard_of_writeAll {before after : List Entry}
    (hlog : (writeAll config txs sink).1 = before ++ after)
    (hwhole : ∀ entry ∈ before, ¬entry.Torn) (hfull : Read.Full calls)
    (hdelivered : sink.accepted ++ Read.delivered calls = (writeAll config txs sink).2.accepted)
    {count : Nat} (hcount : (whole before).length + calls.countP Read.breaks ≤ count) :
    (∀ entry ∈ before ++ after, ∀ error, entry.result = .error error →
        entry.sent.size ≠ 0 → OfStream error)
      ∧ (reported before).Sublist (whole before)
      ∧ whole before <+: Reader.heard (Reader.run { config := config } count calls).1
      ∧ (after = [] →
          Reader.heard (Reader.run { config := config } count calls).1 = whole before) := by
  obtain ⟨haccepted, hsound⟩ := sound_writeAll config txs sink
  rw [hlog] at haccepted hsound
  have hbefore : ∀ entry ∈ before, entry.Sound config := fun entry hmem =>
    hsound entry (List.mem_append_left _ hmem)
  have hbytes : Read.delivered calls = Frame.wire (whole before) ++ stream after := by
    rw [haccepted, stream_append, stream_eq_wire hbefore hwhole] at hdelivered
    exact (ByteArray.append_right_inj sink.accepted).mp hdelivered
  obtain ⟨looked, henough, hlooks⟩ := Reader.heard_run config hfull count
  have hheard : Reader.heard (Reader.run { config := config } count calls).1
      = whole before ++ Reader.heard ((Frame.looks config
          (looked - (whole before).length) (stream after)).1.map Frame.answer) := by
    rw [hlooks, hbytes]
    exact Reader.heard_looks_wire _ (ok_of_mem_whole hbefore) (by omega)
  refine ⟨fun entry hmem => (hsound entry hmem).failed, reported_sublist hbefore, ?_, ?_⟩
  · rw [hheard]
    exact List.prefix_append _ _
  · rintro rfl
    rw [hheard, stream, Reader.heard_looks_of_stuck rfl rfl, List.append_nil]

/-- The word that a pin is up to date. -/
def synced (id : UInt64) : Tx := .ofStatus .state id .synced .nil

/-- A sink that takes everything, and of whose flushes the second fails. -/
def unflushed : Sink := { flushes := [.done, .failed (.ofKind .brokenPipe) 0] }

/-- Three words, of which the second is not reported as written. -/
def three : List Tx := [synced 1, synced 2, synced 3]

/-- The second write fails when its frame is there already, and all three are heard. -/
theorem heard_of_writeAll_unflushed :
    (writeAll {} three unflushed).1.map (·.result.isOk) = [true, false, true]
      ∧ Reader.heard (Reader.run { config := {} } 3 [.bytes (Frame.wire three)]).1 = three := by
  -- What is computed of the run, at once.
  have hrun : (writeAll {} three unflushed).1.map (·.result.isOk) = [true, false, true]
      ∧ (∀ entry ∈ (writeAll {} three unflushed).1, ¬entry.Torn)
      ∧ whole (writeAll {} three unflushed).1 = three
      ∧ (writeAll {} three unflushed).2.accepted = Frame.wire three := by
    decide +kernel
  obtain ⟨hresults, hwhole, hall, haccepted⟩ := hrun
  have hlog : (writeAll {} three unflushed).1 = (writeAll {} three unflushed).1 ++ [] :=
    (List.append_nil _).symm
  have hfull : Read.Full [.bytes (Frame.wire three)] := by
    intro chunk hmem
    rw [Read.bytes.inj (List.mem_singleton.mp hmem), three, Frame.wire, ByteArray.size_append,
      Frame.size_bytes]
    have hpos := Frame.wireSize_pos (synced 1)
    omega
  have hdelivered : unflushed.accepted ++ Read.delivered [.bytes (Frame.wire three)]
      = (writeAll {} three unflushed).2.accepted := by
    rw [haccepted, Read.delivered, Read.delivered, ByteArray.append_empty]
    exact ByteArray.empty_append
  have hcount : (whole (writeAll {} three unflushed).1).length
      + [Read.bytes (Frame.wire three)].countP Read.breaks ≤ 3 := by
    rw [hall]
    exact Nat.le_refl _
  obtain ⟨-, -, -, hheard⟩ := heard_of_writeAll hlog hwhole hfull hdelivered hcount
  exact ⟨hresults, (hheard rfl).trans hall⟩

/-- Behind the marker comes not the version but the next marker. -/
theorem decode_marker_bytes (config : TxConfig) (tx : Tx) :
    Frame.decode config (Bytes.pack Frame.marker ++ Frame.bytes tx)
      = .refused (.malformedTx (.unknownVersion 0x61)) := by
  have hsize : (Bytes.pack Frame.marker ++ Frame.bytes tx).size = 3 + tx.wireSize := by
    rw [ByteArray.size_append, Frame.size_bytes]
    rfl
  have hlong : Frame.headerSize ≤ (Bytes.pack Frame.marker ++ Frame.bytes tx).size := by
    have hmin : Frame.headerSize = 16 := rfl
    have hbody : Frame.minBody = 64 := rfl
    rw [hsize, Tx.wireSize, Tx.bodySize]
    omega
  refine Frame.decode_eq_iff.mpr (.refused hlong ?_)
  rw [Frame.heading, Bytes.slice_eq, Bytes.list_append, Bytes.list_pack, Frame.list_bytes]
  rfl

/-- A sink that takes three bytes and then nothing for some time. -/
def stalling : Sink := { writes := [.accept 3, .failed (.ofKind .wouldBlock) 0] }

/-- A write fails in the middle of a frame, the next one is reported as done, and
no reader ever hears of it. -/
theorem exists_written_unread : ∃ (config : TxConfig) (sink : Sink) (first second : Tx),
    (writeAll config [first, second] sink).1.map (·.result)
        = [.error (.io ⟨.timedOut, "peer stopped reading"⟩), .ok ()]
      ∧ ∀ calls, Read.Full calls →
        sink.accepted ++ Read.delivered calls = (writeAll config [first, second] sink).2.accepted →
        ∀ count, Reader.heard (Reader.run { config := config } count calls).1 = [] := by
  let config : TxConfig := { writeTimeout := some 0 }
  let buffer := (writeAll config [synced 1, synced 2] stalling).2.accepted
  have hdecode : Frame.decode config buffer = .refused (.malformedTx (.unknownVersion 0x61)) := by
    have hbuffer : buffer = Bytes.pack Frame.marker ++ Frame.bytes (synced 2) := by
      decide +kernel
    rw [hbuffer, decode_marker_bytes]
  refine ⟨config, stalling, synced 1, synced 2, by decide, ?_⟩
  intro calls hfull hdelivered count
  have hbuffer : Read.delivered calls = buffer := by
    rw [← ByteArray.empty_append (b := Read.delivered calls)]
    exact hdelivered
  obtain ⟨looked, -, hlooks⟩ := Reader.heard_run config hfull count
  rw [hlooks, hbuffer]
  apply Reader.heard_looks_of_stuck
  · rw [hdecode]
    rfl
  · rw [hdecode]
    rfl

end Writer

end CellSync
