/-
What one write asks of its sink, and what it answers.

A write offers what is left of its frame, call after call. As long as its
calls accept something or are made again, and have not taken everything,
it goes on, and the next call is offered just what they have left
(`push_append`). So the calls that were made are the longest such front of
the script (`Under`) and one more: that one ends the write, or it takes the
rest, and then the sink is flushed in the same manner. `Course` says all of
this, with the sink that is left, and it is what `write` does, no more and
no less (`write_eq_iff`).

A sink accepts everything past the end of its script, so a script is what a
write that returns has seen of its sink.
-/
import Mathlib.Data.List.Induction
import CellSync.Tx.Writer
import CellSync.Proofs.Tx.Frame

namespace CellSync

/-- The longest front of a list with a property of fronts: the element behind it, if
there is one, would spoil it. -/
theorem exists_front {α : Type} {P : List α → Prop} (hnil : P []) (list : List α) :
    ∃ front rest, list = front ++ rest ∧ P front
      ∧ ∀ next later, rest = next :: later → ¬P (front ++ [next]) := by
  induction list using List.reverseRecOn with
  | nil => exact ⟨[], [], rfl, hnil, nofun⟩
  | append_singleton list last ih =>
      obtain ⟨front, rest, rfl, hfront, hspoils⟩ := ih
      cases rest with
      | cons next later =>
          refine ⟨front, next :: later ++ [last], by simp, hfront, ?_⟩
          rintro _ _ ⟨⟩
          exact hspoils next later rfl
      | nil =>
          by_cases hlonger : P (front ++ [last])
          · exact ⟨front ++ [last], [], by simp, hlonger, nofun⟩
          · refine ⟨front, [last], by simp, hfront, ?_⟩
            rintro _ _ ⟨⟩
            exact hlonger

/-- Whether a write call accepts something, or fails in a way that is tried again. -/
def Write.Harmless (timeout : Option Nat) : Write → Prop
  | .accept most => 0 < most
  | .failed error waited => Writer.afterFailure timeout error waited = .ok ()

namespace Writer

variable {timeout : Option Nat}

-- ======================================================== failed calls

/-- Whether a failed call is made again: it was interrupted, or it stalled and the
deadline has not passed. -/
def Again (timeout : Option Nat) (error : IoError) (waited : Nat) : Prop :=
  error.kind = .interrupted
    ∨ (error.kind = .wouldBlock ∨ error.kind = .timedOut)
      ∧ ∀ limit, timeout = some limit → waited < limit

/-- What a failed call that is not made again is answered with. -/
inductive Fails (timeout : Option Nat) (error : IoError) (waited : Nat) : TxError → Prop where
  /-- The peer has stalled until the deadline has passed. -/
  | stalled {limit : Nat} (hkind : error.kind = .wouldBlock ∨ error.kind = .timedOut)
      (hlimit : timeout = some limit) (hpassed : limit ≤ waited) :
      Fails timeout error waited (.io ⟨.timedOut, "peer stopped reading"⟩)
  | broken (hinterrupted : error.kind ≠ .interrupted) (hblock : error.kind ≠ .wouldBlock)
      (htimed : error.kind ≠ .timedOut) : Fails timeout error waited (.io error)

section Failure

variable {error : IoError} {waited : Nat}

theorem isStall_iff {kind : IoKind} :
    kind.isStall = true ↔ kind = .wouldBlock ∨ kind = .timedOut := by
  rw [IoKind.isStall, Bool.or_eq_true, beq_iff_eq, beq_iff_eq]

theorem any_le_iff :
    timeout.any (· ≤ waited) = true ↔ ∃ limit, timeout = some limit ∧ limit ≤ waited := by
  simp [Option.any_eq_true]

theorem afterFailure_of_again (h : Again timeout error waited) :
    afterFailure timeout error waited = .ok () := by
  rw [afterFailure]
  split
  next => rfl
  next hkind =>
    obtain ⟨hstall, hleft⟩ := h.resolve_left hkind
    have hopen : ¬timeout.any (· ≤ waited) = true := by
      rw [any_le_iff]
      rintro ⟨limit, hlimit, hpassed⟩
      exact absurd (hleft limit hlimit) (Nat.not_lt.mpr hpassed)
    rw [if_pos (isStall_iff.mpr hstall), if_neg hopen]

theorem afterFailure_of_fails {e : TxError} (h : Fails timeout error waited e) :
    afterFailure timeout error waited = .error e := by
  rw [afterFailure]
  cases h with
  | @stalled limit hkind hlimit hpassed =>
      have hinterrupted : error.kind ≠ .interrupted := by
        rcases hkind with h | h <;> rw [h] <;> decide
      rw [if_neg hinterrupted, if_pos (isStall_iff.mpr hkind),
        if_pos (any_le_iff.mpr ⟨limit, hlimit, hpassed⟩)]
  | broken hinterrupted hblock htimed =>
      have hstall : ¬error.kind.isStall = true := fun h =>
        (isStall_iff.mp h).elim hblock htimed
      rw [if_neg hinterrupted, if_neg hstall]

/-- Every failed call is made again or answered. -/
theorem again_or_fails (timeout : Option Nat) (error : IoError) (waited : Nat) :
    Again timeout error waited ∨ ∃ e, Fails timeout error waited e := by
  by_cases hinterrupted : error.kind = .interrupted
  · exact .inl (.inl hinterrupted)
  by_cases hstall : error.kind = .wouldBlock ∨ error.kind = .timedOut
  · by_cases hpassed : ∃ limit, timeout = some limit ∧ limit ≤ waited
    · obtain ⟨limit, hlimit, hle⟩ := hpassed
      exact .inr ⟨_, .stalled hstall hlimit hle⟩
    · refine .inl (.inr ⟨hstall, fun limit hlimit => Nat.not_le.mp fun hle => ?_⟩)
      exact hpassed ⟨limit, hlimit, hle⟩
  · obtain ⟨hblock, htimed⟩ := not_or.mp hstall
    exact .inr ⟨_, .broken hinterrupted hblock htimed⟩

theorem afterFailure_eq_ok_iff :
    afterFailure timeout error waited = .ok () ↔ Again timeout error waited := by
  constructor
  · intro h
    rcases again_or_fails timeout error waited with hagain | ⟨e, hfails⟩
    · exact hagain
    · rw [afterFailure_of_fails hfails] at h
      cases h
  · exact afterFailure_of_again

/-- An interruption is never an answer. -/
theorem Fails.kind_ne {cause : IoError} (h : Fails timeout error waited (.io cause)) :
    cause.kind ≠ .interrupted := by
  cases h with
  | stalled => decide
  | broken hinterrupted => exact hinterrupted

end Failure

-- ============================================================= pushing

/-- How many bytes a write call takes of more than that. -/
def most : Write → Nat
  | .accept most => most
  | .failed _ _ => 0

/-- How many bytes some write calls take of more than that. -/
def taken : List Write → Nat
  | [] => 0
  | call :: calls => most call + taken calls

theorem taken_concat (calls : List Write) (call : Write) :
    taken (calls ++ [call]) = taken calls + most call := by
  induction calls with
  | nil => exact Nat.add_comm (most call) 0
  | cons first calls ih => rw [List.cons_append, taken, taken, ih, Nat.add_assoc]

/-- Calls with which a write goes on: none of them ends it, and together they leave
something of the bytes. -/
structure Under (timeout : Option Nat) (size : Nat) (calls : List Write) : Prop where
  harmless : ∀ call ∈ calls, call.Harmless timeout
  taken_lt : taken calls < size

theorem Under.concat {size : Nat} {calls : List Write} {call : Write}
    (h : Under timeout size calls) (hcall : call.Harmless timeout)
    (hlt : taken calls + most call < size) : Under timeout size (calls ++ [call]) :=
  ⟨List.forall_mem_append.mpr ⟨h.harmless, by simpa using hcall⟩, taken_concat calls call ▸ hlt⟩

/-- A call that does not end a write takes the front of what it is offered, and the
next one is offered the rest. -/
theorem push_cons {bytes : ByteArray} {call : Write} (hcall : call.Harmless timeout)
    (hmost : most call < bytes.size) (accepted : ByteArray) (calls : Nat) (later : List Write) :
    push timeout bytes accepted calls (call :: later)
      = push timeout (bytes.extract (most call) bytes.size)
          (accepted ++ bytes.extract 0 (most call)) (calls + 1) later := by
  have hsome : bytes.size ≠ 0 := Nat.ne_zero_of_lt hmost
  rw [push.eq_def]
  dsimp only
  rw [if_neg hsome]
  cases call with
  | accept count =>
      have hpos : 0 < count := hcall
      have hmin : min count bytes.size = count := Nat.min_eq_left (Nat.le_of_lt hmost)
      dsimp only
      rw [hmin, if_neg (Nat.ne_of_gt hpos)]
      rfl
  | failed error waited =>
      have hagain : afterFailure timeout error waited = .ok () := hcall
      dsimp only
      rw [hagain, most, ByteArray.extract_zero_size, ByteArray.extract_same,
        ByteArray.append_empty]

/-- After some calls with which a write goes on, the sink has accepted the front that
they take, and the next call is offered the rest. -/
theorem push_append {bytes : ByteArray} {before : List Write}
    (h : Under timeout bytes.size before) (accepted : ByteArray) (calls : Nat)
    (later : List Write) :
    push timeout bytes accepted calls (before ++ later)
      = push timeout (bytes.extract (taken before) bytes.size)
          (accepted ++ bytes.extract 0 (taken before)) (calls + before.length) later := by
  induction before generalizing bytes accepted calls with
  | nil => simp [taken]
  | cons call before ih =>
      obtain ⟨hharmless, hlt⟩ := h
      obtain ⟨hcall, hharmless⟩ := List.forall_mem_cons.mp hharmless
      have htaken : taken (call :: before) = most call + taken before := rfl
      rw [htaken] at hlt ⊢
      have hleft : (bytes.extract (most call) bytes.size).size = bytes.size - most call := by
        rw [ByteArray.size_extract, Nat.min_self]
      have hrest : (bytes.extract (most call) bytes.size).extract (taken before)
          (bytes.size - most call) = bytes.extract (most call + taken before) bytes.size := by
        rw [ByteArray.extract_extract, Nat.add_sub_of_le (by omega), Nat.min_self]
      -- The front of what is left follows the front that this call takes.
      have hfront : bytes.extract 0 (most call)
          ++ (bytes.extract (most call) bytes.size).extract 0 (taken before)
            = bytes.extract 0 (most call + taken before) := by
        rw [ByteArray.extract_extract, Nat.add_zero, ByteArray.extract_append_extract,
          Nat.zero_min, Nat.max_eq_right (by omega), Nat.min_eq_left (by omega)]
      rw [List.cons_append, push_cons hcall (by omega), ih ⟨hharmless, by omega⟩, hleft, hrest,
        ByteArray.append_assoc, hfront, List.length_cons, Nat.add_assoc, Nat.add_comm 1]

/-- How the pushing of some bytes ends: after calls with which it goes on, by one more. -/
inductive Pushing (timeout : Option Nat) (bytes accepted : ByteArray) (calls : Nat)
    (script : List Write) : Pushed → Prop where
  /-- A call accepts nothing. -/
  | closed {before rest : List Write} (hscript : script = before ++ .accept 0 :: rest)
      (hunder : Under timeout bytes.size before) :
      Pushing timeout bytes accepted calls script
        ⟨.error .connectionClosed, accepted ++ bytes.extract 0 (taken before), rest,
          calls + before.length + 1⟩
  /-- A call fails and is not made again. -/
  | failed {before rest : List Write} {cause : IoError} {waited : Nat} {error : TxError}
      (hscript : script = before ++ .failed cause waited :: rest)
      (hunder : Under timeout bytes.size before) (hfails : Fails timeout cause waited error) :
      Pushing timeout bytes accepted calls script
        ⟨.error error, accepted ++ bytes.extract 0 (taken before), rest,
          calls + before.length + 1⟩
  /-- A call accepts all that is left. -/
  | filled {before rest : List Write} {most : Nat}
      (hscript : script = before ++ .accept most :: rest)
      (hunder : Under timeout bytes.size before) (hmost : bytes.size ≤ taken before + most) :
      Pushing timeout bytes accepted calls script
        ⟨.ok (), accepted ++ bytes, rest, calls + before.length + 1⟩
  /-- A call behind the end of the script accepts all that is left. -/
  | beyond (hunder : Under timeout bytes.size script) :
      Pushing timeout bytes accepted calls script
        ⟨.ok (), accepted ++ bytes, [], calls + script.length + 1⟩

section Pushing

variable {bytes accepted : ByteArray} {calls : Nat} {script : List Write} {pushed : Pushed}

theorem exists_pushing (hbytes : 0 < bytes.size) (accepted : ByteArray) (calls : Nat)
    (script : List Write) : ∃ pushed, Pushing timeout bytes accepted calls script pushed := by
  have hnone : Under timeout bytes.size [] := ⟨nofun, hbytes⟩
  obtain ⟨before, later, hscript, hunder, hlast⟩ := exists_front hnone script
  cases later with
  | nil =>
      rw [List.append_nil] at hscript
      rw [hscript]
      exact ⟨_, .beyond hunder⟩
  | cons call rest =>
      have hends := hlast call rest rfl
      cases call with
      | accept count =>
          by_cases hcount : count = 0
          · rw [hcount] at hscript
            exact ⟨_, .closed hscript hunder⟩
          · refine ⟨_, .filled hscript hunder (Nat.not_lt.mp fun hlt => hends ?_)⟩
            exact hunder.concat (Nat.pos_of_ne_zero hcount) hlt
      | failed cause waited =>
          rcases again_or_fails timeout cause waited with hagain | ⟨error, hfails⟩
          · have hharmless : (Write.failed cause waited).Harmless timeout :=
              afterFailure_of_again hagain
            exact absurd (hunder.concat hharmless hunder.taken_lt) hends
          · exact ⟨_, .failed hscript hunder hfails⟩

/-- Where nothing is left to offer, no call is made. -/
theorem push_of_empty (hempty : bytes.size = 0) :
    push timeout bytes accepted calls script = ⟨.ok (), accepted, script, calls⟩ := by
  cases script with
  | nil => rw [push, if_pos hempty]
  | cons call rest =>
      rw [push.eq_def]
      exact if_pos hempty

theorem push_closed (hsome : 0 < bytes.size) (rest : List Write) :
    push timeout bytes accepted calls (.accept 0 :: rest)
      = ⟨.error .connectionClosed, accepted, rest, calls + 1⟩ := by
  rw [push.eq_def]
  dsimp only
  rw [if_neg (Nat.ne_of_gt hsome), Nat.zero_min, if_pos rfl]

theorem push_failed (hsome : 0 < bytes.size) {cause : IoError} {waited : Nat} {error : TxError}
    (hfails : Fails timeout cause waited error) (rest : List Write) :
    push timeout bytes accepted calls (.failed cause waited :: rest)
      = ⟨.error error, accepted, rest, calls + 1⟩ := by
  rw [push.eq_def]
  dsimp only
  rw [if_neg (Nat.ne_of_gt hsome), afterFailure_of_fails hfails]

theorem push_filled (hsome : 0 < bytes.size) {count : Nat} (hcount : bytes.size ≤ count)
    (rest : List Write) :
    push timeout bytes accepted calls (.accept count :: rest)
      = ⟨.ok (), accepted ++ bytes, rest, calls + 1⟩ := by
  have hnone : (bytes.extract bytes.size bytes.size).size = 0 := by
    rw [ByteArray.size_extract]
    omega
  rw [push.eq_def]
  dsimp only
  rw [if_neg (Nat.ne_of_gt hsome), Nat.min_eq_right hcount, if_neg (Nat.ne_of_gt hsome),
    push_of_empty hnone, ByteArray.extract_zero_size]

theorem push_beyond (hsome : 0 < bytes.size) :
    push timeout bytes accepted calls [] = ⟨.ok (), accepted ++ bytes, [], calls + 1⟩ := by
  rw [push, if_neg (Nat.ne_of_gt hsome)]

/-- The calls tell how a push ends. -/
theorem push_of_pushing (h : Pushing timeout bytes accepted calls script pushed) :
    push timeout bytes accepted calls script = pushed := by
  -- What is left before the last call, behind the front that has been accepted.
  have hleft : ∀ before, (bytes.extract (taken before) bytes.size).size
      = bytes.size - taken before := fun before => by
    rw [ByteArray.size_extract, Nat.min_self]
  have hwhole : ∀ before, Under timeout bytes.size before →
      accepted ++ bytes.extract 0 (taken before) ++ bytes.extract (taken before) bytes.size
        = accepted ++ bytes := fun before hunder => by
    rw [ByteArray.append_assoc, Bytes.extract_append_rest (Nat.le_of_lt hunder.taken_lt)]
  have hsome : ∀ before, Under timeout bytes.size before →
      0 < (bytes.extract (taken before) bytes.size).size := fun before hunder => by
    rw [hleft]
    exact Nat.sub_pos_of_lt hunder.taken_lt
  cases h with
  | closed hscript hunder =>
      rw [hscript, push_append hunder, push_closed (hsome _ hunder)]
  | failed hscript hunder hfails =>
      rw [hscript, push_append hunder, push_failed (hsome _ hunder) hfails]
  | filled hscript hunder hmost =>
      rw [hscript, push_append hunder,
        push_filled (hsome _ hunder) (by rw [hleft]; omega), hwhole _ hunder]
  | beyond hunder =>
      have hend := push_append hunder accepted calls []
      rw [List.append_nil] at hend
      rw [hend, push_beyond (hsome _ hunder), hwhole _ hunder]

/-- A push comes to one of these, and to one only. -/
theorem push_eq_iff (hbytes : 0 < bytes.size) :
    push timeout bytes accepted calls script = pushed
      ↔ Pushing timeout bytes accepted calls script pushed := by
  constructor
  · rintro rfl
    obtain ⟨pushed, hpushing⟩ := exists_pushing hbytes accepted calls script
    rw [push_of_pushing hpushing]
    exact hpushing
  · exact push_of_pushing

/-- The sink has a front of the bytes. -/
theorem Pushing.front (h : Pushing timeout bytes accepted calls script pushed) :
    ∃ count ≤ bytes.size, pushed.accepted = accepted ++ bytes.extract 0 count := by
  cases h with
  | closed _ hunder => exact ⟨_, Nat.le_of_lt hunder.taken_lt, rfl⟩
  | failed _ hunder _ => exact ⟨_, Nat.le_of_lt hunder.taken_lt, rfl⟩
  | filled | beyond => exact ⟨bytes.size, Nat.le_refl _, by rw [ByteArray.extract_zero_size]⟩

end Pushing

end Writer

-- ============================================================= flushing

/-- Whether a flush call fails and is made again. -/
def Flush.Again (timeout : Option Nat) : Flush → Prop
  | .done => False
  | .failed error waited => Writer.Again timeout error waited

namespace Writer

variable {timeout : Option Nat}

/-- How a flush ends: after calls that are made again, by one that fails for good or by
one that succeeds. -/
inductive Flushing (timeout : Option Nat) (calls : Nat) (script : List Flush) :
    Except TxError Unit × List Flush × Nat → Prop where
  | failed {before rest : List Flush} {cause : IoError} {waited : Nat} {error : TxError}
      (hscript : script = before ++ .failed cause waited :: rest)
      (hagain : ∀ call ∈ before, call.Again timeout)
      (hfails : Fails timeout cause waited error) :
      Flushing timeout calls script (.error error, rest, calls + before.length + 1)
  | flushed {before rest : List Flush} (hscript : script = before ++ .done :: rest)
      (hagain : ∀ call ∈ before, call.Again timeout) :
      Flushing timeout calls script (.ok (), rest, calls + before.length + 1)
  /-- A call behind the end of the script succeeds. -/
  | beyond (hagain : ∀ call ∈ script, call.Again timeout) :
      Flushing timeout calls script (.ok (), [], calls + script.length + 1)

section Flushing

variable {calls : Nat} {script : List Flush} {flushed : Except TxError Unit × List Flush × Nat}

theorem exists_flushing (timeout : Option Nat) (calls : Nat) (script : List Flush) :
    ∃ flushed, Flushing timeout calls script flushed := by
  obtain ⟨before, later, hscript, hagain, hlast⟩ :=
    exists_front (P := fun front => ∀ call ∈ front, Flush.Again timeout call) nofun script
  cases later with
  | nil =>
      rw [List.append_nil] at hscript
      rw [hscript]
      exact ⟨_, .beyond hagain⟩
  | cons call rest =>
      cases call with
      | done => exact ⟨_, .flushed hscript hagain⟩
      | failed cause waited =>
          rcases again_or_fails timeout cause waited with hcall | ⟨error, hfails⟩
          · refine absurd ?_ (hlast _ rest rfl)
            exact List.forall_mem_append.mpr ⟨hagain, List.forall_mem_singleton.mpr hcall⟩
          · exact ⟨_, .failed hscript hagain hfails⟩

/-- Behind calls that are made again the flush goes on with the calls that follow. -/
theorem flushCalls_append {before : List Flush} (hagain : ∀ call ∈ before, call.Again timeout)
    (calls : Nat) (later : List Flush) :
    flushCalls timeout calls (before ++ later)
      = flushCalls timeout (calls + before.length) later := by
  induction before generalizing calls with
  | nil => rfl
  | cons call before ih =>
      obtain ⟨hcall, hbefore⟩ := List.forall_mem_cons.mp hagain
      cases call with
      | done => exact hcall.elim
      | failed error waited =>
          rw [List.cons_append, flushCalls, afterFailure_of_again hcall]
          dsimp only
          rw [ih hbefore, List.length_cons, Nat.add_assoc, Nat.add_comm 1]

/-- The calls tell how a flush ends. -/
theorem flushCalls_of_flushing (h : Flushing timeout calls script flushed) :
    flushCalls timeout calls script = flushed := by
  cases h with
  | failed hscript hagain hfails =>
      rw [hscript, flushCalls_append hagain, flushCalls, afterFailure_of_fails hfails]
  | flushed hscript hagain => rw [hscript, flushCalls_append hagain, flushCalls]
  | beyond hagain =>
      have hend := flushCalls_append hagain calls []
      rw [List.append_nil] at hend
      rw [hend, flushCalls]

/-- A flush comes to one of these, and to one only. -/
theorem flushCalls_eq_iff :
    flushCalls timeout calls script = flushed ↔ Flushing timeout calls script flushed := by
  constructor
  · rintro rfl
    obtain ⟨flushed, hflushing⟩ := exists_flushing timeout calls script
    rw [flushCalls_of_flushing hflushing]
    exact hflushing
  · exact flushCalls_of_flushing

/-- The calls that a flush with success makes: some that are made again, and one that
succeeds, which is the script's own or one behind its end. -/
def Flushed (timeout : Option Nat) (script rest : List Flush) (made : Nat) : Prop :=
  ∃ before, (∀ call ∈ before, Flush.Again timeout call) ∧ made = before.length + 1
    ∧ (script = before ++ .done :: rest ∨ script = before ∧ rest = [])

theorem Flushing.made {rest : List Flush} {after : Nat}
    (h : Flushing timeout calls script (.ok (), rest, after)) :
    ∃ made, after = calls + made ∧ Flushed timeout script rest made := by
  cases h with
  | @flushed before _ hscript hagain =>
      exact ⟨before.length + 1, Nat.add_assoc _ _ _, before, hagain, rfl, .inl hscript⟩
  | beyond hagain =>
      exact ⟨script.length + 1, Nat.add_assoc _ _ _, script, hagain, rfl, .inr ⟨rfl, rfl⟩⟩

end Flushing

-- ============================================================ one write

/-- The course of the write of a frame: its result, and the sink after it. -/
inductive Course (timeout : Option Nat) (frame : ByteArray) (sink : Sink) :
    Except TxError Unit → Sink → Prop where
  /-- A write call ends it, and the sink is not flushed. -/
  | cut {error : TxError} {accepted : ByteArray} {rest : List Write} {calls : Nat}
      (hpush : Pushing timeout frame sink.accepted sink.writeCalls sink.writes
        ⟨.error error, accepted, rest, calls⟩) :
      Course timeout frame sink (.error error)
        { sink with writes := rest, accepted := accepted, writeCalls := calls }
  /-- The whole frame is accepted, and then the sink is flushed. -/
  | sent {accepted : ByteArray} {rest : List Write} {calls : Nat} {result : Except TxError Unit}
      {flushes : List Flush} {flushCalls : Nat}
      (hpush : Pushing timeout frame sink.accepted sink.writeCalls sink.writes
        ⟨.ok (), accepted, rest, calls⟩)
      (hflush : Flushing timeout sink.flushCalls sink.flushes (result, flushes, flushCalls)) :
      Course timeout frame sink result
        { sink with
          writes := rest, accepted := accepted, writeCalls := calls
          flushes := flushes, flushCalls := flushCalls }

section Write

variable {config : TxConfig} {tx : Tx} {sink after : Sink} {result : Except TxError Unit}
  {frame : ByteArray}

/-- No frame is empty. -/
theorem size_pos_of_encode (hframe : Frame.encode tx config = .ok frame) : 0 < frame.size := by
  obtain ⟨-, -, rfl⟩ := Frame.encode_eq_ok_iff.mp hframe
  rw [Frame.size_bytes]
  exact Frame.wireSize_pos tx

theorem course_write (hframe : Frame.encode tx config = .ok frame) (sink : Sink) :
    Course config.writeTimeout frame sink (write config tx sink).1 (write config tx sink).2 := by
  have hpush := (push_eq_iff (size_pos_of_encode hframe)).mp (Eq.refl
    (push config.writeTimeout frame sink.accepted sink.writeCalls sink.writes))
  have hflush := flushCalls_eq_iff.mp (Eq.refl
    (flushCalls config.writeTimeout sink.flushCalls sink.flushes))
  unfold write flush
  rw [hframe]
  dsimp only
  generalize push config.writeTimeout frame sink.accepted sink.writeCalls sink.writes = pushed
    at hpush ⊢
  obtain ⟨pushResult, accepted, rest, calls⟩ := pushed
  cases pushResult with
  | error error => exact .cut hpush
  | ok _ => exact .sent hpush hflush

theorem write_of_course (hframe : Frame.encode tx config = .ok frame)
    (h : Course config.writeTimeout frame sink result after) :
    write config tx sink = (result, after) := by
  unfold write flush
  rw [hframe]
  cases h with
  | cut hpush =>
      dsimp only
      rw [push_of_pushing hpush]
  | sent hpush hflush =>
      dsimp only
      rw [push_of_pushing hpush]
      dsimp only
      rw [flushCalls_of_flushing hflush]

/-- What the write of a frame does is its course, and nothing else is. -/
theorem write_eq_iff (hframe : Frame.encode tx config = .ok frame) :
    write config tx sink = (result, after)
      ↔ Course config.writeTimeout frame sink result after := by
  constructor
  · intro h
    have hcourse := course_write hframe sink
    rw [h] at hcourse
    exact hcourse
  · exact write_of_course hframe

theorem Course.front (h : Course timeout frame sink result after) :
    ∃ count ≤ frame.size, after.accepted = sink.accepted ++ frame.extract 0 count := by
  cases h with
  | cut hpush => exact hpush.front
  | sent hpush _ => exact hpush.front

/-- A write succeeds when the sink has the whole frame, and a flush behind it has
succeeded, after calls that were made again. -/
theorem Course.whole (h : Course timeout frame sink (.ok ()) after) :
    after.accepted = sink.accepted ++ frame
      ∧ ∃ made, after.flushCalls = sink.flushCalls + made
        ∧ Flushed timeout sink.flushes after.flushes made := by
  cases h with
  | sent hpush hflush =>
      cases hpush with
      | filled | beyond => exact ⟨rfl, hflush.made⟩

theorem Course.kind_ne {cause : IoError}
    (h : Course timeout frame sink (.error (.io cause)) after) : cause.kind ≠ .interrupted := by
  cases h with
  | cut hpush =>
      cases hpush with
      | failed _ _ hfails => exact hfails.kind_ne
  | sent _ hflush =>
      cases hflush with
      | failed _ _ hfails => exact hfails.kind_ne

end Write

/-- One write, whatever its sink does. A refused transaction reaches the sink with no
call. A frame takes its course and no other; however that ends, the sink has
accepted a front of the frame, in order, and nothing else. The write succeeds
only with all of the frame and a flush that succeeds after it. An interruption is
never an answer; calls that fail are made again just when they were interrupted,
or stalled before the deadline. -/
theorem write_accounts (config : TxConfig) (tx : Tx) (sink : Sink) :
    (∀ error, Frame.encode tx config = .error error →
        write config tx sink = (.error error, sink))
      ∧ (∀ frame, Frame.encode tx config = .ok frame → ∀ result after,
          (write config tx sink = (result, after)
              ↔ Course config.writeTimeout frame sink result after)
            ∧ (write config tx sink = (result, after) →
                (∃ count ≤ frame.size, after.accepted = sink.accepted ++ frame.extract 0 count)
                  ∧ (result = .ok () → after.accepted = sink.accepted ++ frame
                      ∧ ∃ made, after.flushCalls = sink.flushCalls + made
                        ∧ Flushed config.writeTimeout sink.flushes after.flushes made)
                  ∧ ∀ cause, result = .error (.io cause) → cause.kind ≠ .interrupted))
      ∧ ∀ error waited, (Write.failed error waited).Harmless config.writeTimeout
          ↔ Again config.writeTimeout error waited := by
  refine ⟨?_, ?_, fun error waited => afterFailure_eq_ok_iff⟩
  · intro error hrefused
    rw [write, hrefused]
  · intro frame hframe result after
    refine ⟨write_eq_iff hframe, fun h => ?_⟩
    have hcourse := (write_eq_iff hframe).mp h
    refine ⟨hcourse.front, ?_, ?_⟩
    · rintro rfl
      exact hcourse.whole
    · rintro cause rfl
      exact hcourse.kind_ne

/-- An interruption, three bytes, a stall within the deadline and one past it. -/
theorem write_accounts_stalled :
    ∃ frame, Frame.encode (Tx.ofKind .login) { writeTimeout := some 10 } = .ok frame
      ∧ write { writeTimeout := some 10 } (Tx.ofKind .login)
          { writes := [.failed (.ofKind .interrupted) 0, .accept 3,
              .failed (.ofKind .wouldBlock) 9, .failed (.ofKind .timedOut) 10] }
        = (.error (.io ⟨.timedOut, "peer stopped reading"⟩),
            { writes := [], accepted := .empty ++ frame.extract 0 3, writeCalls := 4 }) := by
  have hw : Frame.Writable (Tx.ofKind .login) := ⟨by decide, by decide, rfl, nofun⟩
  have hin : Frame.Within { writeTimeout := some 10 } (Tx.ofKind .login) :=
    ⟨by decide, by decide⟩
  have hframe := Frame.encode_eq_ok_iff.mpr ⟨hin, hw, rfl⟩
  have hsize : 3 < (Frame.bytes (Tx.ofKind .login)).size := by
    rw [Frame.size_bytes]
    decide
  generalize Frame.bytes (Tx.ofKind .login) = frame at hframe hsize
  have hunder : Under (some 10) frame.size
      [.failed (.ofKind .interrupted) 0, .accept 3, .failed (.ofKind .wouldBlock) 9] := by
    refine ⟨?_, hsize⟩
    simp only [List.forall_mem_cons]
    exact ⟨rfl, Nat.zero_lt_succ 2, rfl, nofun⟩
  have hfails : Fails (some 10) (.ofKind .timedOut) 10 (.io ⟨.timedOut, "peer stopped reading"⟩) :=
    .stalled (.inr rfl) rfl (Nat.le_refl 10)
  have hpush := @Pushing.failed _ frame .empty 0 _ _ [] _ _ _ rfl hunder hfails
  exact ⟨frame, hframe, ((write_accounts _ _ _).2.1 frame hframe _ _).1.mpr (.cut hpush)⟩

end Writer

end CellSync
