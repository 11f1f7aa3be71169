/-
The identifiers of a host's commits rise from call to call.

A host remembers the identifier of its last commit, and a commit that is
accepted takes one greater than that (`Tid.Outcome`); one that is refused
leaves what the host remembers. So the identifiers handed out rise for
any clock readings, also for ones that stall, repeat or step back, and
whatever is committed. They rise as numbers, as bytes and as texts.
-/
import CellSync.Proofs.Host.Ledger

namespace CellSync

namespace Host

variable {ρ σ : Type}

-- ========================================================= many commits

/-- A call that makes a commit, and what the clock reads then. -/
structure Committing where
  clock : ClockTime
  who : Login.Checkpoint
  tx : Tx

/-- Makes commits one after another, and lists what each call is answered. -/
def commitAll (h : Host ρ σ) : List Committing → List (Except SessionError Tid) × Host ρ σ
  | [] => ([], h)
  | call :: calls =>
    let (answer, h) := h.commit call.clock call.who call.tx
    let (answers, h) := commitAll h calls
    (answer :: answers, h)

/-- The identifiers that commits made one after another get. -/
def handedOut (h : Host ρ σ) (calls : List Committing) : List Tid :=
  (h.commitAll calls).1.filterMap Except.toOption

/-- An accepted commit gets the next identifier, which the host remembers; a
refused one changes nothing. -/
theorem commit_cases (h : Host ρ σ) (clock : ClockTime) (who : Login.Checkpoint) (tx : Tx) :
    (∃ error, h.commit clock who tx = (.error error, h))
      ∨ ∃ content tid h', Tid.successor h.last clock content = .ok tid
          ∧ h.commit clock who tx = (.ok tid, h') ∧ h'.last = some tid := by
  unfold commit
  split
  next error _ => exact .inl ⟨error, rfl⟩
  next _ =>
    split
    next error _ => exact .inl ⟨error, rfl⟩
    next tx' tid h' hrecord =>
      obtain ⟨content, directory, -, htid, -, -, rfl⟩ := recordCommit_eq_ok hrecord
      exact .inr ⟨content, tid, _, htid, rfl, rfl⟩

theorem handedOut_cons_error {h : Host ρ σ} {call : Committing} {error : SessionError}
    (hcommit : h.commit call.clock call.who call.tx = (.error error, h))
    (calls : List Committing) : h.handedOut (call :: calls) = h.handedOut calls := by
  rw [handedOut, commitAll, hcommit]
  rfl

theorem handedOut_cons_ok {h h' : Host ρ σ} {call : Committing} {tid : Tid}
    (hcommit : h.commit call.clock call.who call.tx = (.ok tid, h'))
    (calls : List Committing) : h.handedOut (call :: calls) = tid :: h'.handedOut calls := by
  rw [handedOut, commitAll, hcommit]
  rfl

/-- Identifiers handed out rise, and are greater than the last one before. -/
theorem lt_of_handedOut (h : Host ρ σ) (calls : List Committing) :
    (h.handedOut calls).Pairwise (· < ·)
      ∧ ∀ prev, h.last = some prev → ∀ tid ∈ h.handedOut calls, prev < tid := by
  induction calls generalizing h with
  | nil => simp [handedOut, commitAll]
  | cons call calls ih =>
      rcases commit_cases h call.clock call.who call.tx with
        ⟨error, hcommit⟩ | ⟨content, tid, h', htid, hcommit, hlast⟩
      · rw [handedOut_cons_error hcommit]
        exact ih h
      · obtain ⟨hrising, hlater⟩ := ih h'
        rw [handedOut_cons_ok hcommit]
        refine ⟨List.pairwise_cons.mpr ⟨hlater tid hlast, hrising⟩, ?_⟩
        intro prev hprev other hmem
        rw [hprev] at htid
        have hlt : prev < tid := Tid.lt_of_successor htid
        rcases List.mem_cons.mp hmem with rfl | hrest
        · exact hlt
        · exact Nat.lt_trans hlt (hlater tid hlast other hrest)

/-- The identifiers that a host hands out sort strictly upwards, for every run of
commits and every sequence of clock readings. Each is that of the clock
reading itself or, where this is not greater than the last identifier, stands
exactly one tick after it; none can be made only if the clock is before the
epoch, or if the second that is needed does not fit in 48 bits. -/
theorem handedOut_sorts (h : Host ρ σ) (calls : List Committing) :
    (h.handedOut calls).Pairwise Tid.SortsBelow
      ∧ (∀ prev, h.last = some prev → ∀ tid ∈ h.handedOut calls, prev.SortsBelow tid)
      ∧ ∀ (last : Option Tid) (clock : ClockTime) (content : ByteArray),
          Tid.Outcome last clock content (Tid.successor last clock content)
            ∧ ∀ prev t, last = some prev → Tid.successor last clock content = .ok t →
                prev.SortsBelow t := by
  obtain ⟨hrising, hlater⟩ := lt_of_handedOut h calls
  refine ⟨hrising.imp Tid.sortsBelow_of_lt, ?_, ?_⟩
  · intro prev hprev tid hmem
    exact Tid.sortsBelow_of_lt (hlater prev hprev tid hmem)
  · intro last clock content
    refine ⟨Tid.outcome_successor last clock content, ?_⟩
    rintro prev t rfl hsuccessor
    exact Tid.sortsBelow_of_lt (Tid.lt_of_successor hsuccessor)

end Host

end CellSync
