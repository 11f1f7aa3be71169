/-
A session follows the commits to its cell, from its registration on.

`Follows` relates a session to all commits to its cell that are recorded
so far, of which the `pending` ones are still to be published to it, and
to what it has handed over. It goes through three stages: registered,
with the recorded commits loaded, and begun. Four lemmas say that it is
kept: when a commit is recorded, when the recorded commits are loaded,
when the session begins, and when a pending commit is published. They do
not say when each of these happens, so they hold in any order.
-/
import CellSync.Proofs.Pin.Session

namespace CellSync

namespace PinSession

variable {s t : PinSession} {tx : Tx} {all pending handed backlog told : List Tx}

-- ============================================================= identity

/-- Two states of one session: what a request has set is the same. -/
structure Alike (s t : PinSession) : Prop where
  contextId_eq : t.contextId = s.contextId
  cell_eq : t.cell = s.cell
  attrs_eq : t.attrs = s.attrs
  mode_eq : t.mode = s.mode

namespace Alike

theorem refl (s : PinSession) : Alike s s := ⟨rfl, rfl, rfl, rfl⟩

/-- Two states of a session, and a third: it is one session. -/
theorem trans {s t u : PinSession} (h : Alike s t) (h' : Alike t u) : Alike s u :=
  ⟨h'.contextId_eq.trans h.contextId_eq, h'.cell_eq.trans h.cell_eq,
    h'.attrs_eq.trans h.attrs_eq, h'.mode_eq.trans h.mode_eq⟩

end Alike

/-- How far a session has come is not a matter of its status. -/
theorem CaughtUp.withStatus (h : CaughtUp s told) (status : Status) :
    CaughtUp { s with status := status } told := ⟨h.covers, h.reached⟩

-- ====================================================== syncing messages

/-- The messages among some that tell changes. -/
def syncing (txs : List Tx) : List Tx := txs.filter fun tx => tx.info.status = .syncing

/-- The changes told in messages, and then in others. -/
theorem syncing_append (as bs : List Tx) : syncing (as ++ bs) = syncing as ++ syncing bs :=
  List.filter_append ..

/-- What a session tells of changes are changes. -/
theorem syncing_tell (s : PinSession) (txs : List Tx) : syncing (s.tell txs) = s.tell txs := by
  refine List.filter_eq_self.mpr fun tx hmem => ?_
  obtain ⟨change, -, rfl⟩ := List.mem_map.mp hmem
  rfl

-- ================================================================ steps

/-- A session that has not begun keeps what it is offered. -/
theorem publish_notStarted (h : s.status = .notStarted) :
    s.publish tx = ({ s with early := s.early ++ [tx] }, []) := by
  unfold publish
  rw [h]

/-- A session that is over takes no notice. -/
theorem publish_closed (h : s.status = .closed) : s.publish tx = (s, []) := by
  unfold publish
  rw [h]

/-- A change that a session has dealt with is passed over. -/
theorem publish_old (hstatus : s.status = .synced) (hmode : s.mode = .maintain)
    (hcaught : CaughtUp s told) (hmem : tx ∈ told) : s.publish tx = (s, []) := by
  unfold publish
  rw [hstatus]
  dsimp only
  rw [if_neg (by rw [hmode]; decide), emit_old (hcaught.withStatus .syncing) hmem]
  show ({ s with status := .synced }, []) = (s, [])
  rw [← hstatus]

/-- A later change is told, and then that the session is up to date. -/
theorem publish_new (hstatus : s.status = .synced) (hmode : s.mode = .maintain)
    (hcaught : CaughtUp s told) (hrising : Rising (told ++ [tx])) :
    ∃ newest rest, s.publish tx = (s.reaching newest, s.tell [tx] ++ rest)
      ∧ syncing rest = [] ∧ CaughtUp (s.reaching newest) (told ++ [tx]) := by
  obtain ⟨newest, hemit, hcaught'⟩ := emit_new (hcaught.withStatus .syncing) hrising
  have hreach : ({ s with status := .synced } : PinSession).reaching newest
      = s.reaching newest := by rw [← hstatus]
  have htell : ({ s with status := .syncing } : PinSession).tell [tx] = s.tell [tx] := rfl
  rw [htell] at hemit
  unfold publish
  rw [hstatus]
  dsimp only
  rw [if_neg (by rw [hmode]; decide), hemit]
  dsimp only
  cases hempty : (s.tell [tx]).isEmpty with
  | true =>
      refine ⟨newest, [], ?_, rfl, ⟨hcaught'.covers, hcaught'.reached⟩⟩
      rw [if_pos rfl, List.isEmpty_iff.mp hempty]
      exact congrArg (·, []) hreach
  | false =>
      refine ⟨newest, [s.statusOf .synced .nil], ?_, rfl, ⟨hcaught'.covers, hcaught'.reached⟩⟩
      rw [if_neg (by decide)]
      unfold settle
      dsimp only
      rw [if_neg (by
        show ¬s.mode = .closeOnSync
        rw [hmode]
        decide)]
      exact congrArg (·, s.tell [tx] ++ [s.statusOf .synced .nil]) hreach

-- ================================================ what a step leaves be

/-- An emitted change leaves what the request has set. -/
theorem alike_emit (s : PinSession) (tx : Tx) : Alike s (s.emit tx).1 := by
  unfold emit
  dsimp only
  split
  · exact .refl s
  · exact ⟨rfl, rfl, rfl, rfl⟩

/-- So do changes in a row. -/
theorem alike_emitAll (s : PinSession) (txs : List Tx) : Alike s (s.emitAll txs).1 := by
  induction txs generalizing s with
  | nil => exact .refl s
  | cons tx txs ih => exact (alike_emit s tx).trans (ih _)

/-- So does settling. -/
theorem alike_settle (s : PinSession) : Alike s s.settle.1 := by
  unfold settle
  dsimp only
  split <;> exact ⟨rfl, rfl, rfl, rfl⟩

theorem alike_withStatus (s : PinSession) (status : Status) :
    Alike s { s with status := status } := ⟨rfl, rfl, rfl, rfl⟩

/-- So does an offer, whatever becomes of it. -/
theorem alike_publish (s : PinSession) (tx : Tx) : Alike s (s.publish tx).1 := by
  have hemit := (alike_withStatus s .syncing).trans (alike_emit { s with status := .syncing } tx)
  unfold publish
  split
  · exact .refl s
  · exact ⟨rfl, rfl, rfl, rfl⟩
  -- While it syncs and while it is synced, a session does the same.
  all_goals
    split
    · exact .refl s
    · dsimp only
      split
      · exact hemit.trans (alike_withStatus _ _)
      · exact hemit.trans (alike_settle _)

/-- So does beginning. -/
theorem alike_begin (s : PinSession) (backlog : List Tx) : Alike s (s.begin backlog).1 := by
  unfold begin
  split
  · exact .refl s
  · split
    · exact ⟨rfl, rfl, rfl, rfl⟩
    · have hstart : Alike s { s with status := .syncing, early := [] } := ⟨rfl, rfl, rfl, rfl⟩
      exact (hstart.trans (alike_emitAll _ _)).trans (alike_settle _)

-- ============================================================ following

/-- How far a session has come. -/
inductive Stage where
  /-- It is registered. -/
  | waiting
  /-- The commits recorded so far have been loaded for it. -/
  | loaded (backlog : List Tx)
  /-- It was started with them. -/
  | begun (backlog : List Tx)

/-- The commits that were loaded. -/
def Stage.backlog? : Stage → Option (List Tx)
  | waiting => none
  | loaded backlog | begun backlog => some backlog

/-- What holds of a session while `all` commits to its cell are recorded, of which
those in `pending` are still to be published to it, and once it has
`handed` over messages. Before it begins, all commits but the pending
ones are either older than its registration or waiting in the session.
After, they are told up to some point, and what lies behind it is pending. -/
def Follows (s : PinSession) (all pending handed : List Tx) : Stage → Prop
  | .waiting => s.status = .notStarted ∧ s.newest = none ∧ handed = []
      ∧ ∃ before, all = before ++ (s.early ++ pending)
  | .loaded backlog => s.status = .notStarted ∧ s.newest = none ∧ handed = []
      ∧ backlog <+: all ∧ ∃ before, before <+: backlog ∧ all = before ++ (s.early ++ pending)
  | .begun backlog =>
    match s.mode with
    | .none => s.status = .closed
    | .closeOnSync => s.status = .closed
        ∧ ∃ told, syncing handed = s.tell told ∧ told <+: all ∧ backlog <+: told
    | .maintain => s.status = .synced
        ∧ ∃ told later, syncing handed = s.tell told ∧ CaughtUp s told
          ∧ all = told ++ later ∧ later <:+ pending

/-- To a closed session it makes no difference what is pending. -/
theorem follows_of_closed {stage : Stage} (hclosed : s.status = .closed) (pending' : List Tx)
    (h : Follows s all pending handed stage) : Follows s all pending' handed stage := by
  cases stage with
  | waiting => exact absurd (hclosed.symm.trans h.1) (by decide)
  | loaded backlog => exact absurd (hclosed.symm.trans h.1) (by decide)
  | begun backlog =>
      unfold Follows at h ⊢
      dsimp only at h ⊢
      split at h
      · exact h
      · exact h
      · exact absurd (hclosed.symm.trans h.1) (by decide)

/-- A session is registered while a commit may be on its way to it. -/
theorem follows_start (hstatus : s.status = .notStarted) (hnewest : s.newest = none)
    (hearly : s.early = []) (hpending : pending <:+ all) : Follows s all pending [] .waiting := by
  obtain ⟨before, rfl⟩ := hpending
  refine ⟨hstatus, hnewest, rfl, before, ?_⟩
  rw [hearly, List.nil_append]

/-- A commit is recorded, and is then to be published. -/
theorem follows_record {stage : Stage} (more : List Tx) (h : Follows s all [] handed stage) :
    Follows s (all ++ more) more handed stage := by
  cases stage with
  | waiting =>
      obtain ⟨hstatus, hnewest, hhanded, before, rfl⟩ := h
      refine ⟨hstatus, hnewest, hhanded, before, ?_⟩
      rw [List.append_nil, List.append_assoc]
  | loaded backlog =>
      obtain ⟨hstatus, hnewest, hhanded, hbacklog, before, hbefore, rfl⟩ := h
      refine ⟨hstatus, hnewest, hhanded, hbacklog.trans (List.prefix_append _ _), before, hbefore,
        ?_⟩
      rw [List.append_nil, List.append_assoc]
  | begun backlog =>
      unfold Follows at h ⊢
      dsimp only at h ⊢
      split at h
      · exact h
      · obtain ⟨hstatus, told, hhanded, htold, hbacklog⟩ := h
        exact ⟨hstatus, told, hhanded, htold.trans (List.prefix_append _ _), hbacklog⟩
      · obtain ⟨hstatus, told, later, hhanded, hcaught, rfl, hlater⟩ := h
        refine ⟨hstatus, told, more, hhanded, hcaught, ?_, List.suffix_refl _⟩
        rw [List.suffix_nil.mp hlater, List.append_nil]

/-- The commits recorded so far are loaded. -/
theorem follows_load (h : Follows s all pending handed .waiting) :
    Follows s all pending handed (.loaded all) := by
  obtain ⟨hstatus, hnewest, hhanded, before, hall⟩ := h
  refine ⟨hstatus, hnewest, hhanded, List.prefix_refl _, before, ?_, hall⟩
  rw [hall]
  exact List.prefix_append _ _

/-- The session begins. -/
theorem follows_begin (hrising : Rising all) (h : Follows s all pending handed (.loaded backlog)) :
    Follows (s.begin backlog).1 all pending (handed ++ (s.begin backlog).2) (.begun backlog) := by
  obtain ⟨hstatus, hnewest, rfl, hbacklog, before, hbefore, hall⟩ := h
  have hearly : before ++ s.early <+: all := by
    rw [hall, ← List.append_assoc]
    exact List.prefix_append _ _
  obtain ⟨told, newest, hemit, hcaught, htold, hbacklog', hearly'⟩ :=
    emitAll_backlog (s := { s with status := .syncing, early := [] }) hnewest hrising hbefore
      hbacklog hearly
  unfold begin
  rw [if_neg (Decidable.not_not.mpr hstatus), List.nil_append]
  by_cases hnone : s.mode = .none
  · rw [if_pos hnone]
    unfold Follows finish
    dsimp only
    rw [hnone]
  rw [if_neg hnone, hemit]
  unfold Follows settle reaching finish
  dsimp only
  cases hmode : s.mode with
  | none => exact absurd hmode hnone
  | closeOnSync =>
      rw [if_pos rfl]
      dsimp only
      refine ⟨rfl, told, ?_, htold, hbacklog'⟩
      rw [syncing_append, syncing_tell]
      exact List.append_nil _
  | maintain =>
      rw [if_neg (by decide)]
      dsimp only
      obtain ⟨later, hlater⟩ := htold
      refine ⟨rfl, told, later, ?_, ⟨hcaught.covers, hcaught.reached⟩, hlater.symm, ?_⟩
      · rw [syncing_append, syncing_tell]
        exact List.append_nil _
      · -- Both ways of cutting all commits leave the later ones at the end.
        obtain ⟨rest, hrest⟩ := hearly'
        refine ⟨rest, ?_⟩
        rw [← hlater, ← hrest, List.append_assoc, List.append_assoc, List.append_right_inj,
          List.append_right_inj] at hall
        exact hall

/-- A pending commit is published. -/
theorem follows_publish {stage : Stage} (hrising : Rising all) (hmem : tx ∈ all)
    (h : Follows s all [tx] handed stage) :
    Follows (s.publish tx).1 all [] (handed ++ (s.publish tx).2) stage := by
  cases stage with
  | waiting =>
      obtain ⟨hstatus, hnewest, rfl, before, hall⟩ := h
      rw [publish_notStarted hstatus]
      refine ⟨hstatus, hnewest, rfl, before, ?_⟩
      rw [List.append_nil]
      exact hall
  | loaded backlog =>
      obtain ⟨hstatus, hnewest, rfl, hbacklog, before, hbefore, hall⟩ := h
      rw [publish_notStarted hstatus]
      refine ⟨hstatus, hnewest, rfl, hbacklog, before, hbefore, ?_⟩
      rw [List.append_nil]
      exact hall
  | begun backlog =>
      unfold Follows at h
      dsimp only at h
      split at h
      next hmode =>
        rw [publish_closed h]
        unfold Follows
        dsimp only
        rw [hmode]
        exact h
      next hmode =>
        obtain ⟨hstatus, hrest⟩ := h
        rw [publish_closed hstatus, List.append_nil]
        unfold Follows
        dsimp only
        rw [hmode]
        exact ⟨hstatus, hrest⟩
      next hmode =>
        obtain ⟨hstatus, told, later, hhanded, hcaught, hall, hlater⟩ := h
        rcases List.suffix_cons_iff.mp hlater with hnews | hnone
        · -- The commit is the one that is missing.
          subst hnews
          obtain ⟨newest, rest, hpublish, hsilent, hcaught'⟩ :=
            publish_new hstatus hmode hcaught (hall ▸ hrising)
          rw [hpublish]
          unfold Follows reaching
          dsimp only
          rw [hmode]
          refine ⟨hstatus, all, [], ?_, ?_, (List.append_nil _).symm, List.suffix_refl _⟩
          · rw [syncing_append, syncing_append, hhanded, hsilent, syncing_tell, List.append_nil,
              ← tell_append, ← hall]
            rfl
          · rw [hall]
            exact ⟨hcaught'.covers, hcaught'.reached⟩
        · -- The session has told it already.
          rw [List.suffix_nil.mp hnone, List.append_nil] at hall
          rw [hall] at hmem
          rw [publish_old hstatus hmode hcaught hmem, List.append_nil]
          unfold Follows
          dsimp only
          rw [hmode]
          exact ⟨hstatus, told, [], hhanded, hcaught, by rw [List.append_nil]; exact hall,
            List.suffix_refl _⟩

end PinSession

end CellSync
