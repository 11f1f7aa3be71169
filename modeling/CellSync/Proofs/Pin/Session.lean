/-
What a session has told, and what it will still tell.

Changes come to a session in three ways: recorded ones when it begins,
early ones that were published before, and live ones after. The same
change can come in more than one of them. `CaughtUp s seen` says that the
session has dealt with the changes `seen`: of those it tells nothing any
more (`emitAll_old`), and later ones it tells as they come, once each and
in order (`emitAll_new`). It needs that identifiers rise (`Rising`), for
the session remembers only the newest that it has told.
-/
import CellSync.Pin.Session
import CellSync.Proofs.Tid

namespace CellSync

-- ======================================================= rising changes

/-- Whether a change comes before another by its identifier. -/
def Tx.Precedes (a b : Tx) : Prop :=
  ∃ s t, a.info.tid = some s ∧ b.info.tid = some t ∧ s < t

/-- Changes with identifiers that rise. -/
structure Rising (txs : List Tx) : Prop where
  dated : ∀ tx ∈ txs, tx.info.tid.isSome
  ordered : txs.Pairwise Tx.Precedes

namespace Rising

/-- The first of rising changes rise. -/
theorem left {as bs : List Tx} (h : Rising (as ++ bs)) : Rising as :=
  ⟨fun tx hmem => h.dated tx (List.mem_append_left _ hmem), (List.pairwise_append.mp h.ordered).1⟩

/-- Of rising changes each precedes those after it. -/
theorem precedes {as bs : List Tx} (h : Rising (as ++ bs)) {a b : Tx} (ha : a ∈ as)
    (hb : b ∈ bs) : a.Precedes b := (List.pairwise_append.mp h.ordered).2.2 a ha b hb

/-- A front of rising changes rises. -/
theorem of_prefix {as bs : List Tx} (h : Rising bs) (hle : as <+: bs) : Rising as := by
  obtain ⟨rest, rfl⟩ := hle
  exact h.left

/-- So do some of them, in their order. -/
theorem of_sublist {as bs : List Tx} (h : Rising bs) (hle : as.Sublist bs) : Rising as :=
  ⟨fun tx hmem => h.dated tx (hle.subset hmem), h.ordered.sublist hle⟩

end Rising

namespace PinSession

variable {s : PinSession} {tx : Tx} {seen txs : List Tx}

-- ============================================================= telling

/-- Whether a session has something to tell of a change. -/
def concerns (s : PinSession) (tx : Tx) : Bool := !(s.filterOps tx).isEmpty

/-- What a session tells of some changes: the ops for it of those that have any. -/
def tell (s : PinSession) (txs : List Tx) : List Tx :=
  (txs.filter s.concerns).map fun tx => s.stateOf tx (s.filterOps tx)

/-- The same session with another newest identifier. -/
def reaching (s : PinSession) (newest : Option Tid) : PinSession := { s with newest := newest }

/-- What is told of changes, and then of others, is told in that order. -/
theorem tell_append (s : PinSession) (as bs : List Tx) :
    s.tell (as ++ bs) = s.tell as ++ s.tell bs := by
  rw [tell, List.filter_append, List.map_append]
  rfl

/-- What is told of a change is not a matter of how far a session has come. -/
theorem tell_reaching (s : PinSession) (newest : Option Tid) (txs : List Tx) :
    (s.reaching newest).tell txs = s.tell txs := rfl

/-- Old news is passed over. -/
theorem emit_of_stale (h : s.isStale tx = true) : s.emit tx = (s, []) := by
  rw [emit, h]
  rfl

/-- So is what has nothing for the session. -/
theorem emit_of_not_concerns (h : s.concerns tx = false) : s.emit tx = (s, []) := by
  have hempty : (s.filterOps tx).isEmpty = true := by
    rw [concerns, Bool.not_eq_false'] at h
    exact h
  unfold emit
  dsimp only
  rw [hempty, Bool.or_true]
  rfl

/-- News that concerns a session is told, and is then the newest. -/
theorem emit_of_concerns {tid : Tid} (hfresh : s.isStale tx = false) (h : s.concerns tx = true)
    (htid : tx.info.tid = some tid) :
    s.emit tx = (s.reaching (some tid), s.tell [tx]) := by
  have hops : (s.filterOps tx).isEmpty = false := by
    rw [concerns, Bool.not_eq_true'] at h
    exact h
  rw [tell, List.filter_cons_of_pos h]
  unfold emit
  dsimp only
  rw [hops, hfresh, htid]
  rfl

-- =========================================================== caught up

/-- A session that has dealt with some changes: it would tell none of them
again, and it has come no further than to the last of them. -/
structure CaughtUp (s : PinSession) (seen : List Tx) : Prop where
  covers : ∀ tx ∈ seen, s.concerns tx = true → s.isStale tx = true
  reached : ∀ tid, s.newest = some tid → ∃ tx ∈ seen, tx.info.tid = some tid

/-- A session that has told nothing has dealt with nothing. -/
theorem CaughtUp.start (h : s.newest = none) : CaughtUp s [] := by
  refine ⟨fun tx hmem => absurd hmem List.not_mem_nil, fun tid htid => ?_⟩
  rw [h] at htid
  cases htid

/-- A change that a session has dealt with tells nothing. -/
theorem emit_old (h : CaughtUp s seen) (hmem : tx ∈ seen) : s.emit tx = (s, []) := by
  cases hconcerns : s.concerns tx with
  | true => exact emit_of_stale (h.covers tx hmem hconcerns)
  | false => exact emit_of_not_concerns hconcerns

/-- A later change is no news to forget. -/
theorem not_isStale (h : CaughtUp s seen) (hrising : Rising (seen ++ [tx])) :
    s.isStale tx = false := by
  unfold isStale
  split
  next tid newest htid hnewest =>
    obtain ⟨last, hlast, hlastTid⟩ := h.reached newest hnewest
    obtain ⟨a, b, ha, hb, hlt⟩ := hrising.precedes hlast (List.mem_singleton_self tx)
    rw [hlastTid] at ha
    rw [htid] at hb
    injection ha with ha
    injection hb with hb
    rw [ha, hb]
    exact decide_eq_false (Nat.not_le.mpr hlt)
  · rfl

/-- A later change is told if it concerns the session. -/
theorem emit_new (h : CaughtUp s seen) (hrising : Rising (seen ++ [tx])) :
    ∃ newest, s.emit tx = (s.reaching newest, s.tell [tx])
      ∧ CaughtUp (s.reaching newest) (seen ++ [tx]) := by
  have hfresh := not_isStale h hrising
  cases hconcerns : s.concerns tx with
  | true =>
    obtain ⟨tid, htid⟩ := Option.isSome_iff_exists.mp
      (hrising.dated tx (List.mem_append_right _ (List.mem_singleton_self tx)))
    refine ⟨some tid, emit_of_concerns hfresh hconcerns htid, ?_, ?_⟩
    · -- Everything up to the new change is now at most as new as the newest.
      intro other hmem _
      have hle : ∃ t, other.info.tid = some t ∧ t ≤ tid := by
        rcases List.mem_append.mp hmem with hseen | hnew
        · obtain ⟨a, b, ha, hb, hlt⟩ := hrising.precedes hseen (List.mem_singleton_self tx)
          rw [htid] at hb
          injection hb with hb
          rw [← hb] at hlt
          exact ⟨a, ha, Nat.le_of_lt hlt⟩
        · rw [List.mem_singleton.mp hnew]
          exact ⟨tid, htid, Nat.le_refl _⟩
      obtain ⟨t, ht, hle⟩ := hle
      rw [isStale, ht]
      exact decide_eq_true hle
    · intro t ht
      injection ht with ht
      rw [← ht]
      exact ⟨tx, List.mem_append_right _ (List.mem_singleton_self tx), htid⟩
  | false =>
    refine ⟨s.newest, ?_, ?_, ?_⟩
    · have htell : s.tell [tx] = [] := by
        rw [tell, List.filter_cons_of_neg (by rw [hconcerns]; decide)]
        rfl
      rw [emit_of_not_concerns hconcerns, htell]
      rfl
    · intro other hmem hother
      rcases List.mem_append.mp hmem with hseen | hnew
      · exact h.covers other hseen hother
      · rw [List.mem_singleton.mp hnew] at hother
        exact absurd (hconcerns.symm.trans hother) (by decide)
    · intro t ht
      obtain ⟨last, hlast, hlastTid⟩ := h.reached t ht
      exact ⟨last, List.mem_append_left _ hlast, hlastTid⟩

-- ====================================================== changes in order

/-- Of changes in a row the first is emitted first. -/
theorem emitAll_cons (s : PinSession) (tx : Tx) (txs : List Tx) :
    s.emitAll (tx :: txs)
      = (((s.emit tx).1.emitAll txs).1, (s.emit tx).2 ++ ((s.emit tx).1.emitAll txs).2) := rfl

/-- Changes are emitted up to some point, and then from there on. -/
theorem emitAll_append (s : PinSession) (as bs : List Tx) :
    s.emitAll (as ++ bs)
      = (((s.emitAll as).1.emitAll bs).1, (s.emitAll as).2 ++ ((s.emitAll as).1.emitAll bs).2) := by
  induction as generalizing s with
  | nil => rfl
  | cons tx as ih =>
      rw [List.cons_append, emitAll_cons, ih, emitAll_cons, List.append_assoc]

/-- Changes that a session has dealt with tell nothing. -/
theorem emitAll_old (h : CaughtUp s seen) (hmem : ∀ tx ∈ txs, tx ∈ seen) :
    s.emitAll txs = (s, []) := by
  induction txs with
  | nil => rfl
  | cons tx txs ih =>
      obtain ⟨htx, hrest⟩ := List.forall_mem_cons.mp hmem
      rw [emitAll_cons, emit_old h htx, ih hrest]
      rfl

/-- Later changes are told as they come. -/
theorem emitAll_new (h : CaughtUp s seen) (hrising : Rising (seen ++ txs)) :
    ∃ newest, s.emitAll txs = (s.reaching newest, s.tell txs)
      ∧ CaughtUp (s.reaching newest) (seen ++ txs) := by
  induction txs generalizing s seen with
  | nil =>
      rw [List.append_nil]
      exact ⟨s.newest, rfl, h⟩
  | cons tx txs ih =>
      have hsplit : seen ++ tx :: txs = (seen ++ [tx]) ++ txs := by
        rw [List.append_assoc, List.singleton_append]
      rw [hsplit] at hrising ⊢
      obtain ⟨first, hemit, hcaught⟩ := emit_new h hrising.left
      obtain ⟨newest, hrest, hcaught'⟩ := ih hcaught hrising
      refine ⟨newest, ?_, hcaught'⟩
      rw [emitAll_cons, hemit, hrest, tell_reaching, ← tell_append, List.singleton_append]
      rfl

/-- Recorded changes and early ones overlap, since a change that is published
early may be recorded already when the recorded ones are looked up. Both
are taken from one rising list; what is told is the longer of the two,
once. -/
theorem emitAll_backlog {before early backlog all : List Tx} (hnew : s.newest = none)
    (hrising : Rising all) (hbefore : before <+: backlog) (hbacklog : backlog <+: all)
    (hearly : before ++ early <+: all) :
    ∃ told newest, s.emitAll (backlog ++ early) = (s.reaching newest, s.tell told)
      ∧ CaughtUp (s.reaching newest) told ∧ told <+: all
      ∧ backlog <+: told ∧ before ++ early <+: told := by
  obtain ⟨newest, hfirst, hcaught⟩ := emitAll_new (CaughtUp.start hnew)
    (show Rising ([] ++ backlog) from hrising.of_prefix hbacklog)
  rw [List.nil_append] at hcaught
  rw [emitAll_append, hfirst]
  obtain ⟨loaded, rfl⟩ := hbefore
  rcases List.prefix_or_prefix_of_prefix hbacklog hearly with hle | hle
  · -- Some early changes are newer than the lookup, and come after it.
    obtain ⟨later, hlater⟩ := hle
    have hsplit : early = loaded ++ later := by
      rw [List.append_assoc, List.append_right_inj] at hlater
      exact hlater.symm
    obtain ⟨newest', hrest, hcaught'⟩ := emitAll_new hcaught
      (show Rising ((before ++ loaded) ++ later) by rw [hlater]; exact hrising.of_prefix hearly)
    have hold : ((s.reaching newest).emitAll loaded) = (s.reaching newest, []) :=
      emitAll_old hcaught fun tx hmem => List.mem_append_right _ hmem
    refine ⟨(before ++ loaded) ++ later, newest', ?_, hcaught', ?_, List.prefix_append _ _, ?_⟩
    · dsimp only
      rw [hsplit, emitAll_append, hold]
      dsimp only
      rw [hrest, tell_reaching, List.nil_append, ← tell_append]
      rfl
    · rw [hlater]
      exact hearly
    · rewrite [hlater]
      exact List.prefix_refl _
  · -- The lookup has seen every early change.
    have hold : ((s.reaching newest).emitAll early) = (s.reaching newest, []) :=
      emitAll_old hcaught fun tx hmem => hle.subset (List.mem_append_right _ hmem)
    refine ⟨before ++ loaded, newest, ?_, hcaught, hbacklog, List.prefix_refl _, hle⟩
    dsimp only
    rw [hold, List.append_nil]

-- =============================================================== closing

theorem isClosed_iff : s.isClosed = true ↔ s.status = .closed := decide_eq_true_iff

/-- A session that is closed is over, whatever it was before. -/
theorem isClosed_close (s : PinSession) (code : ErrorCode) : (s.close code).1.isClosed = true := by
  unfold close
  split
  next hclosed => exact hclosed
  · rfl

/-- Closing a session again leaves it. -/
theorem close_close (s : PinSession) (code : ErrorCode) :
    ((s.close code).1.close code).1 = (s.close code).1 := by
  rw [close, if_pos (s.isClosed_close code)]

end PinSession

end CellSync
