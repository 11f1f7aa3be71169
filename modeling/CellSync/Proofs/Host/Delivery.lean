/-
Nothing that is committed to a pinned cell is lost, told twice or told
out of order, however a pin being opened and commits come between each
other.

Every run keeps `World.Inv`, so when all calls have returned the session
has told the commits to its cell up to a point behind which nothing is
on its way to it any more. What it tells of one is in `Tells`: its ops
for the session, its identifier, and the values that the ops refer to.

The commits meant are those with an op for the cell. An op without a
target passes every filter, so a commit to other cells only can have ops
that the session would see; it is not recorded for the cell and is not
offered to its sessions.

The steps are those of the operations: `run_openPin` and `run_commit`
put them together again.
-/
import Mathlib.Data.List.Forall2
import CellSync.Proofs.Host.Interleaving

namespace CellSync

namespace World

variable {σ : Type}

-- ================================================================ values

/-- A message tells a session of a commit: the ops for the session, under the
identifier of the commit, and with each op the value that was committed. -/
structure Tells (s : PinSession) (out tx : Tx) : Prop where
  info_eq : out.info = ⟨.state, tx.info.tid, s.contextId, .syncing, .nil⟩
  ops_eq : out.ops = s.filterOps tx
  dated : tx.info.tid.isSome
  values : ∀ op ∈ out.ops, ∀ r, op.value? = some r →
    ∃ value, tx.value? r = some value ∧ out.value? r = some value

/-- Whether a commit is for the cell of a session and has ops for the session. -/
def wanted (s : PinSession) (tx : Tx) : Bool := s.concerns tx && decide (s.cell ∈ tx.targets)

theorem filter_commitsTo (s : PinSession) (txs : List Tx) :
    (commitsTo s.cell txs).filter s.concerns = txs.filter (wanted s) := List.filter_filter

theorem tells_stateOf {h : Host Directory σ} {history : List Tx} (hledger : h.Ledger history)
    (s : PinSession) {tx : Tx} (hmem : tx ∈ history) :
    Tells s (s.stateOf tx (s.filterOps tx)) tx := by
  refine ⟨rfl, rfl, hledger.rising.dated tx hmem, fun op hop r hr => ?_⟩
  have hop : op ∈ tx.ops := (List.mem_filter.mp hop).1
  obtain ⟨value, hvalue⟩ := Option.isSome_iff_exists.mp (hledger.valued tx hmem op hop r hr)
  exact ⟨value, hvalue, hvalue⟩

/-- What a session tells of recorded commits, one by one. -/
theorem forall₂_tell {h : Host Directory σ} {history : List Tx} (hledger : h.Ledger history)
    (s : PinSession) {txs : List Tx} (hsub : ∀ tx ∈ txs, tx ∈ history) :
    List.Forall₂ (Tells s) (s.tell txs) (txs.filter s.concerns) := by
  rw [PinSession.tell, List.forall₂_map_left_iff, List.forall₂_same]
  intro tx hmem
  exact tells_stateOf hledger s (hsub tx (List.mem_filter.mp hmem).1)

-- ==================================================== when calls return

/-- What has been told when all calls have returned: everything, if the pin stays
open, and else everything up to some point. -/
theorem Inv.told {ask : Asking} {w : World σ} (h : Inv ask w) {id : PinId} {backlog : List Tx}
    (hopened : w.opening = .opened id backlog) (hfree : w.turn = .free) :
    ∃ p, w.host.hub.pin? id = some p ∧ Granted ask p.session
      ∧ (p.session.mode = .maintain → p.session.status = .synced
          ∧ PinSession.syncing w.handed = p.session.tell (commitsTo p.session.cell w.history))
      ∧ (p.session.mode = .closeOnSync →
          ∃ told, PinSession.syncing w.handed = p.session.tell told
            ∧ told <+: commitsTo p.session.cell w.history
            ∧ commitsTo p.session.cell w.seen <+: told) := by
  obtain ⟨p, htracks⟩ := h.tracks id (.begun backlog) (by rw [hopened]; rfl)
  have hfollows := htracks.follows
  have hbacklog := htracks.backlog_eq backlog rfl
  rw [hfree] at hfollows
  refine ⟨p, htracks.found, htracks.granted, fun hmode => ?_, fun hmode => ?_⟩
  · unfold PinSession.Follows at hfollows
    rw [hmode] at hfollows
    obtain ⟨hstatus, told, later, hhanded, -, hall, hlater⟩ := hfollows
    -- Nothing is pending, so nothing is missing.
    have hnone : later = [] := List.suffix_nil.mp hlater
    rw [hnone, List.append_nil] at hall
    rw [hhanded, hall]
    exact ⟨hstatus, rfl⟩
  · unfold PinSession.Follows at hfollows
    rw [hmode] at hfollows
    obtain ⟨-, told, hhanded, htold, hle⟩ := hfollows
    rw [hbacklog] at hle
    exact ⟨told, hhanded, htold, hle⟩

-- ================================================= the operations themselves

theorem Run.trans {ask : Asking} {w w' w'' : World σ} (h : Run ask w w') (h' : Run ask w' w'') :
    Run ask w w'' := by
  induction h' with
  | refl => exact h
  | step _ hstep ih => exact ih.step hstep

theorem Run.one {ask : Asking} {w w' : World σ} (h : Step ask w w') : Run ask w w' :=
  (Run.refl w).step h

/-- Opening a pin is a run of its steps with nothing between them. -/
theorem run_openPin {ask : Asking} {h h' : Host Directory σ} {history : List Tx} {id : PinId}
    (hopen : h.openPin ask.box ask.who ask.contextId ask.request = (.ok id, h')) :
    ∃ cell backlog w, Run { ask with cell := cell } { host := h, history := history } w
      ∧ w.host = h' ∧ w.opening = .opened id backlog ∧ w.turn = .free ∧ w.history = history := by
  unfold Host.openPin at hopen
  split at hopen
  · injection hopen with hopen
    cases hopen
  next session hscreen =>
    dsimp only at hopen
    injection hopen with hid hhost
    injection hid with hid
    subst hid hhost
    have hrun : Run { ask with cell := session.cell } { host := h, history := history } _ :=
      ((((Run.one (.screen rfl hscreen rfl)).step (.enroll rfl)).step (.load rfl)).step
        (.begin rfl)).step (.tidy rfl)
    exact ⟨session.cell, _, _, hrun, rfl, rfl, rfl, rfl⟩

theorem run_offers (ask : Asking) {w : World σ} {tx : Tx} {ids : List PinId}
    (hturn : w.turn = .offering tx ids) :
    ∃ w', Run ask w w' ∧ w'.host = w.host.mapHub (fun hub => ids.foldl (Hub.offer tx) hub)
      ∧ w'.opening = w.opening ∧ w'.turn = .free ∧ w'.history = w.history := by
  induction ids generalizing w with
  | nil => exact ⟨_, .one (.release hturn), rfl, rfl, rfl, rfl⟩
  | cons id ids ih =>
      obtain ⟨w', hrun, hhost, hopening, hfree, hhistory⟩ := ih (w := { w with
        host := w.host.mapHub (·.offer tx id)
        handed := w.handed ++
          if w.opening.id? = some id then w.host.hub.emits id (·.publish tx) else []
        turn := .offering tx ids }) rfl
      exact ⟨w', (Run.one (.offer hturn)).trans hrun, hhost, hopening, hfree, hhistory⟩

/-- Making a commit is a run of its steps with nothing between them. -/
theorem run_commit (ask : Asking) {w : World σ} (hfree : w.turn = .free) {clock : ClockTime}
    {who : Login.Checkpoint} {tx : Tx} {tid : Tid} {h' : Host Directory σ}
    (hcommit : w.host.commit clock who tx = (.ok tid, h')) :
    ∃ w', Run ask w w' ∧ w'.host = h' ∧ w'.opening = w.opening ∧ w'.turn = .free
      ∧ w'.history = w.history ++ [tx.withTid (some tid)] := by
  unfold Host.commit at hcommit
  split at hcommit
  · injection hcommit with hcommit
    cases hcommit
  next hcheck =>
    split at hcommit
    · injection hcommit with hcommit
      cases hcommit
    next tx' tid' host hrecord =>
      injection hcommit with htid hhost
      injection htid with htid
      subst htid hhost
      obtain ⟨_, _, -, -, htx, -, -⟩ := Host.recordCommit_eq_ok hrecord
      have hrecorded : Run ask w _ := Run.one (.record hfree hcheck hrecord)
      obtain ⟨w', hrun, hhost, hopening, hfree', hhistory⟩ := run_offers ask (w := { w with
        host := host
        history := w.history ++ [tx']
        turn := .offering tx' (host.hub.snapshot tx') }) rfl
      refine ⟨w', (hrecorded.step (.snapshot rfl)).trans hrun, hhost, hopening, hfree', ?_⟩
      rw [hhistory, htx]

-- ============================================================== an example

/-- Somebody who opens a pin. -/
def someone : Login.Checkpoint := ⟨"token", "session", "member", "feed", "user"⟩

/-- A host with one cell, under a URL. -/
def small : Host Directory Login.CheckpointTable where
  resolver := Directory.resolver
  directory := Directory.addUrl {} "amp://c" (.ofWord 1)
  verifier := ({} : Login.Credentials).verifier
  store := Login.CheckpointTable.store
  checkpoints := {}

/-- A call that opens a pin on the cell. -/
def asking : Asking := ⟨0, someone, 7, ⟨.url "amp://c", [], .maintain⟩, .ofWord 1⟩

theorem small_reachable : small.Reachable [] :=
  .addUrl (.start (h := { small with directory := {} }) ⟨rfl, rfl, rfl, rfl⟩) "amp://c" (.ofWord 1)

/-- A commit is made while the request is looked at, and the pin is opened then. -/
theorem exists_run (tx : Tx) (hcheck : small.checkCommit someone tx = .ok ())
    (hin : Frame.Within {} tx) (hw : Frame.Writable (tx.withTid none)) :
    ∃ w tid backlog, Run asking { host := small, history := [] } w
      ∧ w.opening = .opened 0 backlog ∧ w.turn = .free
      ∧ w.history = [tx.withTid (some tid)] := by
  obtain ⟨tid, htid⟩ := Tid.exists_successor (Frame.bytes (tx.withTid none))
  have hrecord := Host.recordCommit_of_writable (h := small) rfl hin hw htid
  have hscreen : small.screen someone 7 asking.request
      = .ok ⟨7, .ofWord 1, [], .maintain, .notStarted, .nil, none, []⟩ := rfl
  have hnobody : Hub.snapshot {} (tx.withTid (some tid)) = [] := by
    show (tx.withTid (some tid)).targets.flatMap (fun _ => []) = []
    exact List.flatMap_eq_nil_iff.mpr fun _ _ => rfl
  have hscreened : Run asking { host := small, history := [] } _ :=
    .one (.screen rfl hscreen rfl)
  have hoffering := (hscreened.step (.record rfl hcheck hrecord)).step (.snapshot rfl)
  have hreleased := hoffering.step (.release (congrArg _ hnobody))
  have hopened := (((hreleased.step (.enroll rfl)).step (.load rfl)).step (.begin rfl)).step
    (.tidy rfl)
  exact ⟨_, tid, _, hopened, rfl, rfl, rfl⟩

/-- The pin stays open. -/
theorem status_of_run {w : World Login.CheckpointTable} {backlog : List Tx} {p : Pinned}
    (hrun : Run asking { host := small, history := [] } w)
    (hopened : w.opening = .opened 0 backlog) (hfree : w.turn = .free)
    (hfound : w.host.hub.pin? 0 = some p) : p.session.status ≠ .closed := by
  obtain ⟨q, hfound', hgranted, hstatus, -⟩ := ((Inv.start asking small_reachable).run hrun).told
    hopened hfree
  have hsame := Option.some.inj (hfound.symm.trans hfound')
  rw [hsame, (hstatus hgranted.mode_eq).1]
  decide

/-- A commit that sets an attribute of the pinned cell to a text. -/
def greeting : Tx :=
  { Tx.ofKind .commit with
    ops := [.upsertAttr (.ofWord 1) (.ofWord 3) (.ofWord 4) 5 ⟨0, 2⟩]
    data := ⟨#[104, 105]⟩ }

/-- A commit with an op without a target, and one for a cell that is not pinned. -/
def elsewhere : Tx :=
  { Tx.ofKind .commit with ops := [.noOp, .deleteCell (.ofWord 2)] }

-- ============================================================== delivery

/-- A pin is opened on a host in any state that it can get to, while commits are
made, in any order of their steps. When all calls have returned, an open
`maintain` pin has been told of every recorded commit that is for its cell and
has ops for it, each once, in the order in which they were recorded; a
`closeOnSync` pin of the first of these, among them all that were recorded
before its backlog was loaded. -/
theorem told_of_run {ask : Asking} {h : Host Directory σ} {history : List Tx} {w : World σ}
    {id : PinId} {backlog : List Tx} (hreach : h.Reachable history)
    (hrun : Run ask { host := h, history := history } w)
    (hopened : w.opening = .opened id backlog) (hfree : w.turn = .free) :
    ∃ p, w.host.hub.pin? id = some p ∧ Granted ask p.session
      ∧ w.history.Pairwise Tx.Precedes
      ∧ (p.session.mode = .maintain → p.session.status ≠ .closed →
          List.Forall₂ (Tells p.session) (PinSession.syncing w.handed)
            (w.history.filter (wanted p.session)))
      ∧ (p.session.mode = .closeOnSync →
          ∃ first, first <+: w.history.filter (wanted p.session)
            ∧ w.seen.filter (wanted p.session) <+: first
            ∧ List.Forall₂ (Tells p.session) (PinSession.syncing w.handed) first) := by
  have hinv := (Inv.start ask hreach).run hrun
  obtain ⟨p, hfound, hgranted, hmaintain, hclose⟩ := hinv.told hopened hfree
  refine ⟨p, hfound, hgranted, hinv.ledger.rising.ordered, fun hmode _ => ?_, fun hmode => ?_⟩
  · rw [(hmaintain hmode).2, ← filter_commitsTo]
    exact forall₂_tell hinv.ledger p.session fun tx hmem => (List.mem_filter.mp hmem).1
  · obtain ⟨told, hhanded, htold, hle⟩ := hclose hmode
    refine ⟨told.filter p.session.concerns, ?_, ?_, ?_⟩
    · rw [← filter_commitsTo]
      exact htold.filter _
    · rw [← filter_commitsTo]
      exact hle.filter _
    · rw [hhanded]
      refine forall₂_tell hinv.ledger p.session fun tx hmem => ?_
      exact (List.mem_filter.mp (htold.subset hmem)).1

theorem told_of_run_greeting : ∃ w tid p out, Run asking { host := small, history := [] } w
    ∧ w.turn = .free ∧ w.history = [greeting.withTid (some tid)] ∧ w.host.hub.pin? 0 = some p
    ∧ PinSession.syncing w.handed = [out]
    ∧ Tells p.session out (greeting.withTid (some tid)) := by
  obtain ⟨w, tid, backlog, hrun, hopened, hfree, hhistory⟩ := exists_run greeting (by rfl)
    ⟨by decide, by decide⟩ ⟨by decide, by decide, by decide, by decide⟩
  obtain ⟨p, hfound, hgranted, -, htold, -⟩ := told_of_run small_reachable hrun hopened hfree
  have hopen := status_of_run hrun hopened hfree hfound
  have hfor : wanted p.session (greeting.withTid (some tid)) = true := by
    show wanted p.session greeting = true
    unfold wanted PinSession.concerns PinSession.filterOps PinSession.wants
    rw [hgranted.cell_eq, hgranted.attrs_eq, Bool.and_eq_true, decide_eq_true_eq, Tx.mem_targets]
    exact ⟨by decide, by decide⟩
  have hall := htold hgranted.mode_eq hopen
  rw [hhistory, List.filter_cons_of_pos hfor] at hall
  obtain ⟨out, rest, hout, hrest, hhanded⟩ := List.forall₂_cons_right_iff.mp hall
  rw [List.forall₂_nil_right_iff.mp hrest] at hhanded
  exact ⟨w, tid, p, out, hrun, hfree, hhistory, hfound, hhanded, hout⟩

/-- The session would see an op of a commit, and is not told of it. -/
theorem exists_concerned_untold : ∃ (w : World Login.CheckpointTable) (backlog : List Tx)
    (p : Pinned), small.Reachable [] ∧ Run asking { host := small, history := [] } w
      ∧ w.opening = .opened 0 backlog ∧ w.turn = .free ∧ w.host.hub.pin? 0 = some p
      ∧ p.session.mode = .maintain ∧ p.session.status ≠ .closed
      ∧ ¬List.Forall₂ (Tells p.session) (PinSession.syncing w.handed)
          (w.history.filter p.session.concerns) := by
  obtain ⟨w, tid, backlog, hrun, hopened, hfree, hhistory⟩ := exists_run elsewhere (by rfl)
    ⟨by decide, by decide⟩ ⟨by decide, by decide, by decide, by decide⟩
  obtain ⟨p, hfound, hgranted, htold, -⟩ := ((Inv.start asking small_reachable).run hrun).told
    hopened hfree
  obtain ⟨hstatus, hhanded⟩ := htold hgranted.mode_eq
  refine ⟨w, backlog, p, small_reachable, hrun, hopened, hfree, hfound, hgranted.mode_eq,
    by rw [hstatus]; decide, ?_⟩
  -- The commit is not for the cell, but the session would see the first op.
  have hnot : asking.cell ∉ (elsewhere.withTid (some tid)).targets := by
    show asking.cell ∉ elsewhere.targets
    rw [Tx.mem_targets]
    decide
  have hconcerned : p.session.concerns (elsewhere.withTid (some tid)) = true := by
    show p.session.concerns elsewhere = true
    unfold PinSession.concerns PinSession.filterOps PinSession.wants
    rw [hgranted.cell_eq, hgranted.attrs_eq]
    decide
  rw [hhanded, hhistory, hgranted.cell_eq, commitsTo_of_not_mem hnot,
    List.filter_cons_of_pos hconcerned]
  exact fun hall => nomatch hall

end World

end CellSync
