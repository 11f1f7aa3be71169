/-
One pin being opened while commits are made: the steps of both, in any
order.

Opening a pin takes five steps and a commit takes one to record, one to
look up the registered sessions and one offer to each of them. Each step
holds a lock of its own and other steps come between. Commits exclude
each other: `Turn` is their lock, held from the recording to the last
offer. `Step` is one step of either, `World` what they work on, with what
the session has handed over so far.

`Inv` is what every interleaving keeps. Its core is `Tracks`: the session
follows the commits to its cell, where the commit whose turn it is may
still be on its way to it.
-/
import CellSync.Proofs.Host.Ledger
import CellSync.Proofs.Pin.Following

namespace CellSync

-- ============================================================= requests

/-- The session that an accepted request leads to. -/
theorem Host.screen_eq_ok {ρ σ : Type} {h : Host ρ σ} {who : Login.Checkpoint}
    {contextId : UInt64} {request : PinRequest} {session : PinSession}
    (hscreen : h.screen who contextId request = .ok session) :
    ∃ cell, h.shuttingDown = false ∧ session =
      ⟨contextId, cell, request.attrIds, request.mode, .notStarted, .nil, none, []⟩ := by
  unfold Host.screen at hscreen
  dsimp only at hscreen
  split at hscreen
  · cases hscreen
  next hflag =>
    split at hscreen
    · cases hscreen
    split at hscreen
    · cases hscreen
    next cell _ =>
      split at hscreen
      · cases hscreen
      injection hscreen with hscreen
      exact ⟨cell, Bool.eq_false_iff.mpr hflag, hscreen.symm⟩

-- ================================================================ turns

/-- How far the commit that holds the lock has come. -/
inductive Turn where
  /-- No commit holds it. -/
  | free
  /-- A commit is recorded. -/
  | recorded (tx : Tx)
  /-- A commit is still to be offered to some sessions. -/
  | offering (tx : Tx) (ids : List PinId)

namespace Turn

/-- The commit that is recorded for a cell but still to be offered to the
session `id`, if there is one. -/
def pending (cell : TagId) (id : PinId) : Turn → List Tx
  | free => []
  | recorded tx => commitsTo cell [tx]
  | offering tx ids => if id ∈ ids then [tx] else []

/-- Whether the commit of a turn is the last of the history, and is offered under
names that have been given out only. -/
def Sound (history : List Tx) (next : PinId) : Turn → Prop
  | free => True
  | recorded tx => ∃ before, history = before ++ [tx]
  | offering tx ids => (∃ before, history = before ++ [tx]) ∧ ∀ k ∈ ids, k < next

/-- Whether a commit is offered to a session once at most, and only if it is for
the session's cell. -/
def Once (cell : TagId) (id : PinId) : Turn → Prop
  | offering tx ids => ids.count id ≤ 1 ∧ (id ∈ ids → cell ∈ tx.targets)
  | _ => True

/-- Before a session is registered nothing is on its way but what is about to be. -/
theorem pending_suffix {turn : Turn} {history : List Tx} {id : PinId}
    (hsound : turn.Sound history id) (cell : TagId) :
    turn.pending cell id <:+ commitsTo cell history := by
  cases turn with
  | free => exact List.nil_suffix
  | recorded tx =>
      obtain ⟨before, rfl⟩ := hsound
      rw [commitsTo_append]
      exact List.suffix_append _ _
  | offering tx ids =>
      have hnot : id ∉ ids := fun hmem => Nat.lt_irrefl _ (hsound.2 id hmem)
      rw [pending, if_neg hnot]
      exact List.nil_suffix

theorem once_of_sound {turn : Turn} {history : List Tx} {id : PinId}
    (hsound : turn.Sound history id) (cell : TagId) : turn.Once cell id := by
  cases turn with
  | free | recorded tx => trivial
  | offering tx ids =>
      have hnot : id ∉ ids := fun hmem => Nat.lt_irrefl _ (hsound.2 id hmem)
      refine ⟨?_, fun hmem => absurd hmem hnot⟩
      rw [List.count_eq_zero_of_not_mem hnot]
      exact Nat.zero_le _

theorem Sound.mono {turn : Turn} {history : List Tx} {next next' : PinId}
    (hsound : turn.Sound history next) (hle : next ≤ next') : turn.Sound history next' := by
  cases turn with
  | free => trivial
  | recorded tx => exact hsound
  | offering tx ids => exact ⟨hsound.1, fun k hk => Nat.lt_of_lt_of_le (hsound.2 k hk) hle⟩

end Turn

-- ================================================================ worlds

/-- A call that opens a pin, and the cell that its target means. -/
structure Asking where
  box : OutboxId
  who : Login.Checkpoint
  contextId : UInt64
  request : PinRequest
  cell : TagId

/-- How far the call has come. -/
inductive Opening where
  | asked
  /-- The request was accepted. -/
  | screened (session : PinSession)
  /-- The session is registered. -/
  | enrolled (id : PinId)
  /-- The recorded commits were loaded. -/
  | loaded (id : PinId) (backlog : List Tx)
  /-- The session has begun with them. -/
  | begun (id : PinId) (backlog : List Tx)
  /-- The call has returned. -/
  | opened (id : PinId) (backlog : List Tx)

/-- The registered session of the call and the stage that it is in. -/
def Opening.tracked? : Opening → Option (PinId × PinSession.Stage)
  | asked | screened _ => none
  | enrolled id => some (id, .waiting)
  | loaded id backlog => some (id, .loaded backlog)
  | begun id backlog | opened id backlog => some (id, .begun backlog)

/-- The registered session of the call. -/
def Opening.id? (opening : Opening) : Option PinId := opening.tracked?.map (·.1)

/-- A host in use. -/
structure World (σ : Type) where
  host : Host Directory σ
  /-- The commits that were recorded, in order. -/
  history : List Tx
  opening : Opening := .asked
  turn : Turn := .free
  /-- The messages that the call's session has handed to its mailbox. -/
  handed : List Tx := []
  /-- The commits that were recorded when the call loaded those to its cell. -/
  seen : List Tx := []

namespace World

variable {σ : Type}

/-- One step of the call or of a commit. -/
inductive Step (ask : Asking) : World σ → World σ → Prop where
  | screen {w : World σ} {session : PinSession} (hopening : w.opening = .asked)
      (hscreen : w.host.screen ask.who ask.contextId ask.request = .ok session)
      (hcell : session.cell = ask.cell) : Step ask w { w with opening := .screened session }
  | enroll {w : World σ} {session : PinSession} (hopening : w.opening = .screened session) :
      Step ask w { w with
        host := (w.host.enroll session ask.box).2
        opening := .enrolled (w.host.enroll session ask.box).1 }
  | load {w : World σ} {id : PinId} (hopening : w.opening = .enrolled id) :
      Step ask w { w with opening := .loaded id (w.host.backlog id), seen := w.history }
  | begin {w : World σ} {id : PinId} {backlog : List Tx}
      (hopening : w.opening = .loaded id backlog) :
      Step ask w { w with
        host := w.host.begin id backlog
        handed := w.handed ++ w.host.hub.emits id (·.begin backlog)
        opening := .begun id backlog }
  | tidy {w : World σ} {id : PinId} {backlog : List Tx}
      (hopening : w.opening = .begun id backlog) :
      Step ask w { w with host := w.host.tidy id, opening := .opened id backlog }
  | record {w : World σ} {who : Login.Checkpoint} {clock : ClockTime} {tx tx' : Tx} {tid : Tid}
      {host : Host Directory σ} (hturn : w.turn = .free)
      (hcheck : w.host.checkCommit who tx = .ok ())
      (hrecord : w.host.recordCommit clock tx = .ok (tx', tid, host)) :
      Step ask w { w with host := host, history := w.history ++ [tx'], turn := .recorded tx' }
  | snapshot {w : World σ} {tx : Tx} (hturn : w.turn = .recorded tx) :
      Step ask w { w with turn := .offering tx (w.host.hub.snapshot tx) }
  | offer {w : World σ} {tx : Tx} {id : PinId} {ids : List PinId}
      (hturn : w.turn = .offering tx (id :: ids)) :
      Step ask w { w with
        host := w.host.mapHub (·.offer tx id)
        handed := w.handed ++
          if w.opening.id? = some id then w.host.hub.emits id (·.publish tx) else []
        turn := .offering tx ids }
  | release {w : World σ} {tx : Tx} (hturn : w.turn = .offering tx []) :
      Step ask w { w with turn := .free }

/-- A run of steps. -/
inductive Run (ask : Asking) : World σ → World σ → Prop where
  | refl (w : World σ) : Run ask w w
  | step {w w' w'' : World σ} (hrun : Run ask w w') (hstep : Step ask w' w'') : Run ask w w''

-- ============================================================ invariant

/-- Whether a session is the one that a call is entitled to. -/
structure Granted (ask : Asking) (s : PinSession) : Prop where
  contextId_eq : s.contextId = ask.contextId
  cell_eq : s.cell = ask.cell
  attrs_eq : s.attrs = ask.request.attrIds
  mode_eq : s.mode = ask.request.mode

theorem Granted.alike {ask : Asking} {s t : PinSession} (h : Granted ask s)
    (halike : s.Alike t) : Granted ask t :=
  ⟨halike.contextId_eq.trans h.contextId_eq, halike.cell_eq.trans h.cell_eq,
    halike.attrs_eq.trans h.attrs_eq, halike.mode_eq.trans h.mode_eq⟩

/-- The session `id` follows the commits to its cell, in some stage; and while it
is open, each commit is offered to it once. -/
structure Tracks (ask : Asking) (w : World σ) (id : PinId) (stage : PinSession.Stage)
    (p : Pinned) : Prop where
  found : w.host.hub.pin? id = some p
  granted : Granted ask p.session
  follows : p.session.Follows (commitsTo p.session.cell w.history)
    (w.turn.pending p.session.cell id) w.handed stage
  backlog_eq : ∀ backlog, stage.backlog? = some backlog →
    backlog = commitsTo p.session.cell w.seen
  registered : p.session.status ≠ .closed → w.host.hub.Registered id p.session.cell
  once : p.session.status ≠ .closed → w.turn.Once p.session.cell id

/-- What every interleaving keeps. -/
structure Inv (ask : Asking) (w : World σ) : Prop where
  ledger : w.host.Ledger w.history
  fresh : w.host.hub.Fresh
  sound : w.turn.Sound w.history w.host.hub.next
  quiet : w.opening.tracked? = none → w.handed = []
  screened : ∀ session, w.opening = .screened session →
    Granted ask session ∧ session.status = .notStarted ∧ session.newest = none
      ∧ session.early = []
  tracks : ∀ id stage, w.opening.tracked? = some (id, stage) → ∃ p, Tracks ask w id stage p

-- ======================================================== one step each

/-- The session is found under the same name in the next world. -/
theorem Tracks.of_eq {ask : Asking} {w w' : World σ} {id : PinId} {stage : PinSession.Stage}
    {p : Pinned} (h : Tracks ask w id stage p) (hpin : w'.host.hub.pin? id = w.host.hub.pin? id)
    (hindex : w'.host.hub.index = w.host.hub.index) (hseen : w'.seen = w.seen)
    (hfollows : p.session.Follows (commitsTo p.session.cell w'.history)
      (w'.turn.pending p.session.cell id) w'.handed stage)
    (honce : p.session.status ≠ .closed → w'.turn.Once p.session.cell id) :
    Tracks ask w' id stage p := by
  refine ⟨hpin.trans h.found, h.granted, hfollows, fun backlog hbacklog => ?_,
    fun hopen => ?_, honce⟩
  · rw [hseen]
    exact h.backlog_eq backlog hbacklog
  · rw [Hub.Registered, hindex]
    exact h.registered hopen

/-- A commit is recorded, and is then on its way to the session. -/
theorem Tracks.record {ask : Asking} {w : World σ} {id : PinId} {stage : PinSession.Stage}
    {p : Pinned} (h : Tracks ask w id stage p) (hturn : w.turn = .free) {host : Host Directory σ}
    (hhub : host.hub = w.host.hub) (tx : Tx) :
    Tracks ask { w with host := host, history := w.history ++ [tx], turn := .recorded tx } id
      stage p := by
  refine h.of_eq (congrArg (Hub.pin? · id) hhub) (congrArg Hub.index hhub) rfl ?_
    fun _ => trivial
  have hfollows := h.follows
  rw [hturn] at hfollows
  show p.session.Follows (commitsTo p.session.cell (w.history ++ [tx]))
    (commitsTo p.session.cell [tx]) w.handed stage
  rw [commitsTo_append]
  exact PinSession.follows_record _ hfollows

/-- The sessions that a commit is for are looked up. -/
theorem Tracks.snapshot {ask : Asking} {w : World σ} {id : PinId} {stage : PinSession.Stage}
    {p : Pinned} (h : Tracks ask w id stage p) {tx : Tx} (hturn : w.turn = .recorded tx) :
    Tracks ask { w with turn := .offering tx (w.host.hub.snapshot tx) } id stage p := by
  have hfound : (w.host.hub.pin? id).isSome := by
    rw [h.found]
    rfl
  by_cases hclosed : p.session.status = .closed
  · exact h.of_eq rfl rfl rfl (PinSession.follows_of_closed hclosed _ h.follows)
      fun hopen => absurd hclosed hopen
  · -- The session is listed once if the commit is for its cell, and else not at all.
    have hcount := Hub.count_snapshot hfound (h.registered hclosed) tx
    have hpending : (Turn.offering tx (w.host.hub.snapshot tx)).pending p.session.cell id
        = w.turn.pending p.session.cell id := by
      rw [hturn, Turn.pending, Turn.pending]
      by_cases hfor : p.session.cell ∈ tx.targets
      · rw [commitsTo_of_mem hfor, if_pos]
        rw [← List.count_pos_iff, hcount]
        exact List.count_pos_iff.mpr hfor
      · rw [commitsTo_of_not_mem hfor, if_neg]
        rw [← List.count_pos_iff, hcount, List.count_pos_iff]
        exact hfor
    refine h.of_eq rfl rfl rfl ?_ fun _ => ⟨?_, fun hmem => ?_⟩
    · show p.session.Follows _ ((Turn.offering tx (w.host.hub.snapshot tx)).pending _ id) _ _
      rw [hpending]
      exact h.follows
    · rw [hcount]
      exact List.nodup_iff_count.mp tx.nodup_targets _
    · rw [← List.count_pos_iff, ← hcount]
      exact List.count_pos_iff.mpr hmem

/-- The commit is offered to another session. -/
theorem Tracks.offer_other {ask : Asking} {w : World σ} {id k : PinId} {stage : PinSession.Stage}
    {p : Pinned} (h : Tracks ask w id stage p) {tx : Tx} {ids : List PinId} (hne : k ≠ id)
    (hturn : w.turn = .offering tx (k :: ids)) :
    Tracks ask { w with host := w.host.mapHub (·.offer tx k), turn := .offering tx ids } id stage
      p := by
  have hmem : id ∈ k :: ids ↔ id ∈ ids := by
    rw [List.mem_cons]
    exact ⟨fun hor => hor.resolve_left fun heq => hne heq.symm, .inr⟩
  refine h.of_eq (Hub.pin?_advance_of_ne fun heq => hne heq.symm) (Hub.index_advance _ _ _) rfl ?_
    fun hopen => ?_
  · have hfollows := h.follows
    rw [hturn, Turn.pending] at hfollows
    show p.session.Follows _ (if id ∈ ids then [tx] else []) _ _
    simp only [hmem] at hfollows
    exact hfollows
  · have honce := h.once hopen
    rw [hturn] at honce
    refine ⟨?_, fun hin => honce.2 (List.mem_cons_of_mem _ hin)⟩
    have hcount := honce.1
    rw [List.count_cons_of_ne hne] at hcount
    exact hcount

/-- The commit is offered to the session. -/
theorem Tracks.offer_self {ask : Asking} {w : World σ} {id : PinId} {stage : PinSession.Stage}
    {p : Pinned} (h : Tracks ask w id stage p) (hrising : Rising w.history) {tx : Tx}
    (hmem : tx ∈ w.history) {ids : List PinId} (hturn : w.turn = .offering tx (id :: ids)) :
    Tracks ask { w with
      host := w.host.mapHub (·.offer tx id)
      handed := w.handed ++ w.host.hub.emits id (·.publish tx)
      turn := .offering tx ids } id stage { p with session := (p.session.publish tx).1 } := by
  have halike := PinSession.alike_publish p.session tx
  have hemits : w.host.hub.emits id (·.publish tx) = (p.session.publish tx).2 :=
    Hub.emits_eq h.found
  have hfollows := h.follows
  rw [hturn, Turn.pending, if_pos List.mem_cons_self] at hfollows
  -- An open session is not offered the commit once more.
  have hlast : p.session.status ≠ .closed → id ∉ ids ∧ p.session.cell ∈ tx.targets := by
    intro hopen
    have honce := h.once hopen
    rw [hturn] at honce
    refine ⟨fun hin => ?_, honce.2 List.mem_cons_self⟩
    have hcount := honce.1
    rw [List.count_cons_self] at hcount
    have hpos := List.count_pos_iff.mpr hin
    omega
  have hstatus : (p.session.publish tx).1.status ≠ .closed → p.session.status ≠ .closed := by
    intro hopen hclosed
    rw [PinSession.publish_closed hclosed] at hopen
    exact hopen hclosed
  refine ⟨Hub.pin?_advance_self h.found, h.granted.alike halike, ?_, fun backlog hbacklog => ?_,
    fun hopen => ?_, fun hopen => ?_⟩
  · show (p.session.publish tx).1.Follows (commitsTo (p.session.publish tx).1.cell w.history)
      (if id ∈ ids then [tx] else []) (w.handed ++ w.host.hub.emits id (·.publish tx)) stage
    rw [halike.cell_eq, hemits]
    by_cases hclosed : p.session.status = .closed
    · rw [PinSession.publish_closed hclosed, List.append_nil]
      exact PinSession.follows_of_closed hclosed _ hfollows
    · obtain ⟨hnot, hfor⟩ := hlast hclosed
      rw [if_neg hnot]
      exact PinSession.follows_publish (hrising.of_sublist List.filter_sublist)
        (List.mem_filter.mpr ⟨hmem, decide_eq_true hfor⟩) hfollows
  · rw [h.backlog_eq backlog hbacklog]
    exact congrArg (commitsTo · w.seen) halike.cell_eq.symm
  · show (w.host.hub.advance id (·.publish tx)).Registered id _
    rw [Hub.Registered, Hub.index_advance, halike.cell_eq]
    exact h.registered (hstatus hopen)
  · obtain ⟨hnot, hfor⟩ := hlast (hstatus hopen)
    refine ⟨?_, fun hin => absurd hin hnot⟩
    rw [List.count_eq_zero_of_not_mem hnot]
    exact Nat.zero_le _

/-- The session begins. -/
theorem Tracks.begin {ask : Asking} {w : World σ} {id : PinId} {backlog : List Tx} {p : Pinned}
    (h : Tracks ask w id (.loaded backlog) p) (hrising : Rising w.history) :
    Tracks ask { w with
      host := w.host.begin id backlog
      handed := w.handed ++ w.host.hub.emits id (·.begin backlog)
      opening := .begun id backlog } id (.begun backlog)
      { p with session := (p.session.begin backlog).1 } := by
  have halike := PinSession.alike_begin p.session backlog
  have hemits : w.host.hub.emits id (·.begin backlog) = (p.session.begin backlog).2 :=
    Hub.emits_eq h.found
  have hopen : p.session.status ≠ .closed := by
    rw [h.follows.1]
    decide
  refine ⟨Hub.pin?_advance_self h.found, h.granted.alike halike, ?_, fun loaded hloaded => ?_,
    fun _ => ?_, fun _ => ?_⟩
  · show (p.session.begin backlog).1.Follows (commitsTo (p.session.begin backlog).1.cell w.history)
      (w.turn.pending (p.session.begin backlog).1.cell id)
      (w.handed ++ w.host.hub.emits id (·.begin backlog)) (.begun backlog)
    rw [halike.cell_eq, hemits]
    exact PinSession.follows_begin (hrising.of_sublist List.filter_sublist) h.follows
  · rw [h.backlog_eq loaded hloaded]
    exact congrArg (commitsTo · w.seen) halike.cell_eq.symm
  · show (w.host.hub.advance id (·.begin backlog)).Registered id _
    rw [Hub.Registered, Hub.index_advance, halike.cell_eq]
    exact h.registered hopen
  · show w.turn.Once (p.session.begin backlog).1.cell id
    rw [halike.cell_eq]
    exact h.once hopen

-- ============================================================ every step

/-- A request that is accepted leads to a session with nothing in it. -/
theorem granted_of_screen {h : Host Directory σ} {ask : Asking} {session : PinSession}
    (hscreen : h.screen ask.who ask.contextId ask.request = .ok session)
    (hcell : session.cell = ask.cell) :
    Granted ask session ∧ session.status = .notStarted ∧ session.newest = none
      ∧ session.early = [] := by
  obtain ⟨cell, -, rfl⟩ := Host.screen_eq_ok hscreen
  exact ⟨⟨rfl, hcell, rfl, rfl⟩, rfl, rfl, rfl⟩

/-- Once the session is registered, what remains to be said is that it is tracked. -/
theorem Inv.of_tracks {ask : Asking} {w : World σ} {id : PinId} {stage : PinSession.Stage}
    {p : Pinned} (hledger : w.host.Ledger w.history) (hfresh : w.host.hub.Fresh)
    (hsound : w.turn.Sound w.history w.host.hub.next)
    (hopening : w.opening.tracked? = some (id, stage)) (htracks : Tracks ask w id stage p) :
    Inv ask w := by
  refine ⟨hledger, hfresh, hsound, fun hnone => ?_, fun session hscreened => ?_,
    fun k stage' htracked => ?_⟩
  · rw [hopening] at hnone
    cases hnone
  · rw [hscreened] at hopening
    cases hopening
  · rw [hopening] at htracked
    injection htracked with htracked
    injection htracked with hid hstage
    subst hid hstage
    exact ⟨p, htracks⟩

theorem Inv.screen {ask : Asking} {w : World σ} (h : Inv ask w) {session : PinSession}
    (hopening : w.opening = .asked)
    (hscreen : w.host.screen ask.who ask.contextId ask.request = .ok session)
    (hcell : session.cell = ask.cell) : Inv ask { w with opening := .screened session } := by
  refine ⟨h.ledger, h.fresh, h.sound, fun _ => h.quiet (by rw [hopening]; rfl),
    fun other hother => ?_, fun _ _ htracked => nomatch htracked⟩
  injection hother with hother
  rw [← hother]
  exact granted_of_screen hscreen hcell

theorem Inv.enroll {ask : Asking} {w : World σ} (h : Inv ask w) {session : PinSession}
    (hopening : w.opening = .screened session) :
    Inv ask { w with
      host := (w.host.enroll session ask.box).2
      opening := .enrolled (w.host.enroll session ask.box).1 } := by
  obtain ⟨hgranted, hstatus, hnewest, hearly⟩ := h.screened session hopening
  obtain ⟨hfound, hregistered⟩ := Hub.add_register h.fresh session ask.box
  have hadd := h.fresh.move (.add w.host.hub session ask.box)
  refine Inv.of_tracks (p := ⟨session, ask.box⟩) (h.ledger.congr rfl (fun _ => rfl) rfl)
    (hadd.move (.register _ w.host.hub.next)) ?_ rfl
    ⟨hfound, hgranted, ?_, fun _ hnone => (nomatch hnone), fun _ => hregistered, fun _ => ?_⟩
  · show w.turn.Sound w.history
      ((w.host.hub.add session ask.box).2.register w.host.hub.next).next
    rw [Hub.next_register]
    exact h.sound.mono (Nat.le_succ _)
  · have hquiet : w.handed = [] := h.quiet (by rw [hopening]; rfl)
    show session.Follows (commitsTo session.cell w.history)
      (w.turn.pending session.cell w.host.hub.next) w.handed .waiting
    rw [hquiet]
    exact PinSession.follows_start hstatus hnewest hearly (Turn.pending_suffix h.sound _)
  · exact Turn.once_of_sound h.sound session.cell

theorem Inv.load {ask : Asking} {w : World σ} (h : Inv ask w) {id : PinId}
    (hopening : w.opening = .enrolled id) :
    Inv ask { w with opening := .loaded id (w.host.backlog id), seen := w.history } := by
  obtain ⟨p, htracks⟩ := h.tracks id .waiting (by rw [hopening]; rfl)
  have hbacklog : w.host.backlog id = commitsTo p.session.cell w.history := by
    rw [Host.backlog, htracks.found, h.ledger.resolver_eq]
    exact h.ledger.load_eq p.session.cell
  refine Inv.of_tracks h.ledger h.fresh h.sound rfl ⟨htracks.found, htracks.granted, ?_,
    fun backlog hloaded => ?_, htracks.registered, htracks.once⟩
  · rw [hbacklog]
    exact PinSession.follows_load htracks.follows
  · injection hloaded with hloaded
    rw [← hloaded]
    exact hbacklog

theorem Inv.begin {ask : Asking} {w : World σ} (h : Inv ask w) {id : PinId} {backlog : List Tx}
    (hopening : w.opening = .loaded id backlog) :
    Inv ask { w with
      host := w.host.begin id backlog
      handed := w.handed ++ w.host.hub.emits id (·.begin backlog)
      opening := .begun id backlog } := by
  obtain ⟨p, htracks⟩ := h.tracks id (.loaded backlog) (by rw [hopening]; rfl)
  refine Inv.of_tracks (h.ledger.congr rfl (fun _ => rfl) rfl)
    (h.fresh.move (.advance w.host.hub id (·.begin backlog))) ?_ rfl
    (htracks.begin h.ledger.rising)
  show w.turn.Sound w.history (w.host.hub.advance id (·.begin backlog)).next
  rw [Hub.next_advance]
  exact h.sound

theorem Inv.tidy {ask : Asking} {w : World σ} (h : Inv ask w) {id : PinId} {backlog : List Tx}
    (hopening : w.opening = .begun id backlog) :
    Inv ask { w with host := w.host.tidy id, opening := .opened id backlog } := by
  obtain ⟨p, htracks⟩ := h.tracks id (.begun backlog) (by rw [hopening]; rfl)
  have hhost : w.host.tidy id = if p.session.isClosed then
      { w.host with hub := w.host.hub.unregister id } else w.host := by
    rw [Host.tidy, Hub.isClosed, htracks.found]
    rfl
  rw [hhost]
  split
  next hclosed =>
    have hstatus : p.session.status = .closed := of_decide_eq_true hclosed
    exact Inv.of_tracks (h.ledger.congr rfl (fun _ => rfl) rfl) (h.fresh.move (.unregister _ id))
      h.sound rfl ⟨htracks.found, htracks.granted, htracks.follows, htracks.backlog_eq,
        fun hopen => absurd hstatus hopen, fun hopen => absurd hstatus hopen⟩
  next hopen =>
    exact Inv.of_tracks h.ledger h.fresh h.sound rfl ⟨htracks.found, htracks.granted,
      htracks.follows, htracks.backlog_eq, htracks.registered, htracks.once⟩

theorem Inv.record {ask : Asking} {w : World σ} (h : Inv ask w) {clock : ClockTime} {tx tx' : Tx}
    {tid : Tid} {host : Host Directory σ} (hturn : w.turn = .free)
    (hrecord : w.host.recordCommit clock tx = .ok (tx', tid, host)) :
    Inv ask { w with host := host, history := w.history ++ [tx'], turn := .recorded tx' } := by
  have hhub : host.hub = w.host.hub := by
    obtain ⟨_, _, -, -, -, -, rfl⟩ := Host.recordCommit_eq_ok hrecord
    rfl
  refine ⟨h.ledger.recordCommit hrecord, ?_, ⟨w.history, rfl⟩, h.quiet, h.screened,
    fun id stage htracked => ?_⟩
  · rw [hhub]
    exact h.fresh
  · obtain ⟨p, htracks⟩ := h.tracks id stage htracked
    exact ⟨p, htracks.record hturn hhub tx'⟩

theorem Inv.snapshot {ask : Asking} {w : World σ} (h : Inv ask w) {tx : Tx}
    (hturn : w.turn = .recorded tx) :
    Inv ask { w with turn := .offering tx (w.host.hub.snapshot tx) } := by
  have hsound := h.sound
  rw [hturn] at hsound
  refine ⟨h.ledger, h.fresh, ⟨hsound, fun k hk => Hub.mem_snapshot_lt h.fresh hk⟩, h.quiet,
    h.screened, fun id stage htracked => ?_⟩
  obtain ⟨p, htracks⟩ := h.tracks id stage htracked
  exact ⟨p, htracks.snapshot hturn⟩

theorem Inv.offer {ask : Asking} {w : World σ} (h : Inv ask w) {tx : Tx} {k : PinId}
    {ids : List PinId} (hturn : w.turn = .offering tx (k :: ids)) :
    Inv ask { w with
      host := w.host.mapHub (·.offer tx k)
      handed := w.handed ++
        if w.opening.id? = some k then w.host.hub.emits k (·.publish tx) else []
      turn := .offering tx ids } := by
  have hsound := h.sound
  rw [hturn] at hsound
  obtain ⟨⟨before, hhistory⟩, hnames⟩ := hsound
  have hmem : tx ∈ w.history := by
    rw [hhistory]
    exact List.mem_append_right _ (List.mem_singleton_self tx)
  refine ⟨h.ledger.congr rfl (fun _ => rfl) rfl,
    h.fresh.move (.advance w.host.hub k (·.publish tx)), ?_, fun htracked => ?_, h.screened,
    fun id stage htracked => ?_⟩
  · refine ⟨⟨before, hhistory⟩, fun i hi => ?_⟩
    show i < (w.host.hub.advance k (·.publish tx)).next
    rw [Hub.next_advance]
    exact hnames i (List.mem_cons_of_mem _ hi)
  · have hnone : w.opening.id? = none := by
      rw [Opening.id?, htracked]
      rfl
    rw [hnone, if_neg (Option.some_ne_none k).symm, List.append_nil]
    exact h.quiet htracked
  · obtain ⟨p, htracks⟩ := h.tracks id stage htracked
    have hid : w.opening.id? = some id := by
      rw [Opening.id?, htracked]
      rfl
    by_cases hk : k = id
    · subst hk
      rw [hid, if_pos rfl]
      exact ⟨_, htracks.offer_self h.ledger.rising hmem hturn⟩
    · rw [hid, if_neg fun heq => hk (Option.some.inj heq).symm, List.append_nil]
      exact ⟨p, htracks.offer_other hk hturn⟩

theorem Inv.release {ask : Asking} {w : World σ} (h : Inv ask w) {tx : Tx}
    (hturn : w.turn = .offering tx []) : Inv ask { w with turn := .free } := by
  refine ⟨h.ledger, h.fresh, trivial, h.quiet, h.screened, fun id stage htracked => ?_⟩
  obtain ⟨p, htracks⟩ := h.tracks id stage htracked
  refine ⟨p, htracks.of_eq rfl rfl rfl ?_ fun _ => trivial⟩
  have hfollows := htracks.follows
  rw [hturn] at hfollows
  exact hfollows

/-- Every step keeps the invariant. -/
theorem Inv.step {ask : Asking} {w w' : World σ} (h : Inv ask w) (hstep : Step ask w w') :
    Inv ask w' := by
  cases hstep with
  | screen hopening hscreen hcell => exact h.screen hopening hscreen hcell
  | enroll hopening => exact h.enroll hopening
  | load hopening => exact h.load hopening
  | begin hopening => exact h.begin hopening
  | tidy hopening => exact h.tidy hopening
  | record hturn _ hrecord => exact h.record hturn hrecord
  | snapshot hturn => exact h.snapshot hturn
  | offer hturn => exact h.offer hturn
  | release hturn => exact h.release hturn

/-- A reachable host, before the call. -/
theorem Inv.start (ask : Asking) {h : Host Directory σ} {history : List Tx}
    (hreach : h.Reachable history) : Inv ask { host := h, history := history } :=
  ⟨hreach.ledger, hreach.fresh, trivial, fun _ => rfl, fun _ hscreened => (nomatch hscreened),
    fun _ _ htracked => nomatch htracked⟩

/-- Every run keeps the invariant. -/
theorem Inv.run {ask : Asking} {w w' : World σ} (h : Inv ask w) (hrun : Run ask w w') :
    Inv ask w' := by
  induction hrun with
  | refl => exact h
  | step _ hstep ih => exact ih.step hstep

end World

end CellSync
