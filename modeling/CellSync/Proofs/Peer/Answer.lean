/-
How a host answers a commit.

A connection answers each commit once, with a message of kind commit that
bears the number of the commit, and nothing else that goes into its
mailbox meanwhile is of that kind (`Answered.enqueued`). The answer is an
acknowledgement exactly when the commit is recorded, under the identifier
that it names, and the refusal exactly when everything is as before
(`answered_dispatch`).

A mailbox is known by its name here, so it has to be said that the mailbox
of a connection is there (`Hub.Holds`). It is from the connecting on, whatever
anybody does (`Hub.Holds.move`).
-/
import CellSync.Peer.Connection
import CellSync.Proofs.Host.Recording
import CellSync.Proofs.Pin.Grammar

namespace CellSync

-- ============================================================= mailboxes

namespace Mailbox

variable {α : Type}

/-- Items are delivered one after another. -/
theorem deliverAll_append (m : Mailbox α) (first later : List α) :
    m.deliverAll (first ++ later) = (m.deliverAll first).deliverAll later := List.foldl_append ..

theorem closed_deliver (m : Mailbox α) (item : α) : (m.deliver item).2.closed = m.closed := by
  unfold deliver makeRoom
  split
  · rfl
  · dsimp only
    split <;> rfl

/-- Deliveries do not close a mailbox. -/
theorem closed_deliverAll (m : Mailbox α) (items : List α) :
    (m.deliverAll items).closed = m.closed := by
  induction items generalizing m with
  | nil => rfl
  | cons item items ih => exact (ih (m.deliver item).2).trans (closed_deliver m item)

/-- What is delivered to an open mailbox is queued behind everything else. -/
theorem queue_deliver (m : Mailbox α) (hopen : m.closed = false) (item : α) :
    ∃ before, (m.deliver item).2.queue = before ++ [item] := by
  unfold deliver
  rw [hopen]
  exact ⟨_, rfl⟩

end Mailbox

namespace Hub

variable {hub hub' hub'' : Hub} {box : OutboxId}

/-- Whether there is a mailbox with a name. -/
def Holds (hub : Hub) (box : OutboxId) : Prop := (hub.outboxes.lookup box).isSome = true

/-- A mailbox that is changed is still there, and no other is changed. -/
theorem outbox_mapOutbox (hub : Hub) (b : OutboxId) (f : Mailbox Tx → Mailbox Tx)
    (hholds : hub.Holds box) :
    (hub.mapOutbox b f).Holds box
      ∧ (hub.mapOutbox b f).outbox box = if box = b then f (hub.outbox box) else hub.outbox box := by
  obtain ⟨m, hm⟩ := Option.isSome_iff_exists.mp hholds
  have hlookup := lookup_map_update hub.outboxes b box f
  unfold Holds outbox mapOutbox
  rw [hlookup, hm]
  by_cases hbox : box = b <;> simp [hbox]

/-- A mailbox that is added is there. -/
theorem holds_addOutbox (hub : Hub) (capacity : Nat) :
    (hub.addOutbox capacity).2.Holds (hub.addOutbox capacity).1 := by
  show ((hub.outboxes ++ [(hub.next, _)]).lookup hub.next).isSome = true
  rw [lookup_concat, if_pos rfl]
  cases hub.outboxes.lookup hub.next <;> rfl

/-- No step of a hub takes a mailbox away. -/
theorem Holds.move (hholds : hub.Holds box) (hmove : Move hub hub') : hub'.Holds box := by
  cases hmove with
  | addOutbox capacity =>
      show ((hub.outboxes ++ [(hub.next, _)]).lookup box).isSome = true
      rw [lookup_concat, Option.isSome_or, hholds]
      rfl
  | mapOutbox b f => exact (outbox_mapOutbox hub b f hholds).1
  | register id =>
      unfold register
      split <;> exact hholds
  | advance id step =>
      unfold advance
      split
      · exact hholds
      next p _ => exact (outbox_mapOutbox (hub.setSession id _) p.outbox _ hholds).1
  | add _ _ | unregister _ | drop _ | takeIndex => exact hholds

/-- A mailbox gets messages of kind state only. -/
def Tells (box : OutboxId) (hub hub' : Hub) : Prop :=
  hub'.Holds box ∧ ∃ txs, (∀ m ∈ txs, m.info.kind = .state)
    ∧ hub'.outbox box = (hub.outbox box).deliverAll txs

/-- Where the mailboxes are the same, nothing was told. -/
theorem Tells.of_eq (hholds : hub.Holds box) (h : hub'.outboxes = hub.outboxes) :
    Tells box hub hub' := by
  unfold Tells Holds outbox
  rw [h]
  exact ⟨hholds, [], fun _ hmem => absurd hmem List.not_mem_nil, rfl⟩

/-- What is told first comes first. -/
theorem Tells.trans (h : Tells box hub hub') (h' : Tells box hub' hub'') : Tells box hub hub'' := by
  obtain ⟨-, first, hfirst, hafter⟩ := h
  obtain ⟨hholds, later, hlater, hafter'⟩ := h'
  refine ⟨hholds, first ++ later, ?_, ?_⟩
  · exact fun m hmem => (List.mem_append.mp hmem).elim (hfirst m) (hlater m)
  · rw [hafter', hafter, Mailbox.deliverAll_append]

/-- Messages that are posted are told to the mailbox that they are for. -/
theorem Tells.post (hholds : hub.Holds box) (b : OutboxId) {txs : List Tx}
    (hstate : ∀ m ∈ txs, m.info.kind = .state) : Tells box hub (hub.post b txs) := by
  obtain ⟨hholds', hafter⟩ := outbox_mapOutbox hub b (·.deliverAll txs) hholds
  refine ⟨hholds', ?_⟩
  by_cases hbox : box = b
  · rw [if_pos hbox] at hafter
    exact ⟨txs, hstate, hafter⟩
  · rw [if_neg hbox] at hafter
    exact ⟨[], fun _ hmem => absurd hmem List.not_mem_nil, hafter⟩

/-- A session tells its own mailbox what its step emits. -/
theorem Tells.advance (hholds : hub.Holds box) (id : PinId) {step : PinSession → PinSession.Step}
    (hstate : ∀ s, ∀ m ∈ (step s).2, m.info.kind = .state) :
    Tells box hub (hub.advance id step) := by
  cases hpin : hub.pin? id with
  | none =>
      unfold Hub.advance
      rw [hpin]
      exact .of_eq hholds rfl
  | some p =>
      rw [advance_eq hpin]
      have hset : Tells box hub (hub.setSession id (step p.session).1) := .of_eq hholds rfl
      refine hset.trans (.post hset.1 _ ?_)
      rw [emits_eq hpin]
      exact hstate p.session

/-- A change is told by each session that it is published to. -/
theorem Tells.publish (hholds : hub.Holds box) (tx : Tx) : Tells box hub (hub.publish tx).2 := by
  have hoffers : ∀ (ids : List PinId) (hub : Hub), hub.Holds box →
      Tells box hub (ids.foldl (offer tx) hub) := by
    intro ids
    induction ids with
    | nil => exact fun hub hholds => .of_eq hholds rfl
    | cons id ids ih =>
        intro hub hholds
        have hfirst : Tells box hub (hub.offer tx id) :=
          .advance hholds id fun s m hmem => ((s.adds_publish tx).proper m hmem).kind_eq
        exact hfirst.trans (ih _ hfirst.1)
  exact hoffers _ hub hholds

end Hub

-- =============================================================== refusals

/-- Every error of a transaction has a code. -/
theorem TxError.code_ne_nil (error : TxError) : error.code ≠ .nil := by
  cases error <;> nofun

namespace Host

variable {σ : Type} {h h' : Host Directory σ} {clock : ClockTime} {who : Login.Checkpoint}
  {tx : Tx} {error : SessionError}

/-- Whatever is wrong with a commit has one too. -/
theorem code_ne_nil_of_checkCommit (hcheck : h.checkCommit who tx = .error error) :
    error.code ≠ .nil := by
  unfold checkCommit at hcheck
  split at hcheck
  · rw [← Except.error.inj hcheck]
    nofun
  · split at hcheck
    · rw [← Except.error.inj hcheck]
      nofun
    · split at hcheck
      · rw [← Except.error.inj hcheck]
        nofun
      · split at hcheck
        · rw [← Except.error.inj hcheck]
          nofun
        · cases hcheck

/-- A directory records every commit, so only its form can be refused. -/
theorem recordCommit_eq_error (hresolver : h.resolver = Directory.resolver)
    (hrecord : h.recordCommit clock tx = .error error) : ∃ cause : TxError, error = .tx cause := by
  unfold recordCommit at hrecord
  rcases eq_error_of_bind hrecord with hcontent | ⟨content, -, hrecord⟩
  · obtain ⟨cause, -, hcause⟩ := mapError_eq_error hcontent
    exact ⟨cause, hcause⟩
  · rcases eq_error_of_bind hrecord with htid | ⟨tid, -, hrecord⟩
    · obtain ⟨fault, -, hfault⟩ := mapError_eq_error htid
      exact ⟨_, hfault⟩
    · rw [hresolver] at hrecord
      cases hrecord

/-- Every refusal of a commit has a code. -/
theorem code_ne_nil_of_commit (hresolver : h.resolver = Directory.resolver)
    (hcommit : h.commit clock who tx = (.error error, h')) : error.code ≠ .nil := by
  unfold Host.commit at hcommit
  split at hcommit
  next _ hcheck =>
    rw [← Except.error.inj (Prod.mk.inj hcommit).1]
    exact code_ne_nil_of_checkCommit hcheck
  · split at hcommit
    next _ hrecord =>
      obtain ⟨cause, hcause⟩ := recordCommit_eq_error hresolver hrecord
      rw [← Except.error.inj (Prod.mk.inj hcommit).1, hcause]
      exact cause.code_ne_nil
    · cases hcommit

end Host

-- =============================================================== outcomes

namespace Host

variable {σ : Type} {h h' h'' : Host Directory σ}

/-- A commit is recorded under an identifier greater than the last: for every cell
that it is for, with the ops and the data that were sent. -/
structure Recorded (h h' : Host Directory σ) (tx : Tx) (tid : Tid) : Prop where
  last_eq : h'.last = some tid
  newer : ∀ last, h.last = some last → last < tid
  load_eq : ∀ cell, h'.directory.load cell
    = if cell ∈ tx.targets then h.directory.load cell ++ [tx.withTid (some tid)]
      else h.directory.load cell

/-- Nothing is recorded, and every open pin is as it was. -/
structure Unchanged (h h' : Host Directory σ) : Prop where
  directory_eq : h'.directory = h.directory
  last_eq : h'.last = h.last
  closed_eq : ∀ id, h'.hub.isClosed id = h.hub.isClosed id
  pin?_eq : ∀ id, h.hub.isClosed id = false → h'.hub.pin? id = h.hub.pin? id

/-- Nothing is recorded by two things that record nothing. -/
theorem Unchanged.trans (hfirst : Unchanged h h') (hrest : Unchanged h' h'') :
    Unchanged h h'' where
  directory_eq := hrest.directory_eq.trans hfirst.directory_eq
  last_eq := hrest.last_eq.trans hfirst.last_eq
  closed_eq id := (hrest.closed_eq id).trans (hfirst.closed_eq id)
  pin?_eq id hopen := by
    rw [hrest.pin?_eq id (by rw [hfirst.closed_eq, hopen]), hfirst.pin?_eq id hopen]

/-- What is recorded changes the last identifier. -/
theorem Recorded.not_unchanged {tx : Tx} {tid : Tid} (hrecorded : Recorded h h' tx tid) :
    ¬Unchanged h h' := by
  intro hsame
  have hlast : h.last = some tid := hsame.last_eq.symm.trans hrecorded.last_eq
  exact Nat.lt_irrefl _ (hrecorded.newer tid hlast)

/-- What is recorded where nothing was recorded meanwhile is recorded over all. -/
theorem Recorded.after {tx : Tx} {tid : Tid} (hrecorded : Recorded h' h'' tx tid)
    (hsame : Unchanged h h') : Recorded h h'' tx tid where
  last_eq := hrecorded.last_eq
  newer last hlast := hrecorded.newer last (hsame.last_eq.trans hlast)
  load_eq cell := by rw [hrecorded.load_eq, hsame.directory_eq]

/-- A pin that is over may be let go of. -/
theorem Unchanged.drop {id : PinId} (hclosed : h.hub.isClosed id = true) :
    Unchanged h (h.mapHub (·.drop id)) := by
  have hpin : ∀ k, h.hub.isClosed k = false → (h.hub.drop id).pin? k = h.hub.pin? k := by
    intro k hopen
    have hne : k ≠ id := by
      rintro rfl
      simp [hclosed] at hopen
    rw [Hub.pin?_drop, if_neg hne]
  refine ⟨rfl, rfl, fun k => ?_, hpin⟩
  cases hk : h.hub.isClosed k with
  | true => exact Hub.isClosed_drop hk
  | false =>
      show ((h.hub.drop id).pin? k).all _ = false
      rw [hpin k hk]
      exact hk

end Host

namespace Connection

variable {σ : Type} {h : Host Directory σ} {c : Connection}

/-- Letting go of the pins that are over changes nothing that counts, and no mailbox. -/
theorem prune_unchanged (c : Connection) (h : Host Directory σ) :
    h.Unchanged (c.prune h).2 ∧ (c.prune h).2.hub.outboxes = h.hub.outboxes
      ∧ (c.prune h).2.resolver = h.resolver := by
  have hall : ∀ (ended : List (UInt64 × PinId)) (g : Host Directory σ),
      (∀ entry ∈ ended, g.hub.isClosed entry.2 = true) →
      g.Unchanged (ended.foldl (fun g entry => g.mapHub (·.drop entry.2)) g)
        ∧ (ended.foldl (fun g entry => g.mapHub (·.drop entry.2)) g).hub.outboxes = g.hub.outboxes
        ∧ (ended.foldl (fun g entry => g.mapHub (·.drop entry.2)) g).resolver = g.resolver := by
    intro ended
    induction ended with
    | nil => exact fun g _ => ⟨⟨rfl, rfl, fun _ => rfl, fun _ _ => rfl⟩, rfl, rfl⟩
    | cons entry ended ih =>
        intro g hclosed
        obtain ⟨hentry, hrest⟩ := List.forall_mem_cons.mp hclosed
        obtain ⟨hsame, houtboxes, hresolver⟩ := ih (g.mapHub (·.drop entry.2))
          fun other hmem => Hub.isClosed_drop (hrest other hmem)
        exact ⟨(Host.Unchanged.drop hentry).trans hsame, houtboxes, hresolver⟩
  exact hall _ h fun entry hmem => (List.mem_filter.mp hmem).2

/-- How a commit was answered. -/
structure Answered (c : Connection) (h h' : Host Directory σ) (tx reply : Tx) : Prop where
  /-- Nothing of kind commit went into the mailbox but the answer. -/
  enqueued : ∃ traffic, (∀ m ∈ traffic, m.info.kind = .state)
    ∧ h'.hub.outbox c.outbox = (h.hub.outbox c.outbox).deliverAll (traffic ++ [reply])
  queued : (h.hub.outbox c.outbox).closed = false →
    ∃ before, (h'.hub.outbox c.outbox).queue = before ++ [reply]
  answers : reply.info.kind = .commit ∧ reply.info.contextId = tx.info.contextId
  synced : ∀ tid, reply = acknowledgement tx.info.contextId tid ↔ h.Recorded h' tx tid
  closed : (∃ code, code ≠ .nil ∧ reply = .ofStatus .commit tx.info.contextId .closed code)
    ↔ h.Unchanged h'
  decided : (∃ tid, h.Recorded h' tx tid) ∨ h.Unchanged h'

variable {g : Host Directory σ} {tx reply : Tx} {clock : ClockTime}

/-- An answer that is posted last is the last thing in the mailbox. -/
theorem enqueued_post (htells : h.hub.Tells c.outbox g.hub) (reply : Tx) :
    (∃ traffic, (∀ m ∈ traffic, m.info.kind = .state)
      ∧ (g.hub.post c.outbox [reply]).outbox c.outbox
        = (h.hub.outbox c.outbox).deliverAll (traffic ++ [reply]))
      ∧ ((h.hub.outbox c.outbox).closed = false →
        ∃ before, ((g.hub.post c.outbox [reply]).outbox c.outbox).queue = before ++ [reply]) := by
  obtain ⟨hholds, traffic, hstate, hafter⟩ := htells
  have hpost := (g.hub.outbox_mapOutbox c.outbox (·.deliverAll [reply]) hholds).2
  rw [if_pos rfl] at hpost
  refine ⟨⟨traffic, hstate, ?_⟩, fun hopen => ?_⟩
  · rw [Hub.post, hpost, hafter, Mailbox.deliverAll_append]
  · rw [Hub.post, hpost]
    refine Mailbox.queue_deliver _ ?_ reply
    rw [hafter, Mailbox.closed_deliverAll, hopen]

/-- The answer to a commit that was made. -/
theorem Answered.synced_of_recorded {tid : Tid} (htells : h.hub.Tells c.outbox g.hub)
    (hrecorded : h.Recorded g tx tid) :
    c.Answered h (g.mapHub (·.post c.outbox [acknowledgement tx.info.contextId tid])) tx
      (acknowledgement tx.info.contextId tid) := by
  obtain ⟨henqueued, hqueued⟩ := enqueued_post htells (acknowledgement tx.info.contextId tid)
  have hrecorded' : h.Recorded
      (g.mapHub (·.post c.outbox [acknowledgement tx.info.contextId tid])) tx tid :=
    ⟨hrecorded.last_eq, hrecorded.newer, hrecorded.load_eq⟩
  refine ⟨henqueued, hqueued, ⟨rfl, rfl⟩, fun other => ⟨fun heq => ?_, fun hother => ?_⟩,
    ⟨fun ⟨code, _, heq⟩ => ?_, fun hsame => ?_⟩, .inl ⟨tid, hrecorded'⟩⟩
  · have htid : some tid = some other := congrArg (·.info.tid) heq
    rw [← Option.some.inj htid]
    exact hrecorded'
  · rw [Option.some.inj (hrecorded'.last_eq.symm.trans hother.last_eq)]
  · have hstatus : Status.synced = .closed := congrArg (·.info.status) heq
    cases hstatus
  · exact absurd hsame hrecorded'.not_unchanged

/-- The answer to a commit that was refused. -/
theorem Answered.closed_of_unchanged {code : ErrorCode} (hcode : code ≠ .nil)
    (htells : h.hub.Tells c.outbox g.hub) (hsame : h.Unchanged g) :
    c.Answered h (c.reply g .commit tx.info.contextId .closed code) tx
      (.ofStatus .commit tx.info.contextId .closed code) := by
  obtain ⟨henqueued, hqueued⟩ :=
    enqueued_post htells (.ofStatus .commit tx.info.contextId .closed code)
  have hsame' : h.Unchanged (c.reply g .commit tx.info.contextId .closed code) :=
    ⟨hsame.directory_eq, hsame.last_eq, hsame.closed_eq, hsame.pin?_eq⟩
  refine ⟨henqueued, hqueued, ⟨rfl, rfl⟩, fun tid => ⟨fun heq => ?_, fun hrecorded => ?_⟩,
    ⟨fun _ => hsame', fun _ => ⟨code, hcode, rfl⟩⟩, .inr hsame'⟩
  · have hstatus : Status.closed = .synced := congrArg (·.info.status) heq
    cases hstatus
  · exact absurd hsame' hrecorded.not_unchanged

/-- What a commit that is made does, up to the acknowledgement. -/
theorem recorded_of_commit {who : Login.Checkpoint} {box : OutboxId} {tid : Tid}
    (hresolver : h.resolver = Directory.resolver) (hholds : h.hub.Holds box)
    (hcommit : h.commit clock who tx = (.ok tid, g)) :
    h.Recorded g tx tid ∧ h.hub.Tells box g.hub := by
  obtain ⟨recorded, hrecord, rfl⟩ := Host.commit_eq_ok hcommit
  obtain ⟨content, directory, -, htid, -, hdirectory, rfl⟩ := Host.recordCommit_eq_ok hrecord
  rw [hresolver] at hdirectory
  injection hdirectory with hdirectory
  subst hdirectory
  refine ⟨⟨rfl, fun last hlast => ?_, fun cell => ?_⟩, ?_⟩
  · rw [hlast] at htid
    exact Tid.lt_of_successor htid
  · exact Directory.load_record _ _ _
  · exact Hub.Tells.publish hholds _

/-- A connection answers every commit, and the answer tells what has happened. -/
theorem answered_dispatch {history : List Tx} (hreach : h.Reachable history)
    (hholds : h.hub.Holds c.outbox) (hkind : tx.info.kind = .commit) (clock : ClockTime) :
    ∃ reply, c.Answered h (c.dispatch clock h tx).2 tx reply := by
  obtain ⟨hpruned, houtboxes, hresolver⟩ := prune_unchanged c h
  rw [hreach.ledger.resolver_eq] at hresolver
  have htold : h.hub.Tells c.outbox (c.prune h).2.hub := .of_eq hholds houtboxes
  have hdispatch : c.dispatch clock h tx = (c.prune h).1.commit clock (c.prune h).2 tx := by
    unfold dispatch
    rw [hkind]
  rw [hdispatch, Connection.commit]
  cases hcommit : (c.prune h).2.commit clock (c.prune h).1.who tx with
  | mk result g =>
      cases result with
      | error error =>
          have hcode := Host.code_ne_nil_of_commit hresolver hcommit
          rw [Host.commit_eq_error hcommit]
          exact ⟨_, .closed_of_unchanged hcode htold hpruned⟩
      | ok tid =>
          obtain ⟨hrecorded, htells⟩ := recorded_of_commit hresolver htold.1 hcommit
          exact ⟨_, .synced_of_recorded (htold.trans htells) (hrecorded.after hpruned)⟩

end Connection

end CellSync
