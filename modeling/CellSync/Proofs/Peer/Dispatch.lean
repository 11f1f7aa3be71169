/-
Connections that dispatch messages on one host: the steps of all of
them, in any order.

Every connection has a thread of its own, its desk. `Act` is what the
thread at a desk can do next: each act looks at or changes what stands
behind one lock. Commits exclude each other from the recording to the
last offer (`Task.turn?`), and nothing else excludes anything.

A message goes into a mailbox by a step of its own. What a session emits
is first on the tongue of the thread that moved the session, and is
handed over message by message before that thread does anything else,
while others do what they like. The log is what was handed over, in
order.

A desk can also close the pins of a client that has left, or shut the
host down. The steps are those of the operations: `alone_dispatch` puts
a dispatch together again.
-/
import Mathlib.Logic.Function.Basic
import Mathlib.Logic.Relation
import CellSync.Peer.Connection
import CellSync.Proofs.Host.Ledger

namespace CellSync

variable {ρ σ : Type}

-- ================================================================= posts

/-- Who hands a message to a mailbox. -/
inductive Author where
  /-- A session. -/
  | pin (id : PinId)
  /-- A connection that answers its client. `held` are the pins that it had when it
  took the client's message up. -/
  | answer (held : List PinId)

/-- A message for a mailbox. -/
structure Post where
  box : OutboxId
  author : Author
  tx : Tx

namespace Host

variable {h : Host ρ σ} {id : PinId} {step : PinSession → PinSession.Step}

/-- Takes one step of a session. -/
def stir (h : Host ρ σ) (id : PinId) (step : PinSession → PinSession.Step) : Host ρ σ :=
  match h.hub.pin? id with
  | none => h
  | some p => h.mapHub (·.setSession id (step p.session).1)

/-- What a session has to hand over in a step. -/
def utters (h : Host ρ σ) (id : PinId) (step : PinSession → PinSession.Step) : List Post :=
  match h.hub.pin? id with
  | none => []
  | some p => (step p.session).2.map (⟨p.outbox, .pin id, ·⟩)

def hand (h : Host ρ σ) (post : Post) : Host ρ σ := h.mapHub (·.post post.box [post.tx])

def handAll (h : Host ρ σ) (posts : List Post) : Host ρ σ := posts.foldl hand h

/-- Messages for one mailbox may be put there one by one. -/
theorem post_cons (hub : Hub) (box : OutboxId) (tx : Tx) (txs : List Tx) :
    (hub.post box [tx]).post box txs = hub.post box (tx :: txs) := by
  simp only [Hub.post, Hub.mapOutbox, List.map_map]
  congr 1
  refine List.map_congr_left fun entry _ => ?_
  by_cases hbox : entry.1 = box
  · simp [hbox, Mailbox.deliverAll]
  · simp [hbox]

/-- Handing over messages for one mailbox puts them there in order. -/
theorem handAll_map (h : Host ρ σ) (box : OutboxId) (author : Author) (txs : List Tx) :
    h.handAll (txs.map (⟨box, author, ·⟩)) = h.mapHub (·.post box txs) := by
  induction txs generalizing h with
  | nil =>
      have hsame : h.hub.post box [] = h.hub := by
        simp [Hub.post, Hub.mapOutbox, Mailbox.deliverAll]
      simp [handAll, mapHub, hsame]
  | cons tx txs ih =>
      show (h.hand ⟨box, author, tx⟩).handAll (txs.map (⟨box, author, ·⟩)) = _
      rw [ih]
      simp only [hand, mapHub, post_cons]

/-- A step of a session with all that it emits. -/
theorem handAll_utters (h : Host ρ σ) (id : PinId) (step : PinSession → PinSession.Step) :
    (h.stir id step).handAll (h.utters id step) = h.mapHub (·.advance id step) := by
  cases hpin : h.hub.pin? id with
  | none => simp [stir, utters, handAll, mapHub, Hub.advance, hpin]
  | some p =>
      simp only [stir, utters, hpin]
      rw [handAll_map]
      simp [mapHub, Hub.advance, hpin]

end Host

-- ================================================================= desks

/-- What the thread of a connection is at: nothing, a message that the client has
sent, or what comes next of it after each step. -/
inductive Task where
  | idle
  | received (tx : Tx)
  -- A pin is opened: the session is registered, the recorded commits are loaded, the
  -- session begins with them; at last the connection keeps the pin.
  | accepted (number : UInt64) (session : PinSession)
  | enrolled (number : UInt64) (id : PinId)
  | loaded (number : UInt64) (id : PinId) (backlog : List Tx)
  | begun (number : UInt64) (id : PinId)
  | opened (number : UInt64) (id : PinId)
  -- A pin is closed, after it was taken out of the registry.
  | closing (id : PinId) (code : ErrorCode)
  | unlisted (id : PinId) (code : ErrorCode)
  | closed (id : PinId)
  -- A commit may be made, is recorded, and is still to be offered to some sessions.
  | checked (tx : Tx)
  | recorded (tx : Tx) (tid : Tid)
  | offering (tx : Tx) (tid : Tid) (ids : List PinId)
  -- The host refuses new work, and some sessions are still to be closed for it.
  | flagged
  | striking (ids : List PinId)

namespace Task

/-- The commit that holds the lock. -/
def turn? : Task → Option Tid
  | recorded _ tid | offering _ tid _ => some tid
  | _ => none

/-- The pin that is being opened. -/
def opening? : Task → Option PinId
  | enrolled _ id | loaded _ id _ | begun _ id | opened _ id => some id
  | _ => none

end Task

/-- A connection, and the thread that serves it. -/
structure Desk where
  connection : Connection
  task : Task := .idle
  /-- The pins that the connection had when it took the last message up. -/
  held : List PinId := []
  /-- What is to be handed over before anything else is done. -/
  speech : List Post := []

def Desk.ids (d : Desk) : List PinId := d.connection.pins.map (·.2)

def Connection.answer (c : Connection) (held : List PinId) (tx : Tx) : Post :=
  ⟨c.outbox, .answer held, tx⟩

/-- Why a message is answered at once with a closed status, of some kind and with
some code. -/
inductive Refused (h : Host ρ σ) (c : Connection) (tx : Tx) : Kind → ErrorCode → Prop where
  | kind (hkind : tx.info.kind = .login ∨ tx.info.kind = .state) :
      Refused h c tx tx.info.kind .badRequest
  | number (hkind : tx.info.kind = .pinRequest)
      (hnumber : tx.info.contextId = 0 ∨ (c.pins.lookup tx.info.contextId).isSome) :
      Refused h c tx .state .badRequest
  | content {error : SessionError} (hkind : tx.info.kind = .pinRequest)
      (hread : Control.read PinRequest.ofJson? tx Control.pinAttr = .error error) :
      Refused h c tx .state error.code
  | request {request : PinRequest} {error : SessionError} (hkind : tx.info.kind = .pinRequest)
      (hread : Control.read PinRequest.ofJson? tx Control.pinAttr = .ok request)
      (hscreen : h.screen c.who tx.info.contextId request = .error error) :
      Refused h c tx .state error.code
  | unknown (hkind : tx.info.kind = .pinClose)
      (hlookup : c.pins.lookup tx.info.contextId = none) :
      Refused h c tx .state .requestNotFound
  | commit {error : SessionError} (hkind : tx.info.kind = .commit)
      (hcheck : h.checkCommit c.who tx = .error error) : Refused h c tx .commit error.code

/-- One act at a desk. A commit can be recorded only if the lock is free. -/
inductive Act (free : Prop) : Host ρ σ → Desk → Host ρ σ → Desk → Prop where
  | receive {h : Host ρ σ} {c : Connection} {held : List PinId} (tx : Tx) :
      Act free h ⟨c, .idle, held, []⟩ h ⟨c, .received tx, c.pins.map (·.2), []⟩
  /-- Lets go of a pin that is over. -/
  | letGo {h : Host ρ σ} {c : Connection} {held : List PinId} {tx : Tx}
      {before after : List (UInt64 × PinId)} {entry : UInt64 × PinId}
      (hpins : c.pins = before ++ entry :: after) (hclosed : h.hub.isClosed entry.2 = true) :
      Act free h ⟨c, .received tx, held, []⟩ (h.mapHub (·.drop entry.2))
        ⟨{ c with pins := before ++ after }, .received tx, held, []⟩
  | refuse {h : Host ρ σ} {c : Connection} {held : List PinId} {tx : Tx} {kind : Kind}
      {code : ErrorCode} (hrefused : Refused h c tx kind code) :
      Act free h ⟨c, .received tx, held, []⟩ h
        ⟨c, .idle, held, [c.answer held (.ofStatus kind tx.info.contextId .closed code)]⟩
  | accept {h : Host ρ σ} {c : Connection} {held : List PinId} {tx : Tx} {request : PinRequest}
      {session : PinSession} (hkind : tx.info.kind = .pinRequest)
      (hnumber : ¬(tx.info.contextId = 0 ∨ (c.pins.lookup tx.info.contextId).isSome))
      (hread : Control.read PinRequest.ofJson? tx Control.pinAttr = .ok request)
      (hscreen : h.screen c.who tx.info.contextId request = .ok session) :
      Act free h ⟨c, .received tx, held, []⟩ h
        ⟨c, .accepted tx.info.contextId session, held, []⟩
  | enroll {h : Host ρ σ} {c : Connection} {held : List PinId} {number : UInt64}
      {session : PinSession} :
      Act free h ⟨c, .accepted number session, held, []⟩ (h.enroll session c.outbox).2
        ⟨c, .enrolled number (h.enroll session c.outbox).1, held, []⟩
  | load {h : Host ρ σ} {c : Connection} {held : List PinId} {number : UInt64} {id : PinId} :
      Act free h ⟨c, .enrolled number id, held, []⟩ h
        ⟨c, .loaded number id (h.backlog id), held, []⟩
  | begin {h : Host ρ σ} {c : Connection} {held : List PinId} {number : UInt64} {id : PinId}
      {backlog : List Tx} :
      Act free h ⟨c, .loaded number id backlog, held, []⟩ (h.stir id (·.begin backlog))
        ⟨c, .begun number id, held, h.utters id (·.begin backlog)⟩
  | tidy {h : Host ρ σ} {c : Connection} {held : List PinId} {number : UInt64} {id : PinId} :
      Act free h ⟨c, .begun number id, held, []⟩ (h.tidy id) ⟨c, .opened number id, held, []⟩
  | keep {h : Host ρ σ} {c : Connection} {held : List PinId} {number : UInt64} {id : PinId}
      (hopen : h.hub.isClosed id = false) :
      Act free h ⟨c, .opened number id, held, []⟩ h
        ⟨{ c with pins := c.pins ++ [(number, id)] }, .idle, held, []⟩
  | forget {h : Host ρ σ} {c : Connection} {held : List PinId} {number : UInt64} {id : PinId}
      (hclosed : h.hub.isClosed id = true) :
      Act free h ⟨c, .opened number id, held, []⟩ (h.mapHub (·.drop id)) ⟨c, .idle, held, []⟩
  /-- The client closes a pin. -/
  | release {h : Host ρ σ} {c : Connection} {held : List PinId} {tx : Tx} {id : PinId}
      (hkind : tx.info.kind = .pinClose) (hlookup : c.pins.lookup tx.info.contextId = some id) :
      Act free h ⟨c, .received tx, held, []⟩ h
        ⟨{ c with pins := c.pins.filter fun (n, _) => n ≠ tx.info.contextId },
          .closing id .nil, held, []⟩
  /-- The client has left. -/
  | leave {h : Host ρ σ} {c : Connection} {held : List PinId} {entry : UInt64 × PinId}
      {rest : List (UInt64 × PinId)} (hpins : c.pins = entry :: rest) :
      Act free h ⟨c, .idle, held, []⟩ h
        ⟨{ c with pins := rest }, .closing entry.2 .notConnected, held, []⟩
  | unlist {h : Host ρ σ} {c : Connection} {held : List PinId} {id : PinId} {code : ErrorCode} :
      Act free h ⟨c, .closing id code, held, []⟩ (h.mapHub (·.unregister id))
        ⟨c, .unlisted id code, held, []⟩
  | close {h : Host ρ σ} {c : Connection} {held : List PinId} {id : PinId} {code : ErrorCode} :
      Act free h ⟨c, .unlisted id code, held, []⟩ (h.stir id (·.close code))
        ⟨c, .closed id, held, h.utters id (·.close code)⟩
  | drop {h : Host ρ σ} {c : Connection} {held : List PinId} {id : PinId} :
      Act free h ⟨c, .closed id, held, []⟩ (h.mapHub (·.drop id)) ⟨c, .idle, held, []⟩
  | check {h : Host ρ σ} {c : Connection} {held : List PinId} {tx : Tx}
      (hkind : tx.info.kind = .commit) (hcheck : h.checkCommit c.who tx = .ok ()) :
      Act free h ⟨c, .received tx, held, []⟩ h ⟨c, .checked tx, held, []⟩
  /-- A commit that is not recorded changes nothing, so it does not matter whether the
  lock is free. -/
  | fail {h : Host ρ σ} {c : Connection} {held : List PinId} {tx : Tx} {clock : ClockTime}
      {error : SessionError} (hrecord : h.recordCommit clock tx = .error error) :
      Act free h ⟨c, .checked tx, held, []⟩ h
        ⟨c, .idle, held, [c.answer held (.ofStatus .commit tx.info.contextId .closed error.code)]⟩
  | record {h h' : Host ρ σ} {c : Connection} {held : List PinId} {tx tx' : Tx}
      {clock : ClockTime} {tid : Tid} (hfree : free)
      (hrecord : h.recordCommit clock tx = .ok (tx', tid, h')) :
      Act free h ⟨c, .checked tx, held, []⟩ h' ⟨c, .recorded tx' tid, held, []⟩
  | look {h : Host ρ σ} {c : Connection} {held : List PinId} {tx : Tx} {tid : Tid} :
      Act free h ⟨c, .recorded tx tid, held, []⟩ h
        ⟨c, .offering tx tid (h.hub.snapshot tx), held, []⟩
  | offer {h : Host ρ σ} {c : Connection} {held : List PinId} {tx : Tx} {tid : Tid} {id : PinId}
      {ids : List PinId} :
      Act free h ⟨c, .offering tx tid (id :: ids), held, []⟩ (h.stir id (·.publish tx))
        ⟨c, .offering tx tid ids, held, h.utters id (·.publish tx)⟩
  /-- The lock is given back, and then the commit is acknowledged. -/
  | acknowledge {h : Host ρ σ} {c : Connection} {held : List PinId} {tx : Tx} {tid : Tid} :
      Act free h ⟨c, .offering tx tid [], held, []⟩ h
        ⟨c, .idle, held, [c.answer held (Connection.acknowledgement tx.info.contextId tid)]⟩
  | flag {h : Host ρ σ} {c : Connection} {held : List PinId} (hflag : h.shuttingDown = false) :
      Act free h ⟨c, .idle, held, []⟩ h.beginShutdown ⟨c, .flagged, held, []⟩
  | drain {h : Host ρ σ} {c : Connection} {held : List PinId} :
      Act free h ⟨c, .flagged, held, []⟩ (h.mapHub fun hub => hub.takeIndex.2)
        ⟨c, .striking h.hub.takeIndex.1, held, []⟩
  /-- The sessions are closed in any order. -/
  | strike {h : Host ρ σ} {c : Connection} {held : List PinId} {before after : List PinId}
      {id : PinId} :
      Act free h ⟨c, .striking (before ++ id :: after), held, []⟩
        (h.stir id (·.close .shuttingDown))
        ⟨c, .striking (before ++ after), held, h.utters id (·.close .shuttingDown)⟩
  | finish {h : Host ρ σ} {c : Connection} {held : List PinId} :
      Act free h ⟨c, .striking [], held, []⟩ h ⟨c, .idle, held, []⟩

-- ================================================================ crowds

/-- A host, the desks of its connections, and what was handed to mailboxes. -/
structure Crowd (ι ρ σ : Type) where
  host : Host ρ σ
  desks : ι → Desk
  log : List Post := []

namespace Crowd

variable {ι : Type} [DecidableEq ι]

/-- One step of somebody. -/
inductive Step : Crowd ι ρ σ → Crowd ι ρ σ → Prop where
  | act {w : Crowd ι ρ σ} (i : ι) {h' : Host ρ σ} {d' : Desk}
      (hact : Act (∀ j, (w.desks j).task.turn? = none) w.host (w.desks i) h' d') :
      Step w { w with host := h', desks := Function.update w.desks i d' }
  | hand {w : Crowd ι ρ σ} (i : ι) {post : Post} {rest : List Post}
      (hspeech : (w.desks i).speech = post :: rest) :
      Step w {
        host := w.host.hand post
        desks := Function.update w.desks i { w.desks i with speech := rest }
        log := w.log ++ [post] }
  /-- Whoever empties a mailbox, or closes it. -/
  | carry {w : Crowd ι ρ σ} (box : OutboxId) (f : Mailbox Tx → Mailbox Tx) :
      Step w { w with host := w.host.mapHub (·.mapOutbox box f) }

abbrev Run : Crowd ι ρ σ → Crowd ι ρ σ → Prop := Relation.ReflTransGen Step

-- ============================================================== one desk

variable {desks : ι → Desk} {i : ι} {h h' h'' : Host ρ σ} {d d' d'' : Desk} {c : Connection}
  {held : List PinId}

/-- One act at a desk, as a step of the crowd. -/
theorem step_act (log : List Post)
    (hact : Act (∀ j, (Function.update desks i d j).task.turn? = none) h d h' d') :
    Step ⟨h, Function.update desks i d, log⟩ ⟨h', Function.update desks i d', log⟩ := by
  have hact : Act (∀ j, (Function.update desks i d j).task.turn? = none) h
      (Function.update desks i d i) h' d' := by rwa [Function.update_self]
  have hstep := Step.act (w := ⟨h, Function.update desks i d, log⟩) i hact
  dsimp only at hstep
  rwa [Function.update_idem] at hstep

theorem run_act (log : List Post)
    (hact : Act (∀ j, (Function.update desks i d j).task.turn? = none) h d h' d') :
    Run ⟨h, Function.update desks i d, log⟩ ⟨h', Function.update desks i d', log⟩ :=
  .single (step_act log hact)

/-- A message that waits at a desk is handed over in one step. -/
theorem step_hand (desks : ι → Desk) (i : ι) (h : Host ρ σ) (log : List Post) (c : Connection)
    (task : Task) (held : List PinId) (post : Post) (rest : List Post) :
    Step ⟨h, Function.update desks i ⟨c, task, held, post :: rest⟩, log⟩
      ⟨h.hand post, Function.update desks i ⟨c, task, held, rest⟩, log ++ [post]⟩ := by
  have hself : Function.update desks i ⟨c, task, held, post :: rest⟩ i
      = ⟨c, task, held, post :: rest⟩ := Function.update_self ..
  have hspeech : (Function.update desks i ⟨c, task, held, post :: rest⟩ i).speech
      = post :: rest := by rw [hself]
  have hstep : Step ⟨h, Function.update desks i ⟨c, task, held, post :: rest⟩, log⟩ _ :=
    .hand i hspeech
  dsimp only at hstep
  rwa [Function.update_idem, hself] at hstep

theorem run_hand (desks : ι → Desk) (i : ι) (h : Host ρ σ) (log : List Post) (c : Connection)
    (task : Task) (held : List PinId) (post : Post) (rest : List Post) :
    Run ⟨h, Function.update desks i ⟨c, task, held, post :: rest⟩, log⟩
      ⟨h.hand post, Function.update desks i ⟨c, task, held, rest⟩, log ++ [post]⟩ :=
  .single (step_hand desks i h log c task held post rest)

/-- A desk gets from one state to another while all others stay as they are. -/
def Alone (desks : ι → Desk) (i : ι) (h : Host ρ σ) (d : Desk) (h' : Host ρ σ) (d' : Desk) :
    Prop :=
  ∀ log, ∃ log', Run ⟨h, Function.update desks i d, log⟩ ⟨h', Function.update desks i d', log'⟩

theorem Alone.refl (h : Host ρ σ) (d : Desk) : Alone desks i h d h d := fun log => ⟨log, .refl⟩

/-- What a desk does alone it may do in parts. -/
theorem Alone.trans (hfirst : Alone desks i h d h' d') (hrest : Alone desks i h' d' h'' d'') :
    Alone desks i h d h'' d'' := by
  intro log
  obtain ⟨log', hrun⟩ := hfirst log
  obtain ⟨log'', hrun'⟩ := hrest log'
  exact ⟨log'', hrun.trans hrun'⟩

/-- An act at a desk that has nothing to hand over. -/
theorem Alone.act (hact : Act (∀ j, (Function.update desks i d j).task.turn? = none) h d h' d') :
    Alone desks i h d h' d' := fun log => ⟨log, run_act log hact⟩

/-- What is to be handed over is handed over. -/
theorem Alone.hands (h : Host ρ σ) (c : Connection) (task : Task) (held : List PinId)
    (posts : List Post) :
    Alone desks i h ⟨c, task, held, posts⟩ (h.handAll posts) ⟨c, task, held, []⟩ := by
  induction posts generalizing h with
  | nil => exact .refl h _
  | cons post rest ih =>
      have hfirst : Alone desks i h ⟨c, task, held, post :: rest⟩ (h.hand post)
          ⟨c, task, held, rest⟩ := fun log => ⟨_, run_hand desks i h log c task held post rest⟩
      exact hfirst.trans (ih (h.hand post))

/-- A step of a session, with all that it emits. -/
theorem Alone.stir {id : PinId} {step : PinSession → PinSession.Step} {task : Task}
    (hact : Act (∀ j, (Function.update desks i d j).task.turn? = none) h d (h.stir id step)
      ⟨c, task, held, h.utters id step⟩) :
    Alone desks i h d (h.mapHub (·.advance id step)) ⟨c, task, held, []⟩ := by
  rw [← Host.handAll_utters]
  exact (Alone.act hact).trans (.hands _ c task held _)

/-- An act that ends with an answer, and the answer handed over. -/
theorem Alone.answer {tx : Tx}
    (hact : Act (∀ j, (Function.update desks i d j).task.turn? = none) h d h
      ⟨c, .idle, held, [c.answer held tx]⟩) :
    Alone desks i h d (h.mapHub (·.post c.outbox [tx])) ⟨c, .idle, held, []⟩ :=
  (Alone.act hact).trans (.hands h c .idle held _)

-- ================================================= the operations themselves

/-- Letting go of the pins that are over is a run of acts. -/
theorem alone_prune (c : Connection) (h : Host ρ σ) (tx : Tx) (held : List PinId) :
    Alone desks i h ⟨c, .received tx, held, []⟩ (c.prune h).2
      ⟨(c.prune h).1, .received tx, held, []⟩ := by
  -- The pins that were looked at and kept, and those that are still to be looked at.
  have hrest : ∀ (rest kept : List (UInt64 × PinId)) (g : Host ρ σ),
      (∀ entry, h.hub.isClosed entry = true → g.hub.isClosed entry = true) →
      Alone desks i g ⟨{ c with pins := kept ++ rest }, .received tx, held, []⟩
        ((rest.filter fun (_, id) => h.hub.isClosed id).foldl
          (fun g (_, id) => g.mapHub (·.drop id)) g)
        ⟨{ c with pins := kept ++ rest.filter fun (_, id) => !h.hub.isClosed id },
          .received tx, held, []⟩ := by
    intro rest
    induction rest with
    | nil => exact fun kept g _ => .refl g _
    | cons entry rest ih =>
        intro kept g hclosed
        cases hentry : h.hub.isClosed entry.2 with
        | true =>
            have hgo : Alone desks i g
                ⟨{ c with pins := kept ++ entry :: rest }, .received tx, held, []⟩ _ _ :=
              .act (.letGo rfl (hclosed _ hentry))
            simp only [List.filter_cons, hentry, if_true, Bool.not_true, Bool.false_eq_true,
              if_false, List.foldl_cons]
            exact hgo.trans (ih kept _ fun k hk => Hub.isClosed_drop (hclosed k hk))
        | false =>
            have hnext := ih (kept ++ [entry]) g hclosed
            simpa [hentry] using hnext
  exact hrest c.pins [] h fun _ => id

/-- Opening a pin is what a desk does with a request for one, when it is alone. -/
theorem alone_openPin (c : Connection) (h : Host ρ σ) (tx : Tx) (held : List PinId)
    (hkind : tx.info.kind = .pinRequest) :
    Alone desks i h ⟨c, .received tx, held, []⟩ (c.openPin h tx).2
      ⟨(c.openPin h tx).1, .idle, held, []⟩ := by
  unfold Connection.openPin
  dsimp only
  split
  next hnumber => exact .answer (.refuse (.number hkind hnumber))
  next hnumber =>
    split
    next error hread => exact .answer (.refuse (.content hkind hread))
    next request hread =>
      unfold Host.openPin
      cases hscreen : h.screen c.who tx.info.contextId request with
      | error error => exact .answer (.refuse (.request hkind hread hscreen))
      | ok session =>
          dsimp only
          have haccepted : Alone desks i h ⟨c, .received tx, held, []⟩ h
              ⟨c, .accepted tx.info.contextId session, held, []⟩ :=
            .act (.accept hkind hnumber hread hscreen)
          have hloaded := (haccepted.trans (.act .enroll)).trans (.act .load)
          have hopened := (hloaded.trans (.stir .begin)).trans (.act .tidy)
          split
          next hclosed => exact hopened.trans (.act (.forget hclosed))
          next hopen => exact hopened.trans (.act (.keep (Bool.eq_false_iff.mpr hopen)))

/-- Closing a pin is what it does with a word that closes one. -/
theorem alone_closePin (c : Connection) (h : Host ρ σ) (tx : Tx) (held : List PinId)
    (hkind : tx.info.kind = .pinClose) :
    Alone desks i h ⟨c, .received tx, held, []⟩ (c.closePin h tx).2
      ⟨(c.closePin h tx).1, .idle, held, []⟩ := by
  unfold Connection.closePin
  dsimp only
  split
  next id hlookup =>
    exact (((Alone.act (.release hkind hlookup)).trans (.act .unlist)).trans (.stir .close)).trans
      (.act .drop)
  next hlookup => exact .answer (.refuse (.unknown hkind hlookup))

/-- A commit is offered to session after session. -/
theorem alone_offers (c : Connection) (h : Host ρ σ) (tx : Tx) (tid : Tid) (held : List PinId)
    (ids : List PinId) :
    Alone desks i h ⟨c, .offering tx tid ids, held, []⟩
      (h.mapHub fun hub => ids.foldl (Hub.offer tx) hub) ⟨c, .offering tx tid [], held, []⟩ := by
  induction ids generalizing h with
  | nil => exact .refl h _
  | cons id ids ih => exact (Alone.stir .offer).trans (ih (h.mapHub (·.offer tx id)))

/-- Making a commit is what a desk does with one, if nobody else holds the lock. -/
theorem alone_commit (c : Connection) (clock : ClockTime) (h : Host ρ σ) (tx : Tx)
    (held : List PinId) (hkind : tx.info.kind = .commit)
    (hfree : ∀ j, j ≠ i → (desks j).task.turn? = none) :
    Alone desks i h ⟨c, .received tx, held, []⟩ (c.commit clock h tx).2
      ⟨(c.commit clock h tx).1, .idle, held, []⟩ := by
  unfold Connection.commit Host.commit
  cases hcheck : h.checkCommit c.who tx with
  | error error => exact .answer (.refuse (.commit hkind hcheck))
  | ok =>
      have hchecked : Alone desks i h ⟨c, .received tx, held, []⟩ h ⟨c, .checked tx, held, []⟩ :=
        .act (.check hkind hcheck)
      cases hrecord : h.recordCommit clock tx with
      | error error => exact hchecked.trans (.answer (.fail hrecord))
      | ok recorded =>
          obtain ⟨tx', tid, h'⟩ := recorded
          have hlock : ∀ j,
              (Function.update desks i ⟨c, .checked tx, held, []⟩ j).task.turn? = none := by
            intro j
            by_cases hj : j = i
            · rw [hj, Function.update_self]
              rfl
            · rw [Function.update_of_ne hj]
              exact hfree j hj
          have hrecorded := hchecked.trans (.act (.record hlock hrecord))
          have hoffered := (hrecorded.trans (.act .look)).trans (alone_offers c h' tx' tid held _)
          have hnumber : tx'.info.contextId = tx.info.contextId := by
            obtain ⟨_, _, -, -, htx, -⟩ := Host.recordCommit_eq_ok hrecord
            rw [htx]
            rfl
          rw [← hnumber]
          exact hoffered.trans (.answer .acknowledge)

/-- Handling a message is a run of acts. -/
theorem alone_dispatch (c : Connection) (clock : ClockTime) (h : Host ρ σ) (tx : Tx)
    (held : List PinId) (hfree : ∀ j, j ≠ i → (desks j).task.turn? = none) :
    Alone desks i h ⟨c, .idle, held, []⟩ (c.dispatch clock h tx).2
      ⟨(c.dispatch clock h tx).1, .idle, c.pins.map (·.2), []⟩ := by
  have hreceived : Alone desks i h ⟨c, .idle, held, []⟩ (c.prune h).2
      ⟨(c.prune h).1, .received tx, c.pins.map (·.2), []⟩ :=
    (Alone.act (.receive tx)).trans (alone_prune c h tx _)
  unfold Connection.dispatch
  dsimp only
  split
  next hkind => exact hreceived.trans (alone_openPin _ _ tx _ hkind)
  next hkind => exact hreceived.trans (alone_closePin _ _ tx _ hkind)
  next hkind => exact hreceived.trans (alone_commit _ clock _ tx _ hkind hfree)
  next hkind =>
    have hrefused := Refused.kind (h := (c.prune h).2) (c := (c.prune h).1) (.inl hkind)
    rw [hkind] at hrefused
    exact hreceived.trans (.answer (.refuse hrefused))
  next hkind =>
    have hrefused := Refused.kind (h := (c.prune h).2) (c := (c.prune h).1) (.inr hkind)
    rw [hkind] at hrefused
    exact hreceived.trans (.answer (.refuse hrefused))

/-- Closing the pins of a client that has left is a run of acts. -/
theorem alone_teardown (c : Connection) (h : Host ρ σ) (held : List PinId) :
    Alone desks i h ⟨c, .idle, held, []⟩ (c.teardown h).2 ⟨(c.teardown h).1, .idle, held, []⟩ := by
  have hpins : ∀ (pins : List (UInt64 × PinId)) (g : Host ρ σ),
      Alone desks i g ⟨{ c with pins := pins }, .idle, held, []⟩
        (pins.foldl (fun g (_, id) => (g.closePin id .notConnected).2.mapHub (·.drop id)) g)
        ⟨{ c with pins := [] }, .idle, held, []⟩ := by
    intro pins
    induction pins with
    | nil => exact fun g => .refl g _
    | cons entry pins ih =>
        intro g
        have hleft : Alone desks i g ⟨{ c with pins := entry :: pins }, .idle, held, []⟩ _ _ :=
          .act (.leave rfl)
        have hunlisted := hleft.trans (.act .unlist)
        exact ((hunlisted.trans (.stir .close)).trans (.act .drop)).trans (ih _)
  exact hpins c.pins h

/-- Shutting the host down is a run of acts. -/
theorem alone_shutdown (c : Connection) (h : Host ρ σ) (held : List PinId) :
    Alone desks i h ⟨c, .idle, held, []⟩ h.shutdown ⟨c, .idle, held, []⟩ := by
  have hstrike : ∀ (ids : List PinId) (g : Host ρ σ),
      Alone desks i g ⟨c, .striking ids, held, []⟩
        (g.mapHub fun hub => (hub.closeEach .shuttingDown ids).2) ⟨c, .idle, held, []⟩ := by
    intro ids
    induction ids with
    | nil => exact fun g => .act .finish
    | cons id ids ih =>
        intro g
        have hstruck : Alone desks i g ⟨c, .striking ([] ++ id :: ids), held, []⟩
            (g.mapHub (·.advance id (·.close .shuttingDown)))
            ⟨c, .striking ([] ++ ids), held, []⟩ := .stir .strike
        exact hstruck.trans (ih _)
  unfold Host.shutdown
  split
  · exact .refl h _
  next hflag =>
    have hflagged : Alone desks i h ⟨c, .idle, held, []⟩ h.beginShutdown ⟨c, .flagged, held, []⟩ :=
      .act (.flag (Bool.eq_false_iff.mpr hflag))
    exact (hflagged.trans (.act .drain)).trans (hstrike _ _)

end Crowd

end CellSync
