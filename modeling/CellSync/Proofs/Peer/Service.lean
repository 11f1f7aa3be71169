/-
A host and all its connections, one whole operation after another.

An event is a message that a connection handles, a client that has left,
a commit or a shutdown by somebody else, or something that is done to a
mailbox or to the directory from outside. `Service.step` is what the
operations make of it, and `Service.told` lists what they hand over to
mailboxes, in order: after any event a mailbox is as before with what was
handed over to it delivered (`outbox_step`).

Every operation is put together from small steps of the host (`Stir`),
except that a connection answers and that a session is registered. Most
of what is true of all events is true of these steps.
-/
import CellSync.Proofs.Control
import CellSync.Proofs.Host.Delivery
import CellSync.Proofs.Peer.Answer
import CellSync.Proofs.Peer.Dispatch
import CellSync.Proofs.Pin.Registry

namespace CellSync

variable {ι ρ σ : Type}

-- ========================================================== handed over

namespace Host

/-- What a session hands over at a call. -/
def speaks (h : Host ρ σ) (id : PinId) (call : PinSession.Call) : List Post :=
  h.utters id (·.take call)

/-- What some sessions hand over that get the same call one after another. -/
def speaksEach (call : PinSession.Call) : List PinId → Host ρ σ → List Post
  | [], _ => []
  | id :: ids, h => h.speaks id call ++ speaksEach call ids (h.mapHub (·.advance id (·.take call)))

/-- What a host hands over when it opens a pin. -/
def openPosts (h : Host ρ σ) (box : OutboxId) (who : Login.Checkpoint) (number : UInt64)
    (request : PinRequest) : List Post :=
  match h.screen who number request with
  | .error _ => []
  | .ok session =>
    let (id, h) := h.enroll session box
    h.speaks id (.begin (h.backlog id))

/-- What a host hands over when it makes a commit. -/
def commitPosts (h : Host ρ σ) (clock : ClockTime) (who : Login.Checkpoint) (tx : Tx) :
    List Post :=
  match h.checkCommit who tx with
  | .error _ => []
  | .ok () =>
    match h.recordCommit clock tx with
    | .error _ => []
    | .ok (tx, _, h) => speaksEach (.publish tx) (h.hub.snapshot tx) h

def shutdownPosts (h : Host ρ σ) : List Post :=
  if h.shuttingDown then []
  else
    let (ids, hub) := h.hub.takeIndex
    speaksEach (.close .shuttingDown) ids { h.beginShutdown with hub }

end Host

namespace Connection

/-- What a connection and its host hand over when a pin is asked for. -/
def openPosts (c : Connection) (h : Host ρ σ) (held : List PinId) (tx : Tx) : List Post :=
  let number := tx.info.contextId
  let refusal (code : ErrorCode) := [c.answer held (.ofStatus .state number .closed code)]
  if number = 0 ∨ (c.pins.lookup number).isSome then refusal .badRequest
  else
    match Control.read PinRequest.ofJson? tx Control.pinAttr with
    | .error error => refusal error.code
    | .ok request =>
      match h.screen c.who number request with
      | .error error => refusal error.code
      | .ok _ => h.openPosts c.outbox c.who number request

def closePosts (c : Connection) (h : Host ρ σ) (held : List PinId) (tx : Tx) : List Post :=
  match c.pins.lookup tx.info.contextId with
  | some id => h.speaks id (.close .nil)
  | none => [c.answer held (.ofStatus .state tx.info.contextId .closed .requestNotFound)]

/-- The answer to a commit. -/
def verdict (tx : Tx) : Except SessionError Tid → Tx
  | .ok tid => acknowledgement tx.info.contextId tid
  | .error error => .ofStatus .commit tx.info.contextId .closed error.code

def commitPosts (c : Connection) (clock : ClockTime) (h : Host ρ σ) (held : List PinId) (tx : Tx) :
    List Post :=
  h.commitPosts clock c.who tx ++ [c.answer held (verdict tx (h.commit clock c.who tx).1)]

/-- The session that a connection is given for a message, if it asks for one. -/
def granted? (c : Connection) (h : Host ρ σ) (tx : Tx) : Option PinId :=
  let number := tx.info.contextId
  if tx.info.kind ≠ .pinRequest ∨ number = 0 ∨ (c.pins.lookup number).isSome then none
  else
    match Control.read PinRequest.ofJson? tx Control.pinAttr with
    | .error _ => none
    | .ok request => (h.openPin c.outbox c.who number request).1.toOption

/-- What is handed over when a message is handled. -/
def dispatchPosts (c : Connection) (clock : ClockTime) (h : Host ρ σ) (tx : Tx) : List Post :=
  let held := c.pins.map (·.2)
  let (c, h) := c.prune h
  match tx.info.kind with
  | .pinRequest => c.openPosts h held tx
  | .pinClose => c.closePosts h held tx
  | .commit => c.commitPosts clock h held tx
  | kind => [c.answer held (.ofStatus kind tx.info.contextId .closed .badRequest)]

/-- What is handed over when pins are closed for a client that has left. -/
def teardownPosts : List (UInt64 × PinId) → Host ρ σ → List Post
  | [], _ => []
  | (_, id) :: rest, h =>
    h.speaks id (.close .notConnected)
      ++ teardownPosts rest ((h.closePin id .notConnected).2.mapHub (·.drop id))

end Connection

-- =============================================================== services

/-- A host and its connections. -/
structure Service (ι ρ σ : Type) where
  host : Host ρ σ
  connections : ι → Connection

/-- What can happen to a host and its connections. -/
inductive Event (ι ρ : Type) where
  /-- A connection handles a message of its client. -/
  | message (i : ι) (clock : ClockTime) (tx : Tx)
  /-- The client of a connection has left. -/
  | departure (i : ι)
  /-- A commit that comes by no connection. -/
  | commit (clock : ClockTime) (who : Login.Checkpoint) (tx : Tx)
  | shutdown
  /-- Whoever empties a mailbox, or closes it. -/
  | carry (box : OutboxId) (f : Mailbox Tx → Mailbox Tx)
  /-- The directory is given other contents. -/
  | edit (directory : ρ)

namespace Service

variable [DecidableEq ι]

/-- One connection has done something. -/
def put (s : Service ι ρ σ) (i : ι) (after : Connection.After ρ σ) : Service ι ρ σ :=
  ⟨after.2, Function.update s.connections i after.1⟩

def step (s : Service ι ρ σ) : Event ι ρ → Service ι ρ σ
  | .message i clock tx => s.put i ((s.connections i).dispatch clock s.host tx)
  | .departure i => s.put i ((s.connections i).teardown s.host)
  | .commit clock who tx => { s with host := (s.host.commit clock who tx).2 }
  | .shutdown => { s with host := s.host.shutdown }
  | .carry box f => { s with host := s.host.mapHub (·.mapOutbox box f) }
  | .edit directory => { s with host := { s.host with directory } }

/-- Lets events happen one after another. -/
def play (s : Service ι ρ σ) (events : List (Event ι ρ)) : Service ι ρ σ := events.foldl step s

/-- What is handed over to mailboxes at an event. -/
def told (s : Service ι ρ σ) : Event ι ρ → List Post
  | .message i clock tx => (s.connections i).dispatchPosts clock s.host tx
  | .departure i => Connection.teardownPosts (s.connections i).pins s.host
  | .commit clock who tx => s.host.commitPosts clock who tx
  | .shutdown => s.host.shutdownPosts
  | .carry .. | .edit _ => []

/-- The first of some events happens, and the others to what it leaves. -/
theorem play_cons (s : Service ι ρ σ) (e : Event ι ρ) (events : List (Event ι ρ)) :
    s.play (e :: events) = (s.step e).play events := rfl

end Service

-- ============================================================ small steps

namespace PinSession

variable {s : PinSession}

/-- A session that is over stays as it is and tells nothing. -/
theorem take_of_isClosed (h : s.isClosed = true) (call : Call) : s.take call = (s, []) := by
  have hstatus := isClosed_iff.mp h
  cases call with
  | begin backlog =>
      show s.begin backlog = (s, [])
      unfold PinSession.begin
      rw [if_pos (by rw [hstatus]; decide)]
  | publish tx => exact publish_closed hstatus
  | close code =>
      show s.close code = (s, [])
      unfold PinSession.close
      rw [if_pos h]

end PinSession

namespace Hub

variable {hub : Hub} {id k : PinId} {session : PinSession} {box : OutboxId}

/-- What is found once a session is added and registered. -/
theorem pin?_add_register (hfresh : hub.Fresh) (session : PinSession) (box : OutboxId) (k : PinId) :
    ((hub.add session box).2.register hub.next).pin? k
      = if k = hub.next then some ⟨session, box⟩ else hub.pin? k := by
  have hpins : ((hub.add session box).2.register hub.next).pins
      = hub.pins ++ [(hub.next, ⟨session, box⟩)] := by
    unfold register
    split <;> rfl
  have hnone : hub.pins.lookup hub.next = none := hfresh.pin?_next
  rw [pin?, hpins, lookup_concat]
  by_cases hk : k = hub.next
  · rw [if_pos hk, if_pos hk, hk, hnone, Option.none_or]
  · rw [if_neg hk, if_neg hk, Option.or_none]
    rfl

/-- Its registration is the last of the index. -/
theorem index_add_register (hfresh : hub.Fresh) (session : PinSession) (box : OutboxId) :
    ((hub.add session box).2.register hub.next).index
      = hub.index ++ [(session.cell, hub.next)] := by
  have hnone : hub.pins.lookup hub.next = none := hfresh.pin?_next
  have hadded : (hub.add session box).2.pin? hub.next = some ⟨session, box⟩ := by
    show (hub.pins ++ [(hub.next, (⟨session, box⟩ : Pinned))]).lookup hub.next = _
    rw [lookup_concat, hnone, if_pos rfl, Option.none_or]
  rw [register, hadded]
  rfl

end Hub

/-- A small step of a host, with what it hands over. -/
inductive Stir : Host ρ σ → List Post → Host ρ σ → Prop where
  /-- Nothing happens to a session or a mailbox. -/
  | still {h h' : Host ρ σ} (hpins : h'.hub.pins = h.hub.pins)
      (hboxes : h'.hub.outboxes = h.hub.outboxes) (hindex : h'.hub.index ⊆ h.hub.index)
      (hnext : h'.hub.next = h.hub.next) (hresolver : h'.resolver = h.resolver) : Stir h [] h'
  | call (h : Host ρ σ) (id : PinId) (call : PinSession.Call) :
      Stir h (h.speaks id call) (h.mapHub (·.advance id (·.take call)))
  | drop {h : Host ρ σ} {id : PinId} (hclosed : h.hub.isClosed id = true) :
      Stir h [] (h.mapHub (·.drop id))

/-- Small steps of a host one after another, with all that they hand over. -/
inductive Stirs : Host ρ σ → List Post → Host ρ σ → Prop where
  | refl (h : Host ρ σ) : Stirs h [] h
  | tail {h h' h'' : Host ρ σ} {posts more : List Post} (hfirst : Stirs h posts h')
      (hlast : Stir h' more h'') : Stirs h (posts ++ more) h''

namespace Stirs

variable {h h' h'' : Host ρ σ} {posts more : List Post}

/-- One small step is some of them. -/
theorem single (hstir : Stir h posts h') : Stirs h posts h' := by
  have hone := (Stirs.refl h).tail hstir
  rwa [List.nil_append] at hone

/-- Small steps in a row hand over what the first ones do, and then what the others do. -/
theorem trans (hfirst : Stirs h posts h') (hrest : Stirs h' more h'') :
    Stirs h (posts ++ more) h'' := by
  induction hrest with
  | refl => rwa [List.append_nil]
  | tail _ hlast ih =>
      rw [← List.append_assoc]
      exact ih.tail hlast

/-- A step at which nothing is handed over. -/
theorem silent (hfirst : Stirs h posts h') (hlast : Stir h' [] h'') : Stirs h posts h'' := by
  have hall := hfirst.tail hlast
  rwa [List.append_nil] at hall

end Stirs

-- ====================================================== whole operations

namespace Host

variable {h h' : Host ρ σ}

/-- Taking a registration back tells nobody anything. -/
theorem stir_unregister (h : Host ρ σ) (id : PinId) : Stir h [] (h.mapHub (·.unregister id)) :=
  .still rfl rfl (fun _ hmem => (List.mem_filter.mp hmem).1) rfl rfl

/-- Nor does recording a commit: it is told of when it is published. -/
theorem stir_recordCommit {g : Host ρ σ} {clock : ClockTime} {tx tx' : Tx} {tid : Tid}
    (hrecord : h.recordCommit clock tx = .ok (tx', tid, g)) : Stir h [] g := by
  obtain ⟨_, _, -, -, -, -, rfl⟩ := recordCommit_eq_ok hrecord
  exact .still rfl rfl (List.Subset.refl _) rfl rfl

/-- Sessions that get one call after another hand over what they say in that order. -/
theorem stirs_calls (call : PinSession.Call) (ids : List PinId) (h : Host ρ σ) :
    Stirs h (speaksEach call ids h)
      (h.mapHub fun hub => ids.foldl (fun hub id => hub.advance id (·.take call)) hub) := by
  induction ids generalizing h with
  | nil => exact .refl h
  | cons id ids ih =>
      exact (Stirs.single (.call h id call)).trans (ih (h.mapHub (·.advance id (·.take call))))

/-- A pin is closed and let go of. -/
theorem stirs_closePin (h : Host ρ σ) (id : PinId) (code : ErrorCode) :
    Stirs h (h.speaks id (.close code)) ((h.closePin id code).2.mapHub (·.drop id)) := by
  have hunlisted : Stirs h [] (h.mapHub (·.unregister id)) := .single (stir_unregister h id)
  have hclosed := hunlisted.tail (.call _ id (.close code))
  exact hclosed.silent (.drop (Hub.isClosed_advance_close _ id code))

/-- A commit that is recorded is published to the sessions that want it, and nothing else is
said of it. -/
theorem stirs_commit (h : Host ρ σ) (clock : ClockTime) (who : Login.Checkpoint) (tx : Tx) :
    Stirs h (h.commitPosts clock who tx) (h.commit clock who tx).2 := by
  unfold commitPosts Host.commit
  cases h.checkCommit who tx with
  | error error => exact .refl h
  | ok =>
      cases hrecord : h.recordCommit clock tx with
      | error error => exact .refl h
      | ok recorded =>
          obtain ⟨tx', tid, g⟩ := recorded
          have hrecorded : Stirs h [] g := .single (stir_recordCommit hrecord)
          exact hrecorded.trans (stirs_calls (.publish tx') (g.hub.snapshot tx') g)

/-- A shutdown closes the sessions that are registered when the index is taken, one after
another. -/
theorem stirs_shutdown (h : Host ρ σ) : Stirs h h.shutdownPosts h.shutdown := by
  unfold shutdownPosts Host.shutdown
  split
  · exact .refl h
  · have hdrained : Stirs h [] { h.beginShutdown with hub := h.hub.takeIndex.2 } :=
      .single (.still rfl rfl (List.nil_subset _) rfl rfl)
    have hclosed := hdrained.trans (stirs_calls (.close .shuttingDown) h.hub.takeIndex.1 _)
    have hall : (h.beginShutdown.mapHub fun hub => (hub.closeAll .shuttingDown).2)
        = Host.mapHub { h.beginShutdown with hub := h.hub.takeIndex.2 } fun hub =>
          h.hub.takeIndex.1.foldl (fun hub id => hub.advance id (·.close .shuttingDown)) hub :=
      congrArg (fun hub => { h.beginShutdown with hub }) (Hub.closeEach_eq .shuttingDown _ _)
    rw [hall]
    exact hclosed

/-- What opening a pin comes to when the request is granted. -/
theorem openPin_of_screen (box : OutboxId) {who : Login.Checkpoint} {number : UInt64}
    {request : PinRequest} {session : PinSession}
    (hscreen : h.screen who number request = .ok session) :
    h.openPin box who number request = (.ok h.hub.next,
      ((h.enroll session box).2.begin h.hub.next
        ((h.enroll session box).2.backlog h.hub.next)).tidy h.hub.next) := by
  unfold openPin
  rw [hscreen]
  rfl

/-- What is handed over when a pin is opened is what its session says when it begins. -/
theorem openPosts_of_screen {box : OutboxId} {who : Login.Checkpoint} {number : UInt64}
    {request : PinRequest} {session : PinSession}
    (hscreen : h.screen who number request = .ok session) :
    h.openPosts box who number request
      = (h.enroll session box).2.speaks h.hub.next
        (.begin ((h.enroll session box).2.backlog h.hub.next)) := by
  unfold openPosts
  rw [hscreen]
  rfl

/-- A session that is registered and has begun. -/
theorem begin_enroll_effect (hfresh : h.hub.Fresh) (session : PinSession) (box : OutboxId)
    (backlog : List Tx) :
    (∀ k, ((h.enroll session box).2.begin h.hub.next backlog).hub.pin? k
        = if k = h.hub.next then some ⟨(session.begin backlog).1, box⟩ else h.hub.pin? k)
      ∧ ((h.enroll session box).2.begin h.hub.next backlog).hub.index
        = h.hub.index ++ [(session.cell, h.hub.next)]
      ∧ ((h.enroll session box).2.begin h.hub.next backlog).hub.next = h.hub.next + 1 := by
  have hfound := Hub.pin?_add_register hfresh session box
  refine ⟨fun k => ?_, ?_, ?_⟩
  · show ((h.enroll session box).2.hub.advance h.hub.next (·.begin backlog)).pin? k = _
    by_cases hk : k = h.hub.next
    · have hnew : (h.enroll session box).2.hub.pin? h.hub.next = some ⟨session, box⟩ :=
        (hfound h.hub.next).trans (if_pos rfl)
      rw [hk, Hub.pin?_advance_self hnew, if_pos rfl]
    · rw [Hub.pin?_advance_of_ne hk, if_neg hk]
      exact (hfound k).trans (if_neg hk)
  · show ((h.enroll session box).2.hub.advance h.hub.next (·.begin backlog)).index = _
    rw [Hub.index_advance]
    exact Hub.index_add_register hfresh session box
  · show ((h.enroll session box).2.hub.advance h.hub.next (·.begin backlog)).next = _
    rw [Hub.next_advance]
    exact Hub.next_register _ _

/-- A session that is over at once leaves the index in silence. -/
theorem stirs_tidy (h : Host ρ σ) (id : PinId) : Stirs h [] (h.tidy id) := by
  unfold tidy
  split
  · exact .single (stir_unregister h id)
  · exact .refl h

/-- Once its session is registered, a pin is opened by small steps. -/
theorem stirs_openPin (box : OutboxId) {who : Login.Checkpoint} {number : UInt64}
    {request : PinRequest} {session : PinSession}
    (hscreen : h.screen who number request = .ok session) :
    Stirs (h.enroll session box).2 (h.openPosts box who number request)
      (h.openPin box who number request).2 := by
  rw [openPin_of_screen box hscreen, openPosts_of_screen hscreen]
  have hbegun : Stirs (h.enroll session box).2 _ _ :=
    .single (.call _ h.hub.next (.begin ((h.enroll session box).2.backlog h.hub.next)))
  have htidied := hbegun.trans (stirs_tidy _ h.hub.next)
  rw [List.append_nil] at htidied
  exact htidied

end Host

namespace Connection

variable {h : Host ρ σ} {c : Connection}

/-- Pins that are over are let go of in silence: they have said so before. -/
theorem stirs_prune (c : Connection) (h : Host ρ σ) : Stirs h [] (c.prune h).2 := by
  have hall : ∀ (ended : List (UInt64 × PinId)) (g : Host ρ σ),
      (∀ entry ∈ ended, g.hub.isClosed entry.2 = true) →
      Stirs g [] (ended.foldl (fun g entry => g.mapHub (·.drop entry.2)) g) := by
    intro ended
    induction ended with
    | nil => exact fun g _ => .refl g
    | cons entry ended ih =>
        intro g hclosed
        obtain ⟨hentry, hrest⟩ := List.forall_mem_cons.mp hclosed
        exact (Stirs.single (.drop hentry)).trans
          (ih _ fun other hmem => Hub.isClosed_drop (hrest other hmem))
  exact hall _ h fun entry hmem => (List.mem_filter.mp hmem).2

/-- The pins of a client that has left are closed one after another. -/
theorem stirs_teardown (c : Connection) (h : Host ρ σ) :
    Stirs h (teardownPosts c.pins h) (c.teardown h).2 := by
  have hall : ∀ (pins : List (UInt64 × PinId)) (g : Host ρ σ), Stirs g (teardownPosts pins g)
      (pins.foldl (fun g entry => (g.closePin entry.2 .notConnected).2.mapHub (·.drop entry.2)) g) := by
    intro pins
    induction pins with
    | nil => exact .refl
    | cons entry pins ih => exact fun g => (g.stirs_closePin entry.2 .notConnected).trans (ih _)
  exact hall c.pins h

-- ============================================================== messages

/-- How a message is handled once the pins that are over are let go of: which session
the connection is given, what is handed over, and what the connection and the
host are afterwards. -/
inductive Handled (c : Connection) (clock : ClockTime) (h : Host ρ σ) (held : List PinId)
    (tx : Tx) : Option PinId → List Post → Connection → Host ρ σ → Prop where
  | refused {kind : Kind} {code : ErrorCode} (hrefused : Refused h c tx kind code) :
      Handled c clock h held tx none
        [c.answer held (.ofStatus kind tx.info.contextId .closed code)] c
        (h.hand (c.answer held (.ofStatus kind tx.info.contextId .closed code)))
  /-- The pin is over at once. -/
  | passed {request : PinRequest} {session : PinSession} {g : Host ρ σ}
      (hkind : tx.info.kind = .pinRequest)
      (hread : Control.read PinRequest.ofJson? tx Control.pinAttr = .ok request)
      (hscreen : h.screen c.who tx.info.contextId request = .ok session)
      (hopen : h.openPin c.outbox c.who tx.info.contextId request = (.ok h.hub.next, g))
      (hclosed : g.hub.isClosed h.hub.next = true) :
      Handled c clock h held tx (some h.hub.next)
        (h.openPosts c.outbox c.who tx.info.contextId request) c
        (g.mapHub (·.drop h.hub.next))
  | opened {request : PinRequest} {session : PinSession} {g : Host ρ σ}
      (hkind : tx.info.kind = .pinRequest) (hnumber : c.pins.lookup tx.info.contextId = none)
      (hread : Control.read PinRequest.ofJson? tx Control.pinAttr = .ok request)
      (hscreen : h.screen c.who tx.info.contextId request = .ok session)
      (hopen : h.openPin c.outbox c.who tx.info.contextId request = (.ok h.hub.next, g))
      (hclosed : g.hub.isClosed h.hub.next = false) :
      Handled c clock h held tx (some h.hub.next)
        (h.openPosts c.outbox c.who tx.info.contextId request)
        { c with pins := c.pins ++ [(tx.info.contextId, h.hub.next)] } g
  | closed {id : PinId} (hkind : tx.info.kind = .pinClose)
      (hlookup : c.pins.lookup tx.info.contextId = some id) :
      Handled c clock h held tx none (h.speaks id (.close .nil))
        { c with pins := c.pins.filter fun (n, _) => n ≠ tx.info.contextId }
        ((h.closePin id .nil).2.mapHub (·.drop id))
  | committed (hkind : tx.info.kind = .commit) :
      Handled c clock h held tx none
        (h.commitPosts clock c.who tx
          ++ [c.answer held (verdict tx (h.commit clock c.who tx).1)]) c
        ((h.commit clock c.who tx).2.hand
          (c.answer held (verdict tx (h.commit clock c.who tx).1)))

/-- A connection keeps its mailbox. -/
theorem Handled.outbox_eq {c' : Connection} {clock : ClockTime} {h' : Host ρ σ}
    {held : List PinId} {tx : Tx} {given : Option PinId} {posts : List Post}
    (hhandled : c.Handled clock h held tx given posts c' h') : c'.outbox = c.outbox := by
  cases hhandled <;> rfl

/-- A request for a pin is refused with an answer, or the session that is opened for it
speaks. -/
theorem handled_openPin (c : Connection) (clock : ClockTime) (h : Host ρ σ) (held : List PinId)
    {tx : Tx} (hkind : tx.info.kind = .pinRequest) :
    c.Handled clock h held tx (c.granted? h tx) (c.openPosts h held tx) (c.openPin h tx).1
      (c.openPin h tx).2 := by
  have hasks : ¬tx.info.kind ≠ .pinRequest := not_not.mpr hkind
  unfold Connection.openPin openPosts granted?
  simp only [hasks, false_or]
  split
  next hnumber => exact .refused (.number hkind hnumber)
  next hnumber =>
    cases hread : Control.read PinRequest.ofJson? tx Control.pinAttr with
    | error error => exact .refused (.content hkind hread)
    | ok request =>
        dsimp only
        cases hscreen : h.screen c.who tx.info.contextId request with
        | error error =>
            have hopen : h.openPin c.outbox c.who tx.info.contextId request
                = (.error error, h) := by
              unfold Host.openPin
              rw [hscreen]
            rw [hopen]
            exact .refused (.request hkind hread hscreen)
        | ok session =>
            have hopen := Host.openPin_of_screen c.outbox hscreen
            rw [hopen]
            dsimp only
            split
            next hclosed => exact .passed hkind hread hscreen hopen hclosed
            next hclosed =>
              refine .opened hkind ?_ hread hscreen hopen (Bool.eq_false_iff.mpr hclosed)
              exact Option.not_isSome_iff_eq_none.mp fun hsome => hnumber (.inr hsome)

/-- Closing a pin has an answer only if there is no such pin. -/
theorem handled_closePin (c : Connection) (clock : ClockTime) (h : Host ρ σ) (held : List PinId)
    {tx : Tx} (hkind : tx.info.kind = .pinClose) :
    c.Handled clock h held tx none (c.closePosts h held tx) (c.closePin h tx).1
      (c.closePin h tx).2 := by
  unfold Connection.closePin closePosts
  dsimp only
  cases hlookup : c.pins.lookup tx.info.contextId with
  | some id => exact .closed hkind hlookup
  | none => exact .refused (.unknown hkind hlookup)

/-- A commit is answered after everything that the sessions have to say of it. -/
theorem handled_commit (c : Connection) (clock : ClockTime) (h : Host ρ σ) (held : List PinId)
    {tx : Tx} (hkind : tx.info.kind = .commit) :
    c.Handled clock h held tx none (c.commitPosts clock h held tx) (c.commit clock h tx).1
      (c.commit clock h tx).2 := by
  have hcommitted : c.Handled clock h held tx none _ _ _ := .committed hkind
  unfold Connection.commit
  cases hcommit : h.commit clock c.who tx with
  | mk result g =>
      rw [hcommit] at hcommitted
      unfold commitPosts
      rw [hcommit]
      cases result with
      | ok tid => exact hcommitted
      | error error => exact hcommitted

/-- A session is given only to a message that asks for one. -/
theorem granted?_of_ne (c : Connection) (h : Host ρ σ) {tx : Tx}
    (hkind : tx.info.kind ≠ .pinRequest) : c.granted? h tx = none := if_pos (.inl hkind)

/-- Whatever a message is, pins that are over are let go of before it is looked at. -/
theorem handled_dispatch (c : Connection) (clock : ClockTime) (h : Host ρ σ) (tx : Tx) :
    (c.prune h).1.Handled clock (c.prune h).2 (c.pins.map (·.2)) tx
      ((c.prune h).1.granted? (c.prune h).2 tx) (c.dispatchPosts clock h tx)
      (c.dispatch clock h tx).1 (c.dispatch clock h tx).2 := by
  unfold dispatchPosts Connection.dispatch
  dsimp only
  cases hkind : tx.info.kind with
  | pinRequest => exact handled_openPin _ clock _ _ hkind
  | pinClose =>
      rw [granted?_of_ne _ _ (by simp [hkind])]
      exact handled_closePin _ clock _ _ hkind
  | commit =>
      rw [granted?_of_ne _ _ (by simp [hkind])]
      exact handled_commit _ clock _ _ hkind
  | login =>
      have hrefused : Refused (c.prune h).2 (c.prune h).1 tx tx.info.kind .badRequest :=
        .kind (.inl hkind)
      rw [hkind] at hrefused
      rw [granted?_of_ne _ _ (by simp [hkind])]
      exact .refused hrefused
  | state =>
      have hrefused : Refused (c.prune h).2 (c.prune h).1 tx tx.info.kind .badRequest :=
        .kind (.inr hkind)
      rw [hkind] at hrefused
      rw [granted?_of_ne _ _ (by simp [hkind])]
      exact .refused hrefused

end Connection

-- ================================================================ sequels

/-- A later state of the same host: it has the same resolver, and no name is given
out twice. -/
structure Sequel (h h' : Host ρ σ) : Prop where
  resolver_eq : h'.resolver = h.resolver
  fresh : h.hub.Fresh → h'.hub.Fresh

namespace Sequel

variable {h h' h'' : Host ρ σ} {posts : List Post}

/-- A host follows itself. -/
theorem refl (h : Host ρ σ) : Sequel h h := ⟨rfl, id⟩

/-- What follows on a sequel is a sequel. -/
theorem trans (hfirst : Sequel h h') (hrest : Sequel h' h'') : Sequel h h'' :=
  ⟨hrest.resolver_eq.trans hfirst.resolver_eq, fun hfresh => hrest.fresh (hfirst.fresh hfresh)⟩

/-- A step of the sessions and mailboxes leaves the resolver. -/
theorem move {f : Hub → Hub} (hmove : h.hub.Move (f h.hub)) : Sequel h (h.mapHub f) :=
  ⟨rfl, fun hfresh => hfresh.move hmove⟩

/-- Small steps lead to a later state. -/
theorem stirs (hstirs : Stirs h posts h') : Sequel h h' := by
  induction hstirs with
  | refl => exact .refl h
  | tail _ hlast ih =>
      refine ih.trans ?_
      cases hlast with
      | still hpins _ hindex hnext hresolver =>
          refine ⟨hresolver, fun hfresh => ⟨fun k hk => ?_, fun k hk => ?_⟩⟩
          · rw [hnext]
            rw [hpins] at hk
            exact hfresh.pins_lt k hk
          · rw [hnext]
            exact hfresh.index_lt k (List.map_subset _ hindex hk)
      | call id call => exact .move (.advance _ id _)
      | @drop id _ => exact .move (.drop _ id)

/-- A session is registered under a name that has not been given out. -/
theorem enroll (h : Host ρ σ) (session : PinSession) (box : OutboxId) :
    Sequel h (h.enroll session box).2 :=
  ⟨rfl, fun hfresh => (hfresh.move (.add h.hub session box)).move (.register _ _)⟩

/-- A mailbox that a message is handed to is the only thing that changes. -/
theorem hand (h : Host ρ σ) (post : Post) : Sequel h (h.hand post) :=
  .move (.mapOutbox h.hub post.box _)

/-- Opening a pin leads to a later state, and so does handling any message. -/
theorem openPin (box : OutboxId) {who : Login.Checkpoint} {number : UInt64}
    {request : PinRequest} {session : PinSession}
    (hscreen : h.screen who number request = .ok session) :
    Sequel h (h.openPin box who number request).2 :=
  (Sequel.enroll h session box).trans (.stirs (Host.stirs_openPin box hscreen))

theorem handled {c c' : Connection} {clock : ClockTime} {held : List PinId} {tx : Tx}
    {given : Option PinId} (hhandled : c.Handled clock h held tx given posts c' h') :
    Sequel h h' := by
  cases hhandled with
  | refused _ => exact .hand h _
  | passed _ _ hscreen hopen hclosed =>
      have hopened := Sequel.openPin c.outbox hscreen
      rw [hopen] at hopened
      exact hopened.trans (.move (.drop _ _))
  | opened _ _ _ hscreen hopen _ =>
      have hopened := Sequel.openPin c.outbox hscreen
      rw [hopen] at hopened
      exact hopened
  | @closed id _ _ => exact .stirs (h.stirs_closePin id .nil)
  | committed _ => exact (Sequel.stirs (h.stirs_commit clock c.who tx)).trans (.hand _ _)

end Sequel

-- ============================================================= mailboxes

/-- The messages among some posts that are for one mailbox. -/
def addressed (box : OutboxId) (posts : List Post) : List Tx :=
  (posts.filter fun post => post.box = box).map (·.tx)

/-- What is addressed to a mailbox keeps its order. -/
theorem addressed_append (box : OutboxId) (first later : List Post) :
    addressed box (first ++ later) = addressed box first ++ addressed box later := by
  rw [addressed, List.filter_append, List.map_append]
  rfl

/-- A mailbox gets what is handed over to it, and nothing else happens to it. -/
def Delivers (box : OutboxId) (h : Host ρ σ) (posts : List Post) (h' : Host ρ σ) : Prop :=
  h.hub.Holds box → h'.hub.Holds box
    ∧ h'.hub.outbox box = (h.hub.outbox box).deliverAll (addressed box posts)

namespace Delivers

variable {h h' h'' : Host ρ σ} {posts more : List Post} {box : OutboxId}

/-- Where the mailboxes are as before, nothing was handed over. -/
theorem of_eq (hboxes : h'.hub.outboxes = h.hub.outboxes) : Delivers box h [] h' := by
  intro hholds
  unfold Hub.Holds Hub.outbox at *
  rw [hboxes]
  exact ⟨hholds, rfl⟩

/-- What is handed over first is delivered first. -/
theorem trans (hfirst : Delivers box h posts h') (hrest : Delivers box h' more h'') :
    Delivers box h (posts ++ more) h'' := by
  intro hholds
  obtain ⟨hholds', hafter⟩ := hfirst hholds
  obtain ⟨hholds'', hafter'⟩ := hrest hholds'
  refine ⟨hholds'', ?_⟩
  rw [hafter', hafter, addressed_append, Mailbox.deliverAll_append]

/-- A message that is handed over is delivered to the mailbox that it is addressed to. -/
theorem hand (h : Host ρ σ) (post : Post) : Delivers box h [post] (h.hand post) := by
  intro hholds
  obtain ⟨hholds', hafter⟩ := h.hub.outbox_mapOutbox post.box (·.deliverAll [post.tx]) hholds
  refine ⟨hholds', hafter.trans ?_⟩
  by_cases hbox : post.box = box
  · rw [if_pos hbox.symm]
    simp [addressed, hbox]
  · rw [if_neg fun heq => hbox heq.symm]
    simp [addressed, hbox, Mailbox.deliverAll]

/-- Several messages are delivered in their order. -/
theorem handAll (h : Host ρ σ) (posts : List Post) : Delivers box h posts (h.handAll posts) := by
  induction posts generalizing h with
  | nil => exact .of_eq rfl
  | cons post posts ih => exact (Delivers.hand h post).trans (ih (h.hand post))

/-- What a session says at a call is delivered to its own mailbox. -/
theorem call (h : Host ρ σ) (id : PinId) (call : PinSession.Call) :
    Delivers box h (h.speaks id call) (h.mapHub (·.advance id (·.take call))) := by
  rw [← Host.handAll_utters]
  have hstirred : Delivers box h [] (h.stir id (·.take call)) := by
    refine .of_eq ?_
    unfold Host.stir
    split <;> rfl
  exact hstirred.trans (.handAll _ _)

/-- Small steps deliver what they hand over. -/
theorem stirs (hstirs : Stirs h posts h') : Delivers box h posts h' := by
  induction hstirs with
  | refl => exact .of_eq rfl
  | tail _ hlast ih =>
      refine ih.trans ?_
      cases hlast with
      | still _ hboxes => exact .of_eq hboxes
      | call id call => exact .call _ id call
      | drop _ => exact .of_eq rfl

/-- A session that is registered has said nothing yet. -/
theorem enroll (h : Host ρ σ) (session : PinSession) (b : OutboxId) :
    Delivers box h [] (h.enroll session b).2 := by
  refine .of_eq ?_
  show ((h.hub.add session b).2.register h.hub.next).outboxes = h.hub.outboxes
  unfold Hub.register
  split <;> rfl

/-- Handling a message delivers what is handed over, and then the answer. -/
theorem handled {c c' : Connection} {clock : ClockTime} {held : List PinId} {tx : Tx}
    {given : Option PinId} (hhandled : c.Handled clock h held tx given posts c' h') :
    Delivers box h posts h' := by
  cases hhandled with
  | refused _ => exact .hand h _
  | @passed request session g _ _ hscreen hopen hclosed =>
      have hstirs := Host.stirs_openPin c.outbox hscreen
      rw [hopen] at hstirs
      exact (Delivers.enroll h session c.outbox).trans (.stirs (hstirs.silent (.drop hclosed)))
  | @opened request session _ _ _ _ hscreen hopen _ =>
      have hstirs := Host.stirs_openPin c.outbox hscreen
      rw [hopen] at hstirs
      exact (Delivers.enroll h session c.outbox).trans (.stirs hstirs)
  | @closed id _ _ => exact .stirs (h.stirs_closePin id .nil)
  | committed _ => exact (Delivers.stirs (h.stirs_commit clock c.who tx)).trans (.hand _ _)

end Delivers

namespace Service

variable [DecidableEq ι] {s : Service ι ρ σ}

/-- Nobody else touches a mailbox at an event. -/
def Untouched (box : OutboxId) : Event ι ρ → Prop
  | .carry b _ => b ≠ box
  | _ => True

/-- An event that does not touch a mailbox from outside delivers to it what is handed over to
it. -/
theorem delivers_step (s : Service ι ρ σ) {e : Event ι ρ} {box : OutboxId}
    (huntouched : Untouched box e) : Delivers box s.host (s.told e) (s.step e).host := by
  cases e with
  | message i clock tx =>
      have hpruned : Delivers box s.host [] _ := .stirs ((s.connections i).stirs_prune s.host)
      exact hpruned.trans (.handled ((s.connections i).handled_dispatch clock s.host tx))
  | departure i => exact .stirs ((s.connections i).stirs_teardown s.host)
  | commit clock who tx => exact .stirs (s.host.stirs_commit clock who tx)
  | shutdown => exact .stirs s.host.stirs_shutdown
  | edit directory => exact .of_eq rfl
  | carry b f =>
      intro hholds
      obtain ⟨hholds', hafter⟩ := s.host.hub.outbox_mapOutbox b f hholds
      rw [if_neg fun heq => huntouched heq.symm] at hafter
      exact ⟨hholds', hafter⟩

/-- At an event each mailbox gets exactly what is handed over to it, in order. -/
theorem outbox_step (s : Service ι ρ σ) {e : Event ι ρ} {box : OutboxId}
    (hholds : s.host.hub.Holds box) (huntouched : Untouched box e) :
    (s.step e).host.hub.outbox box
      = (s.host.hub.outbox box).deliverAll (addressed box (s.told e)) :=
  (delivers_step s huntouched hholds).2

/-- Whatever happens, the host is a later state of what it was. -/
theorem sequel_step (s : Service ι ρ σ) (e : Event ι ρ) : Sequel s.host (s.step e).host := by
  cases e with
  | message i clock tx =>
      have hpruned : Sequel s.host _ := .stirs ((s.connections i).stirs_prune s.host)
      exact hpruned.trans (.handled ((s.connections i).handled_dispatch clock s.host tx))
  | departure i => exact .stirs ((s.connections i).stirs_teardown s.host)
  | commit clock who tx => exact .stirs (s.host.stirs_commit clock who tx)
  | shutdown => exact .stirs s.host.stirs_shutdown
  | carry box f => exact ⟨rfl, fun hfresh => hfresh.move (.mapOutbox s.host.hub box f)⟩
  | edit directory => exact ⟨rfl, id⟩

/-- A connection keeps its mailbox. -/
theorem outbox_connections (s : Service ι ρ σ) (e : Event ι ρ) (j : ι) :
    ((s.step e).connections j).outbox = (s.connections j).outbox := by
  cases e with
  | message i clock tx =>
      by_cases hj : j = i
      · subst hj
        show (Function.update s.connections j _ j).outbox = _
        rw [Function.update_self]
        exact ((s.connections j).handled_dispatch clock s.host tx).outbox_eq
      · exact congrArg Connection.outbox (Function.update_of_ne hj ..)
  | departure i =>
      by_cases hj : j = i
      · subst hj
        show (Function.update s.connections j _ j).outbox = _
        rw [Function.update_self]
        rfl
      · exact congrArg Connection.outbox (Function.update_of_ne hj ..)
  | commit _ _ _ | shutdown | carry _ _ | edit _ => rfl

-- ============================================================ an example

/-- Two connections on a host with one cell. -/
def pair : Service Bool Directory Login.CheckpointTable where
  host := { World.small with hub := {
    outboxes := [(0, .ofCapacity 8), (1, .ofCapacity 8)], next := 2 } }
  connections i := ⟨World.someone, if i then 1 else 0, []⟩

/-- A client asks for the cell. -/
def asking : Tx :=
  Control.wrap ⟨.pinRequest, none, 7, .notStarted, .nil⟩ Control.pinAttr
    (PinRequest.toJson World.asking.request)

/-- The request of the example can be read. -/
theorem read_asking :
    Control.read PinRequest.ofJson? asking Control.pinAttr = .ok World.asking.request :=
  Control.read_wrap (by rfl) (by decide)

end Service

end CellSync
