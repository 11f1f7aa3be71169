/-
What an acknowledged commit has brought about is there before the
acknowledgement.

The pins of a connection may be told of a commit by the thread of any
other connection, and the connection acknowledges its own commits when
the lock has been given back. Still, when a commit is acknowledged, the
pins that its connection had when it took the commit up have handed over
all that they will ever tell of it and of earlier commits
(`acknowledged_last`).

An open pin tells of a commit only while the commit holds the lock
(`Inv.spoken`). Whoever acknowledges a commit has held the lock with it,
and every commit that holds the lock later is newer (`Settled`). A pin
that is being opened tells of old commits at any time, but no connection
had it yet when it took up what it acknowledges (`Known`).
-/
import CellSync.Proofs.Host.Delivery
import CellSync.Proofs.Peer.Dispatch
import CellSync.Proofs.Pin.Grammar

namespace CellSync

-- ============================================================== messages

namespace PinSession

/-- That a session is up to date tells of no change. -/
theorem not_syncing_of_mem_settle {s : PinSession} {m : Tx} (hmem : m ∈ s.settle.2) :
    m.info.status ≠ .syncing := by
  by_cases hmode : s.mode = .closeOnSync
  · rw [settle_of_eq hmode] at hmem
    rcases List.mem_pair.mp hmem with rfl | rfl <;> nofun
  · rw [settle_of_ne hmode] at hmem
    rw [List.mem_singleton.mp hmem]
    nofun

/-- A session that is offered a change tells of no other change. -/
theorem tid_of_mem_publish {s : PinSession} {tx m : Tx} (hmem : m ∈ (s.publish tx).2)
    (hsyncing : m.info.status = .syncing) : m.info.tid = tx.info.tid := by
  have hemit : ∀ t : PinSession, m ∈ (t.emit tx).2 → m.info.tid = tx.info.tid := by
    intro t hmem
    rcases emit_cases t tx with hnone | ⟨-, -, hsome⟩
    · simp [hnone] at hmem
    · rw [hsome, List.mem_singleton] at hmem
      rw [hmem]
      rfl
  unfold publish at hmem
  split at hmem
  · cases hmem
  · cases hmem
  all_goals
    dsimp only at hmem
    split at hmem
    · cases hmem
    split at hmem
    · cases hmem
    rcases List.mem_append.mp hmem with hstate | hrest
    · exact hemit _ hstate
    · exact absurd hsyncing (not_syncing_of_mem_settle hrest)

/-- A session that is closed tells of no change. -/
theorem not_syncing_of_mem_close {s : PinSession} {code : ErrorCode} {m : Tx}
    (hmem : m ∈ (s.close code).2) : m.info.status ≠ .syncing := by
  unfold close at hmem
  split at hmem
  · cases hmem
  · rw [List.mem_singleton.mp hmem]
    nofun

end PinSession

namespace Post

/-- The change that a message tells of. -/
def tells? (post : Post) : Option Tid :=
  if post.tx.info.status = .syncing then post.tx.info.tid else none

/-- The commit that a message acknowledges. -/
def acknowledges? (post : Post) : Option Tid :=
  if post.tx.info.kind = .commit ∧ post.tx.info.status = .synced then post.tx.info.tid else none

/-- Whether one message may be handed over before another: if it acknowledges a commit,
then no pin that was held when the commit was taken up tells of that commit, or of one
before it, in the other. -/
def Leaves (first later : Post) : Prop :=
  ∀ held id tid told, first.author = .answer held → later.author = .pin id → id ∈ held →
    first.acknowledges? = some tid → later.tells? = some told → tid < told

end Post

-- ================================================================ effects

variable {ρ σ : Type} {h h' : Host ρ σ} {c : Connection} {d d' : Desk} {free : Prop}
  {held : List PinId} {task task' : Task}

/-- The commit that holds the lock has the identifier that will be acknowledged. -/
def Task.Dated : Task → Prop
  | recorded tx tid | offering tx tid _ => tx.info.tid = some tid
  | _ => True

/-- What may be handed over after an act. -/
def Post.Spoken (d d' : Desk) (post : Post) : Prop :=
  match post.author with
  | .pin id => d'.task.opening? = some id
      ∨ ∀ told, post.tells? = some told → d'.task.turn? = some told
  | .answer held => held = d'.held
      ∧ ∀ tid, post.acknowledges? = some tid → d.task.turn? = some tid ∧ d'.task.turn? = none

/-- What an act comes to, as far as locks, pins and messages go. -/
structure Effect (free : Prop) (h : Host ρ σ) (d : Desk) (h' : Host ρ σ) (d' : Desk) : Prop where
  dated : d'.task.Dated
  next_le : h.hub.next ≤ h'.hub.next
  turn : (h'.last = h.last ∧ ∀ tid, d'.task.turn? = some tid → d.task.turn? = some tid)
    ∨ free ∧ ∃ tid, d'.task.turn? = some tid ∧ h'.last = some tid
      ∧ ∀ last, h.last = some last → last < tid
  opening : ∀ id, d'.task.opening? = some id →
    d.task.opening? = some id ∨ h.hub.next ≤ id ∧ id < h'.hub.next
  ids : ∀ id ∈ d'.ids, id ∈ d.ids ∨ d.task.opening? = some id ∧ d'.task.opening? = none
  held : ∀ id ∈ d'.held, id ∈ d.held ∨ id ∈ d.ids
  spoken : ∀ post ∈ d'.speech, post.Spoken d d'

/-- Most acts neither take a lock nor open a pin, and keep no pin that was not kept. -/
theorem Effect.quiet (hnext : h'.hub.next = h.hub.next) (hlast : h'.last = h.last)
    (hturn : d'.task.turn? = d.task.turn?) (hopening : d'.task.opening? = d.task.opening?)
    (hdated : d'.task.Dated) (hids : ∀ id ∈ d'.ids, id ∈ d.ids)
    (hheld : ∀ id ∈ d'.held, id ∈ d.held ∨ id ∈ d.ids)
    (hspoken : ∀ post ∈ d'.speech, post.Spoken d d') : Effect free h d h' d' where
  dated := hdated
  next_le := Nat.le_of_eq hnext.symm
  turn := .inl ⟨hlast, fun _ htid => hturn ▸ htid⟩
  opening := fun _ hid => .inl (hopening ▸ hid)
  ids := fun id hid => .inl (hids id hid)
  held := hheld
  spoken := hspoken

/-- A desk may let go of pins as it goes on. -/
theorem Effect.pins {pins : List (UInt64 × PinId)} (hnext : h'.hub.next = h.hub.next)
    (hlast : h'.last = h.last) (hturn : task'.turn? = task.turn?)
    (hopening : task'.opening? = task.opening?) (hdated : task'.Dated)
    (hpins : ∀ entry ∈ pins, entry ∈ c.pins) :
    Effect free h ⟨c, task, held, []⟩ h' ⟨{ c with pins := pins }, task', held, []⟩ := by
  refine .quiet hnext hlast hturn hopening hdated (fun id hid => ?_) (fun _ => .inl)
    fun _ hmem => absurd hmem List.not_mem_nil
  obtain ⟨entry, hentry, rfl⟩ := List.mem_map.mp hid
  exact List.mem_map_of_mem (hpins entry hentry)

/-- An act that says nothing, and changes only what the desk is at. -/
theorem Effect.silent (hnext : h'.hub.next = h.hub.next) (hlast : h'.last = h.last)
    (hturn : task'.turn? = task.turn?) (hopening : task'.opening? = task.opening?)
    (hdated : task'.Dated) : Effect free h ⟨c, task, held, []⟩ h' ⟨c, task', held, []⟩ :=
  .pins hnext hlast hturn hopening hdated fun _ hentry => hentry

/-- A step of a session gives out no name. -/
theorem next_stir (h : Host ρ σ) (id : PinId) (step : PinSession → PinSession.Step) :
    (h.stir id step).hub.next = h.hub.next := by
  unfold Host.stir
  split <;> rfl

/-- Nor does it record anything. -/
theorem last_stir (h : Host ρ σ) (id : PinId) (step : PinSession → PinSession.Step) :
    (h.stir id step).last = h.last := by
  unfold Host.stir
  split <;> rfl

/-- Tidying up gives out no name. -/
theorem next_tidy (h : Host ρ σ) (id : PinId) : (h.tidy id).hub.next = h.hub.next := by
  unfold Host.tidy
  split <;> rfl

theorem last_tidy (h : Host ρ σ) (id : PinId) : (h.tidy id).last = h.last := by
  unfold Host.tidy
  split <;> rfl

/-- What a session utters is its own, from the step that it takes. -/
theorem author_of_mem_utters {id : PinId} {step : PinSession → PinSession.Step} {post : Post}
    (hmem : post ∈ h.utters id step) :
    post.author = .pin id ∧ ∃ s, post.tx ∈ (step s).2 := by
  unfold Host.utters at hmem
  split at hmem
  · cases hmem
  next p _ =>
    obtain ⟨m, hm, rfl⟩ := List.mem_map.mp hmem
    exact ⟨rfl, p.session, hm⟩

/-- A step of a session. -/
theorem Effect.stir {id : PinId} {step : PinSession → PinSession.Step}
    (hturn : task'.turn? = task.turn?) (hopening : task'.opening? = task.opening?)
    (hdated : task'.Dated)
    (hspoken : ∀ s, ∀ m ∈ (step s).2, task'.opening? = some id
      ∨ (m.info.status = .syncing → ∀ told, m.info.tid = some told → task'.turn? = some told)) :
    Effect free h ⟨c, task, held, []⟩ (h.stir id step) ⟨c, task', held, h.utters id step⟩ := by
  refine .quiet (next_stir h id step) (last_stir h id step) hturn hopening hdated
    (fun _ hid => hid) (fun _ => .inl) fun post hmem => ?_
  obtain ⟨hauthor, s, hm⟩ := author_of_mem_utters hmem
  unfold Post.Spoken
  rw [hauthor]
  refine (hspoken s post.tx hm).imp_right fun htold told htells => ?_
  unfold Post.tells? at htells
  split at htells
  next hsyncing => exact htold hsyncing told htells
  · cases htells

/-- The client is told that something came to nothing. -/
theorem Effect.refusal {kind : Kind} {number : UInt64} {code : ErrorCode}
    (hturn : task.turn? = none) (hopening : task.opening? = none) :
    Effect free h ⟨c, task, held, []⟩ h
      ⟨c, .idle, held, [c.answer held (.ofStatus kind number .closed code)]⟩ := by
  refine .quiet rfl rfl hturn.symm hopening.symm trivial (fun _ hid => hid) (fun _ => .inl)
    fun post hmem => ?_
  rw [List.mem_singleton.mp hmem]
  refine ⟨rfl, fun tid htid => ?_⟩
  simp [Post.acknowledges?, Connection.answer, Tx.ofStatus] at htid

/-- A session that is closed tells of no commit. -/
theorem Effect.closing {id : PinId} {code : ErrorCode} (hturn : task'.turn? = task.turn?)
    (hopening : task'.opening? = task.opening?) (hdated : task'.Dated) :
    Effect free h ⟨c, task, held, []⟩ (h.stir id (·.close code))
      ⟨c, task', held, h.utters id (·.close code)⟩ :=
  .stir hturn hopening hdated fun _ _ hm =>
    .inr fun hsyncing => absurd hsyncing (PinSession.not_syncing_of_mem_close hm)

/-- Only here is a name given out, and it is a new one. -/
theorem Effect.enroll {number : UInt64} {session : PinSession} :
    Effect free h ⟨c, .accepted number session, held, []⟩ (h.enroll session c.outbox).2
      ⟨c, .enrolled number (h.enroll session c.outbox).1, held, []⟩ := by
  have hnext : (h.enroll session c.outbox).2.hub.next = h.hub.next + 1 := Hub.next_register _ _
  refine ⟨trivial, ?_, .inl ⟨rfl, fun _ htid => htid⟩, fun id hid => ?_, fun _ => .inl,
    fun _ => .inl, fun _ hmem => absurd hmem List.not_mem_nil⟩
  · rw [hnext]
    exact Nat.le_succ _
  · rw [← Option.some.inj hid, hnext]
    exact .inr ⟨Nat.le_refl _, Nat.lt_succ_self _⟩

/-- Opening a pin is over, and nothing else comes to be kept than that pin. -/
theorem Effect.opened {number : UInt64} {id : PinId} {pins : List (UInt64 × PinId)}
    (hnext : h'.hub.next = h.hub.next) (hlast : h'.last = h.last)
    (hpins : ∀ entry ∈ pins, entry ∈ c.pins ∨ entry.2 = id) :
    Effect free h ⟨c, .opened number id, held, []⟩ h' ⟨{ c with pins := pins }, .idle, held, []⟩ := by
  refine ⟨trivial, Nat.le_of_eq hnext.symm, .inl ⟨hlast, fun _ htid => htid⟩, by simp [Task.opening?],
    fun k hk => ?_, fun _ => .inl, fun _ hmem => absurd hmem List.not_mem_nil⟩
  obtain ⟨entry, hentry, rfl⟩ := List.mem_map.mp hk
  rcases hpins entry hentry with hold | hnew
  · exact .inl (List.mem_map_of_mem hold)
  · rw [hnew]
    exact .inr ⟨rfl, rfl⟩

/-- The lock is taken with a commit that is newer than every other. -/
theorem Effect.recorded {tx tx' : Tx} {clock : ClockTime} {tid : Tid} (hfree : free)
    (hrecord : h.recordCommit clock tx = .ok (tx', tid, h')) :
    Effect free h ⟨c, .checked tx, held, []⟩ h' ⟨c, .recorded tx' tid, held, []⟩ := by
  obtain ⟨content, directory, -, htid, htx, -, hhost⟩ := Host.recordCommit_eq_ok hrecord
  refine ⟨?_, ?_, .inr ⟨hfree, tid, rfl, ?_, fun last hlast => ?_⟩, fun _ => .inl, fun _ => .inl,
    fun _ => .inl, fun _ hmem => absurd hmem List.not_mem_nil⟩
  · rw [htx]
    rfl
  · rw [hhost]
  · rw [hhost]
  · rw [hlast] at htid
    exact Tid.lt_of_successor htid

/-- The lock has been given back when the commit that held it is acknowledged. -/
theorem Effect.acknowledged {tx : Tx} {tid : Tid} {number : UInt64} :
    Effect free h ⟨c, .offering tx tid [], held, []⟩ h
      ⟨c, .idle, held, [c.answer held (Connection.acknowledgement number tid)]⟩ := by
  refine ⟨trivial, Nat.le_refl _, .inl ⟨rfl, by simp [Task.turn?]⟩, fun _ => .inl, fun _ => .inl,
    fun _ => .inl, fun post hmem => ?_⟩
  rw [List.mem_singleton.mp hmem]
  exact ⟨rfl, fun _ htid => ⟨htid, rfl⟩⟩

/-- What each act comes to. -/
theorem Act.effect (hact : Act free h d h' d') (hdated : d.task.Dated) : Effect free h d h' d' := by
  cases hact with
  | receive tx =>
      exact .quiet rfl rfl rfl rfl trivial (fun _ hid => hid) (fun _ => .inr)
        fun _ hmem => absurd hmem List.not_mem_nil
  | letGo hpins _ =>
      refine .pins rfl rfl rfl rfl trivial fun entry hentry => ?_
      rw [hpins]
      exact ((List.sublist_cons_self _ _).append_left _).subset hentry
  | refuse _ | fail _ => exact .refusal rfl rfl
  | accept | load | unlist | drop | check | flag | drain | finish =>
      exact .silent rfl rfl rfl rfl trivial
  | enroll => exact .enroll
  | begin => exact .stir rfl rfl trivial fun _ _ _ => .inl rfl
  | tidy => exact .silent (next_tidy h _) (last_tidy h _) rfl rfl trivial
  | keep hopen =>
      exact .opened rfl rfl fun entry hentry =>
        (List.mem_append.mp hentry).imp_right fun hnew => by rw [List.mem_singleton.mp hnew]
  | forget _ => exact .opened rfl rfl fun _ => .inl
  | release _ _ =>
      exact .pins rfl rfl rfl rfl trivial fun _ hentry => (List.mem_filter.mp hentry).1
  | leave hpins =>
      refine .pins rfl rfl rfl rfl trivial fun _ hentry => ?_
      rw [hpins]
      exact List.mem_cons_of_mem _ hentry
  | close | strike => exact .closing rfl rfl trivial
  | record hfree hrecord => exact .recorded hfree hrecord
  | look => exact .silent rfl rfl rfl rfl hdated
  | offer =>
      refine .stir rfl rfl hdated fun _ m hm => .inr fun hsyncing told htold => ?_
      rw [PinSession.tid_of_mem_publish hm hsyncing] at htold
      exact hdated.symm.trans htold
  | acknowledge => exact .acknowledged

-- ============================================================= invariant

namespace Crowd

variable {ι : Type} {w w' : Crowd ι ρ σ}

/-- A pin whose opening is over. -/
def Known (w : Crowd ι ρ σ) (id : PinId) : Prop :=
  id < w.host.hub.next ∧ ∀ j, (w.desks j).task.opening? ≠ some id

/-- A commit that was made before every commit that holds the lock. -/
def Settled (w : Crowd ι ρ σ) (tid : Tid) : Prop :=
  (∃ last, w.host.last = some last ∧ tid ≤ last)
    ∧ ∀ j turn, (w.desks j).task.turn? = some turn → tid < turn

/-- A message that was handed over, or is about to be. -/
def Has (w : Crowd ι ρ σ) (post : Post) : Prop := post ∈ w.log ∨ ∃ j, post ∈ (w.desks j).speech

/-- What every interleaving keeps. -/
structure Inv (w : Crowd ι ρ σ) : Prop where
  dated : ∀ j, (w.desks j).task.Dated
  alone : ∀ j k tid tid', (w.desks j).task.turn? = some tid → (w.desks k).task.turn? = some tid' →
    j = k
  last_eq : ∀ j tid, (w.desks j).task.turn? = some tid → w.host.last = some tid
  opening_lt : ∀ j id, (w.desks j).task.opening? = some id → id < w.host.hub.next
  opening_one : ∀ j k id, (w.desks j).task.opening? = some id →
    (w.desks k).task.opening? = some id → j = k
  known : ∀ j id, id ∈ (w.desks j).ids ∨ id ∈ (w.desks j).held → w.Known id
  /-- A pin tells of a commit whose turn it is, or while it is opened. -/
  spoken : ∀ j, ∀ post ∈ (w.desks j).speech, ∀ id, post.author = .pin id →
    (w.desks j).task.opening? = some id
      ∨ ∀ told, post.tells? = some told → (w.desks j).task.turn? = some told
  answered : ∀ post, w.Has post → ∀ held, post.author = .answer held →
    (∀ id ∈ held, w.Known id) ∧ ∀ tid, post.acknowledges? = some tid → w.Settled tid
  ordered : w.log.Pairwise Post.Leaves

/-- A crowd in which nobody has begun yet. -/
structure Start (w : Crowd ι ρ σ) : Prop where
  idle : ∀ j, (w.desks j).task = .idle ∧ (w.desks j).held = [] ∧ (w.desks j).speech = []
  pins_lt : ∀ j, ∀ id ∈ (w.desks j).ids, id < w.host.hub.next
  log_eq : w.log = []

/-- A crowd in which nobody has begun keeps it. -/
theorem Inv.start (h : w.Start) : Inv w := by
  have hturn : ∀ j, (w.desks j).task.turn? = none := by
    intro j
    rw [(h.idle j).1]
    rfl
  have hopening : ∀ j, (w.desks j).task.opening? = none := by
    intro j
    rw [(h.idle j).1]
    rfl
  have hnone : ∀ post, ¬w.Has post := by
    rintro post (hlog | ⟨j, hspeech⟩)
    · simp [h.log_eq] at hlog
    · simp [(h.idle j).2.2] at hspeech
  refine ⟨?_, by simp [hturn], by simp [hturn], by simp [hopening], by simp [hopening], ?_, ?_,
    fun post hpost => absurd hpost (hnone post), ?_⟩
  · intro j
    rw [(h.idle j).1]
    trivial
  · intro j id hid
    rw [(h.idle j).2.1] at hid
    exact ⟨h.pins_lt j id (hid.resolve_right List.not_mem_nil), by simp [hopening]⟩
  · intro j post hmem
    exact absurd (.inr ⟨j, hmem⟩) (hnone post)
  · rw [h.log_eq]
    exact .nil

-- ========================================================= handing over

/-- A message handed over, as far as the crowd is concerned. -/
structure Handed (post : Post) (w w' : Crowd ι ρ σ) : Prop where
  task : ∀ j, (w'.desks j).task = (w.desks j).task
  ids : ∀ j, (w'.desks j).ids = (w.desks j).ids
  held : ∀ j, (w'.desks j).held = (w.desks j).held
  speech : ∀ j, ∀ said ∈ (w'.desks j).speech, said ∈ (w.desks j).speech
  said : ∃ j, post ∈ (w.desks j).speech
  next_eq : w'.host.hub.next = w.host.hub.next
  last_eq : w'.host.last = w.host.last
  log_eq : w'.log = w.log ++ [post]

variable {post : Post}

/-- Handing a message over opens no pin, and ends no opening. -/
theorem Handed.known_iff (hh : Handed post w w') (id : PinId) : w'.Known id ↔ w.Known id := by
  simp [Known, hh.task, hh.next_eq]

/-- Nor does it take the lock, or give it back. -/
theorem Handed.settled_iff (hh : Handed post w w') (tid : Tid) :
    w'.Settled tid ↔ w.Settled tid := by
  simp [Settled, hh.task, hh.last_eq]

/-- A message that is handed over was about to be. -/
theorem Handed.has (hh : Handed post w w') {said : Post} (hsaid : w'.Has said) : w.Has said := by
  rcases hsaid with hlogged | ⟨j, hmem⟩
  · rw [hh.log_eq, List.mem_append, List.mem_singleton] at hlogged
    rcases hlogged with hold | rfl
    · exact .inl hold
    · exact .inr hh.said
  · exact .inr ⟨j, hh.speech j said hmem⟩

/-- Whatever is to be handed over may come after all that has been handed over. -/
theorem Inv.leaves (h : Inv w) {j : ι} {first : Post} (hfirst : first ∈ w.log)
    (hmem : post ∈ (w.desks j).speech) : first.Leaves post := by
  intro held id tid told hanswer hpin hid hacknowledges htells
  obtain ⟨hheld, hsettled⟩ := h.answered first (.inl hfirst) held hanswer
  rcases h.spoken j post hmem id hpin with hopening | hturn
  · -- The pin was known already when the commit was taken up.
    exact absurd hopening ((hheld id hid).2 j)
  · exact (hsettled tid hacknowledges).2 j told (hturn told htells)

/-- So handing over keeps the invariant. -/
theorem Inv.handed (h : Inv w) (hh : Handed post w w') : Inv w' := by
  have htask := hh.task
  refine ⟨?_, ?_, ?_, ?_, ?_, ?_, ?_, ?_, ?_⟩
  · simpa only [htask] using h.dated
  · simpa only [htask] using h.alone
  · simpa only [htask, hh.last_eq] using h.last_eq
  · simpa only [htask, hh.next_eq] using h.opening_lt
  · simpa only [htask] using h.opening_one
  · intro j id hid
    rw [hh.ids, hh.held] at hid
    exact (hh.known_iff id).mpr (h.known j id hid)
  · intro j said hmem
    rw [htask]
    exact h.spoken j said (hh.speech j said hmem)
  · intro said hsaid held hauthor
    simpa only [hh.known_iff, hh.settled_iff] using h.answered said (hh.has hsaid) held hauthor
  · obtain ⟨j, hmem⟩ := hh.said
    rw [hh.log_eq, List.pairwise_append]
    refine ⟨h.ordered, List.pairwise_singleton _ _, fun first hfirst later hlater => ?_⟩
    rw [List.mem_singleton.mp hlater]
    exact h.leaves hfirst hmem

-- ======================================================== one step each

variable [DecidableEq ι] {i : ι}

/-- A message that waits at a desk is handed over. -/
theorem handed_hand {rest : List Post} (hspeech : (w.desks i).speech = post :: rest) :
    Handed post w {
      host := w.host.hand post
      desks := Function.update w.desks i { w.desks i with speech := rest }
      log := w.log ++ [post] } := by
  refine ⟨fun j => ?_, fun j => ?_, fun j => ?_, fun j said hmem => ?_, ⟨i, by simp [hspeech]⟩,
    rfl, rfl, rfl⟩
  · by_cases hj : j = i <;> simp [hj]
  · by_cases hj : j = i <;> simp [hj, Desk.ids]
  · by_cases hj : j = i <;> simp [hj]
  · dsimp only at hmem
    by_cases hj : j = i
    · subst hj
      rw [Function.update_self] at hmem
      rw [hspeech]
      exact List.mem_cons_of_mem _ hmem
    · rwa [Function.update_of_ne hj] at hmem

/-- An act at a desk, as far as the crowd is concerned. -/
structure Shift (i : ι) (w w' : Crowd ι ρ σ) : Prop where
  other : ∀ j, j ≠ i → w'.desks j = w.desks j
  log_eq : w'.log = w.log
  effect : Effect (∀ j, (w.desks j).task.turn? = none) w.host (w.desks i) w'.host (w'.desks i)

namespace Shift

/-- A commit that holds the lock now has held it before, or has just taken it. -/
theorem turn (hs : Shift i w w') {j : ι} {tid : Tid} (h : (w'.desks j).task.turn? = some tid) :
    ((w.desks j).task.turn? = some tid ∧ w'.host.last = w.host.last)
      ∨ (j = i ∧ (∀ k, (w.desks k).task.turn? = none) ∧ w'.host.last = some tid
        ∧ ∀ last, w.host.last = some last → last < tid) := by
  by_cases hj : j = i
  · subst hj
    rcases hs.effect.turn with ⟨hlast, hold⟩ | ⟨hfree, tid', htid', hlast, hlt⟩
    · exact .inl ⟨hold tid h, hlast⟩
    · injection h.symm.trans htid' with heq
      subst heq
      exact .inr ⟨rfl, hfree, hlast, hlt⟩
  · rw [hs.other j hj] at h
    rcases hs.effect.turn with ⟨hlast, -⟩ | ⟨hfree, -⟩
    · exact .inl ⟨h, hlast⟩
    · simp [hfree j] at h

/-- A pin that is being opened now was opened before, or has a new name. -/
theorem opening (hs : Shift i w w') {j : ι} {id : PinId}
    (h : (w'.desks j).task.opening? = some id) :
    (w.desks j).task.opening? = some id
      ∨ (j = i ∧ w.host.hub.next ≤ id ∧ id < w'.host.hub.next) := by
  by_cases hj : j = i
  · subst hj
    exact (hs.effect.opening id h).imp_right fun hnew => ⟨rfl, hnew⟩
  · rw [hs.other j hj] at h
    exact .inl h

/-- A pin that was known stays known. -/
theorem known (hs : Shift i w w') {id : PinId} (h : w.Known id) : w'.Known id := by
  refine ⟨Nat.lt_of_lt_of_le h.1 hs.effect.next_le, fun j hj => ?_⟩
  rcases hs.opening hj with hold | ⟨-, hle, -⟩
  · exact h.2 j hold
  · exact Nat.not_lt.mpr hle h.1

/-- A commit that was settled stays settled: the lock is taken for newer ones only. -/
theorem settled (hs : Shift i w w') {tid : Tid} (h : w.Settled tid) : w'.Settled tid := by
  obtain ⟨⟨last, hlast, hle⟩, hlt⟩ := h
  refine ⟨?_, fun j turn hj => ?_⟩
  · rcases hs.effect.turn with ⟨hsame, -⟩ | ⟨-, tid', -, hnew, hnewer⟩
    · exact ⟨last, hsame.trans hlast, hle⟩
    · exact ⟨tid', hnew, Nat.le_of_lt (Tid.lt_of_le_of_lt hle (hnewer last hlast))⟩
  · rcases hs.turn hj with ⟨hold, -⟩ | ⟨-, -, -, hnewer⟩
    · exact hlt j turn hold
    · exact Tid.lt_of_le_of_lt hle (hnewer last hlast)

/-- A connection keeps what it knew, and learns of the pin that it has just opened. -/
theorem known_of_mem (hs : Shift i w w') (h : Inv w) {j : ι} {id : PinId}
    (hid : id ∈ (w'.desks j).ids ∨ id ∈ (w'.desks j).held) : w'.Known id := by
  by_cases hj : j = i
  · subst hj
    rcases hid with hpin | hheld
    · rcases hs.effect.ids id hpin with hold | ⟨hwas, hnone⟩
      · exact hs.known (h.known j id (.inl hold))
      · refine ⟨Nat.lt_of_lt_of_le (h.opening_lt j id hwas) hs.effect.next_le, fun k hk => ?_⟩
        by_cases hkj : k = j
        · rw [hkj, hnone] at hk
          cases hk
        · rw [hs.other k hkj] at hk
          exact hkj (h.opening_one k j id hk hwas)
    · rcases hs.effect.held id hheld with hold | hpin
      · exact hs.known (h.known j id (.inr hold))
      · exact hs.known (h.known j id (.inl hpin))
  · rw [hs.other j hj] at hid
    exact hs.known (h.known j id hid)

/-- A commit is settled as soon as it has given the lock back. -/
theorem settled_of_turn (hs : Shift i w w') (h : Inv w) {tid : Tid}
    (hwas : (w.desks i).task.turn? = some tid) (hnone : (w'.desks i).task.turn? = none) :
    w'.Settled tid := by
  have hheld : ¬∀ j, (w.desks j).task.turn? = none := by
    intro hfree
    simp [hfree i] at hwas
  refine ⟨⟨tid, ?_, Nat.le_refl _⟩, fun k turn hk => ?_⟩
  · rcases hs.effect.turn with ⟨hlast, -⟩ | ⟨hfree, -⟩
    · exact hlast.trans (h.last_eq i tid hwas)
    · exact absurd hfree hheld
  · rcases hs.turn hk with ⟨hold, -⟩ | ⟨-, hfree, -⟩
    · rw [h.alone k i turn tid hold hwas, hnone] at hk
      cases hk
    · exact absurd hfree hheld

/-- What a pin tells, it tells while it is opened or while it is its commit's turn. -/
theorem spoken (hs : Shift i w w') (h : Inv w) {j : ι} {post : Post} {id : PinId}
    (hmem : post ∈ (w'.desks j).speech) (hauthor : post.author = .pin id) :
    (w'.desks j).task.opening? = some id
      ∨ ∀ told, post.tells? = some told → (w'.desks j).task.turn? = some told := by
  by_cases hj : j = i
  · subst hj
    have hspoken := hs.effect.spoken post hmem
    unfold Post.Spoken at hspoken
    rw [hauthor] at hspoken
    exact hspoken
  · rw [hs.other j hj] at hmem ⊢
    exact h.spoken j post hmem id hauthor

/-- An answer is given with the pins that are known, and for a commit that is settled. -/
theorem answered (hs : Shift i w w') (h : Inv w) {post : Post} {held : List PinId}
    (hpost : w'.Has post) (hauthor : post.author = .answer held) :
    (∀ id ∈ held, w'.Known id) ∧ ∀ tid, post.acknowledges? = some tid → w'.Settled tid := by
  have hold : w.Has post →
      (∀ id ∈ held, w'.Known id) ∧ ∀ tid, post.acknowledges? = some tid → w'.Settled tid := by
    intro hpost
    obtain ⟨hall, hacknowledged⟩ := h.answered post hpost held hauthor
    exact ⟨fun id hid => hs.known (hall id hid),
      fun tid htid => hs.settled (hacknowledged tid htid)⟩
  rcases hpost with hlogged | ⟨j, hmem⟩
  · rw [hs.log_eq] at hlogged
    exact hold (.inl hlogged)
  · by_cases hj : j = i
    · subst hj
      have hspoken := hs.effect.spoken post hmem
      unfold Post.Spoken at hspoken
      rw [hauthor] at hspoken
      obtain ⟨rfl, hacknowledges⟩ := hspoken
      refine ⟨fun id hid => hs.known_of_mem h (.inr hid), fun tid htid => ?_⟩
      exact hs.settled_of_turn h (hacknowledges tid htid).1 (hacknowledges tid htid).2
    · rw [hs.other j hj] at hmem
      exact hold (.inr ⟨j, hmem⟩)

end Shift

/-- Somebody does something. -/
theorem Inv.shift (h : Inv w) (hs : Shift i w w') : Inv w' := by
  refine ⟨?_, ?_, ?_, ?_, ?_, fun j id => hs.known_of_mem h, fun j post hmem id => hs.spoken h hmem,
    fun post hpost held => hs.answered h hpost, ?_⟩
  · intro j
    by_cases hj : j = i
    · rw [hj]
      exact hs.effect.dated
    · rw [hs.other j hj]
      exact h.dated j
  · intro j k tid tid' hj hk
    rcases hs.turn hj with ⟨hj, -⟩ | ⟨rfl, hfree, -⟩
    · rcases hs.turn hk with ⟨hk, -⟩ | ⟨-, hfree, -⟩
      · exact h.alone j k tid tid' hj hk
      · simp [hfree j] at hj
    · rcases hs.turn hk with ⟨hk, -⟩ | ⟨rfl, -⟩
      · simp [hfree k] at hk
      · rfl
  · intro j tid hj
    rcases hs.turn hj with ⟨hj, hlast⟩ | ⟨-, -, hlast, -⟩
    · rw [hlast]
      exact h.last_eq j tid hj
    · exact hlast
  · intro j id hj
    rcases hs.opening hj with hj | ⟨-, -, hlt⟩
    · exact Nat.lt_of_lt_of_le (h.opening_lt j id hj) hs.effect.next_le
    · exact hlt
  · intro j k id hj hk
    rcases hs.opening hj with hj | ⟨rfl, hle, -⟩
    · rcases hs.opening hk with hk | ⟨-, hle, -⟩
      · exact h.opening_one j k id hj hk
      · exact absurd (h.opening_lt j id hj) (Nat.not_lt.mpr hle)
    · rcases hs.opening hk with hk | ⟨rfl, -⟩
      · exact absurd (h.opening_lt k id hk) (Nat.not_lt.mpr hle)
      · rfl
  · rw [hs.log_eq]
    exact h.ordered

/-- An act at any desk keeps the invariant. -/
theorem Inv.act (h : Inv w) {h' : Host ρ σ} {d' : Desk}
    (hact : Act (∀ j, (w.desks j).task.turn? = none) w.host (w.desks i) h' d') :
    Inv { w with host := h', desks := Function.update w.desks i d' } := by
  have hself : Function.update w.desks i d' i = d' := Function.update_self ..
  refine h.shift (i := i) ⟨fun j hj => Function.update_of_ne hj .., rfl, ?_⟩
  show Effect _ w.host (w.desks i) h' (Function.update w.desks i d' i)
  rw [hself]
  exact hact.effect (h.dated i)

/-- So does every step of the crowd. -/
theorem Inv.step (h : Inv w) (hstep : Step w w') : Inv w' := by
  cases hstep with
  | act i hact => exact h.act hact
  | hand i hspeech => exact h.handed (handed_hand hspeech)
  | carry box f =>
      exact ⟨h.dated, h.alone, h.last_eq, h.opening_lt, h.opening_one, h.known, h.spoken,
        h.answered, h.ordered⟩

/-- So does a run. -/
theorem Inv.run (h : Inv w) (hrun : Run w w') : Inv w' := by
  induction hrun with
  | refl => exact h
  | tail _ hstep ih => exact ih.step hstep

-- ============================================================== an example

/-- A host with an open pin on its only cell. -/
def pinned : Host Directory Login.CheckpointTable :=
  { World.small with hub := {
      pins := [(0, ⟨⟨7, .ofWord 1, [], .maintain, .synced, .nil, none, []⟩, 1⟩)]
      outboxes := [(1, .ofCapacity 8)]
      index := [(.ofWord 1, 0)]
      next := 2 } }

/-- The connection that holds the pin. -/
def holder : Connection := ⟨World.someone, 1, [(7, 0)]⟩

/-- Two connections, one of them with the pin. -/
def small : Crowd Bool Directory Login.CheckpointTable :=
  ⟨pinned, Function.update (fun _ => ⟨⟨World.someone, 1, []⟩, .idle, [], []⟩) true
    ⟨holder, .idle, [], []⟩, []⟩

/-- Nobody has begun in the example. -/
theorem start_small : small.Start where
  idle := by
    intro j
    cases j <;> exact ⟨rfl, rfl, rfl⟩
  pins_lt := by decide
  log_eq := rfl

/-- The holder sets an attribute of the cell that it has pinned. -/
theorem run_small : ∃ w tid m rest, Run small w
    ∧ w.log = ⟨1, .pin 0, m⟩ :: rest ++ [⟨1, .answer [0], Connection.acknowledgement 0 tid⟩]
    ∧ m.info.status = .syncing ∧ m.info.tid = some tid := by
  obtain ⟨tid, htid⟩ := Tid.exists_successor (Frame.bytes (World.greeting.withTid none))
  have hrecord := Host.recordCommit_of_writable (h := pinned) rfl
    ⟨by decide, by decide⟩ ⟨by decide, by decide, by decide, by decide⟩ htid
  have hcheck : pinned.checkCommit holder.who World.greeting = .ok () := by rfl
  have hreceived : Run small ⟨pinned, Function.update _ true
      ⟨holder, .received World.greeting, [0], []⟩, []⟩ := run_act [] (.receive _)
  have hrecorded := (hreceived.trans (run_act [] (.check rfl hcheck))).trans
    (run_act [] (.record (by decide) hrecord))
  have hlooked := hrecorded.trans (run_act [] .look)
  have htargets : (World.greeting.withTid (some tid)).targets = [.ofWord 1] := by
    show TagId.distinct [.ofWord 1] = [.ofWord 1]
    simp [TagId.distinct, TagId.squeeze]
  have hsnapshot : pinned.hub.snapshot (World.greeting.withTid (some tid)) = [0] := by
    unfold Hub.snapshot
    rw [htargets]
    decide
  dsimp only at hlooked
  rw [hsnapshot] at hlooked
  -- The pin tells of the commit and that it is up to date again.
  have htold := ((hlooked.trans (run_act [] .offer)).trans (run_hand _ true _ [] _ _ _ _ _)).trans
    (run_hand _ true _ _ _ _ _ _ _)
  have hanswered := (htold.trans (run_act _ .acknowledge)).trans (run_hand _ true _ _ _ _ _ _ _)
  exact ⟨_, tid, _, _, hanswered, rfl, rfl, rfl⟩

-- ======================================================= acknowledgements

/-- In any order of the steps of any connections of a host: when a commit is
acknowledged, each pin that its connection had when it took the commit up has
already handed over what it ever tells of a commit with that identifier or a
smaller one. -/
theorem acknowledged_last (hstart : w.Start) (hrun : Run w w') {i j : Nat}
    {box box' : OutboxId} {number : UInt64} {held : List PinId} {id : PinId} {tid told : Tid}
    {m : Tx}
    (hacknowledged : w'.log[i]?
      = some ⟨box, .answer held, Connection.acknowledgement number tid⟩)
    (hheld : id ∈ held) (htold : w'.log[j]? = some ⟨box', .pin id, m⟩)
    (hsyncing : m.info.status = .syncing) (htid : m.info.tid = some told) (hle : told ≤ tid) :
    j < i := by
  have hordered := ((Inv.start hstart).run hrun).ordered
  obtain ⟨hi, hfirst⟩ := List.getElem?_eq_some_iff.mp hacknowledged
  obtain ⟨hj, hlater⟩ := List.getElem?_eq_some_iff.mp htold
  rcases Nat.lt_trichotomy i j with hlt | heq | hgt
  · have hleaves := List.pairwise_iff_getElem.mp hordered i j hi hj hlt
    rw [hfirst, hlater] at hleaves
    have hnewer : tid < told := hleaves held id tid told rfl rfl hheld rfl (by
      simp [Post.tells?, hsyncing, htid])
    exact absurd (Tid.lt_of_le_of_lt hle hnewer) (Nat.lt_irrefl _)
  · subst heq
    cases hfirst.symm.trans hlater
  · exact hgt

/-- In the example, the pin of the holder tells of the commit before the holder hears that it
was made. -/
theorem acknowledged_last_small : ∃ (w : Crowd Bool Directory Login.CheckpointTable)
    (i j : Nat) (tid : Tid) (m : Tx), Run small w
    ∧ w.log[i]? = some ⟨1, .answer [0], Connection.acknowledgement 0 tid⟩
    ∧ w.log[j]? = some ⟨1, .pin 0, m⟩ ∧ m.info.status = .syncing ∧ m.info.tid = some tid
    ∧ j < i := by
  obtain ⟨w, tid, m, rest, hrun, hlog, hsyncing, htid⟩ := run_small
  have hfirst : w.log[0]? = some ⟨1, .pin 0, m⟩ := by rw [hlog]; rfl
  have hlast : w.log[rest.length + 1]?
      = some ⟨1, .answer [0], Connection.acknowledgement 0 tid⟩ := by simp [hlog]
  exact ⟨w, _, 0, tid, m, hrun, hlast, hfirst, hsyncing, htid,
    acknowledged_last start_small hrun hlast (by simp) hfirst hsyncing htid (Nat.le_refl _)⟩

end Crowd

end CellSync
