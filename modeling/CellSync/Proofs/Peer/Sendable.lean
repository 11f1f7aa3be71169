/-
Nothing that a client sends makes a host hang up on another.

The thread that delivers to a client gives up when a message cannot be
written. So every message that goes into a mailbox has to keep the limits
that the host writes under. There are four kinds: a change that a session
tells of, a status, an acknowledgement, a refusal. The last three carry
nothing but, at most, an identifier that is not zero. A change was read
under the same limits before it was recorded, and a session tells of less
than all of it, over the same data (`PinSession.sendable_take`).

Changes are kept in many places until they are told of: at a desk, in the
log of a cell, in a session that has not begun, in the backlog that was
loaded for it. The invariant is that wherever a message is kept it can be
sent (`Crowd.Sendable`).
-/
import CellSync.Proofs.Peer.Acknowledging
import CellSync.Proofs.Peer.Commit
import CellSync.Proofs.Pin.Passing
import CellSync.Proofs.Tx.Writer

namespace CellSync

variable {ι ρ σ : Type} {config : TxConfig}

-- ============================================================== messages

namespace Frame

variable {tx : Tx} {tid : Tid}

/-- What is read under some limits can be written under them. -/
theorem sendable_of_decode {buffer rest : ByteArray}
    (h : decode config buffer = .complete tx rest) : Sendable config tx := by
  obtain ⟨hin, hw, -⟩ := eq_bytes_append_of_decode h
  exact ⟨hin, hw⟩

/-- An identifier that is not zero may be given to what can be sent. -/
theorem Sendable.withTid (h : Sendable config tx) (hne : tid ≠ .zero) :
    Sendable config (tx.withTid (some tid)) := by
  obtain ⟨hin, hw⟩ := h
  exact ⟨hin, hw.body_le, hw.data_le, hw.refs, fun htid => hne (Option.some.inj htid)⟩

/-- A status carries nothing that limits could refuse. -/
theorem sendable_ofStatus (kind : Kind) (number : UInt64) (status : Status) (code : ErrorCode) :
    Sendable config (.ofStatus kind number status code) :=
  sendable_of_plain rfl rfl nofun

end Frame

-- ================================================================= hosts

/-- Whatever a host keeps of changes can be sent. -/
structure Host.Sendable (config : TxConfig) (h : Host Directory σ) : Prop where
  config_eq : h.config.tx = config
  resolver_eq : h.resolver = Directory.resolver
  logged : ∀ cell, ∀ tx ∈ h.directory.load cell, Frame.Sendable config tx
  kept : ∀ entry ∈ h.hub.pins, ∀ tx ∈ entry.2.session.early, Frame.Sendable config tx

namespace Host.Sendable

variable {h h' : Host Directory σ}

/-- A host that keeps no more sessions, and has the same directory, keeps nothing new. -/
theorem of_pins (hh : h.Sendable config) (hpins : h'.hub.pins ⊆ h.hub.pins)
    (hconfig : h'.config = h.config) (hresolver : h'.resolver = h.resolver)
    (hdirectory : h'.directory = h.directory) : h'.Sendable config := by
  refine ⟨?_, ?_, ?_, fun entry hmem => hh.kept entry (hpins hmem)⟩
  · rw [hconfig]
    exact hh.config_eq
  · rw [hresolver]
    exact hh.resolver_eq
  · rw [hdirectory]
    exact hh.logged

/-- Nothing new is kept where the sessions are among those from before. -/
theorem mapHub (hh : h.Sendable config) {f : Hub → Hub} (hpins : (f h.hub).pins ⊆ h.hub.pins) :
    (h.mapHub f).Sendable config :=
  hh.of_pins hpins rfl rfl rfl

theorem drop (hh : h.Sendable config) (id : PinId) : (h.mapHub (·.drop id)).Sendable config :=
  hh.mapHub fun _ hmem => (List.mem_filter.mp hmem).1

/-- Tidying up takes nothing in. -/
theorem tidy (hh : h.Sendable config) (id : PinId) : (h.tidy id).Sendable config := by
  unfold Host.tidy
  split
  · exact hh.mapHub (List.Subset.refl _)
  · exact hh

/-- A session that is registered brings what came early for it. -/
theorem enroll (hh : h.Sendable config) {session : PinSession}
    (hsession : ∀ tx ∈ session.early, Frame.Sendable config tx) (box : OutboxId) :
    (h.enroll session box).2.Sendable config := by
  refine ⟨hh.config_eq, hh.resolver_eq, hh.logged, fun entry hmem => ?_⟩
  have hpins : (h.enroll session box).2.hub.pins
      = h.hub.pins ++ [(h.hub.next, ⟨session, box⟩)] := by
    show ((h.hub.add session box).2.register h.hub.next).pins = _
    unfold Hub.register
    split <;> rfl
  rw [hpins] at hmem
  rcases List.mem_append.mp hmem with hold | hnew
  · exact hh.kept entry hold
  · rw [List.mem_singleton.mp hnew]
    exact hsession

/-- A session that is called has something to tell, and keeps something for later. -/
theorem stir (hh : h.Sendable config) (id : PinId) (call : PinSession.Call)
    (hcall : ∀ tx ∈ call.changes, Frame.Sendable config tx) :
    (h.stir id (·.take call)).Sendable config
      ∧ ∀ post ∈ h.utters id (·.take call), Frame.Sendable config post.tx := by
  unfold Host.stir Host.utters
  cases hpin : h.hub.pin? id with
  | none => exact ⟨hh, List.forall_mem_nil _⟩
  | some p =>
      obtain ⟨before, after, hpins, -⟩ := List.lookup_eq_some_iff.mp hpin
      have hmem : (id, p) ∈ h.hub.pins := by
        rw [hpins]
        exact List.mem_append_right _ List.mem_cons_self
      have hchanges : ∀ tx ∈ p.session.early ++ call.changes, Frame.Sendable config tx :=
        fun tx htx => (List.mem_append.mp htx).elim (hh.kept _ hmem tx) (hcall tx)
      obtain ⟨htold, hkept⟩ := PinSession.sendable_take hchanges
      refine ⟨⟨hh.config_eq, hh.resolver_eq, hh.logged, fun entry hentry => ?_⟩,
        fun post hpost => ?_⟩
      · obtain ⟨old, hold, rfl⟩ := List.mem_map.mp hentry
        dsimp only
        split
        · exact hkept
        · exact hh.kept old hold
      · obtain ⟨m, hm, rfl⟩ := List.mem_map.mp hpost
        exact htold m hm

/-- The backlog of a session is out of the log of its cell. -/
theorem backlog (hh : h.Sendable config) (id : PinId) :
    ∀ tx ∈ h.backlog id, Frame.Sendable config tx := by
  unfold Host.backlog
  split
  next p _ =>
    rw [hh.resolver_eq]
    exact hh.logged p.session.cell
  · exact List.forall_mem_nil _

/-- A change that is recorded can be sent under the identifier that it gets. -/
theorem recordCommit (hh : h.Sendable config) {clock : ClockTime} {tx tx' : Tx} {tid : Tid}
    (htx : Frame.Sendable config tx) (hclock : 1 ≤ Tid.ticksOf clock.nanos.toNat)
    (hrecord : h.recordCommit clock tx = .ok (tx', tid, h')) :
    h'.Sendable config ∧ Frame.Sendable config tx' ∧ tid ≠ .zero := by
  obtain ⟨content, directory, -, htid, rfl, hdirectory, rfl⟩ := recordCommit_eq_ok hrecord
  have hne := Tid.ne_zero_of_successor hclock htid
  have hnew := htx.withTid hne
  rw [hh.resolver_eq] at hdirectory
  have hdirectory : h.directory.record (tx.withTid (some tid)) = directory :=
    Except.ok.inj hdirectory
  refine ⟨⟨hh.config_eq, hh.resolver_eq, fun cell other hmem => ?_, hh.kept⟩, hnew, hne⟩
  have hmem : other ∈ directory.load cell := hmem
  rw [← hdirectory, Directory.load_record] at hmem
  split at hmem
  · rcases List.mem_append.mp hmem with hold | hlast
    · exact hh.logged cell other hold
    · rw [List.mem_singleton.mp hlast]
      exact hnew
  · exact hh.logged cell other hmem

end Host.Sendable

-- ================================================================= desks

/-- Whatever a task keeps of changes can be sent, and so can its acknowledgement. -/
def Task.Sendable (config : TxConfig) : Task → Prop
  | received tx | checked tx => Frame.Sendable config tx
  | accepted _ session => ∀ tx ∈ session.early, Frame.Sendable config tx
  | loaded _ _ backlog => ∀ tx ∈ backlog, Frame.Sendable config tx
  | recorded tx tid | offering tx tid _ => Frame.Sendable config tx ∧ tid ≠ .zero
  | _ => True

structure Desk.Sendable (config : TxConfig) (d : Desk) : Prop where
  task : d.task.Sendable config
  speech : ∀ post ∈ d.speech, Frame.Sendable config post.tx

/-- What comes from outside: a message is taken up as it was read under the limits of
the host, and a change is recorded at least one tick after the epoch. -/
structure Supplied (h : Host ρ σ) (d : Desk) (h' : Host ρ σ) (d' : Desk) : Prop where
  received : ∀ tx, d.task = .idle → d'.task = .received tx →
    ∃ buffer rest, Frame.decode h.config.tx buffer = .complete tx rest
  recorded : ∀ tx tx' tid, d.task = .checked tx → d'.task = .recorded tx' tid →
    ∃ clock, 1 ≤ Tid.ticksOf clock.nanos.toNat ∧ h.recordCommit clock tx = .ok (tx', tid, h')

/-- An act keeps everything sendable, if what it takes from outside is as it should be. -/
theorem Act.sendable {free : Prop} {h h' : Host Directory σ} {d d' : Desk}
    (hh : h.Sendable config) (hd : d.Sendable config) (hact : Act free h d h' d')
    (hsupplied : Supplied h d h' d') : h'.Sendable config ∧ d'.Sendable config := by
  have hanswer : ∀ {c : Connection} {held : List PinId} {tx : Tx}, Frame.Sendable config tx →
      ∀ post ∈ [c.answer held tx], Frame.Sendable config post.tx := by
    intro c held tx htx post hmem
    rw [List.mem_singleton.mp hmem]
    exact htx
  have hclose : ∀ (id : PinId) (code : ErrorCode),
      (h.stir id (·.close code)).Sendable config
        ∧ ∀ post ∈ h.utters id (·.close code), Frame.Sendable config post.tx :=
    fun id code => hh.stir id (.close code) (List.forall_mem_nil _)
  cases hact with
  | receive tx =>
      obtain ⟨buffer, rest, hdecode⟩ := hsupplied.received tx rfl rfl
      rw [hh.config_eq] at hdecode
      exact ⟨hh, Frame.sendable_of_decode hdecode, List.forall_mem_nil _⟩
  | letGo => exact ⟨hh.drop _, hd.task, List.forall_mem_nil _⟩
  | refuse | fail => exact ⟨hh, trivial, hanswer (Frame.sendable_ofStatus ..)⟩
  | accept _ _ _ hscreen =>
      obtain ⟨cell, -, rfl⟩ := Host.screen_eq_ok hscreen
      exact ⟨hh, fun _ hmem => absurd hmem List.not_mem_nil, List.forall_mem_nil _⟩
  | enroll => exact ⟨hh.enroll hd.task _, trivial, List.forall_mem_nil _⟩
  | load => exact ⟨hh, hh.backlog _, List.forall_mem_nil _⟩
  | @begin _ _ _ id backlog =>
      obtain ⟨hbegun, hspeech⟩ := hh.stir id (.begin backlog) hd.task
      exact ⟨hbegun, trivial, hspeech⟩
  | tidy => exact ⟨hh.tidy _, trivial, List.forall_mem_nil _⟩
  | keep | release | leave | finish => exact ⟨hh, trivial, List.forall_mem_nil _⟩
  | forget | drop => exact ⟨hh.drop _, trivial, List.forall_mem_nil _⟩
  | unlist | drain => exact ⟨hh.mapHub (List.Subset.refl _), trivial, List.forall_mem_nil _⟩
  | close | strike => exact ⟨(hclose _ _).1, trivial, (hclose _ _).2⟩
  | check | look => exact ⟨hh, hd.task, List.forall_mem_nil _⟩
  | record =>
      obtain ⟨clock, hclock, hrecord⟩ := hsupplied.recorded _ _ _ rfl rfl
      obtain ⟨hrecorded, htx, hne⟩ := hh.recordCommit hd.task hclock hrecord
      exact ⟨hrecorded, ⟨htx, hne⟩, List.forall_mem_nil _⟩
  | @offer _ _ tx _ id _ =>
      have hcall : ∀ other ∈ (PinSession.Call.publish tx).changes, Frame.Sendable config other :=
        fun other hmem => List.mem_singleton.mp hmem ▸ hd.task.1
      obtain ⟨hoffered, hspeech⟩ := hh.stir id (.publish tx) hcall
      exact ⟨hoffered, hd.task, hspeech⟩
  | acknowledge =>
      exact ⟨hh, trivial, hanswer (Connection.within_acknowledgement config _ hd.task.2)⟩
  | flag => exact ⟨hh.of_pins (List.Subset.refl _) rfl rfl rfl, trivial, List.forall_mem_nil _⟩

/-- Nothing comes from outside where the task stays the same. -/
theorem supplied_of_task_eq {h h' : Host ρ σ} {d d' : Desk} (htask : d'.task = d.task) :
    Supplied h d h' d' := by
  refine ⟨fun tx hidle hreceived => ?_, fun tx tx' tid hchecked hrecorded => ?_⟩
  · cases hreceived.symm.trans (htask.trans hidle)
  · cases hrecorded.symm.trans (htask.trans hchecked)

/-- A message that was read under the limits of the host may be taken up. -/
theorem supplied_receive {h h' : Host ρ σ} {d d' : Desk} {tx : Tx} {buffer rest : ByteArray}
    (hidle : d.task = .idle) (hreceived : d'.task = .received tx)
    (hdecode : Frame.decode h.config.tx buffer = .complete tx rest) : Supplied h d h' d' := by
  refine ⟨fun other _ hother => ?_, fun _ _ _ hchecked => ?_⟩
  · rw [← Task.received.inj (hreceived.symm.trans hother)]
    exact ⟨buffer, rest, hdecode⟩
  · cases hidle.symm.trans hchecked

/-- A commit that is recorded after the epoch has an identifier that is not zero. -/
theorem supplied_record {h h' : Host ρ σ} {d d' : Desk} {clock : ClockTime} {tx tx' : Tx}
    {tid : Tid} (hchecked : d.task = .checked tx) (hrecorded : d'.task = .recorded tx' tid)
    (hclock : 1 ≤ Tid.ticksOf clock.nanos.toNat)
    (hrecord : h.recordCommit clock tx = .ok (tx', tid, h')) : Supplied h d h' d' := by
  refine ⟨fun _ hidle => ?_, fun other other' told hother hother' => ?_⟩
  · cases hchecked.symm.trans hidle
  · obtain ⟨rfl, rfl⟩ := Task.recorded.inj (hrecorded.symm.trans hother')
    rw [← Task.checked.inj (hchecked.symm.trans hother)]
    exact ⟨clock, hclock, hrecord⟩

/-- Nothing comes from outside in the middle of a task. -/
theorem supplied_of_ne {h h' : Host ρ σ} {d d' : Desk} (hidle : d.task ≠ .idle)
    (hchecked : ∀ tx, d.task ≠ .checked tx) : Supplied h d h' d' :=
  ⟨fun _ heq => absurd heq hidle, fun tx _ _ heq => absurd heq (hchecked tx)⟩

-- ================================================================ crowds

namespace Crowd

variable {w w' : Crowd ι Directory σ}

/-- Wherever a change is kept, and whatever was handed over: it can be sent. -/
structure Sendable (config : TxConfig) (w : Crowd ι Directory σ) : Prop where
  host : w.host.Sendable config
  desks : ∀ i, (w.desks i).Sendable config
  log : ∀ post ∈ w.log, Frame.Sendable config post.tx

/-- A crowd on a host without commits, in which nobody has begun yet. -/
structure Blank (w : Crowd ι Directory σ) : Prop where
  resolver_eq : w.host.resolver = Directory.resolver
  load_eq : ∀ cell, w.host.directory.load cell = []
  early_eq : ∀ entry ∈ w.host.hub.pins, entry.2.session.early = []
  idle : ∀ i, (w.desks i).task = .idle ∧ (w.desks i).speech = []
  log_eq : w.log = []

/-- Where there is no commit yet, there is nothing that could not be sent. -/
theorem Blank.sendable (hblank : w.Blank) : w.Sendable w.host.config.tx := by
  refine ⟨⟨rfl, hblank.resolver_eq, fun cell => ?_, fun entry hmem => ?_⟩,
    fun i => ⟨?_, ?_⟩, ?_⟩
  · rw [hblank.load_eq]
    exact List.forall_mem_nil _
  · rw [hblank.early_eq entry hmem]
    exact List.forall_mem_nil _
  · rw [(hblank.idle i).1]
    exact trivial
  · rw [(hblank.idle i).2]
    exact List.forall_mem_nil _
  · rw [hblank.log_eq]
    exact List.forall_mem_nil _

variable [DecidableEq ι]

/-- A step of somebody, or of whoever runs the host: there is another cell, URL or
mailbox, or somebody has logged in. -/
inductive Feeds : Crowd ι Directory σ → Crowd ι Directory σ → Prop where
  | step {w w' : Crowd ι Directory σ} (hstep : Step w w')
      (hsupplied : ∀ i, Supplied w.host (w.desks i) w'.host (w'.desks i)) : Feeds w w'
  | addCell (w : Crowd ι Directory σ) (name : String) :
      Feeds w { w with host := { w.host with directory := (w.host.directory.addCell name).2 } }
  | addUrl (w : Crowd ι Directory σ) (url : String) (cell : TagId) :
      Feeds w { w with host := { w.host with directory := w.host.directory.addUrl url cell } }
  | addOutbox (w : Crowd ι Directory σ) (capacity : Nat) :
      Feeds w { w with host := w.host.mapHub fun hub => (hub.addOutbox capacity).2 }
  | login (w : Crowd ι Directory σ) (checkpoints : σ) :
      Feeds w { w with host := { w.host with checkpoints } }

/-- A step of anybody keeps everything sendable. -/
theorem Sendable.step (hw : w.Sendable config) (hstep : Step w w')
    (hsupplied : ∀ i, Supplied w.host (w.desks i) w'.host (w'.desks i)) : w'.Sendable config := by
  cases hstep with
  | @act i h' d' hact =>
      have hown := hsupplied i
      dsimp only at hown
      rw [Function.update_self] at hown
      obtain ⟨hhost, hdesk⟩ := hact.sendable hw.host (hw.desks i) hown
      exact ⟨hhost, (Function.forall_update_iff w.desks fun _ d => d.Sendable config).mpr
        ⟨hdesk, fun j _ => hw.desks j⟩, hw.log⟩
  | @hand i post rest hspeech =>
      have hown := hw.desks i
      have hall : ∀ other ∈ post :: rest, Frame.Sendable config other.tx := hspeech ▸ hown.speech
      have hdesk : Desk.Sendable config { w.desks i with speech := rest } :=
        ⟨hown.task, fun other hmem => hall other (List.mem_cons_of_mem _ hmem)⟩
      refine ⟨hw.host.of_pins (List.Subset.refl _) rfl rfl rfl,
        (Function.forall_update_iff w.desks fun _ d => d.Sendable config).mpr
          ⟨hdesk, fun j _ => hw.desks j⟩, fun other hmem => ?_⟩
      rcases List.mem_append.mp hmem with hold | hlast
      · exact hw.log other hold
      · rw [List.mem_singleton.mp hlast]
        exact hall post List.mem_cons_self
  | carry box f => exact ⟨hw.host.of_pins (List.Subset.refl _) rfl rfl rfl, hw.desks, hw.log⟩

/-- So does whatever is done by who runs the host. -/
theorem Sendable.feeds (hw : w.Sendable config) (hfeeds : Feeds w w') : w'.Sendable config := by
  have hhost := hw.host
  cases hfeeds with
  | step hstep hsupplied => exact hw.step hstep hsupplied
  | addCell name =>
      refine ⟨⟨hhost.config_eq, hhost.resolver_eq, fun cell => ?_, hhost.kept⟩, hw.desks, hw.log⟩
      show ∀ tx ∈ (Directory.know _ _).load cell, _
      rw [Directory.load_know]
      exact hhost.logged cell
  | addUrl url target =>
      refine ⟨⟨hhost.config_eq, hhost.resolver_eq, fun cell => ?_, hhost.kept⟩, hw.desks, hw.log⟩
      show ∀ tx ∈ (Directory.know _ _).load cell, _
      rw [Directory.load_know]
      exact hhost.logged cell
  | addOutbox capacity => exact ⟨hhost.of_pins (List.Subset.refl _) rfl rfl rfl, hw.desks, hw.log⟩
  | login checkpoints => exact ⟨hhost.of_pins (List.Subset.refl _) rfl rfl rfl, hw.desks, hw.log⟩

/-- So does a whole run. -/
theorem Sendable.run (hw : w.Sendable config) (hrun : Relation.ReflTransGen Feeds w w') :
    w'.Sendable config := by
  induction hrun with
  | refl => exact hw
  | tail _ hfeeds ih => exact ih.feeds hfeeds

-- ============================================================== an example

section

variable {desks : ι → Desk} {i : ι} {h h' : Host Directory σ} {d d' : Desk}

/-- An act at one desk takes nothing from outside at the others. -/
theorem supplied_update (desks : ι → Desk) (i : ι) (hsupplied : Supplied h d h' d') (j : ι) :
    Supplied h (Function.update desks i d j) h' (Function.update desks i d' j) := by
  by_cases hj : j = i
  · rw [hj, Function.update_self, Function.update_self]
    exact hsupplied
  · rw [Function.update_of_ne hj, Function.update_of_ne hj]
    exact supplied_of_task_eq rfl

/-- In an example, an act at one desk. -/
theorem feeds_act (log : List Post)
    (hact : Act (∀ j, (Function.update desks i d j).task.turn? = none) h d h' d')
    (hsupplied : Supplied h d h' d') :
    Feeds ⟨h, Function.update desks i d, log⟩ ⟨h', Function.update desks i d', log⟩ :=
  .step (step_act log hact) (supplied_update desks i hsupplied)

/-- In an example, a message handed over at one desk. -/
theorem feeds_hand (desks : ι → Desk) (i : ι) (h : Host Directory σ) (log : List Post)
    (c : Connection) (task : Task) (held : List PinId) (post : Post) (rest : List Post) :
    Feeds ⟨h, Function.update desks i ⟨c, task, held, post :: rest⟩, log⟩
      ⟨h.hand post, Function.update desks i ⟨c, task, held, rest⟩, log ++ [post]⟩ :=
  .step (step_hand desks i h log c task held post rest)
    (supplied_update desks i (supplied_of_task_eq rfl))

end

/-- The holder's commit comes to the host in a frame, and the pin tells of it. -/
theorem feeds_small : ∃ w m rest, Relation.ReflTransGen Feeds small w
    ∧ w.log = ⟨1, .pin 0, m⟩ :: rest ∧ m.info.status = .syncing := by
  obtain ⟨tid, -, htid⟩ := Tid.exists_successor_ne_zero (Frame.bytes (World.greeting.withTid none))
  have hrecord := Host.recordCommit_of_writable (h := pinned) rfl
    ⟨by decide, by decide⟩ ⟨by decide, by decide, by decide, by decide⟩ htid
  have hcheck : pinned.checkCommit holder.who World.greeting = .ok () := by rfl
  have hdecode : Frame.decode pinned.config.tx (Frame.bytes World.greeting ++ .empty)
      = .complete World.greeting .empty :=
    Frame.decode_bytes_append ⟨by decide, by decide, by decide, by decide⟩
      ⟨by decide, by decide⟩ _
  have hreceived : Feeds small ⟨pinned, Function.update _ true
      ⟨holder, .received World.greeting, [0], []⟩, []⟩ :=
    feeds_act [] (.receive _) (supplied_receive rfl rfl hdecode)
  have hchecked := (Relation.ReflTransGen.single hreceived).tail
    (feeds_act [] (.check rfl hcheck) (supplied_of_ne (by simp) (by simp)))
  have hrecorded := hchecked.tail
    (feeds_act [] (.record (by decide) hrecord) (supplied_record rfl rfl (by decide) hrecord))
  have hlooked := hrecorded.tail (feeds_act [] .look (supplied_of_ne (by simp) (by simp)))
  have htargets : (World.greeting.withTid (some tid)).targets = [.ofWord 1] := by
    show TagId.distinct [.ofWord 1] = [.ofWord 1]
    simp [TagId.distinct, TagId.squeeze]
  have hsnapshot : pinned.hub.snapshot (World.greeting.withTid (some tid)) = [0] := by
    unfold Hub.snapshot
    rw [htargets]
    decide
  dsimp only at hlooked
  rw [hsnapshot] at hlooked
  have htold := (hlooked.tail (feeds_act [] .offer (supplied_of_ne (by simp) (by simp)))).tail
    (feeds_hand _ true _ [] _ _ _ _ _)
  exact ⟨_, _, _, htold, rfl, rfl⟩

-- ================================================================ mailboxes

/-- In any order of the steps of any connections of a host, where every commit was read
by a connection under the limits of the host: every message that was ever handed to
a mailbox can be written under these limits, and only the stream can make it fail. -/
theorem encode_of_log (hblank : w.Blank) (hrun : Relation.ReflTransGen Feeds w w') {post : Post}
    (hmem : post ∈ w'.log) :
    (∃ frame, Frame.encode post.tx w.host.config.tx = .ok frame)
      ∧ ∀ sink after error, Writer.write w.host.config.tx post.tx sink = (.error error, after) →
        Writer.OfStream error := by
  obtain ⟨frame, hframe⟩ := Frame.sendable_iff.mp ((hblank.sendable.run hrun).log post hmem)
  exact ⟨⟨frame, hframe⟩, fun _ _ _ hwrite => Writer.ofStream_write hframe hwrite⟩

theorem encode_of_log_small : ∃ (w : Crowd Bool Directory Login.CheckpointTable) (post : Post),
    Relation.ReflTransGen Feeds small w ∧ post ∈ w.log ∧ post.tx.info.status = .syncing
      ∧ ∃ frame, Frame.encode post.tx small.host.config.tx = .ok frame := by
  have hblank : small.Blank := by
    refine ⟨rfl, fun cell => ?_, fun entry hmem => ?_, fun i => ?_, rfl⟩
    · show (Directory.know _ _).load cell = []
      rw [Directory.load_know]
      rfl
    · rw [List.mem_singleton.mp hmem]
    · exact ⟨(start_small.idle i).1, (start_small.idle i).2.2⟩
  obtain ⟨w, m, rest, hrun, hlog, hstatus⟩ := feeds_small
  have hmem : ⟨1, .pin 0, m⟩ ∈ w.log := by
    rw [hlog]
    exact List.mem_cons_self
  exact ⟨w, _, hrun, hmem, hstatus, (encode_of_log hblank hrun hmem).1⟩

end Crowd

end CellSync
