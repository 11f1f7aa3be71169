/-
The life of a pin as its client is told of it, by the number of its request.

A request that is granted is told a word of the lifecycle of its mode
(`SyncMode.lifecycle`). The session begins with the front of the word, and
whatever it is called for later goes on with it (`PinSession.Leads`).

Seen from one number, either no session answers to it (`Silent`), or at
most one does, which stands at the end of what was told (`Follows`).
Almost all that happens on a host leaves this as it is or moves that one
session on (`Spares`): what other connections do, whatever is closed,
offered or let go of, and the client's own messages with other numbers.
-/
import CellSync.Proofs.Host.Interleaving
import CellSync.Proofs.Peer.Service

namespace CellSync

open Computability

-- ============================================================ lifecycles

namespace SyncMode

/-- What a request for a mode is told, up to now, once it is granted. -/
def lifecycle : SyncMode → Language Mark
  | none => {[(.closed, .nil)]}
  | closeOnSync => changes * {[(.synced, .nil), (.closed, .nil)]}
  | maintain => following * (1 + closing)

variable {mode : SyncMode} {marks : List Mark}

/-- A session that is followed is within its lifecycle. -/
theorem mem_lifecycle_of_following (h : marks ∈ following) : marks ∈ lifecycle maintain := by
  rw [← List.append_nil marks]
  exact Language.append_mem_mul h (.inl rfl)

/-- When it is closed, its lifecycle has ended. -/
theorem mem_lifecycle_of_ended (h : marks ∈ following) (code : ErrorCode) :
    marks ++ [(.closed, code)] ∈ lifecycle maintain :=
  Language.append_mem_mul h (.inr ⟨code, rfl⟩)

/-- Nothing follows on the one closing message if it comes last. -/
theorem pairwise_concat (h : ∀ mark ∈ marks, mark.1 ≠ .closed) (last : Mark) :
    (marks ++ [last]).Pairwise fun mark _ => mark.1 ≠ .closed := by
  refine List.pairwise_append.mpr ⟨?_, List.pairwise_singleton _ _, fun a ha _ _ => h a ha⟩
  exact List.pairwise_of_forall_mem_list fun a ha _ _ => h a ha

/-- Nothing comes after a closing message. -/
theorem pairwise_of_mem_lifecycle (h : marks ∈ mode.lifecycle) :
    marks.Pairwise fun mark _ => mark.1 ≠ .closed := by
  cases mode with
  | none =>
      rw [Set.mem_singleton_iff.mp h]
      exact List.pairwise_singleton _ _
  | closeOnSync =>
      obtain ⟨front, hfront, rest, hrest, rfl⟩ := Language.mem_mul.mp h
      rw [Set.mem_singleton_iff.mp hrest]
      have hsplit : front ++ [(.synced, .nil), (.closed, .nil)]
          = (front ++ [(.synced, .nil)]) ++ [((.closed, .nil) : Mark)] := by simp
      rw [hsplit]
      exact pairwise_concat (status_of_mem_following (following_of_changes hfront)) _
  | maintain =>
      obtain ⟨front, hfront, rest, hrest, rfl⟩ := Language.mem_mul.mp h
      have hopen := status_of_mem_following hfront
      rcases hrest with hrest | ⟨code, rfl⟩
      · rw [Set.mem_singleton_iff.mp hrest, List.append_nil]
        exact List.pairwise_of_forall_mem_list fun a ha _ _ => hopen a ha
      · exact pairwise_concat hopen _

end SyncMode

namespace PinSession

variable {s : PinSession} {marks : List Mark}

/-- A session that has begun stands at the end of a word of its lifecycle. -/
inductive Leads (s : PinSession) (marks : List Mark) : Prop where
  | ended (hstatus : s.isClosed = true) (hword : marks ∈ s.mode.lifecycle)
  | live (hstatus : s.status = .synced) (hmode : s.mode = .maintain)
      (hmarks : marks ∈ SyncMode.following)

/-- A session that has begun has told a word of its lifecycle. -/
theorem Leads.mem_lifecycle (h : Leads s marks) : marks ∈ s.mode.lifecycle := by
  cases h with
  | ended _ hword => exact hword
  | live _ hmode hmarks =>
      rw [hmode]
      exact SyncMode.mem_lifecycle_of_following hmarks

/-- A session that is followed tells a change and that it is up to date, or nothing. -/
theorem publish_synced (hstatus : s.status = .synced) (hmode : s.mode = .maintain) (tx : Tx) :
    (s.publish tx).1.status = .synced
      ∧ ((s.publish tx).2.map Tx.mark = []
        ∨ (s.publish tx).2.map Tx.mark = [(.syncing, .nil), (.synced, .nil)]) := by
  unfold PinSession.publish
  rw [hstatus]
  dsimp only
  rw [if_neg (by simp [hmode])]
  rcases emit_cases { s with status := .syncing } tx with hnone | ⟨-, -, hsome⟩
  · rw [hnone]
    exact ⟨rfl, .inl rfl⟩
  · rw [hsome]
    dsimp only
    rw [if_neg (by simp), settle_of_ne (by simp [reaching, hmode])]
    exact ⟨rfl, .inr rfl⟩

/-- Whatever a session is called for, it goes on with the word. -/
theorem Leads.take (h : Leads s marks) (call : Call) :
    Leads (s.take call).1 (marks ++ (s.take call).2.map Tx.mark) := by
  have halike := (adds_take s call).alike
  cases h with
  | ended hstatus hword =>
      rw [take_of_isClosed hstatus, List.map_nil, List.append_nil]
      exact .ended hstatus hword
  | live hstatus hmode hmarks =>
      cases call with
      | begin backlog =>
          have hsame : s.take (.begin backlog) = (s, []) := by
            show s.begin backlog = (s, [])
            unfold PinSession.begin
            rw [if_pos (by rw [hstatus]; decide)]
          rw [hsame, List.map_nil, List.append_nil]
          exact .live hstatus hmode hmarks
      | publish tx =>
          obtain ⟨hsynced, hout⟩ := publish_synced hstatus hmode tx
          refine .live hsynced (halike.mode_eq.trans hmode) ?_
          show marks ++ (s.publish tx).2.map Tx.mark ∈ SyncMode.following
          rcases hout with hout | hout
          · rw [hout, List.append_nil]
            exact hmarks
          · rw [hout]
            exact SyncMode.following_append hmarks
      | close code =>
          have hopen : ¬s.isClosed = true := by simp [isClosed, hstatus]
          have hfinish : s.take (.close code) = s.finish code := if_neg hopen
          rw [hfinish]
          refine .ended rfl ?_
          show marks ++ [(.closed, code)] ∈ s.mode.lifecycle
          rw [hmode]
          exact SyncMode.mem_lifecycle_of_ended hmarks code

/-- Settling brings the changes so far to the end of a word. -/
theorem leads_settle (hstart : s.mode ≠ .none) (h : marks ∈ SyncMode.changes) :
    Leads s.settle.1 (marks ++ s.settle.2.map Tx.mark) := by
  cases hmode : s.mode with
  | none => exact absurd hmode hstart
  | closeOnSync =>
      rw [settle_of_eq hmode]
      refine .ended rfl ?_
      show _ ∈ s.mode.lifecycle
      rw [hmode]
      exact Language.append_mem_mul h (SyncMode.mem_word _)
  | maintain =>
      rw [settle_of_ne (by simp [hmode])]
      exact .live rfl hmode (SyncMode.following_of_changes h)

/-- A session that begins tells the front of its lifecycle at once. -/
theorem leads_begin (hstatus : s.status = .notStarted) (backlog : List Tx) :
    Leads (s.begin backlog).1 ((s.begin backlog).2.map Tx.mark) := by
  unfold PinSession.begin
  rw [if_neg (by simp [hstatus])]
  split
  next hmode =>
    refine .ended rfl ?_
    show [(.closed, .nil)] ∈ s.mode.lifecycle
    rw [hmode]
    exact SyncMode.mem_word _
  next hmode =>
    obtain ⟨-, ⟨newest, hreach⟩, hchanges⟩ :=
      adds_emitAll { s with status := .syncing, early := [] } (backlog ++ s.early)
    dsimp only
    rw [List.map_append, hreach]
    exact leads_settle hmode hchanges

end PinSession

-- ================================================= the posts of a number

/-- Whether a post tells the state of the pin of a number, at a mailbox. -/
def Post.about (box : OutboxId) (number : UInt64) (post : Post) : Bool :=
  post.box = box && post.tx.info.kind = .state && post.tx.info.contextId = number

/-- What some posts tell of a number. -/
def marksOn (box : OutboxId) (number : UInt64) (posts : List Post) : List Mark :=
  (posts.filter (·.about box number)).map (·.tx.mark)

variable {ι ρ σ : Type} {box : OutboxId} {number : UInt64}

/-- What posts say of a number, and what others say after them. -/
theorem marksOn_append (first later : List Post) :
    marksOn box number (first ++ later) = marksOn box number first ++ marksOn box number later := by
  rw [marksOn, List.filter_append, List.map_append]
  rfl

/-- A post about another number says nothing of it. -/
theorem marksOn_of_not_about {post : Post} (h : post.about box number = false) :
    marksOn box number [post] = [] := by
  rw [marksOn, List.filter_cons_of_neg (by rw [h]; decide)]
  rfl

/-- An answer of another kind is about no number. -/
theorem about_answer (c : Connection) (held : List PinId) {reply : Tx}
    (hkind : reply.info.kind ≠ .state) : (c.answer held reply).about box number = false := by
  simp [Post.about, Connection.answer, hkind]

theorem Connection.kind_verdict (tx : Tx) (result : Except SessionError Tid) :
    (verdict tx result).info.kind = .commit := by
  cases result <;> rfl

/-- A session answers to a number: it writes to the mailbox, under the number. -/
def Pinned.answers (p : Pinned) (box : OutboxId) (number : UInt64) : Prop :=
  p.outbox = box ∧ p.session.contextId = number

/-- A session hands over messages about its own number only. -/
theorem marksOn_speaks (box : OutboxId) (number : UInt64) {h : Host ρ σ} {id : PinId} {p : Pinned}
    (hpin : h.hub.pin? id = some p) (call : PinSession.Call) :
    (p.answers box number →
        marksOn box number (h.speaks id call) = (p.session.take call).2.map Tx.mark)
      ∧ (¬p.answers box number → marksOn box number (h.speaks id call) = []) := by
  have hspeaks : h.speaks id call = (p.session.take call).2.map (⟨p.outbox, .pin id, ·⟩) := by
    rw [Host.speaks, Host.utters, hpin]
  have hproper := (PinSession.adds_take p.session call).proper
  constructor
  · rintro ⟨hbox, hnumber⟩
    have hall : ∀ post ∈ h.speaks id call, post.about box number = true := by
      rw [hspeaks]
      intro post hmem
      obtain ⟨m, hm, rfl⟩ := List.mem_map.mp hmem
      simp [Post.about, hbox, (hproper m hm).kind_eq, (hproper m hm).contextId_eq, hnumber]
    rw [marksOn, List.filter_eq_self.mpr hall, hspeaks, List.map_map]
    rfl
  · intro hnot
    have hnone : ∀ post ∈ h.speaks id call, ¬post.about box number = true := by
      rw [hspeaks]
      intro post hmem habout
      obtain ⟨m, hm, rfl⟩ := List.mem_map.mp hmem
      simp only [Post.about, Bool.and_eq_true, decide_eq_true_eq] at habout
      exact hnot ⟨habout.1.1, (hproper m hm).contextId_eq.symm.trans habout.2⟩
    rw [marksOn, List.filter_eq_nil_iff.mpr hnone]
    rfl

/-- Who is not there says nothing. -/
theorem marksOn_speaks_of_none {h : Host ρ σ} {id : PinId} (hpin : h.hub.pin? id = none)
    (call : PinSession.Call) : marksOn box number (h.speaks id call) = [] := by
  rw [Host.speaks, Host.utters, hpin]
  rfl

-- =========================================================== one number

/-- No session answers to a number. -/
def Silent (hub : Hub) (box : OutboxId) (number : UInt64) : Prop :=
  ∀ id p, hub.pin? id = some p → ¬p.answers box number

/-- A request with a number was granted, and this was told of it: if a session answers
to the number, there is one only, and it goes on with what was told. -/
structure Follows (hub : Hub) (box : OutboxId) (number : UInt64) (mode : SyncMode)
    (marks : List Mark) : Prop where
  one : ∀ id k p q, hub.pin? id = some p → hub.pin? k = some q → p.answers box number →
    q.answers box number → id = k
  leads : ∀ id p, hub.pin? id = some p → p.answers box number →
    p.session.mode = mode ∧ p.session.Leads marks
  word : marks ∈ mode.lifecycle

/-- Something happens that has nothing to do with a number, or moves its session on. -/
structure Spares (box : OutboxId) (number : UInt64) (h : Host ρ σ) (posts : List Post)
    (h' : Host ρ σ) : Prop where
  silent : Silent h.hub box number →
    Silent h'.hub box number ∧ marksOn box number posts = []
  follows : ∀ mode marks, Follows h.hub box number mode marks →
    Follows h'.hub box number mode (marks ++ marksOn box number posts)

namespace Spares

variable {h h' h'' : Host ρ σ} {posts more : List Post}

/-- What has nothing to do with a number, one thing after another, has nothing to do
with it. -/
theorem trans (hfirst : Spares box number h posts h') (hrest : Spares box number h' more h'') :
    Spares box number h (posts ++ more) h'' := by
  constructor
  · intro hsilent
    obtain ⟨hsilent', hnone⟩ := hfirst.silent hsilent
    obtain ⟨hsilent'', hnone'⟩ := hrest.silent hsilent'
    refine ⟨hsilent'', ?_⟩
    rw [marksOn_append, hnone, hnone']
    rfl
  · intro mode marks hfollows
    rw [marksOn_append, ← List.append_assoc]
    exact hrest.follows mode _ (hfirst.follows mode marks hfollows)

/-- Nobody comes to answer to the number, and nothing is told of it. -/
theorem of_pins (hpins : ∀ id p, h'.hub.pin? id = some p → p.answers box number →
      h.hub.pin? id = some p) (hnone : marksOn box number posts = []) :
    Spares box number h posts h' := by
  constructor
  · intro hsilent
    exact ⟨fun id p hpin hanswers => hsilent id p (hpins id p hpin hanswers) hanswers, hnone⟩
  · intro mode marks hfollows
    rw [hnone, List.append_nil]
    refine ⟨fun id k p q hp hq hid hk => ?_, fun id p hp hid => ?_, hfollows.word⟩
    · exact hfollows.one id k p q (hpins id p hp hid) (hpins k q hq hk) hid hk
    · exact hfollows.leads id p (hpins id p hp hid) hid

/-- A call moves on the session of the number, or has nothing to do with it. -/
theorem call (h : Host ρ σ) (id : PinId) (call : PinSession.Call) :
    Spares box number h (h.speaks id call) (h.mapHub (·.advance id (·.take call))) := by
  cases hpin : h.hub.pin? id with
  | none =>
      refine .of_pins (fun k p hp _ => ?_) (marksOn_speaks_of_none hpin call)
      have hsame : h.hub.advance id (·.take call) = h.hub := by
        unfold Hub.advance
        rw [hpin]
      rwa [← hsame]
  | some p =>
      obtain ⟨htold, huntold⟩ := marksOn_speaks box number hpin call
      -- Who answers to a number afterwards answered to it before.
      have hback : ∀ k q, (h.hub.advance id (·.take call)).pin? k = some q →
          q.answers box number → k = id ∧ p.answers box number
              ∧ q.session = (p.session.take call).1
            ∨ k ≠ id ∧ h.hub.pin? k = some q := by
        intro k q hq hanswers
        by_cases hk : k = id
        · subst hk
          rw [Hub.pin?_advance_self hpin] at hq
          rw [← Option.some.inj hq] at hanswers ⊢
          have hnumber := (PinSession.adds_take p.session call).alike.contextId_eq
          exact .inl ⟨rfl, ⟨hanswers.1, hnumber.symm.trans hanswers.2⟩, rfl⟩
        · rw [Hub.pin?_advance_of_ne hk] at hq
          exact .inr ⟨hk, hq⟩
      constructor
      · intro hsilent
        refine ⟨fun k q hq hanswers => ?_, huntold (hsilent id p hpin)⟩
        rcases hback k q hq hanswers with ⟨-, hp, -⟩ | ⟨-, hsame⟩
        · exact hsilent id p hpin hp
        · exact hsilent k q hsame hanswers
      · intro mode marks hfollows
        by_cases hanswers : p.answers box number
        · obtain ⟨hmode, hleads⟩ := hfollows.leads id p hpin hanswers
          have hmode' := (PinSession.adds_take p.session call).alike.mode_eq.trans hmode
          have hleads' := hleads.take call
          have hword := hleads'.mem_lifecycle
          rw [hmode'] at hword
          have hall : ∀ k q, (h.hub.advance id (·.take call)).pin? k = some q →
              q.answers box number → k = id ∧ q.session = (p.session.take call).1 := by
            intro k q hq hk
            rcases hback k q hq hk with ⟨hid, -, hsession⟩ | ⟨hne, hsame⟩
            · exact ⟨hid, hsession⟩
            · exact absurd (hfollows.one k id q p hsame hpin hk hanswers) hne
          rw [htold hanswers]
          refine ⟨fun k l q r hq hr hk hl => ?_, fun k q hq hk => ?_, hword⟩
          · rw [(hall k q hq hk).1, (hall l r hr hl).1]
          · rw [(hall k q hq hk).2]
            exact ⟨hmode', hleads'⟩
        · refine (of_pins (fun k q hq hk => ?_) (huntold hanswers)).follows mode marks hfollows
          rcases hback k q hq hk with ⟨-, hp, -⟩ | ⟨-, hsame⟩
          · exact absurd hp hanswers
          · exact hsame

/-- Small steps in a row move it on, or leave it. -/
theorem stirs (hstirs : Stirs h posts h') : Spares box number h posts h' := by
  induction hstirs with
  | refl => exact .of_pins (fun _ _ hp _ => hp) rfl
  | tail _ hlast ih =>
      refine ih.trans ?_
      cases hlast with
      | still hpins _ _ _ _ =>
          refine .of_pins (fun id p hp _ => ?_) rfl
          unfold Hub.pin? at hp ⊢
          rwa [← hpins]
      | call id call => exact .call _ id call
      | @drop k _ =>
          refine .of_pins (fun id p hp _ => ?_) rfl
          have hp : (Hub.drop _ k).pin? id = some p := hp
          rw [Hub.pin?_drop] at hp
          split at hp
          · cases hp
          · exact hp

/-- Handing over what is not about the number has nothing to do with it. -/
theorem hand (h : Host ρ σ) {post : Post} (hnot : post.about box number = false) :
    Spares box number h [post] (h.hand post) :=
  .of_pins (fun _ _ hp _ => hp) (marksOn_of_not_about hnot)

/-- A session is registered that answers to another number, or at another mailbox. -/
theorem enroll (hfresh : h.hub.Fresh) {session : PinSession} {b : OutboxId}
    (hother : b ≠ box ∨ session.contextId ≠ number) :
    Spares box number h [] (h.enroll session b).2 := by
  refine .of_pins (fun id p hp hanswers => ?_) rfl
  have hp : ((h.hub.add session b).2.register h.hub.next).pin? id = some p := hp
  rw [Hub.pin?_add_register hfresh] at hp
  split at hp
  · rw [← Option.some.inj hp] at hanswers
    rcases hother with hbox | hnumber
    · exact absurd hanswers.1 hbox
    · exact absurd hanswers.2 hnumber
  · exact hp

end Spares

-- ============================================================== opening

/-- A request that is granted is told the front of its lifecycle at once. -/
theorem follows_openPin {h : Host ρ σ} (hfresh : h.hub.Fresh) (hsilent : Silent h.hub box number)
    {who : Login.Checkpoint} {request : PinRequest} {session : PinSession}
    (hscreen : h.screen who number request = .ok session) :
    Follows (h.openPin box who number request).2.hub box number request.mode
      (marksOn box number (h.openPosts box who number request)) := by
  obtain ⟨cell, -, hsession⟩ := Host.screen_eq_ok hscreen
  rw [Host.openPin_of_screen box hscreen, Host.openPosts_of_screen hscreen]
  generalize (h.enroll session box).2.backlog h.hub.next = backlog
  obtain ⟨hfound, -⟩ := Host.begin_enroll_effect hfresh session box backlog
  have hnew : (h.enroll session box).2.hub.pin? h.hub.next = some ⟨session, box⟩ :=
    (Hub.pin?_add_register hfresh session box _).trans (if_pos rfl)
  have hanswers : (⟨session, box⟩ : Pinned).answers box number := by
    rw [hsession]
    exact ⟨rfl, rfl⟩
  have hleads : PinSession.Leads (session.begin backlog).1
      ((session.begin backlog).2.map Tx.mark) :=
    PinSession.leads_begin (by rw [hsession]) backlog
  have hmode : (session.begin backlog).1.mode = request.mode := by
    rw [(PinSession.adds_begin session backlog).alike.mode_eq, hsession]
  have htold := (marksOn_speaks box number hnew (.begin backlog)).1 hanswers
  -- Only the new session answers to the number.
  have hall : ∀ k q, ((h.enroll session box).2.begin h.hub.next backlog).hub.pin? k = some q →
      q.answers box number → k = h.hub.next ∧ q.session = (session.begin backlog).1 := by
    intro k q hq hk
    rw [hfound] at hq
    split at hq
    next hid =>
      rw [← Option.some.inj hq]
      exact ⟨hid, rfl⟩
    · exact absurd hk (hsilent k q hq)
  have hbegun : Follows ((h.enroll session box).2.begin h.hub.next backlog).hub box number
      request.mode (marksOn box number
        ((h.enroll session box).2.speaks h.hub.next (.begin backlog))) := by
    rw [htold]
    refine ⟨fun k l q r hq hr hk hl => ?_, fun k q hq hk => ?_, ?_⟩
    · rw [(hall k q hq hk).1, (hall l r hr hl).1]
    · rw [(hall k q hq hk).2]
      exact ⟨hmode, hleads⟩
    · rw [← hmode]
      exact hleads.mem_lifecycle
  have hspares : Spares box number _ [] _ :=
    .stirs (Host.stirs_tidy ((h.enroll session box).2.begin h.hub.next backlog) h.hub.next)
  have htidied := hspares.follows _ _ hbegun
  rw [show marksOn box number [] = [] from rfl, List.append_nil] at htidied
  exact htidied

-- ============================================================ one message

namespace Spares

variable {h h' : Host ρ σ} {posts : List Post} {c c' : Connection} {clock : ClockTime}
  {held : List PinId} {tx : Tx} {given : Option PinId}

/-- Opening a pin with another number, or at another mailbox, has nothing to do with it. -/
theorem openPin (hfresh : h.hub.Fresh) {b : OutboxId} {who : Login.Checkpoint} {n : UInt64}
    {request : PinRequest} {session : PinSession}
    (hscreen : h.screen who n request = .ok session) (hother : b ≠ box ∨ n ≠ number) :
    Spares box number h (h.openPosts b who n request) (h.openPin b who n request).2 := by
  obtain ⟨cell, -, hsession⟩ := Host.screen_eq_ok hscreen
  have henrolled : Spares box number h [] (h.enroll session b).2 := by
    refine .enroll hfresh ?_
    rw [hsession]
    exact hother
  exact henrolled.trans (.stirs (Host.stirs_openPin b hscreen))

/-- What another connection does has nothing to do with the number. -/
theorem others (hfresh : h.hub.Fresh) (hbox : c.outbox ≠ box)
    (hhandled : c.Handled clock h held tx given posts c' h') : Spares box number h posts h' := by
  have hanswer : ∀ reply, (c.answer held reply).about box number = false := by
    intro reply
    simp [Post.about, Connection.answer, hbox]
  cases hhandled with
  | refused _ => exact .hand h (hanswer _)
  | passed _ _ hscreen hopen hclosed =>
      have hopened : Spares box number h _ _ := .openPin hfresh hscreen (.inl hbox)
      rw [hopen] at hopened
      have hdropped := hopened.trans (.stirs (.single (.drop hclosed)))
      rwa [List.append_nil] at hdropped
  | opened _ _ _ hscreen hopen _ =>
      have hopened : Spares box number h _ _ := .openPin hfresh hscreen (.inl hbox)
      rwa [hopen] at hopened
  | @closed id _ _ => exact .stirs (h.stirs_closePin id .nil)
  | committed _ =>
      exact (Spares.stirs (h.stirs_commit clock c.who tx)).trans (.hand _ (hanswer _))

end Spares

namespace Service

/-- The posts among some that are not the answer to a pin's closing that there is no
such pin. -/
def relevant (closing : Bool) (posts : List Post) : List Post :=
  posts.filter fun post => !(closing && post.tx.info.code = .requestNotFound)

/-- Where no pin is closed, every post counts. -/
theorem relevant_false (posts : List Post) : relevant false posts = posts :=
  List.filter_eq_self.mpr fun _ _ => rfl

/-- A session that is closed by its client tells no other code. -/
theorem relevant_speaks (h : Host ρ σ) (id : PinId) :
    relevant true (h.speaks id (.close .nil)) = h.speaks id (.close .nil) := by
  refine List.filter_eq_self.mpr fun post hmem => ?_
  cases hpin : h.hub.pin? id with
  | none =>
      rw [Host.speaks, Host.utters, hpin] at hmem
      cases hmem
  | some p =>
      rw [Host.speaks, Host.utters, hpin] at hmem
      obtain ⟨m, hm, rfl⟩ := List.mem_map.mp hmem
      have hm : m ∈ (p.session.close .nil).2 := hm
      unfold PinSession.close at hm
      split at hm
      · cases hm
      · rw [List.mem_singleton.mp hm]
        rfl

variable {h h' : Host ρ σ} {posts : List Post} {c c' : Connection} {clock : ClockTime}
  {held : List PinId} {tx : Tx} {given : Option PinId}

/-- A message of the client is about no other number than its own. -/
theorem spares_own (hfresh : h.hub.Fresh) (hstate : tx.info.kind ≠ .state)
    (hnumber : tx.info.kind = .pinRequest → tx.info.contextId ≠ number)
    (hhandled : c.Handled clock h held tx given posts c' h') :
    Spares box number h (relevant (tx.info.kind = .pinClose) posts) h' := by
  have hall : tx.info.kind ≠ .pinClose → relevant (tx.info.kind = .pinClose) posts = posts := by
    intro hkind
    rw [decide_eq_false hkind]
    exact relevant_false posts
  cases hhandled with
  | refused hrefused =>
      cases hrefused with
      | kind hkind =>
          rcases hkind with hkind | hkind
          · rw [hall (by simp [hkind])]
            exact .hand h (about_answer c held (by rw [hkind]; nofun))
          · exact absurd hkind hstate
      | number hkind _ | content hkind _ | request hkind _ _ =>
          rw [hall (by simp [hkind])]
          exact .hand h (by
            simp [Post.about, Connection.answer, Tx.ofStatus, hnumber hkind])
      | unknown hkind _ =>
          rw [decide_eq_true hkind]
          exact .of_pins (fun _ _ hp _ => hp) rfl
      | commit hkind _ =>
          rw [hall (by simp [hkind])]
          exact .hand h (about_answer c held nofun)
  | passed hkind _ hscreen hopen hclosed =>
      rw [hall (by simp [hkind])]
      have hopened : Spares box number h (h.openPosts c.outbox _ _ _) _ :=
        .openPin hfresh hscreen (.inr (hnumber hkind))
      rw [hopen] at hopened
      have hdropped := hopened.trans (.stirs (.single (.drop hclosed)))
      rwa [List.append_nil] at hdropped
  | opened hkind _ _ hscreen hopen _ =>
      rw [hall (by simp [hkind])]
      have hopened : Spares box number h (h.openPosts c.outbox _ _ _) _ :=
        .openPin hfresh hscreen (.inr (hnumber hkind))
      rwa [hopen] at hopened
  | @closed id hkind _ =>
      rw [decide_eq_true hkind, relevant_speaks]
      exact .stirs (h.stirs_closePin id .nil)
  | committed hkind =>
      rw [hall (by simp [hkind])]
      refine (Spares.stirs (h.stirs_commit clock c.who tx)).trans (.hand _ ?_)
      exact about_answer c held (by rw [Connection.kind_verdict]; decide)

end Service

end CellSync
