/-
What operations do to the sessions of a host, whichever they are.

Sessions are let go of (`Hub.Releases`), or take steps that close none
(`Hub.Moves`), or one comes (`Hub.Gains`), opened or over at once
(`Host.openPin_effect`), or all are closed (`Hub.closeAll_effect`). Each says what becomes of every session and of
the index, so that nothing else has to be known of the operation.

A session that is let go of is gone, and counts as closed. It has not just
disappeared: whoever is closed has said so (`Announces`).
-/
import CellSync.Proofs.Host.Closing
import CellSync.Proofs.Peer.Service

namespace CellSync

variable {ρ σ : Type}

-- =============================================================== sessions

namespace PinSession

variable {s : PinSession}

/-- An offer closes no session. -/
theorem isClosed_publish (s : PinSession) (tx : Tx) : (s.publish tx).1.isClosed = s.isClosed := by
  unfold publish
  split
  · rfl
  · rfl
  -- While it syncs and while it is synced, a session does the same.
  all_goals
    next hstatus =>
      split
      · rfl
      next hmode =>
        have hopen : s.isClosed = false := by simp [isClosed, hstatus]
        rw [hopen]
        rcases emit_cases { s with status := .syncing } tx with hnone | ⟨-, -, hsome⟩
        · rw [hnone]
          rfl
        · rw [hsome]
          dsimp only
          rw [if_neg (by simp), settle_of_ne (by simp [reaching, not_not.mp hmode])]
          rfl

/-- Who is closed by a call says so. -/
theorem exists_closing_of_take (hopen : s.isClosed = false) {call : Call}
    (hclosed : (s.take call).1.isClosed = true) :
    ∃ m ∈ (s.take call).2, m.info.status = .closed := by
  cases call with
  | publish tx =>
      have hsame : (s.take (.publish tx)).1.isClosed = s.isClosed := isClosed_publish s tx
      rw [hsame, hopen] at hclosed
      cases hclosed
  | close code =>
      have hfinish : s.take (.close code) = s.finish code := if_neg (by rw [hopen]; decide)
      rw [hfinish]
      exact ⟨_, List.mem_singleton_self _, rfl⟩
  | begin backlog =>
      have hclosed : (s.begin backlog).1.isClosed = true := hclosed
      show ∃ m ∈ (s.begin backlog).2, m.info.status = .closed
      unfold begin at hclosed ⊢
      split at hclosed
      · rw [hopen] at hclosed
        cases hclosed
      next hstatus =>
        rw [if_neg hstatus]
        split at hclosed
        next hmode =>
          rw [if_pos hmode]
          exact ⟨_, List.mem_singleton_self _, rfl⟩
        next hmode =>
          rw [if_neg hmode]
          dsimp only at hclosed ⊢
          generalize ({ s with status := .syncing, early := [] }.emitAll (backlog ++ s.early)) = t
            at hclosed ⊢
          by_cases hsettle : t.1.mode = .closeOnSync
          · rw [settle_of_eq hsettle]
            exact ⟨t.1.statusOf .closed .nil, by simp, rfl⟩
          · rw [settle_of_ne hsettle] at hclosed
            cases hclosed

end PinSession

-- ================================================================ effects

namespace Hub

variable {hub hub' hub'' : Hub} {id k : PinId} {ids : List PinId}

/-- Some sessions are let go of, and taken out of the index. -/
structure Releases (ids : List PinId) (hub hub' : Hub) : Prop where
  pin?_eq : ∀ k, hub'.pin? k = if k ∈ ids then none else hub.pin? k
  index_eq : hub'.index = hub.index.filter fun entry => entry.2 ∉ ids
  next_eq : hub'.next = hub.next

namespace Releases

theorem nil (hub : Hub) : Releases [] hub hub :=
  ⟨fun _ => by simp, by simp, rfl⟩

/-- Sessions are let go of one by one. -/
theorem cons (hfirst : Releases [id] hub hub') (hrest : Releases ids hub' hub'') :
    Releases (id :: ids) hub hub'' := by
  refine ⟨fun k => ?_, ?_, hrest.next_eq.trans hfirst.next_eq⟩
  · rw [hrest.pin?_eq, hfirst.pin?_eq]
    by_cases hk : k ∈ ids
    · simp [hk]
    · by_cases hid : k = id
      · simp [hid]
      · simp [hk, hid]
  · rw [hrest.index_eq, hfirst.index_eq, List.filter_filter]
    refine List.filter_congr fun entry _ => ?_
    by_cases hid : entry.2 = id <;> simp [hid]

/-- What is not let go of is registered as before. -/
theorem filter_eq (h : Releases ids hub hub') (hk : k ∉ ids) :
    hub'.index.filter (fun entry => entry.2 = k) = hub.index.filter fun entry => entry.2 = k := by
  rw [h.index_eq, List.filter_filter]
  refine List.filter_congr fun entry _ => ?_
  by_cases hentry : entry.2 = k
  · simp [hentry, hk]
  · simp [hentry]

/-- A session that is still there was not let go of, and is as it was. -/
theorem of_pin? (h : Releases ids hub hub') {p : Pinned} (hpin : hub'.pin? k = some p) :
    k ∉ ids ∧ hub.pin? k = some p := by
  rw [h.pin?_eq] at hpin
  split at hpin
  · cases hpin
  next hk => exact ⟨hk, hpin⟩

/-- Whoever is not let go of is open or over as before. -/
theorem isClosed_eq (h : Releases ids hub hub') (hk : k ∉ ids) :
    hub'.isClosed k = hub.isClosed k := by
  rw [isClosed, h.pin?_eq, if_neg hk]
  rfl

end Releases

/-- Sessions take steps that close none. -/
structure Moves (hub hub' : Hub) : Prop where
  pin : ∀ id, hub.pin? id = none ∧ hub'.pin? id = none
    ∨ ∃ p q, hub.pin? id = some p ∧ hub'.pin? id = some q
      ∧ PinSession.Alike p.session q.session ∧ q.session.isClosed = p.session.isClosed
  index_eq : hub'.index = hub.index
  next_le : hub.next ≤ hub'.next

namespace Moves

/-- Nobody moves where every session stays as it is. -/
theorem of_pin?_eq (hpins : ∀ id, hub'.pin? id = hub.pin? id) (hindex : hub'.index = hub.index)
    (hnext : hub.next ≤ hub'.next) : Moves hub hub' := by
  refine ⟨fun id => ?_, hindex, hnext⟩
  rw [hpins]
  cases hpin : hub.pin? id with
  | none => exact .inl ⟨rfl, rfl⟩
  | some p => exact .inr ⟨p, p, rfl, rfl, .refl _, rfl⟩

theorem refl (hub : Hub) : Moves hub hub := .of_pin?_eq (fun _ => rfl) rfl hub.next.le_refl

/-- Steps that close nobody, one after another, close nobody. -/
theorem trans (hfirst : Moves hub hub') (hrest : Moves hub' hub'') : Moves hub hub'' := by
  refine ⟨fun id => ?_, hrest.index_eq.trans hfirst.index_eq,
    hfirst.next_le.trans hrest.next_le⟩
  rcases hfirst.pin id with ⟨hnone, hnone'⟩ | ⟨p, q, hp, hq, halike, hclosed⟩
  · rcases hrest.pin id with ⟨-, hnone''⟩ | ⟨q, -, hq, -⟩
    · exact .inl ⟨hnone, hnone''⟩
    · cases hnone'.symm.trans hq
  · rcases hrest.pin id with ⟨hnone, -⟩ | ⟨q', r, hq', hr, halike', hclosed'⟩
    · cases hq.symm.trans hnone
    · rw [← Option.some.inj (hq.symm.trans hq')] at halike' hclosed'
      exact .inr ⟨p, r, hp, hr, halike.trans halike', hclosed'.trans hclosed⟩

/-- To be offered a change is such a step. -/
theorem offer (hub : Hub) (tx : Tx) (id : PinId) : Moves hub (hub.offer tx id) := by
  refine ⟨fun k => ?_, index_advance _ _ _, (next_advance _ _ _).ge⟩
  rw [Hub.offer]
  by_cases hk : k = id
  · subst hk
    cases hpin : hub.pin? k with
    | none =>
        refine .inl ⟨rfl, ?_⟩
        rw [pin?_advance, if_pos rfl, hpin]
        rfl
    | some p =>
        exact .inr ⟨p, _, rfl, pin?_advance_self hpin, PinSession.alike_publish p.session tx,
          p.session.isClosed_publish tx⟩
  · rw [pin?_advance_of_ne hk]
    exact (Moves.refl hub).pin k

/-- Publishing a change is one for each session that it is offered to. -/
theorem publish (hub : Hub) (tx : Tx) : Moves hub (hub.publish tx).2 := by
  have hall : ∀ (ids : List PinId) (hub : Hub), Moves hub (ids.foldl (Hub.offer tx) hub) := by
    intro ids
    induction ids with
    | nil => exact .refl
    | cons id ids ih => exact fun hub => (Moves.offer hub tx id).trans (ih _)
  exact hall _ hub

/-- Nobody is closed by them. -/
theorem isClosed_eq (h : Moves hub hub') (id : PinId) : hub'.isClosed id = hub.isClosed id := by
  unfold isClosed
  rcases h.pin id with ⟨hnone, hnone'⟩ | ⟨p, q, hp, hq, -, hclosed⟩
  · rw [hnone, hnone']
  · rw [hp, hq]
    exact hclosed

/-- A session that is there was there before, in an earlier state. -/
theorem of_pin? (h : Moves hub hub') {q : Pinned} (hq : hub'.pin? id = some q) :
    ∃ p, hub.pin? id = some p ∧ PinSession.Alike p.session q.session
      ∧ q.session.isClosed = p.session.isClosed := by
  rcases h.pin id with ⟨-, hnone⟩ | ⟨p, r, hp, hr, halike, hclosed⟩
  · cases hnone.symm.trans hq
  · rw [← Option.some.inj (hr.symm.trans hq)]
    exact ⟨p, hp, halike, hclosed⟩

end Moves

/-- A session comes under the next name, and is registered. -/
structure Gains (p : Pinned) (hub hub' : Hub) : Prop where
  pin?_eq : ∀ k, hub'.pin? k = if k = hub.next then some p else hub.pin? k
  index_eq : hub'.index = hub.index ++ [(p.session.cell, hub.next)]
  next_eq : hub'.next = hub.next + 1

namespace Gains

variable {p q : Pinned}

/-- Who is there has just come, or was there before. -/
theorem of_pin? (h : Gains p hub hub') (hpin : hub'.pin? k = some q) :
    k = hub.next ∧ q = p ∨ k ≠ hub.next ∧ hub.pin? k = some q := by
  rw [h.pin?_eq] at hpin
  split at hpin
  next hk => exact .inl ⟨hk, (Option.some.inj hpin).symm⟩
  next hk => exact .inr ⟨hk, hpin⟩

/-- Who has just come is registered once. -/
theorem registered (h : Gains p hub hub') (hfresh : hub.Fresh) :
    hub'.Registered hub.next p.session.cell := by
  have hothers : hub.index.filter (fun entry => entry.2 = hub.next) = [] := by
    refine List.filter_eq_nil_iff.mpr fun entry hmem => ?_
    rw [decide_eq_true_eq]
    exact Nat.ne_of_lt (hfresh.index_lt _ (List.mem_map_of_mem hmem))
  show hub'.index.filter _ = _
  rw [h.index_eq, List.filter_append, hothers]
  simp

/-- Everybody else is registered as before. -/
theorem filter_eq (h : Gains p hub hub') (hne : k ≠ hub.next) :
    hub'.index.filter (fun entry => entry.2 = k) = hub.index.filter fun entry => entry.2 = k := by
  rw [h.index_eq, List.filter_append]
  simp [Ne.symm hne]

theorem isClosed_next (h : Gains p hub hub') : hub'.isClosed hub.next = p.session.isClosed := by
  rw [isClosed, h.pin?_eq, if_pos rfl]
  rfl

theorem isClosed_eq (h : Gains p hub hub') (hne : k ≠ hub.next) :
    hub'.isClosed k = hub.isClosed k := by
  rw [isClosed, h.pin?_eq, if_neg hne]
  rfl

end Gains

/-- Where open sessions are registered, none is open once the registered ones are
closed. -/
theorem closeAll_effect (hregistered : ∀ id p, hub.pin? id = some p → p.session.isClosed = false →
    hub.Registered id p.session.cell) (code : ErrorCode) :
    (∀ id, (hub.closeAll code).2.isClosed id = true) ∧ (hub.closeAll code).2.index = []
      ∧ (hub.closeAll code).2.next = hub.next := by
  have hall : (hub.closeAll code).2
      = hub.takeIndex.1.foldl (fun hub id => hub.advance id (·.close code)) hub.takeIndex.2 :=
    closeEach_eq code _ _
  rw [hall]
  refine ⟨fun id => ?_, index_foldl_advance _ _ _, next_foldl_advance _ _ _⟩
  apply (isClosed_foldl_close code _ _ id).mpr
  cases hopen : hub.isClosed id with
  | true => exact .inl hopen
  | false =>
      obtain ⟨p, hpin, hp⟩ := isClosed_eq_false.mp hopen
      exact .inr (mem_takeIndex hpin (hregistered id p hpin hp))

end Hub

-- =========================================================== operations

namespace Host

variable {h : Host ρ σ}

/-- A pin that is closed and let go of is gone. -/
theorem releases_closePin (h : Host ρ σ) (id : PinId) (code : ErrorCode) :
    Hub.Releases [id] h.hub ((h.closePin id code).2.mapHub (·.drop id)).hub := by
  show Hub.Releases [id] h.hub (((h.hub.unregister id).advance id (·.close code)).drop id)
  refine ⟨fun k => ?_, ?_, ?_⟩
  · rw [Hub.pin?_drop]
    by_cases hk : k = id
    · simp [hk]
    · rw [if_neg hk, Hub.pin?_advance_of_ne hk, if_neg (by simpa using hk)]
      rfl
  · show ((h.hub.unregister id).advance id (·.close code)).index = _
    rw [Hub.index_advance]
    exact List.filter_congr fun entry _ => by simp
  · show ((h.hub.unregister id).advance id (·.close code)).next = _
    rw [Hub.next_advance]
    rfl

/-- A session that is opened is registered unless it is over at once. -/
theorem openPin_effect (hfresh : h.hub.Fresh) {box : OutboxId} {who : Login.Checkpoint}
    {number : UInt64} {request : PinRequest} {session : PinSession} {g : Host ρ σ}
    (hscreen : h.screen who number request = .ok session)
    (hopen : h.openPin box who number request = (.ok h.hub.next, g)) :
    ∃ t : PinSession, t.contextId = number
      ∧ (∀ k, g.hub.pin? k = if k = h.hub.next then some ⟨t, box⟩ else h.hub.pin? k)
      ∧ g.hub.next = h.hub.next + 1
      ∧ g.hub.index
        = if t.isClosed then h.hub.index else h.hub.index ++ [(t.cell, h.hub.next)] := by
  obtain ⟨cell, -, hsession⟩ := screen_eq_ok hscreen
  rw [openPin_of_screen box hscreen] at hopen
  rw [← (Prod.mk.inj hopen).2]
  generalize (h.enroll session box).2.backlog h.hub.next = backlog
  have halike := (PinSession.adds_begin session backlog).alike
  obtain ⟨hpin, hindex, hnext⟩ := begin_enroll_effect hfresh session box backlog
  have hclosed : ((h.enroll session box).2.begin h.hub.next backlog).hub.isClosed h.hub.next
      = (session.begin backlog).1.isClosed := by
    rw [Hub.isClosed, hpin, if_pos rfl]
    rfl
  refine ⟨(session.begin backlog).1, ?_, fun k => ?_, ?_, ?_⟩
  · rw [halike.contextId_eq, hsession]
  · rw [← hpin k]
    unfold tidy
    split <;> rfl
  · rw [← hnext]
    unfold tidy
    split <;> rfl
  · rw [tidy, hclosed]
    split
    · -- Its registration is taken back.
      show ((h.enroll session box).2.begin h.hub.next backlog).hub.index.filter _ = _
      have hothers : h.hub.index.filter (fun entry => decide (entry.2 ≠ h.hub.next))
          = h.hub.index := by
        refine List.filter_eq_self.mpr fun entry hmem => decide_eq_true ?_
        exact Nat.ne_of_lt (hfresh.index_lt _ (List.mem_map_of_mem hmem))
      rw [hindex, List.filter_append, hothers]
      simp
    · rw [hindex, halike.cell_eq]

/-- A commit closes nobody, whether it is accepted or not. -/
theorem moves_commit (h : Host ρ σ) (clock : ClockTime) (who : Login.Checkpoint) (tx : Tx) :
    Hub.Moves h.hub (h.commit clock who tx).2.hub := by
  unfold Host.commit
  cases h.checkCommit who tx with
  | error error => exact .refl _
  | ok =>
      cases hrecord : h.recordCommit clock tx with
      | error error => exact .refl _
      | ok recorded =>
          obtain ⟨tx', tid, g⟩ := recorded
          obtain ⟨_, _, -, -, -, -, rfl⟩ := recordCommit_eq_ok hrecord
          exact .publish h.hub tx'

end Host

-- ======================================================== announcements

/-- A message in which a session says that it is over. -/
def Post.Closes (post : Post) (id : PinId) : Prop :=
  post.author = .pin id ∧ post.tx.info.status = .closed

/-- Every session that is closed meanwhile has said so. -/
def Announces (h : Host ρ σ) (posts : List Post) (h' : Host ρ σ) : Prop :=
  ∀ id, h.hub.isClosed id = false → h'.hub.isClosed id = true → ∃ post ∈ posts, post.Closes id

namespace Announces

variable {h h' h'' : Host ρ σ} {posts more : List Post}

/-- Whoever is closed in one part or the other has said so. -/
theorem trans (hfirst : Announces h posts h') (hrest : Announces h' more h'') :
    Announces h (posts ++ more) h'' := by
  intro id hopen hclosed
  cases hmiddle : h'.hub.isClosed id with
  | true =>
      obtain ⟨post, hmem, htold⟩ := hfirst id hopen hmiddle
      exact ⟨post, List.mem_append_left _ hmem, htold⟩
  | false =>
      obtain ⟨post, hmem, htold⟩ := hrest id hmiddle hclosed
      exact ⟨post, List.mem_append_right _ hmem, htold⟩

/-- If nobody is closed, nobody has to say so. -/
theorem of_eq (hsame : ∀ id, h.hub.isClosed id = false → h'.hub.isClosed id = false) :
    Announces h posts h' := by
  intro id hopen hclosed
  rw [hsame id hopen] at hclosed
  cases hclosed

/-- Nobody is closed where the sessions are the same. -/
theorem of_pins (hpins : h'.hub.pins = h.hub.pins) : Announces h posts h' := by
  refine .of_eq fun id hopen => ?_
  unfold Hub.isClosed Hub.pin? at hopen ⊢
  rwa [hpins]

/-- A session that is closed by a call says so at that call. -/
theorem call (h : Host ρ σ) (id : PinId) (call : PinSession.Call) :
    Announces h (h.speaks id call) (h.mapHub (·.advance id (·.take call))) := by
  intro k hopen hclosed
  obtain ⟨p, hpin, hp⟩ := Hub.isClosed_eq_false.mp hopen
  have hclosed : (h.hub.advance id (·.take call)).isClosed k = true := hclosed
  by_cases hk : k = id
  · subst hk
    rw [Hub.isClosed, Hub.pin?_advance_self hpin] at hclosed
    obtain ⟨m, hm, hstatus⟩ := PinSession.exists_closing_of_take hp hclosed
    refine ⟨⟨p.outbox, .pin k, m⟩, ?_, rfl, hstatus⟩
    rw [Host.speaks, Host.utters, hpin]
    exact List.mem_map_of_mem hm
  · rw [Hub.isClosed, Hub.pin?_advance_of_ne hk] at hclosed
    rw [Hub.isClosed, hclosed] at hopen
    cases hopen

/-- Letting go of a session that is over closes nobody. -/
theorem drop {id : PinId} (hdropped : h.hub.isClosed id = true) :
    Announces h [] (h.mapHub (·.drop id)) := by
  refine .of_eq fun k hopen => ?_
  have hne : k ≠ id := by
    rintro rfl
    rw [hdropped] at hopen
    cases hopen
  show (h.hub.drop id).isClosed k = false
  rw [Hub.isClosed, Hub.pin?_drop, if_neg hne]
  exact hopen

/-- Small steps in a row close nobody in silence. -/
theorem stirs (hstirs : Stirs h posts h') : Announces h posts h' := by
  induction hstirs with
  | refl => exact .of_eq fun _ hopen => hopen
  | tail _ hlast ih =>
      refine ih.trans ?_
      cases hlast with
      | still hpins _ _ _ _ => exact .of_pins hpins
      | call id call => exact .call _ id call
      | @drop id hdropped => exact .drop hdropped

/-- Registering a session closes nobody. -/
theorem enroll (hfresh : h.hub.Fresh) (session : PinSession) (box : OutboxId) :
    Announces h [] (h.enroll session box).2 := by
  refine .of_eq fun k hopen => ?_
  obtain ⟨p, hpin, hp⟩ := Hub.isClosed_eq_false.mp hopen
  have hne : k ≠ h.hub.next := Nat.ne_of_lt (hfresh.lt_of_pin? hpin)
  show ((h.hub.add session box).2.register h.hub.next).isClosed k = false
  rw [Hub.isClosed, Hub.pin?_add_register hfresh, if_neg hne]
  exact hopen

/-- The session that is opened says so too if it is over at once. -/
theorem openPin (hfresh : h.hub.Fresh) {box : OutboxId} {who : Login.Checkpoint}
    {number : UInt64} {request : PinRequest} {session : PinSession} {g : Host ρ σ}
    (hscreen : h.screen who number request = .ok session)
    (hopen : h.openPin box who number request = (.ok h.hub.next, g)) :
    Announces h (h.openPosts box who number request) g
      ∧ (g.hub.isClosed h.hub.next = true →
        ∃ post ∈ h.openPosts box who number request, post.Closes h.hub.next) := by
  have hstirs := Host.stirs_openPin box hscreen
  rw [hopen] at hstirs
  obtain ⟨cell, -, hsession⟩ := Host.screen_eq_ok hscreen
  refine ⟨(Announces.enroll hfresh session box).trans (.stirs hstirs), fun hclosed => ?_⟩
  refine Announces.stirs hstirs h.hub.next ?_ hclosed
  show ((h.hub.add session box).2.register h.hub.next).isClosed h.hub.next = false
  rw [Hub.isClosed, Hub.pin?_add_register hfresh, if_pos rfl, hsession]
  rfl

variable {c c' : Connection} {clock : ClockTime} {held : List PinId} {tx : Tx}
  {given : Option PinId}

/-- Nor is anybody closed in silence when a message is handled, or the session
opened for it. -/
theorem handled (hfresh : h.hub.Fresh) (hhandled : c.Handled clock h held tx given posts c' h') :
    Announces h posts h' ∧
      ∀ id ∈ given, h'.hub.isClosed id = true → ∃ post ∈ posts, post.Closes id := by
  cases hhandled with
  | refused _ => exact ⟨.of_pins rfl, nofun⟩
  | passed _ _ hscreen hopen hclosed =>
      obtain ⟨hothers, hnew⟩ := Announces.openPin hfresh hscreen hopen
      have hdropped := hothers.trans (.drop hclosed)
      rw [List.append_nil] at hdropped
      refine ⟨hdropped, fun id hid _ => ?_⟩
      rw [← Option.some.inj hid]
      exact hnew hclosed
  | opened _ _ _ hscreen hopen hclosed =>
      obtain ⟨hothers, hnew⟩ := Announces.openPin hfresh hscreen hopen
      refine ⟨hothers, fun id hid => ?_⟩
      rw [← Option.some.inj hid]
      exact hnew
  | @closed id _ _ => exact ⟨.stirs (h.stirs_closePin id .nil), nofun⟩
  | committed _ =>
      exact ⟨(Announces.stirs (h.stirs_commit clock c.who tx)).trans (.of_pins rfl), nofun⟩

end Announces

-- ====================================================== connections leave

namespace Connection

variable {h : Host ρ σ}

/-- A connection without pins lets go of none. -/
theorem prune_of_nil {c : Connection} (hpins : c.pins = []) (h : Host ρ σ) :
    c.prune h = (c, h) := by
  unfold prune
  cases c
  cases hpins
  rfl

/-- Where only open sessions are registered, only closed ones are let go of. -/
theorem releases_prune (c : Connection)
    (halive : ∀ entry ∈ h.hub.index, h.hub.isClosed entry.2 = false) :
    Hub.Releases ((c.pins.filter fun (_, id) => h.hub.isClosed id).map (·.2)) h.hub
      (c.prune h).2.hub := by
  have hall : ∀ (ended : List (UInt64 × PinId)) (g : Host ρ σ),
      (∀ k, (ended.foldl (fun g entry => g.mapHub (·.drop entry.2)) g).hub.pin? k
          = if k ∈ ended.map (·.2) then none else g.hub.pin? k)
        ∧ (ended.foldl (fun g entry => g.mapHub (·.drop entry.2)) g).hub.index = g.hub.index
        ∧ (ended.foldl (fun g entry => g.mapHub (·.drop entry.2)) g).hub.next = g.hub.next := by
    intro ended
    induction ended with
    | nil => exact fun g => ⟨fun k => by simp, rfl, rfl⟩
    | cons entry ended ih =>
        intro g
        obtain ⟨hpin, hindex, hnext⟩ := ih (g.mapHub (·.drop entry.2))
        refine ⟨fun k => ?_, hindex, hnext⟩
        have hfirst : (g.mapHub (·.drop entry.2)).hub.pin? k
            = if k = entry.2 then none else g.hub.pin? k := Hub.pin?_drop g.hub entry.2 k
        rw [List.foldl_cons, hpin, hfirst, List.map_cons]
        by_cases hmem : k ∈ ended.map (·.2)
        · rw [if_pos hmem, if_pos (List.mem_cons_of_mem _ hmem)]
        · by_cases hk : k = entry.2
          · rw [if_neg hmem, if_pos hk, if_pos (hk ▸ List.mem_cons_self)]
          · rw [if_neg hmem, if_neg hk, if_neg fun hcons =>
              (List.mem_cons.mp hcons).elim hk hmem]
  obtain ⟨hpin, hindex, hnext⟩ := hall (c.pins.filter fun (_, id) => h.hub.isClosed id) h
  refine ⟨hpin, hindex.trans (List.filter_eq_self.mpr fun entry hmem => ?_).symm, hnext⟩
  refine decide_eq_true fun hended => ?_
  obtain ⟨other, hother, heq⟩ := List.mem_map.mp hended
  have hclosed : h.hub.isClosed other.2 = true := (List.mem_filter.mp hother).2
  rw [heq, halive entry hmem] at hclosed
  cases hclosed

/-- A connection that is torn down lets go of all that it holds. -/
theorem releases_teardown (c : Connection) (h : Host ρ σ) :
    Hub.Releases (c.pins.map (·.2)) h.hub (c.teardown h).2.hub := by
  have hall : ∀ (pins : List (UInt64 × PinId)) (g : Host ρ σ),
      Hub.Releases (pins.map (·.2)) g.hub (pins.foldl
        (fun g (_, id) => (g.closePin id .notConnected).2.mapHub (·.drop id)) g).hub := by
    intro pins
    induction pins with
    | nil => exact fun g => .nil g.hub
    | cons entry pins ih => exact fun g => (g.releases_closePin entry.2 .notConnected).cons (ih _)
  exact hall c.pins h

end Connection

end CellSync
