/-
A session is registered as long as it is open, and its connection knows it.

Three places tell of a pin: the registry, the session itself, and the
table of the connection that opened it. `Service.Sound` says that they
agree: the registered sessions are the open ones, each registered once and
under its own cell, and an open session is in the table of the connection
that was given it, under its own number. Every event touches two of the
three at once, and none leaves them at odds.
-/
import CellSync.Proofs.Peer.Effects

namespace CellSync

variable {ι ρ σ : Type}

-- ============================================================= agreement

/-- A list stays without repetitions when something new is put at its end. -/
theorem nodup_map_concat {α β : Type} {f : α → β} {l : List α} {a : α} (h : (l.map f).Nodup)
    (hnew : ∀ x ∈ l, f x ≠ f a) : ((l ++ [a]).map f).Nodup := by
  rw [List.map_append, List.nodup_append]
  refine ⟨h, List.nodup_singleton _, fun b hb c hc => ?_⟩
  obtain ⟨x, hx, rfl⟩ := List.mem_map.mp hb
  rw [List.mem_singleton.mp hc]
  exact hnew x hx

namespace Service

/-- What the registry, the sessions and the tables of the connections have to do with
each other, and with the sessions that were opened. -/
structure Sound (s : Service ι ρ σ) (opened : List (ι × PinId)) : Prop where
  fresh : s.host.hub.Fresh
  registered : ∀ id p, s.host.hub.pin? id = some p → p.session.isClosed = false →
    s.host.hub.Registered id p.session.cell
  alive : ∀ entry ∈ s.host.hub.index, s.host.hub.isClosed entry.2 = false
  held : ∀ id p, s.host.hub.pin? id = some p → p.session.isClosed = false →
    ∃ i, (i, id) ∈ opened ∧ (p.session.contextId, id) ∈ (s.connections i).pins
  mine : ∀ i, ∀ entry ∈ (s.connections i).pins, (i, entry.2) ∈ opened
  numbers : ∀ i, ((s.connections i).pins.map (·.1)).Nodup
  lt : ∀ entry ∈ opened, entry.2 < s.host.hub.next
  once : (opened.map (·.2)).Nodup

variable {s : Service ι ρ σ} {opened : List (ι × PinId)} {i : ι} {c' : Connection} {h' : Host ρ σ}

/-- No pin has been asked for. -/
structure Quiet (s : Service ι ρ σ) : Prop where
  pins : s.host.hub.pins = []
  index : s.host.hub.index = []
  tables : ∀ i, (s.connections i).pins = []

theorem Quiet.sound (h : s.Quiet) : s.Sound [] := by
  have hnone : ∀ id, s.host.hub.pin? id = none := by
    intro id
    rw [Hub.pin?, h.pins]
    rfl
  refine ⟨⟨fun k hk => ?_, fun k hk => ?_⟩, fun id p hpin => ?_, fun entry hmem => ?_,
    fun id p hpin => ?_, fun i entry hmem => ?_, fun i => ?_,
    List.forall_mem_nil _, List.nodup_nil⟩
  · rw [h.pins] at hk
    cases hk
  · rw [h.index] at hk
    cases hk
  · cases (hnone id).symm.trans hpin
  · rw [h.index] at hmem
    cases hmem
  · cases (hnone id).symm.trans hpin
  · rw [h.tables] at hmem
    cases hmem
  · rw [h.tables]
    exact List.nodup_nil

/-- The live registrations are those of the open sessions. -/
theorem Sound.mem_live_iff (h : s.Sound opened) (id : PinId) :
    id ∈ s.host.hub.live.map (·.2)
      ↔ id ∈ opened.map (·.2) ∧ s.host.hub.isClosed id = false := by
  constructor
  · intro hmem
    obtain ⟨entry, hentry, rfl⟩ := List.mem_map.mp hmem
    have hopen := h.alive entry (List.mem_filter.mp hentry).1
    obtain ⟨p, hpin, hp⟩ := Hub.isClosed_eq_false.mp hopen
    obtain ⟨i, hopened, -⟩ := h.held entry.2 p hpin hp
    exact ⟨List.mem_map_of_mem hopened, hopen⟩
  · rintro ⟨-, hopen⟩
    obtain ⟨p, hpin, hp⟩ := Hub.isClosed_eq_false.mp hopen
    exact Hub.mem_takeIndex hpin (h.registered id p hpin hp)

theorem Sound.eq_of_mem (h : s.Sound opened) {j : ι} {id : PinId} (hi : (i, id) ∈ opened)
    (hj : (j, id) ∈ opened) : j = i :=
  congrArg Prod.fst (List.inj_on_of_nodup_map h.once hj hi rfl)

/-- An open session is in the table of whoever opened it. -/
theorem Sound.held_by (h : s.Sound opened) {id : PinId} (hopened : (i, id) ∈ opened)
    (hopen : s.host.hub.isClosed id = false) :
    ∃ p, s.host.hub.pin? id = some p ∧ s.host.hub.Registered id p.session.cell
      ∧ (p.session.contextId, id) ∈ (s.connections i).pins := by
  obtain ⟨p, hpin, hp⟩ := Hub.isClosed_eq_false.mp hopen
  obtain ⟨j, hother, hheld⟩ := h.held id p hpin hp
  rw [h.eq_of_mem hopened hother] at hheld
  exact ⟨p, hpin, h.registered id p hpin hp, hheld⟩

theorem connections_put [DecidableEq ι] (s : Service ι ρ σ) (i j : ι)
    (after : Connection.After ρ σ) :
    (s.put i after).connections j = if j = i then after.1 else s.connections j :=
  Function.update_apply ..

namespace Sound

/-- Sessions take steps. -/
theorem moves (h : s.Sound opened) (hfresh : h'.hub.Fresh) (hmoves : Hub.Moves s.host.hub h'.hub) :
    Sound { s with host := h' } opened := by
  refine ⟨hfresh, fun id q hq hopen => ?_, fun entry hmem => ?_, fun id q hq hopen => ?_, h.mine,
    h.numbers, fun entry hmem => (h.lt entry hmem).trans_le hmoves.next_le, h.once⟩
  · obtain ⟨p, hp, halike, hclosed⟩ := hmoves.of_pin? hq
    have hregistered := h.registered id p hp (hclosed.symm.trans hopen)
    rw [← halike.cell_eq] at hregistered
    show h'.hub.index.filter _ = _
    rw [hmoves.index_eq]
    exact hregistered
  · have hmem : entry ∈ h'.hub.index := hmem
    rw [hmoves.index_eq] at hmem
    exact (hmoves.isClosed_eq entry.2).trans (h.alive entry hmem)
  · obtain ⟨p, hp, halike, hclosed⟩ := hmoves.of_pin? hq
    obtain ⟨j, hopened, hheld⟩ := h.held id p hp (hclosed.symm.trans hopen)
    rw [← halike.contextId_eq] at hheld
    exact ⟨j, hopened, hheld⟩

/-- A connection is given a session that is over. -/
theorem grow (h : s.Sound opened) {id : PinId} (hnew : ∀ entry ∈ opened, entry.2 < id)
    (hlt : id < s.host.hub.next) (i : ι) : s.Sound (opened ++ [(i, id)]) := by
  refine ⟨h.fresh, h.registered, h.alive, fun k p hpin hopen => ?_,
    fun j entry hmem => List.mem_append_left _ (h.mine j entry hmem), h.numbers,
    fun entry hmem => ?_, ?_⟩
  · obtain ⟨j, hopened, hheld⟩ := h.held k p hpin hopen
    exact ⟨j, List.mem_append_left _ hopened, hheld⟩
  · rcases List.mem_append.mp hmem with hold | hlast
    · exact h.lt entry hold
    · rw [List.mem_singleton.mp hlast]
      exact hlt
  · exact nodup_map_concat h.once fun entry hmem => Nat.ne_of_lt (hnew entry hmem)

/-- After a shutdown no session is open. -/
theorem shutdown (h : s.Sound opened) : Sound { s with host := s.host.shutdown } opened := by
  have hfresh := (Sequel.stirs s.host.stirs_shutdown).fresh h.fresh
  unfold Host.shutdown at hfresh ⊢
  split at hfresh
  next hdown =>
    rw [if_pos hdown]
    exact h
  next hdown =>
    rw [if_neg hdown]
    obtain ⟨hclosed, hindex, hnext⟩ := Hub.closeAll_effect h.registered .shuttingDown
    refine ⟨hfresh, fun id p hpin hopen => ?_, fun entry hmem => ?_, fun id p hpin hopen => ?_,
      h.mine, h.numbers, fun entry hmem => hnext.symm ▸ h.lt entry hmem, h.once⟩
    · exact absurd (hclosed id) (by
        rw [Bool.not_eq_true]
        exact Hub.isClosed_eq_false.mpr ⟨p, hpin, hopen⟩)
    · have hmem : entry ∈ (s.host.hub.closeAll .shuttingDown).2.index := hmem
      rw [hindex] at hmem
      cases hmem
    · exact absurd (hclosed id) (by
        rw [Bool.not_eq_true]
        exact Hub.isClosed_eq_false.mpr ⟨p, hpin, hopen⟩)

variable [DecidableEq ι]

/-- A connection lets go of sessions, and keeps the others in its table. -/
theorem release (h : s.Sound opened) (hfresh : h'.hub.Fresh) {ids : List PinId}
    (hreleases : Hub.Releases ids s.host.hub h'.hub)
    (hsub : c'.pins.Sublist (s.connections i).pins)
    (hkept : ∀ entry ∈ (s.connections i).pins, entry.2 ∉ ids → entry ∈ c'.pins) :
    (s.put i (c', h')).Sound opened := by
  have hpins : ∀ j, ((s.put i (c', h')).connections j).pins.Sublist (s.connections j).pins := by
    intro j
    rw [connections_put]
    split
    next hj => exact hj ▸ hsub
    · exact List.Sublist.refl _
  refine ⟨hfresh, fun id p hpin hopen => ?_, fun entry hmem => ?_, fun id p hpin hopen => ?_,
    fun j entry hmem => h.mine j entry ((hpins j).subset hmem),
    fun j => (h.numbers j).sublist ((hpins j).map _), fun entry hmem => ?_, h.once⟩
  · obtain ⟨hid, hpin⟩ := hreleases.of_pin? hpin
    exact (hreleases.filter_eq hid).trans (h.registered id p hpin hopen)
  · have hmem : entry ∈ h'.hub.index := hmem
    rw [hreleases.index_eq] at hmem
    obtain ⟨hmem, hid⟩ := List.mem_filter.mp hmem
    exact (hreleases.isClosed_eq (of_decide_eq_true hid)).trans (h.alive entry hmem)
  · obtain ⟨hid, hpin⟩ := hreleases.of_pin? hpin
    obtain ⟨j, hopened, hheld⟩ := h.held id p hpin hopen
    refine ⟨j, hopened, ?_⟩
    rw [connections_put]
    split
    next hj =>
      rw [hj] at hheld
      exact hkept _ hheld hid
    · exact hheld
  · show entry.2 < h'.hub.next
    rw [hreleases.next_eq]
    exact h.lt entry hmem

/-- A connection is given a session that is open, and keeps it. -/
theorem enroll (h : s.Sound opened) (hfresh : h'.hub.Fresh) {p : Pinned}
    (hgains : Hub.Gains p s.host.hub h'.hub) (hopen : p.session.isClosed = false)
    (hnumber : (s.connections i).pins.lookup p.session.contextId = none)
    (hpins : c'.pins = (s.connections i).pins ++ [(p.session.contextId, s.host.hub.next)]) :
    (s.put i (c', h')).Sound (opened ++ [(i, s.host.hub.next)]) := by
  have hkeys : ∀ j, ((s.put i (c', h')).connections j).pins = (s.connections j).pins
      ++ if j = i then [(p.session.contextId, s.host.hub.next)] else [] := by
    intro j
    rw [connections_put]
    split
    next hj => rw [hj, ← hpins]
    · rw [List.append_nil]
  refine ⟨hfresh, fun k q hq hk => ?_, fun entry hmem => ?_, fun k q hq hk => ?_,
    fun j entry hmem => ?_, fun j => ?_, fun entry hmem => ?_, ?_⟩
  · rcases hgains.of_pin? hq with ⟨rfl, rfl⟩ | ⟨hne, hq⟩
    · exact hgains.registered h.fresh
    · exact (hgains.filter_eq hne).trans (h.registered k q hq hk)
  · have hmem : entry ∈ h'.hub.index := hmem
    show h'.hub.isClosed entry.2 = false
    rw [hgains.index_eq] at hmem
    rcases List.mem_append.mp hmem with hold | hnew
    · have hlt := h.fresh.index_lt _ (List.mem_map_of_mem hold)
      exact (hgains.isClosed_eq (Nat.ne_of_lt hlt)).trans (h.alive entry hold)
    · rw [List.mem_singleton.mp hnew]
      exact hgains.isClosed_next.trans hopen
  · rcases hgains.of_pin? hq with ⟨rfl, rfl⟩ | ⟨-, hq⟩
    · refine ⟨i, List.mem_append_right _ (List.mem_singleton_self _), ?_⟩
      rw [hkeys, if_pos rfl]
      exact List.mem_append_right _ (List.mem_singleton_self _)
    · obtain ⟨j, hopened, hheld⟩ := h.held k q hq hk
      refine ⟨j, List.mem_append_left _ hopened, ?_⟩
      rw [hkeys]
      exact List.mem_append_left _ hheld
  · rw [hkeys] at hmem
    rcases List.mem_append.mp hmem with hold | hnew
    · exact List.mem_append_left _ (h.mine j entry hold)
    · split at hnew
      next hj =>
        rw [List.mem_singleton.mp hnew, hj]
        exact List.mem_append_right _ (List.mem_singleton_self _)
      · cases hnew
  · rw [hkeys]
    split
    next hj =>
      rw [hj]
      refine nodup_map_concat (h.numbers i) fun entry hmem => ?_
      exact Ne.symm (bne_iff_ne.mp (List.lookup_eq_none_iff.mp hnumber entry hmem))
    · rw [List.append_nil]
      exact h.numbers j
  · show entry.2 < h'.hub.next
    rw [hgains.next_eq]
    rcases List.mem_append.mp hmem with hold | hnew
    · exact Nat.lt_succ_of_lt (h.lt entry hold)
    · rw [List.mem_singleton.mp hnew]
      exact Nat.lt_succ_self _
  · exact nodup_map_concat h.once fun entry hmem => Nat.ne_of_lt (h.lt entry hmem)

theorem prune (h : s.Sound opened) (i : ι) :
    (s.put i ((s.connections i).prune s.host)).Sound opened := by
  have hsequel := Sequel.stirs ((s.connections i).stirs_prune s.host)
  refine h.release (hsequel.fresh h.fresh) ((s.connections i).releases_prune h.alive)
    List.filter_sublist fun entry hmem hkept => List.mem_filter.mpr ⟨hmem, ?_⟩
  rw [Bool.not_eq_true', Bool.eq_false_iff]
  exact fun hclosed => hkept (List.mem_map_of_mem (List.mem_filter.mpr ⟨hmem, hclosed⟩))

theorem teardown (h : s.Sound opened) (i : ι) :
    (s.put i ((s.connections i).teardown s.host)).Sound opened := by
  have hsequel := Sequel.stirs ((s.connections i).stirs_teardown s.host)
  exact h.release (hsequel.fresh h.fresh) ((s.connections i).releases_teardown s.host)
    (List.nil_sublist _) fun entry hmem hkept => absurd (List.mem_map_of_mem hmem) hkept

/-- What a message does once the sessions that are over are let go of. -/
theorem handled (h : s.Sound opened) {clock : ClockTime} {held : List PinId} {tx : Tx}
    {given : Option PinId} {posts : List Post}
    (hhandled : (s.connections i).Handled clock s.host held tx given posts c' h') :
    (s.put i (c', h')).Sound (opened ++ (given.map (i, ·)).toList) := by
  have hfresh := (Sequel.handled hhandled).fresh h.fresh
  have hsame : ∀ g : Host ρ σ, s.put i (s.connections i, g) = { s with host := g } := fun g =>
    congrArg (Service.mk g) (Function.update_eq_self i s.connections)
  cases hhandled with
  | refused _ =>
      rw [hsame, Option.map_none, Option.toList_none, List.append_nil]
      exact h.moves hfresh (.of_pin?_eq (fun _ => rfl) rfl (Nat.le_refl _))
  | committed _ =>
      rw [hsame, Option.map_none, Option.toList_none, List.append_nil]
      refine h.moves hfresh ((Host.moves_commit s.host clock (s.connections i).who tx).trans ?_)
      exact .of_pin?_eq (fun _ => rfl) rfl (Nat.le_refl _)
  | @closed id _ hlookup =>
      rw [Option.map_none, Option.toList_none, List.append_nil]
      refine h.release hfresh (s.host.releases_closePin id .nil) List.filter_sublist
        fun entry hmem hother => List.mem_filter.mpr ⟨hmem, decide_eq_true fun hnumber => hother ?_⟩
      -- A table has one entry with a number.
      obtain ⟨before, after, hpins, -⟩ := List.lookup_eq_some_iff.mp hlookup
      have hentry : (tx.info.contextId, id) ∈ (s.connections i).pins := by
        rw [hpins]
        exact List.mem_append_right _ List.mem_cons_self
      rw [List.inj_on_of_nodup_map (h.numbers i) hmem hentry hnumber]
      exact List.mem_singleton_self _
  | passed _ _ hscreen hopen hclosed =>
      obtain ⟨t, -, hpin, hnext, hindex⟩ := Host.openPin_effect h.fresh hscreen hopen
      rw [Hub.isClosed, hpin, if_pos rfl] at hclosed
      have hover : t.isClosed = true := hclosed
      rw [if_pos hover] at hindex
      rw [hsame]
      refine (h.moves hfresh (.of_pin?_eq (fun k => ?_) hindex (hnext ▸ Nat.le_succ _))).grow
        h.lt (hnext ▸ Nat.lt_succ_self _) i
      show (Hub.drop _ _).pin? k = s.host.hub.pin? k
      rw [Hub.pin?_drop, hpin]
      split
      next hk => rw [hk, h.fresh.pin?_next]
      · rfl
  | opened _ hnumber _ hscreen hopen hclosed =>
      obtain ⟨t, hcontext, hpin, hnext, hindex⟩ := Host.openPin_effect h.fresh hscreen hopen
      rw [Hub.isClosed, hpin, if_pos rfl] at hclosed
      have hopened : t.isClosed = false := hclosed
      rw [hopened, if_neg (by decide)] at hindex
      rw [← hcontext] at hnumber
      exact h.enroll hfresh ⟨hpin, hindex, hnext⟩ hopened hnumber (by rw [hcontext])

end Sound

-- ============================================================== all events

variable [DecidableEq ι]

/-- The session that a connection is given at an event. -/
def opens? (s : Service ι ρ σ) : Event ι ρ → Option (ι × PinId)
  | .message i _ tx =>
    let (c, h) := (s.connections i).prune s.host
    (c.granted? h tx).map (i, ·)
  | _ => none

/-- The sessions that connections are given at some events, in order. -/
def openings (s : Service ι ρ σ) : List (Event ι ρ) → List (ι × PinId)
  | [] => []
  | e :: events => (s.opens? e).toList ++ (s.step e).openings events

/-- All that is handed over at some events, in order. -/
def transcript (s : Service ι ρ σ) : List (Event ι ρ) → List Post
  | [] => []
  | e :: events => s.told e ++ (s.step e).transcript events

theorem Sound.step (h : s.Sound opened) (e : Event ι ρ) :
    (s.step e).Sound (opened ++ (s.opens? e).toList) := by
  cases e with
  | message i clock tx =>
      have hpruned := h.prune i
      have hself : (s.put i ((s.connections i).prune s.host)).connections i
          = ((s.connections i).prune s.host).1 := by
        rw [connections_put, if_pos rfl]
      have hhandled := (s.connections i).handled_dispatch clock s.host tx
      rw [← hself] at hhandled
      have htwice : (s.put i ((s.connections i).prune s.host)).put i
          ((s.connections i).dispatch clock s.host tx) = s.step (.message i clock tx) :=
        congrArg (Service.mk _) (Function.update_idem ..)
      have hsound := hpruned.handled hhandled
      rw [htwice, hself] at hsound
      exact hsound
  | departure i =>
      simp only [opens?, Option.toList_none, List.append_nil]
      exact h.teardown i
  | commit clock who tx =>
      simp only [opens?, Option.toList_none, List.append_nil]
      have hsequel := Sequel.stirs (s.host.stirs_commit clock who tx)
      exact h.moves (hsequel.fresh h.fresh) (s.host.moves_commit clock who tx)
  | shutdown =>
      simp only [opens?, Option.toList_none, List.append_nil]
      exact h.shutdown
  | carry box f =>
      simp only [opens?, Option.toList_none, List.append_nil]
      exact h.moves (h.fresh.move (.mapOutbox s.host.hub box f))
        (.of_pin?_eq (fun _ => rfl) rfl (Nat.le_refl _))
  | edit directory =>
      simp only [opens?, Option.toList_none, List.append_nil]
      exact h.moves h.fresh (.refl _)

theorem Sound.play (h : s.Sound opened) (events : List (Event ι ρ)) :
    (s.play events).Sound (opened ++ s.openings events) := by
  induction events generalizing s opened with
  | nil =>
      rw [openings, List.append_nil]
      exact h
  | cons e events ih =>
      rw [openings, ← List.append_assoc]
      exact ih (h.step e)

/-- Who is closed at an event says so at this event. -/
theorem announces_step (hfresh : s.host.hub.Fresh) (e : Event ι ρ) :
    Announces s.host (s.told e) (s.step e).host ∧ ∀ entry ∈ s.opens? e,
      (s.step e).host.hub.isClosed entry.2 = true → ∃ post ∈ s.told e, post.Closes entry.2 := by
  cases e with
  | message i clock tx =>
      have hpruned := (s.connections i).stirs_prune s.host
      obtain ⟨hothers, hnew⟩ := Announces.handled ((Sequel.stirs hpruned).fresh hfresh)
        ((s.connections i).handled_dispatch clock s.host tx)
      refine ⟨(Announces.stirs hpruned).trans hothers, fun entry hentry => ?_⟩
      obtain ⟨id, hid, rfl⟩ := Option.map_eq_some_iff.mp hentry
      exact hnew id hid
  | departure i => exact ⟨.stirs ((s.connections i).stirs_teardown s.host), nofun⟩
  | commit clock who tx => exact ⟨.stirs (s.host.stirs_commit clock who tx), nofun⟩
  | shutdown => exact ⟨.stirs s.host.stirs_shutdown, nofun⟩
  | carry box f => exact ⟨.of_pins rfl, nofun⟩
  | edit directory => exact ⟨.of_pins rfl, nofun⟩

/-- Of the sessions that were opened those that are over have said so. -/
theorem exists_closing_of_play (posts : List Post) (h : s.Sound opened)
    (hsaid : ∀ entry ∈ opened, s.host.hub.isClosed entry.2 = true →
      ∃ post ∈ posts, post.Closes entry.2) (events : List (Event ι ρ)) :
    ∀ entry ∈ opened ++ s.openings events, (s.play events).host.hub.isClosed entry.2 = true →
      ∃ post ∈ posts ++ s.transcript events, post.Closes entry.2 := by
  induction events generalizing s opened posts with
  | nil =>
      rw [openings, transcript, List.append_nil, List.append_nil]
      exact hsaid
  | cons e events ih =>
      rw [openings, transcript, ← List.append_assoc, ← List.append_assoc]
      refine ih _ (h.step e) fun entry hmem hclosed => ?_
      obtain ⟨hothers, hnew⟩ := announces_step h.fresh e
      rcases List.mem_append.mp hmem with hold | hgiven
      · cases hbefore : s.host.hub.isClosed entry.2 with
        | true =>
            obtain ⟨post, hpost, htold⟩ := hsaid entry hold hbefore
            exact ⟨post, List.mem_append_left _ hpost, htold⟩
        | false =>
            obtain ⟨post, hpost, htold⟩ := hothers entry.2 hbefore hclosed
            exact ⟨post, List.mem_append_right _ hpost, htold⟩
      · obtain ⟨post, hpost, htold⟩ := hnew entry (Option.mem_toList.mp hgiven) hclosed
        exact ⟨post, List.mem_append_right _ hpost, htold⟩

/-- A connection that is torn down leaves no session behind, and those of the other
connections as they are. -/
theorem Sound.departure (h : s.Sound opened) (i : ι) :
    (∀ id, (i, id) ∈ opened → (s.step (.departure i)).host.hub.isClosed id = true
        ∧ (s.step (.departure i)).host.hub.Unlisted id)
      ∧ ∀ j id, j ≠ i → (j, id) ∈ opened →
        (s.step (.departure i)).host.hub.pin? id = s.host.hub.pin? id
          ∧ (s.step (.departure i)).host.hub.index.filter (fun entry => entry.2 = id)
            = s.host.hub.index.filter fun entry => entry.2 = id := by
  have hafter := h.teardown i
  have hreleases := (s.connections i).releases_teardown s.host
  refine ⟨fun id hopened => ?_, fun j id hj hopened => ?_⟩
  · have hclosed : (s.step (.departure i)).host.hub.isClosed id = true := by
      refine Bool.eq_true_of_not_eq_false fun hopen => ?_
      obtain ⟨p, -, -, hheld⟩ := hafter.held_by hopened hopen
      rw [connections_put, if_pos rfl] at hheld
      cases hheld
    refine ⟨hclosed, fun entry hmem heq => ?_⟩
    have hopen := hafter.alive entry hmem
    rw [heq] at hopen
    cases hopen.symm.trans hclosed
  · have hother : id ∉ (s.connections i).pins.map (·.2) := by
      intro hmem
      obtain ⟨entry, hentry, rfl⟩ := List.mem_map.mp hmem
      exact hj (h.eq_of_mem (h.mine i entry hentry) hopened)
    exact ⟨(hreleases.pin?_eq id).trans (if_neg hother), hreleases.filter_eq hother⟩

/-- After any events the live registrations are the sessions that were opened and are
not closed. Each is registered once, under its own cell, and is in the table of the
connection that opened it under its own number; a session that is not there any more
has said that it is over. A connection that is torn down takes its sessions with it
and nothing else. -/
theorem registered_of_play (hquiet : s.Quiet) (events : List (Event ι ρ)) :
    ((s.openings events).map (·.2)).Nodup
      ∧ (∀ id, id ∈ (s.play events).host.hub.live.map (·.2)
        ↔ id ∈ (s.openings events).map (·.2) ∧ (s.play events).host.hub.isClosed id = false)
      ∧ (∀ i id, (i, id) ∈ s.openings events → (s.play events).host.hub.isClosed id = false →
        ∃ p, (s.play events).host.hub.pin? id = some p
          ∧ (s.play events).host.hub.Registered id p.session.cell
          ∧ (p.session.contextId, id) ∈ ((s.play events).connections i).pins)
      ∧ (∀ i id, (i, id) ∈ s.openings events → (s.play events).host.hub.isClosed id = true →
        ∃ post ∈ s.transcript events, post.Closes id)
      ∧ ∀ i,
        (∀ id, (i, id) ∈ s.openings events →
          ((s.play events).step (.departure i)).host.hub.isClosed id = true
            ∧ ((s.play events).step (.departure i)).host.hub.Unlisted id)
        ∧ ∀ j id, j ≠ i → (j, id) ∈ s.openings events →
          ((s.play events).step (.departure i)).host.hub.pin? id
              = (s.play events).host.hub.pin? id
            ∧ ((s.play events).step (.departure i)).host.hub.index.filter
                (fun entry => entry.2 = id)
              = (s.play events).host.hub.index.filter fun entry => entry.2 = id := by
  have hsound := hquiet.sound.play events
  rw [List.nil_append] at hsound
  refine ⟨hsound.once, hsound.mem_live_iff, fun i id => hsound.held_by, fun i id hmem hclosed => ?_,
    hsound.departure⟩
  have hsaid := exists_closing_of_play [] hquiet.sound nofun events
  rw [List.nil_append, List.nil_append] at hsaid
  exact hsaid (i, id) hmem hclosed

/-- A connection that has asked for a cell has its pin, until it is torn down. -/
theorem registered_of_play_asking : pair.Quiet
    ∧ (∃ p, (pair.play [.message true (.after 1 0) asking]).host.hub.pin? 2 = some p
      ∧ (pair.play [.message true (.after 1 0) asking]).host.hub.Registered 2 p.session.cell
      ∧ (p.session.contextId, 2) ∈
        ((pair.play [.message true (.after 1 0) asking]).connections true).pins)
    ∧ ((pair.play [.message true (.after 1 0) asking]).step
      (.departure true)).host.hub.isClosed 2 = true := by
  have hquiet : pair.Quiet := ⟨rfl, rfl, fun _ => rfl⟩
  have hgiven : pair.opens? (.message true (.after 1 0) asking) = some (true, 2) := by
    have hgranted : ((pair.connections true).prune pair.host).1.granted?
        ((pair.connections true).prune pair.host).2 asking = some 2 := by
      rw [Connection.prune_of_nil rfl, Connection.granted?]
      dsimp only
      rw [if_neg (by decide), read_asking]
      rfl
    unfold opens?
    dsimp only
    rw [hgranted]
    rfl
  have hopen : (pair.play [.message true (.after 1 0) asking]).host.hub.isClosed 2 = false := by
    have hstep : pair.step (.message true (.after 1 0) asking)
        = pair.put true (Connection.openPin ⟨World.someone, 1, []⟩ pair.host asking) := rfl
    rw [play_cons, hstep, play, List.foldl_nil, put, Connection.openPin]
    dsimp only
    rw [if_neg (by decide), read_asking]
    rfl
  have hmem : (true, 2) ∈ pair.openings [.message true (.after 1 0) asking] := by
    rw [openings, hgiven]
    exact List.mem_cons_self
  obtain ⟨-, -, hheld, -, hgone⟩ :=
    registered_of_play hquiet [.message true (.after 1 0) asking]
  exact ⟨hquiet, hheld true 2 hmem hopen, ((hgone true).1 2 hmem).1⟩

end Service

end CellSync
