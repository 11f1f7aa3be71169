/-
One pin being opened while the host is shut down: the steps of both, in any
order.

Opening a pin asks once, first of all, whether the host is shutting down.
Shutting down sets the flag, takes all registrations, and closes the
sessions that were registered, one by one. So what becomes of the pin
depends on whether its session was registered when the registrations were
taken. If it was, it is closed whatever comes in between, and is
registered no more. If it is registered later (`Race.late`), nothing ever
closes it, and a pin that stays open by its mode is open and registered
when both calls have returned (`exists_left_open`).

`Fate` has one case for each of the two, and every step keeps it.
-/
import Mathlib.Logic.Relation
import CellSync.Proofs.Host.Delivery
import CellSync.Proofs.Pin.Grammar

namespace CellSync

-- ======================================================== registrations

namespace Hub

variable {h : Hub} {id : PinId}

/-- A session is not registered. -/
def Unlisted (h : Hub) (id : PinId) : Prop := ∀ entry ∈ h.index, entry.2 ≠ id

/-- A session that is taken out of the index is not in it. -/
theorem unlisted_unregister (h : Hub) (id : PinId) : (h.unregister id).Unlisted id :=
  fun _ hmem => of_decide_eq_true (List.mem_filter.mp hmem).2

/-- It does not come back when others are taken out. -/
theorem Unlisted.unregister (hnot : h.Unlisted id) (k : PinId) : (h.unregister k).Unlisted id :=
  fun entry hmem => hnot entry (List.mem_filter.mp hmem).1

/-- Taking the registrations takes every session that is registered. -/
theorem mem_takeIndex {p : Pinned} {cell : TagId} (hpin : h.pin? id = some p)
    (hreg : h.Registered id cell) : id ∈ h.takeIndex.1 := by
  have hentry : (cell, id) ∈ h.index := by
    have hself : (cell, id) ∈ h.index.filter fun entry => entry.2 = id := by
      rw [hreg]
      exact List.mem_singleton_self _
    exact (List.mem_filter.mp hself).1
  refine List.mem_map.mpr ⟨(cell, id), List.mem_filter.mpr ⟨hentry, ?_⟩, rfl⟩
  dsimp only
  rw [hpin]
  rfl

/-- The sessions of the index have names that were given out. -/
theorem mem_takeIndex_lt (hfresh : Fresh h) (hmem : id ∈ h.takeIndex.1) : id < h.next := by
  obtain ⟨entry, hentry, rfl⟩ := List.mem_map.mp hmem
  exact hfresh.index_lt _ (List.mem_map_of_mem (List.mem_filter.mp hentry).1)

/-- The hubs that steps lead to give each name once. -/
theorem fresh_of_moves (hmoves : Relation.ReflTransGen Move {} h) : Fresh h := by
  induction hmoves with
  | refl => exact ⟨nofun, nofun⟩
  | tail _ hmove ih => exact ih.move hmove

end Hub

-- ================================================================ races

namespace Race

/-- How far the call that opens a pin has come. -/
inductive Entry where
  | asked
  /-- The call has returned without a session. -/
  | refused (error : SessionError)
  /-- The host was not shutting down and the request was accepted. -/
  | screened (session : PinSession)
  /-- The session is registered. -/
  | enrolled (id : PinId)
  /-- The recorded commits were loaded. -/
  | loaded (id : PinId) (backlog : List Tx)
  /-- The session has begun with them. -/
  | begun (id : PinId)
  /-- The session was found to be over. -/
  | leaving (id : PinId)
  /-- The call has returned with the session. -/
  | opened (id : PinId)

/-- How far the call that shuts the host down has come. -/
inductive Shutdown where
  | asked
  /-- New work is refused. -/
  | flagged
  /-- The registrations were taken, and some sessions are still to be closed. -/
  | closing (ids : List PinId)
  /-- The call has returned. -/
  | done

/-- The registered session of the call. -/
def Entry.id? : Entry → Option PinId
  | asked | refused _ | screened _ => none
  | enrolled id | loaded id _ | begun id | leaving id | opened id => some id

/-- Whether the call got past the question whether the host is shutting down. -/
def Entry.accepted : Entry → Bool
  | asked | refused _ => false
  | _ => true

/-- Whether the call has returned. -/
def Entry.returned : Entry → Bool
  | refused _ | opened _ => true
  | _ => false

/-- The sessions that are still to be closed. -/
def Shutdown.ids : Shutdown → List PinId
  | closing ids => ids
  | _ => []

/-- Whether the registrations were taken. -/
def Shutdown.drained : Shutdown → Bool
  | asked | flagged => false
  | closing _ | done => true

end Race

/-- A host on which a pin is opened while it is shut down. -/
structure Race (ρ σ : Type) where
  host : Host ρ σ
  entry : Race.Entry := .asked
  shutdown : Race.Shutdown := .asked
  /-- Whether the session was registered after the registrations were taken. -/
  late : Bool := false

namespace Race

variable {ρ σ : Type}

/-- One step of either call. -/
inductive Step (ask : Asking) : Race ρ σ → Race ρ σ → Prop where
  | screen {r : Race ρ σ} {session : PinSession} (hentry : r.entry = .asked)
      (hscreen : r.host.screen ask.who ask.contextId ask.request = .ok session) :
      Step ask r { r with entry := .screened session }
  | refuse {r : Race ρ σ} {error : SessionError} (hentry : r.entry = .asked)
      (hscreen : r.host.screen ask.who ask.contextId ask.request = .error error) :
      Step ask r { r with entry := .refused error }
  | enroll {r : Race ρ σ} {session : PinSession} (hentry : r.entry = .screened session) :
      Step ask r { r with
        host := (r.host.enroll session ask.box).2
        entry := .enrolled (r.host.enroll session ask.box).1
        late := r.shutdown.drained }
  | load {r : Race ρ σ} {id : PinId} (hentry : r.entry = .enrolled id) :
      Step ask r { r with entry := .loaded id (r.host.backlog id) }
  | begin {r : Race ρ σ} {id : PinId} {backlog : List Tx}
      (hentry : r.entry = .loaded id backlog) :
      Step ask r { r with host := r.host.begin id backlog, entry := .begun id }
  | find {r : Race ρ σ} {id : PinId} (hentry : r.entry = .begun id)
      (hclosed : r.host.hub.isClosed id = true) : Step ask r { r with entry := .leaving id }
  | keep {r : Race ρ σ} {id : PinId} (hentry : r.entry = .begun id)
      (hopen : r.host.hub.isClosed id = false) : Step ask r { r with entry := .opened id }
  | leave {r : Race ρ σ} {id : PinId} (hentry : r.entry = .leaving id) :
      Step ask r { r with host := r.host.mapHub (·.unregister id), entry := .opened id }
  | already {r : Race ρ σ} (hshutdown : r.shutdown = .asked)
      (hflag : r.host.shuttingDown = true) : Step ask r { r with shutdown := .done }
  | flag {r : Race ρ σ} (hshutdown : r.shutdown = .asked) (hflag : r.host.shuttingDown = false) :
      Step ask r { r with host := r.host.beginShutdown, shutdown := .flagged }
  | drain {r : Race ρ σ} (hshutdown : r.shutdown = .flagged) :
      Step ask r { r with
        host := r.host.mapHub fun hub => hub.takeIndex.2
        shutdown := .closing r.host.hub.takeIndex.1 }
  /-- The sessions are closed in any order. -/
  | close {r : Race ρ σ} (before after : List PinId) {k : PinId}
      (hshutdown : r.shutdown = .closing (before ++ k :: after)) :
      Step ask r { r with
        host := r.host.mapHub fun hub => (hub.close k .shuttingDown).2
        shutdown := .closing (before ++ after) }
  | finish {r : Race ρ σ} (hshutdown : r.shutdown = .closing []) :
      Step ask r { r with shutdown := .done }

/-- A run of steps. -/
abbrev Run (ask : Asking) : Race ρ σ → Race ρ σ → Prop := Relation.ReflTransGen (Step ask)

-- ============================================================ invariant

/-- What the session is like as long as only its own call has touched it. -/
def Untouched (hub : Hub) (id : PinId) (s : PinSession) : Entry → Prop
  | .asked | .refused _ | .screened _ => True
  | .enrolled _ | .loaded _ _ => s.status = .notStarted ∧ hub.Registered id s.cell
  | .begun _ => (s.mode = .maintain → s.status = .synced)
      ∧ (s.mode ≠ .maintain → s.status = .closed) ∧ hub.Registered id s.cell
  | .leaving _ => s.mode ≠ .maintain ∧ s.status = .closed
  | .opened _ => (s.mode = .maintain → s.status = .synced ∧ hub.Registered id s.cell)
      ∧ (s.mode ≠ .maintain → s.status = .closed ∧ hub.Unlisted id)

/-- A session is over; one that stays open by its mode, because the host shuts down. -/
structure Shut (s : PinSession) : Prop where
  closed : s.status = .closed
  code_eq : s.mode = .maintain → s.code = .shuttingDown

/-- What becomes of the session: nobody else touches it, or its registration was
taken, and it is closed or still to be closed. -/
inductive Fate (r : Race ρ σ) (id : PinId) (s : PinSession) : Prop where
  | own (hlate : r.late = r.shutdown.drained) (hnot : id ∉ r.shutdown.ids)
      (huntouched : Untouched r.host.hub id s r.entry)
  | taken (hlate : r.late = false) (hdrained : r.shutdown.drained = true)
      (hunlisted : r.host.hub.Unlisted id)
      (hshut : Shut s ∨ id ∈ r.shutdown.ids ∧ (s.mode = .maintain → s.status ≠ .closed))

/-- What every order of steps keeps. -/
structure Inv (ask : Asking) (r : Race ρ σ) : Prop where
  fresh : r.host.hub.Fresh
  known : ∀ k ∈ r.shutdown.ids, k < r.host.hub.next
  screened : ∀ session, r.entry = .screened session →
    session.mode = ask.request.mode ∧ session.status = .notStarted
  /-- An accepted call has seen the flag clear, so the shutdown cannot have ended early. -/
  clear : r.entry.accepted = true → r.shutdown = .asked → r.host.shuttingDown = false
  fate : ∀ id, r.entry.id? = some id → ∃ p, r.host.hub.pin? id = some p
    ∧ p.session.mode = ask.request.mode ∧ Fate r id p.session

-- ============================================================= sessions

/-- A session that begins stays open just if its mode says so. -/
theorem status_begin {s : PinSession} (h : s.status = .notStarted) (backlog : List Tx) :
    (s.mode = .maintain → (s.begin backlog).1.status = .synced)
      ∧ (s.mode ≠ .maintain → (s.begin backlog).1.status = .closed) := by
  unfold PinSession.begin
  rw [if_neg (not_not.mpr h)]
  split
  next hnone => exact ⟨fun hmode => absurd (hmode.symm.trans hnone) (by decide), fun _ => rfl⟩
  next hstart =>
    have hmode := (PinSession.alike_emitAll { s with status := .syncing, early := [] }
      (backlog ++ s.early)).mode_eq
    dsimp only at hmode ⊢
    by_cases hclose : s.mode = .closeOnSync
    · rw [PinSession.settle_of_eq (hmode.trans hclose)]
      exact ⟨fun hmaintain => absurd (hmaintain.symm.trans hclose) (by decide), fun _ => rfl⟩
    · rw [PinSession.settle_of_ne (by rw [hmode]; exact hclose)]
      refine ⟨fun _ => rfl, fun hother => ?_⟩
      cases hcases : s.mode with
      | none => exact absurd hcases hstart
      | closeOnSync => exact absurd hcases hclose
      | maintain => exact absurd hcases hother

/-- A session begins once. -/
theorem begin_of_ne {s : PinSession} (h : s.status ≠ .notStarted) (backlog : List Tx) :
    s.begin backlog = (s, []) := by
  unfold PinSession.begin
  exact if_pos h

/-- Beginning does not close a session that stays open by its mode. -/
theorem begin_not_closed {s : PinSession} (hmode : s.mode = .maintain) (h : s.status ≠ .closed)
    (backlog : List Tx) : (s.begin backlog).1.status ≠ .closed := by
  by_cases hstart : s.status = .notStarted
  · rw [(status_begin hstart backlog).1 hmode]
    decide
  · rw [begin_of_ne hstart]
    exact h

/-- Closing ends whatever is still open. -/
theorem shut_close {s : PinSession} (h : s.mode = .maintain → s.status ≠ .closed) :
    Shut (s.close .shuttingDown).1 := by
  unfold PinSession.close PinSession.isClosed
  split
  next hclosed =>
    have hstatus : s.status = .closed := of_decide_eq_true hclosed
    exact ⟨hstatus, fun hmode => absurd hstatus (h hmode)⟩
  · exact ⟨rfl, fun _ => rfl⟩

/-- A session that was shut down stays as it is when it is closed again. -/
theorem Shut.close {s : PinSession} (h : Shut s) (code : ErrorCode) : (s.close code).1 = s := by
  unfold PinSession.close PinSession.isClosed
  rw [if_pos (decide_eq_true h.closed)]

-- ======================================================== one step each

variable {ask : Asking} {r : Race ρ σ} {id k : PinId} {p : Pinned}

/-- Whether anybody else has touched a session is a matter of the index. -/
theorem Untouched.congr {hub hub' : Hub} {s : PinSession} {entry : Entry}
    (h : Untouched hub id s entry) (hindex : hub'.index = hub.index) :
    Untouched hub' id s entry := by
  unfold Untouched Hub.Registered Hub.Unlisted at h ⊢
  rw [hindex]
  exact h

/-- A step that leaves the hub and the shutdown leaves what becomes of the session,
if it is untouched at the new place of its call too. -/
theorem Fate.advance {s : PinSession} {entry : Entry} (h : Fate r id s)
    (huntouched : Untouched r.host.hub id s r.entry → Untouched r.host.hub id s entry) :
    Fate { r with entry := entry } id s := by
  cases h with
  | own hlate hnot hown => exact .own hlate hnot (huntouched hown)
  | taken hlate hdrained hunlisted hshut => exact .taken hlate hdrained hunlisted hshut

/-- The accepted call is at a later place, and its session has a fate there. -/
theorem Inv.of_fate {host : Host ρ σ} {entry : Entry} (h : Inv ask r)
    (hfresh : host.hub.Fresh) (hnext : host.hub.next = r.host.hub.next)
    (hflag : host.shuttingDown = r.host.shuttingDown) (haccepted : r.entry.accepted = true)
    (hid : entry.id? = some id) (hfound : host.hub.pin? id = some p)
    (hmode : p.session.mode = ask.request.mode)
    (hfate : Fate { r with host := host, entry := entry } id p.session) :
    Inv ask { r with host := host, entry := entry } := by
  refine ⟨hfresh, fun k hk => ?_, fun session hscreened => ?_, fun _ hasked => ?_,
    fun k hk => ?_⟩
  · show k < host.hub.next
    rw [hnext]
    exact h.known k hk
  · rw [show entry = .screened session from hscreened] at hid
    cases hid
  · exact hflag.trans (h.clear haccepted hasked)
  · have hk : k = id := Option.some.inj (hk.symm.trans hid)
    subst hk
    exact ⟨p, hfound, hmode, hfate⟩

/-- The request is accepted, and the session is not registered yet. -/
theorem Inv.screen (h : Inv ask r) {session : PinSession}
    (hscreen : r.host.screen ask.who ask.contextId ask.request = .ok session) :
    Inv ask { r with entry := .screened session } := by
  obtain ⟨cell, hclear, rfl⟩ := Host.screen_eq_ok hscreen
  refine ⟨h.fresh, h.known, fun other hother => ?_, fun _ _ => hclear, fun _ hid => nomatch hid⟩
  injection hother with hother
  rw [← hother]
  exact ⟨rfl, rfl⟩

/-- The request is refused, and there is no session. -/
theorem Inv.refuse (h : Inv ask r) (error : SessionError) :
    Inv ask { r with entry := .refused error } := by
  refine ⟨h.fresh, h.known, fun session hscreened => ?_, fun haccepted => ?_, fun id hid => ?_⟩
  · cases hscreened
  · cases haccepted
  · cases hid

/-- The session is registered, before the registrations are taken or after. -/
theorem Inv.enroll (h : Inv ask r) {session : PinSession} (hentry : r.entry = .screened session) :
    Inv ask { r with
      host := (r.host.enroll session ask.box).2
      entry := .enrolled (r.host.enroll session ask.box).1
      late := r.shutdown.drained } := by
  obtain ⟨hmode, hstatus⟩ := h.screened session hentry
  obtain ⟨hfound, hregistered⟩ := Hub.add_register h.fresh session ask.box
  refine ⟨(h.fresh.move (.add _ session ask.box)).move (.register _ r.host.hub.next),
    fun k hk => ?_, fun _ hscreened => ?_, fun _ hasked => ?_, fun k hk => ?_⟩
  · show k < ((r.host.hub.add session ask.box).2.register r.host.hub.next).next
    rw [Hub.next_register]
    exact Nat.lt_succ_of_lt (h.known k hk)
  · cases hscreened
  · exact h.clear (by rw [hentry]; rfl) hasked
  · injection hk with hk
    subst hk
    -- The name is new, so it is not among those that are to be closed.
    exact ⟨_, hfound, hmode, .own rfl (fun hmem => Nat.lt_irrefl _ (h.known _ hmem))
      ⟨hstatus, hregistered⟩⟩

/-- Loading a backlog touches no session. -/
theorem Inv.load (h : Inv ask r) (hentry : r.entry = .enrolled id) (backlog : List Tx) :
    Inv ask { r with entry := .loaded id backlog } := by
  obtain ⟨p, hfound, hmode, hfate⟩ := h.fate id (by rw [hentry]; rfl)
  refine h.of_fate h.fresh rfl rfl (by rw [hentry]; rfl) rfl hfound hmode (hfate.advance ?_)
  rw [hentry]
  exact fun hown => hown

/-- The session begins, unless it was closed meanwhile. -/
theorem Inv.begin (h : Inv ask r) {backlog : List Tx} (hentry : r.entry = .loaded id backlog) :
    Inv ask { r with host := r.host.begin id backlog, entry := .begun id } := by
  obtain ⟨p, hfound, hmode, hfate⟩ := h.fate id (by rw [hentry]; rfl)
  have halike := PinSession.alike_begin p.session backlog
  have hindex : (r.host.begin id backlog).hub.index = r.host.hub.index :=
    Hub.index_advance _ _ _
  refine h.of_fate (p := { p with session := (p.session.begin backlog).1 })
    (h.fresh.move (.advance r.host.hub id (·.begin backlog))) (Hub.next_advance _ _ _) rfl
    (by rw [hentry]; rfl) rfl (Hub.pin?_advance_self hfound) (halike.mode_eq.trans hmode) ?_
  cases hfate with
  | own hlate hnot hown =>
      rw [hentry] at hown
      obtain ⟨hstatus, hregistered⟩ := hown
      obtain ⟨hmaintain, hother⟩ := status_begin hstatus backlog
      refine .own hlate hnot ⟨fun hm => hmaintain (halike.mode_eq.symm.trans hm),
        fun hm => hother fun heq => hm (halike.mode_eq.trans heq), ?_⟩
      rw [Hub.Registered, hindex, halike.cell_eq]
      exact hregistered
  | taken hlate hdrained hunlisted hshut =>
      refine .taken hlate hdrained (fun entry hmem => hunlisted entry (hindex ▸ hmem)) ?_
      rcases hshut with hshut | ⟨hmem, hopen⟩
      · have hsame : (p.session.begin backlog).1 = p.session := by
          rw [begin_of_ne (by rw [hshut.closed]; decide)]
        exact .inl (hsame.symm ▸ hshut)
      · refine .inr ⟨hmem, fun hm => ?_⟩
        have hm := halike.mode_eq.symm.trans hm
        exact begin_not_closed hm (hopen hm) backlog

/-- The session of a hub is over as its status says. -/
theorem isClosed_eq (hfound : r.host.hub.pin? id = some p) :
    r.host.hub.isClosed id = decide (p.session.status = .closed) := by
  rw [Hub.isClosed, hfound]
  rfl

/-- The session was found to be over, by its mode or by the shutdown. -/
theorem Inv.find (h : Inv ask r) (hentry : r.entry = .begun id)
    (hclosed : r.host.hub.isClosed id = true) : Inv ask { r with entry := .leaving id } := by
  obtain ⟨p, hfound, hmode, hfate⟩ := h.fate id (by rw [hentry]; rfl)
  refine h.of_fate h.fresh rfl rfl (by rw [hentry]; rfl) rfl hfound hmode (hfate.advance ?_)
  rw [hentry]
  rintro ⟨hmaintain, -, -⟩
  rw [isClosed_eq hfound] at hclosed
  have hstatus : p.session.status = .closed := of_decide_eq_true hclosed
  exact ⟨fun hm => absurd ((hmaintain hm).symm.trans hstatus) (by decide), hstatus⟩

/-- The session is open, so nobody has closed it. -/
theorem Inv.keep (h : Inv ask r) (hentry : r.entry = .begun id)
    (hopen : r.host.hub.isClosed id = false) : Inv ask { r with entry := .opened id } := by
  obtain ⟨p, hfound, hmode, hfate⟩ := h.fate id (by rw [hentry]; rfl)
  refine h.of_fate h.fresh rfl rfl (by rw [hentry]; rfl) rfl hfound hmode (hfate.advance ?_)
  rw [hentry]
  rintro ⟨hmaintain, hother, hregistered⟩
  rw [isClosed_eq hfound] at hopen
  have hstatus : p.session.status ≠ .closed := of_decide_eq_false hopen
  exact ⟨fun hm => ⟨hmaintain hm, hregistered⟩, fun hm => absurd (hother hm) hstatus⟩

/-- A session that is over leaves the index, and its call returns. -/
theorem Inv.leave (h : Inv ask r) (hentry : r.entry = .leaving id) :
    Inv ask { r with host := r.host.mapHub (·.unregister id), entry := .opened id } := by
  obtain ⟨p, hfound, hmode, hfate⟩ := h.fate id (by rw [hentry]; rfl)
  refine h.of_fate (h.fresh.move (.unregister _ id)) rfl rfl (by rw [hentry]; rfl) rfl hfound
    hmode ?_
  cases hfate with
  | own hlate hnot hown =>
      rw [hentry] at hown
      obtain ⟨hother, hstatus⟩ := hown
      exact .own hlate hnot ⟨fun hm => absurd hm hother,
        fun _ => ⟨hstatus, Hub.unlisted_unregister _ id⟩⟩
  | taken hlate hdrained hunlisted hshut =>
      exact .taken hlate hdrained (hunlisted.unregister id) hshut

/-- Who has a session got past the question whether the host is shutting down. -/
theorem Entry.accepted_of_id? {entry : Entry} (h : entry.id? = some id) :
    entry.accepted = true := by
  cases entry with
  | asked | refused error => cases h
  | _ => rfl

/-- The shutdown is at a later place, and the session has a fate there. -/
theorem Inv.of_shutdown {host : Host ρ σ} {shutdown : Shutdown} (h : Inv ask r)
    (hfresh : host.hub.Fresh) (hnext : host.hub.next = r.host.hub.next)
    (hids : ∀ k ∈ shutdown.ids, k < r.host.hub.next) (hasked : shutdown ≠ .asked)
    (hfate : ∀ id p, r.entry.id? = some id → r.host.hub.pin? id = some p →
      p.session.mode = ask.request.mode → Fate r id p.session →
      ∃ q, host.hub.pin? id = some q ∧ q.session.mode = ask.request.mode
        ∧ Fate { r with host := host, shutdown := shutdown } id q.session) :
    Inv ask { r with host := host, shutdown := shutdown } := by
  refine ⟨hfresh, fun k hk => ?_, h.screened, fun _ heq => absurd heq hasked, fun id hid => ?_⟩
  · show k < host.hub.next
    rw [hnext]
    exact hids k hk
  · obtain ⟨p, hfound, hmode, hold⟩ := h.fate id hid
    exact hfate id p hid hfound hmode hold

/-- A second shutdown returns at once. -/
theorem Inv.already (h : Inv ask r) (hshutdown : r.shutdown = .asked)
    (hflag : r.host.shuttingDown = true) : Inv ask { r with shutdown := .done } := by
  refine h.of_shutdown h.fresh rfl (fun k hk => absurd hk List.not_mem_nil) nofun
    fun id p hid _ _ _ => ?_
  rw [h.clear (Entry.accepted_of_id? hid) hshutdown] at hflag
  cases hflag

/-- New work is refused from here on, and not the call that has asked already. -/
theorem Inv.flag (h : Inv ask r) (hshutdown : r.shutdown = .asked) :
    Inv ask { r with host := r.host.beginShutdown, shutdown := .flagged } := by
  refine h.of_shutdown h.fresh rfl (fun k hk => absurd hk List.not_mem_nil) nofun
    fun id p _ hfound hmode hfate => ⟨p, hfound, hmode, ?_⟩
  cases hfate with
  | own hlate hnot hown =>
      rw [hshutdown] at hlate
      exact .own hlate List.not_mem_nil hown
  | taken _ hdrained =>
      rw [hshutdown] at hdrained
      cases hdrained

/-- An untouched session is registered, unless it is over by itself. -/
theorem Untouched.shut_or_mem {entry : Entry} {hub : Hub} (h : Untouched hub id p.session entry)
    (hid : entry.id? = some id) (hfound : hub.pin? id = some p) :
    Shut p.session
      ∨ id ∈ hub.takeIndex.1 ∧ (p.session.mode = .maintain → p.session.status ≠ .closed) := by
  cases entry with
  | asked | refused error | screened session => cases hid
  | enrolled k | loaded k backlog =>
      refine .inr ⟨Hub.mem_takeIndex hfound h.2, fun _ => ?_⟩
      rw [h.1]
      decide
  | begun k =>
      refine .inr ⟨Hub.mem_takeIndex hfound h.2.2, fun hm => ?_⟩
      rw [h.1 hm]
      decide
  | leaving k => exact .inl ⟨h.2, fun hm => absurd hm h.1⟩
  | opened k =>
      by_cases hm : p.session.mode = .maintain
      · obtain ⟨hstatus, hregistered⟩ := h.1 hm
        refine .inr ⟨Hub.mem_takeIndex hfound hregistered, fun _ => ?_⟩
        rw [hstatus]
        decide
      · exact .inl ⟨(h.2 hm).1, fun heq => absurd heq hm⟩

/-- The registrations are taken: the session is among them, was not there yet, or is over. -/
theorem Inv.drain (h : Inv ask r) (hshutdown : r.shutdown = .flagged) :
    Inv ask { r with
      host := r.host.mapHub fun hub => hub.takeIndex.2
      shutdown := .closing r.host.hub.takeIndex.1 } := by
  refine h.of_shutdown (h.fresh.move (.takeIndex r.host.hub)) rfl
    (fun k hk => Hub.mem_takeIndex_lt h.fresh hk) nofun
    fun id p hid hfound hmode hfate => ⟨p, hfound, hmode, ?_⟩
  cases hfate with
  | own hlate _ hown =>
      rw [hshutdown] at hlate
      exact .taken hlate rfl (fun _ hmem => absurd hmem List.not_mem_nil)
        (hown.shut_or_mem hid hfound)
  | taken _ hdrained =>
      rw [hshutdown] at hdrained
      cases hdrained

/-- One of the sessions that were taken is closed. -/
theorem Inv.close (h : Inv ask r) {before after : List PinId}
    (hshutdown : r.shutdown = .closing (before ++ k :: after)) :
    Inv ask { r with
      host := r.host.mapHub fun hub => (hub.close k .shuttingDown).2
      shutdown := .closing (before ++ after) } := by
  have hids : r.shutdown.ids = before ++ k :: after := by
    rw [hshutdown]
    rfl
  have hsub : ∀ i ∈ before ++ after, i ∈ r.shutdown.ids := by
    intro i hi
    rw [hids]
    simp only [List.mem_append, List.mem_cons] at hi ⊢
    exact hi.imp_right .inr
  have hindex : (r.host.hub.close k .shuttingDown).2.index = r.host.hub.index :=
    Hub.index_advance _ _ _
  refine h.of_shutdown (h.fresh.move (.advance r.host.hub k (·.close .shuttingDown)))
    (Hub.next_advance _ _ _) (fun i hi => h.known i (hsub i hi)) nofun
    fun id p hid hfound hmode hfate => ?_
  by_cases hk : k = id
  · subst hk
    refine ⟨_, Hub.pin?_advance_self hfound, ?_, ?_⟩
    · exact (PinSession.adds_take p.session (.close .shuttingDown)).alike.mode_eq.trans hmode
    · cases hfate with
      | own _ hnot => exact absurd (by rw [hids]; simp) hnot
      | taken hlate hdrained hunlisted hshut =>
          refine .taken hlate rfl (fun entry hmem => hunlisted entry (hindex ▸ hmem)) (.inl ?_)
          rcases hshut with hshut | ⟨-, hopen⟩
          · exact (hshut.close .shuttingDown).symm ▸ hshut
          · exact shut_close hopen
  · refine ⟨p, (Hub.pin?_advance_of_ne fun heq => hk heq.symm).trans hfound, hmode, ?_⟩
    cases hfate with
    | own hlate hnot hown =>
        rw [hshutdown] at hlate
        exact .own hlate (fun hmem => hnot (hsub id hmem)) (hown.congr hindex)
    | taken hlate hdrained hunlisted hshut =>
        refine .taken hlate rfl (fun entry hmem => hunlisted entry (hindex ▸ hmem)) ?_
        refine hshut.imp_right fun hpending => ⟨?_, hpending.2⟩
        have hmem := hpending.1
        rw [hids] at hmem
        show id ∈ before ++ after
        simp only [List.mem_append, List.mem_cons] at hmem ⊢
        exact hmem.imp_right fun hor => hor.resolve_left fun heq => hk heq.symm

/-- The shutdown returns when nobody is left to be closed. -/
theorem Inv.finish (h : Inv ask r) (hshutdown : r.shutdown = .closing []) :
    Inv ask { r with shutdown := .done } := by
  refine h.of_shutdown h.fresh rfl (fun k hk => absurd hk List.not_mem_nil) nofun
    fun id p _ hfound hmode hfate => ⟨p, hfound, hmode, ?_⟩
  cases hfate with
  | own hlate hnot hown =>
      rw [hshutdown] at hlate
      exact .own hlate List.not_mem_nil hown
  | taken hlate hdrained hunlisted hshut =>
      rw [hshutdown] at hshut
      exact .taken hlate rfl hunlisted hshut

-- ============================================================ every step

/-- Every step of either call keeps it. -/
theorem Inv.step {r' : Race ρ σ} (h : Inv ask r) (hstep : Step ask r r') : Inv ask r' := by
  cases hstep with
  | screen _ hscreen => exact h.screen hscreen
  | refuse _ _ => exact h.refuse _
  | enroll hentry => exact h.enroll hentry
  | load hentry => exact h.load hentry _
  | begin hentry => exact h.begin hentry
  | find hentry hclosed => exact h.find hentry hclosed
  | keep hentry hopen => exact h.keep hentry hopen
  | leave hentry => exact h.leave hentry
  | already hshutdown hflag => exact h.already hshutdown hflag
  | flag hshutdown _ => exact h.flag hshutdown
  | drain hshutdown => exact h.drain hshutdown
  | close _ _ hshutdown => exact h.close hshutdown
  | finish hshutdown => exact h.finish hshutdown

/-- It holds before the calls have begun. -/
theorem Inv.start (ask : Asking) {h : Host ρ σ} (hfresh : h.hub.Fresh) :
    Inv ask { host := h } := by
  refine ⟨hfresh, fun k hk => absurd hk List.not_mem_nil, fun session hscreened => ?_,
    fun haccepted => ?_, fun id hid => ?_⟩
  · cases hscreened
  · cases haccepted
  · cases hid

/-- So it holds after every run. -/
theorem Inv.run {r' : Race ρ σ} (h : Inv ask r) (hrun : Run ask r r') : Inv ask r' := by
  induction hrun with
  | refl => exact h
  | tail _ hstep ih => exact ih.step hstep

/-- What has become of the session when both calls have returned. -/
theorem Inv.returned (h : Inv ask r) (hreturned : r.entry.returned = true)
    (hdone : r.shutdown = .done) :
    (∃ error, r.entry = .refused error)
      ∨ ∃ id p, r.entry = .opened id ∧ r.host.hub.pin? id = some p
        ∧ p.session.mode = ask.request.mode
        ∧ if r.late = true ∧ p.session.mode = .maintain then
            p.session.status = .synced ∧ r.host.hub.Registered id p.session.cell
          else Shut p.session ∧ r.host.hub.Unlisted id := by
  cases hentry : r.entry with
  | asked | screened session | enrolled id | loaded id backlog | begun id | leaving id =>
      rw [hentry] at hreturned
      cases hreturned
  | refused error => exact .inl ⟨error, rfl⟩
  | opened id =>
    obtain ⟨p, hfound, hmode, hfate⟩ := h.fate id (by rw [hentry]; rfl)
    refine .inr ⟨id, p, rfl, hfound, hmode, ?_⟩
    cases hfate with
    | own hlate _ hown =>
        rw [hentry] at hown
        rw [hdone] at hlate
        by_cases hm : p.session.mode = .maintain
        · rw [if_pos ⟨hlate, hm⟩]
          exact hown.1 hm
        · rw [if_neg fun hboth => hm hboth.2]
          obtain ⟨hstatus, hunlisted⟩ := hown.2 hm
          exact ⟨⟨hstatus, fun heq => absurd heq hm⟩, hunlisted⟩
    | taken hlate _ hunlisted hshut =>
        rw [hdone] at hshut
        rw [if_neg fun hboth => Bool.noConfusion (hlate.symm.trans hboth.1)]
        exact ⟨hshut.resolve_right fun hpending => List.not_mem_nil hpending.1, hunlisted⟩

-- ================================================= the operations themselves

/-- Opening a pin is a run of its steps with nothing between them. -/
theorem run_openPin {id : PinId} {h' : Host ρ σ} (hentry : r.entry = .asked)
    (hopen : r.host.openPin ask.box ask.who ask.contextId ask.request = (.ok id, h')) :
    ∃ r', Run ask r r' ∧ r'.host = h' ∧ r'.entry = .opened id ∧ r'.shutdown = r.shutdown
      ∧ r'.late = r.shutdown.drained := by
  unfold Host.openPin at hopen
  split at hopen
  · injection hopen with hopen
    cases hopen
  next session hscreen =>
    dsimp only at hopen
    injection hopen with hid hhost
    injection hid with hid
    subst hid hhost
    have hscreened : Run ask r _ := .single (.screen hentry hscreen)
    have hbegun := ((hscreened.tail (.enroll rfl)).tail (.load rfl)).tail (.begin rfl)
    unfold Host.tidy
    split
    next hclosed =>
      exact ⟨_, (hbegun.tail (.find rfl hclosed)).tail (.leave rfl), rfl, rfl, rfl, rfl⟩
    next hopen =>
      exact ⟨_, hbegun.tail (.keep rfl (Bool.eq_false_iff.mpr hopen)), rfl, rfl, rfl, rfl⟩

/-- The sessions of a list are closed one by one. -/
theorem run_closeEach (ask : Asking) {ids : List PinId} (hshutdown : r.shutdown = .closing ids) :
    ∃ r', Run ask r r'
      ∧ r'.host = r.host.mapHub (fun hub => (Hub.closeEach .shuttingDown ids hub).2)
      ∧ r'.entry = r.entry ∧ r'.shutdown = .done ∧ r'.late = r.late := by
  induction ids generalizing r with
  | nil => exact ⟨_, .single (.finish hshutdown), rfl, rfl, rfl, rfl⟩
  | cons id ids ih =>
      have hclose : Step ask r _ := .close [] ids hshutdown
      obtain ⟨r', hrun, hhost, hentry, hdone, hlate⟩ := ih (r := { r with
        host := r.host.mapHub fun hub => (hub.close id .shuttingDown).2
        shutdown := .closing ids }) rfl
      exact ⟨r', (Relation.ReflTransGen.single hclose).trans hrun, hhost, hentry, hdone, hlate⟩

/-- Shutting down is a run of its steps with nothing between them. -/
theorem run_shutdown (ask : Asking) (hshutdown : r.shutdown = .asked) :
    ∃ r', Run ask r r' ∧ r'.host = r.host.shutdown ∧ r'.entry = r.entry ∧ r'.shutdown = .done
      ∧ r'.late = r.late := by
  unfold Host.shutdown
  split
  next hflag => exact ⟨_, .single (.already hshutdown hflag), rfl, rfl, rfl, rfl⟩
  next hflag =>
    have hflagged : Run ask r _ := .single (.flag hshutdown (Bool.eq_false_iff.mpr hflag))
    have hdrained := hflagged.tail (.drain rfl)
    obtain ⟨r', hrun, hhost, hentry, hdone, hlate⟩ := run_closeEach ask (r := { r with
      host := r.host.beginShutdown.mapHub fun hub => hub.takeIndex.2
      shutdown := .closing r.host.hub.takeIndex.1 }) rfl
    exact ⟨r', hdrained.trans hrun, hhost, hentry, hdone, hlate⟩

/-- A pin that is open before the host is shut down is closed after. -/
theorem shut_of_openPin_shutdown {h h' : Host ρ σ} (hfresh : h.hub.Fresh)
    (hopen : h.openPin ask.box ask.who ask.contextId ask.request = (.ok id, h')) :
    ∃ p, h'.shutdown.hub.pin? id = some p ∧ Shut p.session ∧ h'.shutdown.hub.Unlisted id := by
  obtain ⟨r, hrun, rfl, hentry, hasked, hlate⟩ := run_openPin (r := { host := h }) rfl hopen
  obtain ⟨r', hrun', hhost, hentry', hdone, hlate'⟩ := run_shutdown ask hasked
  have hopened : r'.entry = .opened id := hentry'.trans hentry
  have hinv := ((Inv.start ask hfresh).run hrun).run hrun'
  rcases hinv.returned (by rw [hopened]; rfl) hdone with ⟨error, hrefused⟩ | hreturned
  · cases hopened.symm.trans hrefused
  · obtain ⟨k, p, hk, hfound, -, hleft⟩ := hreturned
    injection hopened.symm.trans hk with hk
    subst hk
    rw [if_neg fun hboth => Bool.noConfusion ((hlate'.trans hlate).symm.trans hboth.1)] at hleft
    rw [← hhost]
    exact ⟨p, hfound, hleft⟩

-- ============================================================== shutdown

/-- A pin is opened while the host is shut down, in any order of the steps. When
both calls have returned, the call has failed, or its session is closed and
not registered; but if the session stays open by its mode, and was registered
when the registrations had been taken already, it is still open and
registered. -/
theorem shut_of_run {h : Host ρ σ} (hmoves : Relation.ReflTransGen Hub.Move {} h.hub)
    (hrun : Run ask { host := h } r) (hreturned : r.entry.returned = true)
    (hdone : r.shutdown = .done) :
    (∃ error, r.entry = .refused error)
      ∨ ∃ id p, r.entry = .opened id ∧ r.host.hub.pin? id = some p
        ∧ p.session.mode = ask.request.mode
        ∧ if r.late = true ∧ p.session.mode = .maintain then
            p.session.status = .synced ∧ r.host.hub.Registered id p.session.cell
          else Shut p.session ∧ r.host.hub.Unlisted id :=
  ((Inv.start ask (Hub.fresh_of_moves hmoves)).run hrun).returned hreturned hdone

/-- The registrations are taken before the session has begun. -/
theorem shut_of_run_begin : ∃ r : Race Directory Login.CheckpointTable,
    Run World.asking { host := World.small } r ∧ r.entry = .opened 0 ∧ r.shutdown = .done
      ∧ ∃ p, r.host.hub.pin? 0 = some p ∧ Shut p.session ∧ p.session.code = .shuttingDown
        ∧ r.host.hub.Unlisted 0 := by
  have hscreen : World.small.screen World.someone 7 World.asking.request
      = .ok ⟨7, .ofWord 1, [], .maintain, .notStarted, .nil, none, []⟩ := rfl
  have henrolled : Run World.asking { host := World.small } _ :=
    (Relation.ReflTransGen.single (.screen rfl hscreen)).tail (.enroll rfl)
  have hdrained := (henrolled.tail (.flag rfl rfl)).tail (.drain rfl)
  have hopened := ((hdrained.tail (.load rfl)).tail (.begin rfl)).tail (.keep rfl rfl)
  have hrun := (hopened.tail (.close [] [] rfl)).tail (.finish rfl)
  refine ⟨_, hrun, rfl, rfl, ?_⟩
  rcases shut_of_run .refl hrun rfl rfl with ⟨error, hrefused⟩ | ⟨k, p, hk, hfound, hmode, hleft⟩
  · cases hrefused
  · injection hk with hk
    subst hk
    rw [if_neg fun hboth => Bool.noConfusion hboth.1] at hleft
    exact ⟨p, hfound, hleft.1, hleft.1.code_eq hmode, hleft.2⟩

/-- The registrations are taken after the call has found the host open, and before
it registers its session. -/
theorem exists_left_open : ∃ r : Race Directory Login.CheckpointTable,
    Relation.ReflTransGen Hub.Move {} World.small.hub
      ∧ Run World.asking { host := World.small } r ∧ r.entry = .opened 0 ∧ r.shutdown = .done
      ∧ ∃ p, r.host.hub.pin? 0 = some p ∧ p.session.status ≠ .closed
        ∧ ¬r.host.hub.Unlisted 0 := by
  have hscreen : World.small.screen World.someone 7 World.asking.request
      = .ok ⟨7, .ofWord 1, [], .maintain, .notStarted, .nil, none, []⟩ := rfl
  have hscreened : Run World.asking { host := World.small } _ := .single (.screen rfl hscreen)
  have hdown := ((hscreened.tail (.flag rfl rfl)).tail (.drain rfl)).tail (.finish rfl)
  have hbegun := ((hdown.tail (.enroll rfl)).tail (.load rfl)).tail (.begin rfl)
  have hopened := hbegun.tail (.keep rfl rfl)
  exact ⟨_, .refl, hopened, rfl, rfl, _, rfl, by decide,
    fun hunlisted => hunlisted _ (List.mem_singleton_self _) rfl⟩

end Race

end CellSync
