/-
The delivery loop strands nothing and repeats nothing.

The loop looks at the mailbox four times before it goes round again, and
each look is a step of its own. Producers deliver and somebody closes
between any two of them, as they like: a run is any list of events.

A wait that finds neither a notification nor a closed mailbox goes to
sleep until somebody rings. Who delivers rings only if the queue was
empty, and the notification that stays behind is taken by the next wait.
That nothing is missed hangs on one fact: once the loop has found the
queue empty, what is queued has left a notification, and only the wait
that sends the loop back to the queue takes it (`Inv.noticed`).
-/
import CellSync.Peer.Delivery
import CellSync.Proofs.Mailbox

namespace CellSync

open Mailbox (Accounts Tally)

variable {α : Type}

/-- Whether a delivery wakes who sleeps in a wait. -/
def Mailbox.rings (m : Mailbox α) : Bool := !m.closed && m.makeRoom.queue.isEmpty

/-- A mailbox that is neither notified nor closed is empty, if what is queued has been
notified of. -/
theorem Mailbox.idle_of_noticed {m : Mailbox α} (h : m.queue ≠ [] → m.notified = true)
    (hready : m.isReady = false) : m.queue = [] ∧ m.closed = false := by
  obtain ⟨hquiet, hopen⟩ := Bool.or_eq_false_iff.mp hready
  refine ⟨?_, hopen⟩
  by_cases hqueue : m.queue = []
  · exact hqueue
  · rw [h hqueue] at hquiet
    cases hquiet

namespace Delivery

-- ================================================================ events

/-- A mailbox, what it has accepted, and the loop that empties it. -/
structure Scene (α : Type) where
  mailbox : Mailbox α
  tally : Tally α := {}
  loop : Delivery α := {}
  /-- The loop sleeps in a wait. -/
  asleep : Bool := false

/-- What happens next. -/
inductive Event (α : Type) where
  /-- A producer delivers an item. -/
  | deliver (item : α)
  /-- Somebody closes the mailbox. -/
  | close
  /-- The loop takes a step, if it is awake. -/
  | turn
  /-- The loop wakes although nobody rang. -/
  | stir

namespace Scene

def start (capacity : Nat) : Scene α := { mailbox := .ofCapacity capacity }

/-- The loop is in a wait that would not let it go on. -/
def Waits (s : Scene α) : Prop :=
  s.asleep = true ∨ s.loop.phase = .wait ∧ s.mailbox.isReady = false

def turn (s : Scene α) : Scene α :=
  if s.asleep then s
  else if s.loop.phase = .wait ∧ s.mailbox.isReady = false then { s with asleep := true }
  else { s with loop := (s.loop.step s.mailbox).1, mailbox := (s.loop.step s.mailbox).2 }

def next (s : Scene α) : Event α → Scene α
  | .deliver item => { s with
      mailbox := (s.mailbox.deliver item).2, tally := s.tally.deliver s.mailbox item
      asleep := s.asleep && !s.mailbox.rings }
  | .close => { s with mailbox := s.mailbox.close, asleep := s.asleep && s.mailbox.closed }
  | .turn => s.turn
  | .stir => { s with asleep := false }

def run (s : Scene α) (events : List (Event α)) : Scene α := events.foldl next s

-- ============================================================= invariant

/-- What holds between any two events. -/
structure Inv (s : Scene α) : Prop where
  accounts : Accounts s.mailbox s.tally s.loop.written
  /-- What was queued since the loop has found the queue empty has left a notification. -/
  noticed : s.loop.phase ≠ .retrieve → s.mailbox.queue ≠ [] → s.mailbox.notified = true
  closed_of_askEmpty : s.loop.phase = .askEmpty → s.mailbox.closed = true
  over_of_done : s.loop.phase = .done → s.mailbox.closed = true ∧ s.mailbox.queue = []
  waits_of_asleep : s.asleep = true → s.loop.phase = .wait ∧ s.mailbox.isReady = false

variable {s : Scene α}

/-- A loop that has not begun has everything before it. -/
theorem Inv.start (capacity : Nat) : Inv (start capacity : Scene α) where
  accounts := .start capacity
  noticed := fun h => absurd rfl h
  closed_of_askEmpty := nofun
  over_of_done := nofun
  waits_of_asleep := nofun

/-- Where a wait would not go on there is nothing to be done. -/
theorem Inv.idle (h : Inv s) (hphase : s.loop.phase ≠ .retrieve)
    (hready : s.mailbox.isReady = false) : s.mailbox.queue = [] ∧ s.mailbox.closed = false :=
  Mailbox.idle_of_noticed (h.noticed hphase) hready

/-- The mailbox after a delivery has been notified, if it was wherever something was
queued before. -/
theorem notified_deliver {m : Mailbox α} (hopen : m.closed = false)
    (h : m.queue ≠ [] → m.notified = true) (item : α) : (m.deliver item).2.notified = true := by
  simp only [Mailbox.deliver, hopen, Bool.false_eq_true, if_false]
  by_cases hqueue : m.queue = []
  · have hroomy : m.makeRoom.queue = [] := by
      unfold Mailbox.makeRoom
      split <;> simp [hqueue]
    simp [hroomy]
  · have hroomy : m.makeRoom.notified = m.notified := by
      unfold Mailbox.makeRoom
      split <;> rfl
    simp [hroomy, h hqueue]

/-- A delivery into an empty queue rings. -/
theorem rings_of_empty {m : Mailbox α} (hopen : m.closed = false) (hqueue : m.queue = []) :
    m.rings = true := by
  unfold Mailbox.rings Mailbox.makeRoom
  split <;> simp [hopen, hqueue]

/-- A delivery rings whoever waits, or there was something to be found already. -/
theorem Inv.deliver (h : Inv s) (item : α) : Inv (s.next (.deliver item)) := by
  cases hclosed : s.mailbox.closed with
  | true =>
      have hsame : s.next (.deliver item) = s := by
        simp [next, Tally.deliver, Mailbox.deliver_closed hclosed, Mailbox.rings, hclosed]
      rw [hsame]
      exact h
  | false =>
      refine ⟨h.accounts.deliver item, ?_, ?_, ?_, ?_⟩
      · intro hphase _
        exact notified_deliver hclosed (h.noticed hphase) item
      · intro hphase
        have := h.closed_of_askEmpty hphase
        simp [hclosed] at this
      · intro hphase
        have := (h.over_of_done hphase).1
        simp [hclosed] at this
      · intro hasleep
        obtain ⟨hbefore, hquiet⟩ := Bool.and_eq_true_iff.mp hasleep
        obtain ⟨hphase, hready⟩ := h.waits_of_asleep hbefore
        -- Who sleeps has an empty mailbox, so it is woken.
        have hqueue := (h.idle (by simp [hphase]) hready).1
        simp [rings_of_empty hclosed hqueue] at hquiet

/-- A mailbox that is closed lets nobody wait. -/
theorem Inv.close (h : Inv s) : Inv (s.next .close) where
  accounts := h.accounts.close
  noticed := h.noticed
  closed_of_askEmpty := fun _ => rfl
  over_of_done := fun hphase => ⟨rfl, (h.over_of_done hphase).2⟩
  waits_of_asleep := by
    intro hasleep
    obtain ⟨hbefore, hclosed⟩ := Bool.and_eq_true_iff.mp hasleep
    obtain ⟨hphase, hready⟩ := h.waits_of_asleep hbefore
    have hopen := (h.idle (by simp [hphase]) hready).2
    simp [hopen] at hclosed

/-- A look at the mailbox that changes nothing in it. -/
theorem Inv.look (h : Inv s) (hawake : s.asleep = false) (hphase : s.loop.phase ≠ .retrieve)
    {phase : Phase} (hask : phase = .askEmpty → s.mailbox.closed = true)
    (hdone : phase = .done → s.mailbox.closed = true ∧ s.mailbox.queue = []) :
    Inv { s with loop := ⟨phase, s.loop.written⟩ } where
  accounts := h.accounts
  noticed := fun _ => h.noticed hphase
  closed_of_askEmpty := hask
  over_of_done := hdone
  waits_of_asleep := by
    intro hasleep
    simp [hawake] at hasleep

/-- The front of the queue is written, or the loop has found that there is none. -/
theorem Inv.retrieve (h : Inv s) (hawake : s.asleep = false) (hphase : s.loop.phase = .retrieve) :
    Inv { s with loop := (s.loop.step s.mailbox).1, mailbox := (s.loop.step s.mailbox).2 } := by
  have hnever : ∀ {p : Prop}, s.asleep = true → p := by
    intro p hasleep
    simp [hawake] at hasleep
  have haccounts := h.accounts.retrieve
  cases hqueue : s.mailbox.queue with
  | nil =>
      have hstep : s.loop.step s.mailbox
          = (⟨.askClosed, s.loop.written⟩, s.mailbox.retrieve.2) := by
        simp [Delivery.step, hphase, Mailbox.retrieve, hqueue]
      rw [hstep]
      refine ⟨?_, ?_, by simp, by simp, hnever⟩
      · simpa [Mailbox.retrieve, hqueue] using haccounts
      · intro _ hne
        exact absurd (by simp [Mailbox.retrieve, hqueue]) hne
  | cons front rest =>
      have hstep : s.loop.step s.mailbox
          = (⟨.retrieve, s.loop.written ++ [front]⟩, s.mailbox.retrieve.2) := by
        simp [Delivery.step, hphase, Mailbox.retrieve, hqueue]
      rw [hstep]
      refine ⟨?_, fun hne => absurd rfl hne, by simp, by simp, hnever⟩
      simpa [Mailbox.retrieve, hqueue] using haccounts

/-- Each step of the loop keeps what the next one relies on. -/
theorem Inv.step (h : Inv s) (hawake : s.asleep = false)
    (hgoes : ¬(s.loop.phase = .wait ∧ s.mailbox.isReady = false)) :
    Inv { s with loop := (s.loop.step s.mailbox).1, mailbox := (s.loop.step s.mailbox).2 } := by
  cases hphase : s.loop.phase with
  | retrieve => exact h.retrieve hawake hphase
  | askClosed =>
      have hstep : s.loop.step s.mailbox
          = (⟨if s.mailbox.closed then .askEmpty else .wait, s.loop.written⟩, s.mailbox) := by
        simp [Delivery.step, hphase]
      rw [hstep]
      cases hclosed : s.mailbox.closed with
      | true => exact h.look hawake (by simp [hphase]) (fun _ => hclosed) (by simp)
      | false => exact h.look hawake (by simp [hphase]) (by simp) (by simp)
  | askEmpty =>
      have hstep : s.loop.step s.mailbox
          = (⟨if s.mailbox.queue.isEmpty then .done else .wait, s.loop.written⟩, s.mailbox) := by
        simp [Delivery.step, hphase]
      rw [hstep]
      cases hqueue : s.mailbox.queue with
      | nil =>
          exact h.look hawake (by simp [hphase]) (by simp)
            fun _ => ⟨h.closed_of_askEmpty hphase, hqueue⟩
      | cons front rest => exact h.look hawake (by simp [hphase]) (by simp) (by simp)
  | wait =>
      have hready : s.mailbox.isReady = true := by simpa [hphase] using hgoes
      have hstep : s.loop.step s.mailbox
          = (⟨.retrieve, s.loop.written⟩, s.mailbox.takeNotice.2) := by
        simp [Delivery.step, hphase, hready]
      rw [hstep]
      refine ⟨h.accounts.congr rfl rfl rfl, fun hne => absurd rfl hne, by simp, by simp,
        fun hasleep => ?_⟩
      simp [hawake] at hasleep
  | done =>
      have hstep : s.loop.step s.mailbox = (s.loop, s.mailbox) := by simp [Delivery.step, hphase]
      rw [hstep]
      exact h

/-- A turn of the loop keeps it, asleep or awake. -/
theorem Inv.turn (h : Inv s) : Inv s.turn := by
  unfold Scene.turn
  split
  · exact h
  next hawake =>
    split
    next hwaits =>
      exact ⟨h.accounts, h.noticed, h.closed_of_askEmpty, h.over_of_done, fun _ => hwaits⟩
    next hgoes => exact h.step (Bool.not_eq_true _ ▸ hawake) hgoes

/-- So does every event. -/
theorem Inv.next (h : Inv s) (event : Event α) : Inv (s.next event) := by
  cases event with
  | deliver item => exact h.deliver item
  | close => exact h.close
  | turn => exact h.turn
  | stir => exact ⟨h.accounts, h.noticed, h.closed_of_askEmpty, h.over_of_done, nofun⟩

/-- So does a run of events. -/
theorem Inv.run (h : Inv s) (events : List (Event α)) : Inv (s.run events) := by
  induction events generalizing s with
  | nil => exact h
  | cons event events ih => exact ih (h.next event)

end Scene

-- =========================================================== left alone

/-- A loop that is blocked stays where it is. -/
theorem steps_of_blocked {d : Delivery α} {m : Mailbox α} (h : d.isBlocked m = true) (most : Nat) :
    steps most d m = (d, m) := by
  cases most with
  | zero => rfl
  | succ most => simp [steps, h]

/-- One that is not takes a step. -/
theorem steps_succ {d : Delivery α} {m : Mailbox α} (h : d.isBlocked m = false) (most : Nat) :
    steps (most + 1) d m = steps most (d.step m).1 (d.step m).2 := by
  simp [steps, h]

/-- The loop has written what was queued and has ended, or waits. -/
def Empties (written : List α) (m : Mailbox α) (after : Delivery α × Mailbox α) : Prop :=
  after.1 = ⟨if m.closed then .done else .wait, written ++ m.queue⟩ ∧ after.2.queue = []

variable {m : Mailbox α} {written : List α}

/-- With nothing queued the loop goes round once more at most. -/
theorem empties_askClosed (h : m.queue = []) (most : Nat) :
    Empties written m (steps (4 + most) ⟨.askClosed, written⟩ m) := by
  have hblocked : steps most ⟨.wait, written⟩ { m with notified := false, closed := false }
      = (⟨.wait, written⟩, { m with notified := false, closed := false }) :=
    steps_of_blocked rfl most
  obtain ⟨capacity, queue, notified, closed, dropped⟩ := m
  unfold Empties
  cases closed <;> cases notified <;>
    simp_all [Nat.add_comm, steps, isBlocked, step, Mailbox.isReady, Mailbox.retrieve,
      Mailbox.takeNotice]

/-- From a look into the queue it takes a round for each item, and ends up with nothing
queued. -/
theorem empties_retrieve (written : List α) (m : Mailbox α) (most : Nat) :
    Empties written m (steps (m.queue.length + (5 + most)) ⟨.retrieve, written⟩ m) := by
  generalize hqueue : m.queue = queue
  induction queue generalizing written m with
  | nil =>
      have hstep : (⟨.retrieve, written⟩ : Delivery α).step m = (⟨.askClosed, written⟩, m) := by
        simp [step, Mailbox.retrieve, hqueue]
        rw [← hqueue]
      have hlength : ([] : List α).length + (5 + most) = 4 + most + 1 := by simp; omega
      rw [hlength, steps_succ rfl, hstep]
      exact empties_askClosed hqueue most
  | cons front rest ih =>
      have hstep : (⟨.retrieve, written⟩ : Delivery α).step m
          = (⟨.retrieve, written ++ [front]⟩, { m with queue := rest }) := by
        simp [step, Mailbox.retrieve, hqueue]
      have hlength : (front :: rest).length + (5 + most) = rest.length + (5 + most) + 1 := by
        simp; omega
      rw [hlength, steps_succ rfl, hstep]
      obtain ⟨hloop, hempty⟩ := ih (written ++ [front]) { m with queue := rest } rfl
      refine ⟨?_, hempty⟩
      rw [hloop, hqueue, List.append_assoc, List.singleton_append]

/-- From a wait as well, if what is queued was noticed. -/
theorem empties_wait (h : m.queue ≠ [] → m.notified = true) (most : Nat) :
    Empties written m (steps (m.queue.length + (6 + most)) ⟨.wait, written⟩ m) := by
  cases hready : m.isReady with
  | true =>
      have hstep : (⟨.wait, written⟩ : Delivery α).step m
          = (⟨.retrieve, written⟩, { m with notified := false }) := by
        simp [step, hready, Mailbox.takeNotice]
      have hlength : m.queue.length + (6 + most) = m.queue.length + (5 + most) + 1 := by omega
      rw [hlength, steps_succ (by simp [isBlocked, hready]), hstep]
      exact empties_retrieve written { m with notified := false } most
  | false =>
      obtain ⟨hqueue, hopen⟩ := Mailbox.idle_of_noticed h hready
      rw [steps_of_blocked (by simp [isBlocked, hready])]
      simp [Empties, hqueue, hopen]

/-- And from the last look of a loop that was told to end. -/
theorem empties_askEmpty (hclosed : m.closed = true) (h : m.queue ≠ [] → m.notified = true)
    (most : Nat) :
    Empties written m (steps (m.queue.length + (7 + most)) ⟨.askEmpty, written⟩ m) := by
  have hlength : m.queue.length + (7 + most) = m.queue.length + (6 + most) + 1 := by omega
  rw [hlength, steps_succ rfl]
  by_cases hqueue : m.queue = []
  · have hstep : (⟨.askEmpty, written⟩ : Delivery α).step m = (⟨.done, written⟩, m) := by
      simp [step, hqueue]
    rw [hstep, steps_of_blocked rfl]
    simp [Empties, hqueue, hclosed]
  · have hstep : (⟨.askEmpty, written⟩ : Delivery α).step m = (⟨.wait, written⟩, m) := by
      simp [step, hqueue]
    rw [hstep]
    exact empties_wait h most

/-- Left alone in the midst of any run, the loop writes all that is queued, and then
ends or waits. -/
theorem Scene.Inv.empties {s : Scene α} (h : s.Inv) :
    Empties s.loop.written s.mailbox (s.loop.run s.mailbox) := by
  obtain ⟨m, tally, ⟨phase, written⟩, asleep⟩ := s
  cases phase with
  | retrieve => exact empties_retrieve written m 3
  | wait => exact empties_wait (h.noticed nofun) 2
  | askEmpty => exact empties_askEmpty (h.closed_of_askEmpty rfl) (h.noticed nofun) 1
  | askClosed =>
      show Empties written m (steps (m.queue.length + 7 + 1) ⟨.askClosed, written⟩ m)
      rw [steps_succ rfl]
      cases hclosed : m.closed with
      | true =>
          have hstep : (⟨.askClosed, written⟩ : Delivery α).step m = (⟨.askEmpty, written⟩, m) := by
            simp [Delivery.step, hclosed]
          rw [hstep]
          exact empties_askEmpty hclosed (h.noticed nofun) 0
      | false =>
          have hstep : (⟨.askClosed, written⟩ : Delivery α).step m = (⟨.wait, written⟩, m) := by
            simp [Delivery.step, hclosed]
          rw [hstep]
          exact empties_wait (h.noticed nofun) 1
  | done =>
      obtain ⟨hclosed, hqueue⟩ := h.over_of_done rfl
      show Empties written m (steps (m.queue.length + 8) ⟨.done, written⟩ m)
      rw [steps_of_blocked rfl]
      have hclosed : m.closed = true := hclosed
      have hqueue : m.queue = [] := hqueue
      simp [Empties, hclosed, hqueue]

-- ============================================================ every run

/-- Whatever producers and closers do between the steps of the loop, and whatever the
capacity: what has been written and what is queued are at any moment the accepted
items that were not lost, each once, in the order they were accepted. The loop never
stays in a wait while something is queued or the mailbox is closed. It ends only when
the mailbox is closed and empty, and so with all of them written; and once the mailbox
is closed, its own steps lead it there. -/
theorem written_of_run (capacity : Nat) (events : List (Event α)) :
    let s := (Scene.start capacity).run events
    s.loop.written ++ s.mailbox.queue = s.tally.kept
      ∧ s.tally.lost.Nodup ∧ s.tally.lost.length = s.mailbox.dropped
      ∧ (s.Waits → s.mailbox.queue = [] ∧ s.mailbox.closed = false)
      ∧ (s.loop.phase = .done →
          s.mailbox.closed = true ∧ s.mailbox.queue = [] ∧ s.loop.written = s.tally.kept)
      ∧ (s.loop.run s.mailbox).1
          = ⟨if s.mailbox.closed then .done else .wait, s.tally.kept⟩ := by
  intro s
  have hinv : s.Inv := (Scene.Inv.start capacity).run events
  have hkept : s.loop.written ++ s.mailbox.queue = s.tally.kept := hinv.accounts.kept_eq
  refine ⟨hkept, hinv.accounts.nodup_lost, hinv.accounts.length_lost, ?_, ?_, ?_⟩
  · intro hwaits
    have hphase : s.loop.phase = .wait ∧ s.mailbox.isReady = false := by
      rcases hwaits with hasleep | hwaits
      · exact hinv.waits_of_asleep hasleep
      · exact hwaits
    exact hinv.idle (by simp [hphase.1]) hphase.2
  · intro hdone
    obtain ⟨hclosed, hqueue⟩ := hinv.over_of_done hdone
    rw [hqueue, List.append_nil] at hkept
    exact ⟨hclosed, hqueue, hkept⟩
  · rw [← hkept]
    exact hinv.empties.1

end Delivery

end CellSync
