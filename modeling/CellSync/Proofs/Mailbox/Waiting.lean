/-
One notification for each time that a mailbox stops being empty.

A wait looks at the mailbox when it starts and each time it is woken. A
look that finds a notification takes it, and the wait answers true. A look
that finds the mailbox closed ends the wait with false, and so does one
that comes after the wait's time is up; every other look changes nothing
and the wait goes on. So whoever waits, what happens to a mailbox is a list
of calls and looks, in the order in which they hold its lock.

A delivery leaves a notification if the queue is empty once there is room
for the item (`rings_eq`). Where two items fit that means that it was
empty before, so no more waits answer true than items were accepted into
an empty mailbox. A mailbox for a single item makes room by losing the only
item that it holds. So it notifies of every item that it accepts, and a
second wait answers true although the queue was never empty in between
(`exists_woken_by_renewal`).

Notifications do not add up: one that comes while another is pending is
lost in it. Counted together with these, they balance (`balance_after`).
-/
import CellSync.Proofs.Peer.Delivery

namespace CellSync.Mailbox

variable {α : Type}

-- ================================================================== acts

/-- What happens to a mailbox while its lock is held once. -/
inductive Act (α : Type) where
  | call (call : Call α)
  /-- A wait looks, because it starts or was woken. -/
  | look
  /-- A wait looks whose time is up. -/
  | lapse

/-- The mailbox after an act. -/
def after (m : Mailbox α) : Act α → Mailbox α
  | .call (.deliver item) => (m.deliver item).2
  | .call .retrieve => m.retrieve.2
  | .call .close => m.close
  | .look | .lapse => m.poll.2

/-- What a wait answers that ends with an act. -/
def answer? (m : Mailbox α) : Act α → Option Bool
  | .call _ => none
  | .look => if m.isReady then some m.poll.1 else none
  | .lapse => some m.poll.1

/-- An act, and the mailbox as it finds it. -/
abbrev Moment (α : Type) := Mailbox α × Act α

/-- What happens, moment by moment. -/
def moments (m : Mailbox α) : List (Act α) → List (Moment α)
  | [] => []
  | act :: acts => (m, act) :: moments (m.after act) acts

namespace Moment

/-- A wait answers true. -/
def wakes (moment : Moment α) : Bool := moment.1.answer? moment.2 = some true

/-- An item is accepted. -/
def accepts : Moment α → Bool
  | (m, .call (.deliver item)) => (m.deliver item).1
  | _ => false

/-- An item is accepted into an empty mailbox. -/
def fills (moment : Moment α) : Bool := moment.accepts && moment.1.queue.length = 0

/-- An item is accepted in place of the only one that there is room for. -/
def renews (moment : Moment α) : Bool :=
  moment.accepts && (moment.1.capacity = 1 ∧ moment.1.queue.length = 1)

/-- A notification is lost in one that is pending. -/
def merges (moment : Moment α) : Bool :=
  (moment.fills || moment.renews) && moment.1.notified

end Moment

open Moment (wakes accepts fills renews merges)

-- ================================================================ notices

theorem capacity_after (m : Mailbox α) (act : Act α) : (m.after act).capacity = m.capacity := by
  cases act with
  | call call =>
      cases call with
      | deliver item => exact capacity_deliver m item
      | retrieve | close => rfl
  | look | lapse =>
      simp only [after, poll]
      split <;> rfl

/-- A poll takes the notification, if there is one. -/
theorem poll_eq (m : Mailbox α) : m.poll = (m.notified, { m with notified := false }) := by
  unfold poll
  split
  · rfl
  next hidle =>
    have hquiet : m.notified = false := (Bool.or_eq_false_iff.mp (Bool.eq_false_iff.mpr hidle)).1
    rw [← hquiet]

theorem notified_deliver_eq (m : Mailbox α) (item : α) :
    (m.deliver item).2.notified = (m.notified || m.rings) := by
  unfold deliver rings
  have hroomy : m.makeRoom.notified = m.notified := by
    unfold makeRoom
    split <;> rfl
  cases m.closed with
  | true => simp
  | false => simp [hroomy]

/-- A delivery rings just if its item comes into an empty mailbox, or in place of the
only one that there is room for. -/
theorem rings_eq {m : Mailbox α} (hpos : 0 < m.capacity) (item : α) :
    m.rings = (fills (m, .call (.deliver item)) || renews (m, .call (.deliver item))) := by
  have haccepted : accepts (m, .call (.deliver item)) = !m.closed := by
    cases hclosed : m.closed <;> simp [accepts, deliver, hclosed]
  have hempty : m.makeRoom.queue.isEmpty
      = (decide (m.queue.length = 0) || decide (m.capacity = 1 ∧ m.queue.length = 1)) := by
    rw [Bool.eq_iff_iff, List.isEmpty_iff_length_eq_zero]
    simp only [Bool.or_eq_true, decide_eq_true_eq, makeRoom]
    split
    · rw [List.length_drop]
      omega
    · omega
  rw [rings, hempty, fills, renews, haccepted, Bool.and_or_distrib_left]

/-- An empty mailbox holds no item that could be replaced. -/
theorem renews_eq_false (moment : Moment α) (h : moment.fills = true) :
    moment.renews = false := by
  simp only [fills, Bool.and_eq_true, decide_eq_true_eq] at h
  simp [renews, h.2]

-- ================================================================ balance

/-- A notification that nobody has taken yet counts as one. -/
def pending (m : Mailbox α) : Nat := m.notified.toNat

/-- What an act takes of a notification or leaves of one, together with what is lost
in it, is what was there and what comes with the item. -/
theorem pending_after {m : Mailbox α} (hpos : 0 < m.capacity) (act : Act α) :
    (wakes (m, act)).toNat + (m.after act).pending + (merges (m, act)).toNat
      = m.pending + (fills (m, act)).toNat + (renews (m, act)).toNat := by
  cases act with
  | call call =>
      cases call with
      | deliver item =>
          have hquiet : wakes (m, .call (.deliver item)) = false := rfl
          have hexclusive := renews_eq_false (m, .call (.deliver item))
          rw [hquiet, pending, after, notified_deliver_eq, rings_eq hpos item, merges, pending]
          generalize fills (m, .call (.deliver item)) = filled at *
          generalize renews (m, .call (.deliver item)) = renewed at *
          cases filled <;> cases renewed <;> cases m.notified <;> simp_all
      | retrieve | close =>
          simp [wakes, fills, renews, merges, accepts, answer?, pending, after, retrieve, close]
  | look | lapse =>
      -- The wait takes what is pending, and answers true just if there is something.
      simp only [wakes, fills, renews, merges, accepts, answer?, pending, after, poll_eq, isReady]
      cases m.notified <;> cases m.closed <;> rfl

theorem countP_moments_cons (p : Moment α → Bool) (m : Mailbox α) (act : Act α)
    (acts : List (Act α)) :
    (m.moments (act :: acts)).countP p = (p (m, act)).toNat + ((m.after act).moments acts).countP p := by
  rw [moments, List.countP_cons, Nat.add_comm]
  cases p (m, act) <;> rfl

/-- Over any run, the waits that answer true, the notification that is left and those
that were lost are as many as were there at the start or came with items. -/
theorem balance_after {m : Mailbox α} (hpos : 0 < m.capacity) (acts : List (Act α)) :
    (m.moments acts).countP wakes + (acts.foldl after m).pending + (m.moments acts).countP merges
      = m.pending + (m.moments acts).countP fills + (m.moments acts).countP renews := by
  induction acts generalizing m with
  | nil => simp [moments]
  | cons act acts ih =>
      have hstep := pending_after hpos act
      have hrest := ih (m := m.after act) (by rwa [capacity_after])
      simp only [countP_moments_cons, List.foldl_cons]
      omega

/-- Nothing is replaced where two items fit. -/
theorem countP_renews_eq_zero {m : Mailbox α} (hroom : 2 ≤ m.capacity) (acts : List (Act α)) :
    (m.moments acts).countP renews = 0 := by
  induction acts generalizing m with
  | nil => rfl
  | cons act acts ih =>
      have hkept : renews (m, act) = false := by
        have hne : m.capacity ≠ 1 := by omega
        simp [renews, hne]
      rw [countP_moments_cons, hkept, ih (by rwa [capacity_after])]
      rfl

/-- Whatever happens to a mailbox, the waits that answered true, the notification that
is pending and those that were lost in a pending one are together as many as the
items that were accepted into the empty mailbox or in place of the only one that
there is room for. If the capacity is two or more, items are never accepted in
place of the only one. So the waits that answered true are then no more than the
items that were accepted into the empty mailbox. -/
theorem woken_le_of_acts (capacity : Nat) (acts : List (Act α)) :
    let run := (ofCapacity capacity : Mailbox α).moments acts
    run.countP wakes + (acts.foldl after (ofCapacity capacity)).pending + run.countP merges
        = run.countP fills + run.countP renews
      ∧ (2 ≤ capacity → run.countP renews = 0 ∧ run.countP wakes ≤ run.countP fills) := by
  intro run
  have hpos : 0 < (ofCapacity capacity : Mailbox α).capacity := Nat.le_max_right capacity 1
  have hquiet : (ofCapacity capacity : Mailbox α).pending = 0 := rfl
  have hbalance : run.countP wakes + (acts.foldl after (ofCapacity capacity)).pending
      + run.countP merges = run.countP fills + run.countP renews := by
    have hrun := balance_after hpos acts
    rwa [hquiet, Nat.zero_add] at hrun
  refine ⟨hbalance, fun hroom => ?_⟩
  have hnone : run.countP renews = 0 :=
    countP_renews_eq_zero (Nat.le_trans hroom (Nat.le_max_left capacity 1)) acts
  refine ⟨hnone, ?_⟩
  calc run.countP wakes
      ≤ run.countP fills + run.countP renews := by
        rw [← hbalance, Nat.add_assoc]
        exact Nat.le_add_right _ _
    _ = run.countP fills := by rw [hnone, Nat.add_zero]

/-- Two items wake one wait, and a third that comes after both were taken another. -/
theorem woken_le_of_acts_three :
    let run := (ofCapacity 2 : Mailbox Nat).moments
      [.call (.deliver 1), .call (.deliver 2), .look, .look, .call .retrieve, .call .retrieve,
        .call (.deliver 3), .lapse]
    2 ≤ 2 ∧ run.countP wakes = 2 ∧ run.countP wakes ≤ run.countP fills :=
  ⟨Nat.le_refl 2, by decide, ((woken_le_of_acts 2 _).2 (Nat.le_refl 2)).2⟩

/-- In a mailbox for one item a second wait answers true for an item that was accepted
while the first one was still queued. -/
theorem exists_woken_by_renewal : ∃ acts : List (Act Nat),
    let run := (ofCapacity 1 : Mailbox Nat).moments acts
    run.countP wakes = 2 ∧ run.countP fills = 1 :=
  ⟨[.call (.deliver 1), .look, .call (.deliver 2), .look], by decide, by decide⟩

end CellSync.Mailbox
