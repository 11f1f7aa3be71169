/-
What becomes of the items that a mailbox accepts.

Every accepted item has a place: first, second and so on. It waits in the
queue until it is taken, or is lost to make room. `Tally` writes down
what was accepted and which places were lost; the mailbox itself only
counts the losses. The balance of the two is `Accounts`: the queue is the
end of what was accepted, and what was taken is all that came before it
and was not lost. One lemma per operation keeps it, so it holds after any
calls (`balance_of_calls`), whatever the capacity.

An item is lost at the front of the queue only, and only when another one
comes in. So the place that is lost is the first one that still waits.
-/
import CellSync.Mailbox

namespace CellSync.Mailbox

variable {α : Type}

-- ================================================================ places

/-- The items whose places are not among `lost`, in order. -/
def keep (lost : List Nat) (items : List α) : List α :=
  (items.zipIdx.filter fun entry => entry.2 ∉ lost).map (·.1)

/-- Items that come after every lost place are kept. -/
theorem keep_append {lost : List Nat} {items : List α}
    (h : ∀ place ∈ lost, place < items.length) (later : List α) :
    keep lost (items ++ later) = keep lost items ++ later := by
  have hall : (later.zipIdx items.length).filter (fun entry => entry.2 ∉ lost)
      = later.zipIdx items.length := by
    refine List.filter_eq_self.mpr fun entry hmem => decide_eq_true ?_
    intro hlost
    exact absurd (h entry.2 hlost) (Nat.not_lt.mpr (List.le_snd_of_mem_zipIdx hmem))
  unfold keep
  rw [List.zipIdx_append, List.filter_append, List.map_append, Nat.zero_add, hall]
  simp

/-- Losing the item that comes next keeps the same items. -/
theorem keep_concat_lost {lost : List Nat} {items : List α} (item : α) :
    keep (lost ++ [items.length]) (items ++ [item]) = keep lost items := by
  have hsame : items.zipIdx.filter (fun entry => entry.2 ∉ lost ++ [items.length])
      = items.zipIdx.filter fun entry => entry.2 ∉ lost := by
    refine List.filter_congr fun entry hmem => ?_
    have hne : entry.2 ≠ items.length := Nat.ne_of_lt (List.snd_lt_of_mem_zipIdx hmem)
    simp [hne]
  unfold keep
  rw [List.zipIdx_append, List.filter_append, hsame]
  simp

-- =============================================================== tallies

/-- What a mailbox has accepted, and the places of the items that were lost. -/
structure Tally (α : Type) where
  accepted : List α := []
  lost : List Nat := []

namespace Tally

/-- The accepted items that were not lost. -/
def kept (t : Tally α) : List α := keep t.lost t.accepted

/-- What is written down of a delivery to a mailbox. The front of a full queue is
lost, which is the first place that still waits. -/
def deliver (t : Tally α) (m : Mailbox α) (item : α) : Tally α :=
  if (m.deliver item).1 then
    { accepted := t.accepted ++ [item]
      lost := t.lost ++
        if m.capacity ≤ m.queue.length then [t.accepted.length - m.queue.length] else [] }
  else t

end Tally

-- ============================================================== accounts

/-- A mailbox, what it has accepted and lost, and what was taken out of it: nothing
else has happened to an item. -/
structure Accounts (m : Mailbox α) (t : Tally α) (taken : List α) : Prop where
  split : ∃ before, t.accepted = before ++ m.queue ∧ taken = keep t.lost before
    ∧ before.length = taken.length + m.dropped ∧ ∀ place ∈ t.lost, place < before.length
  nodup_lost : t.lost.Nodup
  length_lost : t.lost.length = m.dropped
  pos : 0 < m.capacity
  le_capacity : m.queue.length ≤ m.capacity

/-- Nothing is delivered to a mailbox that is closed. -/
theorem deliver_closed {m : Mailbox α} (h : m.closed = true) (item : α) :
    m.deliver item = (false, m) := by
  simp [deliver, h]

/-- Whether a delivery loses an item. -/
def evicts (m : Mailbox α) : Bool := !m.closed && decide (m.capacity ≤ m.queue.length)

/-- What a delivery evicts is counted. -/
theorem dropped_deliver (m : Mailbox α) (item : α) :
    (m.deliver item).2.dropped = m.dropped + if m.evicts then 1 else 0 := by
  unfold deliver evicts
  cases m.closed with
  | true => simp
  | false => by_cases hfull : m.capacity ≤ m.queue.length <;> simp [makeRoom, hfull]

/-- A delivery does not change how much there is room for. -/
theorem capacity_deliver (m : Mailbox α) (item : α) :
    (m.deliver item).2.capacity = m.capacity := by
  unfold deliver makeRoom
  split
  · rfl
  · dsimp only
    split <;> rfl

namespace Accounts

variable {m m' : Mailbox α} {t : Tally α} {taken : List α}

/-- Nothing has happened to a new mailbox. -/
theorem start (capacity : Nat) : Accounts (ofCapacity capacity : Mailbox α) {} [] := by
  refine ⟨⟨[], rfl, rfl, rfl, nofun⟩, .nil, rfl, ?_, Nat.zero_le _⟩
  simp only [ofCapacity]
  omega

/-- What does not touch the queue leaves the accounts. -/
theorem congr (h : Accounts m t taken) (hqueue : m'.queue = m.queue)
    (hdropped : m'.dropped = m.dropped) (hcapacity : m'.capacity = m.capacity) :
    Accounts m' t taken := by
  obtain ⟨hsplit, hnodup, hlost, hpos, hle⟩ := h
  refine ⟨?_, hnodup, ?_, ?_, ?_⟩
  · rw [hqueue, hdropped]
    exact hsplit
  · rw [hdropped]
    exact hlost
  · rw [hcapacity]
    exact hpos
  · rw [hqueue, hcapacity]
    exact hle

/-- A delivery is accounted for: it is refused, or it comes last and may cost the front. -/
theorem deliver (h : Accounts m t taken) (item : α) :
    Accounts (m.deliver item).2 (t.deliver m item) taken := by
  cases hclosed : m.closed with
  | true =>
      rw [Tally.deliver, deliver_closed hclosed]
      exact h
  | false =>
      obtain ⟨⟨before, haccepted, htaken, hbefore, hlost⟩, hnodup, hlength, hpos, hle⟩ := h
      by_cases hfull : m.capacity ≤ m.queue.length
      · -- The front of the queue gives way; it stands right after what has left the queue.
        have hplace : t.accepted.length - m.queue.length = before.length := by
          rw [haccepted, List.length_append, Nat.add_sub_cancel]
        have hdelivered : (m.deliver item).2 = { m with
            queue := m.queue.drop 1 ++ [item], dropped := m.dropped + 1
            notified := m.notified || (m.queue.drop 1).isEmpty } := by
          simp [Mailbox.deliver, makeRoom, hclosed, hfull]
        have htally : t.deliver m item
            = ⟨t.accepted ++ [item], t.lost ++ [before.length]⟩ := by
          simp [Tally.deliver, Mailbox.deliver, hclosed, hfull, hplace]
        obtain ⟨front, rest, hqueue⟩ : ∃ front rest, m.queue = front :: rest :=
          List.exists_cons_of_length_pos (Nat.lt_of_lt_of_le hpos hfull)
        rw [hdelivered, htally, hqueue, List.drop_succ_cons, List.drop_zero]
        rw [hqueue] at haccepted hle
        refine ⟨⟨before ++ [front], ?_, ?_, ?_, ?_⟩, ?_, ?_, hpos, ?_⟩
        · simp [haccepted]
        · rw [keep_concat_lost]
          exact htaken
        · simp [hbefore, Nat.add_assoc]
        · intro place hmem
          rw [List.length_append, List.length_singleton]
          rcases List.mem_append.mp hmem with hold | hlast
          · exact Nat.lt_succ_of_lt (hlost place hold)
          · rw [List.mem_singleton.mp hlast]
            exact Nat.lt_succ_self _
        · refine List.nodup_append.mpr ⟨hnodup, by simp, ?_⟩
          intro place hold other hlast
          rw [List.mem_singleton.mp hlast]
          exact Nat.ne_of_lt (hlost place hold)
        · simp [hlength]
        · simpa using hle
      · have hdelivered : (m.deliver item).2 = { m with
            queue := m.queue ++ [item], notified := m.notified || m.queue.isEmpty } := by
          simp [Mailbox.deliver, makeRoom, hclosed, hfull]
        have htally : t.deliver m item = ⟨t.accepted ++ [item], t.lost⟩ := by
          simp [Tally.deliver, Mailbox.deliver, hclosed, hfull]
        rw [hdelivered, htally]
        refine ⟨⟨before, ?_, htaken, hbefore, hlost⟩, hnodup, hlength, hpos, ?_⟩
        · rw [haccepted, List.append_assoc]
        · rw [List.length_append, List.length_singleton]
          exact Nat.lt_of_not_le hfull

/-- So is an item that is taken out: it was the first that waited. -/
theorem retrieve (h : Accounts m t taken) :
    Accounts m.retrieve.2 t (taken ++ m.retrieve.1.toList) := by
  obtain ⟨⟨before, haccepted, htaken, hbefore, hlost⟩, hnodup, hlength, hpos, hle⟩ := h
  cases hqueue : m.queue with
  | nil =>
      simp only [Mailbox.retrieve, hqueue, List.head?_nil, Option.toList_none, List.append_nil,
        List.drop_nil]
      rw [hqueue] at haccepted
      exact ⟨⟨before, haccepted, htaken, hbefore, hlost⟩, hnodup, hlength, hpos, Nat.zero_le _⟩
  | cons front rest =>
      simp only [Mailbox.retrieve, hqueue, List.head?_cons, Option.toList_some,
        List.drop_succ_cons, List.drop_zero]
      refine ⟨⟨before ++ [front], ?_, ?_, ?_, ?_⟩, hnodup, hlength, hpos, ?_⟩
      · simp [haccepted, hqueue]
      · rw [keep_append hlost, htaken]
      · simp only [List.length_append, List.length_singleton]
        omega
      · intro place hmem
        rw [List.length_append]
        exact Nat.lt_add_right _ (hlost place hmem)
      · rw [hqueue, List.length_cons] at hle
        exact Nat.le_of_succ_le hle

/-- Closing loses nothing of what waits. -/
theorem close (h : Accounts m t taken) : Accounts m.close t taken := h.congr rfl rfl rfl

/-- The queue is the end of what was accepted. -/
theorem queue_eq (h : Accounts m t taken) :
    m.queue = t.accepted.drop (taken.length + m.dropped) := by
  obtain ⟨before, haccepted, -, hbefore, -⟩ := h.split
  rw [haccepted, ← hbefore, List.drop_left]

/-- Every accepted item was taken out, waits, or was dropped. -/
theorem length_accepted (h : Accounts m t taken) :
    t.accepted.length = taken.length + m.queue.length + m.dropped := by
  obtain ⟨before, haccepted, -, hbefore, -⟩ := h.split
  rw [haccepted, List.length_append]
  omega

/-- What was taken and what is queued are together all that was not lost. -/
theorem kept_eq (h : Accounts m t taken) : taken ++ m.queue = t.kept := by
  obtain ⟨before, haccepted, htaken, -, hlost⟩ := h.split
  rw [Tally.kept, haccepted, keep_append hlost, ← htaken]

end Accounts

-- ================================================================= calls

/-- A call on a mailbox, through any of its handles. -/
inductive Call (α : Type) where
  | deliver (item : α)
  | retrieve
  | close

/-- A mailbox with all that has been delivered to it and taken out of it. -/
structure Trail (α : Type) where
  mailbox : Mailbox α
  tally : Tally α := {}
  taken : List α := []

namespace Trail

/-- A new mailbox. -/
def start (capacity : Nat) : Trail α := { mailbox := ofCapacity capacity }

def take (t : Trail α) : Call α → Trail α
  | .deliver item =>
    { t with mailbox := (t.mailbox.deliver item).2, tally := t.tally.deliver t.mailbox item }
  | .retrieve =>
    { t with mailbox := t.mailbox.retrieve.2, taken := t.taken ++ t.mailbox.retrieve.1.toList }
  | .close => { t with mailbox := t.mailbox.close }

def takeAll (t : Trail α) (calls : List (Call α)) : Trail α := calls.foldl take t

/-- How many of some calls take an item out. -/
def retrievals (calls : List (Call α)) : Nat :=
  calls.countP fun call => match call with
    | .retrieve => true
    | _ => false

variable {t : Trail α}

/-- Every call is accounted for. -/
theorem accounts_take (h : Accounts t.mailbox t.tally t.taken) (call : Call α) :
    Accounts (t.take call).mailbox (t.take call).tally (t.take call).taken := by
  cases call with
  | deliver item => exact h.deliver item
  | retrieve => exact h.retrieve
  | close => exact h.close

/-- So is a run of calls. -/
theorem accounts_takeAll (h : Accounts t.mailbox t.tally t.taken) (calls : List (Call α)) :
    Accounts (t.takeAll calls).mailbox (t.takeAll calls).tally (t.takeAll calls).taken := by
  induction calls generalizing t with
  | nil => exact h
  | cons call calls ih => exact ih (accounts_take h call)

theorem capacity_take (t : Trail α) (call : Call α) :
    (t.take call).mailbox.capacity = t.mailbox.capacity := by
  cases call with
  | deliver item => exact capacity_deliver t.mailbox item
  | retrieve | close => rfl

theorem capacity_takeAll (t : Trail α) (calls : List (Call α)) :
    (t.takeAll calls).mailbox.capacity = t.mailbox.capacity := by
  induction calls generalizing t with
  | nil => rfl
  | cons call calls ih => exact (ih (t.take call)).trans (capacity_take t call)

/-- A mailbox that is closed stays closed. -/
theorem closed_take (call : Call α) (h : t.mailbox.closed = true) :
    (t.take call).mailbox.closed = true := by
  cases call with
  | deliver item =>
      simp only [take, deliver_closed h]
      exact h
  | retrieve => exact h
  | close => rfl

/-- A mailbox is closed from the first call to close it on. -/
theorem closed_takeAll {calls : List (Call α)}
    (h : t.mailbox.closed = true ∨ .close ∈ calls) :
    (t.takeAll calls).mailbox.closed = true := by
  induction calls generalizing t with
  | nil => exact h.resolve_right List.not_mem_nil
  | cons call calls ih =>
      refine ih ?_
      rcases h with hclosed | hmem
      · exact .inl (closed_take call hclosed)
      · rcases List.mem_cons.mp hmem with rfl | hlater
        · exact .inl rfl
        · exact .inr hlater

/-- Nothing comes into a closed mailbox, and what it holds is taken out in order. -/
theorem takeAll_of_closed (h : t.mailbox.closed = true) (calls : List (Call α)) :
    t.takeAll calls = { t with
      mailbox := { t.mailbox with queue := t.mailbox.queue.drop (retrievals calls) }
      taken := t.taken ++ t.mailbox.queue.take (retrievals calls) } := by
  induction calls generalizing t with
  | nil => simp [takeAll, retrievals]
  | cons call calls ih =>
      have hnext := ih (closed_take call h)
      have hcons : t.takeAll (call :: calls) = (t.take call).takeAll calls := rfl
      rw [hcons, hnext]
      cases call with
      | deliver item => simp [take, Tally.deliver, deliver_closed h, retrievals]
      | close => simp [take, Mailbox.close, h, retrievals]
      | retrieve =>
          cases hqueue : t.mailbox.queue with
          | nil => simp [take, Mailbox.retrieve, hqueue, retrievals]
          | cons front rest => simp [take, Mailbox.retrieve, hqueue, retrievals]

end Trail

-- =============================================================== balance

/-- After any calls on a mailbox of any capacity, its queue is what it has accepted
without the first `r + d` items, where `r` items were taken and `d` were lost, and
holds no more than the capacity, and at least one item fits. The next item that is
taken is the first of the queue; so what was taken and what is queued are, in order,
the accepted items but those at `d` places. An item is lost only when one is
delivered into a full queue. Once the mailbox is closed, deliveries are refused and
change nothing, and what is queued is still taken out in order. -/
theorem balance_of_calls (capacity : Nat) (calls : List (Call α)) :
    let t := (Trail.start capacity).takeAll calls
    t.mailbox.queue = t.tally.accepted.drop (t.taken.length + t.mailbox.dropped)
      ∧ t.mailbox.queue.length ≤ max capacity 1
      ∧ t.mailbox.retrieve.1 = t.mailbox.queue.head?
      ∧ t.taken ++ t.mailbox.queue = t.tally.kept
      ∧ t.tally.accepted.length = (t.taken ++ t.mailbox.queue).length + t.mailbox.dropped
      ∧ t.tally.lost.Nodup ∧ t.tally.lost.length = t.mailbox.dropped
      ∧ (∀ call, (t.take call).mailbox.dropped ≠ t.mailbox.dropped →
          ∃ item, call = .deliver item ∧ t.mailbox.queue.length = max capacity 1
            ∧ (t.take call).mailbox.dropped = t.mailbox.dropped + 1)
      ∧ (.close ∈ calls →
          (∀ item, t.mailbox.deliver item = (false, t.mailbox))
          ∧ ∀ later, t.takeAll later = { t with
              mailbox := { t.mailbox with
                queue := t.mailbox.queue.drop (Trail.retrievals later) }
              taken := t.taken ++ t.mailbox.queue.take (Trail.retrievals later) }) := by
  intro t
  have haccounts : Accounts t.mailbox t.tally t.taken :=
    Trail.accounts_takeAll (Accounts.start capacity) calls
  have hcapacity : t.mailbox.capacity = max capacity 1 := Trail.capacity_takeAll _ calls
  have hle : t.mailbox.queue.length ≤ max capacity 1 := by
    rw [← hcapacity]
    exact haccounts.le_capacity
  refine ⟨haccounts.queue_eq, hle, rfl, haccounts.kept_eq, ?_, haccounts.nodup_lost,
    haccounts.length_lost, ?_, ?_⟩
  · rw [haccounts.length_accepted, List.length_append]
  · intro call hdropped
    cases call with
    | retrieve | close => exact absurd rfl hdropped
    | deliver item =>
        have hdelivered : (t.take (.deliver item)).mailbox.dropped
            = t.mailbox.dropped + if t.mailbox.evicts then 1 else 0 :=
          dropped_deliver t.mailbox item
        cases hevicts : t.mailbox.evicts with
        | false => simp [hdelivered, hevicts] at hdropped
        | true =>
            have hfull : t.mailbox.capacity ≤ t.mailbox.queue.length := by
              simp only [evicts, Bool.and_eq_true, decide_eq_true_eq] at hevicts
              exact hevicts.2
            refine ⟨item, rfl, by omega, ?_⟩
            simp [hdelivered, hevicts]
  · intro hmem
    have hclosed : t.mailbox.closed = true := Trail.closed_takeAll (.inr hmem)
    exact ⟨deliver_closed hclosed, Trail.takeAll_of_closed hclosed⟩

end CellSync.Mailbox
