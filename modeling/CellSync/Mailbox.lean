/-
Bounded queues between publishers and a connection.

Delivering never waits: a full mailbox loses its oldest item instead,
and counts the loss. A delivery into an empty queue leaves a
notification, which one wait takes, so a consumer that retrieves until
the queue is empty before it waits again misses nothing. A closed
mailbox accepts nothing more and keeps what it holds.
-/
import CellSync.Text.Record

namespace CellSync

/-- A bounded queue. -/
structure Mailbox (α : Type) where
  capacity : Nat
  queue : List α := []
  /-- A wait may go on although nothing has been looked at since. -/
  notified : Bool := false
  closed : Bool := false
  /-- How many items were lost to make room. -/
  dropped : Nat := 0

namespace Mailbox

variable {α : Type}

/-- An empty mailbox, with room for one item at least. -/
def ofCapacity (capacity : Nat) : Mailbox α := { capacity := max capacity 1 }

/-- The mailbox with room for one more item. -/
def makeRoom (m : Mailbox α) : Mailbox α :=
  if m.capacity ≤ m.queue.length then
    { m with queue := m.queue.drop 1, dropped := m.dropped + 1 }
  else m

/-- Delivers an item, and tells whether it was accepted. -/
def deliver (m : Mailbox α) (item : α) : Bool × Mailbox α :=
  if m.closed then (false, m)
  else
    let roomy := m.makeRoom
    (true, { roomy with
      queue := roomy.queue ++ [item], notified := roomy.notified || roomy.queue.isEmpty })

/-- Delivers some items in order. -/
def deliverAll (m : Mailbox α) (items : List α) : Mailbox α :=
  items.foldl (fun m item => (m.deliver item).2) m

/-- Takes the oldest item. -/
def retrieve (m : Mailbox α) : Option α × Mailbox α :=
  (m.queue.head?, { m with queue := m.queue.drop 1 })

/-- Takes every item. -/
def drain (m : Mailbox α) : List α × Mailbox α := (m.queue, { m with queue := [] })

/-- Accepts nothing more. -/
def close (m : Mailbox α) : Mailbox α := { m with closed := true }

/-- Whether a wait would not block. -/
def isReady (m : Mailbox α) : Bool := m.notified || m.closed

/-- What a wait answers that does not block: whether there was a notification,
which it takes. -/
def takeNotice (m : Mailbox α) : Bool × Mailbox α := (m.notified, { m with notified := false })

/-- A wait without patience: it answers false where it would block. -/
def poll (m : Mailbox α) : Bool × Mailbox α := if m.isReady then m.takeNotice else (false, m)

/-- A mailbox in diagnostics. -/
def describe (m : Mailbox α) : String :=
  Text.record "Mailbox" [("capacity", toString m.capacity), ("len", toString m.queue.length),
    ("dropped", toString m.dropped), ("closed", Text.truth m.closed)]

end Mailbox

end CellSync
