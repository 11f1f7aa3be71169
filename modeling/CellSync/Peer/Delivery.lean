/-
Moving messages from a mailbox to a stream.

The loop takes items until there are none, ends if the mailbox is closed
and empty, and waits for a notification otherwise. Each look at the
mailbox is a step of its own, and others may deliver or close between
two steps.
-/
import CellSync.Mailbox

namespace CellSync

namespace Delivery

/-- What the loop does next. -/
inductive Phase where
  | retrieve
  | askClosed
  | askEmpty
  | wait
  | done
deriving DecidableEq

end Delivery

/-- The loop, and the items that it has written, oldest first. -/
structure Delivery (α : Type) where
  phase : Delivery.Phase := .retrieve
  written : List α := []

namespace Delivery

variable {α : Type}

/-- Whether the next step has to wait for somebody else. -/
def isBlocked (d : Delivery α) (m : Mailbox α) : Bool :=
  d.phase = .done || (d.phase = .wait && !m.isReady)

/-- One step of the loop. -/
def step (d : Delivery α) (m : Mailbox α) : Delivery α × Mailbox α :=
  match d.phase with
  | .retrieve =>
    let (item, m) := m.retrieve
    match item with
    | some item => (⟨.retrieve, d.written ++ [item]⟩, m)
    | none => (⟨.askClosed, d.written⟩, m)
  | .askClosed => (⟨if m.closed then .askEmpty else .wait, d.written⟩, m)
  | .askEmpty => (⟨if m.queue.isEmpty then .done else .wait, d.written⟩, m)
  | .wait =>
    if m.isReady then (⟨.retrieve, d.written⟩, m.takeNotice.2) else (d, m)
  | .done => (d, m)

/-- Steps until the loop has to wait, at most so many. -/
def steps : Nat → Delivery α → Mailbox α → Delivery α × Mailbox α
  | 0, d, m => (d, m)
  | most + 1, d, m =>
    if d.isBlocked m then (d, m)
    else
      let (d, m) := d.step m
      steps most d m

/-- Steps until the loop has to wait. A notification may send it once more
around an empty mailbox. -/
def run (d : Delivery α) (m : Mailbox α) : Delivery α × Mailbox α :=
  steps (m.queue.length + 8) d m

end Delivery

end CellSync
