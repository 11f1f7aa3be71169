/-
The pins of a host, the mailboxes they write to, and the index by cell.

A session lives as long as somebody holds it; the index does not. A
registration whose session is gone is passed over. Publishing is two
things: a snapshot of the sessions that are registered for the cells of
a change, and one offer to each of them. Each change of a session and
the delivery of what it emits are one step.
-/
import CellSync.Mailbox
import CellSync.Pin.Session

namespace CellSync

/-- The name of a session within a hub. -/
abbrev PinId := Nat

/-- The name of a mailbox within a hub. -/
abbrev OutboxId := Nat

/-- A session and the mailbox it writes to. -/
structure Pinned where
  session : PinSession
  outbox : OutboxId

/-- The pins of a host. -/
structure Hub where
  /-- The sessions that somebody holds. -/
  pins : List (PinId × Pinned) := []
  outboxes : List (OutboxId × Mailbox Tx) := []
  /-- The index: registrations under a cell, in the order they were made. -/
  index : List (TagId × PinId) := []
  /-- The first name that has not been given out. -/
  next : Nat := 0

namespace Hub

-- ============================================================= mailboxes

/-- Adds a mailbox. -/
def addOutbox (h : Hub) (capacity : Nat) : OutboxId × Hub :=
  (h.next, { h with
    outboxes := h.outboxes ++ [(h.next, .ofCapacity capacity)], next := h.next + 1 })

/-- The mailbox with a name; there is an empty one behind every unused name. -/
def outbox (h : Hub) (box : OutboxId) : Mailbox Tx :=
  (h.outboxes.lookup box).getD (.ofCapacity 1)

/-- Changes a mailbox. -/
def mapOutbox (h : Hub) (box : OutboxId) (f : Mailbox Tx → Mailbox Tx) : Hub :=
  { h with outboxes := h.outboxes.map fun (k, m) => if k = box then (k, f m) else (k, m) }

/-- Delivers to a mailbox. -/
def post (h : Hub) (box : OutboxId) (txs : List Tx) : Hub :=
  h.mapOutbox box (·.deliverAll txs)

/-- Takes everything out of a mailbox. -/
def collect (h : Hub) (box : OutboxId) : List Tx × Hub :=
  ((h.outbox box).queue, h.mapOutbox box fun m => m.drain.2)

-- ============================================================== sessions

/-- Adds a session. -/
def add (h : Hub) (session : PinSession) (box : OutboxId) : PinId × Hub :=
  (h.next, { h with pins := h.pins ++ [(h.next, ⟨session, box⟩)], next := h.next + 1 })

/-- A session that somebody holds. -/
def pin? (h : Hub) (id : PinId) : Option Pinned := h.pins.lookup id

/-- Lets go of a session. -/
def drop (h : Hub) (id : PinId) : Hub := { h with pins := h.pins.filter (·.1 ≠ id) }

/-- Replaces a session. -/
def setSession (h : Hub) (id : PinId) (session : PinSession) : Hub :=
  { h with pins := h.pins.map fun (k, p) =>
      if k = id then (k, { p with session := session }) else (k, p) }

/-- Takes one step of a session and delivers what it emits. -/
def advance (h : Hub) (id : PinId) (step : PinSession → PinSession.Step) : Hub :=
  match h.pin? id with
  | none => h
  | some p =>
    let (session, emitted) := step p.session
    (h.setSession id session).post p.outbox emitted

/-- Whether a session is over, or gone. -/
def isClosed (h : Hub) (id : PinId) : Bool := (h.pin? id).all (·.session.isClosed)

-- ================================================================= index

/-- Registers a session under its cell. -/
def register (h : Hub) (id : PinId) : Hub :=
  match h.pin? id with
  | some p => { h with index := h.index ++ [(p.session.cell, id)] }
  | none => h

/-- Takes every registration of a session back. -/
def unregister (h : Hub) (id : PinId) : Hub := { h with index := h.index.filter (·.2 ≠ id) }

/-- The registrations whose session is there, in order. -/
def live (h : Hub) : List (TagId × PinId) := h.index.filter fun (_, id) => (h.pin? id).isSome

/-- How many registrations are live. -/
def size (h : Hub) : Nat := h.live.length

/-- The sessions that a change is for, once a registration: cell by cell in
ascending order. -/
def snapshot (h : Hub) (tx : Tx) : List PinId :=
  tx.targets.flatMap fun cell => (h.live.filter (·.1 = cell)).map (·.2)

/-- Offers a change to a session. -/
def offer (tx : Tx) (h : Hub) (id : PinId) : Hub := h.advance id (·.publish tx)

/-- Publishes a change, and tells how many offers were made. -/
def publish (h : Hub) (tx : Tx) : Nat × Hub :=
  let ids := h.snapshot tx
  (ids.length, ids.foldl (offer tx) h)

/-- Closes a session, and tells whether it was open. -/
def close (h : Hub) (id : PinId) (code : ErrorCode) : Bool × Hub :=
  (!h.isClosed id, h.advance id (·.close code))

/-- Closes some sessions in order, and counts those that were open. -/
def closeEach (code : ErrorCode) : List PinId → Hub → Nat × Hub
  | [], h => (0, h)
  | id :: rest, h =>
    let (wasOpen, h) := h.close id code
    let (count, h) := closeEach code rest h
    (count + (if wasOpen then 1 else 0), h)

/-- Empties the index, and lists the sessions that were in it. -/
def takeIndex (h : Hub) : List PinId × Hub := (h.live.map (·.2), { h with index := [] })

/-- Empties the index and closes every session that was in it. -/
def closeAll (h : Hub) (code : ErrorCode) : Nat × Hub :=
  let (ids, h) := h.takeIndex
  closeEach code ids h

/-- The index in diagnostics. -/
def describe (h : Hub) : String := Text.record "PinRegistry" [("sessions", toString h.size)]

end Hub

end CellSync
