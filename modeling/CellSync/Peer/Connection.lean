/-
The host's side of a connection, once the client is known.

Messages are dispatched one at a time. A connection keeps the pins it
has opened by the number the client gave them; pins that were closed
from outside are let go of before the next message. Every message that
is not a pin request is answered, and so is every request that is
refused.
-/
import CellSync.Control
import CellSync.Host

namespace CellSync

/-- A client's connection to a host. -/
structure Connection where
  who : Login.Checkpoint
  /-- Where messages for the client go. -/
  outbox : OutboxId
  /-- The pins that are held, by their numbers. -/
  pins : List (UInt64 × PinId) := []

namespace Connection

variable {ρ σ : Type}

/-- A connection and its host after something has happened. -/
abbrev After (ρ σ : Type) := Connection × Host ρ σ

/-- Tells the client a status. -/
def reply (c : Connection) (h : Host ρ σ) (kind : Kind) (contextId : UInt64) (status : Status)
    (code : ErrorCode) : Host ρ σ :=
  h.mapHub (·.post c.outbox [.ofStatus kind contextId status code])

/-- Lets go of the pins that are over. -/
def prune (c : Connection) (h : Host ρ σ) : After ρ σ :=
  let ended := c.pins.filter fun (_, id) => h.hub.isClosed id
  ({ c with pins := c.pins.filter fun (_, id) => !h.hub.isClosed id },
    ended.foldl (fun h (_, id) => h.mapHub (·.drop id)) h)

-- ============================================================== messages

/-- Opens a pin. A pin that is over at once is not kept. -/
def openPin (c : Connection) (h : Host ρ σ) (tx : Tx) : After ρ σ :=
  let number := tx.info.contextId
  if number = 0 ∨ (c.pins.lookup number).isSome then
    (c, c.reply h .state number .closed .badRequest)
  else
    match Control.read PinRequest.ofJson? tx Control.pinAttr with
    | .error error => (c, c.reply h .state number .closed error.code)
    | .ok request =>
      match h.openPin c.outbox c.who number request with
      | (.error error, h) => (c, c.reply h .state number .closed error.code)
      | (.ok id, h) =>
        if h.hub.isClosed id then (c, h.mapHub (·.drop id))
        else ({ c with pins := c.pins ++ [(number, id)] }, h)

/-- Closes a pin. -/
def closePin (c : Connection) (h : Host ρ σ) (tx : Tx) : After ρ σ :=
  let number := tx.info.contextId
  match c.pins.lookup number with
  | some id =>
    ({ c with pins := c.pins.filter fun (n, _) => n ≠ number },
      (h.closePin id .nil).2.mapHub (·.drop id))
  | none => (c, c.reply h .state number .closed .requestNotFound)

/-- The acknowledgement of a commit. -/
def acknowledgement (contextId : UInt64) (tid : Tid) : Tx :=
  (Tx.ofStatus .commit contextId .synced .nil).withTid (some tid)

/-- Makes a commit. -/
def commit (c : Connection) (clock : ClockTime) (h : Host ρ σ) (tx : Tx) : After ρ σ :=
  match h.commit clock c.who tx with
  | (.ok tid, h) =>
    (c, h.mapHub (·.post c.outbox [acknowledgement tx.info.contextId tid]))
  | (.error error, h) => (c, c.reply h .commit tx.info.contextId .closed error.code)

/-- Handles a message from the client. -/
def dispatch (c : Connection) (clock : ClockTime) (h : Host ρ σ) (tx : Tx) : After ρ σ :=
  let (c, h) := c.prune h
  match tx.info.kind with
  | .pinRequest => c.openPin h tx
  | .pinClose => c.closePin h tx
  | .commit => c.commit clock h tx
  | .login => (c, c.reply h .login tx.info.contextId .closed .badRequest)
  | .state => (c, c.reply h .state tx.info.contextId .closed .badRequest)

/-- Closes every pin that is still held. -/
def teardown (c : Connection) (h : Host ρ σ) : After ρ σ :=
  ({ c with pins := [] },
    c.pins.foldl (fun h (_, id) => (h.closePin id .notConnected).2.mapHub (·.drop id)) h)

/-- A connection in diagnostics, by the name of its peer. -/
def describe (peer : String) : String := Text.record "Connection" [("peer", Text.quoted peer)]

end Connection

end CellSync
