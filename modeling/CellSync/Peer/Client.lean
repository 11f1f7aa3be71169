/-
A client of a host, once it is logged in.

Messages for all its pins and the answers to its commits arrive on one
stream. While a commit waits for its answer, whatever else arrives is
kept and handed out later, in the order of arrival.
-/
import CellSync.Control
import CellSync.Host
import CellSync.Transport.Duplex

namespace CellSync

-- ========================================================= configuration

/-- How a client is set up. -/
structure ClientConfig where
  login : Login.Config := {}
  /-- The limits once it is logged in. -/
  tx : TxConfig := {}
  /-- How long connecting may take, in nanoseconds. -/
  connectTimeout : Option Nat := some (5 * 1000000000)

/-- A configuration in diagnostics. -/
def ClientConfig.describe (c : ClientConfig) : String :=
  Text.record "ClientConfig" [("login", c.login.describe), ("tx", c.tx.describe),
    ("connect_timeout", Text.optional (c.connectTimeout.map Text.span))]

-- ================================================================ client

/-- A client. -/
structure Client where
  carrier : Carrier
  checkpoint : Login.Checkpoint
  limits : TxConfig
  reader : Reader
  /-- The number of the next request. -/
  next : UInt64 := 1
  /-- Messages that arrived while a commit was waited for, oldest first. -/
  pending : List Tx := []

namespace Client

/-- How something ends that may read from the stream: its result, the client,
and the read calls not made. -/
structure Outcome (α : Type) where
  result : Except SessionError α
  client : Client
  rest : List Read

/-- What a failed read means. -/
def lost : TxError → SessionError
  | .connectionClosed => .disconnected "host closed the connection"
  | error => .tx error

-- ============================================================== requests

/-- Takes the next number. -/
def number (c : Client) : UInt64 × Client := (c.next, { c with next := c.next + 1 })

/-- A pin request with the next number. -/
def pinRequest (c : Client) (request : PinRequest) : UInt64 × Tx × Client :=
  let (id, c) := c.number
  (id, Control.wrap ⟨.pinRequest, none, id, .notStarted, .nil⟩ Control.pinAttr request.toJson, c)

/-- The message that closes a pin. -/
def pinClose (id : UInt64) : Tx := .ofStatus .pinClose id .closed .nil

/-- A commit with the next number and no identifier. -/
def commitRequest (c : Client) (tx : Tx) : Except SessionError (UInt64 × Tx × Client) :=
  if tx.info.kind ≠ .commit then
    .error (.rejected .badRequest ("cannot commit a " ++ tx.info.kind.name ++ " message"))
  else
    let (id, c) := c.number
    .ok (id, { tx with info := { tx.info with contextId := id, tid := none } }, c)

-- =============================================================== reading

/-- Reads the next message from the stream. -/
def read (c : Client) (calls : List Read) : Outcome Tx :=
  let out := c.reader.read calls
  ⟨out.result.mapError lost, { c with reader := out.reader }, out.rest⟩

/-- The next message. -/
def receive (c : Client) (calls : List Read) : Outcome Tx :=
  match c.pending with
  | tx :: pending => ⟨.ok tx, { c with pending := pending }, calls⟩
  | [] => c.read calls

/-- The next message, if one arrives in time. -/
def poll (c : Client) (calls : List Read) : Outcome (Option Tx) :=
  let out := c.receive calls
  match out.result with
  | .ok tx => ⟨.ok (some tx), out.client, out.rest⟩
  | .error (.tx (.io error)) =>
    ⟨if error.kind.isStall then .ok none else .error (.tx (.io error)), out.client, out.rest⟩
  | .error error => ⟨.error error, out.client, out.rest⟩

/-- Whether a message answers the commit with a number. -/
def answers (id : UInt64) (tx : Tx) : Bool := tx.info.kind = .commit && tx.info.contextId = id

/-- What an answer to a commit says. -/
def verdict (answer : Tx) : Except SessionError Tid :=
  match answer.info.status, answer.info.tid with
  | .synced, some tid => .ok tid
  | _, _ => .error (.rejected answer.info.code "commit refused")

/-- Waits for the answer to a commit, and keeps what else arrives. -/
def awaitAnswer (id : UInt64) (c : Client) (calls : List Read) : Outcome Tid :=
  match _h : (c.reader.read calls).result with
  | .error error =>
    let out := c.reader.read calls
    ⟨.error (lost error), { c with reader := out.reader }, out.rest⟩
  | .ok tx =>
    let out := c.reader.read calls
    let c := { c with reader := out.reader }
    if answers id tx then ⟨verdict tx, c, out.rest⟩
    else awaitAnswer id { c with pending := c.pending ++ [tx] } out.rest
termination_by c.reader.outlook calls
decreasing_by exact Reader.outlook_read _h

-- =============================================================== a commit

/-- A client, what it writes to, and what its stream is still to deliver. -/
structure Line where
  client : Client
  sink : Sink
  calls : List Read

/-- Makes a commit and waits for its answer. -/
def commit (l : Line) (tx : Tx) : Except SessionError Tid × Line :=
  match l.client.commitRequest tx with
  | .error error => (.error error, l)
  | .ok (id, sent, waiting) =>
    match Writer.write l.client.limits sent l.sink with
    | (.error error, sink) => (.error (.tx error), { l with client := waiting, sink := sink })
    | (.ok (), sink) =>
      let out := awaitAnswer id waiting l.calls
      (out.result, ⟨out.client, sink, out.rest⟩)

/-- A client in diagnostics. -/
def describe (c : Client) : String :=
  Text.record "Client" [("transport", Text.quoted c.carrier.name),
    ("checkpoint", c.checkpoint.describe), ("pending", toString c.pending.length)]

end Client

end CellSync
