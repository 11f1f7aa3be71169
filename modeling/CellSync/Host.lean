/-
The host: pins, commits and shutdown over a shared directory.

A host is generic over its directory, with contents `ρ`, and its store of
checkpoints, with contents `σ`. Its operations are put together from
steps that other operations may come between: opening a pin is a check,
a registration, a look at the recorded commits and the start of the
session; a commit is a check, the recording under a new identifier, and
one offer to each session that is registered then; shutting down is a
flag and the closing of every registered session.
-/
import CellSync.Directory
import CellSync.Login.Checkpoints
import CellSync.Login.Exchange
import CellSync.Login.Secret
import CellSync.Pin.Hub

namespace CellSync

-- ================================================================ access

/-- Who may read and write which cells. -/
structure Access where
  canRead : Login.Checkpoint → TagId → Bool
  canWrite : Login.Checkpoint → TagId → Bool

namespace Access

/-- Everybody may do everything. -/
def all : Access := ⟨fun _ _ => true, fun _ _ => true⟩

/-- Who may read a cell may write it. -/
def ofReaders (canRead : Login.Checkpoint → TagId → Bool) : Access := ⟨canRead, canRead⟩

end Access

-- ========================================================= configuration

/-- A configuration in diagnostics. -/
def TxConfig.describe (c : TxConfig) : String :=
  let span (t : Option Nat) := Text.optional (t.map Text.span)
  Text.record "TxConfig" [("max_ops", toString c.maxOps), ("max_data_size", toString c.maxData),
    ("read_timeout", span c.readTimeout), ("write_timeout", span c.writeTimeout)]

/-- A configuration in diagnostics. -/
def Login.Config.describe (c : Login.Config) : String :=
  Text.record "LoginConfig" [("timeout", Text.span c.timeout),
    ("max_attempts", toString c.maxAttempts), ("max_payload", toString c.maxPayload)]

/-- How a host is set up. -/
structure HostConfig where
  mailboxCapacity : Nat := 1024
  login : Login.Config := {}
  tx : TxConfig := {}

/-- A configuration in diagnostics. -/
def HostConfig.describe (c : HostConfig) : String :=
  Text.record "HostConfig" [("mailbox_capacity", toString c.mailboxCapacity),
    ("login", c.login.describe), ("tx", c.tx.describe)]

-- ================================================================== host

/-- A host. -/
structure Host (ρ σ : Type) where
  config : HostConfig := {}
  resolver : Resolver ρ
  directory : ρ
  access : Access := .all
  verifier : Login.Verifier
  store : Login.CheckpointStore σ
  checkpoints : σ
  hub : Hub := {}
  /-- The identifier of the last commit. -/
  last : Option Tid := none
  shuttingDown : Bool := false

namespace Host

variable {ρ σ : Type}

/-- The refusal of a host that is shutting down. -/
def isClosing : SessionError := .rejected .shuttingDown "host is shutting down"

-- ========================================================== opening pins

/-- The session that a request is entitled to, or why it is refused. -/
def screen (h : Host ρ σ) (who : Login.Checkpoint) (contextId : UInt64) (request : PinRequest) :
    Except SessionError PinSession := do
  let target := request.target
  if h.shuttingDown then throw isClosing
  if let .error code := target.validate then
    throw (.rejected code ("invalid target " ++ target.display))
  match h.resolver.resolve h.directory target with
  | .error code => throw (.rejected code ("cannot resolve " ++ target.display))
  | .ok cell =>
    if !h.access.canRead who cell then
      throw (.rejected .insufficientPermissions (who.userId ++ " may not read " ++ target.display))
    pure ⟨contextId, cell, request.attrIds, request.mode, .notStarted, .nil, none, []⟩

/-- Changes the pins of a host. -/
def mapHub (h : Host ρ σ) (f : Hub → Hub) : Host ρ σ := { h with hub := f h.hub }

/-- Adds and registers a session. -/
def enroll (h : Host ρ σ) (session : PinSession) (box : OutboxId) : PinId × Host ρ σ :=
  let (id, hub) := h.hub.add session box
  (id, { h with hub := hub.register id })

/-- The commits that a session has to be told of first. -/
def backlog (h : Host ρ σ) (id : PinId) : List Tx :=
  match h.hub.pin? id with
  | some p => h.resolver.load h.directory p.session.cell
  | none => []

/-- Starts a session with the commits loaded for it. -/
def begin (h : Host ρ σ) (id : PinId) (backlog : List Tx) : Host ρ σ :=
  h.mapHub (·.advance id (·.begin backlog))

/-- Takes a session that is over out of the index. -/
def tidy (h : Host ρ σ) (id : PinId) : Host ρ σ :=
  if h.hub.isClosed id then h.mapHub (·.unregister id) else h

/-- Opens a pin that writes to a mailbox. -/
def openPin (h : Host ρ σ) (box : OutboxId) (who : Login.Checkpoint) (contextId : UInt64)
    (request : PinRequest) : Except SessionError PinId × Host ρ σ :=
  match h.screen who contextId request with
  | .error error => (.error error, h)
  | .ok session =>
    let (id, h) := h.enroll session box
    let h := h.begin id (h.backlog id)
    (.ok id, h.tidy id)

/-- Closes a pin, and tells whether it was open. -/
def closePin (h : Host ρ σ) (id : PinId) (code : ErrorCode) : Bool × Host ρ σ :=
  let (wasOpen, hub) := (h.hub.unregister id).close id code
  (wasOpen, { h with hub := hub })

-- ============================================================== commits

/-- Whether a commit may be made, and if not why. -/
def checkCommit (h : Host ρ σ) (who : Login.Checkpoint) (tx : Tx) : Except SessionError Unit :=
  if h.shuttingDown then .error isClosing
  else if tx.info.kind ≠ .commit then
    .error (.rejected .badRequest ("cannot commit a " ++ tx.info.kind.name ++ " message"))
  else if tx.ops.all (· = .noOp) then .error (.rejected .badRequest "commit has no ops")
  else
    match (tx.ops.filterMap Op.target?).find? fun cell => !h.access.canWrite who cell with
    | some cell =>
      .error (.rejected .insufficientPermissions (who.userId ++ " may not write " ++ cell.encode))
    | none => .ok ()

/-- Records a commit under an identifier greater than the last. -/
def recordCommit (h : Host ρ σ) (clock : ClockTime) (tx : Tx) :
    Except SessionError (Tx × Tid × Host ρ σ) := do
  let content ← (tx.withTid none).serialize.mapError .tx
  let tid ← (Tid.successor h.last clock content).mapError fun fault => .tx (.invalidInput fault)
  let tx := tx.withTid (some tid)
  match h.resolver.record h.directory tx with
  | .error code => throw (.rejected code "commit not recorded")
  | .ok directory => pure (tx, tid, { h with directory := directory, last := some tid })

/-- Makes a commit and publishes it. -/
def commit (h : Host ρ σ) (clock : ClockTime) (who : Login.Checkpoint) (tx : Tx) :
    Except SessionError Tid × Host ρ σ :=
  match h.checkCommit who tx with
  | .error error => (.error error, h)
  | .ok () =>
    match h.recordCommit clock tx with
    | .error error => (.error error, h)
    | .ok (tx, tid, h) => (.ok tid, h.mapHub fun hub => (hub.publish tx).2)

-- ============================================================= shutdown

/-- Refuses new work from now on. -/
def beginShutdown (h : Host ρ σ) : Host ρ σ := { h with shuttingDown := true }

/-- Refuses new work from now on and closes every registered session, once. -/
def shutdown (h : Host ρ σ) : Host ρ σ :=
  if h.shuttingDown then h
  else h.beginShutdown.mapHub fun hub => (hub.closeAll .shuttingDown).2

/-- A host in diagnostics. -/
def describe (h : Host ρ σ) : String :=
  Text.record "Host" [("config", h.config.describe), ("registry", h.hub.describe),
    ("shutting_down", Text.truth h.shuttingDown)]

end Host

end CellSync
