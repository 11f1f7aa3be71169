/-
The life of one pin.

    notStarted ──begin──▶ syncing ──backlog sent──▶ synced
                             ▲                         │
                             └──── change (maintain) ──┘
    any ──close──▶ closed

A session is a pure machine: every step returns the transactions it
emits, in order. Changes that are published before the session begins
are kept and come after the backlog. A change that is not newer than the
newest one emitted is passed over, so a change that is in the backlog
and is published too comes once.
-/
import CellSync.Pin.Request
import CellSync.Text.Record
import CellSync.Tx.Basic

namespace CellSync

/-- A pin of a connection. -/
structure PinSession where
  contextId : UInt64
  cell : TagId
  /-- The wanted attributes; none at all means every attribute. -/
  attrs : List TagId
  mode : SyncMode
  status : Status := .notStarted
  /-- The code it was closed with. -/
  code : ErrorCode := .nil
  /-- The newest identifier among the changes emitted. -/
  newest : Option Tid := none
  /-- Changes published before the session began. -/
  early : List Tx := []

namespace PinSession

/-- What a step leaves and what it emits. -/
abbrev Step := PinSession × List Tx

/-- Whether the session is over. -/
def isClosed (s : PinSession) : Bool := s.status = .closed

-- =============================================================== filters

/-- Whether the session should see an op. -/
def wants (s : PinSession) (op : Op) : Bool :=
  op.target?.all (· = s.cell) && (s.attrs.isEmpty || op.attr?.all (s.attrs.contains ·))

/-- The ops of a change that the session should see. -/
def filterOps (s : PinSession) (tx : Tx) : List Op := tx.ops.filter s.wants

/-- Whether a change is no newer than what the session has emitted. -/
def isStale (s : PinSession) (tx : Tx) : Bool :=
  match tx.info.tid, s.newest with
  | some tid, some newest => tid ≤ newest
  | _, _ => false

-- ============================================================== messages

/-- A change as the session tells it. -/
def stateOf (s : PinSession) (tx : Tx) (ops : List Op) : Tx :=
  { tx with info := ⟨.state, tx.info.tid, s.contextId, .syncing, .nil⟩, ops := ops }

/-- A status as the session tells it. -/
def statusOf (s : PinSession) (status : Status) (code : ErrorCode) : Tx :=
  .ofStatus .state s.contextId status code

-- ================================================================= steps

/-- Emits a change if it is new and has ops for the session. -/
def emit (s : PinSession) (tx : Tx) : Step :=
  let ops := s.filterOps tx
  if s.isStale tx || ops.isEmpty then (s, [])
  else ({ s with newest := tx.info.tid <|> s.newest }, [s.stateOf tx ops])

/-- Emits changes in order. -/
def emitAll (s : PinSession) : List Tx → Step
  | [] => (s, [])
  | tx :: rest =>
    let (s, first) := s.emit tx
    let (s, more) := emitAll s rest
    (s, first ++ more)

/-- Ends the session with a code. -/
def finish (s : PinSession) (code : ErrorCode) : Step :=
  ({ s with status := .closed, code := code, early := [] }, [s.statusOf .closed code])

/-- Tells that the client is up to date; some sessions end there. -/
def settle (s : PinSession) : Step :=
  let s := { s with status := .synced }
  let told := s.statusOf .synced .nil
  if s.mode = .closeOnSync then
    let (s, last) := s.finish .nil
    (s, told :: last)
  else (s, [told])

/-- Starts the session with the changes recorded so far. -/
def begin (s : PinSession) (backlog : List Tx) : Step :=
  if s.status ≠ .notStarted then (s, [])
  else if s.mode = .none then s.finish .nil
  else
    let (t, states) := { s with status := .syncing, early := [] }.emitAll (backlog ++ s.early)
    let (t, rest) := t.settle
    (t, states ++ rest)

/-- Offers a change to the session. -/
def publish (s : PinSession) (tx : Tx) : Step :=
  match s.status with
  | .closed => (s, [])
  | .notStarted => ({ s with early := s.early ++ [tx] }, [])
  | .syncing | .synced =>
    if s.mode ≠ .maintain then (s, [])
    else
      let (t, states) := { s with status := .syncing }.emit tx
      if states.isEmpty then ({ t with status := .synced }, [])
      else
        let (t, rest) := t.settle
        (t, states ++ rest)

/-- Ends the session from outside; a session ends once. -/
def close (s : PinSession) (code : ErrorCode) : Step :=
  if s.isClosed then (s, []) else s.finish code

/-- A session in diagnostics. -/
def describe (s : PinSession) : String :=
  Text.record "PinSession" [("context_id", toString s.contextId.toNat),
    ("cell", "TagId(" ++ s.cell.encode ++ ")"), ("mode", Text.capitalized s.mode.name),
    ("status", Text.capitalized s.status.name)]

end PinSession

end CellSync
