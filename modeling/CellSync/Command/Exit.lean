/-
How a command ends: a status for scripts and one line for the user.

The status tells the causes apart that a script may want to act on: a
refused login, a missing permission, bad data, wrong usage, a timeout.
A failed system call decides by its kind, whatever layer it came through.
-/
import CellSync.SessionError

namespace CellSync.Command

/-- The statuses a command ends with. -/
inductive Exit where
  | success | failure | transport | auth | permission | data | usage | timeout | internal
deriving DecidableEq

/-- The number of a status. -/
def Exit.toNat : Exit → Nat
  | .success => 0
  | .failure => 1
  | .transport => 3
  | .auth => 40
  | .permission => 50
  | .data => 60
  | .usage => 64
  | .timeout => 124
  | .internal => 125

/-- A failed command. -/
structure Failure where
  exit : Exit
  message : String
deriving DecidableEq

-- ============================================================== statuses

/-- The status of a code that a peer told. -/
def Exit.ofCode : ErrorCode → Exit
  | .authFailed | .loginFailed | .sessionExpired => .auth
  | .insufficientPermissions => .permission
  | .malformedTid | .malformedTx | .badRequest | .invalidUri | .invalidTag => .data
  | .internalErr | .unimplemented => .internal
  | .nil | .cellNotFound | .requestNotFound | .attrNotFound => .failure
  | .requestClosed | .shuttingDown | .notConnected => .failure

/-- The status of a failed system call. -/
def Exit.ofIo : IoKind → Exit
  | .permissionDenied => .permission
  | .timedOut | .wouldBlock => .timeout
  | .connectionRefused => .failure
  | _ => .internal

-- ============================================================== failures

namespace Failure

/-- A failure in the course of something. -/
def during (context : String) (exit : Exit) (reason : String) : Failure :=
  ⟨exit, context ++ ": " ++ reason⟩

/-- A command line that asks for something impossible. -/
def usage (message : String) : Failure := ⟨.usage, message⟩

/-- A failed system call. -/
def ofIo (context : String) (error : IoError) : Failure :=
  during context (.ofIo error.kind) error.message

/-- A failure of the transport. A failed system call behind it is reported
in its own words. -/
def ofTransport (context : String) (error : TransportError) : Failure :=
  match error.cause? with
  | some cause => ofIo context cause
  | none => during context .transport error.message

/-- A failure of framing, reading or writing. -/
def ofTx (context : String) (error : TxError) : Failure :=
  match error with
  | .io cause => ofIo context cause
  | .connectionClosed => during context .failure error.message
  | .invalidInput _ => during context .usage error.message
  | .malformedTid _ | .malformedTag _ | .malformedTx _ | .tooManyOps .. | .dataTooLarge .. =>
    during context .data error.message

/-- A failure of a session. -/
def ofSession (context : String) (error : SessionError) : Failure :=
  match error with
  | .transport inner => ofTransport context inner
  | .tx inner => ofTx context inner
  | .timeout _ => during context .timeout error.message
  | .json _ | .protocol _ => during context .data error.message
  | .disconnected _ => during context .failure error.message
  | .rejected code _ => during context (.ofCode code) error.message

end Failure

end CellSync.Command
