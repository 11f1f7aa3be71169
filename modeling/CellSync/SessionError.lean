/-
What can go wrong between two peers.

A peer is told a code; the wording is for the one who asked.
-/
import CellSync.Text.Span
import CellSync.Transport.Error
import CellSync.Tx.Error

namespace CellSync

/-- A failure of a host or a client. -/
inductive SessionError where
  | transport (error : TransportError)
  | tx (error : TxError)
  /-- A payload is not the JSON that was expected. -/
  | json (reason : String)
  /-- A step took longer than it may; the limit in nanoseconds. -/
  | timeout (nanos : Nat)
  | disconnected (reason : String)
  /-- The peer sent something that does not fit the step. -/
  | protocol (reason : String)
  /-- The operation was refused with a code. -/
  | rejected (code : ErrorCode) (reason : String)
deriving DecidableEq

namespace SessionError

/-- The wording of a failure. -/
def message : SessionError → String
  | transport error => "transport error: " ++ error.message
  | tx error => "tx error: " ++ error.message
  | json reason => "json error: " ++ reason
  | timeout nanos => "timed out after " ++ Text.span nanos
  | disconnected reason => "peer disconnected: " ++ reason
  | protocol reason => "protocol violation: " ++ reason
  | rejected code reason => code.name ++ ": " ++ reason

/-- The word for the sort of failure. -/
def label : SessionError → String
  | transport _ => "Transport"
  | tx error => error.label
  | json _ => "Json"
  | timeout _ => "Timeout"
  | disconnected _ => "Disconnected"
  | protocol _ => "Protocol"
  | rejected .. => "Rejected"

/-- The code a peer is told. -/
def code : SessionError → ErrorCode
  | transport _ => .notConnected
  | tx error => error.code
  | json _ => .badRequest
  | timeout _ => .notConnected
  | disconnected _ => .notConnected
  | protocol _ => .badRequest
  | rejected code _ => code

end SessionError

end CellSync
