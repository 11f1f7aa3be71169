/-
What can go wrong below a connection: binding, connecting, and moving
bytes on an established stream.
-/
import CellSync.IoError

namespace CellSync

/-- A failure of the transport. -/
inductive TransportError where
  | bind (address : String) (cause : IoError)
  /-- No address that was tried took the connection. -/
  | connect (address : String) (cause : IoError)
  | accept (cause : IoError)
  | io (cause : IoError)
  /-- There was no address to try. -/
  | unresolved (address : String)
deriving DecidableEq

namespace TransportError

/-- The wording of a failure. -/
def message : TransportError → String
  | bind address cause => "failed to bind to " ++ address ++ ": " ++ cause.message
  | connect address cause => "failed to connect to " ++ address ++ ": " ++ cause.message
  | accept cause => "failed to accept connection: " ++ cause.message
  | io cause => "stream I/O error: " ++ cause.message
  | unresolved address => "address " ++ address ++ " did not resolve"

/-- The word for the sort of failure. -/
def label : TransportError → String
  | bind .. => "Bind"
  | connect .. => "Connect"
  | accept _ => "Accept"
  | io _ => "Io"
  | unresolved _ => "Unresolved"

/-- The failed system call behind it, if there is one. -/
def cause? : TransportError → Option IoError
  | bind _ cause => some cause
  | connect _ cause => some cause
  | accept cause => some cause
  | io cause => some cause
  | unresolved _ => none

end TransportError

end CellSync
