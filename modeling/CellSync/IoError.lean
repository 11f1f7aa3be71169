/-
Failures of the streams below the protocol.

An I/O error is a kind and a wording. The kind decides what callers do
about it (retry, report, give up); the wording is only shown.
-/
namespace CellSync

/-- What sort of I/O failure it is. -/
inductive IoKind where
  | interrupted | wouldBlock | timedOut
  | permissionDenied | connectionRefused | connectionReset | brokenPipe
  | unexpectedEof | invalidInput | notFound | addrInUse | unsupported | other
deriving DecidableEq

namespace IoKind

/-- Every kind. -/
def all : List IoKind :=
  [interrupted, wouldBlock, timedOut, permissionDenied, connectionRefused, connectionReset,
   brokenPipe, unexpectedEof, invalidInput, notFound, addrInUse, unsupported, other]

/-- The lowercase name of a kind. -/
def name : IoKind → String
  | interrupted => "interrupted"
  | wouldBlock => "would_block"
  | timedOut => "timed_out"
  | permissionDenied => "permission_denied"
  | connectionRefused => "connection_refused"
  | connectionReset => "connection_reset"
  | brokenPipe => "broken_pipe"
  | unexpectedEof => "unexpected_eof"
  | invalidInput => "invalid_input"
  | notFound => "not_found"
  | addrInUse => "addr_in_use"
  | unsupported => "unsupported"
  | other => "other"

/-- The kind with a lowercase name. -/
def ofName? (s : String) : Option IoKind := all.find? fun k => k.name == s

/-- The wording of a kind that nothing more is known about. -/
def description : IoKind → String
  | interrupted => "operation interrupted"
  | wouldBlock => "operation would block"
  | timedOut => "timed out"
  | permissionDenied => "permission denied"
  | connectionRefused => "connection refused"
  | connectionReset => "connection reset"
  | brokenPipe => "broken pipe"
  | unexpectedEof => "unexpected end of file"
  | invalidInput => "invalid input parameter"
  | notFound => "entity not found"
  | addrInUse => "address in use"
  | unsupported => "unsupported"
  | other => "other error"

/-- Whether a stalled peer gives this kind. -/
def isStall (k : IoKind) : Bool := k == wouldBlock || k == timedOut

end IoKind

/-- An I/O failure. -/
structure IoError where
  kind : IoKind
  message : String
deriving DecidableEq

namespace IoError

/-- The failure of a kind, in the kind's own words. -/
def ofKind (kind : IoKind) : IoError := ⟨kind, kind.description⟩

/-- Nobody listens where a connection was to be made. -/
def refused : IoError := ⟨.connectionRefused, "Connection refused (os error 111)"⟩

/-- Nobody will read what is written. -/
def brokenPipe : IoError := ⟨.brokenPipe, "Broken pipe (os error 32)"⟩

/-- The peer went away without reading everything. -/
def reset : IoError := ⟨.connectionReset, "Connection reset by peer (os error 104)"⟩

/-- Nothing arrived in time, or nothing could be sent on. -/
def nothingYet : IoError := ⟨.wouldBlock, "Resource temporarily unavailable (os error 11)"⟩

/-- A timeout has to be longer than nothing. -/
def zeroTimeout : IoError := ⟨.invalidInput, "cannot set a 0 duration timeout"⟩

/-- Whether a failure is one that the system reports of a stream. -/
def isSystem (error : IoError) : Bool := [refused, brokenPipe, reset, nothingYet].contains error

end IoError

end CellSync
