/-
What can go wrong when transactions are built, framed and moved.

Every error is a cause with the numbers that belong to it; its wording
is in `TxError.message`, and the code a peer is told in `TxError.code`.
-/
import CellSync.IoError
import CellSync.Tx.Basic

namespace CellSync

namespace Frame

/-- Why bytes are not one well-formed transaction. -/
inductive Fault where
  | shortHeader (got : Nat)
  | badMarker
  | unknownVersion (version : UInt8)
  | reservedSet
  | bodySize (declared max : Nat)
  | shortMessage (declared held : Nat)
  | trailing (extra : Nat)
  | unknownKind (number : Nat)
  | unknownStatus (number : Nat)
  | unknownCode (number : Nat)
  | op (fault : Op.Fault)
  | leftover (bytes ops : Nat)
  /-- The op at this index refers outside the data segment. -/
  | strayReference (index : Nat) (ref : DataRef) (dataSize : Nat)
  | bodyOverflow (size : Nat)
  | described (reason : String)
deriving DecidableEq

/-- Header and control fields: the smallest body. -/
def minBody : Nat := 64

/-- The wording of a fault. -/
def Fault.message : Fault → String
  | .shortHeader got => s!"header needs 16 bytes, got {got}"
  | .badMarker => "bad marker"
  | .unknownVersion version => "unsupported version " ++ Hex.byte version
  | .reservedSet => "reserved header bytes set"
  | .bodySize declared max => s!"declared body size {declared} outside {minBody}..={max}"
  | .shortMessage declared held => s!"declared {declared} bytes, buffer holds {held}"
  | .trailing extra => s!"{extra} trailing bytes after message"
  | .unknownKind number => s!"unknown tx kind {number}"
  | .unknownStatus number => s!"unknown op status {number}"
  | .unknownCode number => s!"unknown error code {number}"
  | .op fault => fault.message
  | .leftover bytes ops => s!"{bytes} bytes left in op section after {ops} ops"
  | .strayReference index ref dataSize =>
      s!"op {index} references {ref.offset}..+{ref.len} outside {dataSize}-byte data segment"
  | .bodyOverflow size => s!"body of {size} bytes overflows u32"
  | .described reason => reason

end Frame

/-- An error of building, framing, reading or writing transactions. -/
inductive TxError where
  | malformedTid (fault : Tid.Fault)
  | malformedTag (reason : String)
  | invalidInput (fault : Tid.MakeFault)
  | malformedTx (fault : Frame.Fault)
  | tooManyOps (count max : Nat)
  | dataTooLarge (size max : Nat)
  | io (error : IoError)
  /-- The stream ended before a whole transaction was there. -/
  | connectionClosed
deriving DecidableEq

namespace TxError

/-- The error of a tag text. -/
def ofTagText (fault : Base32.Fault) : TxError := .malformedTag fault.message

/-- The wording of an error. -/
def message : TxError → String
  | malformedTid fault => "malformed tid: " ++ fault.message
  | malformedTag reason => "malformed tag: " ++ reason
  | invalidInput fault => "invalid input: " ++ fault.message
  | malformedTx fault => "malformed tx: " ++ fault.message
  | tooManyOps count max => s!"too many ops ({count}, max {max})"
  | dataTooLarge size max => s!"data segment too large ({size} bytes, max {max})"
  | io error => "tx I/O error: " ++ error.message
  | connectionClosed => "connection closed (incomplete tx)"

/-- The word for the sort of error. -/
def label : TxError → String
  | malformedTid _ => "MalformedTid"
  | malformedTag _ => "MalformedTag"
  | invalidInput _ => "InvalidInput"
  | malformedTx _ => "MalformedTx"
  | tooManyOps .. => "TooManyOps"
  | dataTooLarge .. => "DataTooLarge"
  | io _ => "Io"
  | connectionClosed => "ConnectionClosed"

/-- The code a peer is told. -/
def code : TxError → ErrorCode
  | malformedTid _ => .malformedTid
  | malformedTag _ => .invalidTag
  | invalidInput _ => .badRequest
  | malformedTx _ => .malformedTx
  | tooManyOps .. => .badRequest
  | dataTooLarge .. => .badRequest
  | io _ => .notConnected
  | connectionClosed => .notConnected

end TxError

end CellSync
