/-
The small vocabularies of the wire: error codes, statuses and kinds.

Each has a number for frames and a lowercase name for text; the two
tables of a vocabulary list every member once.
-/
namespace CellSync

-- ========================================================== error codes

/-- Why a peer refused or ended something. The numbers group them: malformed
input below 10, not found from 10, authorization from 20, lifecycle from 30,
internal from 40. -/
inductive ErrorCode where
  | nil
  | malformedTid | malformedTx | badRequest | invalidUri | invalidTag
  | cellNotFound | requestNotFound | attrNotFound
  | authFailed | loginFailed | sessionExpired | insufficientPermissions
  | requestClosed | shuttingDown | notConnected
  | internalErr | unimplemented
deriving DecidableEq

namespace ErrorCode

/-- Every code. -/
def all : List ErrorCode :=
  [nil, malformedTid, malformedTx, badRequest, invalidUri, invalidTag,
   cellNotFound, requestNotFound, attrNotFound,
   authFailed, loginFailed, sessionExpired, insufficientPermissions,
   requestClosed, shuttingDown, notConnected, internalErr, unimplemented]

/-- The number on the wire. -/
def toNat : ErrorCode → Nat
  | nil => 0
  | malformedTid => 1 | malformedTx => 2 | badRequest => 3 | invalidUri => 4 | invalidTag => 5
  | cellNotFound => 10 | requestNotFound => 11 | attrNotFound => 12
  | authFailed => 20 | loginFailed => 21 | sessionExpired => 22 | insufficientPermissions => 23
  | requestClosed => 30 | shuttingDown => 31 | notConnected => 32
  | internalErr => 40 | unimplemented => 41

/-- The name in text. -/
def name : ErrorCode → String
  | nil => "nil"
  | malformedTid => "malformed_tid"
  | malformedTx => "malformed_tx"
  | badRequest => "bad_request"
  | invalidUri => "invalid_uri"
  | invalidTag => "invalid_tag"
  | cellNotFound => "cell_not_found"
  | requestNotFound => "request_not_found"
  | attrNotFound => "attr_not_found"
  | authFailed => "auth_failed"
  | loginFailed => "login_failed"
  | sessionExpired => "session_expired"
  | insufficientPermissions => "insufficient_permissions"
  | requestClosed => "request_closed"
  | shuttingDown => "shutting_down"
  | notConnected => "not_connected"
  | internalErr => "internal_err"
  | unimplemented => "unimplemented"

/-- The code with a number. -/
def ofNat? (n : Nat) : Option ErrorCode := all.find? fun c => c.toNat == n

/-- The code with a name. -/
def ofName? (s : String) : Option ErrorCode := all.find? fun c => c.name == s

end ErrorCode

-- ============================================================== statuses

/-- How far a request has come, as told to the client. -/
inductive Status where
  | notStarted | syncing | synced | closed
deriving DecidableEq

namespace Status

/-- Every status. -/
def all : List Status := [notStarted, syncing, synced, closed]

/-- The number on the wire. -/
def toNat : Status → Nat
  | notStarted => 0 | syncing => 1 | synced => 2 | closed => 3

/-- The name in text. -/
def name : Status → String
  | notStarted => "not_started" | syncing => "syncing" | synced => "synced" | closed => "closed"

/-- The status with a number. -/
def ofNat? (n : Nat) : Option Status := all.find? fun c => c.toNat == n

/-- The status with a name. -/
def ofName? (s : String) : Option Status := all.find? fun c => c.name == s

end Status

-- ================================================================= kinds

/-- What a transaction is for. -/
inductive Kind where
  /-- A step of the login handshake. -/
  | login
  /-- The client opens a pin. -/
  | pinRequest
  /-- The client gives up a pin. -/
  | pinClose
  /-- The host delivers state or the status of a pin. -/
  | state
  /-- The client submits mutations. -/
  | commit
deriving DecidableEq

namespace Kind

/-- Every kind. -/
def all : List Kind := [login, pinRequest, pinClose, state, commit]

/-- The number on the wire. -/
def toNat : Kind → Nat
  | login => 1 | pinRequest => 2 | pinClose => 3 | state => 4 | commit => 5

/-- The name in text. -/
def name : Kind → String
  | login => "login" | pinRequest => "pin_request" | pinClose => "pin_close"
  | state => "state" | commit => "commit"

/-- The kind with a number. -/
def ofNat? (n : Nat) : Option Kind := all.find? fun c => c.toNat == n

/-- The kind with a name. -/
def ofName? (s : String) : Option Kind := all.find? fun c => c.name == s

end Kind

end CellSync
