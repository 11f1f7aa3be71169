/-
Two connected ends of a byte stream within one process.

What one end writes the other can read, in order. Shutting down an end,
or letting go of it, ends the stream in both directions: what has been
written can still be read, and nothing more can be written. An end that
is let go of with bytes unread resets the stream; the other end is told
once, after it has read what was written to it.

A stream holds only so much that nobody reads. A writer for whom there is
no more room waits as long as it may and then fails.
-/
import CellSync.Transport.Backlog
import CellSync.Tx.Reader
import CellSync.Tx.Writer
import CellSync.Text.Quoted
import CellSync.Text.Record
import CellSync.Transport.Error

namespace CellSync

/-- What carries a stream. -/
inductive Carrier where
  | tcp | inProcess
deriving DecidableEq

namespace Carrier

/-- The name of a carrier. -/
def name : Carrier → String
  | tcp => "tcp"
  | inProcess => "local"

/-- A stream in diagnostics, when the peer has no address. -/
def describeStream (c : Carrier) : String :=
  Text.record "AmpStream" [("type", Text.quoted c.name), ("peer", Text.optional none)]

end Carrier

/-- The two ends of a stream. -/
inductive Side where
  | near | far
deriving DecidableEq

/-- The end across. -/
def Side.across : Side → Side
  | near => far
  | far => near

/-- What waits at an end. -/
structure Inbound where
  /-- Bytes that have been written to the end and not read. -/
  bytes : ByteArray := ByteArray.empty
  /-- The pieces in which the bytes wait. -/
  backlog : Backlog := []
  /-- The peer went away with bytes unread, and the end has not been told. -/
  reset : Bool := false

namespace Inbound

/-- What waits after some bytes are written. -/
def push (i : Inbound) (bytes : ByteArray) : Inbound :=
  { i with bytes := i.bytes ++ bytes, backlog := i.backlog.write bytes.size }

/-- What waits after at most so many bytes are read. -/
def take (i : Inbound) (size : Nat) : Inbound :=
  { i with bytes := i.bytes.extract size i.bytes.size, backlog := i.backlog.read size }

end Inbound

/-- Two connected ends. -/
structure Duplex where
  near : Inbound := {}
  far : Inbound := {}
  /-- Nothing more can be written. -/
  ended : Bool := false
  /-- The memory for what waits at an end; any amount where the ends are read
  while the others write. -/
  capacity : Option Nat := none

namespace Duplex

/-- Two connected ends that are not read while the others write. -/
def unattended : Duplex := { capacity := some Backlog.capacity }

/-- What waits at an end. -/
def inbound (d : Duplex) : Side → Inbound
  | .near => d.near
  | .far => d.far

/-- Changes what waits at an end. -/
def mapInbound (d : Duplex) (side : Side) (f : Inbound → Inbound) : Duplex :=
  match side with
  | .near => { d with near := f d.near }
  | .far => { d with far := f d.far }

-- =============================================================== writing

/-- The bytes that can be written at an end before its writer has to wait, where
there is a limit. -/
def room? (d : Duplex) (side : Side) : Option Nat :=
  d.capacity.map (d.inbound side.across).backlog.room

/-- Writes bytes at an end. Writing no bytes never fails, and of too many those
that there is room for are written. -/
def write (d : Duplex) (side : Side) (bytes : ByteArray) : Except IoError Unit × Duplex :=
  if bytes.size = 0 then (.ok (), d)
  else if d.ended then (.error .brokenPipe, d)
  else
    let room := (d.room? side).getD bytes.size
    (if bytes.size ≤ room then .ok () else .error .nothingYet,
      d.mapInbound side.across (·.push (bytes.extract 0 room)))

/-- An end as a writer sees it that waits no longer than so many nanoseconds for
room. -/
def sink (d : Duplex) (side : Side) (timeout : Option Nat) : Sink :=
  if d.ended then { writes := [.failed .brokenPipe 0] }
  else match d.room? side with
    | none => {}
    | some room =>
      let late := Write.failed .nothingYet (timeout.getD 0)
      { writes := if room = 0 then [late] else [.accept room, late] }

/-- Writes a transaction at an end. -/
def send (d : Duplex) (side : Side) (config : TxConfig) (tx : Tx) : Except TxError Unit × Duplex :=
  let (result, sink) := Writer.write config tx (d.sink side config.writeTimeout)
  (result, (d.write side sink.accepted).2)

-- =============================================================== reading

/-- What a read call gives at an end where no bytes wait. -/
def ending (d : Duplex) (side : Side) : Read :=
  if (d.inbound side).reset then .failed .reset
  else if d.ended then .bytes ByteArray.empty
  else .failed .nothingYet

/-- The read calls at an end. -/
def calls (d : Duplex) (side : Side) : List Read :=
  let bytes := (d.inbound side).bytes
  (if bytes.size = 0 then [] else Read.ofBytes bytes) ++ [d.ending side]

/-- The ends after the reads at one of them that leave some calls. -/
def afterReads (d : Duplex) (side : Side) (rest : List Read) : Duplex :=
  let made := (d.calls side).length - rest.length
  d.mapInbound side fun i =>
    { i.take (made * chunkSize) with reset := i.reset && !rest.isEmpty }

/-- Reads at most so many bytes at an end. -/
def read (d : Duplex) (side : Side) (most : Nat) : Except IoError ByteArray × Duplex :=
  let bytes := (d.inbound side).bytes
  if bytes.size = 0 then
    match d.ending side with
    | .bytes chunk => (.ok chunk, d)
    | .failed error => (.error error, d.mapInbound side fun i => { i with reset := false })
  else
    (.ok (bytes.extract 0 most), d.mapInbound side (·.take most))

/-- Reads a transaction at an end. -/
def receive (d : Duplex) (side : Side) (r : Reader) : Reader.Outcome × Duplex :=
  let out := r.read (d.calls side)
  (out, d.afterReads side out.rest)

-- ================================================================ ending

/-- Shuts an end down. -/
def shutdown (d : Duplex) : Duplex := { d with ended := true }

/-- Lets go of an end. -/
def drop (d : Duplex) (side : Side) : Duplex :=
  let unread := (d.inbound side).bytes.size ≠ 0
  (d.mapInbound side.across fun i => { i with reset := i.reset || unread }).shutdown

/-- Whether a timeout may be set. -/
def checkTimeout (timeout : Option Nat) : Except IoError Unit :=
  if timeout = some 0 then .error .zeroTimeout else .ok ()

end Duplex

end CellSync
