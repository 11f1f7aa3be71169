/-
Writing transactions to a stream.

A sink is seen through its write and flush calls. A write call accepts
some of the offered bytes or fails; a flush call succeeds or fails. A
writer offers what is left of a frame until all of it is accepted and
then flushes: an interrupted call is made again, a stalled one is made
again until the deadline has passed, and any other failure ends the
write. A refused transaction reaches the sink with no call at all.

Past the end of its scripts a sink accepts everything, and every flush
succeeds.
-/
import CellSync.Tx.Frame

namespace CellSync

-- ======================================================= write and flush

/-- What one write call does. -/
inductive Write where
  /-- At most so many of the offered bytes are accepted. -/
  | accept (most : Nat)
  /-- The call fails, so many nanoseconds after the write began. -/
  | failed (error : IoError) (waited : Nat)

/-- What one flush call does. -/
inductive Flush where
  | done
  /-- The call fails, so many nanoseconds after the write began. -/
  | failed (error : IoError) (waited : Nat)

/-- A stream as its writer sees it: the calls to come, and what has been. -/
structure Sink where
  writes : List Write := []
  flushes : List Flush := []
  accepted : ByteArray := ByteArray.empty
  writeCalls : Nat := 0
  flushCalls : Nat := 0

namespace Writer

/-- What a failed call means: try again, or give up with an error. -/
def afterFailure (timeout : Option Nat) (error : IoError) (waited : Nat) : Except TxError Unit :=
  if error.kind = .interrupted then .ok ()
  else if error.kind.isStall then
    if timeout.any (· ≤ waited) then .error (.io ⟨.timedOut, "peer stopped reading"⟩)
    else .ok ()
  else .error (.io error)

/-- How pushing bytes into a sink ends. -/
structure Pushed where
  result : Except TxError Unit
  accepted : ByteArray
  rest : List Write
  calls : Nat

/-- Offers bytes to a sink until all are accepted or a call ends the write. -/
def push (timeout : Option Nat) (bytes accepted : ByteArray) (calls : Nat) :
    List Write → Pushed
  | [] =>
    if bytes.size = 0 then ⟨.ok (), accepted, [], calls⟩
    else ⟨.ok (), accepted ++ bytes, [], calls + 1⟩
  | call :: rest =>
    if bytes.size = 0 then ⟨.ok (), accepted, call :: rest, calls⟩
    else
      match call with
      | .accept most =>
        let taken := min most bytes.size
        if taken = 0 then ⟨.error .connectionClosed, accepted, rest, calls + 1⟩
        else
          push timeout (bytes.extract taken bytes.size) (accepted ++ bytes.extract 0 taken)
            (calls + 1) rest
      | .failed error waited =>
        match afterFailure timeout error waited with
        | .ok () => push timeout bytes accepted (calls + 1) rest
        | .error e => ⟨.error e, accepted, rest, calls + 1⟩

/-- Flushes a sink: the result, the flush calls to come, and the calls made. -/
def flushCalls (timeout : Option Nat) (calls : Nat) :
    List Flush → Except TxError Unit × List Flush × Nat
  | [] => (.ok (), [], calls + 1)
  | .done :: rest => (.ok (), rest, calls + 1)
  | .failed error waited :: rest =>
    match afterFailure timeout error waited with
    | .ok () => flushCalls timeout (calls + 1) rest
    | .error e => (.error e, rest, calls + 1)

/-- Flushes a sink. -/
def flush (config : TxConfig) (sink : Sink) : Except TxError Unit × Sink :=
  let (result, rest, calls) := flushCalls config.writeTimeout sink.flushCalls sink.flushes
  (result, { sink with flushes := rest, flushCalls := calls })

/-- Writes one transaction and flushes. -/
def write (config : TxConfig) (tx : Tx) (sink : Sink) : Except TxError Unit × Sink :=
  match Frame.encode tx config with
  | .error error => (.error error, sink)
  | .ok frame =>
    let pushed := push config.writeTimeout frame sink.accepted sink.writeCalls sink.writes
    let sink := { sink with
      writes := pushed.rest, accepted := pushed.accepted, writeCalls := pushed.calls }
    match pushed.result with
    | .error error => (.error error, sink)
    | .ok () => flush config sink

end Writer

end CellSync
