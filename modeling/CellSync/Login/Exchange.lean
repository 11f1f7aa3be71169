/-
One side of a login, driven by its read calls.

What a side does with a message is a pure function, its `React`. An
`Exchange` joins it to a reader and a sink: messages that are already
buffered are handled before the stream is read again, a reply is written
before the outcome counts, and a wait that has lasted too long ends the
login. `feed` takes the exchange through one read call; it never reads
past the end of the login, so what follows on the stream stays in the
reader's buffer.
-/
import CellSync.Login.Message
import CellSync.Tx.Reader
import CellSync.Tx.Writer

namespace CellSync.Login

/-- The limits of a login. -/
structure Config where
  /-- How long a side waits for one message, in nanoseconds. -/
  timeout : Nat := 5 * 1000000000
  /-- How many wrong answers end a login. -/
  maxAttempts : Nat := 3
  /-- The largest data segment before the client is known. -/
  maxPayload : Nat := 16 * 1024
deriving DecidableEq

/-- The limits on a stream before the client is known. -/
def Config.limits (login : Config) (tx : TxConfig) : TxConfig :=
  { tx with
    maxData := login.maxPayload, readTimeout := some login.timeout,
    writeTimeout := some login.timeout }

/-- What a side does with a message. -/
structure Reaction (σ : Type) where
  reply : Option Message
  state : σ
  /-- How the login ends, if it ends here and the reply could be written. -/
  result : Option (Except SessionError Checkpoint)

/-- The behaviour of a side: what it does with each message. -/
abbrev React (σ : Type) := σ → Message → Reaction σ

/-- A side of a login: its limits for writing, how long it waits for a message
in nanoseconds, and its behaviour. -/
structure Side (σ : Type) where
  limits : TxConfig
  timeout : Nat
  react : React σ

/-- A side in the middle of a login. -/
structure Exchange (σ : Type) where
  state : σ
  reader : Reader
  sink : Sink
  /-- How the login has ended. -/
  result : Option (Except SessionError Checkpoint) := none

namespace Exchange

variable {σ : Type}

/-- Ends the login. -/
def finish (x : Exchange σ) (result : Except SessionError Checkpoint) : Exchange σ :=
  { x with result := some result }

/-- Writes a message; a failure ends the login. -/
def send (x : Exchange σ) (config : TxConfig) (m : Message) : Exchange σ :=
  match Writer.write config m.toTx x.sink with
  | (.ok (), sink) => { x with sink := sink }
  | (.error error, sink) => { x with sink := sink, result := some (.error (.tx error)) }

/-- Takes out what has been written. -/
def takeSent (x : Exchange σ) : ByteArray × Exchange σ :=
  (x.sink.accepted, { x with sink := { x.sink with accepted := ByteArray.empty } })

/-- Handles a message: the reply first, then the outcome. -/
def handle (side : Side σ) (x : Exchange σ) (m : Message) : Exchange σ :=
  let r := side.react x.state m
  let x := { x with state := r.state }
  let x := match r.reply with
    | some reply => x.send side.limits reply
    | none => x
  match x.result with
  | some _ => x
  | none => { x with result := r.result }

/-- Handles a transaction that has arrived. -/
def receive (side : Side σ) (x : Exchange σ) (tx : Tx) : Exchange σ :=
  match Message.ofTx tx with
  | .ok m => x.handle side m
  | .error error => x.finish (.error error)

/-- Waits for messages until the buffer holds no whole one. The first argument
bounds how many messages there can be. -/
def settle (side : Side σ) : Nat → Exchange σ → Exchange σ
  | 0, x => x
  | most + 1, x =>
    if x.result.isSome then x
    else if side.timeout = 0 then x.finish (.error (.timeout side.timeout))
    else
      match x.reader.poll with
      | (.ok none, reader) => { x with reader := reader }
      | (.ok (some tx), reader) =>
        settle side most ({ x with reader := reader }.receive side tx)
      | (.error error, reader) => { x with reader := reader }.finish (.error (.tx error))

/-- Waits for messages until the buffer holds no whole one. A message takes at
least one byte of the buffer. -/
def await (side : Side σ) (x : Exchange σ) : Exchange σ :=
  settle side (x.reader.buffer.size + 1) x

/-- What a failed read means for a wait that began so many nanoseconds before. -/
def afterFailure (timeout waited : Nat) : TxError → Option SessionError
  | .io error =>
    if error.kind.isStall then
      if timeout ≤ waited then some (.timeout timeout) else none
    else some (.tx (.io error))
  | .connectionClosed => some (.disconnected "connection closed during login")
  | error => some (.tx error)

/-- Takes the exchange through one read call, which returns so many nanoseconds
after the wait began. -/
def feed (side : Side σ) (x : Exchange σ) (call : Read) (waited : Nat) : Exchange σ :=
  if x.result.isSome then x
  else
    match x.reader.absorb call with
    | .ok reader => { x with reader := reader }.await side
    | .error error =>
      match afterFailure side.timeout waited error with
      | some error => x.finish (.error error)
      | none => x

end Exchange

end CellSync.Login
