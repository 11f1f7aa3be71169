/-
Running a command as far as it goes without a network.

A run is a function of the command line and its surroundings. It gives
what is written and logged, and what it comes to: an end, or a plan for
which a place has to be listened on or connected to.
-/
import CellSync.Command.Line
import CellSync.Command.Values
import CellSync.Peer.Client

namespace CellSync.Command

/-- What the program has been built for. -/
structure Build where
  /-- The kind of processor. -/
  arch : String
  /-- The operating system. -/
  os : String
  /-- Whether transactions can be cut out of a buffer too. -/
  async : Bool

/-- What a run depends on beside its command line. -/
structure Surroundings where
  clock : ClockTime
  entropy : Entropy
  build : Build
  environment : Grammar.Environment := fun _ => none
  /-- Whether output goes to a terminal. -/
  terminal : Bool := false

/-- What is to be done with a host that has been connected to. -/
inductive Order where
  | pin (request : PinRequest) (count : Option Nat)
  | commit (tx : Tx)

/-- What a run comes to. -/
inductive Ending where
  | done
  | failed (failure : Failure)
  /-- The host that is to listen at a place. -/
  | listen (place : Place) (config : HostConfig) (directory : Directory)
      (users : Login.Credentials)
  | connect (place : Place) (config : ClientConfig) (login : Connect) (order : Order)

/-- A run. -/
structure Run where
  output : List UInt8 := []
  events : List Event := []
  ending : Ending := .done

namespace Run

/-- A run that only writes. -/
def writing (output : List UInt8) : Run := ⟨output, [], .done⟩

/-- A run that ends well or fails before anything is written. -/
def ofExcept (result : Except Failure Run) : Run :=
  match result with
  | .ok run => run
  | .error failure => ⟨[], [], .failed failure⟩

-- =============================================================== serving

/-- The users of some pairs of name and secret. -/
def credentials (users : List String) : Except Failure Login.Credentials :=
  (users.mapM fun user => splitPair user "--user").map .ofList

/-- The event of a cell that has been created. -/
def created (name : String) (cell : TagId) : Event :=
  ⟨.debug, "amp::cmd::serve", "cell created", [("cell", name), ("id", cell.encode)]⟩

/-- The directory with some cells. -/
def directory (cells : List String) : Directory :=
  cells.foldl (fun d cell => (d.addCell cell).2) {}

/-- The nanoseconds of a number of milliseconds. -/
def ofMillis (millis : Nat) : Nat := millis * 1000000

/-- Where a host listens, and how it is set up. -/
def listen (o : Serve) (users : Login.Credentials) : Except Failure Ending := do
  let timeout ← parseSpan o.loginTimeout
  let login : Login.Config := { timeout := ofMillis timeout, maxAttempts := max 1 o.maxAttempts }
  let place ← (Place.toListen (some o.listen)).mapError (Failure.ofTransport "bind failed")
  return .listen place { mailboxCapacity := o.mailboxCapacity, login := login }
    (directory o.cells) users

/-- Serves cells. The cells are created before the options are looked at. -/
def serve (o : Serve) : Run := ofExcept do
  let users ← credentials o.users
  let events := o.cells.map fun cell => created cell (.ofName cell)
  return match listen o users with
    | .ok ending => ⟨[], events, ending⟩
    | .error failure => ⟨[], events, .failed failure⟩

-- ============================================================ connecting

/-- Connects to a host with an order. -/
def connect (o : Connect) (order : Order) : Except Failure Run := do
  let timeout := ofMillis (← parseSpan o.timeout)
  let config : ClientConfig :=
    { login := { timeout := timeout }, connectTimeout := some timeout }
  let place ← (Place.toConnect (some o.host)).mapError (Failure.ofTransport "connect failed")
  return ⟨[], [], .connect place config o order⟩

/-- A commit that also sets an attribute. -/
def setAttr (cell : TagId) (tx : Tx) (attr value : String) : Tx :=
  let (tx, ref) := tx.push value.toUTF8
  tx.pushOp (.upsertAttr cell (.ofName attr) .nil (valueHash value.toUTF8) ref)

/-- The commit that makes a change. -/
def change (o : Change) : Except Failure Tx := do
  let cell := TagId.ofName o.cell
  let start := if o.deleteCell then [.deleteCell cell] else []
  let pairs ← o.set.mapM fun entry => splitPair entry "--set"
  let set := pairs.foldl (fun tx (attr, value) => setAttr cell tx attr value)
    ((Tx.ofKind .commit).withOps start)
  let tx := o.deleteAttrs.foldl (fun tx attr =>
    tx.pushOp (.deleteAttr cell (.ofName attr) .nil)) set
  if tx.ops.isEmpty then
    throw (.usage "nothing to commit: pass --set, --delete-attr or --delete-cell")
  return tx

-- =========================================================== identifiers

/-- Makes an identifier of some content, or of random text. -/
def tidNew (s : Surroundings) (format : Format) (content : Option String) : Except Failure Run := do
  let content := content.getD (s.entropy.hex 32).1
  let tid ← (Tid.ofContent s.clock content.toUTF8).mapError fun fault =>
    Failure.ofTx "tid creation failed" (.invalidInput fault)
  return writing (printTid format tid)

/-- Shows the parts of an identifier. -/
def tidInspect (format : Format) (text : String) : Except Failure Run := do
  let tid ← (Tid.decode (Text.trimmed text)).mapError fun fault =>
    Failure.ofTx "invalid tid" (.malformedTid fault)
  return writing (printTid format tid)

-- =============================================================== version

/-- The lines about the version. -/
def versionLines (build : Build) (extended : Bool) : List String :=
  let limits : TxConfig := {}
  let more :=
    [s!"target: {build.arch}-{build.os}",
     "wire: marker=" ++ String.ofList (Frame.marker.map fun b => Char.ofNat b.toNat) ++
       " version=" ++ Hex.byte Frame.version ++ s!" default_port={Place.defaultPort}",
     s!"limits: max_ops={limits.maxOps} max_data_size={limits.maxData}",
     s!"features: async={build.async}, cli=true"]
  "amp 0.1.0" :: if extended then more else []

-- ================================================================== tasks

/-- Runs a command line. -/
def ofLine (s : Surroundings) (l : Line) : Run :=
  let format := l.format.getD (if s.terminal then .table else .json)
  match l.task with
  | .serve o => serve o
  | .pin o => ofExcept (connect o.connect (.pin o.request o.count))
  | .commit o => ofExcept do connect o.connect (.commit (← change o))
  | .tidNew content => ofExcept (tidNew s format content)
  | .tidInspect text => ofExcept (tidInspect format text)
  | .version extended => writing ((versionLines s.build extended).flatMap line)

/-- The events of a run that the log shows. -/
def shown (s : Surroundings) (l : Line) (run : Run) : List Event :=
  let filter := LogFilter.choose (s.environment "AMP_LOG") l.logLevel
  run.events.filter filter.shows

/-- A run where there is no network: there is nothing to listen on, and nobody
answers. -/
def offline (run : Run) : Run :=
  match run.ending with
  | .listen .. => { run with ending := .failed (.ofIo "bind failed" (.ofKind .unsupported)) }
  | .connect .. => { run with ending := .failed (.ofIo "connect failed" .refused) }
  | .done | .failed _ => run

/-- The failure that a run ends in. -/
def failure? (run : Run) : Option Failure :=
  match run.ending with
  | .failed failure => some failure
  | _ => none

/-- The status that a run ends with. -/
def exit (run : Run) : Exit := run.failure?.elim .success Failure.exit

end Run

end CellSync.Command
