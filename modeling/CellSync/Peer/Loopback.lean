/-
A host and its clients in one process.

Each link is a stream with a client at the near end and the host at the
far end. The host handles what a client has written as soon as it is
there, and then what waits in the mailboxes is written to the clients;
so everything a client can come to read is there when its own operation
ends. A frame at fault, or the end of its stream, ends a link.
-/
import CellSync.Login.Dialogue
import CellSync.Peer.Client
import CellSync.Peer.Connection
import CellSync.Peer.Delivery

namespace CellSync

/-- A client and the host, joined by a stream. -/
structure Link where
  client : Client
  wire : Duplex
  connection : Connection
  /-- What the host reads with. -/
  reader : Reader
  delivery : Delivery Tx := {}
  /-- How the host has ended the connection, if it has. -/
  served : Option (Except SessionError Unit) := none

/-- A host and its links, by name. -/
structure Loopback (ρ σ : Type) where
  host : Host ρ σ
  /-- The readings of the clock, one for each message. -/
  clock : Nat → ClockTime
  entropy : Entropy
  ticks : Nat := 0
  links : List (String × Link) := []

namespace Loopback

variable {ρ σ : Type}

/-- The link with a name. -/
def link? (l : Loopback ρ σ) (name : String) : Option Link := l.links.lookup name

/-- Replaces a link. -/
def setLink (l : Loopback ρ σ) (name : String) (link : Link) : Loopback ρ σ :=
  { l with links := l.links.map fun (n, old) => if n = name then (n, link) else (n, old) }

/-- Takes a link away. -/
def removeLink (l : Loopback ρ σ) (name : String) : Loopback ρ σ :=
  { l with links := l.links.filter fun (n, _) => n ≠ name }

-- ================================================================== host

/-- Writes what waits in the mailbox of a link. A write that fails ends the
stream. -/
def flush (h : Host ρ σ) (link : Link) : Link × Host ρ σ :=
  let box := link.connection.outbox
  let (delivery, mailbox) := link.delivery.run (h.hub.outbox box)
  let wire := delivery.written.foldl (fun wire tx =>
    match wire.send .far link.reader.config tx with
    | (.ok (), wire) => wire
    | (.error _, wire) => wire.shutdown) link.wire
  ({ link with wire := wire, delivery := { delivery with written := [] } },
    h.mapHub (·.mapOutbox box fun _ => mailbox))

/-- Writes what waits in every mailbox. -/
def flushAll (l : Loopback ρ σ) : Loopback ρ σ :=
  let (links, host) := l.links.foldl (fun (links, host) (name, link) =>
    let (link, host) := flush host link
    (links ++ [(name, link)], host)) ([], l.host)
  { l with links := links, host := host }

/-- Ends a link on the host's side: its pins are closed and its stream ends. -/
def finish (l : Loopback ρ σ) (name : String) (link : Link) (result : Except SessionError Unit) :
    Loopback ρ σ :=
  let (connection, host) := link.connection.teardown l.host
  { l with host := host.mapHub (·.mapOutbox connection.outbox Mailbox.close) }.setLink name
    { link with connection := connection, wire := link.wire.shutdown, served := some result }

/-- Handles some messages from the client of a link. -/
def dispatchAll (l : Loopback ρ σ) (connection : Connection) (txs : List Tx) :
    Connection × Loopback ρ σ :=
  txs.foldl (fun (connection, l) tx =>
    let (connection, host) := connection.dispatch (l.clock l.ticks) l.host tx
    (connection, { l with host := host, ticks := l.ticks + 1 })) (connection, l)

/-- Handles everything that the client of a link has written. -/
def serve (l : Loopback ρ σ) (name : String) (link : Link) : Loopback ρ σ :=
  if link.served.isSome then l
  else
    let buffer := link.reader.buffer ++ link.wire.far.bytes
    let (txs, result, rest) := Frame.takeAll link.reader.config buffer
    let (connection, l) := l.dispatchAll link.connection txs
    let link := { link with
      connection := connection, reader := { link.reader with buffer := rest },
      wire := link.wire.mapInbound .far fun _ => {} }
    match result with
    | .error error => l.finish name link (.error (.tx error))
    | .ok () => if link.wire.ended then l.finish name link (.ok ()) else l.setLink name link

/-- Lets the host handle what the client of a link has written, and writes what
waits in the mailboxes. -/
def settle (l : Loopback ρ σ) (name : String) (link : Link) : Loopback ρ σ :=
  ((l.setLink name link).serve name link).flushAll

-- ================================================================ logins

/-- One attempt of a client at a login: what it claims, and how it answers. -/
structure Attempt where
  claim : Login.Claim
  respond : Login.Client.Responder

/-- The attempts on one stream, in order, until one succeeds: how each ends,
the host's side after them, and the client's side of the last. -/
def attempts (host : Login.Side (Login.Host.State σ)) (limits : TxConfig) (timeout : Nat) :
    List Attempt → Login.Exchange (Login.Host.State σ) →
    List (Except SessionError Login.Checkpoint) × Login.Exchange (Login.Host.State σ) ×
      Option (Login.Checkpoint × Reader)
  | [], x => ([], x, none)
  | a :: rest, x =>
    let client : Login.Side Login.Client.Phase :=
      ⟨limits, timeout, Login.Client.react a.claim.userId a.respond⟩
    let sink := Duplex.sink { ended := x.result.isSome } .near (some timeout)
    let start := Login.Client.start a.claim limits ⟨limits, ByteArray.empty⟩ sink
    let d := Login.Dialogue.attempt ⟨host, client⟩ { host := x, client := start }
    match d.client.result.getD (.error (.timeout timeout)) with
    | .ok checkpoint => ([.ok checkpoint], d.host, some (checkpoint, d.client.reader))
    | .error error =>
      let (results, x, client) := attempts host limits timeout rest d.host
      (.error error :: results, x, client)

/-- How connecting ends: how each attempt ended and, if none succeeded, how the
host ended the connection. -/
structure Connected where
  attempts : List (Except SessionError Login.Checkpoint)
  served : Option (Except SessionError Unit)

/-- Connects a client under a name. -/
def connect (l : Loopback ρ σ) (name : String)
    (carrier : Carrier) (config : ClientConfig) (tries : List Attempt) :
    Connected × Loopback ρ σ :=
  let hostConfig := l.host.config
  let hostLimits := hostConfig.login.limits hostConfig.tx
  let hostSide : Login.Side (Login.Host.State σ) :=
    ⟨hostLimits, hostConfig.login.timeout,
      Login.Host.react l.host.verifier l.host.store hostConfig.login.maxAttempts⟩
  let start := Login.Host.start l.host.checkpoints l.entropy ⟨hostLimits, ByteArray.empty⟩ {}
  let (results, x, client) :=
    attempts hostSide (config.login.limits config.tx) config.login.timeout tries start
  let l := { l with
    host := { l.host with checkpoints := x.state.store }, entropy := x.state.entropy }
  match client, x.result with
  | some (checkpoint, reader), some (.ok who) =>
    let (box, hub) := l.host.hub.addOutbox hostConfig.mailboxCapacity
    let link : Link :=
      { client := ⟨carrier, checkpoint, config.tx, reader.withMaxData config.tx.maxData, 1, []⟩,
        wire := {}, connection := ⟨who, box, []⟩,
        reader := x.reader.withMaxData hostConfig.tx.maxData }
    let l := { l with host := { l.host with hub := hub } }.removeLink name
    (⟨results, none⟩, { l with links := l.links ++ [(name, link)] })
  | _, _ =>
    let served := ((x.feed hostSide (.bytes ByteArray.empty) 0).result.getD
      (.error (.disconnected "connection closed during login"))).map fun _ => ()
    (⟨results, some served⟩, l)

-- =============================================================== clients

/-- How an operation of a client ends. -/
abbrev Done (ρ σ α : Type) := Except SessionError α × Loopback ρ σ

/-- An operation on a link. Without the link the host is out of reach. -/
def atLink {α : Type} (l : Loopback ρ σ) (name : String) (f : Link → Done ρ σ α) : Done ρ σ α :=
  match l.link? name with
  | some link => f link
  | none => (.error (Client.lost .connectionClosed), l)

/-- Whether a link has ended while its client still wrote: the host has left
unread more than the stream holds. -/
def isCutShort (l : Loopback ρ σ) (name : String) : Bool :=
  (l.link? name).any fun link =>
    link.served.isSome && Backlog.room [] Backlog.capacity < link.reader.buffer.size

/-- What a client learns of a write with a result, once the host has handled it. -/
def settleWrite (l : Loopback ρ σ) (name : String) (link : Link) (result : Except TxError Unit) :
    Done ρ σ Unit :=
  let l := l.settle name link
  (if l.isCutShort name then .error (.tx (.io .brokenPipe)) else result.mapError .tx, l)

/-- Writes bytes as they are. -/
def write (l : Loopback ρ σ) (name : String) (bytes : ByteArray) : Done ρ σ Unit :=
  l.atLink name fun link =>
    let (result, wire) := link.wire.write .near bytes
    l.settleWrite name { link with wire } (result.mapError .io)

/-- Writes a transaction as it is. -/
def send (l : Loopback ρ σ) (name : String) (tx : Tx) : Done ρ σ Unit :=
  l.atLink name fun link =>
    let (result, wire) := link.wire.send .near link.client.limits tx
    l.settleWrite name { link with wire } result

/-- Requests a pin, and returns its number. -/
def openPin (l : Loopback ρ σ) (name : String) (request : PinRequest) : Done ρ σ UInt64 :=
  l.atLink name fun link =>
    let (id, tx, client) := link.client.pinRequest request
    let (result, l) := (l.setLink name { link with client := client }).send name tx
    (result.map fun _ => id, l)

/-- Asks for the end of a pin. -/
def closePin (l : Loopback ρ σ) (name : String) (id : UInt64) : Done ρ σ Unit :=
  l.send name (Client.pinClose id)

/-- A client after it has read. -/
def afterReads {α : Type} (l : Loopback ρ σ) (name : String) (link : Link)
    (out : Client.Outcome α) : Done ρ σ α :=
  (out.result,
    l.setLink name { link with
      client := out.client, wire := link.wire.afterReads .near out.rest })

/-- Makes a commit, and waits for its identifier. -/
def commit (l : Loopback ρ σ) (name : String) (tx : Tx) : Done ρ σ Tid :=
  l.atLink name fun link =>
    match link.client.commitRequest tx with
    | .error error => (.error error, l)
    | .ok (id, tx, client) =>
      match (l.setLink name { link with client := client }).send name tx with
      | (.error error, l) => (.error error, l)
      | (.ok (), l) =>
        l.atLink name fun link =>
          l.afterReads name link (Client.awaitAnswer id link.client (link.wire.calls .near))

/-- The next message for a client, if there is one. -/
def poll (l : Loopback ρ σ) (name : String) : Done ρ σ (Option Tx) :=
  l.atLink name fun link => l.afterReads name link (link.client.poll (link.wire.calls .near))

/-- A client shuts its end down. -/
def hangUp (l : Loopback ρ σ) (name : String) : Loopback ρ σ :=
  match l.link? name with
  | some link => l.settle name { link with wire := link.wire.shutdown }
  | none => l

/-- A client shuts its end down and goes, and learns how the host has ended the
connection. -/
def leave (l : Loopback ρ σ) (name : String) : Except SessionError Unit × Loopback ρ σ :=
  let l := l.hangUp name
  (((l.link? name).bind Link.served).getD (.ok ()), l.removeLink name)

-- ============================================================== catching up

/-- The number of no pin: closing it is refused, after everything that was
under way. -/
def noPin : UInt64 := UInt64.ofNat maxWord

/-- The messages for a client up to the refusal to close no pin, at most so
many, and whether that refusal was among them. -/
def readUp (name : String) : Nat → Loopback ρ σ → Bool × List Tx × Loopback ρ σ
  | 0, l => (false, [], l)
  | most + 1, l =>
    match l.poll name with
    | (.ok (some tx), l) =>
      if tx.info.contextId = noPin then (true, [], l)
      else
        let (complete, txs, l) := readUp name most l
        (complete, tx :: txs, l)
    | (_, l) => (false, [], l)

/-- Lets a client read everything that is under way to it, and tells whether
it still reaches the host. -/
def catchUp (l : Loopback ρ σ) (name : String) : Bool × List Tx × Loopback ρ σ :=
  match l.closePin name noPin with
  | (.error _, l) => (false, [], l)
  | (.ok (), l) =>
    let most := (l.link? name).elim 0 fun link =>
      link.client.pending.length + link.client.reader.buffer.size + link.wire.near.bytes.size
    readUp name (most + 1) l

/-- What clients have read, and how the connections of those ended that do not
reach the host any more. -/
structure News where
  got : List (String × List Tx) := []
  gone : List (String × Except SessionError Unit) := []

/-- Lets every client catch up, in the order of their names. -/
def catchUpAll (l : Loopback ρ σ) : News × Loopback ρ σ :=
  let names := (l.links.map (·.1)).mergeSort fun a b => decide (a ≤ b)
  names.foldl (fun (news, l) name =>
    let (reached, txs, l) := l.catchUp name
    let news := if txs.isEmpty then news else { news with got := news.got ++ [(name, txs)] }
    if reached then (news, l)
    else
      let (served, l) := l.leave name
      ({ news with gone := news.gone ++ [(name, served)] }, l)) ({}, l)

/-- The host shuts down. -/
def shutdown (l : Loopback ρ σ) : Loopback ρ σ := { l with host := l.host.shutdown }.flushAll

end Loopback

end CellSync
