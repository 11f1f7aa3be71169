/-
A client learns of its commit what has become of it.

A client writes its commit, the host reads it and answers, and the client
puts aside whatever else it reads until the answer comes
(`awaitAnswer_of_run`), so the whole call comes to what the answer says
(`Line.Sends.commit_eq`). What is read at the other end is what was written
(`Reader.eq_of_read`), and what a client makes of an answer tells apart
the answers that a host gives (`Answered.verdict_eq_ok_iff`,
`Answered.verdict_eq_error_iff`). So the client gets an identifier exactly
when the host has recorded the commit under it, and the code of the host
exactly when the host has recorded nothing (`commit_agreed`).
-/
import CellSync.Peer.Client
import CellSync.Proofs.Host.Delivery
import CellSync.Proofs.Peer.Answer
import CellSync.Proofs.Tx.RoundTrip
import CellSync.Proofs.Tx.Stream
import CellSync.Proofs.Tx.Writer

namespace CellSync

-- ================================================================ streams

namespace Reader

variable {r : Reader} {calls : List Read} {tx : Tx} {more : ByteArray}

/-- A message that is read where a frame comes next is the message of that frame,
whatever the limits of the reader. -/
theorem eq_of_read {got : Tx} (hfull : Read.Full calls) (hw : Frame.Writable tx)
    (hnext : r.buffer ++ Read.delivered calls = Frame.bytes tx ++ more)
    (hread : (r.read calls).result = .ok got) : got = tx := by
  rcases (read_cases (r := r) hfull).result with ⟨hio, -, -⟩ | ⟨hanswer, -, -⟩
  · rw [hread] at hio
    cases hio
  · rw [hread, hnext] at hanswer
    by_cases hin : Frame.Within r.config tx
    · rw [Frame.decode_bytes_append hw hin more] at hanswer
      exact Except.ok.inj hanswer
    · obtain ⟨error, herror⟩ := Frame.decode_bytes_append_of_not_within hw hin more
      rw [herror] at hanswer
      cases hanswer

/-- From a stream on which nothing fails, messages within the limits of the reader
are read one after another. -/
theorem run_wire {txs : List Tx} (hfull : Read.Full calls)
    (hsound : calls.countP Read.breaks = 0)
    (hok : ∀ tx ∈ txs, Frame.Within r.config tx ∧ Frame.Writable tx)
    (hnext : r.buffer ++ Read.delivered calls = Frame.wire txs ++ more) :
    (r.run txs.length calls).1 = txs.map .ok := by
  induction txs generalizing r calls with
  | nil => rfl
  | cons tx txs ih =>
      obtain ⟨⟨hin, hw⟩, hok⟩ := List.forall_mem_cons.mp hok
      rw [Frame.wire, ByteArray.append_assoc] at hnext
      have hdecode := Frame.decode_bytes_append hw hin (Frame.wire txs ++ more)
      have hread := read_cases (r := r) hfull
      rcases hread.result with ⟨-, -, hbreaks⟩ | ⟨hanswer, hrest, hbreaks⟩
      · omega
      · rw [hnext, hdecode] at hanswer hrest
        have hlater := ih hread.full (by omega) (by rw [hread.config_eq]; exact hok) hrest
        rw [List.length_cons, run_succ_results, hlater, hanswer]
        rfl

/-- Frames that come in one piece. -/
theorem run_chunk {config : TxConfig} {txs : List Tx}
    (hok : ∀ m ∈ tx :: txs, Frame.Within config m ∧ Frame.Writable m) :
    Read.Full [.bytes (Frame.wire (tx :: txs))]
      ∧ ((⟨config, .empty⟩ : Reader).run (tx :: txs).length
          [.bytes (Frame.wire (tx :: txs))]).1 = (tx :: txs).map .ok := by
  have hfull : Read.Full [.bytes (Frame.wire (tx :: txs))] := by
    intro chunk hmem
    have hpos := Frame.wireSize_pos tx
    rw [Read.bytes.inj (List.mem_singleton.mp hmem), Frame.wire, ByteArray.size_append,
      Frame.size_bytes]
    omega
  have hnext : (ByteArray.empty ++ Read.delivered [.bytes (Frame.wire (tx :: txs))])
      = Frame.wire (tx :: txs) ++ .empty := by simp [Read.delivered]
  exact ⟨hfull, run_wire (r := ⟨config, .empty⟩) hfull rfl hok hnext⟩

end Reader

-- ================================================================= clients

namespace Client

variable {c waiting : Client} {id : UInt64} {calls : List Read} {tx reply : Tx}

/-- A message that is not the answer is put aside. -/
theorem awaitAnswer_of_other (hread : (c.reader.read calls).result = .ok tx)
    (hother : answers id tx = false) :
    awaitAnswer id c calls = awaitAnswer id
      { c with reader := (c.reader.read calls).reader, pending := c.pending ++ [tx] }
      (c.reader.read calls).rest := by
  rw [awaitAnswer]
  split
  next error herror => rw [hread] at herror; cases herror
  next got hgot =>
    rw [hread] at hgot
    rw [← Except.ok.inj hgot, if_neg (by rw [hother]; decide)]

theorem awaitAnswer_of_answer (hread : (c.reader.read calls).result = .ok reply)
    (hanswer : answers id reply = true) :
    awaitAnswer id c calls = ⟨verdict reply,
      { c with reader := (c.reader.read calls).reader }, (c.reader.read calls).rest⟩ := by
  rw [awaitAnswer]
  split
  next error herror => rw [hread] at herror; cases herror
  next got hgot =>
    rw [hread] at hgot
    rw [← Except.ok.inj hgot, if_pos hanswer]

/-- What a client reads before the answer is kept in order, and the answer decides. -/
theorem awaitAnswer_of_run {mix : List Tx} (hmix : ∀ m ∈ mix, answers id m = false)
    (hanswer : answers id reply = true)
    (hrun : (c.reader.run (mix.length + 1) calls).1 = (mix ++ [reply]).map .ok) :
    (awaitAnswer id c calls).result = verdict reply
      ∧ (awaitAnswer id c calls).client.pending = c.pending ++ mix := by
  induction mix generalizing c calls with
  | nil =>
      have hread : (c.reader.read calls).result = .ok reply := (List.cons.inj hrun).1
      rw [awaitAnswer_of_answer hread hanswer, List.append_nil]
      exact ⟨rfl, rfl⟩
  | cons m mix ih =>
      obtain ⟨hother, hmix⟩ := List.forall_mem_cons.mp hmix
      obtain ⟨hread, hlater⟩ := List.cons.inj hrun
      rw [awaitAnswer_of_other hread hother]
      obtain ⟨hresult, hpending⟩ := ih hmix (c := { c with
        reader := (c.reader.read calls).reader, pending := c.pending ++ [m] }) hlater
      refine ⟨hresult, ?_⟩
      rw [hpending, List.append_assoc]
      rfl

/-- A request has the number that is next, and no identifier. -/
theorem commitRequest_eq_ok {sent : Tx} (h : c.commitRequest tx = .ok (id, sent, waiting)) :
    id = c.next ∧ sent = { tx with info := { tx.info with contextId := c.next, tid := none } }
      ∧ waiting = { c with next := c.next + 1 } := by
  unfold commitRequest at h
  split at h
  · cases h
  · cases h
    exact ⟨rfl, rfl, rfl⟩

namespace Line

variable {l : Line} {reader : Reader} {order : Tx}

/-- A commit that is made is written, and its bytes are what comes next for a reader at
the other end. -/
def Sends (l : Line) (order : Tx) (reader : Reader) (calls : List Read) : Prop :=
  Read.Full calls ∧ ∃ id sent waiting after more,
    l.client.commitRequest order = .ok (id, sent, waiting)
      ∧ Writer.write l.client.limits sent l.sink = (.ok (), after)
      ∧ l.sink.accepted ++ (reader.buffer ++ Read.delivered calls) = after.accepted ++ more

/-- What a client is to read next is a message, after others that do not answer the
commit with the next number. -/
def Hears (l : Line) (reply : Tx) : Prop :=
  ∃ mix, (∀ m ∈ mix, answers l.client.next m = false)
    ∧ (l.client.reader.run (mix.length + 1) l.calls).1 = (mix ++ [reply]).map .ok

/-- What is read of a commit is what the client was asked to commit, under its
number and with no identifier. -/
theorem Sends.eq_of_read {got : Tx} (hsends : l.Sends order reader calls)
    (hread : (reader.read calls).result = .ok got) :
    got = { order with info := { order.info with contextId := l.client.next, tid := none } } := by
  obtain ⟨hfull, id, sent, waiting, after, more, hrequest, hwrite, hnext⟩ := hsends
  obtain ⟨frame, hframe, haccepted⟩ := Writer.write_ok hwrite
  obtain ⟨-, hw, rfl⟩ := Frame.encode_eq_ok_iff.mp hframe
  rw [haccepted, ByteArray.append_assoc] at hnext
  have hbytes := ByteArray.append_right_inj l.sink.accepted |>.mp hnext
  rw [Reader.eq_of_read hfull hw hbytes hread]
  exact (commitRequest_eq_ok hrequest).2.1

/-- A commit that is written comes to what its answer says, whatever is read before it. -/
theorem Sends.commit_eq (hsends : l.Sends order reader calls) (hhears : l.Hears reply)
    (hanswer : answers l.client.next reply = true) : (commit l order).1 = verdict reply := by
  obtain ⟨-, id, sent, waiting, after, -, hrequest, hwrite, -⟩ := hsends
  obtain ⟨mix, hmix, hrun⟩ := hhears
  obtain ⟨hid, -, hwaiting⟩ := commitRequest_eq_ok hrequest
  have hcommit : (commit l order).1 = (awaitAnswer id waiting l.calls).result := by
    rw [commit, hrequest]
    dsimp only
    rw [hwrite]
  rw [hcommit, hid]
  refine (awaitAnswer_of_run hmix hanswer ?_).1
  rw [hwaiting]
  exact hrun

end Line

end Client

-- =============================================================== agreement

namespace Connection

variable {σ : Type} {h h' : Host Directory σ} {history : List Tx} {c : Connection} {tx reply : Tx}

theorem Answered.verdict_eq_ok_iff (hanswered : c.Answered h h' tx reply) (tid : Tid) :
    Client.verdict reply = .ok tid ↔ h.Recorded h' tx tid := by
  rw [← hanswered.synced tid]
  constructor
  · intro hverdict
    rcases hanswered.decided with ⟨other, hrecorded⟩ | hsame
    · rw [(hanswered.synced other).mpr hrecorded] at hverdict ⊢
      rw [Except.ok.inj hverdict]
    · obtain ⟨code, -, rfl⟩ := hanswered.closed.mpr hsame
      cases hverdict
  · rintro rfl
    rfl

theorem Answered.verdict_eq_error_iff (hanswered : c.Answered h h' tx reply) (code : ErrorCode) :
    Client.verdict reply = .error (.rejected code "commit refused")
      ↔ reply.info.code = code ∧ h.Unchanged h' := by
  rw [← hanswered.closed]
  constructor
  · intro hverdict
    rcases hanswered.decided with ⟨other, hrecorded⟩ | hsame
    · rw [(hanswered.synced other).mpr hrecorded] at hverdict
      cases hverdict
    · obtain ⟨told, hne, rfl⟩ := hanswered.closed.mpr hsame
      cases hverdict
      exact ⟨rfl, told, hne, rfl⟩
  · rintro ⟨hcode, told, -, rfl⟩
    rw [← hcode]
    rfl

/-- An acknowledgement may be written, whatever the limits are. -/
theorem within_acknowledgement (config : TxConfig) (number : UInt64) {tid : Tid}
    (hne : tid ≠ .zero) : Frame.Within config (acknowledgement number tid)
      ∧ Frame.Writable (acknowledgement number tid) := by
  refine ⟨⟨Nat.zero_le _, Nat.zero_le _⟩, ⟨?_, Nat.zero_le _, rfl, fun htid => ?_⟩⟩
  · show Frame.minBody + 0 ≤ Frame.maxSize
    decide
  · exact hne (Option.some.inj htid)

-- ============================================================== an example

/-- A host with a mailbox for one connection, the connection, and its client. -/
def hosting : Host Directory Login.CheckpointTable :=
  World.small.mapHub fun hub => (hub.addOutbox 8).2

def attached : Connection := ⟨World.someone, 0, []⟩

def asker : Client :=
  { carrier := .inProcess, checkpoint := World.someone, limits := {}, reader := ⟨{}, .empty⟩ }

/-- What it sends to set an attribute. -/
def asked : Tx := { World.greeting with info := { World.greeting.info with contextId := 1 } }

theorem writable_asked : Frame.Within {} asked ∧ Frame.Writable asked :=
  ⟨⟨by decide, by decide⟩, ⟨by decide, by decide, by decide, by decide⟩⟩

/-- The client with its streams, and what is still to come for it. -/
def asking (arriving : List Read) : Client.Line := ⟨asker, {}, arriving⟩

/-- It is written, and comes to the host in one piece. -/
theorem sends_asking (arriving : List Read) : (asking arriving).Sends World.greeting
    ⟨{}, .empty⟩ [.bytes (Frame.wire [asked])] := by
  have hsize : (Frame.bytes asked).size ≠ 0 := by
    rw [Frame.size_bytes]
    decide
  have hframe : Frame.encode asked {} = .ok (Frame.bytes asked) :=
    Frame.encode_eq_ok_iff.mpr ⟨writable_asked.1, writable_asked.2, rfl⟩
  have hwrite : Writer.write {} asked {}
      = (.ok (), { accepted := Frame.bytes asked, writeCalls := 1, flushCalls := 1 }) := by
    simp [Writer.write, hframe, Writer.push, hsize, Writer.flush, Writer.flushCalls]
  have hfull := (Reader.run_chunk (List.forall_mem_singleton.mpr writable_asked)).1
  refine ⟨hfull, 1, asked, { asker with next := 2 }, _, .empty, rfl, hwrite, ?_⟩
  simp [asking, Read.delivered, Frame.wire]

/-- The host records it. -/
theorem last_dispatch_asked : ∃ tid, tid ≠ .zero
    ∧ (attached.dispatch (.after 1 0) hosting asked).2.last = some tid := by
  obtain ⟨tid, hne, htid⟩ := Tid.exists_successor_ne_zero (Frame.bytes (asked.withTid none))
  have hrecord := Host.recordCommit_of_writable (h := hosting) rfl writable_asked.1
    writable_asked.2 htid
  have hcheck : hosting.checkCommit attached.who asked = .ok () := by rfl
  have hdispatch : attached.dispatch (.after 1 0) hosting asked
      = attached.commit (.after 1 0) hosting asked := rfl
  refine ⟨tid, hne, ?_⟩
  rw [hdispatch]
  simp only [Connection.commit, Host.commit, hcheck, hrecord]
  rfl

/-- In any state that a host can get to, a connection answers each commit once,
and tells by the answer what has happened. A client whose commit that was, with
nothing lost on the way and anything else coming before the answer, gets an
identifier exactly when its ops and data were recorded under it, and the code of
the host exactly when nothing was. -/
theorem commit_agreed (hreach : h.Reachable history) (hholds : h.hub.Holds c.outbox)
    (hkind : tx.info.kind = .commit) (clock : ClockTime) :
    ∃ reply, c.Answered h (c.dispatch clock h tx).2 tx reply
      ∧ ∀ {l : Client.Line} {order : Tx} {reader : Reader} {calls : List Read},
        l.Sends order reader calls → (reader.read calls).result = .ok tx → l.Hears reply →
        tx.ops = order.ops ∧ tx.data = order.data
          ∧ (∀ tid, (Client.commit l order).1 = .ok tid
              ↔ h.Recorded (c.dispatch clock h tx).2 tx tid)
          ∧ ∀ code, (Client.commit l order).1 = .error (.rejected code "commit refused")
              ↔ reply.info.code = code ∧ h.Unchanged (c.dispatch clock h tx).2 := by
  obtain ⟨reply, hanswered⟩ := answered_dispatch hreach hholds hkind clock
  refine ⟨reply, hanswered, fun {l order reader calls} hsends hread hhears => ?_⟩
  have htx := hsends.eq_of_read hread
  have hown : Client.answers l.client.next reply = true := by
    unfold Client.answers
    rw [hanswered.answers.1, hanswered.answers.2, htx]
    simp
  rw [hsends.commit_eq hhears hown]
  exact ⟨by rw [htx], by rw [htx], hanswered.verdict_eq_ok_iff, hanswered.verdict_eq_error_iff⟩

/-- The client of the example learns the identifier that its commit was recorded
under. -/
theorem commit_agreed_asked : ∃ (reply : Tx) (tid : Tid) (arriving : List Read),
    attached.Answered hosting (attached.dispatch (.after 1 0) hosting asked).2 asked reply
      ∧ (asking arriving).Hears reply
      ∧ (Client.commit (asking arriving) World.greeting).1 = .ok tid
      ∧ hosting.Recorded (attached.dispatch (.after 1 0) hosting asked).2 asked tid := by
  obtain ⟨tid, hne, hlast⟩ := last_dispatch_asked
  have hreach : hosting.Reachable [] := .hub World.small_reachable (.addOutbox _ 8)
  have hread : ((⟨{}, .empty⟩ : Reader).read [.bytes (Frame.wire [asked])]).result = .ok asked :=
    (List.cons.inj (Reader.run_chunk (List.forall_mem_singleton.mpr writable_asked)).2).1
  have hkind : asked.info.kind = .commit := rfl
  obtain ⟨reply, hanswered, hagreed⟩ := commit_agreed (c := attached) hreach
    (Hub.holds_addOutbox World.small.hub 8) hkind (.after 1 0)
  have hrecorded : hosting.Recorded (attached.dispatch (.after 1 0) hosting asked).2 asked tid := by
    rcases hanswered.decided with ⟨other, hrecorded⟩ | hsame
    · rw [← Option.some.inj (hrecorded.last_eq.symm.trans hlast)]
      exact hrecorded
    · cases hlast.symm.trans hsame.last_eq
  have hreply := (hanswered.synced tid).mpr hrecorded
  have hhears : (asking [.bytes (Frame.wire [Tx.ofKind .state, reply])]).Hears reply := by
    have hstate : Frame.Within {} (Tx.ofKind .state) ∧ Frame.Writable (Tx.ofKind .state) :=
      ⟨⟨by decide, by decide⟩, ⟨by decide, by decide, by decide, by decide⟩⟩
    have hack := within_acknowledgement {} asked.info.contextId hne
    rw [← hreply] at hack
    have hok : ∀ m ∈ [Tx.ofKind .state, reply], Frame.Within {} m ∧ Frame.Writable m :=
      List.forall_mem_cons.mpr ⟨hstate, List.forall_mem_singleton.mpr hack⟩
    exact ⟨[Tx.ofKind .state], List.forall_mem_singleton.mpr rfl, (Reader.run_chunk hok).2⟩
  exact ⟨reply, tid, _, hanswered, hhears,
    ((hagreed (sends_asking _) hread hhears).2.2.1 tid).mpr hrecorded, hrecorded⟩

end Connection

end CellSync
