/-
A host and a client on streams that lose nothing.

A `Session` is a host and a client in an attempt, and perhaps after
others: bytes that one side has written reach the other in order, in
chunks of any size at any time (`Step`). At every moment exactly one
frame is under way (`Way`), or the attempt is over; `Stage` says which
frame of the attempt's `Talk` it is. A chunk that is not the last of its
frame changes nothing else, and with the last one the frame is heard and
answered.

So an attempt cannot get stuck (`Standing.progress`), and needs no more
steps than there are bytes to deliver (`Standing.bounded`).
-/
import CellSync.Login.Dialogue
import CellSync.Proofs.Login.Size

namespace CellSync.Login

variable {σ τ υ : Type}

-- ============================================================== settings

/-- A host with its limits, and the limits of its clients. -/
structure Setting (σ : Type) where
  verifier : Verifier
  store : CheckpointStore σ
  maxAttempts : Nat
  hostWriter : TxConfig
  hostReader : TxConfig
  hostTimeout : Nat
  clientWriter : TxConfig
  clientReader : TxConfig
  clientTimeout : Nat
  hostTimeout_ne : hostTimeout ≠ 0
  clientTimeout_ne : clientTimeout ≠ 0

namespace Setting

/-- What the host does with a message. -/
def react (s : Setting σ) : React (Host.State σ) := Host.react s.verifier s.store s.maxAttempts

/-- What the two sides do in an attempt. -/
def rules (s : Setting σ) (v : Visitor) : Rules σ :=
  ⟨⟨s.hostWriter, s.hostTimeout, s.react⟩,
    ⟨s.clientWriter, s.clientTimeout, Client.react v.claim.userId v.respond⟩⟩

/-- Whether all that is said in an attempt is within the limits. -/
structure Suits (s : Setting σ) (t : Talk σ) : Prop where
  byVisitor : ∀ m ∈ t.byVisitor, m.Fits s.clientWriter ∧ m.Fits s.hostReader
  byHost : ∀ m ∈ t.byHost, m.Fits s.hostWriter ∧ m.Fits s.clientReader

/-- The attempt of a visitor with a secret is within the limits, if these have room
for the payload of a login. -/
theorem suits {s : Setting CheckpointTable} (hstore : s.store = CheckpointTable.store)
    (hhost : Roomy s.hostWriter ∧ Roomy s.hostReader)
    (hclient : Roomy s.clientWriter ∧ Roomy s.clientReader) (state : Host.State CheckpointTable)
    (hphase : state.phase = .claim)
    (hkept : ∀ c ∈ state.store.live, (Message.checkpoint c).Small) {v : Visitor} {secret : Secret}
    (hrespond : v.respond = secret.respond) (hclaim : (Message.claim v.claim).Small) :
    s.Suits (v.talk s.react state) := by
  obtain ⟨hvisitor, hanswers⟩ :=
    small_talk s.verifier s.maxAttempts hphase hkept hrespond hclaim
  rw [← hstore] at hvisitor hanswers
  exact ⟨fun m hm => ⟨(hvisitor m hm).fits hclient.1, (hvisitor m hm).fits hhost.2⟩,
    fun m hm => ⟨(hanswers m hm).fits hhost.1, (hanswers m hm).fits hclient.2⟩⟩

end Setting

-- ================================================================= steps

/-- A side when all that it has written but some rest has been delivered. -/
def Exchange.left (x : Exchange τ) (rest : ByteArray) : Exchange τ :=
  { x with sink := { x.sink with accepted := rest } }

/-- A failed read that is made again: an interruption, or a stall within the time. -/
def Idle (timeout waited : Nat) (error : IoError) : Prop :=
  error.kind = .interrupted ∨ error.kind.isStall = true ∧ waited < timeout

/-- One read call of one of the sides, with the bytes that it brings to the host and
to the client. A side that has ended reads no more. -/
inductive Step (rules : Rules σ) (d : Dialogue σ) : ByteArray → ByteArray → Dialogue σ → Prop
  | toHost {chunk rest : ByteArray} (waited : Nat) (hopen : d.host.result = none)
      (hsent : d.client.sink.accepted = chunk ++ rest) (hchunk : chunk.size ≠ 0) :
      Step rules d chunk .empty
        { d with host := d.host.feed rules.host (.bytes chunk) waited,
                 client := d.client.left rest }
  | toClient {chunk rest : ByteArray} (waited : Nat) (hopen : d.client.result = none)
      (hsent : d.host.sink.accepted = chunk ++ rest) (hchunk : chunk.size ≠ 0) :
      Step rules d .empty chunk
        { d with host := d.host.left rest,
                 client := d.client.feed rules.client (.bytes chunk) waited }
  | hostIdle {error : IoError} {waited : Nat} (hopen : d.host.result = none)
      (hidle : Idle rules.host.timeout waited error) :
      Step rules d .empty .empty
        { d with host := d.host.feed rules.host (.failed error) waited }
  | clientIdle {error : IoError} {waited : Nat} (hopen : d.client.result = none)
      (hidle : Idle rules.client.timeout waited error) :
      Step rules d .empty .empty
        { d with client := d.client.feed rules.client (.failed error) waited }

/-- A host and a client in an attempt of a visitor, with the host's state at its
beginning and the bytes that have reached the host and the client since. The
client may try again on the same streams when it was refused for a wrong answer
and the host still listens. -/
inductive Session (s : Setting σ) :
    Visitor → Host.State σ → ByteArray → ByteArray → Dialogue σ → Prop
  | first {v : Visitor} {contents : σ} {entropy : Entropy} {hostSink clientSink : Sink}
      (hhost : hostSink.Willing s.hostWriter.writeTimeout)
      (hclient : clientSink.Willing s.clientWriter.writeTimeout)
      (hhostEmpty : hostSink.accepted = .empty) (hclientEmpty : clientSink.accepted = .empty)
      (hsuits : s.Suits (v.talk s.react ⟨.claim, 0, contents, entropy⟩)) :
      Session s v ⟨.claim, 0, contents, entropy⟩ .empty .empty
        { host := Host.start contents entropy ⟨s.hostReader, .empty⟩ hostSink,
          client := Client.start v.claim s.clientWriter ⟨s.clientReader, .empty⟩ clientSink }
  | step {v : Visitor} {state : Host.State σ} {spoken heard toHost toClient : ByteArray}
      {d d' : Dialogue σ} (before : Session s v state spoken heard d)
      (hstep : Step (s.rules v) d toHost toClient d') :
      Session s v state (spoken ++ toHost) (heard ++ toClient) d'
  | again {v w : Visitor} {state : Host.State σ} {spoken heard : ByteArray} {d : Dialogue σ}
      {reason : String} (before : Session s v state spoken heard d)
      (hrejected : d.client.result = some (.error (.rejected .authFailed reason)))
      (hopen : d.host.result = none) (hsuits : s.Suits (w.talk s.react d.host.state)) :
      Session s w d.host.state .empty .empty
        { d with client := Client.start w.claim s.clientWriter d.client.reader d.client.sink }

-- ======================================================= a frame under way

/-- A frame that one side has written and the other has not yet received as a whole,
while there is nothing else between them. -/
structure Way (a : Exchange τ) (b : Exchange υ) (m : Message) : Prop where
  frame : Frame.bytes m.toTx = b.reader.buffer ++ a.sink.accepted
  more : a.sink.accepted.size ≠ 0
  quiet : b.sink.accepted = .empty
  clear : a.reader.buffer = .empty
  waits : b.result = none

section Ways

variable {a : Exchange τ} {b : Exchange υ} {m : Message} {side : Side υ} {chunk rest : ByteArray}

/-- A chunk that is not the last leaves the frame under way. -/
theorem Way.part (h : Way a b m) (hsent : a.sink.accepted = chunk ++ rest)
    (hrest : rest.size ≠ 0) :
    Way (a.left rest)
      { b with reader := { b.reader with buffer := b.reader.buffer ++ chunk } } m where
  frame := by
    show _ = (b.reader.buffer ++ chunk) ++ rest
    rw [ByteArray.append_assoc, ← hsent]
    exact h.frame
  more := hrest
  quiet := h.quiet
  clear := h.clear
  waits := h.waits

/-- What a chunk does: it only adds to the buffer, or it is the last and the message
is handled. -/
theorem Way.feed (side : Side υ) (h : Way a b m) (hfits : m.Fits b.reader.config)
    (htimeout : side.timeout ≠ 0)
    (hsent : a.sink.accepted = chunk ++ rest) (hchunk : chunk.size ≠ 0) (waited : Nat) :
    (rest.size ≠ 0 ∧ b.feed side (.bytes chunk) waited
        = { b with reader := { b.reader with buffer := b.reader.buffer ++ chunk } })
      ∨ (rest = .empty ∧ b.feed side (.bytes chunk) waited
        = { b with reader := { b.reader with buffer := .empty } }.handle side m) := by
  have hframe := h.frame
  rw [hsent] at hframe
  by_cases hrest : rest.size = 0
  · have hempty : rest = .empty := ByteArray.size_eq_zero_iff.mp hrest
    rw [hempty, ByteArray.append_empty] at hframe
    refine .inr ⟨hempty, ?_⟩
    rw [Exchange.feed_whole h.waits htimeout hfits.writable hfits.within hframe hchunk,
      Exchange.receive, Message.ofTx_toTx hfits]
  · exact .inl ⟨hrest, Exchange.feed_part h.waits htimeout hfits.writable hfits.within hframe
      hchunk hrest waited⟩

/-- A failed read that is made again changes nothing while there is no whole frame. -/
theorem feed_idle {waited : Nat} {error : IoError} (hopen : b.result = none)
    (hbuffer : Frame.decode b.reader.config b.reader.buffer = .incomplete)
    (htimeout : side.timeout ≠ 0) (hidle : Idle side.timeout waited error) :
    b.feed side (.failed error) waited = b := by
  have hsome : ¬b.result.isSome = true := by rw [hopen]; exact Bool.false_ne_true
  rw [Exchange.feed, if_neg hsome, Reader.absorb]
  by_cases hkind : error.kind = .interrupted
  · rw [if_pos hkind]
    exact Exchange.settle_of_incomplete htimeout _ hbuffer
  · obtain ⟨hstall, htime⟩ := hidle.resolve_left hkind
    rw [if_neg hkind]
    dsimp only
    rw [Exchange.afterFailure, if_pos hstall, if_neg (Nat.not_le.mpr htime)]

theorem Way.incomplete (h : Way a b m) (hfits : m.Fits b.reader.config) :
    Frame.decode b.reader.config b.reader.buffer = .incomplete :=
  Frame.decode_front hfits.writable hfits.within h.frame h.more

/-- On a willing sink a reply that fits is written whole. -/
theorem handle_said (side : Side υ) {r : Reaction υ} {reply : Message} (hopen : b.result = none)
    (hquiet : b.sink.accepted = .empty) (hwilling : b.sink.Willing side.limits.writeTimeout)
    (hreact : side.react b.state m = r) (hreply : r.reply = some reply)
    (hfits : reply.Fits side.limits) :
    ∃ sink, b.handle side m = { b with state := r.state, sink := sink, result := r.result }
      ∧ sink.accepted = Frame.bytes reply.toTx ∧ sink.Willing side.limits.writeTimeout := by
  obtain ⟨sink, hwrite, haccepted, hafter⟩ :=
    Writer.write_of_willing (Message.encode_toTx_iff.mpr ⟨hfits, rfl⟩) hwilling
  rw [hquiet, ByteArray.empty_append] at haccepted
  refine ⟨sink, ?_, haccepted, hafter⟩
  have hcases := Exchange.handled side hopen m
  generalize b.handle side m = handled at hcases ⊢
  cases hcases with
  | silent hnone =>
      rw [hreact, hreply] at hnone
      cases hnone
  | said hsaid hwritten =>
      rw [hreact, hreply] at hsaid
      rw [← Option.some.inj hsaid, hwrite] at hwritten
      rw [← (Prod.mk.inj hwritten).2, hreact]
  | unsaid hsaid hwritten =>
      rw [hreact, hreply] at hsaid
      rw [← Option.some.inj hsaid, hwrite] at hwritten
      cases hwritten

/-- To a message without a reply nothing is written. -/
theorem handle_silent {r : Reaction υ} (hopen : b.result = none)
    (hreact : side.react b.state m = r) (hreply : r.reply = none) :
    b.handle side m = { b with state := r.state, result := r.result } := by
  unfold Exchange.handle
  dsimp only
  rw [hreact, hreply]
  dsimp only
  rw [hopen]

/-- How a side that has an answer takes a chunk: the frame is still under way, or
what was answered is. -/
inductive Fed (a a' : Exchange τ) (b b' : Exchange υ) (m reply : Message) (r : Reaction υ) : Prop
  | part (hstate : b'.state = b.state) (hresult : b'.result = b.result)
      (hsink : b'.sink.accepted = b.sink.accepted) (hway : Way a' b' m) : Fed a a' b b' m reply r
  | whole (hstate : b'.state = r.state) (hresult : b'.result = r.result)
      (hsink : b'.sink.accepted = Frame.bytes reply.toTx) (hway : Way b' a' reply) :
      Fed a a' b b' m reply r

/-- A chunk reaches a side that has an answer. -/
theorem Way.fed (side : Side υ) {r : Reaction υ} {reply : Message} (h : Way a b m)
    (hopen : a.result = none)
    (hfits : m.Fits b.reader.config) (htimeout : side.timeout ≠ 0)
    (hwilling : b.sink.Willing side.limits.writeTimeout) (hreact : side.react b.state m = r)
    (hreply : r.reply = some reply) (hroom : reply.Fits side.limits)
    (hsent : a.sink.accepted = chunk ++ rest) (hchunk : chunk.size ≠ 0) (waited : Nat) :
    (b.feed side (.bytes chunk) waited).reader.config = b.reader.config
      ∧ (b.feed side (.bytes chunk) waited).sink.Willing side.limits.writeTimeout
      ∧ Fed a (a.left rest) b (b.feed side (.bytes chunk) waited) m reply r := by
  rcases h.feed side hfits htimeout hsent hchunk waited with ⟨hrest, hpart⟩ | ⟨hrest, hwhole⟩
  · rw [hpart]
    exact ⟨rfl, hwilling, .part rfl rfl rfl (h.part hsent hrest)⟩
  · obtain ⟨sink, hhandle, haccepted, hafter⟩ := handle_said side (m := m)
      (b := { b with reader := { b.reader with buffer := .empty } }) h.waits h.quiet hwilling
      hreact hreply hroom
    rw [hwhole, hhandle, hrest]
    refine ⟨rfl, hafter, .whole rfl rfl haccepted ⟨?_, ?_, rfl, rfl, hopen⟩⟩
    · show _ = a.reader.buffer ++ sink.accepted
      rw [haccepted, h.clear, ByteArray.empty_append]
    · show sink.accepted.size ≠ 0
      rw [haccepted]
      exact Frame.size_bytes_ne_zero _

theorem willing_left {timeout : Option Nat} (h : a.sink.Willing timeout) (rest : ByteArray) :
    (a.left rest).sink.Willing timeout := ⟨h.writes, h.flushes⟩

end Ways

-- ================================================================ stages

/-- What is the same at every moment of a session. -/
structure Fair (s : Setting σ) (d : Dialogue σ) : Prop where
  hostReader : d.host.reader.config = s.hostReader
  clientReader : d.client.reader.config = s.clientReader
  hostSink : d.host.sink.Willing s.hostWriter.writeTimeout
  clientSink : d.client.sink.Willing s.clientWriter.writeTimeout

/-- An attempt in which the host has given a challenge: what is still to be said, and
how it ends. -/
structure Asked (s : Setting σ) (v : Visitor) (state asked : Host.State σ) (c : Challenge)
    (reply : Message) (verdict : Except SessionError Checkpoint) : Prop where
  talk_eq : v.talk s.react state
    = ⟨[.claim v.claim, v.response c], [.challenge c, reply],
        (s.react asked (v.response c)).state, (s.react asked (v.response c)).result⟩
  reply_eq : (s.react asked (v.response c)).reply = some reply
  judged : Verdict reply (s.react asked (v.response c)).state
    (s.react asked (v.response c)).result verdict

/-- How far an attempt is, with what each side has said in it. -/
inductive Stage (s : Setting σ) (v : Visitor) (state : Host.State σ) :
    List Message → List Message → Dialogue σ → Prop
  | claiming {d : Dialogue σ} (hstate : d.host.state = state)
      (hphase : d.client.state = .challenge) (hopen : d.client.result = none)
      (hway : Way d.client d.host (.claim v.claim)) :
      Stage s v state [.claim v.claim] [] d
  | challenged {d : Dialogue σ} {c : Challenge} {reply : Message}
      {verdict : Except SessionError Checkpoint}
      (hasked : Asked s v state d.host.state c reply verdict)
      (hphase : d.client.state = .challenge) (hopen : d.host.result = none)
      (hway : Way d.host d.client (.challenge c)) :
      Stage s v state [.claim v.claim] [.challenge c] d
  | responding {d : Dialogue σ} {c : Challenge} {reply : Message}
      {verdict : Except SessionError Checkpoint}
      (hasked : Asked s v state d.host.state c reply verdict) (hopen : d.client.result = none)
      (hway : Way d.client d.host (v.response c)) :
      Stage s v state [.claim v.claim, v.response c] [.challenge c] d
  | judged {d : Dialogue σ} {byVisitor before : List Message} {reply : Message}
      {verdict : Except SessionError Checkpoint}
      (htalk : v.talk s.react state
        = ⟨byVisitor, before ++ [reply], d.host.state, d.host.result⟩)
      (hverdict : Verdict reply d.host.state d.host.result verdict)
      (hway : Way d.host d.client reply) :
      Stage s v state byVisitor (before ++ [reply]) d
  | settled {d : Dialogue σ} {byVisitor before : List Message} {reply : Message}
      {verdict : Except SessionError Checkpoint}
      (htalk : v.talk s.react state
        = ⟨byVisitor, before ++ [reply], d.host.state, d.host.result⟩)
      (hverdict : Verdict reply d.host.state d.host.result verdict)
      (hresult : d.client.result = some verdict) (hhost : d.host.reader.buffer = .empty)
      (hclient : d.client.reader.buffer = .empty) (hhostSent : d.host.sink.accepted = .empty)
      (hclientSent : d.client.sink.accepted = .empty) :
      Stage s v state byVisitor (before ++ [reply]) d

/-- The bytes in which some messages are written. -/
def written (ms : List Message) : ByteArray := Frame.wire (ms.map Message.toTx)

theorem written_append (ms : List Message) (m : Message) :
    written (ms ++ [m]) = written ms ++ Frame.bytes m.toTx := by
  rw [written, List.map_append, Frame.wire_append]
  exact congrArg _ ByteArray.append_empty

/-- Where a session stands: how far the attempt is, and that the bytes which have
arrived and those under way are those of what was said. -/
structure Standing (s : Setting σ) (v : Visitor) (state : Host.State σ)
    (spoken heard : ByteArray) (d : Dialogue σ) : Prop where
  phase : state.phase = .claim
  fair : Fair s d
  suits : s.Suits (v.talk s.react state)
  stage : ∃ byVisitor byHost, Stage s v state byVisitor byHost d
    ∧ spoken ++ d.client.sink.accepted = written byVisitor
    ∧ heard ++ d.host.sink.accepted = written byHost

section Steps

variable {s : Setting σ} {v : Visitor} {state : Host.State σ} {spoken heard : ByteArray}
  {d d' : Dialogue σ}

/-- How any attempt goes. -/
theorem course (s : Setting σ) (v : Visitor) (state : Host.State σ) :
    Course s.react state v (v.talk s.react state) := course_talk state v

theorem claim_fits (hsuits : s.Suits (v.talk s.react state)) :
    (Message.claim v.claim).Fits s.clientWriter ∧ (Message.claim v.claim).Fits s.hostReader := by
  have hcourse := course s v state
  generalize v.talk s.react state = t at hcourse hsuits
  cases hcourse with
  | short | long => exact hsuits.byVisitor _ List.mem_cons_self

section Asked

variable {asked : Host.State σ} {c : Challenge} {reply : Message}
  {verdict : Except SessionError Checkpoint}

theorem Asked.challenge_fits (h : Asked s v state asked c reply verdict)
    (hsuits : s.Suits (v.talk s.react state)) :
    (Message.challenge c).Fits s.hostWriter ∧ (Message.challenge c).Fits s.clientReader := by
  refine hsuits.byHost _ ?_
  rw [h.talk_eq]
  exact List.mem_cons_self

theorem Asked.response_fits (h : Asked s v state asked c reply verdict)
    (hsuits : s.Suits (v.talk s.react state)) :
    (v.response c).Fits s.clientWriter ∧ (v.response c).Fits s.hostReader := by
  refine hsuits.byVisitor _ ?_
  rw [h.talk_eq]
  exact List.mem_cons_of_mem _ List.mem_cons_self

theorem Asked.reply_fits (h : Asked s v state asked c reply verdict)
    (hsuits : s.Suits (v.talk s.react state)) :
    reply.Fits s.hostWriter ∧ reply.Fits s.clientReader := by
  refine hsuits.byHost _ ?_
  rw [h.talk_eq]
  exact List.mem_cons_of_mem _ List.mem_cons_self

end Asked

/-- The first message of an attempt has been written. -/
theorem standing_start (host : Exchange (Host.State σ)) {reader : Reader} {sink : Sink}
    {unread : Bool} (hphase : host.state.phase = .claim)
    (hhost : host.reader = ⟨s.hostReader, .empty⟩) (hquiet : host.sink.accepted = .empty)
    (hwaits : host.result = none) (hhostSink : host.sink.Willing s.hostWriter.writeTimeout)
    (hreader : reader = ⟨s.clientReader, .empty⟩) (hempty : sink.accepted = .empty)
    (hsink : sink.Willing s.clientWriter.writeTimeout)
    (hsuits : s.Suits (v.talk s.react host.state)) :
    Standing s v host.state .empty .empty
      { host := host, client := Client.start v.claim s.clientWriter reader sink,
        unread := unread } := by
  obtain ⟨after, hwrite, haccepted, hafter⟩ := Writer.write_of_willing
    (Message.encode_toTx_iff.mpr ⟨(claim_fits hsuits).1, rfl⟩) hsink
  rw [hempty, ByteArray.empty_append] at haccepted
  have hstart : Client.start v.claim s.clientWriter reader sink
      = ⟨.challenge, reader, after, none⟩ := by
    rw [Client.start, Exchange.send, hwrite]
  rw [hstart]
  refine ⟨hphase, ⟨by rw [hhost], by rw [hreader], hhostSink, hafter⟩, hsuits, _, _,
    .claiming rfl rfl rfl ⟨?_, ?_, hquiet, by rw [hreader], hwaits⟩, ?_, ?_⟩
  · rw [hhost, haccepted, ByteArray.empty_append]
  · rw [haccepted]
    exact Frame.size_bytes_ne_zero _
  · rw [haccepted, ByteArray.empty_append]
    exact ByteArray.append_empty.symm
  · rw [hquiet]
    rfl

theorem not_sent_of_empty {bytes chunk rest : ByteArray} (hempty : bytes = .empty)
    (hsent : bytes = chunk ++ rest) : chunk.size = 0 := by
  have hsize := congrArg ByteArray.size (hempty.symm.trans hsent)
  rw [ByteArray.size_append] at hsize
  exact Nat.eq_zero_of_add_eq_zero_right hsize.symm

/-- Bytes that move from a sink to its reader are counted once. -/
theorem moved {spoken sent chunk rest : ByteArray} {ms : List Message}
    (hcount : spoken ++ sent = written ms) (hsent : sent = chunk ++ rest) :
    (spoken ++ chunk) ++ rest = written ms := by
  rw [ByteArray.append_assoc, ← hsent, hcount]

/-- A message that is written is counted. -/
theorem told {heard sent frame : ByteArray} {ms : List Message} {m : Message}
    (hcount : heard ++ sent = written ms) (hempty : sent = .empty)
    (hframe : frame = Frame.bytes m.toTx) :
    heard ++ frame = written (ms ++ [m]) := by
  rw [hempty, ByteArray.append_empty] at hcount
  rw [written_append, ← hcount, hframe]

/-- The answer to a claim, and the stage in which it is under way. -/
theorem exists_answer (s : Setting σ) (v : Visitor) (state : Host.State σ) :
    ∃ reply, (s.react state (.claim v.claim)).reply = some reply
      ∧ reply ∈ (v.talk s.react state).byHost
      ∧ ∀ d : Dialogue σ, d.host.state = (s.react state (.claim v.claim)).state →
          d.host.result = (s.react state (.claim v.claim)).result →
          d.client.state = .challenge → Way d.host d.client reply →
          Stage s v state [.claim v.claim] [reply] d := by
  have hcourse := course s v state
  generalize htalk : v.talk s.react state = t at hcourse
  cases hcourse with
  | @short first reply verdict hfirst hreply hverdict =>
      subst hfirst
      refine ⟨reply, hreply, List.mem_cons_self, fun d hstate hresult _ hway => ?_⟩
      rw [← hstate, ← hresult] at htalk hverdict
      show Stage s v state [.claim v.claim] ([] ++ [reply]) d
      exact .judged htalk hverdict hway
  | @long first second c reply verdict hfirst hchallenge hopen hsecond hreply hverdict =>
      subst hfirst hsecond
      refine ⟨.challenge c, hchallenge, List.mem_cons_self,
        fun d hstate hresult hphase hway => ?_⟩
      rw [← hstate] at htalk hreply hverdict
      exact .challenged ⟨htalk, hreply, hverdict⟩ hphase (hresult.trans hopen) hway

/-- A chunk reaches the host. -/
theorem Standing.toHost (h : Standing s v state spoken heard d) {chunk rest : ByteArray}
    (waited : Nat) (hsent : d.client.sink.accepted = chunk ++ rest) (hchunk : chunk.size ≠ 0) :
    Standing s v state (spoken ++ chunk) heard
      { d with host := d.host.feed (s.rules v).host (.bytes chunk) waited,
               client := d.client.left rest } := by
  obtain ⟨hbegin, hfair, hsuits, byVisitor, byHost, hstage, hspoken, hheard⟩ := h
  have hclient := willing_left hfair.clientSink rest
  cases hstage with
  -- In these stages nothing of the client's is under way.
  | challenged _ _ _ hway | judged _ _ hway =>
      exact absurd (not_sent_of_empty hway.quiet hsent) hchunk
  | settled _ _ _ _ _ _ hclientSent =>
      exact absurd (not_sent_of_empty hclientSent hsent) hchunk
  | claiming hstate hphase hopen hway =>
      subst hstate
      obtain ⟨reply, hreply, hmem, hnext⟩ := exists_answer s v d.host.state
      have hfits := (claim_fits hsuits).2
      rw [← hfair.hostReader] at hfits
      obtain ⟨hconfig, hwilling, hfed⟩ := hway.fed (s.rules v).host hopen hfits
        s.hostTimeout_ne hfair.hostSink rfl hreply (hsuits.byHost reply hmem).1 hsent hchunk waited
      generalize d.host.feed (s.rules v).host (.bytes chunk) waited = host at *
      have hfair' : Fair s { d with host := host, client := d.client.left rest } :=
        ⟨hconfig.trans hfair.hostReader, hfair.clientReader, hwilling, hclient⟩
      cases hfed with
      | part hstate' hresult' hsink hway' =>
          exact ⟨hbegin, hfair', hsuits, _, _, .claiming hstate' hphase hopen hway',
            moved hspoken hsent, by rw [hsink]; exact hheard⟩
      | whole hstate' hresult' hsink hway' =>
          exact ⟨hbegin, hfair', hsuits, _, _, hnext _ hstate' hresult' hphase hway',
            moved hspoken hsent, told hheard hway.quiet hsink⟩
  | @responding _ c reply verdict hasked hopen hway =>
      have hfits := (hasked.response_fits hsuits).2
      have hroom := (hasked.reply_fits hsuits).1
      rw [← hfair.hostReader] at hfits
      obtain ⟨hconfig, hwilling, hfed⟩ := hway.fed (s.rules v).host hopen hfits
        s.hostTimeout_ne hfair.hostSink rfl hasked.reply_eq hroom hsent hchunk waited
      generalize d.host.feed (s.rules v).host (.bytes chunk) waited = host at *
      have hfair' : Fair s { d with host := host, client := d.client.left rest } :=
        ⟨hconfig.trans hfair.hostReader, hfair.clientReader, hwilling, hclient⟩
      cases hfed with
      | part hstate' hresult' hsink hway' =>
          exact ⟨hbegin, hfair', hsuits, _, _,
            .responding (by rw [hstate']; exact hasked) hopen hway',
            moved hspoken hsent, by rw [hsink]; exact hheard⟩
      | whole hstate' hresult' hsink hway' =>
          have htalk := hasked.talk_eq
          have hverdict := hasked.judged
          change host.state = (s.react d.host.state (v.response c)).state at hstate'
          change host.result = (s.react d.host.state (v.response c)).result at hresult'
          rw [← hstate', ← hresult'] at htalk hverdict
          exact ⟨hbegin, hfair', hsuits, _, _, Stage.judged htalk hverdict hway',
            moved hspoken hsent, told hheard hway.quiet hsink⟩

/-- A chunk reaches the client. -/
theorem Standing.toClient (h : Standing s v state spoken heard d) {chunk rest : ByteArray}
    (waited : Nat) (hsent : d.host.sink.accepted = chunk ++ rest) (hchunk : chunk.size ≠ 0) :
    Standing s v state spoken (heard ++ chunk)
      { d with host := d.host.left rest,
               client := d.client.feed (s.rules v).client (.bytes chunk) waited } := by
  obtain ⟨hbegin, hfair, hsuits, byVisitor, byHost, hstage, hspoken, hheard⟩ := h
  have hhost := willing_left hfair.hostSink rest
  cases hstage with
  -- In these stages nothing of the host's is under way.
  | claiming _ _ _ hway | responding _ _ hway =>
      exact absurd (not_sent_of_empty hway.quiet hsent) hchunk
  | settled _ _ _ _ _ hhostSent =>
      exact absurd (not_sent_of_empty hhostSent hsent) hchunk
  | @challenged _ c reply verdict hasked hphase hopen hway =>
      have hfits := (hasked.challenge_fits hsuits).2
      have hroom := (hasked.response_fits hsuits).1
      rw [← hfair.clientReader] at hfits
      -- Only a client that still waits for its challenge answers it.
      have hreact : (s.rules v).client.react d.client.state (.challenge c)
          = ⟨some (v.response c), .verdict, none⟩ := by rw [hphase]; rfl
      obtain ⟨hconfig, hwilling, hfed⟩ := hway.fed (s.rules v).client hopen hfits
        s.clientTimeout_ne hfair.clientSink hreact rfl hroom hsent hchunk waited
      generalize d.client.feed (s.rules v).client (.bytes chunk) waited = client at *
      have hfair' : Fair s { d with host := d.host.left rest, client := client } :=
        ⟨hfair.hostReader, hconfig.trans hfair.clientReader, hhost, hwilling⟩
      cases hfed with
      | part hstate' hresult' hsink hway' =>
          exact ⟨hbegin, hfair', hsuits, _, _,
            .challenged hasked (hstate'.trans hphase) hopen hway',
            by rw [hsink]; exact hspoken, moved hheard hsent⟩
      | whole hstate' hresult' hsink hway' =>
          exact ⟨hbegin, hfair', hsuits, _, _, .responding hasked hresult' hway',
            told hspoken hway.quiet hsink, moved hheard hsent⟩
  | @judged _ _ before reply verdict htalk hverdict hway =>
      have hfits := (hsuits.byHost reply
        (by rw [htalk]; exact List.mem_append_right _ List.mem_cons_self)).2
      rw [← hfair.clientReader] at hfits
      have hfair' : ∀ reader state result, reader.config = s.clientReader →
          Fair s { d with host := d.host.left rest,
                          client := ⟨state, reader, d.client.sink, result⟩ } :=
        fun _ _ _ hreader => ⟨hfair.hostReader, hreader, hhost, hfair.clientSink⟩
      rcases hway.feed (s.rules v).client hfits s.clientTimeout_ne hsent hchunk waited
        with ⟨hrest, hpart⟩ | ⟨hrest, hwhole⟩
      · rw [hpart]
        exact ⟨hbegin, hfair' _ _ _ hfair.clientReader, hsuits, _, _,
          .judged htalk hverdict (hway.part hsent hrest), hspoken, moved hheard hsent⟩
      · have hreact := hverdict.react_eq v.claim.userId v.respond d.client.state
        rw [hwhole, handle_silent (b := { d.client with
          reader := { d.client.reader with buffer := .empty } }) hway.waits hreact rfl]
        exact ⟨hbegin, hfair' _ _ _ hfair.clientReader, hsuits, _, _,
          .settled htalk hverdict rfl hway.clear rfl hrest hway.quiet, hspoken,
          moved hheard hsent⟩

/-- As long as a side is open there is no whole frame in its buffer. -/
theorem Standing.host_incomplete (h : Standing s v state spoken heard d) :
    Frame.decode d.host.reader.config d.host.reader.buffer = .incomplete := by
  obtain ⟨-, hfair, hsuits, byVisitor, byHost, hstage, -, -⟩ := h
  cases hstage with
  | claiming _ _ _ hway =>
      exact hway.incomplete (by rw [hfair.hostReader]; exact (claim_fits hsuits).2)
  | @responding _ c _ _ hasked _ hway =>
      exact hway.incomplete (by rw [hfair.hostReader]; exact (hasked.response_fits hsuits).2)
  | challenged _ _ _ hway | judged _ _ hway => rw [hway.clear]; rfl
  | settled _ _ _ hhost => rw [hhost]; rfl

theorem Standing.client_incomplete (h : Standing s v state spoken heard d) :
    Frame.decode d.client.reader.config d.client.reader.buffer = .incomplete := by
  obtain ⟨-, hfair, hsuits, byVisitor, byHost, hstage, -, -⟩ := h
  cases hstage with
  | claiming _ _ _ hway | responding _ _ hway => rw [hway.clear]; rfl
  | challenged hasked _ _ hway =>
      exact hway.incomplete (by rw [hfair.clientReader]; exact (hasked.challenge_fits hsuits).2)
  | judged htalk _ hway =>
      refine hway.incomplete ?_
      rw [hfair.clientReader]
      exact (hsuits.byHost _ (by rw [htalk]; exact List.mem_append_right _ List.mem_cons_self)).2
  | settled _ _ _ _ hclient => rw [hclient]; rfl

/-- Every read call leaves a session standing. -/
theorem Standing.step (h : Standing s v state spoken heard d) {toHost toClient : ByteArray}
    (hstep : Step (s.rules v) d toHost toClient d') :
    Standing s v state (spoken ++ toHost) (heard ++ toClient) d' := by
  cases hstep with
  | toHost waited hopen hsent hchunk =>
      rw [ByteArray.append_empty]
      exact h.toHost waited hsent hchunk
  | toClient waited hopen hsent hchunk =>
      rw [ByteArray.append_empty]
      exact h.toClient waited hsent hchunk
  | hostIdle hopen hidle =>
      rw [ByteArray.append_empty, ByteArray.append_empty,
        feed_idle hopen h.host_incomplete s.hostTimeout_ne hidle]
      exact h
  | clientIdle hopen hidle =>
      rw [ByteArray.append_empty, ByteArray.append_empty,
        feed_idle hopen h.client_incomplete s.clientTimeout_ne hidle]
      exact h

/-- Once the client has its verdict the attempt is over on both sides. -/
theorem Standing.settled {verdict : Except SessionError Checkpoint}
    (h : Standing s v state spoken heard d) (hresult : d.client.result = some verdict) :
    ∃ byVisitor before reply,
      v.talk s.react state = ⟨byVisitor, before ++ [reply], d.host.state, d.host.result⟩
      ∧ Verdict reply d.host.state d.host.result verdict
      ∧ spoken = written byVisitor ∧ heard = written (before ++ [reply])
      ∧ d.host.reader.buffer = .empty ∧ d.client.reader.buffer = .empty
      ∧ d.host.sink.accepted = .empty ∧ d.client.sink.accepted = .empty := by
  obtain ⟨-, -, -, byVisitor, byHost, hstage, hspoken, hheard⟩ := h
  cases hstage with
  | claiming _ _ hopen | responding _ hopen => cases hopen.symm.trans hresult
  | challenged _ _ _ hway | judged _ _ hway => cases hway.waits.symm.trans hresult
  | settled htalk hverdict hdone hhost hclient hhostSent hclientSent =>
      rw [hclientSent, ByteArray.append_empty] at hspoken
      rw [hhostSent, ByteArray.append_empty] at hheard
      cases hdone.symm.trans hresult
      exact ⟨_, _, _, htalk, hverdict, hspoken, hheard, hhost, hclient, hhostSent, hclientSent⟩

/-- Every session stands somewhere. -/
theorem standing_of_session (h : Session s v state spoken heard d) :
    Standing s v state spoken heard d := by
  induction h with
  | first hhost hclient hhostEmpty hclientEmpty hsuits =>
      exact standing_start (Host.start _ _ _ _) rfl rfl hhostEmpty rfl hhost rfl hclientEmpty
        hclient hsuits
  | step before hstep ih => exact ih.step hstep
  | @again v w state spoken heard d reason before hrejected hopen hsuits ih =>
      obtain ⟨_, _, reply, -, hverdict, -, -, hhost, hclient, hhostSent, hclientSent⟩ :=
        ih.settled hrejected
      have hphase : d.host.state.phase = .claim := by
        rw [hopen] at hverdict
        cases hverdict with
        | again _ _ hphase => exact hphase
      have hhostReader : d.host.reader = ⟨s.hostReader, .empty⟩ := by
        rw [← ih.fair.hostReader, ← hhost]
      have hclientReader : d.client.reader = ⟨s.clientReader, .empty⟩ := by
        rw [← ih.fair.clientReader, ← hclient]
      exact standing_start d.host hphase hhostReader hhostSent hopen ih.fair.hostSink
        hclientReader hclientSent ih.fair.clientSink hsuits

/-- While the client waits for its verdict there is something to deliver. -/
theorem Standing.progress (h : Standing s v state spoken heard d)
    (hopen : d.client.result = none) :
    ∃ toHost toClient d', 0 < toHost.size + toClient.size
      ∧ Step (s.rules v) d toHost toClient d' := by
  obtain ⟨-, -, -, byVisitor, byHost, hstage, -, -⟩ := h
  cases hstage with
  | claiming _ _ _ hway | responding _ _ hway =>
      exact ⟨_, _, _, Nat.lt_of_lt_of_le (Nat.pos_of_ne_zero hway.more) (Nat.le_add_right _ _),
        .toHost 0 hway.waits ByteArray.append_empty.symm hway.more⟩
  | challenged _ _ _ hway | judged _ _ hway =>
      exact ⟨_, _, _, Nat.lt_of_lt_of_le (Nat.pos_of_ne_zero hway.more) (Nat.le_add_left _ _),
        .toClient 0 hway.waits ByteArray.append_empty.symm hway.more⟩
  | settled _ _ hresult => cases hresult.symm.trans hopen

theorem claim_comes_first (s : Setting σ) (v : Visitor) (state : Host.State σ) :
    [.claim v.claim] <+: (v.talk s.react state).byVisitor := by
  have hcourse := course s v state
  generalize v.talk s.react state = t at hcourse
  cases hcourse with
  | short => exact List.prefix_rfl
  | long => exact List.prefix_append _ _

/-- No more has been said than the attempt's talk. -/
theorem Stage.prefixes {byVisitor byHost : List Message}
    (h : Stage s v state byVisitor byHost d) :
    byVisitor <+: (v.talk s.react state).byVisitor
      ∧ byHost <+: (v.talk s.react state).byHost := by
  cases h with
  | claiming => exact ⟨claim_comes_first s v state, List.nil_prefix⟩
  | challenged hasked =>
      rw [hasked.talk_eq]
      exact ⟨List.prefix_append _ _, List.prefix_append _ _⟩
  | responding hasked =>
      rw [hasked.talk_eq]
      exact ⟨List.prefix_rfl, List.prefix_append _ _⟩
  | judged htalk | settled htalk =>
      rw [htalk]
      exact ⟨List.prefix_rfl, List.prefix_rfl⟩

theorem size_written_le {some all : List Message} (h : some <+: all) :
    (written some).size ≤ (written all).size := by
  obtain ⟨others, rfl⟩ := h
  rw [written, written, List.map_append, Frame.wire_append, ByteArray.size_append]
  exact Nat.le_add_right _ _

/-- No more is delivered in an attempt than is said in it. -/
theorem Standing.bounded (h : Standing s v state spoken heard d) :
    spoken.size + heard.size ≤ (written (v.talk s.react state).byVisitor).size
      + (written (v.talk s.react state).byHost).size := by
  obtain ⟨-, -, -, byVisitor, byHost, hstage, hspoken, hheard⟩ := h
  obtain ⟨hvisitor, hhost⟩ := hstage.prefixes
  have hv := size_written_le hvisitor
  have hh := size_written_le hhost
  rw [← hspoken, ByteArray.size_append] at hv
  rw [← hheard, ByteArray.size_append] at hh
  omega

end Steps

end CellSync.Login
