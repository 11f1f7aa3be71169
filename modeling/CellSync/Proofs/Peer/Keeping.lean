/-
What becomes of the messages that arrive at a client.

A client reads in three ways: a commit waits for its answer, and the other
two calls take the oldest message that was put aside, or else the next one.
Whatever is called, and wherever the stream stops or fails in between,
what the calls have handed out, then what is put aside, and then what is
still unread are the messages in the order in which they came, without
those that a call has taken away (`accounted_of_run`): the answer to a
commit, and a message over the client's own limits, which a call fails
with. So a message can be lost, but not in silence (`exists_refused`).
-/
import CellSync.Proofs.Peer.Commit

namespace CellSync

-- ============================================================== one read

namespace Reader

variable {r : Reader} {config : TxConfig} {calls : List Read} {tail : ByteArray} {unread : List Tx}

/-- How a read ends on a stream of messages, and which are left. -/
inductive Takes (config : TxConfig) : List Tx → Except TxError Tx → List Tx → Prop where
  | nothing (unread : List Tx) (error : TxError) : Takes config unread (.error error) unread
  | message {tx : Tx} {unread : List Tx} (hin : Frame.Within config tx) :
      Takes config (tx :: unread) (.ok tx) unread
  /-- Its frame is gone before its ops are counted. -/
  | refused {tx : Tx} {unread : List Tx} (hover : ¬Frame.Within config tx) :
      Takes config (tx :: unread) (.error (.tooManyOps tx.ops.length config.maxOps)) unread

/-- A look at messages takes the first of them, or nothing. -/
theorem takes_decode_wire (config : TxConfig) (hw : ∀ tx ∈ unread, Frame.Writable tx) :
    ∃ left, Takes config unread (Frame.answer (Frame.decode config (Frame.wire unread)).result) left
      ∧ (Frame.decode config (Frame.wire unread)).rest (Frame.wire unread) = Frame.wire left := by
  cases unread with
  | nil => exact ⟨[], .nothing _ _, rfl⟩
  | cons tx unread =>
      obtain ⟨hwtx, -⟩ := List.forall_mem_cons.mp hw
      rw [Frame.wire]
      by_cases hin : Frame.Within config tx
      · rw [Frame.decode_bytes_append hwtx hin]
        exact ⟨unread, .message hin, rfl⟩
      · rcases Frame.decode_bytes_append_over hwtx hin (Frame.wire unread) with
          ⟨error, hrefused⟩ | hspoiled
        · rw [hrefused]
          exact ⟨tx :: unread, .nothing _ _, rfl⟩
        · rw [hspoiled]
          exact ⟨unread, .refused hin, rfl⟩

/-- The same if the buffer has only the front of the messages, and that is enough. -/
theorem takes_decode {buffer more : ByteArray} (hw : ∀ tx ∈ unread, Frame.Writable tx)
    (hbytes : buffer ++ more = Frame.wire unread)
    (hfound : Frame.decode config buffer ≠ .incomplete) :
    ∃ left, Takes config unread (Frame.answer (Frame.decode config buffer).result) left
      ∧ (Frame.decode config buffer).rest buffer ++ more = Frame.wire left := by
  obtain ⟨left, htakes, hrest⟩ := takes_decode_wire config hw
  rw [← hbytes, Frame.decode_append_of_ne_incomplete hfound] at htakes hrest
  rw [Frame.answer_before] at htakes
  rw [Frame.rest_before hfound] at hrest
  exact ⟨left, htakes, hrest⟩

/-- A reader that has a whole message gives it, and calls nobody. -/
theorem read_of_complete {tx : Tx} {rest : ByteArray}
    (hdecode : Frame.decode r.config r.buffer = .complete tx rest) (calls : List Read) :
    r.read calls = ⟨.ok tx, { r with buffer := rest }, calls⟩ := by
  have hfound : Frame.decode r.config r.buffer ≠ .incomplete := by simp [hdecode]
  rw [read_of_ne_incomplete hfound, hdecode]
  rfl

theorem read_of_spoiled {error : TxError} {rest : ByteArray}
    (hdecode : Frame.decode r.config r.buffer = .spoiled error rest) (calls : List Read) :
    r.read calls = ⟨.error error, { r with buffer := rest }, calls⟩ := by
  have hfound : Frame.decode r.config r.buffer ≠ .incomplete := by simp [hdecode]
  rw [read_of_ne_incomplete hfound, hdecode]
  rfl

/-- Whatever its stream does, a read takes the first message or nothing. The
stream need not deliver all the bytes, and may end within a frame. -/
theorem takes_read (hw : ∀ tx ∈ unread, Frame.Writable tx)
    (hbytes : r.buffer ++ (Read.delivered calls ++ tail) = Frame.wire unread) :
    (r.read calls).reader.config = r.config
      ∧ ∃ left, Takes r.config unread (r.read calls).result left
        ∧ (r.read calls).reader.buffer ++ (Read.delivered (r.read calls).rest ++ tail)
          = Frame.wire left := by
  induction calls generalizing r with
  | nil =>
      by_cases hfound : Frame.decode r.config r.buffer = .incomplete
      · have hread : r.read [] = ⟨.error .connectionClosed, r, []⟩ := by
          rw [read, poll, hfound]
          rfl
        rw [hread]
        exact ⟨rfl, unread, .nothing _ _, hbytes⟩
      · rw [read_of_ne_incomplete hfound]
        exact ⟨rfl, takes_decode hw hbytes hfound⟩
  | cons call calls ih =>
      by_cases hfound : Frame.decode r.config r.buffer = .incomplete
      · rw [read_of_incomplete hfound]
        cases call with
        | bytes chunk =>
            rw [Read.delivered, ByteArray.append_assoc, ← ByteArray.append_assoc] at hbytes
            by_cases hend : chunk.size = 0
            · rw [absorb, if_pos hend]
              rw [ByteArray.size_eq_zero_iff.mp hend, ByteArray.append_empty] at hbytes
              exact ⟨rfl, unread, .nothing _ _, hbytes⟩
            · rw [absorb, if_neg hend]
              exact ih hbytes
        | failed error =>
            rw [absorb]
            by_cases hkind : error.kind = .interrupted
            · rw [if_pos hkind]
              exact ih hbytes
            · rw [if_neg hkind]
              exact ⟨rfl, unread, .nothing _ _, hbytes⟩
      · rw [read_of_ne_incomplete hfound]
        exact ⟨rfl, takes_decode hw hbytes hfound⟩

end Reader

-- ================================================================= calls

namespace Client

inductive Call where
  | commit (tx : Tx)
  | receive
  | poll

inductive Reply where
  | committed (tid : Tid)
  | message (tx : Tx)
  /-- No message came in time. -/
  | nothing

/-- A call that has been made: the number that a commit takes, and how it ended. -/
structure Turn where
  call : Call
  number : UInt64
  result : Except SessionError Reply

/-- Makes a call. -/
def take (l : Line) : Call → Except SessionError Reply × Line
  | .commit tx =>
    let (result, l) := commit l tx
    (result.map .committed, l)
  | .receive =>
    let out := l.client.receive l.calls
    (out.result.map .message, ⟨out.client, l.sink, out.rest⟩)
  | .poll =>
    let out := l.client.poll l.calls
    (out.result.map fun found => (found.map .message).getD .nothing, ⟨out.client, l.sink, out.rest⟩)

/-- Makes calls one after another, whatever becomes of each. -/
def run (l : Line) : List Call → List Turn × Line
  | [] => ([], l)
  | call :: rest =>
    let (result, after) := take l call
    let (turns, last) := run after rest
    (⟨call, l.client.next, result⟩ :: turns, last)

/-- The message that a call hands out, if it hands one out. -/
def Turn.returned (turn : Turn) : List Tx :=
  match turn.result with
  | .ok (.message tx) => [tx]
  | _ => []

/-- Of the messages on the stream none has been read, and the last of their bytes
may be still under way (`tail`). -/
structure Holds (l : Line) (tail : ByteArray) (unread : List Tx) : Prop where
  bytes : l.client.reader.buffer ++ (Read.delivered l.calls ++ tail) = Frame.wire unread
  writable : ∀ tx ∈ unread, Frame.Writable tx

-- ======================================================== what a call reads

/-- A message that is read and not kept. -/
inductive Removed where
  | answer (tx : Tx)
  | refused (tx : Tx)

def Removed.tx : Removed → Tx
  | answer tx => tx
  | refused tx => tx

/-- The messages that one call reads: some that are kept, and after them perhaps
one that is not. -/
structure Share where
  kept : List Tx := []
  removed : Option Removed := none

def Share.read (share : Share) : List Tx := share.kept ++ (share.removed.map (·.tx)).toList

/-- Why a call removes a message. -/
structure Accounts (config : TxConfig) (turn : Turn) (share : Share) : Prop where
  /-- Only a commit removes an answer, and that is its result. -/
  answer : ∀ reply, share.removed = some (.answer reply) →
    (∃ tx, turn.call = .commit tx) ∧ answers turn.number reply = true
      ∧ turn.result = (verdict reply).map .committed
  /-- It is the first answer that the commit reads. -/
  first : ∀ tx, turn.call = .commit tx → ∀ m ∈ share.kept, answers turn.number m = false
  refused : ∀ m, share.removed = some (.refused m) → ¬Frame.Within config m
    ∧ turn.result = .error (.tx (.tooManyOps m.ops.length config.maxOps))

/-- What a call does to a line on which these messages were unread. -/
structure Keeps (l after : Line) (tail : ByteArray) (unread : List Tx) (turn : Turn)
    (share : Share) (left : List Tx) : Prop where
  read : unread = share.read ++ left
  holds : Holds after tail left
  config_eq : after.client.reader.config = l.client.reader.config
  order : turn.returned ++ after.client.pending = l.client.pending ++ share.kept
  accounts : Accounts l.client.reader.config turn share

variable {c : Client} {l after : Line} {sink : Sink} {calls : List Read} {tail : ByteArray}
  {unread : List Tx} {turn : Turn}

theorem Accounts.nothing (config : TxConfig) (turn : Turn) : Accounts config turn {} := by
  refine ⟨fun reply hremoved => ?_, fun _ _ m hmem => ?_, fun m hremoved => ?_⟩
  · cases hremoved
  · cases hmem
  · cases hremoved

/-- A call that reads nothing keeps everything. -/
theorem Keeps.nothing (hholds : Holds after tail unread)
    (hconfig : after.client.reader.config = l.client.reader.config)
    (horder : turn.returned ++ after.client.pending = l.client.pending) :
    Keeps l after tail unread turn {} unread :=
  ⟨rfl, hholds, hconfig, horder.trans (List.append_nil _).symm, .nothing _ _⟩

/-- A call that meets a message over the limits fails with it. -/
theorem Keeps.refused {m : Tx} {left : List Tx} (hholds : Holds after tail left)
    (hconfig : after.client.reader.config = l.client.reader.config)
    (hpending : after.client.pending = l.client.pending)
    (hover : ¬Frame.Within l.client.reader.config m)
    (hresult : turn.result
      = .error (.tx (.tooManyOps m.ops.length l.client.reader.config.maxOps))) :
    Keeps l after tail (m :: left) turn ⟨[], some (.refused m)⟩ left := by
  have hreturned : turn.returned = [] := by
    rw [Turn.returned, hresult]
  refine ⟨rfl, hholds, hconfig, ?_, fun reply hreply => ?_, fun _ _ m hmem => ?_,
    fun other hother => ?_⟩
  · rw [hreturned, hpending]
    exact (List.append_nil _).symm
  · cases hreply
  · cases hmem
  · cases hother
    exact ⟨hover, hresult⟩

/-- A commit hands no message out. -/
theorem returned_committed (call : Call) (number : UInt64) (result : Except SessionError Tid) :
    Turn.returned ⟨call, number, result.map .committed⟩ = [] := by
  cases result <;> rfl

/-- While it waits, a commit reads messages and puts them aside, up to its answer or
to a failure. -/
theorem awaitAnswer_keeps (id : UInt64) (hholds : Holds ⟨c, sink, calls⟩ tail unread)
    (tx : Tx) :
    ∃ share left, Keeps ⟨c, sink, calls⟩
      ⟨(awaitAnswer id c calls).client, sink, (awaitAnswer id c calls).rest⟩ tail unread
      ⟨.commit tx, id, (awaitAnswer id c calls).result.map .committed⟩ share left := by
  fun_induction awaitAnswer id c calls generalizing unread with
  | case1 c calls error hread =>
      obtain ⟨hconfig, left, htakes, hbytes⟩ := Reader.takes_read hholds.writable hholds.bytes
      rw [hread] at htakes
      cases htakes with
      | nothing => exact ⟨{}, _, .nothing ⟨hbytes, hholds.writable⟩ hconfig rfl⟩
      | @refused m _ hover =>
          obtain ⟨-, hw⟩ := List.forall_mem_cons.mp hholds.writable
          exact ⟨_, _, .refused ⟨hbytes, hw⟩ hconfig rfl hover rfl⟩
  | case2 c calls reply hread _ _ =>
      rename_i hanswer
      obtain ⟨hconfig, left, htakes, hbytes⟩ := Reader.takes_read hholds.writable hholds.bytes
      rw [hread] at htakes
      cases htakes with
      | message hin =>
          obtain ⟨-, hw⟩ := List.forall_mem_cons.mp hholds.writable
          refine ⟨⟨[], some (.answer reply)⟩, left, rfl, ⟨hbytes, hw⟩, hconfig, ?_, ?_⟩
          · rw [returned_committed]
            exact (List.append_nil _).symm
          · refine ⟨fun other hother => ?_, fun _ _ m hmem => ?_, fun m hm => ?_⟩
            · cases hother
              exact ⟨⟨tx, rfl⟩, hanswer, rfl⟩
            · cases hmem
            · cases hm
  | case3 c calls m hread _ _ hother =>
      rename_i ih
      obtain ⟨hconfig, left, htakes, hbytes⟩ := Reader.takes_read hholds.writable hholds.bytes
      rw [hread] at htakes
      cases htakes with
      | message hin =>
          obtain ⟨-, hw⟩ := List.forall_mem_cons.mp hholds.writable
          obtain ⟨share, left, hkeeps⟩ := ih ⟨hbytes, hw⟩
          refine ⟨⟨m :: share.kept, share.removed⟩, left, ?_, hkeeps.holds,
            hkeeps.config_eq.trans hconfig, ?_, ?_⟩
          · exact congrArg (m :: ·) hkeeps.read
          · exact hkeeps.order.trans (List.append_assoc _ _ _)
          · obtain ⟨hanswer, hfirst, hrefused⟩ := hconfig ▸ hkeeps.accounts
            refine ⟨hanswer, fun tx hcall => ?_, hrefused⟩
            exact List.forall_mem_cons.mpr ⟨Bool.eq_false_iff.mpr hother, hfirst tx hcall⟩

theorem commit_keeps (hholds : Holds l tail unread) (tx : Tx) :
    ∃ share left, Keeps l (commit l tx).2 tail unread
      ⟨.commit tx, l.client.next, (commit l tx).1.map .committed⟩ share left := by
  unfold commit commitRequest number
  by_cases hkind : tx.info.kind ≠ .commit
  · rw [if_pos hkind]
    exact ⟨{}, unread, .nothing hholds rfl rfl⟩
  · rw [if_neg hkind]
    dsimp only
    split
    next error sink hwrite => exact ⟨{}, unread, .nothing ⟨hholds.bytes, hholds.writable⟩ rfl rfl⟩
    next sink hwrite =>
      have hwaiting : Holds ⟨{ l.client with next := l.client.next + 1 }, sink, l.calls⟩ tail unread :=
        ⟨hholds.bytes, hholds.writable⟩
      obtain ⟨share, left, hkeeps⟩ := awaitAnswer_keeps l.client.next hwaiting tx
      exact ⟨share, left, hkeeps.read, hkeeps.holds, hkeeps.config_eq, hkeeps.order, hkeeps.accounts⟩

/-- What was put aside comes first, and then the next message of the stream. -/
theorem receive_keeps (hholds : Holds l tail unread) :
    ∃ share left, Keeps l
      ⟨(l.client.receive l.calls).client, l.sink, (l.client.receive l.calls).rest⟩ tail unread
      ⟨.receive, l.client.next, (l.client.receive l.calls).result.map .message⟩ share left := by
  unfold receive
  cases hpending : l.client.pending with
  | cons tx pending =>
      refine ⟨{}, unread, .nothing ⟨hholds.bytes, hholds.writable⟩ rfl ?_⟩
      exact hpending.symm
  | nil =>
      obtain ⟨hconfig, left, htakes, hbytes⟩ := Reader.takes_read hholds.writable hholds.bytes
      unfold Client.read
      dsimp only
      generalize (l.client.reader.read l.calls).result = result at htakes
      cases htakes with
      | nothing error => exact ⟨{}, unread, .nothing ⟨hbytes, hholds.writable⟩ hconfig rfl⟩
      | @message tx _ hin =>
          obtain ⟨-, hw⟩ := List.forall_mem_cons.mp hholds.writable
          refine ⟨⟨[tx], none⟩, left, rfl, ⟨hbytes, hw⟩, hconfig, ?_, ?_⟩
          · show tx :: l.client.pending = l.client.pending ++ [tx]
            rw [hpending]
            rfl
          · refine ⟨fun reply hreply => ?_, fun other hcall => ?_, fun m hm => ?_⟩
            · cases hreply
            · cases hcall
            · cases hm
      | refused hover =>
          obtain ⟨-, hw⟩ := List.forall_mem_cons.mp hholds.writable
          exact ⟨_, _, .refused ⟨hbytes, hw⟩ hconfig rfl hover rfl⟩

/-- What a client that waits only so long gets is what it would have received. -/
theorem poll_receive (c : Client) (calls : List Read) :
    (c.poll calls).client = (c.receive calls).client
      ∧ (c.poll calls).rest = (c.receive calls).rest
      ∧ ((c.poll calls).result = (c.receive calls).result.map some
        ∨ ∃ error, error.kind.isStall = true ∧ (c.receive calls).result = .error (.tx (.io error))
          ∧ (c.poll calls).result = .ok none) := by
  unfold poll
  dsimp only
  split
  next tx hreceive => exact ⟨rfl, rfl, .inl (congrArg (Except.map some) hreceive).symm⟩
  next error hreceive =>
    refine ⟨rfl, rfl, ?_⟩
    by_cases hstall : error.kind.isStall = true
    · rw [if_pos hstall]
      exact .inr ⟨error, hstall, hreceive, rfl⟩
    · rw [if_neg hstall]
      exact .inl (congrArg (Except.map some) hreceive).symm
  next error _ hreceive => exact ⟨rfl, rfl, .inl (congrArg (Except.map some) hreceive).symm⟩

theorem poll_keeps (hholds : Holds l tail unread) :
    ∃ share left, Keeps l
      ⟨(l.client.poll l.calls).client, l.sink, (l.client.poll l.calls).rest⟩ tail unread
      ⟨.poll, l.client.next, (l.client.poll l.calls).result.map
        fun found => (found.map .message).getD .nothing⟩ share left := by
  obtain ⟨share, left, hread, hkept, hconfig, horder, haccounts⟩ := receive_keeps hholds
  obtain ⟨hclient, hrest, hresult⟩ := poll_receive l.client l.calls
  rw [hclient, hrest]
  refine ⟨share, left, hread, hkept, hconfig, ?_, fun reply hreply => ?_, ?_, fun m hm => ?_⟩
  · rcases hresult with hsame | ⟨error, -, hreceive, hnone⟩
    · rw [← horder, hsame]
      cases (l.client.receive l.calls).result <;> rfl
    · rw [← horder, hreceive, hnone]
      rfl
  · obtain ⟨⟨tx, hcall⟩, -⟩ := haccounts.answer reply hreply
    cases hcall
  · intro tx hcall
    cases hcall
  · obtain ⟨hover, hreceive⟩ := haccounts.refused m hm
    refine ⟨hover, ?_⟩
    rcases hresult with hsame | ⟨error, -, hstall, -⟩
    · rw [hsame]
      cases hgot : (l.client.receive l.calls).result with
      | ok tx =>
          rw [hgot] at hreceive
          cases hreceive
      | error error =>
          rw [hgot] at hreceive
          exact hreceive
    · rw [hstall] at hreceive
      cases hreceive

theorem take_keeps (hholds : Holds l tail unread) (call : Call) :
    ∃ share left, Keeps l (take l call).2 tail unread ⟨call, l.client.next, (take l call).1⟩
      share left := by
  cases call with
  | commit tx => exact commit_keeps hholds tx
  | receive => exact receive_keeps hholds
  | poll => exact poll_keeps hholds

-- ================================================================= a run

/-- Whatever a client calls, and wherever its stream stops or fails. -/
theorem accounted_of_run {arriving : List Tx} (hholds : Holds l tail arriving) (made : List Call) :
    ∃ (shares : List Share) (unread : List Tx),
      -- The calls have read some of the messages, in order, and the rest is unread.
      arriving = shares.flatMap Share.read ++ unread
        ∧ Holds (run l made).2 tail unread
        -- What they have handed out and what is put aside is what they have kept.
        ∧ (run l made).1.flatMap Turn.returned ++ (run l made).2.client.pending ++ unread
          = l.client.pending ++ shares.flatMap Share.kept ++ unread
        ∧ List.Forall₂ (Accounts l.client.reader.config) (run l made).1 shares := by
  induction made generalizing l arriving with
  | nil =>
      refine ⟨[], arriving, rfl, hholds, ?_, .nil⟩
      show [] ++ l.client.pending ++ arriving = l.client.pending ++ [] ++ arriving
      rw [List.nil_append, List.append_nil]
  | cons call made ih =>
      obtain ⟨share, left, hread, hleft, hconfig, horder, haccounts⟩ := take_keeps hholds call
      obtain ⟨shares, unread, hlater, hholds', horder', haccounts'⟩ := ih hleft
      refine ⟨share :: shares, unread, ?_, hholds', ?_, .cons haccounts (hconfig ▸ haccounts')⟩
      · rw [hread, hlater, List.flatMap_cons, List.append_assoc]
      · -- What this call hands out and leaves aside, the later ones start from.
        have hthen := (List.append_left_inj unread).mp horder'
        rw [List.append_left_inj]
        show (Turn.returned ⟨call, l.client.next, (take l call).1⟩
          ++ (run (take l call).2 made).1.flatMap Turn.returned)
            ++ (run (take l call).2 made).2.client.pending = _
        rw [List.append_assoc, hthen, ← List.append_assoc, horder, List.flatMap_cons,
          List.append_assoc]

-- ============================================================= examples

/-- A client whose stream has delivered some messages, and ends there. -/
def waiting (limits : TxConfig) (arriving : List Tx) : Line :=
  { client := { Connection.asker with limits, reader := ⟨limits, Frame.wire arriving⟩ }
    sink := {}
    calls := [] }

theorem holds_waiting (limits : TxConfig) {arriving : List Tx}
    (hw : ∀ tx ∈ arriving, Frame.Writable tx) : Holds (waiting limits arriving) .empty arriving := by
  refine ⟨?_, hw⟩
  show Frame.wire arriving ++ (ByteArray.empty ++ ByteArray.empty) = _
  rw [ByteArray.append_empty, ByteArray.append_empty]

/-- The word that a pin is up to date. -/
def settled (id : UInt64) : Tx := .ofStatus .state id .synced .nil

theorem writable_settled (id : UInt64) : Frame.Writable (settled id) :=
  ⟨(by decide : 64 ≤ Frame.maxSize), Nat.zero_le _, rfl, nofun⟩

/-- A word for a pin, the answer to the first commit, and another word. -/
def traffic : List Tx :=
  [settled 7, .ofStatus .commit 1 .closed .insufficientPermissions, settled 8]

theorem accounted_of_run_answered : Holds (waiting {} traffic) .empty traffic
    ∧ ∃ (shares : List Share) (unread : List Tx), traffic = shares.flatMap Share.read ++ unread
      ∧ List.Forall₂ (Accounts {})
        (run (waiting {} traffic) [.commit World.greeting, .receive, .poll]).1 shares := by
  have hholds : Holds (waiting {} traffic) .empty traffic := by
    apply holds_waiting
    refine List.forall_mem_cons.mpr ⟨writable_settled 7, List.forall_mem_cons.mpr
      ⟨⟨by decide, by decide, rfl, nofun⟩, List.forall_mem_singleton.mpr (writable_settled 8)⟩⟩
  obtain ⟨shares, unread, hread, -, -, haccounts⟩ :=
    accounted_of_run hholds [.commit World.greeting, .receive, .poll]
  exact ⟨hholds, shares, unread, hread, haccounts⟩

/-- Limits of one op, and a word with two that say nothing. -/
def narrow : TxConfig := { maxOps := 1 }

def padded : Tx := { settled 7 with ops := [.noOp, .noOp] }

theorem writable_padded : Frame.Writable padded := ⟨by decide, by decide, rfl, nofun⟩

theorem read_padded (txs : List Tx) : (⟨narrow, Frame.wire (padded :: txs)⟩ : Reader).read []
    = ⟨.error (.tooManyOps 2 1), ⟨narrow, Frame.wire txs⟩, []⟩ := by
  apply Reader.read_of_spoiled
  show Frame.decode narrow (Frame.bytes padded ++ Frame.wire txs) = _
  rw [Frame.decode_append narrow writable_padded,
    show Frame.Header.check ⟨padded.bodySize, padded.data.size⟩ narrow = .ok () from rfl]
  dsimp only
  rw [Frame.decodeFrame_bytes_of_lt writable_padded (by decide)]
  rfl

theorem read_settled (id : UInt64) (txs : List Tx) :
    (⟨narrow, Frame.wire (settled id :: txs)⟩ : Reader).read []
      = ⟨.ok (settled id), ⟨narrow, Frame.wire txs⟩, []⟩ := by
  apply Reader.read_of_complete
  exact Frame.decode_bytes_append (writable_settled id) ⟨Nat.zero_le _, Nat.zero_le _⟩ _

/-- With nothing put aside, a message is received from the stream. -/
theorem take_receive (hpending : l.client.pending = []) : take l .receive
    = (((l.client.reader.read l.calls).result.mapError lost).map .message,
      ⟨{ l.client with reader := (l.client.reader.read l.calls).reader }, l.sink,
        (l.client.reader.read l.calls).rest⟩) := by
  show ((l.client.receive l.calls).result.map Reply.message, _) = _
  unfold receive
  rw [hpending]
  rfl

/-- A message of two ops at a client that takes one: nobody gets to see it, and it
is gone. -/
theorem exists_refused : ∃ (l : Line) (first second : Tx), l.client.pending = []
    ∧ Holds l .empty [first, second]
    ∧ (run l [.receive, .receive]).1.flatMap Turn.returned
        ++ (run l [.receive, .receive]).2.client.pending = [second]
    ∧ Holds (run l [.receive, .receive]).2 .empty [] := by
  have hfirst : take (waiting narrow [padded, settled 8]) .receive
      = (.error (.tx (.tooManyOps 2 1)), waiting narrow [settled 8]) := by
    rw [take_receive rfl, show (waiting narrow [padded, settled 8]).client.reader.read
      (waiting narrow [padded, settled 8]).calls = _ from read_padded [settled 8]]
    rfl
  have hsecond : take (waiting narrow [settled 8]) .receive
      = (.ok (.message (settled 8)), waiting narrow []) := by
    rw [take_receive rfl, show (waiting narrow [settled 8]).client.reader.read
      (waiting narrow [settled 8]).calls = _ from read_settled 8 []]
    rfl
  have hrun : run (waiting narrow [padded, settled 8]) [.receive, .receive]
      = ([⟨.receive, 1, .error (.tx (.tooManyOps 2 1))⟩, ⟨.receive, 1, .ok (.message (settled 8))⟩],
        waiting narrow []) := by
    rw [run, hfirst]
    dsimp only
    rw [run, hsecond]
    rfl
  refine ⟨waiting narrow [padded, settled 8], padded, settled 8, rfl, ?_, ?_, ?_⟩
  · apply holds_waiting
    exact List.forall_mem_cons.mpr
      ⟨writable_padded, List.forall_mem_singleton.mpr (writable_settled 8)⟩
  · rw [hrun]
    rfl
  · rw [hrun]
    exact holds_waiting narrow (List.forall_mem_nil _)

end Client

end CellSync
