/-
A buffer that is given its bytes in pieces, and a reader that fetches them.

Who is handed a stream piece by piece puts each piece behind what is left
of those before and takes every whole transaction; when there are no more
pieces, what is left is looked at for the last time. A reader asks its
stream for bytes and answers the end of it always in the same way. Neither
depends on the cuts: both take what `takeAll` takes from all the bytes at
once (`receive_eq`, `readAll_spec`), and go separate ways only at the end.
There the reader tells that the stream has ended, and the other one asks in
addition whether bytes are left, which are the front of a frame that was
cut off.
-/
import CellSync.Proofs.Tx.Stream

namespace CellSync

/-- Pieces put together. -/
def Bytes.join (pieces : List ByteArray) : ByteArray := pieces.foldr (· ++ ·) .empty

namespace Frame

variable {config : TxConfig} {buffer rest : ByteArray} {tx : Tx}

-- ================================================== one look and the last

/-- At the end of the bytes a whole frame is taken as at any other time. -/
theorem decodeEnd_of_complete (h : decode config buffer = .complete tx rest) :
    decodeEnd config buffer = (.ok (some tx), rest) := by
  unfold decodeEnd
  rw [h]
  rfl

/-- What is taken at the end was there to be taken before. -/
theorem complete_of_decodeEnd (h : decodeEnd config buffer = (.ok (some tx), rest)) :
    decode config buffer = .complete tx rest := by
  unfold decodeEnd at h
  cases hdecode : decode config buffer with
  | incomplete =>
      rw [hdecode] at h
      dsimp only [Decoded.result, Decoded.rest] at h
      split at h <;> cases h
  | refused error | spoiled error left =>
      rw [hdecode] at h
      cases h
  | complete other left =>
      rw [hdecode] at h
      cases h
      rfl

/-- What is left at the end is nothing, or the front of a frame that was cut off. -/
theorem decodeEnd_of_incomplete (h : decode config buffer = .incomplete) :
    decodeEnd config buffer
      = (if buffer.size = 0 then .ok none else .error .connectionClosed, buffer) := by
  unfold decodeEnd
  rw [h]
  rfl

/-- So is a fault found there. -/
theorem decodeEnd_of_error {error : TxError} (h : (decode config buffer).result = .error error) :
    (decodeEnd config buffer).1 = .error error := by
  unfold decodeEnd
  dsimp only
  rw [h]

/-- Taking transactions from the front of a buffer until a look gives none. -/
@[elab_as_elim]
theorem take_induct (config : TxConfig) {motive : ByteArray → Prop}
    (part : ∀ buffer, decode config buffer = .incomplete → motive buffer)
    (fault : ∀ buffer error, (decode config buffer).result = .error error → motive buffer)
    (whole : ∀ buffer tx rest, decode config buffer = .complete tx rest → motive rest →
      motive buffer) (buffer : ByteArray) : motive buffer := by
  cases hdecode : decode config buffer with
  | incomplete => exact part buffer hdecode
  | refused error | spoiled error left =>
      exact fault buffer error (by rw [hdecode]; rfl)
  | complete tx rest =>
      have := size_lt_of_complete hdecode
      exact whole buffer tx rest hdecode (take_induct config part fault whole rest)
termination_by buffer.size

-- =============================================== all that can be taken

/-- A buffer that ends within a frame is kept. -/
theorem takeAll_of_incomplete (h : decode config buffer = .incomplete) :
    takeAll config buffer = ([], .ok (), buffer) := by
  rw [takeAll]
  split <;> simp_all

/-- A fault ends the taking, and what it leaves is kept. -/
theorem takeAll_of_error {error : TxError} (h : (decode config buffer).result = .error error) :
    takeAll config buffer = ([], .error error, (decode config buffer).rest buffer) := by
  rw [takeAll]
  split <;> simp_all [Decoded.result, Decoded.rest]

/-- A whole frame is taken, and then whatever else there is. -/
theorem takeAll_of_complete (h : decode config buffer = .complete tx rest) :
    takeAll config buffer = (tx :: (takeAll config rest).1, (takeAll config rest).2) := by
  rw [takeAll]
  split <;> simp_all

/-- What is taken stays taken when more bytes come. Without an error more is taken
from what is left and the bytes behind it. -/
theorem takeAll_append (config : TxConfig) (more buffer : ByteArray) :
    takeAll config (buffer ++ more) =
      match takeAll config buffer with
      | (txs, .error error, rest) => (txs, .error error, rest ++ more)
      | (txs, .ok (), rest) =>
        (txs ++ (takeAll config (rest ++ more)).1, (takeAll config (rest ++ more)).2) := by
  induction buffer using take_induct config with
  | part buffer h =>
      rw [takeAll_of_incomplete h]
      rfl
  | fault buffer error h =>
      have hne : decode config buffer ≠ .incomplete := by
        intro hnone
        rw [hnone] at h
        cases h
      have hlater := decode_append_of_ne_incomplete hne more
      have herror : (decode config (buffer ++ more)).result = .error error := by
        rw [hlater, ← h]
        cases hdecode : decode config buffer <;> rfl
      rw [takeAll_of_error h, takeAll_of_error herror, hlater, rest_before hne]
  | whole buffer tx rest h ih =>
      have hlater : decode config (buffer ++ more) = .complete tx (rest ++ more) := by
        rw [decode_append_of_ne_incomplete (by rw [h]; nofun), h]
        rfl
      rw [takeAll_of_complete h, takeAll_of_complete hlater, ih]
      obtain ⟨txs, result, left⟩ := takeAll config rest
      cases result <;> rfl

-- ============================================================ in pieces

/-- The last transactions of a buffer that will not grow any more, up to the end or
an error. -/
def takeLast (config : TxConfig) (buffer : ByteArray) : List Tx × Except TxError Unit :=
  match _h : decodeEnd config buffer with
  | (.error error, _) => ([], .error error)
  | (.ok none, _) => ([], .ok ())
  | (.ok (some tx), rest) =>
    let (txs, result) := takeLast config rest
    (tx :: txs, result)
termination_by buffer.size
decreasing_by exact size_lt_of_complete (complete_of_decodeEnd _h)

/-- Puts pieces behind what a buffer holds, one after another, and takes after each
of them what is whole; then the buffer will not grow any more. The first error
ends it. -/
def receive (config : TxConfig) (buffer : ByteArray) :
    List ByteArray → List Tx × Except TxError Unit
  | [] => takeLast config buffer
  | piece :: pieces =>
    match takeAll config (buffer ++ piece) with
    | (txs, .error error, _) => (txs, .error error)
    | (txs, .ok (), rest) =>
      let (later, result) := receive config rest pieces
      (txs ++ later, result)

/-- What is taken from bytes that end where they end. -/
def conclude : List Tx × Except TxError Unit × ByteArray → List Tx × Except TxError Unit
  | (txs, .error error, _) => (txs, .error error)
  | (txs, .ok (), rest) => (txs, if rest.size = 0 then .ok () else .error .connectionClosed)

/-- A last look takes a frame, finds a fault, or finds that there is nothing left. -/
theorem takeLast_step (config : TxConfig) (buffer : ByteArray) :
    takeLast config buffer =
      match decodeEnd config buffer with
      | (.error error, _) => ([], .error error)
      | (.ok none, _) => ([], .ok ())
      | (.ok (some tx), rest) => (tx :: (takeLast config rest).1, (takeLast config rest).2) := by
  rw [takeLast]
  split
  next h => rw [h]
  next h => rw [h]
  next h => rw [h]

/-- All last looks come to taking all, and judging what is left. -/
theorem takeLast_eq (config : TxConfig) (buffer : ByteArray) :
    takeLast config buffer = conclude (takeAll config buffer) := by
  induction buffer using take_induct config with
  | part buffer h =>
      rw [takeAll_of_incomplete h, takeLast_step, decodeEnd_of_incomplete h, conclude]
      by_cases hsize : buffer.size = 0
      · rw [if_pos hsize, if_pos hsize]
      · rw [if_neg hsize, if_neg hsize]
  | fault buffer error h =>
      have hend : decodeEnd config buffer = (.error error, (decodeEnd config buffer).2) :=
        Prod.ext (decodeEnd_of_error h) rfl
      rw [takeAll_of_error h, takeLast_step, hend]
      rfl
  | whole buffer tx rest h ih =>
      rw [takeAll_of_complete h, takeLast_step, decodeEnd_of_complete h]
      dsimp only
      rw [ih]
      obtain ⟨txs, result, left⟩ := takeAll config rest
      cases result <;> rfl

/-- Where the bytes are cut makes no difference. -/
theorem receive_eq (config : TxConfig) (buffer : ByteArray) (pieces : List ByteArray) :
    receive config buffer pieces = conclude (takeAll config (buffer ++ Bytes.join pieces)) := by
  induction pieces generalizing buffer with
  | nil => rw [receive, takeLast_eq, Bytes.join, List.foldr_nil, ByteArray.append_empty]
  | cons piece pieces ih =>
      have hjoin : Bytes.join (piece :: pieces) = piece ++ Bytes.join pieces := rfl
      rw [receive, hjoin, ← ByteArray.append_assoc, takeAll_append config (Bytes.join pieces)]
      obtain ⟨txs, result, rest⟩ := takeAll config (buffer ++ piece)
      cases result with
      | error error => rfl
      | ok _ =>
          dsimp only
          rw [ih]
          obtain ⟨later, result, left⟩ := takeAll config (rest ++ Bytes.join pieces)
          cases result <;> rfl

-- ========================================================= whole frames

/-- Whether some bytes are frames, one after another, that are all read. -/
def AllFrames (config : TxConfig) (bs : ByteArray) : Prop :=
  ∃ frames, bs = Bytes.join frames
    ∧ ∀ frame ∈ frames, ∃ tx, decode config frame = .complete tx .empty

/-- Where all can be taken and nothing is left, the bytes are frames in a row. -/
theorem allFrames_of_takeAll (config : TxConfig) (buffer : ByteArray)
    (h : (conclude (takeAll config buffer)).2 = .ok ()) : AllFrames config buffer := by
  induction buffer using take_induct config with
  | part buffer hnone =>
      rw [takeAll_of_incomplete hnone, conclude] at h
      dsimp only at h
      split at h
      next hsize => exact ⟨[], ByteArray.size_eq_zero_iff.mp hsize, nofun⟩
      next => cases h
  | fault buffer error herror =>
      rw [takeAll_of_error herror] at h
      cases h
  | whole buffer tx rest hsome ih =>
      have hrest : (conclude (takeAll config rest)).2 = .ok () := by
        rw [takeAll_of_complete hsome] at h
        generalize takeAll config rest = taken at h ⊢
        obtain ⟨txs, result, left⟩ := taken
        cases result <;> exact h
      obtain ⟨frames, hframes, hall⟩ := ih hrest
      obtain ⟨hin, hw, hbuffer⟩ := eq_bytes_append_of_decode hsome
      have hframe := decode_bytes_append hw hin .empty
      rw [ByteArray.append_empty] at hframe
      refine ⟨bytes tx :: frames, ?_, List.forall_mem_cons.mpr ⟨⟨tx, hframe⟩, hall⟩⟩
      rw [hbuffer, hframes]
      rfl

/-- Frames in a row can all be taken, with nothing left. -/
theorem takeAll_join {frames : List ByteArray}
    (h : ∀ frame ∈ frames, ∃ tx, decode config frame = .complete tx .empty) :
    (conclude (takeAll config (Bytes.join frames))).2 = .ok () := by
  induction frames with
  | nil =>
      have hnone : decode config .empty = .incomplete := decode_eq_iff.mpr (.short (by decide))
      rw [Bytes.join, List.foldr_nil, takeAll_of_incomplete hnone]
      rfl
  | cons frame frames ih =>
      obtain ⟨⟨tx, hframe⟩, hall⟩ := List.forall_mem_cons.mp h
      have hlook : decode config (frame ++ Bytes.join frames)
          = .complete tx (Bytes.join frames) := by
        rw [decode_append_of_ne_incomplete (by rw [hframe]; nofun), hframe, Decoded.before,
          ByteArray.empty_append]
      have hjoin : Bytes.join (frame :: frames) = frame ++ Bytes.join frames := rfl
      have hrest := ih hall
      rw [hjoin, takeAll_of_complete hlook]
      generalize takeAll config (Bytes.join frames) = taken at hrest ⊢
      obtain ⟨txs, result, left⟩ := taken
      cases result <;> exact hrest

/-- The bytes are used up without an error exactly when they are frames that are all
read. -/
theorem conclude_eq_ok_iff (config : TxConfig) (bs : ByteArray) :
    (conclude (takeAll config bs)).2 = .ok () ↔ AllFrames config bs := by
  constructor
  · exact allFrames_of_takeAll config bs
  · rintro ⟨frames, rfl, hall⟩
    exact takeAll_join hall

end Frame

-- =============================================================== a reader

namespace Reader

/-- Reads up to the first error: the transactions, the error, and the reader then. -/
def readAll (r : Reader) (calls : List Read) : List Tx × TxError × Reader :=
  let out := r.read calls
  match _h : out.result with
  | .error error => ([], error, out.reader)
  | .ok tx =>
    let (txs, error, last) := readAll out.reader out.rest
    (tx :: txs, error, last)
termination_by r.outlook calls
decreasing_by exact outlook_read _h

variable {r : Reader} {calls : List Read}

/-- A reader that fails gives its failure last. -/
theorem readAll_of_error {error : TxError} (h : (r.read calls).result = .error error) :
    r.readAll calls = ([], error, (r.read calls).reader) := by
  rw [readAll]
  split <;> simp_all

/-- A reader that gives a message goes on to the next. -/
theorem readAll_of_ok {tx : Tx} (h : (r.read calls).result = .ok tx) :
    r.readAll calls = (tx :: ((r.read calls).reader.readAll (r.read calls).rest).1,
      ((r.read calls).reader.readAll (r.read calls).rest).2) := by
  rw [readAll]
  split <;> simp_all

/-- Whether nothing but interruptions comes between the bytes of a stream. -/
def Unbroken (calls : List Read) : Prop := ∀ call ∈ calls, ¬call.breaks = true

/-- A read of such a stream is a look at all its bytes, and leaves such a stream. -/
theorem reads_of_unbroken (hfull : Read.Full calls) (hunbroken : Unbroken calls) :
    (r.read calls).result
        = Frame.answer (Frame.decode r.config (r.buffer ++ Read.delivered calls)).result
      ∧ (r.read calls).reader.buffer ++ Read.delivered (r.read calls).rest
        = (Frame.decode r.config (r.buffer ++ Read.delivered calls)).rest
            (r.buffer ++ Read.delivered calls)
      ∧ Unbroken (r.read calls).rest := by
  have hnone : calls.countP Read.breaks = 0 := List.countP_eq_zero.mpr hunbroken
  rcases (read_cases (r := r) hfull).result with ⟨-, -, hbreaks⟩ | ⟨hresult, hleft, hbreaks⟩
  · omega
  · exact ⟨hresult, hleft, List.countP_eq_zero.mp (by omega)⟩

/-- Where all the bytes of a stream hold no whole frame, a read fetches them all and
meets the end of the stream. -/
theorem read_to_end (hfull : Read.Full calls) (hunbroken : Unbroken calls)
    (h : Frame.decode r.config (r.buffer ++ Read.delivered calls) = .incomplete) :
    r.read calls
      = ⟨.error .connectionClosed, { r with buffer := r.buffer ++ Read.delivered calls }, []⟩ := by
  induction calls generalizing r with
  | nil =>
      rw [Read.delivered, ByteArray.append_empty] at h ⊢
      rw [read, poll, h]
      rfl
  | cons call calls ih =>
      obtain ⟨hcall, hothers⟩ := List.forall_mem_cons.mp hunbroken
      have hrest : Read.Full calls := fun chunk hmem => hfull chunk (List.mem_cons_of_mem _ hmem)
      -- What were found at the front now would be found there with all the bytes.
      have hfront : Frame.decode r.config r.buffer = .incomplete := by
        by_contra hfound
        rw [Frame.decode_append_of_ne_incomplete hfound] at h
        cases hdecode : Frame.decode r.config r.buffer with
        | incomplete => exact hfound hdecode
        | refused | spoiled | complete =>
            rw [hdecode] at h
            cases h
      rw [read_of_incomplete hfront]
      cases call with
      | bytes chunk =>
          have hsize : chunk.size ≠ 0 := hfull chunk List.mem_cons_self
          rw [Read.delivered, ← ByteArray.append_assoc] at h ⊢
          rw [absorb, if_neg hsize]
          exact ih hrest hothers h
      | failed error =>
          have hkind : error.kind = .interrupted := by simpa [Read.breaks] using hcall
          rw [absorb, if_pos hkind]
          exact ih hrest hothers h

/-- Reading up to the first error takes what can be taken from all the bytes. Where
they are at fault the error is theirs, and otherwise the stream has ended and the
reader holds what is left. -/
theorem readAll_spec {config : TxConfig} {bs : ByteArray} (hconfig : r.config = config)
    (hfull : Read.Full calls) (hunbroken : Unbroken calls)
    (hbs : r.buffer ++ Read.delivered calls = bs) :
    (r.readAll calls).1 = (Frame.takeAll config bs).1
      ∧ (∀ error, (Frame.takeAll config bs).2.1 = .error error → (r.readAll calls).2.1 = error)
      ∧ ((Frame.takeAll config bs).2.1 = .ok () →
          (r.readAll calls).2.1 = .connectionClosed
            ∧ (r.readAll calls).2.2.buffer = (Frame.takeAll config bs).2.2) := by
  induction bs using Frame.take_induct config generalizing r calls with
  | part bs h =>
      subst hbs hconfig
      have hread := read_to_end hfull hunbroken h
      rw [readAll_of_error (by rw [hread]), hread, Frame.takeAll_of_incomplete h]
      exact ⟨rfl, nofun, fun _ => ⟨rfl, rfl⟩⟩
  | fault bs error h =>
      subst hbs hconfig
      have hresult := (reads_of_unbroken (r := r) hfull hunbroken).1
      rw [h] at hresult
      rw [readAll_of_error hresult, Frame.takeAll_of_error h]
      exact ⟨rfl, fun _ herror => Except.error.inj herror, nofun⟩
  | whole bs tx rest h ih =>
      obtain ⟨hresult, hleft, hothers⟩ := reads_of_unbroken (r := r) hfull hunbroken
      rw [hconfig, hbs, h] at hresult hleft
      rw [readAll_of_ok hresult, Frame.takeAll_of_complete h]
      have hnext := read_cases (r := r) hfull
      obtain ⟨htxs, herror, hok⟩ :=
        ih (hnext.config_eq.trans hconfig) hnext.full hothers hleft
      exact ⟨congrArg (tx :: ·) htxs, herror, hok⟩

end Reader

-- ================================================================ the end

namespace Frame

/-- That the connection is closed is no fault of the bytes. -/
theorem ne_connectionClosed_of_takeAll (config : TxConfig) (bs : ByteArray) :
    (takeAll config bs).2.1 ≠ .error .connectionClosed := by
  induction bs using take_induct config with
  | part bs h =>
      rw [takeAll_of_incomplete h]
      nofun
  | fault bs error h =>
      rw [takeAll_of_error h]
      rintro ⟨⟩
      cases blamesBytes_of_decode h
  | whole bs tx rest h ih =>
      rw [takeAll_of_complete h]
      exact ih

variable {pieces : List ByteArray} {calls : List Read}

/-- Bytes that come in pieces and the same bytes from a stream, up to the first error
of each. Both give the same transactions. The pieces end without an error exactly
when they are frames that are all read; the reader is then told that the stream
has ended, with nothing in its hands. If it is told so in the middle of a frame,
the pieces end with that error, and else with the reader's own. -/
theorem receive_agrees (config : TxConfig) (hfull : Read.Full calls)
    (hunbroken : Reader.Unbroken calls) (hbytes : Read.delivered calls = Bytes.join pieces) :
    let received := receive config .empty pieces
    let (txs, error, reader) := Reader.readAll { config := config } calls
    received.1 = txs
      ∧ (received.2 = .ok () ↔ AllFrames config (Bytes.join pieces))
      ∧ (received.2 = .ok () ↔ error = .connectionClosed ∧ reader.buffer.size = 0)
      ∧ (received.2 = .error .connectionClosed
          ↔ error = .connectionClosed ∧ reader.buffer.size ≠ 0)
      ∧ (received.2 ≠ .ok () → received.2 = .error error) := by
  have hall : .empty ++ Read.delivered calls = Bytes.join pieces := by
    rw [ByteArray.empty_append, hbytes]
  have hspec := Reader.readAll_spec (r := { config := config }) rfl hfull hunbroken hall
  have hok := conclude_eq_ok_iff config (Bytes.join pieces)
  have hne := ne_connectionClosed_of_takeAll config (Bytes.join pieces)
  rw [receive_eq, ByteArray.empty_append]
  generalize Reader.readAll { config := config } calls = heard at hspec ⊢
  generalize takeAll config (Bytes.join pieces) = taken at hspec hok hne ⊢
  obtain ⟨txs, error, reader⟩ := heard
  obtain ⟨taken, result, left⟩ := taken
  obtain ⟨htxs, herror, hclosed⟩ := hspec
  dsimp only at htxs herror hclosed hne ⊢
  cases result with
  | error cause =>
      -- The bytes are at fault, and both name the fault.
      have hcause : error = cause := herror cause rfl
      have hopen : error ≠ .connectionClosed := fun hend => hne (by rw [← hend, hcause])
      rw [hcause] at hopen ⊢
      refine ⟨htxs.symm, hok, ⟨nofun, fun hend => absurd hend.1 hopen⟩, ?_, fun _ => rfl⟩
      exact ⟨fun hend => absurd (Except.error.inj hend) hopen, fun hend => absurd hend.1 hopen⟩
  | ok _ =>
      obtain ⟨rfl, hleft⟩ := hclosed rfl
      refine ⟨htxs.symm, hok, ?_⟩
      dsimp only [conclude]
      rw [hleft]
      by_cases hsize : left.size = 0
      · rw [if_pos hsize]
        exact ⟨⟨fun _ => ⟨rfl, hsize⟩, fun _ => rfl⟩, ⟨nofun, fun hend => absurd hsize hend.2⟩,
          fun hne => absurd rfl hne⟩
      · rw [if_neg hsize]
        exact ⟨⟨nofun, fun hend => absurd hend.2 hsize⟩, ⟨fun _ => ⟨rfl, hsize⟩, fun _ => rfl⟩,
          fun _ => rfl⟩

/-- A frame and the first byte of another, in two pieces and from a stream that is
interrupted. -/
theorem receive_agrees_cut :
    let frame := bytes (Tx.ofKind .login)
    let byte := Bytes.pack [0x61]
    let calls : List Read := [.failed (.ofKind .interrupted), .bytes (frame ++ byte)]
    let (txs, error, reader) := Reader.readAll { config := {} } calls
    receive {} .empty [frame, byte] = ([Tx.ofKind .login], .error .connectionClosed)
      ∧ txs = [Tx.ofKind .login] ∧ error = .connectionClosed ∧ reader.buffer.size ≠ 0 := by
  intro frame byte calls
  have hw : Writable (Tx.ofKind .login) := ⟨by decide, by decide, rfl, nofun⟩
  have hin : Within {} (Tx.ofKind .login) := ⟨by decide, by decide⟩
  have hfull : Read.Full calls := by
    intro chunk hmem
    have hchunk : chunk = frame ++ byte := by simpa [calls] using hmem
    rw [hchunk, ByteArray.size_append]
    exact Nat.ne_of_gt (Nat.lt_add_left frame.size (by decide))
  have hunbroken : Reader.Unbroken calls := by
    intro call hmem
    rcases List.mem_pair.mp hmem with rfl | rfl <;> nofun
  have hjoin : Bytes.join [frame, byte] = frame ++ byte := by
    simp [Bytes.join]
  have hbytes : Read.delivered calls = Bytes.join [frame, byte] := by
    rw [hjoin]
    simp [calls, Read.delivered]
  have hnone : decode {} byte = .incomplete := decode_eq_iff.mpr (.short (by decide))
  have hreceived : receive {} .empty [frame, byte]
      = ([Tx.ofKind .login], .error .connectionClosed) := by
    rw [receive_eq, ByteArray.empty_append, hjoin,
      takeAll_of_complete (decode_bytes_append hw hin byte), takeAll_of_incomplete hnone]
    rfl
  obtain ⟨htxs, -, -, hclosed, -⟩ := receive_agrees {} hfull hunbroken hbytes
  rw [hreceived] at htxs hclosed
  exact ⟨hreceived, htxs.symm, hclosed.mp rfl⟩

end Frame

end CellSync
