/-
What a reader holds while it reads.

A reader calls its stream only when its buffer holds no whole frame. Then
the buffer is shorter than a header, or shorter than a frame whose header
has passed the limits (`size_lt_of_incomplete`), and what one call gives
comes on top of that. The buffer changes at no other place but where a
frame is taken off it. So it is bounded at every look of every read, for
any stream (`held_of_run`).

A header over the limits is refused by the look that finds it, whatever
else the buffer holds. `moments` lists the looks of one read, each with
the calls that have not been made by then, so "at once" can be said: no
call is made after the moment at which the header is there.
-/
import CellSync.Proofs.Tx.Stream

namespace CellSync

namespace Frame

-- ================================================================= sizes

/-- A buffer that needs more bytes is shorter than a header or than the largest frame
that the limits let a peer declare. -/
theorem size_lt_of_incomplete {config : TxConfig} {buffer : ByteArray}
    (h : decode config buffer = .incomplete) :
    buffer.size < max headerSize (config.maxBody + config.maxData) := by
  cases decode_eq_iff.mp h with
  | short hshort => omega
  | @waiting header _ hheading hpart =>
      have hcheck := (heading_eq_ok_iff.mp hheading).2
      obtain ⟨hdata, -, hbody⟩ := Header.check_eq_ok_iff.mp hcheck
      have htotal : header.total = header.bodySize + header.dataSize := rfl
      omega

/-- A look takes from a buffer and adds nothing to it. -/
theorem size_rest_le (config : TxConfig) (buffer : ByteArray) :
    ((decode config buffer).rest buffer).size ≤ buffer.size := by
  generalize hdecode : decode config buffer = decoded
  cases decode_eq_iff.mp hdecode with
  | short | refused | waiting => exact Nat.le_refl _
  | spoiled | complete =>
      simp only [Decoded.rest, ByteArray.size_extract]
      omega

-- ====================================================== over the limits

/-- Whether a header declares more than the limits. -/
def Header.Exceeds (h : Header) (config : TxConfig) : Prop :=
  config.maxBody < h.bodySize ∨ config.maxData < h.dataSize

/-- What such a header is refused with. The size of the data is judged first. -/
def Header.excess (h : Header) (config : TxConfig) : TxError :=
  if config.maxData < h.dataSize then .dataTooLarge h.dataSize config.maxData
  else .malformedTx (.bodySize h.bodySize config.maxBody)

theorem Header.check_of_exceeds {h : Header} {config : TxConfig} (hover : h.Exceeds config) :
    h.check config = .error (h.excess config) := by
  unfold check excess
  by_cases hdata : config.maxData < h.dataSize
  · rw [if_pos hdata, if_pos hdata]
  · have hbody : config.maxBody < h.bodySize := hover.resolve_right hdata
    rw [if_neg hdata, if_neg hdata, if_pos (Or.inr hbody)]

/-- A buffer in which some looks find a transaction or a fault each, and in which behind
that the header of a frame begins that declares more than the limits. -/
structure Oversized (config : TxConfig) (buffer : ByteArray) (results : List (Except TxError Tx))
    (h : Header) (rest : ByteArray) : Prop where
  looks_eq : looks config results.length buffer = (results.map (Except.map some), rest)
  begins : ∃ more, rest = Bytes.pack h.encode ++ more
  body_le : h.bodySize ≤ maxSize
  data_le : h.dataSize ≤ maxSize
  exceeds : h.Exceeds config

variable {config : TxConfig} {buffer rest : ByteArray} {result : Except TxError Tx}
  {results : List (Except TxError Tx)} {h : Header}

/-- The header is refused, and nothing is taken off the buffer. -/
theorem Oversized.decode_eq (hover : Oversized config buffer [] h rest) :
    buffer = rest ∧ decode config buffer = .refused (h.excess config) := by
  have hbuffer : buffer = rest := congrArg Prod.snd hover.looks_eq
  obtain ⟨more, hrest⟩ := hover.begins
  have hhead : (Bytes.pack h.encode).size = headerSize := h.length_encode
  have hslice : Bytes.slice (Bytes.pack h.encode) 0 headerSize = h.encode := by
    rw [← hhead, Bytes.slice_zero_size, Bytes.list_pack]
  have hheading : heading config buffer = .error (h.excess config) := by
    rw [hbuffer, hrest, heading_append config (Nat.le_of_eq hhead.symm), heading, hslice,
      Header.parse_encode hover.body_le hover.data_le]
    show (h.check config).map _ = _
    rw [Header.check_of_exceeds hover.exceeds]
    rfl
  have hlong : headerSize ≤ buffer.size := by
    rw [hbuffer, hrest, ByteArray.size_append]
    omega
  exact ⟨hbuffer, decode_eq_iff.mpr (.refused hlong hheading)⟩

/-- The first look finds what it should, and the others find theirs behind it. -/
theorem Oversized.cons (hover : Oversized config buffer (result :: results) h rest) :
    decode config buffer ≠ .incomplete ∧ answer (decode config buffer).result = result
      ∧ Oversized config ((decode config buffer).rest buffer) results h rest := by
  have hlooks := hover.looks_eq
  rw [List.length_cons, looks] at hlooks
  injection hlooks with hresults hleft
  injection hresults with hresult hresults
  refine ⟨?_, ?_, ?_⟩
  · intro hincomplete
    rw [hincomplete] at hresult
    cases result <;> cases hresult
  · rw [hresult]
    cases result <;> rfl
  · exact { hover with looks_eq := Prod.ext hresults hleft }

end Frame

/-- The calls in which a reader gets what a stream has for it, no more at a time than it
asks for. -/
def Read.portions : Read → List Read
  | .bytes chunk => Read.ofBytes chunk
  | .failed error => [.failed error]

namespace Reader

-- =============================================================== moments

/-- The looks of one read: the reader each time that it looks at its buffer, and the
calls that it has not made by then. -/
def moments (r : Reader) : List Read → List (Reader × List Read)
  | [] => [(r, [])]
  | call :: calls =>
    (r, call :: calls) ::
      match r.poll with
      | (.ok none, r) =>
        match r.absorb call with
        | .ok r => moments r calls
        | .error _ => []
      | _ => []

variable {r : Reader} {call : Read} {calls : List Read}

theorem moments_of_ne_incomplete (h : Frame.decode r.config r.buffer ≠ .incomplete)
    (calls : List Read) : r.moments calls = [(r, calls)] := by
  cases calls with
  | nil => rfl
  | cons call calls =>
      unfold moments poll
      dsimp only
      cases hdecode : Frame.decode r.config r.buffer with
      | incomplete => exact absurd hdecode h
      | refused | spoiled | complete => rfl

theorem moments_of_incomplete (h : Frame.decode r.config r.buffer = .incomplete)
    (call : Read) (calls : List Read) :
    r.moments (call :: calls) = (r, call :: calls) :: match r.absorb call with
      | .ok s => s.moments calls
      | .error _ => [] := by
  rw [moments, poll, h]
  rfl

theorem config_of_absorb {s : Reader} (h : r.absorb call = .ok s) : s.config = r.config := by
  cases call with
  | bytes chunk =>
      simp only [absorb] at h
      split at h
      · cases h
      · cases h
        rfl
  | failed error =>
      simp only [absorb] at h
      split at h
      · cases h
        rfl
      · cases h

/-- From each of its looks on, a read is the read that begins there. -/
theorem read_of_mem_moments {s : Reader} {left : List Read}
    (h : (s, left) ∈ r.moments calls) : s.config = r.config ∧ r.read calls = s.read left := by
  induction calls generalizing r with
  | nil =>
      obtain ⟨rfl, rfl⟩ := Prod.mk.inj (List.mem_singleton.mp h)
      exact ⟨rfl, rfl⟩
  | cons call calls ih =>
      by_cases hdecode : Frame.decode r.config r.buffer = .incomplete
      · rw [moments_of_incomplete hdecode] at h
        rcases List.mem_cons.mp h with h | h
        · obtain ⟨rfl, rfl⟩ := Prod.mk.inj h
          exact ⟨rfl, rfl⟩
        · rw [read_of_incomplete hdecode]
          cases habsorb : r.absorb call with
          | error error =>
              rw [habsorb] at h
              cases h
          | ok next =>
              rw [habsorb] at h
              obtain ⟨hconfig, hread⟩ := ih h
              exact ⟨hconfig.trans (config_of_absorb habsorb), hread⟩
      · rw [moments_of_ne_incomplete hdecode] at h
        obtain ⟨rfl, rfl⟩ := Prod.mk.inj (List.mem_singleton.mp h)
        exact ⟨rfl, rfl⟩

-- ================================================================= bounds

/-- Whether a reader holds less than its limits allow: a header or the largest frame, and
what one more call may give. -/
def Held (r : Reader) : Prop :=
  r.buffer.size < max Frame.headerSize (r.config.maxBody + r.config.maxData) + chunkSize

/-- Whether no call gives more bytes than a reader asks for. -/
def Offered (calls : List Read) : Prop := ∀ call ∈ calls, call.size ≤ chunkSize

theorem size_le_of_mem_pieces {bs : ByteArray} {count start : Nat}
    (h : call ∈ Read.pieces bs count start) : call.size ≤ chunkSize := by
  induction count generalizing start with
  | zero => cases h
  | succ count ih =>
      rcases List.mem_cons.mp h with rfl | h
      · rw [Read.size, ByteArray.size_extract]
        omega
      · exact ih h

theorem offered_portions (script : List Read) : Offered (script.flatMap Read.portions) := by
  intro call hmem
  obtain ⟨whole, -, hcall⟩ := List.mem_flatMap.mp hmem
  cases whole with
  | bytes chunk => exact size_le_of_mem_pieces hcall
  | failed error =>
      rw [List.mem_singleton.mp hcall]
      exact Nat.zero_le _

theorem Held.of_eq {s : Reader} (h : r.Held) (hconfig : s.config = r.config)
    (hsize : s.buffer.size ≤ r.buffer.size) : s.Held := by
  unfold Held at h ⊢
  rw [hconfig]
  exact Nat.lt_of_le_of_lt hsize h

/-- A call is made only when the buffer is short, so there is room for what it gives. -/
theorem held_of_absorb {s : Reader} (hdecode : Frame.decode r.config r.buffer = .incomplete)
    (hcall : call.size ≤ chunkSize) (h : r.absorb call = .ok s) : s.Held := by
  have hshort := Frame.size_lt_of_incomplete hdecode
  have hsize := absorb_size h
  rw [Held, config_of_absorb h]
  omega

theorem held_of_mem_moments {s : Reader} {left : List Read} (hr : r.Held) (hcalls : Offered calls)
    (h : (s, left) ∈ r.moments calls) : s.Held := by
  induction calls generalizing r with
  | nil =>
      obtain ⟨rfl, -⟩ := Prod.mk.inj (List.mem_singleton.mp h)
      exact hr
  | cons call calls ih =>
      obtain ⟨hcall, hcalls⟩ := List.forall_mem_cons.mp hcalls
      by_cases hdecode : Frame.decode r.config r.buffer = .incomplete
      · rw [moments_of_incomplete hdecode] at h
        rcases List.mem_cons.mp h with h | h
        · obtain ⟨rfl, -⟩ := Prod.mk.inj h
          exact hr
        · cases habsorb : r.absorb call with
          | error error =>
              rw [habsorb] at h
              cases h
          | ok next =>
              rw [habsorb] at h
              exact ih (held_of_absorb hdecode hcall habsorb) hcalls h
      · rw [moments_of_ne_incomplete hdecode] at h
        obtain ⟨rfl, -⟩ := Prod.mk.inj (List.mem_singleton.mp h)
        exact hr

/-- A read leaves a reader that holds no more than it may, under the same limits, and
calls that still give no more than is asked for. -/
theorem held_read (hr : r.Held) (hcalls : Offered calls) :
    (r.read calls).reader.Held ∧ (r.read calls).reader.config = r.config
      ∧ Offered (r.read calls).rest := by
  induction calls generalizing r with
  | nil =>
      by_cases hdecode : Frame.decode r.config r.buffer = .incomplete
      · have hread : r.read [] = ⟨.error .connectionClosed, r, []⟩ := by
          rw [read, poll, hdecode]
          rfl
        rw [hread]
        exact ⟨hr, rfl, hcalls⟩
      · rw [read_of_ne_incomplete hdecode]
        exact ⟨hr.of_eq rfl (Frame.size_rest_le _ _), rfl, hcalls⟩
  | cons call calls ih =>
      by_cases hdecode : Frame.decode r.config r.buffer = .incomplete
      · obtain ⟨hcall, hcalls⟩ := List.forall_mem_cons.mp hcalls
        rw [read_of_incomplete hdecode]
        cases habsorb : r.absorb call with
        | error error => exact ⟨hr, rfl, hcalls⟩
        | ok next =>
            obtain ⟨hheld, hconfig, hrest⟩ :=
              ih (held_of_absorb hdecode hcall habsorb) hcalls
            exact ⟨hheld, hconfig.trans (config_of_absorb habsorb), hrest⟩
      · rw [read_of_ne_incomplete hdecode]
        exact ⟨hr.of_eq rfl (Frame.size_rest_le _ _), rfl, hcalls⟩

theorem held_run (count : Nat) (hr : r.Held) (hcalls : Offered calls) :
    (r.run count calls).2.1.Held ∧ (r.run count calls).2.1.config = r.config
      ∧ Offered (r.run count calls).2.2 := by
  induction count generalizing r calls with
  | zero => exact ⟨hr, rfl, hcalls⟩
  | succ count ih =>
      obtain ⟨hheld, hconfig, hrest⟩ := held_read hr hcalls
      obtain ⟨hheld', hconfig', hrest'⟩ := ih hheld hrest
      exact ⟨hheld', hconfig'.trans hconfig, hrest'⟩

-- ====================================================== refused at once

/-- What is in front of a header over the limits is read, and then it is refused, with no
call to the stream. -/
theorem run_of_oversized {results : List (Except TxError Tx)} {h : Frame.Header}
    {rest : ByteArray} (hover : Frame.Oversized r.config r.buffer results h rest)
    (calls : List Read) :
    r.run (results.length + 1) calls
      = (results ++ [.error (h.excess r.config)], { r with buffer := rest }, calls) := by
  induction results generalizing r with
  | nil =>
      obtain ⟨hrest, hdecode⟩ := hover.decode_eq
      have hread : r.read calls = ⟨.error (h.excess r.config), r, calls⟩ := by
        rw [read_of_ne_incomplete (by rw [hdecode]; nofun), hdecode]
        rfl
      rw [List.length_nil, run, hread, ← hrest]
      rfl
  | cons result results ih =>
      obtain ⟨hdecode, hanswer, hnext⟩ := hover.cons
      have hread : r.read calls
          = ⟨result, { r with buffer := (Frame.decode r.config r.buffer).rest r.buffer },
              calls⟩ := by
        rw [read_of_ne_incomplete hdecode, hanswer]
      rw [List.length_cons, run, hread]
      dsimp only
      rw [ih (r := { r with buffer := (Frame.decode r.config r.buffer).rest r.buffer }) hnext]
      rfl

theorem run_succ_of_read_eq {s : Reader} {left : List Read} (h : r.read calls = s.read left)
    (count : Nat) : r.run (count + 1) calls = s.run (count + 1) left := by
  rw [run, run, h]

/-- Whatever a stream has, however that is cut and wherever it fails, a reader with fixed
limits holds at every point of every read fewer bytes than the larger of a header and
the largest frame under its limits, and one call. Once the header of a frame that
declares more is in its buffer, the stream is not called again: what is in front of it
is read, and then it is refused. -/
theorem held_of_run (config : TxConfig) (script : List Read) (count : Nat) :
    let bound := max Frame.headerSize (config.maxBody + config.maxData) + chunkSize
    let (_, reader, left) :=
      ({ config := config } : Reader).run count (script.flatMap Read.portions)
    reader.buffer.size < bound
      ∧ ∀ s rest, (s, rest) ∈ reader.moments left →
          s.buffer.size < bound
          ∧ ∀ results header held, Frame.Oversized config s.buffer results header held →
            reader.run (results.length + 1) left
              = (results ++ [.error (header.excess config)], ⟨config, held⟩, rest) := by
  intro bound
  have hstart : ({ config := config } : Reader).Held := by
    show 0 < _ + chunkSize
    exact Nat.add_pos_right _ (by decide)
  obtain ⟨hheld, hconfig, hleft⟩ := held_run count hstart (offered_portions script)
  generalize ({ config := config } : Reader).run count (script.flatMap Read.portions) = state
    at hheld hconfig hleft
  obtain ⟨results, reader, left⟩ := state
  dsimp only at hheld hconfig hleft ⊢
  refine ⟨by rwa [Held, hconfig] at hheld, fun s rest hmem => ?_⟩
  obtain ⟨hsame, hread⟩ := read_of_mem_moments hmem
  have hs : s.config = config := hsame.trans hconfig
  refine ⟨?_, fun results header held hover => ?_⟩
  · have hholds := held_of_mem_moments hheld hleft hmem
    rwa [Held, hs] at hholds
  · rw [← hs] at hover ⊢
    rw [run_succ_of_read_eq hread, run_of_oversized hover]

/-- The header of a frame with one byte of data, in two calls, where none is
allowed: the bytes behind it are not asked for. -/
theorem held_of_run_refused :
    let header : Frame.Header := ⟨64, 1⟩
    let script := [.bytes (Bytes.pack (header.encode.take 9)),
      .bytes (Bytes.pack (header.encode.drop 9)), .bytes (Bytes.pack [7])]
    let reader : Reader := { config := { maxData := 0 } }
    script.flatMap Read.portions = script
      ∧ reader.run 1 script
        = ([.error (.dataTooLarge 1 0)], { reader with buffer := Bytes.pack header.encode },
            [.bytes (Bytes.pack [7])]) := by
  intro header script reader
  have hportions : script.flatMap Read.portions = script := by decide
  have hover : Frame.Oversized { maxData := 0 } (Bytes.pack header.encode) [] header
      (Bytes.pack header.encode) :=
    ⟨rfl, ⟨.empty, ByteArray.append_empty.symm⟩, by decide, by decide, .inr (by decide)⟩
  have hmem : (({ config := { maxData := 0 }, buffer := Bytes.pack header.encode } : Reader),
      [.bytes (Bytes.pack [7])]) ∈ reader.moments script :=
    List.mem_cons_of_mem _ (List.mem_cons_of_mem _ List.mem_cons_self)
  rw [← hportions] at hmem
  obtain ⟨-, hmoments⟩ := held_of_run { maxData := 0 } script 0
  have hrefused := (hmoments _ _ hmem).2 [] header _ hover
  rw [hportions] at hrefused
  exact ⟨hportions, hrefused⟩

end Reader

end CellSync
