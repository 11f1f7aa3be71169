/-
Bytes that are to be exactly one frame, against a look at the same bytes.

`Tx.deserialize` takes its bytes for one whole frame, `decode` looks for a
frame at their front. Both begin with the header and its limits. Then the
one judges the length of all the bytes and reads the body last, while the
other cuts the frame out, reads it and leaves what follows. So where bytes
follow a frame whose body is at fault, the two name different errors.
`Sole` has a case for each ending of a look and says what the bytes are
answered when they have to be one frame alone.
-/
import CellSync.Proofs.Tx.Canonical

namespace CellSync

namespace Frame

-- ============================================================ endings

/-- What bytes are answered that have to be exactly one frame, by the ending of a
look at them. -/
inductive Sole (bs : ByteArray) : Decoded → Except TxError Tx → Prop where
  /-- There is no whole header. -/
  | headless (hshort : bs.size < headerSize) :
      Sole bs .incomplete (.error (.malformedTx (.shortHeader bs.size)))
  /-- The header declares more than there is. -/
  | part {h : Header} (hopens : Opens {} bs h) (hpart : bs.size < h.total) :
      Sole bs .incomplete (.error (.malformedTx (.shortMessage h.total bs.size)))
  | refused {error : TxError} : Sole bs (.refused error) (.error error)
  | spoiled {error : TxError} : Sole bs (.spoiled error .empty) (.error error)
  /-- What follows the frame is found before the fault of its body. -/
  | spoiledBefore {error : TxError} {rest : ByteArray} (hrest : rest.size ≠ 0) :
      Sole bs (.spoiled error rest) (.error (.malformedTx (.trailing rest.size)))
  | complete {tx : Tx} : Sole bs (.complete tx .empty) (.ok tx)
  | completeBefore {tx : Tx} {rest : ByteArray} (hrest : rest.size ≠ 0) :
      Sole bs (.complete tx rest) (.error (.malformedTx (.trailing rest.size)))

theorem heading_of_short {config : TxConfig} {bs : ByteArray} (hshort : bs.size < headerSize) :
    heading config bs = .error (.malformedTx (.shortHeader bs.size)) := by
  have hlen : (Bytes.slice bs 0 headerSize).length = bs.size := by
    rw [Bytes.length_slice]
    omega
  rw [heading, Header.parse, hlen, if_pos hshort]

section Whole

variable {bs : ByteArray} {h : Header}

/-- The length of the bytes is judged before their body. -/
theorem deserialize_of_lt (hheading : heading {} bs = .ok h) (hlt : h.total < bs.size) :
    Tx.deserialize bs = .error (.malformedTx (.trailing (bs.extract h.total bs.size).size)) := by
  have hsize : (bs.extract h.total bs.size).size = bs.size - h.total := by
    rw [ByteArray.size_extract, Nat.min_self]
  rw [Tx.deserialize, hheading, hsize]
  dsimp only
  rw [if_neg (by omega), if_pos hlt]

theorem deserialize_of_eq (hheading : heading {} bs = .ok h) (heq : h.total = bs.size) :
    Tx.deserialize bs = decodeFrame {} h bs := by
  rw [Tx.deserialize, hheading]
  dsimp only
  rw [if_neg (by omega), if_neg (by omega)]

theorem extract_of_eq (heq : h.total = bs.size) :
    bs.extract 0 h.total = bs ∧ bs.extract h.total bs.size = .empty := by
  rw [heq, ByteArray.extract_zero_size, ByteArray.extract_eq_empty_iff]
  exact ⟨rfl, by omega⟩

theorem size_rest_ne_zero (hlt : h.total < bs.size) : (bs.extract h.total bs.size).size ≠ 0 := by
  rw [ByteArray.size_extract]
  omega

end Whole

/-- The frame of a transaction is exactly one frame, and is read as the transaction. -/
theorem deserialize_of_serialize {tx : Tx} {frame : ByteArray} (hframe : tx.serialize = .ok frame) :
    Tx.deserialize frame = .ok tx := by
  obtain ⟨hin, hw, rfl⟩ := encode_eq_ok_iff.mp hframe
  have hheading : heading {} (bytes tx) = .ok ⟨tx.bodySize, tx.data.size⟩ := by
    rw [heading_bytes {} hw, accepts_sizes hw hin]
    rfl
  rw [deserialize_of_eq hheading (size_bytes tx).symm, decodeFrame_bytes hw hin]

/-- Whatever the bytes are, the two readings of them agree. -/
theorem sole_deserialize (bs : ByteArray) : Sole bs (decode {} bs) (Tx.deserialize bs) := by
  generalize hdecode : decode {} bs = decoded
  cases decode_eq_iff.mp hdecode with
  | short hshort =>
      rw [Tx.deserialize, heading_of_short hshort]
      exact .headless hshort
  | refused hlong hheading =>
      rw [Tx.deserialize, hheading]
      exact .refused
  | waiting hlong hheading hpart =>
      rw [Tx.deserialize, hheading]
      dsimp only
      rw [if_pos hpart]
      exact .part (heading_eq_ok_iff.mp hheading) hpart
  | @spoiled h error hheading hwhole hread =>
      rcases Nat.lt_or_eq_of_le hwhole with hlt | heq
      · rw [deserialize_of_lt hheading hlt]
        exact .spoiledBefore (size_rest_ne_zero hlt)
      · obtain ⟨hall, hnone⟩ := extract_of_eq heq
        rw [hall] at hread
        rw [deserialize_of_eq hheading heq, hread, hnone]
        exact .spoiled
  | @complete h tx hheading hwhole hread =>
      rcases Nat.lt_or_eq_of_le hwhole with hlt | heq
      · rw [deserialize_of_lt hheading hlt]
        exact .completeBefore (size_rest_ne_zero hlt)
      · obtain ⟨hall, hnone⟩ := extract_of_eq heq
        rw [hall] at hread
        rw [deserialize_of_eq hheading heq, hread, hnone]
        exact .complete

-- ========================================================== agreement

/-- Bytes are exactly one frame when a look at them finds a transaction and leaves
nothing, and then both give that transaction. Where the look ends in an error
so do they, either in the same or in that bytes follow the frame. Where the look
needs more bytes or leaves some behind a transaction, they are malformed. -/
theorem deserialize_accounts (bs : ByteArray) :
    (∀ tx, Tx.deserialize bs = .ok tx ↔ decode {} bs = .complete tx .empty)
      ∧ (∀ error, (decode {} bs).result = .error error →
          Tx.deserialize bs = .error error
            ∨ ∃ extra, Tx.deserialize bs = .error (.malformedTx (.trailing extra)))
      ∧ ((decode {} bs).result = .ok none →
          ∃ fault, Tx.deserialize bs = .error (.malformedTx fault))
      ∧ ∀ tx rest, decode {} bs = .complete tx rest → rest.size ≠ 0 →
          Tx.deserialize bs = .error (.malformedTx (.trailing rest.size)) := by
  have hsole := sole_deserialize bs
  generalize decode {} bs = decoded at hsole
  generalize Tx.deserialize bs = answer at hsole
  cases hsole with
  | headless | part =>
      refine ⟨fun _ => ⟨nofun, nofun⟩, nofun, fun _ => ⟨_, rfl⟩, ?_⟩
      intro _ _ hcomplete
      cases hcomplete
  | refused | spoiled =>
      refine ⟨fun _ => ⟨nofun, nofun⟩, ?_, nofun, ?_⟩
      · rintro _ ⟨⟩
        exact .inl rfl
      · intro _ _ hcomplete
        cases hcomplete
  | spoiledBefore hrest =>
      refine ⟨fun _ => ⟨nofun, nofun⟩, fun _ _ => .inr ⟨_, rfl⟩, nofun, ?_⟩
      intro _ _ hcomplete
      cases hcomplete
  | complete =>
      refine ⟨fun tx => ⟨?_, ?_⟩, nofun, nofun, ?_⟩
      · rintro ⟨⟩
        rfl
      · rintro ⟨⟩
        rfl
      · rintro _ _ ⟨⟩ hrest
        exact absurd rfl hrest
  | completeBefore hrest =>
      refine ⟨fun tx => ⟨nofun, ?_⟩, nofun, nofun, ?_⟩
      · rintro ⟨⟩
        exact absurd rfl hrest
      · rintro _ _ ⟨⟩ _
        rfl

/-- A byte behind a frame, which a look leaves behind its transaction. -/
theorem deserialize_accounts_extra :
    decode {} (bytes (Tx.ofKind .login) ++ Bytes.pack [7])
        = .complete (Tx.ofKind .login) (Bytes.pack [7])
      ∧ Tx.deserialize (bytes (Tx.ofKind .login) ++ Bytes.pack [7])
        = .error (.malformedTx (.trailing 1)) := by
  have hw : Writable (Tx.ofKind .login) := ⟨by decide, by decide, rfl, nofun⟩
  have hin : Within {} (Tx.ofKind .login) := ⟨by decide, by decide⟩
  have hlook := decode_bytes_append hw hin (Bytes.pack [7])
  exact ⟨hlook, (deserialize_accounts _).2.2.2 _ _ hlook (by decide)⟩

end Frame

end CellSync
