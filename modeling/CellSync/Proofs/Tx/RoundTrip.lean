/-
What is written to a buffer transaction by transaction is read back from
it transaction by transaction, whatever the limits of the two sides are.

The writer's side is `appendAll`: the frames, one after another, behind
what the buffer held. The reader's side is `looks`: so many calls of
`decode`, each on what the one before has left. Writer and reader meet
in `wire`, the frames without the buffer.
-/
import CellSync.Proofs.Tx.Frame

namespace CellSync

namespace Frame

-- ============================================================== writing

/-- The frames of some transactions. -/
def wire : List Tx → ByteArray
  | [] => .empty
  | tx :: txs => bytes tx ++ wire txs

/-- A transaction that may not be written leaves the buffer as it is. -/
theorem append_error {config : TxConfig} {buffer after : ByteArray} {tx : Tx} {error : TxError}
    (h : append buffer tx config = (.error error, after)) : after = buffer := by
  unfold append at h
  split at h
  · injection h with h
    cases h
  · injection h with _ h
    exact h.symm

/-- A transaction is written exactly when it may be, behind what there was. -/
theorem append_eq_ok_iff {config : TxConfig} {buffer after : ByteArray} {tx : Tx} :
    append buffer tx config = (.ok (), after)
      ↔ (Within config tx ∧ Writable tx) ∧ after = buffer ++ bytes tx := by
  unfold append
  constructor
  · intro h
    split at h
    next frame hframe =>
      injection h with _ h
      obtain ⟨hin, hw, rfl⟩ := encode_eq_ok_iff.mp hframe
      exact ⟨⟨hin, hw⟩, h.symm⟩
    · injection h with h
      cases h
  · rintro ⟨⟨hin, hw⟩, rfl⟩
    rw [encode_eq_ok_iff.mpr ⟨hin, hw, rfl⟩]

/-- The same for transactions one after another. -/
theorem appendAll_eq_ok_iff {config : TxConfig} {buffer after : ByteArray} {txs : List Tx} :
    appendAll config buffer txs = (.ok (), after)
      ↔ (∀ tx ∈ txs, Within config tx ∧ Writable tx) ∧ after = buffer ++ wire txs := by
  induction txs generalizing buffer with
  | nil =>
      rw [appendAll, wire, ByteArray.append_empty]
      constructor
      · intro h
        injection h with _ h
        exact ⟨List.forall_mem_nil _, h.symm⟩
      · rintro ⟨-, rfl⟩
        rfl
  | cons tx txs ih =>
      rw [appendAll, wire, ← ByteArray.append_assoc, List.forall_mem_cons]
      constructor
      · intro h
        split at h
        next next hnext =>
          obtain ⟨hok, rfl⟩ := append_eq_ok_iff.mp hnext
          obtain ⟨hall, hafter⟩ := ih.mp h
          exact ⟨⟨hok, hall⟩, hafter⟩
        next hrefused =>
          -- A refusal is passed on, so it cannot be a success.
          exact absurd h (hrefused after)
      · rintro ⟨⟨hok, hall⟩, hafter⟩
        rw [append_eq_ok_iff.mpr ⟨hok, rfl⟩]
        exact ih.mpr ⟨hall, hafter⟩

-- ============================================================== reading

/-- Frames within the limits are read one by one, and what follows is left. -/
theorem looks_wire {config : TxConfig} {txs : List Tx} (hw : ∀ tx ∈ txs, Writable tx)
    (hin : ∀ tx ∈ txs, Within config tx) (rest : ByteArray) :
    looks config txs.length (wire txs ++ rest) = (txs.map fun tx => .ok (some tx), rest) := by
  induction txs with
  | nil => rw [wire, ByteArray.empty_append]; rfl
  | cons tx txs ih =>
      obtain ⟨hwtx, hw⟩ := List.forall_mem_cons.mp hw
      obtain ⟨hintx, hin⟩ := List.forall_mem_cons.mp hin
      rw [wire, ByteArray.append_assoc, List.length_cons,
        looks_succ_of_complete (decode_bytes_append hwtx hintx _), ih hw hin]
      rfl

/-- Frames are read up to the first over the limits, which is answered with an
error. -/
theorem looks_wire_of_not_within {config : TxConfig} {before : List Tx} {tx : Tx}
    (hw : ∀ other ∈ before, Writable other) (hin : ∀ other ∈ before, Within config other)
    (hwtx : Writable tx) (hover : ¬Within config tx) (rest : ByteArray) :
    ∃ error left, looks config (before.length + 1) (wire before ++ (bytes tx ++ rest))
      = ((before.map fun other => .ok (some other)) ++ [.error error], left) := by
  induction before with
  | nil =>
      obtain ⟨error, herror⟩ := decode_bytes_append_of_not_within hwtx hover rest
      refine ⟨error, (decode config (bytes tx ++ rest)).rest (bytes tx ++ rest), ?_⟩
      rw [wire, ByteArray.empty_append, List.length_nil, looks, herror]
      rfl
  | cons other before ih =>
      obtain ⟨hwother, hw⟩ := List.forall_mem_cons.mp hw
      obtain ⟨hinother, hin⟩ := List.forall_mem_cons.mp hin
      obtain ⟨error, left, hlooks⟩ := ih hw hin
      refine ⟨error, left, ?_⟩
      rw [wire, ByteArray.append_assoc, List.length_cons,
        looks_succ_of_complete (decode_bytes_append hwother hinother _), hlooks]
      rfl

theorem wire_append (before after : List Tx) :
    wire (before ++ after) = wire before ++ wire after := by
  induction before with
  | nil => rw [List.nil_append, wire, ByteArray.empty_append]
  | cons tx before ih => rw [List.cons_append, wire, wire, ih, ByteArray.append_assoc]

-- =========================================================== round trip

/-- Transactions that a writer accepts one after another under its limits: each
is written behind what there was, at its own size, and a reader under any
limits gets them back in order and leaves what follows them, as far as they
stay within its limits. The first that does not is answered with an error. A
transaction that is not accepted leaves the buffer alone. -/
theorem looks_of_appendAll {writer : TxConfig} {buffer after : ByteArray} {txs : List Tx}
    (h : appendAll writer buffer txs = (.ok (), after)) :
    ∃ frames, after = buffer ++ frames
      ∧ (∀ before tx later, txs = before ++ tx :: later →
          ∃ held frame, appendAll writer buffer before = (.ok (), held)
            ∧ append held tx writer = (.ok (), held ++ frame) ∧ frame.size = tx.wireSize)
      ∧ (∀ (reader : TxConfig) (rest : ByteArray), (∀ tx ∈ txs, Within reader tx) →
          looks reader txs.length (frames ++ rest) = (txs.map fun tx => .ok (some tx), rest))
      ∧ (∀ (reader : TxConfig) (rest : ByteArray) before tx later, txs = before ++ tx :: later →
          (∀ other ∈ before, Within reader other) → ¬Within reader tx →
          ∃ error left, looks reader (before.length + 1) (frames ++ rest)
            = ((before.map fun other => .ok (some other)) ++ [.error error], left))
      ∧ ∀ (config : TxConfig) (held left : ByteArray) (tx : Tx) (error : TxError),
          append held tx config = (.error error, left) → left = held := by
  obtain ⟨hall, hafter⟩ := appendAll_eq_ok_iff.mp h
  refine ⟨wire txs, hafter, ?_, ?_, ?_, ?_⟩
  · rintro before tx later rfl
    have hbefore : ∀ other ∈ before, Within writer other ∧ Writable other := fun other hmem =>
      hall other (List.mem_append_left _ hmem)
    have htx := hall tx (List.mem_append_right _ List.mem_cons_self)
    refine ⟨_, bytes tx, appendAll_eq_ok_iff.mpr ⟨hbefore, rfl⟩,
      append_eq_ok_iff.mpr ⟨htx, rfl⟩, size_bytes tx⟩
  · intro reader rest hin
    exact looks_wire (fun tx hmem => (hall tx hmem).2) hin rest
  · rintro reader rest before tx later rfl hin hover
    have hbefore : ∀ other ∈ before, Writable other := fun other hmem =>
      (hall other (List.mem_append_left _ hmem)).2
    have htx := (hall tx (List.mem_append_right _ List.mem_cons_self)).2
    rw [wire_append, wire, ByteArray.append_assoc, ByteArray.append_assoc]
    exact looks_wire_of_not_within hbefore hin htx hover _
  · intro config held left tx error herror
    exact append_error herror

/-- Two transactions behind three bytes, the second over a reader's limit. -/
theorem looks_of_appendAll_login_pinClose :
    ∃ buffer after,
      appendAll {} buffer [Tx.ofKind .login, (Tx.ofKind .pinClose).pushOp .noOp] = (.ok (), after)
      ∧ ∃ frames, after = buffer ++ frames ∧ ∃ error left,
        looks { maxOps := 0 } 2 frames = ([.ok (some (Tx.ofKind .login)), .error error], left) := by
  have h : appendAll {} (Bytes.pack [1, 2, 3])
      [Tx.ofKind .login, (Tx.ofKind .pinClose).pushOp .noOp] = (.ok (), _) := rfl
  obtain ⟨frames, hafter, -, -, hover, -⟩ := looks_of_appendAll h
  obtain ⟨error, left, hlooks⟩ := hover { maxOps := 0 } .empty [Tx.ofKind .login] _ [] rfl
    (by simp [Within, Tx.ofKind]) (by simp [Within, Tx.pushOp])
  rw [ByteArray.append_empty] at hlooks
  exact ⟨_, _, h, frames, hafter, error, left, hlooks⟩

end Frame

end CellSync
