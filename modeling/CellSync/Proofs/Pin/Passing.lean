/-
What a session tells can be written wherever the change itself could be.

A session tells of a change with fewer ops, over all of its data and under
its identifier; of a status it tells with nothing. So no limit that the
change keeps is broken by a message about it, whatever the session wants
to see, and this is so for every call on a session (`sendable_take`).
-/
import CellSync.Proofs.Pin.Disclosure
import CellSync.Proofs.Tx.Frame

namespace CellSync

namespace Frame

variable {config : TxConfig} {tx m : Tx}

/-- Whether a transaction can be written under some limits. -/
def Sendable (config : TxConfig) (tx : Tx) : Prop := Within config tx ∧ Writable tx

theorem sendable_iff : Sendable config tx ↔ ∃ frame, encode tx config = .ok frame := by
  constructor
  · rintro ⟨hin, hw⟩
    exact ⟨bytes tx, encode_eq_ok_iff.mpr ⟨hin, hw, rfl⟩⟩
  · rintro ⟨frame, hframe⟩
    obtain ⟨hin, hw, -⟩ := encode_eq_ok_iff.mp hframe
    exact ⟨hin, hw⟩

/-- What carries nothing and has no identifier passes every limit. -/
theorem sendable_of_plain (hops : m.ops = []) (hdata : m.data = ByteArray.empty)
    (htid : m.info.tid ≠ some .zero) : Sendable config m := by
  refine ⟨⟨?_, ?_⟩, ⟨?_, ?_, ?_, htid⟩⟩
  · rw [hops]
    exact Nat.zero_le _
  · rw [hdata]
    exact Nat.zero_le _
  · rw [Tx.bodySize, hops]
    decide
  · rw [hdata]
    decide
  · rw [hops]
    rfl

theorem totalSize_le_of_sublist {ops all : List Op} (h : ops.Sublist all) :
    Op.totalSize ops ≤ Op.totalSize all := by
  induction h with
  | slnil => exact Nat.le_refl _
  | cons op _ ih =>
      rw [Op.totalSize]
      omega
  | cons_cons op _ ih =>
      rw [Op.totalSize, Op.totalSize]
      omega

/-- Fewer ops over the same data, under the same identifier. -/
theorem Sendable.narrow (h : Sendable config tx) (hops : m.ops.Sublist tx.ops)
    (hdata : m.data = tx.data) (htid : m.info.tid = tx.info.tid) : Sendable config m := by
  obtain ⟨⟨hcount, hsize⟩, ⟨hbody, hmax, hrefs, hne⟩⟩ := h
  have htotal := totalSize_le_of_sublist hops
  refine ⟨⟨Nat.le_trans hops.length_le hcount, ?_⟩, ⟨?_, ?_, ?_, ?_⟩⟩
  · rwa [hdata]
  · unfold Tx.bodySize at hbody ⊢
    omega
  · rwa [hdata]
  · rw [hdata]
    rw [strayReference?_eq_none_iff] at hrefs ⊢
    exact fun op hop => hrefs op (hops.subset hop)
  · rwa [htid]

end Frame

namespace PinSession

variable {s : PinSession} {config : TxConfig}

theorem sendable_of_tellsOf {txs : List Tx} {m : Tx} (h : s.TellsOf txs m)
    (htxs : ∀ tx ∈ txs, Frame.Sendable config tx) : Frame.Sendable config m := by
  obtain ⟨tx, hmem, htid, hops, hdata⟩ := h
  refine (htxs tx hmem).narrow ?_ hdata htid
  rw [hops]
  exact List.filter_sublist

/-- What a session tells on a call, and what it keeps to tell later, can be written
if the changes that it kept and those that the call brings can. -/
theorem sendable_take {call : Call}
    (hkept : ∀ tx ∈ s.early ++ call.changes, Frame.Sendable config tx) :
    (∀ m ∈ (s.take call).2, Frame.Sendable config m)
      ∧ ∀ tx ∈ (s.take call).1.early, Frame.Sendable config tx := by
  have hpasses := passes_take s call
  refine ⟨fun m hmem => ?_, fun tx hmem => hkept tx (hpasses.kept hmem)⟩
  by_cases hstatus : m.info.status = .syncing
  · have htold := hpasses.told m (List.mem_filter.mpr ⟨hmem, decide_eq_true hstatus⟩)
    exact sendable_of_tellsOf htold hkept
  · obtain ⟨htid, hops, hdata⟩ := ((adds_take s call).proper m hmem).plain hstatus
    refine Frame.sendable_of_plain hops hdata ?_
    rw [htid]
    nofun

end PinSession

end CellSync
