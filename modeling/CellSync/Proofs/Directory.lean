/-
What a directory has recorded of a cell.

The cells that a commit is for are each listed once (`nodup_targets`),
and recording a commit adds it to the logs of those cells and of no
others (`load_record`). Whatever makes a cell known leaves every log as
it is. So the log of a cell is the history of commits, narrowed to those
that are for the cell.
-/
import CellSync.Directory

namespace CellSync

-- =============================================================== tables

/-- Changing the value of one key changes what is found under that key only. -/
theorem lookup_map_update {α β : Type} [DecidableEq α] (table : List (α × β))
    (key k : α) (f : β → β) :
    (table.map fun (k', v) => if k' = key then (k', f v) else (k', v)).lookup k
      = if k = key then (table.lookup k).map f else table.lookup k := by
  induction table with
  | nil =>
      rw [List.map_nil, List.lookup_nil]
      split <;> rfl
  | cons entry table ih =>
      obtain ⟨k', v⟩ := entry
      rw [List.map_cons]
      by_cases hkey : k' = key
      · subst hkey
        show (((if k' = k' then (k', f v) else (k', v)) :: _).lookup k) = _
        rw [if_pos rfl, List.lookup_cons, List.lookup_cons, ih]
        by_cases hk : k = k'
        · subst hk
          simp
        · have hne : (k == k') = false := beq_eq_false_iff_ne.mpr hk
          simp [hk, hne]
      · show (((if k' = key then (k', f v) else (k', v)) :: _).lookup k) = _
        rw [if_neg hkey, List.lookup_cons, List.lookup_cons, ih]
        by_cases hk : k = key
        · subst hk
          have hne : (k == k') = false := beq_eq_false_iff_ne.mpr fun h => hkey h.symm
          simp [hne]
        · rw [if_neg hk, if_neg hk]

/-- A new entry at the end of a table is found under its key if nothing was. -/
theorem lookup_concat {α β : Type} [DecidableEq α] (table : List (α × β)) (key k : α)
    (v : β) : (table ++ [(key, v)]).lookup k
      = (table.lookup k).or (if k = key then some v else none) := by
  rw [List.lookup_append, List.lookup_cons, List.lookup_nil]
  by_cases hk : k = key
  · rw [if_pos hk, beq_iff_eq.mpr hk]
  · rw [if_neg hk, beq_eq_false_iff_ne.mpr hk]

/-- Without the entries of one key a table holds what it held under the others. -/
theorem lookup_filter_ne {α β : Type} [DecidableEq α] (table : List (α × β)) (key k : α) :
    (table.filter fun entry => entry.1 ≠ key).lookup k
      = if k = key then none else table.lookup k := by
  induction table with
  | nil => simp
  | cons entry table ih =>
      obtain ⟨k', v⟩ := entry
      by_cases hkey : k' = key
      · rw [List.filter_cons_of_neg (by simp [hkey]), ih, List.lookup_cons]
        by_cases hk : k = key
        · rw [if_pos hk, if_pos hk]
        · have hne : (k == k') = false := beq_eq_false_iff_ne.mpr fun h => hk (h.trans hkey)
          rw [if_neg hk, if_neg hk, hne]
      · rw [List.filter_cons_of_pos (by simp [hkey]), List.lookup_cons, List.lookup_cons, ih]
        by_cases hk : k = key
        · have hne : (k == k') = false :=
            beq_eq_false_iff_ne.mpr fun h => hkey (h.symm.trans hk)
          rw [if_pos hk, if_pos hk, hne]
        · rw [if_neg hk, if_neg hk]

-- ================================================ the cells of a commit

namespace TagId

/-- Of two identifiers one of which is at most the other, and not the same, it is less. -/
theorem lt_of_le_of_ne {a b : TagId} (hle : a ≤ b) (hne : a ≠ b) : a < b := by
  refine Nat.lt_of_le_of_ne hle fun h => hne ?_
  exact congrArg TagId.mk (Octets.ext_value h)

theorem ne_of_lt {a b : TagId} (h : a < b) : a ≠ b := by
  rintro rfl
  exact Nat.lt_irrefl _ h

/-- Repetitions can go without anything missing. -/
theorem mem_squeeze {a : TagId} {ts : List TagId} : a ∈ squeeze ts ↔ a ∈ ts := by
  induction ts using squeeze.induct with
  | case1 b rest ih =>
      rw [squeeze, if_pos rfl, ih, List.mem_cons, List.mem_cons, List.mem_cons]
      exact ⟨.inr, fun h => h.elim .inl id⟩
  | case2 b c rest hne ih =>
      rw [squeeze, if_neg hne, List.mem_cons, ih, List.mem_cons, List.mem_cons (b := b),
        List.mem_cons]
  | case3 short hshort => rw [squeeze]; exact hshort

/-- Of ascending identifiers each run of equal ones comes down to one. -/
theorem pairwise_squeeze {ts : List TagId} (h : ts.Pairwise (· ≤ ·)) :
    (squeeze ts).Pairwise (· < ·) := by
  induction ts using squeeze.induct with
  | case1 b rest ih =>
      rw [squeeze, if_pos rfl]
      exact ih h.tail
  | case2 b c rest hne ih =>
      rw [squeeze, if_neg hne]
      refine List.pairwise_cons.mpr ⟨fun d hd => ?_, ih h.tail⟩
      have hbc : b < c := lt_of_le_of_ne (List.rel_of_pairwise_cons h List.mem_cons_self) hne
      rcases List.mem_cons.mp (mem_squeeze.mp hd) with rfl | hrest
      · exact hbc
      · exact Nat.lt_of_lt_of_le hbc (List.rel_of_pairwise_cons h.tail hrest)
  | case3 short hshort =>
      match short with
      | [] => exact .nil
      | [b] => exact List.pairwise_singleton _ _
      | b :: c :: rest => exact absurd rfl (hshort b c rest)

/-- The distinct identifiers are those that there are. -/
theorem mem_distinct {a : TagId} {ts : List TagId} : a ∈ distinct ts ↔ a ∈ ts := by
  rw [distinct, mem_squeeze, List.mem_mergeSort]

theorem decide_le_trans (a b c : TagId) (hab : decide (a ≤ b) = true)
    (hbc : decide (b ≤ c) = true) : decide (a ≤ c) = true :=
  decide_eq_true (Nat.le_trans (of_decide_eq_true hab) (of_decide_eq_true hbc))

theorem decide_le_total (a b : TagId) : (decide (a ≤ b) || decide (b ≤ a)) = true := by
  rcases Nat.le_total a.octets.value b.octets.value with h | h
  · have hab : a ≤ b := h
    rw [decide_eq_true hab, Bool.true_or]
  · have hba : b ≤ a := h
    rw [decide_eq_true hba, Bool.or_true]

/-- No identifier is among them twice. -/
theorem nodup_distinct (ts : List TagId) : (distinct ts).Nodup := by
  have hsorted : (ts.mergeSort fun a b => decide (a ≤ b)).Pairwise
      fun a b => decide (a ≤ b) = true :=
    List.pairwise_mergeSort decide_le_trans decide_le_total ts
  exact (pairwise_squeeze (hsorted.imp of_decide_eq_true)).imp ne_of_lt

end TagId

/-- A commit is for the cells of its ops. -/
theorem Tx.mem_targets {tx : Tx} {cell : TagId} :
    cell ∈ tx.targets ↔ cell ∈ tx.ops.filterMap Op.target? := TagId.mem_distinct

/-- It is for each of them once. -/
theorem Tx.nodup_targets (tx : Tx) : tx.targets.Nodup := TagId.nodup_distinct _

/-- Whether an op of a message is for a cell. -/
def Tx.touches (tx : Tx) (cell : TagId) : Bool := tx.ops.any fun op => op.target? = some cell

/-- Whether a commit touches a cell is whether it is for it. -/
theorem Tx.touches_eq (tx : Tx) (cell : TagId) : tx.touches cell = decide (cell ∈ tx.targets) := by
  rw [Bool.eq_iff_iff, decide_eq_true_eq, Tx.mem_targets, List.mem_filterMap]
  simp [Tx.touches]

-- ============================================================= the logs

namespace Directory

/-- Getting to know a cell leaves every log as it is. -/
theorem load_know (d : Directory) (cell other : TagId) :
    (d.know cell).load other = d.load other := by
  unfold know
  split
  · rfl
  next hunknown =>
    have hnone : d.log.lookup cell = none := by
      rw [Option.not_isSome_iff_eq_none] at hunknown
      exact hunknown
    rw [load, load, lookup_concat]
    by_cases hother : other = cell
    · rw [if_pos hother, hother, hnone]
      rfl
    · rw [if_neg hother, Option.or_none]

/-- A cell is known afterwards. -/
theorem lookup_know (d : Directory) (cell : TagId) :
    ((d.know cell).log.lookup cell).isSome := by
  unfold know
  split
  next hknown => exact hknown
  · rw [lookup_concat, if_pos rfl, Option.isSome_or, Option.isSome_some, Bool.or_true]

/-- Appending to the log of one cell leaves the others. -/
theorem load_append (tx : Tx) (d : Directory) (cell other : TagId) :
    (append tx d cell).load other
      = if other = cell then d.load other ++ [tx] else d.load other := by
  have hload : (append tx d cell).load other
      = ((if other = cell then ((d.know cell).log.lookup other).map (· ++ [tx])
          else (d.know cell).log.lookup other)).getD [] := by
    rw [← lookup_map_update]
    rfl
  rw [hload]
  by_cases hother : other = cell
  · subst hother
    rw [if_pos rfl, if_pos rfl, ← load_know d other other, load]
    obtain ⟨txs, htxs⟩ := Option.isSome_iff_exists.mp (lookup_know d other)
    rw [htxs]
    rfl
  · rw [if_neg hother, if_neg hother, ← load_know d cell other, load]

/-- Appending to the logs of different cells. -/
theorem load_foldl_append (tx : Tx) {cells : List TagId} (h : cells.Nodup) (d : Directory)
    (other : TagId) :
    (cells.foldl (append tx) d).load other
      = if other ∈ cells then d.load other ++ [tx] else d.load other := by
  induction cells generalizing d with
  | nil => rfl
  | cons cell cells ih =>
      obtain ⟨hnew, hrest⟩ := List.nodup_cons.mp h
      rw [List.foldl_cons, ih hrest, load_append]
      by_cases hother : other = cell
      · subst hother
        rw [if_pos rfl, if_neg hnew, if_pos List.mem_cons_self]
      · rw [if_neg hother]
        by_cases hmem : other ∈ cells
        · rw [if_pos hmem, if_pos (List.mem_cons_of_mem _ hmem)]
        · rw [if_neg hmem, if_neg (by
            rw [List.mem_cons, not_or]
            exact ⟨hother, hmem⟩)]

/-- A commit is recorded once for each cell that it is for. -/
theorem load_record (d : Directory) (tx : Tx) (cell : TagId) :
    (d.record tx).load cell
      = if cell ∈ tx.targets then d.load cell ++ [tx] else d.load cell :=
  load_foldl_append tx tx.nodup_targets d cell

end Directory

end CellSync
