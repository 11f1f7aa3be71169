/-
The commit that a command line asks for, and the values in it.

Every `NAME=VALUE` becomes a value and an op that refers to it, in the
order of the arguments. So the commit is put together part by part
(`settingParts`), and what holds of the values of any such transaction
holds of the texts on the command line: each is read back through the op
that sets it.
-/
import CellSync.Command.Run
import CellSync.Proofs.Tx.Assembly

namespace CellSync

namespace Command

-- ================================================================= pairs

/-- The two sides of a text that is split. There is no equals sign in the name, so the
value is what comes after the first one. -/
theorem eq_of_splitPair {input what name value : String}
    (h : splitPair input what = .ok (name, value)) :
    input = name ++ "=" ++ value ∧ '=' ∉ name.toList ∧ name ≠ "" := by
  unfold splitPair at h
  dsimp only at h
  split at h
  · rename_i sign rest hrest
    split at h
    · cases h
    · rename_i hname
      obtain rfl : sign = '=' := by
        have hfirst := List.head?_dropWhile_not (· ≠ '=') input.toList
        rw [hrest] at hfirst
        simpa using hfirst
      have hwhole : input.toList = input.toList.takeWhile (· ≠ '=') ++ '=' :: rest := by
        rw [← hrest, List.takeWhile_append_dropWhile]
      injection h with h
      injection h with hleft hright
      subst hleft hright
      refine ⟨?_, ?_, ?_⟩
      · apply String.toList_inj.mp
        rw [String.toList_append, String.toList_append, List.append_assoc]
        simp only [String.toList_ofList]
        exact hwhole
      · rw [String.toList_ofList]
        intro hmem
        simpa using List.all_eq_true.mp List.all_takeWhile '=' hmem
      · intro hempty
        apply hname
        have hnil := congrArg String.toList hempty
        rw [String.toList_ofList] at hnil
        rw [hnil]
        rfl
  · cases h

/-- Where a function does not fail on a list it does not fail on any of its items. -/
theorem forall₂_of_mapM {α β ε : Type} {f : α → Except ε β} {as : List α} {bs : List β}
    (h : as.mapM f = .ok bs) : List.Forall₂ (fun a b => f a = .ok b) as bs := by
  induction as generalizing bs with
  | nil =>
      rw [List.mapM_nil] at h
      cases h
      exact .nil
  | cons a as ih =>
      rw [List.mapM_cons] at h
      obtain ⟨b, hb, h⟩ := bind_eq_ok.mp h
      obtain ⟨rest, hrest, h⟩ := bind_eq_ok.mp h
      cases h
      exact .cons hb (ih hrest)

namespace Run

-- =============================================================== setting

/-- The op that sets an attribute of a cell to a text. -/
def setting (cell : TagId) (pair : String × String) (r : DataRef) : Op :=
  .upsertAttr cell (.ofName pair.1) .nil (valueHash pair.2.toUTF8) r

/-- A transaction in which some attributes are set, one after another. -/
def setAll (cell : TagId) (tx : Tx) (pairs : List (String × String)) : Tx :=
  pairs.foldl (fun tx (attr, value) => setAttr cell tx attr value) tx

/-- The parts that setting some attributes adds to a transaction. -/
def settingParts (cell : TagId) (tx : Tx) : List (String × String) → List Tx.Part
  | [] => []
  | pair :: pairs =>
    .value pair.2.toUTF8 :: .op (setting cell pair (tx.push pair.2.toUTF8).2)
      :: settingParts cell (setAttr cell tx pair.1 pair.2) pairs

/-- Setting attributes is adding those parts, and the ops refer to the values in turn. -/
theorem assemble_settingParts (cell : TagId) (tx : Tx) (pairs : List (String × String)) :
    ∃ refs, tx.assemble (settingParts cell tx pairs) = (setAll cell tx pairs, refs)
      ∧ Tx.values (settingParts cell tx pairs) = pairs.map (·.2.toUTF8)
      ∧ (setAll cell tx pairs).ops = tx.ops ++ List.zipWith (setting cell) pairs refs := by
  induction pairs generalizing tx with
  | nil => exact ⟨[], rfl, rfl, (List.append_nil _).symm⟩
  | cons pair pairs ih =>
      obtain ⟨refs, hassemble, hvalues, hops⟩ := ih (setAttr cell tx pair.1 pair.2)
      refine ⟨(tx.push pair.2.toUTF8).2 :: refs, ?_, ?_, ?_⟩
      · have hset : ((tx.push pair.2.toUTF8).1.pushOp
            (setting cell pair (tx.push pair.2.toUTF8).2)) = setAttr cell tx pair.1 pair.2 := rfl
        simp only [settingParts, Tx.assemble, hset, hassemble]
        rfl
      · show pair.2.toUTF8 :: Tx.values (settingParts cell _ pairs) = _
        rw [hvalues]
        rfl
      · have hset : (setAttr cell tx pair.1 pair.2).ops
            = tx.ops ++ [setting cell pair (tx.push pair.2.toUTF8).2] := rfl
        show (setAll cell (setAttr cell tx pair.1 pair.2) pairs).ops = _
        rw [hops, hset, List.append_assoc]
        rfl

/-- A text that is split at its equals sign, and an op that sets what it says: the name
is before the first equals sign and the value behind it, and the value is read back
from the transaction through the op's reference. -/
def SetsAs (cell : TagId) (tx : Tx) (entry : String) (op : Op) : Prop :=
  ∃ name value r, entry = name ++ "=" ++ value ∧ '=' ∉ name.toList ∧ name ≠ ""
    ∧ op = setting cell (name, value) r ∧ tx.value? r = some value.toUTF8

theorem forall₂_setsAs {cell : TagId} {tx : Tx} {entries : List String}
    {pairs : List (String × String)} {refs : List DataRef}
    (hpairs : List.Forall₂ (fun entry pair => splitPair entry "--set" = .ok pair) entries pairs)
    (hyields : tx.Yields refs (pairs.map (·.2.toUTF8))) :
    List.Forall₂ (SetsAs cell tx) entries (List.zipWith (setting cell) pairs refs) := by
  induction hpairs generalizing refs with
  | nil => exact .nil
  | @cons entry pair entries pairs hpair _ ih =>
      cases hyields with
      | @cons r _ refs _ hvalue hyields =>
          obtain ⟨hentry, hsign, hname⟩ := eq_of_splitPair hpair
          exact .cons ⟨pair.1, pair.2, r, hentry, hsign, hname, rfl, hvalue⟩ (ih hyields)

/-- The ops of a commit before those that set attributes. -/
def deleting (o : Change) : List Op := if o.deleteCell then [.deleteCell (.ofName o.cell)] else []

/-- The ops of a commit after those that set attributes. -/
def removing (o : Change) : List Op :=
  o.deleteAttrs.map fun attr => .deleteAttr (.ofName o.cell) (.ofName attr) .nil

theorem foldl_pushOp {α : Type} (op : α → Op) (tx : Tx) (as : List α) :
    as.foldl (fun tx a => tx.pushOp (op a)) tx = { tx with ops := tx.ops ++ as.map op } := by
  induction as generalizing tx with
  | nil => simp
  | cons a as ih =>
      rw [List.foldl_cons, ih]
      simp [Tx.pushOp]

/-- An accepted commit sets what the arguments say, in their order. -/
theorem eq_of_change {o : Change} {tx : Tx} (h : change o = .ok tx) :
    ∃ pairs, List.Forall₂ (fun entry pair => splitPair entry "--set" = .ok pair) o.set pairs
      ∧ tx = { setAll (.ofName o.cell) ((Tx.ofKind .commit).withOps (deleting o)) pairs with
          ops := (setAll (.ofName o.cell) ((Tx.ofKind .commit).withOps (deleting o)) pairs).ops
            ++ removing o } := by
  unfold change at h
  obtain ⟨pairs, hpairs, h⟩ := bind_eq_ok.mp h
  refine ⟨pairs, forall₂_of_mapM hpairs, ?_⟩
  change (if (o.deleteAttrs.foldl
      (fun tx attr => tx.pushOp (.deleteAttr (.ofName o.cell) (.ofName attr) .nil))
      (setAll (.ofName o.cell) ((Tx.ofKind .commit).withOps (deleting o)) pairs)).ops.isEmpty
    then _ else pure _) = _ at h
  split at h
  · cases h
  · cases h
    exact foldl_pushOp _ _ _

/-- An accepted commit is put together from parts, and the ops that set attributes stand
in the order of the arguments, each with a reference to its value. -/
theorem exists_parts_of_change {o : Change} {tx : Tx} (h : change o = .ok tx) :
    ∃ pairs parts refs, (Tx.ofKind .commit).assemble parts = (tx, refs)
      ∧ List.Forall₂ (fun entry pair => splitPair entry "--set" = .ok pair) o.set pairs
      ∧ Tx.values parts = pairs.map (·.2.toUTF8)
      ∧ tx.ops
        = deleting o ++ List.zipWith (setting (.ofName o.cell)) pairs refs ++ removing o := by
  obtain ⟨pairs, hpairs, rfl⟩ := eq_of_change h
  obtain ⟨refs, hassemble, hvalues, hops⟩ := assemble_settingParts (.ofName o.cell)
    ((Tx.ofKind .commit).withOps (deleting o)) pairs
  refine ⟨pairs, (deleting o).map .op
    ++ (settingParts (.ofName o.cell) ((Tx.ofKind .commit).withOps (deleting o)) pairs
      ++ (removing o).map .op), refs, ?_, hpairs, ?_, ?_⟩
  · have hstart : (Tx.ofKind .commit).assemble ((deleting o).map .op)
        = ((Tx.ofKind .commit).withOps (deleting o), []) := Tx.assemble_ops _ _
    rw [Tx.assemble_append, hstart, Tx.assemble_append, hassemble, Tx.assemble_ops]
    simp
  · rw [Tx.values_append, Tx.values_append, Tx.values_ops, Tx.values_ops, hvalues,
      List.append_nil, List.nil_append]
  · rw [hops]
    rfl

end Run

end Command

-- ================================================================ keeping

/-- However a transaction is put together from values and ops, every value is read back
through the reference that it was given: from the transaction and from the same one
over any of its ops, and, once the transaction can be written, from what either is
read as after it was written. Where the ops refer to these values only, nothing but
the limits keeps the transaction from being written. So every accepted `NAME=VALUE`
of a command line sets, in the order of the arguments, an attribute to a value that
reads as the text after the first equals sign, with the hash of that text. (A buffer
is no longer than a 64-bit word can tell.) -/
theorem values_kept :
    (∀ (info : Info) (parts : List Tx.Part),
      let (tx, refs) := (Tx.mk info [] .empty).assemble parts
      tx.data.size ≤ maxWord →
        tx.Yields refs (Tx.values parts)
          ∧ (∀ ops, ops.Sublist tx.ops → Tx.Kept tx ops refs (Tx.values parts))
          ∧ ((∀ op ∈ tx.ops, ∀ r, op.value? = some r → r ∈ refs) → Frame.Within {} tx →
              info.tid ≠ some .zero → ∃ frame, tx.serialize = .ok frame))
      ∧ ∀ (o : Command.Change) (tx : Tx), Command.Run.change o = .ok tx → tx.data.size ≤ maxWord →
          ∃ parts refs sets, (Tx.ofKind .commit).assemble parts = (tx, refs)
            ∧ tx.ops = Command.Run.deleting o ++ sets ++ Command.Run.removing o
            ∧ List.Forall₂ (Command.Run.SetsAs (.ofName o.cell) tx) o.set sets := by
  constructor
  · intro info parts
    generalize hassemble : (Tx.mk info [] .empty).assemble parts = assembled
    obtain ⟨tx, refs⟩ := assembled
    intro hword
    have hyields := Tx.yields_assemble (Tx.mk info [] .empty) parts
    rw [hassemble] at hyields
    have hinfo := Tx.info_assemble (Tx.mk info [] .empty) parts
    rw [hassemble] at hinfo
    refine ⟨hyields hword, fun ops hops => Tx.kept_of_yields hops (hyields hword), ?_⟩
    intro hrefs hin htid
    apply Tx.exists_serialize (hyields hword) hrefs hin
    rwa [hinfo]
  · intro o tx hchange hword
    obtain ⟨pairs, parts, refs, hassemble, hpairs, hvalues, hops⟩ :=
      Command.Run.exists_parts_of_change hchange
    have hyields := Tx.yields_assemble (Tx.ofKind .commit) parts
    rw [hassemble, hvalues] at hyields
    exact ⟨parts, refs, _, hassemble, hops, Command.Run.forall₂_setsAs hpairs (hyields hword)⟩

/-- An op that refers to the empty value between two others, without the op behind it,
is written and read; and two attributes are set, one to a text with an equals sign and
one to nothing. -/
theorem values_kept_small :
    let parts : List Tx.Part := [.value (Bytes.pack [1, 2]), .op (.metaAttr .nil .nil ⟨2, 0⟩),
      .value .empty, .op .noOp, .value (Bytes.pack [3])]
    let tx : Tx := ⟨⟨.commit, none, 7, .notStarted, .nil⟩,
      [.metaAttr .nil .nil ⟨2, 0⟩, .noOp], Bytes.pack [1, 2, 3]⟩
    let change : Command.Change :=
      { connect := ⟨"", "", "", "", ""⟩, cell := "lobby", set := ["title=hi=there", "note="]
        deleteAttrs := ["old"], deleteCell := false }
    ((Tx.mk tx.info [] .empty).assemble parts) = (tx, [⟨0, 2⟩, ⟨2, 0⟩, ⟨2, 1⟩])
      ∧ (∃ narrowed read, (tx.withOps [.metaAttr .nil .nil ⟨2, 0⟩]).serialize = .ok narrowed
          ∧ Tx.deserialize narrowed = .ok read
          ∧ read.Yields [⟨0, 2⟩, ⟨2, 0⟩, ⟨2, 1⟩] (Tx.values parts))
      ∧ ∃ made sets, Command.Run.change change = .ok made
          ∧ List.Forall₂ (Command.Run.SetsAs (.ofName change.cell) made) change.set sets := by
  intro parts tx change
  have hassemble : (Tx.mk tx.info [] .empty).assemble parts = (tx, [⟨0, 2⟩, ⟨2, 0⟩, ⟨2, 1⟩]) := by
    decide
  have hgeneral := values_kept.1 tx.info parts
  rw [hassemble] at hgeneral
  obtain ⟨-, hkept, hserialize⟩ := hgeneral (by decide)
  have hsublist : [Op.metaAttr .nil .nil ⟨2, 0⟩].Sublist tx.ops := by decide
  obtain ⟨frame, hframe⟩ := hserialize (by decide) ⟨by decide, by decide⟩ (by decide)
  refine ⟨hassemble, (hkept _ hsublist).exists_read frame hframe, ?_⟩
  obtain ⟨made, hmade, hword⟩ :
      ∃ made, Command.Run.change change = .ok made ∧ made.data.size ≤ maxWord :=
    ⟨_, rfl, by decide⟩
  obtain ⟨-, -, sets, -, -, hsets⟩ := values_kept.2 change made hmade hword
  exact ⟨made, sets, hmade, hsets⟩

end CellSync
