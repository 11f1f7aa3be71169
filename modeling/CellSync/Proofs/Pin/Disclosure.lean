/-
What of the values of a change reaches a session that sees some of its ops.

Two runs of one session are compared. The same calls are made in both,
but the changes in them may differ in those data bytes that no op for the
session refers to (`Agree`). In both runs the session then tells the same:
message by message the same control fields, the same ops and the same
value for each of them. The two runs go through sessions that differ at
most in the early changes that they keep (`Twin`), and every call leads
from twins to twins.

A change is told with the data segment that it was published with, and
not with a part of it. So the values that are in it for other ops go
along, and the messages of the two runs need not be the same
(`exists_told_apart`).
-/
import CellSync.Proofs.Pin.Grammar

namespace CellSync

-- ================================================================ bytes

/-- A range of two arrays is the same if they agree on every position in it. -/
theorem Bytes.extract_congr {a b : ByteArray} {start stop : Nat}
    (h : ∀ i, start ≤ i → i < stop → (list b)[i]? = (list a)[i]?) :
    b.extract start stop = a.extract start stop := by
  have hslice : slice b start stop = slice a start stop := by
    rw [slice_eq, slice_eq]
    refine List.ext_getElem? fun i => ?_
    rw [List.getElem?_take, List.getElem?_take, List.getElem?_drop, List.getElem?_drop]
    by_cases hi : i < stop - start
    · rw [if_pos hi, if_pos hi]
      exact h (start + i) (by omega) (by omega)
    · rw [if_neg hi, if_neg hi]
  rw [← pack_list (b.extract start stop), ← pack_list (a.extract start stop)]
  exact congrArg pack hslice

namespace Tx

variable {a b : Tx} {ops : List Op}

/-- Two transactions differ at most in data bytes that none of some ops refers to. -/
structure AgreeOn (ops : List Op) (a b : Tx) : Prop where
  info_eq : b.info = a.info
  ops_eq : b.ops = a.ops
  size_eq : b.data.size = a.data.size
  bytes_eq : ∀ op ∈ ops, ∀ r, op.value? = some r → ∀ i, r.offset.toNat ≤ i → i < r.stop →
    (Bytes.list b.data)[i]? = (Bytes.list a.data)[i]?

/-- A transaction agrees with itself on whatever ops. -/
theorem AgreeOn.refl (ops : List Op) (tx : Tx) : AgreeOn ops tx tx :=
  ⟨rfl, rfl, rfl, fun _ _ _ _ _ _ _ => rfl⟩

/-- The ops have the same values in both. -/
theorem AgreeOn.value?_eq (h : AgreeOn ops a b) {op : Op} (hop : op ∈ ops) :
    op.value?.bind b.value? = op.value?.bind a.value? := by
  cases hvalue : op.value? with
  | none => rfl
  | some r =>
      show b.value? r = a.value? r
      unfold value?
      rw [h.size_eq, Bytes.extract_congr (h.bytes_eq op hop r hvalue)]

end Tx

namespace PinSession

variable {s t : PinSession} {a b : Tx} {as bs : List Tx} {call call' : Call}

-- ============================================================ agreement

/-- Two changes differ at most in data that a session is not to see. -/
def Agree (s : PinSession) (a b : Tx) : Prop := Tx.AgreeOn (s.filterOps a) a b

/-- Which ops are meant for a session hangs on its cell and attributes alone. -/
theorem filterOps_alike (h : Alike s t) (tx : Tx) : t.filterOps tx = s.filterOps tx := by
  unfold filterOps wants
  rw [h.cell_eq, h.attrs_eq]

/-- So does what it is not to see. -/
theorem Agree.alike (hab : s.Agree a b) (h : Alike s t) : t.Agree a b := by
  rw [Agree, filterOps_alike h]
  exact hab

/-- The same for a whole backlog. -/
theorem forall₂_agree_alike (hab : List.Forall₂ s.Agree as bs) (h : Alike s t) :
    List.Forall₂ t.Agree as bs :=
  hab.imp fun _ _ hagree => hagree.alike h

/-- Two calls differ at most in data that a session is not to see. -/
inductive SameCall (s : PinSession) : Call → Call → Prop where
  | begin {as bs : List Tx} (h : List.Forall₂ s.Agree as bs) : SameCall s (.begin as) (.begin bs)
  | publish {a b : Tx} (h : s.Agree a b) : SameCall s (.publish a) (.publish b)
  | close (code : ErrorCode) : SameCall s (.close code) (.close code)

/-- Calls that are alike for a session are so for every session of its cell and attributes. -/
theorem SameCall.alike (hcall : s.SameCall call call') (h : Alike s t) :
    t.SameCall call call' := by
  cases hcall with
  | begin hab => exact .begin (forall₂_agree_alike hab h)
  | publish hab => exact .publish (hab.alike h)
  | close code => exact .close code

/-- Two messages differ at most in data that none of their ops refers to. -/
def Matches (m n : Tx) : Prop := Tx.AgreeOn m.ops m n

/-- A message agrees with itself. -/
theorem Matches.refl (m : Tx) : Matches m m := Tx.AgreeOn.refl m.ops m

/-- So do messages in a row. -/
theorem forall₂_matches_refl (out : List Tx) : List.Forall₂ Matches out out :=
  List.forall₂_same.mpr fun m _ => .refl m

-- ================================================================ twins

/-- Two sessions are the same but for the early changes they keep, which agree. -/
inductive Twin (s : PinSession) : PinSession → Prop where
  | keeping (kept : List Tx) (h : List.Forall₂ s.Agree s.early kept) :
      Twin s { s with early := kept }

/-- A session is its own twin. -/
theorem Twin.refl (s : PinSession) : Twin s s :=
  .keeping s.early (List.forall₂_same.mpr fun tx _ => Tx.AgreeOn.refl (s.filterOps tx) tx)

/-- Twins stay twins when they come to the same status. -/
theorem Twin.withStatus (h : Twin s t) (status : Status) :
    Twin { s with status := status } { t with status := status } := by
  cases h with
  | keeping kept hkept => exact .keeping kept hkept

/-- Two steps lead to twins and tell the same. -/
structure Parallel (x y : Step) : Prop where
  twin : Twin x.1 y.1
  told : List.Forall₂ Matches x.2 y.2

/-- A step is parallel to itself. -/
theorem Parallel.refl (x : Step) : Parallel x x := ⟨.refl x.1, forall₂_matches_refl x.2⟩

/-- Of two parallel steps both are silent or neither is. -/
theorem Parallel.isEmpty_eq {x y : Step} (h : Parallel x y) : y.2.isEmpty = x.2.isEmpty := by
  obtain ⟨-, htold⟩ := h
  generalize x.2 = out at htold ⊢
  generalize y.2 = out' at htold ⊢
  cases htold <;> rfl

/-- Parallel steps one after another are parallel. -/
theorem Parallel.append {x y x' y' : Step} (h : Parallel x y) (h' : Parallel x' y') :
    Parallel (x'.1, x.2 ++ x'.2) (y'.1, y.2 ++ y'.2) :=
  ⟨h'.twin, List.rel_append h.told h'.told⟩

/-- Twins that emit agreeing changes tell the same of them. -/
theorem Twin.emit (h : Twin s t) (hab : s.Agree a b) : Parallel (s.emit a) (t.emit b) := by
  cases h with
  | keeping kept hkept =>
    have hstale : isStale { s with early := kept } b = s.isStale a := by
      unfold isStale
      rw [hab.info_eq]
    have hops : filterOps { s with early := kept } b = s.filterOps a := by
      rw [filterOps, hab.ops_eq]
      rfl
    unfold PinSession.emit
    dsimp only
    rw [hstale, hops, hab.info_eq]
    split
    · exact ⟨.keeping kept hkept, .nil⟩
    · refine ⟨.keeping kept hkept, .cons ⟨?_, rfl, hab.size_eq, hab.bytes_eq⟩ .nil⟩
      show (⟨.state, b.info.tid, s.contextId, .syncing, .nil⟩ : Info) = _
      rw [hab.info_eq]
      rfl

/-- The same for changes in a row. -/
theorem Twin.emitAll (h : Twin s t) (hab : List.Forall₂ s.Agree as bs) :
    Parallel (s.emitAll as) (t.emitAll bs) := by
  induction as generalizing s t bs with
  | nil =>
      rw [List.forall₂_nil_left_iff.mp hab]
      exact ⟨h, .nil⟩
  | cons a as ih =>
      obtain ⟨b, bs, hfirst, hrest, rfl⟩ := List.forall₂_cons_left_iff.mp hab
      have hemit := h.emit hfirst
      exact hemit.append (ih hemit.twin (forall₂_agree_alike hrest (alike_emit s a)))

/-- Twins settle with the same words. -/
theorem Twin.settle (h : Twin s t) : Parallel s.settle t.settle := by
  cases h with
  | keeping kept hkept =>
    unfold PinSession.settle
    dsimp only
    split
    · exact .refl _
    · exact ⟨.keeping kept hkept, forall₂_matches_refl _⟩

/-- Twins begin alike on agreeing backlogs, whatever they have kept. -/
theorem Twin.begin (h : Twin s t) (hab : List.Forall₂ s.Agree as bs) :
    Parallel (s.begin as) (t.begin bs) := by
  cases h with
  | keeping kept hkept =>
    unfold PinSession.begin
    dsimp only
    split
    · exact ⟨.keeping kept hkept, .nil⟩
    · split
      · exact .refl _
      · have hall := (Twin.refl { s with status := .syncing, early := [] }).emitAll
          (List.rel_append hab hkept)
        exact hall.append hall.twin.settle

/-- Twins tell the same of agreeing changes, or both keep them. -/
theorem Twin.publish (h : Twin s t) (hab : s.Agree a b) :
    Parallel (s.publish a) (t.publish b) := by
  cases h with
  | keeping kept hkept =>
    have hemit := (Twin.keeping (s := { s with status := .syncing }) kept hkept).emit hab
    unfold PinSession.publish
    dsimp only
    split
    · exact ⟨.keeping kept hkept, .nil⟩
    · exact ⟨.keeping _ (List.rel_append hkept (.cons hab .nil)), .nil⟩
    -- While it syncs and while it is synced, a session does the same.
    all_goals
      split
      · exact ⟨.keeping kept hkept, .nil⟩
      · rw [hemit.isEmpty_eq]
        split
        · exact ⟨hemit.twin.withStatus .synced, .nil⟩
        · exact hemit.append hemit.twin.settle

/-- A closing message has no data at all. -/
theorem Twin.close (h : Twin s t) (code : ErrorCode) : Parallel (s.close code) (t.close code) := by
  cases h with
  | keeping kept hkept =>
    unfold PinSession.close isClosed
    dsimp only
    split
    · exact ⟨.keeping kept hkept, .nil⟩
    · exact .refl _

/-- Every call leads from twins to twins, and they tell the same. -/
theorem Twin.take (h : Twin s t) (hcall : s.SameCall call call') :
    Parallel (s.take call) (t.take call') := by
  cases hcall with
  | begin hab => exact h.begin hab
  | publish hab => exact h.publish hab
  | close code => exact h.close code

/-- So does every run of calls. -/
theorem Twin.run {calls calls' : List Call} (h : Twin s t)
    (hcalls : List.Forall₂ s.SameCall calls calls') : Parallel (s.run calls) (t.run calls') := by
  induction calls generalizing s t calls' with
  | nil =>
      rw [List.forall₂_nil_left_iff.mp hcalls]
      exact ⟨h, .nil⟩
  | cons call calls ih =>
      obtain ⟨call', calls', hfirst, hrest, rfl⟩ := List.forall₂_cons_left_iff.mp hcalls
      have hone := h.take hfirst
      have halike := (adds_take s call).alike
      exact hone.append (ih hone.twin (hrest.imp fun _ _ hcall => hcall.alike halike))

-- ============================================================== changes

/-- The changes that a call brings. -/
def Call.changes : Call → List Tx
  | .begin backlog => backlog
  | .publish tx => [tx]
  | .close _ => []

/-- A message tells one of some changes: it has the ops of it that are meant for
the session, and all of its data. -/
def TellsOf (s : PinSession) (txs : List Tx) (m : Tx) : Prop :=
  ∃ tx ∈ txs, m.info.tid = tx.info.tid ∧ m.ops = s.filterOps tx ∧ m.data = tx.data

/-- What tells of a change for one session does so for every session of its cell and
attributes. -/
theorem TellsOf.alike {txs : List Tx} {m : Tx} (hm : t.TellsOf txs m) (h : Alike s t) :
    s.TellsOf txs m := by
  obtain ⟨tx, hmem, htid, hops, hdata⟩ := hm
  exact ⟨tx, hmem, htid, hops.trans (filterOps_alike h tx), hdata⟩

/-- A step tells changes that were kept or are brought, and keeps no others. -/
structure Passes (s : PinSession) (brought : List Tx) (x : Step) : Prop where
  kept : x.1.early ⊆ s.early ++ brought
  told : ∀ m ∈ syncing x.2, s.TellsOf (s.early ++ brought) m

/-- A step that tells no change, and keeps none that was not kept. -/
theorem passes_silent {brought : List Tx} {x : Step} (hkept : x.1.early ⊆ s.early ++ brought)
    (hsilent : syncing x.2 = []) : s.Passes brought x := by
  refine ⟨hkept, fun m hmem => ?_⟩
  rw [hsilent] at hmem
  cases hmem

/-- Settling tells no change. -/
theorem syncing_settle (s : PinSession) : syncing s.settle.2 = [] := by
  by_cases hmode : s.mode = .closeOnSync
  · rw [settle_of_eq hmode]
    rfl
  · rw [settle_of_ne hmode]
    rfl

/-- Settling keeps no change that was not kept. -/
theorem early_settle (s : PinSession) : s.settle.1.early ⊆ s.early := by
  by_cases hmode : s.mode = .closeOnSync
  · rw [settle_of_eq hmode]
    exact List.nil_subset _
  · rw [settle_of_ne hmode]
    exact List.Subset.refl _

/-- Nor does emitting. -/
theorem early_emit (s : PinSession) (tx : Tx) : (s.emit tx).1.early = s.early := by
  rcases emit_cases s tx with hnone | ⟨-, -, hsome⟩
  · rw [hnone]
  · rw [hsome]
    rfl

/-- What is emitted of a change tells of it. -/
theorem told_emit {txs : List Tx} {tx : Tx} (h : tx ∈ txs) :
    ∀ m ∈ (s.emit tx).2, s.TellsOf txs m := by
  intro m hmem
  rcases emit_cases s tx with hnone | ⟨-, -, hsome⟩
  · rw [hnone] at hmem
    cases hmem
  · rw [hsome] at hmem
    rw [List.mem_singleton.mp hmem]
    exact ⟨tx, h, rfl, rfl, rfl⟩

/-- What is emitted of some changes tells of one of them. -/
theorem told_emitAll {txs : List Tx} (h : as ⊆ txs) : ∀ m ∈ (s.emitAll as).2, s.TellsOf txs m := by
  induction as generalizing s with
  | nil => exact fun m hmem => absurd hmem List.not_mem_nil
  | cons a as ih =>
      obtain ⟨ha, has⟩ := List.cons_subset.mp h
      intro m hmem
      rcases List.mem_append.mp hmem with hmem | hmem
      · exact told_emit ha m hmem
      · exact (ih has m hmem).alike (alike_emit s a)

/-- A session that begins tells of its backlog and of what it has kept. -/
theorem passes_begin (s : PinSession) (backlog : List Tx) :
    s.Passes backlog (s.begin backlog) := by
  unfold PinSession.begin
  split
  · exact passes_silent (List.subset_append_left _ _) rfl
  · split
    · exact passes_silent (List.nil_subset _) rfl
    · dsimp only
      refine ⟨fun tx hmem => ?_, fun m hmem => ?_⟩
      · have hmem := early_settle _ hmem
        obtain ⟨-, ⟨newest, hreach⟩, -⟩ :=
          adds_emitAll { s with status := .syncing, early := [] } (backlog ++ s.early)
        rw [hreach] at hmem
        cases hmem
      · rw [syncing_append, syncing_settle, List.append_nil] at hmem
        have htold := told_emitAll (s := { s with status := .syncing, early := [] })
          (show backlog ++ s.early ⊆ s.early ++ backlog by simp) m (List.mem_filter.mp hmem).1
        exact htold.alike ⟨rfl, rfl, rfl, rfl⟩

/-- A session that is offered a change tells of it, keeps it or passes over it. -/
theorem passes_publish (s : PinSession) (tx : Tx) : s.Passes [tx] (s.publish tx) := by
  have hearly : ({ s with status := .syncing }.emit tx).1.early ⊆ s.early ++ [tx] := by
    rw [early_emit]
    exact List.subset_append_left _ _
  unfold PinSession.publish
  split
  · exact passes_silent (List.subset_append_left _ _) rfl
  · exact passes_silent (List.Subset.refl _) rfl
  -- While it syncs and while it is synced, a session does the same.
  all_goals
    split
    · exact passes_silent (List.subset_append_left _ _) rfl
    · dsimp only
      split
      · exact passes_silent hearly rfl
      · refine ⟨fun other hmem => hearly (early_settle _ hmem), fun m hmem => ?_⟩
        rw [syncing_append, syncing_settle, List.append_nil] at hmem
        have htold := told_emit (s := { s with status := .syncing })
          (List.mem_append_right s.early (List.mem_singleton_self tx)) m (List.mem_filter.mp hmem).1
        exact htold.alike ⟨rfl, rfl, rfl, rfl⟩

/-- No call tells of a change that was neither kept nor brought by it. -/
theorem passes_take (s : PinSession) (call : Call) : s.Passes call.changes (s.take call) := by
  cases call with
  | begin backlog => exact passes_begin s backlog
  | publish tx => exact passes_publish s tx
  | close code =>
      show s.Passes [] (s.close code)
      unfold PinSession.close
      split
      · exact passes_silent (List.subset_append_left _ _) rfl
      · exact passes_silent (List.nil_subset _) rfl

/-- Over a run only changes are told that were kept before or that a call has brought. -/
theorem passes_run (s : PinSession) (calls : List Call) :
    s.Passes (calls.flatMap Call.changes) (s.run calls) := by
  induction calls generalizing s with
  | nil => exact passes_silent (List.subset_append_left _ _) rfl
  | cons call calls ih =>
      have hfirst := passes_take s call
      have hrest := ih (s.take call).1
      -- What the first call leaves to be told was kept or brought before.
      have hleft : (s.take call).1.early ++ calls.flatMap Call.changes
          ⊆ s.early ++ (call :: calls).flatMap Call.changes := by
        rw [List.flatMap_cons, ← List.append_assoc]
        exact List.append_subset.mpr
          ⟨List.subset_append_of_subset_left _ hfirst.kept, List.subset_append_right _ _⟩
      refine ⟨fun tx hmem => hleft (hrest.kept hmem), fun m hmem => ?_⟩
      have hmem : m ∈ syncing ((s.take call).2 ++ ((s.take call).1.run calls).2) := hmem
      rw [syncing_append] at hmem
      rcases List.mem_append.mp hmem with hmem | hmem
      · obtain ⟨tx, htx, htells⟩ := hfirst.told m hmem
        refine ⟨tx, ?_, htells⟩
        rw [List.flatMap_cons, ← List.append_assoc]
        exact List.mem_append_left _ htx
      · obtain ⟨tx, htx, htells⟩ := (hrest.told m hmem).alike (adds_take s call).alike
        exact ⟨tx, hleft htx, htells⟩

-- =========================================================== disclosure

/-- There is no data in which messages that tell no change could differ. -/
theorem eq_of_matches {m n : Tx} (hproper : s.Proper m) (h : Matches m n)
    (hplain : m.info.status ≠ .syncing) : n = m := by
  obtain ⟨-, -, hdata⟩ := hproper.plain hplain
  have hsize : n.data.size = 0 := by
    rw [h.size_eq, hdata]
    rfl
  have hempty : n.data = m.data := by
    rw [hdata]
    exact ByteArray.size_eq_zero_iff.mp hsize
  cases n
  cases m
  obtain ⟨hinfo, hops, -, -⟩ := h
  cases hinfo
  cases hops
  cases hempty
  rfl

/-- A pin of one cell that stays open. -/
def viewer : PinSession :=
  { contextId := 7, cell := .ofWord 1, attrs := [], mode := .maintain }

/-- A change with a text for that cell and a byte for another one. -/
def shared (hidden : UInt8) : Tx :=
  { Tx.ofKind .commit with
    ops := [.upsertAttr (.ofWord 1) (.ofWord 3) (.ofWord 4) 5 ⟨0, 2⟩,
      .upsertAttr (.ofWord 2) (.ofWord 3) (.ofWord 4) 6 ⟨2, 1⟩]
    data := ⟨#[104, 105, hidden]⟩ }

/-- The viewer is meant to see the first of the two ops. -/
theorem filterOps_shared (hidden : UInt8) : viewer.filterOps (shared hidden)
    = [.upsertAttr (.ofWord 1) (.ofWord 3) (.ofWord 4) 5 ⟨0, 2⟩] := by
  show (shared 0).ops.filter viewer.wants = _
  decide

/-- What is there for the other cell is not to be seen. -/
theorem agree_shared (hidden other : UInt8) : viewer.Agree (shared hidden) (shared other) := by
  refine ⟨rfl, rfl, rfl, ?_⟩
  rw [filterOps_shared]
  intro op hop r hvalue i _ hi
  rw [List.mem_singleton.mp hop] at hvalue
  cases hvalue
  have hi : i < 2 := hi
  match i, hi with
  | 0, _ => rfl
  | 1, _ => rfl

/-- In two runs that differ at most in data that a session is not to see, it tells
the same, message by message: the same control fields and ops, with the same
values, and the same data wherever one of the ops refers to it. Messages that
tell no change are equal. A message that tells a change has the whole data
segment of it, with whatever is there for other ops. -/
theorem run_matches {s : PinSession} {calls calls' : List Call}
    (h : List.Forall₂ s.SameCall calls calls') :
    List.Forall₂ (fun m n => Matches m n
        ∧ (∀ op ∈ m.ops, op.value?.bind n.value? = op.value?.bind m.value?)
        ∧ (m.info.status ≠ .syncing → n = m))
      (s.run calls).2 (s.run calls').2
      ∧ ((s.run calls').1.status, (s.run calls').1.code)
          = ((s.run calls).1.status, (s.run calls).1.code)
      ∧ ∀ m ∈ (s.run calls).2, m.info.status = .syncing →
          s.TellsOf (s.early ++ calls.flatMap Call.changes) m := by
  obtain ⟨htwin, htold⟩ := (Twin.refl s).run h
  refine ⟨?_, ?_, fun m hmem hsyncing => ?_⟩
  · have hproper := (adds_run s calls).proper
    refine ((List.forall₂_and_left _ _).mpr ⟨hproper, htold⟩).imp fun m n hboth => ?_
    obtain ⟨hm, hmatches⟩ := hboth
    exact ⟨hmatches, fun op hop => hmatches.value?_eq hop, eq_of_matches hm hmatches⟩
  · generalize (s.run calls').1 = t at htwin
    cases htwin
    rfl
  · exact (passes_run s calls).told m (List.mem_filter.mpr ⟨hmem, decide_eq_true hsyncing⟩)

theorem run_matches_shared :
    List.Forall₂ viewer.SameCall [.begin [], .publish (shared 0)] [.begin [], .publish (shared 187)]
      ∧ ∃ m n, (viewer.run [.begin [], .publish (shared 0)]).2[1]? = some m
        ∧ (viewer.run [.begin [], .publish (shared 187)]).2[1]? = some n
        ∧ m.ops ≠ [] ∧ Matches m n ∧ viewer.TellsOf [shared 0] m := by
  have hcalls : List.Forall₂ viewer.SameCall [.begin [], .publish (shared 0)]
      [.begin [], .publish (shared 187)] :=
    .cons (.begin .nil) (.cons (.publish (agree_shared 0 187)) .nil)
  have hout : (viewer.run [.begin [], .publish (shared 0)]).2
      = [viewer.statusOf .synced .nil, viewer.stateOf (shared 0) (viewer.filterOps (shared 0)),
        viewer.statusOf .synced .nil] := by decide
  have hout' : (viewer.run [.begin [], .publish (shared 187)]).2
      = [viewer.statusOf .synced .nil, viewer.stateOf (shared 187) (viewer.filterOps (shared 187)),
        viewer.statusOf .synced .nil] := by decide
  obtain ⟨hmatches, -, htells⟩ := run_matches hcalls
  rw [hout, hout'] at hmatches
  rw [hout] at htells
  obtain - | ⟨-, - | ⟨⟨hm, -, -⟩, -⟩⟩ := hmatches
  refine ⟨hcalls, _, _, by rw [hout]; rfl, by rw [hout']; rfl, ?_, hm, ?_⟩
  · rw [filterOps_shared]
    exact List.cons_ne_nil _ _
  · exact htells _ (List.mem_cons_of_mem _ List.mem_cons_self) rfl

/-- A session tells one of its cell, and the byte for the other cell goes along. -/
theorem exists_told_apart : ∃ (s : PinSession) (a b : Tx), s.Agree a b
    ∧ (s.run [.begin [], .publish a]).2 ≠ (s.run [.begin [], .publish b]).2 := by
  refine ⟨viewer, shared 0, shared 187, agree_shared 0 187, ?_⟩
  decide

end PinSession

end CellSync
