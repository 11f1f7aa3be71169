/-
The index of a hub is the registrations that stand.

A session can be registered any number of times. A registration stands
until the session is unregistered or everything is closed (`standing`),
and counts as long as somebody holds the session; what is left of others
in the index may go at any time (`sweep`), with nothing to be seen of it.
Whatever is done in whatever order, the entries of a session that is held
are its standing registrations, each under its cell (`Inv`), so a change
is offered to it that many times if it is for the cell, closing all is
closing those sessions, and the size is their number (`registry_of_run`).
-/
import Mathlib.Algebra.Order.BigOperators.Group.Finset
import Mathlib.Logic.Function.Iterate
import CellSync.Proofs.Pin.Grammar
import CellSync.Proofs.Pin.Hub

namespace CellSync

namespace Hub

variable {h start : Hub} {id k : PinId} {p : Pinned}

-- ========================================================= steps in a row

/-- A step of each of some sessions, in order, is so many steps of each session. -/
theorem pin?_foldl_advance (step : PinSession → PinSession.Step) (ids : List PinId) (h : Hub)
    (k : PinId) :
    (ids.foldl (fun h id => h.advance id step) h).pin? k
      = (h.pin? k).map fun p =>
          { p with session := (fun s => (step s).1)^[ids.count k] p.session } := by
  induction ids generalizing h with
  | nil =>
      show h.pin? k = _
      simp
  | cons id ids ih =>
      rw [List.foldl_cons, ih, pin?_advance]
      by_cases hk : k = id
      · rw [if_pos hk, Option.map_map, hk, List.count_cons_self]
        rfl
      · rw [if_neg hk, List.count_cons_of_ne fun heq => hk heq.symm]

theorem index_foldl_advance (step : PinSession → PinSession.Step) (ids : List PinId) (h : Hub) :
    (ids.foldl (fun h id => h.advance id step) h).index = h.index := by
  induction ids generalizing h with
  | nil => rfl
  | cons id ids ih => rw [List.foldl_cons, ih, index_advance]

theorem next_foldl_advance (step : PinSession → PinSession.Step) (ids : List PinId) (h : Hub) :
    (ids.foldl (fun h id => h.advance id step) h).next = h.next := by
  induction ids generalizing h with
  | nil => rfl
  | cons id ids ih => rw [List.foldl_cons, ih, next_advance]

theorem cell_foldl_advance {step : PinSession → PinSession.Step}
    (hcell : ∀ s, (step s).1.cell = s.cell) {ids : List PinId}
    (hpin : (ids.foldl (fun h id => h.advance id step) h).pin? k = some p) :
    ∃ q, h.pin? k = some q ∧ p.session.cell = q.session.cell := by
  have hiterate : ∀ (n : Nat) (s : PinSession), ((fun s => (step s).1)^[n] s).cell = s.cell := by
    intro n
    induction n with
    | zero => exact fun s => rfl
    | succ n ih =>
        intro s
        rw [Function.iterate_succ_apply, ih, hcell]
  rw [pin?_foldl_advance, Option.map_eq_some_iff] at hpin
  obtain ⟨q, hq, rfl⟩ := hpin
  exact ⟨q, hq, hiterate _ _⟩

theorem Fresh.foldl_advance (hfresh : h.Fresh) (step : PinSession → PinSession.Step)
    (ids : List PinId) : (ids.foldl (fun h id => h.advance id step) h).Fresh := by
  induction ids generalizing h with
  | nil => exact hfresh
  | cons id ids ih => exact ih (hfresh.move (.advance h id step))

-- =============================================================== closing

theorem isClosed_eq_false : h.isClosed id = false
    ↔ ∃ p, h.pin? id = some p ∧ p.session.isClosed = false := by
  unfold isClosed
  cases h.pin? id <;> simp

/-- After it was closed a session is over, or was gone. -/
theorem isClosed_advance_close (hub : Hub) (id : PinId) (code : ErrorCode) :
    (hub.advance id (·.close code)).isClosed id = true := by
  unfold isClosed
  rw [pin?_advance, if_pos rfl]
  cases hub.pin? id with
  | none => rfl
  | some p => exact p.session.isClosed_close code

/-- Closing several sessions is a step of each. -/
theorem closeEach_eq (code : ErrorCode) (ids : List PinId) (hub : Hub) :
    (closeEach code ids hub).2 = ids.foldl (fun hub id => hub.advance id (·.close code)) hub := by
  induction ids generalizing hub with
  | nil => rfl
  | cons id ids ih => exact ih (hub.advance id (·.close code))

/-- It closes each of them, however often it comes. -/
theorem pin?_foldl_close (code : ErrorCode) (ids : List PinId) (h : Hub) (k : PinId) :
    (ids.foldl (fun hub id => hub.advance id (·.close code)) h).pin? k
      = (h.pin? k).map fun p =>
          if k ∈ ids then { p with session := (p.session.close code).1 } else p := by
  rw [pin?_foldl_advance]
  apply congrArg fun change => (h.pin? k).map change
  funext p
  by_cases hmem : k ∈ ids
  · obtain ⟨n, hcount⟩ := Nat.exists_eq_succ_of_ne_zero
      (Nat.ne_of_gt (List.count_pos_iff.mpr hmem))
    rw [if_pos hmem, hcount, Function.iterate_succ_apply,
      Function.iterate_fixed (p.session.close_close code)]
  · rw [if_neg hmem, List.count_eq_zero_of_not_mem hmem]
    rfl

theorem isClosed_foldl_close (code : ErrorCode) (ids : List PinId) (h : Hub) (k : PinId) :
    (ids.foldl (fun hub id => hub.advance id (·.close code)) h).isClosed k = true
      ↔ h.isClosed k = true ∨ k ∈ ids := by
  unfold isClosed
  rw [pin?_foldl_close]
  cases h.pin? k with
  | none => simp
  | some p =>
      by_cases hmem : k ∈ ids
      · simp [hmem, p.session.isClosed_close code]
      · simp [hmem]

/-- Of sessions that are closed one after another each is counted once, and only if
it was open. -/
theorem exists_closed (code : ErrorCode) (ids : List PinId) (h : Hub) :
    ∃ closed : List PinId, closed.Nodup ∧ closed.length = (closeEach code ids h).1
      ∧ ∀ id, id ∈ closed ↔ id ∈ ids ∧ h.isClosed id = false := by
  induction ids generalizing h with
  | nil => exact ⟨[], List.nodup_nil, rfl, by simp⟩
  | cons first ids ih =>
      obtain ⟨closed, hnodup, hlength, hmem⟩ := ih (h.advance first (·.close code))
      have hother : ∀ id, id ≠ first →
          (h.advance first (·.close code)).isClosed id = h.isClosed id := by
        intro id hne
        rw [isClosed, pin?_advance_of_ne hne]
        rfl
      have hcount : (closeEach code (first :: ids) h).1
          = (closeEach code ids (h.advance first (·.close code))).1
            + if h.isClosed first = false then 1 else 0 := by
        show _ + (if (!h.isClosed first) = true then 1 else 0) = _
        simp
      cases hopen : h.isClosed first with
      | true =>
          refine ⟨closed, hnodup, ?_, fun id => ?_⟩
          · rw [hcount, hlength, hopen]
            simp
          · rw [hmem, List.mem_cons]
            by_cases hid : id = first
            · rw [hid, isClosed_advance_close, hopen]
              simp
            · rw [hother id hid]
              simp [hid]
      | false =>
          refine ⟨first :: closed, List.nodup_cons.mpr ⟨fun hin => ?_, hnodup⟩, ?_, fun id => ?_⟩
          · have hclosed := ((hmem first).mp hin).2
            rw [isClosed_advance_close] at hclosed
            cases hclosed
          · rw [hcount, List.length_cons, hlength, hopen]
            simp
          · rw [List.mem_cons, List.mem_cons, hmem]
            by_cases hid : id = first
            · simp [hid, hopen]
            · rw [hother id hid]
              simp [hid]

-- ================================================================= events

/-- Lets go of registrations whose sessions are gone, of all but some. -/
def sweep (h : Hub) (kept : TagId × PinId → Bool) : Hub :=
  { h with index := h.index.filter fun entry => (h.pin? entry.2).isSome || kept entry }

/-- What is done with an index, and with the sessions that are in it. -/
inductive Event where
  | addOutbox (capacity : Nat)
  /-- Somebody makes a session and holds it. -/
  | add (session : PinSession) (box : OutboxId)
  /-- Its holder calls it. -/
  | call (id : PinId) (call : PinSession.Call)
  /-- Nobody holds it any more. -/
  | drop (id : PinId)
  | register (id : PinId)
  | unregister (id : PinId)
  | publish (tx : Tx)
  | closeAll (code : ErrorCode)
  /-- The index loses entries of sessions that are gone. -/
  | sweep (kept : TagId × PinId → Bool)

/-- A hub after an event. -/
def after (h : Hub) : Event → Hub
  | .addOutbox capacity => (h.addOutbox capacity).2
  | .add session box => (h.add session box).2
  | .call id call => h.advance id (·.take call)
  | .drop id => h.drop id
  | .register id => h.register id
  | .unregister id => h.unregister id
  | .publish tx => (h.publish tx).2
  | .closeAll code => (h.closeAll code).2
  | .sweep kept => h.sweep kept

/-- Whether an event can come: who registers a session holds it. -/
def Possible (h : Hub) : Event → Prop
  | .register id => (h.pin? id).isSome
  | _ => True

/-- Events in any order, the newest first, and the hub after them. -/
inductive Run (start : Hub) : List Event → Hub → Prop where
  | start : Run start [] start
  | next {past : List Event} {h : Hub} {event : Event} (hrun : Run start past h)
      (hpossible : h.Possible event) : Run start (event :: past) (h.after event)

/-- How many registrations of a session have been made after the last time that it
was unregistered or all was closed. -/
def standing (id : PinId) : List Event → Nat
  | [] => 0
  | .register k :: past => standing id past + if k = id then 1 else 0
  | .unregister k :: past => if k = id then 0 else standing id past
  | .closeAll _ :: _ => 0
  | _ :: past => standing id past

-- ============================================================== invariant

/-- The entries of a session that is held are its standing registrations. -/
structure Inv (past : List Event) (h : Hub) : Prop where
  fresh : h.Fresh
  /-- Nobody has registered what there has not been yet. -/
  unused : ∀ id, h.next ≤ id → standing id past = 0
  lists : ∀ id p, h.pin? id = some p → h.Lists id p.session.cell (standing id past)

namespace Inv

variable {past : List Event} {h' : Hub} {event : Event}

/-- What leaves the cells of the sessions and the entries of those that are held. -/
theorem of_lists (hinv : Inv past h) (hfresh : h'.Fresh) (hnext : h.next ≤ h'.next)
    (hstanding : ∀ id, standing id (event :: past) = standing id past)
    (hpin : ∀ id q, h'.pin? id = some q →
      ∃ p, h.pin? id = some p ∧ q.session.cell = p.session.cell)
    (hindex : ∀ id, (h'.pin? id).isSome →
      h'.index.filter (fun entry => entry.2 = id) = h.index.filter fun entry => entry.2 = id) :
    Inv (event :: past) h' := by
  refine ⟨hfresh, fun id hid => ?_, fun id q hq => ?_⟩
  · rw [hstanding]
    exact hinv.unused id (Nat.le_trans hnext hid)
  · obtain ⟨p, hp, hcell⟩ := hpin id q hq
    rw [Lists, hindex id (Option.isSome_of_eq_some hq), hstanding, hcell]
    exact hinv.lists id p hp

/-- Steps of sessions leave the index. -/
theorem steps (hinv : Inv past h) (step : PinSession → PinSession.Step)
    (hcell : ∀ s, (step s).1.cell = s.cell) (ids : List PinId)
    (hstanding : ∀ id, standing id (event :: past) = standing id past) :
    Inv (event :: past) (ids.foldl (fun h id => h.advance id step) h) := by
  apply hinv.of_lists (hinv.fresh.foldl_advance step ids)
  · rw [next_foldl_advance]
  · exact hstanding
  · intro id q hq
    exact cell_foldl_advance hcell hq
  · intro id _
    rw [index_foldl_advance]

theorem add (hinv : Inv past h) (session : PinSession) (box : OutboxId) :
    Inv (.add session box :: past) (h.after (.add session box)) := by
  refine ⟨hinv.fresh.move (.add h session box), fun id hid => ?_, fun id p hp => ?_⟩
  · exact hinv.unused id (Nat.le_of_succ_le hid)
  · have hp : (h.pins ++ [(h.next, (⟨session, box⟩ : Pinned))]).lookup id = some p := hp
    rw [lookup_concat] at hp
    by_cases hid : id = h.next
    · -- Nothing is registered under a name that has just been given out.
      have hnone : h.index.filter (fun entry => entry.2 = id) = [] := by
        rw [List.filter_eq_nil_iff]
        intro entry hmem
        have hlt := hinv.fresh.index_lt entry.2 (List.mem_map_of_mem hmem)
        rw [decide_eq_true_eq, hid]
        exact Nat.ne_of_lt hlt
      have hstanding : standing id past = 0 := hinv.unused id (Nat.le_of_eq hid.symm)
      show h.index.filter (fun entry => entry.2 = id) = List.replicate (standing id past) _
      rw [hnone, hstanding, List.replicate_zero]
    · rw [if_neg hid, Option.or_none] at hp
      exact hinv.lists id p hp

theorem register (hinv : Inv past h) (hpin : h.pin? k = some p) :
    Inv (.register k :: past) (h.after (.register k)) := by
  have hafter : h.after (.register k) = { h with index := h.index ++ [(p.session.cell, k)] } := by
    show h.register k = _
    rw [Hub.register, hpin]
  have hlt : k < h.next := hinv.fresh.lt_of_pin? hpin
  refine ⟨hinv.fresh.move (.register h k), fun id hid => ?_, fun id q hq => ?_⟩
  · rw [hafter] at hid
    have hle : h.next ≤ id := hid
    rw [standing, hinv.unused id hle, if_neg (Nat.ne_of_lt (Nat.lt_of_lt_of_le hlt hle))]
  · rw [hafter] at hq ⊢
    have hq : h.pin? id = some q := hq
    have hold := hinv.lists id q hq
    show (h.index ++ [(p.session.cell, k)]).filter (fun entry => entry.2 = id) = _
    rw [List.filter_append, hold, standing]
    by_cases hid : k = id
    · subst hid
      rw [Option.some.inj (hpin.symm.trans hq), if_pos rfl, List.replicate_succ']
      simp
    · rw [if_neg hid, Nat.add_zero]
      simp [hid]

theorem unregister (hinv : Inv past h) (k : PinId) :
    Inv (.unregister k :: past) (h.after (.unregister k)) := by
  refine ⟨hinv.fresh.move (.unregister h k), fun id hid => ?_, fun id p hp => ?_⟩
  · rw [standing]
    split
    · rfl
    · exact hinv.unused id hid
  · have hp : h.pin? id = some p := hp
    have hold := hinv.lists id p hp
    show (h.index.filter fun entry => entry.2 ≠ k).filter (fun entry => entry.2 = id) = _
    rw [List.filter_filter, standing]
    by_cases hid : k = id
    · rw [if_pos hid, List.replicate_zero, List.filter_eq_nil_iff]
      intro entry _
      simp [hid]
    · rw [if_neg hid, ← hold]
      apply List.filter_congr
      intro entry _
      by_cases hentry : entry.2 = id
      · simp [hentry, Ne.symm hid]
      · simp [hentry]

theorem closeAll (hinv : Inv past h) (code : ErrorCode) :
    Inv (.closeAll code :: past) (h.after (.closeAll code)) := by
  have hafter : h.after (.closeAll code)
      = h.takeIndex.1.foldl (fun hub id => hub.advance id (·.close code)) h.takeIndex.2 :=
    closeEach_eq code _ _
  refine ⟨?_, fun id _ => rfl, fun id p _ => ?_⟩
  · rw [hafter]
    exact (hinv.fresh.move (.takeIndex h)).foldl_advance _ _
  · rw [Lists, hafter, index_foldl_advance]
    rfl

theorem sweep (hinv : Inv past h) (kept : TagId × PinId → Bool) :
    Inv (.sweep kept :: past) (h.after (.sweep kept)) := by
  apply hinv.of_lists
  · exact ⟨hinv.fresh.pins_lt, fun id hid => hinv.fresh.index_lt id
      (List.map_subset _ (List.filter_subset_self _) hid)⟩
  · exact Nat.le_refl _
  · intro id
    rfl
  · intro id p hp
    exact ⟨p, hp, rfl⟩
  · intro id hheld
    have hheld : (h.pin? id).isSome = true := hheld
    show (h.index.filter fun entry => (h.pin? entry.2).isSome || kept entry).filter _ = _
    rw [List.filter_filter]
    apply List.filter_congr
    intro entry _
    by_cases hentry : entry.2 = id
    · simp [hentry, hheld]
    · simp [hentry]

/-- Every event keeps it. -/
theorem next (hinv : Inv past h) (hpossible : h.Possible event) :
    Inv (event :: past) (h.after event) := by
  cases event with
  | addOutbox capacity =>
      apply hinv.of_lists (hinv.fresh.move (.addOutbox h capacity)) (Nat.le_succ _)
      · intro id
        rfl
      · intro id p hp
        exact ⟨p, hp, rfl⟩
      · intro id _
        rfl
  | add session box => exact hinv.add session box
  | call id call =>
      exact hinv.steps (·.take call) (fun s => (s.adds_take call).alike.cell_eq) [id]
        fun _ => rfl
  | drop id =>
      apply hinv.of_lists (hinv.fresh.move (.drop h id)) (Nat.le_refl _)
      · intro id
        rfl
      · intro k p hp
        have hp : (h.drop id).pin? k = some p := hp
        rw [pin?_drop] at hp
        split at hp
        · cases hp
        · exact ⟨p, hp, rfl⟩
      · intro id _
        rfl
  | register id =>
      obtain ⟨p, hpin⟩ := Option.isSome_iff_exists.mp hpossible
      exact hinv.register hpin
  | unregister id => exact hinv.unregister id
  | publish tx =>
      exact hinv.steps (·.publish tx) (fun s => (s.adds_publish tx).alike.cell_eq) _
        fun _ => rfl
  | closeAll code => exact hinv.closeAll code
  | sweep kept => exact hinv.sweep kept

theorem run (hfresh : start.Fresh) (hempty : start.index = []) (hrun : Run start past h) :
    Inv past h := by
  induction hrun with
  | start =>
      refine ⟨hfresh, fun id _ => rfl, fun id p _ => ?_⟩
      rw [Lists, hempty]
      rfl
  | next _ hpossible ih => exact ih.next hpossible

-- ============================================================== the index

/-- The registrations that are live, session by session. -/
theorem count_live (hinv : Inv past h) (id : PinId) :
    (h.live.map (·.2)).count id = if (h.pin? id).isSome then standing id past else 0 := by
  rw [List.count_eq_countP, List.countP_map, live, List.countP_filter]
  cases hpin : h.pin? id with
  | none =>
      rw [if_neg (by simp), List.countP_eq_zero]
      rintro ⟨cell, k⟩ _
      by_cases hk : k = id
      · simp [hk, hpin]
      · simp [hk]
  | some p =>
      have hlength := congrArg List.length (hinv.lists id p hpin)
      rw [List.length_replicate] at hlength
      rw [if_pos (by simp), ← hlength, ← List.countP_eq_length_filter]
      apply List.countP_congr
      rintro ⟨cell, k⟩ _
      by_cases hk : k = id
      · simp [hk, hpin]
      · simp [hk]

end Inv

/-- Whether somebody holds a session and a change has an op for its cell. -/
def isFor (h : Hub) (tx : Tx) (id : PinId) : Bool :=
  (h.pin? id).any fun p => tx.touches p.session.cell

theorem Inv.count_snapshot {past : List Event} (hinv : Inv past h) (tx : Tx) (id : PinId) :
    (h.snapshot tx).count id = if h.isFor tx id then standing id past else 0 := by
  cases hpin : h.pin? id with
  | none =>
      rw [isFor, hpin, if_neg (by simp), List.count_eq_zero]
      intro hmem
      obtain ⟨cell, -, hmem⟩ := List.mem_flatMap.mp hmem
      obtain ⟨⟨c, k⟩, hentry, rfl⟩ := List.mem_map.mp hmem
      have hlive : (h.pin? k).isSome = true :=
        (List.mem_filter.mp (List.mem_filter.mp hentry).1).2
      rw [show h.pin? k = none from hpin] at hlive
      cases hlive
  | some p =>
      rw [count_snapshot_of_lists (Option.isSome_of_eq_some hpin) (hinv.lists id p hpin),
        isFor, hpin, Option.any_some, Tx.touches_eq]
      by_cases hcell : p.session.cell ∈ tx.targets
      · rw [List.count_eq_one_of_mem tx.nodup_targets hcell, Nat.one_mul,
          if_pos (decide_eq_true hcell)]
      · rw [List.count_eq_zero_of_not_mem hcell, Nat.zero_mul, if_neg (by simpa using hcell)]

-- ======================================================== what is done by it

/-- A change that is published is a call of each session for each of its standing
registrations, if the session is held and the change is for its cell. -/
theorem Inv.exists_calls {past : List Event} (hinv : Inv past h) (tx : Tx) :
    ∃ calls : List PinId,
      h.publish tx = (calls.length, calls.foldl (fun hub id => hub.advance id (·.publish tx)) h)
      ∧ ∀ id, calls.count id = if h.isFor tx id then standing id past else 0 :=
  ⟨h.snapshot tx, rfl, hinv.count_snapshot tx⟩

/-- So a session takes the change as often as it is registered, and one that the change
is not for stays as it was. -/
theorem Inv.pin?_publish {past : List Event} (hinv : Inv past h) (tx : Tx) (id : PinId) :
    (h.publish tx).2.pin? id = (h.pin? id).map fun p =>
      { p with session := (fun s => (s.publish tx).1)^[
          if tx.touches p.session.cell then standing id past else 0] p.session } := by
  obtain ⟨calls, hcalls, hcount⟩ := hinv.exists_calls tx
  rw [hcalls, pin?_foldl_advance, hcount]
  cases hpin : h.pin? id with
  | none => rfl
  | some p => rw [isFor, hpin, Option.map_some, Option.map_some, Option.any_some]

/-- Closing all closes who is registered, and leaves everybody else. -/
theorem Inv.pin?_closeAll {past : List Event} (hinv : Inv past h) (code : ErrorCode) (id : PinId) :
    (h.closeAll code).2.pin? id
      = (h.pin? id).map fun p =>
          if standing id past = 0 then p else { p with session := (p.session.close code).1 } := by
  have hclose : (h.closeAll code).2 = (h.live.map (·.2)).foldl
      (fun hub id => hub.advance id (·.close code)) { h with index := [] } :=
    closeEach_eq code _ _
  rw [hclose, pin?_foldl_close]
  show (h.pin? id).map _ = _
  cases hpin : h.pin? id with
  | none => rfl
  | some p =>
      have hcount := hinv.count_live id
      rw [hpin, if_pos Option.isSome_some] at hcount
      rw [Option.map_some, Option.map_some]
      by_cases hstanding : standing id past = 0
      · have hout : id ∉ h.live.map (·.2) :=
          List.count_eq_zero.mp (hcount.trans hstanding)
        rw [if_pos hstanding, if_neg hout]
      · have hin : id ∈ h.live.map (·.2) := by
          apply List.count_pos_iff.mp
          omega
        rw [if_neg hstanding, if_pos hin]

/-- The size is the number of standing registrations of the sessions that are held. -/
theorem Inv.size_eq {past : List Event} (hinv : Inv past h) :
    h.size = ∑ id ∈ Finset.range h.next,
      if (h.pin? id).isSome then standing id past else 0 := by
  have hlt : ∀ id ∈ (↑(h.live.map (·.2)) : Multiset PinId), id ∈ Finset.range h.next := by
    intro id hmem
    obtain ⟨entry, hentry, rfl⟩ := List.mem_map.mp (Multiset.mem_coe.mp hmem)
    rw [Finset.mem_range]
    exact hinv.fresh.index_lt _ (List.mem_map_of_mem (List.mem_filter.mp hentry).1)
  have hsum : ∑ id ∈ Finset.range h.next, (h.live.map (·.2)).count id = h.size := by
    rw [size, ← List.length_map (·.2), ← Multiset.coe_card, ← Multiset.sum_count_eq_card hlt]
    exact Finset.sum_congr rfl fun id _ => (Multiset.coe_count id _).symm
  rw [← hsum]
  exact Finset.sum_congr rfl fun id _ => hinv.count_live id

/-- In whatever order sessions come, are registered, taken out and let go of, and
changes are published. -/
theorem registry_of_run (hfresh : start.Fresh) (hempty : start.index = []) {past : List Event}
    (hrun : Run start past h) :
    -- A change is published to who is held and wants its cell, once per standing registration.
    (∀ tx, (∃ calls : List PinId,
        h.publish tx
          = (calls.length, calls.foldl (fun hub id => hub.advance id (·.publish tx)) h)
        ∧ ∀ id, calls.count id = if h.isFor tx id then standing id past else 0)
      ∧ ∀ id, (h.publish tx).2.pin? id = (h.pin? id).map fun p =>
          { p with session := (fun s => (s.publish tx).1)^[
              if tx.touches p.session.cell then standing id past else 0] p.session })
    -- Closing all closes who is held and registered, and counts who was open, once.
    ∧ (∀ code, (h.closeAll code).2.index = []
      ∧ (∃ calls : List PinId,
          (h.closeAll code).2
            = calls.foldl (fun hub id => hub.advance id (·.close code)) { h with index := [] }
          ∧ ∀ id, calls.count id = if (h.pin? id).isSome then standing id past else 0)
      ∧ (∀ id, (h.closeAll code).2.pin? id = (h.pin? id).map fun p =>
          if standing id past = 0 then p else { p with session := (p.session.close code).1 })
      ∧ ∃ closed : List PinId, closed.Nodup ∧ closed.length = (h.closeAll code).1
        ∧ ∀ id, id ∈ closed ↔ 0 < standing id past ∧ h.isClosed id = false)
    ∧ h.size = ∑ id ∈ Finset.range h.next,
        if (h.pin? id).isSome then standing id past else 0 := by
  have hinv : Inv past h := Inv.run hfresh hempty hrun
  refine ⟨fun tx => ?_, fun code => ?_, hinv.size_eq⟩
  · exact ⟨hinv.exists_calls tx, hinv.pin?_publish tx⟩
  have hclose : (h.closeAll code).2 = (h.live.map (·.2)).foldl
      (fun hub id => hub.advance id (·.close code)) { h with index := [] } :=
    closeEach_eq code _ _
  refine ⟨?_, ⟨_, hclose, hinv.count_live⟩, hinv.pin?_closeAll code, ?_⟩
  · rw [hclose, index_foldl_advance]
  · obtain ⟨closed, hnodup, hlength, hmem⟩ := exists_closed code (h.live.map (·.2))
      { h with index := [] }
    refine ⟨closed, hnodup, hlength, fun id => (hmem id).trans (and_congr_left fun hopen => ?_)⟩
    obtain ⟨p, hpin, -⟩ := isClosed_eq_false.mp hopen
    have hpin : h.pin? id = some p := hpin
    rw [← List.count_pos_iff, hinv.count_live, hpin, if_pos Option.isSome_some]

/-- A session that is registered, taken out, and registered twice. -/
def twice : List Event :=
  [.register 1, .register 1, .unregister 1, .register 1,
    .add ⟨7, .ofWord 1, [], .maintain, .notStarted, .nil, none, []⟩ 0, .addOutbox 8]

/-- A change with two ops for one cell. -/
def twofold : Tx :=
  { Tx.ofKind .commit with
    ops := [.deleteAttr (.ofWord 1) (.ofWord 2) .nil, .deleteLink (.ofWord 1) .nil (.ofWord 3)] }

/-- It is published to the session twice, for its two registrations and not its two ops. -/
theorem registry_of_run_twice : ∃ h, Run {} twice h ∧ h.size = 2
    ∧ (∃ calls : List PinId,
        h.publish twofold
          = (calls.length, calls.foldl (fun hub id => hub.advance id (·.publish twofold)) h)
        ∧ calls.count 1 = 2)
    ∧ (h.publish twofold).2.pin? 1 = (h.pin? 1).map fun p =>
        { p with session := ((p.session.publish twofold).1.publish twofold).1 } := by
  have hfresh : Fresh {} := ⟨nofun, nofun⟩
  have hrun : Run {} twice (twice.foldr (fun event h => h.after event) {}) := by
    unfold twice
    refine .next (.next (.next (.next (.next (.next .start ?_) ?_) ?_) ?_) ?_) ?_
    · exact trivial
    · exact trivial
    · rfl
    · exact trivial
    · rfl
    · rfl
  obtain ⟨hpublish, -, hsize⟩ := registry_of_run hfresh rfl hrun
  obtain ⟨⟨calls, heq, hcalls⟩, hpin⟩ := hpublish twofold
  exact ⟨_, hrun, hsize.trans (by decide), ⟨calls, heq, (hcalls 1).trans (by decide)⟩,
    (hpin 1).trans rfl⟩

end Hub

end CellSync
