/-
What the steps of a hub change, and what they leave.

A hub gives each name once (`Fresh`), so what is found under a name is
that session, and a step of one session leaves every other one. A commit
is offered to a registered session once if it is for its cell, and not
at all if it is not (`count_snapshot`), however many ops and cells it has.
-/
import CellSync.Pin.Hub
import CellSync.Proofs.Directory

namespace CellSync

namespace Hub

variable {h : Hub} {id k : PinId} {p : Pinned} {step : PinSession → PinSession.Step}

-- ================================================================ steps

/-- The steps of a hub. -/
inductive Move : Hub → Hub → Prop where
  | addOutbox (h : Hub) (capacity : Nat) : Move h (h.addOutbox capacity).2
  | mapOutbox (h : Hub) (box : OutboxId) (f : Mailbox Tx → Mailbox Tx) :
      Move h (h.mapOutbox box f)
  | add (h : Hub) (session : PinSession) (box : OutboxId) : Move h (h.add session box).2
  | register (h : Hub) (id : PinId) : Move h (h.register id)
  | advance (h : Hub) (id : PinId) (step : PinSession → PinSession.Step) :
      Move h (h.advance id step)
  | unregister (h : Hub) (id : PinId) : Move h (h.unregister id)
  | drop (h : Hub) (id : PinId) : Move h (h.drop id)
  | takeIndex (h : Hub) : Move h h.takeIndex.2

-- ========================================================== one session

/-- What a session emits in a step. -/
def emits (h : Hub) (id : PinId) (step : PinSession → PinSession.Step) : List Tx :=
  match h.pin? id with
  | none => []
  | some p => (step p.session).2

/-- What a session that is held emits at a step is the words of that step. -/
theorem emits_eq (hpin : h.pin? id = some p) : h.emits id step = (step p.session).2 := by
  rw [emits, hpin]

/-- A step delivers to the session's mailbox exactly what the session emits. -/
theorem advance_eq (hpin : h.pin? id = some p) :
    h.advance id step = (h.setSession id (step p.session).1).post p.outbox (h.emits id step) := by
  rw [advance, emits_eq hpin, hpin]

/-- A step changes its own session, and no other. -/
theorem pin?_advance (h : Hub) (id k : PinId) (step : PinSession → PinSession.Step) :
    (h.advance id step).pin? k
      = if k = id then (h.pin? k).map fun p => { p with session := (step p.session).1 }
        else h.pin? k := by
  cases hpin : h.pin? id with
  | none =>
      rw [advance, hpin]
      by_cases hk : k = id
      · rw [if_pos hk, hk, hpin]
        rfl
      · rw [if_neg hk]
  | some p =>
      rw [advance_eq hpin]
      have hset : ((h.setSession id (step p.session).1).post p.outbox (h.emits id step)).pin? k
          = if k = id then (h.pin? k).map fun q => { q with session := (step p.session).1 }
            else h.pin? k := by
        unfold pin?
        rw [← lookup_map_update h.pins id k fun q => { q with session := (step p.session).1 }]
        rfl
      rw [hset]
      by_cases hk : k = id
      · subst hk
        rw [if_pos rfl, if_pos rfl, hpin]
        rfl
      · rw [if_neg hk, if_neg hk]

/-- The session is then what the step has made of it. -/
theorem pin?_advance_self (hpin : h.pin? id = some p) :
    (h.advance id step).pin? id = some { p with session := (step p.session).1 } := by
  rw [pin?_advance, if_pos rfl, hpin]
  rfl

theorem pin?_advance_of_ne (hne : k ≠ id) : (h.advance id step).pin? k = h.pin? k := by
  rw [pin?_advance, if_neg hne]

/-- A session that is dropped is gone, and the others stay. -/
theorem pin?_drop (h : Hub) (id k : PinId) :
    (h.drop id).pin? k = if k = id then none else h.pin? k := lookup_filter_ne h.pins id k

/-- Who is over stays over when somebody is let go of. -/
theorem isClosed_drop (hclosed : h.isClosed k = true) : (h.drop id).isClosed k = true := by
  unfold isClosed at hclosed ⊢
  rw [pin?_drop]
  by_cases hk : k = id
  · simp [hk]
  · rw [if_neg hk]
    exact hclosed

/-- A step takes nobody into the index, and nobody out. -/
theorem index_advance (h : Hub) (id : PinId) (step : PinSession → PinSession.Step) :
    (h.advance id step).index = h.index := by
  unfold advance
  split <;> rfl

/-- Nor does it give a name out. -/
theorem next_advance (h : Hub) (id : PinId) (step : PinSession → PinSession.Step) :
    (h.advance id step).next = h.next := by
  unfold advance
  split <;> rfl

theorem next_register (h : Hub) (id : PinId) : (h.register id).next = h.next := by
  unfold register
  split <;> rfl

/-- Nor does anybody come or go. -/
theorem keys_advance (h : Hub) (id : PinId) (step : PinSession → PinSession.Step) :
    (h.advance id step).pins.map (·.1) = h.pins.map (·.1) := by
  unfold advance
  split
  · rfl
  · show (h.pins.map _).map _ = _
    rw [List.map_map]
    refine List.map_congr_left fun entry _ => ?_
    show (if entry.1 = id then (entry.1, _) else (entry.1, entry.2)).1 = entry.1
    split <;> rfl

-- ================================================================ names

/-- Every name in use has been given out. -/
structure Fresh (h : Hub) : Prop where
  pins_lt : ∀ k ∈ h.pins.map (·.1), k < h.next
  index_lt : ∀ k ∈ h.index.map (·.2), k < h.next

namespace Fresh

/-- Nobody has the name that is given out next. -/
theorem pin?_next (hfresh : Fresh h) : h.pin? h.next = none := by
  rw [pin?, List.lookup_eq_none_iff]
  intro entry hmem
  have hlt := hfresh.pins_lt entry.1 (List.mem_map_of_mem hmem)
  exact bne_iff_ne.mpr (Nat.ne_of_gt hlt)

/-- Whoever is there has a name that was given out. -/
theorem lt_of_pin? (hfresh : Fresh h) (hpin : h.pin? id = some p) : id < h.next := by
  obtain ⟨before, after, hpins, -⟩ := List.lookup_eq_some_iff.mp hpin
  refine hfresh.pins_lt id ?_
  rw [hpins]
  exact List.mem_map_of_mem (List.mem_append_right _ List.mem_cons_self)

/-- No step of a hub uses a name that has not been given out. -/
theorem move {h h' : Hub} (hfresh : Fresh h) (hmove : Move h h') : Fresh h' := by
  cases hmove with
  | addOutbox capacity =>
      exact ⟨fun k hk => Nat.lt_succ_of_lt (hfresh.pins_lt k hk),
        fun k hk => Nat.lt_succ_of_lt (hfresh.index_lt k hk)⟩
  | mapOutbox box f => exact ⟨hfresh.pins_lt, hfresh.index_lt⟩
  | add session box =>
      refine ⟨fun k hk => ?_, fun k hk => Nat.lt_succ_of_lt (hfresh.index_lt k hk)⟩
      have hk : k ∈ (h.pins ++ [(h.next, (⟨session, box⟩ : Pinned))]).map (·.1) := hk
      rw [List.map_append, List.mem_append] at hk
      rcases hk with hold | hnew
      · exact Nat.lt_succ_of_lt (hfresh.pins_lt k hold)
      · rw [List.mem_singleton.mp hnew]
        exact Nat.lt_succ_self _
  | register id =>
      unfold register
      split
      next p hpin =>
        refine ⟨hfresh.pins_lt, fun k hk => ?_⟩
        have hk : k ∈ (h.index ++ [(p.session.cell, id)]).map (·.2) := hk
        rw [List.map_append, List.mem_append] at hk
        rcases hk with hold | hnew
        · exact hfresh.index_lt k hold
        · rw [List.mem_singleton.mp hnew]
          exact hfresh.lt_of_pin? hpin
      · exact hfresh
  | advance id step =>
      refine ⟨fun k hk => ?_, fun k hk => ?_⟩
      · rw [keys_advance] at hk
        rw [next_advance]
        exact hfresh.pins_lt k hk
      · rw [index_advance] at hk
        rw [next_advance]
        exact hfresh.index_lt k hk
  | unregister id =>
      refine ⟨hfresh.pins_lt, fun k hk => ?_⟩
      obtain ⟨entry, hmem, rfl⟩ := List.mem_map.mp hk
      exact hfresh.index_lt _ (List.mem_map_of_mem (List.mem_filter.mp hmem).1)
  | drop id =>
      refine ⟨fun k hk => ?_, hfresh.index_lt⟩
      obtain ⟨entry, hmem, rfl⟩ := List.mem_map.mp hk
      exact hfresh.pins_lt _ (List.mem_map_of_mem (List.mem_filter.mp hmem).1)
  | takeIndex => exact ⟨hfresh.pins_lt, fun k hk => absurd hk List.not_mem_nil⟩

end Fresh

-- ======================================================== registrations

/-- A session is registered once, under a cell. -/
def Registered (h : Hub) (id : PinId) (cell : TagId) : Prop :=
  h.index.filter (fun entry => entry.2 = id) = [(cell, id)]

/-- A new session that is registered is found, and registered once. -/
theorem add_register (hfresh : Fresh h) (session : PinSession) (box : OutboxId) :
    ((h.add session box).2.register h.next).pin? h.next = some ⟨session, box⟩
      ∧ ((h.add session box).2.register h.next).Registered h.next session.cell := by
  have hpin : (h.add session box).2.pin? h.next = some ⟨session, box⟩ := by
    show (h.pins ++ [(h.next, (⟨session, box⟩ : Pinned))]).lookup h.next = _
    have hnone : h.pins.lookup h.next = none := hfresh.pin?_next
    rw [lookup_concat, hnone, if_pos rfl, Option.none_or]
  rw [register, hpin]
  refine ⟨hpin, ?_⟩
  show (h.index ++ [(session.cell, h.next)]).filter _ = _
  have hnone : h.index.filter (fun entry => decide (entry.2 = h.next)) = [] := by
    rw [List.filter_eq_nil_iff]
    intro entry hmem
    have hlt := hfresh.index_lt entry.2 (List.mem_map_of_mem hmem)
    rw [decide_eq_true_eq]
    exact Nat.ne_of_lt hlt
  rw [List.filter_append, hnone, List.nil_append]
  exact List.filter_cons_of_pos (decide_eq_true rfl)

/-- A session has so many registrations, all under one cell. -/
def Lists (h : Hub) (id : PinId) (cell : TagId) (times : Nat) : Prop :=
  h.index.filter (fun entry => entry.2 = id) = List.replicate times (cell, id)

/-- How often a session is listed for one cell. -/
theorem count_live (hpin : (h.pin? id).isSome) {cell : TagId} {times : Nat}
    (hlists : h.Lists id cell times) (c : TagId) :
    ((h.live.filter fun entry => entry.1 = c).map (·.2)).count id
      = if c = cell then times else 0 := by
  have hcount : ((h.live.filter fun entry => entry.1 = c).map (·.2)).count id
      = (h.index.filter fun entry => entry.2 = id).countP fun entry => entry.1 = c := by
    rw [List.count_eq_countP, List.countP_map, live, List.countP_filter, List.countP_filter,
      List.countP_filter]
    refine List.countP_congr fun entry _ => ?_
    by_cases hid : entry.2 = id
    · simp [hid, hpin]
    · simp [hid]
  rw [hcount, hlists, List.countP_replicate]
  by_cases hc : c = cell
  · rw [if_pos hc, if_pos (decide_eq_true hc.symm)]
  · rw [if_neg hc, if_neg (by
      rw [decide_eq_true_eq]
      exact fun heq => hc heq.symm)]

/-- A change is offered to a session once for each registration and each time that
it lists the cell. -/
theorem count_snapshot_of_lists (hpin : (h.pin? id).isSome) {cell : TagId} {times : Nat}
    (hlists : h.Lists id cell times) (tx : Tx) :
    (h.snapshot tx).count id = tx.targets.count cell * times := by
  unfold snapshot
  induction tx.targets with
  | nil => simp
  | cons c cells ih =>
      rw [List.flatMap_cons, List.count_append, ih, count_live hpin hlists, List.count_cons]
      by_cases hc : c = cell
      · rw [if_pos hc, if_pos (beq_iff_eq.mpr hc), Nat.add_mul, Nat.one_mul, Nat.add_comm]
      · rw [if_neg hc, if_neg fun heq => hc (beq_iff_eq.mp heq), Nat.zero_add, Nat.add_zero]

/-- A commit is offered to a registered session as often as it lists the cell. -/
theorem count_snapshot (hpin : (h.pin? id).isSome) {cell : TagId} (hreg : h.Registered id cell)
    (tx : Tx) : (h.snapshot tx).count id = tx.targets.count cell := by
  have hlists : h.Lists id cell 1 := hreg
  rw [count_snapshot_of_lists hpin hlists, Nat.mul_one]

/-- A change is published to nobody whose name was not given out. -/
theorem mem_snapshot_lt (hfresh : Fresh h) {tx : Tx} (hmem : k ∈ h.snapshot tx) :
    k < h.next := by
  obtain ⟨c, -, hk⟩ := List.mem_flatMap.mp hmem
  obtain ⟨entry, hentry, rfl⟩ := List.mem_map.mp hk
  have hlive : entry ∈ h.live := (List.mem_filter.mp hentry).1
  exact hfresh.index_lt _ (List.mem_map_of_mem (List.mem_filter.mp hlive).1)

end Hub

end CellSync
