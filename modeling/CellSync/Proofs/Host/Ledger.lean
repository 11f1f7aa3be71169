/-
The commits that a host has recorded, in every state that it can get to.

`Reachable h history` collects the states that the steps of host
operations lead to, one step at a time and in any order, together with
the commits recorded on the way. In each of them the host's directory
agrees with the history (`Ledger`): the log of a cell is the history
narrowed to the cell, identifiers rise along it and the host remembers
the last, and every value reference of a commit has its bytes.
-/
import CellSync.Host
import CellSync.Proofs.Pin.Hub
import CellSync.Proofs.Pin.Session
import CellSync.Proofs.Tx.Canonical

namespace CellSync

-- ============================================================== history

/-- The commits among some that are for a cell. -/
def commitsTo (cell : TagId) (txs : List Tx) : List Tx :=
  txs.filter fun tx => decide (cell ∈ tx.targets)

/-- The commits for a cell among some and then others, in that order. -/
theorem commitsTo_append (cell : TagId) (as bs : List Tx) :
    commitsTo cell (as ++ bs) = commitsTo cell as ++ commitsTo cell bs := List.filter_append ..

theorem commitsTo_of_mem {cell : TagId} {tx : Tx} (h : cell ∈ tx.targets) :
    commitsTo cell [tx] = [tx] := List.filter_cons_of_pos (decide_eq_true h)

theorem commitsTo_of_not_mem {cell : TagId} {tx : Tx} (h : cell ∉ tx.targets) :
    commitsTo cell [tx] = [] :=
  List.filter_cons_of_neg (by rw [decide_eq_true_eq]; exact h)

/-- A change joins the end of rising ones when it comes after them all. -/
theorem Rising.concat {txs : List Tx} {tx : Tx} (h : Rising txs) (hdated : tx.info.tid.isSome)
    (hlater : ∀ other ∈ txs, other.Precedes tx) : Rising (txs ++ [tx]) := by
  refine ⟨fun other hmem => ?_, List.pairwise_append.mpr ⟨h.ordered, List.pairwise_singleton _ _,
    fun a ha b hb => ?_⟩⟩
  · rcases List.mem_append.mp hmem with hold | hnew
    · exact h.dated other hold
    · rw [List.mem_singleton.mp hnew]
      exact hdated
  · rw [List.mem_singleton.mp hb]
    exact hlater a ha

theorem mapError_eq_ok {ε ε' α : Type} {x : Except ε α} {f : ε → ε'} {a : α}
    (h : x.mapError f = .ok a) : x = .ok a := by
  cases x with
  | error e => cases h
  | ok b => exact congrArg Except.ok (Except.ok.inj h)

/-- A computation in two parts fails in the first or in the second. -/
theorem eq_error_of_bind {ε α β : Type} {x : Except ε α} {f : α → Except ε β} {e : ε}
    (h : (x >>= f) = .error e) : x = .error e ∨ ∃ a, x = .ok a ∧ f a = .error e := by
  cases x with
  | error e' => exact .inl (congrArg Except.error (Except.error.inj h))
  | ok a => exact .inr ⟨a, rfl, h⟩

theorem mapError_eq_error {ε ε' α : Type} {x : Except ε α} {f : ε → ε'} {e' : ε'}
    (h : x.mapError f = .error e') : ∃ e, x = .error e ∧ e' = f e := by
  cases x with
  | error e => exact ⟨e, rfl, (Except.error.inj h).symm⟩
  | ok a => cases h

namespace Host

variable {σ : Type}

-- =============================================================== states

/-- A host on which nothing has happened yet. -/
structure New (h : Host Directory σ) : Prop where
  resolver_eq : h.resolver = Directory.resolver
  directory_eq : h.directory = {}
  hub_eq : h.hub = {}
  last_eq : h.last = none

/-- The states that the steps of host operations lead to, with the commits that
were recorded on the way. -/
inductive Reachable : Host Directory σ → List Tx → Prop where
  | start {h : Host Directory σ} (hnew : h.New) : Reachable h []
  | addCell {h : Host Directory σ} {history : List Tx} (hreach : Reachable h history)
      (name : String) : Reachable { h with directory := (h.directory.addCell name).2 } history
  | addUrl {h : Host Directory σ} {history : List Tx} (hreach : Reachable h history)
      (url : String) (cell : TagId) :
      Reachable { h with directory := h.directory.addUrl url cell } history
  | hub {h : Host Directory σ} {history : List Tx} {hub : Hub} (hreach : Reachable h history)
      (hmove : Hub.Move h.hub hub) : Reachable { h with hub := hub } history
  | recordCommit {h h' : Host Directory σ} {history : List Tx} {clock : ClockTime} {tx tx' : Tx}
      {tid : Tid} (hreach : Reachable h history)
      (hrecord : h.recordCommit clock tx = .ok (tx', tid, h')) :
      Reachable h' (history ++ [tx'])
  | beginShutdown {h : Host Directory σ} {history : List Tx} (hreach : Reachable h history) :
      Reachable h.beginShutdown history
  | login {h : Host Directory σ} {history : List Tx} (hreach : Reachable h history)
      (checkpoints : σ) : Reachable { h with checkpoints := checkpoints } history

-- =============================================================== ledger

/-- A host whose directory agrees with a history. -/
structure Ledger (h : Host Directory σ) (history : List Tx) : Prop where
  resolver_eq : h.resolver = Directory.resolver
  load_eq : ∀ cell, h.directory.load cell = commitsTo cell history
  rising : Rising history
  le_last : ∀ tx ∈ history, ∃ tid last, tx.info.tid = some tid ∧ h.last = some last ∧ tid ≤ last
  valued : ∀ tx ∈ history, ∀ op ∈ tx.ops, ∀ r, op.value? = some r → (tx.value? r).isSome

/-- What recording a commit takes, and what it leaves. -/
theorem recordCommit_eq_ok {ρ : Type} {h h' : Host ρ σ} {clock : ClockTime} {tx tx' : Tx}
    {tid : Tid} (hrecord : h.recordCommit clock tx = .ok (tx', tid, h')) :
    ∃ content directory, (tx.withTid none).serialize = .ok content
      ∧ Tid.successor h.last clock content = .ok tid ∧ tx' = tx.withTid (some tid)
      ∧ h.resolver.record h.directory tx' = .ok directory
      ∧ h' = { h with directory := directory, last := some tid } := by
  unfold recordCommit at hrecord
  obtain ⟨content, hcontent, hrecord⟩ := bind_eq_ok.mp hrecord
  obtain ⟨tid', htid, hrecord⟩ := bind_eq_ok.mp hrecord
  dsimp only at hrecord
  split at hrecord
  · cases hrecord
  next directory hdirectory =>
    injection hrecord with hrecord
    injection hrecord with htx hrest
    injection hrest with htid' hhost
    subst htx htid' hhost
    exact ⟨content, directory, mapError_eq_ok hcontent, mapError_eq_ok htid, rfl, hdirectory, rfl⟩

/-- A commit that can be written is recorded under the identifier it gets. -/
theorem recordCommit_of_writable {h : Host Directory σ} {clock : ClockTime} {tx : Tx} {tid : Tid}
    (hresolver : h.resolver = Directory.resolver) (hin : Frame.Within {} tx)
    (hw : Frame.Writable (tx.withTid none))
    (htid : Tid.successor h.last clock (Frame.bytes (tx.withTid none)) = .ok tid) :
    h.recordCommit clock tx = .ok (tx.withTid (some tid), tid,
      { h with directory := h.directory.record (tx.withTid (some tid)), last := some tid }) := by
  have hserial : (tx.withTid none).serialize = .ok (Frame.bytes (tx.withTid none)) :=
    Frame.encode_eq_ok_iff.mpr ⟨hin, hw, rfl⟩
  unfold recordCommit
  rw [hserial, bind_eq_ok]
  refine ⟨_, rfl, bind_eq_ok.mpr ⟨tid, ?_, ?_⟩⟩
  · rw [htid]
    rfl
  · rw [hresolver]
    rfl

/-- A host's identifiers rise along the history. -/
theorem precedes_of_successor {h : Host Directory σ} {history : List Tx}
    (hledger : Ledger h history) {clock : ClockTime} {content : ByteArray} {tid : Tid} {tx tx' : Tx}
    (htid : Tid.successor h.last clock content = .ok tid) (hmem : tx ∈ history)
    (htx : tx'.info.tid = some tid) : tx.Precedes tx' := by
  obtain ⟨old, last, hold, hlast, hle⟩ := hledger.le_last tx hmem
  rw [hlast] at htid
  exact ⟨old, tid, hold, htx, Tid.lt_of_le_of_lt hle (Tid.lt_of_successor htid)⟩

/-- Recording a commit keeps the ledger. -/
theorem Ledger.recordCommit {h h' : Host Directory σ} {history : List Tx} {clock : ClockTime}
    {tx tx' : Tx} {tid : Tid} (hledger : Ledger h history)
    (hrecord : h.recordCommit clock tx = .ok (tx', tid, h')) : Ledger h' (history ++ [tx']) := by
  obtain ⟨content, directory, hcontent, htid, rfl, hdirectory, rfl⟩ := recordCommit_eq_ok hrecord
  rw [hledger.resolver_eq] at hdirectory
  injection hdirectory with hdirectory
  subst hdirectory
  have hprecedes : ∀ other ∈ history, other.Precedes (tx.withTid (some tid)) := fun other hmem =>
    precedes_of_successor hledger htid hmem rfl
  refine ⟨hledger.resolver_eq, fun cell => ?_, hledger.rising.concat rfl hprecedes,
    fun other hmem => ?_, fun other hmem op hop r hr => ?_⟩
  · show (h.directory.record (tx.withTid (some tid))).load cell = _
    rw [Directory.load_record, commitsTo_append, hledger.load_eq]
    split
    next hfor => rw [commitsTo_of_mem hfor]
    next hnot => rw [commitsTo_of_not_mem hnot, List.append_nil]
  · rcases List.mem_append.mp hmem with hold | hnew
    · obtain ⟨old, new, hsome, hnew, hlt⟩ := hprecedes other hold
      injection hnew with hnew
      rw [← hnew] at hlt
      exact ⟨old, tid, hsome, rfl, Nat.le_of_lt hlt⟩
    · rw [List.mem_singleton.mp hnew]
      exact ⟨tid, tid, rfl, rfl, Nat.le_refl _⟩
  · rcases List.mem_append.mp hmem with hold | hnew
    · exact hledger.valued other hold op hop r hr
    · rw [List.mem_singleton.mp hnew] at hop ⊢
      have hwritable := (Frame.encode_eq_ok_iff.mp hcontent).2.1
      exact hwritable.isSome_value? hop hr

/-- Whether a directory agrees with a history hangs on what it loads, and on the last
identifier. -/
theorem Ledger.congr {h h' : Host Directory σ} {history : List Tx} (hledger : Ledger h history)
    (hresolver : h'.resolver = h.resolver)
    (hload : ∀ cell, h'.directory.load cell = h.directory.load cell) (hlast : h'.last = h.last) :
    Ledger h' history := by
  refine ⟨hresolver.trans hledger.resolver_eq,
    fun cell => (hload cell).trans (hledger.load_eq cell), hledger.rising, fun tx hmem => ?_,
    hledger.valued⟩
  rw [hlast]
  exact hledger.le_last tx hmem

/-- In every reachable state the directory agrees with the history. -/
theorem Reachable.ledger {h : Host Directory σ} {history : List Tx} (hreach : Reachable h history) :
    Ledger h history := by
  induction hreach with
  | @start h hnew =>
      have hnone : ∀ tx : Tx, tx ∉ [] := fun tx => List.not_mem_nil
      refine ⟨hnew.resolver_eq, fun cell => ?_, ⟨fun tx hmem => absurd hmem (hnone tx), .nil⟩,
        fun tx hmem => absurd hmem (hnone tx), fun tx hmem => absurd hmem (hnone tx)⟩
      rw [hnew.directory_eq]
      rfl
  | addCell _ name ih =>
      refine ih.congr rfl (fun cell => ?_) rfl
      exact Directory.load_know _ _ cell
  | addUrl _ url target ih =>
      refine ih.congr rfl (fun cell => ?_) rfl
      exact Directory.load_know _ _ cell
  | hub _ _ ih => exact ih.congr rfl (fun _ => rfl) rfl
  | recordCommit _ hrecord ih => exact ih.recordCommit hrecord
  | beginShutdown _ ih => exact ih.congr rfl (fun _ => rfl) rfl
  | login _ _ ih => exact ih.congr rfl (fun _ => rfl) rfl

/-- In every reachable state the names that were given out are used once. -/
theorem Reachable.fresh {h : Host Directory σ} {history : List Tx} (hreach : Reachable h history) :
    h.hub.Fresh := by
  induction hreach with
  | start hnew =>
      rw [hnew.hub_eq]
      exact ⟨nofun, nofun⟩
  | hub _ hmove ih => exact ih.move hmove
  | recordCommit _ hrecord ih =>
      obtain ⟨_, _, -, -, -, -, rfl⟩ := recordCommit_eq_ok hrecord
      exact ih
  | addCell _ _ ih | addUrl _ _ _ ih | beginShutdown _ ih | login _ _ ih => exact ih

-- ===================================================== whole operations

/-- A step of one session leads from reachable states to reachable states. -/
theorem Reachable.advance {h : Host Directory σ} {history : List Tx}
    (hreach : Reachable h history) (id : PinId) (step : PinSession → PinSession.Step) :
    Reachable (h.mapHub (·.advance id step)) history := hreach.hub (.advance h.hub id step)

/-- So does opening a pin. -/
theorem Reachable.openPin {h : Host Directory σ} {history : List Tx} (hreach : Reachable h history)
    (box : OutboxId) (who : Login.Checkpoint) (contextId : UInt64) (request : PinRequest) :
    Reachable (h.openPin box who contextId request).2 history := by
  unfold Host.openPin
  split
  · exact hreach
  next session _ =>
    have hadded := hreach.hub (.add h.hub session box)
    have henrolled := hadded.hub (.register _ h.hub.next)
    have hbegun := henrolled.advance h.hub.next
      (·.begin ((h.enroll session box).2.backlog h.hub.next))
    dsimp only
    unfold Host.tidy
    split
    · exact hbegun.hub (.unregister _ h.hub.next)
    · exact hbegun

/-- So does closing one. -/
theorem Reachable.closePin {h : Host Directory σ} {history : List Tx}
    (hreach : Reachable h history) (id : PinId) (code : ErrorCode) :
    Reachable (h.closePin id code).2 history :=
  (hreach.hub (.unregister h.hub id)).advance id (·.close code)

/-- So does publishing a commit to some sessions. -/
theorem Reachable.publish {h : Host Directory σ} {history : List Tx} (hreach : Reachable h history)
    (tx : Tx) (ids : List PinId) :
    Reachable (h.mapHub fun hub => ids.foldl (Hub.offer tx) hub) history := by
  induction ids generalizing h with
  | nil => exact hreach
  | cons id ids ih => exact ih (hreach.advance id (·.publish tx))

/-- Making a commit adds it to the history, if it is recorded. -/
theorem Reachable.commit {h : Host Directory σ} {history : List Tx} (hreach : Reachable h history)
    (clock : ClockTime) (who : Login.Checkpoint) (tx : Tx) :
    Reachable (h.commit clock who tx).2 history
      ∨ ∃ tid, Reachable (h.commit clock who tx).2 (history ++ [tx.withTid (some tid)]) := by
  unfold Host.commit
  split
  · exact .inl hreach
  · split
    · exact .inl hreach
    next tx' tid h' hrecord =>
      obtain ⟨_, _, -, -, htx, -, -⟩ := recordCommit_eq_ok hrecord
      have hrecorded := hreach.recordCommit hrecord
      rw [htx] at hrecorded ⊢
      exact .inr ⟨tid, hrecorded.publish _ _⟩

/-- So does closing sessions in a row. -/
theorem Reachable.closeEach {h : Host Directory σ} {history : List Tx}
    (hreach : Reachable h history) (code : ErrorCode) (ids : List PinId) :
    Reachable (h.mapHub fun hub => (Hub.closeEach code ids hub).2) history := by
  induction ids generalizing h with
  | nil => exact hreach
  | cons id ids ih => exact ih (hreach.advance id (·.close code))

/-- So does a shutdown. -/
theorem Reachable.shutdown {h : Host Directory σ} {history : List Tx}
    (hreach : Reachable h history) : Reachable h.shutdown history := by
  unfold Host.shutdown
  split
  · exact hreach
  · exact (hreach.beginShutdown.hub (.takeIndex h.hub)).closeEach .shuttingDown _

end Host

end CellSync
