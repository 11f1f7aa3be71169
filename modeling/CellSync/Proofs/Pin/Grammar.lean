/-
What a session tells, call after call, follows the grammar of its mode.

A session is begun, offered changes and closed, in any order and any
number of times. What it emits over all these calls is a word of its
mode's grammar (`SyncMode.grammar`), nothing comes after a closing
message, and the identifiers of the changes rise. Between calls its
status says how far the word has come (`standing`).

Each part of a step (a change emitted, the session settled or finished)
adds some messages to the word; `Adds` says what is kept by every such
part, and composes. `Stands` relates the status of a session to the word
so far: it has one case for each way in which a word can stop, and the
three kinds of call lead from case to case.
-/
import Mathlib.Computability.Language
import CellSync.Proofs.Pin.Following

namespace CellSync

open Computability

-- ============================================================== grammar

/-- What a message says of a pin: its status, and with which code. -/
abbrev Mark := Status × ErrorCode

/-- What a message says of its pin. -/
def Tx.mark (tx : Tx) : Mark := (tx.info.status, tx.info.code)

namespace SyncMode

/-- Any number of changes. -/
def changes : Language Mark := {[(.syncing, .nil)]}∗

/-- A closing message. -/
def closing : Language Mark := {marks : List Mark | ∃ code, marks = [(.closed, code)]}

/-- The changes so far and that these are all, then further ones, each with that
the session is up to date again. -/
def following : Language Mark :=
  changes * {[(.synced, .nil)]} * {[(.syncing, .nil), (.synced, .nil)]}∗

/-- What a session of a mode may tell. -/
def grammar : SyncMode → Language Mark
  | none => 1 + closing
  | closeOnSync => 1 + closing + changes * {[(.synced, .nil), (.closed, .nil)]}
  | maintain => 1 + closing + following * (1 + closing)

/-- A word is in the language of that word. -/
theorem mem_word (word : List Mark) : word ∈ ({word} : Language Mark) := Set.mem_singleton word

/-- Changes with one more in front are changes. -/
theorem changes_cons {marks : List Mark} (h : marks ∈ changes) :
    (.syncing, .nil) :: marks ∈ changes :=
  Set.mem_of_mem_of_subset (Language.append_mem_mul (mem_word [(.syncing, .nil)]) h)
    (mul_kstar_le_kstar (a := ({[(.syncing, .nil)]} : Language Mark)))

/-- A session that has told what there was is followed from then on. -/
theorem following_of_changes {marks : List Mark} (h : marks ∈ changes) :
    marks ++ [(.synced, .nil)] ∈ following := by
  have hend := Language.append_mem_mul (Language.append_mem_mul h (mem_word [(.synced, .nil)]))
    (Language.nil_mem_kstar {[(Status.syncing, ErrorCode.nil), (.synced, .nil)]})
  rwa [List.append_nil] at hend

/-- One more change, and the session is up to date again. -/
theorem following_append {marks : List Mark} (h : marks ∈ following) :
    marks ++ [(.syncing, .nil), (.synced, .nil)] ∈ following := by
  obtain ⟨front, hfront, rest, hrest, rfl⟩ := Language.mem_mul.mp h
  have hmore : rest ++ [(.syncing, .nil), (.synced, .nil)]
      ∈ ({[(.syncing, .nil), (.synced, .nil)]} : Language Mark)∗ :=
    Set.mem_of_mem_of_subset (Language.append_mem_mul hrest (mem_word _))
      (kstar_mul_le_kstar (a := ({[(.syncing, .nil), (.synced, .nil)]} : Language Mark)))
  rw [List.append_assoc]
  exact Language.append_mem_mul hfront hmore

/-- No change closes its session. -/
theorem status_of_mem_changes {marks : List Mark} (h : marks ∈ changes) :
    ∀ mark ∈ marks, mark.1 ≠ .closed := by
  obtain ⟨words, rfl, hwords⟩ := Language.mem_kstar.mp h
  intro mark hmark
  obtain ⟨word, hword, hmem⟩ := List.mem_flatten.mp hmark
  rw [Set.mem_singleton_iff.mp (hwords word hword)] at hmem
  simp [List.mem_singleton.mp hmem]

/-- While a session is followed it is not closed. -/
theorem status_of_mem_following {marks : List Mark} (h : marks ∈ following) :
    ∀ mark ∈ marks, mark.1 ≠ .closed := by
  obtain ⟨front, hfront, rest, hrest, rfl⟩ := Language.mem_mul.mp h
  obtain ⟨first, hfirst, told, rfl, rfl⟩ := Language.mem_mul.mp hfront
  obtain ⟨words, rfl, hwords⟩ := Language.mem_kstar.mp hrest
  intro mark hmark
  rcases List.mem_append.mp hmark with hmark | hmark
  · rcases List.mem_append.mp hmark with hmark | hmark
    · exact status_of_mem_changes hfirst mark hmark
    · simp [List.mem_singleton.mp hmark]
  · obtain ⟨word, hword, hmem⟩ := List.mem_flatten.mp hmark
    rw [Set.mem_singleton_iff.mp (hwords word hword)] at hmem
    rcases List.mem_pair.mp hmem with rfl | rfl <;> simp

/-- A session that is followed has last told that it is up to date. -/
theorem exists_of_mem_following {marks : List Mark} (h : marks ∈ following) :
    ∃ before, marks = before ++ [(.synced, .nil)] := by
  obtain ⟨front, hfront, rest, hrest, rfl⟩ := Language.mem_mul.mp h
  obtain ⟨first, hfirst, told, rfl, rfl⟩ := Language.mem_mul.mp hfront
  obtain ⟨words, rfl, hwords⟩ := Language.mem_kstar.mp hrest
  induction words using List.reverseRecOn with
  | nil => exact ⟨first, by simp⟩
  | append_singleton words word ih =>
      have hword := Set.mem_singleton_iff.mp (hwords word (by simp))
      exact ⟨first ++ [(.synced, .nil)] ++ words.flatten ++ [(.syncing, .nil)], by simp [hword]⟩

end SyncMode

namespace PinSession

variable {s t u : PinSession} {tx : Tx} {out more : List Tx} {marks : List Mark}

-- ================================================================ calls

/-- A call on a session. -/
inductive Call where
  | begin (backlog : List Tx)
  | publish (tx : Tx)
  | close (code : ErrorCode)

/-- Takes a call. -/
def take (s : PinSession) : Call → Step
  | .begin backlog => s.begin backlog
  | .publish tx => s.publish tx
  | .close code => s.close code

/-- Takes calls in order. -/
def run (s : PinSession) : List Call → Step
  | [] => (s, [])
  | call :: calls =>
    let (s, first) := s.take call
    let (s, more) := run s calls
    (s, first ++ more)

-- ============================================================= messages

/-- An op is meant for a session: it is for its cell, if for any, and its attribute
is wanted, if it has one. -/
structure Meant (s : PinSession) (op : Op) : Prop where
  target : ∀ cell, op.target? = some cell → cell = s.cell
  attr : ∀ attr, op.attr? = some attr → s.attrs = [] ∨ attr ∈ s.attrs

/-- What any message of a session is like. -/
structure Proper (s : PinSession) (m : Tx) : Prop where
  kind_eq : m.info.kind = .state
  contextId_eq : m.info.contextId = s.contextId
  plain : m.info.status ≠ .syncing → m.info.tid = none ∧ m.ops = [] ∧ m.data = ByteArray.empty
  ops_ne_nil : m.info.status = .syncing → m.ops ≠ []
  meant : ∀ op ∈ m.ops, s.Meant op

/-- What a proper message is hangs on what is the same in alike sessions. -/
theorem Proper.alike {m : Tx} (h : t.Proper m) (halike : Alike s t) : s.Proper m := by
  obtain ⟨hkind, hcontext, hplain, hops, hmeant⟩ := h
  refine ⟨hkind, hcontext.trans halike.contextId_eq, hplain, hops, fun op hop => ?_⟩
  obtain ⟨htarget, hattr⟩ := hmeant op hop
  rw [halike.cell_eq] at htarget
  rw [halike.attrs_eq] at hattr
  exact ⟨htarget, hattr⟩

/-- An op that a session wants is meant for it. -/
theorem meant_of_wants {op : Op} (h : s.wants op = true) : s.Meant op := by
  unfold wants at h
  rw [Bool.and_eq_true] at h
  obtain ⟨hcell, hattr⟩ := h
  refine ⟨fun cell hop => ?_, fun attr hop => ?_⟩
  · simpa [hop] using hcell
  · simpa [hop] using hattr

/-- A message of a status alone has no ops, so there is nothing in it that is not meant. -/
theorem proper_statusOf (s : PinSession) {status : Status} (code : ErrorCode)
    (h : status ≠ .syncing) : s.Proper (s.statusOf status code) :=
  ⟨rfl, rfl, fun _ => ⟨rfl, rfl, rfl⟩, fun hsyncing => absurd hsyncing h,
    fun _ hop => absurd hop List.not_mem_nil⟩

/-- A message with a change has its identifier and the ops that are meant for the session. -/
theorem proper_stateOf (h : s.filterOps tx ≠ []) :
    s.Proper (s.stateOf tx (s.filterOps tx)) := by
  refine ⟨rfl, rfl, fun hnot => absurd rfl hnot, fun _ => h, fun op hop => ?_⟩
  exact meant_of_wants (List.mem_filter.mp hop).2

-- ========================================================== identifiers

/-- The identifiers of the changes among some messages. -/
def dates (out : List Tx) : List Tid := (syncing out).filterMap (·.info.tid)

/-- The identifiers of messages in a row are those of the first, then those of the others. -/
theorem dates_append (out more : List Tx) : dates (out ++ more) = dates out ++ dates more := by
  rw [dates, syncing_append, List.filterMap_append]
  rfl

/-- A number above an identifier, and zero where there is none. -/
def above : Option Tid → Nat
  | none => 0
  | some tid => tid.octets.value + 1

/-- Identifiers rise from one that they are later than up to another. -/
structure Climbs (low high : Option Tid) (tids : List Tid) : Prop where
  le : above low ≤ above high
  ordered : tids.Pairwise (· < ·)
  within : ∀ tid ∈ tids, above low ≤ tid.octets.value ∧ tid.octets.value < above high

/-- Where nothing is told, the newest identifier stays. -/
theorem Climbs.nil (newest : Option Tid) : Climbs newest newest [] :=
  ⟨Nat.le_refl _, .nil, fun _ hmem => absurd hmem List.not_mem_nil⟩

/-- A climb that goes on from where another has come to is one climb. -/
theorem Climbs.append {low middle high : Option Tid} {tids later : List Tid}
    (h : Climbs low middle tids) (h' : Climbs middle high later) :
    Climbs low high (tids ++ later) := by
  refine ⟨Nat.le_trans h.le h'.le, ?_, fun tid hmem => ?_⟩
  · refine List.pairwise_append.mpr ⟨h.ordered, h'.ordered, fun a ha b hb => ?_⟩
    exact Tid.lt_iff.mpr (Nat.lt_of_lt_of_le (h.within a ha).2 (h'.within b hb).1)
  · have hlow := h.le
    have hhigh := h'.le
    rcases List.mem_append.mp hmem with hmem | hmem
    · have hin := h.within tid hmem
      omega
    · have hin := h'.within tid hmem
      omega

-- ====================================================== parts of a step

/-- A part of a step leads from one state of a session to another, and emits some
messages. -/
structure Adds (s t : PinSession) (out : List Tx) : Prop where
  alike : Alike s t
  proper : ∀ m ∈ out, s.Proper m
  climbs : Climbs s.newest t.newest (dates out)

/-- Parts of a step one after another are such a part. -/
theorem Adds.trans (h : Adds s t out) (h' : Adds t u more) : Adds s u (out ++ more) := by
  refine ⟨h.alike.trans h'.alike, fun m hmem => ?_, ?_⟩
  · rcases List.mem_append.mp hmem with hmem | hmem
    · exact h.proper m hmem
    · exact (h'.proper m hmem).alike h.alike
  · rw [dates_append]
    exact h.climbs.append h'.climbs

/-- A part that emits nothing and leaves what has been told. -/
theorem adds_nil (halike : Alike s t) (hnewest : t.newest = s.newest) : Adds s t [] := by
  refine ⟨halike, fun _ hmem => absurd hmem List.not_mem_nil, ?_⟩
  rw [hnewest]
  exact .nil s.newest

/-- What emitting a change comes to. -/
theorem emit_cases (s : PinSession) (tx : Tx) :
    s.emit tx = (s, [])
      ∨ s.isStale tx = false ∧ s.filterOps tx ≠ []
        ∧ s.emit tx = (s.reaching (tx.info.tid <|> s.newest), [s.stateOf tx (s.filterOps tx)]) := by
  cases hstale : s.isStale tx with
  | true => exact .inl (emit_of_stale hstale)
  | false =>
      unfold emit
      cases hops : s.filterOps tx with
      | nil => simp
      | cons op ops => exact .inr ⟨rfl, by simp, by simp [hstale, reaching]⟩

/-- A change that is no longer stale comes after what has been told. -/
theorem climbs_of_not_isStale (h : s.isStale tx = false) :
    Climbs s.newest (tx.info.tid <|> s.newest) tx.info.tid.toList := by
  unfold isStale at h
  cases htid : tx.info.tid with
  | none => exact .nil s.newest
  | some tid =>
      cases hnewest : s.newest with
      | none => exact ⟨Nat.zero_le _, List.pairwise_singleton _ _, by simp [above]⟩
      | some newest =>
          rw [htid, hnewest] at h
          have hlt : newest.octets.value < tid.octets.value :=
            Tid.lt_iff.mp (Tid.lt_of_not_le (of_decide_eq_false h))
          refine ⟨?_, List.pairwise_singleton _ _, fun t ht => ?_⟩
          · show newest.octets.value + 1 ≤ tid.octets.value + 1
            omega
          · rw [List.mem_singleton.mp ht]
            show newest.octets.value + 1 ≤ tid.octets.value
              ∧ tid.octets.value < tid.octets.value + 1
            omega

/-- An emitted change raises the newest identifier, and nothing else of the session. -/
theorem adds_emit (s : PinSession) (tx : Tx) : Adds s (s.emit tx).1 (s.emit tx).2 := by
  rcases emit_cases s tx with hnone | ⟨hfresh, hops, hsome⟩
  · rw [hnone]
    exact adds_nil (.refl s) rfl
  · refine ⟨alike_emit s tx, ?_, ?_⟩
    · rw [hsome]
      intro m hmem
      rw [List.mem_singleton.mp hmem]
      exact proper_stateOf hops
    · rw [hsome]
      have hdates : dates [s.stateOf tx (s.filterOps tx)] = tx.info.tid.toList := by
        cases htid : tx.info.tid <;> simp [dates, syncing, stateOf, htid]
      rw [hdates]
      exact climbs_of_not_isStale hfresh

/-- Emitting changes touches nothing but the newest identifier, and tells changes
only. -/
theorem adds_emitAll (s : PinSession) (txs : List Tx) :
    Adds s (s.emitAll txs).1 (s.emitAll txs).2
      ∧ (∃ newest, (s.emitAll txs).1 = s.reaching newest)
      ∧ (s.emitAll txs).2.map Tx.mark ∈ SyncMode.changes := by
  induction txs generalizing s with
  | nil => exact ⟨adds_nil (.refl s) rfl, ⟨s.newest, rfl⟩, Language.nil_mem_kstar _⟩
  | cons tx txs ih =>
      rw [emitAll_cons]
      have hfirst := adds_emit s tx
      obtain ⟨hrest, ⟨newest, hreach⟩, hchanges⟩ := ih (s.emit tx).1
      refine ⟨hfirst.trans hrest, ?_, ?_⟩
      · rcases emit_cases s tx with hnone | ⟨-, -, hsome⟩
        · rw [hreach, hnone]
          exact ⟨newest, rfl⟩
        · rw [hreach, hsome]
          exact ⟨newest, rfl⟩
      · rcases emit_cases s tx with hnone | ⟨-, -, hsome⟩
        · rw [hnone] at hchanges ⊢
          exact hchanges
        · rw [hsome] at hchanges ⊢
          exact SyncMode.changes_cons hchanges

/-- A session that is finished emits its closing message. -/
theorem adds_finish (s : PinSession) (code : ErrorCode) :
    Adds s (s.finish code).1 (s.finish code).2 := by
  refine ⟨⟨rfl, rfl, rfl, rfl⟩, fun m hmem => ?_, .nil s.newest⟩
  rw [List.mem_singleton.mp hmem]
  exact proper_statusOf s code nofun

/-- A session that ends by itself says that it is up to date, and then that it is closed. -/
theorem settle_of_eq (h : s.mode = .closeOnSync) :
    s.settle = ({ s with status := .closed, code := .nil, early := [] },
      [s.statusOf .synced .nil, s.statusOf .closed .nil]) := by
  unfold settle
  exact if_pos h

/-- Any other says that it is up to date, and stays. -/
theorem settle_of_ne (h : s.mode ≠ .closeOnSync) :
    s.settle = ({ s with status := .synced }, [s.statusOf .synced .nil]) := by
  unfold settle
  exact if_neg h

/-- Either way it emits proper messages and no change. -/
theorem adds_settle (s : PinSession) : Adds s s.settle.1 s.settle.2 := by
  by_cases hmode : s.mode = .closeOnSync
  · rw [settle_of_eq hmode]
    refine ⟨⟨rfl, rfl, rfl, rfl⟩, fun m hmem => ?_, .nil s.newest⟩
    rcases List.mem_pair.mp hmem with rfl | rfl
    · exact proper_statusOf s .nil nofun
    · exact proper_statusOf s .nil nofun
  · rw [settle_of_ne hmode]
    refine ⟨⟨rfl, rfl, rfl, rfl⟩, fun m hmem => ?_, .nil s.newest⟩
    rw [List.mem_singleton.mp hmem]
    exact proper_statusOf s .nil nofun

-- ============================================================ every call

/-- To begin is to emit the backlog and what came early, and to settle. -/
theorem adds_begin (s : PinSession) (backlog : List Tx) :
    Adds s (s.begin backlog).1 (s.begin backlog).2 := by
  unfold begin
  split
  · exact adds_nil (.refl s) rfl
  · split
    · exact adds_finish s .nil
    · have hstart : Adds s { s with status := .syncing, early := [] } [] :=
        adds_nil ⟨rfl, rfl, rfl, rfl⟩ rfl
      have htold := hstart.trans (adds_emitAll _ (backlog ++ s.early)).1
      exact htold.trans (adds_settle _)

/-- To be offered a change is to emit it and to settle, unless it is kept or passed over. -/
theorem adds_publish (s : PinSession) (tx : Tx) : Adds s (s.publish tx).1 (s.publish tx).2 := by
  have hstart : Adds s { s with status := .syncing } [] := adds_nil ⟨rfl, rfl, rfl, rfl⟩ rfl
  have htold := hstart.trans (adds_emit { s with status := .syncing } tx)
  unfold publish
  split
  · exact adds_nil (.refl s) rfl
  · exact adds_nil ⟨rfl, rfl, rfl, rfl⟩ rfl
  -- While it syncs and while it is synced, a session does the same.
  all_goals
    split
    · exact adds_nil (.refl s) rfl
    · dsimp only
      split
      next hempty =>
        rw [List.isEmpty_iff.mp hempty] at htold
        exact htold.trans (adds_nil ⟨rfl, rfl, rfl, rfl⟩ rfl)
      · exact htold.trans (adds_settle _)

/-- Every call is made up of such parts. -/
theorem adds_take (s : PinSession) (call : Call) : Adds s (s.take call).1 (s.take call).2 := by
  cases call with
  | begin backlog => exact adds_begin s backlog
  | publish tx => exact adds_publish s tx
  | close code =>
      show Adds s (s.close code).1 (s.close code).2
      unfold close
      split
      · exact adds_nil (.refl s) rfl
      · exact adds_finish s code

/-- So is every run. -/
theorem adds_run (s : PinSession) (calls : List Call) :
    Adds s (s.run calls).1 (s.run calls).2 := by
  induction calls generalizing s with
  | nil => exact adds_nil (.refl s) rfl
  | cons call calls ih => exact (adds_take s call).trans (ih (s.take call).1)

-- ============================================================== standing

/-- What a session that has told some marks is like: one case for each way in which
a word of its grammar can stop. -/
inductive Stands (s : PinSession) : List Mark → Prop where
  | fresh (hstatus : s.status = .notStarted) (hcode : s.code = .nil) : Stands s []
  /-- It was closed without a change told. -/
  | refused (hstatus : s.status = .closed) : Stands s [(.closed, s.code)]
  /-- It told what there was and ended by itself. -/
  | settled {first : List Mark} (hstatus : s.status = .closed) (hcode : s.code = .nil)
      (hmode : s.mode = .closeOnSync) (hfirst : first ∈ SyncMode.changes) :
      Stands s (first ++ [(.synced, .nil), (.closed, .nil)])
  | live {marks : List Mark} (hstatus : s.status = .synced) (hcode : s.code = .nil)
      (hmode : s.mode = .maintain) (hmarks : marks ∈ SyncMode.following) : Stands s marks
  /-- It was live and then closed. -/
  | ended {marks : List Mark} (hstatus : s.status = .closed) (hmode : s.mode = .maintain)
      (hmarks : marks ∈ SyncMode.following) : Stands s (marks ++ [(.closed, s.code)])

/-- Settling ends the changes that a session begins with. -/
theorem stands_settle (hstart : s.mode ≠ .none) (hcode : s.code = .nil)
    (h : marks ∈ SyncMode.changes) :
    Stands s.settle.1 (marks ++ s.settle.2.map Tx.mark) := by
  cases hmode : s.mode with
  | none => exact absurd hmode hstart
  | closeOnSync =>
      rw [settle_of_eq hmode]
      exact .settled rfl rfl hmode h
  | maintain =>
      rw [settle_of_ne (by simp [hmode])]
      exact .live rfl hcode hmode (SyncMode.following_of_changes h)

/-- Beginning leads from one way to stop to another. -/
theorem Stands.begin (h : Stands s marks) (backlog : List Tx) :
    Stands (s.begin backlog).1 (marks ++ (s.begin backlog).2.map Tx.mark) := by
  unfold PinSession.begin
  split
  · rwa [List.map_nil, List.append_nil]
  next hstatus =>
    cases h with
    | refused hs | settled hs | live hs | ended hs =>
        exact absurd (hs.symm.trans (Decidable.not_not.mp hstatus)) nofun
    | fresh _ hcode =>
      split
      · exact .refused rfl
      next hmode =>
        obtain ⟨-, ⟨newest, hreach⟩, hchanges⟩ :=
          adds_emitAll { s with status := .syncing, early := [] } (backlog ++ s.early)
        dsimp only
        rw [List.nil_append, List.map_append, hreach]
        exact stands_settle hmode hcode hchanges

/-- So does being offered a change. -/
theorem Stands.publish (h : Stands s marks) (tx : Tx) :
    Stands (s.publish tx).1 (marks ++ (s.publish tx).2.map Tx.mark) := by
  cases h with
  | fresh hstatus hcode =>
      rw [publish_notStarted hstatus]
      exact .fresh hstatus hcode
  | refused hstatus =>
      rw [publish_closed hstatus]
      exact .refused hstatus
  | settled hstatus hcode hmode hfirst =>
      rw [publish_closed hstatus, List.map_nil, List.append_nil]
      exact .settled hstatus hcode hmode hfirst
  | ended hstatus hmode hmarks =>
      rw [publish_closed hstatus, List.map_nil, List.append_nil]
      exact .ended hstatus hmode hmarks
  | live hstatus hcode hmode hmarks =>
      unfold PinSession.publish
      rw [hstatus]
      dsimp only
      rw [if_neg (by simp [hmode])]
      rcases emit_cases { s with status := .syncing } tx with hnone | ⟨-, -, hsome⟩
      · rw [hnone]
        dsimp only
        rw [List.isEmpty_nil, if_pos rfl, List.map_nil, List.append_nil]
        exact .live rfl hcode hmode hmarks
      · rw [hsome]
        dsimp only
        rw [if_neg (by simp), settle_of_ne (by simp [reaching, hmode])]
        exact .live rfl hcode hmode (SyncMode.following_append hmarks)

/-- So does being closed. -/
theorem Stands.close (h : Stands s marks) (code : ErrorCode) :
    Stands (s.close code).1 (marks ++ (s.close code).2.map Tx.mark) := by
  unfold PinSession.close isClosed
  split
  · rwa [List.map_nil, List.append_nil]
  next hopen =>
    cases h with
    | refused hs | settled hs | ended hs => simp [hs] at hopen
    | fresh => exact .refused rfl
    | live _ _ hmode hmarks => exact .ended rfl hmode hmarks

/-- So does a run, whatever the calls are. -/
theorem Stands.run (h : Stands s marks) (calls : List Call) :
    Stands (s.run calls).1 (marks ++ (s.run calls).2.map Tx.mark) := by
  induction calls generalizing s marks with
  | nil => rwa [PinSession.run, List.map_nil, List.append_nil]
  | cons call calls ih =>
      have hfirst : Stands (s.take call).1 (marks ++ (s.take call).2.map Tx.mark) := by
        cases call with
        | begin backlog => exact h.begin backlog
        | publish tx => exact h.publish tx
        | close code => exact h.close code
      have hrest := ih hfirst
      rw [List.append_assoc, ← List.map_append] at hrest
      exact hrest

/-- Each way in which a word can stop is in the grammar of the mode. -/
theorem Stands.mem_grammar (h : Stands s marks) : marks ∈ s.mode.grammar := by
  have hsilent : ∀ {mode : SyncMode} {word : List Mark}, word ∈ 1 + SyncMode.closing →
      word ∈ mode.grammar := by
    intro mode word hword
    cases mode with
    | none => exact hword
    | closeOnSync => exact .inl hword
    | maintain => exact .inl hword
  cases h with
  | fresh => exact hsilent (.inl rfl)
  | refused => exact hsilent (.inr ⟨s.code, rfl⟩)
  | settled _ _ hmode hfirst =>
      rw [hmode]
      exact .inr (Language.append_mem_mul hfirst (SyncMode.mem_word _))
  | live _ _ hmode hmarks =>
      rw [hmode, ← List.append_nil marks]
      exact .inr (Language.append_mem_mul hmarks (.inl rfl))
  | ended _ hmode hmarks =>
      rw [hmode]
      exact .inr (Language.append_mem_mul hmarks (.inr ⟨s.code, rfl⟩))

/-- Only the last message closes. -/
theorem Stands.pairwise (h : Stands s marks) :
    marks.Pairwise fun mark _ => mark.1 ≠ .closed := by
  -- Whatever is told before the last message does not close.
  have hbefore : ∀ {before : List Mark} (last : Mark), (∀ mark ∈ before, mark.1 ≠ .closed) →
      (before ++ [last]).Pairwise fun mark _ => mark.1 ≠ .closed := by
    intro before last hall
    refine List.pairwise_append.mpr ⟨?_, List.pairwise_singleton _ _, fun a ha _ _ => hall a ha⟩
    exact List.pairwise_of_forall_mem_list fun a ha _ _ => hall a ha
  cases h with
  | fresh => exact .nil
  | refused => exact List.pairwise_singleton _ _
  | @settled first _ _ _ hfirst =>
      have hsplit : first ++ [(.synced, .nil), (.closed, .nil)]
          = (first ++ [(.synced, .nil)]) ++ [((.closed, .nil) : Mark)] := by simp
      rw [hsplit]
      exact hbefore _
        (SyncMode.status_of_mem_following (SyncMode.following_of_changes hfirst))
  | live _ _ _ hmarks =>
      exact List.pairwise_of_forall_mem_list fun a ha _ _ =>
        SyncMode.status_of_mem_following hmarks a ha
  | ended _ _ hmarks => exact hbefore _ (SyncMode.status_of_mem_following hmarks)

/-- The status and the code of a session that has emitted some messages. -/
def standing (out : List Tx) : Status × ErrorCode :=
  match out.getLast? with
  | none => (.notStarted, .nil)
  | some last => if last.info.status = .closed then (.closed, last.info.code) else (.synced, .nil)

/-- The last message says where a session stands. -/
theorem standing_of_concat (before : List Mark) (mark : Mark)
    (h : out.map Tx.mark = before ++ [mark]) :
    standing out = if mark.1 = .closed then (.closed, mark.2) else (.synced, .nil) := by
  obtain ⟨front, rest, rfl, -, hrest⟩ := List.map_eq_append_iff.mp h
  obtain ⟨last, rfl, rfl⟩ := List.map_eq_singleton_iff.mp hrest
  rw [standing, List.getLast?_append]
  rfl

/-- Where a session stands can be read off what it has told. -/
theorem Stands.standing_eq (h : Stands s (out.map Tx.mark)) :
    (s.status, s.code) = standing out := by
  generalize hmarks : out.map Tx.mark = marks at h
  cases h with
  | fresh hstatus hcode =>
      rw [List.map_eq_nil_iff.mp hmarks, hstatus, hcode]
      rfl
  | refused hstatus =>
      rw [standing_of_concat [] _ hmarks, hstatus]
      rfl
  | @settled first hstatus hcode _ _ =>
      rw [standing_of_concat (first ++ [(.synced, .nil)]) (.closed, .nil)
        (by rw [hmarks]; simp), hstatus, hcode]
      rfl
  | live hstatus hcode _ hfollowing =>
      obtain ⟨before, hbefore⟩ := SyncMode.exists_of_mem_following hfollowing
      rw [standing_of_concat before _ (hmarks.trans hbefore), hstatus, hcode]
      rfl
  | ended hstatus _ _ =>
      rw [standing_of_concat _ _ hmarks, hstatus]
      rfl

-- =============================================================== traces

/-- Settling is never silent. -/
theorem settle_ne_nil (s : PinSession) : s.settle.2 ≠ [] := by
  by_cases hmode : s.mode = .closeOnSync
  · simp [settle_of_eq hmode]
  · simp [settle_of_ne hmode]

/-- A session that begins says something, if only that it is closed. -/
theorem begin_ne_nil (h : s.status = .notStarted) (backlog : List Tx) :
    (s.begin backlog).2 ≠ [] := by
  unfold begin
  rw [if_neg (by simp [h])]
  split
  · exact List.cons_ne_nil _ _
  · intro hnil
    exact settle_ne_nil _ (List.append_eq_nil_iff.mp hnil).2

/-- A session is silent as long as it is neither begun nor closed. -/
theorem run_eq_nil_iff (h : s.status = .notStarted) (calls : List Call) :
    (s.run calls).2 = [] ↔ ∀ call ∈ calls, ∃ tx, call = .publish tx := by
  induction calls generalizing s with
  | nil => simp [run]
  | cons call calls ih =>
      show (s.take call).2 ++ ((s.take call).1.run calls).2 = [] ↔ _
      rw [List.append_eq_nil_iff, List.forall_mem_cons]
      cases call with
      | begin backlog => simp [take, begin_ne_nil h backlog]
      | publish tx =>
          have hrest := ih (s := (s.take (.publish tx)).1) (by simp [take, publish_notStarted h, h])
          rw [hrest]
          simp [take, publish_notStarted h]
      | close code => simp [take, close, isClosed, finish, h]

/-- What a session tells over any calls in any order is a word of its mode's
grammar: nothing follows a closing message, the identifiers of the changes rise,
and every change has an op, all of them meant for the session. Its status and
code are those of the last message. It tells something as soon as it is begun
or closed. -/
theorem run_mem_grammar (contextId : UInt64) (cell : TagId) (attrs : List TagId)
    (mode : SyncMode) (calls : List Call) :
    let s : PinSession := { contextId, cell, attrs, mode }
    (s.run calls).2.map Tx.mark ∈ mode.grammar
      ∧ ((s.run calls).2.Pairwise fun m _ => m.info.status ≠ .closed)
      ∧ (dates (s.run calls).2).Pairwise (· < ·)
      ∧ (∀ m ∈ (s.run calls).2, s.Proper m)
      ∧ ((s.run calls).1.status, (s.run calls).1.code) = standing (s.run calls).2
      ∧ ((s.run calls).2 = [] ↔ ∀ call ∈ calls, ∃ tx, call = .publish tx) := by
  intro s
  have hadds := adds_run s calls
  have hstands : Stands (s.run calls).1 ((s.run calls).2.map Tx.mark) :=
    (Stands.fresh rfl rfl : Stands s []).run calls
  refine ⟨?_, List.pairwise_map.mp hstands.pairwise, hadds.climbs.ordered, hadds.proper,
    hstands.standing_eq, run_eq_nil_iff rfl calls⟩
  have hword := hstands.mem_grammar
  rw [hadds.alike.mode_eq] at hword
  exact hword

end PinSession

end CellSync
