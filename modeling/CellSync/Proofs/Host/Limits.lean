/-
Which limits a commit is measured by.

A host that makes an identifier writes the content of the commit out for
it, and it does so under the standard limits: those of its configuration
play no part there (`recordCommit_isSize_iff`). The readers and the
writers of its connections use the configured ones. So a commit between
the two is not treated as configured. If larger limits are configured, it
is refused although a connection has let it in; if smaller ones are, a
caller who does not come by a connection gets it recorded, and no pin can
be told of it (`exists_limits_ignored`). Every other commit is refused
for its size exactly if it is larger than configured, and can be told to
every pin if it is recorded (`commit_limits`).
-/
import CellSync.Proofs.Host.Recording
import CellSync.Proofs.Pin.Passing

namespace CellSync

variable {ρ σ : Type}

-- ================================================================ errors

/-- Whether an error says that a transaction is too large for some limits. -/
def TxError.isSize : TxError → Bool
  | tooManyOps .. | dataTooLarge .. => true
  | _ => false

/-- Whether a failure says that a transaction is too large for some limits. -/
def SessionError.isSize : SessionError → Bool
  | tx error => error.isSize
  | _ => false

/-- The limits of a host that is not configured. -/
def TxConfig.standard : TxConfig := {}

theorem Frame.not_within_iff {config : TxConfig} {tx : Tx} : ¬Frame.Within config tx
    ↔ config.maxOps < tx.ops.length ∨ config.maxData < tx.data.size := by
  unfold Frame.Within
  omega

/-- A transaction is too large to be written just if it breaks a limit. -/
theorem Frame.check_isSize_iff {config : TxConfig} (hmax : config.maxData ≤ maxSize) (tx : Tx) :
    (∃ error, check tx config = .error error ∧ error.isSize = true) ↔ ¬Within config tx := by
  rw [not_within_iff]
  have hmin : min config.maxData maxSize = config.maxData := Nat.min_eq_left hmax
  unfold check
  dsimp only
  rw [hmin]
  by_cases hops : config.maxOps < tx.ops.length
  · rw [if_pos hops]
    exact ⟨fun _ => .inl hops, fun _ => ⟨_, rfl, rfl⟩⟩
  · rw [if_neg hops]
    by_cases hdata : config.maxData < tx.data.size
    · rw [if_pos hdata]
      exact ⟨fun _ => .inr hdata, fun _ => ⟨_, rfl, rfl⟩⟩
    · rw [if_neg hdata]
      refine ⟨?_, fun hbroken => absurd hbroken (by omega)⟩
      -- All that is checked after the limits has nothing to do with them.
      rintro ⟨error, herror, hsize⟩
      split at herror
      · rw [← Except.error.inj herror] at hsize
        cases hsize
      · split at herror
        · rw [← Except.error.inj herror] at hsize
          cases hsize
        · split at herror
          · rw [← Except.error.inj herror] at hsize
            cases hsize
          · cases herror

/-- A session that is up to date tells of a later change that it wants to see. -/
theorem PinSession.mem_publish {s : PinSession} {tx : Tx} (hstatus : s.status = .synced)
    (hmode : s.mode = .maintain) (hfresh : s.isStale tx = false) (hops : s.filterOps tx ≠ []) :
    s.stateOf tx (s.filterOps tx) ∈ (s.publish tx).2 := by
  have hsyncing : ({ s with status := .syncing } : PinSession).filterOps tx = s.filterOps tx := rfl
  unfold publish
  rw [hstatus]
  dsimp only
  rw [if_neg (by simp [hmode])]
  rcases emit_cases { s with status := .syncing } tx with hnone | ⟨-, -, hsome⟩
  · unfold emit at hnone
    dsimp only at hnone
    have hstale : ({ s with status := .syncing } : PinSession).isStale tx = false := hfresh
    rw [hsyncing, hstale, Bool.false_or, if_neg (by simpa using hops)] at hnone
    cases (Prod.mk.inj hnone).2
  · rw [hsome]
    exact List.mem_cons_self

namespace Host

variable {h : Host ρ σ} {who : Login.Checkpoint} {tx : Tx} {clock : ClockTime}

-- ============================================================ admissible

/-- Nothing but its size, the clock and the directory can stand against a commit. -/
structure Admits (h : Host ρ σ) (who : Login.Checkpoint) (tx : Tx) : Prop where
  running : h.shuttingDown = false
  kind_eq : tx.info.kind = .commit
  useful : ∃ op ∈ tx.ops, op ≠ .noOp
  refs : ∀ op ∈ tx.ops, ∀ r, op.value? = some r → r.fits tx.data.size = true
  allowed : ∀ cell ∈ tx.targets, h.access.canWrite who cell = true

theorem Admits.checkCommit_eq (hadmits : h.Admits who tx) : h.checkCommit who tx = .ok () := by
  obtain ⟨hrunning, hkind, ⟨op, hop, hne⟩, -, hallowed⟩ := hadmits
  have hops : ¬tx.ops.all (· = .noOp) = true := by
    intro hall
    exact hne (of_decide_eq_true (List.all_eq_true.mp hall op hop))
  have hfind : (tx.ops.filterMap Op.target?).find? (fun cell => !h.access.canWrite who cell)
      = none := by
    rw [List.find?_eq_none]
    intro cell hcell
    rw [hallowed cell (Tx.mem_targets.mpr hcell)]
    decide
  unfold checkCommit
  rw [hrunning, if_neg (by decide), if_neg (by simp [hkind]), if_neg hops, hfind]

/-- A commit that passes the check is answered as its recording goes. -/
theorem fst_commit (hcheck : h.checkCommit who tx = .ok ()) (clock : ClockTime) :
    (h.commit clock who tx).1 = (h.recordCommit clock tx).map (·.2.1) := by
  unfold Host.commit
  rw [hcheck]
  cases h.recordCommit clock tx <;> rfl

-- ================================================================ limits

/-- Recording measures a commit by the standard limits, whichever are configured. -/
theorem recordCommit_isSize_iff (h : Host ρ σ) (clock : ClockTime) (tx : Tx) :
    (∃ error, h.recordCommit clock tx = .error error ∧ error.isSize = true)
      ↔ ¬Frame.Within .standard tx := by
  have hmeasured : (∃ error, Frame.check (tx.withTid none) .standard = .error error
      ∧ error.isSize = true) ↔ ¬Frame.Within .standard tx :=
    Frame.check_isSize_iff (by decide) (tx.withTid none)
  rw [← hmeasured]
  have hserial : (tx.withTid none).serialize = Frame.encode (tx.withTid none) .standard := rfl
  unfold recordCommit
  rw [hserial, Frame.encode]
  cases Frame.check (tx.withTid none) .standard with
  | error error =>
      constructor
      · rintro ⟨e, he, hsize⟩
        rw [← Except.error.inj he] at hsize
        exact ⟨error, rfl, hsize⟩
      · rintro ⟨e, he, hsize⟩
        rw [← Except.error.inj he] at hsize
        exact ⟨.tx error, rfl, hsize⟩
  | ok =>
      constructor
      on_goal 2 =>
        rintro ⟨e, he, -⟩
        cases he
      -- What can fail after the writing is the clock and the directory.
      rintro ⟨e, he, hsize⟩
      rcases eq_error_of_bind he with hcontent | ⟨content, -, he⟩
      · cases hcontent
      · rcases eq_error_of_bind he with htid | ⟨tid, -, he⟩
        · obtain ⟨fault, -, rfl⟩ := mapError_eq_error htid
          cases hsize
        · dsimp only at he
          split at he
          · rw [← Except.error.inj he] at hsize
            cases hsize
          · cases he

theorem commit_isSize_iff (hadmits : h.Admits who tx) (clock : ClockTime) :
    (∃ error, (h.commit clock who tx).1 = .error error ∧ error.isSize = true)
      ↔ ¬Frame.Within .standard tx := by
  rw [fst_commit hadmits.checkCommit_eq, ← recordCommit_isSize_iff h clock tx]
  cases h.recordCommit clock tx with
  | error error =>
      constructor
      · rintro ⟨e, he, hsize⟩
        exact ⟨e, congrArg Except.error (Except.error.inj he), hsize⟩
      · rintro ⟨e, he, hsize⟩
        exact ⟨e, congrArg Except.error (Except.error.inj he), hsize⟩
  | ok recorded =>
      constructor
      · rintro ⟨_, he, -⟩
        cases he
      · rintro ⟨_, he, -⟩
        cases he

/-- A commit that is recorded, under an identifier that can be written, is one that
can be written within the standard limits. -/
theorem sendable_of_commit {tid : Tid} (hcommit : (h.commit clock who tx).1 = .ok tid)
    (hne : tid ≠ .zero) : Frame.Sendable .standard (tx.withTid (some tid)) := by
  obtain ⟨recorded, hrecord, -⟩ := commit_eq_ok (Prod.ext hcommit rfl)
  obtain ⟨content, _, hcontent, -⟩ := recordCommit_eq_ok hrecord
  obtain ⟨hin, hw, -⟩ := Frame.encode_eq_ok_iff.mp hcontent
  exact ⟨hin, hw.body_le, hw.data_le, hw.refs, fun heq => hne (Option.some.inj heq)⟩

/-- A commit that nothing but its size can stand against is refused for its size
exactly if it breaks the standard limits, whatever is configured. If it is on
the same side of these and of the configured limits, it is so refused exactly
if it breaks the configured ones; and if it is recorded, all that a pin tells of
it can be written under the configured ones. -/
theorem commit_limits (hadmits : h.Admits who tx) (clock : ClockTime) :
    ((∃ error, (h.commit clock who tx).1 = .error error ∧ error.isSize = true)
        ↔ TxConfig.standard.maxOps < tx.ops.length ∨ TxConfig.standard.maxData < tx.data.size)
      ∧ ((Frame.Within .standard tx ↔ Frame.Within h.config.tx tx) →
          ((∃ error, (h.commit clock who tx).1 = .error error ∧ error.isSize = true)
            ↔ h.config.tx.maxOps < tx.ops.length ∨ h.config.tx.maxData < tx.data.size)
          ∧ ∀ tid, (h.commit clock who tx).1 = .ok tid → tid ≠ .zero →
            ∀ (s : PinSession) (call : PinSession.Call), s.early = [] →
              call.changes ⊆ [tx.withTid (some tid)] →
              ∀ m ∈ (s.take call).2, ∃ frame, Frame.encode m h.config.tx = .ok frame) := by
  have hrefused := commit_isSize_iff hadmits clock
  refine ⟨hrefused.trans Frame.not_within_iff, fun hsame => ⟨?_, ?_⟩⟩
  · rw [hrefused, hsame]
    exact Frame.not_within_iff
  · intro tid hcommit hne s call hearly hbrought m hmem
    obtain ⟨hin, hw⟩ := sendable_of_commit hcommit hne
    refine Frame.sendable_iff.mp ((PinSession.sendable_take fun other hother => ?_).1 m hmem)
    rw [hearly, List.nil_append] at hother
    rw [List.mem_singleton.mp (hbrought hother)]
    exact ⟨hsame.mp hin, hw⟩

/-- A host with its own limit on the ops of a transaction. -/
def limited (maxOps : Nat) : Host Directory Login.CheckpointTable :=
  { fresh with config := { tx := { maxOps } } }

/-- Everybody may commit anything that is in order. -/
theorem admits_limited (maxOps : Nat) (who : Login.Checkpoint) {tx : Tx}
    (hkind : tx.info.kind = .commit) (huseful : ∃ op ∈ tx.ops, op ≠ .noOp)
    (hrefs : ∀ op ∈ tx.ops, op.value? = none) : (limited maxOps).Admits who tx := by
  refine ⟨rfl, hkind, huseful, fun op hop r hr => ?_, fun _ _ => rfl⟩
  rw [hrefs op hop] at hr
  cases hr

/-- Two ops are allowed, and there are two. -/
theorem commit_limits_cleared : ∃ who tid, (limited 2).Admits who cleared
    ∧ ((limited 2).commit (.after 1 0) who cleared).1 = .ok tid
    ∧ ∀ s : PinSession, s.early = [] →
      ∀ m ∈ (s.publish (cleared.withTid (some tid))).2,
        ∃ frame, Frame.encode m (limited 2).config.tx = .ok frame := by
  let who : Login.Checkpoint := ⟨"token", "session", "member", "feed", "user"⟩
  have hadmits : (limited 2).Admits who cleared :=
    admits_limited 2 who rfl ⟨_, List.mem_cons_self, nofun⟩ (by decide)
  obtain ⟨tid, hne, htid⟩ := Tid.exists_successor_ne_zero (Frame.bytes (cleared.withTid none))
  have hrecord := recordCommit_of_writable (h := limited 2) rfl ⟨by decide, by decide⟩
    ⟨by decide, by decide, by decide, by decide⟩ htid
  have hcommit : ((limited 2).commit (.after 1 0) who cleared).1 = .ok tid := by
    rw [fst_commit hadmits.checkCommit_eq, hrecord]
    rfl
  have hboth : Frame.Within .standard cleared ↔ Frame.Within (limited 2).config.tx cleared :=
    ⟨fun _ => ⟨by decide, by decide⟩, fun _ => ⟨by decide, by decide⟩⟩
  refine ⟨who, tid, hadmits, hcommit, fun s hearly => ?_⟩
  exact ((commit_limits hadmits (.after 1 0)).2 hboth).2 tid hcommit hne s (.publish _) hearly
    (List.Subset.refl _)

/-- A commit with one op more than the standard limits allow. -/
def lengthy : Tx :=
  { Tx.ofKind .commit with
    ops := List.replicate TxConfig.standard.maxOps .noOp ++ [.deleteCell (.ofWord 1)] }

theorem length_lengthy : lengthy.ops.length = 6145 := by
  unfold lengthy
  rw [List.length_append, List.length_replicate]
  rfl

/-- A session that is up to date with a cell. -/
def watching : PinSession := ⟨7, .ofWord 1, [], .maintain, .synced, .nil, none, []⟩

/-- A commit that is as large as configured is refused as too large, and one that is
larger is recorded, and told to a pin by a message that cannot be written. -/
theorem exists_limits_ignored :
    (∃ (h : Host Directory Login.CheckpointTable) (who : Login.Checkpoint) (tx : Tx),
        h.Admits who tx ∧ Frame.Within h.config.tx tx
          ∧ (h.commit (.after 1 0) who tx).1 = .error (.tx (.tooManyOps 6145 6144)))
      ∧ ∃ (h : Host Directory Login.CheckpointTable) (who : Login.Checkpoint) (tx : Tx) (tid : Tid),
        h.Admits who tx ∧ ¬Frame.Within h.config.tx tx
          ∧ (h.commit (.after 1 0) who tx).1 = .ok tid ∧ tid ≠ .zero
          ∧ ∃ m ∈ (watching.publish (tx.withTid (some tid))).2,
            Frame.encode m h.config.tx = .error (.tooManyOps 2 1) := by
  let who : Login.Checkpoint := ⟨"token", "session", "member", "feed", "user"⟩
  constructor
  · have hmem : ∀ op ∈ lengthy.ops, op = .noOp ∨ op = .deleteCell (.ofWord 1) := by
      intro op hop
      rcases List.mem_append.mp hop with hop | hop
      · exact .inl (List.eq_of_mem_replicate hop)
      · exact .inr (List.mem_singleton.mp hop)
    have hadmits : (limited 6145).Admits who lengthy := by
      refine admits_limited 6145 who rfl ⟨.deleteCell (.ofWord 1), ?_, nofun⟩ fun op hop => ?_
      · exact List.mem_append_right _ (List.mem_singleton_self _)
      · rcases hmem op hop with rfl | rfl <;> rfl
    refine ⟨limited 6145, who, lengthy, hadmits, ⟨Nat.le_of_eq length_lengthy, by decide⟩, ?_⟩
    have hcheck : Frame.check (lengthy.withTid none) {} = .error (.tooManyOps 6145 6144) := by
      have hlength : (lengthy.withTid none).ops.length = 6145 := length_lengthy
      unfold Frame.check
      dsimp only
      rw [hlength, if_pos (by decide)]
      rfl
    have hserial : (lengthy.withTid none).serialize = .error (.tooManyOps 6145 6144) := by
      rw [Tx.serialize, Frame.encode, hcheck]
      rfl
    rw [fst_commit hadmits.checkCommit_eq, recordCommit, hserial]
    rfl
  · have hadmits : (limited 1).Admits who cleared :=
      admits_limited 1 who rfl ⟨_, List.mem_cons_self, nofun⟩ (by decide)
    obtain ⟨tid, hne, htid⟩ := Tid.exists_successor_ne_zero (Frame.bytes (cleared.withTid none))
    have hrecord := recordCommit_of_writable (h := limited 1) rfl ⟨by decide, by decide⟩
      ⟨by decide, by decide, by decide, by decide⟩ htid
    refine ⟨limited 1, who, cleared, tid, hadmits, fun hin => absurd hin.1 (by decide), ?_, hne,
      watching.stateOf (cleared.withTid (some tid)) cleared.ops, ?_, rfl⟩
    · rw [fst_commit hadmits.checkCommit_eq, hrecord]
      rfl
    · have hops : watching.filterOps (cleared.withTid (some tid)) = cleared.ops :=
        List.filter_eq_self.mpr (show ∀ op ∈ cleared.ops, watching.wants op = true by decide)
      have hsome : watching.filterOps (cleared.withTid (some tid)) ≠ [] := by
        rw [hops]
        exact List.cons_ne_nil _ _
      have htold := PinSession.mem_publish rfl rfl rfl hsome
      rwa [hops] at htold

end Host

end CellSync
