/-
The log of a cell is the history of its accepted commits.

A host gets calls of all sorts: commits by anybody, of anything, at any
reading of its clock, and between them edits of the directory, pins and
a shutdown. `performAll` plays such a run and lists the commits that
were answered with an identifier, each under that identifier. What the
directory then has for a cell is that list, narrowed to the commits with
an op for the cell (`log_performAll`): a commit that was refused is not
in it, one with many ops for the cell is in it once, and later edits of
the directory lose nothing.

Each entry is addressed by its content (`Tx.Addressed`): its identifier
ends in the front of the hash of the same message, written without an
identifier. The invariant is carried over the steps of host operations
(`Reachable`), and a run is made of those.
-/
import CellSync.Proofs.Host.Issuing

namespace CellSync

/-- The suffix of a message's identifier comes from the hash of the message
written with no identifier. -/
def Tx.Addressed (tx : Tx) : Prop :=
  ∃ tid content, tx.info.tid = some tid ∧ (tx.withTid none).serialize = .ok content
    ∧ tid.octets.toBytes.drop 8 = (Blake3.hash content).toBytes.take 24

/-- A commit is for a cell if one of its ops is. -/
theorem commitsTo_eq_filter (cell : TagId) (txs : List Tx) :
    commitsTo cell txs = txs.filter (·.touches cell) := by
  unfold commitsTo
  exact List.filter_congr fun tx _ => (tx.touches_eq cell).symm

namespace Host

variable {σ : Type}

-- ================================================================= runs

/-- A call that a host gets. -/
inductive Call where
  | commit (call : Committing)
  | addCell (name : String)
  | addUrl (url : String) (cell : TagId)
  | openPin (box : OutboxId) (who : Login.Checkpoint) (contextId : UInt64) (request : PinRequest)
  | closePin (id : PinId) (code : ErrorCode)
  | shutdown

/-- Performs a call, and lists the commit that it gets accepted, if it does. -/
def perform (h : Host Directory σ) : Call → List Tx × Host Directory σ
  | .commit call =>
    match h.commit call.clock call.who call.tx with
    | (.ok tid, h) => ([call.tx.withTid (some tid)], h)
    | (.error _, h) => ([], h)
  | .addCell name => ([], { h with directory := (h.directory.addCell name).2 })
  | .addUrl url cell => ([], { h with directory := h.directory.addUrl url cell })
  | .openPin box who contextId request => ([], (h.openPin box who contextId request).2)
  | .closePin id code => ([], (h.closePin id code).2)
  | .shutdown => ([], h.shutdown)

/-- Performs calls one after another, and lists the accepted commits in order. -/
def performAll (h : Host Directory σ) : List Call → List Tx × Host Directory σ
  | [] => ([], h)
  | call :: calls =>
    let (accepted, h) := h.perform call
    let (later, h) := performAll h calls
    (accepted ++ later, h)

/-- A commit that is accepted is recorded with its identifier, and then published with it. -/
theorem commit_eq_ok {ρ : Type} {h h' : Host ρ σ} {clock : ClockTime} {who : Login.Checkpoint}
    {tx : Tx} {tid : Tid} (hcommit : h.commit clock who tx = (.ok tid, h')) :
    ∃ recorded, h.recordCommit clock tx = .ok (tx.withTid (some tid), tid, recorded)
      ∧ h' = recorded.mapHub fun hub => (hub.publish (tx.withTid (some tid))).2 := by
  unfold Host.commit at hcommit
  split at hcommit
  · cases hcommit
  · split at hcommit
    · cases hcommit
    next tx' tid' recorded hrecord =>
      obtain ⟨_, _, -, -, htx, -, -⟩ := recordCommit_eq_ok hrecord
      injection hcommit with htid hhost
      subst htx hhost
      rw [← Except.ok.inj htid]
      exact ⟨recorded, hrecord, rfl⟩

/-- A commit that is not accepted changes nothing. -/
theorem commit_eq_error {ρ : Type} {h h' : Host ρ σ} {clock : ClockTime} {who : Login.Checkpoint}
    {tx : Tx} {error : SessionError} (hcommit : h.commit clock who tx = (.error error, h')) :
    h' = h := by
  unfold Host.commit at hcommit
  split at hcommit
  · exact (Prod.mk.inj hcommit).2.symm
  · split at hcommit
    · exact (Prod.mk.inj hcommit).2.symm
    · cases hcommit

/-- A commit joins the history exactly when it is answered with an identifier. -/
theorem Reachable.perform_commit {h : Host Directory σ} {history : List Tx}
    (hreach : Reachable h history) (call : Committing) :
    Reachable (h.perform (.commit call)).2 (history ++ (h.perform (.commit call)).1) := by
  simp only [Host.perform]
  split
  next tid h' hcommit =>
    obtain ⟨recorded, hrecord, rfl⟩ := commit_eq_ok hcommit
    exact (hreach.recordCommit hrecord).publish _ _
  next error h' hcommit =>
    rw [commit_eq_error hcommit, List.append_nil]
    exact hreach

/-- A call leads from reachable states to reachable states, with what it gets accepted. -/
theorem Reachable.perform {h : Host Directory σ} {history : List Tx}
    (hreach : Reachable h history) (call : Call) :
    Reachable (h.perform call).2 (history ++ (h.perform call).1) := by
  cases call with
  | commit call => exact hreach.perform_commit call
  | addCell name => simpa [Host.perform] using hreach.addCell name
  | addUrl url cell => simpa [Host.perform] using hreach.addUrl url cell
  | openPin box who contextId request =>
      simpa [Host.perform] using hreach.openPin box who contextId request
  | closePin id code => simpa [Host.perform] using hreach.closePin id code
  | shutdown => simpa [Host.perform] using hreach.shutdown

/-- So do calls in a row. -/
theorem Reachable.performAll {h : Host Directory σ} {history : List Tx}
    (hreach : Reachable h history) (calls : List Call) :
    Reachable (h.performAll calls).2 (history ++ (h.performAll calls).1) := by
  induction calls generalizing h history with
  | nil => simpa [Host.performAll] using hreach
  | cons call calls ih =>
      have hlater := ih (hreach.perform call)
      rw [List.append_assoc] at hlater
      exact hlater

-- ================================================= content addresses

/-- A commit that is recorded is addressed by its content. -/
theorem addressed_of_recordCommit {h h' : Host Directory σ} {clock : ClockTime} {tx tx' : Tx}
    {tid : Tid} (hrecord : h.recordCommit clock tx = .ok (tx', tid, h')) : tx'.Addressed := by
  obtain ⟨content, _, hcontent, htid, rfl, -, -⟩ := recordCommit_eq_ok hrecord
  exact ⟨tid, content, rfl, hcontent, Tid.drop_toBytes_of_successor htid⟩

/-- So is every commit of a history. -/
theorem Reachable.addressed {h : Host Directory σ} {history : List Tx}
    (hreach : Reachable h history) : ∀ tx ∈ history, tx.Addressed := by
  induction hreach with
  | start _ =>
      intro tx hmem
      cases hmem
  | recordCommit _ hrecord ih =>
      intro tx hmem
      rcases List.mem_append.mp hmem with hold | hnew
      · exact ih tx hold
      · rw [List.mem_singleton.mp hnew]
        exact addressed_of_recordCommit hrecord
  | addCell _ _ ih | addUrl _ _ _ ih | hub _ _ ih | beginShutdown _ ih | login _ _ ih => exact ih

-- ============================================================== the log

/-- What a look at a cell loads. -/
def log {ρ : Type} (h : Host ρ σ) (cell : TagId) : List Tx := h.resolver.load h.directory cell

/-- After any run of calls on a new host, what a look at a cell loads is exactly
the accepted commits with an op for the cell, each once and in the order in
which they were accepted. Their identifiers strictly increase, and each ends in
the first 24 bytes of the hash of that message written with no identifier. -/
theorem log_performAll {h : Host Directory σ} (hnew : h.New) (calls : List Call) (cell : TagId) :
    (h.performAll calls).2.log cell = (h.performAll calls).1.filter (·.touches cell)
      ∧ ((h.performAll calls).2.log cell).Nodup
      ∧ ((h.performAll calls).2.log cell).Pairwise Tx.Precedes
      ∧ ∀ tx ∈ (h.performAll calls).2.log cell, tx.Addressed := by
  have hreach := (Reachable.start hnew).performAll calls
  rw [List.nil_append] at hreach
  generalize (h.performAll calls).1 = accepted at *
  generalize (h.performAll calls).2 = after at *
  have hledger := hreach.ledger
  have hlog : after.log cell = accepted.filter (·.touches cell) := by
    rw [log, hledger.resolver_eq, ← commitsTo_eq_filter]
    exact hledger.load_eq cell
  have hrising : (after.log cell).Pairwise Tx.Precedes := by
    rw [hlog]
    exact hledger.rising.ordered.sublist List.filter_sublist
  refine ⟨hlog, hrising.imp ?_, hrising, ?_⟩
  · rintro a b ⟨s, t, hs, ht, hlt⟩ rfl
    rw [hs] at ht
    rw [Option.some.inj ht] at hlt
    exact Nat.lt_irrefl _ hlt
  · intro tx hmem
    rw [hlog] at hmem
    exact hreach.addressed tx (List.mem_of_mem_filter hmem)

/-- A new host that keeps everything in memory. -/
def fresh : Host Directory Login.CheckpointTable where
  resolver := Directory.resolver
  directory := {}
  verifier := ({} : Login.Credentials).verifier
  store := Login.CheckpointTable.store
  checkpoints := {}

/-- A commit with two ops for one cell. -/
def cleared : Tx :=
  { Tx.ofKind .commit with ops := [.deleteCell (.ofWord 1), .deleteCell (.ofWord 1)] }

/-- A commit of nothing, a commit with two ops for a cell, and a URL that is mapped
to the cell afterwards. -/
def clearing (who : Login.Checkpoint) : List Call :=
  [.commit ⟨.after 0 0, who, Tx.ofKind .commit⟩, .commit ⟨.after 0 0, who, cleared⟩,
    .addUrl "amp://c" (.ofWord 1)]

/-- Of these the first is not in the log, and the second is in it once. -/
theorem log_performAll_clearing : ∃ who tid, fresh.New
    ∧ (fresh.performAll (clearing who)).2.log (.ofWord 1) = [cleared.withTid (some tid)]
    ∧ (cleared.withTid (some tid)).Addressed := by
  let who : Login.Checkpoint := ⟨"token", "session", "member", "feed", "user"⟩
  have hnew : fresh.New := ⟨rfl, rfl, rfl, rfl⟩
  obtain ⟨tid, htid⟩ := Tid.exists_successor (Frame.bytes (cleared.withTid none))
  have hcheck : fresh.checkCommit who cleared = .ok () := rfl
  have hrecord := recordCommit_of_writable (h := fresh) rfl ⟨by decide, by decide⟩
    ⟨by decide, by decide, by decide, by decide⟩ htid
  have hrefused : fresh.perform (.commit ⟨.after 0 0, who, Tx.ofKind .commit⟩) = ([], fresh) := rfl
  have hcommit : (fresh.perform (.commit ⟨.after 0 0, who, cleared⟩)).1
      = [cleared.withTid (some tid)] := by
    simp only [perform, Host.commit, hcheck, hrecord]
  have haccepted : (fresh.performAll (clearing who)).1 = [cleared.withTid (some tid)] := by
    simp only [clearing, performAll, hrefused, hcommit]
    rfl
  have hone : [cleared.withTid (some tid)].filter (·.touches (.ofWord 1))
      = [cleared.withTid (some tid)] := rfl
  obtain ⟨hlog, -, -, haddressed⟩ := log_performAll hnew (clearing who) (.ofWord 1)
  rw [haccepted, hone] at hlog
  rw [hlog] at haddressed
  exact ⟨who, tid, hnew, hlog, haddressed _ List.mem_cons_self⟩

end Host

end CellSync
