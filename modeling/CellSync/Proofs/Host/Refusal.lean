/-
What a host refuses leaves no trace.

A commit takes effect in place and in steps, and nothing takes a step back:
the directory is written, then the new identifier remembered, then the
change offered to the pins (`commitInPlace`). A pin is registered before its
backlog is loaded (`openInPlace`). That a refusal changes nothing is so
because every check comes before the first effect. The one exception is the
directory, which may fail while it is written. Whatever it does then, it
changes nothing but itself; if it leaves itself as it was, the steps are
those of a commit that happens as a whole or not at all (`on_commitInPlace`).

`CommitRefusal` and `OpenRefusal` list the points at which an operation can
fail, in the order of the checks, with all that has been found in order
before. A refused operation has failed at one of them, and an operation that
meets one of them is refused (`refused_unchanged`).
-/
import CellSync.Proofs.Host.Recording

namespace CellSync

-- ============================================================= directories

/-- A directory that is written in place: a write that fails may leave changes. -/
structure Recorder (ρ : Type) where
  resolve : ρ → Target → Except ErrorCode TagId
  load : ρ → TagId → List Tx
  write : ρ → Tx → Except ErrorCode Unit × ρ

namespace Recorder

variable {ρ : Type}

/-- The directory, as one whose writes either happen or do not. -/
def resolver (r : Recorder ρ) : Resolver ρ where
  resolve := r.resolve
  load := r.load
  record directory tx := (r.write directory tx).1.map fun _ => (r.write directory tx).2

/-- A write that fails changes nothing. -/
def Careful (r : Recorder ρ) : Prop :=
  ∀ directory tx code, (r.write directory tx).1 = .error code → (r.write directory tx).2 = directory

end Recorder

namespace Host

variable {ρ σ α β : Type}

-- ================================================================ effects

/-- A program on a host. What it has done when it fails stays done. -/
abbrev Effect (ρ σ α : Type) := ExceptT SessionError (StateM (Host ρ σ)) α

/-- The answer of a program on a host, and the host after it. -/
def Effect.on (program : Effect ρ σ α) (h : Host ρ σ) : Except SessionError α × Host ρ σ :=
  program.run.run h

/-- A check, which changes nothing. -/
def Effect.check (answer : Except SessionError α) : Effect ρ σ α := ExceptT.mk (pure answer)

/-- Writes a commit to the directory. -/
def Effect.write (r : Recorder ρ) (tx : Tx) : Effect ρ σ Unit := do
  let h ← get
  let (answer, directory) := r.write h.directory tx
  set { h with directory := directory }
  check (answer.mapError fun code => .rejected code "commit not recorded")

/-- A commit, step by step. -/
def commitInPlace (r : Recorder ρ) (clock : ClockTime) (who : Login.Checkpoint) (tx : Tx) :
    Effect ρ σ Tid := do
  let h ← get
  Effect.check (h.checkCommit who tx)
  let content ← Effect.check ((tx.withTid none).serialize.mapError .tx)
  let tid ← Effect.check
    ((Tid.successor h.last clock content).mapError fun fault => .tx (.invalidInput fault))
  let tx := tx.withTid (some tid)
  Effect.write r tx
  modify fun h => { h with last := some tid }
  modify fun h => h.mapHub fun hub => (hub.publish tx).2
  return tid

/-- The opening of a pin, step by step. -/
def openInPlace (box : OutboxId) (who : Login.Checkpoint) (contextId : UInt64)
    (request : PinRequest) : Effect ρ σ PinId := do
  let session ← Effect.check ((← get).screen who contextId request)
  let id ← modifyGet fun h => h.enroll session box
  let backlog := (← get).backlog id
  modify fun h => h.begin id backlog
  modify fun h => h.tidy id
  return id

/-- A program that looks at the host goes on with what it sees. -/
theorem on_get_bind (next : Host ρ σ → Effect ρ σ β) (h : Host ρ σ) :
    (get >>= next).on h = (next h).on h := rfl

/-- A program goes on after a check that is passed, and ends with one that is not. -/
theorem on_check_bind (answer : Except SessionError α) (next : α → Effect ρ σ β) (h : Host ρ σ) :
    (Effect.check answer >>= next).on h
      = match answer with
        | .ok a => (next a).on h
        | .error error => (.error error, h) := by
  cases answer <;> rfl

/-- Checks that follow one another are one check. -/
theorem check_bind (answer : Except SessionError α) (next : α → Except SessionError β) :
    (Effect.check (answer >>= next) : Effect ρ σ β)
      = Effect.check answer >>= fun a => Effect.check (next a) := by
  cases answer <;> rfl

/-- It goes on after a write that succeeds, and whatever a failed one leaves stays. -/
theorem on_write_bind (r : Recorder ρ) (tx : Tx) (next : Unit → Effect ρ σ β) (h : Host ρ σ) :
    (Effect.write r tx >>= next).on h
      = match r.write h.directory tx with
        | (.ok (), directory) => (next ()).on { h with directory := directory }
        | (.error code, directory) =>
          (.error (.rejected code "commit not recorded"), { h with directory := directory }) := by
  have hwrite : (Effect.write r tx >>= next).on h
      = (Effect.check ((r.write h.directory tx).1.mapError fun code =>
          .rejected code "commit not recorded") >>= next).on
          { h with directory := (r.write h.directory tx).2 } := rfl
  rw [hwrite, on_check_bind]
  rcases r.write h.directory tx with ⟨_ | _, directory⟩ <;> rfl

-- ============================================================== refusals

variable {h : Host ρ σ} {clock : ClockTime} {who : Login.Checkpoint} {tx : Tx}
  {contextId : UInt64} {request : PinRequest} {error : SessionError}

/-- What has to be in order before a commit takes effect, and the identifier that it
then gets. -/
def prepare (h : Host ρ σ) (clock : ClockTime) (who : Login.Checkpoint) (tx : Tx) :
    Except SessionError Tid := do
  h.checkCommit who tx
  let content ← (tx.withTid none).serialize.mapError .tx
  (Tid.successor h.last clock content).mapError fun fault => .tx (.invalidInput fault)

/-- The first cell of a commit that somebody may not write. -/
def forbidden? (h : Host ρ σ) (who : Login.Checkpoint) (tx : Tx) : Option TagId :=
  (tx.ops.filterMap Op.target?).find? fun cell => !h.access.canWrite who cell

/-- What is not in order of a commit, first come first, and what is said of it. -/
inductive Unready (h : Host ρ σ) (clock : ClockTime) (who : Login.Checkpoint) (tx : Tx) :
    SessionError → Prop
  | closing (hclosing : h.shuttingDown = true) : Unready h clock who tx isClosing
  | otherKind (hopen : h.shuttingDown = false) (hkind : tx.info.kind ≠ .commit) :
      Unready h clock who tx
        (.rejected .badRequest ("cannot commit a " ++ tx.info.kind.name ++ " message"))
  | useless (hopen : h.shuttingDown = false) (hkind : tx.info.kind = .commit)
      (hops : ∀ op ∈ tx.ops, op = .noOp) :
      Unready h clock who tx (.rejected .badRequest "commit has no ops")
  | forbidden {cell : TagId} (hopen : h.shuttingDown = false) (hkind : tx.info.kind = .commit)
      (huseful : ∃ op ∈ tx.ops, op ≠ .noOp) (hcell : h.forbidden? who tx = some cell) :
      Unready h clock who tx
        (.rejected .insufficientPermissions (who.userId ++ " may not write " ++ cell.encode))
  | unwritable {error : TxError} (hcheck : h.checkCommit who tx = .ok ())
      (hcontent : (tx.withTid none).serialize = .error error) : Unready h clock who tx (.tx error)
  | undated {content : ByteArray} {fault : Tid.MakeFault} (hcheck : h.checkCommit who tx = .ok ())
      (hcontent : (tx.withTid none).serialize = .ok content)
      (htid : Tid.successor h.last clock content = .error fault) :
      Unready h clock who tx (.tx (.invalidInput fault))

/-- Why a commit is refused: something is not in order, or the directory does not
take it. -/
inductive CommitRefusal (h : Host ρ σ) (clock : ClockTime) (who : Login.Checkpoint) (tx : Tx) :
    SessionError → Prop
  | unready {error : SessionError} (hunready : Unready h clock who tx error) :
      CommitRefusal h clock who tx error
  | unrecorded {tid : Tid} {code : ErrorCode} (hready : h.prepare clock who tx = .ok tid)
      (hrecord : h.resolver.record h.directory (tx.withTid (some tid)) = .error code) :
      CommitRefusal h clock who tx (.rejected code "commit not recorded")

/-- Why a pin is not opened. -/
inductive OpenRefusal (h : Host ρ σ) (who : Login.Checkpoint) (request : PinRequest) :
    SessionError → Prop
  | closing (hclosing : h.shuttingDown = true) : OpenRefusal h who request isClosing
  | invalid {code : ErrorCode} (hopen : h.shuttingDown = false)
      (hvalid : request.target.validate = .error code) :
      OpenRefusal h who request
        (.rejected code ("invalid target " ++ request.target.display))
  | unresolved {code : ErrorCode} (hopen : h.shuttingDown = false)
      (hvalid : request.target.validate = .ok ())
      (hresolve : h.resolver.resolve h.directory request.target = .error code) :
      OpenRefusal h who request
        (.rejected code ("cannot resolve " ++ request.target.display))
  | unreadable {cell : TagId} (hopen : h.shuttingDown = false)
      (hvalid : request.target.validate = .ok ())
      (hresolve : h.resolver.resolve h.directory request.target = .ok cell)
      (hread : h.access.canRead who cell = false) :
      OpenRefusal h who request
        (.rejected .insufficientPermissions
          (who.userId ++ " may not read " ++ request.target.display))

/-- What the checks of a commit find wrong is not in order. -/
theorem unready_of_checkCommit (hcheck : h.checkCommit who tx = .error error) :
    Unready h clock who tx error := by
  unfold checkCommit at hcheck
  split at hcheck
  next hclosing =>
    obtain rfl := Except.error.inj hcheck
    exact .closing hclosing
  next hopen =>
    have hrunning : h.shuttingDown = false := Bool.eq_false_iff.mpr hopen
    split at hcheck
    next hkind =>
      obtain rfl := Except.error.inj hcheck
      exact .otherKind hrunning hkind
    next hkind =>
      split at hcheck
      next hops =>
        obtain rfl := Except.error.inj hcheck
        refine .useless hrunning (not_not.mp hkind) fun op hop => ?_
        exact of_decide_eq_true (List.all_eq_true.mp hops op hop)
      next hops =>
        split at hcheck
        next cell hcell =>
          obtain rfl := Except.error.inj hcheck
          refine .forbidden hrunning (not_not.mp hkind) ?_ hcell
          simpa using hops
        next => cases hcheck

/-- What the check finds is what the commit is refused for. -/
theorem prepare_of_checkCommit (hcheck : h.checkCommit who tx = .error error) :
    h.prepare clock who tx = .error error := by
  rw [prepare, hcheck]
  rfl

/-- A commit is stopped before its first effect exactly by what is not in order. -/
theorem prepare_eq_error_iff :
    h.prepare clock who tx = .error error ↔ Unready h clock who tx error := by
  constructor
  · intro hprepare
    rcases eq_error_of_bind hprepare with hcheck | ⟨⟨⟩, hcheck, hrest⟩
    · exact unready_of_checkCommit hcheck
    · rcases eq_error_of_bind hrest with hcontent | ⟨content, hcontent, htid⟩
      · obtain ⟨fault, hfault, rfl⟩ := mapError_eq_error hcontent
        exact .unwritable hcheck hfault
      · obtain ⟨fault, hfault, rfl⟩ := mapError_eq_error htid
        exact .undated hcheck (mapError_eq_ok hcontent) hfault
  · intro hunready
    cases hunready with
    | closing hclosing => exact prepare_of_checkCommit (if_pos hclosing)
    | otherKind hopen hkind =>
        apply prepare_of_checkCommit
        simp [checkCommit, hopen, hkind]
    | useless hopen hkind hops =>
        apply prepare_of_checkCommit
        have hall : tx.ops.all (· = .noOp) = true := by simpa using hops
        simp [checkCommit, hopen, hkind, hall]
    | forbidden hopen hkind huseful hcell =>
        apply prepare_of_checkCommit
        have hops : ¬tx.ops.all (· = .noOp) = true := by simpa using huseful
        unfold forbidden? at hcell
        simp [checkCommit, hopen, hkind, hops, hcell]
    | unwritable hcheck hcontent =>
        rw [prepare, hcheck, hcontent]
        rfl
    | undated hcheck hcontent htid =>
        rw [prepare, hcheck, hcontent]
        dsimp only [bind, Except.bind, Except.mapError]
        rw [htid]

/-- A commit that is in order takes effect, and is refused only by the directory. -/
theorem commit_eq (h : Host ρ σ) (clock : ClockTime) (who : Login.Checkpoint) (tx : Tx) :
    h.commit clock who tx = match h.prepare clock who tx with
      | .error error => (.error error, h)
      | .ok tid =>
        match h.resolver.record h.directory (tx.withTid (some tid)) with
        | .error code => (.error (.rejected code "commit not recorded"), h)
        | .ok directory =>
          (.ok tid, ({ h with directory := directory, last := some tid } : Host ρ σ).mapHub
            fun hub => (hub.publish (tx.withTid (some tid))).2) := by
  unfold commit prepare recordCommit
  dsimp only [bind, Except.bind, Except.mapError]
  cases h.checkCommit who tx with
  | error error => rfl
  | ok =>
      cases (tx.withTid none).serialize with
      | error error => rfl
      | ok content =>
          dsimp only
          cases Tid.successor h.last clock content with
          | error fault => rfl
          | ok tid =>
              dsimp only
              cases h.resolver.record h.directory (tx.withTid (some tid)) <;> rfl

/-- The steps of a commit, with what a failed write leaves behind. -/
theorem on_commitInPlace_eq (r : Recorder ρ) (h : Host ρ σ) (clock : ClockTime)
    (who : Login.Checkpoint) (tx : Tx) :
    (commitInPlace r clock who tx).on h = match h.prepare clock who tx with
      | .error error => (.error error, h)
      | .ok tid =>
        match r.write h.directory (tx.withTid (some tid)) with
        | (.error code, directory) =>
          (.error (.rejected code "commit not recorded"), { h with directory := directory })
        | (.ok (), directory) =>
          (.ok tid, ({ h with directory := directory, last := some tid } : Host ρ σ).mapHub
            fun hub => (hub.publish (tx.withTid (some tid))).2) := by
  have hsteps : (commitInPlace r clock who tx).on h
      = (Effect.check (h.prepare clock who tx) >>= fun tid => do
          Effect.write r (tx.withTid (some tid))
          modify fun h => { h with last := some tid }
          modify fun h => h.mapHub fun hub => (hub.publish (tx.withTid (some tid))).2
          return tid).on h := by
    unfold commitInPlace prepare
    simp only [on_get_bind, check_bind, bind_assoc]
  rw [hsteps, on_check_bind]
  cases h.prepare clock who tx with
  | error error => rfl
  | ok tid =>
      dsimp only
      rw [on_write_bind]
      rcases r.write h.directory (tx.withTid (some tid)) with ⟨_ | _, directory⟩ <;> rfl

/-- With a directory that is left as it was by a write that fails, the steps of a commit
are the whole commit. -/
theorem on_commitInPlace {r : Recorder ρ} (hcareful : r.Careful) (hresolver : h.resolver = r.resolver)
    (clock : ClockTime) (who : Login.Checkpoint) (tx : Tx) :
    (commitInPlace r clock who tx).on h = h.commit clock who tx := by
  rw [on_commitInPlace_eq, commit_eq]
  cases h.prepare clock who tx with
  | error error => rfl
  | ok tid =>
      have hkept := hcareful h.directory (tx.withTid (some tid))
      have hrecord : h.resolver.record h.directory (tx.withTid (some tid))
          = (r.write h.directory (tx.withTid (some tid))).1.map fun _ =>
              (r.write h.directory (tx.withTid (some tid))).2 := by
        rw [hresolver]
        rfl
      dsimp only
      rw [hrecord]
      generalize r.write h.directory (tx.withTid (some tid)) = written at hkept ⊢
      rcases written with ⟨code | _, directory⟩
      · have hsame : directory = h.directory := hkept code rfl
        rw [hsame]
        rfl
      · rfl

/-- Opening a pin step by step comes to the same as the operation. -/
theorem on_openInPlace (h : Host ρ σ) (box : OutboxId) (who : Login.Checkpoint)
    (contextId : UInt64) (request : PinRequest) :
    (openInPlace box who contextId request).on h = h.openPin box who contextId request := by
  unfold openInPlace openPin
  rw [on_get_bind, on_check_bind]
  cases h.screen who contextId request <;> rfl

/-- A commit is refused exactly for one of the reasons, and then the host is as it was. -/
theorem commit_eq_error_iff {h' : Host ρ σ} :
    h.commit clock who tx = (.error error, h')
      ↔ h' = h ∧ CommitRefusal h clock who tx error := by
  rw [commit_eq]
  constructor
  · intro hcommit
    split at hcommit
    next _ hprepare =>
      obtain ⟨herror, hsame⟩ := Prod.mk.inj hcommit
      obtain rfl := Except.error.inj herror
      exact ⟨hsame.symm, .unready (prepare_eq_error_iff.mp hprepare)⟩
    next tid hprepare =>
      split at hcommit
      next _ hrecord =>
        obtain ⟨herror, hsame⟩ := Prod.mk.inj hcommit
        obtain rfl := Except.error.inj herror
        exact ⟨hsame.symm, .unrecorded hprepare hrecord⟩
      next => cases hcommit
  · rintro ⟨rfl, hunready | ⟨hready, hrecord⟩⟩
    · rw [prepare_eq_error_iff.mpr hunready]
    · rw [hready]
      dsimp only
      rw [hrecord]

/-- A request is screened out exactly for one of the reasons. -/
theorem screen_eq_error_iff :
    h.screen who contextId request = .error error ↔ OpenRefusal h who request error := by
  constructor
  · intro hscreen
    unfold screen at hscreen
    dsimp only at hscreen
    split at hscreen
    next hclosing =>
      obtain rfl := Except.error.inj hscreen
      exact .closing hclosing
    next hflag =>
      have hopen : h.shuttingDown = false := Bool.eq_false_iff.mpr hflag
      cases hvalid : request.target.validate with
      | error code =>
          rw [hvalid] at hscreen
          obtain rfl := Except.error.inj hscreen
          exact .invalid hopen hvalid
      | ok =>
          rw [hvalid] at hscreen
          dsimp only at hscreen
          split at hscreen
          next code hresolve =>
            obtain rfl := Except.error.inj hscreen
            exact .unresolved hopen hvalid hresolve
          next cell hresolve =>
            split at hscreen
            next hread =>
              obtain rfl := Except.error.inj hscreen
              exact .unreadable hopen hvalid hresolve (by simpa using hread)
            next => cases hscreen
  · rintro (hclosing | ⟨hopen, hvalid⟩ | ⟨hopen, hvalid, hresolve⟩ | ⟨hopen, hvalid, hresolve, hread⟩)
    · simp [screen, hclosing]
      rfl
    · simp [screen, hopen, hvalid]
      rfl
    · simp [screen, hopen, hvalid, hresolve]
      rfl
    · simp [screen, hopen, hvalid, hresolve, hread]
      rfl

/-- A pin is refused exactly for one of them, and then the host is as it was. -/
theorem openPin_eq_error_iff {box : OutboxId} {h' : Host ρ σ} :
    h.openPin box who contextId request = (.error error, h')
      ↔ h' = h ∧ OpenRefusal h who request error := by
  unfold openPin
  constructor
  · intro hpin
    split at hpin
    next _ hscreen =>
      obtain ⟨herror, hsame⟩ := Prod.mk.inj hpin
      obtain rfl := Except.error.inj herror
      exact ⟨hsame.symm, screen_eq_error_iff.mp hscreen⟩
    next => cases hpin
  · rintro ⟨rfl, hrefusal⟩
    rw [screen_eq_error_iff.mpr hrefusal]

/-- A commit that fails step by step leaves everything but the directory as it was, for
any directory. If a failed write leaves that as it was too, the steps are the whole
commit, and a commit is refused just if something is not in order or the directory does
not take it, and leaves the host as it was. The steps that open a pin are the whole
opening. A pin is refused just if the host is closing, the target is not valid or not
found, or its cell may not be read, and that leaves the host as it was. The host is all
of it: log, last identifier, index, sessions and mailboxes. -/
theorem refused_unchanged (r : Recorder ρ) (h : Host ρ σ) :
    (∀ clock who tx error h', (commitInPlace r clock who tx).on h = (.error error, h') →
        ∃ directory, h' = { h with directory := directory })
      ∧ (r.Careful → h.resolver = r.resolver → ∀ clock who tx,
          (commitInPlace r clock who tx).on h = h.commit clock who tx
            ∧ ∀ error h', h.commit clock who tx = (.error error, h')
                ↔ h' = h ∧ CommitRefusal h clock who tx error)
      ∧ ∀ box who contextId request,
          (openInPlace box who contextId request).on h = h.openPin box who contextId request
            ∧ ∀ error h', h.openPin box who contextId request = (.error error, h')
                ↔ h' = h ∧ OpenRefusal h who request error := by
  refine ⟨fun clock who tx error h' hrefused => ?_, fun hcareful hresolver clock who tx => ?_,
    fun box who contextId request => ?_⟩
  · rw [on_commitInPlace_eq] at hrefused
    split at hrefused
    · exact ⟨h.directory, (Prod.mk.inj hrefused).2.symm⟩
    · split at hrefused
      next directory _ => exact ⟨directory, (Prod.mk.inj hrefused).2.symm⟩
      next => cases hrefused
  · exact ⟨on_commitInPlace hcareful hresolver clock who tx, fun _ _ => commit_eq_error_iff⟩
  · exact ⟨on_openInPlace h box who contextId request, fun _ _ => openPin_eq_error_iff⟩

/-- A directory in memory with room for some cells. One that is full takes no more
commits. -/
def roomFor (cells : Nat) : Recorder Directory where
  resolve := Directory.resolve
  load := Directory.load
  write directory tx :=
    if directory.cellCount < cells then (.ok (), directory.record tx)
    else (.error .internalErr, directory)

/-- A directory with little room is careful too. -/
theorem careful_roomFor (cells : Nat) : (roomFor cells).Careful := by
  intro directory tx code hfailed
  unfold roomFor at hfailed ⊢
  dsimp only at hfailed ⊢
  split at hfailed
  next => cases hfailed
  next hfull => rw [if_neg hfull]

/-- With a full directory a commit is refused that nothing else stands against, and so is
a pin on what is not in it. -/
theorem refused_unchanged_full : ∃ who tid,
    let full : Host Directory Login.CheckpointTable := { fresh with resolver := (roomFor 0).resolver }
    (roomFor 0).Careful ∧ full.resolver = (roomFor 0).resolver
      ∧ full.prepare (.after 0 0) who cleared = .ok tid
      ∧ full.commit (.after 0 0) who cleared
          = (.error (.rejected .internalErr "commit not recorded"), full)
      ∧ full.openPin 0 who 7 ⟨.tag "room", [], .maintain⟩
          = (.error (.rejected .cellNotFound "cannot resolve tag:room"), full) := by
  let who : Login.Checkpoint := ⟨"token", "session", "member", "feed", "user"⟩
  let full : Host Directory Login.CheckpointTable := { fresh with resolver := (roomFor 0).resolver }
  obtain ⟨tid, htid⟩ := Tid.exists_successor (Frame.bytes (cleared.withTid none))
  have hcontent : (cleared.withTid none).serialize = .ok (Frame.bytes (cleared.withTid none)) :=
    Frame.encode_eq_ok_iff.mpr ⟨⟨by decide, by decide⟩,
      ⟨by decide, by decide, by decide, by decide⟩, rfl⟩
  have hready : full.prepare (.after 0 0) who cleared = .ok tid := by
    have hcheck : full.checkCommit who cleared = .ok () := rfl
    have hlast : full.last = none := rfl
    unfold prepare
    rw [hcheck, hcontent, hlast]
    dsimp only [bind, Except.bind, Except.mapError]
    rw [htid]
  obtain ⟨-, hcommit, hpin⟩ := refused_unchanged (roomFor 0) full
  refine ⟨who, tid, careful_roomFor 0, rfl, hready, ?_, ?_⟩
  · exact ((hcommit (careful_roomFor 0) rfl _ who cleared).2 _ _).mpr ⟨rfl, .unrecorded hready rfl⟩
  · exact ((hpin 0 who 7 _).2 _ _).mpr ⟨rfl, .unresolved rfl rfl rfl⟩

end Host

end CellSync
