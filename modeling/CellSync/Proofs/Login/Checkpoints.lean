/-
Which checkpoints are good, after any calls on a table.

A table answers by token, and an operation touches the entry of one token
and no other (`entry_perform_of_not_decides`). So the last call that decides
about a token says whether there is an entry for it, and which
(`entry_after_eq_some_iff`); this needs nothing of the tokens that were
drawn. Where none was drawn twice, only a revocation can end what an issue
began, and a checkpoint is good from its issue to the first revocation of
its token, for the user that it was issued to and nobody else
(`live_of_run`).
-/
import CellSync.Login.Checkpoints
import Mathlib.Data.List.Induction

namespace CellSync.Login.CheckpointTable

-- ================================================================== calls

/-- A call on a table. An issue comes with what is random about it. -/
inductive Call where
  | issue (claim : Claim) (entropy : Entropy)
  | validate (token user : String)
  | revoke (token : String)

/-- What a call returns. -/
inductive Answer where
  | issued (checkpoint : Checkpoint)
  | found (checkpoint : Option Checkpoint)
  | forgotten (was : Bool)
deriving DecidableEq

/-- A call, and the table after it. -/
def perform (t : CheckpointTable) : Call → Answer × CheckpointTable
  | .issue claim entropy =>
    let (checkpoint, t, _) := t.issue claim entropy
    (.issued checkpoint, t)
  | .validate token user => (.found (t.validate token user), t)
  | .revoke token =>
    let (was, t) := t.revoke token
    (.forgotten was, t)

/-- The table after some calls. -/
def after (t : CheckpointTable) (calls : List Call) : CheckpointTable :=
  calls.foldl (fun t call => (t.perform call).2) t

namespace Call

/-- The token that a call draws. -/
def drawn? : Call → Option String
  | .issue _ entropy => some (entropy.hex 32).1
  | .validate .. | .revoke _ => none

/-- Whether a call only asks. -/
def asks : Call → Bool
  | .validate .. => true
  | .issue .. | .revoke _ => false

/-- Whether a call decides about a token: it draws the token or revokes it. -/
def Decides (token : String) : Call → Prop
  | .issue _ entropy => (entropy.hex 32).1 = token
  | .validate .. => False
  | .revoke revoked => revoked = token

end Call

-- ================================================================ entries

/-- The checkpoint with a token, whoever it belongs to. -/
def entry (t : CheckpointTable) (token : String) : Option Checkpoint :=
  t.live.find? (·.token = token)

/-- What an issue makes. -/
def made (claim : Claim) (entropy : Entropy) : Checkpoint :=
  .ofUser claim.userId (entropy.hex 32).1 ((entropy.hex 32).2.hex 8).1

theorem validate_eq_some_iff (t : CheckpointTable) (token user : String)
    (checkpoint : Checkpoint) :
    t.validate token user = some checkpoint
      ↔ t.entry token = some checkpoint ∧ checkpoint.userId = user := by
  rw [validate, Option.filter_eq_some_iff, decide_eq_true_eq, entry]

theorem revoke_eq_true_iff (t : CheckpointTable) (token : String) :
    (t.revoke token).1 = true ↔ ∃ checkpoint, t.entry token = some checkpoint := by
  rw [← Option.isSome_iff_exists, entry, List.find?_isSome, revoke, List.any_eq_true]

/-- Without the checkpoints of one token, those of the others are found as before. -/
theorem find?_filter_token (live : List Checkpoint) (removed token : String) :
    (live.filter (·.token ≠ removed)).find? (·.token = token)
      = if removed = token then none else live.find? (·.token = token) := by
  rw [List.find?_filter]
  split
  next hsame =>
    rw [List.find?_eq_none]
    intro checkpoint _
    simp [hsame]
  next hother =>
    congr 1
    funext checkpoint
    by_cases htoken : checkpoint.token = token
    · simp [htoken, Ne.symm hother]
    · simp [htoken]

/-- A revocation ends the entry of its token. -/
theorem entry_perform_revoke (t : CheckpointTable) (revoked token : String) :
    (t.perform (.revoke revoked)).2.entry token
      = if revoked = token then none else t.entry token :=
  find?_filter_token t.live revoked token

/-- An issue sets the entry of the token that it draws. -/
theorem entry_perform_issue (t : CheckpointTable) (claim : Claim) (entropy : Entropy)
    (token : String) :
    (t.perform (.issue claim entropy)).2.entry token
      = if (entropy.hex 32).1 = token then some (made claim entropy) else t.entry token := by
  have hmade : (made claim entropy).token = (entropy.hex 32).1 := rfl
  change (t.live.filter (·.token ≠ (entropy.hex 32).1) ++ [made claim entropy]).find? _ = _
  rw [List.find?_append, find?_filter_token, List.find?_singleton, hmade]
  split
  next hsame => simp [hsame]
  next hother => simp [hother, entry]

/-- A call that does not decide about a token leaves its entry alone. -/
theorem entry_perform_of_not_decides (t : CheckpointTable) {token : String} {call : Call}
    (h : ¬call.Decides token) : (t.perform call).2.entry token = t.entry token := by
  cases call with
  | issue claim entropy =>
      have hother : (entropy.hex 32).1 ≠ token := h
      rw [entry_perform_issue, if_neg hother]
  | validate _ _ => rfl
  | revoke revoked =>
      have hother : revoked ≠ token := h
      rw [entry_perform_revoke, if_neg hother]

theorem entry_after_of_not_decides (t : CheckpointTable) {token : String} {calls : List Call}
    (h : ∀ call ∈ calls, ¬call.Decides token) : (t.after calls).entry token = t.entry token := by
  induction calls generalizing t with
  | nil => rfl
  | cons call calls ih =>
      obtain ⟨hcall, hcalls⟩ := List.forall_mem_cons.mp h
      calc ((t.perform call).2.after calls).entry token
          = (t.perform call).2.entry token := ih _ hcalls
        _ = t.entry token := entry_perform_of_not_decides t hcall

-- =================================================================== runs

theorem after_append (t : CheckpointTable) (calls more : List Call) :
    t.after (calls ++ more) = (t.after calls).after more := List.foldl_append

/-- A checkpoint was issued, and no later call decides about its token. -/
def Last (calls : List Call) (checkpoint : Checkpoint) : Prop :=
  ∃ before claim entropy later, calls = before ++ .issue claim entropy :: later
    ∧ checkpoint = made claim entropy ∧ ∀ call ∈ later, ¬call.Decides checkpoint.token

theorem Last.concat {calls : List Call} {checkpoint : Checkpoint} (h : Last calls checkpoint)
    {call : Call} (hcall : ¬call.Decides checkpoint.token) : Last (calls ++ [call]) checkpoint := by
  obtain ⟨before, claim, entropy, later, rfl, hmade, hlater⟩ := h
  refine ⟨before, claim, entropy, later ++ [call], List.append_assoc _ _ _, hmade, ?_⟩
  simpa only [List.forall_mem_append, List.forall_mem_singleton] using ⟨hlater, hcall⟩

/-- The last call that decides about a token says what its entry is. -/
theorem entry_after_eq_some_iff (calls : List Call) (token : String) (checkpoint : Checkpoint) :
    (({} : CheckpointTable).after calls).entry token = some checkpoint
      ↔ checkpoint.token = token ∧ Last calls checkpoint := by
  constructor
  · intro hentry
    -- By induction on the calls from the last one back, which is the one that may decide.
    induction calls using List.reverseRecOn with
    | nil => cases hentry
    | append_singleton calls call ih =>
        rw [after_append] at hentry
        by_cases hcall : call.Decides token
        · cases call with
          | issue claim entropy =>
              have hdrawn : (entropy.hex 32).1 = token := hcall
              have hmade := (entry_perform_issue _ claim entropy token).symm.trans hentry
              rw [if_pos hdrawn] at hmade
              obtain rfl := Option.some.inj hmade
              exact ⟨hdrawn, calls, claim, entropy, [], rfl, rfl, nofun⟩
          | validate _ _ => exact hcall.elim
          | revoke revoked =>
              have hrevoked : revoked = token := hcall
              have hnone := (entry_perform_revoke _ revoked token).symm.trans hentry
              rw [if_pos hrevoked] at hnone
              cases hnone
        · have hbefore := (entry_perform_of_not_decides _ hcall).symm.trans hentry
          obtain ⟨htoken, hlast⟩ := ih hbefore
          exact ⟨htoken, hlast.concat (by rwa [htoken])⟩
  · rintro ⟨rfl, before, claim, entropy, later, rfl, rfl, hlater⟩
    calc (({} : CheckpointTable).after (before ++ .issue claim entropy :: later)).entry _
        = (((({} : CheckpointTable).after before).perform (.issue claim entropy)).2.after
            later).entry (made claim entropy).token := by
          rw [after_append]
          rfl
      _ = ((({} : CheckpointTable).after before).perform (.issue claim entropy)).2.entry
            (made claim entropy).token := entry_after_of_not_decides _ hlater
      _ = some (made claim entropy) := by
          rw [entry_perform_issue]
          exact if_pos rfl

/-- What only asks may as well not be called. -/
theorem after_filter_asks (t : CheckpointTable) (calls : List Call) :
    t.after (calls.filter (!·.asks)) = t.after calls := by
  induction calls generalizing t with
  | nil => rfl
  | cons call calls ih =>
      cases call with
      | issue | revoke => exact ih _
      | validate => exact ih t

/-- In a run of calls on a new table, a checkpoint was issued to a user, and its token
was not revoked since. -/
def Live (calls : List Call) (user : String) (checkpoint : Checkpoint) : Prop :=
  ∃ before claim entropy later, calls = before ++ .issue claim entropy :: later
    ∧ claim.userId = user
    ∧ ((({} : CheckpointTable).after before).perform (.issue claim entropy)).1 = .issued checkpoint
    ∧ .revoke checkpoint.token ∉ later

theorem answer_perform_issue (t : CheckpointTable) (claim : Claim) (entropy : Entropy) :
    (t.perform (.issue claim entropy)).1 = .issued (made claim entropy) := rfl

/-- Where no token is drawn twice, only a revocation can decide about one again. -/
theorem last_iff_live {calls : List Call} (hdistinct : (calls.filterMap Call.drawn?).Nodup)
    (user : String) (checkpoint : Checkpoint) :
    Last calls checkpoint ∧ checkpoint.userId = user ↔ Live calls user checkpoint := by
  constructor
  · rintro ⟨⟨before, claim, entropy, later, hcalls, rfl, hlater⟩, huser⟩
    exact ⟨before, claim, entropy, later, hcalls, huser, rfl, fun hmem => hlater _ hmem rfl⟩
  · rintro ⟨before, claim, entropy, later, hcalls, huser, hissued, hkept⟩
    rw [answer_perform_issue] at hissued
    obtain rfl := Answer.issued.inj hissued
    refine ⟨⟨before, claim, entropy, later, hcalls, rfl, fun call hmem hcall => ?_⟩, huser⟩
    cases call with
    | issue other again =>
        have hdrawn : (entropy.hex 32).1 ∈ later.filterMap Call.drawn? :=
          List.mem_filterMap.mpr ⟨_, hmem, congrArg some hcall⟩
        have hcons : (Call.issue claim entropy :: later).filterMap Call.drawn?
            = (entropy.hex 32).1 :: later.filterMap Call.drawn? := List.filterMap_cons_some rfl
        rw [hcalls, List.filterMap_append, hcons] at hdistinct
        exact (List.nodup_cons.mp (List.nodup_append.mp hdistinct).2.1).1 hdrawn
    | validate _ _ => exact hcall
    | revoke revoked => exact hkept (hcall ▸ hmem)

/-- After any calls on a new table that never draw one token twice, asking for a token
and a user gives just the checkpoint that an issue returned with that token for that
user, if the token was not revoked since; its other identifiers are the user's. A
revocation tells whether there is such a checkpoint for anyone. Asking changes
nothing, neither now nor by having been done before. -/
theorem live_of_run (calls : List Call) (hdistinct : (calls.filterMap Call.drawn?).Nodup) :
    let table := ({} : CheckpointTable).after calls
    (∀ token user checkpoint, (table.perform (.validate token user)).1 = .found (some checkpoint)
        ↔ checkpoint.token = token ∧ Live calls user checkpoint)
      ∧ (∀ user checkpoint, Live calls user checkpoint →
          checkpoint = .ofUser user checkpoint.token checkpoint.sessionId)
      ∧ (∀ token, (table.perform (.revoke token)).1 = .forgotten true
          ↔ ∃ user checkpoint, checkpoint.token = token ∧ Live calls user checkpoint)
      ∧ (∀ token user, (table.perform (.validate token user)).2 = table)
      ∧ ({} : CheckpointTable).after (calls.filter (!·.asks)) = table := by
  intro table
  refine ⟨fun token user checkpoint => ?_, ?_, fun token => ?_, fun _ _ => rfl,
    after_filter_asks _ calls⟩
  · calc (table.perform (.validate token user)).1 = .found (some checkpoint)
        ↔ table.validate token user = some checkpoint :=
          ⟨Answer.found.inj, congrArg Answer.found⟩
      _ ↔ checkpoint.token = token ∧ Last calls checkpoint ∧ checkpoint.userId = user := by
          rw [validate_eq_some_iff, entry_after_eq_some_iff, and_assoc]
      _ ↔ _ := by rw [last_iff_live hdistinct]
  · rintro _ _ ⟨_, claim, entropy, _, _, rfl, hissued, _⟩
    rw [answer_perform_issue] at hissued
    obtain rfl := Answer.issued.inj hissued
    rfl
  · calc (table.perform (.revoke token)).1 = .forgotten true
        ↔ (table.revoke token).1 = true := ⟨Answer.forgotten.inj, congrArg Answer.forgotten⟩
      _ ↔ ∃ checkpoint, checkpoint.token = token ∧ Last calls checkpoint := by
          simp only [revoke_eq_true_iff, table, entry_after_eq_some_iff]
      _ ↔ _ := by
          constructor
          · rintro ⟨checkpoint, htoken, hlast⟩
            exact ⟨_, checkpoint, htoken, (last_iff_live hdistinct _ _).mp ⟨hlast, rfl⟩⟩
          · rintro ⟨user, checkpoint, htoken, hlive⟩
            exact ⟨checkpoint, htoken, ((last_iff_live hdistinct _ _).mpr hlive).1⟩

/-- Of two checkpoints that were issued, one is revoked: the other is good for its own
user, and the revoked one for nobody. -/
theorem live_of_run_two :
    let ana : Claim := { userId := "ana" }
    let bob : Claim := { userId := "bob" }
    let calls : List Call := [.issue ana ⟨id, 0⟩, .issue bob ⟨id, 2⟩,
      .validate (made ana ⟨id, 0⟩).token "ana", .revoke (made ana ⟨id, 0⟩).token]
    let table := ({} : CheckpointTable).after calls
    (calls.filterMap Call.drawn?).Nodup
      ∧ (table.perform (.validate (made bob ⟨id, 2⟩).token "bob")).1
          = .found (some (made bob ⟨id, 2⟩))
      ∧ (table.perform (.revoke (made bob ⟨id, 2⟩).token)).1 = .forgotten true
      ∧ ¬∃ user checkpoint, checkpoint.token = (made ana ⟨id, 0⟩).token
          ∧ Live calls user checkpoint := by
  intro ana bob calls table
  have hdistinct : (calls.filterMap Call.drawn?).Nodup := by decide +kernel
  have hother : (made ana ⟨id, 0⟩).token ≠ (made bob ⟨id, 2⟩).token := by decide +kernel
  have hkept : ∀ call ∈ calls.drop 2, call ≠ .revoke (made bob ⟨id, 2⟩).token :=
    List.forall_mem_cons.mpr ⟨nofun, List.forall_mem_singleton.mpr fun hsame =>
      hother (Call.revoke.inj hsame)⟩
  have hlive : Live calls "bob" (made bob ⟨id, 2⟩) :=
    ⟨[.issue ana ⟨id, 0⟩], bob, ⟨id, 2⟩, calls.drop 2, rfl, rfl, rfl, fun hmem => hkept _ hmem rfl⟩
  obtain ⟨hvalid, -, hrevoked, -⟩ := live_of_run calls hdistinct
  refine ⟨hdistinct, (hvalid _ _ _).mpr ⟨rfl, hlive⟩, (hrevoked _).mpr ⟨_, _, rfl, hlive⟩, ?_⟩
  rw [← hrevoked]
  decide +kernel

end CellSync.Login.CheckpointTable
