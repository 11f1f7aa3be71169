/-
Both ends of a login agree on how it ends.

The attempt that a loopback makes is two rounds, in each of which both
sides handle what the other has written. It is a session that has come
to its end (`Session.attempt`): what is heard arrives in steps, and a
client that has answered its challenge has nothing more to say, so after
two rounds nothing is under way. Wherever a session stands, the client's
verdict is what the host has made of the login (`agreement`).
-/
import CellSync.Proofs.Login.Session

namespace CellSync

-- =============================================================== hearing

theorem Bytes.extract_of_size_le {b : ByteArray} {start stop : Nat} (h : b.size ≤ stop) :
    b.extract start stop = b.extract start b.size := by
  have hcut : (b.extract 0 b.size).extract start stop = b.extract start b.size := by
    rw [ByteArray.extract_extract, Nat.zero_add, Nat.zero_add, Nat.min_eq_right h]
  rwa [ByteArray.extract_zero_size] at hcut

/-- The pieces from a place on, none of them empty, are what is left from there. -/
theorem Read.exists_pieces (bs : ByteArray) (n start : Nat)
    (hmore : ∀ i < n, start + i * chunkSize < bs.size) (hall : bs.size ≤ start + n * chunkSize) :
    ∃ chunks : List ByteArray, pieces bs n start = chunks.map .bytes
      ∧ (∀ chunk ∈ chunks, chunk.size ≠ 0)
      ∧ chunks.foldr (· ++ ·) .empty = bs.extract start bs.size := by
  have hchunk : chunkSize = 8192 := rfl
  rw [hchunk] at hmore hall
  induction n generalizing start with
  | zero =>
      refine ⟨[], rfl, nofun, (ByteArray.extract_eq_empty_iff.mpr ?_).symm⟩
      omega
  | succ n ih =>
      have hstart := hmore 0 (Nat.succ_pos n)
      have hrest : ∀ i < n, start + 8192 + i * 8192 < bs.size := by
        intro i hi
        have hnext := hmore (i + 1) (by omega)
        omega
      obtain ⟨chunks, hpieces, hsome, hjoined⟩ := ih (start + 8192) hrest (by omega)
      refine ⟨bs.extract start (start + 8192) :: chunks, ?_, ?_, ?_⟩
      · rw [pieces, hchunk, hpieces, List.map_cons]
      · refine List.forall_mem_cons.mpr ⟨?_, hsome⟩
        rw [ByteArray.size_extract]
        omega
      · rw [List.foldr_cons, hjoined, ByteArray.extract_append_extract,
          Nat.min_eq_left (Nat.le_add_right _ _), Bytes.extract_of_size_le (Nat.le_max_right _ _)]

/-- Some bytes are read in pieces, none of them empty. -/
theorem Read.exists_chunks {bs : ByteArray} (h : bs.size ≠ 0) :
    ∃ chunks : List ByteArray, ofBytes bs = chunks.map .bytes
      ∧ (∀ chunk ∈ chunks, chunk.size ≠ 0) ∧ chunks.foldr (· ++ ·) .empty = bs := by
  have hchunk : chunkSize = 8192 := rfl
  have hpieces : max 1 ((bs.size + chunkSize - 1) / chunkSize) = (bs.size + 8191) / 8192 := by
    rw [hchunk]
    omega
  rw [ofBytes, hpieces]
  obtain ⟨chunks, hread, hsome, hjoined⟩ := exists_pieces bs ((bs.size + 8191) / 8192) 0
    (by rw [hchunk]; omega) (by rw [hchunk]; omega)
  rw [ByteArray.extract_zero_size] at hjoined
  exact ⟨chunks, hread, hsome, hjoined⟩

namespace Login

namespace Dialogue

/-- What a piece of what is under way preserves, hearing all of it preserves, and none
of it is left unread. -/
theorem hear_induct {τ : Type} (side : Side τ) {P : ByteArray → Exchange τ → Prop}
    (hopen : ∀ rest x, P rest x → rest.size ≠ 0 → x.result = none)
    (hfeed : ∀ chunk rest x, P (chunk ++ rest) x → chunk.size ≠ 0 →
      P rest (x.feed side (.bytes chunk) 0))
    {bytes : ByteArray} {x : Exchange τ} (h : P bytes x) :
    P .empty (hear side x bytes).1 ∧ (hear side x bytes).2 = false := by
  unfold hear
  split
  next hempty =>
    rw [ByteArray.size_eq_zero_iff.mp hempty] at h
    exact ⟨h, rfl⟩
  next hsome =>
    obtain ⟨chunks, hread, hchunks, rfl⟩ := Read.exists_chunks hsome
    rw [hread, List.foldl_map]
    clear hread hsome
    induction chunks generalizing x with
    | nil => exact ⟨h, rfl⟩
    | cons chunk chunks ih =>
        obtain ⟨hchunk, hrest⟩ := List.forall_mem_cons.mp hchunks
        have hlistens : ¬x.result.isSome = true := by
          rw [hopen _ x h (by rw [List.foldr_cons, ByteArray.size_append]; omega)]
          exact Bool.false_ne_true
        rw [List.foldl_cons]
        dsimp only
        rw [if_neg hlistens]
        exact ih hrest (hfeed _ _ _ h hchunk)

end Dialogue

-- =============================================================== attempts

namespace Client

/-- A client that is later another: it has said nothing since, or it has answered its
challenge. -/
def Follows (x₀ x : Exchange Phase) : Prop :=
  (x.sink = x₀.sink ∧ x.state = x₀.state) ∨ (x₀.state = .challenge ∧ x.state = .verdict)

variable {user : String} {respond : Responder} {x₀ x y : Exchange Phase}

theorem Follows.trans (h : Follows x₀ x) (hlater : Follows x y) : Follows x₀ y := by
  rcases h with ⟨hsink, hsame⟩ | ⟨hasked, hanswered⟩
  · rcases hlater with ⟨hsink', hsame'⟩ | ⟨hasked', hanswered'⟩
    · exact .inl ⟨hsink'.trans hsink, hsame'.trans hsame⟩
    · exact .inr ⟨hsame.symm.trans hasked', hanswered'⟩
  · rcases hlater with ⟨-, hsame'⟩ | ⟨hasked', -⟩
    · exact .inr ⟨hasked, hsame'.trans hanswered⟩
    · cases hanswered.symm.trans hasked'

theorem react_cases (user : String) (respond : Responder) (phase : Phase) (m : Message) :
    ((react user respond phase m).reply = none ∧ (react user respond phase m).state = phase)
      ∨ (phase = .challenge ∧ (react user respond phase m).state = .verdict) := by
  cases phase with
  | challenge =>
      cases m with
      | challenge => exact .inr ⟨rfl, rfl⟩
      | claim | response | checkpoint | failed => exact .inl ⟨rfl, rfl⟩
  | verdict => cases m <;> exact .inl ⟨rfl, rfl⟩

theorem follows_of_trace {limits : TxConfig} {timeout : Nat} {turns : List Turn}
    (h : Exchange.Trace ⟨limits, timeout, react user respond⟩ x₀ turns x) : Follows x₀ x := by
  induction h with
  | start => exact .inl ⟨rfl, rfl⟩
  | read _ _ _ ih | stray _ _ _ _ ih | cut _ _ _ _ ih => exact ih
  | @turn turns x reader tx m before hopen hpoll hmessage ih =>
      refine ih.trans ?_
      rcases react_cases user respond x.state m with ⟨hreply, hphase⟩ | ⟨hphase, hverdict⟩
      · rw [handle_silent (b := { x with reader := reader }) hopen rfl hreply]
        exact .inl ⟨rfl, hphase⟩
      · rw [Follows, Exchange.state_handle _ (x := { x with reader := reader }) hopen m]
        exact .inr ⟨hphase, hverdict⟩

end Client

variable {σ : Type} {s : Setting σ} {v : Visitor} {state : Host.State σ}
  {spoken heard : ByteArray} {d : Dialogue σ}

theorem Standing.host_open (h : Standing s v state spoken heard d)
    (hsent : d.client.sink.accepted.size ≠ 0) : d.host.result = none := by
  obtain ⟨-, -, -, byVisitor, byHost, hstage, -, -⟩ := h
  cases hstage with
  | claiming _ _ _ hway | responding _ _ hway => exact hway.waits
  | challenged _ _ _ hway | judged _ _ hway =>
      rw [hway.quiet] at hsent
      exact absurd rfl hsent
  | settled _ _ _ _ _ _ hclientSent =>
      rw [hclientSent] at hsent
      exact absurd rfl hsent

theorem Standing.client_open (h : Standing s v state spoken heard d)
    (hsent : d.host.sink.accepted.size ≠ 0) : d.client.result = none := by
  obtain ⟨-, -, -, byVisitor, byHost, hstage, -, -⟩ := h
  cases hstage with
  | challenged _ _ _ hway | judged _ _ hway => exact hway.waits
  | claiming _ _ _ hway | responding _ _ hway =>
      rw [hway.quiet] at hsent
      exact absurd rfl hsent
  | settled _ _ _ _ _ hhostSent =>
      rw [hhostSent] at hsent
      exact absurd rfl hsent

/-- An attempt with nothing under way has come to its end. -/
theorem Standing.exists_verdict (h : Standing s v state spoken heard d)
    (hhost : d.host.sink.accepted = .empty) (hclient : d.client.sink.accepted = .empty) :
    ∃ verdict, d.client.result = some verdict := by
  obtain ⟨-, -, -, byVisitor, byHost, hstage, -, -⟩ := h
  cases hstage with
  | claiming _ _ _ hway | responding _ _ hway =>
      exact absurd (congrArg ByteArray.size hclient) hway.more
  | challenged _ _ _ hway | judged _ _ hway =>
      exact absurd (congrArg ByteArray.size hhost) hway.more
  | settled _ _ hresult => exact ⟨_, hresult⟩

/-- The host hears all that is under way. -/
theorem Session.hearHost (h : Session s v state spoken heard d) :
    (∃ spoken, Session s v state spoken heard
      { d with host := (Dialogue.hear (s.rules v).host d.host d.client.sink.accepted).1,
               client := d.client.left .empty })
      ∧ (Dialogue.hear (s.rules v).host d.host d.client.sink.accepted).2 = false := by
  refine Dialogue.hear_induct (s.rules v).host
    (P := fun rest x => ∃ spoken, Session s v state spoken heard
      { d with host := x, client := d.client.left rest }) ?_ ?_ ⟨spoken, h⟩
  · rintro rest x ⟨spoken, hsession⟩ hrest
    exact (standing_of_session hsession).host_open hrest
  · rintro chunk rest x ⟨spoken, hsession⟩ hchunk
    have hsent : (chunk ++ rest).size ≠ 0 := by
      rw [ByteArray.size_append]
      omega
    have hnext := hsession.step
      (.toHost 0 ((standing_of_session hsession).host_open hsent) rfl hchunk)
    rw [ByteArray.append_empty] at hnext
    exact ⟨_, hnext⟩

/-- The client hears all that is under way. -/
theorem Session.hearClient (h : Session s v state spoken heard d) :
    (∃ heard, Session s v state spoken heard
      { d with host := d.host.left .empty,
               client := (Dialogue.hear (s.rules v).client d.client d.host.sink.accepted).1 })
      ∧ Client.Follows d.client
          (Dialogue.hear (s.rules v).client d.client d.host.sink.accepted).1 := by
  refine (Dialogue.hear_induct (s.rules v).client
    (P := fun rest x => (∃ heard, Session s v state spoken heard
      { d with host := d.host.left rest, client := x }) ∧ Client.Follows d.client x)
    ?_ ?_ ⟨⟨heard, h⟩, .inl ⟨rfl, rfl⟩⟩).1
  · rintro rest x ⟨⟨heard, hsession⟩, -⟩ hrest
    exact (standing_of_session hsession).client_open hrest
  · rintro chunk rest x ⟨⟨heard, hsession⟩, hfollows⟩ hchunk
    have hsent : (chunk ++ rest).size ≠ 0 := by
      rw [ByteArray.size_append]
      omega
    have hnext := hsession.step
      (.toClient 0 ((standing_of_session hsession).client_open hsent) rfl hchunk)
    rw [ByteArray.append_empty] at hnext
    obtain ⟨turns, htrace⟩ := Exchange.trace_feed (.bytes chunk) 0
      (@Exchange.Trace.start _ (s.rules v).client x)
    exact ⟨⟨_, hnext⟩, hfollows.trans (Client.follows_of_trace htrace)⟩

theorem Dialogue.round_eq (rules : Rules σ) (d : Dialogue σ) :
    d.round rules = ⟨(hear rules.host d.host d.client.sink.accepted).1.left .empty,
      (hear rules.client (d.client.left .empty)
        (hear rules.host d.host d.client.sink.accepted).1.sink.accepted).1,
      d.unread || (hear rules.host d.host d.client.sink.accepted).2⟩ := rfl

/-- A round is a part of a session. After it nothing of the host's is under way. -/
theorem Session.round (h : Session s v state spoken heard d) :
    (∃ spoken heard, Session s v state spoken heard (d.round (s.rules v)))
      ∧ (d.round (s.rules v)).host.sink.accepted = .empty
      ∧ Client.Follows (d.client.left .empty) (d.round (s.rules v)).client := by
  obtain ⟨⟨spoken', hsession⟩, hread⟩ := h.hearHost
  obtain ⟨⟨heard', hround⟩, hfollows⟩ := hsession.hearClient
  rw [Dialogue.round_eq, hread, Bool.or_false]
  exact ⟨⟨spoken', heard', hround⟩, rfl, hfollows⟩

theorem Exchange.left_of_silent {τ : Type} {x : Exchange τ} (h : x.sink.accepted = .empty) :
    x.left .empty = x := by
  rw [left, ← h]

/-- With nothing under way a round does nothing. -/
theorem Dialogue.round_of_silent (rules : Rules σ) (hhost : d.host.sink.accepted = .empty)
    (hclient : d.client.sink.accepted = .empty) : d.round rules = d := by
  have hear_empty : ∀ {τ : Type} (side : Side τ) (x : Exchange τ),
      hear side x .empty = (x, false) := fun _ _ => rfl
  rw [round_eq, hclient, hear_empty]
  dsimp only
  rw [hhost, hear_empty, Bool.or_false, Exchange.left_of_silent hhost,
    Exchange.left_of_silent hclient]

/-- The attempt that a loopback makes is a session that has come to its end. -/
theorem Session.attempt (h : Session s v state spoken heard d) :
    ∃ spoken heard verdict, Session s v state spoken heard (d.attempt (s.rules v))
      ∧ (d.attempt (s.rules v)).client.result = some verdict := by
  obtain ⟨⟨spoken₁, heard₁, hfirst⟩, hhost₁, hfollows₁⟩ := h.round
  obtain ⟨⟨spoken₂, heard₂, hsecond⟩, hhost₂, hfollows₂⟩ := hfirst.round
  rw [Dialogue.attempt]
  dsimp only
  generalize d.round (s.rules v) = d₁ at *
  have hclient₂ : (d₁.round (s.rules v)).client.sink.accepted = .empty := by
    rcases hfollows₂ with ⟨hsink₂, -⟩ | ⟨hasked, -⟩
    · rw [hsink₂]
      rfl
    · -- The client has its challenge still to answer, so it said nothing in the first round.
      rcases hfollows₁ with ⟨hsink₁, -⟩ | ⟨-, hanswered⟩
      · have hclient₁ : d₁.client.sink.accepted = .empty := by rw [hsink₁]; rfl
        rw [Dialogue.round_of_silent _ hhost₁ hclient₁, hclient₁]
      · cases hasked.symm.trans hanswered
  obtain ⟨verdict, hresult⟩ := (standing_of_session hsecond).exists_verdict hhost₂ hclient₂
  have hdone : (d₁.round (s.rules v)).client.feed (s.rules v).client
      (d₁.round (s.rules v)).ending 0 = (d₁.round (s.rules v)).client := by
    rw [Exchange.feed, hresult]
    rfl
  rw [hdone]
  exact ⟨spoken₂, heard₂, verdict, hsecond, hresult⟩

-- ============================================================== agreement

/-- Both ends of a login agree, whatever the host knows and issues, whatever the
visitors claim and answer, however the streams cut what is written, and in each of
any number of attempts. An attempt ends: while the client has no verdict there is
something to deliver, and no more than what is said. The client is let in exactly
when the host has let it in, with the same checkpoint; otherwise it is refused with
the code and the reason of the failure that the host has written last. A named user
who answers with the secret that the host has for this user is let in. -/
theorem agreement (h : Session s v state spoken heard d) :
    (d.client.result = none → ∃ toHost toClient d', 0 < toHost.size + toClient.size
        ∧ Step (s.rules v) d toHost toClient d')
      ∧ spoken.size + heard.size ≤ (written (v.talk s.react state).byVisitor).size
          + (written (v.talk s.react state).byHost).size
      ∧ ∀ verdict, d.client.result = some verdict →
          (∀ checkpoint, verdict = .ok checkpoint ↔ d.host.result = some (.ok checkpoint))
          ∧ (∀ error, verdict = .error error → ∃ before code reason,
              error = .rejected code reason
                ∧ heard = written (before ++ [.failed code reason]))
          ∧ (∀ (credentials : Credentials) (secret : Secret),
              s.verifier = credentials.verifier →
              credentials.users.lookup v.claim.userId = some secret →
              v.respond = secret.respond → Host.Named v.claim →
              ∃ checkpoint, verdict = .ok checkpoint) := by
  have hstanding := standing_of_session h
  refine ⟨hstanding.progress, hstanding.bounded, fun verdict hresult => ?_⟩
  obtain ⟨_, before, reply, htalk, hverdict, -, hheard, -⟩ := hstanding.settled hresult
  refine ⟨hverdict.ok_iff, ?_, ?_⟩
  · intro error herror
    obtain ⟨code, reason, hrejected, hreply⟩ := hverdict.failed_of_error herror
    rw [hreply] at hheard
    exact ⟨before, code, reason, hrejected, hheard⟩
  · intro credentials secret hverifier hlookup hrespond hnamed
    obtain ⟨before', checkpoint, hsaid⟩ := exists_checkpoint s.store
      s.maxAttempts hstanding.phase hnamed hlookup hrespond
    rw [← hverifier] at hsaid
    have hlast : before ++ [reply] = before' ++ [.checkpoint checkpoint] :=
      (congrArg Talk.byHost htalk).symm.trans hsaid
    have hreply : reply = .checkpoint checkpoint :=
      List.singleton_inj.mp (List.append_inj' hlast rfl).2
    rw [hreply] at hverdict
    exact ⟨checkpoint, hverdict.ok_of_checkpoint⟩

/-- A host that knows one user. -/
def guarded : Setting CheckpointTable where
  verifier := (({} : Credentials).withUser "ana" "s3cret").verifier
  store := CheckpointTable.store
  maxAttempts := 3
  hostWriter := ({} : Config).limits {}
  hostReader := ({} : Config).limits {}
  hostTimeout := ({} : Config).timeout
  clientWriter := ({} : Config).limits {}
  clientReader := ({} : Config).limits {}
  clientTimeout := ({} : Config).timeout
  hostTimeout_ne := by decide
  clientTimeout_ne := by decide

/-- That user. -/
def ana : Visitor := ⟨⟨"ana", "", "", "", none⟩, (Secret.ofText "s3cret").respond⟩

/-- The two, when the user has claimed. -/
def opening : Dialogue CheckpointTable where
  host := Host.start {} ⟨fun _ => 0, 0⟩ ⟨guarded.hostReader, .empty⟩ {}
  client := Client.start ana.claim guarded.clientWriter ⟨guarded.clientReader, .empty⟩ {}

/-- The login of that user ends well on both sides. -/
theorem agreement_ana :
    ∃ spoken heard checkpoint,
      Session guarded ana ⟨.claim, 0, {}, ⟨fun _ => 0, 0⟩⟩ spoken heard
        (opening.attempt (guarded.rules ana))
      ∧ (opening.attempt (guarded.rules ana)).client.result = some (.ok checkpoint)
      ∧ (opening.attempt (guarded.rules ana)).host.result = some (.ok checkpoint) := by
  have hroomy : Roomy (({} : Config).limits {}) := roomy_limits (by decide)
  have hsuits := Setting.suits (s := guarded) rfl ⟨hroomy, hroomy⟩ ⟨hroomy, hroomy⟩
    ⟨.claim, 0, {}, ⟨fun _ => 0, 0⟩⟩ rfl nofun (v := ana) rfl (by decide +kernel)
  have hopening : Session guarded ana ⟨.claim, 0, {}, ⟨fun _ => 0, 0⟩⟩ .empty .empty opening :=
    .first (Sink.willing_empty _) (Sink.willing_empty _) rfl rfl hsuits
  obtain ⟨spoken, heard, verdict, hsession, hresult⟩ := hopening.attempt
  obtain ⟨hok, -, hknown⟩ := (agreement hsession).2.2 verdict hresult
  obtain ⟨checkpoint, hverdict⟩ := hknown _ _ rfl (Credentials.lookup_withUser _ _ _) rfl
    ⟨by decide, by decide⟩
  rw [hverdict] at hresult
  exact ⟨spoken, heard, checkpoint, hsession, hresult, (hok checkpoint).mp hverdict⟩

end Login

end CellSync
