/-
What the two sides of a login say to each other, message by message.

`Visitor.talk` is an attempt in which all is heard that is said: a claim
and its answer or, if that is a challenge, a response and its answer.
The last answer is a `Verdict`: a checkpoint or a failure, which the
client takes as what the host made of the login. A visitor who answers
with the secret that the host has for the user is let in
(`exists_checkpoint`).
-/
import CellSync.Login.Client
import CellSync.Proofs.Login.Host
import CellSync.Proofs.Octets.Text

namespace CellSync.Login

variable {σ : Type} {verifier : Verifier} {store : CheckpointStore σ} {maxAttempts : Nat}

/-- One who tries to log in: what is claimed, and how a challenge is answered. -/
structure Visitor where
  claim : Claim
  respond : Client.Responder

/-- What is said in an attempt by each side, and what the host has come to. -/
structure Talk (σ : Type) where
  byVisitor : List Message
  byHost : List Message
  state : Host.State σ
  result : Option (Except SessionError Checkpoint)

namespace Visitor

/-- The answer to a challenge. -/
def response (v : Visitor) (c : Challenge) : Message :=
  .response ⟨c.correlationId, v.respond v.claim.userId c.nonce⟩

/-- An attempt in which all is heard that is said. -/
def talk (v : Visitor) (react : React (Host.State σ)) (state : Host.State σ) : Talk σ :=
  let first := react state (.claim v.claim)
  match first.reply with
  | some (.challenge c) =>
    let second := react first.state (v.response c)
    ⟨[.claim v.claim, v.response c], .challenge c :: second.reply.toList, second.state,
      second.result⟩
  | reply => ⟨[.claim v.claim], reply.toList, first.state, first.result⟩

end Visitor

-- ============================================================== verdicts

/-- The last thing that a host says in an attempt, what it has made of the login, and
how that ends the attempt for the client. -/
inductive Verdict : Message → Host.State σ → Option (Except SessionError Checkpoint) →
    Except SessionError Checkpoint → Prop
  | accepted (state : Host.State σ) (checkpoint : Checkpoint) :
      Verdict (.checkpoint checkpoint) state (some (.ok checkpoint)) (.ok checkpoint)
  | ended (state : Host.State σ) (code : ErrorCode) (reason : String) (error : SessionError) :
      Verdict (.failed code reason) state (some (.error error)) (.error (.rejected code reason))
  | again (state : Host.State σ) (reason : String) (hphase : state.phase = .claim) :
      Verdict (.failed .authFailed reason) state none (.error (.rejected .authFailed reason))

namespace Verdict

variable {reply : Message} {state : Host.State σ}
  {result : Option (Except SessionError Checkpoint)} {verdict : Except SessionError Checkpoint}

/-- The client takes the verdict, whatever it waits for. -/
theorem react_eq (h : Verdict reply state result verdict) (user : String)
    (respond : Client.Responder) (phase : Client.Phase) :
    Client.react user respond phase reply = ⟨none, phase, some verdict⟩ := by
  cases h <;> cases phase <;> rfl

theorem ok_iff (h : Verdict reply state result verdict) (checkpoint : Checkpoint) :
    verdict = .ok checkpoint ↔ result = some (.ok checkpoint) := by
  cases h with
  | accepted =>
      constructor
      · rintro ⟨⟩
        rfl
      · rintro ⟨⟩
        rfl
  | ended | again => exact ⟨nofun, nofun⟩

theorem ok_of_checkpoint {checkpoint : Checkpoint}
    (h : Verdict (.checkpoint checkpoint) state result verdict) : verdict = .ok checkpoint := by
  cases h
  rfl

theorem failed_of_error (h : Verdict reply state result verdict) {error : SessionError}
    (herror : verdict = .error error) :
    ∃ code reason, error = .rejected code reason ∧ reply = .failed code reason := by
  cases h with
  | accepted => cases herror
  | ended _ code reason => exact ⟨code, reason, (Except.error.inj herror).symm, rfl⟩
  | again _ reason => exact ⟨.authFailed, reason, (Except.error.inj herror).symm, rfl⟩

end Verdict

-- ============================================================ two courses

/-- How an attempt goes: the claim is judged, or it is challenged and the response
is judged. -/
inductive Course (react : React (Host.State σ)) (state : Host.State σ) (v : Visitor) :
    Talk σ → Prop
  | short {first : Reaction (Host.State σ)} {reply : Message}
      {verdict : Except SessionError Checkpoint}
      (hfirst : react state (.claim v.claim) = first) (hreply : first.reply = some reply)
      (hverdict : Verdict reply first.state first.result verdict) :
      Course react state v ⟨[.claim v.claim], [reply], first.state, first.result⟩
  | long {first second : Reaction (Host.State σ)} {c : Challenge} {reply : Message}
      {verdict : Except SessionError Checkpoint}
      (hfirst : react state (.claim v.claim) = first)
      (hchallenge : first.reply = some (.challenge c)) (hopen : first.result = none)
      (hsecond : react first.state (v.response c) = second) (hreply : second.reply = some reply)
      (hverdict : Verdict reply second.state second.result verdict) :
      Course react state v
        ⟨[.claim v.claim, v.response c], [.challenge c, reply], second.state, second.result⟩

/-- What a host makes of a response is a verdict. -/
theorem exists_verdict (verifier : Verifier) (store : CheckpointStore σ) (maxAttempts : Nat)
    (state : Host.State σ) (response : Response) :
    ∃ reply verdict,
      (Host.react verifier store maxAttempts state (.response response)).reply = some reply
      ∧ Verdict reply (Host.react verifier store maxAttempts state (.response response)).state
          (Host.react verifier store maxAttempts state (.response response)).result verdict := by
  have hanswer := Host.answer_react verifier store maxAttempts state (.response response)
  generalize Host.react verifier store maxAttempts state (.response response) = r at hanswer ⊢
  cases hanswer with
  | answered => exact ⟨_, _, rfl, .accepted _ _⟩
  | rejected => exact ⟨_, _, rfl, .again _ _ rfl⟩
  | exhausted | refused => exact ⟨_, _, rfl, .ended _ _ _ _⟩

theorem course_talk (state : Host.State σ) (v : Visitor) :
    Course (Host.react verifier store maxAttempts) state v
      (v.talk (Host.react verifier store maxAttempts) state) := by
  have hanswer := Host.answer_react verifier store maxAttempts state (.claim v.claim)
  unfold Visitor.talk
  generalize hfirst : Host.react verifier store maxAttempts state (.claim v.claim) = first
    at hanswer
  cases hanswer with
  | resumed => exact .short hfirst rfl (.accepted _ _)
  | refused => exact .short hfirst rfl (.ended _ _ _ _)
  | challenged =>
      obtain ⟨nonce, correlation, entropy, -, -, hchallenge⟩ := Host.exists_challenge state v.claim
      rw [hchallenge] at hfirst ⊢
      obtain ⟨reply, verdict, hreply, hverdict⟩ := exists_verdict verifier store maxAttempts
        { state with phase := .response v.claim ⟨nonce, correlation⟩, entropy := entropy }
        ⟨correlation, v.respond v.claim.userId nonce⟩
      have hlong := Course.long (v := v) hfirst rfl rfl rfl hreply hverdict
      dsimp only
      rw [Visitor.response, hreply]
      exact hlong

-- =============================================================== secrets

section Secrets

variable {credentials : Credentials} {user : String} {secret : Secret}

/-- The answer by a user's own secret is right. -/
theorem Credentials.verify_respond (h : credentials.users.lookup user = some secret)
    (nonce : String) : credentials.verify user nonce (secret.respond user nonce) = true := by
  rw [verify, h, Secret.respond, Octets.ofHex?_toHex]
  exact decide_eq_true rfl

theorem Credentials.knows_of_lookup (h : credentials.users.lookup user = some secret) :
    credentials.knows user = true := by
  rw [knows, h]
  rfl

/-- A table in which a user's secret has been set has that secret. -/
theorem Credentials.lookup_withUser (credentials : Credentials) (user secret : String) :
    (credentials.withUser user secret).users.lookup user = some (.ofText secret) := by
  have hnone : (credentials.users.filter (·.1 ≠ user)).lookup user = none := by
    rw [List.lookup_eq_none_iff]
    intro entry hmem
    have hne := of_decide_eq_true (List.mem_filter.mp hmem).2
    exact bne_iff_ne.mpr (Ne.symm hne)
  rw [withUser, List.lookup_append, hnone, Option.none_or, List.lookup_cons_self]

/-- A named user whom the host knows is challenged or let in. -/
theorem onClaim_of_known (store : CheckpointStore σ) (state : Host.State σ) {claim : Claim}
    (hnamed : Host.Named claim)
    (hknown : verifier.knows claim.userId = true) :
    (∃ checkpoint, Host.onClaim verifier store state claim = Host.accept state checkpoint)
      ∨ Host.onClaim verifier store state claim = Host.challenge state claim := by
  have hid : ¬(claim.userId.isEmpty || decide (Host.maxUserBytes < claim.userId.utf8ByteSize))
      = true := by
    simp only [Bool.or_eq_true, String.isEmpty_iff_utf8ByteSize_eq_zero, decide_eq_true_eq,
      not_or, Nat.not_lt]
    exact ⟨Nat.one_le_iff_ne_zero.mp hnamed.1, hnamed.2⟩
  rw [Host.onClaim, if_neg hid]
  split
  next checkpoint _ => exact .inl ⟨checkpoint, rfl⟩
  next => exact .inr (if_pos hknown)

/-- A named user who answers with the secret that the host has is let in. -/
theorem exists_checkpoint (store : CheckpointStore σ) (maxAttempts : Nat)
    {state : Host.State σ} {v : Visitor} (hphase : state.phase = .claim)
    (hnamed : Host.Named v.claim)
    (hlookup : credentials.users.lookup v.claim.userId = some secret)
    (hrespond : v.respond = secret.respond) :
    ∃ before checkpoint,
      (v.talk (Host.react credentials.verifier store maxAttempts) state).byHost
        = before ++ [.checkpoint checkpoint] := by
  have hfirst := Host.react_claim credentials.verifier store maxAttempts hphase v.claim
  have hknown : credentials.verifier.knows v.claim.userId = true :=
    Credentials.knows_of_lookup hlookup
  rcases onClaim_of_known store state hnamed hknown
    with ⟨checkpoint, haccept⟩ | hasked
  · refine ⟨[], checkpoint, ?_⟩
    rw [Visitor.talk, hfirst, haccept]
    rfl
  · obtain ⟨nonce, correlation, entropy, -, -, hchallenge⟩ := Host.exists_challenge state v.claim
    rw [hchallenge] at hasked
    have hright : credentials.verifier.verify v.claim.userId nonce
        (v.respond v.claim.userId nonce) = true := by
      rw [hrespond]
      exact Credentials.verify_respond hlookup nonce
    generalize hstate : (⟨.response v.claim ⟨nonce, correlation⟩, state.failures, state.store,
      entropy⟩ : Host.State σ) = asked at hasked
    have hsecond : ∃ checkpoint after, Host.react credentials.verifier store maxAttempts asked
        (v.response ⟨nonce, correlation⟩) = Host.accept after checkpoint := by
      rw [← hstate, Visitor.response]
      unfold Host.react
      dsimp only
      rw [Host.onResponse, if_pos ⟨rfl, hright⟩]
      exact ⟨_, _, rfl⟩
    obtain ⟨checkpoint, after, hsecond⟩ := hsecond
    refine ⟨[.challenge ⟨nonce, correlation⟩], checkpoint, ?_⟩
    rw [Visitor.talk, hfirst, hasked]
    dsimp only
    rw [hsecond]
    rfl

end Secrets

end CellSync.Login
