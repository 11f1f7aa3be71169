/-
A host lets nobody in without proof, and says why it ends a login.

`Answer` lists what a host can do with a message, with all that has been
checked; everything else reads it and not the code. While a login goes
on, `Standing` says what its turns so far amount to: a challenge is open
only in the turn after its own claim, every other one has cost a failed
response, and nothing has been issued. A login that ends is judged by
its last turns: it ends well only after a live token (`Resumed`) or after
the right answer to the challenge just given (`Answered`).

Whether a response fails is read off what is heard (`Turn.fails`): it comes
right after a challenge and is not the right answer to it, whatever is said
to it. The host turns down exactly those, and as many of them as attempts
are allowed end the login.

A failure that is not one of the link is the last thing said, unless it
is that a transaction carried no step of the handshake (`exists_report`).
-/
import CellSync.Login.Host
import CellSync.Proofs.Login.Trace

namespace CellSync.Login

/-- Whether a response is the right answer to the challenge that a claim was given. -/
def proves (verifier : Verifier) (claim : Claim) (challenge : Challenge) (response : Response) :
    Bool :=
  response.correlationId = challenge.correlationId
    && verifier.verify claim.userId challenge.nonce response.hash

namespace Turn

/-- Whether a challenge is given. -/
def challenges (turn : Turn) : Bool :=
  match turn.said with
  | some (.challenge _) => true
  | _ => false

/-- Whether a response is turned down. -/
def rejects (turn : Turn) : Bool :=
  match turn.heard, turn.said with
  | .ok (.response _), some (.failed .authFailed _) => true
  | _, _ => false

/-- Whether a response is answered with a checkpoint, which is then issued. -/
def issues (turn : Turn) : Bool :=
  match turn.said, turn.heard with
  | some (.checkpoint _), .ok (.response _) => true
  | _, _ => false

/-- Whether the second of two turns is heard to fail the challenge of the first, whatever
is said to it: it is a response, and not the right one. -/
def fails (verifier : Verifier) (first second : Turn) : Bool :=
  match first.heard, first.said, second.heard with
  | .ok (.claim claim), some (.challenge challenge), .ok (.response response) =>
    !proves verifier claim challenge response
  | _, _, _ => false

/-- How many responses fail, each of them heard right after its challenge. -/
def failed (verifier : Verifier) (turns : List Turn) : Nat :=
  (turns.zip turns.tail).countP fun (first, second) => fails verifier first second

variable {verifier : Verifier}

theorem rejects_failed {heard : Except SessionError Message} {code : ErrorCode} {reason : String}
    (h : code ≠ .authFailed) : rejects ⟨heard, some (.failed code reason)⟩ = false := by
  unfold rejects
  split
  next hsaid =>
    cases hsaid
    exact absurd rfl h
  · rfl

/-- Only a challenge can be failed. -/
theorem fails_of_not_challenges {first : Turn} (h : first.challenges = false) (second : Turn) :
    fails verifier first second = false := by
  unfold fails
  split
  next hsaid _ =>
    rw [challenges, hsaid] at h
    cases h
  · rfl

/-- A turn is counted with the one before it. -/
theorem failed_concat (before : List Turn) (last turn : Turn) :
    failed verifier (before ++ [last] ++ [turn])
      = failed verifier (before ++ [last]) + (fails verifier last turn).toNat := by
  have hpairs : (before ++ [last] ++ [turn]).zip (before ++ [last] ++ [turn]).tail
      = (before ++ [last]).zip (before ++ [last]).tail ++ [(last, turn)] := by
    induction before with
    | nil => rfl
    | cons first before ih => cases before <;> simp_all
  rw [failed, hpairs, List.countP_append, List.countP_singleton]
  show _ + (if fails verifier last turn = true then 1 else 0) = _
  cases fails verifier last turn <;> rfl

/-- Behind a turn that gives no challenge none is failed. -/
theorem failed_silent {turns : List Turn} (h : ∀ last ∈ turns.getLast?, last.challenges = false)
    (turn : Turn) : failed verifier (turns ++ [turn]) = failed verifier turns := by
  rcases List.eq_nil_or_concat' turns with rfl | ⟨before, last, rfl⟩
  · rfl
  · rw [failed_concat, fails_of_not_challenges (h last (by simp))]
    exact Nat.add_zero _

/-- The count of one more turn. -/
theorem countP_concat (p : Turn → Bool) (turns : List Turn) (turn : Turn) :
    (turns ++ [turn]).countP p = turns.countP p + (p turn).toNat := by
  rw [List.countP_append, List.countP_singleton]
  cases p turn <;> rfl

end Turn

namespace Host

variable {σ : Type} {verifier : Verifier} {store : CheckpointStore σ} {maxAttempts : Nat}

/-- Whether a claim names a user that may be looked up. -/
def Named (claim : Claim) : Prop :=
  1 ≤ claim.userId.utf8ByteSize ∧ claim.userId.utf8ByteSize ≤ maxUserBytes

-- ============================================================= one message

/-- What a host can do with a message. -/
inductive Answer (verifier : Verifier) (store : CheckpointStore σ) (maxAttempts : Nat)
    (state : State σ) : Message → Reaction (State σ) → Prop
  | resumed {claim : Claim} {token : String} {checkpoint : Checkpoint}
      (hphase : state.phase = .claim) (hnamed : Named claim)
      (htoken : claim.checkpoint = some token)
      (hlive : store.validate state.store token claim.userId = some checkpoint) :
      Answer verifier store maxAttempts state (.claim claim) (accept state checkpoint)
  | challenged {claim : Claim} (hphase : state.phase = .claim) (hnamed : Named claim)
      (hknown : verifier.knows claim.userId = true) :
      Answer verifier store maxAttempts state (.claim claim) (challenge state claim)
  | answered {claim : Claim} {challenge : Challenge} {response : Response}
      {checkpoint : Checkpoint} {contents : σ} {entropy : Entropy}
      (hphase : state.phase = .response claim challenge)
      (hsame : response.correlationId = challenge.correlationId)
      (hright : verifier.verify claim.userId challenge.nonce response.hash = true)
      (hissue : store.issue state.store claim state.entropy = (checkpoint, contents, entropy)) :
      Answer verifier store maxAttempts state (.response response)
        (accept { state with store := contents, entropy := entropy } checkpoint)
  | rejected {claim : Claim} {challenge : Challenge} {response : Response}
      (hphase : state.phase = .response claim challenge)
      (hwrong : proves verifier claim challenge response = false)
      (hmore : state.failures + 1 < maxAttempts) :
      Answer verifier store maxAttempts state (.response response)
        ⟨some (.failed .authFailed "challenge response rejected"),
          { state with phase := .claim, failures := state.failures + 1 }, none⟩
  | exhausted {claim : Claim} {challenge : Challenge} {response : Response}
      (hphase : state.phase = .response claim challenge)
      (hwrong : proves verifier claim challenge response = false)
      (hfull : maxAttempts ≤ state.failures + 1) :
      Answer verifier store maxAttempts state (.response response)
        (refuse { state with phase := .claim, failures := state.failures + 1 } .authFailed
          "too many failed attempts")
  | refused {m : Message} {reason : String} (error : SessionError)
      (hlink : error.isLink = false)
      (hstranger : ∀ claim challenge, state.phase = .response claim challenge →
        ∀ response, m ≠ .response response)
      (hother : Turn.rejects ⟨.ok m, some (.failed error.code reason)⟩ = false) :
      Answer verifier store maxAttempts state m
        ⟨some (.failed error.code reason), state, some (.error error)⟩

/-- What a challenge is, whatever has been drawn for it. -/
theorem exists_challenge (state : State σ) (claim : Claim) :
    ∃ nonce correlation entropy, nonce.utf8ByteSize = 64 ∧ correlation.utf8ByteSize = 16
      ∧ challenge state claim
        = ⟨some (.challenge ⟨nonce, correlation⟩),
            { state with phase := .response claim ⟨nonce, correlation⟩, entropy := entropy },
            none⟩ :=
  ⟨_, _, _, Octets.utf8ByteSize_toHex _, Octets.utf8ByteSize_toHex _, rfl⟩

theorem answer_onClaim {state : State σ} (hphase : state.phase = .claim) (claim : Claim) :
    Answer verifier store maxAttempts state (.claim claim)
      (onClaim verifier store state claim) := by
  unfold onClaim
  split
  · exact .refused (.rejected .loginFailed "invalid user id") rfl nofun
      (Turn.rejects_failed nofun)
  next hid =>
    have hnamed : Named claim := by
      simp only [Bool.or_eq_true, String.isEmpty_iff_utf8ByteSize_eq_zero, decide_eq_true_eq,
        not_or, Nat.not_lt] at hid
      exact ⟨Nat.one_le_iff_ne_zero.mpr hid.1, hid.2⟩
    split
    next checkpoint hlive =>
      obtain ⟨token, htoken, hvalid⟩ := Option.bind_eq_some_iff.mp hlive
      exact .resumed hphase hnamed htoken hvalid
    next =>
      split
      next hknown => exact .challenged hphase hnamed hknown
      · exact .refused (.rejected .loginFailed "unknown user") rfl nofun
          (Turn.rejects_failed nofun)

theorem answer_onResponse {state : State σ} {claim : Claim} {challenge : Challenge}
    (hphase : state.phase = .response claim challenge) (response : Response) :
    Answer verifier store maxAttempts state (.response response)
      (onResponse verifier store maxAttempts state claim challenge response) := by
  unfold onResponse
  split
  next hproof =>
    generalize hissue : store.issue state.store claim state.entropy = issued
    obtain ⟨checkpoint, contents, entropy⟩ := issued
    exact .answered hphase hproof.1 hproof.2 hissue
  next hproof =>
    have hwrong : proves verifier claim challenge response = false := by
      rw [proves, ← Bool.not_eq_true, Bool.and_eq_true, decide_eq_true_eq]
      exact hproof
    dsimp only
    split
    next hfull => exact .exhausted hphase hwrong hfull
    next hmore => exact .rejected hphase hwrong (Nat.not_le.mp hmore)

/-- A host that waits for a claim answers it as a claim. -/
theorem react_claim (verifier : Verifier) (store : CheckpointStore σ) (maxAttempts : Nat)
    {state : State σ} (hphase : state.phase = .claim) (claim : Claim) :
    react verifier store maxAttempts state (.claim claim) = onClaim verifier store state claim := by
  unfold react
  rw [hphase]

theorem answer_react (verifier : Verifier) (store : CheckpointStore σ) (maxAttempts : Nat)
    (state : State σ) (m : Message) :
    Answer verifier store maxAttempts state m (react verifier store maxAttempts state m) := by
  unfold react
  split
  next claim hphase => exact answer_onClaim hphase claim
  next hphase _ =>
    exact .refused (.protocol _) rfl (by rw [hphase]; nofun) (Turn.rejects_failed nofun)
  next claim challenge response hphase => exact answer_onResponse hphase response
  next hother =>
    exact .refused (.rejected .badRequest _) rfl (fun _ _ _ => hother) (Turn.rejects_failed nofun)

-- ============================================================= proofs given

/-- A login that ends well for a token: its last turn is a claim by a named user
whose token is live, and the store's checkpoint is handed over. -/
inductive Resumed (store : CheckpointStore σ) (contents : σ) :
    List Turn → Checkpoint → Prop
  | mk (before : List Turn) {claim : Claim} {token : String} {checkpoint : Checkpoint}
      (hnamed : Named claim) (htoken : claim.checkpoint = some token)
      (hlive : store.validate contents token claim.userId = some checkpoint) :
      Resumed store contents (before ++ [⟨.ok (.claim claim), some (.checkpoint checkpoint)⟩])
        checkpoint

/-- A login in which a checkpoint is issued: in the last turn but one a named and
known user claims and is given a challenge; in the last the answer to that
challenge is right, and the checkpoint is issued for that claim. -/
inductive Answered (verifier : Verifier) (store : CheckpointStore σ) (contents : σ) :
    List Turn → Checkpoint → σ → Prop
  | mk (before : List Turn) {claim : Claim} {challenge : Challenge} {response : Response}
      {checkpoint : Checkpoint} {contents' : σ} {entropy entropy' : Entropy}
      (hnamed : Named claim) (hknown : verifier.knows claim.userId = true)
      (hsame : response.correlationId = challenge.correlationId)
      (hright : verifier.verify claim.userId challenge.nonce response.hash = true)
      (hissue : store.issue contents claim entropy = (checkpoint, contents', entropy')) :
      Answered verifier store contents
        (before ++ [⟨.ok (.claim claim), some (.challenge challenge)⟩,
          ⟨.ok (.response response), some (.checkpoint checkpoint)⟩]) checkpoint contents'

/-- What is said when there have been too many wrong answers. -/
def exhaustion : Message := .failed .authFailed "too many failed attempts"

/-- What the turns so far have to do with what the host waits for, after so many
failures. -/
inductive Waiting (verifier : Verifier) (limits : TxConfig) (failures : Nat) :
    List Turn → Phase → Prop
  | claim {turns : List Turn} (hcount : turns.countP Turn.challenges = failures)
      (hlast : ∀ last ∈ turns.getLast?, last.challenges = false) :
      Waiting verifier limits failures turns .claim
  | response {before : List Turn} {claim : Claim} {challenge : Challenge}
      (hnamed : Named claim) (hknown : verifier.knows claim.userId = true)
      (hroom : exhaustion.Fits limits) (hcount : before.countP Turn.challenges = failures) :
      Waiting verifier limits failures
        (before ++ [⟨.ok (.claim claim), some (.challenge challenge)⟩])
        (.response claim challenge)

/-- What has been counted in the turns of a login that may go on. -/
structure Counts (verifier : Verifier) (maxAttempts : Nat) (contents : σ) (turns : List Turn)
    (state : State σ) : Prop where
  store : state.store = contents
  unissued : turns.countP Turn.issues = 0
  rejected : turns.countP Turn.rejects = state.failures
  failed : Turn.failed verifier turns = state.failures
  challenged : turns.countP Turn.challenges ≤ max 1 maxAttempts
  more : state.failures < max 1 maxAttempts

/-- Where a login stands that goes on. -/
structure Standing (verifier : Verifier) (limits : TxConfig) (maxAttempts : Nat) (contents : σ)
    (turns : List Turn) (state : State σ) : Prop where
  counts : Counts verifier maxAttempts contents turns state
  waiting : Waiting verifier limits state.failures turns state.phase

/-- What a login amounts to, whether it has ended or not. -/
structure Sound (verifier : Verifier) (store : CheckpointStore σ) (maxAttempts : Nat)
    (contents : σ) (turns : List Turn) (willing : Prop) (x : Exchange (State σ)) : Prop where
  accepted : ∀ checkpoint, x.result = some (.ok checkpoint) →
    (Resumed store contents turns checkpoint ∧ x.state.store = contents)
      ∨ Answered verifier store contents turns checkpoint x.state.store
  issued : (turns.countP Turn.issues = 0 ∧ x.state.store = contents)
    ∨ (turns.countP Turn.issues = 1
      ∧ ∃ checkpoint, Answered verifier store contents turns checkpoint x.state.store)
  challenged : turns.countP Turn.challenges ≤ max 1 maxAttempts
  /-- The responses that fail are the ones that are turned down. -/
  rejected : turns.countP Turn.rejects = Turn.failed verifier turns
  exhausted : willing → max 1 maxAttempts ≤ Turn.failed verifier turns →
    x.result = some (.error (.rejected .authFailed "too many failed attempts"))

variable {limits : TxConfig} {contents : σ} {turns : List Turn} {willing : Prop}
  {x : Exchange (State σ)}

/-- A challenge is longer than what is said at the end, so there is room for that. -/
theorem exhaustion_fits {state : State σ} {claim : Claim}
    (h : ∀ reply ∈ (challenge state claim).reply, reply.Fits limits) :
    exhaustion.Fits limits := by
  obtain ⟨nonce, correlation, entropy, hnonce, hcorrelation, hchallenge⟩ :=
    exists_challenge state claim
  rw [hchallenge] at h
  have hlength : exhaustion.toJson.length = 75 := by decide +kernel
  have hn := (Json.length_string nonce).1
  have hc := (Json.length_string correlation).1
  have hbody : (Message.challenge ⟨nonce, correlation⟩).toJson
      = 0x7b :: Json.body [("step", "challenge"), ("nonce", nonce),
          ("correlation_id", correlation)] [] := Message.toJson_eq _
  refine Control.Fits.of_le (h _ rfl) ?_
  rw [hlength, hbody, Json.body_cons_cons, Json.body_cons_cons, Json.body_single]
  simp only [List.length_append, List.length_cons]
  omega

-- ======================================================= what a turn counts

section Answer

variable {state : State σ} {m : Message} {r : Reaction (State σ)}

/-- The host counts the responses that it turns down. -/
theorem Answer.failures_eq (h : Answer verifier store maxAttempts state m r) :
    r.state.failures = state.failures + (Turn.rejects ⟨.ok m, r.reply⟩).toNat := by
  cases h with
  | resumed | challenged | answered | rejected | exhausted => rfl
  | refused _ _ _ hother =>
      rw [hother]
      rfl

/-- Only with a checkpoint is the store changed. -/
theorem Answer.store_eq (h : Answer verifier store maxAttempts state m r)
    (hissues : Turn.issues ⟨.ok m, r.reply⟩ = false) : r.state.store = state.store := by
  cases h with
  | resumed | challenged | rejected | exhausted | refused => rfl
  | answered => cases hissues

/-- Only a claim is challenged. -/
theorem Answer.phase_eq (h : Answer verifier store maxAttempts state m r)
    (hchallenges : Turn.challenges ⟨.ok m, r.reply⟩ = true) : state.phase = .claim := by
  cases h with
  | challenged hphase => exact hphase
  | resumed | answered | rejected | exhausted | refused => cases hchallenges

/-- The responses that are turned down are those that fail, for the one that a response
is held against is the challenge of the turn before. -/
theorem Answer.failed_eq (h : Answer verifier store maxAttempts state m r) {failures : Nat}
    (hwaiting : Waiting verifier limits failures turns state.phase) :
    Turn.failed verifier (turns ++ [⟨.ok m, r.reply⟩])
      = Turn.failed verifier turns + (Turn.rejects ⟨.ok m, r.reply⟩).toNat := by
  generalize hphase : state.phase = phase at hwaiting
  cases hwaiting with
  | claim _ hlast =>
      rw [Turn.failed_silent hlast]
      cases h with
      | resumed | challenged => rfl
      | answered hother | rejected hother | exhausted hother => cases hphase.symm.trans hother
      | refused _ _ _ hother =>
          rw [hother]
          rfl
  | @response before claim challenge _ _ _ _ =>
      rw [Turn.failed_concat]
      apply congrArg (Turn.failed verifier _ + Bool.toNat ·)
      cases h with
      | resumed hother | challenged hother => cases hphase.symm.trans hother
      | answered hsame hright hproof =>
          cases hphase.symm.trans hsame
          simp [Turn.fails, Turn.rejects, accept, proves, hright, hproof]
      | rejected hsame hwrong | exhausted hsame hwrong =>
          cases hphase.symm.trans hsame
          simp [Turn.fails, Turn.rejects, refuse, hwrong]
      | @refused m _ _ _ hstranger hother =>
          rw [hother]
          cases m with
          | response response => exact absurd rfl (hstranger claim challenge hphase response)
          | claim | challenge | checkpoint | failed => rfl

end Answer

/-- While a claim is waited for, every challenge has been failed. -/
theorem Waiting.eq_of_claim {failures : Nat}
    (h : Waiting verifier limits failures turns .claim) :
    turns.countP Turn.challenges = failures := by
  cases h with
  | claim hcount => exact hcount

-- ============================================================== one turn

/-- A login that has not ended well, and not had its last failure, has nothing else
to answer for. -/
theorem Counts.sound (h : Counts verifier maxAttempts contents turns x.state)
    (hnot : ∀ checkpoint, x.result ≠ some (.ok checkpoint)) :
    Sound verifier store maxAttempts contents turns willing x := by
  refine ⟨fun checkpoint hok => absurd hok (hnot checkpoint), .inl ⟨h.unissued, h.store⟩,
    h.challenged, h.rejected.trans h.failed.symm, fun _ hfull => ?_⟩
  rw [h.failed] at hfull
  exact absurd hfull (Nat.not_le.mpr h.more)

section Turn

variable {state : State σ} {m : Message} {r : Reaction (State σ)}

/-- A turn that issues nothing, and is not the last failure, keeps the counts. -/
theorem Standing.counts_step (h : Standing verifier limits maxAttempts contents turns state)
    (hanswer : Answer verifier store maxAttempts state m r)
    (hissues : Turn.issues ⟨.ok m, r.reply⟩ = false)
    (hmore : r.state.failures < max 1 maxAttempts) :
    Counts verifier maxAttempts contents (turns ++ [⟨.ok m, r.reply⟩]) r.state := by
  obtain ⟨⟨hstore, hunissued, hrejected, hfailed, hchallenged, hroom⟩, hwaiting⟩ := h
  refine ⟨(hanswer.store_eq hissues).trans hstore, ?_, ?_, ?_, ?_, hmore⟩
  · rw [Turn.countP_concat, hunissued, hissues]
    rfl
  · rw [Turn.countP_concat, hrejected, hanswer.failures_eq]
  · rw [hanswer.failed_eq hwaiting, hfailed, hanswer.failures_eq]
  · rw [Turn.countP_concat]
    cases hchallenges : Turn.challenges ⟨.ok m, r.reply⟩ with
    | false => exact hchallenged
    | true =>
        rw [hanswer.phase_eq hchallenges] at hwaiting
        rw [hwaiting.eq_of_claim]
        exact hroom

/-- A transaction that carries no message counts for nothing. -/
theorem Counts.stray (h : Counts verifier maxAttempts contents turns state)
    (error : SessionError) :
    Counts verifier maxAttempts contents (turns ++ [⟨.error error, none⟩]) state := by
  obtain ⟨hstore, hunissued, hrejected, hfailed, hchallenged, hmore⟩ := h
  have hsame : Turn.failed verifier (turns ++ [⟨.error error, none⟩])
      = Turn.failed verifier turns := by
    rcases List.eq_nil_or_concat' turns with rfl | ⟨before, last, rfl⟩
    · rfl
    · rw [Turn.failed_concat, show Turn.fails verifier last ⟨.error error, none⟩ = false by
        unfold Turn.fails; split <;> simp_all]
      exact Nat.add_zero _
  refine ⟨hstore, ?_, ?_, hsame.trans hfailed, ?_, hmore⟩
  · rw [Turn.countP_concat]
    exact hunissued
  · rw [Turn.countP_concat]
    exact hrejected
  · rw [Turn.countP_concat]
    exact hchallenged

/-- A turn that leaves the login open leaves it standing. -/
theorem Standing.step (h : Standing verifier limits maxAttempts contents turns state)
    (hanswer : Answer verifier store maxAttempts state m r) (hopen : r.result = none)
    (hfits : ∀ reply ∈ r.reply, reply.Fits limits) :
    Standing verifier limits maxAttempts contents (turns ++ [⟨.ok m, r.reply⟩]) r.state := by
  have hwaiting := h.waiting
  have hcounts := h.counts_step hanswer
  cases hanswer with
  | resumed | answered | exhausted | refused => cases hopen
  | challenged hphase hnamed hknown =>
      refine ⟨hcounts rfl h.counts.more, ?_⟩
      rw [hphase] at hwaiting
      exact .response hnamed hknown (exhaustion_fits hfits) hwaiting.eq_of_claim
  | rejected hphase hwrong hless =>
      refine ⟨hcounts rfl (Nat.lt_of_lt_of_le hless (Nat.le_max_right _ _)), ?_⟩
      rw [hphase] at hwaiting
      refine .claim ?_ (by simp [Turn.challenges])
      cases hwaiting with
      | response _ _ _ hcount =>
          rw [Turn.countP_concat, Turn.countP_concat, hcount]
          rfl

end Turn

-- ============================================================= whole runs

section Runs

open Exchange

variable {timeout : Nat} {entropy : Entropy} {reader : Reader} {sink : Sink}

/-- Whether the last thing said tells of a failure, by its code. -/
inductive Reported (error : SessionError) : List Turn → Prop
  | mk (before : List Turn) (heard : Except SessionError Message) (reason : String) :
      Reported error (before ++ [⟨heard, some (.failed error.code reason)⟩])

/-- Whether a failure is that the last transaction carried no step of the handshake;
to that nothing was said. -/
inductive Astray (error : SessionError) : List Turn → Prop
  | mk (before : List Turn) (tx : Tx) (hmessage : Message.ofTx tx = .error error) :
      Astray error (before ++ [⟨.error error, none⟩])

theorem reported_of_answer {state : State σ} {m : Message} {r : Reaction (State σ)}
    {error : SessionError} (hanswer : Answer verifier store maxAttempts state m r)
    (hresult : r.result = some (.error error)) :
    Reported error (turns ++ [⟨.ok m, r.reply⟩]) := by
  cases hanswer with
  | resumed | challenged | answered | rejected => cases hresult
  | exhausted | refused =>
      cases hresult
      exact .mk turns _ _

theorem report_of_trace {error : SessionError}
    (h : Trace ⟨limits, timeout, react verifier store maxAttempts⟩
      (start contents entropy reader sink) turns x)
    (hresult : x.result = some (.error error)) (hlink : error.isLink = false) :
    Reported error turns ∨ Astray error turns := by
  cases h with
  | start => cases hresult
  | read _ hopen => cases hopen.symm.trans hresult
  | @turn turns x reader' tx m before hopen hpoll hmessage =>
      rcases result_handle ⟨limits, timeout, react verifier store maxAttempts⟩
          (x := { x with reader := reader' }) hopen m with hdone | ⟨failure, hfailed⟩
      · exact .inl (reported_of_answer (answer_react _ _ _ x.state m) (hdone.symm.trans hresult))
      · cases hfailed.symm.trans hresult
        cases hlink
  | stray before hopen hpoll hmessage =>
      cases hresult
      exact .inr (.mk _ _ hmessage)
  | cut before _ hopen hcut =>
      cases hresult
      cases hcut.symm.trans hlink

/-- Whatever a host is sent, a login that it ends with a failure that is not one of
the link was either told of it in the last transaction written, by its code, or the
last transaction heard carried no step of the handshake, and then nothing was said. -/
theorem exists_report (verifier : Verifier) (store : CheckpointStore σ) (maxAttempts : Nat)
    (limits : TxConfig) (timeout : Nat) (contents : σ) (entropy : Entropy) (reader : Reader)
    (sink : Sink) (calls : List (Read × Nat)) {error : SessionError}
    (hresult : (play ⟨limits, timeout, react verifier store maxAttempts⟩
      (start contents entropy reader sink) calls).result = some (.error error))
    (hlink : error.isLink = false) :
    ∃ turns,
      Trace ⟨limits, timeout, react verifier store maxAttempts⟩
        (start contents entropy reader sink) turns
        (play ⟨limits, timeout, react verifier store maxAttempts⟩
          (start contents entropy reader sink) calls)
      ∧ (play ⟨limits, timeout, react verifier store maxAttempts⟩
          (start contents entropy reader sink) calls).sink.accepted
        = sink.accepted ++ Frame.wire (Turn.allSaid turns)
      ∧ (Reported error turns ∨ Astray error turns) := by
  obtain ⟨turns, htrace⟩ := trace_play ⟨limits, timeout, react verifier store maxAttempts⟩
    (start contents entropy reader sink) calls
  refine ⟨turns, htrace, htrace.accepted ?_, report_of_trace htrace hresult hlink⟩
  intro failure hfailed
  cases hfailed.symm.trans hresult
  cases hlink

/-- A host that knows nobody. -/
def strict : Side (State CheckpointTable) :=
  ⟨{}, 1, react (Credentials.verifier {}) CheckpointTable.store 3⟩

/-- That host before the first claim. -/
def fresh : Exchange (State CheckpointTable) := start {} ⟨fun _ => 0, 0⟩ ⟨{}, .empty⟩ {}

/-- A claim without a user id. -/
theorem exists_report_unnamed :
    (play strict fresh
        [(.bytes (Frame.bytes (Message.claim ⟨"", "", "", "", none⟩).toTx), 0)]).result
      = some (.error (.rejected .loginFailed "invalid user id"))
    ∧ ∃ turns, Reported (.rejected .loginFailed "invalid user id") turns
        ∨ Astray (.rejected .loginFailed "invalid user id") turns := by
  have hclaim : (Message.claim ⟨"", "", "", "", none⟩).Fits {} :=
    ⟨by decide, by decide +kernel, by decide +kernel⟩
  have hreply : (Message.failed .loginFailed "invalid user id").Fits {} :=
    ⟨by decide, by decide +kernel, by decide +kernel⟩
  have hresult : (play strict fresh
      [(.bytes (Frame.bytes (Message.claim ⟨"", "", "", "", none⟩).toTx), 0)]).result
      = some (.error (.rejected .loginFailed "invalid user id")) := by
    rw [play_frame (x := fresh) rfl (by decide) rfl hclaim.writable hclaim.within, receive,
      Message.ofTx_toTx hclaim]
    refine result_handle_of_willing strict rfl (Sink.willing_empty _) ?_
    intro reply hmem
    rw [← Option.some.inj hmem]
    exact hreply
  obtain ⟨turns, -, -, hturns⟩ := exists_report _ _ _ _ _ _ _ _ _ _ hresult rfl
  exact ⟨hresult, turns, hturns⟩

/-- A transaction of another kind ends the login with a failure that is not one of
the link, and nothing is written. -/
theorem exists_unreported :
    (play strict fresh [(.bytes (Frame.bytes (Tx.ofKind .commit)), 0)]).result
      = some (.error (.protocol "expected login message, got commit"))
    ∧ (SessionError.protocol "expected login message, got commit").isLink = false
    ∧ (play strict fresh [(.bytes (Frame.bytes (Tx.ofKind .commit)), 0)]).sink.accepted
      = .empty := by
  have hw : Frame.Writable (Tx.ofKind .commit) := ⟨by decide, by decide, by decide, nofun⟩
  have hin : Frame.Within {} (Tx.ofKind .commit) := ⟨by decide, by decide⟩
  rw [play_frame (x := fresh) rfl (by decide) rfl hw hin]
  exact ⟨rfl, rfl, rfl⟩

end Runs

end Host

end CellSync.Login
