/-
What is said in a login is small.

All that the two sides make up for a login has a fixed size: nonces and
tokens, hashes, identifiers. So an attempt stays within the payload of a
login if the visitor answers with a secret, the host keeps its
checkpoints in memory, and the claim and the checkpoints that are kept
already are small (`small_talk`).
-/
import CellSync.Proofs.Login.Talk

namespace CellSync.Login

/-- Whether a message is within the payload of a login. -/
def Message.Small (m : Message) : Prop := m.toJson.length ≤ ({} : Config).maxPayload

instance (m : Message) : Decidable m.Small := inferInstanceAs (Decidable (_ ≤ _))

/-- Limits with room for the payload of a login. -/
structure Roomy (config : TxConfig) : Prop where
  ops : 1 ≤ config.maxOps
  data : ({} : Config).maxPayload ≤ config.maxData

/-- Limits for a login have that room, if they allow one op. -/
theorem roomy_limits {config : TxConfig} (h : 1 ≤ config.maxOps) :
    Roomy (({} : Config).limits config) := ⟨h, Nat.le_refl _⟩

namespace Message

variable {m : Message} {nonce correlation user token session : String}

/-- A small message fits wherever there is room for it. -/
theorem Small.fits (h : m.Small) {config : TxConfig} (hroomy : Roomy config) : m.Fits config :=
  ⟨hroomy.ops, Nat.le_trans h hroomy.data, Nat.le_trans h (by decide)⟩

/-- A message is small if its members are, even if every character is escaped. -/
theorem small_of_room (h : Json.room m.fields < ({} : Config).maxPayload) : m.Small := by
  have hne : m.fields ≠ [] := List.cons_ne_nil _ _
  rw [Small, toJson_eq]
  exact Nat.le_trans (Json.length_object_le hne) h

/-- A challenge is small, whatever was drawn for it. -/
theorem small_challenge (hnonce : nonce.utf8ByteSize = 64)
    (hcorrelation : correlation.utf8ByteSize = 16) : (challenge ⟨nonce, correlation⟩).Small := by
  refine small_of_room ?_
  simp only [fields, step, Json.room, hnonce, hcorrelation]
  decide +kernel

/-- So is a response to it. -/
theorem small_response (hcorrelation : correlation.utf8ByteSize = 16) (digest : Octets 32) :
    (response ⟨correlation, digest.toHex⟩).Small := by
  refine small_of_room ?_
  simp only [fields, step, Json.room, hcorrelation,
    Octets.utf8ByteSize_toHex]
  decide +kernel

/-- So is a checkpoint for a user that may be looked up. -/
theorem small_checkpoint (huser : user.utf8ByteSize ≤ Host.maxUserBytes)
    (htoken : token.utf8ByteSize = 64) (hsession : session.utf8ByteSize = 16) :
    (checkpoint (.ofUser user token session)).Small := by
  have hmax : Host.maxUserBytes = 256 := rfl
  have hnames : "step".utf8ByteSize = 4 ∧ "token".utf8ByteSize = 5 ∧ "session_id".utf8ByteSize = 10
      ∧ "member_id".utf8ByteSize = 9 ∧ "home_feed".utf8ByteSize = 9 ∧ "user_id".utf8ByteSize = 7
      ∧ "checkpoint".utf8ByteSize = 10 := by decide +kernel
  have hid : ∀ name, (TagId.ofName name).encode.utf8ByteSize = 39 :=
    fun name => Octets.utf8ByteSize_encode _
  refine small_of_room ?_
  have hpayload : ({} : Config).maxPayload = 16384 := rfl
  simp only [fields, step, Checkpoint.ofUser, Json.room, htoken, hsession, hid]
  omega

end Message

section Replies

variable {verifier : Verifier} {state : Host.State CheckpointTable}

/-- The answer to a claim is small if the checkpoints are that are kept. -/
theorem small_onClaim (verifier : Verifier)
    (hkept : ∀ c ∈ state.store.live, (Message.checkpoint c).Small) (claim : Claim) :
    ∀ reply ∈ (Host.onClaim verifier CheckpointTable.store state claim).reply, reply.Small := by
  intro reply hreply
  unfold Host.onClaim at hreply
  split at hreply
  · cases hreply
    decide +kernel
  · split at hreply
    -- A checkpoint that is still live is one of those that are kept.
    next checkpoint hlive =>
      obtain ⟨token, -, hvalid⟩ := Option.bind_eq_some_iff.mp hlive
      obtain ⟨hfound, -⟩ := Option.filter_eq_some_iff.mp hvalid
      cases hreply
      exact hkept checkpoint (List.mem_of_find?_eq_some hfound)
    next =>
      split at hreply
      · obtain ⟨nonce, correlation, entropy, hnonce, hcorrelation, hchallenge⟩ :=
          Host.exists_challenge state claim
        rw [hchallenge] at hreply
        cases hreply
        exact Message.small_challenge hnonce hcorrelation
      · cases hreply
        decide +kernel

/-- The answer to a response is small. -/
theorem small_onResponse (maxAttempts : Nat) {claim : Claim}
    (huser : claim.userId.utf8ByteSize ≤ Host.maxUserBytes) (challenge : Challenge)
    (response : Response) :
    ∀ reply ∈ (Host.onResponse verifier CheckpointTable.store maxAttempts state claim challenge
      response).reply, reply.Small := by
  intro reply hreply
  unfold Host.onResponse at hreply
  split at hreply
  · cases hreply
    exact Message.small_checkpoint huser (Octets.utf8ByteSize_toHex _) (Octets.utf8ByteSize_toHex _)
  · dsimp only at hreply
    split at hreply <;>
    · cases hreply
      decide +kernel

/-- What is said in an attempt of a visitor with a secret is small. -/
theorem small_talk (verifier : Verifier) (maxAttempts : Nat) (hphase : state.phase = .claim)
    (hkept : ∀ c ∈ state.store.live, (Message.checkpoint c).Small) {v : Visitor} {secret : Secret}
    (hrespond : v.respond = secret.respond) (hclaim : (Message.claim v.claim).Small) :
    (∀ m ∈ (v.talk (Host.react verifier CheckpointTable.store maxAttempts) state).byVisitor,
        m.Small)
      ∧ ∀ m ∈ (v.talk (Host.react verifier CheckpointTable.store maxAttempts) state).byHost,
          m.Small := by
  have hanswer := Host.answer_react verifier CheckpointTable.store maxAttempts state
    (.claim v.claim)
  have hfirst := small_onClaim verifier hkept v.claim
  rw [← Host.react_claim verifier CheckpointTable.store maxAttempts hphase] at hfirst
  unfold Visitor.talk
  generalize Host.react verifier CheckpointTable.store maxAttempts state (.claim v.claim) = first
    at hanswer hfirst
  cases hanswer with
  | resumed | refused =>
      exact ⟨List.forall_mem_singleton.mpr hclaim, List.forall_mem_singleton.mpr (hfirst _ rfl)⟩
  | challenged _ hnamed _ =>
      obtain ⟨nonce, correlation, entropy, -, hcorrelation, hchallenge⟩ :=
        Host.exists_challenge state v.claim
      rw [hchallenge] at hfirst ⊢
      have hresponse : (v.response ⟨nonce, correlation⟩).Small := by
        rw [Visitor.response, hrespond]
        exact Message.small_response hcorrelation _
      refine ⟨List.forall_mem_cons.mpr ⟨hclaim, List.forall_mem_singleton.mpr hresponse⟩,
        List.forall_mem_cons.mpr ⟨hfirst _ rfl, fun reply hreply => ?_⟩⟩
      exact small_onResponse maxAttempts hnamed.2 _ _ reply (Option.mem_toList.mp hreply)

end Replies

end CellSync.Login
