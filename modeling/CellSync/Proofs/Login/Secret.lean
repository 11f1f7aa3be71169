/-
What an answer to a challenge proves.

The nonce and the user id are hashed one after the other, with nothing to
tell where the one ends. So one who answers a nonce for a user has answered
for every other way to cut the same text in two (`payload_eq_iff`): a nonce
that runs on into another user's id is answered for that user too
(`exists_misattributed`). Nonces of one length leave a single place to cut,
and a host makes no others. So among these an answer is right for one user,
one nonce and one secret, unless the hash collides (`bound_answer`).

That the hash has no collisions at all cannot be assumed, since it has. What
is assumed is that the two hashes that are compared are not one (`Collide`).
-/
import CellSync.Proofs.Login.Talk

namespace CellSync.Login

namespace Secret

-- =============================================================== payload

/-- The first nonce is the second one and then a text that the second user id starts
with, and that the first one leaves out. -/
def RunsOn (user₁ nonce₁ user₂ nonce₂ : String) : Prop :=
  ∃ shared, nonce₁ = nonce₂ ++ shared ∧ user₂ = shared ++ user₁

/-- The same of the characters. -/
theorem runsOn_iff (user₁ nonce₁ user₂ nonce₂ : String) :
    RunsOn user₁ nonce₁ user₂ nonce₂
      ↔ ∃ cs, nonce₁.toList = nonce₂.toList ++ cs ∧ user₂.toList = cs ++ user₁.toList := by
  constructor
  · rintro ⟨shared, rfl, rfl⟩
    exact ⟨shared.toList, String.toList_append, String.toList_append⟩
  · rintro ⟨cs, hnonce, huser⟩
    refine ⟨String.ofList cs, String.toList_inj.mp ?_, String.toList_inj.mp ?_⟩
    · rw [String.toList_append, String.toList_ofList, hnonce]
    · rw [String.toList_append, String.toList_ofList, huser]

theorem payload_eq (user nonce : String) : payload user nonce = (nonce ++ user).toByteArray :=
  String.toByteArray_append.symm

/-- The same is hashed for two pairs just if one of them runs on into the other. -/
theorem payload_eq_iff (user₁ nonce₁ user₂ nonce₂ : String) :
    payload user₁ nonce₁ = payload user₂ nonce₂
      ↔ RunsOn user₁ nonce₁ user₂ nonce₂ ∨ RunsOn user₂ nonce₂ user₁ nonce₁ := by
  calc payload user₁ nonce₁ = payload user₂ nonce₂
      ↔ nonce₁.toList ++ user₁.toList = nonce₂.toList ++ user₂.toList := by
        rw [payload_eq, payload_eq, String.toByteArray_inj, ← String.toList_inj,
          String.toList_append, String.toList_append]
    _ ↔ _ := by
        rw [List.append_eq_append_iff, or_comm, runsOn_iff, runsOn_iff]

/-- A nonce that runs on is longer, unless nothing is left of it where the other ends. -/
theorem RunsOn.eq_of_size_eq {user₁ nonce₁ user₂ nonce₂ : String}
    (h : RunsOn user₁ nonce₁ user₂ nonce₂)
    (hsize : nonce₁.utf8ByteSize = nonce₂.utf8ByteSize) : user₁ = user₂ ∧ nonce₁ = nonce₂ := by
  obtain ⟨shared, rfl, rfl⟩ := h
  have hnothing : shared = "" := by
    rw [String.utf8ByteSize_append] at hsize
    exact String.utf8ByteSize_eq_zero_iff.mp (by omega)
  rw [hnothing, String.empty_append, String.append_empty]
  exact ⟨rfl, rfl⟩

/-- Nonces of one length leave one place to cut. -/
theorem payload_inj {user₁ nonce₁ user₂ nonce₂ : String}
    (hsize : nonce₁.utf8ByteSize = nonce₂.utf8ByteSize) :
    payload user₁ nonce₁ = payload user₂ nonce₂ ↔ user₁ = user₂ ∧ nonce₁ = nonce₂ := by
  constructor
  · intro hsame
    rcases (payload_eq_iff user₁ nonce₁ user₂ nonce₂).mp hsame with hruns | hruns
    · exact hruns.eq_of_size_eq hsize
    · obtain ⟨huser, hnonce⟩ := hruns.eq_of_size_eq hsize.symm
      exact ⟨huser.symm, hnonce.symm⟩
  · rintro ⟨rfl, rfl⟩
    rfl

-- ================================================================ answers

/-- Two keyed hashes are one, although the keys or what is hashed differ. -/
def Collide (s₁ : Secret) (user₁ nonce₁ : String) (s₂ : Secret) (user₂ nonce₂ : String) : Prop :=
  s₁.digest user₁ nonce₁ = s₂.digest user₂ nonce₂
    ∧ ¬(s₁ = s₂ ∧ payload user₁ nonce₁ = payload user₂ nonce₂)

/-- An answer is right just if it has the digest that the host makes with its own
secret for the user. -/
theorem verify_respond_eq {credentials : Credentials} {user₂ : String} {s₂ : Secret}
    (hknown : credentials.users.lookup user₂ = some s₂) (s₁ : Secret)
    (user₁ nonce₁ nonce₂ : String) :
    credentials.verify user₂ nonce₂ (s₁.respond user₁ nonce₁)
      = decide (s₂.digest user₂ nonce₂ = s₁.digest user₁ nonce₁) := by
  rw [Credentials.verify, hknown, respond, Octets.ofHex?_toHex]

/-- Apart from collisions, an answer is right just for the secret and the text that it
was made from. -/
theorem verify_respond_iff {credentials : Credentials} {user₁ nonce₁ user₂ nonce₂ : String}
    {s₁ s₂ : Secret} (hknown : credentials.users.lookup user₂ = some s₂)
    (hfree : ¬Collide s₁ user₁ nonce₁ s₂ user₂ nonce₂) :
    credentials.verify user₂ nonce₂ (s₁.respond user₁ nonce₁) = true
      ↔ s₁ = s₂ ∧ payload user₁ nonce₁ = payload user₂ nonce₂ := by
  rw [verify_respond_eq hknown, decide_eq_true_eq]
  constructor
  · intro hdigest
    exact not_not.mp fun hdiffer => hfree ⟨hdigest.symm, hdiffer⟩
  · rintro ⟨rfl, hsame⟩
    rw [digest, digest, hsame]

/-- The same is hashed for two users and nonces just if one of them runs on into the
other. If the nonces have one length, as all have that hosts make, then the users and
the nonces are the same, and an answer that was made for the one is right for the
other just if users, nonces and secrets are all the same, unless the hash collides. -/
theorem bound_answer (s₁ s₂ : Secret) (user₁ nonce₁ user₂ nonce₂ : String)
    (credentials : Credentials) (hknown : credentials.users.lookup user₂ = some s₂) :
    (payload user₁ nonce₁ = payload user₂ nonce₂
        ↔ RunsOn user₁ nonce₁ user₂ nonce₂ ∨ RunsOn user₂ nonce₂ user₁ nonce₁)
      ∧ (nonce₁.utf8ByteSize = nonce₂.utf8ByteSize →
          (payload user₁ nonce₁ = payload user₂ nonce₂ → user₁ = user₂ ∧ nonce₁ = nonce₂)
          ∧ (¬Collide s₁ user₁ nonce₁ s₂ user₂ nonce₂ →
              (credentials.verify user₂ nonce₂ (s₁.respond user₁ nonce₁) = true
                ↔ s₁ = s₂ ∧ user₁ = user₂ ∧ nonce₁ = nonce₂)))
      ∧ ∀ {σ : Type} (state : Host.State σ) (claim : Claim) (c : Challenge),
          (Host.challenge state claim).reply = some (.challenge c) →
          c.nonce.utf8ByteSize = 2 * Host.nonceSize := by
  refine ⟨payload_eq_iff user₁ nonce₁ user₂ nonce₂, fun hsize => ⟨(payload_inj hsize).mp, ?_⟩, ?_⟩
  · intro hfree
    rw [verify_respond_iff hknown hfree, payload_inj hsize]
  · intro σ state claim c hreply
    obtain ⟨nonce, correlation, entropy, hnonce, -, hchallenge⟩ := Host.exists_challenge state claim
    rw [hchallenge] at hreply
    cases hreply
    exact hnonce

/-- Ana's answer to a nonce is not Bob's, although they share a secret, nor is it her
own answer to another nonce. -/
theorem bound_answer_shared :
    let credentials := Credentials.ofList [("ana", "shared"), ("bob", "shared")]
    let s := Secret.ofText "shared"
    credentials.users.lookup "bob" = some s ∧ credentials.users.lookup "ana" = some s
      ∧ "0f".utf8ByteSize = "f0".utf8ByteSize
      ∧ ¬Collide s "ana" "0f" s "bob" "0f" ∧ ¬Collide s "ana" "0f" s "ana" "f0"
      ∧ ¬(credentials.verify "bob" "0f" (s.respond "ana" "0f") = true)
      ∧ ¬(credentials.verify "ana" "f0" (s.respond "ana" "0f") = true) := by
  intro credentials s
  have hbob : credentials.users.lookup "bob" = some s := rfl
  have hana : credentials.users.lookup "ana" = some s := rfl
  have husers : ¬Collide s "ana" "0f" s "bob" "0f" := fun h =>
    absurd h.1 (by decide +kernel)
  have hnonces : ¬Collide s "ana" "0f" s "ana" "f0" := fun h =>
    absurd h.1 (by decide +kernel)
  refine ⟨hbob, hana, rfl, husers, hnonces, fun hright => ?_, fun hright => ?_⟩
  · have hsame := (((bound_answer s s "ana" "0f" "bob" "0f" credentials hbob).2.1 rfl).2
      husers).mp hright
    exact absurd hsame.2.1 (by decide)
  · have hsame := (((bound_answer s s "ana" "0f" "ana" "f0" credentials hana).2.1 rfl).2
      hnonces).mp hright
    exact absurd hsame.2.2 (by decide)

/-- A nonce that a host has made for one user, and then the letter that the other user's
id lacks: whoever answers it has answered the host. -/
theorem exists_misattributed :
    let credentials := Credentials.ofList [("ana", "shared"), ("bana", "shared")]
    let nonce := (Entropy.hex ⟨fun _ => 0, 0⟩ Host.nonceSize).1
    let s := Secret.ofText "shared"
    payload "ana" (nonce ++ "b") = payload "bana" nonce
      ∧ ¬("ana" = "bana" ∧ nonce ++ "b" = nonce)
      ∧ credentials.verify "bana" nonce (s.respond "ana" (nonce ++ "b")) = true := by
  intro credentials nonce s
  have hsame : payload "ana" (nonce ++ "b") = payload "bana" nonce :=
    (payload_eq_iff "ana" (nonce ++ "b") "bana" nonce).mpr (.inl ⟨"b", rfl, rfl⟩)
  have hknown : credentials.users.lookup "bana" = some s := rfl
  refine ⟨hsame, fun h => absurd h.1 (by decide), ?_⟩
  rw [verify_respond_eq hknown, decide_eq_true_eq, digest, digest, hsame]

end Secret

end CellSync.Login
