/-
The host's side of a login.

The host answers every message with exactly one: a claim with a
challenge, unless its checkpoint is still live; a right response with a
checkpoint; anything else with a failure. A wrong response leaves room
for another claim until there have been too many. Each challenge is made
fresh, and only the message right after it can answer it.
-/
import CellSync.Login.Checkpoints
import CellSync.Login.Exchange
import CellSync.Login.Secret

namespace CellSync.Login.Host

/-- The longest user id in bytes. -/
def maxUserBytes : Nat := 256

/-- The bytes of a nonce. -/
def nonceSize : Nat := 32

/-- What the host is waiting for. -/
inductive Phase where
  | claim
  /-- The answer to a challenge that a claim was given. -/
  | response (claim : Claim) (challenge : Challenge)

/-- The host in the middle of a login, over a store with contents `σ`. -/
structure State (σ : Type) where
  phase : Phase := .claim
  failures : Nat := 0
  store : σ
  entropy : Entropy

variable {σ : Type}

/-- Refuses and ends the login. -/
def refuse (state : State σ) (code : ErrorCode) (reason : String) : Reaction (State σ) :=
  ⟨some (.failed code reason), state, some (.error (.rejected code reason))⟩

/-- Accepts and ends the login. -/
def accept (state : State σ) (checkpoint : Checkpoint) : Reaction (State σ) :=
  ⟨some (.checkpoint checkpoint), state, some (.ok checkpoint)⟩

/-- Challenges a claim. -/
def challenge (state : State σ) (claim : Claim) : Reaction (State σ) :=
  let (nonce, entropy) := state.entropy.hex nonceSize
  let (correlation, entropy) := entropy.hex 8
  let challenge : Challenge := ⟨nonce, correlation⟩
  ⟨some (.challenge challenge),
    { state with phase := .response claim challenge, entropy := entropy }, none⟩

/-- Answers a claim. -/
def onClaim (verifier : Verifier) (store : CheckpointStore σ) (state : State σ) (claim : Claim) :
    Reaction (State σ) :=
  if claim.userId.isEmpty || maxUserBytes < claim.userId.utf8ByteSize then
    refuse state .loginFailed "invalid user id"
  else
    match claim.checkpoint.bind fun token => store.validate state.store token claim.userId with
    | some checkpoint => accept state checkpoint
    | none =>
      if verifier.knows claim.userId then challenge state claim
      else refuse state .loginFailed "unknown user"

/-- Answers a response to a challenge. -/
def onResponse (verifier : Verifier) (store : CheckpointStore σ) (maxAttempts : Nat)
    (state : State σ) (claim : Claim) (challenge : Challenge) (response : Response) :
    Reaction (State σ) :=
  if response.correlationId = challenge.correlationId ∧
      verifier.verify claim.userId challenge.nonce response.hash then
    let (checkpoint, contents, entropy) := store.issue state.store claim state.entropy
    accept { state with store := contents, entropy := entropy } checkpoint
  else
    let state := { state with phase := .claim, failures := state.failures + 1 }
    if maxAttempts ≤ state.failures then refuse state .authFailed "too many failed attempts"
    else ⟨some (.failed .authFailed "challenge response rejected"), state, none⟩

/-- What the host does with a message. -/
def react (verifier : Verifier) (store : CheckpointStore σ) (maxAttempts : Nat) :
    React (State σ) := fun state m =>
  match state.phase, m with
  | .claim, .claim claim => onClaim verifier store state claim
  | .claim, other =>
    let error := SessionError.protocol ("expected login claim, got " ++ other.step)
    ⟨some (.failed .badRequest error.message), state, some (.error error)⟩
  | .response claim challenge, .response response =>
    onResponse verifier store maxAttempts state claim challenge response
  | .response _ _, other =>
    refuse state .badRequest ("expected login response, got " ++ other.step)

/-- The host before the first claim. -/
def start (contents : σ) (entropy : Entropy) (reader : Reader) (sink : Sink) :
    Exchange (State σ) :=
  ⟨⟨.claim, 0, contents, entropy⟩, reader, sink, none⟩

end CellSync.Login.Host
