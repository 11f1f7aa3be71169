/-
Checkpoints: credentials that let a client log in again.

A host may keep them in any store; `CheckpointTable` keeps them in
memory. A checkpoint carries a random token and session id and the
identifiers of its user.
-/
import CellSync.Entropy
import CellSync.Login.Message

namespace CellSync.Login

/-- The operations of a store with contents `σ`. -/
structure CheckpointStore (σ : Type) where
  /-- Makes and keeps a checkpoint for a claim. -/
  issue : σ → Claim → Entropy → Checkpoint × σ × Entropy
  /-- The live checkpoint with a token, if it belongs to the user. -/
  validate : σ → String → String → Option Checkpoint

/-- The checkpoint of a user with a token and a session id. -/
def Checkpoint.ofUser (user token session : String) : Checkpoint :=
  ⟨token, session, (TagId.ofName user).encode, (TagId.ofName (user ++ "/home")).encode, user⟩

/-- Checkpoints kept in memory, by token. -/
structure CheckpointTable where
  live : List Checkpoint := []

namespace CheckpointTable

/-- Makes and keeps a checkpoint for a claim. -/
def issue (t : CheckpointTable) (claim : Claim) (e : Entropy) :
    Checkpoint × CheckpointTable × Entropy :=
  let (token, e) := e.hex 32
  let (session, e) := e.hex 8
  let checkpoint := Checkpoint.ofUser claim.userId token session
  (checkpoint, ⟨t.live.filter (·.token ≠ token) ++ [checkpoint]⟩, e)

/-- The checkpoint with a token, if it belongs to the user. -/
def validate (t : CheckpointTable) (token user : String) : Option Checkpoint :=
  (t.live.find? (·.token = token)).filter (·.userId = user)

/-- Forgets the checkpoint with a token, and tells whether there was one. -/
def revoke (t : CheckpointTable) (token : String) : Bool × CheckpointTable :=
  (t.live.any (·.token = token), ⟨t.live.filter (·.token ≠ token)⟩)

/-- How many checkpoints are live. -/
def size (t : CheckpointTable) : Nat := t.live.length

/-- The table as a store. -/
def store : CheckpointStore CheckpointTable := ⟨issue, validate⟩

/-- A table in diagnostics: only its size is shown. -/
def describe (t : CheckpointTable) : String :=
  Text.record "MemoryCheckpointStore" [("live", toString t.size)]

end CheckpointTable

end CellSync.Login
