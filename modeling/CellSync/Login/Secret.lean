/-
Proof of identity by a shared secret.

A key is derived from the secret; the answer to a challenge is the keyed
hash of the nonce followed by the user id, in hexadecimal. A host may
know its users by any `Verifier`; `Credentials` is a fixed table.
-/
import CellSync.Blake3
import CellSync.Octets.Hex
import CellSync.Text.Quoted
import CellSync.Text.Record

namespace CellSync.Login

-- ================================================================ secrets

/-- A key that answers challenges. -/
structure Secret where
  key : Octets 32
deriving DecidableEq

namespace Secret

/-- What the derived keys are for. -/
def purpose : String := "amp 2024 login challenge response"

/-- The key of a secret. -/
def ofText (secret : String) : Secret := ⟨Blake3.deriveKey purpose secret.toUTF8⟩

/-- What is hashed for a user and a nonce. -/
def payload (user nonce : String) : ByteArray := nonce.toUTF8 ++ user.toUTF8

/-- The keyed hash for a user and a nonce. -/
def digest (s : Secret) (user nonce : String) : Octets 32 :=
  Blake3.keyed s.key (payload user nonce)

/-- The answer to a challenge. -/
def respond (s : Secret) (user nonce : String) : String := (s.digest user nonce).toHex

/-- A secret in diagnostics. -/
def describe (_ : Secret) : String := "SharedSecret(<redacted>)"

end Secret

-- ============================================================== verifiers

/-- Who a host knows, and which answers it takes for proof. -/
structure Verifier where
  knows : String → Bool
  /-- Whether a user's answer to a nonce is right. -/
  verify : String → String → String → Bool

/-- A fixed table of users. -/
structure Credentials where
  users : List (String × Secret) := []

namespace Credentials

/-- The table with a user's secret set. -/
def withUser (c : Credentials) (user secret : String) : Credentials :=
  ⟨c.users.filter (·.1 ≠ user) ++ [(user, .ofText secret)]⟩

/-- The table of some users and secrets; of two secrets for a user the later counts. -/
def ofList (users : List (String × String)) : Credentials :=
  users.foldl (fun c (user, secret) => c.withUser user secret) {}

/-- How many users there are. -/
def size (c : Credentials) : Nat := c.users.length

/-- Whether a user is in the table. -/
def knows (c : Credentials) (user : String) : Bool := (c.users.lookup user).isSome

/-- Whether an answer, in hexadecimal of either case, is the right one. -/
def verify (c : Credentials) (user nonce answer : String) : Bool :=
  match c.users.lookup user, (Octets.ofHex? answer : Option (Octets 32)) with
  | some secret, some given => secret.digest user nonce = given
  | _, _ => false

/-- The table as a verifier. -/
def verifier (c : Credentials) : Verifier := ⟨c.knows, c.verify⟩

/-- A table in diagnostics: its users in order. -/
def describe (c : Credentials) : String :=
  let names := (c.users.map Prod.fst).mergeSort fun a b => decide (a ≤ b)
  Text.record "StaticCredentials" [("users", Text.bracketed (names.map Text.quoted))]

end Credentials

end CellSync.Login
