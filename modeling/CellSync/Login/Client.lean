/-
The client's side of a login attempt.

The client claims, answers the challenge it is given, and takes the
verdict. A failure that the host sends ends the attempt as a refusal
with the host's code and reason; the same streams may carry another
attempt.
-/
import CellSync.Login.Exchange
import CellSync.Login.Secret

namespace CellSync.Login.Client

/-- What the client is waiting for. -/
inductive Phase where
  | challenge
  | verdict
deriving DecidableEq

/-- How a client answers a user's challenge. -/
abbrev Responder := String → String → String

/-- What the client does with a message. -/
def react (user : String) (respond : Responder) : React Phase := fun phase m =>
  match phase, m with
  | _, .checkpoint checkpoint => ⟨none, phase, some (.ok checkpoint)⟩
  | _, .failed code reason => ⟨none, phase, some (.error (.rejected code reason))⟩
  | .challenge, .challenge c =>
    ⟨some (.response ⟨c.correlationId, respond user c.nonce⟩), .verdict, none⟩
  | .challenge, other =>
    ⟨none, phase, some (.error (.protocol ("expected challenge, got " ++ other.step)))⟩
  | .verdict, other =>
    ⟨none, phase, some (.error (.protocol ("expected checkpoint, got " ++ other.step)))⟩

/-- The client after sending its claim. -/
def start (claim : Claim) (config : TxConfig) (reader : Reader) (sink : Sink) : Exchange Phase :=
  (⟨.challenge, reader, sink, none⟩ : Exchange Phase).send config (.claim claim)

end CellSync.Login.Client
