/-
Both sides of a login, joined by streams that lose nothing.

The client makes attempts one after the other; each starts with a claim
and ends with a verdict. In a round the host handles what the client has
written, and then the client what the host has answered. When the host
has ended the login without a verdict, the client finds the end of the
stream, or that it was reset if the host has left bytes unread.
-/
import CellSync.Login.Client
import CellSync.Login.Host

namespace CellSync.Login

/-- The two sides in the middle of an attempt. -/
structure Dialogue (σ : Type) where
  host : Exchange (Host.State σ)
  client : Exchange Client.Phase
  /-- The host has ended the login with bytes of the client unread. -/
  unread : Bool := false

/-- What the two sides do. -/
structure Rules (σ : Type) where
  host : Side (Host.State σ)
  client : Side Client.Phase

namespace Dialogue

variable {σ : Type}

/-- One side handles what the other has written, and whether it leaves some of it
unread: no more is read once the login has ended. -/
def hear {τ : Type} (side : Side τ) (x : Exchange τ) (bytes : ByteArray) : Exchange τ × Bool :=
  if bytes.size = 0 then (x, false)
  else (Read.ofBytes bytes).foldl (fun (x, unread) call =>
    if x.result.isSome then (x, true) else (x.feed side call 0, unread)) (x, false)

/-- The host handles what the client has written, then the client the answer. -/
def round (rules : Rules σ) (d : Dialogue σ) : Dialogue σ :=
  let (claimed, client) := d.client.takeSent
  let (host, unread) := hear rules.host d.host claimed
  let (answered, host) := host.takeSent
  ⟨host, (hear rules.client client answered).1, d.unread || unread⟩

/-- What the client reads when there is nothing more to read. -/
def ending (d : Dialogue σ) : Read := if d.unread then .failed .reset else .bytes ByteArray.empty

/-- Rounds until the client has a verdict; a claim and a response take one each. -/
def attempt (rules : Rules σ) (d : Dialogue σ) : Dialogue σ :=
  let d := round rules (round rules d)
  { d with client := d.client.feed rules.client d.ending 0 }

end Dialogue

end CellSync.Login
