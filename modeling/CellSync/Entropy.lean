/-
Randomness as data.

A source says what each draw gives, and a counter says how many have
been made, so a run that draws is a function of its source. The outer
layer supplies the source.
-/
import CellSync.Octets.Hex

namespace CellSync

/-- A source of random numbers and how far it has been used. -/
structure Entropy where
  source : Nat → Nat
  drawn : Nat := 0

namespace Entropy

/-- The lowercase hexadecimal text of `n` random bytes. -/
def hex (e : Entropy) (n : Nat) : String × Entropy :=
  ((Octets.ofNat (e.source e.drawn) : Octets n).toHex, { e with drawn := e.drawn + 1 })

end Entropy

end CellSync
