/-
Transaction identifiers.

Thirty-two bytes: six of Unix seconds, two of a fraction in units of
1/65536 s, and a suffix of 24, most often the head of a content hash.
The time leads, most significant byte first, so identifiers compare by
time and, at equal times, by suffix. `successor` is how a host keeps the
identifiers it hands out strictly rising when its clock does not.

Clock readings are data: a signed count of nanoseconds since the Unix
epoch, which the outer layer supplies.
-/
import CellSync.Blake3
import CellSync.Octets.Base32
import CellSync.Octets.Hex

namespace CellSync

/-- A reading of a wall clock. -/
structure ClockTime where
  /-- Nanoseconds since the Unix epoch, negative before it. -/
  nanos : Int
deriving DecidableEq

namespace ClockTime

/-- The reading a number of seconds and nanoseconds after the epoch. -/
def after (seconds nanos : Nat) : ClockTime := ⟨(seconds * 1000000000 + nanos : Nat)⟩

/-- The reading a number of seconds and nanoseconds before the epoch. -/
def before (seconds nanos : Nat) : ClockTime := ⟨-(seconds * 1000000000 + nanos : Nat)⟩

/-- A reading moved forward. -/
def add (t : ClockTime) (nanos : Nat) : ClockTime := ⟨t.nanos + nanos⟩

end ClockTime

/-- A transaction identifier of 32 bytes. -/
structure Tid where
  octets : Octets 32
deriving DecidableEq

namespace Tid

/-- Why some text or bytes are not an identifier that may be used. -/
inductive Fault where
  | text (fault : Base32.Fault)
  | wrongSize (got : Nat)
  /-- The zero identifier stands for "none" and cannot be sent. -/
  | reserved
  | described (reason : String)
deriving DecidableEq

/-- The wording of a refusal. -/
def Fault.message : Fault → String
  | .text fault => fault.message
  | .wrongSize got => s!"expected 32 bytes, got {got}"
  | .reserved => "zero tid is reserved for unassigned"
  | .described reason => reason

/-- Why an identifier cannot be made from a clock reading and a suffix. -/
inductive MakeFault where
  | emptySuffix
  | beforeEpoch
  | outOfRange (seconds : Nat)
  | described (reason : String)
deriving DecidableEq

/-- The wording of a refusal. -/
def MakeFault.message : MakeFault → String
  | .emptySuffix => "tid suffix source must not be empty"
  | .beforeEpoch => "clock time precedes the unix epoch"
  | .outOfRange seconds => s!"clock time {seconds}s exceeds the 48-bit tid range"
  | .described reason => reason

instance : LT Tid := ⟨fun a b => a.octets < b.octets⟩

instance (a b : Tid) : Decidable (a < b) := inferInstanceAs (Decidable (a.octets < b.octets))

instance : LE Tid := ⟨fun a b => a.octets ≤ b.octets⟩

instance (a b : Tid) : Decidable (a ≤ b) := inferInstanceAs (Decidable (a.octets ≤ b.octets))

-- ======================================================= parts and forms

/-- The unassigned identifier. -/
def zero : Tid := ⟨.zero⟩

/-- Whether all bytes are zero. -/
def isZero (t : Tid) : Bool := t.octets.isZero

/-- The Unix seconds. -/
def seconds (t : Tid) : Nat := t.octets.value >>> 208

/-- The fraction of a second, in units of 1/65536 s. -/
def fraction (t : Tid) : Nat := t.octets.value >>> 192 % 65536

/-- The 24-byte suffix. -/
def suffix (t : Tid) : Octets 24 := t.octets.takeLast 24

/-- The time of the identifier, in nanoseconds since the epoch. -/
def timeNanos (t : Tid) : Nat := t.seconds * 1000000000 + t.fraction * 1000000000 / 65536

/-- The time of the identifier. -/
def time (t : Tid) : ClockTime := .after 0 t.timeNanos

/-- The 52-symbol text. -/
def encode (t : Tid) : String := t.octets.encode

/-- The identifier that a text stands for. -/
def decode (text : String) : Except Fault Tid :=
  match Octets.decode text with
  | .ok octets => .ok ⟨octets⟩
  | .error fault => .error (.text fault)

/-- The identifier of exactly 32 bytes. -/
def ofBytes (bs : List UInt8) : Except Fault Tid :=
  match Octets.ofBytes? bs with
  | some octets => .ok ⟨octets⟩
  | none => .error (.wrongSize bs.length)

-- ============================================================ making one

/-- The largest second that fits in six bytes. -/
def maxSeconds : Nat := 0xffffffffffff

/-- The identifier of a clock reading and a suffix source, which is cut to
24 bytes or filled up with zero bytes. -/
def make (clock : ClockTime) (source : List UInt8) : Except MakeFault Tid :=
  if source.isEmpty then .error .emptySuffix
  else if clock.nanos < 0 then .error .beforeEpoch
  else
    let total := clock.nanos.toNat
    let secs := total / 1000000000
    if maxSeconds < secs then .error (.outOfRange secs)
    else
      let frac := total % 1000000000 * 65536 / 1000000000
      let tail : Octets 24 := .ofBytes (source.take 24 ++ List.replicate (24 - source.length) 0)
      .ok ⟨.ofNat (secs <<< 208 + frac <<< 192 + tail.value)⟩

/-- The identifier of a clock reading and the hash of some content. -/
def ofContent (clock : ClockTime) (content : ByteArray) : Except MakeFault Tid :=
  make clock (Blake3.hash content).toBytes

/-- Slightly over 1/65536 s, so that a bumped time lands on the next fraction. -/
def tickNanos : Nat := 15260

/-- The identifier after `last`: the clock's own when that is greater, else
the one a tick after `last`. -/
def successor (last : Option Tid) (clock : ClockTime) (content : ByteArray) :
    Except MakeFault Tid := do
  let tid ← ofContent clock content
  match last with
  | some prev =>
    if tid ≤ prev then ofContent (prev.time.add tickNanos) content else pure tid
  | none => pure tid

end Tid

end CellSync
