/-
Identifiers are chronological.

The ticks of a reading stand above the suffix of its identifier, so the
order of two identifiers is that of their ticks, and at equal ticks that
of their suffixes. Ticks never fall as a clock goes on, which orders what
one source makes. They rise at the latest after 15259 nanoseconds,
whatever second begins between (`ticksOf_lt`), and that far apart no
suffix matters. Telling the time of an identifier rounds down a second
time; the two roundings lose less than 15260 nanoseconds
(`nanos_of_ticks`).
-/
import CellSync.Proofs.Tid

namespace CellSync

namespace ClockTime

/-- The second that a reading falls in. -/
def second (t : ClockTime) : Int := t.nanos / 1000000000

/-- Whether the second of a reading fits in the six bytes of an identifier. -/
def InRange (t : ClockTime) : Prop := 0 ≤ t.second ∧ t.second < (2 ^ 48 : Nat)

instance (t : ClockTime) : Decidable t.InRange := inferInstanceAs (Decidable (_ ∧ _))

end ClockTime

namespace Tid

-- =============================================================== rounding

theorem ticksOf_le {early late : Nat} (h : early ≤ late) : ticksOf early ≤ ticksOf late := by
  rw [ticksOf_eq, ticksOf_eq]
  exact Nat.div_le_div_right (Nat.mul_le_mul_right _ h)

/-- A tick is shorter than 15259 nanoseconds. -/
theorem ticksOf_lt {early late : Nat} (h : early + 15259 ≤ late) :
    ticksOf early < ticksOf late := by
  rw [ticksOf_eq, ticksOf_eq]
  omega

/-- Nanoseconds told from their ticks are the same, less what two roundings
lose. -/
theorem nanos_of_ticks (nanos : Nat) :
    ∃ lost < 15260, nanos = ticksOf nanos / 65536 * 1000000000
      + ticksOf nanos % 65536 * 1000000000 / 65536 + lost := by
  have hfraction : ticksOf nanos % 65536 = nanos % 1000000000 * 65536 / 1000000000 := by
    unfold ticksOf
    omega
  have hrounded : nanos % 1000000000 * 65536 / 1000000000 * 1000000000 / 65536
      ≤ nanos % 1000000000 := by omega
  have hclose : nanos % 1000000000
      < nanos % 1000000000 * 65536 / 1000000000 * 1000000000 / 65536 + 15260 := by omega
  obtain ⟨lost, hlost⟩ := Nat.exists_eq_add_of_le hrounded
  rw [ticksOf_div, hfraction]
  refine ⟨lost, by omega, ?_⟩
  rw [Nat.add_assoc, ← hlost, Nat.div_add_mod']

-- ========================================================== what is made

/-- A reading is in range if it is neither refused as too early nor as too late. -/
theorem inRange_iff {clock : ClockTime} :
    clock.InRange ↔ 0 ≤ clock.nanos ∧ clock.nanos.toNat / 1000000000 ≤ maxSeconds := by
  unfold ClockTime.InRange ClockTime.second maxSeconds
  omega

/-- A reading in range and a source of at least a byte make an identifier. -/
theorem exists_make {clock : ClockTime} {source : List UInt8} (hrange : clock.InRange)
    (hsource : source ≠ []) : ∃ t, make clock source = .ok t := by
  obtain ⟨hstarted, hmax⟩ := inRange_iff.mp hrange
  have hmaking := making clock source
  generalize make clock source = answer at hmaking
  cases hmaking with
  | emptySuffix hnil => exact absurd hnil hsource
  | beforeEpoch _ hepoch => omega
  | outOfRange _ _ hlate => omega
  | made _ _ _ _ => exact ⟨_, rfl⟩

/-- Nothing else does. -/
theorem of_make {clock : ClockTime} {source : List UInt8} {t : Tid}
    (h : make clock source = .ok t) : source ≠ [] ∧ clock.InRange := by
  have hmaking := making clock source
  rw [h] at hmaking
  cases hmaking with
  | made hsource hstarted hmax _ => exact ⟨hsource, inRange_iff.mpr ⟨hstarted, hmax⟩⟩

/-- An identifier tells the time of a reading: the second that it falls in, and
the time to less than 15260 nanoseconds, rounded down. -/
structure Tells (t : Tid) (clock : ClockTime) : Prop where
  seconds_eq : (t.seconds : Int) = clock.second
  nonneg : 0 ≤ clock.nanos - t.time.nanos
  lt : clock.nanos - t.time.nanos < 15260

theorem tells_of_make {clock : ClockTime} {source : List UInt8} {t : Tid}
    (h : make clock source = .ok t) : t.Tells clock := by
  have hstarted : 0 ≤ clock.nanos := (inRange_iff.mp (of_make h).2).1
  have hticks := ticks_of_make h
  obtain ⟨lost, hlost, hnanos⟩ := nanos_of_ticks clock.nanos.toNat
  rw [← hticks] at hnanos
  have htime : t.time.nanos = (t.timeNanos : Nat) := by
    rw [time, ClockTime.after, Nat.zero_mul, Nat.zero_add]
  have htold : clock.nanos = t.timeNanos + lost := by
    rw [timeNanos, seconds_eq, fraction_eq, ← Int.toNat_of_nonneg hstarted]
    exact_mod_cast hnanos
  refine ⟨?_, by omega, by omega⟩
  rw [seconds_eq, hticks, ticksOf_div, ClockTime.second]
  omega

-- ================================================================= order

/-- Identifiers that are in order have their bytes in order. -/
theorem toBytes_le_toBytes {a b : Tid} (h : a ≤ b) : a.octets.toBytes ≤ b.octets.toBytes := by
  intro hbytes
  have hlt : b.octets < a.octets :=
    (Octets.lt_iff_of_lt (fun _ _ => List.lt_asymm) Octets.toBytes_lt_toBytes).mpr hbytes
  exact Nat.not_lt.mpr h hlt

/-- One source makes no lesser identifier of a later reading. -/
theorem le_of_make {early late : ClockTime} {source : List UInt8} {a b : Tid}
    (ha : make early source = .ok a) (hb : make late source = .ok b)
    (h : early.nanos ≤ late.nanos) : a ≤ b := by
  have hticks : ticksOf early.nanos.toNat ≤ ticksOf late.nanos.toNat :=
    ticksOf_le (Int.toNat_le_toNat h)
  show a.octets.value ≤ b.octets.value
  rw [value_of_make ha, value_of_make hb]
  exact Nat.add_le_add_right (Nat.mul_le_mul_right _ hticks) _

/-- A reading at least a tick later makes a greater identifier, from any source. -/
theorem lt_of_make {early late : ClockTime} {source other : List UInt8} {a b : Tid}
    (ha : make early source = .ok a) (hb : make late other = .ok b)
    (h : early.nanos + 15259 ≤ late.nanos) : a < b := by
  have hstarted : 0 ≤ early.nanos := (inRange_iff.mp (of_make ha).2).1
  apply lt_of_ticks_lt
  rw [ticks_of_make ha, ticks_of_make hb]
  exact ticksOf_lt (by omega)

/-- The timestamps of identifiers are chronological. A reading in range and a
source of at least a byte make an identifier that tells its time; from one
source a later reading makes no lesser identifier, and from any sources one at
least 15259 nanoseconds later a greater one. Nothing else is made. -/
theorem make_chronological (clock : ClockTime) (source : List UInt8) :
    (clock.InRange → source ≠ [] → ∃ t, make clock source = .ok t ∧ t.Tells clock)
      ∧ (∀ late : ClockTime, clock.InRange → late.InRange → source ≠ [] →
          clock.nanos ≤ late.nanos →
          ∃ a b, make clock source = .ok a ∧ make late source = .ok b ∧ a ≤ b
            ∧ a.octets.toBytes ≤ b.octets.toBytes)
      ∧ (∀ (late : ClockTime) (other : List UInt8), clock.InRange → late.InRange →
          source ≠ [] → other ≠ [] → clock.nanos + 15259 ≤ late.nanos →
          ∃ a b, make clock source = .ok a ∧ make late other = .ok b ∧ a.SortsBelow b)
      ∧ ((∃ fault, make clock source = .error fault) ↔ source = [] ∨ ¬clock.InRange) := by
  refine ⟨?_, ?_, ?_, ?_⟩
  · intro hrange hsource
    obtain ⟨t, hmade⟩ := exists_make hrange hsource
    exact ⟨t, hmade, tells_of_make hmade⟩
  · intro late hrange hlate hsource hle
    obtain ⟨a, ha⟩ := exists_make hrange hsource
    obtain ⟨b, hb⟩ := exists_make hlate hsource
    have hab : a ≤ b := le_of_make ha hb hle
    exact ⟨a, b, ha, hb, hab, toBytes_le_toBytes hab⟩
  · intro late other hrange hlate hsource hother hlater
    obtain ⟨a, ha⟩ := exists_make hrange hsource
    obtain ⟨b, hb⟩ := exists_make hlate hother
    exact ⟨a, b, ha, hb, sortsBelow_of_lt (lt_of_make ha hb hlater)⟩
  · constructor
    · rintro ⟨fault, hrefused⟩
      by_contra hneither
      rw [not_or, not_not] at hneither
      obtain ⟨t, hmade⟩ := exists_make hneither.2 hneither.1
      rw [hmade] at hrefused
      cases hrefused
    · intro hbad
      cases hanswer : make clock source with
      | error fault => exact ⟨fault, rfl⟩
      | ok t =>
          obtain ⟨hsource, hrange⟩ := of_make hanswer
          rcases hbad with hnil | hout
          · exact absurd hnil hsource
          · exact absurd hrange hout

/-- The last nanosecond of a second sorts before the first tick of the next, also
with the greater suffix. -/
theorem make_chronological_carry :
    ∃ a b, make (.after 1 999999999) [0xff] = .ok a ∧ make (.after 2 15258) [0x00] = .ok b
      ∧ a.SortsBelow b ∧ a.Tells (.after 1 999999999) := by
  obtain ⟨htells, -, hlater, -⟩ := make_chronological (.after 1 999999999) [0xff]
  obtain ⟨a, b, ha, hb, hab⟩ :=
    hlater (.after 2 15258) [0x00] (by decide) (by decide) (by decide) (by decide) (by decide)
  obtain ⟨t, ht, htold⟩ := htells (by decide) (by decide)
  rw [ha] at ht
  rw [← Except.ok.inj ht] at htold
  exact ⟨a, b, ha, hb, hab, htold⟩

-- A nanosecond less and the two readings may share a tick.
example : ticksOf 0 = ticksOf 15258 := by decide

end Tid

end CellSync
