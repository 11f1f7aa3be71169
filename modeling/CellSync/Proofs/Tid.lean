/-
The identifiers that a host hands out rise, whatever its clock does.

Above its suffix an identifier counts ticks of 1/65536 s. Reading a
clock rounds down to a tick, telling the time of an identifier rounds
down to a nanosecond, and a step of `tickNanos` makes up for both: it
leads to the next tick exactly, at every fraction and across the second
(`ticksOf_add_tickNanos`). So where the clock has not moved on, or has
gone back, the identifier is one tick later all the same. `Making`
lists all that making an identifier can come to, and `Outcome` all that
asking for the next one can.
-/
import CellSync.Tid
import CellSync.Proofs.Octets.Order

namespace CellSync

namespace Tid

-- ================================================================ order

theorem lt_iff {a b : Tid} : a < b ↔ a.octets.value < b.octets.value := Iff.rfl

theorem lt_of_not_le {a b : Tid} (h : ¬a ≤ b) : b < a := Nat.not_le.mp h

theorem lt_of_le_of_lt {a b c : Tid} (hab : a ≤ b) (hbc : b < c) : a < c :=
  Nat.lt_of_le_of_lt hab hbc

/-- An identifier sorts before another: as it is compared, by its bytes and by
its text. -/
structure SortsBelow (a b : Tid) : Prop where
  lt : a < b
  toBytes_lt : a.octets.toBytes < b.octets.toBytes
  encode_lt : a.encode < b.encode

theorem sortsBelow_of_lt {a b : Tid} (h : a < b) : a.SortsBelow b :=
  ⟨h, Octets.toBytes_lt_toBytes h, Octets.encode_lt_encode h⟩

-- ================================================================ ticks

/-- The ticks of 1/65536 s in some nanoseconds, rounded down second by second. -/
def ticksOf (nanos : Nat) : Nat :=
  nanos / 1000000000 * 65536 + nanos % 1000000000 * 65536 / 1000000000

/-- The ticks of an identifier: what stands above its suffix. -/
def ticks (t : Tid) : Nat := t.octets.value >>> 192

theorem seconds_eq (t : Tid) : t.seconds = t.ticks / 65536 := by
  show t.octets.value >>> (192 + 16) = t.octets.value >>> 192 / 65536
  rw [Nat.shiftRight_add, Nat.shiftRight_eq_div_pow _ 16]

theorem fraction_eq (t : Tid) : t.fraction = t.ticks % 65536 := by
  rw [fraction, ticks]

/-- Rounding second by second is rounding at once. -/
theorem ticksOf_eq (nanos : Nat) : ticksOf nanos = nanos * 65536 / 1000000000 := by
  unfold ticksOf
  omega

/-- The seconds of some ticks are those of the nanoseconds. -/
theorem ticksOf_div (nanos : Nat) : ticksOf nanos / 65536 = nanos / 1000000000 := by
  unfold ticksOf
  omega

/-- A step of `tickNanos` after the time of some ticks, rounded twice, is the next
tick. -/
theorem ticksOf_add_tickNanos (ticks : Nat) :
    ticksOf (ticks / 65536 * 1000000000 + ticks % 65536 * 1000000000 / 65536 + tickNanos)
      = ticks + 1 := by
  unfold ticksOf tickNanos
  have hsplit : ticks = ticks / 65536 * 65536 + ticks % 65536 := by omega
  have hlt : ticks % 65536 < 65536 := Nat.mod_lt _ (by decide)
  generalize ticks / 65536 = seconds at *
  generalize ticks % 65536 = fraction at *
  omega

/-- The time a step of `tickNanos` after that of an identifier is its next tick. -/
theorem ticksOf_next (t : Tid) : ticksOf (t.time.add tickNanos).nanos.toNat = t.ticks + 1 := by
  have hnanos : (t.time.add tickNanos).nanos.toNat
      = t.ticks / 65536 * 1000000000 + t.ticks % 65536 * 1000000000 / 65536 + tickNanos := by
    rw [← seconds_eq, ← fraction_eq]
    simp only [ClockTime.add, time, ClockTime.after, timeNanos]
    omega
  rw [hnanos]
  exact ticksOf_add_tickNanos t.ticks

-- ======================================================== what is made

/-- The suffix that a source gives: its front, filled up with zero bytes. -/
def suffixOf (source : List UInt8) : Octets 24 :=
  .ofBytes (source.take 24 ++ List.replicate (24 - source.length) 0)

/-- What making an identifier comes to. -/
inductive Making (clock : ClockTime) (source : List UInt8) : Except MakeFault Tid → Prop where
  | emptySuffix (hsource : source = []) : Making clock source (.error .emptySuffix)
  | beforeEpoch (hsource : source ≠ []) (hepoch : clock.nanos < 0) :
      Making clock source (.error .beforeEpoch)
  | outOfRange (hsource : source ≠ []) (hepoch : 0 ≤ clock.nanos)
      (hrange : maxSeconds < clock.nanos.toNat / 1000000000) :
      Making clock source (.error (.outOfRange (clock.nanos.toNat / 1000000000)))
  /-- The ticks of the reading stand above the suffix. -/
  | made {t : Tid} (hsource : source ≠ []) (hepoch : 0 ≤ clock.nanos)
      (hrange : clock.nanos.toNat / 1000000000 ≤ maxSeconds)
      (hvalue : t.octets.value = ticksOf clock.nanos.toNat * 256 ^ 24 + (suffixOf source).value) :
      Making clock source (.ok t)

/-- Making an identifier comes to one of these. -/
theorem making (clock : ClockTime) (source : List UInt8) :
    Making clock source (make clock source) := by
  unfold make
  by_cases hsource : source = []
  · rw [if_pos (List.isEmpty_iff.mpr hsource)]
    exact .emptySuffix hsource
  rw [if_neg (fun hempty => hsource (List.isEmpty_iff.mp hempty))]
  by_cases hepoch : clock.nanos < 0
  · rw [if_pos hepoch]
    exact .beforeEpoch hsource hepoch
  have hstarted : 0 ≤ clock.nanos := Int.not_lt.mp hepoch
  by_cases hrange : maxSeconds < clock.nanos.toNat / 1000000000
  · rw [if_neg hepoch, if_pos hrange]
    exact .outOfRange hsource hstarted hrange
  rw [if_neg hepoch, if_neg hrange]
  refine .made hsource hstarted (Nat.not_lt.mp hrange) ?_
  have htail : (suffixOf source).value < 256 ^ 24 := Octets.value_lt_pow _
  have hmax : clock.nanos.toNat / 1000000000 ≤ 281474976710655 := Nat.not_lt.mp hrange
  rw [Octets.value_ofNat, Nat.shiftLeft_eq, Nat.shiftLeft_eq, ← suffixOf, ticksOf]
  -- The seconds fit in six bytes, so nothing is cut off above.
  generalize (suffixOf source).value = tail at *
  omega

/-- The value of an identifier that is made. -/
theorem value_of_make {clock : ClockTime} {source : List UInt8} {t : Tid}
    (h : make clock source = .ok t) :
    t.octets.value = ticksOf clock.nanos.toNat * 256 ^ 24 + (suffixOf source).value := by
  have hmaking := making clock source
  rw [h] at hmaking
  cases hmaking with
  | made _ _ _ hvalue => exact hvalue

/-- An identifier that is made tells its clock reading in ticks. -/
theorem ticks_of_make {clock : ClockTime} {source : List UInt8} {t : Tid}
    (h : make clock source = .ok t) : t.ticks = ticksOf clock.nanos.toNat := by
  have htail : (suffixOf source).value < 256 ^ 24 := Octets.value_lt_pow _
  rw [ticks, value_of_make h]
  omega

/-- There is always content to hash: what is refused is a reading. -/
theorem ofContent_cases (clock : ClockTime) (content : ByteArray) :
    (clock.nanos < 0 ∧ ofContent clock content = .error .beforeEpoch)
      ∨ (0 ≤ clock.nanos ∧ maxSeconds < clock.nanos.toNat / 1000000000
          ∧ ofContent clock content = .error (.outOfRange (clock.nanos.toNat / 1000000000)))
      ∨ ∃ t, 0 ≤ clock.nanos ∧ clock.nanos.toNat / 1000000000 ≤ maxSeconds
          ∧ ofContent clock content = .ok t := by
  have hmaking := making clock (Blake3.hash content).toBytes
  unfold ofContent
  generalize make clock (Blake3.hash content).toBytes = answer at hmaking
  cases hmaking with
  | emptySuffix hnil =>
      have hlen := Octets.length_toBytes (Blake3.hash content)
      rw [hnil] at hlen
      cases hlen
  | beforeEpoch _ hepoch => exact .inl ⟨hepoch, rfl⟩
  | outOfRange _ hepoch hrange => exact .inr (.inl ⟨hepoch, hrange, rfl⟩)
  | made _ hepoch hrange _ => exact .inr (.inr ⟨_, hepoch, hrange, rfl⟩)

theorem ticks_of_ofContent {clock : ClockTime} {content : ByteArray} {t : Tid}
    (h : ofContent clock content = .ok t) : t.ticks = ticksOf clock.nanos.toNat :=
  ticks_of_make h

-- ========================================================== the suffix

/-- The suffix of an identifier that is made is that of its source. -/
theorem suffix_of_make {clock : ClockTime} {source : List UInt8} {t : Tid}
    (h : make clock source = .ok t) : t.suffix = suffixOf source := by
  have htail : (suffixOf source).value < 256 ^ 24 := Octets.value_lt_pow _
  apply Octets.ext_value
  rw [suffix, Octets.takeLast, Octets.value_ofNat, value_of_make h]
  omega

/-- A source that is long enough gives its front. -/
theorem suffixOf_of_le {source : List UInt8} (h : 24 ≤ source.length) :
    suffixOf source = .ofBytes (source.take 24) := by
  rw [suffixOf, Nat.sub_eq_zero_of_le h, List.replicate_zero, List.append_nil]

/-- What stands behind the time of an identifier is the front of the content's
hash. -/
theorem drop_toBytes_of_ofContent {clock : ClockTime} {content : ByteArray} {t : Tid}
    (h : ofContent clock content = .ok t) :
    t.octets.toBytes.drop 8 = (Blake3.hash content).toBytes.take 24 := by
  have hsource : 24 ≤ (Blake3.hash content).toBytes.length := by
    rw [Octets.length_toBytes]
    decide
  have hfront : ((Blake3.hash content).toBytes.take 24).length = 24 := by
    rw [List.length_take, Nat.min_eq_left hsource]
  have hbytes : t.suffix.toBytes = t.octets.toBytes.drop 8 :=
    @Octets.toBytes_takeLast 8 24 t.octets
  rw [← hbytes, suffix_of_make h, suffixOf_of_le hsource, Octets.toBytes_ofBytes hfront]

-- ===================================================== the next identifier

/-- What asking for the identifier after `last` comes to. -/
inductive Outcome (last : Option Tid) (clock : ClockTime) (content : ByteArray) :
    Except MakeFault Tid → Prop where
  /-- The identifier of the clock reading, if that is later than the last one. -/
  | read {t : Tid} (hmade : ofContent clock content = .ok t)
      (hlater : ∀ prev, last = some prev → prev < t)
      (htick : t.ticks = clock.nanos.toNat * 65536 / 1000000000) :
      Outcome last clock content (.ok t)
  /-- Else the tick after the last one. -/
  | bumped {prev made t : Tid} (hlast : last = some prev)
      (hmade : ofContent clock content = .ok made) (hbehind : made ≤ prev)
      (htick : t.ticks = prev.ticks + 1) : Outcome last clock content (.ok t)
  | beforeEpoch (hepoch : clock.nanos < 0) : Outcome last clock content (.error .beforeEpoch)
  | outOfRange (hepoch : 0 ≤ clock.nanos)
      (hrange : maxSeconds < clock.nanos.toNat / 1000000000) :
      Outcome last clock content (.error (.outOfRange (clock.nanos.toNat / 1000000000)))
  /-- There is no tick after the last one. -/
  | exhausted {prev made : Tid} (hlast : last = some prev)
      (hmade : ofContent clock content = .ok made) (hbehind : made ≤ prev)
      (hrange : maxSeconds < (prev.ticks + 1) / 65536) :
      Outcome last clock content (.error (.outOfRange ((prev.ticks + 1) / 65536)))

/-- An identifier is made when the clock's own comes too late. -/
theorem outcome_bump {prev made : Tid} {clock : ClockTime} {content : ByteArray}
    (hmade : ofContent clock content = .ok made) (hbehind : made ≤ prev) :
    Outcome (some prev) clock content (ofContent (prev.time.add tickNanos) content) := by
  have hticks := ticksOf_next prev
  have hseconds := ticksOf_div (prev.time.add tickNanos).nanos.toNat
  rw [hticks] at hseconds
  rcases ofContent_cases (prev.time.add tickNanos) content with
    ⟨hepoch, -⟩ | ⟨-, hrange, hrefused⟩ | ⟨t, -, -, hok⟩
  · -- The time of an identifier is never before the epoch.
    have hnanos : 0 ≤ (prev.time.add tickNanos).nanos := by
      simp only [ClockTime.add, time, ClockTime.after]
      omega
    omega
  · rw [hrefused, ← hseconds]
    exact .exhausted rfl hmade hbehind (by rw [hseconds]; exact hrange)
  · rw [hok]
    exact .bumped rfl hmade hbehind ((ticks_of_ofContent hok).trans hticks)

/-- Asking for the next identifier comes to one of these. -/
theorem outcome_successor (last : Option Tid) (clock : ClockTime) (content : ByteArray) :
    Outcome last clock content (successor last clock content) := by
  unfold successor
  rcases ofContent_cases clock content with
    ⟨hepoch, hrefused⟩ | ⟨hepoch, hrange, hrefused⟩ | ⟨made, -, -, hmade⟩
  · rw [hrefused]
    exact .beforeEpoch hepoch
  · rw [hrefused]
    exact .outOfRange hepoch hrange
  have htick : made.ticks = clock.nanos.toNat * 65536 / 1000000000 := by
    rw [ticks_of_ofContent hmade, ticksOf_eq]
  rw [hmade]
  cases last with
  | none => exact .read hmade (fun _ hnone => nomatch hnone) htick
  | some prev =>
      show Outcome _ clock content
        (if made ≤ prev then ofContent (prev.time.add tickNanos) content else .ok made)
      by_cases hbehind : made ≤ prev
      · rw [if_pos hbehind]
        exact outcome_bump hmade hbehind
      · rw [if_neg hbehind]
        refine .read hmade (fun other hother => ?_) htick
        rw [← Option.some.inj hother]
        exact lt_of_not_le hbehind

/-- Of two identifiers the one with more ticks is the greater. -/
theorem lt_of_ticks_lt {a b : Tid} (h : a.ticks < b.ticks) : a < b := by
  rw [lt_iff]
  unfold ticks at h
  omega

/-- A host's identifiers rise: the one after `last` is greater than `last`. -/
theorem lt_of_successor {last t : Tid} {clock : ClockTime} {content : ByteArray}
    (h : successor (some last) clock content = .ok t) : last < t := by
  have houtcome := outcome_successor (some last) clock content
  rw [h] at houtcome
  cases houtcome with
  | read _ hlater _ => exact hlater last rfl
  | bumped hlast _ _ htick =>
      rw [Option.some.inj hlast]
      exact lt_of_ticks_lt (by omega)

/-- A clock that has started gives the first identifier. -/
theorem exists_successor (content : ByteArray) :
    ∃ tid, successor none (.after 0 0) content = .ok tid := by
  unfold successor
  rcases ofContent_cases (.after 0 0) content with
    ⟨hepoch, -⟩ | ⟨-, hrange, -⟩ | ⟨tid, -, -, hmade⟩
  · exact absurd hepoch (by decide)
  · exact absurd hrange (by decide)
  · rw [hmade]
    exact ⟨tid, rfl⟩

/-- A tick after the epoch no identifier is the one that stands for none. -/
theorem ne_zero_of_successor {last : Option Tid} {clock : ClockTime} {content : ByteArray} {t : Tid}
    (hclock : 1 ≤ ticksOf clock.nanos.toNat) (h : successor last clock content = .ok t) :
    t ≠ .zero := by
  have hticks : 1 ≤ t.ticks := by
    have houtcome := outcome_successor last clock content
    rw [h] at houtcome
    cases houtcome with
    | read hmade _ _ => rwa [ticks_of_ofContent hmade]
    | bumped _ _ _ htick => omega
  rintro rfl
  exact absurd hticks (by decide)

/-- A second later the first identifier is not the one that stands for none. -/
theorem exists_successor_ne_zero (content : ByteArray) :
    ∃ tid, tid ≠ .zero ∧ successor none (.after 1 0) content = .ok tid := by
  unfold successor
  rcases ofContent_cases (.after 1 0) content with
    ⟨hepoch, -⟩ | ⟨-, hrange, -⟩ | ⟨tid, -, -, hmade⟩
  · exact absurd hepoch (by decide)
  · exact absurd hrange (by decide)
  · rw [hmade]
    refine ⟨tid, ?_, rfl⟩
    rintro rfl
    exact absurd (ticks_of_ofContent hmade) (by decide)

/-- Whichever time an identifier gets, its suffix comes from the content. -/
theorem drop_toBytes_of_successor {last : Option Tid} {clock : ClockTime} {content : ByteArray}
    {t : Tid} (h : successor last clock content = .ok t) :
    t.octets.toBytes.drop 8 = (Blake3.hash content).toBytes.take 24 := by
  unfold successor at h
  cases hmade : ofContent clock content with
  | error fault =>
      rw [hmade] at h
      cases h
  | ok made =>
      rw [hmade] at h
      cases last with
      | none =>
          rw [← Except.ok.inj h]
          exact drop_toBytes_of_ofContent hmade
      | some prev =>
          change (if made ≤ prev then ofContent (prev.time.add tickNanos) content else .ok made)
            = .ok t at h
          split at h
          · exact drop_toBytes_of_ofContent h
          · rw [← Except.ok.inj h]
            exact drop_toBytes_of_ofContent hmade

end Tid

end CellSync
