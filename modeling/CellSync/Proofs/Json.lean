/-
What is written as JSON reads back as it was written.

A byte of a string is written in one of three ways (`Spelling`): as it
is, as a short escape, or as the number of a control character. Each is
one piece to the reader, and the pieces of a text spell its bytes. On
top of this stand the values. A value `Reads` whatever bytes follow it:
a string does, an array does if its parts do, and so does an object. The
spellings also bound how long an object of strings is
(`length_object_le`).
-/
import CellSync.Json.Reader
import CellSync.Json.Writer
import CellSync.Proofs.Octets.Text
import Mathlib.Data.List.Forall2

namespace CellSync.Json

-- ================================================================ bytes

/-- How a byte of a text may be written, and the piece that it is read as. -/
inductive Spelling (b : UInt8) : List UInt8 → Piece → Prop
  | plain (hcontrol : ¬b < 0x20) (hquote : b ≠ 0x22) (hescape : b ≠ 0x5c) :
      Spelling b [b] (.byte b)
  | short {e : UInt8} (hshort : shortEscape? e = some b) (hnumber : e ≠ 0x75) :
      Spelling b [0x5c, e] (.byte b)
  | number {h l : UInt8} (hcontrol : b < 0x20) (hhigh : hexValue? h = some (b.toNat / 16))
      (hlow : hexValue? l = some (b.toNat % 16)) :
      Spelling b [0x5c, 0x75, 0x30, 0x30, h, l] (.unit b.toNat)

/-- The number of a control character is written with four digits. -/
theorem number_escape {b : UInt8} (hb : b < 0x20) :
    ∃ h l, plain ("\\u00" ++ Hex.encodeBytes [b]) = [0x5c, 0x75, 0x30, 0x30, h, l]
      ∧ hexValue? h = some (b.toNat / 16) ∧ hexValue? l = some (b.toNat % 16) := by
  have hall : ∀ n < 32, plain ("\\u00" ++ Hex.encodeBytes [UInt8.ofNat n])
        = [0x5c, 0x75, 0x30, 0x30, UInt8.ofNat (Hex.digit (n / 16)).toNat,
            UInt8.ofNat (Hex.digit (n % 16)).toNat]
      ∧ hexValue? (UInt8.ofNat (Hex.digit (n / 16)).toNat) = some (n / 16)
      ∧ hexValue? (UInt8.ofNat (Hex.digit (n % 16)).toNat) = some (n % 16) := by decide +kernel
  have hspelt := hall b.toNat (UInt8.lt_iff_toNat_lt.mp hb)
  rw [UInt8.ofNat_toNat] at hspelt
  exact ⟨_, _, hspelt⟩

/-- A byte with a number is that byte. -/
theorem eq_of_toNat {b : UInt8} {n : Nat} (h : b.toNat = n) : b = UInt8.ofNat n := by
  rw [← h, UInt8.ofNat_toNat]

/-- Every byte is spelt in one of three ways. -/
theorem exists_spelling (b : UInt8) : ∃ piece, Spelling b (escaped b) piece := by
  unfold escaped
  split
  next h => exact ⟨_, .short (by rw [eq_of_toNat h]; decide) (by decide)⟩
  next h => exact ⟨_, .short (by rw [eq_of_toNat h]; decide) (by decide)⟩
  next h => exact ⟨_, .short (by rw [eq_of_toNat h]; decide) (by decide)⟩
  next h => exact ⟨_, .short (by rw [eq_of_toNat h]; decide) (by decide)⟩
  next h => exact ⟨_, .short (by rw [eq_of_toNat h]; decide) (by decide)⟩
  next h => exact ⟨_, .short (by rw [eq_of_toNat h]; decide) (by decide)⟩
  next h => exact ⟨_, .short (by rw [eq_of_toNat h]; decide) (by decide)⟩
  next hquote hescape _ _ _ _ _ =>
    split
    next hcontrol =>
      obtain ⟨h, l, hspelt, hhigh, hlow⟩ := number_escape hcontrol
      rw [hspelt]
      exact ⟨_, .number hcontrol hhigh hlow⟩
    next hcontrol =>
      refine ⟨_, .plain hcontrol ?_ ?_⟩
      · rintro rfl
        exact hquote rfl
      · rintro rfl
        exact hescape rfl

/-- A spelt byte is read as one piece, whatever follows it. -/
theorem pieces_of_spelling {b : UInt8} {bytes : List UInt8} {piece : Piece}
    (h : Spelling b bytes piece) (rest : List UInt8) :
    pieces (bytes ++ rest) = (pieces rest).map fun read => (piece :: read.1, read.2) := by
  cases h with
  | plain hcontrol hquote hescape =>
      rw [List.singleton_append]
      cases hrest : pieces rest with
      | none => simp [pieces, hcontrol, hescape, hrest]
      | some read => simp [pieces, hcontrol, hescape, hrest]
  | @short e hshort hnumber =>
      cases hrest : pieces rest with
      | none => simp [pieces, hshort, hnumber, hrest]
      | some read => simp [pieces, hshort, hnumber, hrest]
  | @number high low hcontrol hhigh hlow =>
      have hzero : hexValue? 0x30 = some 0 := rfl
      have hnumber : ofDigits 16 [0, 0, b.toNat / 16, b.toNat % 16] = b.toNat := by
        simp only [ofDigits, List.foldl_cons, List.foldl_nil]
        omega
      cases hrest : pieces rest with
      | none => simp [pieces, hzero, hhigh, hlow, hrest]
      | some read => simp [pieces, hzero, hhigh, hlow, hrest, hnumber]

/-- The number of a control character spells that character, whatever follows. -/
theorem spell_number {u : Nat} (hu : u < 0x20) (ps : List Piece) :
    spell (.unit u :: ps) = (spell ps).map (UInt8.ofNat u :: ·) := by
  have hlead : isLeading u = false := by
    rw [isLeading, decide_eq_false (by omega), Bool.false_and]
  have htrail : isTrailing u = false := by
    rw [isTrailing, decide_eq_false (by omega), Bool.false_and]
  have hall : ∀ n < 0x20, String.utf8EncodeChar (Char.ofNat n) = [UInt8.ofNat n] := by
    decide +kernel
  have hbyte := hall u hu
  match ps with
  | [] => simp [spell, hlead, htrail, hbyte]
  | .byte b :: rest => simp [spell, hlead, htrail, hbyte]
  | .unit v :: rest => simp [spell, hlead, htrail, hbyte]

/-- The piece of a byte spells that byte again. -/
theorem spell_of_spelling {b : UInt8} {bytes : List UInt8} {piece : Piece}
    (h : Spelling b bytes piece) (ps : List Piece) :
    spell (piece :: ps) = (spell ps).map (b :: ·) := by
  cases h with
  | plain | short => rw [spell]
  | number hcontrol =>
      have hnumber := spell_number (UInt8.lt_iff_toNat_lt.mp hcontrol) ps
      rwa [UInt8.ofNat_toNat] at hnumber

-- ============================================================== strings

/-- The pieces of a string spell what was written. -/
theorem pieces_escaped (bs rest : List UInt8) :
    ∃ ps, pieces (bs.flatMap escaped ++ 0x22 :: rest) = some (ps, rest)
      ∧ spell ps = some bs := by
  induction bs with
  | nil => exact ⟨[], by simp [pieces], rfl⟩
  | cons b bs ih =>
      obtain ⟨ps, hpieces, hspell⟩ := ih
      obtain ⟨piece, hspelling⟩ := exists_spelling b
      refine ⟨piece :: ps, ?_, ?_⟩
      · rw [List.flatMap_cons, List.append_assoc, pieces_of_spelling hspelling, hpieces]
        rfl
      · rw [spell_of_spelling hspelling, hspell]
        rfl

/-- A written text is read up to its closing quote. -/
theorem stringTail_string (text : String) (rest : List UInt8) :
    stringTail ((plain text).flatMap escaped ++ 0x22 :: rest) = some (some text, rest) := by
  obtain ⟨ps, hpieces, hspell⟩ := pieces_escaped (plain text) rest
  have htext : textOf ps = some text := by
    rw [textOf, hspell, Option.bind_some, plain, Bytes.pack_list, String.fromUTF8?]
    exact dif_pos text.isValidUTF8
  rw [stringTail, hpieces, ← htext]
  rfl

/-- A string begins with a quote, and what follows is read as its tail. -/
theorem string_append (text : String) (rest : List UInt8) :
    string text ++ rest = 0x22 :: ((plain text).flatMap escaped ++ 0x22 :: rest) := by
  rw [string, List.append_assoc]
  rfl

-- ================================================================ values

/-- What is no white space is not skipped. -/
theorem skipBlanks_of_not_blank {b : UInt8} (rest : List UInt8)
    (hb : (b = 0x20 || b = 0x09 || b = 0x0a || b = 0x0d) = false) :
    skipBlanks (b :: rest) = b :: rest := by
  rw [skipBlanks, List.dropWhile_cons_of_neg]
  rw [hb]
  exact Bool.false_ne_true

/-- Whether bytes begin with what is no white space and closes no array and no object. -/
def Opens (bs : List UInt8) : Prop :=
  ∃ b tail, bs = b :: tail ∧ (b ≠ 0x5d ∧ b ≠ 0x7d) ∧ ∀ rest, skipBlanks (b :: rest) = b :: rest

/-- How bytes begin does not change when others follow. -/
theorem Opens.append {bs : List UInt8} (h : Opens bs) (rest : List UInt8) :
    Opens (bs ++ rest) := by
  obtain ⟨b, tail, rfl, hclose, hblank⟩ := h
  exact ⟨b, tail ++ rest, rfl, hclose, hblank⟩

/-- Bytes that are read as a value, whatever follows them. Fuel for each of them is enough. -/
structure Reads (bs : List UInt8) (v : Value) : Prop where
  opens : Opens bs
  value_append : ∀ fuel, bs.length ≤ fuel → ∀ rest, value fuel (bs ++ rest) = some (v, rest)

/-- A named part of an object that is read as a member of it. -/
def ReadsAs (field : String × List UInt8) (member : Option String × Value) : Prop :=
  member.1 = some field.1 ∧ Reads field.2 member.2

variable {part : List UInt8} {v : Value} {vs : List Value} {ms : Members}

/-- A document that is one written value holds that value. -/
theorem parse_of_reads {bs : List UInt8} (h : Reads bs v) : parse bs = some v := by
  have hvalue := h.value_append (2 * bs.length + 2) (by omega) []
  rw [List.append_nil] at hvalue
  rw [parse, hvalue]
  rfl

/-- A string begins with its quote. -/
theorem opens_string (text : String) : Opens (string text) :=
  ⟨0x22, _, rfl, by decide, fun _ => skipBlanks_of_not_blank _ (by decide)⟩

/-- A string is read as its text. -/
theorem reads_string (text : String) : Reads (string text) (.string (some text)) := by
  refine ⟨opens_string text, ?_⟩
  intro fuel hfuel rest
  match fuel with
  | 0 => exact absurd hfuel (Nat.not_succ_le_zero _)
  | fuel + 1 =>
      have hquote : ∀ bs, value (fuel + 1) (0x22 :: bs)
          = (stringTail bs).map fun read => (.string read.1, read.2) := by
        intro bs
        rw [value, skipBlanks_of_not_blank _ (by decide)]
        rfl
      rw [string_append, hquote, stringTail_string]
      rfl

-- ================================================================ commas

theorem separated_singleton (part : List UInt8) : separated [part] = part := by
  simp [separated]

/-- Parts are written with a comma between them. -/
theorem separated_cons_cons (part next : List UInt8) (parts : List (List UInt8)) :
    separated (part :: next :: parts) = part ++ 0x2c :: separated (next :: parts) := by
  simp [separated]

/-- The first part opens what all of them are. -/
theorem opens_separated (parts : List (List UInt8)) (h : Opens part) :
    Opens (separated (part :: parts)) := by
  cases parts with
  | nil => rwa [separated_singleton]
  | cons next parts =>
      rw [separated_cons_cons]
      exact h.append _

-- ================================================================ arrays

/-- One item, up to what follows it. -/
theorem items_part (h : Reads part v) {fuel : Nat} (hfuel : part.length ≤ fuel)
    (rest : List UInt8) :
    items (fuel + 1) (part ++ rest)
      = match skipBlanks rest with
        | 0x2c :: rest => (items fuel rest).bind fun read => some (v :: read.1, read.2)
        | 0x5d :: rest => some ([v], rest)
        | _ => none := by
  rw [items, h.value_append fuel hfuel]
  rfl

/-- Parts in a row are read as items up to the closing bracket. -/
theorem items_separated {parts : List (List UInt8)} (h : List.Forall₂ Reads parts vs)
    (hne : parts ≠ []) (fuel : Nat) (hfuel : (separated parts).length < fuel)
    (rest : List UInt8) :
    items fuel (separated parts ++ 0x5d :: rest) = some (vs, rest) := by
  induction h generalizing fuel with
  | nil => exact absurd rfl hne
  | @cons part v parts vs hpart hparts ih =>
      obtain ⟨fuel, rfl⟩ : ∃ less, fuel = less + 1 := ⟨fuel - 1, by omega⟩
      cases hparts with
      | nil =>
          rw [separated_singleton] at hfuel ⊢
          rw [items_part hpart (by omega), skipBlanks_of_not_blank _ (by decide)]
          rfl
      | cons =>
          rw [separated_cons_cons] at hfuel ⊢
          rw [List.length_append, List.length_cons] at hfuel
          rw [List.append_assoc, items_part hpart (by omega), List.cons_append,
            skipBlanks_of_not_blank _ (by decide)]
          simp only [ih (List.cons_ne_nil _ _) fuel (by omega), Option.bind_some]

/-- An array whose parts are read is read as what they are read as. -/
theorem reads_array {parts : List (List UInt8)} (h : List.Forall₂ Reads parts vs) :
    Reads (array parts) (.array vs) := by
  have hopens : ∀ rest, skipBlanks (0x5b :: rest) = 0x5b :: rest :=
    fun _ => skipBlanks_of_not_blank _ (by decide)
  refine ⟨⟨0x5b, _, rfl, by decide, hopens⟩, ?_⟩
  intro fuel hfuel rest
  rw [array, List.cons_append, List.length_cons, List.length_append] at hfuel
  obtain ⟨fuel, rfl⟩ : ∃ less, fuel = less + 1 := ⟨fuel - 1, by omega⟩
  have harray : array parts ++ rest = 0x5b :: (separated parts ++ 0x5d :: rest) := by
    simp [array]
  rw [harray]
  cases h with
  | nil =>
      have hclose : skipBlanks (0x5d :: rest) = 0x5d :: rest :=
        skipBlanks_of_not_blank _ (by decide)
      simp only [value, hopens, separated, List.intersperse_nil, List.flatten_nil,
        List.nil_append, hclose]
  | @cons part v parts vs hpart hparts =>
      have hitems := items_separated (.cons hpart hparts) (List.cons_ne_nil _ _) fuel
        (by rw [List.length_singleton] at hfuel; omega) rest
      obtain ⟨b, tail, hseparated, hclose, hblank⟩ := opens_separated parts hpart.opens
      rw [hseparated, List.cons_append] at hitems ⊢
      simp only [value, hopens, hblank]
      split
      next hempty => exact absurd (List.cons.inj hempty).1 hclose.1
      next =>
        rw [hitems]
        rfl

-- =============================================================== objects

/-- A member of an object as it is written. -/
def written (field : String × List UInt8) : List UInt8 := string field.1 ++ 0x3a :: field.2

/-- One member, up to what follows its value. -/
theorem members_written {field : String × List UInt8} (h : Reads field.2 v) {fuel : Nat}
    (hfuel : field.2.length ≤ fuel) (rest : List UInt8) :
    members (fuel + 1) (written field ++ rest)
      = match skipBlanks rest with
        | 0x2c :: rest => (members fuel rest).bind fun read =>
            some ((some field.1, v) :: read.1, read.2)
        | 0x7d :: rest => some ([(some field.1, v)], rest)
        | _ => none := by
  have hcolon : skipBlanks (0x3a :: (field.2 ++ rest)) = 0x3a :: (field.2 ++ rest) :=
    skipBlanks_of_not_blank _ (by decide)
  have hquote : skipBlanks (0x22 :: ((plain field.1).flatMap escaped
      ++ 0x22 :: (0x3a :: (field.2 ++ rest))))
      = 0x22 :: ((plain field.1).flatMap escaped ++ 0x22 :: (0x3a :: (field.2 ++ rest))) :=
    skipBlanks_of_not_blank _ (by decide)
  rw [written, List.append_assoc, List.cons_append, string_append, members, hquote]
  simp only [stringTail_string, hcolon, h.value_append fuel hfuel, Option.bind_eq_bind,
    Option.bind_some]
  rfl

/-- A member begins with the quote of its name. -/
theorem opens_written (field : String × List UInt8) : Opens (written field) :=
  (opens_string field.1).append _

/-- A member is longer than its value. -/
theorem length_lt_written (field : String × List UInt8) :
    field.2.length < (written field).length := by
  rw [written, List.length_append, List.length_cons]
  omega

/-- Members in a row are read up to the closing brace. -/
theorem members_separated {fields : List (String × List UInt8)}
    (h : List.Forall₂ ReadsAs fields ms) (hne : fields ≠ []) (fuel : Nat)
    (hfuel : (separated (fields.map written)).length < fuel) (rest : List UInt8) :
    members fuel (separated (fields.map written) ++ 0x7d :: rest) = some (ms, rest) := by
  induction h generalizing fuel with
  | nil => exact absurd rfl hne
  | @cons field member fields ms hfield hfields ih =>
      obtain ⟨key, v⟩ := member
      obtain ⟨rfl, hpart⟩ := hfield
      have hlength := length_lt_written field
      obtain ⟨fuel, rfl⟩ : ∃ less, fuel = less + 1 := ⟨fuel - 1, by omega⟩
      cases hfields with
      | nil =>
          rw [List.map_singleton, separated_singleton] at hfuel ⊢
          rw [members_written hpart (by omega), skipBlanks_of_not_blank _ (by decide)]
          rfl
      | @cons next member fields ms =>
          rw [List.map_cons, List.map_cons, separated_cons_cons] at hfuel ⊢
          rw [← List.map_cons, List.length_append, List.length_cons] at hfuel
          rw [List.append_assoc, members_written hpart (by omega), List.cons_append,
            skipBlanks_of_not_blank _ (by decide), ← List.map_cons]
          simp only [ih (List.cons_ne_nil _ _) fuel (by omega), Option.bind_some]

/-- An object whose named parts are read as its members is read as they are. -/
theorem reads_object {fields : List (String × List UInt8)}
    (h : List.Forall₂ ReadsAs fields ms) : Reads (object fields) (.object ms) := by
  have hopens : ∀ rest, skipBlanks (0x7b :: rest) = 0x7b :: rest :=
    fun _ => skipBlanks_of_not_blank _ (by decide)
  refine ⟨⟨0x7b, _, rfl, by decide, hopens⟩, ?_⟩
  intro fuel hfuel rest
  have hwritten : object fields = 0x7b :: separated (fields.map written) ++ [0x7d] := rfl
  rw [hwritten, List.cons_append, List.length_cons, List.length_append] at hfuel
  obtain ⟨fuel, rfl⟩ : ∃ less, fuel = less + 1 := ⟨fuel - 1, by omega⟩
  have hobject : object fields ++ rest
      = 0x7b :: (separated (fields.map written) ++ 0x7d :: rest) := by
    simp [hwritten]
  rw [hobject]
  cases h with
  | nil =>
      have hclose : skipBlanks (0x7d :: rest) = 0x7d :: rest :=
        skipBlanks_of_not_blank _ (by decide)
      simp only [value, hopens, separated, List.map_nil, List.intersperse_nil,
        List.flatten_nil, List.nil_append, hclose]
  | @cons field member fields ms hfield hfields =>
      have hmembers := members_separated (.cons hfield hfields) (List.cons_ne_nil _ _) fuel
        (by rw [List.length_singleton] at hfuel; omega) rest
      obtain ⟨b, tail, hseparated, hclose, hblank⟩ :=
        opens_separated (fields.map written) (opens_written field)
      rw [List.map_cons] at hmembers ⊢
      rw [hseparated, List.cons_append] at hmembers ⊢
      simp only [value, hopens, hblank]
      split
      next hempty => exact absurd (List.cons.inj hempty).1 hclose.2
      next =>
        rw [hmembers]
        rfl

-- ==================================================== objects of strings

/-- The members of an object whose values are strings, as they are written. -/
def parts (fields : List (String × String)) : List (String × List UInt8) :=
  fields.map fun field => (field.1, string field.2)

/-- The members of an object whose values are strings, as they are read. -/
def asRead (fields : List (String × String)) : Members :=
  fields.map fun field => (some field.1, .string (some field.2))

/-- A document that is an object of strings holds its members. -/
theorem parse_object (fields : List (String × String)) :
    parse (object (parts fields)) = some (.object (asRead fields)) := by
  refine parse_of_reads (reads_object ?_)
  rw [parts, asRead, List.forall₂_map_left_iff, List.forall₂_map_right_iff, List.forall₂_same]
  exact fun field _ => ⟨rfl, reads_string field.2⟩

/-- The members of an object, with what closes it. -/
def body (fields : List (String × String)) (rest : List UInt8) : List UInt8 :=
  separated ((parts fields).map fun part => string part.1 ++ 0x3a :: part.2) ++ 0x7d :: rest

theorem body_single (field : String × String) (rest : List UInt8) :
    body [field] rest = (string field.1 ++ 0x3a :: string field.2) ++ 0x7d :: rest := by
  rw [body, parts, List.map_singleton, List.map_singleton, separated_singleton]

theorem body_cons_cons (field next : String × String) (fields : List (String × String))
    (rest : List UInt8) :
    body (field :: next :: fields) rest
      = (string field.1 ++ 0x3a :: string field.2) ++ 0x2c :: body (next :: fields) rest := by
  simp [body, parts, separated_cons_cons]

-- ================================================================ sizes

/-- A byte is written as at least one and at most six. -/
theorem length_escaped (b : UInt8) : 1 ≤ (escaped b).length ∧ (escaped b).length ≤ 6 := by
  obtain ⟨piece, hspelling⟩ := exists_spelling b
  generalize escaped b = bytes at hspelling
  cases hspelling <;> simp

/-- An escaped text is at least as long as the text, and at most six times as long. -/
theorem length_flatMap_escaped (bs : List UInt8) :
    bs.length ≤ (bs.flatMap escaped).length ∧ (bs.flatMap escaped).length ≤ 6 * bs.length := by
  induction bs with
  | nil => exact ⟨Nat.le_refl _, Nat.le_refl _⟩
  | cons b bs ih =>
      have hb := length_escaped b
      rw [List.flatMap_cons, List.length_append, List.length_cons]
      omega

/-- A string is at least as long as its text, and has two quotes. -/
theorem length_string (text : String) :
    text.utf8ByteSize + 2 ≤ (string text).length
      ∧ (string text).length ≤ 6 * text.utf8ByteSize + 2 := by
  have hplain : (plain text).length = text.utf8ByteSize := Bytes.length_list _
  have htext := length_flatMap_escaped (plain text)
  rw [string, List.cons_append, List.length_cons, List.length_append, List.length_singleton]
  omega

/-- The most bytes that some members take, each with the comma or the brace after it. -/
def room : List (String × String) → Nat
  | [] => 0
  | (name, text) :: fields => 6 * (name.utf8ByteSize + text.utf8ByteSize + 1) + room fields

/-- There is room for the members even if every character is escaped. -/
theorem length_body_le (fields : List (String × String)) (hne : fields ≠ []) :
    (body fields []).length ≤ room fields := by
  induction fields with
  | nil => exact absurd rfl hne
  | cons field fields ih =>
      have hname := (length_string field.1).2
      have htext := (length_string field.2).2
      rw [room]
      cases fields with
      | nil =>
          rw [body_single]
          simp only [List.length_append, List.length_cons, List.length_nil, room]
          omega
      | cons next fields =>
          have hrest := ih (List.cons_ne_nil _ _)
          rw [body_cons_cons]
          simp only [List.length_append, List.length_cons]
          omega

/-- The document of an object of strings is no longer than its members may be. -/
theorem length_object_le {fields : List (String × String)} (hne : fields ≠ []) :
    (object (parts fields)).length ≤ room fields + 1 := by
  have hbody := length_body_le fields hne
  have hobject : object (parts fields) = 0x7b :: body fields [] := rfl
  rw [hobject, List.length_cons]
  omega

-- =============================================================== nesting

/-- An object of strings is plain. -/
theorem isPlain_asRead (depth : Nat) (fields : List (String × String)) :
    (Value.object (asRead fields)).isPlain (depth + 1) = true := by
  rw [Value.isPlain, List.all_eq_true]
  intro member hmember
  obtain ⟨field, -, rfl⟩ := List.mem_map.mp hmember
  cases depth <;> rfl

end CellSync.Json
