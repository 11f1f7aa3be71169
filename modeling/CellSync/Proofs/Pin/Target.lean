/-
Which targets have the right form.

A tag may be any short text that holds neither white space nor control
characters. A locator, besides, has to be a scheme, `://` and a rest in
some way of reading it, and the check looks at one such way only, the
one with the first `://`. Nothing is lost by that: `://` begins with a
colon and no scheme holds one, so a text that is a scheme, `://` and a
rest has no `://` before that one (`splitScheme_append`), and what the
check finds is that very way.

The classes of characters are said here by lists and by the order of
characters, and not by the tables that the check reads.
-/
import CellSync.Pin.Target
import Mathlib.Data.List.Basic

namespace CellSync

-- ============================================================ characters

namespace Text

/-- The characters with the property White_Space. -/
def whiteSpace : List Char :=
  ['\t', '\n', '\x0b', '\x0c', '\r', ' ', '\x85', '\xa0', '\u1680', '\u2000', '\u2001', '\u2002',
  '\u2003', '\u2004', '\u2005', '\u2006', '\u2007', '\u2008', '\u2009', '\u200a', '\u2028',
  '\u2029', '\u202f', '\u205f', '\u3000']

/-- A control character: one before the space, or from delete on to the space that does
not break. -/
def Control (c : Char) : Prop := c < ' ' ∨ ('\x7f' ≤ c ∧ c < '\xa0')

/-- A text without white space and control characters. -/
def Unbroken (text : String) : Prop := ∀ c ∈ text.toList, c ∉ whiteSpace ∧ ¬Control c

/-- The ranges of white space hold the characters of the list and no others. -/
theorem isBlank_iff {c : Char} : isBlank c = true ↔ c ∈ whiteSpace := by
  have hcodes : c.toNat ∈ whiteSpace.map Char.toNat ↔ c ∈ whiteSpace :=
    List.mem_map_of_injective fun _ _ => Char.toNat_inj.mp
  rw [← hcodes]
  simp only [isBlank, inRanges, blankRanges, whiteSpace, List.any_cons, List.any_nil, List.map_cons,
    List.map_nil, List.mem_cons, List.not_mem_nil, Bool.or_eq_true, Bool.and_eq_true,
    decide_eq_true_eq, Bool.false_eq_true, or_false, Char.reduceToNat]
  omega

/-- The ranges of control characters hold those and no others. -/
theorem isControl_iff {c : Char} : isControl c = true ↔ Control c := by
  simp only [isControl, inRanges, Control, List.any_cons, List.any_nil, Bool.or_eq_true,
    Bool.and_eq_true, decide_eq_true_eq, Bool.false_eq_true, or_false, Char.lt_def, Char.le_def,
    UInt32.lt_iff_toNat_lt, UInt32.le_iff_toNat_le, Char.toNat_val, Char.reduceToNat]
  omega

/-- A text is unbroken if it has none of either. -/
theorem hasBlankOrControl_eq_false_iff {text : String} :
    hasBlankOrControl text = false ↔ Unbroken text := by
  simp only [hasBlankOrControl, Unbroken, List.any_eq_false, Bool.or_eq_true, isBlank_iff,
    isControl_iff, not_or]

end Text

namespace Target

-- =============================================================== schemes

/-- An ASCII letter. -/
def Letter (c : Char) : Prop := ('A' ≤ c ∧ c ≤ 'Z') ∨ ('a' ≤ c ∧ c ≤ 'z')

/-- A character that may follow the letter which a scheme begins with. -/
def InScheme (c : Char) : Prop := Letter c ∨ ('0' ≤ c ∧ c ≤ '9') ∨ c ∈ ['+', '-', '.']

/-- A scheme: an ASCII letter, then any ASCII letters, digits, `+`, `-` and `.`. -/
def Scheme (text : String) : Prop :=
  ∃ first more, text.toList = first :: more ∧ Letter first ∧ ∀ c ∈ more, InScheme c

/-- The letters of a scheme are the two rows of the alphabet. -/
theorem isAlpha_iff {c : Char} : c.isAlpha = true ↔ Letter c := by
  have hupper : c.isUpper = true ↔ 'A' ≤ c ∧ c ≤ 'Z' := decide_eq_true_iff
  have hlower : c.isLower = true ↔ 'a' ≤ c ∧ c ≤ 'z' :=
    Bool.and_eq_true_iff.trans (and_congr decide_eq_true_iff decide_eq_true_iff)
  exact Bool.or_eq_true_iff.trans (or_congr hupper hlower)

/-- Past its first letter it may have digits and three marks. -/
theorem isSchemeChar_iff {c : Char} : isSchemeChar c = true ↔ InScheme c := by
  simp only [isSchemeChar, Char.isAlphanum, Char.isDigit, InScheme, Char.le_def, Bool.or_eq_true,
    Bool.and_eq_true, decide_eq_true_eq, isAlpha_iff, ge_iff_le, List.mem_cons, List.not_mem_nil,
    or_false, or_assoc]

/-- A scheme begins with a letter, and goes on with what may stand in one. -/
theorem isScheme_iff {text : String} : isScheme text.toList = true ↔ Scheme text := by
  unfold Scheme
  cases text.toList with
  | nil => simp [isScheme]
  | cons first more => simp [isScheme, isAlpha_iff, isSchemeChar_iff]

/-- No scheme holds the character that `://` begins with. -/
theorem colon_notMem_of_isScheme {scheme : List Char} (h : isScheme scheme = true) :
    ':' ∉ scheme := by
  cases scheme with
  | nil => exact List.not_mem_nil
  | cons first more =>
      obtain ⟨hfirst, hmore⟩ := Bool.and_eq_true_iff.mp h
      intro hcolon
      rcases List.mem_cons.mp hcolon with rfl | hmem
      · exact absurd hfirst (by decide)
      · exact absurd (List.all_eq_true.mp hmore _ hmem) (by decide)

-- =============================================================== parting

/-- What a locator is parted into, put together again, is the locator. -/
theorem eq_append_of_splitScheme {text scheme rest : List Char}
    (h : splitScheme text = some (scheme, rest)) : text = scheme ++ "://".toList ++ rest := by
  fun_induction splitScheme text generalizing scheme with
  | case1 after =>
      cases h
      rfl
  | case2 c text _ ih =>
      obtain ⟨⟨front, after⟩, hparted, hpair⟩ := Option.map_eq_some_iff.mp h
      cases hpair
      rw [ih hparted]
      rfl
  | case3 => cases h

/-- Behind characters that are no colons the first `://` is the one put there. -/
theorem splitScheme_append {scheme : List Char} (rest : List Char) (h : ':' ∉ scheme) :
    splitScheme (scheme ++ "://".toList ++ rest) = some (scheme, rest) := by
  induction scheme with
  | nil => rfl
  | cons c scheme ih =>
      obtain ⟨hc, hscheme⟩ := List.ne_and_not_mem_of_not_mem_cons h
      rw [List.cons_append, List.cons_append, splitScheme, ih hscheme]
      · rfl
      · exact fun _ hcolon => absurd hcolon.symm hc

-- =============================================================== targets

/-- A text that can be read, in some way, as a scheme, `://` and a rest that is not empty. -/
def Locator (text : String) : Prop :=
  ∃ scheme rest, text = scheme ++ "://" ++ rest ∧ Scheme scheme ∧ rest ≠ ""

/-- If there is such a way at all, parting at the first `://` finds it. -/
theorem exists_splitScheme_iff {locator : String} :
    (∃ scheme rest, splitScheme locator.toList = some (scheme, rest) ∧ isScheme scheme = true
      ∧ rest ≠ []) ↔ Locator locator := by
  constructor
  · rintro ⟨scheme, rest, hparted, hscheme, hrest⟩
    refine ⟨.ofList scheme, .ofList rest, ?_, ?_, ?_⟩
    · have hbefore := String.toList_ofList (l := scheme)
      have hafter := String.toList_ofList (l := rest)
      rw [← String.toList_inj, String.toList_append, String.toList_append, hbefore, hafter]
      exact eq_append_of_splitScheme hparted
    · rwa [← isScheme_iff, String.toList_ofList]
    · rwa [ne_eq, ← String.toList_eq_nil_iff, String.toList_ofList]
  · rintro ⟨scheme, rest, rfl, hscheme, hrest⟩
    -- No earlier `://` reaches into the scheme, so the check parts the text at this one.
    have hcolon : ':' ∉ scheme.toList := colon_notMem_of_isScheme (isScheme_iff.mpr hscheme)
    refine ⟨scheme.toList, rest.toList, ?_, isScheme_iff.mpr hscheme, ?_⟩
    · rw [String.toList_append, String.toList_append]
      exact splitScheme_append rest.toList hcolon
    · rwa [ne_eq, String.toList_eq_nil_iff]

/-- A text is taken for a locator exactly if it is one by its parts. -/
theorem isUrl_iff {locator : String} :
    isUrl locator = true ↔
      locator.utf8ByteSize ≤ maxBytes ∧ Text.Unbroken locator ∧ Locator locator := by
  rw [← exists_splitScheme_iff, ← Text.hasBlankOrControl_eq_false_iff]
  unfold isUrl
  cases splitScheme locator.toList with
  | none => simp
  | some parts =>
      obtain ⟨scheme, rest⟩ := parts
      simp only [Bool.and_eq_true, decide_eq_true_eq, Bool.not_eq_true', List.isEmpty_eq_false_iff,
        and_assoc]
      constructor
      · rintro ⟨hsize, hclean, hrest, hscheme⟩
        exact ⟨hsize, hclean, scheme, rest, rfl, hscheme, hrest⟩
      · rintro ⟨hsize, hclean, _, _, hparted, hscheme, hrest⟩
        cases hparted
        exact ⟨hsize, hclean, hrest, hscheme⟩

/-- A text is taken for a tag if it is unbroken, and neither empty nor too long. -/
theorem isTag_iff {name : String} :
    isTag name = true ↔
      1 ≤ name.utf8ByteSize ∧ name.utf8ByteSize ≤ maxBytes ∧ Text.Unbroken name := by
  have hempty : name.isEmpty = false ↔ 1 ≤ name.utf8ByteSize := by
    rw [Nat.one_le_iff_ne_zero, ne_eq, String.utf8ByteSize_eq_zero_iff, ← String.isEmpty_iff,
      Bool.not_eq_true]
  rw [← Text.hasBlankOrControl_eq_false_iff, ← hempty]
  simp only [isTag, Bool.and_eq_true, decide_eq_true_eq, Bool.not_eq_true', and_assoc]

/-- A URL is accepted exactly if it has at most 2048 bytes, no white space and no control
character, and is a scheme, `://` and something after it in some way of reading it. A tag
is accepted exactly if it has 1 to 2048 bytes and none of these characters. -/
theorem validate_eq_ok_iff (text : String) :
    ((url text).validate = .ok () ↔
        text.utf8ByteSize ≤ 2048 ∧ Text.Unbroken text ∧ Locator text)
      ∧ ((tag text).validate = .ok () ↔
        1 ≤ text.utf8ByteSize ∧ text.utf8ByteSize ≤ 2048 ∧ Text.Unbroken text) := by
  constructor
  · simp only [validate, ite_eq_left_iff, reduceCtorEq, imp_false, not_not, isUrl_iff, maxBytes]
  · simp only [validate, ite_eq_left_iff, reduceCtorEq, imp_false, not_not, isTag_iff, maxBytes]

/-- The first `://` counts: behind it anything may stand, and a scheme has to be before it. -/
example : (url "amp://home://lobby").validate = .ok ()
    ∧ (url "amp:x://amp://lobby").validate = .error .invalidUri := by decide

end Target

end CellSync
