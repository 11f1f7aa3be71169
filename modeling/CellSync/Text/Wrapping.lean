/-
Lines broken to fit a column.

A line is broken at its blanks, as late as each piece fits; a word that is
wider than the column is cut between two clusters where the column ends.
No line is left with room for only two more columns: it is closed there.
-/
import CellSync.Text.Cluster
import CellSync.Text.Width

namespace CellSync.Text

/-- The columns that are not worth filling. -/
def spareColumns : Nat := 2

/-- How many characters at the start of a word fit, no cluster being parted. -/
def fittingLength (columns : Nat) (word : List Char) : Nat :=
  match word with
  | [] => 0
  | c :: rest =>
    let attached := Cluster.attachedLength c rest
    let taken := widthOf (c :: rest.take attached)
    if columns < taken then 0
    else attached + 1 + fittingLength (columns - taken) (rest.drop attached)
termination_by word.length
decreasing_by simp only [List.length_drop, List.length_cons]; omega

-- ============================================================ a begun line

/-- A line that has been begun: its words, the last of them first, and the
columns that they take with a blank between each two. -/
structure Begun where
  words : List (List Char)
  taken : Nat

namespace Begun

/-- A line with nothing on it. -/
def empty : Begun := ⟨[], 0⟩

/-- Whether nothing is on a line. -/
def isEmpty (line : Begun) : Bool := line.words.isEmpty

/-- The blanks that stand before the next word. -/
def gap (line : Begun) : Nat := if line.isEmpty then 0 else 1

/-- A line with a word put at its end. -/
def push (line : Begun) (word : List Char) : Begun :=
  if line.isEmpty && word.isEmpty then line
  else ⟨word :: line.words, line.taken + line.gap + widthOf word⟩

/-- The columns that a line leaves to a word. -/
def room (columns : Nat) (line : Begun) : Nat := columns - line.taken - line.gap

/-- Whether a line leaves no room that is worth filling. -/
def isFull (columns : Nat) (line : Begun) : Bool := columns - spareColumns < line.taken

/-- The characters of a line. -/
def close (line : Begun) : List Char := [' '].intercalate line.words.reverse

end Begun

/-- How many characters of a word that has to be cut go at the end of a line; at
least one goes on a line of its own. -/
def cutLength (columns : Nat) (line : Begun) (word : List Char) : Nat :=
  max (fittingLength (line.room columns) word) (if line.isEmpty then 1 else 0)

-- ============================================================ all the words

/-- The characters of some words, with a blank after each. -/
def extent (words : List (List Char)) : Nat :=
  (words.map fun word => word.length + 1).foldr (· + ·) 0

theorem extent_cons (word : List Char) (rest : List (List Char)) :
    extent (word :: rest) = word.length + 1 + extent rest := by simp [extent]

/-- What is still to be laid out: each step takes a word or a part of it, or it
ends a line. -/
def pending (line : Begun) (words : List (List Char)) : Nat := 2 * extent words + line.gap

theorem Begun.gap_le (line : Begun) : line.gap ≤ 1 := by unfold Begun.gap; split <;> omega

theorem pending_lt_of_cons (line other : Begun) (word : List Char) (rest : List (List Char)) :
    pending other rest < pending line (word :: rest) := by
  have := other.gap_le
  simp only [pending, extent_cons]
  omega

theorem pending_empty_lt {line : Begun} (h : line.isEmpty = false) (words : List (List Char)) :
    pending .empty words < pending line words := by
  have : line.gap = 1 := by simp [Begun.gap, h]
  have : Begun.empty.gap = 0 := rfl
  simp only [pending]
  omega

theorem pending_drop_lt {columns : Nat} {line : Begun} {word : List Char}
    (rest : List (List Char)) (h : columns < widthOf word) :
    pending .empty (word.drop (cutLength columns line word) :: rest)
      < pending line (word :: rest) := by
  generalize hn : cutLength columns line word = n
  cases hl : line.isEmpty with
  | false =>
    have := pending_empty_lt hl (word :: rest)
    simp only [pending, extent_cons, List.length_drop] at *
    omega
  | true =>
    have : 1 ≤ n := by rw [← hn, cutLength, if_pos hl]; exact Nat.le_max_right _ _
    have : word.length ≠ 0 := by
      intro hw
      rw [List.length_eq_zero_iff.1 hw] at h
      simp [widthOf] at h
    have : Begun.empty.gap = 0 := rfl
    simp only [pending, extent_cons, List.length_drop]
    omega

/-- The lines that a begun line and the words after it make. -/
def wrapWords (columns : Nat) (line : Begun) (words : List (List Char)) : List (List Char) :=
  match words with
  | [] => if line.isEmpty then [] else [line.close]
  | word :: rest =>
    let longer := line.push word
    if line.taken + line.gap + widthOf word ≤ columns then
      if longer.isFull columns then longer.close :: wrapWords columns .empty rest
      else wrapWords columns longer rest
    else if !line.isEmpty && line.room columns ≤ spareColumns then
      line.close :: wrapWords columns .empty (word :: rest)
    else if columns < widthOf word then
      (line.push (word.take (cutLength columns line word))).close ::
        wrapWords columns .empty (word.drop (cutLength columns line word) :: rest)
    else
      let next := Begun.empty.push word
      if next.isFull columns then line.close :: next.close :: wrapWords columns .empty rest
      else line.close :: wrapWords columns next rest
termination_by pending line words
decreasing_by
  · exact pending_lt_of_cons ..
  · exact pending_lt_of_cons ..
  · exact pending_empty_lt (by simp_all) _
  · exact pending_drop_lt _ (by omega)
  · exact pending_lt_of_cons ..
  · exact pending_lt_of_cons ..

/-- The lines of a column that a line takes. -/
def wrap (columns : Nat) (line : String) : List String :=
  if width line ≤ columns then [line]
  else (wrapWords columns .empty ((line.splitOn " ").map String.toList)).map String.ofList

end CellSync.Text
