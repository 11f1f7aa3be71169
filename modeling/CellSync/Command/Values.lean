/-
The values of options: spans of time and pairs.

A value that cannot be read is a usage failure and is shown as it was
given.
-/
import CellSync.Command.Exit
import CellSync.Text.Blank
import CellSync.Text.Numeral

namespace CellSync.Command

-- ================================================================= spans

/-- A text without an ending, if it has that ending. -/
def withoutEnd? (ending text : String) : Option String :=
  let back := text.toList.reverse
  let tail := ending.toList.reverse
  if back.take tail.length = tail then some (String.ofList (back.drop tail.length).reverse)
  else none

/-- The number of a span and the milliseconds of its unit. Seconds need no
sign. -/
def spanParts (text : String) : String × Nat :=
  match withoutEnd? "ms" text with
  | some number => (number, 1)
  | none => ((withoutEnd? "s" text).getD text, 1000)

/-- The milliseconds of a positive span such as `5s`, `500ms` or `3`. -/
def parseSpan (input : String) : Except Failure Nat :=
  let text := Text.trimmed input
  let (number, unit) := spanParts text
  if text.isEmpty then .error (.usage "duration must not be empty")
  else match Text.natural? 0x10000000000000000 number with
    | none => .error (.usage ("invalid duration value: " ++ text))
    | some 0 => .error (.usage "duration must be greater than zero")
    | some n => .ok (n * unit)

-- ================================================================= pairs

/-- The two sides of a text at its first equals sign; the left side must not
be empty. -/
def splitPair (input what : String) : Except Failure (String × String) :=
  let name := input.toList.takeWhile (· ≠ '=')
  match input.toList.dropWhile (· ≠ '=') with
  | _ :: value =>
    if name.isEmpty then .error (.usage (what ++ " must look like NAME=VALUE: " ++ input))
    else .ok (String.ofList name, String.ofList value)
  | [] => .error (.usage (what ++ " must look like NAME=VALUE: " ++ input))

end CellSync.Command
