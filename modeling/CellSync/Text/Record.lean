/-
Values as diagnostics show them.

A record is its name and its fields in order, a list stands in square
brackets, and a value that may be missing is `None` or `Some(…)`.
-/
namespace CellSync.Text

/-- A record with its fields. -/
def record (name : String) (fields : List (String × String)) : String :=
  name ++ " \x7b " ++ String.intercalate ", " (fields.map fun (k, v) => k ++ ": " ++ v) ++ " \x7d"

/-- A list of values. -/
def bracketed (values : List String) : String := "[" ++ String.intercalate ", " values ++ "]"

/-- A value that may be missing. -/
def optional : Option String → String
  | none => "None"
  | some v => "Some(" ++ v ++ ")"

/-- A truth value. -/
def truth (b : Bool) : String := if b then "true" else "false"

/-- A lowercase name with underscores, as one word with capitals. -/
def capitalized (name : String) : String :=
  let step (acc : List Char × Bool) (c : Char) : List Char × Bool :=
    if c = '_' then (acc.1, true)
    else (acc.1 ++ [if acc.2 then c.toUpper else c], false)
  String.ofList (name.toList.foldl step ([], true)).1

end CellSync.Text
