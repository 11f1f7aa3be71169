/-
Instants in text: the date and the time of day in universal time.

Days are counted here from the first of March of the year zero, so that
the day which a leap year adds is the last of its year. Any four hundred
years have the same number of days, and so have five months in a row
from March on.
-/
import CellSync.Digits

namespace CellSync.Text

/-- The days from the first of March of the year zero to the start of 1970. -/
def daysBefore1970 : Nat := 719468

/-- The day of its year and the year, which begin in March, of a day of a cycle
of four hundred years. -/
def dayOfYear (day : Nat) : Nat × Nat :=
  let year := (day - day / 1460 + day / 36524 - day / 146096) / 365
  (day - (365 * year + year / 4 - year / 100), year)

/-- The year, the month and the day of the month, of a day. -/
def date (day : Nat) : Nat × Nat × Nat :=
  let (inYear, year) := dayOfYear (day % 146097)
  let month := (5 * inYear + 2) / 153
  let inMonth := inYear - (153 * month + 2) / 5 + 1
  let start := year + 400 * (day / 146097)
  if month < 10 then (start, month + 3, inMonth) else (start + 1, month - 9, inMonth)

/-- A number with leading zeros. -/
def padded (places n : Nat) : String := String.join ((digits 10 places n).map toString)

/-- An instant so many nanoseconds after the start of 1970, cut to microseconds. -/
def instant (nanos : Nat) : String :=
  let seconds := nanos / 1000000000
  let (year, month, day) := date (daysBefore1970 + seconds / 86400)
  s!"{padded 4 year}-{padded 2 month}-{padded 2 day}" ++
    s!"T{padded 2 (seconds / 3600 % 24)}:{padded 2 (seconds / 60 % 60)}:{padded 2 (seconds % 60)}" ++
    s!".{padded 6 (nanos / 1000 % 1000000)}Z"

end CellSync.Text
