import PageInjection.Text.Numeral

/-!
# Points in time as texts

A point in time is a number of milliseconds since the beginning of 1970.  It is
written as date and time of day in the calendar of today, which is taken to hold
for all times, with the distance to universal time behind it.
-/

namespace PageInjection.Timestamp

/-- A day of the calendar. -/
structure Day where
  year : Int
  month : Nat
  day : Nat
deriving DecidableEq, Repr

/-- The day with a number of days since the beginning of 1970.  Days are counted
from the first of March of the year zero; years that begin in March have their
leap day last, and the calendar repeats itself after 400 of them. -/
def dayOf (days : Int) : Day :=
  let fromMarch := days + 719468
  let era := fromMarch / 146097
  let dayOfEra := (fromMarch % 146097).toNat
  let yearOfEra := (dayOfEra - dayOfEra / 1460 + dayOfEra / 36524 - dayOfEra / 146096) / 365
  let dayOfYear := dayOfEra - (365 * yearOfEra + yearOfEra / 4 - yearOfEra / 100)
  let month := (5 * dayOfYear + 2) / 153
  let year := Int.ofNat yearOfEra + era * 400
  let day := dayOfYear - (153 * month + 2) / 5 + 1
  if month < 10 then ⟨year, month + 3, day⟩ else ⟨year + 1, month - 9, day⟩

/-- A year with four digits or more; years outside of four digits have a sign. -/
def yearText (year : Int) : String :=
  if year < 0 then "-" ++ Text.padded 4 year.natAbs
  else if year ≤ 9999 then Text.padded 4 year.natAbs
  else "+" ++ Text.padded 4 year.natAbs

/-- The first point in time that can be written. -/
def least : Int := -8334601228800000

/-- The last point in time that can be written. -/
def greatest : Int := 8210266876799999

/-- A point in time as a text; thousandths are written only when there are any. -/
def text? (milliseconds : Int) : Option String :=
  if milliseconds < least ∨ greatest < milliseconds then none
  else
    let day := dayOf (milliseconds / 86400000)
    let rest := (milliseconds % 86400000).toNat
    let thousandths := rest % 1000
    let fraction := if thousandths = 0 then "" else "." ++ Text.padded 3 thousandths
    some (yearText day.year ++ "-" ++ Text.padded 2 day.month ++ "-" ++
      Text.padded 2 day.day ++ "T" ++
      Text.padded 2 (rest / 3600000) ++ ":" ++ Text.padded 2 (rest / 60000 % 60) ++ ":" ++
      Text.padded 2 (rest / 1000 % 60) ++ fraction ++ "+00:00")

end PageInjection.Timestamp
