import ObjectGateway.Text.Decimal
/-!
# Civil time

Unix seconds to and from the proleptic Gregorian calendar, and the text of a
moment in UTC with whole seconds.
-/
namespace ObjectGateway.Calendar

structure Date where
  year : Int
  month : Nat
  day : Nat
deriving DecidableEq, Repr

/-- Days from 1970-01-01 to the given date. Years are counted from March, so
that the leap day is the last of its year. -/
def Date.toDays (d : Date) : Int :=
  let y := if d.month ≤ 2 then d.year - 1 else d.year
  let era := y / 400
  let yearOfEra := y - era * 400
  let fromMarch : Int := ((d.month + 9) % 12 : Nat)
  let dayOfYear := (153 * fromMarch + 2) / 5 + d.day - 1
  let dayOfEra := yearOfEra * 365 + yearOfEra / 4 - yearOfEra / 100 + dayOfYear
  era * 146097 + dayOfEra - 719468

/-- The date that lies the given number of days after 1970-01-01. -/
def Date.ofDays (days : Int) : Date :=
  let z := days + 719468
  let era := z / 146097
  let dayOfEra := z - era * 146097
  let yearOfEra :=
    (dayOfEra - dayOfEra / 1460 + dayOfEra / 36524 - dayOfEra / 146096) / 365
  let dayOfYear := dayOfEra - (365 * yearOfEra + yearOfEra / 4 - yearOfEra / 100)
  let fromMarch := (5 * dayOfYear + 2) / 153
  let day := dayOfYear - (153 * fromMarch + 2) / 5 + 1
  let month := if fromMarch < 10 then fromMarch + 3 else fromMarch - 9
  let year := yearOfEra + era * 400 + (if month ≤ 2 then 1 else 0)
  ⟨year, month.toNat, day.toNat⟩

/-- The first second of the calendar, at the start of the year -262143. -/
def firstSecond : Int := Date.toDays ⟨-262143, 1, 1⟩ * 86400

/-- The last second of the calendar, at the end of the year 262142. -/
def lastSecond : Int := Date.toDays ⟨262143, 1, 1⟩ * 86400 - 1

/-- A year of four digits; outside of those, a sign and at least four digits. -/
def yearText (year : Int) : String :=
  if 0 ≤ year ∧ year ≤ 9999 then Decimal.padded 4 year.toNat
  else (if year < 0 then "-" else "+") ++ Decimal.padded 4 year.natAbs

/-- A moment in UTC, such as `2023-11-14T22:13:20Z`. -/
def instantText (seconds : Int) : String :=
  let date := Date.ofDays (seconds / 86400)
  let clock := (seconds % 86400).toNat
  yearText date.year ++ "-" ++ Decimal.padded 2 date.month ++ "-" ++ Decimal.padded 2 date.day ++
    "T" ++ Decimal.padded 2 (clock / 3600) ++ ":" ++ Decimal.padded 2 (clock / 60 % 60) ++
    ":" ++ Decimal.padded 2 (clock % 60) ++ "Z"

end ObjectGateway.Calendar
