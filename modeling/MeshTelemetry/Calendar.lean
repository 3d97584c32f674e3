/-!
# MeshTelemetry.Calendar

The proleptic Gregorian calendar over all of the integers. `dateOfDay` turns a count of days from
1970-01-01 into a date, `isLeap` and `daysInMonth` are the rules that the dates obey.
-/

namespace MeshTelemetry
namespace Calendar

structure Date where
  year : Int
  month : Int
  day : Int
  deriving DecidableEq, Repr

/-- Every fourth year is a leap year, but of the full centuries only every fourth. -/
def isLeap (year : Int) : Bool :=
  year % 4 == 0 && (year % 100 != 0 || year % 400 == 0)

def daysInMonth (year month : Int) : Int :=
  if month = 2 then (if isLeap year then 29 else 28)
  else if month = 4 ∨ month = 6 ∨ month = 9 ∨ month = 11 then 30
  else 31

/-- The date of the day that lies `day` days after 1970-01-01. Years are counted from the first of
March, so that a leap day is the last of its year; 146097 days are four hundred years. -/
def dateOfDay (day : Int) : Date :=
  let shifted := day + 719468
  let era := shifted / 146097
  let dayOfEra := shifted % 146097
  let yearOfEra := (dayOfEra - dayOfEra / 1460 + dayOfEra / 36524 - dayOfEra / 146096) / 365
  let dayOfYear := dayOfEra - (365 * yearOfEra + yearOfEra / 4 - yearOfEra / 100)
  let month := (5 * dayOfYear + 2) / 153
  let monthOfYear := if month < 10 then month + 3 else month - 9
  { year := yearOfEra + era * 400 + (if monthOfYear ≤ 2 then 1 else 0)
    month := monthOfYear
    day := dayOfYear - (153 * month + 2) / 5 + 1 }

end Calendar
end MeshTelemetry
