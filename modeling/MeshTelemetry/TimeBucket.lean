import MeshTelemetry.Calendar

/-!
# MeshTelemetry.TimeBucket

Minute time buckets. A moment, counted in milliseconds from 1970-01-01T00:00, falls into the
bucket whose decimal digits spell its year and then, two digits each, its month, day, hour and
minute.
-/

namespace MeshTelemetry
namespace TimeBucket

/-- Buckets exist from the first day of this year. -/
def firstYear : Int := -262143

/-- Buckets exist up to the last day of this year. -/
def lastYear : Int := 262142

/-- The bucket of a moment, whatever its year. -/
def ofMillis (millis : Int) : Int :=
  let minutes := millis / 60000
  let date := Calendar.dateOfDay (minutes / 1440)
  let minuteOfDay := minutes % 1440
  date.year * 100000000 + date.month * 1000000 + date.day * 10000 + minuteOfDay / 60 * 100
    + minuteOfDay % 60

/-- The bucket of a moment in one of the years that have buckets. -/
@[irreducible]
def ofMillis? (millis : Int64) : Option Int64 :=
  let year := (Calendar.dateOfDay (millis.toInt / 86400000)).year
  if firstYear ≤ year ∧ year ≤ lastYear then some (Int64.ofInt (ofMillis millis.toInt)) else none

end TimeBucket
end MeshTelemetry
