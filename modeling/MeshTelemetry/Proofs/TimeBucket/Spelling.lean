import Mathlib.Algebra.BigOperators.Intervals
import MeshTelemetry.Proofs.TimeBucket

/-!
# MeshTelemetry.Proofs.TimeBucket.Spelling

The digits of a bucket spell a minute of the calendar: taken apart they are a date that the calendar
knows and a time of the day, and counting years and months up to that minute one after the other, by
the leap-year rule alone, gives the minute that was put in.

* `Calendar.daysToDate`: the days up to a date, summed up over years and months.
* `Calendar.daysToDate_eq`: they are the days that `dayOfDate` computes.
* `TimeBucket.Stamp.ofDigits_ofMillis`: no part of a bucket runs over into the next one.
* `TimeBucket.minuteBucket_spells`: the minute that a bucket spells.
-/

namespace MeshTelemetry

namespace Calendar

def daysInYear (year : Int) : Int := if isLeap year then 366 else 365

/-- The days of so many years, the first of which is given. -/
def daysOfYears (year : Int) (count : Nat) : Int :=
  ∑ i ∈ Finset.range count, daysInYear (year + i)

/-- The days of the first months of a year. -/
def daysOfMonths (year : Int) (count : Nat) : Int :=
  ∑ i ∈ Finset.range count, daysInMonth year (i + 1)

/-- The days from 1970-01-01 to the first day of a year, which may lie before it. -/
def daysToYear (year : Int) : Int :=
  if 1970 ≤ year then daysOfYears 1970 (year - 1970).toNat
  else -daysOfYears year (1970 - year).toNat

/-- The days from 1970-01-01 to a date. -/
def daysToDate (d : Date) : Int :=
  daysToYear d.year + daysOfMonths d.year (d.month - 1).toNat + (d.day - 1)

theorem daysInYear_eq (year : Int) :
    daysInYear year = daysBeforeMarch year - daysBeforeMarch (year - 1) := by
  have hsucc := daysBeforeMarch_succ (year - 1)
  rw [Int.sub_add_cancel] at hsucc
  rw [hsucc, daysInYear]
  omega

/-- The lengths of years add up to the days between two firsts of March. -/
theorem daysOfYears_eq (year : Int) (count : Nat) :
    daysOfYears year count = daysBeforeMarch (year + count - 1) - daysBeforeMarch (year - 1) := by
  have hstep : ∀ i : Nat, daysInYear (year + i) =
      daysBeforeMarch (year + ((i + 1 : Nat) : Int) - 1) - daysBeforeMarch (year + i - 1) := by
    intro i
    rw [daysInYear_eq]
    congr 2
    push_cast
    omega
  have hsum := Finset.sum_range_sub (fun i : Nat => daysBeforeMarch (year + i - 1)) count
  rw [Nat.cast_zero, Int.add_zero] at hsum
  rw [daysOfYears, ← hsum]
  exact Finset.sum_congr rfl fun i _ => hstep i

theorem daysToYear_eq (year : Int) : daysToYear year = daysBeforeMarch (year - 1) - 719162 := by
  have hepoch : daysBeforeMarch (1970 - 1) = 719162 := by decide
  rw [daysToYear]
  split
  · next hlate =>
    have hyear : 1970 + ((year - 1970).toNat : Int) - 1 = year - 1 := by omega
    rw [daysOfYears_eq, hyear, hepoch]
  · next hearly =>
    have hyear : year + ((1970 - year).toNat : Int) - 1 = 1970 - 1 := by omega
    rw [daysOfYears_eq, hyear, hepoch]
    omega

/-- January and February stand in front of the months that are counted from March. -/
theorem daysOfMonths_eq (year : Int) {month : Int} (hm : 1 ≤ month ∧ month ≤ 12) :
    daysOfMonths year (month - 1).toNat =
      if month ≤ 2 then daysBeforeMonth (month + 9) - 306
      else daysBeforeMonth (month - 3) + daysInYear year - 306 := by
  obtain ⟨hfirst, hlast⟩ := hm
  cases hleap : isLeap year <;>
    interval_cases month <;>
    simp [daysOfMonths, Finset.sum_range_succ, daysInMonth, daysInYear, daysBeforeMonth, hleap]

theorem daysToDate_eq {d : Date} (hd : d.Valid) : daysToDate d = dayOfDate d := by
  have hmonths := daysOfMonths_eq d.year hd.month
  rw [daysToDate, daysToYear_eq, hmonths, daysInYear_eq, dayOfDate, Date.marchYear, Date.marchMonth]
  split <;> omega

end Calendar

namespace TimeBucket

open Calendar

/-- A date with a time of the day. -/
structure Stamp where
  date : Date
  hour : Int
  minute : Int
  deriving DecidableEq, Repr

namespace Stamp

/-- The year and then two digits each for month, day, hour and minute. -/
def ofDigits (bucket : Int) : Stamp where
  date :=
    { year := bucket / 100000000
      month := bucket / 1000000 % 100
      day := bucket / 10000 % 100 }
  hour := bucket / 100 % 100
  minute := bucket % 100

/-- The calendar knows the date, and the time is one of the twenty-four hours. -/
structure Valid (s : Stamp) : Prop where
  date : s.date.Valid
  hour : 0 ≤ s.hour ∧ s.hour ≤ 23
  minute : 0 ≤ s.minute ∧ s.minute ≤ 59

/-- The minutes from 1970-01-01T00:00 on. -/
def minutes (s : Stamp) : Int := (daysToDate s.date * 24 + s.hour) * 60 + s.minute

/-- A month and a day have at most two digits, so that no part runs over into the next one. -/
theorem ofDigits_ofMillis (millis : Int) :
    ofDigits (ofMillis millis) =
      ⟨dateOfDay (millis / 60000 / 1440), millis / 60000 % 1440 / 60, millis / 60000 % 60⟩ := by
  have hvalid := dateOfDay_valid (millis / 60000 / 1440)
  have hmonth := hvalid.month
  have hday := hvalid.day.1
  have hday' := hvalid.day_le
  rw [ofMillis_eq]
  generalize dateOfDay (millis / 60000 / 1440) = date at *
  obtain ⟨year, month, day⟩ := date
  simp only [ofDigits, Date.digits, mk.injEq, Date.mk.injEq] at *
  omega

theorem ofDigits_ofMillis_valid (millis : Int) : (ofDigits (ofMillis millis)).Valid := by
  rw [ofDigits_ofMillis]
  exact ⟨dateOfDay_valid _, by dsimp only; omega, by dsimp only; omega⟩

theorem minutes_ofMillis (millis : Int) : (ofDigits (ofMillis millis)).minutes = millis / 60000 := by
  rw [ofDigits_ofMillis, minutes]
  dsimp only
  rw [daysToDate_eq (dateOfDay_valid _), dayOfDate_dateOfDay]
  omega

end Stamp

theorem toInt_minuteBucket {millis bucket : Int64}
    (h : Collaborators.minuteBucket millis = .done bucket) :
    bucket.toInt = ofMillis millis.toInt := by
  rcases ofMillis?_eq millis with ⟨-, -, b, hb, hint⟩ | ⟨-, hnone⟩
  · rw [Collaborators.minuteBucket, hb] at h
    cases h
    exact hint
  · rw [Collaborators.minuteBucket, hnone] at h
    cases h

/-- The digits of a bucket spell a date that the calendar knows and a time of the day; the minutes
up to there are those of the moment whose bucket it is. -/
theorem minuteBucket_spells {millis bucket : Int64}
    (h : Collaborators.minuteBucket millis = .done bucket) :
    (Stamp.ofDigits bucket.toInt).Valid ∧
      (Stamp.ofDigits bucket.toInt).minutes = millis.toInt / 60000 := by
  rw [toInt_minuteBucket h]
  exact ⟨Stamp.ofDigits_ofMillis_valid _, Stamp.minutes_ofMillis _⟩

/-- The last millisecond of a leap day in a year before the year zero. -/
theorem minuteBucket_spells_leapDay :
    Collaborators.minuteBucket (-62288265600001) = .done (-397707641) ∧
      Stamp.ofDigits (-397707641) = ⟨⟨-4, 2, 29⟩, 23, 59⟩ ∧
      (Stamp.ofDigits (-397707641)).minutes = -1038137761 := by
  have h : Collaborators.minuteBucket (-62288265600001) = .done (-397707641) := by decide +kernel
  exact ⟨h, by decide, (minuteBucket_spells h).2⟩

end TimeBucket
end MeshTelemetry
