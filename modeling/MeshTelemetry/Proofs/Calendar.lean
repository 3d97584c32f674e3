import Mathlib.Tactic.IntervalCases
import MeshTelemetry.Calendar

/-!
# MeshTelemetry.Proofs.Calendar

Days and dates. Each day has a date that the calendar knows, the day can be told from its date, and
later days have later dates.

* `Calendar.EraDay`: a day taken apart as four centuries of groups of four years that begin in
  March; `EraDay.dateOfDay_number`: the date that `dateOfDay` gives it.
* `Calendar.dateOfDay_valid`: the date has a month of the year and a day of that month.
* `Calendar.dayOfDate_dateOfDay`: the day of the date of a day.
* `Calendar.digits_dateOfDay_lt`: the order of days is the order of their dates.
-/

namespace MeshTelemetry
namespace Calendar

/-- A date has a month of the year and a day of that month. -/
structure Date.Valid (d : Date) : Prop where
  month : 1 ≤ d.month ∧ d.month ≤ 12
  day : 1 ≤ d.day ∧ d.day ≤ daysInMonth d.year d.month

/-- The year of a date if years begin in March. -/
def Date.marchYear (d : Date) : Int := if d.month ≤ 2 then d.year - 1 else d.year

/-- The months since March. -/
def Date.marchMonth (d : Date) : Int := if d.month ≤ 2 then d.month + 9 else d.month - 3

/-- The days from the first of March of the year zero to that of another year. -/
def daysBeforeMarch (year : Int) : Int := 365 * year + year / 4 - year / 100 + year / 400

/-- The days from the first of March to the first of a month, counted from March, of that year. -/
def daysBeforeMonth (month : Int) : Int := (153 * month + 2) / 5

/-- How many days after 1970-01-01 a date lies. -/
def dayOfDate (d : Date) : Int :=
  daysBeforeMarch d.marchYear + daysBeforeMonth d.marchMonth + (d.day - 1) - 719468

/-- A day by its place in an era of four hundred years that begin in March. Only the last year of a
group of four has a leap day, and in the last group of a century only that of the last century. -/
structure EraDay where
  era : Int
  century : Int
  group : Int
  year : Int
  day : Int
  century_mem : 0 ≤ century ∧ century ≤ 3
  group_mem : 0 ≤ group ∧ group ≤ 24
  year_mem : 0 ≤ year ∧ year ≤ 3
  day_mem : 0 ≤ day ∧ day ≤ 365
  leapDay : day = 365 → year = 3 ∧ (group = 24 → century = 3)

namespace EraDay

/-- The days since the beginning of the era. -/
def dayOfEra (e : EraDay) : Int := 36524 * e.century + 1461 * e.group + 365 * e.year + e.day

/-- The days since 1970-01-01. -/
def number (e : EraDay) : Int := 146097 * e.era + e.dayOfEra - 719468

def yearOfEra (e : EraDay) : Int := 100 * e.century + 4 * e.group + e.year

theorem exists_number (day : Int) : ∃ e : EraDay, e.number = day := by
  let n := (day + 719468) % 146097
  have hn : 0 ≤ n ∧ n < 146097 := by omega
  -- the leap day at the end of a century, of a group or of the era belongs to the year before it
  let c := if n = 146096 then 3 else n / 36524
  have hc : 0 ≤ c ∧ c ≤ 3 ∧ 0 ≤ n - 36524 * c ∧
      (n - 36524 * c < 36524 ∨ c = 3 ∧ n - 36524 * c = 36524) := by
    simp only [c]
    split <;> omega
  let g := (n - 36524 * c) / 1461
  have hg : 0 ≤ g ∧ g ≤ 24 ∧ 0 ≤ n - 36524 * c - 1461 * g ∧
      n - 36524 * c - 1461 * g ≤ 1460 := by
    simp only [g]
    omega
  let y := if n - 36524 * c - 1461 * g = 1460 then 3 else (n - 36524 * c - 1461 * g) / 365
  let d := n - 36524 * c - 1461 * g - 365 * y
  have hy : 0 ≤ y ∧ y ≤ 3 ∧ 0 ≤ d ∧ (d ≤ 364 ∨ d = 365 ∧ y = 3) := by
    simp only [y, d]
    split <;> omega
  have hleap : d = 365 → y = 3 ∧ (g = 24 → c = 3) := by omega
  refine ⟨⟨(day + 719468) / 146097, c, g, y, d, by omega, by omega, by omega, by omega, hleap⟩, ?_⟩
  simp only [number, dayOfEra]
  omega

theorem number_split (e : EraDay) :
    (e.number + 719468) / 146097 = e.era ∧ (e.number + 719468) % 146097 = e.dayOfEra := by
  obtain ⟨era, c, g, y, d, hc, hg, hy, hd, hleap⟩ := e
  simp only [number, dayOfEra]
  omega

/-- Without the leap days that are over, a year takes 365 days. -/
theorem yearOfEra_eq (e : EraDay) :
    (e.dayOfEra - e.dayOfEra / 1460 + e.dayOfEra / 36524 - e.dayOfEra / 146096) / 365 =
      e.yearOfEra := by
  obtain ⟨era, c, g, y, d, hc, hg, hy, hd, hleap⟩ := e
  simp only [dayOfEra, yearOfEra]
  generalize hday : 36524 * c + 1461 * g + 365 * y + d = day
  have hera : day / 146096 = if day = 146096 then 1 else 0 := by split <;> omega
  have hcentury : day / 36524 = if day = 146096 then 4 else c := by split <;> omega
  have hgroup : day / 1460 = 25 * c + g + if 24 * c + g + 365 * y + d < 1460 then 0 else 1 := by
    split <;> omega
  rw [hera, hcentury, hgroup]
  split <;> split <;> omega

theorem dayOfYear_eq (e : EraDay) :
    e.dayOfEra - (365 * e.yearOfEra + e.yearOfEra / 4 - e.yearOfEra / 100) = e.day := by
  obtain ⟨era, c, g, y, d, hc, hg, hy, hd, hleap⟩ := e
  simp only [dayOfEra, yearOfEra]
  omega

/-- The date of a day: five months from March on take 153 days. -/
theorem dateOfDay_number (e : EraDay) :
    (dateOfDay e.number).marchYear = 400 * e.era + e.yearOfEra ∧
      (dateOfDay e.number).marchMonth = (5 * e.day + 2) / 153 ∧
      (1 ≤ (dateOfDay e.number).month ∧ (dateOfDay e.number).month ≤ 12) ∧
      (dateOfDay e.number).day = e.day - daysBeforeMonth ((5 * e.day + 2) / 153) + 1 := by
  have hmonth : 0 ≤ (5 * e.day + 2) / 153 ∧ (5 * e.day + 2) / 153 ≤ 11 := by
    have hday := e.day_mem
    omega
  simp only [dateOfDay, e.number_split, yearOfEra_eq, dayOfYear_eq, Date.marchYear,
    Date.marchMonth, daysBeforeMonth]
  generalize (5 * e.day + 2) / 153 = m at *
  by_cases hm : m < 10
  · have hlate : ¬ m + 3 ≤ 2 := by omega
    simp only [hm, hlate, if_true, if_false, and_true]
    omega
  · have hearly : m - 9 ≤ 2 := by omega
    simp only [hm, hearly, if_true, if_false, and_true]
    omega

theorem daysBeforeMarch_year (e : EraDay) :
    daysBeforeMarch (400 * e.era + e.yearOfEra) = e.number + 719468 - e.day := by
  obtain ⟨era, c, g, y, d, hc, hg, hy, hd, hleap⟩ := e
  simp only [number, dayOfEra, yearOfEra, daysBeforeMarch]
  omega

/-- The last day of a year of 366 days is the 29th of February of a leap year. -/
theorem isLeap_of_leapDay (e : EraDay) (h : e.day = 365) :
    isLeap (400 * e.era + e.yearOfEra + 1) = true := by
  obtain ⟨era, c, g, y, d, hc, hg, hy, hd, hleap⟩ := e
  simp only [isLeap, yearOfEra, Bool.and_eq_true, Bool.or_eq_true, beq_iff_eq, bne_iff_ne] at *
  omega

end EraDay

theorem dayOfDate_dateOfDay (day : Int) : dayOfDate (dateOfDay day) = day := by
  obtain ⟨e, rfl⟩ := EraDay.exists_number day
  obtain ⟨hyear, hmonth, -, hday⟩ := e.dateOfDay_number
  rw [dayOfDate, hyear, hmonth, hday, e.daysBeforeMarch_year]
  omega

/-- The length of a month, counted from March: February is the last one. -/
theorem daysInMonth_march (d : Date) (hm : 1 ≤ d.month ∧ d.month ≤ 12) :
    daysInMonth d.year d.month =
      if d.marchMonth = 11 then (if isLeap (d.marchYear + 1) then 29 else 28)
      else daysBeforeMonth (d.marchMonth + 1) - daysBeforeMonth d.marchMonth := by
  obtain ⟨year, month, day⟩ := d
  obtain ⟨hfirst, hlast⟩ := hm
  simp only [daysInMonth, Date.marchMonth, Date.marchYear, daysBeforeMonth] at *
  interval_cases month <;> simp

theorem dateOfDay_valid (day : Int) : (dateOfDay day).Valid := by
  obtain ⟨e, rfl⟩ := EraDay.exists_number day
  obtain ⟨hyear, hmonth, hm, hd⟩ := e.dateOfDay_number
  refine ⟨hm, ?_⟩
  rw [daysInMonth_march _ hm, hd, hmonth, hyear]
  have hday := e.day_mem
  simp only [daysBeforeMonth]
  split
  · split
    · omega
    · next hleap =>
      have hne : e.day ≠ 365 := fun h => hleap (e.isLeap_of_leapDay h)
      omega
  · omega

theorem daysBeforeMarch_succ (year : Int) :
    daysBeforeMarch (year + 1) =
      daysBeforeMarch year + if isLeap (year + 1) then 366 else 365 := by
  by_cases h : isLeap (year + 1)
  · rw [if_pos h]
    simp only [isLeap, Bool.and_eq_true, Bool.or_eq_true, beq_iff_eq, bne_iff_ne] at h
    simp only [daysBeforeMarch]
    omega
  · rw [if_neg h]
    simp only [isLeap, Bool.and_eq_true, Bool.or_eq_true, beq_iff_eq, bne_iff_ne] at h
    simp only [daysBeforeMarch]
    omega

theorem daysBeforeMarch_mono {year year' : Int} (h : year ≤ year') :
    daysBeforeMarch year ≤ daysBeforeMarch year' := by
  simp only [daysBeforeMarch]
  omega

namespace Date

/-- The digits of a date, two each for month and day. -/
def digits (d : Date) : Int := d.year * 10000 + d.month * 100 + d.day

variable {d d' : Date}

theorem Valid.marchMonth_mem (h : d.Valid) : 0 ≤ d.marchMonth ∧ d.marchMonth ≤ 11 := by
  obtain ⟨hfirst, hlast⟩ := h.month
  simp only [marchMonth]
  split <;> omega

theorem Valid.day_le (h : d.Valid) : d.day ≤ 31 := by
  have hday := h.day.2
  simp only [daysInMonth] at hday
  split at hday
  · split at hday <;> omega
  · split at hday <;> omega

theorem Valid.before_month (h : d.Valid) {month : Int} (hlt : d.marchMonth < month)
    (hlast : month ≤ 11) : daysBeforeMonth d.marchMonth + d.day ≤ daysBeforeMonth month := by
  have hday := h.day
  rw [daysInMonth_march d h.month, if_neg (by omega)] at hday
  simp only [daysBeforeMonth] at *
  omega

theorem Valid.before_march (h : d.Valid) :
    daysBeforeMarch d.marchYear + daysBeforeMonth d.marchMonth + d.day ≤
      daysBeforeMarch (d.marchYear + 1) := by
  have hday := h.day
  have hmonth := h.marchMonth_mem
  rw [daysBeforeMarch_succ]
  rw [daysInMonth_march d h.month] at hday
  simp only [daysBeforeMonth] at *
  split at hday
  · split at hday <;> split <;> omega
  · split <;> omega

/-- Dates in the order of their digits are in the order of years from March, months and days. -/
theorem march_of_digits (h : d.Valid) (h' : d'.Valid) (hle : d.digits ≤ d'.digits) :
    d.marchYear < d'.marchYear ∨ d.marchYear = d'.marchYear ∧
      (d.marchMonth < d'.marchMonth ∨ d.marchMonth = d'.marchMonth ∧ d.day ≤ d'.day) := by
  obtain ⟨hfirst, hlast⟩ := h.month
  obtain ⟨hfirst', hlast'⟩ := h'.month
  have hday := h.day
  have hday' := h'.day
  have hle31 := h.day_le
  have hle31' := h'.day_le
  simp only [digits, marchYear, marchMonth] at *
  split <;> split <;> omega

end Date

theorem dayOfDate_mono {d d' : Date} (h : d.Valid) (h' : d'.Valid) (hle : d.digits ≤ d'.digits) :
    dayOfDate d ≤ dayOfDate d' := by
  have hmonth' : 0 ≤ daysBeforeMonth d'.marchMonth := by
    have := h'.marchMonth_mem
    simp only [daysBeforeMonth]
    omega
  have hday' := h'.day.1
  simp only [dayOfDate]
  rcases Date.march_of_digits h h' hle with hyear | ⟨hyear, hmonth | ⟨hmonth, hday⟩⟩
  · have hbefore := h.before_march
    have hmono := daysBeforeMarch_mono (show d.marchYear + 1 ≤ d'.marchYear from hyear)
    omega
  · have hbefore := h.before_month hmonth h'.marchMonth_mem.2
    rw [hyear]
    omega
  · rw [hyear, hmonth]
    omega

theorem digits_dateOfDay_lt {day day' : Int} :
    (dateOfDay day).digits < (dateOfDay day').digits ↔ day < day' := by
  have hle : ∀ {day day'}, (dateOfDay day).digits ≤ (dateOfDay day').digits → day ≤ day' := by
    intro day day' h
    have hmono := dayOfDate_mono (dateOfDay_valid day) (dateOfDay_valid day') h
    rwa [dayOfDate_dateOfDay, dayOfDate_dateOfDay] at hmono
  constructor
  · intro h
    rcases Int.lt_or_eq_of_le (hle (Int.le_of_lt h)) with hlt | rfl
    · exact hlt
    · exact absurd h (Int.lt_irrefl _)
  · intro h
    rcases Int.lt_or_le (dateOfDay day).digits (dateOfDay day').digits with hlt | hge
    · exact hlt
    · exact absurd (hle hge) (Int.not_le.mpr h)

end Calendar
end MeshTelemetry
