import MeshTelemetry.Dispatcher
import MeshTelemetry.Proofs.Calendar

/-!
# MeshTelemetry.Proofs.TimeBucket

Time buckets as minutes. Two moments have the same bucket if they lie in the same minute, later
minutes have greater buckets, and the moments that have buckets are all those between two ends.

* `TimeBucket.ofMillis_lt`: the order of buckets is the order of minutes.
* `TimeBucket.ofMillis?_eq`: which moments have a bucket, and that it fits 64 bits.
* `TimeBucket.minuteBucket_minutes`: what a dispatcher can rely on.
-/

namespace MeshTelemetry
namespace TimeBucket

open Calendar

/-- The first moment of the first year that has buckets. -/
def firstMillis : Int64 := -8334601228800000

/-- The last moment of the last year that has buckets. -/
def lastMillis : Int64 := 8210266876799999

theorem ofMillis_eq (millis : Int) :
    ofMillis millis = (dateOfDay (millis / 60000 / 1440)).digits * 10000 +
      millis / 60000 % 1440 / 60 * 100 + millis / 60000 % 1440 % 60 := by
  simp only [ofMillis, Date.digits]
  omega

/-- The digits of a date are followed by those of a time below 23:60. -/
theorem ofMillis_lt {millis millis' : Int} :
    ofMillis millis < ofMillis millis' ↔ millis / 60000 < millis' / 60000 := by
  have hday := @digits_dateOfDay_lt (millis / 60000 / 1440) (millis' / 60000 / 1440)
  have hday' := @digits_dateOfDay_lt (millis' / 60000 / 1440) (millis / 60000 / 1440)
  rw [ofMillis_eq, ofMillis_eq]
  generalize millis / 60000 = minute at *
  generalize millis' / 60000 = minute' at *
  rcases Int.lt_trichotomy (minute / 1440) (minute' / 1440) with hlt | heq | hgt
  · have hdigits := hday.mpr hlt
    omega
  · rw [heq]
    omega
  · have hdigits := hday'.mpr hgt
    omega

theorem ofMillis_inj {millis millis' : Int} :
    ofMillis millis = ofMillis millis' ↔ millis / 60000 = millis' / 60000 := by
  have hlt := @ofMillis_lt millis millis'
  have hgt := @ofMillis_lt millis' millis
  omega

/-- The years that have buckets begin and end with the first and the last moment. -/
theorem year_mem (millis : Int) :
    (firstYear ≤ (dateOfDay (millis / 86400000)).year ∧
        (dateOfDay (millis / 86400000)).year ≤ lastYear) ↔
      firstMillis.toInt ≤ millis ∧ millis ≤ lastMillis.toInt := by
  have hfirst : dateOfDay (-96465292) = ⟨firstYear, 1, 1⟩ := by decide
  have hlast : dateOfDay 95026236 = ⟨lastYear, 12, 31⟩ := by decide
  have hbefore := @digits_dateOfDay_lt (millis / 86400000) (-96465292)
  have hbehind := @digits_dateOfDay_lt 95026236 (millis / 86400000)
  have hvalid := dateOfDay_valid (millis / 86400000)
  have hmonth := hvalid.month
  have hday := hvalid.day.1
  have hday' := hvalid.day_le
  have hmin : firstMillis.toInt = -8334601228800000 := by decide
  have hmax : lastMillis.toInt = 8210266876799999 := by decide
  rw [hfirst] at hbefore
  rw [hlast] at hbehind
  rw [hmin, hmax]
  simp only [Date.digits, firstYear, lastYear] at *
  omega

theorem toInt_ofMillis {millis : Int}
    (h : firstMillis.toInt ≤ millis ∧ millis ≤ lastMillis.toInt) :
    (Int64.ofInt (ofMillis millis)).toInt = ofMillis millis := by
  have hmin : firstMillis.toInt = -8334601228800000 := by decide
  have hmax : lastMillis.toInt = 8210266876799999 := by decide
  have hlow : ofMillis (-8334601228800000) = -26214298990000 := by decide
  have hhigh : ofMillis 8210266876799999 = 26214212312359 := by decide
  have hlt := @ofMillis_lt millis (-8334601228800000)
  have hgt := @ofMillis_lt 8210266876799999 millis
  rw [hlow] at hlt
  rw [hhigh] at hgt
  rw [hmin, hmax] at h
  apply Int64.toInt_ofInt_of_le <;> omega

theorem ofMillis?_eq (millis : Int64) :
    (firstMillis ≤ millis ∧ millis ≤ lastMillis ∧ ∃ bucket, ofMillis? millis = some bucket ∧
        bucket.toInt = ofMillis millis.toInt) ∨
      ¬ (firstMillis ≤ millis ∧ millis ≤ lastMillis) ∧ ofMillis? millis = none := by
  have hyear := year_mem millis.toInt
  rw [Int64.le_iff_toInt_le, Int64.le_iff_toInt_le, ofMillis?]
  by_cases h : firstMillis.toInt ≤ millis.toInt ∧ millis.toInt ≤ lastMillis.toInt
  · exact .inl ⟨h.1, h.2, _, if_pos (hyear.mpr h), toInt_ofMillis h⟩
  · exact .inr ⟨h, if_neg fun hin => h (hyear.mp hin)⟩

/-- Moments have the same bucket exactly if they lie in the same minute, and no later moment has a
lesser one; the moments that have buckets lie between two ends, and for every other moment the fault
names it. -/
theorem minuteBucket_minutes :
    (∀ {millis millis' bucket bucket' : Int64},
      Collaborators.minuteBucket millis = .done bucket →
      Collaborators.minuteBucket millis' = .done bucket' →
      (bucket = bucket' ↔ millis.toInt / 60000 = millis'.toInt / 60000) ∧
        (millis ≤ millis' → bucket ≤ bucket')) ∧
    ∀ millis : Int64,
      ((∃ bucket, Collaborators.minuteBucket millis = .done bucket) ↔
        firstMillis ≤ millis ∧ millis ≤ lastMillis) ∧
      (¬ (firstMillis ≤ millis ∧ millis ≤ lastMillis) →
        Collaborators.minuteBucket millis = .failed (.timeBucket millis)) := by
  have hbucket : ∀ {millis bucket : Int64}, Collaborators.minuteBucket millis = .done bucket →
      bucket.toInt = ofMillis millis.toInt := by
    intro millis bucket h
    rcases ofMillis?_eq millis with ⟨-, -, b, hb, hint⟩ | ⟨-, hnone⟩
    · rw [Collaborators.minuteBucket, hb] at h
      cases h
      exact hint
    · rw [Collaborators.minuteBucket, hnone] at h
      cases h
  refine ⟨fun {millis millis' bucket bucket'} h h' => ⟨?_, fun hle => ?_⟩, fun millis => ?_⟩
  · rw [← Int64.toInt_inj, hbucket h, hbucket h', ofMillis_inj]
  · have hlt := @ofMillis_lt millis'.toInt millis.toInt
    rw [Int64.le_iff_toInt_le] at hle ⊢
    rw [hbucket h, hbucket h']
    omega
  · rcases ofMillis?_eq millis with ⟨hfirst, hlast, b, hb, -⟩ | ⟨hout, hnone⟩
    · simp [Collaborators.minuteBucket, hb, hfirst, hlast]
    · simp [Collaborators.minuteBucket, hnone, hout]

/-- The last minute of the year before the year zero, the first of the year zero, and the first
moment that has no bucket. -/
theorem minuteBucket_minutes_zero :
    Collaborators.minuteBucket (-62167219260000) = .done (-87687641) ∧
      Collaborators.minuteBucket (-62167219200001) = .done (-87687641) ∧
      Collaborators.minuteBucket (-62167219200000) = .done 1010000 ∧
      (-62167219260000 : Int64).toInt / 60000 = (-62167219200001 : Int64).toInt / 60000 ∧
      (-87687641 : Int64) ≤ 1010000 ∧
      ¬ ((8210266876800000 : Int64) ≤ lastMillis) ∧
      Collaborators.minuteBucket 8210266876800000 = .failed (.timeBucket 8210266876800000) := by
  have hfirst : Collaborators.minuteBucket (-62167219260000) = .done (-87687641) := by
    decide +kernel
  have hsecond : Collaborators.minuteBucket (-62167219200001) = .done (-87687641) := by
    decide +kernel
  have hthird : Collaborators.minuteBucket (-62167219200000) = .done 1010000 := by decide +kernel
  have hout : ¬ ((8210266876800000 : Int64) ≤ lastMillis) := by decide
  refine ⟨hfirst, hsecond, hthird, ?_, ?_, hout, ?_⟩
  · exact (minuteBucket_minutes.1 hfirst hsecond).1.mp rfl
  · exact (minuteBucket_minutes.1 hsecond hthird).2 (by decide)
  · exact (minuteBucket_minutes.2 _).2 fun hin => hout hin.2

end TimeBucket
end MeshTelemetry
