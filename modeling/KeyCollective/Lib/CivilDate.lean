import Mathlib.Tactic.NormNum

/-!
# Civil dates

Dates of the proleptic Gregorian calendar and the days from 1970-01-01. A year is counted
from March, so a leap day is its last day, and four centuries are an era of 146097 days.
-/

structure CivilDate where
  year : Int
  month : Int
  day : Int
deriving DecidableEq, Repr

namespace CivilDate

/-- The year of its era that a day is in, and the day of that year. -/
def yearOfEra (dayOfEra : Int) : Int × Int :=
  let century := min (dayOfEra / 36524) 3
  let dayOfCentury := dayOfEra - 36524 * century
  let cycle := dayOfCentury / 1461
  let dayOfCycle := dayOfCentury - 1461 * cycle
  let year := min (dayOfCycle / 365) 3
  (100 * century + 4 * cycle + year, dayOfCycle - 365 * year)

theorem yearOfEra_spec {dayOfEra year day : Int} (low : 0 ≤ dayOfEra) (high : dayOfEra < 146097)
    (parts : yearOfEra dayOfEra = (year, day)) :
    (0 ≤ year ∧ year < 400) ∧ (0 ≤ day ∧ day ≤ 365) ∧
      365 * year + year / 4 - year / 100 + day = dayOfEra := by
  obtain ⟨rfl, rfl⟩ := Prod.mk.inj parts
  generalize hcentury : min (dayOfEra / 36524) 3 = century
  have centuries : 0 ≤ century ∧ century ≤ 3 := by omega
  generalize hcycle : (dayOfEra - 36524 * century) / 1461 = cycle
  have cycles : 0 ≤ cycle ∧ cycle ≤ 24 := by omega
  generalize hyear : min ((dayOfEra - 36524 * century - 1461 * cycle) / 365) 3 = year
  have years : 0 ≤ year ∧ year ≤ 3 := by omega
  have fourth : (100 * century + 4 * cycle + year) / 4 = 25 * century + cycle := by omega
  have hundredth : (100 * century + 4 * cycle + year) / 100 = century := by omega
  refine ⟨by omega, by omega, ?_⟩
  rw [fourth, hundredth]
  omega

def ofDays (n : Int) : CivilDate :=
  let era := (n + 719468) / 146097
  let (yearOfEra, dayOfYear) := yearOfEra ((n + 719468) % 146097)
  let month := (5 * dayOfYear + 2) / 153
  let year := yearOfEra + era * 400
  { year := if month < 10 then year else year + 1
    month := if month < 10 then month + 3 else month - 9
    day := dayOfYear - (153 * month + 2) / 5 + 1 }

def toDays (date : CivilDate) : Int :=
  let year := if date.month ≤ 2 then date.year - 1 else date.year
  let yearOfEra := year % 400
  let dayOfYear := (153 * ((date.month + 9) % 12) + 2) / 5 + date.day - 1
  let dayOfEra := 365 * yearOfEra + yearOfEra / 4 - yearOfEra / 100 + dayOfYear
  year / 400 * 146097 + dayOfEra - 719468

example : ofDays 0 = ⟨1970, 1, 1⟩ ∧ ofDays 19782 = ⟨2024, 2, 29⟩ := by decide

/-- The day of the era the conversion splits is one. -/
theorem dayOfEra_bounds (n : Int) : 0 ≤ (n + 719468) % 146097 ∧ (n + 719468) % 146097 < 146097 :=
  ⟨Int.emod_nonneg _ (by decide), Int.emod_lt_of_pos _ (by decide)⟩

theorem toDays_ofDays (n : Int) : (ofDays n).toDays = n := by
  obtain ⟨low, high⟩ := dayOfEra_bounds n
  cases parts : yearOfEra ((n + 719468) % 146097) with
  | mk yearOfEra dayOfYear =>
    obtain ⟨years, days, total⟩ := yearOfEra_spec low high parts
    simp only [ofDays, parts]
    generalize hmonth : (5 * dayOfYear + 2) / 153 = month
    generalize hera : (n + 719468) / 146097 = era
    by_cases spring : month < 10
    · have late : ¬ month + 3 ≤ 2 := by omega
      have counted : (month + 3 + 9) % 12 = month := by omega
      have year : (yearOfEra + era * 400) % 400 = yearOfEra := by omega
      have whole : (yearOfEra + era * 400) / 400 = era := by omega
      simp only [toDays, if_pos spring, if_neg late, counted, year, whole]
      omega
    · have early : month - 9 ≤ 2 := by omega
      have counted : (month - 9 + 9) % 12 = month := by omega
      have year : (yearOfEra + era * 400 + 1 - 1) % 400 = yearOfEra := by omega
      have whole : (yearOfEra + era * 400 + 1 - 1) / 400 = era := by omega
      simp only [toDays, if_neg spring, if_pos early, counted, year, whole]
      omega

/-- The fields of a date, for days within `limit` years of the epoch. -/
theorem ofDays_bounds (n : Int) :
    (1 ≤ (ofDays n).month ∧ (ofDays n).month ≤ 12) ∧
      (1 ≤ (ofDays n).day ∧ (ofDays n).day ≤ 31) ∧
      (n + 719468) / 146097 * 400 ≤ (ofDays n).year ∧
      (ofDays n).year ≤ (n + 719468) / 146097 * 400 + 400 := by
  obtain ⟨low, high⟩ := dayOfEra_bounds n
  cases parts : yearOfEra ((n + 719468) % 146097) with
  | mk yearOfEra dayOfYear =>
    obtain ⟨years, days, -⟩ := yearOfEra_spec low high parts
    simp only [ofDays, parts]
    generalize hmonth : (5 * dayOfYear + 2) / 153 = month
    refine ⟨?_, ?_, ?_⟩
    · split <;> omega
    · omega
    · split <;> omega

end CivilDate
