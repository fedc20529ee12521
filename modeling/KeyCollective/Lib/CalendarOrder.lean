import KeyCollective.Lib.CivilDate
import Mathlib.Tactic.IntervalCases

/-!
# The order of civil dates

Dates of the calendar come in the order of their years, months and days.
-/

namespace CivilDate

def IsLeap (year : Int) : Prop := year % 4 = 0 ∧ (year % 100 ≠ 0 ∨ year % 400 = 0)

instance (year : Int) : Decidable (IsLeap year) := inferInstanceAs (Decidable (_ ∧ _))

def daysInMonth (year month : Int) : Int :=
  if month = 2 then if IsLeap year then 29 else 28
  else if month = 4 ∨ month = 6 ∨ month = 9 ∨ month = 11 then 30
  else 31

/-- A date of the calendar. -/
structure Valid (date : CivilDate) : Prop where
  month : 1 ≤ date.month ∧ date.month ≤ 12
  day : 1 ≤ date.day ∧ date.day ≤ daysInMonth date.year date.month

/-- The day before a first of March. -/
def marchEve (year : Int) : Int := 365 * year + year / 4 - year / 100 + year / 400 - 719469

theorem toDays_spring {date : CivilDate} (spring : 3 ≤ date.month) (month : date.month ≤ 12) :
    date.toDays = marchEve date.year + (153 * (date.month - 3) + 2) / 5 + date.day := by
  have late : ¬date.month ≤ 2 := by omega
  have counted : (date.month + 9) % 12 = date.month - 3 := by omega
  simp only [toDays, if_neg late, counted, marchEve]
  omega

theorem toDays_winter {date : CivilDate} (month : 1 ≤ date.month) (winter : date.month ≤ 2) :
    date.toDays = marchEve (date.year - 1) + 306 + 31 * (date.month - 1) + date.day := by
  have counted : (date.month + 9) % 12 = date.month + 9 := by omega
  simp only [toDays, if_pos winter, counted, marchEve]
  omega

theorem marchEve_succ (year : Int) :
    marchEve year = marchEve (year - 1) + if IsLeap year then 366 else 365 := by
  unfold marchEve
  split
  case isTrue leap =>
    unfold IsLeap at leap
    omega
  case isFalse common =>
    unfold IsLeap at common
    omega

theorem marchEve_mono {year later : Int} (le : year ≤ later) : marchEve year ≤ marchEve later := by
  unfold marchEve
  omega

/-- From March on, the months follow each other with their lengths. -/
theorem daysInMonth_spring (year : Int) {month : Int} (spring : 3 ≤ month) (high : month ≤ 12) :
    (153 * (month - 3) + 2) / 5 + daysInMonth year month ≤ (153 * (month - 2) + 2) / 5 := by
  unfold daysInMonth
  interval_cases month <;> simp

namespace Valid

variable {date later : CivilDate}

theorem day_le (valid : date.Valid) : date.day ≤ 31 := by
  have last := valid.day.2
  unfold daysInMonth at last
  split_ifs at last <;> omega

theorem bounds (valid : date.Valid) :
    marchEve (date.year - 1) + 306 < date.toDays ∧ date.toDays ≤ marchEve date.year + 306 := by
  obtain ⟨⟨low, high⟩, first, last⟩ := valid
  have leap := marchEve_succ date.year
  by_cases spring : 3 ≤ date.month
  · have length := daysInMonth_spring date.year spring high
    rw [toDays_spring spring high]
    have longer : marchEve (date.year - 1) + 365 ≤ marchEve date.year := by
      split at leap <;> omega
    omega
  · rw [toDays_winter low (by omega)]
    unfold daysInMonth at last
    split at leap <;> split_ifs at last <;> omega

/-- The order of days is that of years, months and days. -/
theorem toDays_lt (valid : date.Valid) (valid' : later.Valid)
    (lt : date.year < later.year ∨ date.year = later.year ∧
      (date.month < later.month ∨ date.month = later.month ∧ date.day < later.day)) :
    date.toDays < later.toDays := by
  rcases lt with year | ⟨year, month | ⟨month, day⟩⟩
  · have upper := valid.bounds.2
    have lower := valid'.bounds.1
    have between := marchEve_mono (show date.year ≤ later.year - 1 by omega)
    omega
  · obtain ⟨⟨low, high⟩, first, last⟩ := valid
    obtain ⟨⟨low', high'⟩, first', -⟩ := valid'
    by_cases spring : 3 ≤ date.month
    · have length := daysInMonth_spring date.year spring high
      rw [toDays_spring spring high, toDays_spring (by omega) high', year]
      omega
    · have leap := marchEve_succ date.year
      rw [toDays_winter low (by omega)]
      unfold daysInMonth at last
      by_cases spring' : 3 ≤ later.month
      · rw [toDays_spring spring' high', ← year]
        split at leap <;> split_ifs at last <;> omega
      · rw [toDays_winter low' (by omega), ← year]
        split_ifs at last <;> omega
  · by_cases spring : 3 ≤ date.month
    · rw [toDays_spring spring valid.month.2, toDays_spring (by omega) valid'.month.2, year, month]
      omega
    · rw [toDays_winter valid.month.1 (by omega), toDays_winter valid'.month.1 (by omega), year,
        month]
      omega

theorem toDays_lt_iff (valid : date.Valid) (valid' : later.Valid) :
    date.toDays < later.toDays ↔
      date.year < later.year ∨ date.year = later.year ∧
        (date.month < later.month ∨ date.month = later.month ∧ date.day < later.day) := by
  constructor
  · intro days
    by_contra notLater
    by_cases same : date.year = later.year ∧ date.month = later.month ∧ date.day = later.day
    · have equal : date = later := by
        obtain ⟨year, month, day⟩ := same
        cases date
        cases later
        simp_all
      rw [equal] at days
      omega
    · have earlier := valid'.toDays_lt valid (by omega)
      omega
  · exact valid.toDays_lt valid'

theorem toDays_inj (valid : date.Valid) (valid' : later.Valid) :
    date.toDays = later.toDays ↔
      date.year = later.year ∧ date.month = later.month ∧ date.day = later.day := by
  have before := valid.toDays_lt_iff valid'
  have after := valid'.toDays_lt_iff valid
  omega

/-- Years that differ in their sign have the same months. -/
theorem abs (valid : date.Valid) : Valid ⟨|date.year|, date.month, date.day⟩ := by
  have leap : IsLeap |date.year| ↔ IsLeap date.year := by
    unfold IsLeap
    rcases abs_choice date.year with same | flipped
    · rw [same]
    · rw [flipped]
      omega
  refine ⟨valid.month, valid.day.1, ?_⟩
  have last := valid.day.2
  simp only [daysInMonth, leap] at last ⊢
  exact last

end Valid

theorem yearOfEra_leap {dayOfEra year : Int} (low : 0 ≤ dayOfEra) (high : dayOfEra < 146097)
    (parts : yearOfEra dayOfEra = (year, 365)) : IsLeap (year + 1) := by
  obtain ⟨rfl, last⟩ := Prod.mk.inj parts
  generalize hcentury : min (dayOfEra / 36524) 3 = century at *
  generalize hcycle : (dayOfEra - 36524 * century) / 1461 = cycle at *
  generalize hyear : min ((dayOfEra - 36524 * century - 1461 * cycle) / 365) 3 = year at *
  have centuries : 0 ≤ century ∧ century ≤ 3 := by omega
  have cycles : 0 ≤ cycle ∧ cycle ≤ 24 := by omega
  have fourth : year = 3 := by omega
  have last : cycle = 24 → century = 3 := by omega
  subst fourth
  unfold IsLeap
  omega

theorem valid_ofDays (n : Int) : (ofDays n).Valid := by
  obtain ⟨low, high⟩ := dayOfEra_bounds n
  obtain ⟨month, day, -⟩ := ofDays_bounds n
  refine ⟨month, day.1, ?_⟩
  cases parts : yearOfEra ((n + 719468) % 146097) with
  | mk yearOfEra dayOfYear =>
    obtain ⟨years, days, -⟩ := yearOfEra_spec low high parts
    simp only [ofDays, parts]
    generalize hmonth : (5 * dayOfYear + 2) / 153 = month
    generalize hera : (n + 719468) / 146097 = era
    have leap : dayOfYear = 365 → IsLeap (yearOfEra + era * 400 + 1) := by
      rintro rfl
      have last := yearOfEra_leap low high parts
      unfold IsLeap at last ⊢
      omega
    by_cases february : month = 11
    · subst february
      have winter : ¬(11 : Int) < 10 := by decide
      simp only [if_neg winter, daysInMonth, Int.reduceSub, ↓reduceIte]
      split
      case isTrue => omega
      case isFalse common =>
        have short : dayOfYear ≠ 365 := fun long => common (leap long)
        omega
    · have months : 0 ≤ month ∧ month ≤ 10 := by omega
      obtain ⟨first, last⟩ := months
      unfold daysInMonth
      interval_cases month <;> simp <;> omega

end CivilDate
