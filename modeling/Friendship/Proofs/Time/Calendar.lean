import Friendship.Time.Calendar
import Mathlib.Tactic.IntervalCases
import Mathlib.Tactic.Ring

/-!
# Days and dates

A day belongs to a year that begins in March, and has a place in it (`exists_yearDay`). Every day
has a date of the calendar (`isValid_ofDays`), and the day of that date is the day
(`toDays_ofDays`).
-/
namespace Friendship.Time.Date

/-- The first of March of a year in days since 1970. -/
def startOfYear (y : Int) : Int :=
  y / 400 * 146097 + (y % 400 * 365 + y % 400 / 4 - y % 400 / 100) - 719468

/-- The date of a day of a year, both counted from March. -/
def ofYearDay (y dayOfYear : Int) : Date :=
  let m := (5 * dayOfYear + 2) / 153
  let month := if m < 10 then m + 3 else m - 9
  ⟨y + (if month ≤ 2 then 1 else 0), month.toNat, (dayOfYear - (153 * m + 2) / 5 + 1).toNat⟩

/-- A day belongs to a year: the last of 366 days comes before March of a leap year. -/
structure IsYearDay (y dayOfYear : Int) : Prop where
  nonneg : 0 ≤ dayOfYear
  le : dayOfYear ≤ 365
  leap : dayOfYear = 365 → isLeapYear (y + 1) = true

theorem isLeapYear_iff {y : Int} :
    isLeapYear y = true ↔ y % 4 = 0 ∧ (y % 100 ≠ 0 ∨ y % 400 = 0) := by
  simp [isLeapYear]

/-! ### The year of a day -/

section Era

variable {e c k s : Int}

/-- The year of an era to which a day of the era belongs. -/
def yearOfEra (e : Int) : Int := (e - e / 1460 + e / 36524 - e / 146096) / 365

/-- The days of an era before a year. -/
def daysBefore (y : Int) : Int := 365 * y + y / 4 - y / 100

/-- A day of an era is told by its century, the four years in it, and the days after them. The last
day of the era would be the first one of a fifth century. -/
theorem exists_parts (h0 : 0 ≤ e) (h : e < 146096) :
    ∃ c k s : Int, e = 36524 * c + 1461 * k + s ∧ (0 ≤ c ∧ c ≤ 3) ∧ (0 ≤ k ∧ k ≤ 24) ∧
      (0 ≤ s ∧ s ≤ 1460) ∧ (k = 24 → s < 1460) :=
  ⟨e / 36524, e % 36524 / 1461, e % 36524 % 1461, by omega, by omega, by omega, by omega, by omega⟩

/-- The year of a day is found from its parts. -/
theorem yearOfEra_of_parts (he : e = 36524 * c + 1461 * k + s) (hc : 0 ≤ c ∧ c ≤ 3)
    (hk : 0 ≤ k ∧ k ≤ 24) (hs : 0 ≤ s ∧ s ≤ 1460) (hlast : k = 24 → s < 1460) :
    ∃ j, (0 ≤ j ∧ j ≤ 3) ∧ yearOfEra e = 100 * c + 4 * k + j ∧
      (0 ≤ s - 365 * j ∧ s - 365 * j ≤ 365) ∧ (s - 365 * j = 365 → j = 3 ∧ k < 24) := by
  have hcentury : e / 36524 = c := by omega
  have hera : e / 146096 = 0 := by omega
  -- The days that are too many for years of 365 days, each four years having one.
  have hextra : e / 1460 = 25 * c + k + (24 * c + k + s) / 1460 := by omega
  refine ⟨(s - (24 * c + k + s) / 1460) / 365, by omega, ?_, by omega, by omega⟩
  rw [yearOfEra, hcentury, hera, hextra]
  omega

/-- A day of an era is a day of its year. -/
theorem isYearDay_yearOfEra (h0 : 0 ≤ e) (h : e < 146097) (era : Int) :
    (0 ≤ yearOfEra e ∧ yearOfEra e ≤ 399) ∧
      IsYearDay (yearOfEra e + era * 400) (e - daysBefore (yearOfEra e)) := by
  by_cases hlt : e < 146096
  · obtain ⟨c, k, s, he, hc, hk, hs, hlast⟩ := exists_parts h0 hlt
    obtain ⟨j, hj, hyear, hday, hleap⟩ := yearOfEra_of_parts he hc hk hs hlast
    have hquarters : (100 * c + 4 * k + j) / 4 = 25 * c + k := by omega
    have hcenturies : (100 * c + 4 * k + j) / 100 = c := by omega
    have hplace : e - daysBefore (100 * c + 4 * k + j) = s - 365 * j := by
      rw [daysBefore, hquarters, hcenturies]
      omega
    rw [hyear, hplace]
    refine ⟨by omega, hday.1, hday.2, fun h365 => isLeapYear_iff.2 ?_⟩
    have h3 := hleap h365
    omega
  · -- The last day of an era is the leap day of a year that 400 divides.
    obtain rfl : e = 146096 := by omega
    have hyear : yearOfEra 146096 = 399 := by decide
    rw [hyear]
    refine ⟨by decide, by decide, by decide, fun _ => isLeapYear_iff.2 ?_⟩
    omega

end Era

theorem exists_yearDay (days : Int) :
    ∃ y dayOfYear, ofDays days = ofYearDay y dayOfYear ∧ IsYearDay y dayOfYear ∧
      startOfYear y + dayOfYear = days := by
  obtain ⟨era, hera⟩ : ∃ era, era = (days + 719468) / 146097 := ⟨_, rfl⟩
  obtain ⟨e, he⟩ : ∃ e, e = (days + 719468) % 146097 := ⟨_, rfl⟩
  have hdays : days = era * 146097 + e - 719468 := by omega
  obtain ⟨hyear, hday⟩ := isYearDay_yearOfEra (e := e) (by omega) (by omega) era
  refine ⟨_, _, ?_, hday, ?_⟩
  · subst he hera
    rfl
  · clear hday he hera
    generalize yearOfEra e = y at hyear
    have hquotient : (y + era * 400) / 400 = era := by omega
    have hremainder : (y + era * 400) % 400 = y := by omega
    rw [startOfYear, hquotient, hremainder, daysBefore]
    omega

/-! ### The month of a day -/

section Month

variable {y dayOfYear : Int}

theorem isValid_ofYearDay (h : IsYearDay y dayOfYear) :
    (ofYearDay y dayOfYear).isValid = true := by
  obtain ⟨hnonneg, hle, hleap⟩ := h
  obtain ⟨m, hm⟩ : ∃ m, m = (5 * dayOfYear + 2) / 153 := ⟨_, rfl⟩
  have hlow : 0 ≤ m := by omega
  have hhigh : m ≤ 11 := by omega
  simp only [isValid, ofYearDay, ← hm, Bool.and_eq_true, decide_eq_true_eq]
  -- Each month begins at a place of its own; only the last one's length depends on the year.
  interval_cases m
  case «11» =>
    have hlength : daysInMonth (y + 1) 2 = if isLeapYear (y + 1) then 29 else 28 := rfl
    refine ⟨⟨⟨by decide, by decide⟩, by omega⟩, ?_⟩
    show _ ≤ daysInMonth (y + 1) 2
    rw [hlength]
    split
    · omega
    · have hcommon : dayOfYear ≠ 365 := fun h365 => absurd (hleap h365) ‹_›
      omega
  all_goals
    simp [daysInMonth]
    omega

theorem toDays_ofYearDay (h : IsYearDay y dayOfYear) :
    (ofYearDay y dayOfYear).toDays = startOfYear y + dayOfYear := by
  obtain ⟨hnonneg, hle, -⟩ := h
  obtain ⟨m, hm⟩ : ∃ m, m = (5 * dayOfYear + 2) / 153 := ⟨_, rfl⟩
  obtain ⟨month, hmonth⟩ : ∃ month, month = if m < 10 then m + 3 else m - 9 := ⟨_, rfl⟩
  have hback : (((month.toNat + 9) % 12 : Nat) : Int) = m := by
    split at hmonth <;> omega
  have hyear : (if month.toNat ≤ 2 then (y + if month ≤ 2 then 1 else 0) - 1
      else y + if month ≤ 2 then 1 else 0) = y := by
    split <;> split <;> omega
  have hday : ((dayOfYear - (153 * m + 2) / 5 + 1).toNat : Int) =
      dayOfYear - (153 * m + 2) / 5 + 1 := Int.toNat_of_nonneg (by omega)
  simp only [toDays, ofYearDay, ← hm, ← hmonth, hback, hyear, hday, startOfYear]
  ring

end Month

theorem isValid_ofDays (days : Int) : (ofDays days).isValid = true := by
  obtain ⟨y, dayOfYear, hdate, hday, -⟩ := exists_yearDay days
  rw [hdate]
  exact isValid_ofYearDay hday

/-- The day of the date of a day is the day. -/
theorem toDays_ofDays (days : Int) : (ofDays days).toDays = days := by
  obtain ⟨y, dayOfYear, hdate, hday, hdays⟩ := exists_yearDay days
  rw [hdate, toDays_ofYearDay hday, hdays]

/-- A leap day of a year that 400 divides. -/
example : ofDays 11016 = ⟨2000, 2, 29⟩ := by decide

end Friendship.Time.Date
