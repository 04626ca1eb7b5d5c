import Mathlib.Algebra.BigOperators.Group.List.Basic
import Mathlib.Algebra.GroupWithZero.Nat
import SensorRelay.Time.Calendar

/-!
# Days and dates

Every day up to the end of year 9999 has a date (`Date.isValid_ofDayNumber`), and the date has
the number of the day (`Date.dayNumber_ofDayNumber`). The year of a day is found by cycles of
400, 100, 4 and 1 years (`Date.yearOfDay_spec`), of which the last ones are a day longer, and the
month by walking through the lengths of the months (`Date.monthOfDay_spec`). Years and months are
over before later ones begin, so dates are in the order of their days (`Date.before_ofDayNumber`).
-/

namespace SensorRelay.Date

/-- The days of a year. -/
def yearLength (year : Nat) : Nat :=
  if isLeapYear year then 366 else 365

theorem isLeapYear_iff (year : Nat) :
    isLeapYear year = true ↔ year % 4 = 0 ∧ (year % 100 ≠ 0 ∨ year % 400 = 0) := by
  simp [isLeapYear]

theorem yearLength_cases (year : Nat) :
    yearLength year = 366 ∧ year % 4 = 0 ∧ (year % 100 ≠ 0 ∨ year % 400 = 0) ∨
      yearLength year = 365 ∧ (year % 4 ≠ 0 ∨ year % 100 = 0 ∧ year % 400 ≠ 0) := by
  unfold yearLength
  split
  · rename_i h
    rw [isLeapYear_iff] at h
    omega
  · rename_i h
    rw [isLeapYear_iff] at h
    omega

theorem daysBeforeYear_eq {c h l y : Nat} (hh : h ≤ 3) (hl : l ≤ 24) (hy : y ≤ 3) :
    daysBeforeYear (400 * c + 100 * h + 4 * l + y + 1) =
      146097 * c + 36524 * h + 1461 * l + 365 * y := by
  unfold daysBeforeYear
  omega

/-- The cycles that a day is counted by. Only the last year of a cycle has a day 365. -/
theorem exists_cycles (n : Nat) : ∃ c h l y day,
    yearOfDay n = (400 * c + 100 * h + 4 * l + y + 1, day) ∧ h ≤ 3 ∧ l ≤ 24 ∧ y ≤ 3 ∧
      n = 146097 * c + 36524 * h + 1461 * l + 365 * y + day ∧
      (day < 365 ∨ day = 365 ∧ y = 3 ∧ (l < 24 ∨ h = 3)) := by
  refine ⟨_, _, _, _, _, rfl, ?_⟩
  omega

/-- A day lies in the year that is found for it. -/
theorem yearOfDay_spec (n : Nat) :
    daysBeforeYear (yearOfDay n).1 + (yearOfDay n).2 = n ∧
      (yearOfDay n).2 < yearLength (yearOfDay n).1 ∧ 1 ≤ (yearOfDay n).1 := by
  obtain ⟨c, h, l, y, day, heq, hh, hl, hy, hn, hday⟩ := exists_cycles n
  have hlength := yearLength_cases (400 * c + 100 * h + 4 * l + y + 1)
  rw [heq]
  dsimp only
  rw [daysBeforeYear_eq hh hl hy]
  refine ⟨by omega, ?_, by omega⟩
  rcases hlength with ⟨hlength, -⟩ | ⟨hlength, hplain⟩
  · omega
  · omega

theorem year_le_of_lt {n : Nat} (h : n < dayLimit) : (yearOfDay n).1 ≤ 9999 := by
  by_contra hyear
  have hspec := (yearOfDay_spec n).1
  have hdays : dayLimit ≤ daysBeforeYear (yearOfDay n).1 := by
    unfold dayLimit daysBeforeYear
    omega
  omega

/-! ## Months -/

/-- A day of some months in a row lies in the month that is found for it. -/
theorem monthOfDay_spec {month n : Nat} {lengths : List Nat} (h : n < lengths.sum) :
    ∃ i < lengths.length, ∃ day, monthOfDay month lengths n = (month + i, day + 1) ∧
      day < lengths.getD i 0 ∧ (lengths.take i).sum + day = n := by
  induction lengths generalizing month n with
  | nil => simp at h
  | cons length rest ih =>
    rw [List.sum_cons] at h
    unfold monthOfDay
    split
    · rename_i hn
      exact ⟨0, by simp, n, rfl, by simpa using hn, by simp⟩
    · rename_i hn
      obtain ⟨i, hi, day, heq, hday, hsum⟩ := @ih (month + 1) (n - length) (by omega)
      refine ⟨i + 1, by simpa using hi, day, ?_, by simpa using hday, ?_⟩
      · rw [heq]
        simp only [Prod.mk.injEq, and_true]
        omega
      · rw [List.take_succ_cons, List.sum_cons]
        omega

theorem sum_monthLengths (year : Nat) :
    (monthLengths (isLeapYear year)).sum = yearLength year := by
  unfold monthLengths yearLength
  split <;> rfl

/-! ## Dates -/

theorem ofDayNumber_spec (n : Nat) :
    ∃ month < 12, ∃ day, ofDayNumber n = ⟨(yearOfDay n).1, month + 1, day + 1⟩ ∧
      day < (monthLengths (isLeapYear (yearOfDay n).1)).getD month 0 ∧
      ((monthLengths (isLeapYear (yearOfDay n).1)).take month).sum + day = (yearOfDay n).2 := by
  obtain ⟨-, hlt, -⟩ := yearOfDay_spec n
  rw [← sum_monthLengths] at hlt
  obtain ⟨i, hi, day, heq, hday, hsum⟩ := @monthOfDay_spec 1 _ _ hlt
  refine ⟨i, hi, day, ?_, hday, hsum⟩
  unfold ofDayNumber
  simp only [heq, Nat.add_comm 1 i]

/-- Every day of years 1 to 9999 has a date. -/
theorem isValid_ofDayNumber {n : Nat} (h : n < dayLimit) : (ofDayNumber n).isValid = true := by
  obtain ⟨month, hmonth, day, heq, hday, -⟩ := ofDayNumber_spec n
  have hyear := year_le_of_lt h
  have hpos := (yearOfDay_spec n).2.2
  rw [heq]
  simp only [isValid, monthLength, Nat.add_sub_cancel, Bool.and_eq_true, decide_eq_true_eq]
  omega

/-- The date of a day has its number. -/
theorem dayNumber_ofDayNumber (n : Nat) : (ofDayNumber n).dayNumber = n := by
  obtain ⟨month, -, day, heq, -, hsum⟩ := ofDayNumber_spec n
  have hspec := (yearOfDay_spec n).1
  rw [heq, dayNumber]
  simp only [Nat.add_sub_cancel, ← List.sum_eq_foldl]
  omega

/-! ## Order -/

/-- A date of an earlier year, or of an earlier month or day in it. -/
def Before (d e : Date) : Prop :=
  d.year < e.year ∨ d.year = e.year ∧ (d.month < e.month ∨ d.month = e.month ∧ d.day < e.day)

theorem daysBeforeYear_succ {year : Nat} (h : 1 ≤ year) :
    daysBeforeYear (year + 1) = daysBeforeYear year + yearLength year := by
  obtain ⟨n, rfl⟩ : ∃ n, year = n + 1 := ⟨year - 1, by omega⟩
  have hcenturies : n / 100 ≤ n / 4 := Nat.div_le_div_left (by decide) (by decide)
  have hlength := yearLength_cases (n + 1)
  simp only [daysBeforeYear, Nat.add_sub_cancel, Nat.succ_div, Nat.dvd_iff_mod_eq_zero]
  split_ifs <;> omega

/-- A year is over before a later one begins. -/
theorem daysBeforeYear_add_yearLength_le {y z : Nat} (hy : 1 ≤ y) (h : y < z) :
    daysBeforeYear y + yearLength y ≤ daysBeforeYear z := by
  rw [← daysBeforeYear_succ hy]
  rcases Nat.lt_or_eq_of_le h with hlt | rfl
  · unfold daysBeforeYear
    omega
  · exact Nat.le_refl _

/-- A month is over before a later one begins. -/
theorem sum_take_add_getD_le (lengths : List Nat) {i j : Nat} (h : i < j) :
    (lengths.take i).sum + lengths.getD i 0 ≤ (lengths.take j).sum := by
  induction lengths generalizing i j with
  | nil => simp
  | cons length rest ih =>
    obtain ⟨j, rfl⟩ : ∃ k, j = k + 1 := ⟨j - 1, by omega⟩
    cases i with
    | zero => simp
    | succ i =>
      have := ih (Nat.lt_of_succ_lt_succ h)
      simp only [List.take_succ_cons, List.sum_cons, List.getD_cons_succ]
      omega

/-- Dates are in the order of their days. -/
theorem before_ofDayNumber {m n : Nat} (h : m < n) : (ofDayNumber m).Before (ofDayNumber n) := by
  obtain ⟨i, -, a, heqm, ha, hsumm⟩ := ofDayNumber_spec m
  obtain ⟨j, -, b, heqn, hb, hsumn⟩ := ofDayNumber_spec n
  obtain ⟨hyearm, -, -⟩ := yearOfDay_spec m
  obtain ⟨hyearn, hltn, hposn⟩ := yearOfDay_spec n
  rw [heqm, heqn, Before]
  dsimp only
  rcases Nat.lt_trichotomy (yearOfDay m).1 (yearOfDay n).1 with hlt | heq | hgt
  · exact Or.inl hlt
  · refine Or.inr ⟨heq, ?_⟩
    rw [heq] at hyearm ha hsumm
    rcases Nat.lt_trichotomy i j with hlt | rfl | hgt
    · exact Or.inl (Nat.succ_lt_succ hlt)
    · exact Or.inr ⟨rfl, by omega⟩
    · have := sum_take_add_getD_le (monthLengths (isLeapYear (yearOfDay n).1)) hgt
      omega
  · have := daysBeforeYear_add_yearLength_le hposn hgt
    omega

end SensorRelay.Date
