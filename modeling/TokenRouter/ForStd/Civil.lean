import Mathlib

/-!
# Months of the Gregorian calendar

Months are numbered through, from March of the year 0, and days from 1970-01-01. Counting years
from March puts the leap day at the end of a year, which makes the first day of a month a
closed formula.

## Key results

- `monthStart_succ`: a month has between 28 and 31 days
- `monthOf_eq_iff`: the month of a day is the one that it lies in
-/

namespace Civil

/-- The first day of a month. -/
def monthStart (k : Int) : Int :=
  let y := k / 12
  365 * y + y / 4 - y / 100 + y / 400 + (153 * (k % 12) + 2) / 5 - 719468

/-- The years since March of a day within its cycle of 400 years. -/
def yearOfEra (doe : Int) : Int := (doe - doe / 1460 + doe / 36524 - doe / 146096) / 365

/-- The month of a day. -/
def monthOf (n : Int) : Int :=
  let era := (n + 719468) / 146097
  let doe := n + 719468 - era * 146097
  let yoe := yearOfEra doe
  let doy := doe - (365 * yoe + yoe / 4 - yoe / 100)
  12 * (yoe + era * 400) + (5 * doy + 2) / 153

theorem monthStart_succ (k : Int) :
    monthStart k + 28 ≤ monthStart (k + 1) ∧ monthStart (k + 1) ≤ monthStart k + 31 := by
  simp only [monthStart]
  by_cases hlast : k % 12 = 11
  · -- February, the last month of its year
    have hyear : (k + 1) / 12 = k / 12 + 1 := by omega
    have hmonth : (k + 1) % 12 = 0 := by omega
    rw [hyear, hmonth, hlast]
    omega
  · have hyear : (k + 1) / 12 = k / 12 := by omega
    have hmonth : (k + 1) % 12 = k % 12 + 1 := by omega
    rw [hyear, hmonth]
    omega

theorem monthStart_strictMono : StrictMono monthStart := by
  apply strictMono_int_of_lt_succ
  intro k
  have := (monthStart_succ k).1
  omega

/-- The year of a day: it starts no later than the day, and the next one after it. -/
theorem yearOfEra_spec {doe : Int} (h₀ : 0 ≤ doe) (h₁ : doe < 146097) :
    0 ≤ yearOfEra doe ∧ yearOfEra doe < 400 ∧
      0 ≤ doe - (365 * yearOfEra doe + yearOfEra doe / 4 - yearOfEra doe / 100) ∧
      doe < 365 * (yearOfEra doe + 1) + (yearOfEra doe + 1) / 4 - (yearOfEra doe + 1) / 100 +
        (yearOfEra doe + 1) / 400 := by
  obtain ⟨yoe, hyoe⟩ : ∃ yoe, yoe = yearOfEra doe := ⟨_, rfl⟩
  rw [← hyoe]
  unfold yearOfEra at hyoe
  refine ⟨by omega, by omega, ?_⟩
  -- the corrections of the formula by cycles of 4, 100 and 400 years
  have hfour : doe / 1460 ≤ (yoe + 1) / 4 := by omega
  have hcentury : doe / 36524 = 0 ∨ doe / 36524 = 1 ∨ doe / 36524 = 2 ∨ doe / 36524 = 3 ∨
      doe / 36524 = 4 := by omega
  have hlast : doe / 146096 = 0 ∨ doe / 146096 = 1 := by omega
  have hyear : yoe / 100 = 0 ∨ yoe / 100 = 1 ∨ yoe / 100 = 2 ∨ yoe / 100 = 3 := by omega
  have hnext : (yoe + 1) / 100 = yoe / 100 ∨ yoe = 100 * (yoe / 100) + 99 := by omega
  rcases hlast with hlast | hlast
  · rcases hcentury with hcentury | hcentury | hcentury | hcentury | hcentury <;>
      rcases hyear with hyear | hyear | hyear | hyear <;>
      rcases hnext with hnext | hnext <;> constructor <;> omega
  · constructor <;> omega

/-- A year counted from its cycle of 400 years. -/
theorem leapDays_era (yoe era : Int) :
    (yoe + era * 400) / 4 - (yoe + era * 400) / 100 + (yoe + era * 400) / 400 =
      97 * era + (yoe / 4 - yoe / 100 + yoe / 400) := by
  have h₄ : (yoe + era * 400) / 4 = yoe / 4 + 100 * era := by omega
  have h₁₀₀ : (yoe + era * 400) / 100 = yoe / 100 + 4 * era := by omega
  have h₄₀₀ : (yoe + era * 400) / 400 = yoe / 400 + era := by omega
  rw [h₄, h₁₀₀, h₄₀₀]
  omega

theorem monthOf_spec (n : Int) : monthStart (monthOf n) ≤ n ∧ n < monthStart (monthOf n + 1) := by
  have hdoe₀ : 0 ≤ n + 719468 - (n + 719468) / 146097 * 146097 := by omega
  have hdoe₁ : n + 719468 - (n + 719468) / 146097 * 146097 < 146097 := by omega
  obtain ⟨hyoe₀, hyoe₁, hdoy₀, hdoy₁⟩ := yearOfEra_spec hdoe₀ hdoe₁
  simp only [monthOf]
  generalize hera : (n + 719468) / 146097 = era at *
  generalize hdoe : n + 719468 - era * 146097 = doe at *
  generalize yearOfEra doe = yoe at *
  generalize hdoy : doe - (365 * yoe + yoe / 4 - yoe / 100) = doy at *
  generalize hmp : (5 * doy + 2) / 153 = mp
  have hmp₁ : mp < 12 := by omega
  have hyear : (12 * (yoe + era * 400) + mp) / 12 = yoe + era * 400 := by omega
  have hmonth : (12 * (yoe + era * 400) + mp) % 12 = mp := by omega
  have hleap := leapDays_era yoe era
  simp only [monthStart, hyear, hmonth]
  constructor
  · omega
  · by_cases hlast : mp = 11
    · have hyear' : (12 * (yoe + era * 400) + mp + 1) / 12 = yoe + 1 + era * 400 := by omega
      have hmonth' : (12 * (yoe + era * 400) + mp + 1) % 12 = 0 := by omega
      have hleap' := leapDays_era (yoe + 1) era
      rw [hyear', hmonth']
      omega
    · have hyear' : (12 * (yoe + era * 400) + mp + 1) / 12 = yoe + era * 400 := by omega
      have hmonth' : (12 * (yoe + era * 400) + mp + 1) % 12 = mp + 1 := by omega
      rw [hyear', hmonth']
      omega

/-- The month of a day is the one that it lies in. -/
theorem monthOf_eq_iff {n k : Int} :
    monthOf n = k ↔ monthStart k ≤ n ∧ n < monthStart (k + 1) := by
  obtain ⟨hle, hlt⟩ := monthOf_spec n
  constructor
  · rintro rfl
    exact ⟨hle, hlt⟩
  · rintro ⟨hle', hlt'⟩
    have h₁ : monthOf n < k + 1 := monthStart_strictMono.lt_iff_lt.mp (hle.trans_lt hlt')
    have h₂ : k < monthOf n + 1 := monthStart_strictMono.lt_iff_lt.mp (hle'.trans_lt hlt)
    omega

@[simp] theorem monthOf_monthStart (k : Int) : monthOf (monthStart k) = k :=
  monthOf_eq_iff.mpr ⟨le_rfl, monthStart_strictMono (by omega)⟩

end Civil
