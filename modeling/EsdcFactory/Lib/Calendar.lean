import Mathlib.Data.Int.Basic
import Mathlib.Data.Int.ConditionallyCompleteOrder
import Mathlib.Data.Nat.Find
import Mathlib.Order.Monotone.Basic
import Mathlib.Tactic.IntervalCases
import Mathlib.Tactic.Ring

/-!
# The proleptic Gregorian calendar

Days are numbered by integers with day zero on 1970-01-01.  Months are numbered
by integers as well, twelve to a year, so that month arithmetic is addition.
Everything about dates follows from two facts: where a month starts, and that
every day lies in exactly one month.
-/

namespace EsdcFactory
namespace Calendar

/-!
## Years
-/

/-- Leap years of the Gregorian calendar. -/
def isLeap (y : Int) : Bool :=
  y % 4 == 0 && (y % 100 != 0 || y % 400 == 0)

/-- The number of the first day of a year. -/
def yearStart (y : Int) : Int :=
  365 * (y - 1) + (y - 1) / 4 - (y - 1) / 100 + (y - 1) / 400 - 719162

def yearLength (y : Int) : Int :=
  if isLeap y then 366 else 365

theorem yearStart_succ (y : Int) :
    yearStart (y + 1) = yearStart y + yearLength y := by
  unfold yearStart yearLength isLeap
  split
  · rename_i hleap
    simp only [Bool.and_eq_true, beq_iff_eq, Bool.or_eq_true, bne_iff_ne] at hleap
    omega
  · rename_i hleap
    simp only [Bool.and_eq_true, beq_iff_eq, Bool.or_eq_true, bne_iff_ne,
      not_and, not_or] at hleap
    omega

/-- The year a day lies in: an estimate from the mean year, corrected upwards. -/
def yearOf (n : Int) : Int :=
  let y := (n + 719162) * 400 / 146097
  if n < yearStart (y + 1) then y
  else if n < yearStart (y + 2) then y + 1
  else y + 2

theorem yearOf_spec (n : Int) :
    yearStart (yearOf n) ≤ n ∧ n < yearStart (yearOf n + 1) := by
  have hlow : yearStart ((n + 719162) * 400 / 146097) ≤ n := by
    unfold yearStart
    omega
  have hhigh : n < yearStart ((n + 719162) * 400 / 146097 + 3) := by
    unfold yearStart
    omega
  unfold yearOf
  generalize (n + 719162) * 400 / 146097 = y at hlow hhigh
  simp only
  split
  · rename_i h
    exact ⟨hlow, h⟩
  · rename_i h
    split
    · rename_i h'
      exact ⟨by omega, by rw [show y + 1 + 1 = y + 2 by ring]; exact h'⟩
    · rename_i h'
      exact ⟨by omega, by rw [show y + 2 + 1 = y + 3 by ring]; exact hhigh⟩

/-!
## Months
-/

/-- Days of the year in front of a month, counted from one to thirteen. -/
def daysBeforeMonth (leap : Bool) : Nat -> Int
  | 0 => 0
  | 1 => 0
  | 2 => 31
  | 3 => 59 + leap.toInt
  | 4 => 90 + leap.toInt
  | 5 => 120 + leap.toInt
  | 6 => 151 + leap.toInt
  | 7 => 181 + leap.toInt
  | 8 => 212 + leap.toInt
  | 9 => 243 + leap.toInt
  | 10 => 273 + leap.toInt
  | 11 => 304 + leap.toInt
  | 12 => 334 + leap.toInt
  | _ => 365 + leap.toInt

/-- The number of the first day of a month. -/
def monthStart (i : Int) : Int :=
  yearStart (i / 12) + daysBeforeMonth (isLeap (i / 12)) ((i % 12).toNat + 1)

def monthLength (i : Int) : Int :=
  monthStart (i + 1) - monthStart i

/-- The month numbered `m` of a year, with January numbered one. -/
def monthIndex (y : Int) (m : Nat) : Int :=
  12 * y + (m - 1)

def monthYear (i : Int) : Int := i / 12

def monthNumber (i : Int) : Nat := (i % 12).toNat + 1

theorem monthNumber_bounds (i : Int) : 1 ≤ monthNumber i ∧ monthNumber i ≤ 12 := by
  unfold monthNumber
  omega

theorem monthIndex_year_number (i : Int) :
    monthIndex (monthYear i) (monthNumber i) = i := by
  unfold monthIndex monthYear monthNumber
  omega

theorem monthStart_january (y : Int) : monthStart (12 * y) = yearStart y := by
  have hdiv : 12 * y / 12 = y := by omega
  have hmod : 12 * y % 12 = 0 := by omega
  simp [monthStart, hdiv, hmod, daysBeforeMonth]

theorem yearLength_eq (y : Int) : yearLength y = 365 + (isLeap y).toInt := by
  unfold yearLength
  cases isLeap y <;> rfl

def monthOfYearDay (leap : Bool) (k : Int) : Nat :=
  Nat.findGreatest (fun m => daysBeforeMonth leap m ≤ k) 12

/-- The month a day lies in. -/
def monthOf (n : Int) : Int :=
  monthIndex (yearOf n) (monthOfYearDay (isLeap (yearOf n)) (n - yearStart (yearOf n)))

theorem monthOfYearDay_spec {leap : Bool} {k : Int} (hlow : 0 ≤ k)
    (hhigh : k < 365 + leap.toInt) :
    (1 ≤ monthOfYearDay leap k ∧ monthOfYearDay leap k ≤ 12) ∧
      daysBeforeMonth leap (monthOfYearDay leap k) ≤ k ∧
      k < daysBeforeMonth leap (monthOfYearDay leap k + 1) := by
  have hjanuary : daysBeforeMonth leap 1 ≤ k := hlow
  have hge : 1 ≤ monthOfYearDay leap k :=
    Nat.le_findGreatest (by decide) hjanuary
  have hle : monthOfYearDay leap k ≤ 12 := Nat.findGreatest_le 12
  refine ⟨⟨hge, hle⟩, ?_, ?_⟩
  · exact Nat.findGreatest_spec (P := fun m => daysBeforeMonth leap m ≤ k)
      (by decide) hjanuary
  · rcases Nat.lt_or_eq_of_le hle with hlt | heq
    · have hnot := Nat.findGreatest_is_greatest
        (P := fun m => daysBeforeMonth leap m ≤ k) (Nat.lt_succ_self _) hlt
      exact not_le.mp hnot
    · rw [heq]
      exact hhigh

theorem monthStart_monthIndex {y : Int} {m : Nat} (hlow : 1 ≤ m) (hhigh : m ≤ 13) :
    monthStart (monthIndex y m) = yearStart y + daysBeforeMonth (isLeap y) m := by
  by_cases hlast : m = 13
  · subst hlast
    rw [show monthIndex y 13 = 12 * (y + 1) by unfold monthIndex; omega,
      monthStart_january, yearStart_succ, yearLength_eq]
    rfl
  · unfold monthStart monthIndex
    rw [show (12 * y + ((m : Int) - 1)) / 12 = y by omega,
      show ((12 * y + ((m : Int) - 1)) % 12).toNat + 1 = m by omega]

theorem monthLength_bounds (i : Int) : 28 ≤ monthLength i ∧ monthLength i ≤ 31 := by
  obtain ⟨hm1, hm2⟩ := monthNumber_bounds i
  have hleap : 0 ≤ (isLeap (monthYear i)).toInt ∧
      (isLeap (monthYear i)).toInt ≤ 1 := by
    cases isLeap (monthYear i) <;> decide
  have hshift : monthIndex (monthYear i) (monthNumber i) + 1 =
      monthIndex (monthYear i) (monthNumber i + 1) := by
    unfold monthIndex
    omega
  unfold monthLength
  rw [← monthIndex_year_number i, hshift, monthStart_monthIndex hm1 (by omega),
    monthStart_monthIndex (by omega) (by omega)]
  generalize monthNumber i = m at hm1 hm2
  generalize hl : (isLeap (monthYear i)).toInt = l at hleap
  interval_cases m <;> simp only [daysBeforeMonth, hl] <;> omega

theorem monthStart_lt_succ (i : Int) : monthStart i < monthStart (i + 1) := by
  have h := (monthLength_bounds i).left
  unfold monthLength at h
  omega

theorem monthStart_strictMono : StrictMono monthStart :=
  strictMono_int_of_lt_succ monthStart_lt_succ

theorem monthStart_add_le (i : Int) (k : Nat) :
    monthStart (i + k) ≤ monthStart i + 31 * k := by
  induction k with
  | zero => simp
  | succ k ih =>
      have hlen := (monthLength_bounds (i + k)).right
      unfold monthLength at hlen
      rw [Nat.cast_succ, ← add_assoc]
      omega

theorem monthOf_spec (n : Int) :
    monthStart (monthOf n) ≤ n ∧ n < monthStart (monthOf n + 1) := by
  obtain ⟨hlow, hhigh⟩ := yearOf_spec n
  rw [yearStart_succ, yearLength_eq] at hhigh
  unfold monthOf
  generalize yearOf n = y at hlow hhigh
  obtain ⟨⟨hm1, hm2⟩, hk1, hk2⟩ :=
    @monthOfYearDay_spec (isLeap y) (n - yearStart y)
      (by omega) (by omega)
  generalize monthOfYearDay (isLeap y) (n - yearStart y) = m at hm1 hm2 hk1 hk2
  have hshift : monthIndex y m + 1 = monthIndex y (m + 1) := by
    unfold monthIndex
    omega
  rw [hshift, monthStart_monthIndex hm1 (by omega),
    monthStart_monthIndex (by omega) (by omega)]
  omega

theorem monthOf_eq_of_mem {n i : Int} (hlow : monthStart i ≤ n)
    (hhigh : n < monthStart (i + 1)) : monthOf n = i := by
  obtain ⟨h1, h2⟩ := monthOf_spec n
  have hle : monthOf n < i + 1 :=
    monthStart_strictMono.lt_iff_lt.mp (lt_of_le_of_lt h1 hhigh)
  have hge : i < monthOf n + 1 :=
    monthStart_strictMono.lt_iff_lt.mp (lt_of_le_of_lt hlow h2)
  omega

theorem monthOf_monthStart (i : Int) : monthOf (monthStart i) = i :=
  monthOf_eq_of_mem le_rfl (monthStart_lt_succ i)

theorem monthOf_mono {m n : Int} (h : m ≤ n) : monthOf m ≤ monthOf n := by
  have h1 := (monthOf_spec m).left
  have h2 := (monthOf_spec n).right
  have hlt : monthOf m < monthOf n + 1 :=
    monthStart_strictMono.lt_iff_lt.mp (by omega)
  omega

/-!
## Dates
-/

/-- A calendar date. -/
structure Date where
  year : Int
  month : Nat
  day : Nat
deriving DecidableEq

/-- The number of the day a date denotes. -/
def Date.toDay (d : Date) : Int :=
  monthStart (monthIndex d.year d.month) + (d.day - 1)

/-- The date of a day. -/
def dateOf (n : Int) : Date where
  year := monthYear (monthOf n)
  month := monthNumber (monthOf n)
  day := (n - monthStart (monthOf n)).toNat + 1

theorem dateOf_toDay (n : Int) : (dateOf n).toDay = n := by
  have hlow := (monthOf_spec n).left
  unfold Date.toDay dateOf
  simp only
  rw [monthIndex_year_number]
  omega

theorem dateOf_day_bounds (n : Int) : 1 ≤ (dateOf n).day ∧ (dateOf n).day ≤ 31 := by
  obtain ⟨hlow, hhigh⟩ := monthOf_spec n
  have hlen := (monthLength_bounds (monthOf n)).right
  unfold monthLength at hlen
  simp only [dateOf]
  omega

theorem dateOf_month_bounds (n : Int) :
    1 ≤ (dateOf n).month ∧ (dateOf n).month ≤ 12 :=
  monthNumber_bounds (monthOf n)

/-- The day `k` months later, moved back to the end of a shorter month. -/
def addMonths (n k : Int) : Int :=
  monthStart (monthOf n + k) +
    min (n - monthStart (monthOf n)) (monthLength (monthOf n + k) - 1)

theorem addMonths_zero (n : Int) : addMonths n 0 = n := by
  obtain ⟨hlow, hhigh⟩ := monthOf_spec n
  unfold addMonths monthLength
  rw [add_zero]
  omega

theorem addMonths_monthStart (i k : Int) :
    addMonths (monthStart i) k = monthStart (i + k) := by
  have hlen := (monthLength_bounds (i + k)).left
  unfold addMonths
  rw [monthOf_monthStart, sub_self, min_eq_left (by omega), add_zero]

theorem addMonths_mem (n k : Int) :
    monthStart (monthOf n + k) ≤ addMonths n k ∧
      addMonths n k < monthStart (monthOf n + k + 1) := by
  have hlow := (monthOf_spec n).left
  have hlen := (monthLength_bounds (monthOf n + k)).left
  have hdef : monthLength (monthOf n + k) =
      monthStart (monthOf n + k + 1) - monthStart (monthOf n + k) := rfl
  unfold addMonths
  omega

theorem addMonths_mono {m n : Int} (k : Int) (h : m ≤ n) :
    addMonths m k ≤ addMonths n k := by
  rcases lt_or_eq_of_le (monthOf_mono h) with hlt | heq
  · have h1 := (addMonths_mem m k).right
    have h2 := (addMonths_mem n k).left
    have hmono := monthStart_strictMono.monotone
      (show monthOf m + k + 1 ≤ monthOf n + k by omega)
    omega
  · unfold addMonths
    rw [heq]
    omega

end Calendar
end EsdcFactory
