import EsdcFactory.Lib.Calendar
import Mathlib.Tactic.Linarith

/-!
# Timestamps, time zones and calendar intervals

An instant is a number of microseconds since the epoch, and a local timestamp
is what the clock on the wall shows, written as the number of microseconds that
would have passed since the epoch at offset zero.  A session time zone converts
between the two.  Intervals add months and days to the local timestamp, and a
period is one of the calendar units a local timestamp can be truncated to.
-/

namespace EsdcFactory
namespace Timestamp

open Calendar

/-- Microseconds in a second. -/
def secondUs : Int := 1000000

/-- Microseconds in a day. -/
def dayUs : Int := 86400000000

theorem dayUs_pos : 0 < dayUs := by decide

/-!
## Time zones
-/

/--
A session time zone.  A local timestamp that a transition repeats or skips is
resolved to the offset after, respectively before, the transition; in both
cases an instant that shows an earlier local time comes earlier.
-/
structure TimeZone where
  toLocal : Int -> Int
  ofLocal : Int -> Int
  lt_ofLocal : forall {t b : Int}, toLocal t < b -> t < ofLocal b
  offset_lt : forall t : Int, toLocal t - t < dayUs ∧ t - toLocal t < dayUs
  ofLocal_sub_lt : forall x : Int, ofLocal x - x < dayUs

/-- A zone that always shows the same offset. -/
def TimeZone.fixedOffset (off : Int) (h : off < dayUs ∧ -off < dayUs) :
    TimeZone where
  toLocal := fun t => t + off
  ofLocal := fun x => x - off
  lt_ofLocal := by
    intro t b hlt
    omega
  offset_lt := by
    intro t
    omega
  ofLocal_sub_lt := by
    intro x
    omega

/-- Universal time. -/
def TimeZone.utc : TimeZone :=
  TimeZone.fixedOffset 0 (by decide)

/-- A local timestamp is never shown before the instant it resolves to. -/
theorem TimeZone.le_toLocal_ofLocal (tz : TimeZone) (x : Int) :
    x ≤ tz.toLocal (tz.ofLocal x) := by
  by_contra hlt
  have h := tz.lt_ofLocal (not_le.mp hlt)
  exact lt_irrefl _ h

/-!
## Calendar intervals
-/

/-- The day a local timestamp lies on. -/
def localDay (x : Int) : Int := x / dayUs

def timeOfDay (x : Int) : Int := x % dayUs

/-- The first microsecond of a day. -/
def midnight (n : Int) : Int := n * dayUs

theorem localDay_midnight (n : Int) : localDay (midnight n) = n := by
  unfold localDay midnight
  exact Int.mul_ediv_cancel n (by decide)

theorem lt_midnight_iff {x n : Int} : x < midnight n <-> localDay x < n := by
  unfold midnight localDay
  exact (Int.ediv_lt_iff_lt_mul dayUs_pos).symm

theorem midnight_le_iff {x n : Int} : midnight n ≤ x <-> n ≤ localDay x := by
  have h := lt_midnight_iff (x := x) (n := n)
  omega

theorem localDay_mono {x y : Int} (h : x ≤ y) : localDay x ≤ localDay y :=
  Int.ediv_le_ediv dayUs_pos h

/-- Whole months and days. -/
structure Interval where
  months : Int
  days : Int

/-- The interval repeated. -/
def Interval.scale (iv : Interval) (k : Int) : Interval :=
  ⟨iv.months * k, iv.days * k⟩

/-- Add an interval to a local timestamp: months first, then days. -/
def addInterval (x : Int) (iv : Interval) : Int :=
  midnight (addMonths (localDay x) iv.months + iv.days) + timeOfDay x

theorem timeOfDay_bounds (x : Int) : 0 ≤ timeOfDay x ∧ timeOfDay x < dayUs :=
  ⟨Int.emod_nonneg _ (by decide), Int.emod_lt_of_pos _ dayUs_pos⟩

theorem localDay_addInterval (x : Int) (iv : Interval) :
    localDay (addInterval x iv) = addMonths (localDay x) iv.months + iv.days := by
  obtain ⟨hlow, hhigh⟩ := timeOfDay_bounds x
  unfold addInterval
  generalize addMonths (localDay x) iv.months + iv.days = n
  unfold localDay midnight
  rw [add_comm, Int.add_mul_ediv_right _ _ (by decide)]
  rw [Int.ediv_eq_zero_of_lt hlow hhigh, zero_add]

/-!
## Periods
-/

/-- The calendar units. -/
inductive Period where
  | day
  | month
  | year
deriving DecidableEq

/-- One unit as an interval. -/
def Period.interval : Period -> Interval
  | .day => ⟨0, 1⟩
  | .month => ⟨1, 0⟩
  | .year => ⟨12, 0⟩

/-- The first day of the period a day lies in. -/
def Period.start : Period -> Int -> Int
  | .day, n => n
  | .month, n => monthStart (monthOf n)
  | .year, n => monthStart (12 * (monthOf n / 12))

/-- The first day of the period after the one a day lies in. -/
def Period.next : Period -> Int -> Int
  | .day, n => n + 1
  | .month, n => monthStart (monthOf n + 1)
  | .year, n => monthStart (12 * (monthOf n / 12 + 1))

/-- `DATE_TRUNC` on a local timestamp. -/
def truncate (p : Period) (x : Int) : Int :=
  midnight (p.start (localDay x))

theorem Period.start_le (p : Period) (n : Int) : p.start n ≤ n := by
  have hmonth := (monthOf_spec n).left
  cases p with
  | day => exact le_rfl
  | month => exact hmonth
  | year =>
      have hle : monthStart (12 * (monthOf n / 12)) ≤ monthStart (monthOf n) :=
        monthStart_strictMono.monotone (by omega)
      exact hle.trans hmonth

theorem Period.lt_next (p : Period) (n : Int) : n < p.next n := by
  have hmonth := (monthOf_spec n).right
  cases p with
  | day =>
      simp only [Period.next]
      omega
  | month => exact hmonth
  | year =>
      have hle : monthStart (monthOf n + 1) ≤
          monthStart (12 * (monthOf n / 12 + 1)) :=
        monthStart_strictMono.monotone (by omega)
      exact lt_of_lt_of_le hmonth hle

theorem Period.next_mono (p : Period) {m n : Int} (h : m ≤ n) :
    p.next m ≤ p.next n := by
  have hmonth := monthOf_mono h
  cases p with
  | day =>
      simp only [Period.next]
      omega
  | month => exact monthStart_strictMono.monotone (by omega)
  | year => exact monthStart_strictMono.monotone (by omega)

theorem monthOf_addMonths (n k : Int) : monthOf (addMonths n k) = monthOf n + k :=
  monthOf_eq_of_mem (addMonths_mem n k).left (addMonths_mem n k).right

theorem Period.next_le (p : Period) (n : Int) : p.next n ≤ n + 372 := by
  have hstart := p.start_le n
  cases p with
  | day =>
      simp only [Period.next]
      omega
  | month =>
      have hlen := (monthLength_bounds (monthOf n)).right
      unfold monthLength at hlen
      simp only [Period.start, Period.next] at *
      omega
  | year =>
      have hlen := monthStart_add_le (12 * (monthOf n / 12)) 12
      simp only [Period.start, Period.next] at *
      rw [mul_add, mul_one]
      exact hlen.trans (by push_cast; omega)

theorem Period.next_start (p : Period) (n : Int) : p.next (p.start n) = p.next n := by
  cases p with
  | day => rfl
  | month => simp only [Period.start, Period.next, monthOf_monthStart]
  | year =>
      simp only [Period.start, Period.next, monthOf_monthStart]
      congr 1
      omega

theorem Period.start_add_interval (p : Period) (n : Int) :
    addMonths (p.start n) p.interval.months + p.interval.days = p.next n := by
  cases p with
  | day =>
      simp only [Period.start, Period.next, Period.interval, addMonths_zero]
  | month =>
      simp only [Period.start, Period.next, Period.interval,
        addMonths_monthStart, add_zero]
  | year =>
      simp only [Period.start, Period.next, Period.interval,
        addMonths_monthStart, add_zero, mul_add, mul_one]

theorem Period.next_addInterval_neg (p : Period) (x : Int) :
    p.next (localDay (addInterval x (p.interval.scale (-1)))) =
      p.start (localDay x) := by
  rw [localDay_addInterval]
  cases p with
  | day =>
      simp only [Period.interval, Interval.scale, Period.next, Period.start,
        zero_mul, addMonths_zero]
      omega
  | month =>
      simp only [Period.interval, Interval.scale, Period.next, Period.start,
        zero_mul, add_zero, monthOf_addMonths]
      congr 1
      omega
  | year =>
      simp only [Period.interval, Interval.scale, Period.next, Period.start,
        zero_mul, add_zero, monthOf_addMonths]
      congr 1
      omega

theorem Period.start_mono (p : Period) {m n : Int} (h : m ≤ n) :
    p.start m ≤ p.start n := by
  have hmonth := monthOf_mono h
  cases p with
  | day => exact h
  | month => exact monthStart_strictMono.monotone hmonth
  | year => exact monthStart_strictMono.monotone (by omega)

theorem Period.start_next (p : Period) (n : Int) : p.start (p.next n) = p.next n := by
  cases p with
  | day => rfl
  | month => simp only [Period.start, Period.next, monthOf_monthStart]
  | year =>
      simp only [Period.start, Period.next, monthOf_monthStart]
      congr 1
      omega

theorem Period.start_start (p : Period) (n : Int) : p.start (p.start n) = p.start n := by
  cases p with
  | day => rfl
  | month => simp only [Period.start, monthOf_monthStart]
  | year =>
      simp only [Period.start, monthOf_monthStart]
      congr 1
      omega

theorem Period.start_eq_of_mem (p : Period) {m n : Int} (hstart : p.start m = m)
    (hlow : m ≤ n) (hhigh : n < p.next m) : p.start n = m := by
  have hmonth := monthOf_mono hlow
  cases p with
  | day =>
      simp only [Period.start, Period.next] at *
      omega
  | month =>
      simp only [Period.start, Period.next] at *
      have hlt : monthOf n < monthOf m + 1 :=
        monthStart_strictMono.lt_iff_lt.mp (lt_of_le_of_lt (monthOf_spec n).left hhigh)
      have heq : monthOf n = monthOf m := by omega
      rw [heq, hstart]
  | year =>
      simp only [Period.start, Period.next] at *
      have hlt : monthOf n < 12 * (monthOf m / 12 + 1) :=
        monthStart_strictMono.lt_iff_lt.mp (lt_of_le_of_lt (monthOf_spec n).left hhigh)
      have heq : monthOf n / 12 = monthOf m / 12 := by omega
      rw [heq, hstart]

theorem Period.disjoint (p : Period) {m n : Int} (hm : p.start m = m) (hn : p.start n = n)
    (hne : m ≠ n) : p.next m ≤ n ∨ p.next n ≤ m := by
  rcases lt_or_gt_of_ne hne with hlt | hgt
  · apply Or.inl
    by_contra hinside
    exact hne (hn.symm.trans (p.start_eq_of_mem hm hlt.le (not_le.mp hinside))).symm
  · apply Or.inr
    by_contra hinside
    exact hne (hm.symm.trans (p.start_eq_of_mem hn hgt.le (not_le.mp hinside)))

/-- The first day of the period so many periods after the one a day lies in. -/
def Period.later (p : Period) (n : Int) : Nat -> Int
  | 0 => p.start n
  | i + 1 => p.next (p.later n i)

theorem Period.start_later (p : Period) (n : Int) (i : Nat) :
    p.start (p.later n i) = p.later n i := by
  cases i with
  | zero => exact p.start_start n
  | succ i => exact p.start_next _

theorem Period.later_strictMono (p : Period) (n : Int) : StrictMono (p.later n) :=
  strictMono_nat_of_lt_succ fun i => p.lt_next (p.later n i)

theorem Period.later_eq (p : Period) (n : Int) (i : Nat) :
    p.later n i =
      match p with
      | .day => n + i
      | .month => monthStart (monthOf n + i)
      | .year => monthStart (12 * (monthOf n / 12 + i)) := by
  induction i with
  | zero => cases p <;> simp [Period.later, Period.start]
  | succ i ih =>
      cases p with
      | day =>
          simp only [Period.later, ih, Period.next]
          push_cast
          omega
      | month =>
          simp only [Period.later, ih, Period.next, monthOf_monthStart]
          congr 1
          push_cast
          omega
      | year =>
          simp only [Period.later, ih, Period.next, monthOf_monthStart]
          congr 1
          push_cast
          omega

theorem addInterval_zero (x : Int) : addInterval x ⟨0, 0⟩ = x := by
  unfold addInterval midnight localDay timeOfDay
  rw [addMonths_zero, add_zero, mul_comm]
  exact Int.mul_ediv_add_emod x dayUs

theorem Period.start_addInterval (p : Period) (x : Int) (i : Nat) :
    p.start (localDay (addInterval x (p.interval.scale i))) = p.later (localDay x) i := by
  rw [localDay_addInterval, p.later_eq]
  cases p with
  | day => simp [Period.interval, Interval.scale, Period.start, addMonths_zero]
  | month => simp [Period.interval, Interval.scale, Period.start, monthOf_addMonths]
  | year =>
      simp only [Period.interval, Interval.scale, Period.start, zero_mul, add_zero,
        monthOf_addMonths]
      congr 1
      omega

end Timestamp
end EsdcFactory
