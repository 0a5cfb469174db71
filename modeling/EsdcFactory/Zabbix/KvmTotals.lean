import EsdcFactory.Zabbix.KvmRates
import Mathlib.Algebra.BigOperators.Group.List.Basic

/-!
# The rates of a disk add up

What `kvmiostat` prints of a disk is the growth of its counters since the last look at
it, whatever became of its machine meanwhile.  So no read and no write is shown twice,
and none that the counters know of is left out.
-/

namespace EsdcFactory
namespace Zabbix
namespace KvmIostat

/-- The growth that a rate stands for. -/
def Row.growth (opts : Options) (field : Field) (row : Row) : Rat :=
  rate opts row.data row.old field * rateDivisor opts row.data row.old * opts.divisor field

def Row.isAbout (uuid : String) (di : Nat) (row : Row) : Bool :=
  row.zone = uuid && row.disk = di

/-- The growth that some rows show of a disk. -/
def totalGrowth (opts : Options) (field : Field) (uuid : String) (di : Nat) (rows : List Row) :
    Rat :=
  ((rows.filter (Row.isAbout uuid di)).map (Row.growth opts field)).sum

/-- Each row shows all that its disk has counted and that no earlier row showed. -/
structure AddsUp (opts : Options) (s : State) : Prop where
  shown : forall rows row, rows ++ [row] <+: s.rows -> forall field,
    totalGrowth opts field row.zone row.disk (rows ++ [row]) = row.data.counters field
  remembered : forall uuid di field,
    totalGrowth opts field uuid di s.rows = (s.remembered uuid di).counters field

variable {opts : Options}

theorem divisor_ne_zero (opts : Options) (field : Field) : opts.divisor field ≠ 0 :=
  (divisor_pos opts field).ne'

theorem Row.growth_eq {row : Row} (h : rateDivisor opts row.data row.old ≠ 0) (field : Field) :
    row.growth opts field = row.data.counters field - row.old.counters field := by
  rw [Row.growth, rate, mul_assoc, mul_comm (rateDivisor opts _ _), ← mul_assoc,
    div_mul_cancel₀ _ (divisor_ne_zero opts field), div_mul_cancel₀ _ h]

theorem totalGrowth_concat (field : Field) (uuid : String) (di : Nat) (rows : List Row)
    (row : Row) : totalGrowth opts field uuid di (rows ++ [row]) =
      totalGrowth opts field uuid di rows +
        if row.isAbout uuid di then row.growth opts field else 0 := by
  rw [totalGrowth, totalGrowth, List.filter_append, List.map_append, List.sum_append]
  cases h : row.isAbout uuid di with
  | false => simp [h]
  | true => simp [h]

theorem remembered_remember_self (s : State) (uuid : String) (di : Nat) (data : Stats) :
    (s.remember uuid di data).remembered uuid di = data := by
  simp [State.remembered, State.remember]

theorem remembered_remember_other {s : State} {uuid other : String} {di dj : Nat} {data : Stats}
    (h : ¬ (other = uuid ∧ dj = di)) :
    (s.remember uuid di data).remembered other dj = s.remembered other dj := by
  by_cases hzone : other = uuid
  · subst hzone
    have hdisk : dj ≠ di := fun heq => h ⟨rfl, heq⟩
    simp [State.remembered, State.remember, hdisk]
  · simp [State.remembered, State.remember, hzone]

/-- A disk is remembered as it is seen, whose row is shown. -/
theorem AddsUp.show {s : State} (h : AddsUp opts s) (row : Row)
    (hold : row.old = s.remembered row.zone row.disk)
    (hclock : rateDivisor opts row.data row.old ≠ 0) :
    AddsUp opts (State.remember { s with rows := s.rows ++ [row] } row.zone row.disk row.data) := by
  have hown : forall field, totalGrowth opts field row.zone row.disk (s.rows ++ [row]) =
      row.data.counters field := by
    intro field
    have habout : row.isAbout row.zone row.disk = true := by simp [Row.isAbout]
    rw [totalGrowth_concat, if_pos habout, h.remembered, Row.growth_eq hclock, hold]
    exact add_sub_cancel _ _
  constructor
  · intro rows other hprefix field
    rcases List.prefix_concat_iff.mp hprefix with heq | hearlier
    · rcases List.append_inj' heq rfl with ⟨hrows, hlast⟩
      cases hlast
      rw [hrows]
      exact hown field
    · exact h.shown rows other hearlier field
  · intro uuid di field
    by_cases hdisk : uuid = row.zone ∧ di = row.disk
    · rcases hdisk with ⟨rfl, rfl⟩
      rw [remembered_remember_self]
      exact hown field
    · have habout : ¬ row.isAbout uuid di = true := by
        intro habout
        simp only [Row.isAbout, Bool.and_eq_true, decide_eq_true_eq] at habout
        exact hdisk ⟨habout.left.symm, habout.right.symm⟩
      rw [remembered_remember_other hdisk]
      change totalGrowth opts field uuid di (s.rows ++ [row]) = (s.remembered uuid di).counters field
      rw [totalGrowth_concat, if_neg habout, add_zero]
      exact h.remembered uuid di field

theorem AddsUp.read {s : State} (h : AddsUp opts s) (line : Option (List Char)) :
    AddsUp opts { s with jsonData := line } := ⟨h.shown, h.remembered⟩

end KvmIostat
end Zabbix
end EsdcFactory
