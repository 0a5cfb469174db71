import Mathlib.Tactic.IntervalCases

/-!
# Decimal fields of fixed width

Names often carry numbers as fields of a fixed number of digits.  A field is
written with leading zeros and read back from the end of a text, which is how a
pattern anchored at the end of a name finds it.
-/

namespace EsdcFactory
namespace Decimal

/-- The last `w` decimal digits of a number. -/
def padded : Nat -> Nat -> List Char
  | 0, _ => []
  | w + 1, n => padded w (n / 10) ++ [Nat.digitChar (n % 10)]

def digitValue (c : Char) : Nat := c.toNat - '0'.toNat

/-- Read `w` digits off the end of a text given in reverse. -/
def numberAtEnd : Nat -> List Char -> Option (Nat × List Char)
  | 0, rest => some (0, rest)
  | _ + 1, [] => none
  | w + 1, c :: rest =>
      if c.isDigit then
        (numberAtEnd w rest).map fun (n, front) =>
          (10 * n + digitValue c, front)
      else none

/-- Read a separator off the end of a text given in reverse. -/
def separatorAtEnd (sep : Char) : List Char -> Option (List Char)
  | [] => none
  | c :: rest => if c = sep then some rest else none

theorem digitChar_isDigit {d : Nat} (h : d < 10) : (Nat.digitChar d).isDigit := by
  interval_cases d <;> rfl

theorem digitValue_digitChar {d : Nat} (h : d < 10) :
    digitValue (Nat.digitChar d) = d := by
  interval_cases d <;> rfl

theorem numberAtEnd_padded {w n : Nat} (h : n < 10 ^ w) (front : List Char) :
    numberAtEnd w ((padded w n).reverse ++ front) = some (n, front) := by
  induction w generalizing n with
  | zero =>
      have hzero : n = 0 := by simpa using h
      simp [padded, numberAtEnd, hzero]
  | succ w ih =>
      have hd : n % 10 < 10 := Nat.mod_lt n (by decide)
      have hquot : n / 10 < 10 ^ w := by
        rw [Nat.div_lt_iff_lt_mul (by decide)]
        simpa [Nat.pow_succ] using h
      simp only [padded, List.reverse_append, List.reverse_cons,
        List.reverse_nil, List.nil_append, List.cons_append, numberAtEnd,
        digitChar_isDigit hd, if_true, ih hquot, Option.map_some,
        digitValue_digitChar hd, Option.some.injEq, Prod.mk.injEq, and_true]
      omega

@[simp] theorem separatorAtEnd_self (sep : Char) (rest : List Char) :
    separatorAtEnd sep (sep :: rest) = some rest := by
  simp [separatorAtEnd]

theorem separatorAtEnd_digit {sep : Char} (hsep : sep.isDigit = false) {d : Nat}
    (h : d < 10) (rest : List Char) :
    separatorAtEnd sep (Nat.digitChar d :: rest) = none := by
  have hne : Nat.digitChar d ≠ sep := by
    intro heq
    subst heq
    rw [digitChar_isDigit h] at hsep
    cases hsep
  simp [separatorAtEnd, hne]

end Decimal
end EsdcFactory
