import EsdcFactory.Lib.Decimal
import EsdcFactory.Lib.Text

/-!
# Words and numbers in bash

Splitting a word at a separator that is not blank, and the numbers of arithmetic
expansions: a leading zero marks an octal number, and values are kept in 64 bits
without a check for overflow.
-/

namespace EsdcFactory
namespace BashArith

open Decimal

/-- The integers of arithmetic expansions. -/
abbrev Word := BitVec 64

/-!
## Fields
-/

/--
The fields of a word with `IFS` set to one separator.  Every separator ends a
field, so a last one is followed by no empty field.
-/
def splitFields (sep : Char) : List Char -> List (List Char)
  | [] => []
  | c :: rest =>
      if c = sep then [] :: splitFields sep rest
      else
        match splitFields sep rest with
        | [] => [[c]]
        | field :: fields => (c :: field) :: fields

theorem splitFields_cons_sep (sep : Char) (rest : List Char) :
    splitFields sep (sep :: rest) = [] :: splitFields sep rest := by
  simp [splitFields]

theorem splitFields_append_sep {sep : Char} {field : List Char}
    (h : sep ∉ field) (rest : List Char) :
    splitFields sep (field ++ sep :: rest) = field :: splitFields sep rest := by
  induction field with
  | nil => exact splitFields_cons_sep sep rest
  | cons c field ih =>
      have hc : c ≠ sep := fun heq => h (heq ▸ List.mem_cons_self)
      have hfield : sep ∉ field := fun hmem => h (List.mem_cons_of_mem c hmem)
      simp [splitFields, hc, ih hfield]

theorem splitFields_last {sep : Char} {field : List Char} (h : sep ∉ field)
    (hne : field ≠ []) : splitFields sep field = [field] := by
  induction field with
  | nil => exact absurd rfl hne
  | cons c field ih =>
      have hc : c ≠ sep := fun heq => h (heq ▸ List.mem_cons_self)
      cases field with
      | nil => simp [splitFields, hc]
      | cons c' field =>
          have hrest := ih (fun hmem => h (List.mem_cons_of_mem c hmem))
            (List.cons_ne_nil c' field)
          rw [splitFields, hrest]
          simp [hc]

theorem splitFields_cases (sep : Char) (word : List Char) :
    word = [] ∨
    (word ≠ [] ∧ sep ∉ word ∧ splitFields sep word = [word]) ∨
    exists field rest, word = field ++ sep :: rest ∧ sep ∉ field ∧
      splitFields sep word = field :: splitFields sep rest := by
  by_cases hsep : sep ∈ word
  · apply Or.inr
    apply Or.inr
    rcases List.eq_append_cons_of_mem hsep with ⟨field, rest, rfl, hfield⟩
    exact ⟨field, rest, rfl, hfield, splitFields_append_sep hfield rest⟩
  · by_cases hword : word = []
    · exact Or.inl hword
    · apply Or.inr
      apply Or.inl
      exact ⟨hword, hsep, splitFields_last hsep hword⟩

theorem splitFields_eq_cons {sep : Char} {word field : List Char}
    {fields : List (List Char)} (h : splitFields sep word = field :: fields) :
    sep ∉ field ∧ ((word = field ∧ fields = []) ∨
      exists rest, word = field ++ sep :: rest ∧ splitFields sep rest = fields) := by
  rcases splitFields_cases sep word with rfl | ⟨_, hsep, hsplit⟩ |
    ⟨first, rest, hword, hsep, hsplit⟩
  · cases h
  · rw [hsplit] at h
    cases h
    exact ⟨hsep, Or.inl ⟨rfl, rfl⟩⟩
  · rw [hsplit] at h
    cases h
    exact ⟨hsep, Or.inr ⟨rest, hword, rfl⟩⟩

theorem splitFields_intercalate {sep : Char} {words : List String}
    (h : forall word, word ∈ words -> sep ∉ word.toList ∧ word ≠ "") :
    (splitFields sep ((String.singleton sep).intercalate words).toList).map
      String.ofList = words := by
  have hne : forall word : String, word ≠ "" -> word.toList ≠ [] := by
    intro word hword hnil
    exact hword (String.toList_eq_nil_iff.mp hnil)
  induction words with
  | nil => simp [splitFields]
  | cons word rest ih =>
      have hword := h word List.mem_cons_self
      cases rest with
      | nil =>
          rw [String.intercalate_singleton, splitFields_last hword.left
            (hne word hword.right)]
          simp
      | cons next rest =>
          have hrest := ih fun w hw => h w (List.mem_cons_of_mem word hw)
          rw [String.intercalate_cons_cons]
          have hlist : (word ++ String.singleton sep ++
              (String.singleton sep).intercalate (next :: rest)).toList =
              word.toList ++ sep ::
                ((String.singleton sep).intercalate (next :: rest)).toList := by
            simp
          rw [hlist, splitFields_append_sep hword.left, List.map_cons, hrest]
          simp

/-!
## Numbers
-/

def digitsValue (base : Nat) (digits : List Char) : Nat :=
  digits.foldl (fun value c => base * value + digitValue c) 0

theorem digitsValue_concat (base : Nat) (digits : List Char) (c : Char) :
    digitsValue base (digits ++ [c]) =
      base * digitsValue base digits + digitValue c := by
  simp [digitsValue]

/-- Read as octal, digits are never worth more than they are in decimal. -/
theorem digitsValue_octal_le (digits : List Char) :
    digitsValue 8 digits ≤ digitsValue 10 digits := by
  induction digits using List.reverseRecOn with
  | nil => exact Nat.le_refl 0
  | append_singleton digits c ih =>
      rw [digitsValue_concat, digitsValue_concat]
      omega

theorem digitsValue_octal_eq_iff {digits : List Char}
    (h : digits.all (fun c => digitValue c < 8) = true) :
    digitsValue 8 digits = digitsValue 10 digits <-> digitsValue 10 digits < 8 := by
  induction digits using List.reverseRecOn with
  | nil => simp [digitsValue]
  | append_singleton digits c _ =>
      have hlast : digitValue c < 8 := by
        simpa using List.all_eq_true.mp h c (by simp)
      have hle := digitsValue_octal_le digits
      rw [digitsValue_concat, digitsValue_concat]
      omega

theorem digitValue_le_digitsValue (base : Nat) {digits : List Char} {c : Char}
    (hbase : 0 < base) (h : c ∈ digits) : digitValue c ≤ digitsValue base digits := by
  induction digits using List.reverseRecOn with
  | nil => cases h
  | append_singleton digits last ih =>
      rw [digitsValue_concat]
      rcases List.mem_append.mp h with hmem | hmem
      · have hle := ih hmem
        have hmul : digitsValue base digits ≤ base * digitsValue base digits :=
          Nat.le_mul_of_pos_left _ hbase
        omega
      · rw [List.mem_singleton.mp hmem]
        omega

/-- The value of a number made of decimal digits. -/
def numeral (digits : List Char) : Option Word :=
  match digits with
  | '0' :: _ =>
      if digits.all (fun c => digitValue c < 8) then
        some (BitVec.ofNat 64 (digitsValue 8 digits))
      else none
  | _ => some (BitVec.ofNat 64 (digitsValue 10 digits))

/--
An operand that is spliced into an arithmetic expression.  Nothing is left of an
empty one, and the expression then lacks an operand.  Words other than numbers
are not given a value here.
-/
def operand (word : List Char) : Option Word :=
  if word = [] then none
  else if word.all Char.isDigit then numeral word
  else none

/-- A spelling that means the same number in arithmetic and in decimal. -/
def IsDecimal (word : List Char) : Prop :=
  word.head? = some '0' -> digitsValue 10 word < 8

instance (word : List Char) : Decidable (IsDecimal word) :=
  inferInstanceAs (Decidable (_ -> _))

theorem operand_le {word : List Char} {w : Word} (hdigit : word.all Char.isDigit)
    (h : operand word = some w) :
    exists n, w = BitVec.ofNat 64 n ∧ n ≤ digitsValue 10 word ∧
      (n = digitsValue 10 word <-> IsDecimal word) := by
  unfold operand numeral at h
  split at h
  · cases h
  · split at h
    · split at h
      · rename_i hoctal
        refine ⟨_, (Option.some.inj h).symm, digitsValue_octal_le _, ?_⟩
        simpa [IsDecimal] using digitsValue_octal_eq_iff hoctal
      · cases h
    · rename_i hzero
      exists digitsValue 10 word
      constructor
      · exact (Option.some.inj h).symm
      · have hhead : word.head? ≠ some '0' := by
          intro hhead
          rcases List.head?_eq_some_iff.mp hhead with ⟨rest, hrest⟩
          exact hzero rest hrest
        exact ⟨Nat.le_refl _, by simp [IsDecimal, hhead]⟩

theorem operand_of_isDecimal {word : List Char} (hne : word ≠ [])
    (hdigit : word.all Char.isDigit) (h : IsDecimal word) :
    operand word = some (BitVec.ofNat 64 (digitsValue 10 word)) := by
  unfold operand numeral
  rw [if_neg hne, if_pos hdigit]
  split
  · have hvalue := h rfl
    rename_i rest
    have hoctal : ('0' :: rest).all (fun c => digitValue c < 8) = true := by
      apply List.all_eq_true.mpr
      intro c hc
      have hle := digitValue_le_digitsValue 10 (by decide) hc
      simp only [decide_eq_true_eq]
      omega
    rw [if_pos hoctal, (digitsValue_octal_eq_iff hoctal).mpr hvalue]
  · rfl

end BashArith
end EsdcFactory
