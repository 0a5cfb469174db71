import Mathlib.Data.List.Count

/-!
# Escapes in texts

Two notations that the same text can pass through, a format and a JSON string,
write some characters by escapes.  A text is a list of bytes, each of them given
as the character of that number.

To see what both notations do to one text it is enough to count.  No escape
yields more marks than it is written with, and one that yields as many was
written with a letter that it does not yield.
-/

namespace EsdcFactory

-- What is asked of each character of a text is checked on the text, not on every character.
instance (priority := 2000) decidableForallChar (text : List Char) (p : Char -> Prop)
    [DecidablePred p] : Decidable (forall c, c ∈ text -> p c) :=
  List.decidableBAll p text

namespace Escapes

/-- Letters and digits come behind all blanks and control characters. -/
theorem le_toNat_of_isAlphanum {c : Char} (h : c.isAlphanum = true) : 48 ≤ c.toNat := by
  delta Char.isAlphanum Char.isAlpha Char.isUpper Char.isLower Char.isDigit at h
  simp only [Bool.or_eq_true, Bool.and_eq_true, decide_eq_true_eq] at h
  rcases h with (hupper | hlower) | hdigit
  · exact Nat.le_trans (by decide) hupper.left
  · exact Nat.le_trans (by decide) hlower.left
  · exact hdigit.left

/-- The value of a hexadecimal digit. -/
def hexValue (c : Char) : Option Nat :=
  if c.isDigit then some (c.toNat - '0'.toNat)
  else if 'a' ≤ c ∧ c ≤ 'f' then some (c.toNat - 'a'.toNat + 10)
  else if 'A' ≤ c ∧ c ≤ 'F' then some (c.toNat - 'A'.toNat + 10)
  else none

/-- The bytes of a code point in UTF-8. -/
def utf8 (n : Nat) : List Char :=
  if n < 0x80 then [Char.ofNat n]
  else if n < 0x800 then [0xc0 + n / 64, 0x80 + n % 64].map Char.ofNat
  else if n < 0x10000 then
    [0xe0 + n / 4096, 0x80 + n / 64 % 64, 0x80 + n % 64].map Char.ofNat
  else
    [0xf0 + n / 262144 % 8, 0x80 + n / 4096 % 64, 0x80 + n / 64 % 64, 0x80 + n % 64].map
      Char.ofNat

/-- A character that begins an escape in a format. -/
def isMark (c : Char) : Bool :=
  c = '\\' || c = '%'

def marks (text : List Char) : Nat :=
  text.countP isMark

/-- The letter that an escape by a code point is written with. -/
def isU (c : Char) : Bool :=
  c = 'u' || c = 'U'

def us (text : List Char) : Nat :=
  text.countP isU

@[simp] theorem marks_nil : marks [] = 0 := rfl

@[simp] theorem us_nil : us [] = 0 := rfl

theorem marks_append (s t : List Char) : marks (s ++ t) = marks s + marks t :=
  List.countP_append

theorem us_append (s t : List Char) : us (s ++ t) = us s + us t :=
  List.countP_append

theorem marks_cons (c : Char) (t : List Char) :
    marks (c :: t) = marks t + if isMark c then 1 else 0 :=
  List.countP_cons

theorem us_cons (c : Char) (t : List Char) :
    us (c :: t) = us t + if isU c then 1 else 0 :=
  List.countP_cons

theorem marks_eq_zero {text : List Char} :
    marks text = 0 <-> '\\' ∉ text ∧ '%' ∉ text := by
  unfold marks
  rw [List.countP_eq_zero]
  constructor
  · intro h
    exact ⟨fun hmem => h _ hmem rfl, fun hmem => h _ hmem rfl⟩
  · intro hparts c hc hmark
    rcases hparts with ⟨hback, hper⟩
    rcases (by simpa [isMark] using hmark : c = '\\' ∨ c = '%') with rfl | rfl
    · exact hback hc
    · exact hper hc

theorem marks_le_of_sublist {s t : List Char} (h : List.Sublist s t) :
    marks s ≤ marks t :=
  h.countP_le

theorem us_le_of_sublist {s t : List Char} (h : List.Sublist s t) : us s ≤ us t :=
  h.countP_le

theorem toNat_ofNat_byte {n : Nat} (h : n < 0x100) : (Char.ofNat n).toNat = n := by
  have hvalid : n.isValidChar := Or.inl (by omega)
  unfold Char.ofNat
  rw [dif_pos hvalid]
  rfl

theorem countP_utf8_eq_zero {p : Char -> Bool} (hp : forall c, p c -> c.toNat < 0x80)
    {n : Nat} (hn : 0x80 ≤ n) : (utf8 n).countP p = 0 := by
  have high : forall m, 0x80 ≤ m -> m < 0x100 -> p (Char.ofNat m) = false := by
    intro m hm hlt
    by_contra hne
    have hsmall := hp (Char.ofNat m) (by simpa using hne)
    rw [toNat_ofNat_byte hlt] at hsmall
    omega
  rw [utf8, if_neg (by omega)]
  split
  · simp [high (0xc0 + n / 64) (by omega) (by omega),
      high (0x80 + n % 64) (by omega) (by omega)]
  · split
    · simp [high (0xe0 + n / 4096) (by omega) (by omega),
        high (0x80 + n / 64 % 64) (by omega) (by omega),
        high (0x80 + n % 64) (by omega) (by omega)]
    · simp [high (0xf0 + n / 262144 % 8) (by omega) (by omega),
        high (0x80 + n / 4096 % 64) (by omega) (by omega),
        high (0x80 + n / 64 % 64) (by omega) (by omega),
        high (0x80 + n % 64) (by omega) (by omega)]

theorem isMark_ascii {c : Char} (h : isMark c) : c.toNat < 0x80 := by
  rcases (by simpa [isMark] using h : c = '\\' ∨ c = '%') with rfl | rfl <;> decide

theorem isU_ascii {c : Char} (h : isU c) : c.toNat < 0x80 := by
  rcases (by simpa [isU] using h : c = 'u' ∨ c = 'U') with rfl | rfl <;> decide

theorem us_eq_zero_of_marks_singleton {c : Char} (h : marks [c] = 1) : us [c] = 0 := by
  have hmark : isMark c = true := by
    by_contra hne
    simp [marks, hne] at h
  rcases (by simpa [isMark] using hmark : c = '\\' ∨ c = '%') with rfl | rfl <;> rfl

theorem marks_utf8_le (n : Nat) : marks (utf8 n) ≤ 1 := by
  by_cases hn : n < 0x80
  · rw [utf8, if_pos hn]
    exact List.countP_le_length
  · rw [marks, countP_utf8_eq_zero (fun _ => isMark_ascii) (Nat.le_of_not_lt hn)]
    exact Nat.zero_le 1

theorem us_utf8_le (n : Nat) : us (utf8 n) ≤ 1 := by
  by_cases hn : n < 0x80
  · rw [utf8, if_pos hn]
    exact List.countP_le_length
  · rw [us, countP_utf8_eq_zero (fun _ => isU_ascii) (Nat.le_of_not_lt hn)]
    exact Nat.zero_le 1

theorem us_utf8_eq_zero {n : Nat} (h : marks (utf8 n) = 1) : us (utf8 n) = 0 := by
  by_cases hn : n < 0x80
  · rw [utf8, if_pos hn] at h ⊢
    exact us_eq_zero_of_marks_singleton h
  · exact countP_utf8_eq_zero (fun _ => isU_ascii) (Nat.le_of_not_lt hn)

end Escapes
end EsdcFactory
