import Mathlib.Data.List.Basic
import Mathlib.Data.List.Infix
import Mathlib.Data.List.TakeWhile

/-!
# Cutting text at a separator

Shell expansions, URL parsers and line formats all cut a text at the first or
the last occurrence of one character.  This module fixes those cuts on lists
of characters, together with the laws that say when a cut removes nothing.
-/

namespace EsdcFactory
namespace Text

/-!
## Cuts at the first separator
-/

/-- The characters before the first `c`; the whole text when there is none. -/
def before (c : Char) (s : List Char) : List Char :=
  s.takeWhile fun x => x != c

/-- The characters after the first `c`; empty when there is none. -/
def after (c : Char) (s : List Char) : List Char :=
  (s.dropWhile fun x => x != c).drop 1

theorem before_eq_self_iff {c : Char} {s : List Char} :
    before c s = s <-> c ∉ s := by
  unfold before
  rw [List.takeWhile_eq_self_iff]
  constructor
  · intro h hc
    simpa using h c hc
  · intro h x hx
    have hne : x ≠ c := by
      intro heq
      exact h (heq ▸ hx)
    simpa using hne

theorem before_isPrefix (c : Char) (s : List Char) : before c s <+: s :=
  List.takeWhile_prefix _

theorem before_comm (c d : Char) (s : List Char) :
    before c (before d s) = before d (before c s) := by
  unfold before
  rw [List.takeWhile_takeWhile, List.takeWhile_takeWhile]
  congr 1
  funext x
  simp [and_comm]

theorem before_cons_of_ne {c x : Char} (s : List Char) (h : x ≠ c) :
    before c (x :: s) = x :: before c s := by
  simp [before, h]

/-- A separator-free block in front of the separator is exactly what is cut off. -/
theorem before_append_cons {c : Char} {s : List Char} (t : List Char)
    (h : c ∉ s) : before c (s ++ c :: t) = s := by
  induction s with
  | nil =>
      simp [before]
  | cons x rest ih =>
      have hx : x ≠ c := by
        intro heq
        exact h (by simp [heq])
      have hrest : c ∉ rest := by
        intro hmem
        exact h (List.mem_cons_of_mem _ hmem)
      rw [List.cons_append, before_cons_of_ne _ hx, ih hrest]

theorem after_append_cons {c : Char} {s : List Char} (t : List Char)
    (h : c ∉ s) : after c (s ++ c :: t) = t := by
  induction s with
  | nil =>
      simp [after]
  | cons x rest ih =>
      have hx : x ≠ c := by
        intro heq
        exact h (by simp [heq])
      have hrest : c ∉ rest := by
        intro hmem
        exact h (List.mem_cons_of_mem _ hmem)
      have hstep : after c (x :: (rest ++ c :: t)) = after c (rest ++ c :: t) := by
        simp [after, hx]
      rw [List.cons_append, hstep, ih hrest]

/-!
## Cuts at the last separator
-/

/-- The characters after the last `c`; the whole text when there is none. -/
def afterLast (c : Char) (s : List Char) : List Char :=
  (s.reverse.takeWhile fun x => x != c).reverse

/-- Everything up to and including the last `c`; empty when there is none. -/
def uptoLast (c : Char) (s : List Char) : List Char :=
  s.take (s.length - (afterLast c s).length)

theorem afterLast_suffix (c : Char) (s : List Char) : afterLast c s <:+ s := by
  have h : (s.reverse.takeWhile fun x => x != c) <+: s.reverse :=
    List.takeWhile_prefix _
  have hrev := List.reverse_suffix.mpr h
  simpa [afterLast] using hrev

theorem uptoLast_append_afterLast (c : Char) (s : List Char) :
    uptoLast c s ++ afterLast c s = s := by
  rcases afterLast_suffix c s with ⟨front, hfront⟩
  have hlen : s.length = front.length + (afterLast c s).length := by
    have := congrArg List.length hfront
    simpa using this.symm
  have htake : uptoLast c s = front := by
    unfold uptoLast
    rw [hlen, Nat.add_sub_cancel]
    conv_lhs => rw [← hfront]
    exact List.take_left' rfl
  rw [htake, hfront]

/-!
## Cuts at a text
-/

def beforeText (mark : List Char) : List Char -> List Char
  | [] => []
  | c :: s => if mark <+: c :: s then [] else c :: beforeText mark s

/-- The characters after the last place where a text stands, if it stands anywhere. -/
def afterLastText (mark : List Char) : List Char -> Option (List Char)
  | [] => none
  | c :: s =>
      match afterLastText mark s with
      | some behind => some behind
      | none => if mark <+: c :: s then some ((c :: s).drop mark.length) else none

end Text
end EsdcFactory
