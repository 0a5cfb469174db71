import Mathlib.Data.List.Basic

/-!
# Folds of fallible steps

A loop whose steps may fail reaches its end only if every step succeeds.  What
each successful step relates, the loop relates.
-/

namespace EsdcFactory
namespace Fold

universe u v w

theorem bind_eq_ok {eps : Type u} {alpha beta : Type v} {x : Except eps alpha}
    {f : alpha -> Except eps beta} {b : beta} :
    (x >>= f) = .ok b <-> exists a, x = .ok a ∧ f a = .ok b := by
  cases x with
  | error e => simp [bind, Except.bind]
  | ok a => simp [bind, Except.bind]

/-- A loop over checks succeeds exactly when every check does. -/
theorem forM_eq_ok_iff {eps : Type u} {alpha : Type w} {xs : List alpha}
    {check : alpha -> Except eps PUnit} :
    forM xs check = .ok ⟨⟩ <-> forall x, x ∈ xs -> check x = .ok ⟨⟩ := by
  induction xs with
  | nil => simp [pure, Except.pure]
  | cons x rest ih =>
      rw [List.forM_cons, bind_eq_ok, List.forall_mem_cons]
      constructor
      · intro h
        rcases h with ⟨_, hfirst, hrest⟩
        exact ⟨hfirst, ih.mp hrest⟩
      · intro h
        rcases h with ⟨hfirst, hrest⟩
        exact ⟨⟨⟩, hfirst, ih.mpr hrest⟩

variable {eps : Type u} {alpha : Type w} {beta : Type v}
  {f : beta -> alpha -> Except eps beta}

theorem foldlM_rel {R : beta -> beta -> Prop} (hrefl : forall b, R b b)
    (htrans : forall {b c d}, R b c -> R c d -> R b d) {xs : List alpha}
    (hstep : forall a, a ∈ xs -> forall b b', f b a = .ok b' -> R b b')
    {b b' : beta} (h : xs.foldlM f b = .ok b') : R b b' := by
  induction xs generalizing b with
  | nil =>
      cases h
      exact hrefl _
  | cons a rest ih =>
      rw [List.foldlM_cons, bind_eq_ok] at h
      obtain ⟨c, hfirst, hrest⟩ := h
      have hone := hstep a List.mem_cons_self b c hfirst
      have hmany := ih
        (fun a' ha' => hstep a' (List.mem_cons_of_mem a ha')) hrest
      exact htrans hone hmany

theorem foldlM_mem {xs : List alpha} {b b' : beta} (h : xs.foldlM f b = .ok b')
    {a : alpha} (ha : a ∈ xs) : exists c c', f c a = .ok c' := by
  induction xs generalizing b with
  | nil => cases ha
  | cons a' rest ih =>
      rw [List.foldlM_cons, bind_eq_ok] at h
      obtain ⟨c, hfirst, hrest⟩ := h
      cases ha with
      | head => exact ⟨b, c, hfirst⟩
      | tail _ hmem => exact ih hrest hmem

end Fold
end EsdcFactory
