import Mathlib.Data.List.Infix

/-!
# Searching in words that are joined

A text without a separator is found in words joined by the separator exactly when it
is found in one of them: the joined line tells no more than the words do.
-/

namespace EsdcFactory
namespace WordSearch

variable {α : Type} {sep : α} {pattern : List α}

theorem prefix_append_sep (hsep : sep ∉ pattern) (front rest : List α) :
    pattern <+: front ++ sep :: rest <-> pattern <+: front := by
  induction pattern generalizing front with
  | nil => exact iff_of_true List.nil_prefix List.nil_prefix
  | cons c pattern ih =>
      have hc : c ≠ sep := fun heq => hsep (heq ▸ List.mem_cons_self)
      have hpattern : sep ∉ pattern := fun hmem => hsep (List.mem_cons_of_mem _ hmem)
      cases front with
      | nil => simp [List.cons_prefix_cons, hc]
      | cons d front =>
          rw [List.cons_append, List.cons_prefix_cons, List.cons_prefix_cons,
            ih hpattern front]

theorem infix_append_sep (hsep : sep ∉ pattern) (front rest : List α) :
    pattern <:+: front ++ sep :: rest <-> pattern <:+: front ∨ pattern <:+: rest := by
  induction front with
  | nil =>
      have hprefix := prefix_append_sep hsep [] rest
      rw [List.nil_append, List.prefix_nil] at hprefix
      rw [List.nil_append, List.infix_cons_iff, List.infix_nil, hprefix]
  | cons c front ih =>
      have hprefix := prefix_append_sep hsep (c :: front) rest
      rw [List.cons_append] at hprefix ⊢
      rw [List.infix_cons_iff, List.infix_cons_iff, hprefix, ih, or_assoc]

theorem infix_intercalate_iff (hsep : sep ∉ pattern) (hne : pattern ≠ [])
    (words : List (List α)) :
    pattern <:+: [sep].intercalate words <->
      exists word, word ∈ words ∧ pattern <:+: word := by
  induction words with
  | nil => simp [hne]
  | cons word words ih =>
      cases words with
      | nil => simp
      | cons next words =>
          rw [List.intercalate_cons_cons, List.append_assoc, List.singleton_append,
            infix_append_sep hsep, ih]
          simp only [List.exists_mem_cons_iff]

/-- Cutting a text at the separators hides nothing from the search. -/
theorem infix_splitOn_iff [DecidableEq α] (hsep : sep ∉ pattern) (hne : pattern ≠ [])
    (text : List α) :
    (exists word, word ∈ text.splitOn sep ∧ pattern <:+: word) <-> pattern <:+: text := by
  rw [← infix_intercalate_iff hsep hne, List.intercalate_splitOn]

/-- A word that a text is cut into has no separators and nothing of its own. -/
theorem of_mem_splitOn [DecidableEq α] {word text : List α} (h : word ∈ text.splitOn sep) :
    sep ∉ word ∧ word ⊆ text := by
  induction text generalizing word with
  | nil =>
      cases List.mem_singleton.mp h
      exact ⟨List.not_mem_nil, List.Subset.refl _⟩
  | cons c text ih =>
      rw [List.splitOn_cons_eq_if_modifyHead] at h
      split at h
      next =>
        rcases List.mem_cons.mp h with rfl | hrest
        · exact ⟨List.not_mem_nil, List.nil_subset _⟩
        · have hword := ih hrest
          exact ⟨hword.left, List.subset_cons_of_subset c hword.right⟩
      next hc =>
        cases hsplit : text.splitOn sep with
        | nil => exact absurd hsplit (List.splitOn_ne_nil sep text)
        | cons first rest =>
            rw [hsplit] at h ih
            rcases List.mem_cons.mp h with rfl | hrest
            · have hfirst := ih List.mem_cons_self
              have hsep : sep ≠ c := fun heq => hc (by simp [heq])
              exact ⟨List.not_mem_cons_of_ne_of_not_mem hsep hfirst.left,
                List.cons_subset_cons c hfirst.right⟩
            · have hword := ih (List.mem_cons_of_mem _ hrest)
              exact ⟨hword.left, List.subset_cons_of_subset c hword.right⟩

end WordSearch
end EsdcFactory
