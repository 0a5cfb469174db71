import Mathlib.Data.List.Basic

/-!
# Words

A text is cut into words at its blanks, as awk cuts a line into fields and a shell
an expansion.  What counts as a blank is a parameter.
-/

namespace EsdcFactory
namespace Words

variable (blank : Char -> Bool)

/-- Put a character in front of the first word, or start a word of its own. -/
def extend (c : Char) : List (List Char) -> List (List Char)
  | [] => [[c]]
  | word :: rest => (c :: word) :: rest

/-- The words of a text; none of them is empty. -/
def words : List Char -> List (List Char)
  | [] => []
  | c :: text =>
      if blank c then words text
      else if text.head?.all blank then [c] :: words text
      else extend c (words text)

/-- A text that is one word. -/
structure IsWord (word : List Char) : Prop where
  ne_nil : word ≠ []
  noBlank : forall c, c ∈ word -> blank c = false

variable {blank}

theorem IsWord.not_mem {word : List Char} (h : IsWord blank word) {c : Char}
    (hc : blank c = true) : c ∉ word := by
  intro hmem
  rw [h.noBlank c hmem] at hc
  cases hc

theorem words_blank {c : Char} (h : blank c = true) (text : List Char) :
    words blank (c :: text) = words blank text := by
  rw [words, if_pos h]

theorem words_blanks {blanks : List Char} (h : forall c, c ∈ blanks -> blank c = true)
    (text : List Char) : words blank (blanks ++ text) = words blank text := by
  induction blanks with
  | nil => rfl
  | cons c blanks ih =>
      rw [List.cons_append, words_blank (h c List.mem_cons_self)]
      exact ih fun d hd => h d (List.mem_cons_of_mem c hd)

theorem words_word_blank {word : List Char} (hword : IsWord blank word) {c : Char}
    (hc : blank c = true) (text : List Char) :
    words blank (word ++ c :: text) = word :: words blank text := by
  rcases hword with ⟨hne, hnone⟩
  induction word with
  | nil => exact absurd rfl hne
  | cons a word ih =>
      have ha : blank a = false := hnone a List.mem_cons_self
      have hrest : forall d, d ∈ word -> blank d = false :=
        fun d hd => hnone d (List.mem_cons_of_mem a hd)
      cases word with
      | nil =>
          simp [words, ha, hc]
      | cons b word =>
          have hb : blank b = false := hrest b List.mem_cons_self
          have ih := ih (List.cons_ne_nil b word) hrest
          rw [List.cons_append] at ih ⊢
          rw [List.cons_append, words]
          simp only [ha, Bool.false_eq_true, if_false, List.head?_cons, Option.all_some, hb]
          rw [ih, extend]

theorem words_word {word : List Char} (hword : IsWord blank word) :
    words blank word = [word] := by
  rcases hword with ⟨hne, hnone⟩
  induction word with
  | nil => exact absurd rfl hne
  | cons a word ih =>
      have ha : blank a = false := hnone a List.mem_cons_self
      have hrest : forall d, d ∈ word -> blank d = false :=
        fun d hd => hnone d (List.mem_cons_of_mem a hd)
      cases word with
      | nil =>
          simp [words, ha]
      | cons b word =>
          have hb : blank b = false := hrest b List.mem_cons_self
          rw [words]
          simp only [ha, Bool.false_eq_true, if_false, List.head?_cons, Option.all_some, hb]
          rw [ih (List.cons_ne_nil b word) hrest, extend]

/-- Words that are each followed by a blank are read back one by one. -/
theorem words_flatMap {rows : List (List Char × Char)}
    (h : forall row, row ∈ rows -> IsWord blank row.1 ∧ blank row.2 = true)
    (text : List Char) :
    words blank (rows.flatMap (fun row => row.1 ++ [row.2]) ++ text) =
      rows.map Prod.fst ++ words blank text := by
  induction rows with
  | nil => rfl
  | cons row rows ih =>
      rcases h row List.mem_cons_self with ⟨hword, hblank⟩
      have ih := ih fun other hother => h other (List.mem_cons_of_mem row hother)
      rw [List.flatMap_cons, List.append_assoc, List.append_assoc, List.singleton_append,
        words_word_blank hword hblank, ih]
      rfl

end Words
end EsdcFactory
