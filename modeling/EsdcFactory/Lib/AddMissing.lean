import Mathlib.Data.List.Infix

/-!
# Adding what is missing

A list is brought up to date with some entries: an entry is put at the end unless a
search finds it.  The search is any relation between an entry and what is in the
list, so it may miss an entry that is there or find another one in its place.
-/

namespace EsdcFactory
namespace AddMissing

variable {α : Type} (finds : α -> α -> Bool)

/-- The entries go one by one to the end of the list, unless the search finds them. -/
def addMissing (kept : List α) : List α -> List α
  | [] => kept
  | entry :: entries =>
      if kept.any (finds entry) then addMissing kept entries
      else addMissing (kept ++ [entry]) entries

/-- Where an entry comes up first and is not in the list, the search finds nothing. -/
def FirstUnfound (kept entries : List α) : Prop :=
  forall before entry after, entries = before ++ entry :: after -> entry ∉ kept ->
    entry ∉ before -> forall line, line ∈ kept ++ before -> finds entry line = false

@[simp] theorem addMissing_nil (kept : List α) : addMissing finds kept [] = kept := rfl

variable {finds}

theorem addMissing_append (kept entries more : List α) :
    addMissing finds kept (entries ++ more) =
      addMissing finds (addMissing finds kept entries) more := by
  induction entries generalizing kept with
  | nil => rfl
  | cons entry entries ih =>
      rw [List.cons_append, addMissing, addMissing]
      split
      · exact ih kept
      · exact ih (kept ++ [entry])

theorem addMissing_concat (kept entries : List α) (entry : α) :
    addMissing finds kept (entries ++ [entry]) =
      if (addMissing finds kept entries).any (finds entry) then addMissing finds kept entries
      else addMissing finds kept entries ++ [entry] := by
  rw [addMissing_append, addMissing, addMissing_nil, addMissing_nil]

theorem prefix_addMissing (kept entries : List α) : kept <+: addMissing finds kept entries := by
  induction entries using List.reverseRecOn with
  | nil => exact List.prefix_refl kept
  | append_singleton entries entry ih =>
      rw [addMissing_concat]
      split
      · exact ih
      · exact ih.trans (List.prefix_append _ _)

theorem mem_kept_or_entries {kept entries : List α} {line : α}
    (h : line ∈ addMissing finds kept entries) : line ∈ kept ∨ line ∈ entries := by
  induction entries using List.reverseRecOn with
  | nil => exact Or.inl h
  | append_singleton entries entry ih =>
      rw [addMissing_concat] at h
      rw [List.mem_append]
      split at h
      · exact (ih h).imp_right Or.inl
      · rcases List.mem_append.mp h with hold | hnew
        · exact (ih hold).imp_right Or.inl
        · exact Or.inr (Or.inr hnew)

/-- An entry that is not added was found in its place. -/
theorem mem_or_found {kept entries : List α} {entry : α} (h : entry ∈ entries) :
    entry ∈ addMissing finds kept entries ∨
      (addMissing finds kept entries).any (finds entry) = true := by
  induction entries using List.reverseRecOn with
  | nil => cases h
  | append_singleton entries last ih =>
      rw [addMissing_concat]
      rcases List.mem_append.mp h with hold | hlast
      · split
        · exact ih hold
        · rcases ih hold with hmem | hfound
          · exact Or.inl (List.mem_append_left _ hmem)
          · apply Or.inr
            rw [List.any_append, hfound, Bool.true_or]
      · have heq : entry = last := List.mem_singleton.mp hlast
        subst heq
        split
        · next hfound => exact Or.inr hfound
        · exact Or.inl List.mem_concat_self

theorem addMissing_eq_self {kept entries : List α}
    (h : forall entry, entry ∈ entries -> kept.any (finds entry) = true) :
    addMissing finds kept entries = kept := by
  induction entries with
  | nil => rfl
  | cons entry entries ih =>
      rw [addMissing, if_pos (h entry List.mem_cons_self)]
      exact ih fun other hother => h other (List.mem_cons_of_mem _ hother)

theorem FirstUnfound.of_append {kept entries more : List α}
    (h : FirstUnfound finds kept (entries ++ more)) : FirstUnfound finds kept entries := by
  intro before entry after heq hkept hbefore
  refine h before entry (after ++ more) ?_ hkept hbefore
  rw [heq, List.append_assoc, List.cons_append]

theorem firstUnfound_concat {kept entries : List α} {entry : α} :
    FirstUnfound finds kept (entries ++ [entry]) <->
      FirstUnfound finds kept entries ∧
        (entry ∉ kept -> entry ∉ entries ->
          forall line, line ∈ kept ++ entries -> finds entry line = false) := by
  constructor
  · intro h
    exact ⟨h.of_append, h entries entry [] rfl⟩
  · intro h before first after heq hkept hbefore
    rcases h with ⟨hentries, hlast⟩
    rcases List.eq_nil_or_concat after with rfl | ⟨after, last, rfl⟩
    · rcases List.append_inj' heq rfl with ⟨rfl, hfirst⟩
      cases hfirst
      exact hlast hkept hbefore
    · have hsplit : entries ++ [entry] = (before ++ first :: after) ++ [last] := by
        rw [heq, List.append_assoc, List.cons_append, List.concat_eq_append]
      exact hentries before first after (List.append_inj' hsplit rfl).left hkept hbefore

/-- All entries are in the list at the end exactly when none is found before it came up. -/
theorem entries_subset_iff (kept entries : List α) :
    entries ⊆ addMissing finds kept entries <-> FirstUnfound finds kept entries := by
  induction entries using List.reverseRecOn with
  | nil =>
      constructor
      · intro _ before entry after heq
        exact absurd heq.symm (by simp)
      · intro _
        exact List.nil_subset _
  | append_singleton entries entry ih =>
      rw [firstUnfound_concat, ← ih, addMissing_concat, List.append_subset,
        List.cons_subset]
      generalize hlist : addMissing finds kept entries = list
      have hkept : kept ⊆ list := hlist ▸ (prefix_addMissing kept entries).subset
      have hlines : forall line, line ∈ list -> line ∈ kept ∨ line ∈ entries := by
        intro line hline
        rw [← hlist] at hline
        exact mem_kept_or_entries hline
      by_cases hfound : list.any (finds entry) = true
      · rw [if_pos hfound]
        constructor
        · intro h
          rcases h with ⟨hall, hentry, _⟩
          refine ⟨hall, fun hnot hnew => ?_⟩
          exact absurd (hlines entry hentry) (by simp [hnot, hnew])
        · intro h
          rcases h with ⟨hall, hnone⟩
          refine ⟨hall, ?_, List.nil_subset _⟩
          by_contra hnot
          rcases List.any_eq_true.mp hfound with ⟨line, hline, hfinds⟩
          have hunfound := hnone (fun hmem => hnot (hkept hmem)) (fun hmem => hnot (hall hmem))
            line (List.mem_append.mpr (hlines line hline))
          rw [hunfound] at hfinds
          cases hfinds
      · rw [if_neg hfound]
        have hsubset : entries ⊆ list ++ [entry] -> entries ⊆ list := by
          intro h other hother
          rcases List.mem_append.mp (h hother) with hmem | hlast
          · exact hmem
          · have heq : other = entry := List.mem_singleton.mp hlast
            subst heq
            have hmem := @mem_or_found _ finds kept _ _ hother
            rw [hlist] at hmem
            exact hmem.resolve_right hfound
        constructor
        · intro h
          have hall := hsubset h.left
          refine ⟨hall, fun _ _ line hline => ?_⟩
          have hmem : line ∈ list := (List.mem_append.mp hline).elim (@hkept line) (@hall line)
          rw [← Bool.not_eq_true]
          intro hfinds
          exact hfound (List.any_eq_true.mpr ⟨line, hmem, hfinds⟩)
        · intro h
          exact ⟨fun line hline => List.mem_append_left _ (h.left hline),
            List.mem_concat_self, List.nil_subset _⟩

end AddMissing
end EsdcFactory
