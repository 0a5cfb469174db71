import Mathlib.Logic.Function.Basic
import Mathlib.Data.List.Basic

/-!
# Commands that undo others

A store holds values under keys.  A command creates a value, deletes one, or sets one to
another, each at one key.  Commands that delete what others created, and set back what
others set, lead back to the store before.
-/

namespace EsdcFactory
namespace Undo

universe u v

/-- The values that are there. -/
abbrev Store (κ : Type u) (ν : Type v) := κ -> Option ν

/-- What a command does at its key. -/
inductive Op (κ : Type u) (ν : Type v) where
  | create (key : κ) (value : ν)
  | delete (key : κ)
  | set (key : κ) (value : ν)

variable {κ : Type u} {ν : Type v} [DecidableEq κ]

namespace Op

def key : Op κ ν -> κ
  | create key _ => key
  | delete key => key
  | set key _ => key

/-- The value that is left at the key. -/
def value : Op κ ν -> Option ν
  | create _ value => some value
  | delete _ => none
  | set _ value => some value

/-- Only what is not there is created, and only what is there is deleted or set. -/
def applies (st : Store κ ν) : Op κ ν -> Bool
  | create key _ => (st key).isNone
  | delete key => (st key).isSome
  | set key _ => (st key).isSome

def apply (st : Store κ ν) (op : Op κ ν) : Store κ ν :=
  Function.update st op.key op.value

theorem apply_key (st : Store κ ν) (op : Op κ ν) : op.apply st op.key = op.value := by
  simp [apply]

theorem apply_of_ne {st : Store κ ν} {op : Op κ ν} {key : κ} (h : key ≠ op.key) :
    op.apply st key = st key := by
  simp [apply, h]

end Op

/-- All commands of a list apply, one after the other. -/
def AllApply : List (Op κ ν) -> Store κ ν -> Prop
  | [], _ => True
  | op :: rest, st => op.applies st = true ∧ AllApply rest (op.apply st)

def run (ops : List (Op κ ν)) (st : Store κ ν) : Store κ ν :=
  ops.foldl Op.apply st

@[simp] theorem run_nil (st : Store κ ν) : run [] st = st := rfl

@[simp] theorem run_cons (op : Op κ ν) (ops : List (Op κ ν)) (st : Store κ ν) :
    run (op :: ops) st = run ops (op.apply st) := rfl

/-- Commands leave alone what is at other keys. -/
theorem run_of_ne {ops : List (Op κ ν)} {st : Store κ ν} {key : κ}
    (h : forall op, op ∈ ops -> op.key ≠ key) : run ops st key = st key := by
  induction ops generalizing st with
  | nil => rfl
  | cons op rest ih =>
      rw [run_cons, ih fun other hother => h other (List.mem_cons_of_mem op hother)]
      exact Op.apply_of_ne (h op List.mem_cons_self).symm

/-- Commands that agree on what they leave at a key leave that. -/
theorem run_of_value {ops : List (Op κ ν)} {st : Store κ ν} {key : κ} {result : Option ν}
    (h : forall op, op ∈ ops -> op.key = key -> op.value = result)
    (hst : st key = result ∨ exists op, op ∈ ops ∧ op.key = key) :
    run ops st key = result := by
  induction ops generalizing st with
  | nil =>
      rcases hst with hst | ⟨op, hop, _⟩
      · exact hst
      · cases hop
  | cons op rest ih =>
      rw [run_cons]
      apply ih fun other hother => h other (List.mem_cons_of_mem op hother)
      by_cases hkey : op.key = key
      · apply Or.inl
        rw [← hkey, Op.apply_key]
        exact h op List.mem_cons_self hkey
      · rcases hst with hst | ⟨other, hother, hotherKey⟩
        · apply Or.inl
          rw [Op.apply_of_ne (Ne.symm hkey), hst]
        · rcases List.mem_cons.mp hother with rfl | hrest
          · exact absurd hotherKey hkey
          · exact Or.inr ⟨other, hrest, hotherKey⟩

theorem none_of_create {ops : List (Op κ ν)} {st : Store κ ν} {key : κ} {value : ν}
    (happly : AllApply ops st) (hdelete : forall key', .delete key' ∉ ops)
    (hcreate : .create key value ∈ ops) : st key = none := by
  induction ops generalizing st with
  | nil => cases hcreate
  | cons op rest ih =>
      rcases happly with ⟨hfirst, hrest⟩
      rcases List.mem_cons.mp hcreate with rfl | hmem
      · simpa [Op.applies] using hfirst
      · have hnone := ih hrest (fun key' h => hdelete key' (List.mem_cons_of_mem op h)) hmem
        by_cases hkey : op.key = key
        · rw [← hkey, Op.apply_key] at hnone
          cases op with
          | create _ _ => cases hnone
          | set _ _ => cases hnone
          | delete key' => exact absurd List.mem_cons_self (hdelete key')
        · rwa [Op.apply_of_ne (Ne.symm hkey)] at hnone

/-- How some commands undo others, from a store on. -/
structure Undoes (st : Store κ ν) (ups downs : List (Op κ ν)) : Prop where
  no_delete : forall key, .delete key ∉ ups
  no_create : forall key value, .create key value ∉ downs
  deleted : forall key value, .create key value ∈ ups -> .delete key ∈ downs
  created : forall key, .delete key ∈ downs -> exists value, .create key value ∈ ups
  set_back : forall key value, .set key value ∈ ups -> exists value', .set key value' ∈ downs
  restores : forall key value, .set key value ∈ downs -> st key = some value

/-- Commands that undo others lead back to the store before. -/
theorem run_undoes {st : Store κ ν} {ups downs : List (Op κ ν)} (h : Undoes st ups downs)
    (happly : AllApply ups st) : run downs (run ups st) = st := by
  funext key
  by_cases hcreated : exists value, .create key value ∈ ups
  · rcases hcreated with ⟨value, hcreate⟩
    have hnone := none_of_create happly h.no_delete hcreate
    rw [hnone]
    apply run_of_value
    · intro op hop hkey
      cases op with
      | create key' value' => exact absurd hop (h.no_create key' value')
      | delete _ => rfl
      | set key' value' =>
          have hsome := h.restores key' value' hop
          rw [show key' = key from hkey, hnone] at hsome
          cases hsome
    · exact Or.inr ⟨.delete key, h.deleted key value hcreate, rfl⟩
  · -- what is not created is at most set, and then set back
    have hset : forall op, op ∈ downs -> op.key = key -> op.value = st key := by
      intro op hop hkey
      cases op with
      | create key' value' => exact absurd hop (h.no_create key' value')
      | delete key' =>
          rcases h.created key' hop with ⟨value, hcreate⟩
          rw [show key' = key from hkey] at hcreate
          exact absurd ⟨value, hcreate⟩ hcreated
      | set key' value' =>
          rw [← show key' = key from hkey]
          exact (h.restores key' value' hop).symm
    apply run_of_value hset
    by_cases hdown : exists op, op ∈ downs ∧ op.key = key
    · exact Or.inr hdown
    · apply Or.inl
      apply run_of_ne
      intro op hop hkey
      cases op with
      | create key' value =>
          rw [show key' = key from hkey] at hop
          exact hcreated ⟨value, hop⟩
      | delete key' => exact h.no_delete key' hop
      | set key' value =>
          rcases h.set_back key' value hop with ⟨value', hback⟩
          exact hdown ⟨.set key' value', hback, hkey⟩

/-!
## Parts
-/

omit [DecidableEq κ] in
theorem Undoes.nil (st : Store κ ν) : Undoes st ([] : List (Op κ ν)) [] where
  no_delete := fun _ h => nomatch h
  no_create := fun _ _ h => nomatch h
  deleted := fun _ _ h => nomatch h
  created := fun _ h => nomatch h
  set_back := fun _ _ h => nomatch h
  restores := fun _ _ h => nomatch h

omit [DecidableEq κ] in
theorem Undoes.of_mem {st : Store κ ν} {ups downs ups' downs' : List (Op κ ν)}
    (h : Undoes st ups downs) (hups : forall op, op ∈ ups' <-> op ∈ ups)
    (hdowns : forall op, op ∈ downs' <-> op ∈ downs) : Undoes st ups' downs' where
  no_delete key := by
    rw [hups]
    exact h.no_delete key
  no_create key value := by
    rw [hdowns]
    exact h.no_create key value
  deleted key value := by
    rw [hups, hdowns]
    exact h.deleted key value
  created key := by
    simp only [hups, hdowns]
    exact h.created key
  set_back key value := by
    simp only [hups, hdowns]
    exact h.set_back key value
  restores key value := by
    rw [hdowns]
    exact h.restores key value

omit [DecidableEq κ] in
theorem Undoes.append {st : Store κ ν} {ups downs ups' downs' : List (Op κ ν)}
    (h : Undoes st ups downs) (h' : Undoes st ups' downs') :
    Undoes st (ups ++ ups') (downs ++ downs') where
  no_delete key hmem := by
    rcases List.mem_append.mp hmem with hmem | hmem
    · exact h.no_delete key hmem
    · exact h'.no_delete key hmem
  no_create key value hmem := by
    rcases List.mem_append.mp hmem with hmem | hmem
    · exact h.no_create key value hmem
    · exact h'.no_create key value hmem
  deleted key value hmem := by
    rcases List.mem_append.mp hmem with hmem | hmem
    · exact List.mem_append_left _ (h.deleted key value hmem)
    · exact List.mem_append_right _ (h'.deleted key value hmem)
  created key hmem := by
    rcases List.mem_append.mp hmem with hmem | hmem
    · rcases h.created key hmem with ⟨value, hcreate⟩
      exact ⟨value, List.mem_append_left _ hcreate⟩
    · rcases h'.created key hmem with ⟨value, hcreate⟩
      exact ⟨value, List.mem_append_right _ hcreate⟩
  set_back key value hmem := by
    rcases List.mem_append.mp hmem with hmem | hmem
    · rcases h.set_back key value hmem with ⟨value', hset⟩
      exact ⟨value', List.mem_append_left _ hset⟩
    · rcases h'.set_back key value hmem with ⟨value', hset⟩
      exact ⟨value', List.mem_append_right _ hset⟩
  restores key value hmem := by
    rcases List.mem_append.mp hmem with hmem | hmem
    · exact h.restores key value hmem
    · exact h'.restores key value hmem

end Undo
end EsdcFactory
