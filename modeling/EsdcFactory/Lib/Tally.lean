import Mathlib.Algebra.BigOperators.Group.List.Basic
import Mathlib.Data.List.Nodup

/-!
# Tallies

A tally adds up amounts under keys.  A key is listed once it has come up, also when
its amounts come to nothing.
-/

namespace EsdcFactory

structure Tally (key amount : Type) where
  entries : List (key × amount)
  nodup : (entries.map Prod.fst).Nodup

namespace Tally

variable {key amount : Type} [DecidableEq key]

section Entries

variable [Add amount]

def addTo (k : key) (n : amount) : List (key × amount) -> List (key × amount)
  | [] => [(k, n)]
  | entry :: rest =>
      if entry.1 = k then (k, entry.2 + n) :: rest else entry :: addTo k n rest

theorem keys_addTo (k : key) (n : amount) (entries : List (key × amount)) :
    (addTo k n entries).map Prod.fst =
      if k ∈ entries.map Prod.fst then entries.map Prod.fst
      else entries.map Prod.fst ++ [k] := by
  induction entries with
  | nil => rfl
  | cons entry rest ih =>
      rw [addTo]
      by_cases h : entry.1 = k
      · simp [h]
      · have hne : k ≠ entry.1 := fun heq => h heq.symm
        rw [if_neg h, List.map_cons, ih, List.map_cons]
        simp only [List.mem_cons, hne, false_or]
        split
        · rfl
        · rfl

theorem nodup_addTo (k : key) (n : amount) {entries : List (key × amount)}
    (h : (entries.map Prod.fst).Nodup) : ((addTo k n entries).map Prod.fst).Nodup := by
  rw [keys_addTo]
  split
  · exact h
  · next hnot =>
      apply List.Nodup.append h (List.nodup_singleton k)
      intro k' hk' hsingle
      exact hnot (List.mem_singleton.mp hsingle ▸ hk')

end Entries

def empty : Tally key amount := ⟨[], List.nodup_nil⟩

def keys (t : Tally key amount) : List key := t.entries.map Prod.fst

def add [Add amount] (k : key) (n : amount) (t : Tally key amount) : Tally key amount :=
  ⟨addTo k n t.entries, nodup_addTo k n t.nodup⟩

/-- What has come together under a key. -/
def value [Zero amount] (k : key) (t : Tally key amount) : amount :=
  ((t.entries.find? fun entry => entry.1 = k).map Prod.snd).getD 0

omit [DecidableEq key] in
@[simp] theorem keys_empty : (empty : Tally key amount).keys = [] := rfl

@[simp] theorem value_empty [Zero amount] (k : key) :
    (empty : Tally key amount).value k = 0 := rfl

@[simp] theorem mem_keys_add [Add amount] {k k' : key} {n : amount}
    {t : Tally key amount} : k' ∈ (t.add k n).keys <-> k' ∈ t.keys ∨ k' = k := by
  have hkeys : (t.add k n).keys = if k ∈ t.keys then t.keys else t.keys ++ [k] :=
    keys_addTo k n t.entries
  rw [hkeys]
  split
  · next hmem =>
      constructor
      · exact Or.inl
      · intro h
        rcases h with h | rfl
        · exact h
        · exact hmem
  · simp

variable [AddCommMonoid amount]

theorem find?_addTo (k k' : key) (n : amount) (entries : List (key × amount)) :
    (((addTo k n entries).find? fun entry => entry.1 = k').map Prod.snd).getD 0 =
      ((entries.find? fun entry => entry.1 = k').map Prod.snd).getD 0 +
        if k = k' then n else 0 := by
  induction entries with
  | nil =>
      by_cases h : k = k'
      · simp [addTo, h]
      · simp [addTo, h]
  | cons entry rest ih =>
      rw [addTo]
      by_cases hentry : entry.1 = k
      · rw [if_pos hentry]
        by_cases h : k = k'
        · simp [hentry, h]
        · simp [hentry, h]
      · rw [if_neg hentry]
        by_cases h : entry.1 = k'
        · have hne : k ≠ k' := fun heq => hentry (h.trans heq.symm)
          simp [h, hne]
        · simpa [List.find?_cons, h] using ih

@[simp] theorem value_add (k k' : key) (n : amount) (t : Tally key amount) :
    (t.add k n).value k' = t.value k' + if k = k' then n else 0 :=
  find?_addTo k k' n t.entries

/-!
## What a tally holds
-/

/-- The tally of a list of items that each come under a key with an amount. -/
structure Holds {item : Type} (t : Tally key amount) (keyOf : item -> key)
    (amountOf : item -> amount) (items : List item) : Prop where
  keys : forall k, k ∈ t.keys <-> exists x, x ∈ items ∧ keyOf x = k
  value : forall k, t.value k = ((items.filter fun x => keyOf x = k).map amountOf).sum

variable {item : Type} {keyOf : item -> key} {amountOf : item -> amount}

theorem holds_empty : Holds (empty : Tally key amount) keyOf amountOf [] where
  keys := by
    intro k
    simp
  value := by
    intro k
    rfl

theorem Holds.add {t : Tally key amount} {items : List item}
    (h : t.Holds keyOf amountOf items) (x : item) :
    (t.add (keyOf x) (amountOf x)).Holds keyOf amountOf (items ++ [x]) where
  keys := by
    intro k
    rw [mem_keys_add, h.keys]
    constructor
    · intro hk
      rcases hk with ⟨y, hy, rfl⟩ | rfl
      · exact ⟨y, List.mem_append_left _ hy, rfl⟩
      · exact ⟨x, by simp, rfl⟩
    · intro hk
      rcases hk with ⟨y, hy, rfl⟩
      rcases List.mem_append.mp hy with hold | hnew
      · exact Or.inl ⟨y, hold, rfl⟩
      · rw [List.mem_singleton.mp hnew]
        exact Or.inr rfl
  value := by
    intro k
    rw [value_add, h.value, List.filter_append, List.map_append, List.sum_append]
    by_cases hk : keyOf x = k
    · simp [hk]
    · simp [hk]

end Tally
end EsdcFactory
