import EsdcFactory.Installer.Answers
import EsdcFactory.Lib.Ere

/-!
# The order of the answers

`add_to_answers` keeps the order in which keys were added in a text, and looks for a key
in it with `grep`.  No key is taken for a part of another one, so that each key is listed
once, where it was added first.
-/

namespace EsdcFactory
namespace Installer

/-!
## Keys and calls
-/

/-- A key of letters, digits and underscores, other than the one of the order. -/
structure WordKey where
  text : List Char
  isWord : text.all (fun c => c.isAlphanum || c = '_') = true
  ne_nil : text ≠ []
  ne_listOrder : text ≠ listOrder

theorem WordKey.ext_text {j k : WordKey} (h : j.text = k.text) : j = k := by
  cases j
  cases k
  cases h
  rfl

instance : DecidableEq WordKey := fun j k =>
  decidable_of_iff (j.text = k.text) ⟨WordKey.ext_text, congrArg WordKey.text⟩

/-- A call of `add_to_answers` with any texts. -/
structure Addition where
  key : WordKey
  val : List Char
  default : List Char

def Addition.stored (call : Addition) : List Char :=
  if call.val = [] then call.default else call.val

/-- The array after the calls. -/
def additions (calls : List Addition) : AnswersOut :=
  calls.foldl (fun answersOut call =>
    addToAnswers call.key.text call.val call.default answersOut) fun _ => []

/-- The keys in the order in which they were added first. -/
def firstKeys (calls : List Addition) : List WordKey :=
  (calls.map Addition.key).eraseDups

def lastAdded (key : WordKey) (calls : List Addition) : Option (List Char) :=
  (calls.reverse.find? fun call => call.key = key).map Addition.stored

/-- The array has the keys in order, and the last value of each. -/
structure KeepsBooks (calls : List Addition) (answersOut : AnswersOut) : Prop where
  order : answersOut listOrder = (firstKeys calls).flatMap fun key => key.text ++ [',']
  once : (firstKeys calls).Nodup
  last : forall key, answersOut key.text = (lastAdded key calls).getD []

/-!
## The search for a key
-/

theorem WordKey.isWordChar (key : WordKey) {c : Char} (hc : c ∈ key.text) :
    (c.isAlphanum || c = '_') = true :=
  List.all_eq_true.mp key.isWord c hc

theorem WordKey.notMem (key : WordKey) {c : Char} (h : (c.isAlphanum || c = '_') = false) :
    c ∉ key.text := by
  intro hc
  rw [key.isWordChar hc] at h
  cases h

theorem followsComma_iff (key order : List Char) :
    followsComma key order = true <-> ',' :: (key ++ [',']) <:+: order := by
  induction order with
  | nil => simp [followsComma]
  | cons c order ih =>
      rw [followsComma, Bool.or_eq_true, Bool.and_eq_true, decide_eq_true_eq,
        List.isPrefixOf_iff_prefix, ih, List.infix_cons_iff, List.cons_prefix_cons, eq_comm]

theorem WordKey.plain (key : WordKey) : Ere.Plain (key.text ++ [',']) := by
  intro c hc
  rcases List.mem_append.mp hc with hkey | hcomma
  · have hmarks : forall c, Ere.isSpecial c = true -> (c.isAlphanum || c = '_') = false := by
      simp only [Ere.isSpecial, decide_eq_true_eq]
      decide
    by_contra hspecial
    exact key.notMem (hmarks c (by simpa using hspecial)) hkey
  · rw [List.mem_singleton.mp hcomma]
    rfl

/-- The search is the one that `grep` makes with the expression of the script. -/
theorem isListed_eq_isMatch (key : WordKey) (order : String) :
    Ere.isMatch order ("(^|,)" ++ String.ofList key.text ++ ",") =
      isListed key.text order.toList := by
  rw [Bool.eq_iff_iff, Ere.isMatch_behind (c := ',') (by simp) rfl key.plain, isListed,
    Bool.or_eq_true, List.isPrefixOf_iff_prefix, followsComma_iff]

/-!
## Runs of calls
-/

theorem firstKeys_concat (calls : List Addition) (call : Addition) :
    firstKeys (calls ++ [call]) =
      if call.key ∈ firstKeys calls then firstKeys calls else firstKeys calls ++ [call.key] := by
  have hmem : call.key ∈ firstKeys calls <-> call.key ∈ calls.map Addition.key :=
    List.mem_eraseDups
  rw [firstKeys, List.map_append, List.eraseDups_append, ← firstKeys, List.map_singleton]
  by_cases hkey : call.key ∈ calls.map Addition.key
  · rw [if_pos (hmem.mpr hkey), List.removeAll, List.filter_cons_of_neg (by simpa using hkey)]
    simp
  · rw [if_neg fun h => hkey (hmem.mp h), List.removeAll,
      List.filter_cons_of_pos (by simpa using hkey)]
    simp [List.eraseDups_cons]

theorem lastAdded_concat (key : WordKey) (calls : List Addition) (call : Addition) :
    lastAdded key (calls ++ [call]) =
      if call.key = key then some call.stored else lastAdded key calls := by
  rw [lastAdded, List.reverse_append]
  by_cases hkey : call.key = key
  · simp [hkey]
  · simp [hkey, lastAdded]

theorem additions_concat (calls : List Addition) (call : Addition) :
    additions (calls ++ [call]) =
      addToAnswers call.key.text call.val call.default (additions calls) := by
  simp [additions]

theorem isListed_keys (key : WordKey) (keys : List WordKey) :
    isListed key.text (keys.flatMap fun key => key.text ++ [',']) = decide (key ∈ keys) := by
  have htexts : (keys.flatMap fun key => key.text ++ [',']) =
      (keys.map WordKey.text).flatMap fun k => k ++ [','] := by
    rw [List.flatMap_map]
  rw [htexts, isListed_flatMap (key.notMem rfl), decide_eq_decide, List.mem_map]
  · constructor
    · intro h
      rcases h with ⟨k, hk, heq⟩
      exact WordKey.ext_text heq ▸ hk
    · exact fun h => ⟨key, h, rfl⟩
  · intro text htext
    rcases List.mem_map.mp htext with ⟨k, _, rfl⟩
    exact k.notMem rfl

theorem KeepsBooks.concat {calls : List Addition} {answersOut : AnswersOut}
    (h : KeepsBooks calls answersOut) (call : Addition) :
    KeepsBooks (calls ++ [call])
      (addToAnswers call.key.text call.val call.default answersOut) := by
  constructor
  · rw [addToAnswers_listOrder _ _ _ call.key.ne_nil call.key.ne_listOrder, h.order,
      isListed_keys, firstKeys_concat]
    simp only [decide_eq_true_eq]
    split
    · rfl
    · simp
  · rw [firstKeys_concat]
    split
    · exact h.once
    next hnew =>
      rw [← List.concat_eq_append]
      exact h.once.concat hnew
  · intro key
    rw [addToAnswers_of_ne _ _ _ call.key.ne_nil key.ne_listOrder, lastAdded_concat, h.last]
    by_cases hkey : call.key = key
    · rw [if_pos (congrArg WordKey.text hkey.symm), if_pos hkey]
      rfl
    · rw [if_neg fun heq => hkey (WordKey.ext_text heq.symm), if_neg hkey]

/-- The books are kept by any calls, and a call leaves the values of other keys alone. -/
theorem additions_keepBooks (calls : List Addition) :
    KeepsBooks calls (additions calls) ∧
      forall call name, name ≠ call.key.text -> name ≠ listOrder ->
        additions (calls ++ [call]) name = additions calls name := by
  constructor
  · induction calls using List.reverseRecOn with
    | nil => exact ⟨rfl, List.nodup_nil, fun _ => rfl⟩
    | append_singleton calls call ih =>
        rw [additions_concat]
        exact ih.concat call
  · intro call name hname horder
    rw [additions_concat, addToAnswers_of_ne _ _ _ call.key.ne_nil horder, if_neg hname]

/-- The file of answers is written in the order in which keys were added first. -/
theorem orderedKeys_additions (calls : List Addition) :
    orderedKeys (additions calls) = (firstKeys calls).map WordKey.text := by
  have hbooks := (additions_keepBooks calls).left
  apply orderedKeys_eq
  · rw [hbooks.order, List.flatMap_map]
  · intro text htext
    rcases List.mem_map.mp htext with ⟨key, _, rfl⟩
    exact ⟨key.ne_nil, key.notMem rfl, key.notMem rfl⟩

end Installer
end EsdcFactory
