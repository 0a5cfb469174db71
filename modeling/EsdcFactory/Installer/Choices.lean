import EsdcFactory.Installer.PromptLoops
import EsdcFactory.Lib.Ere
import EsdcFactory.Lib.WordSearch

/-!
# Prompts for one of several choices

The choices are listed with commas between them.  What is entered is looked for as an
extended regular expression, with a comma in front and one behind.
-/

namespace EsdcFactory
namespace Installer

/-!
## Prompts
-/

/-- `is_in_vals` with the expressions of the shell -/
def isInValsEre (key vals : String) : Bool :=
  isInVals Ere.isMatch key vals

/-- `promptmac` -/
def promptmac (answer default extra : String) (typed : List String) : Option String :=
  let val := fileAnswer answer default
  if isInValsEre val extra || isMac val then some val
  else readUntil default (fun val => isInValsEre val extra || isMac val) typed

/-- `prompt_select`, which never ends on a bad file answer -/
def promptSelect (vals answer default : String) (typed : List String) : Option String :=
  if answer ≠ "" then
    if isInValsEre (fileAnswer answer default) vals then some (fileAnswer answer default)
    else none
  else readUntil default (fun val => hasNoQuotes val && isInValsEre val vals) typed

/-!
## Listed values
-/

def listedValues (vals : String) : List (List Char) :=
  if vals = "" then [] else vals.toList.splitOn ','

/-- A text stands between two commas of a list, or at one of its ends. -/
def BetweenCommas (key vals : List Char) : Prop :=
  ',' :: key ++ [','] <:+: ',' :: vals ++ [',']

theorem splitOn_comma (vals : List Char) :
    exists first rest, vals.splitOn ',' = first :: rest ∧
      forall key, ',' ∉ key ->
        (key = first <-> key ++ [','] <+: vals ++ [',']) ∧
        (key ∈ rest <-> ',' :: key ++ [','] <:+: vals ++ [',']) := by
  induction vals with
  | nil =>
      refine ⟨[], [], rfl, ?_⟩
      intro key hkey
      have hlong : ¬ ',' :: key ++ [','] <:+: [','] := by
        intro hinfix
        have hlength := hinfix.length_le
        simp at hlength
      refine ⟨?_, iff_of_false List.not_mem_nil hlong⟩
      cases key with
      | nil => simp
      | cons d key =>
          have hd : d ≠ ',' := fun heq => hkey (heq ▸ List.mem_cons_self)
          simp [hd]
  | cons c vals ih =>
      rcases ih with ⟨first, rest, hsplit, hvals⟩
      by_cases hc : c = ','
      · subst hc
        refine ⟨[], first :: rest, ?_, ?_⟩
        · rw [List.splitOn_cons_eq_if_modifyHead, hsplit]
          rfl
        · intro key hkey
          rcases hvals key hkey with ⟨hfirst, hrest⟩
          constructor
          · cases key with
            | nil => simp
            | cons d key =>
                have hd : d ≠ ',' := fun heq => hkey (heq ▸ List.mem_cons_self)
                simp [hd]
          · rw [List.mem_cons, hfirst, hrest, List.cons_append, List.cons_append,
              List.infix_cons_iff, List.cons_prefix_cons]
            simp
      · refine ⟨c :: first, rest, ?_, ?_⟩
        · rw [List.splitOn_cons_eq_if_modifyHead, hsplit]
          simp [hc]
        · intro key hkey
          rcases hvals key hkey with ⟨_, hrest⟩
          constructor
          · cases key with
            | nil => simp [Ne.symm hc]
            | cons d key =>
                have hkey' : ',' ∉ key := fun hmem => hkey (List.mem_cons_of_mem d hmem)
                rw [List.cons.injEq, (hvals key hkey').1, List.cons_append, List.cons_append,
                  List.cons_prefix_cons]
          · rw [hrest, List.cons_append, List.cons_append, List.infix_cons_iff,
              List.cons_prefix_cons]
            simp [Ne.symm hc]

theorem mem_splitOn_comma {key vals : List Char} (hkey : ',' ∉ key) :
    key ∈ vals.splitOn ',' <-> BetweenCommas key vals := by
  rcases splitOn_comma vals with ⟨first, rest, hsplit, hvals⟩
  rcases hvals key hkey with ⟨hfirst, hrest⟩
  rw [hsplit, List.mem_cons, hfirst, hrest, BetweenCommas, List.cons_append, List.cons_append,
    List.infix_cons_iff, List.cons_prefix_cons]
  simp

/-!
## Plain values
-/

theorem isInValsEre_plain {key : String} (vals : String) (h : Ere.Plain key.toList) :
    isInValsEre key vals = true <->
      key ≠ "" ∧ vals ≠ "" ∧ BetweenCommas key.toList vals.toList := by
  have hcomma : Ere.Plain [','] := by
    intro c hc
    cases List.mem_singleton.mp hc
    decide
  have hpattern : ("," ++ key ++ ",").toList = ',' :: key.toList ++ [','] := by simp
  have htext : ("," ++ vals ++ ",").toList = ',' :: vals.toList ++ [','] := by simp
  have hplain : Ere.Plain ("," ++ key ++ ",").toList := by
    rw [hpattern]
    exact (hcomma.append h).append hcomma
  have hmatch := Ere.isMatch_plain ("," ++ vals ++ ",") hplain (by simp)
  rw [hpattern, htext] at hmatch
  simp only [isInValsEre, isInVals, Bool.and_eq_true, decide_eq_true_eq, hmatch, and_assoc]
  rfl

/-- A value that is looked for as it is, and does not reach over a comma of the list. -/
structure Faithful (vals key : String) : Prop where
  plain : Ere.Plain key.toList
  commas : ',' ∈ key.toList -> ¬ BetweenCommas key.toList vals.toList

theorem Faithful.listed {vals key : String} (h : Faithful vals key)
    (hin : isInValsEre key vals = true) : key.toList ∈ listedValues vals := by
  rcases (isInValsEre_plain vals h.plain).mp hin with ⟨_, hvals, hbetween⟩
  have hkey : ',' ∉ key.toList := fun hmem => h.commas hmem hbetween
  rw [listedValues, if_neg hvals]
  exact (mem_splitOn_comma hkey).mpr hbetween

end Installer
end EsdcFactory
