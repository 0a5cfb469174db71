import EsdcFactory.Lib.Json
import EsdcFactory.Lib.Printf
import Mathlib.Data.List.DropRight
import Mathlib.Data.List.Nodup
import Mathlib.Logic.Function.Basic

/-!
# The answers of an installation

The installer records the answers it got and writes them to a file that can
answer the next installation.  The file is put together with `printf`, whose
format holds the values, and it is read with the `json` tool.
-/

namespace EsdcFactory
namespace Installer

open Escapes Printf

/-!
## Recording answers
-/

/-- The array `answers_out`, in which an entry that is not set expands to nothing. -/
abbrev AnswersOut := List Char -> List Char

/-- The entry under which the order of the keys is kept, in the same array. -/
def listOrder : List Char := "list_order".toList

/-- `(^|,)key,` behind the start of a line -/
def followsComma (key : List Char) : List Char -> Bool
  | [] => false
  | c :: rest => c = ',' && (key ++ [',']).isPrefixOf rest || followsComma key rest

/-- `grep -qE "(^|,)${anskey},"` -/
def isListed (key order : List Char) : Bool :=
  (key ++ [',']).isPrefixOf order || followsComma key order

/-- `add_to_answers` -/
def addToAnswers (anskey ansval ansdefault : List Char) (answersOut : AnswersOut) :
    AnswersOut :=
  if anskey = [] then answersOut
  else
    let ansval := if ansval = [] then ansdefault else ansval
    let answersOut := Function.update answersOut anskey ansval
    if isListed anskey (answersOut listOrder) then answersOut
    else Function.update answersOut listOrder (answersOut listOrder ++ anskey ++ [','])

/-!
## Writing the file
-/

/-- `sed -e 's/,$//' -e 's/,/ /g'` -/
def commasToSpaces (order : List Char) : List Char :=
  (if order.getLast? = some ',' then order.dropLast else order).map
    (fun c => if c = ',' then ' ' else c)

/-- The keys in the order of `list_order`. -/
def orderedKeys (answersOut : AnswersOut) : List (List Char) :=
  ((commasToSpaces (answersOut listOrder)).splitOn ' ').filter (· ≠ [])

/-- `"${comma}\n  \"${i}\": \"${answers_out["${i}"]}\""` -/
def entryFormat (comma key val : List Char) : List Char :=
  comma ++ '\\' :: 'n' :: ' ' :: ' ' :: '"' ::
    (key ++ '"' :: ':' :: ' ' :: '"' :: (val ++ ['"']))

/-- The loop over the keys. -/
def writeEntries (locale : ShellLocale) (answersOut : AnswersOut) :
    List Char -> List (List Char) -> List Char
  | _, [] => []
  | comma, key :: keys =>
      printf locale (entryFormat comma key (answersOut key)) ++
        writeEntries locale answersOut [','] keys

/-- `write_answers_json` -/
def writeAnswersJson (locale : ShellLocale) (answersOut : AnswersOut) : List Char :=
  printf locale ['{'] ++ writeEntries locale answersOut [] (orderedKeys answersOut) ++
    printf locale ['\\', 'n', '}', '\\', 'n']

/-!
## Reading an answer
-/

/-- `$(...)`, which drops null bytes and the line ends at the end -/
def substituted (text : List Char) : List Char :=
  (text.filter (· ≠ '\x00')).rdropWhile (· = '\n')

/-- A word that `echo` takes for options. -/
def isEchoOption (word : List Char) : Bool :=
  match word with
  | '-' :: c :: rest => (c :: rest).all "neE".toList.contains
  | _ => false

/-- `echo` of one word -/
def echo (word : List Char) : List Char :=
  if isEchoOption word then (if word.contains 'n' then [] else ['\n'])
  else word ++ ['\n']

/-- `<<undefined>>` -/
def undefinedAnswer : List Char := "<<undefined>>".toList

/-- The last of several members with one name counts. -/
def lookupLast (key : List Char) (members : List (List Char × Json)) : Option Json :=
  members.reverse.lookup key

/-- `json -e "if (this['${key}'] === undefined) …" "${key}"`, on a file that is an object -/
def jsonTool (shown : Json -> List Char) (key file : List Char) : Option (List Char) :=
  match Json.read file with
  | some (.obj members) =>
      match lookupLast key members with
      | none => some (undefinedAnswer ++ ['\n'])
      | some (.str text) => some (text ++ ['\n'])
      | some value => some (shown value ++ ['\n'])
  | _ => none

/-- `getanswer`, given how the `json` tool prints what is not a string. -/
def getanswer (shown : Json -> List Char) (answerFile : Option (List Char))
    (key : List Char) : Option (List Char) :=
  match answerFile with
  | none => none
  | some file =>
      match jsonTool shown key file with
      | none => none
      | some printed =>
          let answer := substituted printed
          if answer = undefinedAnswer then none else some (substituted (echo answer))

/-!
## Calls
-/

/-- A key of the installer: a word other than the one that the order is kept under. -/
structure AnswerKey where
  text : List Char
  isWord : text.all (fun c => c.isLower || c.isDigit || c = '_') = true
  ne_nil : text ≠ []
  ne_listOrder : text ≠ listOrder
deriving DecidableEq

/-- A value of a prompt: a text on one line. -/
structure Line where
  text : List Char
  oneLine : '\n' ∉ text
  noNul : '\x00' ∉ text

/-- A call of `add_to_answers`. -/
structure AnswerCall where
  key : AnswerKey
  val : Line
  default : Line

def AnswerCall.stored (call : AnswerCall) : Line :=
  if call.val.text = [] then call.default else call.val

/-- The array after the calls. -/
def recorded (calls : List AnswerCall) : AnswersOut :=
  calls.foldl
    (fun answersOut call =>
      addToAnswers call.key.text call.val.text call.default.text answersOut)
    (fun _ => [])

def lastStored (key : AnswerKey) (calls : List AnswerCall) : Option Line :=
  (calls.reverse.find? (fun call => call.key = key)).map AnswerCall.stored

def addedKeys (calls : List AnswerCall) : List AnswerKey :=
  calls.foldl (fun keys call => if call.key ∈ keys then keys else keys ++ [call.key]) []

/-!
## What the array holds
-/

theorem AnswerKey.comma_notMem (key : AnswerKey) : ',' ∉ key.text := by
  intro hmem
  have hall := List.all_eq_true.mp key.isWord ',' hmem
  revert hall
  decide

theorem AnswerKey.blank_notMem (key : AnswerKey) : ' ' ∉ key.text := by
  intro hmem
  have hall := List.all_eq_true.mp key.isWord ' ' hmem
  revert hall
  decide

theorem AnswerKey.ext_text {j k : AnswerKey} (h : j.text = k.text) : j = k := by
  cases j
  cases k
  cases h
  rfl

/-- The text of `list_order` for some keys. -/
def orderText (keys : List AnswerKey) : List Char :=
  keys.flatMap (fun key => key.text ++ [','])

theorem orderText_append (keys : List AnswerKey) (key : AnswerKey) :
    orderText (keys ++ [key]) = orderText keys ++ key.text ++ [','] := by
  simp [orderText]

theorem isPrefixOf_comma {s t : List Char} (rest : List Char) (hs : ',' ∉ s)
    (ht : ',' ∉ t) : (s ++ [',']).isPrefixOf (t ++ ',' :: rest) = decide (s = t) := by
  induction s generalizing t with
  | nil =>
      cases t with
      | nil => rfl
      | cons d t =>
          have hd : ',' ≠ d := fun heq => ht (heq ▸ List.mem_cons_self)
          simp [List.isPrefixOf, hd]
  | cons c s ih =>
      have hc : c ≠ ',' := fun heq => hs (heq ▸ List.mem_cons_self)
      cases t with
      | nil => simp [List.isPrefixOf, hc]
      | cons d t =>
          have htail := ih (fun hmem => hs (List.mem_cons_of_mem _ hmem))
            (fun hmem => ht (List.mem_cons_of_mem _ hmem))
          rw [List.cons_append, List.cons_append, List.isPrefixOf, htail]
          by_cases hcd : c = d
          · simp [hcd]
          · simp [hcd]

theorem followsComma_append {key word : List Char} (rest : List Char)
    (h : ',' ∉ word) :
    followsComma key (word ++ ',' :: rest) = isListed key rest := by
  induction word with
  | nil => simp [followsComma, isListed]
  | cons c word ih =>
      have hc : c ≠ ',' := fun heq => h (heq ▸ List.mem_cons_self)
      rw [List.cons_append, followsComma, ih (fun hmem => h (List.mem_cons_of_mem _ hmem))]
      simp [hc]

/-- No key is taken for a part of another one. -/
theorem isListed_flatMap {key : List Char} {keys : List (List Char)} (hkey : ',' ∉ key)
    (h : forall k, k ∈ keys -> ',' ∉ k) :
    isListed key (keys.flatMap fun k => k ++ [',']) = decide (key ∈ keys) := by
  induction keys with
  | nil => simp [isListed, followsComma]
  | cons k keys ih =>
      have hk := h k List.mem_cons_self
      rw [List.flatMap_cons, List.append_assoc, List.singleton_append, isListed,
        isPrefixOf_comma _ hkey hk, followsComma_append _ hk,
        ih fun x hx => h x (List.mem_cons_of_mem k hx)]
      by_cases heq : key = k
      · simp [heq]
      · simp [heq]

theorem isListed_orderText (key : AnswerKey) (keys : List AnswerKey) :
    isListed key.text (orderText keys) = decide (key ∈ keys) := by
  have htexts : orderText keys = (keys.map AnswerKey.text).flatMap fun k => k ++ [','] := by
    rw [orderText, List.flatMap_map]
  rw [htexts, isListed_flatMap key.comma_notMem, decide_eq_decide, List.mem_map]
  · constructor
    · intro h
      rcases h with ⟨k, hk, heq⟩
      exact AnswerKey.ext_text heq ▸ hk
    · exact fun h => ⟨key, h, rfl⟩
  · intro text htext
    rcases List.mem_map.mp htext with ⟨k, _, rfl⟩
    exact k.comma_notMem

/-- What a call makes of the entries other than the order. -/
theorem addToAnswers_of_ne {anskey name : List Char} (ansval ansdefault : List Char)
    (answersOut : AnswersOut) (hkey : anskey ≠ []) (hname : name ≠ listOrder) :
    addToAnswers anskey ansval ansdefault answersOut name =
      if name = anskey then (if ansval = [] then ansdefault else ansval)
      else answersOut name := by
  simp only [addToAnswers, if_neg hkey]
  generalize (if ansval = [] then ansdefault else ansval) = stored
  by_cases hlisted : isListed anskey (Function.update answersOut anskey stored listOrder) = true
  · rw [if_pos hlisted, Function.update_apply]
  · rw [if_neg hlisted, Function.update_of_ne hname, Function.update_apply]

theorem addToAnswers_listOrder {anskey : List Char} (ansval ansdefault : List Char)
    (answersOut : AnswersOut) (hkey : anskey ≠ []) (horder : anskey ≠ listOrder) :
    addToAnswers anskey ansval ansdefault answersOut listOrder =
      if isListed anskey (answersOut listOrder) then answersOut listOrder
      else answersOut listOrder ++ anskey ++ [','] := by
  simp only [addToAnswers, if_neg hkey, Function.update_of_ne horder.symm]
  by_cases hlisted : isListed anskey (answersOut listOrder) = true
  · rw [if_pos hlisted, if_pos hlisted, Function.update_of_ne horder.symm]
  · rw [if_neg hlisted, if_neg hlisted, Function.update_self]

theorem addedKeys_append (calls : List AnswerCall) (call : AnswerCall) :
    addedKeys (calls ++ [call]) =
      if call.key ∈ addedKeys calls then addedKeys calls
      else addedKeys calls ++ [call.key] := by
  rw [addedKeys, List.foldl_append]
  rfl

theorem mem_addedKeys {key : AnswerKey} {calls : List AnswerCall} :
    key ∈ addedKeys calls <-> exists call, call ∈ calls ∧ call.key = key := by
  induction calls using List.reverseRecOn with
  | nil => simp [addedKeys]
  | append_singleton calls call ih =>
      rw [addedKeys_append]
      split
      · rename_i hmem
        rw [ih]
        constructor
        · intro h
          rcases h with ⟨c, hc, rfl⟩
          exact ⟨c, by simp [hc], rfl⟩
        · intro h
          rcases h with ⟨c, hc, rfl⟩
          rcases List.mem_append.mp hc with hold | hnew
          · exact ⟨c, hold, rfl⟩
          · have heq : c = call := List.mem_singleton.mp hnew
            rw [← ih, heq]
            exact hmem
      · simp [ih, eq_comm]

theorem addedKeys_nodup (calls : List AnswerCall) : (addedKeys calls).Nodup := by
  induction calls using List.reverseRecOn with
  | nil => exact List.nodup_nil
  | append_singleton calls call ih =>
      rw [addedKeys_append]
      split
      · exact ih
      · rename_i hnew
        rw [← List.concat_eq_append]
        exact ih.concat hnew

theorem recorded_append (calls : List AnswerCall) (call : AnswerCall) :
    recorded (calls ++ [call]) =
      addToAnswers call.key.text call.val.text call.default.text (recorded calls) := by
  simp [recorded]

theorem lastStored_append (key : AnswerKey) (calls : List AnswerCall)
    (call : AnswerCall) :
    lastStored key (calls ++ [call]) =
      if call.key = key then some call.stored else lastStored key calls := by
  rw [lastStored, List.reverse_append]
  by_cases hkey : call.key = key
  · simp [hkey]
  · simp [hkey, lastStored]

theorem recorded_eq (calls : List AnswerCall) :
    recorded calls listOrder = orderText (addedKeys calls) ∧
      forall key : AnswerKey,
        recorded calls key.text = ((lastStored key calls).map Line.text).getD [] := by
  induction calls using List.reverseRecOn with
  | nil => exact ⟨rfl, fun _ => rfl⟩
  | append_singleton calls call ih =>
      rcases ih with ⟨horder, hvals⟩
      rw [recorded_append]
      constructor
      · rw [addToAnswers_listOrder _ _ _ call.key.ne_nil call.key.ne_listOrder, horder,
          isListed_orderText, addedKeys_append]
        simp only [decide_eq_true_eq]
        split
        · rfl
        · rw [orderText_append]
      · intro key
        have hstored : (if call.val.text = [] then call.default.text else call.val.text) =
            call.stored.text := by
          unfold AnswerCall.stored
          split <;> rfl
        rw [addToAnswers_of_ne _ _ _ call.key.ne_nil key.ne_listOrder, hstored,
          lastStored_append]
        by_cases hkey : call.key = key
        · simp [hkey]
        · have htext : key.text ≠ call.key.text :=
            fun heq => hkey (AnswerKey.ext_text heq.symm)
          rw [if_neg htext, if_neg hkey, hvals]

/-!
## The order of the keys
-/

theorem map_commas_eq_self {key : List Char} (h : ',' ∉ key) :
    key.map (fun c => if c = ',' then ' ' else c) = key := by
  calc key.map (fun c => if c = ',' then ' ' else c) = key.map id := by
        apply List.map_congr_left
        intro c hc
        have hne : c ≠ ',' := by
          intro heq
          subst heq
          exact h hc
        rw [if_neg hne, id]
    _ = key := List.map_id _

theorem flatMap_commas {keys : List (List Char)} (h : keys ≠ []) :
    (keys.flatMap fun key => key ++ [',']) = [','].intercalate keys ++ [','] := by
  induction keys with
  | nil => exact absurd rfl h
  | cons k keys ih =>
      cases keys with
      | nil => simp
      | cons l keys =>
          rw [List.flatMap_cons, ih (List.cons_ne_nil l keys), List.intercalate_cons_cons]
          simp

theorem commasToSpaces_eq {keys : List (List Char)} (h : keys ≠ [])
    (hcomma : forall key, key ∈ keys -> ',' ∉ key) :
    commasToSpaces (keys.flatMap fun key => key ++ [',']) = [' '].intercalate keys := by
  rw [commasToSpaces, flatMap_commas h, if_pos List.getLast?_concat, List.dropLast_concat]
  clear h
  induction keys with
  | nil => rfl
  | cons k keys ih =>
      have hk := map_commas_eq_self (hcomma k List.mem_cons_self)
      cases keys with
      | nil => simp [hk]
      | cons l keys =>
          rw [List.intercalate_cons_cons, List.intercalate_cons_cons, List.map_append,
            List.map_append, hk, ih fun key hkey => hcomma key (List.mem_cons_of_mem k hkey)]
          rfl

/-- The loop goes through the keys as they are listed. -/
theorem orderedKeys_eq {answersOut : AnswersOut} {keys : List (List Char)}
    (horder : answersOut listOrder = keys.flatMap fun key => key ++ [','])
    (h : forall key, key ∈ keys -> key ≠ [] ∧ ',' ∉ key ∧ ' ' ∉ key) :
    orderedKeys answersOut = keys := by
  rw [orderedKeys, horder]
  cases keys with
  | nil => rfl
  | cons k keys =>
      rw [commasToSpaces_eq (List.cons_ne_nil k keys) fun key hkey => (h key hkey).right.left,
        List.splitOn_intercalate]
      · apply List.filter_eq_self.mpr
        intro key hkey
        simpa using (h key hkey).left
      · exact fun key hkey => (h key hkey).right.right
      · exact List.cons_ne_nil _ _

theorem orderedKeys_recorded (calls : List AnswerCall) :
    orderedKeys (recorded calls) = (addedKeys calls).map AnswerKey.text := by
  apply orderedKeys_eq
  · rw [(recorded_eq calls).left, orderText, List.flatMap_map]
  · intro text htext
    rcases List.mem_map.mp htext with ⟨key, _, rfl⟩
    exact ⟨key.ne_nil, key.comma_notMem, key.blank_notMem⟩

end Installer
end EsdcFactory
