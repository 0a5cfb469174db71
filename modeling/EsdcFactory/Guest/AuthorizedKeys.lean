import EsdcFactory.Installer.Answers
import EsdcFactory.Lib.AddMissing
import EsdcFactory.Lib.BashArith
import EsdcFactory.Lib.BashSource

/-!
# The keys that may log in as root

At each boot a virtual machine adds the keys of its metadata to the file
`authorized_keys`.  A key is looked up with `grep`, as a pattern that stands for a
whole line, and is added with `echo` when nothing is found.
-/

namespace EsdcFactory
namespace Guest

open AddMissing BashArith Installer

/-!
## The loop
-/

def lines (text : List Char) : List (List Char) :=
  splitFields '\n' text

/-- A character that is no operator of a basic regular expression, except for the dot. -/
def isPlain (c : Char) : Bool :=
  ! ['\\', '[', '*', '^', '$', '\n', '\x00'].contains c

/-- `grep -q "^$AUTHKEY$"` on a line, as far as it is documented. -/
structure Grep where
  finds : List Char -> List Char -> Bool
  finds_plain : forall key line, key.all isPlain = true ->
    (finds key line = true <-> List.Forall₂ (fun k c => k = '.' ∨ k = c) key line)

/-- What `read -r` keeps of a line. -/
def trim (line : List Char) : List Char :=
  (line.dropWhile BashSource.isBlank).rdropWhile BashSource.isBlank

/-- The words that the loop reads from `<<< "$AUTHORIZED_KEYS"`. -/
def metadataKeys (metadata : List Char) : List (List Char) :=
  (lines (substituted metadata ++ ['\n'])).map trim

/-- A round of the loop; a file that is missing counts as an empty one. -/
def addKey (grep : Grep) (file key : List Char) : List Char :=
  if key = [] then file
  else if (lines file).any (grep.finds key) then file
  else file ++ echo key

def addKeys (grep : Grep) (keys : List (List Char)) (file : List Char) : List Char :=
  keys.foldl (addKey grep) file

/-- The scripts that hold the loop, word for word the same. -/
inductive Script where
  | zoneinit
  | mgmtPostDeploy
  | monPostDeploy

/-- What a boot with the metadata makes of the file. -/
def Script.boot (script : Script) (grep : Grep) (file metadata : List Char) : List Char :=
  match script with
  | .zoneinit => addKeys grep (metadataKeys metadata) file
  | .mgmtPostDeploy => addKeys grep (metadataKeys metadata) file
  | .monPostDeploy => addKeys grep (metadataKeys metadata) file

/-- The file after several boots. -/
def Script.boots (script : Script) (grep : Grep) (file : List Char)
    (history : List (List Char)) : List Char :=
  history.foldl (script.boot grep) file

/-- A boot adds the keys that are missing and does nothing else. -/
structure Script.Updates (script : Script) (grep : Grep) (file metadata : List Char) :
    Prop where
  kept : lines file <+: lines (script.boot grep file metadata)
  present : forall key, key ∈ metadataKeys metadata -> key ≠ [] ->
    key ∈ lines (script.boot grep file metadata)
  again : script.boot grep (script.boot grep file metadata) metadata =
    script.boot grep file metadata

/-- A file whose last line is ended. -/
def Ended (file : List Char) : Prop :=
  file = [] ∨ exists text, file = text ++ ['\n']

def newKeys (metadata : List Char) : List (List Char) :=
  (metadataKeys metadata).filter (· ≠ [])

/-- The search says of each key whether it is there. -/
structure SearchesRight (grep : Grep) (file : List Char) (keys : List (List Char)) :
    Prop where
  /-- nothing is taken for a key that is not there -/
  unfound : FirstUnfound grep.finds (lines file) keys
  /-- nor does `echo` take such a key for options -/
  printed : forall key, key ∈ keys -> key ∉ lines file -> isEchoOption key = false
  /-- a key finds a line once all are there -/
  found : forall key, key ∈ keys -> (lines file ++ keys).any (grep.finds key) = true
  /-- no key is put behind a line that is not ended -/
  ended : Ended file ∨ forall key, key ∈ keys -> (lines file).any (grep.finds key) = true

/-!
## Lines of a file
-/

theorem newline_notMem {text line : List Char} (h : line ∈ lines text) : '\n' ∉ line := by
  generalize hall : lines text = all at h
  induction all generalizing text with
  | nil => cases h
  | cons first rest ih =>
      rcases splitFields_eq_cons hall with ⟨hfirst, hrest⟩
      rcases List.mem_cons.mp h with rfl | hline
      · exact hfirst
      · rcases hrest with ⟨_, hnil⟩ | ⟨more, _, hmore⟩
        · rw [hnil] at hline
          cases hline
        · exact ih hmore hline

theorem lines_newline (text rest : List Char) :
    lines (text ++ '\n' :: rest) = lines (text ++ ['\n']) ++ lines rest := by
  induction text with
  | nil => simp [lines, splitFields]
  | cons c text ih =>
      unfold lines at ih ⊢
      rw [List.cons_append, List.cons_append, splitFields, splitFields]
      split
      · rw [ih, List.cons_append]
      · rw [ih]
        cases hfields : splitFields '\n' (text ++ ['\n']) with
        | nil =>
            rcases splitFields_cases '\n' (text ++ ['\n']) with hnil | ⟨_, _, hone⟩ |
              ⟨_, _, _, _, hmore⟩
            · exact absurd hnil (by simp)
            · rw [hone] at hfields
              cases hfields
            · rw [hmore] at hfields
              cases hfields
        | cons field fields => rfl

theorem lines_append {file : List Char} (h : Ended file) (rest : List Char) :
    lines (file ++ rest) = lines file ++ lines rest := by
  rcases h with rfl | ⟨text, rfl⟩
  · rfl
  · rw [List.append_assoc, List.singleton_append, lines_newline]

theorem lines_line {line : List Char} (h : '\n' ∉ line) : lines (line ++ ['\n']) = [line] :=
  splitFields_append_sep h []

theorem ended_of_getLast {text : List Char} (hne : text ≠ []) (h : text.getLast hne = '\n') :
    Ended text := by
  refine Or.inr ⟨text.dropLast, ?_⟩
  rw [← h, List.dropLast_append_getLast]

/-- A last line that is not ended. -/
theorem exists_last_line {file : List Char} (h : ¬ Ended file) :
    exists text last, file = text ++ last ∧ Ended text ∧ last ≠ [] ∧ '\n' ∉ last := by
  refine ⟨file.rdropWhile (· ≠ '\n'), file.rtakeWhile (· ≠ '\n'),
    (List.rdropWhile_append_rtakeWhile ..).symm, ?_, ?_, ?_⟩
  · by_cases hnil : file.rdropWhile (· ≠ '\n') = []
    · exact Or.inl hnil
    · have hlast := List.rdropWhile_last_not (· ≠ '\n') file hnil
      exact ended_of_getLast hnil (by simpa using hlast)
  · intro hnil
    apply h
    rw [List.rtakeWhile_eq_nil_iff] at hnil
    by_cases hfile : file = []
    · exact Or.inl hfile
    · exact ended_of_getLast hfile (by simpa using hnil hfile)
  · intro hmem
    simpa using List.mem_rtakeWhile_imp hmem

/-!
## Keys
-/

/-- A word that the loop does not skip. -/
def IsKey (key : List Char) : Prop :=
  key ≠ [] ∧ '\n' ∉ key

theorem mem_of_mem_trim {c : Char} {line : List Char} (h : c ∈ trim line) : c ∈ line :=
  (List.dropWhile_suffix _).subset ((List.rdropWhile_prefix _ _).subset h)

theorem isKey_of_mem {metadata key : List Char} (h : key ∈ newKeys metadata) : IsKey key := by
  rcases List.mem_filter.mp h with ⟨hkey, hne⟩
  rcases List.mem_map.mp hkey with ⟨line, hline, rfl⟩
  exact ⟨of_decide_eq_true hne, fun hmem => newline_notMem hline (mem_of_mem_trim hmem)⟩

/-- A key without any operator stands for itself. -/
theorem Grep.finds_literal (grep : Grep) {key : List Char} (hplain : key.all isPlain = true)
    (hdot : '.' ∉ key) (line : List Char) : grep.finds key line = true <-> line = key := by
  rw [grep.finds_plain key line hplain]
  clear hplain
  induction key generalizing line with
  | nil => rw [List.forall₂_nil_left_iff]
  | cons k key ih =>
      have hk : k ≠ '.' := fun heq => hdot (heq ▸ List.mem_cons_self)
      have hkey : '.' ∉ key := fun hmem => hdot (List.mem_cons_of_mem _ hmem)
      cases line with
      | nil => simp
      | cons c line =>
          rw [List.forall₂_cons, ih hkey, List.cons.injEq]
          simp [hk, eq_comm]

theorem Grep.finds_option (grep : Grep) {key : List Char} (h : isEchoOption key = true)
    (line : List Char) : grep.finds key line = true <-> line = key := by
  have hchars : forall c, c ∈ key -> c ∈ ['-', 'n', 'e', 'E'] := by
    intro c hc
    unfold isEchoOption at h
    split at h
    next d rest =>
      rcases List.mem_cons.mp hc with rfl | hc
      · exact List.mem_cons_self
      · exact List.mem_cons_of_mem _ (List.contains_iff_mem.mp (List.all_eq_true.mp h c hc))
    next => cases h
  apply grep.finds_literal
  · rw [List.all_eq_true]
    intro c hc
    exact (by decide : forall c, c ∈ ['-', 'n', 'e', 'E'] -> isPlain c = true) c (hchars c hc)
  · intro hdot
    exact absurd (hchars '.' hdot) (by decide)

theorem any_finds_option (grep : Grep) {key : List Char} (h : isEchoOption key = true)
    (all : List (List Char)) : all.any (grep.finds key) = true <-> key ∈ all := by
  rw [List.any_eq_true]
  constructor
  · intro hany
    rcases hany with ⟨line, hline, hfinds⟩
    rw [← (grep.finds_option h line).mp hfinds]
    exact hline
  · intro hmem
    exact ⟨key, hmem, (grep.finds_option h key).mpr rfl⟩

/-!
## What `echo` adds
-/

theorem echo_word {key : List Char} (h : isEchoOption key = false) : echo key = key ++ ['\n'] := by
  rw [echo, h]
  rfl

theorem lines_echo_word {key : List Char} (hkey : IsKey key) (h : isEchoOption key = false) :
    lines (echo key) = [key] := by
  rw [echo_word h, lines_line hkey.right]

theorem echo_option {key : List Char} (h : isEchoOption key = true) :
    echo key = [] ∨ echo key = ['\n'] := by
  rw [echo, if_pos h]
  split
  · exact Or.inl rfl
  · exact Or.inr rfl

theorem ended_append_echo {file : List Char} (h : Ended file) (key : List Char) :
    Ended (file ++ echo key) := by
  cases hopt : isEchoOption key with
  | false => exact Or.inr ⟨file ++ key, by rw [echo_word hopt, List.append_assoc]⟩
  | true =>
      rcases echo_option hopt with hnil | hnewline
      · rw [hnil, List.append_nil]
        exact h
      · exact Or.inr ⟨file, by rw [hnewline]⟩

theorem option_notMem_echo {key option : List Char} (hkey : IsKey key)
    (h : isEchoOption option = true) : option ∉ lines (echo key) := by
  intro hmem
  cases hopt : isEchoOption key with
  | false =>
      rw [lines_echo_word hkey hopt] at hmem
      rw [List.mem_singleton.mp hmem, hopt] at h
      cases h
  | true =>
      rcases echo_option hopt with hnil | hnewline
      · rw [hnil] at hmem
        cases hmem
      · rw [hnewline] at hmem
        rw [show lines ['\n'] = [[]] from rfl, List.mem_singleton] at hmem
        rw [hmem] at h
        cases h

/-!
## A run of the loop
-/

theorem addKeys_cons (grep : Grep) (key : List Char) (keys : List (List Char))
    (file : List Char) :
    addKeys grep (key :: keys) file = addKeys grep keys (addKey grep file key) := rfl

theorem addKeys_append (grep : Grep) (keys more : List (List Char)) (file : List Char) :
    addKeys grep (keys ++ more) file = addKeys grep more (addKeys grep keys file) :=
  List.foldl_append

theorem addKey_found {grep : Grep} {file key : List Char}
    (h : (lines file).any (grep.finds key) = true) : addKey grep file key = file := by
  rw [addKey, if_pos h, ite_self]

theorem addKey_unfound {grep : Grep} {file key : List Char} (hkey : IsKey key)
    (h : ¬ (lines file).any (grep.finds key) = true) :
    addKey grep file key = file ++ echo key := by
  rw [addKey, if_neg hkey.left, if_neg h]

theorem addKeys_found {grep : Grep} {file : List Char} {keys : List (List Char)}
    (h : forall key, key ∈ keys -> (lines file).any (grep.finds key) = true) :
    addKeys grep keys file = file := by
  induction keys with
  | nil => rfl
  | cons key keys ih =>
      rw [addKeys_cons, addKey_found (h key List.mem_cons_self)]
      exact ih fun other hother => h other (List.mem_cons_of_mem _ hother)

/-- Skipped words change nothing. -/
theorem addKeys_filter (grep : Grep) (words : List (List Char)) (file : List Char) :
    addKeys grep (words.filter (· ≠ [])) file = addKeys grep words file := by
  induction words generalizing file with
  | nil => rfl
  | cons word words ih =>
      by_cases hword : word = []
      · rw [List.filter_cons_of_neg (by simpa using hword), ih, addKeys_cons, addKey,
          if_pos hword]
      · rw [List.filter_cons_of_pos (by simpa using hword), addKeys_cons, addKeys_cons, ih]

theorem Script.boot_eq (script : Script) (grep : Grep) (file metadata : List Char) :
    script.boot grep file metadata = addKeys grep (newKeys metadata) file := by
  rw [newKeys, addKeys_filter]
  cases script <;> rfl

theorem addKeys_length (grep : Grep) (keys : List (List Char)) (file : List Char) :
    file.length ≤ (addKeys grep keys file).length := by
  induction keys generalizing file with
  | nil => exact Nat.le_refl _
  | cons key keys ih =>
      rw [addKeys_cons]
      refine Nat.le_trans ?_ (ih _)
      rw [addKey]
      split
      · exact Nat.le_refl _
      · split
        · exact Nat.le_refl _
        · rw [List.length_append]
          exact Nat.le_add_right _ _

theorem found_of_addKeys_eq {grep : Grep} {file : List Char} {keys : List (List Char)}
    (hkeys : forall key, key ∈ keys -> IsKey key) (hpresent : keys ⊆ lines file)
    (h : addKeys grep keys file = file) :
    forall key, key ∈ keys -> (lines file).any (grep.finds key) = true := by
  induction keys with
  | nil =>
      intro key hkey
      cases hkey
  | cons key keys ih =>
      rw [addKeys_cons] at h
      have hfound : (lines file).any (grep.finds key) = true := by
        by_contra hunfound
        have hlength := addKeys_length grep keys (addKey grep file key)
        rw [h, addKey_unfound (hkeys key List.mem_cons_self) hunfound, List.length_append]
          at hlength
        have hecho : echo key = [] := List.length_eq_zero_iff.mp (by omega)
        cases hopt : isEchoOption key with
        | false =>
            rw [echo_word hopt] at hecho
            exact absurd hecho (by simp)
        | true =>
            exact hunfound ((any_finds_option grep hopt _).mpr (hpresent List.mem_cons_self))
      rw [addKey_found hfound] at h
      intro other hother
      rcases List.mem_cons.mp hother with rfl | hother
      · exact hfound
      · exact ih (fun x hx => hkeys x (List.mem_cons_of_mem _ hx))
          (fun x hx => hpresent (List.mem_cons_of_mem _ hx)) h other hother

/-- On a file that is ended, lines are added, if no key that is missing is an option. -/
theorem addKeys_ended (grep : Grep) {file : List Char} {keys : List (List Char)}
    (hended : Ended file) (hkeys : forall key, key ∈ keys -> IsKey key)
    (hprinted : forall key, key ∈ keys -> key ∉ lines file -> isEchoOption key = false) :
    Ended (addKeys grep keys file) ∧
      lines (addKeys grep keys file) = addMissing grep.finds (lines file) keys := by
  induction keys generalizing file with
  | nil => exact ⟨hended, rfl⟩
  | cons key keys ih =>
      have hrest : forall other, other ∈ keys -> IsKey other :=
        fun other hother => hkeys other (List.mem_cons_of_mem _ hother)
      rw [addKeys_cons, addMissing]
      by_cases hfound : (lines file).any (grep.finds key) = true
      · rw [addKey_found hfound, if_pos hfound]
        exact ih hended hrest fun other hother =>
          hprinted other (List.mem_cons_of_mem _ hother)
      · have hkey := hkeys key List.mem_cons_self
        have hopt : isEchoOption key = false := by
          by_contra hopt
          rw [Bool.not_eq_false] at hopt
          rw [any_finds_option grep hopt] at hfound
          rw [hprinted key List.mem_cons_self hfound] at hopt
          cases hopt
        have hlines : lines (addKey grep file key) = lines file ++ [key] := by
          rw [addKey_unfound hkey hfound, lines_append hended, lines_echo_word hkey hopt]
        rw [if_neg hfound, ← hlines]
        apply ih
        · rw [addKey_unfound hkey hfound]
          exact ended_append_echo hended key
        · exact hrest
        · intro other hother hnot
          apply hprinted other (List.mem_cons_of_mem _ hother)
          intro hmem
          apply hnot
          rw [hlines]
          exact List.mem_append_left _ hmem

theorem kept_of_ended (grep : Grep) {file : List Char} {keys : List (List Char)}
    (hended : Ended file) (hkeys : forall key, key ∈ keys -> IsKey key) :
    lines file <+: lines (addKeys grep keys file) := by
  induction keys generalizing file with
  | nil => exact List.prefix_refl _
  | cons key keys ih =>
      have hrest : forall other, other ∈ keys -> IsKey other :=
        fun other hother => hkeys other (List.mem_cons_of_mem _ hother)
      rw [addKeys_cons]
      by_cases hfound : (lines file).any (grep.finds key) = true
      · rw [addKey_found hfound]
        exact ih hended hrest
      · rw [addKey_unfound (hkeys key List.mem_cons_self) hfound]
        refine List.IsPrefix.trans ?_ (ih (ended_append_echo hended key) hrest)
        rw [lines_append hended]
        exact List.prefix_append _ _

/-- A word that `echo` takes for options never gets into a file that is ended. -/
theorem option_notMem_addKeys {grep : Grep} {file option : List Char}
    {keys : List (List Char)} (hended : Ended file)
    (hkeys : forall key, key ∈ keys -> IsKey key) (hopt : isEchoOption option = true)
    (hmissing : option ∉ lines file) : option ∉ lines (addKeys grep keys file) := by
  induction keys generalizing file with
  | nil => exact hmissing
  | cons key keys ih =>
      have hkey := hkeys key List.mem_cons_self
      have hrest : forall other, other ∈ keys -> IsKey other :=
        fun other hother => hkeys other (List.mem_cons_of_mem _ hother)
      rw [addKeys_cons]
      by_cases hfound : (lines file).any (grep.finds key) = true
      · rw [addKey_found hfound]
        exact ih hended hrest hmissing
      · rw [addKey_unfound hkey hfound]
        refine ih (ended_append_echo hended key) hrest ?_
        rw [lines_append hended, List.mem_append]
        exact not_or.mpr ⟨hmissing, option_notMem_echo hkey hopt⟩

/-- On a file that is not ended, the first key that is not found spoils a line or is lost. -/
theorem spoiled_of_not_ended {grep : Grep} {file : List Char} {keys : List (List Char)}
    (hended : ¬ Ended file) (hkeys : forall key, key ∈ keys -> IsKey key)
    (hkept : lines file <+: lines (addKeys grep keys file))
    (hpresent : keys ⊆ lines (addKeys grep keys file)) :
    forall key, key ∈ keys -> (lines file).any (grep.finds key) = true := by
  induction keys with
  | nil =>
      intro key hkey
      cases hkey
  | cons key keys ih =>
      have hkey := hkeys key List.mem_cons_self
      have hrest : forall other, other ∈ keys -> IsKey other :=
        fun other hother => hkeys other (List.mem_cons_of_mem _ hother)
      have hsubset : keys ⊆ lines (addKeys grep (key :: keys) file) :=
        fun other hother => hpresent (List.mem_cons_of_mem _ hother)
      rcases exists_last_line hended with ⟨text, last, hfile, htext, hne, hlast⟩
      have hlines : lines file = lines text ++ [last] := by
        rw [hfile, lines_append htext]
        exact congrArg (lines text ++ ·) (splitFields_last hlast hne)
      have hadded : forall word, '\n' ∉ word ->
          Ended (file ++ (word ++ ['\n'])) ∧
            lines (file ++ (word ++ ['\n'])) = lines text ++ [last ++ word] := by
        intro word hword
        constructor
        · exact Or.inr ⟨file ++ word, by rw [List.append_assoc]⟩
        · have hline : '\n' ∉ last ++ word :=
            fun hmem => (List.mem_append.mp hmem).elim hlast hword
          rw [hfile, List.append_assoc, ← List.append_assoc last, lines_append htext,
            lines_line hline]
      by_cases hfound : (lines file).any (grep.finds key) = true
      · rw [addKeys_cons, addKey_found hfound] at hkept hsubset
        intro other hother
        rcases List.mem_cons.mp hother with rfl | hother
        · exact hfound
        · exact ih hrest hkept hsubset other hother
      · exfalso
        rw [addKeys_cons, addKey_unfound hkey hfound] at hkept hpresent hsubset
        cases hopt : isEchoOption key with
        | false =>
            -- the key ends up behind the last line
            rcases hadded key hkey.right with ⟨hnewended, hnewlines⟩
            rw [echo_word hopt] at hkept
            have hnewkept := kept_of_ended grep hnewended hrest
            rw [hnewlines] at hnewkept
            rw [hlines] at hkept
            have hsame := List.prefix_of_prefix_length_le hkept hnewkept (by simp)
            rw [List.prefix_append_right_inj, List.cons_prefix_cons] at hsame
            exact hkey.left (List.self_eq_append_right.mp hsame.left)
        | true =>
            have hmissing : key ∉ lines file := fun hmem =>
              hfound ((any_finds_option grep hopt _).mpr hmem)
            rcases echo_option hopt with hnil | hnewline
            · rw [hnil, List.append_nil] at hkept hpresent hsubset
              have hrestfound := ih hrest hkept hsubset
              rw [addKeys_found hrestfound] at hpresent
              exact hmissing (hpresent List.mem_cons_self)
            · rcases hadded [] List.not_mem_nil with ⟨hnewended, hnewlines⟩
              rw [List.nil_append, List.append_nil, ← hlines] at hnewlines
              rw [hnewline] at hpresent
              rw [← hnewlines] at hmissing
              exact option_notMem_addKeys hnewended hrest hopt hmissing
                (hpresent List.mem_cons_self)

/-!
## When the loop does what it is for
-/

/-- What is asked of a run of the loop. -/
structure AddsMissing (grep : Grep) (file : List Char) (keys : List (List Char)) : Prop where
  kept : lines file <+: lines (addKeys grep keys file)
  present : keys ⊆ lines (addKeys grep keys file)
  again : addKeys grep keys (addKeys grep keys file) = addKeys grep keys file

theorem Script.updates_iff (script : Script) (grep : Grep) (file metadata : List Char) :
    script.Updates grep file metadata <-> AddsMissing grep file (newKeys metadata) := by
  constructor
  · intro h
    rcases h with ⟨hkept, hpresent, hagain⟩
    simp only [script.boot_eq] at hkept hpresent hagain
    refine ⟨hkept, ?_, hagain⟩
    intro key hkey
    rcases List.mem_filter.mp hkey with ⟨hmem, hne⟩
    exact hpresent key hmem (of_decide_eq_true hne)
  · intro h
    constructor
    · rw [script.boot_eq]
      exact h.kept
    · intro key hkey hne
      rw [script.boot_eq]
      exact h.present (List.mem_filter.mpr ⟨hkey, decide_eq_true hne⟩)
    · simp only [script.boot_eq]
      exact h.again

variable {grep : Grep} {file : List Char} {keys : List (List Char)}

theorem SearchesRight.lines_addKeys (h : SearchesRight grep file keys)
    (hkeys : forall key, key ∈ keys -> IsKey key) :
    lines (addKeys grep keys file) = addMissing grep.finds (lines file) keys := by
  rcases h.ended with hended | hfound
  · exact (addKeys_ended grep hended hkeys h.printed).right
  · rw [addKeys_found hfound, addMissing_eq_self hfound]

theorem any_of_subset {all more : List (List Char)} (p : List Char -> Bool) (h : all ⊆ more)
    (hany : all.any p = true) : more.any p = true := by
  rcases List.any_eq_true.mp hany with ⟨line, hline, hp⟩
  exact List.any_eq_true.mpr ⟨line, h hline, hp⟩

theorem addsMissing_iff (hkeys : forall key, key ∈ keys -> IsKey key) :
    AddsMissing grep file keys <-> SearchesRight grep file keys := by
  constructor
  · intro h
    have hfound := found_of_addKeys_eq hkeys h.present h.again
    by_cases hended : Ended file
    · have hprinted : forall key, key ∈ keys -> key ∉ lines file ->
          isEchoOption key = false := by
        intro key hkey hmissing
        by_contra hopt
        rw [Bool.not_eq_false] at hopt
        exact option_notMem_addKeys hended hkeys hopt hmissing (h.present hkey)
      have hlines := (addKeys_ended grep hended hkeys hprinted).right
      constructor
      · rw [← entries_subset_iff, ← hlines]
        exact h.present
      · exact hprinted
      · intro key hkey
        refine any_of_subset _ ?_ (hfound key hkey)
        rw [hlines]
        intro line hline
        exact List.mem_append.mpr (mem_kept_or_entries hline)
      · exact Or.inl hended
    · have hall := spoiled_of_not_ended hended hkeys h.kept h.present
      have hpresent := h.present
      rw [addKeys_found hall] at hpresent
      constructor
      · rw [← entries_subset_iff, addMissing_eq_self hall]
        exact hpresent
      · intro key hkey hmissing
        exact absurd (hpresent hkey) hmissing
      · intro key hkey
        exact any_of_subset _ (List.subset_append_left _ _) (hall key hkey)
      · exact Or.inr hall
  · intro h
    have hlines := h.lines_addKeys hkeys
    have hpresent := (entries_subset_iff (lines file) keys).mpr h.unfound
    constructor
    · rw [hlines]
      exact prefix_addMissing _ _
    · rw [hlines]
      exact hpresent
    · apply addKeys_found
      intro key hkey
      rw [hlines]
      refine any_of_subset _ ?_ (h.found key hkey)
      exact List.append_subset.mpr ⟨(prefix_addMissing _ _).subset, hpresent⟩

/-!
## Boots
-/

theorem SearchesRight.nil (grep : Grep) (file : List Char) : SearchesRight grep file [] := by
  constructor
  · intro before key after heq
    exact absurd heq.symm (by simp)
  · nofun
  · nofun
  · exact Or.inr nofun

theorem SearchesRight.mem_lines (h : SearchesRight grep file keys)
    (hkeys : forall key, key ∈ keys -> IsKey key) (line : List Char) :
    line ∈ lines (addKeys grep keys file) <-> line ∈ lines file ∨ line ∈ keys := by
  rw [h.lines_addKeys hkeys]
  constructor
  · exact mem_kept_or_entries
  · intro hline
    rcases hline with hold | hnew
    · exact (prefix_addMissing _ _).subset hold
    · exact (entries_subset_iff (lines file) keys).mpr h.unfound hnew

/-- Keys that come later are searched right in the file of the earlier ones. -/
theorem SearchesRight.append_iff {more : List (List Char)} (h : SearchesRight grep file keys)
    (hkeys : forall key, key ∈ keys -> IsKey key) :
    SearchesRight grep file (keys ++ more) <->
      SearchesRight grep (addKeys grep keys file) more := by
  have hmem := h.mem_lines hkeys
  have hsame : forall p : List Char -> Bool,
      (lines file ++ (keys ++ more)).any p =
        (lines (addKeys grep keys file) ++ more).any p := by
    intro p
    rw [Bool.eq_iff_iff, List.any_eq_true, List.any_eq_true]
    simp only [List.mem_append, hmem, or_assoc]
  have hunfound : FirstUnfound grep.finds (lines file) (keys ++ more) <->
      FirstUnfound grep.finds (lines (addKeys grep keys file)) more := by
    rw [← entries_subset_iff, ← entries_subset_iff, addMissing_append, List.append_subset,
      h.lines_addKeys hkeys]
    have hpresent := (entries_subset_iff (lines file) keys).mpr h.unfound
    exact and_iff_right (List.Subset.trans hpresent (prefix_addMissing _ _).subset)
  have hended : (Ended file ∨
        forall key, key ∈ keys ++ more -> (lines file).any (grep.finds key) = true) <->
      Ended (addKeys grep keys file) ∨
        forall key, key ∈ more ->
          (lines (addKeys grep keys file)).any (grep.finds key) = true := by
    rcases h.ended with hended | hfound
    · exact ⟨fun _ => Or.inl (addKeys_ended grep hended hkeys h.printed).left,
        fun _ => Or.inl hended⟩
    · rw [addKeys_found hfound]
      apply or_congr_right
      constructor
      · intro hall key hkey
        exact hall key (List.mem_append_right _ hkey)
      · intro hmore key hkey
        exact (List.mem_append.mp hkey).elim (hfound key) (hmore key)
  constructor
  · intro hall
    refine ⟨hunfound.mp hall.unfound, ?_, ?_, hended.mp hall.ended⟩
    · intro key hkey hmissing
      apply hall.printed key (List.mem_append_right _ hkey)
      exact fun hline => hmissing ((hmem key).mpr (Or.inl hline))
    · intro key hkey
      rw [← hsame]
      exact hall.found key (List.mem_append_right _ hkey)
  · intro hmore
    refine ⟨hunfound.mpr hmore.unfound, ?_, ?_, hended.mpr hmore.ended⟩
    · intro key hkey hmissing
      by_cases hold : key ∈ keys
      · exact h.printed key hold hmissing
      · apply hmore.printed key ((List.mem_append.mp hkey).resolve_left hold)
        exact fun hline => ((hmem key).mp hline).elim hmissing hold
    · intro key hkey
      rw [hsame]
      rcases List.mem_append.mp hkey with hold | hnew
      · refine any_of_subset _ ?_ (h.found key hold)
        intro line hline
        apply List.mem_append_left
        exact (hmem line).mpr (List.mem_append.mp hline)
      · exact hmore.found key hnew

/-- The keys of several boots, one after the other. -/
def allKeys (history : List (List Char)) : List (List Char) :=
  history.flatMap newKeys

theorem isKey_of_mem_allKeys {history : List (List Char)} {key : List Char}
    (h : key ∈ allKeys history) : IsKey key := by
  rcases List.mem_flatMap.mp h with ⟨metadata, _, hkey⟩
  exact isKey_of_mem hkey

theorem allKeys_concat (history : List (List Char)) (metadata : List Char) :
    allKeys (history ++ [metadata]) = allKeys history ++ newKeys metadata := by
  rw [allKeys, List.flatMap_append, List.flatMap_singleton]
  rfl

theorem Script.boots_eq (script : Script) (grep : Grep) (file : List Char)
    (history : List (List Char)) :
    script.boots grep file history = addKeys grep (allKeys history) file := by
  induction history using List.reverseRecOn with
  | nil => rfl
  | append_singleton history metadata ih =>
      have hboots : script.boots grep file (history ++ [metadata]) =
          script.boot grep (script.boots grep file history) metadata := List.foldl_append
      rw [hboots, script.boot_eq, ih, allKeys_concat, addKeys_append]

/-- What holds of each boot of a history holds of the last one and of each boot before it. -/
theorem forall_boots_concat {P : List (List Char) -> List Char -> Prop}
    {history : List (List Char)} {metadata : List Char} :
    (forall past boot future, history ++ [metadata] = past ++ boot :: future -> P past boot) <->
      (forall past boot future, history = past ++ boot :: future -> P past boot) ∧
        P history metadata := by
  constructor
  · intro h
    refine ⟨fun past boot future heq => ?_, h history metadata [] rfl⟩
    apply h past boot (future ++ [metadata])
    rw [heq, List.append_assoc, List.cons_append]
  · intro h past boot future heq
    rcases List.eq_nil_or_concat future with rfl | ⟨future, last, rfl⟩
    · rcases List.append_inj' heq rfl with ⟨rfl, hboot⟩
      cases hboot
      exact h.right
    · have hsplit : history ++ [metadata] = (past ++ boot :: future) ++ [last] := by
        rw [heq, List.append_assoc, List.cons_append, List.concat_eq_append]
      exact h.left past boot future (List.append_inj' hsplit rfl).left

theorem searchesRight_allKeys {history : List (List Char)}
    (h : forall past metadata future, history = past ++ metadata :: future ->
      SearchesRight grep file (allKeys (past ++ [metadata]))) :
    SearchesRight grep file (allKeys history) := by
  rcases List.eq_nil_or_concat history with rfl | ⟨past, metadata, rfl⟩
  · exact SearchesRight.nil grep file
  · rw [List.concat_eq_append] at h ⊢
    exact h past metadata [] rfl

/--
Each boot of a history adds the missing keys and does nothing else exactly when the
search is right, up to each boot, for all keys since the first one.
-/
theorem boots_update_iff (script : Script) (grep : Grep) (file : List Char)
    (history : List (List Char)) :
    (forall past metadata future, history = past ++ metadata :: future ->
        script.Updates grep (script.boots grep file past) metadata) <->
      forall past metadata future, history = past ++ metadata :: future ->
        SearchesRight grep file (allKeys (past ++ [metadata])) := by
  induction history using List.reverseRecOn with
  | nil =>
      constructor <;> intro _ past metadata future heq <;> exact absurd heq.symm (by simp)
  | append_singleton history metadata ih =>
      rw [forall_boots_concat, forall_boots_concat, ih]
      apply and_congr_right
      intro hpast
      have hkeys : forall key, key ∈ allKeys history -> IsKey key :=
        fun key => isKey_of_mem_allKeys
      rw [script.updates_iff, script.boots_eq, addsMissing_iff fun _ => isKey_of_mem,
        allKeys_concat, (searchesRight_allKeys hpast).append_iff hkeys]

/-- Keys without any operator are searched right. -/
theorem searchesRight_of_literal (hended : Ended file)
    (h : forall key, key ∈ keys ->
      key.all isPlain = true ∧ '.' ∉ key ∧ isEchoOption key = false) :
    SearchesRight grep file keys := by
  constructor
  · intro before key after heq hmissing hnew line hline
    have hkey : key ∈ keys := by
      rw [heq]
      exact List.mem_append_right _ List.mem_cons_self
    rcases h key hkey with ⟨hplain, hdot, _⟩
    rw [← Bool.not_eq_true, grep.finds_literal hplain hdot]
    intro hsame
    subst hsame
    exact (List.mem_append.mp hline).elim hmissing hnew
  · intro key hkey _
    exact (h key hkey).right.right
  · intro key hkey
    rcases h key hkey with ⟨hplain, hdot, _⟩
    exact List.any_eq_true.mpr
      ⟨key, List.mem_append_right _ hkey, (grep.finds_literal hplain hdot key).mpr rfl⟩
  · exact Or.inl hended

/-- The search as it is for patterns with no other operators than dots. -/
def dotGrep : Grep where
  finds key line := decide (List.Forall₂ (fun k c => k = '.' ∨ k = c) key line)
  finds_plain _ _ _ := decide_eq_true_iff

instance : Inhabited Grep := ⟨dotGrep⟩

/-- A key with a dot is taken for another one, whatever else `grep` may do. -/
theorem dot_masks_key :
    ¬ exists grep : Grep,
      forall (file : List Char) (history : List (List Char)) past metadata future,
        history = past ++ metadata :: future ->
          Script.zoneinit.Updates grep (Script.zoneinit.boots grep file past) metadata := by
  intro h
  rcases h with ⟨grep, h⟩
  have hupdates := h "ssh-rsa AAAA root@es-mgmt\n".toList ["ssh-rsa AAAA root@es.mgmt".toList]
    [] _ [] rfl
  have hkeys : metadataKeys "ssh-rsa AAAA root@es.mgmt".toList =
      ["ssh-rsa AAAA root@es.mgmt".toList] := by decide
  have hfound : (lines "ssh-rsa AAAA root@es-mgmt\n".toList).any
      (grep.finds "ssh-rsa AAAA root@es.mgmt".toList) = true := by
    apply List.any_eq_true.mpr
    refine ⟨"ssh-rsa AAAA root@es-mgmt".toList, by decide, ?_⟩
    rw [grep.finds_plain _ _ (by decide)]
    decide
  have hpresent := hupdates.present "ssh-rsa AAAA root@es.mgmt".toList
    (by rw [hkeys]; exact List.mem_singleton_self _) (by decide)
  have hboots : Script.zoneinit.boots grep "ssh-rsa AAAA root@es-mgmt\n".toList [] =
      "ssh-rsa AAAA root@es-mgmt\n".toList := rfl
  rw [Script.boot_eq, newKeys, hkeys, hboots, addKeys_found] at hpresent
  · exact absurd hpresent (by decide)
  · intro key hkey
    rw [List.mem_singleton.mp (List.mem_of_mem_filter hkey)]
    exact hfound

end Guest
end EsdcFactory
