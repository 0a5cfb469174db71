import EsdcFactory.Lib.Json
import Mathlib.Data.List.Infix

/-!
# Substitutions of sed

The command `s|text|replacement|`, with a text that has no special characters
and a replacement that somebody pasted into the script.  A replacement can be
written so that it denotes a given text, with an escape for some characters of a
JSON string.
-/

namespace EsdcFactory
namespace Sed

/-!
## Replacements
-/

/-- What a replacement is made of. -/
inductive Piece where
  | char (c : Char)
  /-- `&`, for the text that was found -/
  | matched
  /-- a backslash in front of an ordinary character -/
  | escaped (c : Char)
deriving DecidableEq

/-- A character that does not stand for itself in a replacement. -/
def isSpecial (c : Char) : Bool :=
  c = '&' || c = '\\' || c = '|' || c = '\n'

/-- The replacement up to its delimiter, and the script behind that. -/
def replacement : List Char -> Option (List Piece × List Char)
  | [] => none
  | ['\\'] => none
  | '\\' :: c :: rest =>
      (replacement rest).map fun found =>
        ((if isSpecial c then .char c else .escaped c) :: found.1, found.2)
  | c :: rest =>
      if c = '|' then some ([], rest)
      else if c = '\n' then none
      else
        (replacement rest).map fun found =>
          ((if c = '&' then .matched else .char c) :: found.1, found.2)

def replaceFirst (found text : List Char) : List Char -> List Char
  | [] => []
  | c :: rest =>
      if found.isPrefixOf (c :: rest) then text ++ (c :: rest).drop found.length
      else c :: replaceFirst found text rest

/--
What is up to the program: the meaning of a backslash in front of an ordinary
character, and what the flags behind a substitution make of a line, from the text
to find and the text to put in.
-/
structure Dialect where
  escape : Char -> Option (List Char)
  flags : List Char -> Option (List Char -> List Char -> List Char -> List Char)
  flags_nil : flags [] = some replaceFirst

def Dialect.expand (dialect : Dialect) (found : List Char) : Piece -> Option (List Char)
  | .char c => some [c]
  | .matched => some found
  | .escaped c => dialect.escape c

/-- `s|found|script`, where the script goes on to the end. -/
def substitute (dialect : Dialect) (found script : List Char) :
    Option (List Char -> List Char) := do
  let (pieces, rest) <- replacement script
  let texts <- pieces.mapM (dialect.expand found)
  let run <- dialect.flags rest
  return run found texts.flatten

/-!
## Texts written as replacements
-/

/-- The escapes that a text is written with, as letters behind a backslash. -/
abbrev Letters := Char -> Option Char

/-- The text with its escapes. -/
def inserted (letters : Letters) (text : List Char) : List Char :=
  text.flatMap fun c =>
    match letters c with
    | some letter => ['\\', letter]
    | none => [c]

/-- The text with its escapes, whose backslashes are escaped once more. -/
def script (letters : Letters) (text : List Char) : List Char :=
  text.flatMap fun c =>
    match letters c with
    | some letter => ['\\', '\\', letter]
    | none => [c]

/-- The script denotes the text with its escapes and nothing else. -/
def ReadsLiterally (letters : Letters) (text : List Char) : Prop :=
  replacement (script letters text ++ ['|']) =
    some ((inserted letters text).map .char, [])

instance (letters : Letters) (text : List Char) :
    Decidable (ReadsLiterally letters text) :=
  inferInstanceAs (Decidable (_ = _))

theorem inserted_cons (letters : Letters) (c : Char) (text : List Char) :
    inserted letters (c :: text) =
      (match letters c with
        | some letter => ['\\', letter]
        | none => [c]) ++ inserted letters text := by
  rw [inserted, List.flatMap_cons]
  rfl

theorem script_cons (letters : Letters) (c : Char) (text : List Char) :
    script letters (c :: text) =
      (match letters c with
        | some letter => ['\\', '\\', letter]
        | none => [c]) ++ script letters text := by
  rw [script, List.flatMap_cons]
  rfl

theorem replacement_char {c : Char} (rest : List Char) (h : isSpecial c = false) :
    replacement (c :: rest) =
      (replacement rest).map fun found => (.char c :: found.1, found.2) := by
  simp only [isSpecial, Bool.or_eq_false_iff, decide_eq_false_iff_not] at h
  rcases h with ⟨⟨⟨hamp, hback⟩, hbar⟩, hline⟩
  rw [replacement]
  · simp [hamp, hbar, hline]
  · intro heq
    subst heq
    exact absurd rfl hback
  · intro x y heq
    subst heq
    exact absurd rfl hback

theorem replacement_backslash (c : Char) (rest : List Char) :
    replacement ('\\' :: c :: rest) =
      (replacement rest).map fun found =>
        ((if isSpecial c then .char c else .escaped c) :: found.1, found.2) := by
  rw [replacement]

theorem length_replacement {text rest : List Char} {pieces : List Piece}
    (h : replacement text = some (pieces, rest)) :
    2 * pieces.length + text.count '\\' + 2 + 2 * rest.length ≤
      2 * text.length + rest.count '\\' := by
  induction text using replacement.induct generalizing pieces with
  | case1 => cases h
  | case2 => cases h
  | case3 c text ih =>
      rw [replacement_backslash] at h
      rcases Option.map_eq_some_iff.mp h with ⟨⟨more, behind⟩, hmore, heq⟩
      have hbehind : behind = rest := (Prod.mk.inj heq).right
      subst hbehind
      rw [← (Prod.mk.inj heq).left]
      have hle := ih hmore
      have hcount : (c :: text).count '\\' ≤ text.count '\\' + 1 := by
        rw [List.count_cons]
        split <;> omega
      simp only [List.count_cons_self, List.length_cons]
      omega
  | case4 text hnil hcons =>
      rw [replacement] at h
      · rw [if_pos rfl] at h
        cases h
        rw [List.count_cons_of_ne (by decide)]
        simp
        omega
      · exact hnil
      · exact hcons
  | case5 text hnil hcons hbar =>
      rw [replacement] at h
      · simp at h
      · exact hnil
      · exact hcons
  | case6 c text hnil hcons hbar hline ih =>
      rw [replacement] at h
      · rw [if_neg hbar, if_neg hline] at h
        rcases Option.map_eq_some_iff.mp h with ⟨⟨more, behind⟩, hmore, heq⟩
        have hbehind : behind = rest := (Prod.mk.inj heq).right
        subst hbehind
        rw [← (Prod.mk.inj heq).left]
        have hle := ih hmore
        have hne : c ≠ '\\' := by
          intro hsame
          subst hsame
          cases text with
          | nil => exact hnil rfl rfl
          | cons x text => exact hcons x text rfl rfl
        rw [List.count_cons_of_ne hne]
        simp only [List.length_cons]
        omega
      · exact hnil
      · exact hcons

theorem length_script (letters : Letters) (text : List Char)
    (hletters : forall c letter, letters c = some letter -> isSpecial letter = false) :
    2 * (inserted letters text).length + (script letters text).count '\\' =
      2 * (script letters text).length +
        text.countP (fun c => letters c = none && c = '\\') := by
  induction text with
  | nil => rfl
  | cons c text ih =>
      rw [inserted_cons, script_cons, List.countP_cons]
      cases hc : letters c with
      | some letter =>
          have hne : '\\' ≠ letter := by
            intro heq
            subst heq
            exact absurd (hletters c _ hc) (by decide)
          simp [hne.symm]
          omega
      | none =>
          by_cases hback : c = '\\'
          · simp [hback]
            omega
          · simp [hback]
            omega

theorem ReadsLiterally.cons {letters : Letters} {c : Char} {text : List Char}
    (hletters : forall c letter, letters c = some letter -> isSpecial letter = false)
    (hback : letters c = none -> c ≠ '\\') (h : ReadsLiterally letters (c :: text)) :
    (letters c = none -> isSpecial c = false) ∧ ReadsLiterally letters text := by
  unfold ReadsLiterally at h ⊢
  rw [script_cons, inserted_cons] at h
  cases hc : letters c with
  | some letter =>
      rw [hc] at h
      simp only [List.cons_append, List.nil_append] at h
      rw [replacement_backslash, replacement_char _ (hletters c letter hc),
        Option.map_map] at h
      rcases Option.map_eq_some_iff.mp h with ⟨⟨more, behind⟩, hmore, heq⟩
      cases heq
      exact ⟨nofun, hmore⟩
  | none =>
      rw [hc] at h
      simp only [List.cons_append, List.nil_append] at h
      by_cases hspecial : isSpecial c = true
      · simp only [isSpecial, Bool.or_eq_true, decide_eq_true_eq] at hspecial
        rcases hspecial with ((rfl | rfl) | rfl) | rfl
        · rw [replacement] at h
          · rcases Option.map_eq_some_iff.mp h with ⟨found, _, heq⟩
            cases heq
          · exact nofun
          · exact nofun
        · exact absurd rfl (hback hc)
        · rw [replacement] at h
          · cases h
          · exact nofun
          · exact nofun
        · rw [replacement] at h
          · cases h
          · exact nofun
          · exact nofun
      · have hplain : isSpecial c = false := by simpa using hspecial
        rw [replacement_char _ hplain] at h
        rcases Option.map_eq_some_iff.mp h with ⟨⟨more, behind⟩, hmore, heq⟩
        cases heq
        exact ⟨fun _ => hplain, hmore⟩

/--
A text is read literally exactly when the characters without an escape are not
special ones.
-/
theorem readsLiterally_iff {letters : Letters} {text : List Char}
    (hletters : forall c letter, letters c = some letter -> isSpecial letter = false) :
    ReadsLiterally letters text <->
      forall c, c ∈ text -> letters c = none -> isSpecial c = false := by
  constructor
  · intro h
    have hlength := length_replacement h
    have hscript := length_script letters text hletters
    simp only [List.length_map, List.length_append, List.count_append] at hlength
    have hback : text.countP (fun c => letters c = none && c = '\\') = 0 := by
      have hbar : ['|'].count '\\' = 0 := by decide
      simp only [List.length_cons, List.length_nil, List.count_nil] at hlength
      omega
    have hnone : forall c, c ∈ text -> letters c = none -> c ≠ '\\' := by
      intro c hc hcnone
      simpa [hcnone] using List.countP_eq_zero.mp hback c hc
    clear hlength hscript hback
    induction text with
    | nil => exact nofun
    | cons c text ih =>
        rcases h.cons hletters (hnone c List.mem_cons_self) with ⟨hc, htail⟩
        have hrest := ih htail fun x hx => hnone x (List.mem_cons_of_mem _ hx)
        intro x hx
        rcases List.mem_cons.mp hx with rfl | hx
        · exact hc
        · exact hrest x hx
  · intro h
    induction text with
    | nil => rfl
    | cons c text ih =>
        have htail := ih fun x hx => h x (List.mem_cons_of_mem _ hx)
        unfold ReadsLiterally at htail ⊢
        rw [script_cons, inserted_cons]
        cases hc : letters c with
        | some letter =>
            have hletter := hletters c letter hc
            simp only [List.cons_append, List.nil_append]
            rw [replacement_backslash, replacement_char _ hletter, htail]
            rfl
        | none =>
            simp only [List.cons_append, List.nil_append]
            rw [replacement_char _ (h c List.mem_cons_self hc), htail]
            rfl

/-!
## Counting what a replacement escapes
-/

/-- What a replacement takes of its script. -/
structure Takes (script : List Char) (pieces : List Piece) (rest : List Char) : Prop where
  /-- each escaped character has a backslash, and each backslash is escaped -/
  backslashes : 2 * pieces.count (.char '\\') + pieces.count (.char '&') +
    pieces.count (.char '|') ≤ script.count '\\'
  /-- the delimiters in front of the one that ends it are escaped -/
  delimiters : script.count '|' = pieces.count (.char '|') + 1 + rest.count '|'
  escaped : forall c, .escaped c ∈ pieces -> isSpecial c = false

theorem takes_of_replacement {script rest : List Char} {pieces : List Piece}
    (h : replacement script = some (pieces, rest)) : Takes script pieces rest := by
  induction script using replacement.induct generalizing pieces with
  | case1 => cases h
  | case2 => cases h
  | case3 c text ih =>
      rw [replacement_backslash] at h
      rcases Option.map_eq_some_iff.mp h with ⟨⟨more, behind⟩, hmore, heq⟩
      cases heq
      have htail := ih hmore
      have hback := htail.backslashes
      have hbar := htail.delimiters
      by_cases hspecial : isSpecial c = true
      · rw [if_pos hspecial]
        refine ⟨?_, ?_, ?_⟩
        · simp only [isSpecial, Bool.or_eq_true, decide_eq_true_eq] at hspecial
          rcases hspecial with ((rfl | rfl) | rfl) | rfl <;>
            simp <;> omega
        · simp [List.count_cons, hbar]
          omega
        · intro x hx
          rcases List.mem_cons.mp hx with heq | hx
          · cases heq
          · exact htail.escaped x hx
      · have hplain : isSpecial c = false := by simpa using hspecial
        have hne := hplain
        simp only [isSpecial, Bool.or_eq_false_iff, decide_eq_false_iff_not] at hne
        rw [if_neg hspecial]
        refine ⟨?_, ?_, ?_⟩
        · simp [List.count_cons]
          omega
        · simp [hbar, hne]
        · intro x hx
          rcases List.mem_cons.mp hx with heq | hx
          · cases heq
            exact hplain
          · exact htail.escaped x hx
  | case4 text hnil hcons =>
      rw [replacement] at h
      · rw [if_pos rfl] at h
        cases h
        exact ⟨by simp, by simp [Nat.add_comm], nofun⟩
      · exact hnil
      · exact hcons
  | case5 text hnil hcons hbar =>
      rw [replacement] at h
      · simp at h
      · exact hnil
      · exact hcons
  | case6 c text hnil hcons hbar hline ih =>
      rw [replacement] at h
      · rw [if_neg hbar, if_neg hline] at h
        rcases Option.map_eq_some_iff.mp h with ⟨⟨more, behind⟩, hmore, heq⟩
        cases heq
        have htail := ih hmore
        have hback := htail.backslashes
        have hdelimiters := htail.delimiters
        have hne : c ≠ '\\' := by
          intro hsame
          subst hsame
          cases text with
          | nil => exact hnil rfl rfl
          | cons x text => exact hcons x text rfl rfl
        refine ⟨?_, ?_, ?_⟩
        · by_cases hamp : c = '&'
          · simp [hamp]
            omega
          · simp [hamp, hne, hbar]
            omega
        · by_cases hamp : c = '&'
          · simp [hamp, hdelimiters]
          · simp [hamp, hbar, hdelimiters]
        · intro x hx
          rcases List.mem_cons.mp hx with heq | hx
          · split at heq <;> cases heq
          · exact htail.escaped x hx
      · exact hnil
      · exact hcons

theorem count_script {letters : Letters} (text : List Char)
    (hletters : forall c letter, letters c = some letter -> isSpecial letter = false)
    (hback : letters '\\' = none) :
    (script letters text).count '\\' =
      text.count '\\' + 2 * text.countP (fun c => (letters c).isSome) := by
  induction text with
  | nil => rfl
  | cons c text ih =>
      rw [script_cons, List.count_append, ih, List.countP_cons, List.count_cons]
      cases hc : letters c with
      | some letter =>
          have hletter : letter ≠ '\\' := by
            intro heq
            subst heq
            exact absurd (hletters c _ hc) (by decide)
          have hne : c ≠ '\\' := by
            intro heq
            subst heq
            rw [hback] at hc
            cases hc
          simp [hletter, hne]
          omega
      | none =>
          simp [List.count_cons]
          omega

theorem count_bar_script {letters : Letters} (text : List Char)
    (hletters : forall c letter, letters c = some letter -> isSpecial letter = false)
    (hbar : letters '|' = none) : (script letters text).count '|' = text.count '|' := by
  induction text with
  | nil => rfl
  | cons c text ih =>
      rw [script_cons, List.count_append, ih, List.count_cons]
      cases hc : letters c with
      | some letter =>
          have hletter : letter ≠ '|' := by
            intro heq
            subst heq
            exact absurd (hletters c _ hc) (by decide)
          have hne : c ≠ '|' := by
            intro heq
            subst heq
            rw [hbar] at hc
            cases hc
          simp [hletter, hne]
      | none =>
          simp [List.count_cons]
          omega

theorem replacement_letter {letter : Char} (rest : List Char) (h : isSpecial letter = false) :
    replacement ('\\' :: '\\' :: letter :: rest) =
      (replacement rest).map fun found => (.char '\\' :: .char letter :: found.1, found.2) := by
  rw [replacement_backslash, replacement_char _ h, Option.map_map]
  rfl

/-- A text without delimiters and backslashes leaves nothing to the program. -/
theorem replacement_free {letters : Letters} {text : List Char}
    (hletters : forall c letter, letters c = some letter -> isSpecial letter = false)
    (h : forall c, c ∈ text -> letters c = none -> c ≠ '|' ∧ c ≠ '\\' ∧ c ≠ '\n') :
    exists pieces, replacement (script letters text ++ ['|']) = some (pieces, []) ∧
      forall c, .escaped c ∉ pieces := by
  induction text with
  | nil => exact ⟨[], rfl, nofun⟩
  | cons c text ih =>
      rcases ih fun x hx => h x (List.mem_cons_of_mem _ hx) with ⟨pieces, hpieces, hfree⟩
      rw [script_cons]
      cases hc : letters c with
      | some letter =>
          refine ⟨.char '\\' :: .char letter :: pieces, ?_, ?_⟩
          · simp only [List.cons_append, List.nil_append]
            rw [replacement_letter _ (hletters c letter hc), hpieces]
            rfl
          · intro x hx
            simp [hfree x] at hx
      | none =>
          rcases h c List.mem_cons_self hc with ⟨hbar, hback, hline⟩
          simp only [List.cons_append, List.nil_append]
          by_cases hamp : c = '&'
          · refine ⟨.matched :: pieces, ?_, ?_⟩
            · rw [hamp, replacement, hpieces]
              · rfl
              · exact nofun
              · exact nofun
            · intro x hx
              simp [hfree x] at hx
          · have hplain : isSpecial c = false := by
              simp [isSpecial, hamp, hback, hbar, hline]
            refine ⟨.char c :: pieces, ?_, ?_⟩
            · rw [replacement_char _ hplain, hpieces]
              rfl
            · intro x hx
              simp [hfree x] at hx

/-!
## Running a substitution
-/

theorem mapM_expand_char (dialect : Dialect) (found text : List Char) :
    (text.map Piece.char).mapM (dialect.expand found) = some (text.map fun c => [c]) := by
  induction text with
  | nil => rfl
  | cons c text ih =>
      rw [List.map_cons, List.mapM_cons, ih]
      rfl

/-- A text that is read literally is what the substitution puts in. -/
theorem substitute_of_readsLiterally (dialect : Dialect) (found : List Char)
    {letters : Letters} {text : List Char} (h : ReadsLiterally letters text) :
    substitute dialect found (script letters text ++ ['|']) =
      some (replaceFirst found (inserted letters text)) := by
  have hflatten : ((inserted letters text).map fun c => [c]).flatten =
      inserted letters text := by
    rw [← List.flatMap_def]
    exact List.flatMap_singleton' _
  rw [substitute, h]
  simp only [Option.bind_eq_bind, Option.bind_some, mapM_expand_char, dialect.flags_nil,
    hflatten]
  rfl

theorem replaceFirst_eq_self {found : List Char} (text : List Char) {line : List Char}
    (h : ¬ found <:+: line) : replaceFirst found text line = line := by
  induction line with
  | nil => rfl
  | cons c line ih =>
      have hpath : found.isPrefixOf (c :: line) = false := by
        by_contra htrue
        have hpre : found <+: c :: line :=
          List.isPrefixOf_iff_prefix.mp (by simpa using htrue)
        exact h hpre.isInfix
      have htail : ¬ found <:+: line :=
        fun hin => h (hin.trans (List.suffix_cons c line).isInfix)
      rw [replaceFirst, hpath, ih htail]
      rfl

theorem replaceFirst_found {c : Char} (found : List Char) {pre : List Char}
    (text post : List Char) (h : c ∉ pre) :
    replaceFirst (c :: found) text (pre ++ (c :: found ++ post)) = pre ++ (text ++ post) := by
  induction pre with
  | nil =>
      have hpath : (c :: found).isPrefixOf (c :: (found ++ post)) = true :=
        List.isPrefixOf_iff_prefix.mpr ⟨post, rfl⟩
      rw [List.nil_append, List.cons_append, replaceFirst, hpath, if_pos rfl]
      simp
  | cons d pre ih =>
      have hne : c ≠ d := fun heq => h (heq ▸ List.mem_cons_self)
      have htail := ih fun hmem => h (List.mem_cons_of_mem _ hmem)
      rw [List.cons_append, replaceFirst, htail]
      simp [List.isPrefixOf, hne]

/-!
## Texts between two marks
-/

/-- A text with a mark before and behind it. -/
def marked (mark : Char) (text : List Char) : List Char :=
  mark :: (text ++ [mark])

theorem infix_of_append_left {c : Char} {found pre text : List Char} (h : c ∉ pre)
    (hin : c :: found <:+: pre ++ text) : c :: found <:+: text := by
  induction pre with
  | nil => exact hin
  | cons d pre ih =>
      rcases List.infix_cons_iff.mp hin with hpath | htail
      · rcases List.cons_prefix_cons.mp hpath with ⟨heq, _⟩
        exact absurd (heq ▸ List.mem_cons_self) h
      · exact ih (fun hmem => h (List.mem_cons_of_mem _ hmem)) htail

theorem infix_of_append_right {c : Char} {found text post : List Char} (h : c ∉ post)
    (hin : found ++ [c] <:+: text ++ post) : found ++ [c] <:+: text := by
  rw [← List.reverse_infix, List.reverse_append, List.reverse_singleton] at hin ⊢
  rw [List.reverse_append] at hin
  exact infix_of_append_left (fun hmem => h (List.mem_reverse.mp hmem)) hin

theorem marked_infix_iff {mark : Char} {name pre text post : List Char}
    (hpre : mark ∉ pre) (hpost : mark ∉ post) :
    marked mark name <:+: pre ++ (text ++ post) <-> marked mark name <:+: text := by
  constructor
  · intro h
    have hright : (mark :: name) ++ [mark] <:+: text ++ post := infix_of_append_left hpre h
    exact infix_of_append_right hpost hright
  · intro h
    exact h.trans ⟨pre, post, by simp⟩

theorem eq_of_marked_prefix {mark : Char} {name other : List Char}
    (hname : mark ∉ name) (hother : mark ∉ other)
    (h : name ++ [mark] <+: other ++ [mark]) : name = other := by
  induction name generalizing other with
  | nil =>
      cases other with
      | nil => rfl
      | cons d other =>
          rcases List.cons_prefix_cons.mp h with ⟨heq, _⟩
          exact absurd (heq ▸ List.mem_cons_self) hother
  | cons c name ih =>
      cases other with
      | nil =>
          rcases List.cons_prefix_cons.mp h with ⟨heq, _⟩
          exact absurd (heq ▸ List.mem_cons_self) hname
      | cons d other =>
          rcases List.cons_prefix_cons.mp h with ⟨heq, htail⟩
          have htails := ih (fun hmem => hname (List.mem_cons_of_mem _ hmem))
            (fun hmem => hother (List.mem_cons_of_mem _ hmem)) htail
          rw [heq, htails]

theorem eq_of_marked_infix {mark : Char} {name other : List Char}
    (hname : mark ∉ name) (hother : mark ∉ other)
    (h : marked mark name <:+: marked mark other) : name = other := by
  rcases List.infix_cons_iff.mp h with hpath | htail
  · exact eq_of_marked_prefix hname hother (List.cons_prefix_cons.mp hpath).right
  · have hlast : marked mark name <:+: [mark] := infix_of_append_left hother htail
    have hlength := hlast.length_le
    simp [marked] at hlength

/-!
## Other delimiters
-/

/-- A character that does not stand for itself in front of a delimiter. -/
def isSpecialTo (delimiter c : Char) : Bool :=
  c = '&' || c = '\\' || c = delimiter || c = '\n'

/-- The replacement up to some delimiter, and the script behind that. -/
def replacementTo (delimiter : Char) : List Char -> Option (List Piece × List Char)
  | [] => none
  | ['\\'] => none
  | '\\' :: c :: rest =>
      (replacementTo delimiter rest).map fun found =>
        ((if isSpecialTo delimiter c then .char c else .escaped c) :: found.1, found.2)
  | c :: rest =>
      if c = delimiter then some ([], rest)
      else if c = '\n' then none
      else
        (replacementTo delimiter rest).map fun found =>
          ((if c = '&' then .matched else .char c) :: found.1, found.2)

theorem replacement_eq (text : List Char) : replacement text = replacementTo '|' text := by
  induction text using replacement.induct with
  | case1 => rfl
  | case2 => rfl
  | case3 c text ih =>
      rw [replacement_backslash, ih, replacementTo]
      rfl
  | case4 text hnil hcons =>
      rw [replacement, replacementTo, if_pos rfl, if_pos rfl] <;> assumption
  | case5 text hnil hcons hbar =>
      rw [replacement, replacementTo, if_pos rfl, if_pos rfl] <;> assumption
  | case6 c text hnil hcons hbar hline ih =>
      rw [replacement, replacementTo, ih] <;> assumption

theorem replacementTo_char {delimiter c : Char} (rest : List Char)
    (h : isSpecialTo delimiter c = false) :
    replacementTo delimiter (c :: rest) =
      (replacementTo delimiter rest).map fun found => (.char c :: found.1, found.2) := by
  simp only [isSpecialTo, Bool.or_eq_false_iff, decide_eq_false_iff_not] at h
  rcases h with ⟨⟨⟨hamp, hback⟩, hdelimiter⟩, hline⟩
  rw [replacementTo]
  · simp [hamp, hdelimiter, hline]
  · exact fun heq => absurd heq hback
  · exact fun _ _ heq => absurd heq hback

/-- Characters that are not special stand for themselves. -/
theorem replacementTo_chars {delimiter : Char} {text : List Char} (hback : delimiter ≠ '\\')
    (h : forall c, c ∈ text -> isSpecialTo delimiter c = false) :
    replacementTo delimiter (text ++ [delimiter]) = some (text.map .char, []) := by
  induction text with
  | nil =>
      rw [List.nil_append, replacementTo, if_pos rfl]
      · rfl
      · exact fun heq => absurd heq hback
      · exact fun _ _ heq => absurd heq hback
  | cons c text ih =>
      rw [List.cons_append, replacementTo_char _ (h c List.mem_cons_self),
        ih fun x hx => h x (List.mem_cons_of_mem c hx)]
      rfl

/-!
## Strings with escapes
-/

theorem readPieces_inserted_iff {letters : Letters} {n : Nat} {text : List Char}
    (rest : List Char) (hn : text.length < n)
    (hjson : forall c letter, letters c = some letter -> Json.letterEscape letter = some c)
    (hback : forall c, c ∈ text -> letters c = none -> c ≠ '\\') :
    Json.readPieces n (inserted letters text ++ '"' :: rest) = some (text, rest) <->
      forall c, c ∈ text -> letters c = none -> Json.isLiteral c = true := by
  induction text generalizing n with
  | nil =>
      cases n with
      | zero => cases hn
      | succ n => exact iff_of_true rfl nofun
  | cons c text ih =>
      cases n with
      | zero => cases hn
      | succ n =>
          have htail := ih (n := n) (Nat.lt_of_succ_lt_succ hn)
            (fun x hx => hback x (List.mem_cons_of_mem _ hx))
          have hcons : forall found : Option (List Char × List Char),
              (found.map fun x => (c :: x.1, x.2)) = some (c :: text, rest) <->
                found = some (text, rest) := by
            intro found
            cases found with
            | none => simp
            | some x =>
                rcases x with ⟨out, behind⟩
                simp
          rw [List.forall_mem_cons, ← htail, inserted_cons]
          cases hc : letters c with
          | some letter =>
              have hpiece := Json.piece_letter
                (inserted letters text ++ '"' :: rest) (hjson c letter hc)
              simp only [List.cons_append, List.nil_append]
              rw [Json.readPieces_piece (by simp) hpiece, hcons]
              simp
          | none =>
              simp only [List.cons_append, List.nil_append]
              by_cases hliteral : Json.isLiteral c = true
              · have hquote : c ≠ '"' := by
                  intro heq
                  subst heq
                  cases hliteral
                rw [Json.readPieces_piece (by simpa using hquote)
                  (Json.piece_literal _ hliteral), hcons]
                simp [hliteral]
              · apply iff_of_false
                · intro hread
                  by_cases hquote : c = '"'
                  · subst hquote
                    cases hread
                  · have hcontrol : Json.isControl c = true := by
                      simpa [Json.isLiteral, hquote,
                        hback c List.mem_cons_self hc] using hliteral
                    rw [Json.readPieces, if_neg (by simpa using hquote),
                      Json.piece_control _ (hback c List.mem_cons_self hc) hcontrol] at hread
                    cases hread
                · exact fun h => hliteral (h.left trivial)

theorem length_le_inserted (letters : Letters) (text : List Char) :
    text.length ≤ (inserted letters text).length := by
  induction text with
  | nil => exact Nat.le_refl _
  | cons c text ih =>
      rw [inserted_cons, List.length_append]
      cases letters c <;> simp <;> omega

theorem readString_inserted_iff {letters : Letters} {text : List Char} (rest : List Char)
    (hjson : forall c letter, letters c = some letter -> Json.letterEscape letter = some c)
    (hback : forall c, c ∈ text -> letters c = none -> c ≠ '\\') :
    Json.readString (inserted letters text ++ '"' :: rest) = some (text, rest) <->
      forall c, c ∈ text -> letters c = none -> Json.isLiteral c = true := by
  refine readPieces_inserted_iff rest ?_ hjson hback
  have hle := length_le_inserted letters text
  rw [List.length_append]
  omega

end Sed
end EsdcFactory
