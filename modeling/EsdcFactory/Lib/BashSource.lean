import Mathlib.Data.List.Infix

/-!
# Files of assignments that bash sources

How the shell reads a file in which every command assigns a word to a variable.
Quotes are removed from a word.  A word that asks for an expansion is given no text,
since that depends on where it is read, and neither is a file that would run a
command.
-/

namespace EsdcFactory
namespace BashSource

/-!
## Words
-/

/-- Where in a word the reader stands. -/
inductive Place where
  /-- outside of quotes, where a tilde may be expanded or not -/
  | plain (tilde : Bool)
  | single
  | double
  | escaped (tilde : Bool)
  | escapedInDouble
deriving DecidableEq

/-- A word that is being read, with the text it has so far. -/
structure Word where
  text : List Char
  place : Place

/-- What one more character makes of a word. -/
inductive Step where
  | more (w : Word)
  | ended
  | failed

/-- Characters that end the word of an assignment. -/
def endsWord (c : Char) : Bool :=
  c = ' ' || c = '\t' || c = '\n' || c = ';'

/-- Characters that make more than an assignment of what they stand next to. -/
def isOperator (c : Char) : Bool :=
  c = '|' || c = '&' || c = '(' || c = ')' || c = '<' || c = '>' || c = '`'

def startsName (c : Char) : Bool :=
  c.isAlpha || c = '_'

def inName (c : Char) : Bool :=
  c.isAlphanum || c = '_'

/--
Characters that a dollar sign makes an expansion of.  A backslash may continue the
line in between.
-/
def startsExpansion (c : Char) : Bool :=
  inName c || c = '{' || c = '(' || c = '[' || c = '@' || c = '*' || c = '#' ||
    c = '?' || c = '-' || c = '$' || c = '!' || c = '\\'

/-- A backslash and the two quotes. -/
def isMark (c : Char) : Bool :=
  c = '\'' || c = '"' || c = '\\'

/-- Quotes behind a dollar sign are a form of quoting of their own. -/
def expands (next : Option Char) : Bool :=
  next.any fun c => startsExpansion c || isMark c

def plainStep (tilde : Bool) (text : List Char) (c : Char) (next : Option Char) : Step :=
  if endsWord c then .ended
  else if isOperator c then .failed
  else if c = '\'' then .more ⟨text, .single⟩
  else if c = '"' then .more ⟨text, .double⟩
  else if c = '\\' then .more ⟨text, .escaped tilde⟩
  else if c = '$' && expands next then .failed
  else if c = '~' && tilde then .failed
  else .more ⟨text ++ [c], .plain (c = ':')⟩

def doubleStep (text : List Char) (c : Char) (next : Option Char) : Step :=
  if c = '"' then .more ⟨text, .plain false⟩
  else if c = '\\' then .more ⟨text, .escapedInDouble⟩
  else if c = '`' then .failed
  else if c = '$' ∧ next.any startsExpansion then .failed
  else .more ⟨text ++ [c], .double⟩

def Word.step (w : Word) (c : Char) (next : Option Char) : Step :=
  match w.place with
  | .plain tilde => plainStep tilde w.text c next
  | .single =>
      if c = '\'' then .more ⟨w.text, .plain false⟩ else .more ⟨w.text ++ [c], .single⟩
  | .double => doubleStep w.text c next
  | .escaped tilde =>
      if c = '\n' then .more ⟨w.text, .plain tilde⟩
      else .more ⟨w.text ++ [c], .plain false⟩
  | .escapedInDouble =>
      if c = '\n' then .more ⟨w.text, .double⟩
      else if c = '$' ∨ c = '`' ∨ c = '"' ∨ c = '\\' then .more ⟨w.text ++ [c], .double⟩
      else .more ⟨w.text ++ ['\\', c], .double⟩

/-- The text of a word at the end of the input. -/
def Word.final (w : Word) : Option (List Char) :=
  match w.place with
  | .plain _ => some w.text
  | _ => none

/-- Read a word to its end, with the input from there on. -/
def readWord : Word -> List Char -> Option (List Char × List Char)
  | w, [] => w.final.map fun text => (text, [])
  | w, c :: cs =>
      match w.step c cs.head? with
      | .more w' => readWord w' cs
      | .ended => some (w.text, c :: cs)
      | .failed => none

/-- The word behind the equals sign of an assignment. -/
def Word.start : Word := ⟨[], .plain true⟩

/-!
## Files
-/

def isBlank (c : Char) : Bool :=
  c = ' ' || c = '\t'

/-- The input behind an assignment and its separator. -/
def behindAssignment (rest : List Char) : List Char :=
  match rest.dropWhile isBlank with
  | ';' :: rest => rest
  | rest => rest

/-- The assignments of a file, when it has nothing but assignments and comments. -/
def assignments : Nat -> List Char -> Option (List (List Char × List Char))
  | 0, _ => none
  | _ + 1, [] => some []
  | n + 1, c :: cs =>
      if isBlank c || c = '\n' then assignments n cs
      else if c = '#' then assignments n (cs.dropWhile (· ≠ '\n'))
      else if startsName c then
        match cs.dropWhile inName with
        | '=' :: word =>
            (readWord .start word).bind fun read =>
              (assignments n (behindAssignment read.2)).map fun more =>
                (c :: cs.takeWhile inName, read.1) :: more
        | _ => none
      else none

/-- What sourcing a text assigns, in the order of the file. -/
def source (text : List Char) : Option (List (List Char × List Char)) :=
  assignments (text.length + 1) text

/-!
## Characters that stand for themselves
-/

/-- A character outside of quotes that is read as itself. -/
def isSelf (tilde : Bool) (c : Char) (next : Option Char) : Bool :=
  !endsWord c && !isOperator c && !isMark c && !(c = '$' && expands next) &&
    !(c = '~' && tilde)

/-- Text that is read as itself outside of quotes. -/
def isBare : Bool -> List Char -> Bool
  | _, [] => true
  | tilde, c :: cs => isSelf tilde c cs.head? && isBare (c = ':') cs

theorem plainStep_self {tilde : Bool} {c : Char} {next : Option Char} (text : List Char)
    (h : isSelf tilde c next = true) :
    plainStep tilde text c next = .more ⟨text ++ [c], .plain (c = ':')⟩ := by
  simp only [isSelf, isMark, Bool.and_eq_true, Bool.not_eq_true', Bool.or_eq_false_iff,
    decide_eq_false_iff_not] at h
  rcases h with ⟨⟨⟨⟨hend, hop⟩, ⟨hsingle, hdouble⟩, hback⟩, hdollar⟩, htilde⟩
  rw [plainStep, hend, hop, hdollar, htilde]
  simp [hsingle, hdouble, hback]

theorem plainStep_more {tilde : Bool} {text : List Char} {c : Char} {next : Option Char}
    {w : Word} (h : plainStep tilde text c next = .more w) :
    isSelf tilde c next = true ∧ w = ⟨text ++ [c], .plain (c = ':')⟩ ∨
      isMark c = true ∧ w.text = text ∧
        (w.place = .single ∨ w.place = .double ∨ w.place = .escaped tilde) := by
  unfold plainStep at h
  split_ifs at h with hend hop hsingle hdouble hback hdollar htilde
  · cases h
    exact Or.inr ⟨by simp [isMark, hsingle], rfl, Or.inl rfl⟩
  · cases h
    exact Or.inr ⟨by simp [isMark, hdouble], rfl, Or.inr (Or.inl rfl)⟩
  · cases h
    exact Or.inr ⟨by simp [isMark, hback], rfl, Or.inr (Or.inr rfl)⟩
  · cases h
    have hmark : isMark c = false := by simp [isMark, hsingle, hdouble, hback]
    refine Or.inl ⟨?_, rfl⟩
    rw [isSelf, hmark, Bool.eq_false_iff.mpr hdollar,
      Bool.eq_false_iff.mpr htilde]
    simp [hend, hop]

theorem expands_newline : expands (some '\n') = false := by
  decide

theorem isSelf_newline {tilde : Bool} {c : Char} (cs rest : List Char) :
    isSelf tilde c (cs ++ '\n' :: rest).head? = isSelf tilde c cs.head? := by
  cases cs with
  | nil =>
      rw [List.nil_append, List.head?_cons, isSelf, expands_newline]
      rfl
  | cons d cs => rfl

theorem readWord_newline (text rest : List Char) (tilde : Bool) :
    readWord ⟨text, .plain tilde⟩ ('\n' :: rest) = some (text, '\n' :: rest) := by
  simp [readWord, Word.step, plainStep, endsWord]

theorem readWord_bare {tilde : Bool} {cs : List Char} (text rest : List Char)
    (h : isBare tilde cs = true) :
    readWord ⟨text, .plain tilde⟩ (cs ++ '\n' :: rest) =
      some (text ++ cs, '\n' :: rest) := by
  induction cs generalizing tilde text with
  | nil =>
      rw [List.nil_append, List.append_nil]
      exact readWord_newline text rest tilde
  | cons c cs ih =>
      rcases Bool.and_eq_true_iff.mp h with ⟨hself, hrest⟩
      rw [← isSelf_newline cs rest] at hself
      rw [List.cons_append, readWord, Word.step]
      simp only
      rw [plainStep_self text hself]
      simp only
      rw [ih _ hrest, List.append_assoc]
      rfl

theorem readWord_single {cs : List Char} (text rest : List Char) (h : '\'' ∉ cs) :
    readWord ⟨text, .single⟩ (cs ++ '\'' :: rest) =
      readWord ⟨text ++ cs, .plain false⟩ rest := by
  induction cs generalizing text with
  | nil => simp [readWord, Word.step]
  | cons c cs ih =>
      have hne : c ≠ '\'' := fun heq => h (heq ▸ List.mem_cons_self)
      have htail := ih (text ++ [c]) fun hmem => h (List.mem_cons_of_mem _ hmem)
      rw [List.cons_append, readWord, Word.step]
      simp only [hne, if_false]
      rw [htail, List.append_assoc]
      rfl

/-!
## What quoting costs
-/

/-- A character that is neither removed from a word nor put into it. -/
def isOrdinary (c : Char) : Bool :=
  !isMark c && c ≠ '\n'

def marks (text : List Char) : Nat :=
  text.countP isMark

def ordinaries (text : List Char) : Nat :=
  text.countP isOrdinary

/-- The marks that a word has, with a backslash that is not decided yet. -/
def Word.marks (w : Word) : Nat :=
  BashSource.marks w.text + if w.place = .escapedInDouble then 1 else 0

/-- The quotes that a word needs to end. -/
def Word.closing (w : Word) : Nat :=
  match w.place with
  | .plain _ => 0
  | .escaped _ => 0
  | .single => 1
  | .double => 1
  | .escapedInDouble => 1

theorem marks_append (xs ys : List Char) : marks (xs ++ ys) = marks xs + marks ys :=
  List.countP_append

theorem ordinaries_append (xs ys : List Char) :
    ordinaries (xs ++ ys) = ordinaries xs + ordinaries ys :=
  List.countP_append

theorem marks_cons (c : Char) (cs : List Char) :
    marks (c :: cs) = marks [c] + marks cs :=
  marks_append [c] cs

theorem ordinaries_cons (c : Char) (cs : List Char) :
    ordinaries (c :: cs) = ordinaries [c] + ordinaries cs :=
  ordinaries_append [c] cs

theorem ordinaries_mark {c : Char} (h : isMark c = true) : ordinaries [c] = 0 := by
  simp [ordinaries, isOrdinary, h]

theorem marks_mark {c : Char} (h : isMark c = true) : marks [c] = 1 := by
  simp [marks, h]

theorem ordinaries_newline : ordinaries ['\n'] = 0 := by
  decide

theorem plain_more {tilde : Bool} {text : List Char} {c : Char} {next : Option Char}
    {w : Word} (h : plainStep tilde text c next = .more w) :
    ordinaries w.text = ordinaries text + ordinaries [c] ∧
      w.marks ≤ marks text + marks [c] + w.closing := by
  rcases plainStep_more h with ⟨_, rfl⟩ | ⟨hmark, htext, hplace⟩
  · constructor
    · exact ordinaries_append text [c]
    · simp [Word.marks, Word.closing, marks_append]
  · rw [htext, ordinaries_mark hmark, Word.marks, htext]
    rcases hplace with hplace | hplace | hplace <;>
      simp [hplace, Word.closing] <;> omega

theorem double_more {text : List Char} {c : Char} {next : Option Char} {w : Word}
    (h : doubleStep text c next = .more w) :
    ordinaries w.text = ordinaries text + ordinaries [c] ∧
      w.marks + 1 ≤ marks text + marks [c] + w.closing := by
  unfold doubleStep at h
  split_ifs at h with hquote hback hgrave hdollar
  · cases h
    simp [hquote, Word.marks, Word.closing, ordinaries_mark, marks_mark, isMark]
  · cases h
    simp [hback, Word.marks, Word.closing, ordinaries_mark, marks_mark, isMark]
  · cases h
    simp [Word.marks, Word.closing, marks_append, ordinaries_append]

theorem step_more {w w' : Word} {c : Char} {next : Option Char}
    (h : w.step c next = .more w') :
    ordinaries w'.text = ordinaries w.text + ordinaries [c] ∧
      w'.marks + w.closing ≤ w.marks + marks [c] + w'.closing := by
  rcases w with ⟨text, place⟩
  cases place with
  | plain tilde => simpa [Word.marks, Word.closing] using plain_more h
  | double => simpa [Word.marks, Word.closing] using double_more h
  | single =>
      simp only [Word.step] at h
      split at h
      · rename_i hc
        cases h
        simp [hc, Word.marks, Word.closing, ordinaries_mark, marks_mark, isMark]
      · cases h
        simp [Word.marks, Word.closing, marks_append, ordinaries_append]
  | escaped tilde =>
      simp only [Word.step] at h
      split at h
      · rename_i hc
        cases h
        simp [hc, Word.marks, Word.closing, ordinaries_newline]
      · cases h
        simp [Word.marks, Word.closing, marks_append, ordinaries_append]
  | escapedInDouble =>
      simp only [Word.step] at h
      split_ifs at h with hc hspecial
      · cases h
        simp [hc, Word.marks, Word.closing, ordinaries_newline]
        omega
      · cases h
        simp [Word.marks, Word.closing, marks_append, ordinaries_append]
      · cases h
        have hback : ordinaries ['\\', c] = ordinaries [c] := by
          rw [ordinaries_cons, ordinaries_mark (by decide), Nat.zero_add]
        have hmarks : marks ['\\', c] = 1 + marks [c] := by
          rw [marks_cons, marks_mark (by decide)]
        simp [Word.marks, Word.closing, marks_append, ordinaries_append, hback, hmarks]
        omega

theorem step_ended {w : Word} {c : Char} {next : Option Char}
    (h : w.step c next = .ended) : exists tilde, w.place = .plain tilde := by
  rcases w with ⟨text, place⟩
  cases place with
  | plain tilde => exact ⟨tilde, rfl⟩
  | single =>
      simp only [Word.step] at h
      split at h <;> cases h
  | double =>
      simp only [Word.step, doubleStep] at h
      split_ifs at h
  | escaped tilde =>
      simp only [Word.step] at h
      split at h <;> cases h
  | escapedInDouble =>
      simp only [Word.step] at h
      split_ifs at h

theorem readWord_counts {w : Word} {cs text rest : List Char}
    (h : readWord w cs = some (text, rest)) :
    rest <:+ cs ∧ ordinaries text + ordinaries rest = ordinaries w.text + ordinaries cs ∧
      marks text + w.closing + marks rest ≤ w.marks + marks cs := by
  induction cs generalizing w with
  | nil =>
      rcases w with ⟨read, place⟩
      cases place with
      | plain tilde =>
          cases h
          simp [Word.marks, Word.closing]
      | single => cases h
      | double => cases h
      | escaped tilde => cases h
      | escapedInDouble => cases h
  | cons c cs ih =>
      rw [readWord] at h
      cases hstep : w.step c cs.head? with
      | more w' =>
          rw [hstep] at h
          rcases ih h with ⟨hsuffix, hord, hmarks⟩
          rcases step_more hstep with ⟨hstepOrd, hstepMarks⟩
          refine ⟨hsuffix.trans (List.suffix_cons c cs), ?_, ?_⟩
          · rw [ordinaries_cons c cs]
            omega
          · rw [marks_cons c cs]
            omega
      | ended =>
          rw [hstep] at h
          cases h
          rcases w with ⟨read, place⟩
          rcases step_ended hstep with ⟨tilde, hplace⟩
          simp only at hplace
          subst hplace
          simp [Word.marks, Word.closing]
      | failed =>
          rw [hstep] at h
          cases h

theorem isSelf_none {tilde : Bool} {c : Char} {next : Option Char}
    (h : isSelf tilde c next = true) : isSelf tilde c none = true := by
  simp only [isSelf, Bool.and_eq_true] at h ⊢
  rcases h with ⟨⟨hother, _⟩, htilde⟩
  refine ⟨⟨hother, ?_⟩, htilde⟩
  simp [expands]

theorem isBare_cons {tilde : Bool} {c : Char} {bare rest : List Char}
    (hself : isSelf tilde c (bare ++ rest).head? = true)
    (h : isBare (c = ':') bare = true) : isBare tilde (c :: bare) = true := by
  rw [isBare, h, Bool.and_true]
  cases bare with
  | nil => exact isSelf_none hself
  | cons d bare => exact hself

theorem readWord_plain {tilde : Bool} {read cs text rest : List Char}
    (h : readWord ⟨read, .plain tilde⟩ cs = some (text, rest)) :
    marks text + marks rest < marks read + marks cs ∨
      exists bare, cs = bare ++ rest ∧ text = read ++ bare ∧ isBare tilde bare = true := by
  induction cs generalizing tilde read with
  | nil =>
      cases h
      exact Or.inr ⟨[], rfl, (List.append_nil _).symm, rfl⟩
  | cons c cs ih =>
      rw [readWord] at h
      cases hstep : Word.step ⟨read, .plain tilde⟩ c cs.head? with
      | more w =>
          rw [hstep] at h
          rcases plainStep_more hstep with ⟨hself, rfl⟩ | ⟨hmark, htext, hplace⟩
          · rcases ih h with hlost | ⟨bare, rfl, rfl, hbare⟩
            · have hread : marks (read ++ [c]) = marks read + marks [c] :=
                marks_append read [c]
              have hcs : marks (c :: cs) = marks [c] + marks cs := marks_cons c cs
              simp only [hread] at hlost
              exact Or.inl (by omega)
            · exact Or.inr ⟨c :: bare, rfl, by simp, isBare_cons hself hbare⟩
          · have hmarks := (readWord_counts h).right.right
            have hword : w.marks = marks read := by
              rw [Word.marks, htext]
              rcases hplace with hplace | hplace | hplace <;> simp [hplace]
            rw [hword] at hmarks
            rw [marks_cons, marks_mark hmark]
            exact Or.inl (by omega)
      | ended =>
          rw [hstep] at h
          cases h
          exact Or.inr ⟨[], rfl, (List.append_nil _).symm, rfl⟩
      | failed =>
          rw [hstep] at h
          cases h

/-!
## Words at the end of a line
-/

/-- Behind newlines, a text goes on with an ordinary character or not at all. -/
def isShielded (text : List Char) : Bool :=
  (text.dropWhile (· = '\n')).head?.all isOrdinary

theorem ordinaries_pos_of_isShielded {text rest : List Char}
    (h : isShielded (text ++ rest) = true) (hmarks : 0 < marks text) :
    0 < ordinaries text := by
  induction text with
  | nil => cases hmarks
  | cons c text ih =>
      rw [marks_cons] at hmarks
      rw [ordinaries_cons]
      by_cases hline : c = '\n'
      · subst hline
        have hnone : marks ['\n'] = 0 := by decide
        rw [hnone, Nat.zero_add] at hmarks
        have htail := ih h hmarks
        omega
      · have hc : isOrdinary c = true := by
          simpa [isShielded, hline] using h
        have hone : ordinaries [c] = 1 := by
          simp [ordinaries, hc]
        omega

theorem readWord_line {tilde : Bool} {read line text rest behind : List Char}
    (h : readWord ⟨read, .plain tilde⟩ (line ++ '\n' :: rest) = some (text, behind))
    (hrest : isShielded rest = true)
    (hord : ordinaries text = ordinaries read + ordinaries line)
    (hmarks : marks text = marks read + marks line) :
    exists bare, line ++ '\n' :: rest = bare ++ behind ∧ text = read ++ bare ∧
      isBare tilde bare = true := by
  rcases readWord_counts h with ⟨hsuffix, hcount, _⟩
  rcases readWord_plain h with hlost | hbare
  · exfalso
    rw [marks_append] at hlost
    simp only [ordinaries_append] at hcount
    rcases List.suffix_or_suffix_of_suffix hsuffix (List.suffix_append line _) with
      ⟨past, hpast⟩ | ⟨more, hmore⟩
    · have hshield : isShielded (past ++ behind) = true := by
        rw [hpast]
        exact hrest
      have hpos := ordinaries_pos_of_isShielded hshield
      rw [← hpast, marks_append] at hlost
      rw [← hpast, ordinaries_append] at hcount
      omega
    · rw [← hmore, marks_append] at hlost
      omega
  · exact hbare

/-- A word without quotes is read as itself exactly when it is bare. -/
theorem readWord_bare_iff {text rest behind : List Char} (hrest : isShielded rest = true) :
    readWord .start (text ++ '\n' :: rest) = some (text, behind) <->
      isBare true text = true ∧ behind = '\n' :: rest := by
  constructor
  · intro h
    rcases readWord_line h hrest (by simp [ordinaries]) (by simp [marks]) with
      ⟨bare, hline, rfl, hbare⟩
    exact ⟨hbare, (List.append_cancel_left hline).symm⟩
  · intro hparts
    rcases hparts with ⟨hbare, rfl⟩
    exact readWord_bare [] rest hbare

/-- A word in single quotes is read as itself exactly when it has no such quote. -/
theorem readWord_quoted_iff {text rest behind : List Char} (hrest : isShielded rest = true) :
    readWord .start ('\'' :: (text ++ '\'' :: '\n' :: rest)) = some (text, behind) <->
      '\'' ∉ text ∧ behind = '\n' :: rest := by
  have hopen : forall cs, readWord .start ('\'' :: cs) = readWord ⟨[], .single⟩ cs :=
    fun _ => rfl
  rw [hopen]
  constructor
  · intro h
    have hfree : '\'' ∉ text := by
      intro hmem
      rcases List.eq_append_cons_of_mem hmem with ⟨pre, post, rfl, hpre⟩
      rw [List.append_assoc, List.cons_append, readWord_single [] _ hpre] at h
      have hline : post ++ '\'' :: '\n' :: rest = (post ++ ['\'']) ++ '\n' :: rest := by
        simp
      rw [hline] at h
      rcases readWord_line h hrest
        (by simp [ordinaries_append, ordinaries_cons '\'' post]; omega)
        (by simp [marks_append, marks_cons '\'' post]; omega) with ⟨bare, _, htext, hbare⟩
      have hcons : '\'' :: post = bare := List.append_cancel_left htext
      subst hcons
      cases hbare
    rw [readWord_single [] _ hfree, readWord_newline] at h
    exact ⟨hfree, (Prod.mk.inj (Option.some.inj h)).right.symm⟩
  · intro hparts
    rcases hparts with ⟨hfree, rfl⟩
    rw [readWord_single [] _ hfree, readWord_newline]
    rfl

/-!
## Lines of a file
-/

/-- A name that a variable can have. -/
def isName : List Char -> Bool
  | [] => false
  | c :: cs => startsName c && cs.all inName

theorem startsName_spec {c : Char} (h : startsName c = true) :
    isBlank c = false ∧ c ≠ '\n' ∧ c ≠ '#' ∧ isMark c = false := by
  refine ⟨?_, ?_, ?_, ?_⟩
  · by_contra hblank
    simp only [isBlank, Bool.not_eq_false, Bool.or_eq_true, decide_eq_true_eq] at hblank
    rcases hblank with rfl | rfl <;> cases h
  · intro heq
    subst heq
    cases h
  · intro heq
    subst heq
    cases h
  · by_contra hmark
    simp only [isMark, Bool.not_eq_false, Bool.or_eq_true, decide_eq_true_eq] at hmark
    rcases hmark with (rfl | rfl) | rfl <;> cases h

theorem inName_spec {cs : List Char} (h : cs.all inName = true) (word : List Char) :
    (cs ++ '=' :: word).takeWhile inName = cs ∧
      (cs ++ '=' :: word).dropWhile inName = '=' :: word := by
  have hall : forall c, c ∈ cs -> inName c = true := List.all_eq_true.mp h
  constructor
  · rw [List.takeWhile_append_of_pos hall, List.takeWhile_cons_of_neg (by decide),
      List.append_nil]
  · rw [List.dropWhile_append_of_pos hall, List.dropWhile_cons_of_neg (by decide)]

theorem assignments_newline (n : Nat) (cs : List Char) :
    assignments (n + 1) ('\n' :: cs) = assignments n cs := by
  simp [assignments]

theorem assignments_comment (n : Nat) {text : List Char} (rest : List Char)
    (h : '\n' ∉ text) :
    assignments (n + 2) ('#' :: (text ++ '\n' :: rest)) = assignments n rest := by
  have hdrop : (text ++ '\n' :: rest).dropWhile (· ≠ '\n') = '\n' :: rest := by
    rw [List.dropWhile_append_of_pos, List.dropWhile_cons_of_neg (by decide)]
    intro c hc
    simpa using fun heq : c = '\n' => h (heq ▸ hc)
  rw [assignments, hdrop]
  exact assignments_newline n rest

theorem assignments_word (n : Nat) {name : List Char} (word : List Char)
    (h : isName name = true) :
    assignments (n + 1) (name ++ '=' :: word) =
      (readWord .start word).bind fun read =>
        (assignments n (behindAssignment read.2)).map fun more =>
          (name, read.1) :: more := by
  cases name with
  | nil => cases h
  | cons c cs =>
      rcases Bool.and_eq_true_iff.mp h with ⟨hc, hcs⟩
      rcases startsName_spec hc with ⟨hblank, hline, hcomment, _⟩
      rcases inName_spec hcs word with ⟨htake, hdrop⟩
      rw [List.cons_append, assignments, htake, hdrop, hblank, hc]
      simp [hline, hcomment]

theorem assignments_assign_iff {n : Nat} {name word text rest : List Char}
    {more : List (List Char × List Char)} {plain : Prop} (hname : isName name = true)
    (hword : forall behind, readWord .start word = some (text, behind) <->
      plain ∧ behind = '\n' :: rest) :
    assignments (n + 2) (name ++ '=' :: word) = some ((name, text) :: more) <->
      plain ∧ assignments n rest = some more := by
  rw [assignments_word (n + 1) word hname]
  constructor
  · intro h
    rcases Option.bind_eq_some_iff.mp h with ⟨⟨read, behind⟩, hread, hmap⟩
    rcases Option.map_eq_some_iff.mp hmap with ⟨found, hfound, heq⟩
    cases heq
    rcases (hword behind).mp hread with ⟨hplain, rfl⟩
    exact ⟨hplain, (assignments_newline n rest).symm.trans hfound⟩
  · intro hparts
    rcases hparts with ⟨hplain, hmore⟩
    rw [(hword _).mpr ⟨hplain, rfl⟩, Option.bind_some]
    have hbehind : behindAssignment ('\n' :: rest) = '\n' :: rest := rfl
    rw [hbehind, assignments_newline, hmore]
    rfl

end BashSource
end EsdcFactory
