import EsdcFactory.Lib.Escapes

/-!
# Formats of the shell's printf

What `printf` writes when it is given a format and no arguments.  A directive
then converts nothing, an escape stands for the character it names, and a
directive that `printf` does not know ends the output.
-/

namespace EsdcFactory
namespace Printf

open Escapes

/--
What is up to the locale: the text for a code point, and the text of a directive
that converts nothing (a number zero, an empty string, the date).  Neither makes
up characters that begin an escape.
-/
structure ShellLocale where
  unicode : Nat -> List Char
  conversion : List Char -> List Char
  marks_unicode : forall n, marks (unicode n) ≤ 1
  us_unicode : forall n, us (unicode n) ≤ 1
  marks_conversion : forall text, marks (conversion text) ≤ marks text

/-!
## Directives
-/

def isFlag (c : Char) : Bool :=
  "#'-+ 0".toList.contains c

def isModifier (c : Char) : Bool :=
  "hjlLtz".toList.contains c

def isConversion (c : Char) : Bool :=
  "csnbqdiouxXeEfFgGaA".toList.contains c

def behindWidth : List Char -> List Char
  | '*' :: rest => rest
  | text => text.dropWhile Char.isDigit

def behindPrecision : List Char -> List Char
  | '.' :: '*' :: rest => rest
  | '.' :: '-' :: rest => rest.dropWhile Char.isDigit
  | '.' :: rest => rest.dropWhile Char.isDigit
  | text => text

/-- What stands behind the parenthesis that closes the format of a date. -/
def behindDate : Nat -> List Char -> List Char
  | _, [] => []
  | depth, '(' :: rest => behindDate (depth + 1) rest
  | 0, ')' :: rest => rest
  | depth + 1, ')' :: rest => behindDate depth rest
  | depth, _ :: rest => behindDate depth rest

/-- What a percent sign does, by the text behind it. -/
inductive Percent where
  /-- no directive that `printf` knows -/
  | stop
  /-- the format of a date that is not closed by `)T` -/
  | literal
  /-- a directive, and what stands behind it -/
  | conversion (rest : List Char)
deriving DecidableEq

def percent (text : List Char) : Percent :=
  match behindPrecision (behindWidth (text.dropWhile isFlag)) with
  | '(' :: rest =>
      match behindDate 0 rest with
      | 'T' :: behind => .conversion behind
      | _ => .literal
  | rest =>
      match rest.dropWhile isModifier with
      | c :: behind => if isConversion c then .conversion behind else .stop
      | [] => .stop

/-!
## Escapes
-/

def letterEscape (c : Char) : Option Char :=
  match c with
  | 'a' => some '\x07'
  | 'b' => some '\x08'
  | 'e' => some '\x1b'
  | 'E' => some '\x1b'
  | 'f' => some '\x0c'
  | 'n' => some '\n'
  | 'r' => some '\r'
  | 't' => some '\t'
  | 'v' => some '\x0b'
  | '\\' => some '\\'
  | '\'' => some '\''
  | '"' => some '"'
  | '?' => some '?'
  | _ => none

def isOctal (c : Char) : Bool :=
  '0' ≤ c && c ≤ '7'

def isHex (c : Char) : Bool :=
  (hexValue c).isSome

def number (base : Nat) (digits : List Char) : Nat :=
  digits.foldl (fun n c => base * n + (hexValue c).getD 0) 0

/-- The leading digits, up to so many of them. -/
def upTo (n : Nat) (isDigit : Char -> Bool) (text : List Char) : List Char :=
  (text.take n).takeWhile isDigit

/-- The digits that a code point can have. -/
def maxDigits (letter : Char) : Nat :=
  if letter = 'u' then 4 else 8

/-- What a backslash yields, by the text behind it, and what is left of that. -/
def escape (locale : ShellLocale) : List Char -> List Char × List Char
  | [] => (['\\'], [])
  | c :: rest =>
      match letterEscape c with
      | some out => ([out], rest)
      | none =>
          if isOctal c then
            let digits := upTo 3 isOctal (c :: rest)
            ([Char.ofNat (number 8 digits % 256)], (c :: rest).drop digits.length)
          else if c = 'x' ∧ upTo 2 isHex rest ≠ [] then
            let digits := upTo 2 isHex rest
            ([Char.ofNat (number 16 digits)], rest.drop digits.length)
          else if isU c ∧ upTo (maxDigits c) isHex rest ≠ [] then
            let digits := upTo (maxDigits c) isHex rest
            (locale.unicode (number 16 digits), rest.drop digits.length)
          else (['\\'], c :: rest)

/-!
## The output
-/

/-- What a format comes to, in as many steps as it has characters. -/
def formatted (locale : ShellLocale) : Nat -> List Char -> List Char
  | 0, _ => []
  | _ + 1, [] => []
  | n + 1, c :: rest =>
      if c = '\\' then
        (escape locale rest).1 ++ formatted locale n (escape locale rest).2
      else if c = '%' then
        if rest.head? = some '%' then '%' :: formatted locale n rest.tail
        else
          match percent rest with
          | .stop => []
          | .literal => '%' :: formatted locale n rest
          | .conversion behind =>
              locale.conversion (rest.take (rest.length - behind.length)) ++
                formatted locale n behind
      else c :: formatted locale n rest

/-- `printf` with a format and no arguments -/
def printf (locale : ShellLocale) (format : List Char) : List Char :=
  formatted locale format.length format

theorem formatted_escape (locale : ShellLocale) (n : Nat) (rest : List Char) :
    formatted locale (n + 1) ('\\' :: rest) =
      (escape locale rest).1 ++ formatted locale n (escape locale rest).2 := rfl

theorem formatted_char (locale : ShellLocale) (n : Nat) {c : Char} (rest : List Char)
    (h : isMark c = false) :
    formatted locale (n + 1) (c :: rest) = c :: formatted locale n rest := by
  have hne : c ≠ '\\' ∧ c ≠ '%' := by simpa [isMark] using h
  simp [formatted, hne.left, hne.right]

theorem formatted_append (locale : ShellLocale) (n : Nat) {text : List Char}
    (rest : List Char) (h : marks text = 0) :
    formatted locale (text.length + n) (text ++ rest) =
      text ++ formatted locale n rest := by
  induction text with
  | nil => simp
  | cons c text ih =>
      rw [marks_cons] at h
      have hc : isMark c = false := by
        by_contra hne
        simp [hne] at h
      rw [List.length_cons, Nat.add_right_comm, List.cons_append,
        formatted_char locale _ _ hc, ih (by omega), List.cons_append]

/-- A percent sign that is printed, by the text behind it. -/
def isLone (rest : List Char) : Bool :=
  rest.head? ≠ some '%' && percent rest = .literal

/-- A text without escapes and without directives. -/
def isPlain : List Char -> Bool
  | [] => true
  | c :: rest => c ≠ '\\' && (c ≠ '%' || isLone rest) && isPlain rest

theorem formatted_of_isPlain (locale : ShellLocale) {n : Nat} {text : List Char}
    (hn : text.length ≤ n) (h : isPlain text = true) :
    formatted locale n text = text := by
  induction text generalizing n with
  | nil => cases n <;> rfl
  | cons c rest ih =>
      cases n with
      | zero => simp at hn
      | succ n =>
          simp only [isPlain, Bool.and_eq_true, Bool.or_eq_true, decide_eq_true_eq,
            ne_eq] at h
          rcases h with ⟨⟨hback, hpercent⟩, hrest⟩
          have htail : formatted locale n rest = rest :=
            ih (by simpa using hn) hrest
          by_cases hc : c = '%'
          · have hlone : isLone rest = true := hpercent.resolve_left (absurd hc)
            simp only [isLone, Bool.and_eq_true, decide_eq_true_eq, ne_eq] at hlone
            simp [formatted, hc, hlone.left, hlone.right, htail]
          · rw [formatted_char locale n rest (by simp [isMark, hback, hc]), htail]

/-!
## Counting the marks of an output
-/

/-- What printing can do to the marks of a format. -/
structure Formats (format out : List Char) : Prop where
  marks_le : marks out ≤ marks format
  us_le : marks out = marks format -> us out ≤ us format

theorem Formats.refl (text : List Char) : Formats text text :=
  ⟨Nat.le_refl _, fun _ => Nat.le_refl _⟩

theorem Formats.append {f g s t : List Char} (h : Formats f s) (k : Formats g t) :
    Formats (f ++ g) (s ++ t) := by
  have hm := h.marks_le
  have km := k.marks_le
  constructor
  · rw [marks_append, marks_append]
    omega
  · intro heq
    rw [marks_append, marks_append] at heq
    have hu := h.us_le (by omega)
    have ku := k.us_le (by omega)
    rw [us_append, us_append]
    omega

theorem Formats.of_marks_lt {f s : List Char} (h : marks s < marks f) :
    Formats f s :=
  ⟨Nat.le_of_lt h, fun heq => absurd heq (Nat.ne_of_lt h)⟩

theorem marks_escape (taken : List Char) : marks ('\\' :: taken) = marks taken + 1 :=
  marks_cons '\\' taken

theorem marks_percent (taken : List Char) : marks ('%' :: taken) = marks taken + 1 :=
  marks_cons '%' taken

theorem formats_singleton (taken : List Char) (c : Char) :
    Formats ('\\' :: taken) [c] := by
  have hle : marks [c] ≤ 1 := List.countP_le_length
  constructor
  · rw [marks_escape]
    omega
  · intro heq
    rw [marks_escape] at heq
    rw [us_eq_zero_of_marks_singleton (by omega : marks [c] = 1)]
    exact Nat.zero_le _

theorem upTo_append_drop (n : Nat) (isDigit : Char -> Bool) (text : List Char) :
    upTo n isDigit text ++ text.drop (upTo n isDigit text).length = text := by
  have hpath : upTo n isDigit text <+: text :=
    (List.takeWhile_prefix isDigit).trans (List.take_prefix n text)
  exact List.prefix_iff_eq_append.mp hpath

theorem escape_formats (locale : ShellLocale) (rest : List Char) :
    exists taken, rest = taken ++ (escape locale rest).2 ∧
      Formats ('\\' :: taken) (escape locale rest).1 := by
  cases rest with
  | nil => exact ⟨[], rfl, formats_singleton [] _⟩
  | cons c rest =>
      rw [escape]
      split
      · exact ⟨[c], rfl, formats_singleton [c] _⟩
      · split
        · exact ⟨upTo 3 isOctal (c :: rest), (upTo_append_drop ..).symm,
            formats_singleton _ _⟩
        · split
          · exact ⟨c :: upTo 2 isHex rest, by rw [List.cons_append, upTo_append_drop],
              formats_singleton _ _⟩
          · split
            · rename_i hu
              refine ⟨c :: upTo (maxDigits c) isHex rest,
                by rw [List.cons_append, upTo_append_drop], ?_⟩
              have hmarks := locale.marks_unicode (number 16 (upTo (maxDigits c) isHex rest))
              have hus := locale.us_unicode (number 16 (upTo (maxDigits c) isHex rest))
              constructor
              · rw [marks_escape]
                exact Nat.le_trans hmarks (Nat.le_add_left 1 _)
              · intro _
                rw [us_cons, us_cons, if_pos hu.left]
                exact Nat.le_trans hus (Nat.le_add_right_of_le (Nat.le_add_left 1 _))
            · exact ⟨[], rfl, formats_singleton [] _⟩

theorem behindDate_suffix (depth : Nat) (text : List Char) :
    behindDate depth text <:+ text := by
  induction depth, text using behindDate.induct with
  | case1 => exact List.suffix_rfl
  | case2 depth rest ih => exact ih.trans (List.suffix_cons _ _)
  | case3 rest => exact List.suffix_cons _ _
  | case4 depth rest ih => exact ih.trans (List.suffix_cons _ _)
  | case5 depth c rest hopen hzero hsucc ih =>
      rw [behindDate]
      · exact ih.trans (List.suffix_cons _ _)
      · exact hopen
      · exact hzero
      · exact hsucc

theorem behindWidth_suffix (text : List Char) : behindWidth text <:+ text := by
  unfold behindWidth
  split
  · exact List.suffix_cons _ _
  · exact List.dropWhile_suffix _

theorem behindPrecision_suffix (text : List Char) : behindPrecision text <:+ text := by
  unfold behindPrecision
  split
  · exact (List.suffix_cons _ _).trans (List.suffix_cons _ _)
  · exact (List.dropWhile_suffix _).trans
      ((List.suffix_cons _ _).trans (List.suffix_cons _ _))
  · exact (List.dropWhile_suffix _).trans (List.suffix_cons _ _)
  · exact List.suffix_rfl

theorem percent_suffix {text behind : List Char}
    (h : percent text = .conversion behind) : behind <:+ text := by
  have hstart : behindPrecision (behindWidth (text.dropWhile isFlag)) <:+ text :=
    (behindPrecision_suffix _).trans
      ((behindWidth_suffix _).trans (List.dropWhile_suffix _))
  unfold percent at h
  split at h
  · rename_i rest hrest
    split at h
    · rename_i found hfound
      cases h
      have hdate := behindDate_suffix 0 rest
      rw [hfound] at hdate
      rw [hrest] at hstart
      exact (List.suffix_cons _ _).trans
        (hdate.trans ((List.suffix_cons _ _).trans hstart))
    · cases h
  · split at h
    · rename_i c found hfound
      split at h
      · cases h
        have hmodifier := List.dropWhile_suffix
          (l := behindPrecision (behindWidth (text.dropWhile isFlag))) isModifier
        rw [hfound] at hmodifier
        exact (List.suffix_cons _ _).trans (hmodifier.trans hstart)
      · cases h
    · cases h

/-- Printing makes up no marks, and letters only in exchange for marks. -/
theorem formatted_formats (locale : ShellLocale) (n : Nat) (text : List Char) :
    Formats text (formatted locale n text) := by
  induction n generalizing text with
  | zero => exact ⟨Nat.zero_le _, fun _ => Nat.zero_le _⟩
  | succ n ih =>
      cases text with
      | nil => exact Formats.refl []
      | cons c rest =>
          by_cases hback : c = '\\'
          · subst hback
            rcases escape_formats locale rest with ⟨taken, htaken, hformats⟩
            rw [formatted_escape]
            have hwhole := hformats.append (ih (escape locale rest).2)
            rwa [List.cons_append, ← htaken] at hwhole
          · by_cases hpercent : c = '%'
            · subst hpercent
              simp only [formatted, if_neg hback, if_true]
              split
              · rename_i hdouble
                rcases List.head?_eq_some_iff.mp hdouble with ⟨tail, rfl⟩
                have htail := (ih tail).marks_le
                apply Formats.of_marks_lt
                rw [marks_percent, marks_percent, marks_percent]
                exact Nat.succ_lt_succ (Nat.lt_succ_of_le htail)
              · split
                · apply Formats.of_marks_lt
                  rw [marks_percent]
                  exact Nat.succ_pos _
                · exact (Formats.refl ['%']).append (ih rest)
                · rename_i behind hbehind
                  rcases percent_suffix hbehind with ⟨directive, rfl⟩
                  have htake : (directive ++ behind).take
                      ((directive ++ behind).length - behind.length) = directive := by
                    rw [List.length_append, Nat.add_sub_cancel, List.take_left]
                  have hconv := locale.marks_conversion directive
                  have htail := (ih behind).marks_le
                  apply Formats.of_marks_lt
                  rw [htake, marks_percent, marks_append, marks_append]
                  omega
            · rw [formatted_char locale n rest (by simp [isMark, hback, hpercent])]
              exact (Formats.refl [c]).append (ih rest)

theorem isPlain_of_marks (locale : ShellLocale) {n : Nat} {text : List Char}
    (hn : text.length ≤ n) (hback : '\\' ∉ text)
    (h : marks (formatted locale n text) = marks text) : isPlain text = true := by
  induction text generalizing n with
  | nil => rfl
  | cons c rest ih =>
      cases n with
      | zero => simp at hn
      | succ n =>
          have hc : c ≠ '\\' := by
            intro heq
            subst heq
            exact hback List.mem_cons_self
          have hrest : '\\' ∉ rest := fun hmem => hback (List.mem_cons_of_mem _ hmem)
          have hlen : rest.length ≤ n := by simpa using hn
          by_cases hpercent : c = '%'
          · subst hpercent
            simp only [formatted, if_neg hc, if_true] at h
            split at h
            · rename_i hdouble
              rcases List.head?_eq_some_iff.mp hdouble with ⟨tail, rfl⟩
              have htail := (formatted_formats locale n tail).marks_le
              rw [marks_percent, marks_percent, marks_percent, List.tail_cons] at h
              omega
            · rename_i hsingle
              split at h
              · rw [marks_percent] at h
                cases h
              · rename_i hliteral
                rw [marks_percent, marks_percent] at h
                have hlone : isLone rest = true := by
                  simp [isLone, hsingle, hliteral]
                simp [isPlain, hlone, ih hlen hrest (by omega)]
              · rename_i behind hbehind
                rcases percent_suffix hbehind with ⟨directive, rfl⟩
                have htake : (directive ++ behind).take
                    ((directive ++ behind).length - behind.length) = directive := by
                  rw [List.length_append, Nat.add_sub_cancel, List.take_left]
                have hconv := locale.marks_conversion directive
                have htail := (formatted_formats locale n behind).marks_le
                rw [htake, marks_percent, marks_append, marks_append] at h
                omega
          · rw [formatted_char locale n rest (by simp [isMark, hc, hpercent]),
              marks_cons, marks_cons] at h
            simp [isPlain, hc, hpercent, ih hlen hrest (by omega)]

end Printf
end EsdcFactory
