import EsdcFactory.Lib.Json
import Mathlib.Data.List.Infix

/-!
# Layouts of JSON texts

Two ways to learn what a reader makes of a text.  A text that was laid out from
values reads as these values, whatever stands behind it.  And a string that was
read stands somewhere in the text, where it takes a backslash for each character
that is not literal.
-/

namespace EsdcFactory
namespace Json

open Escapes

/-!
## Backslashes of a string
-/

/-- The characters that a string can only hold by escapes. -/
def escapes (text : List Char) : Nat :=
  text.countP fun c => !isLiteral c

theorem escapes_append (s t : List Char) : escapes (s ++ t) = escapes s + escapes t :=
  List.countP_append

/-- Each escape has its backslash; when none is to spare, the rest is in the text. -/
structure Spends (raw out : List Char) : Prop where
  escapes_le : escapes out ≤ raw.count '\\'
  literal : escapes out = raw.count '\\' -> forall c, c ∈ out -> isLiteral c = true -> c ∈ raw

theorem Spends.nil : Spends [] [] :=
  ⟨Nat.le_refl _, nofun⟩

theorem Spends.append {r q s t : List Char} (h : Spends r s) (k : Spends q t) :
    Spends (r ++ q) (s ++ t) := by
  have hle := h.escapes_le
  have kle := k.escapes_le
  constructor
  · rw [escapes_append, List.count_append]
    omega
  · intro heq c hc hliteral
    rw [escapes_append, List.count_append] at heq
    rcases List.mem_append.mp hc with hleft | hright
    · exact List.mem_append_left _ (h.literal (by omega) c hleft hliteral)
    · exact List.mem_append_right _ (k.literal (by omega) c hright hliteral)

/-- One escape that yields no character but one that needs it. -/
theorem Spends.of_le {raw out : List Char} (h : escapes out < raw.count '\\' ∨
    escapes out = raw.count '\\' ∧ forall c, c ∈ out -> isLiteral c = false) :
    Spends raw out := by
  rcases h with hlt | ⟨heq, hout⟩
  · exact ⟨Nat.le_of_lt hlt, fun heq => absurd heq (Nat.ne_of_lt hlt)⟩
  · refine ⟨Nat.le_of_eq heq, fun _ c hc hliteral => ?_⟩
    rw [hout c hc] at hliteral
    cases hliteral

theorem escapes_singleton (c : Char) :
    escapes [c] = 0 ∨ escapes [c] = 1 ∧ forall x, x ∈ [c] -> isLiteral x = false := by
  cases hc : isLiteral c with
  | true => exact Or.inl (by simp [escapes, hc])
  | false => exact Or.inr ⟨by simp [escapes, hc], by simpa using hc⟩

theorem toNat_lt_of_not_literal {c : Char} (h : (!isLiteral c) = true) : c.toNat < 0x80 := by
  by_contra hge
  have hcontrol : isControl c = false := by
    simp only [isControl, decide_eq_false_iff_not]
    omega
  have hquote : c ≠ '"' := by
    intro heq
    subst heq
    exact hge (by decide)
  have hback : c ≠ '\\' := by
    intro heq
    subst heq
    exact hge (by decide)
  simp [isLiteral, hcontrol, hquote, hback] at h

theorem escapes_utf8 (n : Nat) :
    escapes (utf8 n) = 0 ∨
      escapes (utf8 n) = 1 ∧ forall c, c ∈ utf8 n -> isLiteral c = false := by
  by_cases hn : n < 0x80
  · rw [utf8, if_pos hn]
    exact escapes_singleton _
  · exact Or.inl
      (countP_utf8_eq_zero (fun c => toNat_lt_of_not_literal) (Nat.le_of_not_lt hn))

theorem count_unicode {digits : List Char} (h : marks digits = 0) :
    ('\\' :: 'u' :: digits).count '\\' = 1 := by
  rw [List.count_cons_self, List.count_cons_of_ne (by decide),
    List.count_eq_zero.mpr (marks_eq_zero.mp h).left]

theorem IsPiece.spends {raw out : List Char} (h : IsPiece raw out) : Spends raw out := by
  cases h with
  | char hback hquote hcontrol =>
      rename_i c
      have hliteral : isLiteral c = true := by simp [isLiteral, hback, hquote, hcontrol]
      constructor
      · simp [escapes, hliteral]
      · exact fun _ x hx _ => hx
  | letter h =>
      rename_i letter c
      have hcount : 1 ≤ ['\\', letter].count '\\' := by
        rw [List.count_cons_self]
        omega
      apply Spends.of_le
      rcases escapes_singleton c with hzero | ⟨hone, hout⟩
      · omega
      · rcases Nat.eq_or_lt_of_le hcount with heq | hlt
        · exact Or.inr ⟨by omega, hout⟩
        · omega
  | unit n hdigits h =>
      apply Spends.of_le
      rw [count_unicode hdigits]
      rcases escapes_utf8 n with hzero | ⟨hone, hout⟩
      · omega
      · exact Or.inr ⟨hone, hout⟩
  | pair n hhigh hlow h =>
      apply Spends.of_le
      rw [List.count_append, count_unicode hhigh, count_unicode hlow]
      rcases escapes_utf8 n with hzero | ⟨hone, _⟩ <;> omega

theorem readString_spends {text out rest : List Char}
    (h : readString text = some (out, rest)) :
    exists raw, text = raw ++ '"' :: rest ∧ Spends raw out := by
  rw [readString] at h
  exact readPieces_eq_some Spends.nil (fun _ _ _ _ => Spends.append)
    (fun _ _ => IsPiece.spends) h

/-!
## Members of a text
-/

theorem skipBlanks_suffix (text : List Char) : skipBlanks text <:+ text :=
  List.dropWhile_suffix _

theorem readString_suffix {text out rest : List Char} (h : readString text = some (out, rest)) :
    rest <:+ text := by
  rcases readString_spends h with ⟨raw, rfl, _⟩
  exact ⟨raw ++ ['"'], by simp⟩

theorem readDigits_suffix {text digits rest : List Char}
    (h : readDigits text = some (digits, rest)) : rest <:+ text := by
  unfold readDigits at h
  split at h
  · cases h
  · cases h
    exact List.dropWhile_suffix _

theorem readWhole_suffix {text digits rest : List Char}
    (h : readWhole text = some (digits, rest)) : rest <:+ text := by
  unfold readWhole at h
  split at h
  · cases h
    exact List.suffix_cons _ _
  · exact readDigits_suffix h

theorem readFraction_suffix {text digits rest : List Char}
    (h : readFraction text = some (digits, rest)) : rest <:+ text := by
  unfold readFraction at h
  split at h
  · rcases Option.map_eq_some_iff.mp h with ⟨⟨found, behind⟩, hfound, heq⟩
    cases heq
    exact (readDigits_suffix hfound).trans (List.suffix_cons _ _)
  · cases h
    exact List.suffix_refl _

theorem readExponent_suffix {text digits rest : List Char}
    (h : readExponent text = some (digits, rest)) : rest <:+ text := by
  unfold readExponent at h
  split at h
  · rename_i e behind
    split at h
    · split at h
      · split at h
        · rcases Option.map_eq_some_iff.mp h with ⟨⟨found, tail⟩, hfound, heq⟩
          cases heq
          exact ((readDigits_suffix hfound).trans (List.suffix_cons _ _)).trans
            (List.suffix_cons _ _)
        · rcases Option.map_eq_some_iff.mp h with ⟨⟨found, tail⟩, hfound, heq⟩
          cases heq
          exact (readDigits_suffix hfound).trans (List.suffix_cons _ _)
      · cases h
    · cases h
      exact List.suffix_refl _
  · cases h
    exact List.suffix_refl _

theorem readNumber_eq_some {text rest : List Char} {value : Json}
    (h : readNumber text = some (value, rest)) :
    rest <:+ text ∧ exists digits, value = num digits := by
  unfold readNumber at h
  dsimp only at h
  split at h
  · cases h
  · rename_i whole behind hwhole
    split at h
    · cases h
    · rename_i fraction tail hfraction
      rcases Option.map_eq_some_iff.mp h with ⟨⟨exponent, last⟩, hexponent, heq⟩
      cases heq
      have hdrop := List.drop_suffix (if text.head? = some '-' then ['-'] else []).length text
      exact ⟨(((readExponent_suffix hexponent).trans (readFraction_suffix hfraction)).trans
        (readWhole_suffix hwhole)).trans hdrop, _, rfl⟩

/-- What a reader leaves is the end of its text, for values, members and items. -/
structure LeavesSuffix (n : Nat) : Prop where
  value : forall {text rest : List Char} {value : Json},
    readValue n text = some (value, rest) -> rest <:+ text
  members : forall {text rest : List Char} {members : List (List Char × Json)},
    readMembers n text = some (members, rest) -> rest <:+ text
  items : forall {text rest : List Char} {items : List Json},
    readItems n text = some (items, rest) -> rest <:+ text

theorem suffix_of_skipBlanks {text rest : List Char} {c : Char}
    (h : skipBlanks text = c :: rest) : rest <:+ text := by
  have hsuffix := skipBlanks_suffix text
  rw [h] at hsuffix
  exact (List.suffix_cons c rest).trans hsuffix

theorem readMembers_eq_some {n : Nat} {text rest : List Char}
    {members : List (List Char × Json)}
    (h : readMembers (n + 1) text = some (members, rest)) :
    exists key value inner behind tail, members = (key, value) :: tail ∧
      inner <:+ text ∧ readValue n inner = some (value, behind) ∧
      (skipBlanks behind = '}' :: rest ∧ tail = [] ∨
        exists more, skipBlanks behind = ',' :: more ∧
          readMembers n more = some (tail, rest)) := by
  rw [readMembers] at h
  split at h
  · rename_i behind hquote
    split at h
    · cases h
    · rename_i key colon hkey
      split at h
      · rename_i value hcolon
        split at h
        · cases h
        · rename_i found after hvalue
          have hinner : skipBlanks value <:+ text :=
            (((skipBlanks_suffix value).trans (suffix_of_skipBlanks hcolon)).trans
              (readString_suffix hkey)).trans (suffix_of_skipBlanks hquote)
          split at h
          · rename_i more hmore
            rcases Option.map_eq_some_iff.mp h with ⟨⟨tail, last⟩, htail, heq⟩
            cases heq
            exact ⟨key, found, _, after, tail, rfl, hinner, hvalue,
              Or.inr ⟨more, hmore, htail⟩⟩
          · rename_i last hlast
            cases h
            exact ⟨key, found, _, after, [], rfl, hinner, hvalue, Or.inl ⟨hlast, rfl⟩⟩
          · cases h
      · cases h
  · cases h

/-- How a value was read from a text that goes on with the rest. -/
inductive IsRead (n : Nat) (text rest : List Char) : Json -> Prop where
  | string {inner out : List Char} (hinner : inner <:+ text)
      (h : readString inner = some (out, rest)) : IsRead n text rest (str out)
  | emptyObject (h : rest <:+ text) : IsRead n text rest (obj [])
  | object {inner : List Char} {members : List (List Char × Json)} (hinner : inner <:+ text)
      (h : readMembers n inner = some (members, rest)) : IsRead n text rest (obj members)
  | emptyArray (h : rest <:+ text) : IsRead n text rest (arr [])
  | array {inner : List Char} {items : List Json} (hinner : inner <:+ text)
      (h : readItems n inner = some (items, rest)) : IsRead n text rest (arr items)
  | null (h : rest <:+ text) : IsRead n text rest null
  | bool {value : Bool} (h : rest <:+ text) : IsRead n text rest (bool value)
  | num {digits : List Char} (h : rest <:+ text) : IsRead n text rest (num digits)

theorem readValue_eq_some {n : Nat} {text rest : List Char} {value : Json}
    (h : readValue (n + 1) text = some (value, rest)) : IsRead n text rest value := by
  unfold readValue at h
  split at h
  · rename_i inner
    rcases Option.map_eq_some_iff.mp h with ⟨⟨out, behind⟩, hout, heq⟩
    cases heq
    exact .string (List.suffix_cons _ _) hout
  · rename_i inner
    split at h
    · cases h
      exact .emptyObject (((List.tail_suffix _).trans (skipBlanks_suffix inner)).trans
        (List.suffix_cons _ _))
    · rcases Option.map_eq_some_iff.mp h with ⟨⟨members, behind⟩, hmembers, heq⟩
      cases heq
      exact .object (List.suffix_cons _ _) hmembers
  · rename_i inner
    split at h
    · cases h
      exact .emptyArray (((List.tail_suffix _).trans (skipBlanks_suffix inner)).trans
        (List.suffix_cons _ _))
    · rcases Option.map_eq_some_iff.mp h with ⟨⟨items, behind⟩, hitems, heq⟩
      cases heq
      exact .array (List.suffix_cons _ _) hitems
  · cases h
    exact .null ⟨['n', 'u', 'l', 'l'], rfl⟩
  · cases h
    exact .bool ⟨['t', 'r', 'u', 'e'], rfl⟩
  · cases h
    exact .bool ⟨['f', 'a', 'l', 's', 'e'], rfl⟩
  · rcases readNumber_eq_some h with ⟨hsuffix, digits, rfl⟩
    exact .num hsuffix

theorem leavesSuffix (n : Nat) : LeavesSuffix n := by
  induction n with
  | zero => exact ⟨nofun, nofun, nofun⟩
  | succ n ih =>
      constructor
      · intro text rest value h
        cases readValue_eq_some h with
        | string hinner hout => exact (readString_suffix hout).trans hinner
        | object hinner hmembers => exact (ih.members hmembers).trans hinner
        | array hinner hitems => exact (ih.items hitems).trans hinner
        | emptyObject hrest => exact hrest
        | emptyArray hrest => exact hrest
        | null hrest => exact hrest
        | bool hrest => exact hrest
        | num hrest => exact hrest
      · intro text rest members h
        rcases readMembers_eq_some h with
          ⟨key, value, inner, behind, tail, _, hinner, hvalue, hbrace | hcomma⟩
        · exact ((suffix_of_skipBlanks hbrace.left).trans (ih.value hvalue)).trans hinner
        · rcases hcomma with ⟨more, hmore, htail⟩
          exact (((ih.members htail).trans (suffix_of_skipBlanks hmore)).trans
            (ih.value hvalue)).trans hinner
      · intro text rest items h
        rw [readItems] at h
        split at h
        · cases h
        · rename_i value behind hvalue
          have hbehind := (ih.value hvalue).trans (skipBlanks_suffix text)
          split at h
          · rename_i more hmore
            rcases Option.map_eq_some_iff.mp h with ⟨⟨tail, last⟩, htail, heq⟩
            cases heq
            exact ((ih.items htail).trans (suffix_of_skipBlanks hmore)).trans hbehind
          · rename_i last hlast
            cases h
            exact (suffix_of_skipBlanks hlast).trans hbehind
          · cases h

/-- The value of a member was read somewhere in the text. -/
theorem value_of_mem_readMembers {n : Nat} {text rest key : List Char} {value : Json}
    {members : List (List Char × Json)} (h : readMembers n text = some (members, rest))
    (hmem : (key, value) ∈ members) :
    exists m inner behind, inner <:+ text ∧ readValue m inner = some (value, behind) := by
  induction n generalizing text members with
  | zero => cases h
  | succ n ih =>
      rcases readMembers_eq_some h with
        ⟨first, found, inner, behind, tail, rfl, hinner, hvalue, hbrace | hcomma⟩
      · rw [hbrace.right] at hmem
        cases List.mem_singleton.mp hmem
        exact ⟨n, inner, behind, hinner, hvalue⟩
      · rcases hcomma with ⟨more, hmore, htail⟩
        rcases List.mem_cons.mp hmem with heq | hmem
        · cases heq
          exact ⟨n, inner, behind, hinner, hvalue⟩
        · rcases ih htail hmem with ⟨m, deep, last, hdeep, hread⟩
          exact ⟨m, deep, last, ((hdeep.trans (suffix_of_skipBlanks hmore)).trans
            ((leavesSuffix n).value hvalue)).trans hinner, hread⟩

/-- The member of a name; of several the last one counts. -/
def member (key : List Char) : Json -> Option Json
  | obj members => (members.reverse.find? fun entry => entry.1 = key).map Prod.snd
  | _ => none

/-- What is found by following names. -/
def follow : List (List Char) -> Json -> Option Json
  | [], json => some json
  | key :: path, json => (member key json).bind (follow path)

theorem mem_of_member {key : List Char} {json value : Json}
    (h : member key json = some value) :
    exists members, json = obj members ∧ (key, value) ∈ members := by
  unfold member at h
  split at h
  · rename_i members
    rcases Option.map_eq_some_iff.mp h with ⟨⟨name, found⟩, hfind, heq⟩
    cases heq
    have hname : name = key := by simpa using List.find?_some hfind
    subst hname
    exact ⟨members, rfl, List.mem_reverse.mp (List.mem_of_find?_eq_some hfind)⟩
  · cases h

theorem readString_of_follow {path : List (List Char)} {n : Nat} {text rest out : List Char}
    {json : Json} (h : readValue n text = some (json, rest))
    (hout : follow path json = some (str out)) :
    exists inner behind, inner <:+ text ∧ readString inner = some (out, behind) := by
  induction path generalizing n text rest json with
  | nil =>
      cases Option.some.inj hout
      cases n with
      | zero => cases h
      | succ n =>
          cases readValue_eq_some h with
          | string hinner hread => exact ⟨_, _, hinner, hread⟩
  | cons key path ih =>
      rcases Option.bind_eq_some_iff.mp hout with ⟨value, hvalue, hpath⟩
      rcases mem_of_member hvalue with ⟨members, rfl, hmem⟩
      cases n with
      | zero => cases h
      | succ n =>
          cases readValue_eq_some h with
          | emptyObject _ => cases hmem
          | object hinner hmembers =>
              rcases value_of_mem_readMembers hmembers hmem with
                ⟨m, deep, last, hdeep, hread⟩
              rcases ih hread hpath with ⟨found, behind, hfound, hstring⟩
              exact ⟨found, behind, (hfound.trans hdeep).trans hinner, hstring⟩

/-- A string that is reached by names stands between quotes in the text. -/
theorem spends_of_follow {path : List (List Char)} {text out : List Char} {json : Json}
    (h : read text = some json) (hout : follow path json = some (str out)) :
    exists raw, raw <:+: text ∧ Spends raw out := by
  unfold read at h
  split at h
  · cases h
  · rename_i value rest hvalue
    rcases Option.ite_none_right_eq_some.mp h with ⟨_, heq⟩
    cases heq
    rcases readString_of_follow hvalue hout with ⟨inner, behind, hinner, hread⟩
    rcases readString_spends hread with ⟨raw, rfl, hraw⟩
    exact ⟨raw, ((List.prefix_append raw _).isInfix.trans hinner.isInfix).trans
      (skipBlanks_suffix text).isInfix, hraw⟩

/-!
## Laid out texts
-/

/-- What stands behind a value in a layout, a comma or the end of the line. -/
def IsBehind (rest : List Char) : Prop :=
  exists tail, rest = ',' :: tail ∨ rest = '\n' :: tail

/-- A text that reads as a value wherever it stands. -/
structure Printed where
  text : List Char
  value : Json
  /-- no blanks are skipped before it -/
  starts : forall rest, skipBlanks (text ++ rest) = text ++ rest
  reads : forall rest, IsBehind rest -> forall n, (text ++ rest).length < n ->
    readValue n (text ++ rest) = some (value, rest)

/-- A string between its quotes. -/
def Printed.string (raw out : List Char)
    (h : forall rest, readString (raw ++ '"' :: rest) = some (out, rest)) : Printed where
  text := '"' :: (raw ++ ['"'])
  value := str out
  starts _ := rfl
  reads rest _ n hn := by
    cases n with
    | zero => cases hn
    | succ n =>
        simp only [List.cons_append, List.append_assoc, List.nil_append, readValue, h]
        rfl

theorem readDigits_digits {digits rest : List Char} (hne : digits ≠ [])
    (h : forall c, c ∈ digits -> c.isDigit = true)
    (hrest : forall c, rest.head? = some c -> c.isDigit = false) :
    readDigits (digits ++ rest) = some (digits, rest) := by
  have htake : rest.takeWhile Char.isDigit = [] := by
    cases rest with
    | nil => rfl
    | cons c rest => rw [List.takeWhile_cons, hrest c rfl]; rfl
  have hdrop : rest.dropWhile Char.isDigit = rest := by
    cases rest with
    | nil => rfl
    | cons c rest => rw [List.dropWhile_cons, hrest c rfl]; rfl
  rw [readDigits, List.takeWhile_append_of_pos h, List.dropWhile_append_of_pos h, htake,
    hdrop, List.append_nil]
  cases digits with
  | nil => exact absurd rfl hne
  | cons c digits => rfl

theorem readNumber_digits {first : Char} {digits rest : List Char}
    (h : forall c, c ∈ first :: digits -> c.isDigit = true) (hzero : first ≠ '0')
    (hrest : IsBehind rest) :
    readNumber (first :: digits ++ rest) = some (num (first :: digits), rest) := by
  have hsign : first ≠ '-' := by
    intro heq
    subst heq
    exact absurd (h _ List.mem_cons_self) (by decide)
  have hdigits : readDigits (first :: digits ++ rest) = some (first :: digits, rest) := by
    apply readDigits_digits (List.cons_ne_nil _ _) h
    intro c hc
    rcases hrest with ⟨tail, rfl | rfl⟩ <;> cases hc <;> rfl
  have hwhole : readWhole (first :: digits ++ rest) = some (first :: digits, rest) := by
    rw [List.cons_append, readWhole]
    · exact hdigits
    · intro more heq
      exact hzero (List.cons.inj heq).left
  have hfraction : readFraction rest = some ([], rest) := by
    rcases hrest with ⟨tail, rfl | rfl⟩ <;> rfl
  have hexponent : readExponent rest = some ([], rest) := by
    rcases hrest with ⟨tail, rfl | rfl⟩ <;> rfl
  have hhead : (first :: digits ++ rest).head? ≠ some '-' := by
    simpa using hsign
  simp only [readNumber, if_neg hhead, List.length_nil, List.drop_zero, hwhole, hfraction,
    hexponent]
  simp

theorem readValue_digit {c : Char} {text : List Char} (n : Nat) (h : c.isDigit = true) :
    readValue (n + 1) (c :: text) = readNumber (c :: text) := by
  rw [readValue] <;> intro rest heq <;> cases heq <;> exact absurd h (by decide)

/-- A number without a sign and a fraction. -/
def Printed.number (first : Char) (digits : List Char)
    (h : forall c, c ∈ first :: digits -> c.isDigit = true) (hzero : first ≠ '0') :
    Printed where
  text := first :: digits
  value := num (first :: digits)
  starts rest := by
    have hfirst : isBlank first = false := by
      have hdigit := h first List.mem_cons_self
      by_contra hblank
      simp only [isBlank, Bool.not_eq_false, Bool.or_eq_true, decide_eq_true_eq] at hblank
      rcases hblank with ((rfl | rfl) | rfl) | rfl <;> exact absurd hdigit (by decide)
    simp [skipBlanks, hfirst]
  reads rest hrest n hn := by
    cases n with
    | zero => cases hn
    | succ n =>
        rw [← readNumber_digits h hzero hrest]
        exact readValue_digit n (h first List.mem_cons_self)

/-- A truth value. -/
def Printed.bool (b : Bool) : Printed where
  text := if b then ['t', 'r', 'u', 'e'] else ['f', 'a', 'l', 's', 'e']
  value := .bool b
  starts _ := by cases b <;> rfl
  reads rest _ n hn := by
    cases n with
    | zero => cases hn
    | succ n => cases b <;> rfl

/-- Blanks that begin with the end of a line. -/
structure Break where
  blanks : List Char
  isBlank : forall c, c ∈ blanks -> isBlank c = true

def Break.text (gap : Break) : List Char :=
  '\n' :: gap.blanks

theorem skipBlanks_break (gap : Break) (rest : List Char) :
    skipBlanks (gap.text ++ rest) = skipBlanks rest := by
  apply List.dropWhile_append_of_pos
  intro x hx
  rcases List.mem_cons.mp hx with rfl | hx
  · rfl
  · exact gap.isBlank x hx

/-- A member of an object on a line of its own. -/
structure Entry where
  gap : Break
  name : List Char
  item : Printed
  literal : forall c, c ∈ name -> isLiteral c = true

def Entry.text (entry : Entry) : List Char :=
  entry.gap.text ++ '"' :: (entry.name ++ '"' :: ':' :: ' ' :: entry.item.text)

def Entry.member (entry : Entry) : List Char × Json :=
  (entry.name, entry.item.value)

/-- The members behind an opening brace, up to the closing one. -/
def entriesText (close : Break) : Entry -> List Entry -> List Char
  | entry, [] => entry.text ++ (close.text ++ ['}'])
  | entry, next :: entries => entry.text ++ ',' :: entriesText close next entries

theorem isBehind_break (gap : Break) (rest : List Char) : IsBehind (gap.text ++ rest) :=
  ⟨gap.blanks ++ rest, Or.inr rfl⟩

theorem isBehind_comma (rest : List Char) : IsBehind (',' :: rest) :=
  ⟨rest, Or.inl rfl⟩

/-- One member is read up to what stands behind its value. -/
theorem readMembers_entry (entry : Entry) {rest : List Char} (hrest : IsBehind rest) {n : Nat}
    (hn : (entry.text ++ rest).length < n + 1) :
    readMembers (n + 1) (entry.text ++ rest) =
      readRest n entry.name entry.item.value rest := by
  have hskip : skipBlanks (entry.text ++ rest) =
      '"' :: (entry.name ++ '"' :: ':' :: ' ' :: (entry.item.text ++ rest)) := by
    rw [Entry.text]
    simp only [List.append_assoc, List.cons_append]
    exact skipBlanks_break entry.gap _
  have hblank : skipBlanks (' ' :: (entry.item.text ++ rest)) = entry.item.text ++ rest :=
    entry.item.starts rest
  have hcolon : skipBlanks (':' :: ' ' :: (entry.item.text ++ rest)) =
      ':' :: ' ' :: (entry.item.text ++ rest) := rfl
  have hvalue : readValue n (entry.item.text ++ rest) = some (entry.item.value, rest) := by
    apply entry.item.reads rest hrest
    simp only [Entry.text, Break.text, List.length_append, List.length_cons] at hn ⊢
    omega
  rw [readMembers, hskip]
  simp only [readString_literal _ entry.literal, hcolon, hblank, hvalue, readRest]

theorem readMembers_entries (close : Break) (entry : Entry) (entries : List Entry)
    (rest : List Char) {n : Nat}
    (hn : (entriesText close entry entries ++ rest).length < n) :
    readMembers n (entriesText close entry entries ++ rest) =
      some ((entry :: entries).map Entry.member, rest) := by
  induction entries generalizing entry n with
  | nil =>
      cases n with
      | zero => cases hn
      | succ n =>
          simp only [entriesText, List.append_assoc, List.cons_append, List.nil_append]
            at hn ⊢
          rw [readMembers_entry entry (isBehind_break close _) hn, readRest,
            skipBlanks_break close]
          rfl
  | cons next entries ih =>
      cases n with
      | zero => cases hn
      | succ n =>
          simp only [entriesText, List.append_assoc, List.cons_append] at hn ⊢
          have htail := ih next (n := n) (by
            simp only [List.length_append, List.length_cons] at hn ⊢
            omega)
          rw [readMembers_entry entry (isBehind_comma _) hn, readRest_comma, htail]
          rfl

theorem skipBlanks_entry (entry : Entry) (rest : List Char) :
    (skipBlanks (entry.text ++ rest)).head? = some '"' := by
  rw [Entry.text]
  simp only [List.append_assoc, List.cons_append]
  rw [skipBlanks_break]
  rfl

theorem skipBlanks_entries (close : Break) (entry : Entry) (entries : List Entry)
    (rest : List Char) :
    (skipBlanks (entriesText close entry entries ++ rest)).head? = some '"' := by
  cases entries with
  | nil =>
      rw [entriesText, List.append_assoc]
      exact skipBlanks_entry entry _
  | cons next entries =>
      rw [entriesText, List.append_assoc]
      exact skipBlanks_entry entry _

/-- An object with its members on lines. -/
def Printed.object (close : Break) (entry : Entry) (entries : List Entry) : Printed where
  text := '{' :: entriesText close entry entries
  value := obj ((entry :: entries).map Entry.member)
  starts _ := rfl
  reads rest _ n hn := by
    cases n with
    | zero => cases hn
    | succ n =>
        have hhead : (skipBlanks (entriesText close entry entries ++ rest)).head? ≠ some '}' := by
          rw [skipBlanks_entries]
          exact nofun
        have hmembers := readMembers_entries close entry entries rest (n := n)
          (Nat.lt_of_succ_lt_succ hn)
        simp only [List.cons_append, readValue, if_neg hhead, hmembers]
        rfl

theorem readValue_spaced (n : Nat) (text : List Char) :
    readValue n ('{' :: ' ' :: text) = readValue n ('{' :: '\n' :: text) := by
  have hskip : skipBlanks (' ' :: text) = skipBlanks ('\n' :: text) := rfl
  cases n with
  | zero => rfl
  | succ n =>
      have hmembers : readMembers n (' ' :: text) = readMembers n ('\n' :: text) := by
        cases n with
        | zero => rfl
        | succ n => rw [readMembers, readMembers, hskip]
      simp only [readValue, hskip, hmembers]

/-- The bare end of a line. -/
def lineEnd : Break where
  blanks := []
  isBlank := nofun

/-- An object whose first member stands on the line of the brace, behind a blank. -/
def Printed.spaced (close : Break) (name : List Char) (item : Printed)
    (literal : forall c, c ∈ name -> isLiteral c = true) (entries : List Entry) : Printed where
  text := '{' :: ' ' :: (entriesText close ⟨lineEnd, name, item, literal⟩ entries).tail
  value := obj ((⟨lineEnd, name, item, literal⟩ :: entries).map Entry.member)
  starts _ := rfl
  reads rest hrest n hn := by
    have hhead : exists tail, entriesText close ⟨lineEnd, name, item, literal⟩ entries =
        '\n' :: tail := by
      cases entries <;> exact ⟨_, rfl⟩
    rcases hhead with ⟨tail, htail⟩
    have hread := (Printed.object close ⟨lineEnd, name, item, literal⟩ entries).reads rest hrest n
    have htext : (Printed.object close ⟨lineEnd, name, item, literal⟩ entries).text =
        '{' :: '\n' :: tail := congrArg (List.cons '{') htail
    rw [htext] at hread
    rw [htail] at hn ⊢
    exact (readValue_spaced n (tail ++ rest)).trans (hread hn)

/-- An item of an array on a line of its own. -/
structure Item where
  gap : Break
  item : Printed

def Item.text (entry : Item) : List Char :=
  entry.gap.text ++ entry.item.text

def itemsText (close : Break) : Item -> List Item -> List Char
  | entry, [] => entry.text ++ (close.text ++ [']'])
  | entry, next :: entries => entry.text ++ ',' :: itemsText close next entries

theorem skipBlanks_item (entry : Item) (rest : List Char) :
    skipBlanks (entry.text ++ rest) = entry.item.text ++ rest := by
  rw [Item.text, List.append_assoc, skipBlanks_break]
  exact entry.item.starts rest

theorem Printed.head_ne_bracket (item : Printed) {rest : List Char} (h : IsBehind rest) :
    (item.text ++ rest).head? ≠ some ']' := by
  intro hhead
  rcases List.head?_eq_some_iff.mp hhead with ⟨tail, htail⟩
  have hread := item.reads rest h _ (Nat.lt_succ_self _)
  rw [htail] at hread
  cases hread

theorem readItems_item (entry : Item) {rest : List Char} (hrest : IsBehind rest) {n : Nat}
    (hn : (entry.text ++ rest).length < n + 1) :
    readValue n (skipBlanks (entry.text ++ rest)) = some (entry.item.value, rest) := by
  rw [skipBlanks_item]
  apply entry.item.reads rest hrest
  simp only [Item.text, Break.text, List.length_append, List.length_cons] at hn ⊢
  omega

theorem readItems_items (close : Break) (entry : Item) (entries : List Item)
    (rest : List Char) {n : Nat} (hn : (itemsText close entry entries ++ rest).length < n) :
    readItems n (itemsText close entry entries ++ rest) =
      some ((entry :: entries).map fun entry => entry.item.value, rest) := by
  induction entries generalizing entry n with
  | nil =>
      cases n with
      | zero => cases hn
      | succ n =>
          simp only [itemsText, List.append_assoc, List.cons_append, List.nil_append] at hn ⊢
          rw [readItems, readItems_item entry (isBehind_break close _) hn]
          simp only [skipBlanks_break]
          rfl
  | cons next entries ih =>
      cases n with
      | zero => cases hn
      | succ n =>
          simp only [itemsText, List.append_assoc, List.cons_append] at hn ⊢
          have htail := ih next (n := n) (by
            simp only [List.length_append, List.length_cons] at hn ⊢
            omega)
          have hcomma : skipBlanks (',' :: (itemsText close next entries ++ rest)) =
              ',' :: (itemsText close next entries ++ rest) := rfl
          rw [readItems, readItems_item entry (isBehind_comma _) hn]
          simp only [hcomma, htail]
          rfl

theorem head_items_ne_bracket (close : Break) (entry : Item) (entries : List Item)
    (rest : List Char) :
    (skipBlanks (itemsText close entry entries ++ rest)).head? ≠ some ']' := by
  cases entries with
  | nil =>
      rw [itemsText, List.append_assoc, List.append_assoc, skipBlanks_item]
      exact entry.item.head_ne_bracket (isBehind_break close _)
  | cons next entries =>
      rw [itemsText, List.append_assoc, skipBlanks_item]
      exact entry.item.head_ne_bracket (isBehind_comma _)

/-- An array with its items on lines. -/
def Printed.array (close : Break) (entry : Item) (entries : List Item) : Printed where
  text := '[' :: itemsText close entry entries
  value := arr ((entry :: entries).map fun entry => entry.item.value)
  starts _ := rfl
  reads rest _ n hn := by
    cases n with
    | zero => cases hn
    | succ n =>
        have hitems := readItems_items close entry entries rest (n := n)
          (Nat.lt_of_succ_lt_succ hn)
        simp only [List.cons_append, readValue,
          if_neg (head_items_ne_bracket close entry entries rest), hitems]
        rfl

/-- An array without items on two lines. -/
def Printed.noItems (close : Break) : Printed where
  text := '[' :: (close.text ++ [']'])
  value := arr []
  starts _ := rfl
  reads rest _ n hn := by
    cases n with
    | zero => cases hn
    | succ n =>
        have hskip : skipBlanks (close.text ++ [']'] ++ rest) = ']' :: rest := by
          rw [List.append_assoc, skipBlanks_break]
          rfl
        simp only [List.cons_append, readValue, hskip]
        rfl

/-- The text of a value on lines of its own, as a whole. -/
theorem Printed.read (item : Printed) : read (item.text ++ ['\n']) = some item.value := by
  have hread := item.reads ['\n'] ⟨[], Or.inr rfl⟩ _ (Nat.lt_succ_self _)
  rw [Json.read, item.starts, hread]
  rfl

end Json
end EsdcFactory
