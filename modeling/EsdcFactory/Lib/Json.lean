import EsdcFactory.Lib.Escapes

/-!
# JSON

A reader of JSON texts.  The characters from the ASCII range are the ones that
the notation is made of; bytes above it stand in strings for themselves.
-/

namespace EsdcFactory

/-- A JSON value, in which numbers keep their text. -/
inductive Json where
  | null
  | bool (value : Bool)
  | num (text : List Char)
  | str (text : List Char)
  | arr (items : List Json)
  | obj (members : List (List Char × Json))

namespace Json

open Escapes

/-!
## Strings
-/

/-- Control characters have to be escaped in a string. -/
def isControl (c : Char) : Bool :=
  c.toNat < 0x20

/-- Four hexadecimal digits, and what stands behind them. -/
def hex4 : List Char -> Option (Nat × List Char)
  | a :: b :: c :: d :: rest =>
      match hexValue a, hexValue b, hexValue c, hexValue d with
      | some a, some b, some c, some d =>
          some (4096 * a + 256 * b + 16 * c + d, rest)
      | _, _, _, _ => none
  | _ => none

def isHighSurrogate (n : Nat) : Bool :=
  0xd800 ≤ n && n < 0xdc00

def isLowSurrogate (n : Nat) : Bool :=
  0xdc00 ≤ n && n < 0xe000

def pairPoint (high low : Nat) : Nat :=
  0x10000 + 0x400 * (high - 0xd800) + (low - 0xdc00)

/-- The code point that stands for half a pair. -/
def replacement : Nat := 0xfffd

/-- What a code unit yields, by the text behind it. -/
def unicodePiece (unit : Nat) (rest : List Char) : List Char × List Char :=
  if isHighSurrogate unit then
    match rest with
    | '\\' :: 'u' :: text =>
        match hex4 text with
        | some (low, behind) =>
            if isLowSurrogate low then (utf8 (pairPoint unit low), behind)
            else (utf8 replacement, rest)
        | none => (utf8 replacement, rest)
    | _ => (utf8 replacement, rest)
  else if isLowSurrogate unit then (utf8 replacement, rest)
  else (utf8 unit, rest)

def letterEscape (c : Char) : Option Char :=
  match c with
  | '"' => some '"'
  | '\\' => some '\\'
  | '/' => some '/'
  | 'b' => some '\x08'
  | 'f' => some '\x0c'
  | 'n' => some '\n'
  | 'r' => some '\r'
  | 't' => some '\t'
  | _ => none

/-- What the first character of a text or its escape yields, and what is left. -/
def piece : List Char -> Option (List Char × List Char)
  | [] => none
  | '\\' :: 'u' :: rest => (hex4 rest).map fun found => unicodePiece found.1 found.2
  | ['\\'] => none
  | '\\' :: c :: rest => (letterEscape c).map fun out => ([out], rest)
  | c :: rest => if isControl c then none else some ([c], rest)

/-- The string up to its closing quote, and what stands behind that. -/
def readPieces : Nat -> List Char -> Option (List Char × List Char)
  | 0, _ => none
  | n + 1, text =>
      if text.head? = some '"' then some ([], text.tail)
      else
        match piece text with
        | none => none
        | some (out, rest) => (readPieces n rest).map fun found => (out ++ found.1, found.2)

/-- A string behind its opening quote. -/
def readString (text : List Char) : Option (List Char × List Char) :=
  readPieces (text.length + 1) text

/-- A character that stands for itself in a string. -/
def isLiteral (c : Char) : Bool :=
  c ≠ '"' && c ≠ '\\' && !isControl c

theorem piece_literal {c : Char} (rest : List Char) (h : isLiteral c = true) :
    piece (c :: rest) = some ([c], rest) := by
  simp only [isLiteral, Bool.and_eq_true, decide_eq_true_eq, Bool.not_eq_true',
    ne_eq] at h
  rcases h with ⟨⟨_, hback⟩, hcontrol⟩
  unfold piece
  split
  · contradiction
  · simp_all
  · simp_all
  · simp_all
  · rename_i heq
    cases heq
    simp [hcontrol]

theorem piece_letter {letter c : Char} (rest : List Char)
    (h : letterEscape letter = some c) :
    piece ('\\' :: letter :: rest) = some ([c], rest) := by
  have hne : letter ≠ 'u' := by
    intro heq
    subst heq
    cases h
  rw [piece]
  · rw [h]
    rfl
  · exact hne

theorem piece_control {c : Char} (rest : List Char) (hback : c ≠ '\\')
    (h : isControl c = true) : piece (c :: rest) = none := by
  unfold piece
  split
  · contradiction
  · simp_all
  · simp_all
  · simp_all
  · rename_i heq
    cases heq
    simp [h]

theorem readPieces_piece {n : Nat} {text rest : List Char} {c : Char}
    (hquote : text.head? ≠ some '"') (h : piece text = some ([c], rest)) :
    readPieces (n + 1) text =
      (readPieces n rest).map fun found => (c :: found.1, found.2) := by
  rw [readPieces, if_neg hquote, h]
  rfl

theorem readPieces_literal {n : Nat} {text : List Char} (rest : List Char)
    (hn : text.length < n) (h : forall c, c ∈ text -> isLiteral c = true) :
    readPieces n (text ++ '"' :: rest) = some (text, rest) := by
  induction text generalizing n with
  | nil =>
      cases n with
      | zero => cases hn
      | succ n => rfl
  | cons c text ih =>
      cases n with
      | zero => cases hn
      | succ n =>
          have hc : isLiteral c = true := h c List.mem_cons_self
          have hne : c ≠ '"' := by
            intro heq
            subst heq
            cases hc
          have htail := ih (n := n) (Nat.lt_of_succ_lt_succ hn)
            (fun x hx => h x (List.mem_cons_of_mem _ hx))
          simp [readPieces, hne, piece_literal _ hc, htail]

theorem readString_literal {text : List Char} (rest : List Char)
    (h : forall c, c ∈ text -> isLiteral c = true) :
    readString (text ++ '"' :: rest) = some (text, rest) := by
  refine readPieces_literal rest ?_ h
  rw [List.length_append]
  omega

/-!
## Counting the marks of a string
-/

/-- What reading can do to the marks of the text of a string. -/
structure Decodes (raw out : List Char) : Prop where
  marks_le : marks out ≤ marks raw
  us_le : marks out = marks raw -> us out + raw.count '\\' ≤ us raw
  literal : '\\' ∉ raw -> out = raw ∧ '"' ∉ raw
  noControl : forall c, c ∈ raw -> isControl c = false

theorem Decodes.nil : Decodes [] [] :=
  ⟨Nat.le_refl _, fun _ => Nat.le_refl _, fun _ => ⟨rfl, List.not_mem_nil⟩, nofun⟩

theorem Decodes.append {r q s t : List Char} (h : Decodes r s) (k : Decodes q t) :
    Decodes (r ++ q) (s ++ t) := by
  have hm := h.marks_le
  have km := k.marks_le
  constructor
  · rw [marks_append, marks_append]
    omega
  · intro heq
    rw [marks_append, marks_append] at heq
    have hu := h.us_le (by omega)
    have ku := k.us_le (by omega)
    rw [us_append, us_append, List.count_append]
    omega
  · intro hback
    rw [List.mem_append, not_or] at hback
    rcases h.literal hback.left with ⟨rfl, hquote⟩
    rcases k.literal hback.right with ⟨rfl, kquote⟩
    exact ⟨rfl, by simp [hquote, kquote]⟩
  · intro c hc
    rcases List.mem_append.mp hc with hleft | hright
    · exact h.noControl c hleft
    · exact k.noControl c hright

theorem Decodes.of_marks_lt {raw out : List Char} (h : marks out < marks raw)
    (hback : '\\' ∈ raw) (hcontrol : forall c, c ∈ raw -> isControl c = false) :
    Decodes raw out :=
  ⟨Nat.le_of_lt h, fun heq => absurd heq (Nat.ne_of_lt h), fun hnot => absurd hback hnot,
    hcontrol⟩

theorem letterEscape_marks {c out : Char} (h : letterEscape c = some out) :
    marks [out] < marks ['\\', c] ∧ isControl c = false := by
  unfold letterEscape at h
  split at h <;> cases h <;> exact ⟨by decide, by decide⟩

theorem isControl_of_hexValue {c : Char} {n : Nat} (h : hexValue c = some n) :
    isControl c = false ∧ isMark c = false := by
  have hlow : '0'.toNat ≤ c.toNat := by
    unfold hexValue at h
    split at h
    · rename_i hdigit
      simp only [Char.isDigit, Bool.and_eq_true, decide_eq_true_eq] at hdigit
      exact hdigit.left
    · split at h
      · rename_i hlower
        exact Nat.le_trans (by decide) hlower.left
      · split at h
        · rename_i hupper
          exact Nat.le_trans (by decide) hupper.left
        · cases h
  constructor
  · have hle : 48 ≤ c.toNat := hlow
    simp only [isControl, decide_eq_false_iff_not]
    omega
  · by_contra hmark
    rw [Bool.not_eq_false, isMark, Bool.or_eq_true, decide_eq_true_eq,
      decide_eq_true_eq] at hmark
    rcases hmark with rfl | rfl <;> cases h

theorem hex4_eq_some {text rest : List Char} {n : Nat} (h : hex4 text = some (n, rest)) :
    exists digits : List Char, text = digits ++ rest ∧ marks digits = 0 ∧
      (forall c, c ∈ digits -> isControl c = false) := by
  unfold hex4 at h
  split at h
  · rename_i a b c d behind
    split at h
    · rename_i ha hb hc hd
      cases h
      refine ⟨[a, b, c, d], rfl, ?_, ?_⟩
      · simp [marks, (isControl_of_hexValue ha).right, (isControl_of_hexValue hb).right,
          (isControl_of_hexValue hc).right, (isControl_of_hexValue hd).right]
      · simp [(isControl_of_hexValue ha).left, (isControl_of_hexValue hb).left,
          (isControl_of_hexValue hc).left, (isControl_of_hexValue hd).left]
    · cases h
  · cases h

theorem marks_unicode {digits : List Char} :
    marks ('\\' :: 'u' :: digits) = marks digits + 1 := by
  rw [marks_cons, marks_cons]
  rfl

theorem noControl_unicode {digits : List Char}
    (h : forall c, c ∈ digits -> isControl c = false) :
    forall c, c ∈ '\\' :: 'u' :: digits -> isControl c = false := by
  intro c hc
  rcases List.mem_cons.mp hc with rfl | hc
  · decide
  · rcases List.mem_cons.mp hc with rfl | hc
    · decide
    · exact h c hc

/-- How a piece of a string is written, and what it yields. -/
inductive IsPiece : List Char -> List Char -> Prop where
  | char {c : Char} (hback : c ≠ '\\') (hquote : c ≠ '"') (hcontrol : isControl c = false) :
      IsPiece [c] [c]
  | letter {letter c : Char} (h : letterEscape letter = some c) : IsPiece ['\\', letter] [c]
  /-- a code unit that is written by its number -/
  | unit (n : Nat) {digits : List Char} (hdigits : marks digits = 0)
      (h : forall c, c ∈ digits -> isControl c = false) :
      IsPiece ('\\' :: 'u' :: digits) (utf8 n)
  /-- a code unit with its other half -/
  | pair (n : Nat) {high low : List Char} (hhigh : marks high = 0) (hlow : marks low = 0)
      (h : forall c, c ∈ high ++ low -> isControl c = false) :
      IsPiece (('\\' :: 'u' :: high) ++ ('\\' :: 'u' :: low)) (utf8 n)

/-- A code unit, alone or with its other half. -/
theorem isPiece_unicodePiece (unit : Nat) (rest : List Char) {digits : List Char}
    (hdigits : marks digits = 0) (h : forall c, c ∈ digits -> isControl c = false) :
    exists raw, '\\' :: 'u' :: (digits ++ rest) = raw ++ (unicodePiece unit rest).2 ∧
      IsPiece raw (unicodePiece unit rest).1 := by
  have single : forall n, exists raw,
      '\\' :: 'u' :: (digits ++ rest) = raw ++ rest ∧ IsPiece raw (utf8 n) :=
    fun n => ⟨_, rfl, .unit n hdigits h⟩
  unfold unicodePiece
  split
  · split
    · rename_i text
      split
      · rename_i low behind hlow
        split
        · rcases hex4_eq_some hlow with ⟨more, rfl, hmore, hcontrol⟩
          have hpair := IsPiece.pair (pairPoint unit low) hdigits hmore
            (List.forall_mem_append.mpr ⟨h, hcontrol⟩)
          dsimp only
          exact ⟨_, by simp only [List.append_assoc, List.cons_append], hpair⟩
        · exact single replacement
      · exact single replacement
    · exact single replacement
  · split
    · exact single replacement
    · exact single unit

theorem piece_eq_some {text out rest : List Char} (h : piece text = some (out, rest))
    (hquote : text.head? ≠ some '"') :
    exists raw, text = raw ++ rest ∧ IsPiece raw out := by
  unfold piece at h
  split at h
  · cases h
  · rename_i behind
    rcases Option.map_eq_some_iff.mp h with ⟨⟨unit, found⟩, hfound, heq⟩
    rcases hex4_eq_some hfound with ⟨digits, rfl, hdigits, hcontrol⟩
    rcases isPiece_unicodePiece unit found hdigits hcontrol with ⟨raw, hraw, hpiece⟩
    rw [heq] at hraw hpiece
    exact ⟨raw, hraw, hpiece⟩
  · cases h
  · rename_i c behind _
    rcases Option.map_eq_some_iff.mp h with ⟨found, hfound, heq⟩
    cases heq
    exact ⟨['\\', c], rfl, .letter hfound⟩
  · rename_i c behind _ hnil hcons
    split at h
    · cases h
    · rename_i hcontrol
      cases h
      refine ⟨[c], rfl, .char ?_ ?_ (by simpa using hcontrol)⟩
      · intro hsame
        subst hsame
        cases rest with
        | nil => exact hnil rfl rfl
        | cons x rest => exact hcons x rest rfl rfl
      · intro hsame
        subst hsame
        exact hquote rfl

/-- What holds of every piece and of texts behind each other holds of a string. -/
theorem readPieces_eq_some {R : List Char -> List Char -> Prop} (hnil : R [] [])
    (happend : forall r q s t, R r s -> R q t -> R (r ++ q) (s ++ t))
    (hpieces : forall raw out, IsPiece raw out -> R raw out) {n : Nat}
    {text out rest : List Char} (h : readPieces n text = some (out, rest)) :
    exists raw, text = raw ++ '"' :: rest ∧ R raw out := by
  induction n generalizing text out with
  | zero => cases h
  | succ n ih =>
      rw [readPieces] at h
      split at h
      · rename_i hquote
        cases h
        rcases List.head?_eq_some_iff.mp hquote with ⟨tail, rfl⟩
        exact ⟨[], rfl, hnil⟩
      · rename_i hquote
        split at h
        · cases h
        · rename_i first behind hpiece
          rcases Option.map_eq_some_iff.mp h with ⟨⟨more, found⟩, hmore, heq⟩
          cases heq
          rcases piece_eq_some hpiece hquote with ⟨raw, rfl, hraw⟩
          rcases ih hmore with ⟨tail, rfl, htail⟩
          exact ⟨raw ++ tail, by simp, happend _ _ _ _ (hpieces _ _ hraw) htail⟩

theorem IsPiece.decodes {raw out : List Char} (h : IsPiece raw out) : Decodes raw out := by
  cases h with
  | char hback hquote hcontrol =>
      rename_i c
      refine ⟨Nat.le_refl _, fun _ => ?_, fun _ => ⟨rfl, by simpa using hquote.symm⟩, ?_⟩
      · rw [List.count_eq_zero.mpr (by simpa using hback.symm)]
        exact Nat.le_refl _
      · intro x hx
        rw [List.mem_singleton.mp hx]
        exact hcontrol
  | letter h =>
      rcases letterEscape_marks h with ⟨hmarks, hcontrol⟩
      refine Decodes.of_marks_lt hmarks List.mem_cons_self ?_
      intro x hx
      rcases List.mem_cons.mp hx with rfl | hx
      · decide
      · rw [List.mem_singleton.mp hx]
        exact hcontrol
  | unit n hdigits h =>
      rename_i digits
      refine ⟨?_, ?_, fun hback => absurd List.mem_cons_self hback, noControl_unicode h⟩
      · rw [marks_unicode, hdigits]
        exact marks_utf8_le n
      · intro heq
        rw [marks_unicode, hdigits] at heq
        have hcount : digits.count '\\' = 0 :=
          List.count_eq_zero.mpr (marks_eq_zero.mp hdigits).left
        rw [us_utf8_eq_zero heq, us_cons, us_cons, List.count_cons_self,
          List.count_cons_of_ne (by decide), hcount]
        simp [isU]
  | pair n hhigh hlow h =>
      have hle := marks_utf8_le n
      apply Decodes.of_marks_lt
      · rw [marks_append, marks_unicode, marks_unicode, hhigh, hlow]
        omega
      · exact List.mem_cons_self
      · intro c hc
        rcases List.mem_append.mp hc with hleft | hright
        · exact noControl_unicode (fun x hx => h x (List.mem_append_left _ hx)) c hleft
        · exact noControl_unicode (fun x hx => h x (List.mem_append_right _ hx)) c hright

theorem readString_eq_some {text out rest : List Char}
    (h : readString text = some (out, rest)) :
    exists raw, text = raw ++ '"' :: rest ∧ Decodes raw out := by
  rw [readString] at h
  exact readPieces_eq_some Decodes.nil (fun _ _ _ _ => Decodes.append)
    (fun _ _ => IsPiece.decodes) h

/-!
## Values
-/

def isBlank (c : Char) : Bool :=
  c = ' ' || c = '\t' || c = '\n' || c = '\r'

def skipBlanks (text : List Char) : List Char :=
  text.dropWhile isBlank

/-- One digit or more. -/
def readDigits (text : List Char) : Option (List Char × List Char) :=
  match text.takeWhile Char.isDigit with
  | [] => none
  | digits => some (digits, text.dropWhile Char.isDigit)

/-- The digits before a fraction, which begin with a zero only when it is alone. -/
def readWhole : List Char -> Option (List Char × List Char)
  | '0' :: rest => some (['0'], rest)
  | text => readDigits text

def readFraction : List Char -> Option (List Char × List Char)
  | '.' :: rest => (readDigits rest).map fun found => ('.' :: found.1, found.2)
  | text => some ([], text)

def readExponent (text : List Char) : Option (List Char × List Char) :=
  match text with
  | e :: rest =>
      if e = 'e' ∨ e = 'E' then
        match rest with
        | sign :: behind =>
            if sign = '+' ∨ sign = '-' then
              (readDigits behind).map fun found => (e :: sign :: found.1, found.2)
            else (readDigits rest).map fun found => (e :: found.1, found.2)
        | [] => none
      else some ([], text)
  | [] => some ([], text)

def readNumber (text : List Char) : Option (Json × List Char) :=
  let sign := if text.head? = some '-' then ['-'] else []
  match readWhole (text.drop sign.length) with
  | none => none
  | some (whole, rest) =>
      match readFraction rest with
      | none => none
      | some (fraction, rest) =>
          (readExponent rest).map fun found =>
            (num (sign ++ whole ++ fraction ++ found.1), found.2)

mutual

/-- A value, read in steps of the given number. -/
def readValue : Nat -> List Char -> Option (Json × List Char)
  | 0, _ => none
  | n + 1, text =>
      match text with
      | '"' :: rest => (readString rest).map fun found => (str found.1, found.2)
      | '{' :: rest =>
          if (skipBlanks rest).head? = some '}' then some (obj [], (skipBlanks rest).tail)
          else (readMembers n rest).map fun found => (obj found.1, found.2)
      | '[' :: rest =>
          if (skipBlanks rest).head? = some ']' then some (arr [], (skipBlanks rest).tail)
          else (readItems n rest).map fun found => (arr found.1, found.2)
      | 'n' :: 'u' :: 'l' :: 'l' :: rest => some (null, rest)
      | 't' :: 'r' :: 'u' :: 'e' :: rest => some (bool true, rest)
      | 'f' :: 'a' :: 'l' :: 's' :: 'e' :: rest => some (bool false, rest)
      | text => readNumber text

/-- The members of an object up to its closing brace. -/
def readMembers : Nat -> List Char -> Option (List (List Char × Json) × List Char)
  | 0, _ => none
  | n + 1, text =>
      match skipBlanks text with
      | '"' :: rest =>
          match readString rest with
          | none => none
          | some (key, rest) =>
              match skipBlanks rest with
              | ':' :: rest =>
                  match readValue n (skipBlanks rest) with
                  | none => none
                  | some (value, rest) =>
                      match skipBlanks rest with
                      | ',' :: rest =>
                          (readMembers n rest).map fun found =>
                            ((key, value) :: found.1, found.2)
                      | '}' :: rest => some ([(key, value)], rest)
                      | _ => none
              | _ => none
      | _ => none

/-- The items of an array up to its closing bracket. -/
def readItems : Nat -> List Char -> Option (List Json × List Char)
  | 0, _ => none
  | n + 1, text =>
      match readValue n (skipBlanks text) with
      | none => none
      | some (value, rest) =>
          match skipBlanks rest with
          | ',' :: rest =>
              (readItems n rest).map fun found => (value :: found.1, found.2)
          | ']' :: rest => some ([value], rest)
          | _ => none

end

/-- A whole text as a value. -/
def read (text : List Char) : Option Json :=
  match readValue (text.length + 1) (skipBlanks text) with
  | none => none
  | some (value, rest) => if skipBlanks rest = [] then some value else none

theorem read_members {text : List Char} (h : (skipBlanks text).head? ≠ some '}') :
    read ('{' :: text) =
      (readMembers (text.length + 1) text).bind fun found =>
        if skipBlanks found.2 = [] then some (obj found.1) else none := by
  have hskip : skipBlanks ('{' :: text) = '{' :: text := rfl
  rw [read, hskip, List.length_cons]
  simp only [readValue, if_neg h]
  cases readMembers (text.length + 1) text <;> rfl

/-- What follows a member. -/
def readRest (n : Nat) (key : List Char) (value : Json) (rest : List Char) :
    Option (List (List Char × Json) × List Char) :=
  match skipBlanks rest with
  | ',' :: rest => (readMembers n rest).map fun found => ((key, value) :: found.1, found.2)
  | '}' :: rest => some ([(key, value)], rest)
  | _ => none

theorem readMembers_member (n : Nat) {key : List Char} (text : List Char)
    (hkey : forall c, c ∈ key -> isLiteral c = true) :
    readMembers (n + 2)
        ('\n' :: ' ' :: ' ' :: '"' :: (key ++ '"' :: ':' :: ' ' :: '"' :: text)) =
      (readString text).bind fun found => readRest (n + 1) key (str found.1) found.2 := by
  have hskip : skipBlanks ('\n' :: ' ' :: ' ' :: '"' ::
      (key ++ '"' :: ':' :: ' ' :: '"' :: text)) =
      '"' :: (key ++ '"' :: ':' :: ' ' :: '"' :: text) := rfl
  have hcolon : skipBlanks (':' :: ' ' :: '"' :: text) = ':' :: ' ' :: '"' :: text := rfl
  have hvalue : skipBlanks (' ' :: '"' :: text) = '"' :: text := rfl
  rw [readMembers, hskip]
  simp only [readString_literal _ hkey, hcolon, hvalue, readValue]
  cases readString text <;> rfl

theorem mem_of_readRest {n : Nat} {key rest tail : List Char} {value : Json}
    {members : List (List Char × Json)}
    (h : readRest n key value rest = some (members, tail)) : (key, value) ∈ members := by
  unfold readRest at h
  split at h
  · rcases Option.map_eq_some_iff.mp h with ⟨found, _, heq⟩
    cases heq
    exact List.mem_cons_self
  · cases h
    exact List.mem_cons_self
  · cases h

theorem readRest_comma (n : Nat) (key : List Char) (value : Json) (rest : List Char) :
    readRest n key value (',' :: rest) =
      (readMembers n rest).map fun found => ((key, value) :: found.1, found.2) := rfl

theorem readRest_brace (n : Nat) (key : List Char) (value : Json) (rest : List Char) :
    readRest n key value ('\n' :: '}' :: rest) = some ([(key, value)], rest) := rfl

end Json
end EsdcFactory
