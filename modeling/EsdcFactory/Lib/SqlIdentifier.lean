import Mathlib.Data.List.TakeWhile

/-!
# Identifiers in SQL statements

A name gets into a statement in two ways.  Quoted, it denotes itself, up to the
length that identifiers are cut to.  Pasted as it is, it is read as whatever
token it looks like: letters are folded to lower case, quotes are taken off, and
what is no identifier makes the statement a syntax error.
-/

namespace EsdcFactory
namespace SqlIdentifier

/-- The bytes that an identifier is cut to. -/
def maxBytes : Nat := 63

/-- As many leading characters as fit the given bytes. -/
def clip : Nat -> List Char -> List Char
  | _, [] => []
  | n, c :: rest => if c.utf8Size ≤ n then c :: clip (n - c.utf8Size) rest else []

def isBlank (c : Char) : Bool :=
  c = ' ' || c = '\t' || c = '\n' || c = '\r' || c = '\x0b' || c = '\x0c'

/-- A character that an identifier can begin with. -/
def isStart (c : Char) : Bool :=
  c.isAlpha || c = '_' || 128 ≤ c.toNat

def isPart (c : Char) : Bool :=
  isStart c || c.isDigit || c = '$'

/-- The name inside double quotes, with nothing but blanks behind them. -/
def quotedBody : List Char -> Option (List Char)
  | [] => none
  | '"' :: '"' :: rest => (quotedBody rest).map ('"' :: ·)
  | '"' :: rest => if rest.all isBlank then some [] else none
  | c :: rest => (quotedBody rest).map (c :: ·)

/-- The identifier that a quoted name denotes. -/
def quoted (name : List Char) : List Char :=
  clip maxBytes name

/-- The identifier that a pasted text denotes, given the words that are reserved. -/
def pasted (reserved : List Char -> Bool) (text : List Char) : Option (List Char) :=
  match text.dropWhile isBlank with
  | [] => none
  | '"' :: rest =>
      match quotedBody rest with
      | none | some [] => none
      | some name => some (clip maxBytes name)
  | c :: rest =>
      let word := (c :: rest).takeWhile isPart
      let behind := (c :: rest).dropWhile isPart
      if isStart c && behind.all isBlank && !reserved (word.map Char.toLower) then
        some (clip maxBytes (word.map Char.toLower))
      else none

structure IsWord (reserved : List Char -> Bool) (text : List Char) : Prop where
  start : exists c rest, text = c :: rest ∧ isStart c = true
  parts : text.all isPart = true
  notReserved : reserved (text.map Char.toLower) = false

theorem not_isBlank_of_isStart {c : Char} (h : isStart c = true) : isBlank c = false := by
  rw [Bool.eq_false_iff]
  intro hblank
  simp only [isBlank, Bool.or_eq_true, decide_eq_true_eq] at hblank
  rcases hblank with ((((rfl | rfl) | rfl) | rfl) | rfl) | rfl <;> cases h

theorem ne_quote_of_isStart {c : Char} (h : isStart c = true) : c ≠ '"' := by
  intro heq
  subst heq
  cases h

theorem pasted_word {reserved : List Char -> Bool} {text : List Char}
    (h : IsWord reserved text) :
    pasted reserved text = some (clip maxBytes (text.map Char.toLower)) := by
  rcases h.start with ⟨c, rest, rfl, hstart⟩
  have hblank : (c :: rest).dropWhile isBlank = c :: rest := by
    rw [List.dropWhile_cons_of_neg]
    rw [not_isBlank_of_isStart hstart]
    exact Bool.false_ne_true
  have hword : (c :: rest).takeWhile isPart = c :: rest :=
    List.takeWhile_eq_self_iff.mpr (List.all_eq_true.mp h.parts)
  have hbehind : (c :: rest).dropWhile isPart = [] :=
    List.dropWhile_eq_nil_iff.mpr (List.all_eq_true.mp h.parts)
  unfold pasted
  rw [hblank]
  split
  · rename_i heq
    cases heq
  · rename_i heq
    cases heq
    exact absurd rfl (ne_quote_of_isStart hstart)
  · rename_i heq
    cases heq
    simp only [hword, hbehind, hstart, h.notReserved, List.all_nil, Bool.not_false,
      Bool.and_self, if_true]

theorem utf8Size_toLower (c : Char) : c.toLower.utf8Size = c.utf8Size := by
  by_cases hupper : c.isUpper = true
  · have hlow : 65 ≤ c.toNat ∧ c.toNat ≤ 90 := by
      have hbounds : decide (c.val ≥ 'A'.val ∧ c.val ≤ 'Z'.val) = true := hupper
      simpa [UInt32.le_iff_toNat_le] using hbounds
    have hsmall : forall n : Nat, n ≤ 90 -> (Char.ofNat n).toLower.utf8Size = 1 ∧
        (Char.ofNat n).utf8Size = 1 := by
      decide +kernel
    have h := hsmall c.toNat hlow.right
    rw [Char.ofNat_toNat] at h
    exact h.left.trans h.right.symm
  · have hsame : c.toLower = c := by
      unfold Char.toLower
      have hbounds : ¬ (c.val ≥ 'A'.val ∧ c.val ≤ 'Z'.val) := fun h => hupper (decide_eq_true h)
      rw [dif_neg hbounds]
    rw [hsame]

theorem clip_map_toLower (n : Nat) (text : List Char) :
    clip n (text.map Char.toLower) = (clip n text).map Char.toLower := by
  induction text generalizing n with
  | nil => rfl
  | cons c rest ih =>
      rw [List.map_cons, clip, clip, utf8Size_toLower]
      split
      · rw [List.map_cons, ih]
      · rfl

theorem pasted_word_eq_quoted_iff {reserved : List Char -> Bool} {text : List Char}
    (h : IsWord reserved text) :
    pasted reserved text = some (quoted text) <->
      forall c, c ∈ quoted text -> c.toLower = c := by
  rw [pasted_word h, clip_map_toLower, Option.some.injEq, quoted]
  constructor
  · intro hmap
    have hid : (clip maxBytes text).map Char.toLower = (clip maxBytes text).map id := by
      rw [List.map_id]
      exact hmap
    exact List.map_inj_left.mp hid
  · intro hlower
    have hid := List.map_inj_left.mpr hlower
    exact hid.trans (List.map_id _)

end SqlIdentifier
end EsdcFactory
