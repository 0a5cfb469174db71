import Mathlib.Data.List.Basic
import Mathlib.Data.List.Dedup
import Mathlib.Data.List.Infix

/-!
# Extended regular expressions

The operator `=~` reads a pattern as an extended regular expression and looks for a part
of the text that it matches.  A pattern that is no expression, or has no defined meaning,
matches nothing.  A pattern without special characters matches itself.
-/

namespace EsdcFactory
namespace Ere

/-!
## Expressions
-/

inductive Expr where
  | empty
  /-- a character that passes a test -/
  | one (test : Char -> Bool)
  | start
  | finish
  | seq (r r' : Expr)
  | alt (r r' : Expr)
  | rep (r : Expr) (min : Nat) (max : Option Nat)

/-- The places that are reached in so many rounds, or fewer. -/
def reach (step : List Nat -> List Nat) : Nat -> List Nat -> List Nat
  | 0, places => places
  | n + 1, places => (places ++ reach step n (step places)).dedup

/-- Where a match can end that begins at a place of the text. -/
def ends (text : List Char) : Expr -> Nat -> List Nat
  | .empty, i => [i]
  | .one test, i => if (text[i]?).any test then [i + 1] else []
  | .start, i => if i = 0 then [i] else []
  | .finish, i => if i = text.length then [i] else []
  | .seq r r', i => (ends text r i).flatMap (ends text r')
  | .alt r r', i => ends text r i ++ ends text r' i
  | .rep r min max, i =>
      let step := fun places : List Nat => (places.flatMap (ends text r)).dedup
      -- more rounds than there are characters reach no new place
      let rounds := match max with
        | some max => max - min
        | none => text.length
      reach step rounds (step^[min] [i])

/-- Some part of the text is matched. -/
def found (r : Expr) (text : List Char) : Bool :=
  (List.range (text.length + 1)).any fun i => !(ends text r i).isEmpty

/-!
## Tokens
-/

inductive Token where
  | one (test : Char -> Bool)
  | start
  | finish
  | bar
  | opening
  | closing
  | rep (min : Nat) (max : Option Nat)

def isSpecial (c : Char) : Bool :=
  c ∈ ['\\', '^', '$', '.', '[', '|', '(', ')', '*', '+', '?', '\x7b']

/-- The characters of a class such as `[:digit:]`. -/
def inClass (name : List Char) : Option (Char -> Bool) :=
  match String.ofList name with
  | "alpha" => some Char.isAlpha
  | "digit" => some Char.isDigit
  | "alnum" => some Char.isAlphanum
  | "upper" => some Char.isUpper
  | "lower" => some Char.isLower
  | "blank" => some fun c => c = ' ' || c = '\t'
  | "space" => some fun c => c = ' ' || 9 ≤ c.toNat && c.toNat ≤ 13
  | "cntrl" => some fun c => c.toNat < 32 || c.toNat = 127
  | "print" => some fun c => 32 ≤ c.toNat && c.toNat ≠ 127
  | "graph" => some fun c => 32 < c.toNat && c.toNat ≠ 127
  | "punct" => some fun c => 32 < c.toNat && c.toNat < 127 && !c.isAlphanum
  | "xdigit" => some fun c => c.isDigit || 'a' ≤ c && c ≤ 'f' || 'A' ≤ c && c ≤ 'F'
  | _ => none

/--
The rest of a bracket expression, up to the bracket that closes it: the characters that it
stands for, and the pattern behind it.
-/
def bracket : Nat -> (Char -> Bool) -> List Char -> Option ((Char -> Bool) × List Char)
  | 0, _, _ => none
  | _ + 1, _, [] => none
  | n + 1, test, '[' :: ':' :: rest =>
      match inClass (rest.takeWhile (· ≠ ':')), rest.dropWhile (· ≠ ':') with
      | some members, ':' :: ']' :: rest => bracket n (fun c => test c || members c) rest
      | _, _ => none
  | _ + 1, test, ']' :: rest => some (test, rest)
  | n + 1, test, a :: '-' :: b :: rest =>
      if b = ']' then bracket n (fun c => test c || c = a || c = '-') (b :: rest)
      else if a ≤ b then bracket n (fun c => test c || a ≤ c && c ≤ b) rest
      else none
  | n + 1, test, c :: rest => bracket n (fun d => test d || d = c) rest

/-- A bracket expression, where a bracket in front stands for itself. -/
def bracketSet (rest : List Char) : Option ((Char -> Bool) × List Char) :=
  match rest with
  | ']' :: rest => bracket (rest.length + 1) (· = ']') rest
  | rest => bracket (rest.length + 1) (fun _ => false) rest

/-- A bracket expression, with the complement of its characters behind a `^`. -/
def bracketExpr : List Char -> Option ((Char -> Bool) × List Char)
  | '^' :: rest => (bracketSet rest).map fun found => (fun c => !found.1 c, found.2)
  | rest => bracketSet rest

def number (digits : List Char) : Option Nat :=
  if digits.isEmpty then none else (String.ofList digits).toNat?

/-- The bounds of a repetition, up to the brace that closes them. -/
def bounds (rest : List Char) : Option (Token × List Char) :=
  let rest' := rest.dropWhile Char.isDigit
  (number (rest.takeWhile Char.isDigit)).bind fun min =>
  match rest' with
  | '\x7d' :: rest => some (.rep min (some min), rest)
  | ',' :: '\x7d' :: rest => some (.rep min none, rest)
  | ',' :: rest =>
      (number (rest.takeWhile Char.isDigit)).bind fun max =>
      match rest.dropWhile Char.isDigit with
      | '\x7d' :: rest => if min ≤ max then some (.rep min (some max), rest) else none
      | _ => none
  | _ => none

/-- The first token of a pattern. -/
def token (c : Char) (rest : List Char) : Option (Token × List Char) :=
  if isSpecial c then
    match c with
    | '\\' =>
        match rest with
        | [] => none
        | d :: rest => some (.one (· = d), rest)
    | '^' => some (.start, rest)
    | '$' => some (.finish, rest)
    | '.' => some (.one fun _ => true, rest)
    | '[' => (bracketExpr rest).map fun found => (.one found.1, found.2)
    | '|' => some (.bar, rest)
    | '(' => some (.opening, rest)
    | ')' => some (.closing, rest)
    | '*' => some (.rep 0 none, rest)
    | '+' => some (.rep 1 none, rest)
    | '?' => some (.rep 0 (some 1), rest)
    | _ => bounds rest
  else some (.one (· = c), rest)

def tokens : Nat -> List Char -> Option (List Token)
  | _, [] => some []
  | 0, _ :: _ => none
  | n + 1, c :: rest =>
      (token c rest).bind fun found => (tokens n found.2).map (found.1 :: ·)

/-!
## Patterns
-/

/-- What was read of a group: its alternatives, and the pieces of the last one. -/
structure Group where
  alts : List Expr := []
  pieces : List Expr := []

namespace Group

def push (r : Expr) (g : Group) : Group :=
  { g with pieces := r :: g.pieces }

/-- One piece after the other. -/
def joined : List Expr -> Expr
  | [] => .empty
  | r :: rest => .seq (joined rest) r

/-- An alternative ends, which must not be empty. -/
def bar (g : Group) : Option Group :=
  if g.pieces.isEmpty then none
  else some { alts := joined g.pieces :: g.alts }

def close (g : Group) : Option Expr :=
  if g.pieces.isEmpty then none
  else some (g.alts.foldl Expr.alt (joined g.pieces))

/-- Repeat the last piece, which is no anchor. -/
def repeated (min : Nat) (max : Option Nat) (g : Group) : Option Group :=
  match g.pieces with
  | [] => none
  | .start :: _ => none
  | .finish :: _ => none
  | r :: rest => some { g with pieces := .rep r min max :: rest }

end Group

def parse : List Token -> Group -> List Group -> Option Expr
  | [], g, [] => g.close
  | [], _, _ :: _ => none
  | .one test :: rest, g, outer => parse rest (g.push (.one test)) outer
  | .start :: rest, g, outer => parse rest (g.push .start) outer
  | .finish :: rest, g, outer => parse rest (g.push .finish) outer
  | .bar :: rest, g, outer => g.bar.bind fun g => parse rest g outer
  | .opening :: rest, g, outer => parse rest {} (g :: outer)
  | .closing :: _, _, [] => none
  | .closing :: rest, g, before :: outer =>
      g.close.bind fun r => parse rest (before.push r) outer
  | .rep min max :: rest, g, outer =>
      (g.repeated min max).bind fun g => parse rest g outer

def expr (pattern : List Char) : Option Expr :=
  (tokens pattern.length pattern).bind fun ts => parse ts {} []

/-- `[[ text =~ pattern ]]` -/
def isMatch (text pattern : String) : Bool :=
  (expr pattern.toList).any fun r => found r text.toList

/-!
## Patterns without special characters
-/

/-- A character that stands for itself. -/
def literal (c : Char) : Expr := .one (· = c)

/-- A pattern in which every character stands for itself. -/
def Plain (pattern : List Char) : Prop :=
  forall c, c ∈ pattern -> isSpecial c = false

theorem Plain.append {p q : List Char} (hp : Plain p) (hq : Plain q) : Plain (p ++ q) := by
  intro c hc
  rcases List.mem_append.mp hc with hc | hc
  · exact hp c hc
  · exact hq c hc

theorem token_plain {c : Char} (h : isSpecial c = false) (rest : List Char) :
    token c rest = some (.one (· = c), rest) := by
  unfold token
  rw [h, if_neg Bool.false_ne_true]

theorem tokens_plain {p : List Char} (h : Plain p) :
    tokens p.length p = some (p.map fun c => .one (· = c)) := by
  induction p with
  | nil => rfl
  | cons c rest ih =>
      have hc : isSpecial c = false := h c List.mem_cons_self
      have hrest := ih fun d hd => h d (List.mem_cons_of_mem c hd)
      rw [List.length_cons, tokens, token_plain hc, Option.bind_some, hrest]
      rfl

theorem parse_plain (p : List Char) (g : Group) :
    parse (p.map fun c => .one (· = c)) g [] =
      ({ g with pieces := p.reverse.map literal ++ g.pieces } : Group).close := by
  induction p generalizing g with
  | nil => rfl
  | cons c rest ih =>
      rw [List.map_cons, parse, ih]
      simp [Group.push, literal]

theorem expr_plain {p : List Char} (h : Plain p) (hne : p ≠ []) :
    expr p = some (Group.joined (p.reverse.map literal)) := by
  rw [expr, tokens_plain h, Option.bind_some, parse_plain]
  simp [Group.close, hne]

/-- One more character behind some that match. -/
theorem ends_literal_after (text p : List Char) (c : Char) (i : Nat) :
    (if p <+: text.drop i then [i + p.length] else []).flatMap (ends text (literal c)) =
      if p ++ [c] <+: text.drop i then [i + (p ++ [c]).length] else [] := by
  by_cases hp : p <+: text.drop i
  · rcases hp with ⟨rest, hrest⟩
    have hat : text[i + p.length]? = rest[0]? := by
      rw [← List.getElem?_drop, ← hrest, List.getElem?_append_right (Nat.le_refl _),
        Nat.sub_self]
    rw [if_pos ⟨rest, hrest⟩, List.flatMap_singleton, literal, ends, hat, ← hrest]
    cases rest with
    | nil =>
        have hlong : ¬ p ++ [c] <+: p ++ [] := by
          intro hlong
          have hlength := hlong.length_le
          rw [List.append_nil, List.length_append, List.length_singleton] at hlength
          exact Nat.not_succ_le_self _ hlength
        exact (if_neg hlong).symm
    | cons d rest => simp [List.prefix_append_right_inj, eq_comm, Nat.add_assoc]
  · have hnot : ¬ p ++ [c] <+: text.drop i :=
      fun hlong => hp ((List.prefix_append p [c]).trans hlong)
    rw [if_neg hp, if_neg hnot]
    rfl

/-- Characters that stand for themselves match where the pieces before them end. -/
theorem ends_joined_append (text p : List Char) (pieces : List Expr) (i : Nat) :
    ends text (Group.joined (p.reverse.map literal ++ pieces)) i =
      (ends text (Group.joined pieces) i).flatMap fun j =>
        if p <+: text.drop j then [j + p.length] else [] := by
  induction p using List.reverseRecOn with
  | nil => simp
  | append_singleton p c ih =>
      rw [List.reverse_append, List.reverse_singleton, List.singleton_append, List.map_cons,
        List.cons_append, Group.joined, ends, ih, List.flatMap_assoc]
      simp only [ends_literal_after]

theorem ends_joined (text p : List Char) (i : Nat) :
    ends text (Group.joined (p.reverse.map literal)) i =
      if p <+: text.drop i then [i + p.length] else [] := by
  have hends := ends_joined_append text p [] i
  rw [List.append_nil, Group.joined, ends, List.flatMap_singleton] at hends
  exact hends

/-- A pattern without special characters is looked for as it is. -/
theorem isMatch_plain (text : String) {pattern : String} (h : Plain pattern.toList)
    (hne : pattern.toList ≠ []) :
    isMatch text pattern = true <-> pattern.toList <:+: text.toList := by
  rw [isMatch, expr_plain h hne]
  show found _ _ = true <-> _
  simp only [found, List.any_eq_true, List.mem_range, ends_joined]
  constructor
  · intro hparts
    rcases hparts with ⟨i, _, hfound⟩
    split at hfound
    next hprefix => exact hprefix.isInfix.trans (List.drop_suffix i text.toList).isInfix
    next => cases hfound
  · intro hparts
    rcases hparts with ⟨before, behind, htext⟩
    refine ⟨before.length, ?_, ?_⟩
    · rw [← htext]
      simp only [List.length_append]
      omega
    · rw [if_pos]
      · rfl
      · rw [← htext, List.append_assoc, List.drop_left]
        exact List.prefix_append _ _

/-!
## Patterns behind a separator
-/

theorem expr_behind {c : Char} {p : List Char} (hc : isSpecial c = false) (h : Plain p) :
    expr ('(' :: '^' :: '|' :: c :: ')' :: p) =
      some (Group.joined (p.reverse.map literal ++ [.alt (Group.joined [literal c])
        (Group.joined [.start])])) := by
  have htokens : tokens (p.length + 5) ('(' :: '^' :: '|' :: c :: ')' :: p) =
      some (.opening :: .start :: .bar :: .one (· = c) :: .closing ::
        p.map fun c => .one (· = c)) := by
    have hopening : token '(' ('^' :: '|' :: c :: ')' :: p) =
        some (.opening, '^' :: '|' :: c :: ')' :: p) := rfl
    have hstart : token '^' ('|' :: c :: ')' :: p) = some (.start, '|' :: c :: ')' :: p) := rfl
    have hbar : token '|' (c :: ')' :: p) = some (.bar, c :: ')' :: p) := rfl
    have hclosing : token ')' p = some (.closing, p) := rfl
    simp only [tokens, hopening, hstart, hbar, hclosing, token_plain hc, tokens_plain h,
      Option.bind_some, Option.map_some]
  rw [expr]
  simp only [List.length_cons, htokens, Option.bind_some, parse, Group.bar, Group.push,
    Group.close, parse_plain]
  simp [Group.joined, literal]

theorem ends_separator (text : List Char) (c : Char) (i : Nat) :
    ends text (Group.joined [.alt (Group.joined [literal c]) (Group.joined [.start])]) i =
      (if text[i]? = some c then [i + 1] else []) ++ if i = 0 then [i] else [] := by
  simp only [Group.joined, ends, List.flatMap_singleton, literal]
  cases text[i]? <;> simp

/-- A place behind the separator, or the start. -/
theorem mem_ends_separator {text : List Char} {c : Char} {i j : Nat} :
    j ∈ ends text (Group.joined [.alt (Group.joined [literal c]) (Group.joined [.start])]) i <->
      (text[i]? = some c ∧ j = i + 1) ∨ i = 0 ∧ j = 0 := by
  rw [ends_separator, List.mem_append]
  by_cases hc : text[i]? = some c
  · by_cases hi : i = 0 <;> simp [hc, hi]
  · by_cases hi : i = 0 <;> simp [hc, hi]

theorem found_iff (r : Expr) (text : List Char) :
    found r text = true <-> exists i, i ≤ text.length ∧ exists j, j ∈ ends text r i := by
  simp only [found, List.any_eq_true, List.mem_range, Bool.not_eq_true', Nat.lt_succ_iff,
    List.isEmpty_eq_false_iff_exists_mem]

/-- A plain text is looked for at the start and behind a separator. -/
theorem isMatch_behind {text pattern : String} {c : Char} {p : List Char}
    (hpattern : pattern.toList = '(' :: '^' :: '|' :: c :: ')' :: p)
    (hc : isSpecial c = false) (h : Plain p) :
    isMatch text pattern = true <-> p <+: text.toList ∨ c :: p <:+: text.toList := by
  rw [isMatch, hpattern, expr_behind hc h, Option.any_some, found_iff]
  simp only [ends_joined_append, List.mem_flatMap]
  constructor
  · intro hmatch
    rcases hmatch with ⟨i, _, place, j, hj, hp⟩
    have hprefix : p <+: text.toList.drop j := by
      by_contra hnot
      rw [if_neg hnot] at hp
      cases hp
    rcases mem_ends_separator.mp hj with ⟨hat, rfl⟩ | ⟨rfl, rfl⟩
    · have hdrop : text.toList.drop i = c :: text.toList.drop (i + 1) := by
        rcases List.getElem?_eq_some_iff.mp hat with ⟨hlt, heq⟩
        rw [← heq, ← List.drop_eq_getElem_cons hlt]
      have hseparated : c :: p <+: text.toList.drop i := by
        rw [hdrop]
        exact List.cons_prefix_cons.mpr ⟨rfl, hprefix⟩
      exact Or.inr (hseparated.isInfix.trans (List.drop_suffix i _).isInfix)
    · exact Or.inl hprefix
  · intro hmatch
    rcases hmatch with hprefix | ⟨before, behind, htext⟩
    · refine ⟨0, Nat.zero_le _, p.length, 0, mem_ends_separator.mpr (Or.inr ⟨rfl, rfl⟩), ?_⟩
      rw [List.drop_zero, if_pos hprefix, Nat.zero_add]
      exact List.mem_singleton_self _
    · have hlength : before.length ≤ text.toList.length := by
        rw [← htext]
        simp only [List.length_append]
        omega
      have hat : text.toList[before.length]? = some c := by
        rw [← htext]
        simp
      have hprefix : p <+: text.toList.drop (before.length + 1) := by
        rw [← htext, ← List.drop_drop]
        simp
      refine ⟨before.length, hlength, before.length + 1 + p.length, before.length + 1,
        mem_ends_separator.mpr (Or.inl ⟨hat, rfl⟩), ?_⟩
      rw [if_pos hprefix]
      exact List.mem_singleton_self _

end Ere
end EsdcFactory
