import EsdcFactory.Installer.Address

/-!
# The grammar of addresses

An address is four octets with dots between them.  `is_net` splits a text at its
dots as the shell does and looks at the first four fields, and `ip_to_num`
splices these fields into arithmetic.
-/

namespace EsdcFactory
namespace Installer

open BashArith

/-!
## Octets and quads
-/

/-- A word of digits that is worth at most 255. -/
def IsOctet (word : List Char) : Prop :=
  isdigit word = true ∧ digitsValue 10 word ≤ 255

instance (word : List Char) : Decidable (IsOctet word) :=
  inferInstanceAs (Decidable (_ ∧ _))

/-- Four words with dots between them. -/
def quad (a b c d : List Char) : List Char :=
  a ++ '.' :: (b ++ '.' :: (c ++ '.' :: d))

/-- Exactly four octets, separated by single dots, and nothing else. -/
def IsQuad (s : String) : Prop :=
  exists a b c d, s.toList = quad a b c d ∧
    IsOctet a ∧ IsOctet b ∧ IsOctet c ∧ IsOctet d

/-- A text that begins with four words of digits. -/
structure BeginsWithFields (s : String) (a b c d rest : List Char) : Prop where
  text : s.toList = quad a b c (d ++ rest)
  digitsA : isdigit a = true
  digitsB : isdigit b = true
  digitsC : isdigit c = true
  digitsD : isdigit d = true
  ends : rest = [] ∨ exists more, rest = '.' :: more

theorem isdigit_ne_nil {word : List Char} (h : isdigit word = true) :
    word ≠ [] := by
  intro heq
  subst heq
  cases h

theorem isdigit_all {word : List Char} (h : isdigit word = true) :
    word.all Char.isDigit = true := by
  unfold isdigit at h
  exact (Bool.and_eq_true_iff.mp h).right

theorem isdigit_no_dot {word : List Char} (h : isdigit word = true) :
    '.' ∉ word := by
  intro hmem
  have hdot := List.all_eq_true.mp (isdigit_all h) '.' hmem
  cases hdot

theorem BeginsWithFields.splitFields {s : String} {a b c d rest : List Char}
    (h : BeginsWithFields s a b c d rest) :
    exists more, splitFields '.' s.toList = a :: b :: c :: d :: more := by
  have hlast : exists more, BashArith.splitFields '.' (d ++ rest) = d :: more := by
    rcases h.ends with rfl | ⟨more, rfl⟩
    · exists []
      rw [List.append_nil]
      exact splitFields_last (isdigit_no_dot h.digitsD) (isdigit_ne_nil h.digitsD)
    · exact ⟨_, splitFields_append_sep (isdigit_no_dot h.digitsD) more⟩
  rcases hlast with ⟨more, hlast⟩
  exists more
  rw [h.text, quad, splitFields_append_sep (isdigit_no_dot h.digitsA),
    splitFields_append_sep (isdigit_no_dot h.digitsB),
    splitFields_append_sep (isdigit_no_dot h.digitsC), hlast]

theorem BeginsWithFields.unique {s : String} {a b c d rest a' b' c' d' rest' : List Char}
    (h : BeginsWithFields s a b c d rest) (h' : BeginsWithFields s a' b' c' d' rest') :
    a = a' ∧ b = b' ∧ c = c' ∧ d = d' ∧ rest = rest' := by
  rcases h.splitFields with ⟨more, hsplit⟩
  rcases h'.splitFields with ⟨more', hsplit'⟩
  rw [hsplit] at hsplit'
  cases hsplit'
  have htext := h.text.symm.trans h'.text
  have hrest : rest = rest' := by simpa [quad] using htext
  exact ⟨rfl, rfl, rfl, rfl, hrest⟩

theorem beginsWithFields_of_splitFields {s : String} {a b c d : List Char}
    {more : List (List Char)}
    (h : splitFields '.' s.toList = a :: b :: c :: d :: more)
    (ha : isdigit a = true) (hb : isdigit b = true) (hc : isdigit c = true)
    (hd : isdigit d = true) : exists rest, BeginsWithFields s a b c d rest := by
  rcases (splitFields_eq_cons h).right with ⟨_, hnil⟩ | ⟨restA, htextA, hsplitA⟩
  · cases hnil
  rcases (splitFields_eq_cons hsplitA).right with ⟨_, hnil⟩ | ⟨restB, htextB, hsplitB⟩
  · cases hnil
  rcases (splitFields_eq_cons hsplitB).right with ⟨_, hnil⟩ | ⟨restC, htextC, hsplitC⟩
  · cases hnil
  rcases (splitFields_eq_cons hsplitC).right with ⟨htextD, _⟩ | ⟨restD, htextD, _⟩
  · exists []
    refine ⟨?_, ha, hb, hc, hd, Or.inl rfl⟩
    rw [htextA, htextB, htextC, htextD, quad, List.append_nil]
  · exists '.' :: restD
    refine ⟨?_, ha, hb, hc, hd, Or.inr ⟨restD, rfl⟩⟩
    rw [htextA, htextB, htextC, htextD, quad]

/-!
## What `is_net` accepts
-/

theorem isNet_iff (s : String) :
    isNet s = true <-> exists a b c d rest, BeginsWithFields s a b c d rest ∧
      isAbove255 a = false ∧ isAbove255 b = false ∧ isAbove255 c = false := by
  constructor
  · intro h
    unfold isNet at h
    rcases hsplit : splitFields '.' s.toList with
      _ | ⟨a, _ | ⟨b, _ | ⟨c, _ | ⟨d, more⟩⟩⟩⟩
    -- with fewer than four fields, one of the four is empty
    · simp [hsplit, isdigit] at h
    · simp [hsplit, isdigit] at h
    · simp [hsplit, isdigit] at h
    · simp [hsplit, isdigit] at h
    · simp only [hsplit, List.getD_cons_zero, List.getD_cons_succ, Bool.and_eq_true,
        Bool.not_eq_true'] at h
      rcases h with ⟨⟨⟨⟨⟨⟨ha, hb⟩, hc⟩, hd⟩, hboundA⟩, hboundB⟩, hboundC⟩
      rcases beginsWithFields_of_splitFields hsplit ha hb hc hd with ⟨rest, hbegins⟩
      exact ⟨a, b, c, d, rest, hbegins, hboundA, hboundB, hboundC⟩
  · intro hparts
    rcases hparts with ⟨a, b, c, d, rest, hbegins, ha, hb, hc⟩
    rcases hbegins.splitFields with ⟨more, hsplit⟩
    simp [isNet, hsplit, hbegins.digitsA, hbegins.digitsB, hbegins.digitsC,
      hbegins.digitsD, ha, hb, hc]

theorem isAbove255_eq_false_iff (word : List Char) :
    isAbove255 word = false <->
      digitsValue 10 word ≤ 255 ∨ 2 ^ 63 ≤ digitsValue 10 word := by
  simp only [isAbove255, Bool.and_eq_false_iff, decide_eq_false_iff_not, Nat.not_lt]

theorem isQuad_iff (s : String) :
    IsQuad s <-> exists a b c d, BeginsWithFields s a b c d [] ∧
      digitsValue 10 a ≤ 255 ∧ digitsValue 10 b ≤ 255 ∧
      digitsValue 10 c ≤ 255 ∧ digitsValue 10 d ≤ 255 := by
  constructor
  · intro h
    rcases h with ⟨a, b, c, d, htext, ha, hb, hc, hd⟩
    refine ⟨a, b, c, d, ⟨?_, ha.left, hb.left, hc.left, hd.left, Or.inl rfl⟩,
      ha.right, hb.right, hc.right, hd.right⟩
    rw [htext, List.append_nil]
  · intro h
    rcases h with ⟨a, b, c, d, hbegins, ha, hb, hc, hd⟩
    refine ⟨a, b, c, d, ?_, ⟨hbegins.digitsA, ha⟩, ⟨hbegins.digitsB, hb⟩,
      ⟨hbegins.digitsC, hc⟩, ⟨hbegins.digitsD, hd⟩⟩
    rw [hbegins.text, List.append_nil]

theorem isQuad_isNet {s : String} (h : IsQuad s) : isNet s = true := by
  rcases (isQuad_iff s).mp h with ⟨a, b, c, d, hbegins, ha, hb, hc, _⟩
  exact (isNet_iff s).mpr ⟨a, b, c, d, [], hbegins,
    (isAbove255_eq_false_iff a).mpr (Or.inl ha),
    (isAbove255_eq_false_iff b).mpr (Or.inl hb),
    (isAbove255_eq_false_iff c).mpr (Or.inl hc)⟩

/--
The texts that get past the tests of `is_net` without being quads: more follows
behind the fourth field, the fourth field is above 255, or one of the first three
does not fit the integers of the shell.
-/
def GetsPast (s : String) : Prop :=
  exists a b c d rest, BeginsWithFields s a b c d rest ∧
    isAbove255 a = false ∧ isAbove255 b = false ∧ isAbove255 c = false ∧
    (rest ≠ [] ∨ 255 < digitsValue 10 d ∨ 2 ^ 63 ≤ digitsValue 10 a ∨
      2 ^ 63 ≤ digitsValue 10 b ∨ 2 ^ 63 ≤ digitsValue 10 c)

/-- `is_net` accepts exactly the quads, unless a text gets past its tests. -/
theorem isNet_isQuad_iff (s : String) :
    (isNet s = true <-> IsQuad s) <-> ¬ GetsPast s := by
  constructor
  · intro hiff hparts
    rcases hparts with ⟨a, b, c, d, rest, hbegins, hboundA, hboundB, hboundC, hpast⟩
    have hnet := (isNet_iff s).mpr ⟨a, b, c, d, rest, hbegins, hboundA, hboundB, hboundC⟩
    rcases (isQuad_iff s).mp (hiff.mp hnet) with ⟨a', b', c', d', hquad, ha, hb, hc, hd⟩
    rcases hbegins.unique hquad with ⟨rfl, rfl, rfl, rfl, rfl⟩
    rcases hpast with hrest | hd' | ha' | hb' | hc'
    · exact hrest rfl
    · exact Nat.not_le.mpr hd' hd
    · exact absurd (Nat.le_trans ha' ha) (by decide)
    · exact absurd (Nat.le_trans hb' hb) (by decide)
    · exact absurd (Nat.le_trans hc' hc) (by decide)
  · intro hpast
    constructor
    · intro hnet
      rcases (isNet_iff s).mp hnet with
        ⟨a, b, c, d, rest, hbegins, hboundA, hboundB, hboundC⟩
      have hnone : forall p : Prop, (p -> rest ≠ [] ∨ 255 < digitsValue 10 d ∨
          2 ^ 63 ≤ digitsValue 10 a ∨ 2 ^ 63 ≤ digitsValue 10 b ∨
          2 ^ 63 ≤ digitsValue 10 c) -> ¬ p := by
        intro p himp hp
        exact hpast ⟨a, b, c, d, rest, hbegins, hboundA, hboundB, hboundC, himp hp⟩
      have hrest : rest = [] := by
        by_contra hne
        exact hnone _ (fun h => Or.inl h) hne
      subst hrest
      have hd : digitsValue 10 d ≤ 255 :=
        Nat.not_lt.mp (hnone _ fun h => Or.inr (Or.inl h))
      have ha := ((isAbove255_eq_false_iff a).mp hboundA).resolve_right
        (hnone _ fun h => Or.inr (Or.inr (Or.inl h)))
      have hb := ((isAbove255_eq_false_iff b).mp hboundB).resolve_right
        (hnone _ fun h => Or.inr (Or.inr (Or.inr (Or.inl h))))
      have hc := ((isAbove255_eq_false_iff c).mp hboundC).resolve_right
        (hnone _ fun h => Or.inr (Or.inr (Or.inr (Or.inr h))))
      exact (isQuad_iff s).mpr ⟨a, b, c, d, hbegins, ha, hb, hc, hd⟩
    · exact isQuad_isNet

/-- The fourth field of an accepted address can be above 255. -/
theorem isNet_last_field_unbounded :
    ¬ forall s : String, isNet s = true <-> IsQuad s := by
  intro h
  have hquad := (h "10.0.0.256").mp (by decide +kernel)
  rcases (isQuad_iff _).mp hquad with ⟨a, b, c, d, hbegins, _, _, _, hd⟩
  have hfields : BeginsWithFields "10.0.0.256" ['1', '0'] ['0'] ['0']
      ['2', '5', '6'] [] :=
    ⟨by decide, by decide, by decide, by decide, by decide, Or.inl rfl⟩
  rcases hbegins.unique hfields with ⟨_, _, _, rfl, _⟩
  exact absurd hd (by decide)

/-!
## Numbers of quads
-/

/-- The number that four decimal octets stand for. -/
def quadNumber (a b c d : List Char) : Nat :=
  digitsValue 10 a * 2 ^ 24 + digitsValue 10 b * 2 ^ 16 +
    digitsValue 10 c * 2 ^ 8 + digitsValue 10 d

/-- The quad without leading zeros. -/
def canonicalQuad (a b c d : List Char) : String :=
  dots (toString (digitsValue 10 a)) (toString (digitsValue 10 b))
    (toString (digitsValue 10 c)) (toString (digitsValue 10 d))

/-- `ip_to_num` finishes with the number of the quad and `num_to_ip` prints it again. -/
def ConvertsExactly (ip : String) (a b c d : List Char) (s : Globals) : Prop :=
  exists s', ipToNum ip s = .done s' ∧
    s'.numbers.num = BitVec.ofNat 64 (quadNumber a b c d) ∧
    (numToIp s'.numbers.num s').ipAddr = canonicalQuad a b c d

theorem splitFields_quad {a b c d : List Char} (ha : isdigit a = true)
    (hb : isdigit b = true) (hc : isdigit c = true) (hd : isdigit d = true) :
    splitFields '.' (quad a b c d) = [a, b, c, d] := by
  rw [quad, splitFields_append_sep (isdigit_no_dot ha),
    splitFields_append_sep (isdigit_no_dot hb),
    splitFields_append_sep (isdigit_no_dot hc),
    splitFields_last (isdigit_no_dot hd) (isdigit_ne_nil hd)]

theorem ipNumber_eq_some_iff {ip : String} {a b c d : List Char} {w : Word}
    (h : splitFields '.' ip.toList = [a, b, c, d]) :
    ipNumber ip = some w <-> exists wa wb wc wd, operand a = some wa ∧
      operand b = some wb ∧ operand c = some wc ∧ operand d = some wd ∧
      w = (wa <<< 24) + (wb <<< 16) + (wc <<< 8) + wd := by
  unfold ipNumber
  rw [h]
  simp only [List.getD_cons_zero, List.getD_cons_succ, Option.bind_eq_bind,
    Option.bind_eq_some_iff, Option.pure_def, Option.some.injEq]
  constructor
  · intro hparts
    rcases hparts with ⟨wa, ha, wb, hb, wc, hc, wd, hd, rfl⟩
    exact ⟨wa, wb, wc, wd, ha, hb, hc, hd, rfl⟩
  · intro hparts
    rcases hparts with ⟨wa, wb, wc, wd, ha, hb, hc, hd, rfl⟩
    exact ⟨wa, ha, wb, hb, wc, hc, wd, hd, rfl⟩

theorem shifted_ofNat (a b c d : Nat) :
    (BitVec.ofNat 64 a <<< 24) + (BitVec.ofNat 64 b <<< 16) +
      (BitVec.ofNat 64 c <<< 8) + BitVec.ofNat 64 d =
      BitVec.ofNat 64 (a * 2 ^ 24 + b * 2 ^ 16 + c * 2 ^ 8 + d) := by
  apply BitVec.eq_of_toNat_eq
  simp only [BitVec.toNat_add, BitVec.toNat_shiftLeft, BitVec.toNat_ofNat,
    Nat.shiftLeft_eq]
  omega

theorem printedIp_octets {a b c d : Nat} (ha : a ≤ 255) (hb : b ≤ 255) (hc : c ≤ 255)
    (hd : d ≤ 255) :
    printedIp (BitVec.ofNat 64 (a * 2 ^ 24 + b * 2 ^ 16 + c * 2 ^ 8 + d)) =
      dots (toString a) (toString b) (toString c) (toString d) := by
  rw [printedIp_ofNat (by omega), dotted]
  congr 2 <;> omega

theorem ipToNum_numToIp {n : Nat} (h : n < 2 ^ 32) (s s' : Globals) :
    ipToNum (numToIp (BitVec.ofNat 64 n) s).ipAddr s' =
      .done { s' with numbers.num := BitVec.ofNat 64 n } := by
  simp only [ipToNum, numToIp, printedIp_ofNat h, ipNumber_dotted h]

/-- A quad is converted exactly when all its octets are spelled in decimal. -/
theorem convertsExactly_iff {ip : String} {a b c d : List Char} (s : Globals)
    (htext : ip.toList = quad a b c d) (ha : IsOctet a) (hb : IsOctet b)
    (hc : IsOctet c) (hd : IsOctet d) :
    ConvertsExactly ip a b c d s <->
      IsDecimal a ∧ IsDecimal b ∧ IsDecimal c ∧ IsDecimal d := by
  have hsplit : splitFields '.' ip.toList = [a, b, c, d] := by
    rw [htext, splitFields_quad ha.left hb.left hc.left hd.left]
  constructor
  · intro h
    rcases h with ⟨s', hdone, hnum, _⟩
    unfold ipToNum at hdone
    cases hip : ipNumber ip with
    | none =>
        rw [hip] at hdone
        cases hdone
    | some w =>
        rw [hip] at hdone
        cases hdone
        rcases (ipNumber_eq_some_iff hsplit).mp hip with
          ⟨_, _, _, _, hwa, hwb, hwc, hwd, hw⟩
        rcases operand_le (isdigit_all ha.left) hwa with ⟨na, rfl, hna, hdeca⟩
        rcases operand_le (isdigit_all hb.left) hwb with ⟨nb, rfl, hnb, hdecb⟩
        rcases operand_le (isdigit_all hc.left) hwc with ⟨nc, rfl, hnc, hdecc⟩
        rcases operand_le (isdigit_all hd.left) hwd with ⟨nd, rfl, hnd, hdecd⟩
        rw [← hdeca, ← hdecb, ← hdecc, ← hdecd]
        -- no octet is worth more than in decimal, so none can make up for another
        have hsum := congrArg BitVec.toNat (hw.symm.trans hnum)
        rw [shifted_ofNat] at hsum
        simp only [BitVec.toNat_ofNat, quadNumber] at hsum
        have hboundA := ha.right
        have hboundB := hb.right
        have hboundC := hc.right
        have hboundD := hd.right
        omega
  · intro h
    rcases h with ⟨hdeca, hdecb, hdecc, hdecd⟩
    have hip : ipNumber ip = some (BitVec.ofNat 64 (quadNumber a b c d)) := by
      rw [ipNumber_eq_some_iff hsplit]
      exact ⟨_, _, _, _,
        operand_of_isDecimal (isdigit_ne_nil ha.left) (isdigit_all ha.left) hdeca,
        operand_of_isDecimal (isdigit_ne_nil hb.left) (isdigit_all hb.left) hdecb,
        operand_of_isDecimal (isdigit_ne_nil hc.left) (isdigit_all hc.left) hdecc,
        operand_of_isDecimal (isdigit_ne_nil hd.left) (isdigit_all hd.left) hdecd,
        (shifted_ofNat _ _ _ _).symm⟩
    refine ⟨_, by rw [ipToNum, hip], rfl, ?_⟩
    exact printedIp_octets ha.right hb.right hc.right hd.right

/--
Quads are converted exactly when their octets are spelled in decimal, and every
32-bit number is read back from the address printed for it.
-/
theorem conversion_iff_decimal (s s' : Globals) :
    (forall (ip : String) (a b c d : List Char),
      ip.toList = quad a b c d -> IsOctet a -> IsOctet b -> IsOctet c -> IsOctet d ->
      (ConvertsExactly ip a b c d s <->
        IsDecimal a ∧ IsDecimal b ∧ IsDecimal c ∧ IsDecimal d)) ∧
    forall n : Nat, n < 2 ^ 32 ->
      ipToNum (numToIp (BitVec.ofNat 64 n) s).ipAddr s' =
        .done { s' with numbers.num := BitVec.ofNat 64 n } := by
  constructor
  · intro ip a b c d htext ha hb hc hd
    exact convertsExactly_iff s htext ha hb hc hd
  · intro n hn
    exact ipToNum_numToIp hn s s'

theorem conversion_iff_decimal_plain :
    ConvertsExactly "10.0.0.1" ['1', '0'] ['0'] ['0'] ['1'] (Globals.initial false) ∧
      ipToNum (numToIp 167772161 (Globals.initial false)).ipAddr
        (Globals.initial false) =
        .done { Globals.initial false with numbers.num := 167772161 } :=
  ⟨((conversion_iff_decimal (Globals.initial false) (Globals.initial false)).left
      "10.0.0.1" ['1', '0'] ['0'] ['0'] ['1'] rfl
      (by decide) (by decide) (by decide) (by decide)).mpr (by decide),
    (conversion_iff_decimal (Globals.initial false) (Globals.initial false)).right
      167772161 (by decide)⟩

/-- The octet `010` is ten for the validator and eight for the arithmetic. -/
theorem octal_octet_is_misread :
    isNet "10.0.0.010" = true ∧
      ¬ forall s, ConvertsExactly "10.0.0.010" ['1', '0'] ['0'] ['0'] ['0', '1', '0'] s := by
  constructor
  · decide +kernel
  · intro h
    have hdec := (convertsExactly_iff _ rfl (by decide) (by decide) (by decide)
      (by decide)).mp (h (Globals.initial false))
    revert hdec
    decide

end Installer
end EsdcFactory
