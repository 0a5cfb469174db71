import EsdcFactory.Lib.BashArith

/-!
# Setting the MTU of the interfaces

`04-mtu-set.sh` runs at the boot of a virtual machine.  It reads the MTU of each
NIC from the metadata and numbers the interfaces while it goes through them.
-/

namespace EsdcFactory
namespace Guest

open BashArith Decimal

/-!
## Reading the metadata
-/

/-- The `mtu` of a NIC in `sdc:nics`; a number is written as `jq` prints it. -/
inductive Mtu where
  | null
  | number (text : List Char) (hne : text ≠ [])
      (hcanonical : text.all Char.isDigit = true -> IsDecimal text)

/-- A line of `jq ".[].mtu"`. -/
def Mtu.line : Mtu -> List Char
  | .null => "null".toList
  | .number text _ _ => text

/-- An MTU that an interface is meant to get. -/
def Mtu.InRange : Mtu -> Prop
  | .null => False
  | .number text _ _ =>
      text.all Char.isDigit = true ∧ 500 ≤ digitsValue 10 text ∧ digitsValue 10 text ≤ 9000

instance (mtu : Mtu) : Decidable mtu.InRange := by
  cases mtu <;> unfold Mtu.InRange <;> infer_instance

/-- `[[ "${word}" -lt n ]]` and its likes, which fail on a word that has no value. -/
def compares (test : Int -> Bool) (word : List Char) : Bool :=
  match operand word with
  | some value => test value.toInt
  | none => false

/-- The script does not skip the line. -/
def accepts (mtu : List Char) : Bool :=
  (mtu ≠ [] && mtu.all Char.isDigit) && !compares (· < 500) mtu && !compares (9000 < ·) mtu

/-!
## Setting an MTU
-/

/-- The MTU of an interface in `/sys/class/net`, if it exists, and its file for `dhclient`. -/
structure Interface where
  mtu : Option (List Char)
  cfgfile : Option (List Char)
deriving DecidableEq

/-- `ip link set mtu`, which takes a number of 32 bits. -/
def ipLinkSet (mtu : List Char) (link : Option (List Char)) : Option (List Char) :=
  if digitsValue 10 mtu < 2 ^ 32 then link.map fun _ => mtu else link

def cfgline (mtu : List Char) : List Char :=
  "supersede interface-mtu ".toList ++ mtu ++ [';']

/-- `grep -v "^supersede interface-mtu"` -/
def withoutOverride (text : List Char) : List Char :=
  ((splitFields '\n' text).filter fun line =>
    !"supersede interface-mtu".toList.isPrefixOf line).flatMap fun line => line ++ ['\n']

/-- The file with the override, unless it is there. -/
def withOverride (mtu : List Char) : Option (List Char) -> List Char
  | none => cfgline mtu ++ ['\n']
  | some text =>
      if (splitFields '\n' text).any fun line => cfgline mtu <:+: line then text
      else withoutOverride text ++ (cfgline mtu ++ ['\n'])

/-- What the script does with the interface of an accepted line. -/
def setMtu (mtu : List Char) (nic : Interface) : Interface :=
  if compares (· ≠ 1500) mtu then
    if nic.mtu.getD [] ≠ mtu then
      { mtu := ipLinkSet mtu nic.mtu, cfgfile := some (withOverride mtu nic.cfgfile) }
    else nic
  else { nic with cfgfile := nic.cfgfile.map withoutOverride }

/-- The loop over the lines, where a line that is skipped does not count. -/
def mtuLoop : List (List Char) -> Nat -> (Nat -> Interface) -> Nat -> Interface
  | [], _, nics => nics
  | mtu :: lines, nicnum, nics =>
      if accepts mtu then
        mtuLoop lines (nicnum + 1) (Function.update nics nicnum (setMtu mtu (nics nicnum)))
      else mtuLoop lines nicnum nics

/-- `04-mtu-set.sh`, behind its checks, from the interfaces `${IF_PREFIX}0` and so on. -/
def mtuSet (mtus : List Mtu) (nics : Nat -> Interface) : Nat -> Interface :=
  mtuLoop (mtus.map Mtu.line) 0 nics

/-- Each interface gets the MTU of its own NIC, and none is touched for another one. -/
structure Follows (mtus : List Mtu) (before after : Nat -> Interface) : Prop where
  set : forall i mtu, mtus[i]? = some mtu -> mtu.InRange -> digitsValue 10 mtu.line ≠ 1500 ->
    (before i).mtu.isSome = true -> (after i).mtu = some mtu.line
  kept : forall i, (forall mtu, mtus[i]? = some mtu -> ¬ mtu.InRange) -> after i = before i

/-- The numbers that are MTUs stand in front, and no other number wraps around to one. -/
structure LeadsWithMtus (mtus : List Mtu) : Prop where
  inRange : forall mtu, mtu ∈ mtus -> accepts mtu.line = true -> mtu.InRange
  front : mtus.Pairwise fun earlier later => later.InRange -> earlier.InRange

/-!
## Lines that are accepted
-/

theorem toInt_ofNat {n : Nat} (h : n < 2 ^ 63) : (BitVec.ofNat 64 n).toInt = n := by
  rw [BitVec.toInt_eq_toNat_of_lt (by simp only [BitVec.toNat_ofNat]; omega)]
  simp only [BitVec.toNat_ofNat]
  omega

theorem compares_inRange {text : List Char} (hne : text ≠ [])
    (hdigits : text.all Char.isDigit = true) (hcanonical : IsDecimal text)
    (hsmall : digitsValue 10 text ≤ 9000) (test : Int -> Bool) :
    compares test text = test (digitsValue 10 text) := by
  rw [compares, operand_of_isDecimal hne hdigits hcanonical]
  dsimp only
  rw [toInt_ofNat (by omega)]

theorem accepts_of_inRange {mtu : Mtu} (h : mtu.InRange) : accepts mtu.line = true := by
  cases mtu with
  | null => cases h
  | number text hne hcanonical =>
      rcases h with ⟨hdigits, hlow, hhigh⟩
      have hcompare := compares_inRange hne hdigits (hcanonical hdigits) hhigh
      simp only [Mtu.line, accepts, hcompare, hdigits]
      simp [hne]
      omega

theorem mtuLoop_eq (lines : List (List Char)) (nicnum : Nat) (nics : Nat -> Interface)
    (i : Nat) :
    mtuLoop lines nicnum nics i =
      if nicnum ≤ i then
        match (lines.filter accepts)[i - nicnum]? with
        | some mtu => setMtu mtu (nics i)
        | none => nics i
      else nics i := by
  induction lines generalizing nicnum nics with
  | nil => simp [mtuLoop]
  | cons mtu lines ih =>
      rw [mtuLoop]
      split
      · rename_i haccepts
        rw [ih, List.filter_cons_of_pos haccepts]
        rcases Nat.lt_trichotomy i nicnum with hlt | heq | hgt
        · rw [if_neg (by omega), if_neg (by omega), Function.update_of_ne (by omega)]
        · subst heq
          rw [if_neg (by omega), if_pos (Nat.le_refl _), Nat.sub_self]
          simp
        · have hsub : i - nicnum = (i - (nicnum + 1)) + 1 := by omega
          rw [if_pos (by omega), if_pos (by omega), hsub, List.getElem?_cons_succ,
            Function.update_of_ne (by omega)]
      · rename_i hskips
        rw [ih, List.filter_cons_of_neg hskips]

/-!
## Which interface gets which number
-/

theorem mtuSet_eq (mtus : List Mtu) (nics : Nat -> Interface) (i : Nat) :
    mtuSet mtus nics i =
      match ((mtus.map Mtu.line).filter accepts)[i]? with
      | some mtu => setMtu mtu (nics i)
      | none => nics i := by
  rw [mtuSet, mtuLoop_eq, if_pos (Nat.zero_le i), Nat.sub_zero]

/-- While the MTUs stand in front, the lines are accepted in their own places. -/
theorem accepted_getElem? {mtus : List Mtu} (h : LeadsWithMtus mtus) (i : Nat) :
    ((mtus.map Mtu.line).filter accepts)[i]? =
      (mtus[i]?.filter fun mtu : Mtu => mtu.InRange).map Mtu.line := by
  induction mtus generalizing i with
  | nil => rfl
  | cons mtu mtus ih =>
      rcases List.pairwise_cons.mp h.front with ⟨hfirst, hfront⟩
      have htail := ih ⟨fun x hx => h.inRange x (List.mem_cons_of_mem _ hx), hfront⟩
      rw [List.map_cons]
      by_cases hin : mtu.InRange
      · rw [List.filter_cons_of_pos (accepts_of_inRange hin)]
        cases i with
        | zero => simp [hin]
        | succ i => exact htail i
      · have hskips : accepts mtu.line ≠ true :=
          fun haccepts => hin (h.inRange mtu List.mem_cons_self haccepts)
        have hnone : (mtus.map Mtu.line).filter accepts = [] := by
          rw [List.filter_eq_nil_iff]
          intro line hline haccepts
          rcases List.mem_map.mp hline with ⟨later, hlater, rfl⟩
          have hrange := h.inRange later (List.mem_cons_of_mem _ hlater) haccepts
          exact hin (hfirst later hlater hrange)
        rw [List.filter_cons_of_neg hskips, hnone]
        have hlater : forall later, later ∈ mtu :: mtus -> ¬ later.InRange := by
          intro later hlater hrange
          rcases List.mem_cons.mp hlater with rfl | hlater
          · exact hin hrange
          · exact hin (hfirst later hlater hrange)
        symm
        rw [List.getElem?_nil, Option.map_eq_none_iff, Option.filter_eq_none_iff]
        intro later hlater'
        simpa using hlater later (List.mem_of_getElem? hlater')

/-- Otherwise an interface is touched whose own number is no MTU. -/
theorem exists_misplaced {mtus : List Mtu} (h : ¬ LeadsWithMtus mtus) :
    exists (i : Nat) (mtu : Mtu) (line : List Char), mtus[i]? = some mtu ∧ ¬ mtu.InRange ∧
      ((mtus.map Mtu.line).filter accepts)[i]? = some line ∧ accepts line = true := by
  induction mtus with
  | nil => exact absurd ⟨nofun, List.Pairwise.nil⟩ h
  | cons mtu mtus ih =>
      by_cases hin : mtu.InRange
      · have htail : ¬ LeadsWithMtus mtus := by
          intro htail
          apply h
          constructor
          · intro x hx haccepts
            rcases List.mem_cons.mp hx with rfl | hx
            · exact hin
            · exact htail.inRange x hx haccepts
          · exact List.pairwise_cons.mpr ⟨fun _ _ _ => hin, htail.front⟩
        rcases ih htail with ⟨i, other, line, hother, hout, hline, haccepts⟩
        refine ⟨i + 1, other, line, hother, hout, ?_, haccepts⟩
        rw [List.map_cons, List.filter_cons_of_pos (accepts_of_inRange hin)]
        exact hline
      · cases hfiltered : ((mtu :: mtus).map Mtu.line).filter accepts with
        | cons line lines =>
            have hmem : line ∈ ((mtu :: mtus).map Mtu.line).filter accepts := by
              rw [hfiltered]
              exact List.mem_cons_self
            exact ⟨0, mtu, line, rfl, hin, List.getElem?_cons_zero, (List.mem_filter.mp hmem).right⟩
        | nil =>
            have hnone : forall x, x ∈ mtu :: mtus -> accepts x.line ≠ true := by
              intro x hx
              exact List.filter_eq_nil_iff.mp hfiltered x.line (List.mem_map_of_mem hx)
            refine absurd ⟨?_, ?_⟩ h
            · intro x hx haccepts
              exact absurd haccepts (hnone x hx)
            · apply List.pairwise_of_forall_mem_list
              intro earlier _ later hlater hrange
              exact absurd (accepts_of_inRange hrange) (hnone later hlater)

/-!
## What the script does with an interface
-/

theorem setMtu_mtu {mtu : Mtu} (h : mtu.InRange) (hother : digitsValue 10 mtu.line ≠ 1500)
    {nic : Interface} (hlink : nic.mtu.isSome = true) :
    (setMtu mtu.line nic).mtu = some mtu.line := by
  cases mtu with
  | null => cases h
  | number text hne hcanonical =>
      rcases h with ⟨hdigits, _, hhigh⟩
      have hcompare := compares_inRange hne hdigits (hcanonical hdigits) hhigh
      have htrue : compares (· ≠ 1500) text = true := by
        rw [hcompare]
        simp only [Mtu.line] at hother
        simp
        omega
      rcases Option.isSome_iff_exists.mp hlink with ⟨old, hold⟩
      rw [Mtu.line, setMtu, if_pos htrue]
      by_cases hsame : nic.mtu.getD [] = text
      · rw [if_neg (not_not.mpr hsame), hold]
        rw [hold] at hsame
        exact congrArg some hsame
      · have hsmall : digitsValue 10 text < 2 ^ 32 := by omega
        rw [if_pos hsame, ipLinkSet, if_pos hsmall, hold]
        rfl

/-- Each line that is accepted changes an interface that has another override. -/
theorem exists_changed {mtu : List Char} (h : accepts mtu = true) :
    exists nic, setMtu mtu nic ≠ nic := by
  by_cases hother : compares (· ≠ 1500) mtu = true
  · refine ⟨⟨some "68".toList, none⟩, ?_⟩
    have hne : (some "68".toList).getD [] ≠ mtu := by
      intro heq
      subst heq
      exact absurd h (by decide)
    intro heq
    have hfile := congrArg Interface.cfgfile heq
    rw [setMtu, if_pos hother, if_pos hne] at hfile
    cases hfile
  · refine ⟨⟨some "1500".toList, some "supersede interface-mtu 9000;\n".toList⟩, ?_⟩
    have hdropped : withoutOverride "supersede interface-mtu 9000;\n".toList = [] := by decide
    intro heq
    have hfile := congrArg Interface.cfgfile heq
    rw [setMtu, if_neg hother, Option.map_some, hdropped] at hfile
    exact absurd hfile (by decide)

/--
The interfaces follow the metadata, whatever their state, exactly when the numbers
that are MTUs stand in front.
-/
theorem mtuSet_follows_iff (mtus : List Mtu) :
    (forall nics, Follows mtus nics (mtuSet mtus nics)) <-> LeadsWithMtus mtus := by
  constructor
  · intro h
    by_contra hnot
    rcases exists_misplaced hnot with ⟨i, mtu, line, hmtu, hout, hline, haccepts⟩
    rcases exists_changed haccepts with ⟨nic, hchanged⟩
    have hkept := (h fun _ => nic).kept i (by
      intro other hother
      rw [hmtu] at hother
      cases hother
      exact hout)
    rw [mtuSet_eq, hline] at hkept
    exact hchanged hkept
  · intro h nics
    constructor
    · intro i mtu hmtu hin hother hlink
      rw [mtuSet_eq, accepted_getElem? h, hmtu]
      simp only [Option.filter, hin, decide_true, if_true, Option.map_some]
      exact setMtu_mtu hin hother hlink
    · intro i hout
      have hnone : (mtus[i]?.filter fun mtu : Mtu => mtu.InRange) = none := by
        rw [Option.filter_eq_none_iff]
        intro mtu hmtu
        simpa using hout mtu hmtu
      rw [mtuSet_eq, accepted_getElem? h, hnone]
      rfl

/-- The metadata of three NICs, of which the first has no MTU. -/
def firstMissing : List Mtu :=
  [.null, .number "9000".toList (by decide) (by decide),
    .number "1400".toList (by decide) (by decide)]

def standardNic (i : Nat) : Interface :=
  ⟨if i < 3 then some "1500".toList else none, none⟩

/-- The first interface gets the MTU of the second NIC, and the third one none. -/
theorem missing_mtu_shifts :
    ¬ forall nics, Follows firstMissing nics (mtuSet firstMissing nics) := by
  intro h
  have hkept := (h standardNic).kept 0 (by decide)
  exact absurd hkept (by decide)

end Guest
end EsdcFactory
