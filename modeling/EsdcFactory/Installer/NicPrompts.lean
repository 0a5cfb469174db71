import EsdcFactory.Installer.AddressLoops
import EsdcFactory.Installer.Interfaces

/-!
# Prompts for interfaces and VLANs

`promptnic` returns an interface of the node or an etherstub, and `promptvlan` the empty
value or a VLAN that is not 0.
-/

namespace EsdcFactory
namespace Installer

open BashArith

/-- The interface that the answers file names, by its address or as an etherstub. -/
def answeredNic (nics : List Nic) (answer : String) : Option NicChoice :=
  match nics.find? fun nic => nic.mac = answer with
  | some nic => some (.physical nic)
  | none =>
      if valid : validStubName answer = true then some (.etherstub answer valid) else none

theorem validStubName_adminstub0 : validStubName "adminstub0" = true := by
  decide +kernel

/-- The interface for a typed number, where the admin network may have a stub of its own. -/
def numberedNic (nics : List Nic) (tag : String) : List String -> Option NicChoice
  | [] => none
  | num :: rest =>
      match if isdigit num.toList then operand num.toList else none with
      | none => numberedNic nics tag rest
      | some n =>
          if (1 : Word).sle n && n.sle (BitVec.ofNat 64 nics.length) then
            (nics[n.toNat - 1]?).map .physical
          else if tag = "admin" ∧ n = BitVec.ofNat 64 (nics.length + 1) then
            some (.etherstub "adminstub0" validStubName_adminstub0)
          else numberedNic nics tag rest

/--
`promptnic`.  With a single interface it is selected, unless the admin network is asked
for in an advanced installation without answers.
-/
def promptnic (nics : List Nic) (tag answer : String) (autoselect : Bool)
    (typed : List String) : Option NicChoice :=
  match answeredNic nics answer with
  | some choice => some choice
  | none =>
      match nics, autoselect with
      | [nic], true => some (.physical nic)
      | _, _ => numberedNic nics tag typed

/-- A physical interface of the node, or an etherstub. -/
def Offered (nics : List Nic) : NicChoice -> Prop
  | .physical nic => nic ∈ nics
  | .etherstub _ _ => True

theorem answeredNic_offered {nics : List Nic} {answer : String} {choice : NicChoice}
    (h : answeredNic nics answer = some choice) : Offered nics choice := by
  unfold answeredNic at h
  split at h
  next nic hfind =>
    cases h
    exact List.mem_of_find?_eq_some hfind
  next =>
    split at h
    · cases h
      trivial
    · cases h

theorem numberedNic_offered {nics : List Nic} {tag : String} {typed : List String}
    {choice : NicChoice} (h : numberedNic nics tag typed = some choice) :
    Offered nics choice := by
  induction typed with
  | nil => cases h
  | cons num rest ih =>
      rw [numberedNic] at h
      split at h
      next => exact ih h
      next n _ =>
        split at h
        next =>
          rcases Option.map_eq_some_iff.mp h with ⟨nic, hnic, rfl⟩
          exact List.mem_of_getElem? hnic
        next =>
          split at h
          · cases h
            trivial
          · exact ih h

theorem promptnic_offered {nics : List Nic} {tag answer : String} {autoselect : Bool}
    {typed : List String} {choice : NicChoice}
    (h : promptnic nics tag answer autoselect typed = some choice) : Offered nics choice := by
  unfold promptnic at h
  split at h
  next found hanswer =>
    cases h
    exact answeredNic_offered hanswer
  next =>
    split at h
    next nic =>
      cases h
      exact List.mem_cons_self
    next => exact numberedNic_offered h

theorem vlanId_nonzero {val : String} (h : isVlan val = true) (hne : vlanId val ≠ "") :
    vlanNonzero (vlanId val) = true := by
  unfold vlanId at hne ⊢
  split at hne
  next => exact absurd rfl hne
  next hother =>
    rw [if_neg hother]
    rw [not_or] at hother
    simp only [isVlan, Bool.or_eq_true, Bool.and_eq_true, decide_eq_true_eq] at h
    rcases h with (hempty | hnone) | ⟨_, hdigits⟩
    · exact absurd hempty hne
    · exact absurd hnone hother.1
    · rcases Option.any_eq_true _ _ |>.mp hdigits with ⟨id, hid, _⟩
      rw [vlanNonzero, hid]
      apply decide_eq_true
      intro heq
      subst heq
      exact hother.2 hid

theorem readVlan_nonzero {default vlan : String} {typed rest : List String}
    (h : readVlan default typed = some (vlan, rest)) (hne : vlan ≠ "") :
    vlanNonzero vlan = true := by
  induction typed with
  | nil => cases h
  | cons line typed ih =>
      rw [readVlan] at h
      split at h
      next hvlan =>
        cases h
        exact vlanId_nonzero hvlan hne
      next => exact ih h

theorem promptvlan_nonzero {file : String -> Option String} {key default vlan : String}
    {typed rest : List String} (h : promptvlan file key default typed = some (vlan, rest))
    (hne : vlan ≠ "") : vlanNonzero vlan = true := by
  unfold promptvlan at h
  split at h
  next val _ =>
    split at h
    next hvlan =>
      cases h
      exact vlanId_nonzero hvlan hne
    next => cases h
  next => exact readVlan_nonzero h hne

end Installer
end EsdcFactory
