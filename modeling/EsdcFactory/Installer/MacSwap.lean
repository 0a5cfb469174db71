import EsdcFactory.Installer.Opnsense

/-!
# Swapped addresses in the config

A node that leaves the address of its external interface to a virtual one changes
the address of the interface.  The pair is made when the interface is brought up,
and the interface of a tag without an address is not brought up.
-/

namespace EsdcFactory
namespace Installer

open BashArith Function

/-!
## Interfaces of the node
-/

/-- A pass adds a network tag. -/
def Answers.adds (a : Answers) (ntag : NicTag) : Bool :=
  a.addNictags && (a.tag ntag).addNictag

theorem nicsupTag_of_none {dladmAddress : String -> String} {a : Answers} {s : Globals}
    {ntag : NicTag} (hmark : s.nictagPreserveMac (.tag ntag) = none) :
    nicsupTag dladmAddress a s ntag = s := by
  unfold nicsupTag
  rw [if_neg]
  rw [hmark]
  exact fun h => h.right rfl

theorem nicsupTag_other {dladmAddress : String -> String} {a : Answers} {s : Globals}
    {ntag other : NicTag} (hne : other ≠ ntag) :
    (nicsupTag dladmAddress a s ntag).nictagPreserveMac (.tag other) =
      s.nictagPreserveMac (.tag other) := by
  unfold nicsupTag
  split
  · have hkey : MacKey.tag other ≠ .tag ntag := fun h => hne (MacKey.tag.inj h)
    simp only [update_of_ne hkey]
  · rfl

theorem nicsup_external {dladmAddress : String -> String} {a : Answers}
    {s : Globals} (hdown : s.nicsupDone = false)
    (hinternal : s.nictagPreserveMac (.tag .internal) = none)
    (hstorage : s.nictagPreserveMac (.tag .storage) = none) :
    nicsup dladmAddress a s =
      { nicsupTag dladmAddress a s .external with nicsupDone := true } := by
  unfold nicsup
  rw [hdown, if_neg Bool.false_ne_true]
  simp only [nictagList, List.foldl_cons, List.foldl_nil]
  rw [nicsupTag_of_none ((nicsupTag_other (by decide)).trans hinternal),
    nicsupTag_of_none ((nicsupTag_other (by decide)).trans hstorage)]

/-- The node keeps the address of its external interface, with an address or without. -/
def keepingAnswers (addIp : Bool) : Answers :=
  externalAnswers {
    addNictag := true
    nic := .physical secondNic
    addIp := addIp
    tries := [⟨"203.0.113.5", "255.255.255.0", ""⟩]
    preserveMac := true } false

end Installer
end EsdcFactory
