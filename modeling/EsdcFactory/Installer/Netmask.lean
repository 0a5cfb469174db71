import EsdcFactory.Installer.Networks

/-!
# Netmasks and prefix lengths

The interface of the router is brought up with a prefix length that `mask2cdr` cuts out
of the text of a netmask.
-/

namespace EsdcFactory
namespace Installer

open Text

/-- `cdr2mask`, where the words behind the first are shifted away. -/
def cdr2mask (length : Nat) : String :=
  let words := ["255", "255", "255", "255",
    toString ((255 <<< (8 - length % 8)) &&& 255), "0", "0", "0"]
  let left := words.drop (5 - length / 8 - 1)
  dots (left.getD 0 "0") (left.getD 1 "0") (left.getD 2 "0") (left.getD 3 "0")

/-- The text that the bits of an octet are looked up in, four characters for each. -/
def octetBits : List Char :=
  "0^^^128^192^224^240^248^252^254^".toList

/-- `mask2cdr` on a netmask without characters that the shell expands. -/
def mask2cdr (netmask : String) : Nat :=
  let text := netmask.toList
  -- the part behind the octets 255, which are counted by their characters
  let rest := (afterLastText "255.".toList text).getD text
  let octet := before '.' rest
  (text.length - rest.length) * 2 + (beforeText octet octetBits).length / 4

/-- The prefix length of a netmask stands for the netmask. -/
def ConvertsBack (netmask : String) : Prop :=
  mask2cdr netmask ≤ 32 ∧ cdr2mask (mask2cdr netmask) = netmask

instance (netmask : String) : Decidable (ConvertsBack netmask) :=
  inferInstanceAs (Decidable (_ ∧ _))

theorem cdr2mask_eq : forall length, length ≤ 32 ->
    cdr2mask length = dotted (prefixMask length) := by
  decide +kernel

theorem mask2cdr_dotted : forall length, length ≤ 32 ->
    mask2cdr (dotted (prefixMask length)) = length := by
  decide +kernel

/-- A netmask survives the conversion exactly when it is that of a prefix. -/
theorem convertsBack_iff (netmask : String) :
    ConvertsBack netmask <->
      exists length, length ≤ 32 ∧ netmask = dotted (prefixMask length) := by
  constructor
  · intro h
    rcases h with ⟨hlength, hmask⟩
    exact ⟨mask2cdr netmask, hlength, by rw [← cdr2mask_eq _ hlength, hmask]⟩
  · intro h
    rcases h with ⟨length, hlength, rfl⟩
    unfold ConvertsBack
    rw [mask2cdr_dotted length hlength]
    exact ⟨hlength, cdr2mask_eq length hlength⟩

theorem gapped_netmask_is_lost :
    isNetValue "255.0.255.0" = true ∧ ¬ ConvertsBack "255.0.255.0" := by
  decide +kernel

end Installer
end EsdcFactory
