import Mathlib.Data.Nat.Bitwise
import Mathlib.Data.Nat.ModEq
import Mathlib.Algebra.Order.Ring.Nat
import Mathlib.Tactic.IntervalCases

/-!
# Subnets

A subnet is a block of consecutive 32-bit addresses that starts at a multiple of
its size, a power of two.  The first and the last address of the block are not
those of hosts.
-/

namespace EsdcFactory

/-- A block of addresses with so many bits for the host. -/
structure Subnet where
  base : Nat
  hostBits : Nat
  hostBits_le : hostBits ≤ 32
  aligned : base % 2 ^ hostBits = 0
  fits : base + 2 ^ hostBits ≤ 2 ^ 32

namespace Subnet

/-- The contiguous mask of the network part. -/
def mask (net : Subnet) : Nat := 2 ^ 32 - 2 ^ net.hostBits

/-- The last address of the block. -/
def broadcast (net : Subnet) : Nat := net.base + 2 ^ net.hostBits - 1

/-- An address that a host can have. -/
def Usable (net : Subnet) (n : Nat) : Prop :=
  net.base < n ∧ n < net.broadcast

theorem size_pos (net : Subnet) : 0 < 2 ^ net.hostBits :=
  Nat.two_pow_pos net.hostBits

theorem size_le (net : Subnet) : 2 ^ net.hostBits ≤ 2 ^ 32 :=
  Nat.pow_le_pow_right (by decide) net.hostBits_le

theorem broadcast_lt (net : Subnet) : net.broadcast < 2 ^ 32 := by
  have hfits := net.fits
  have hpos := net.size_pos
  unfold broadcast
  omega

theorem Usable.lt {net : Subnet} {n : Nat} (h : net.Usable n) : n < 2 ^ 32 :=
  h.right.trans net.broadcast_lt

theorem Usable.hostBits_ne {net : Subnet} {n : Nat} (h : net.Usable n) :
    n % 2 ^ net.hostBits ≠ 0 := by
  intro hzero
  have hdvd : 2 ^ net.hostBits ∣ n - net.base :=
    Nat.dvd_sub (Nat.dvd_of_mod_eq_zero hzero) (Nat.dvd_of_mod_eq_zero net.aligned)
  have hle := Nat.le_of_dvd (Nat.sub_pos_of_lt h.left) hdvd
  have hhigh := h.right
  unfold broadcast at hhigh
  omega

/-- Masking an address clears its host bits. -/
theorem mask_and_eq_sub_mod {k n : Nat} (hk : k ≤ 32) (hn : n < 2 ^ 32) :
    (2 ^ 32 - 2 ^ k) &&& n = n - n % 2 ^ k := by
  have hmask : 2 ^ 32 - 2 ^ k = (2 ^ (32 - k) - 1) <<< k := by
    rw [Nat.shiftLeft_eq, Nat.sub_mul, one_mul, ← Nat.pow_add,
      Nat.sub_add_cancel hk]
  have hkeep : n - n % 2 ^ k = (n >>> k) <<< k := by
    rw [Nat.shiftLeft_eq, Nat.shiftRight_eq_div_pow]
    have hdiv := Nat.div_add_mod n (2 ^ k)
    rw [Nat.mul_comm] at hdiv
    omega
  rw [hmask, hkeep]
  apply Nat.eq_of_testBit_eq
  intro i
  simp only [Nat.testBit_and, Nat.testBit_shiftLeft, Nat.testBit_shiftRight,
    Nat.testBit_two_pow_sub_one]
  by_cases hi : k ≤ i
  · by_cases hhigh : i < 32
    · have hlow : i - k < 32 - k := by omega
      simp [hi, hlow]
    · have hzero : n.testBit i = false :=
        Nat.testBit_lt_two_pow
          (hn.trans_le (Nat.pow_le_pow_right (by decide) (by omega)))
      simp [hi, hzero]
  · simp [hi]

/-- Masking any address of a subnet gives its first one. -/
theorem mask_and_eq_base (net : Subnet) {n : Nat} (hlow : net.base ≤ n)
    (hhigh : n ≤ net.broadcast) : net.mask &&& n = net.base := by
  have hn : n < 2 ^ 32 := lt_of_le_of_lt hhigh net.broadcast_lt
  have hoffset : n - net.base < 2 ^ net.hostBits := by
    have hpos := net.size_pos
    unfold broadcast at hhigh
    omega
  have hmod : n % 2 ^ net.hostBits = n - net.base := by
    have hsplit : n = (n - net.base) + net.base := by omega
    have haligned : net.base ≡ 0 [MOD 2 ^ net.hostBits] := net.aligned
    have hcongr : n ≡ n - net.base [MOD 2 ^ net.hostBits] := by
      calc n = (n - net.base) + net.base := hsplit
        _ ≡ (n - net.base) + 0 [MOD 2 ^ net.hostBits] := haligned.add_left _
        _ = n - net.base := by rw [add_zero]
    exact Nat.mod_eq_of_modEq hcongr hoffset
  unfold mask
  rw [mask_and_eq_sub_mod net.hostBits_le hn, hmod]
  omega

/-!
## The subnet of an address
-/

/-- The block with so many host bits that an address is in. -/
def containing (n k : Nat) (hn : n < 2 ^ 32) (hk : k ≤ 32) : Subnet where
  base := n - n % 2 ^ k
  hostBits := k
  hostBits_le := hk
  aligned := Nat.mod_eq_zero_of_dvd (Nat.dvd_sub_mod n)
  fits := by
    have hpow : 2 ^ k * 2 ^ (32 - k) = 2 ^ 32 := by
      rw [← Nat.pow_add, Nat.add_sub_cancel' hk]
    have hquot : n / 2 ^ k < 2 ^ (32 - k) := by
      apply Nat.div_lt_of_lt_mul
      rw [hpow]
      exact hn
    have hmul := Nat.mul_le_mul_left (2 ^ k) (Nat.succ_le_of_lt hquot)
    have hdiv := Nat.div_add_mod n (2 ^ k)
    rw [hpow, Nat.mul_succ] at hmul
    omega

section Containing

variable {n k : Nat} {hn : n < 2 ^ 32} {hk : k ≤ 32}

theorem base_containing_le : (containing n k hn hk).base ≤ n :=
  Nat.sub_le n _

theorem le_broadcast_containing : n ≤ (containing n k hn hk).broadcast := by
  have hmod := Nat.mod_lt n (Nat.two_pow_pos k)
  show n ≤ n - n % 2 ^ k + 2 ^ k - 1
  omega

theorem usable_containing_iff {m : Nat} :
    (containing n k hn hk).Usable m <->
      m >>> k = n >>> k ∧ m % 2 ^ k ≠ 0 ∧ m % 2 ^ k ≠ 2 ^ k - 1 := by
  have hm := Nat.div_add_mod m (2 ^ k)
  have hbase : n - n % 2 ^ k = 2 ^ k * (n / 2 ^ k) := by
    have hdiv := Nat.div_add_mod n (2 ^ k)
    omega
  have hmod := Nat.mod_lt m (Nat.two_pow_pos k)
  rw [Nat.shiftRight_eq_div_pow, Nat.shiftRight_eq_div_pow]
  show n - n % 2 ^ k < m ∧ m < n - n % 2 ^ k + 2 ^ k - 1 <-> _
  rw [hbase]
  constructor
  · intro h
    rcases h with ⟨hlow, hhigh⟩
    have hquot : m / 2 ^ k = n / 2 ^ k := by
      have hupper : m < 2 ^ k * (n / 2 ^ k + 1) := by
        rw [Nat.mul_succ]
        omega
      apply Nat.le_antisymm
      · exact Nat.lt_succ_iff.mp (Nat.div_lt_of_lt_mul hupper)
      · apply (Nat.le_div_iff_mul_le (Nat.two_pow_pos k)).mpr
        rw [Nat.mul_comm]
        exact hlow.le
    rw [hquot] at hm
    exact ⟨hquot, by omega, by omega⟩
  · intro h
    rcases h with ⟨hquot, hfirst, hlast⟩
    rw [hquot] at hm
    omega

end Containing

end Subnet
end EsdcFactory
