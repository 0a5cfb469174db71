import EsdcFactory.Installer.PassFacts
import EsdcFactory.Lib.Subnet

/-!
# Networks of the installer

`prompt-config.sh` compares the numbers of addresses where others compare their
prefixes.  On contiguous masks the comparison finds the hosts of a subnet.
-/

namespace EsdcFactory
namespace Installer

open BashArith

/-!
## Numbers of a network
-/

theorem Subnet.mask_lt (net : Subnet) : net.mask < 2 ^ 32 := by
  have hpos := net.size_pos
  have hle := net.size_le
  unfold Subnet.mask
  omega

theorem ipNetmaskToNetwork_dotted {ip netmask : Nat} (hip : ip < 2 ^ 32)
    (hmask : netmask < 2 ^ 32) {s : Globals} (hifs : s.numbers.ifsDot = false) :
    ipNetmaskToNetwork (dotted ip) (dotted netmask) s =
      .done (withNetwork (BitVec.ofNat 64 ip) (BitVec.ofNat 64 netmask) s) :=
  ipNetmaskToNetwork_done_iff.mpr
    ⟨hifs, _, _, ipNumber_dotted hip, ipNumber_dotted hmask, rfl⟩

theorem network_numbers {net : Subnet} {ip : Nat} (hlow : net.base ≤ ip)
    (hhigh : ip ≤ net.broadcast) {s : Globals} (hifs : s.numbers.ifsDot = false) :
    exists s', ipNetmaskToNetwork (dotted ip) (dotted net.mask) s = .done s' ∧
      s'.numbers.netNum = BitVec.ofNat 64 net.base ∧
      s'.numbers.bcastAddr = BitVec.ofNat 64 net.broadcast := by
  have hip : ip < 2 ^ 32 := lt_of_le_of_lt hhigh net.broadcast_lt
  have hmask := Subnet.mask_lt net
  have hnet : BitVec.ofNat 64 net.mask &&& BitVec.ofNat 64 ip =
      BitVec.ofNat 64 net.base := by
    apply BitVec.eq_of_toNat_eq
    have hbase := net.mask_and_eq_base hlow hhigh
    have hfits := net.fits
    have hpos := net.size_pos
    simp only [BitVec.toNat_and, BitVec.toNat_ofNat]
    rw [Nat.mod_eq_of_lt (by omega), Nat.mod_eq_of_lt (by omega), hbase]
    omega
  have hhost : ~~~ BitVec.ofNat 64 net.mask &&& BitVec.ofNat 64 (2 ^ 32 - 1) =
      BitVec.ofNat 64 (2 ^ net.hostBits - 1) := by
    apply BitVec.eq_of_toNat_eq
    have hpos := net.size_pos
    have hle := net.size_le
    have hand : forall m : Nat, m &&& (2 ^ 32 - 1) = m % 2 ^ 32 :=
      fun m => Nat.and_two_pow_sub_one_eq_mod m 32
    simp only [BitVec.toNat_and, BitVec.toNat_not, BitVec.toNat_ofNat]
    rw [Nat.mod_eq_of_lt (show 2 ^ 32 - 1 < 2 ^ 64 by decide), hand]
    unfold Subnet.mask
    omega
  refine ⟨_, ipNetmaskToNetwork_dotted hip hmask hifs, hnet, ?_⟩
  show broadcastOf (BitVec.ofNat 64 ip) (BitVec.ofNat 64 net.mask) = _
  unfold broadcastOf
  rw [hnet, hhost]
  apply BitVec.eq_of_toNat_eq
  have hpos := net.size_pos
  have hfits := net.fits
  simp only [BitVec.toNat_add, BitVec.toNat_ofNat, Subnet.broadcast]
  omega

/-!
## Hosts of a network
-/

def prefixMask (length : Nat) : Nat := 2 ^ 32 - 2 ^ (32 - length)

/-- Two addresses agree in the leading bits, and the host bits are not all alike. -/
def IsHostOf (length ip net : Nat) : Prop :=
  ip >>> (32 - length) = net >>> (32 - length) ∧ ip % 2 ^ (32 - length) ≠ 0 ∧
    ip % 2 ^ (32 - length) ≠ 2 ^ (32 - length) - 1

instance (length ip net : Nat) : Decidable (IsHostOf length ip net) :=
  inferInstanceAs (Decidable (_ ∧ _))

/-- `ip_from_subnet` succeeds. -/
def Succeeds (myip net mask : String) (s : Globals) : Prop :=
  exists s', forall fromSubnet other,
    ipFromSubnet myip net mask s fromSubnet other = fromSubnet s'

/-- `ip_from_subnet` finishes without success. -/
def Refuses (myip net mask : String) (s : Globals) : Prop :=
  exists s', forall fromSubnet other,
    ipFromSubnet myip net mask s fromSubnet other = other s'

theorem Refuses.not_succeeds {myip net mask : String} {s : Globals}
    (h : Refuses myip net mask s) : ¬ Succeeds myip net mask s := by
  intro hparts
  rcases hparts with ⟨s1, hsucceeds⟩
  rcases h with ⟨s2, hrefuses⟩
  have hsame := (hsucceeds .done .aborted).symm.trans (hrefuses .done .aborted)
  cases hsame

theorem slt_ofNat {m n : Nat} (hm : m < 2 ^ 32) (hn : n < 2 ^ 32) :
    (BitVec.ofNat 64 m).slt (BitVec.ofNat 64 n) = decide (m < n) := by
  have hint : forall k : Nat, k < 2 ^ 32 -> (BitVec.ofNat 64 k).toInt = k := by
    intro k hk
    rw [BitVec.toInt_eq_toNat_of_lt (by simp only [BitVec.toNat_ofNat]; omega)]
    simp only [BitVec.toNat_ofNat]
    omega
  rw [BitVec.slt_eq_decide, hint m hm, hint n hn]
  simp

theorem dotted_ne_none {n : Nat} (h : n < 2 ^ 32) : dotted n ≠ "none" := by
  intro heq
  have hnum := ipNumber_dotted h
  rw [heq] at hnum
  have hnone : ipNumber "none" = none := by decide +kernel
  rw [hnone] at hnum
  cases hnum

theorem ipFromSubnet_dotted {net : Subnet} {n ip : Nat} (hip : ip < 2 ^ 32)
    (hlow : net.base ≤ n) (hhigh : n ≤ net.broadcast) {s : Globals}
    (hifs : s.numbers.ifsDot = false) :
    exists s', forall fromSubnet other,
      ipFromSubnet (dotted ip) (dotted n) (dotted net.mask) s fromSubnet other =
        if net.base < ip ∧ ip < net.broadcast then fromSubnet s' else other s' := by
  rcases network_numbers hlow hhigh hifs with ⟨s1, hnet, hbase, hbcast⟩
  exists { s1 with numbers.num := BitVec.ofNat 64 ip }
  intro fromSubnet other
  have hbound := net.broadcast_lt
  unfold ipFromSubnet
  rw [if_neg (dotted_ne_none hip), hnet, Outcome.bind_done]
  unfold ipToNum
  rw [ipNumber_dotted hip]
  simp only [Outcome.bind_done, hbase, hbcast]
  rw [slt_ofNat (by omega) hip, slt_ofNat hip hbound]
  simp

section Prefix

variable {length net : Nat} {s : Globals}

/-- The subnet of an address and a prefix length. -/
def networkOf (length net : Nat) (hnet : net < 2 ^ 32) : Subnet :=
  Subnet.containing net (32 - length) hnet (Nat.sub_le 32 length)

theorem networkOf_mask (hnet : net < 2 ^ 32) :
    (networkOf length net hnet).mask = prefixMask length :=
  rfl

theorem ipFromSubnet_prefix (hnet : net < 2 ^ 32) {ip : Nat} (hip : ip < 2 ^ 32)
    (hifs : s.numbers.ifsDot = false) :
    exists s', forall fromSubnet other,
      ipFromSubnet (dotted ip) (dotted net) (dotted (prefixMask length)) s fromSubnet other =
        if IsHostOf length ip net then fromSubnet s' else other s' := by
  have hlow : (networkOf length net hnet).base ≤ net := Subnet.base_containing_le
  have hhigh : net ≤ (networkOf length net hnet).broadcast := Subnet.le_broadcast_containing
  rcases ipFromSubnet_dotted hip hlow hhigh hifs with ⟨s', hresult⟩
  exists s'
  intro fromSubnet other
  rw [← networkOf_mask hnet, hresult]
  exact if_congr Subnet.usable_containing_iff rfl rfl

theorem succeeds_iff (hnet : net < 2 ^ 32) {ip : Nat} (hip : ip < 2 ^ 32)
    (hifs : s.numbers.ifsDot = false) :
    Succeeds (dotted ip) (dotted net) (dotted (prefixMask length)) s <->
      IsHostOf length ip net := by
  have hprefix : exists s', forall fromSubnet other,
      ipFromSubnet (dotted ip) (dotted net) (dotted (prefixMask length)) s fromSubnet other =
        if IsHostOf length ip net then fromSubnet s' else other s' :=
    ipFromSubnet_prefix hnet hip hifs
  rcases hprefix with ⟨s', hresult⟩
  by_cases hhost : IsHostOf length ip net
  · refine iff_of_true ⟨s', fun fromSubnet other => ?_⟩ hhost
    rw [hresult, if_pos hhost]
  · refine iff_of_false (Refuses.not_succeeds ⟨s', fun fromSubnet other => ?_⟩) hhost
    rw [hresult, if_neg hhost]

theorem first_isHostOf (hnet : net < 2 ^ 32) (hlength : length ≤ 30) :
    (networkOf length net hnet).base + 1 < 2 ^ 32 ∧
      IsHostOf length ((networkOf length net hnet).base + 1) net := by
  have hsize : 2 ^ 2 ≤ 2 ^ (32 - length) :=
    Nat.pow_le_pow_right (by decide) (by omega)
  have husable : (networkOf length net hnet).Usable
      ((networkOf length net hnet).base + 1) := by
    have hbcast : (networkOf length net hnet).broadcast =
        (networkOf length net hnet).base + 2 ^ (32 - length) - 1 := rfl
    constructor
    · omega
    · omega
  exact ⟨husable.lt, Subnet.usable_containing_iff.mp husable⟩

theorem not_isHostOf (hlength : 31 ≤ length) (ip : Nat) : ¬ IsHostOf length ip net := by
  intro h
  rcases h with ⟨_, hfirst, hlast⟩
  have hsize : 2 ^ (32 - length) ≤ 2 ^ 1 := Nat.pow_le_pow_right (by decide) (by omega)
  have hmod := Nat.mod_lt ip (Nat.two_pow_pos (32 - length))
  omega

theorem computeDefGw_prefix (hnet : net < 2 ^ 32) (hlength : length ≤ 30)
    (hifs : s.numbers.ifsDot = false) :
    exists s', forall withVal,
      computeDefGw (dotted net) (dotted (prefixMask length)) s withVal =
        .done (withVal (dotted ((networkOf length net hnet).base + 1)) s') := by
  have hlow : (networkOf length net hnet).base ≤ net := Subnet.base_containing_le
  have hhigh : net ≤ (networkOf length net hnet).broadcast := Subnet.le_broadcast_containing
  rcases network_numbers hlow hhigh hifs with ⟨s', hnumbers, hbase, _⟩
  exists s'
  intro withVal
  unfold computeDefGw
  rw [← networkOf_mask hnet, hnumbers, Outcome.bind_done, hbase]
  have hnext : BitVec.ofNat 64 (networkOf length net hnet).base + 1 =
      BitVec.ofNat 64 ((networkOf length net hnet).base + 1) := by
    rw [BitVec.ofNat_add]
    rfl
  rw [hnext, printedIp_ofNat (first_isHostOf hnet hlength).1]

end Prefix

/--
The comparison of numbers agrees with the one of prefixes: the address itself lies
between the numbers of its network, the addresses that are accepted are the hosts of
the network, and the gateway that is offered is the first of them, where there are any.
-/
theorem subnet_agrees_with_prefix (net length : Nat) (s : Globals) (hnet : net < 2 ^ 32)
    (hifs : s.numbers.ifsDot = false) :
    (exists s', ipNetmaskToNetwork (dotted net) (dotted (prefixMask length)) s = .done s' ∧
      s'.numbers.netNum.toNat ≤ net ∧ net ≤ s'.numbers.bcastAddr.toNat) ∧
    (forall ip, ip < 2 ^ 32 ->
      (Succeeds (dotted ip) (dotted net) (dotted (prefixMask length)) s <->
        IsHostOf length ip net)) ∧
    (length ≤ 30 -> exists gw s', gw < 2 ^ 32 ∧
      (forall withVal, computeDefGw (dotted net) (dotted (prefixMask length)) s withVal =
        .done (withVal (dotted gw) s')) ∧
      Succeeds (dotted gw) (dotted net) (dotted (prefixMask length)) s ∧
      forall ip, ip < 2 ^ 32 ->
        Succeeds (dotted ip) (dotted net) (dotted (prefixMask length)) s -> gw ≤ ip) ∧
    (31 ≤ length -> forall ip, ip < 2 ^ 32 ->
      ¬ Succeeds (dotted ip) (dotted net) (dotted (prefixMask length)) s) := by
  have hlow : (networkOf length net hnet).base ≤ net := Subnet.base_containing_le
  have hhigh : net ≤ (networkOf length net hnet).broadcast := Subnet.le_broadcast_containing
  have hsucceeds : forall ip, ip < 2 ^ 32 ->
      (Succeeds (dotted ip) (dotted net) (dotted (prefixMask length)) s <->
        IsHostOf length ip net) := fun ip hip => succeeds_iff hnet hip hifs
  refine ⟨?_, hsucceeds, ?_, ?_⟩
  · rcases network_numbers hlow hhigh hifs with ⟨s', hnumbers, hbase, hbcast⟩
    have hbound := (networkOf length net hnet).broadcast_lt
    rw [networkOf_mask hnet] at hnumbers
    refine ⟨s', hnumbers, ?_, ?_⟩
    · rw [hbase, BitVec.toNat_ofNat]
      omega
    · rw [hbcast, BitVec.toNat_ofNat]
      omega
  · intro hsmall
    rcases first_isHostOf hnet hsmall with ⟨hfirst, hhost⟩
    rcases computeDefGw_prefix hnet hsmall hifs with ⟨s', hgw⟩
    refine ⟨_, s', hfirst, hgw, (hsucceeds _ hfirst).mpr hhost, ?_⟩
    intro ip hip haccepted
    have husable : (networkOf length net hnet).Usable ip :=
      Subnet.usable_containing_iff.mpr ((hsucceeds ip hip).mp haccepted)
    exact husable.1
  · intro hlarge ip hip haccepted
    exact not_isHostOf hlarge ip ((hsucceeds ip hip).mp haccepted)

theorem subnet_agrees_with_prefix_class_c :
    exists s', ipNetmaskToNetwork (dotted 3232235786) (dotted (prefixMask 24))
        (Globals.initial false) = .done s' ∧
      s'.numbers.netNum.toNat ≤ 3232235786 ∧ 3232235786 ≤ s'.numbers.bcastAddr.toNat :=
  And.left <|
    subnet_agrees_with_prefix 3232235786 24 (Globals.initial false) (by decide) rfl

end Installer
end EsdcFactory
