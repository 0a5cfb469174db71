import EsdcFactory.Installer.ConfigFacts
import EsdcFactory.Installer.Networks
import EsdcFactory.Installer.RunFacts

/-!
# The address plan of the management services

Five service zones get consecutive addresses that start with the one entered for
the management portal.  Nothing checks that the block lies inside the admin
network, or that it leaves out the node itself and the gateway.
-/

namespace EsdcFactory
namespace Installer

open BashArith

/-!
## The admin network
-/

/-- A node on a subnet with a contiguous mask. -/
structure AdminNetwork where
  subnet : Subnet
  host : Nat
  usable : subnet.Usable host

/-- The admin address and netmask are read as those of the node. -/
structure OnNetwork (n : AdminNetwork) (s : Globals) : Prop where
  adminIp : ipNumber s.admin.ip = some (BitVec.ofNat 64 n.host)
  adminNetmask : ipNumber s.admin.netmask = some (BitVec.ofNat 64 n.subnet.mask)

/-!
## The five addresses
-/

/-- The addresses of the zones mgmt, mon, dns, img and cfgdb in the config. -/
def serviceAddresses (s : Globals) : List String :=
  let s := coreZones s
  [s.zones.mgmt, s.zones.mon, s.zones.dns, s.zones.img, s.zones.cfgdb]

/-- The number that the zone addresses are counted from. -/
def firstNumber (s : Globals) : Word :=
  (afterCommand s (ipNetmaskToNetwork s.zones.mgmt s.admin.netmask s)).numbers.ipNum

theorem serviceAddresses_eq (s : Globals) :
    serviceAddresses s =
      [s.zones.mgmt, printedIp (firstNumber s + 1),
        printedIp (firstNumber s + 1 + 1), printedIp (firstNumber s + 1 + 1 + 1),
        printedIp (firstNumber s + 1 + 1 + 1 + 1)] := by
  have hmgmt : (coreZones s).zones.mgmt = s.zones.mgmt := by
    rcases coreZones_mgmt s with ⟨numbers, zones, ipAddr, hmgmt, hcore⟩
    rw [hcore]
    exact hmgmt
  unfold serviceAddresses
  simp only [hmgmt]
  rfl

theorem config_serviceAddresses (sys : System) (s : Globals) :
    serviceAddressKeys.map (configValue (configFile sys s)) =
      (serviceAddresses s).map some := by
  have hzones : s.written.zones = (coreZones s).zones := by
    rcases swapOpnsense_nics (coreZones s) with ⟨nic, nictags, hswap⟩
    unfold Globals.written
    rw [hswap]
  have hread : forall key, key ∈ serviceAddressKeys ->
      configValue (configFile sys s) key = configValue (serviceLines s.written) key := by
    intro key hkey
    apply configValue_service
    revert key
    decide +kernel
  rw [List.map_congr_left hread]
  simp [serviceAddressKeys, serviceLines, serviceAddresses, configValue, readLine,
    hzones]

/-- An address is a usable one that neither the node nor the gateway has. -/
def WellPlaced (net : Subnet) (s : Globals) (ip : String) : Prop :=
  (exists n, net.Usable n ∧ ip = dotted n) ∧
    ipNumber ip ≠ ipNumber s.admin.ip ∧ ipNumber ip ≠ ipNumber s.adminGateway

/-- All five addresses in the config are well placed. -/
def WellPlanned (net : Subnet) (sys : System) (s : Globals) : Prop :=
  forall key, key ∈ serviceAddressKeys ->
    exists ip, configValue (configFile sys s) key = some ip ∧ WellPlaced net s ip

theorem wellPlanned_iff {net : Subnet} {sys : System} {s : Globals} :
    WellPlanned net sys s <-> forall ip, ip ∈ serviceAddresses s -> WellPlaced net s ip := by
  have hconfig := config_serviceAddresses sys s
  constructor
  · intro h ip hip
    have hmem : some ip ∈ (serviceAddresses s).map some := List.mem_map_of_mem hip
    rw [← hconfig] at hmem
    rcases List.mem_map.mp hmem with ⟨key, hkey, hvalue⟩
    rcases h key hkey with ⟨ip', hvalue', hplaced⟩
    rw [hvalue] at hvalue'
    cases hvalue'
    exact hplaced
  · intro h key hkey
    have hmem : configValue (configFile sys s) key ∈ (serviceAddresses s).map some := by
      rw [← hconfig]
      exact List.mem_map_of_mem hkey
    rcases List.mem_map.mp hmem with ⟨ip, hip, hvalue⟩
    exact ⟨ip, hvalue.symm, h ip hip⟩

/--
There is room for the plan: five addresses, counted from the entered one, stay
inside the network and clear of the node and of the gateway.
-/
def RoomFrom (n : AdminNetwork) (gateway : String) (first : Nat) : Prop :=
  n.subnet.base < first ∧ first + 4 < n.subnet.broadcast ∧
    (n.host < first ∨ first + 4 < n.host) ∧
    forall g, g < 2 ^ 32 -> ipNumber gateway = some (BitVec.ofNat 64 g) ->
      g < first ∨ first + 4 < g

theorem firstNumber_dotted {n : AdminNetwork} {s : Globals} {first : Nat}
    (hon : OnNetwork n s) (hifs : s.numbers.ifsDot = false)
    (hfirst : first < 2 ^ 32) (hmgmt : s.zones.mgmt = dotted first) :
    firstNumber s = BitVec.ofNat 64 first := by
  have hnet := ipNetmaskToNetwork_done_iff.mpr ⟨hifs, _, _,
    ipNumber_dotted hfirst, hon.adminNetmask, rfl⟩
  unfold firstNumber
  rw [hmgmt, hnet]
  rfl

theorem serviceAddresses_printed {n : AdminNetwork} {s : Globals} {first : Nat}
    (hon : OnNetwork n s) (hifs : s.numbers.ifsDot = false)
    (hfirst : first < 2 ^ 32) (hmgmt : s.zones.mgmt = dotted first) :
    serviceAddresses s = [dotted first, printedIp (BitVec.ofNat 64 (first + 1)),
      printedIp (BitVec.ofNat 64 (first + 2)),
      printedIp (BitVec.ofNat 64 (first + 3)),
      printedIp (BitVec.ofNat 64 (first + 4))] := by
  have hnext : forall m : Nat,
      BitVec.ofNat 64 m + 1 = BitVec.ofNat 64 (m + 1) := by
    intro m
    exact (BitVec.ofNat_add m 1).symm
  rw [serviceAddresses_eq, hmgmt, firstNumber_dotted hon hifs hfirst hmgmt, hnext,
    hnext, hnext, hnext]

theorem serviceAddresses_dotted {n : AdminNetwork} {s : Globals} {first : Nat}
    (hon : OnNetwork n s) (hifs : s.numbers.ifsDot = false)
    (hfirst : first + 4 < 2 ^ 32) (hmgmt : s.zones.mgmt = dotted first) :
    serviceAddresses s = [dotted first, dotted (first + 1), dotted (first + 2),
      dotted (first + 3), dotted (first + 4)] := by
  rw [serviceAddresses_printed hon hifs (by omega) hmgmt, printedIp_ofNat (by omega),
    printedIp_ofNat (by omega), printedIp_ofNat (by omega),
    printedIp_ofNat (by omega)]

theorem next_usable {net : Subnet} {m : Nat} (hm : net.Usable m)
    (h : exists k, net.Usable k ∧
      printedIp (BitVec.ofNat 64 (m + 1)) = dotted k) : net.Usable (m + 1) := by
  rcases h with ⟨k, hk, hprint⟩
  have hlt : m + 1 < 2 ^ 32 := lt_of_le_of_lt hm.right net.broadcast_lt
  rw [printedIp_ofNat hlt] at hprint
  rw [dotted_injective hlt hk.lt hprint]
  exact hk

theorem usable_of_wellPlaced {n : AdminNetwork} {s : Globals}
    (hon : OnNetwork n s) (hifs : s.numbers.ifsDot = false)
    (h : forall ip, ip ∈ serviceAddresses s -> WellPlaced n.subnet s ip) :
    exists first, s.zones.mgmt = dotted first ∧ n.subnet.Usable first ∧
      n.subnet.Usable (first + 4) := by
  have hmem : s.zones.mgmt ∈ serviceAddresses s := by
    rw [serviceAddresses_eq]
    exact List.mem_cons_self
  rcases (h _ hmem).left with ⟨first, hfirst, hmgmt⟩
  have hlist := serviceAddresses_printed hon hifs hfirst.lt hmgmt
  rw [hlist] at h
  have h1 := next_usable hfirst (h _ (by simp)).left
  have h2 := next_usable h1 (h _ (by simp)).left
  have h3 := next_usable h2 (h _ (by simp)).left
  have h4 := next_usable h3 (h _ (by simp)).left
  exact ⟨first, hmgmt, hfirst, h4⟩

theorem ofNat_ne {m n : Nat} (hm : m < 2 ^ 32) (hn : n < 2 ^ 32) (h : m ≠ n) :
    some (BitVec.ofNat 64 m) ≠ some (BitVec.ofNat 64 n) := by
  intro heq
  have hnat := congrArg BitVec.toNat (Option.some.inj heq)
  simp only [BitVec.toNat_ofNat] at hnat
  omega

/--
The address plan of the management services is good exactly when the entered
address is the dotted quad of one with room for five.
-/
theorem wellPlanned_iff_roomFrom (dladmAddress : String -> String) (sys : System)
    (advanced : Bool) (passes : List Answers) (n : AdminNetwork) (s : Globals)
    (hrun : mainLoop dladmAddress passes (Globals.initial advanced) = .done s)
    (hon : OnNetwork n s) :
    WellPlanned n.subnet sys s <-> exists first, s.zones.mgmt = dotted first ∧
      RoomFrom n s.adminGateway first := by
  have hifs := (mainLoop_ready (initial_ready advanced) hrun).ifs
  have hn := n.usable.lt
  rw [wellPlanned_iff]
  constructor
  · intro h
    rcases usable_of_wellPlaced hon hifs h with ⟨first, hmgmt, hfirst, hlast⟩
    have hlt := hlast.lt
    have hplan := serviceAddresses_dotted hon hifs hlt hmgmt
    have hclear : forall k, k ≤ 4 ->
        some (BitVec.ofNat 64 (first + k)) ≠ ipNumber s.admin.ip ∧
        some (BitVec.ofNat 64 (first + k)) ≠ ipNumber s.adminGateway := by
      intro k hk
      have hmem : dotted (first + k) ∈ serviceAddresses s := by
        rw [hplan]
        interval_cases k <;> simp
      rw [← ipNumber_dotted (show first + k < 2 ^ 32 by omega)]
      exact (h _ hmem).right
    have hmiss : forall m, (forall k, k ≤ 4 -> first + k ≠ m) ->
        m < first ∨ first + 4 < m := by
      intro m hm
      have h0 := hm (m - first)
      omega
    refine ⟨first, hmgmt, hfirst.left, hlast.right, ?_, ?_⟩
    · apply hmiss
      intro k hk heq
      apply (hclear k hk).left
      rw [heq, hon.adminIp]
    · intro g hg hgateway
      apply hmiss
      intro k hk heq
      apply (hclear k hk).right
      rw [heq, hgateway]
  · intro hparts ip hip
    rcases hparts with ⟨first, hmgmt, hlow, hhigh, hhost, hgateway⟩
    have hbcast := n.subnet.broadcast_lt
    rw [serviceAddresses_dotted hon hifs (by omega) hmgmt] at hip
    have hk : exists k, k ≤ 4 ∧ ip = dotted (first + k) := by
      simp only [List.mem_cons, List.not_mem_nil, or_false] at hip
      rcases hip with rfl | rfl | rfl | rfl | rfl
      · exact ⟨0, by omega, rfl⟩
      · exact ⟨1, by omega, rfl⟩
      · exact ⟨2, by omega, rfl⟩
      · exact ⟨3, by omega, rfl⟩
      · exact ⟨4, by omega, rfl⟩
    rcases hk with ⟨k, hk, rfl⟩
    have hlt : first + k < 2 ^ 32 := by omega
    refine ⟨⟨first + k, ⟨by omega, by omega⟩, rfl⟩, ?_, ?_⟩
    · rw [hon.adminIp, ipNumber_dotted hlt]
      exact ofNat_ne hlt hn (by omega)
    · rw [ipNumber_dotted hlt]
      intro heq
      have hmiss := hgateway (first + k) hlt heq.symm
      omega

/-!
## The last host of a network
-/

def lastHost : AdminNetwork where
  subnet := {
    base := 192 * 2 ^ 24 + 168 * 2 ^ 16 + 1 * 2 ^ 8
    hostBits := 8
    hostBits_le := by decide
    aligned := by decide
    fits := by decide }
  host := 192 * 2 ^ 24 + 168 * 2 ^ 16 + 1 * 2 ^ 8 + 254
  usable := by
    unfold Subnet.Usable Subnet.broadcast
    decide

/-- The answers on that node, with a portal address. -/
def lastHostAnswers (mgmtAdminIp : String) : Answers :=
  { plainAnswers with
    adminTries := [⟨"192.168.1.254", "255.255.255.0", ""⟩]
    headnodeDefaultGateway := "192.168.1.1"
    mgmtAdminIp := mgmtAdminIp }

/-- A portal address is accepted, and the run ends on the network of the node. -/
def lastHostTest (mgmtAdminIp : String) (s : Globals) : Bool :=
  isNetValue mgmtAdminIp && s.zones.mgmt = mgmtAdminIp &&
    ipNumber s.admin.ip = some (BitVec.ofNat 64 lastHost.host) &&
    ipNumber s.admin.netmask = some (BitVec.ofNat 64 lastHost.subnet.mask)

theorem lastHostTest_iff {mgmtAdminIp : String} {s : Globals} :
    lastHostTest mgmtAdminIp s = true <->
      isNetValue mgmtAdminIp = true ∧ s.zones.mgmt = mgmtAdminIp ∧
        OnNetwork lastHost s := by
  unfold lastHostTest
  simp only [Bool.and_eq_true, decide_eq_true_eq]
  constructor
  · intro h
    rcases h with ⟨⟨⟨hnet, hmgmt⟩, hip⟩, hmask⟩
    exact ⟨hnet, hmgmt, hip, hmask⟩
  · intro h
    rcases h with ⟨hnet, hmgmt, hip, hmask⟩
    exact ⟨⟨⟨hnet, hmgmt⟩, hip⟩, hmask⟩

/-- On the last host the offered portal address is the broadcast address. -/
theorem offered_address_not_wellPlanned : exists s,
    mainLoop plainDladm [lastHostAnswers "192.168.1.255"] (Globals.initial false) =
        .done s ∧
      isNetValue "192.168.1.255" = true ∧ OnNetwork lastHost s ∧
      ¬ WellPlanned lastHost.subnet plainSystem s := by
  have hrun : (mainLoop plainDladm [lastHostAnswers "192.168.1.255"]
      (Globals.initial false)).passes (lastHostTest "192.168.1.255") = true := by
    decide +kernel
  rcases Outcome.passes_iff.mp hrun with ⟨s, hs, htest⟩
  rcases lastHostTest_iff.mp htest with ⟨hnet, hmgmt, hon⟩
  refine ⟨s, hs, hnet, hon, ?_⟩
  intro h
  have hmem : "192.168.1.255" ∈ serviceAddresses s := by
    rw [serviceAddresses_eq, hmgmt]
    exact List.mem_cons_self
  rcases (wellPlanned_iff.mp h _ hmem).left with ⟨m, hm, hdotted⟩
  have hbcast : "192.168.1.255" = dotted lastHost.subnet.broadcast := by
    decide +kernel
  have hsame := dotted_injective lastHost.subnet.broadcast_lt hm.lt
    (hbcast.symm.trans hdotted)
  have hlt := hm.right
  omega

/-- A portal address in the middle of the network leaves room. -/
theorem wellPlanned_iff_roomFrom_middle : exists s,
    mainLoop plainDladm [lastHostAnswers "192.168.1.100"] (Globals.initial false) =
        .done s ∧
      (WellPlanned lastHost.subnet plainSystem s <->
        exists first, s.zones.mgmt = dotted first ∧
          RoomFrom lastHost s.adminGateway first) := by
  have hrun : (mainLoop plainDladm [lastHostAnswers "192.168.1.100"]
      (Globals.initial false)).passes (lastHostTest "192.168.1.100") = true := by
    decide +kernel
  rcases Outcome.passes_iff.mp hrun with ⟨s, hs, htest⟩
  have hon := (lastHostTest_iff.mp htest).right.right
  exact ⟨s, hs, wellPlanned_iff_roomFrom plainDladm plainSystem false
    [lastHostAnswers "192.168.1.100"] lastHost s hs hon⟩

end Installer
end EsdcFactory
