import EsdcFactory.Installer.Opnsense

/-!
# Passes that are not broken off

The installer computes with addresses that `is_net` accepts but bash need not be
able to read: the words `none` and `dhcp`, and fields such as `08`.  Where all
addresses can be read, no pass is broken off.
-/

namespace EsdcFactory
namespace Installer

open BashArith Function Outcome

/-!
## Addresses
-/

/-- Bash can compute with an address. -/
def CanRead (ip : String) : Prop :=
  (ipNumber ip).isSome = true

theorem ipNetmaskToNetwork_unbroken {ip netmask : String} {s : Globals}
    (hifs : s.numbers.ifsDot = false) (hip : CanRead ip) (hmask : CanRead netmask) :
    (ipNetmaskToNetwork ip netmask s).Unbroken := by
  rcases Option.isSome_iff_exists.mp hip with ⟨i, hi⟩
  rcases Option.isSome_iff_exists.mp hmask with ⟨m, hm⟩
  rw [ipNetmaskToNetwork_done_iff.mpr ⟨hifs, i, m, hi, hm, rfl⟩]
  exact unbroken_done _

theorem ipToNum_unbroken {ip : String} (s : Globals) (hip : CanRead ip) :
    (ipToNum ip s).Unbroken := by
  rcases Option.isSome_iff_exists.mp hip with ⟨i, hi⟩
  unfold ipToNum
  rw [hi]
  exact unbroken_done _

theorem computeDefGw_unbroken {ip netmask : String} {s : Globals}
    {withVal : String -> Globals -> Globals} (hifs : s.numbers.ifsDot = false)
    (hip : CanRead ip) (hmask : CanRead netmask) :
    (computeDefGw ip netmask s withVal).Unbroken :=
  (ipNetmaskToNetwork_unbroken hifs hip hmask).bind fun _ _ => unbroken_done _

theorem ipFromSubnet_unbroken {myip net mask : String} {s : Globals}
    {fromSubnet other : Globals -> Outcome Globals} (hifs : s.numbers.ifsDot = false)
    (hnet : CanRead net) (hmask : CanRead mask)
    (hmyip : myip = "none" ∨ CanRead myip)
    (hfrom : forall s', NumbersKept s s' -> (fromSubnet s').Unbroken)
    (hother : forall s', NumbersKept s s' -> (other s').Unbroken) :
    (ipFromSubnet myip net mask s fromSubnet other).Unbroken := by
  unfold ipFromSubnet
  split
  · exact hfrom s (NumbersKept.refl s)
  · rename_i hne
    apply (ipNetmaskToNetwork_unbroken hifs hnet hmask).bind
    intro s1 h1
    apply (ipToNum_unbroken s1 (hmyip.resolve_left hne)).bind
    intro s2 h2
    have hkept := (ipNetmaskToNetwork_done h1).trans (ipToNum_done h2)
    split
    · exact hfrom s2 hkept
    · exact hother s2 hkept

theorem NumbersKept.ifs {s s' : Globals} (h : NumbersKept s s') :
    s'.numbers.ifsDot = s.numbers.ifsDot := by
  rcases h with ⟨numbers, hifs, rfl⟩
  exact hifs

theorem promptIpFromSubnet_unbroken {net mask : String}
    {withVal : String -> Globals -> Globals} {vals : List String} {s : Globals}
    (hifs : s.numbers.ifsDot = false) (hnet : CanRead net) (hmask : CanRead mask)
    (hvals : forall val, val ∈ vals -> val = "none" ∨ CanRead val) :
    (promptIpFromSubnet net mask withVal vals s).Unbroken := by
  induction vals generalizing s with
  | nil => exact unbroken_waiting
  | cons val rest ih =>
      apply ipFromSubnet_unbroken hifs hnet hmask (hvals val List.mem_cons_self)
      · intro s' _
        exact unbroken_done _
      · intro s' hkept
        exact ih (hkept.ifs.trans hifs) fun v hv => hvals v (List.mem_cons_of_mem val hv)

/-!
## Stages
-/

/-- A round of answers asks for a dynamic address, or for one that can be read. -/
def AddressTry.CanRead (t : AddressTry) : Prop :=
  t.ip ≠ "dhcp" -> Installer.CanRead t.ip ∧ Installer.CanRead t.netmask

theorem promptAdminIp_unbroken {tries : List AddressTry} {s : Globals}
    (hifs : s.numbers.ifsDot = false) (htries : forall t, t ∈ tries -> t.CanRead) :
    (promptAdminIp tries s).Unbroken := by
  induction tries generalizing s with
  | nil => exact unbroken_waiting
  | cons t rest ih =>
      have hrest := fun t' ht' => htries t' (List.mem_cons_of_mem t ht')
      unfold promptAdminIp
      split
      · exact ih hifs hrest
      · rename_i hstatic
        rcases htries t List.mem_cons_self hstatic with ⟨hip, hmask⟩
        apply (ipNetmaskToNetwork_unbroken (by exact hifs) hip hmask).bind
        intro s1 h1
        split
        · exact unbroken_done _
        · exact ih ((ipNetmaskToNetwork_done h1).ifs.trans hifs) hrest

theorem promptTagIp_unbroken {ntag : NicTag} {tries : List AddressTry} {s : Globals}
    (hifs : s.numbers.ifsDot = false) (htries : forall t, t ∈ tries -> t.CanRead) :
    (promptTagIp ntag tries s).Unbroken := by
  induction tries generalizing s with
  | nil => exact unbroken_waiting
  | cons t rest ih =>
      have hrest := fun t' ht' => htries t' (List.mem_cons_of_mem t ht')
      unfold promptTagIp
      simp only
      split
      · exact unbroken_done _
      · rename_i hstatic
        rcases htries t List.mem_cons_self hstatic with ⟨hip, hmask⟩
        apply (ipNetmaskToNetwork_unbroken (by exact hifs) hip hmask).bind
        intro s1 h1
        split
        · exact unbroken_done _
        · exact ih ((ipNetmaskToNetwork_done h1).ifs.trans hifs) hrest

theorem tagStage_unbroken {ntag : NicTag} {a : TagAnswers} {s : Globals}
    (hifs : s.numbers.ifsDot = false) (htries : forall t, t ∈ a.tries -> t.CanRead) :
    (tagStage ntag a s).Unbroken := by
  unfold tagStage
  split
  · simp only
    split
    · refine Unbroken.bind ?_ fun _ _ => unbroken_done _
      unfold promptnictagIp
      split
      · exact promptTagIp_unbroken (by exact hifs) htries
      · exact unbroken_done _
    · exact unbroken_done _
  · exact unbroken_done _

theorem tagsStage_unbroken {a : Answers} {s : Globals}
    (hifs : s.numbers.ifsDot = false)
    (htries : a.addNictags = true -> forall ntag t, t ∈ (a.tag ntag).tries -> t.CanRead) :
    (tagsStage a s).Unbroken := by
  unfold tagsStage
  split
  · rename_i hadds
    have hone : forall ntag s, s.numbers.ifsDot = false ->
        (tagStage ntag (a.tag ntag) s).Unbroken := fun ntag s hs =>
      tagStage_unbroken hs (htries hadds ntag)
    have hkeep : forall ntag {s s' : Globals}, s.numbers.ifsDot = false ->
        tagStage ntag (a.tag ntag) s = .done s' -> s'.numbers.ifsDot = false := by
      intro ntag s s' hs h
      rcases tagStage_done h with ⟨_, numbers, hnumbers, rfl⟩
      exact hnumbers.trans hs
    simp only [nictagList, List.foldl_cons, List.foldl_nil, Outcome.bind_done]
    apply ((hone .external s hifs).bind ?_).bind ?_
    · intro s1 h1
      exact hone .internal s1 (hkeep .external hifs h1)
    · intro s2 h2
      rcases Outcome.bind_eq_done.mp h2 with ⟨s1, h1, h2⟩
      exact hone .storage s2 (hkeep .internal (hkeep .external hifs h1) h2)
  · exact unbroken_done _

theorem promptOpnsenseAdminIp_unbroken (vals : List String) (s : Globals) :
    (promptOpnsenseAdminIp vals s).Unbroken := by
  induction vals with
  | nil => exact unbroken_waiting
  | cons val rest ih =>
      unfold promptOpnsenseAdminIp
      split
      · exact ih
      · exact unbroken_done _

theorem promptOpnsenseExternalIp_unbroken (vals : List String) (s : Globals) :
    (promptOpnsenseExternalIp vals s).Unbroken := by
  induction vals with
  | nil => exact unbroken_waiting
  | cons val rest ih =>
      unfold promptOpnsenseExternalIp
      split
      · exact ih
      · exact unbroken_done _

theorem opnsenseStaticStage_unbroken {a : Answers} {s : Globals}
    (hifs : s.numbers.ifsDot = false)
    (hrouter : s.opnsense.externalIp ≠ "dhcp" -> s.opnsense.externalGw = "" ->
      CanRead s.opnsense.externalIp ∧ CanRead a.opnsenseExternalNetmask) :
    (opnsenseStaticStage a s).Unbroken := by
  have hstage : exists vlan, opnsenseNetmaskStage a s = { s with
      opnsense.externalNetmask := a.opnsenseExternalNetmask
      opnsense.externalVlan := vlan } := by
    unfold opnsenseNetmaskStage
    simp only
    split
    · exact ⟨_, rfl⟩
    · exact ⟨s.opnsense.externalVlan, rfl⟩
  rcases hstage with ⟨vlan, hstage⟩
  unfold opnsenseStaticStage
  split
  · rename_i hstatic
    simp only [hstage]
    refine Unbroken.bind ?_ fun _ _ => unbroken_done _
    split
    · rename_i hgw
      rcases hrouter hstatic hgw with ⟨hip, hmask⟩
      exact computeDefGw_unbroken (by exact hifs) hip hmask
    · exact unbroken_done _
  · exact unbroken_done _

theorem opnsenseStage_unbroken {a : Answers} {s : Globals}
    (hifs : s.numbers.ifsDot = false) (hip : CanRead s.admin.ip)
    (hmask : CanRead s.admin.netmask)
    (hrouter : forall externalIp,
      acceptedExternalIp s.externalIp a.opnsenseExternalIps = some externalIp ->
      externalIp ≠ "dhcp" -> s.opnsense.externalGw = "" ->
        CanRead externalIp ∧ CanRead a.opnsenseExternalNetmask) :
    (opnsenseStage a s).Unbroken := by
  unfold opnsenseStage
  apply Unbroken.bind
  · split
    · exact computeDefGw_unbroken hifs hip hmask
    · exact unbroken_done _
  · intro s1 h1
    have hoffer : exists adminIp numbers, numbers.ifsDot = s.numbers.ifsDot ∧
        s1 = { s with
          opnsense.adminIp := adminIp
          numbers := numbers } := by
      split at h1
      · rcases computeDefGw_done h1 with ⟨_, val, ⟨numbers, hkept, rfl⟩, rfl⟩
        exact ⟨val, numbers, hkept, rfl⟩
      · cases h1
        exact ⟨s.opnsense.adminIp, s.numbers, rfl, rfl⟩
    rcases hoffer with ⟨_, numbers, hkept, rfl⟩
    apply (promptOpnsenseAdminIp_unbroken _ _).bind
    intro s2 h2
    rcases promptOpnsenseAdminIp_done h2 with ⟨_, _, _, _, rfl⟩
    apply (promptOpnsenseExternalIp_unbroken _ _).bind
    intro s3 h3
    rcases promptOpnsenseExternalIp_done h3 with ⟨externalIp, haccepted, rfl⟩
    refine Unbroken.bind ?_ fun _ _ => unbroken_done _
    exact opnsenseStaticStage_unbroken (hkept.trans hifs) (hrouter externalIp haccepted)

theorem defaultGateway_unbroken {s : Globals} (hifs : s.numbers.ifsDot = false)
    (hip : CanRead s.admin.ip) (hmask : CanRead s.admin.netmask)
    (hoffer : s.headnodeDefaultGateway = "" -> s.externalIp ≠ "" ->
      CanRead s.externalIp ∧ CanRead (valueOf (s.nictags .external).netmask)) :
    (defaultGateway s).Unbroken := by
  unfold defaultGateway
  apply Unbroken.bind
  · split
    · rename_i hfirst
      rcases hoffer hfirst.left hfirst.right with ⟨hexternal, hnetmask⟩
      exact computeDefGw_unbroken hifs hexternal hnetmask
    · exact unbroken_done _
  · intro s1 h1
    refine Unbroken.bind ?_ fun _ _ => unbroken_done _
    split at h1
    · rcases computeDefGw_done h1 with ⟨_, _, ⟨_, hkept, rfl⟩, rfl⟩
      split
      · exact computeDefGw_unbroken (hkept.trans hifs) hip hmask
      · exact unbroken_done _
    · cases h1
      split
      · exact computeDefGw_unbroken hifs hip hmask
      · exact unbroken_done _

theorem gatewayStage_unbroken {a : Answers} {s : Globals}
    (hifs : s.numbers.ifsDot = false) (hip : CanRead s.admin.ip)
    (hmask : CanRead s.admin.netmask)
    (hoffer : s.headnodeDefaultGateway = "" -> s.externalIp ≠ "" ->
      CanRead s.externalIp ∧ CanRead (valueOf (s.nictags .external).netmask))
    (hgateway : a.headnodeDefaultGateway = "none" ∨ CanRead a.headnodeDefaultGateway)
    (hgateways : forall ip, ip ∈ a.adminGateways -> ip = "none" ∨ CanRead ip) :
    (gatewayStage a s).Unbroken := by
  unfold gatewayStage
  apply (defaultGateway_unbroken hifs hip hmask hoffer).bind
  intro s1 h1
  rcases defaultGateway_done h1 with ⟨_, numbers, hkept, rfl⟩
  apply ipFromSubnet_unbroken (hkept.trans hifs) hip hmask hgateway
  · intro s2 _
    exact unbroken_done _
  · intro s2 h
    rcases h with ⟨_, hkept', rfl⟩
    exact promptIpFromSubnet_unbroken (hkept'.trans (hkept.trans hifs)) hip hmask
      hgateways

theorem servicesStage_unbroken {a : Answers} {s : Globals}
    (hifs : s.numbers.ifsDot = false) (hip : CanRead s.admin.ip)
    (hmask : CanRead s.admin.netmask) : (servicesStage a s).Unbroken := by
  unfold servicesStage
  refine Unbroken.bind ?_ fun _ _ => unbroken_done _
  unfold offerMgmtAdminIp
  split
  · exact (ipNetmaskToNetwork_unbroken hifs hip hmask).bind fun _ _ => unbroken_done _
  · split
    · exact unbroken_done _
    · exact unbroken_done _

/-!
## Passes
-/

/-- Bash can read every address that a pass computes with. -/
structure Readable (a : Answers) (s : Globals) : Prop where
  admin : forall t, t ∈ a.adminTries -> t.CanRead
  tags : a.addNictags = true -> forall ntag t, t ∈ (a.tag ntag).tries -> t.CanRead
  router : (decision s.advancedInstall s.hasExternal a).deployed = true ->
    forall externalIp,
      acceptedExternalIp (valueOf (nictagAfter a s .external).ip)
        a.opnsenseExternalIps = some externalIp ->
      externalIp ≠ "dhcp" -> s.opnsense.externalGw = "" ->
        CanRead externalIp ∧ CanRead a.opnsenseExternalNetmask
  offer : (decision s.advancedInstall s.hasExternal a).deployed = false ->
    s.headnodeDefaultGateway = "" ->
    valueOf (nictagAfter a s .external).ip ≠ "" ->
      CanRead (valueOf (nictagAfter a s .external).ip) ∧
        CanRead (valueOf (nictagAfter a s .external).netmask)
  gateway : (decision s.advancedInstall s.hasExternal a).deployed = false ->
    a.headnodeDefaultGateway = "none" ∨ CanRead a.headnodeDefaultGateway
  adminGateways : (decision s.advancedInstall s.hasExternal a).deployed = false ->
    forall ip, ip ∈ a.adminGateways -> ip = "none" ∨ CanRead ip

theorem routerWanted_eq (a : Answers) (ip netmask vlan : String)
    (etherstubs : List String) (numbers : Numbers) (s : Globals) :
    (decide ((tagged a ip netmask vlan etherstubs numbers s).externalIface ≠ "") &&
      a.deployOpnsense) = (decision s.advancedInstall s.hasExternal a).deployed := by
  show ((tagged a ip netmask vlan etherstubs numbers s).hasExternal &&
    a.deployOpnsense) = _
  rw [tagged_hasExternal]
  rfl

theorem routingStage_unbroken {a : Answers} {s : Globals} {t : AddressTry}
    (vlan : String) {etherstubs : List String} {numbers : Numbers}
    (hread : Readable a s) (ht : t.CanRead) (hstatic : t.ip ≠ "dhcp")
    (hifs : numbers.ifsDot = false) :
    (routingStage a (tagged a t.ip t.netmask vlan etherstubs numbers s)).Unbroken := by
  rcases ht hstatic with ⟨hip, hmask⟩
  unfold routingStage
  simp only [routerWanted_eq]
  split
  · rename_i hdeploy
    exact opnsenseStage_unbroken (by exact hifs) hip hmask (hread.router hdeploy)
  · rename_i hnone
    have hnone' : (decision s.advancedInstall s.hasExternal a).deployed = false := by
      simpa using hnone
    exact gatewayStage_unbroken (by exact hifs) hip hmask (hread.offer hnone')
      (hread.gateway hnone') (hread.adminGateways hnone')

theorem pass_unbroken {dladmAddress : String -> String} {a : Answers} {s : Globals}
    (hready : s.Ready) (hread : Readable a s) :
    (pass dladmAddress a s).Unbroken := by
  unfold pass
  have hadmin : (adminStage a s).Unbroken := by
    unfold adminStage
    exact (promptAdminIp_unbroken (by exact hready.ifs) hread.admin).bind
      fun _ _ => unbroken_done _
  apply hadmin.bind
  intro s1 h1
  rcases adminStage_done h1 with ⟨t, vlan, numbers, ht, hstatic, hkept, rfl⟩
  have hifs := hkept.trans hready.ifs
  apply (tagsStage_unbroken (by exact hifs) hread.tags).bind
  intro s2 h2
  rcases tagsStage_done h2 with ⟨etherstubs, numbers', hkept', rfl⟩
  have hifs' : numbers'.ifsDot = false := hkept'.trans hifs
  have htry := hread.admin t ht
  apply (routingStage_unbroken (t := t) vlan hread htry hstatic hifs').bind
  intro routed h3
  have hrouted : routed.admin.ip = t.ip ∧ routed.admin.netmask = t.netmask ∧
      routed.numbers.ifsDot = false := by
    rcases routingStage_done (by exact hready.opnsense) h3 with
      ⟨_, _, _, _, _, _, rfl, hkept'', _⟩ | ⟨_, _, _, rfl, hkept''⟩
    · exact ⟨rfl, rfl, hkept''.trans hifs'⟩
    · exact ⟨rfl, rfl, hkept''.trans hifs'⟩
  rcases hrouted with ⟨hip, hmask, hifs''⟩
  rcases nicsup_eq dladmAddress a routed with ⟨nic, marks, done, hup, _⟩
  rcases systemStage_eq a (nicsup dladmAddress a routed) with ⟨system, hsystem⟩
  rw [hup] at hsystem
  simp only [hup, hsystem]
  rcases htry hstatic with ⟨hreadIp, hreadMask⟩
  refine (servicesStage_unbroken (by exact hifs'') ?_ ?_).bind fun _ _ => unbroken_done _
  · show CanRead routed.admin.ip
    rw [hip]
    exact hreadIp
  · show CanRead routed.admin.netmask
    rw [hmask]
    exact hreadMask

/-!
## Runs
-/

/-- A condition holds before every pass of a run. -/
def Along (dladmAddress : String -> String) (C : Answers -> Globals -> Prop) :
    List Answers -> Globals -> Prop
  | [], _ => True
  | a :: rest, s => C a s ∧
      forall s', pass dladmAddress a s = .done s' -> Along dladmAddress C rest s'

/-- A condition holds before the last pass of a run. -/
def AtLast (dladmAddress : String -> String) (C : Answers -> Globals -> Prop) :
    List Answers -> Globals -> Prop
  | [], _ => True
  | [a], s => C a s
  | a :: rest, s =>
      forall s', pass dladmAddress a s = .done s' -> AtLast dladmAddress C rest s'

/-- A run whose passes compute with readable addresses is not broken off. -/
theorem mainLoop_unbroken {dladmAddress : String -> String} {passes : List Answers}
    {s : Globals} (hready : s.Ready) (hread : Along dladmAddress Readable passes s) :
    (mainLoop dladmAddress passes s).Unbroken := by
  induction passes generalizing s with
  | nil => exact unbroken_waiting
  | cons a rest ih =>
      have hfirst : (pass dladmAddress a s).Unbroken := pass_unbroken hready hread.left
      cases rest with
      | nil => exact hfirst
      | cons b rest =>
          apply hfirst.bind
          intro s' h
          exact ih (pass_ready hready h) (hread.right s' h)

end Installer
end EsdcFactory
