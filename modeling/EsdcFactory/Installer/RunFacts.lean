import EsdcFactory.Installer.PassFacts

/-!
# Runs of the main loop

The stage about the router sets the router's variables and the default gateway;
the stage without a router sets the gateways only.  What every pass preserves
holds when the loop is left.
-/

namespace EsdcFactory
namespace Installer

open BashArith Function

/-!
## Router
-/

theorem routerAnswered_eq (a : Answers) (ip externalIp : String) (s : Globals) :
    exists router, routerAnswered a ip externalIp s = { s with
        adminGateway := ip
        opnsense := router } ∧
      router.adminIp = ip ∧ router.externalIp = externalIp ∧
      router.externalGw =
        if externalIp = "dhcp" then s.opnsense.externalGw
        else a.opnsenseExternalGw := by
  unfold routerAnswered
  simp only
  split
  · exact ⟨_, rfl, rfl, rfl, rfl⟩
  · unfold opnsenseNetmaskStage
    simp only
    split <;> exact ⟨_, rfl, rfl, rfl, rfl⟩

/-- The kind of MAC address that was chosen for the router. -/
def routerMacType (advanced : Bool) (a : Answers) : String :=
  if advanced then
    if isMac a.opnsenseExternalMac then "manual" else a.opnsenseExternalMac
  else "auto"

theorem opnsenseMacStage_eq (a : Answers) (s : Globals) :
    exists mac, opnsenseMacStage a s = { s with
      opnsense.externalMacType := routerMacType s.advancedInstall a
      opnsense.externalMac := mac
      nictagPreserveMac :=
        if routerMacType s.advancedInstall a = "node" then
          update s.nictagPreserveMac (.tag .external) none
        else s.nictagPreserveMac } ∧
      (routerMacType s.advancedInstall a = "node" ->
        mac = valueOf (s.nictags .external).mac) := by
  unfold opnsenseMacStage routerMacType
  by_cases hadv : s.advancedInstall = true
  · simp only [hadv, if_true]
    generalize (if isMac a.opnsenseExternalMac = true then "manual"
      else a.opnsenseExternalMac) = macType
    by_cases hnode : macType = "node"
    · rw [if_pos hnode, if_pos hnode]
      exact ⟨_, rfl, fun _ => rfl⟩
    · rw [if_neg hnode, if_neg hnode]
      exact ⟨_, rfl, fun hother => absurd hother hnode⟩
  · rw [if_neg hadv, if_neg hadv]
    exact ⟨"auto", rfl, fun hother => absurd hother (by decide)⟩

/-- The gateway of a node with a router, which DHCP may still have to name. -/
def gatewayChoice (network nodeIp adminGateway routerIp routerGw : String) : String :=
  if nodeIp ≠ "" then
    if network = "admin" then adminGateway
    else if network = "external" ∧ nodeIp = "dhcp" then "none"
    else if network = "external" ∧ routerIp = "dhcp" then "opnsense"
    else routerGw
  else adminGateway

theorem opnsenseGatewayStage_eq (a : Answers) (s : Globals) :
    exists network, opnsenseGatewayStage a s = { s with
      headnodeDefaultGateway := gatewayChoice a.headnodeDefaultNetwork s.externalIp
        s.adminGateway s.opnsense.externalIp s.opnsense.externalGw
      headnodeDefaultNetwork := network } := by
  have hsame : forall network, Globals.externalIp { s with
      headnodeDefaultNetwork := network } = s.externalIp := fun _ => rfl
  unfold opnsenseGatewayStage gatewayChoice
  by_cases hip : s.externalIp ≠ ""
  · rw [if_pos hip, if_pos hip]
    refine ⟨a.headnodeDefaultNetwork, ?_⟩
    simp only [hsame]
    by_cases hadmin : a.headnodeDefaultNetwork = "admin"
    · rw [if_pos hadmin, if_pos hadmin]
    · rw [if_neg hadmin, if_neg hadmin]
      by_cases hdhcp : a.headnodeDefaultNetwork = "external" ∧ s.externalIp = "dhcp"
      · rw [if_pos hdhcp, if_pos hdhcp]
      · rw [if_neg hdhcp, if_neg hdhcp]
        split <;> rfl
  · rw [if_neg hip, if_neg hip]
    exact ⟨"admin", rfl⟩

theorem nicsupOpnsense_eq {a : Answers} {s : Globals}
    (hdown : s.nicsupOpnsenseDone = false) :
    exists router, nicsupOpnsense a s = { s with
        headnodeDefaultGateway :=
          if s.opnsense.externalIp = "dhcp" ∧ a.lease.gateway ≠ "" ∧
              s.headnodeDefaultGateway = "opnsense" then a.lease.gateway
          else s.headnodeDefaultGateway
        opnsense := router
        nictagPreserveMac :=
          if s.opnsense.externalMacType = "node" then
            update s.nictagPreserveMac .opnsense
              (some (s.opnsense.externalMac ++ "," ++ a.newMac .opnsense))
          else s.nictagPreserveMac
        nicsupOpnsenseDone := true } ∧
      router.adminIp = s.opnsense.adminIp := by
  unfold nicsupOpnsense
  simp only [hdown, Bool.false_eq_true, if_false]
  by_cases hnode : s.opnsense.externalMacType = "node"
  · rw [if_pos hnode, if_pos hnode]
    by_cases hdhcp : s.opnsense.externalIp = "dhcp"
    · simp only [hdhcp, if_true, true_and]
      exact ⟨_, rfl, rfl⟩
    · simp only [hdhcp, if_false, false_and]
      exact ⟨_, rfl, rfl⟩
  · rw [if_neg hnode, if_neg hnode]
    by_cases hdhcp : s.opnsense.externalIp = "dhcp"
    · simp only [hdhcp, if_true, true_and]
      exact ⟨_, rfl, rfl⟩
    · simp only [hdhcp, if_false, false_and]
      exact ⟨_, rfl, rfl⟩

/-- The marks after the questions about a router. -/
def routerMarks (a : Answers) (s : Globals) : MacKey -> Option String :=
  if routerMacType s.advancedInstall a = "node" then
    update (update s.nictagPreserveMac (.tag .external) none) .opnsense
      (some (valueOf (s.nictags .external).mac ++ "," ++ a.newMac .opnsense))
  else s.nictagPreserveMac

/-- The default gateway after the questions about a router. -/
def routerGateway (a : Answers) (ip externalIp : String) (s : Globals) : String :=
  let gateway := gatewayChoice a.headnodeDefaultNetwork s.externalIp ip externalIp
    (if externalIp = "dhcp" then s.opnsense.externalGw else a.opnsenseExternalGw)
  if externalIp = "dhcp" ∧ a.lease.gateway ≠ "" ∧ gateway = "opnsense" then
    a.lease.gateway
  else gateway

theorem routerStage_eq (a : Answers) (ip externalIp : String) {s : Globals}
    (hdown : s.nicsupOpnsenseDone = false) :
    exists router network, routerStage a ip externalIp s = { s with
        adminGateway := ip
        headnodeDefaultGateway := routerGateway a ip externalIp s
        headnodeDefaultNetwork := network
        opnsense := router
        nictagPreserveMac := routerMarks a s
        nicsupOpnsenseDone := true } ∧
      router.adminIp = ip := by
  rcases routerAnswered_eq a ip externalIp s with
    ⟨router, hanswered, hadmin, hexternal, hgw⟩
  rcases opnsenseMacStage_eq a (routerAnswered a ip externalIp s) with
    ⟨mac, hmac, hmacNode⟩
  rcases opnsenseGatewayStage_eq a (opnsenseMacStage a
    (routerAnswered a ip externalIp s)) with ⟨network, hgateway⟩
  rw [hanswered] at hmac hmacNode hgateway
  rw [hmac] at hgateway
  unfold routerStage
  rw [hanswered, hmac, hgateway]
  rcases nicsupOpnsense_eq (a := a) (s := { s with
      adminGateway := ip
      headnodeDefaultGateway := gatewayChoice a.headnodeDefaultNetwork s.externalIp
        ip router.externalIp router.externalGw
      headnodeDefaultNetwork := network
      opnsense := { router with
        externalMacType := routerMacType s.advancedInstall a
        externalMac := mac }
      nictagPreserveMac :=
        if routerMacType s.advancedInstall a = "node" then
          update s.nictagPreserveMac (.tag .external) none
        else s.nictagPreserveMac }) hdown with ⟨router', hnics, hadmin'⟩
  refine ⟨router', network, ?_, hadmin'.trans hadmin⟩
  refine Eq.trans hnics ?_
  have hmarks : (if routerMacType s.advancedInstall a = "node" then
      update (if routerMacType s.advancedInstall a = "node" then
          update s.nictagPreserveMac (.tag .external) none
        else s.nictagPreserveMac) .opnsense
        (some (mac ++ "," ++ a.newMac .opnsense))
      else if routerMacType s.advancedInstall a = "node" then
          update s.nictagPreserveMac (.tag .external) none
        else s.nictagPreserveMac) = routerMarks a s := by
    unfold routerMarks
    by_cases hnode : routerMacType s.advancedInstall a = "node"
    · simp only [if_pos hnode, hmacNode hnode]
    · simp only [if_neg hnode]
  simp only [routerGateway, hmarks, hexternal, hgw]

theorem routingStage_done {a : Answers} {s s' : Globals}
    (hdown : s.nicsupOpnsenseDone = false) (h : routingStage a s = .done s') :
    ((s.externalIface ≠ "" ∧ a.deployOpnsense = true) ∧
      exists ip externalIp router network numbers,
        s' = { s with
          deployOpnsense := true
          adminGateway := ip
          headnodeDefaultGateway := routerGateway a ip externalIp s
          headnodeDefaultNetwork := network
          opnsense := router
          nictagPreserveMac := routerMarks a s
          nicsupOpnsenseDone := true
          numbers := numbers } ∧
        numbers.ifsDot = s.numbers.ifsDot ∧ router.adminIp = ip ∧
        ip ∈ a.opnsenseAdminIps ∧ ip ≠ "none" ∧
        acceptedExternalIp s.externalIp a.opnsenseExternalIps = some externalIp) ∨
    (¬ (s.externalIface ≠ "" ∧ a.deployOpnsense = true) ∧
      exists adminGateway numbers,
        s' = { s with
          deployOpnsense := false
          adminGateway := adminGateway
          headnodeDefaultGateway := a.headnodeDefaultGateway
          numbers := numbers } ∧
        numbers.ifsDot = s.numbers.ifsDot) := by
  unfold routingStage at h
  simp only at h
  by_cases hdeploy : s.externalIface ≠ "" ∧ a.deployOpnsense = true
  · have hwanted : (decide (s.externalIface ≠ "") && a.deployOpnsense) = true := by
      simpa using hdeploy
    rw [hwanted] at h
    rw [if_pos rfl] at h
    rcases opnsenseStage_done h with
      ⟨ip, externalIp, numbers, hmem, _, hnone, hifs, hexternal, rfl⟩
    rcases routerStage_eq a ip externalIp (s := { s with
        deployOpnsense := true
        numbers := numbers }) hdown with ⟨router, network, heq, hadmin⟩
    exact Or.inl ⟨hdeploy, ip, externalIp, router, network, numbers, heq, hifs,
      hadmin, hmem, hnone, hexternal⟩
  · have hwanted : (decide (s.externalIface ≠ "") && a.deployOpnsense) = false := by
      rw [Bool.eq_false_iff]
      simpa using hdeploy
    rw [hwanted] at h
    rw [if_neg Bool.false_ne_true] at h
    rcases gatewayStage_done h with ⟨adminGateway, numbers, hifs, rfl⟩
    exact Or.inr ⟨hdeploy, adminGateway, numbers, rfl, hifs⟩

/-!
## Interfaces
-/

theorem nicsupTag_eq (dladmAddress : String -> String) (a : Answers)
    (s : Globals) (ntag : NicTag) :
    exists nic marks, nicsupTag dladmAddress a s ntag = { s with
        admin.nic := nic
        nictagPreserveMac := marks } ∧
      marks .opnsense = s.nictagPreserveMac .opnsense := by
  unfold nicsupTag
  split
  · refine ⟨_, _, rfl, ?_⟩
    rw [update_of_ne]
    exact MacKey.noConfusion
  · exact ⟨s.admin.nic, s.nictagPreserveMac, rfl, rfl⟩

theorem nicsup_eq (dladmAddress : String -> String) (a : Answers) (s : Globals) :
    exists nic marks done, nicsup dladmAddress a s = { s with
        admin.nic := nic
        nictagPreserveMac := marks
        nicsupDone := done } ∧
      marks .opnsense = s.nictagPreserveMac .opnsense := by
  have hfold : forall (ntags : List NicTag) (s : Globals), exists nic marks,
      ntags.foldl (nicsupTag dladmAddress a) s = { s with
          admin.nic := nic
          nictagPreserveMac := marks } ∧
        marks .opnsense = s.nictagPreserveMac .opnsense := by
    intro ntags
    induction ntags with
    | nil =>
        intro s
        exact ⟨s.admin.nic, s.nictagPreserveMac, rfl, rfl⟩
    | cons ntag rest ih =>
        intro s
        rcases nicsupTag_eq dladmAddress a s ntag with ⟨nic, marks, heq, hmark⟩
        rcases ih (nicsupTag dladmAddress a s ntag) with ⟨nic', marks', heq', hmark'⟩
        rw [heq] at heq' hmark'
        refine ⟨nic', marks', ?_, hmark'.trans hmark⟩
        rw [List.foldl_cons, heq, heq']
  unfold nicsup
  split
  · exact ⟨s.admin.nic, s.nictagPreserveMac, s.nicsupDone, rfl, rfl⟩
  · rcases hfold nictagList s with ⟨nic, marks, heq, hmark⟩
    refine ⟨nic, marks, true, ?_, hmark⟩
    rw [heq]

theorem systemStage_eq (a : Answers) (s : Globals) :
    exists system, systemStage a s = { s with system := system } := by
  unfold systemStage
  simp only
  split <;> exact ⟨_, rfl⟩

theorem finished_eq (dladmAddress : String -> String) (a : Answers)
    (numbers : Numbers) (ipAddr : String) (s : Globals) :
    exists nic marks changeMacs system, finished dladmAddress a numbers ipAddr s =
      { s with
        system := system
        admin.nic := nic
        nictagPreserveMac := marks
        changeMacs := changeMacs
        nicsupDone := false
        nicsupOpnsenseDone := false
        zones.mgmt := a.mgmtAdminIp
        numbers := numbers
        ipAddr := ipAddr } ∧
      marks .opnsense = s.nictagPreserveMac .opnsense ∧
      system.esdcInstallPassword = a.esdcInstallPassword := by
  rcases nicsup_eq dladmAddress a s with ⟨nic, marks, done, hup, hmark⟩
  rcases systemStage_eq a (nicsup dladmAddress a s) with ⟨system, hsystem⟩
  unfold finished
  rw [hsystem, hup]
  exact ⟨nic, marks, _, _, rfl, hmark, rfl⟩

/-!
## Runs
-/

/-- Between two passes all interfaces are down, and `IFS` is as usual. -/
structure Globals.Ready (s : Globals) : Prop where
  nics : s.nicsupDone = false
  opnsense : s.nicsupOpnsenseDone = false
  ifs : s.numbers.ifsDot = false

theorem initial_ready (advanced : Bool) : (Globals.initial advanced).Ready :=
  ⟨rfl, rfl, rfl⟩

theorem pass_ready {dladmAddress : String -> String} {a : Answers}
    {s s' : Globals} (hs : s.Ready) (h : pass dladmAddress a s = .done s') :
    s'.Ready := by
  rcases pass_done h with
    ⟨t, vlan, etherstubs, numbers, routed, numbers', ipAddr, _, _, hifs, hifs',
      hrouting, rfl⟩
  rcases finished_eq dladmAddress a numbers' ipAddr routed with
    ⟨nic, marks, changeMacs, system, heq, _, _⟩
  have hrouted : routed.numbers.ifsDot = numbers.ifsDot := by
    rcases routingStage_done (by exact hs.opnsense) hrouting with
      ⟨_, _, _, _, _, _, rfl, hkeep, _⟩ | ⟨_, _, _, rfl, hkeep⟩
    · exact hkeep
    · exact hkeep
  rw [heq]
  exact ⟨rfl, rfl, hifs'.trans (hrouted.trans (hifs.trans hs.ifs))⟩

/-- What every pass preserves holds when the main loop is left. -/
theorem mainLoop_keeps {dladmAddress : String -> String} {P : Globals -> Prop}
    {passes : List Answers}
    (hpass : forall a, a ∈ passes -> forall s s', P s ->
      pass dladmAddress a s = .done s' -> P s')
    {s s' : Globals} (hs : P s) (h : mainLoop dladmAddress passes s = .done s') :
    P s' := by
  induction passes generalizing s with
  | nil => cases h
  | cons a rest ih =>
      cases rest with
      | nil => exact hpass a List.mem_cons_self s s' hs h
      | cons b rest =>
          rcases Outcome.bind_eq_done.mp h with ⟨s1, hfirst, hrest⟩
          have hs1 := hpass a List.mem_cons_self s s1 hs hfirst
          apply ih _ hs1 hrest
          intro a' ha'
          exact hpass a' (List.mem_cons_of_mem a ha')

theorem mainLoop_ready {dladmAddress : String -> String} {passes : List Answers}
    {s s' : Globals} (hs : s.Ready) (h : mainLoop dladmAddress passes s = .done s') :
    s'.Ready :=
  mainLoop_keeps (fun _ _ _ _ hready hpass => pass_ready hready hpass) hs h

/-!
## A plain installation
-/

def firstNic : Nic where
  link := "e1000g0"
  mac := "00:0c:29:00:00:01"
  link_ne := by decide
  mac_isMac := by decide +kernel

def secondNic : Nic where
  link := "e1000g1"
  mac := "00:0c:29:00:00:02"
  link_ne := by decide
  mac_isMac := by decide +kernel

/-- The addresses of the two interfaces. -/
def plainDladm (link : String) : String :=
  if link = "e1000g0" then firstNic.mac else secondNic.mac

/-- The answers of an installation on the admin network alone. -/
def plainAnswers : Answers where
  datacenterName := "dc"
  etherstubs := []
  adminNic := .physical firstNic
  adminTries := [⟨"10.0.0.10", "255.255.255.0", ""⟩]
  adminVlanId := ""
  addNictags := false
  tag := fun _ => {
    addNictag := false
    nic := .physical secondNic
    addIp := false
    tries := []
    preserveMac := false }
  deployOpnsense := false
  opnsenseAdminIps := ["10.0.0.1"]
  opnsenseExternalIps := ["203.0.113.2"]
  opnsenseExternalNetmask := "255.255.255.0"
  opnsenseExternalVlan := ""
  opnsenseExternalGw := "203.0.113.1"
  opnsenseExternalMac := "auto"
  headnodeDefaultNetwork := "admin"
  headnodeDefaultGateway := "10.0.0.1"
  adminGateways := []
  dnsResolver1 := "8.8.8.8"
  dnsResolver2 := "8.8.4.4"
  dnsSearch := "local"
  ntpHost := "0.smartos.pool.ntp.org"
  installToHdd := false
  rootPassword := "rootpw"
  hostname := "node01.local"
  mgmtAdminIp := "10.0.0.20"
  esdcInstallPassword := "secret"
  adminEmail := "root@example.com"
  newMac := fun _ => "02:08:20:00:00:01"
  lease := ⟨"", "", ""⟩

def externalAnswers (tag : TagAnswers) (deployOpnsense : Bool) : Answers :=
  { plainAnswers with
    addNictags := true
    tag := fun ntag => if ntag = .external then tag else plainAnswers.tag ntag
    deployOpnsense := deployOpnsense }

theorem plainAnswers_accepted : plainAnswers.Accepted where
  adminTries := by decide +kernel
  tagTries := fun _ _ h => nomatch h
  opnsenseAdminIps := by decide +kernel
  opnsenseExternalIps := by decide +kernel
  opnsenseExternalNetmask := by decide +kernel
  opnsenseExternalGw := by decide +kernel
  headnodeDefaultGateway := by decide +kernel
  adminGateways := by decide +kernel
  mgmtAdminIp := by decide +kernel
  esdcInstallPassword := by decide +kernel
  newMac := fun _ => by
    show isMac "02:08:20:00:00:01" = true
    decide +kernel

theorem externalAnswers_accepted {tag : TagAnswers} (deployOpnsense : Bool)
    (h : forall t, t ∈ tag.tries -> isNetValue t.ip = true ∧ isNetValue t.netmask = true) :
    (externalAnswers tag deployOpnsense).Accepted :=
  { plainAnswers_accepted with
    tagTries := by
      intro ntag t ht
      cases ntag with
      | external => exact h t ht
      | internal => cases ht
      | storage => cases ht }

def plainSystem : System where
  isVMware := false
  hashOpnsensePasswd := fun password => password

example : (mainLoop plainDladm [plainAnswers] (Globals.initial false)).passes
    (fun s => configValue (configFile plainSystem s) "cfgdb_admin_ip" =
      some "10.0.0.24") = true := by
  decide +kernel

end Installer
end EsdcFactory
