import EsdcFactory.Installer.InterfaceRuns
import EsdcFactory.Lib.Traced

/-!
# The addresses that are turned into numbers

The stages of the main loop once more, with the arguments of all calls of `ip_to_num`.
Without these arguments they are the stages as before.
-/

namespace EsdcFactory
namespace Installer

open BashArith

/-- A stage that reports the arguments of `ip_to_num`. -/
abbrev Stage := Traced String Globals

namespace Stage

open Traced

/-!
## Address functions
-/

/-- `ip_to_num` -/
def ipToNum (ip : String) (s : Globals) : Stage where
  calls := [ip]
  outcome := Installer.ipToNum ip s

/-- `ip_netmask_to_network` -/
def ipNetmaskToNetwork (ip netmask : String) (s : Globals) : Stage :=
  if s.numbers.ifsDot then quiet (.aborted s)
  else
    (ipToNum ip s).bind fun s =>
    let s := { s with numbers.ipNum := s.numbers.num }
    (ipToNum netmask s).bind fun s =>
    let s := { s with numbers.nmNum := s.numbers.num }
    let s := { s with numbers.netNum := s.numbers.nmNum &&& s.numbers.ipNum }
    (ipToNum "255.255.255.255" s).bind fun s =>
    let bcasthost := ~~~ s.numbers.nmNum &&& s.numbers.num
    quiet (.done { s with numbers.bcastAddr := s.numbers.netNum + bcasthost })

/-- `compute_def_gw` and what is then left in `val` -/
def computeDefGw (ip netmask : String) (s : Globals)
    (withVal : String -> Globals -> Globals) : Stage :=
  (ipNetmaskToNetwork ip netmask s).bind fun s =>
  quiet (.done (withVal (printedIp (s.numbers.netNum + 1)) s))

/-- `ip_from_subnet`, followed by what is done for an address from the subnet or not. -/
def ipFromSubnet (myip net mask : String) (s : Globals)
    (fromSubnet other : Globals -> Stage) : Stage :=
  if myip = "none" then fromSubnet s
  else
    (ipNetmaskToNetwork net mask s).bind fun s =>
    (ipToNum myip s).bind fun s =>
    if s.numbers.netNum.slt s.numbers.num &&
        s.numbers.num.slt s.numbers.bcastAddr then fromSubnet s
    else other s

/-- `prompt_ip_from_subnet`, and what is done with the address -/
def promptIpFromSubnet (net mask : String)
    (withVal : String -> Globals -> Globals) : List String -> Globals -> Stage
  | [], _ => quiet .waiting
  | val :: rest, s =>
      ipFromSubnet val net mask s (fun s => quiet (.done (withVal val s)))
        (promptIpFromSubnet net mask withVal rest)

/-!
## Admin network
-/

/-- The rounds of questions about the admin address of the first node. -/
def promptAdminIp : List AddressTry -> Globals -> Stage
  | [], _ => quiet .waiting
  | t :: rest, s =>
      if t.ip = "dhcp" then promptAdminIp rest { s with admin.ip := "" }
      else
        let s := { s with
          admin.ip := t.ip
          admin.netmask := t.netmask }
        (ipNetmaskToNetwork t.ip t.netmask s).bind fun s =>
        if s.numbers.ipNum ≠ s.numbers.bcastAddr then quiet (.done s)
        else promptAdminIp rest s

/-- The rounds of questions about the admin address of a further node. -/
def promptAdminIpOrDhcp : List AddressTry -> Globals -> Stage
  | [], _ => quiet .waiting
  | t :: rest, s =>
      let s := { s with admin.ip := t.ip }
      if t.ip = "dhcp" then quiet (.done s)
      else
        let s := { s with admin.netmask := t.netmask }
        (ipNetmaskToNetwork t.ip t.netmask s).bind fun s =>
        if s.numbers.ipNum ≠ s.numbers.bcastAddr then quiet (.done s)
        else promptAdminIpOrDhcp rest s

def adminStage (a : Answers) (s : Globals) : Stage :=
  let s := { s with
    system.datacenterName := a.datacenterName
    etherstubs := addEtherstub a.adminNic a.etherstubs
    admin.nic := a.adminNic.val
    admin.iface := a.adminNic.nicVal }
  (promptAdminIp a.adminTries s).bind fun s =>
  quiet (.done { s with admin.vlanId := if s.advancedInstall then a.adminVlanId else "" })

def nodeAdminStage (a : NodeAnswers) (s : Globals) : Stage :=
  let s := { s with
    etherstubs := addEtherstub a.adminNic a.etherstubs
    admin.nic := a.adminNic.val
    admin.iface := a.adminNic.nicVal }
  (promptAdminIpOrDhcp a.adminTries s).bind fun s =>
  quiet (.done { s with admin.vlanId := if s.advancedInstall then a.adminVlanId else "" })

/-!
## Network tags
-/

/-- The rounds of questions about the address of a network tag. -/
def promptTagIp (ntag : NicTag) : List AddressTry -> Globals -> Stage
  | [], _ => quiet .waiting
  | t :: rest, s =>
      let tag := { s.nictags ntag with ip := some t.ip }
      if t.ip = "dhcp" then
        quiet (.done (setTag ntag { tag with
          netmask := some "N/A"
          vlan := some t.vlan } s))
      else
        let tag := { tag with netmask := some t.netmask }
        (ipNetmaskToNetwork t.ip t.netmask (setTag ntag tag s)).bind fun s =>
        let valid := s.numbers.ipNum ≠ s.numbers.bcastAddr
        let s := setTag ntag { tag with vlan := some t.vlan } s
        if valid then quiet (.done s) else promptTagIp ntag rest s

/-- `promptnictag_ip` -/
def promptnictagIp (ntag : NicTag) (a : TagAnswers) (s : Globals) : Stage :=
  if a.addIp then promptTagIp ntag a.tries s
  else quiet (.done (clearTagIp ntag s))

def tagStage (ntag : NicTag) (a : TagAnswers) (s : Globals) : Stage :=
  if a.addNictag then
    let s := setTagNic ntag a.nic s
    if s.advancedInstall then
      (promptnictagIp ntag a s).bind fun s =>
      quiet (.done (if ntag = .external then promptPreserveMac ntag a s else s))
    else quiet (.done s)
  else quiet (.done (clearTag ntag s))

def tagsStage (a : Answers) (s : Globals) : Stage :=
  if a.addNictags then
    nictagList.foldl (fun x ntag => x.bind (tagStage ntag (a.tag ntag))) (quiet (.done s))
  else quiet (.done s)

/-!
## Routing
-/

def opnsenseStaticStage (a : Answers) (s : Globals) : Stage :=
  if s.opnsense.externalIp ≠ "dhcp" then
    let s := opnsenseNetmaskStage a s
    (if s.opnsense.externalGw = "" then
      computeDefGw s.opnsense.externalIp s.opnsense.externalNetmask s
        fun val s => { s with opnsense.externalGw := val }
    else quiet (.done s)).bind fun s =>
    quiet (.done { s with opnsense.externalGw := a.opnsenseExternalGw })
  else quiet (.done s)

def opnsenseStage (a : Answers) (s : Globals) : Stage :=
  (if s.opnsense.adminIp = "" then
    computeDefGw s.admin.ip s.admin.netmask s
      fun val s => { s with opnsense.adminIp := val }
  else quiet (.done s)).bind fun s =>
  (quiet (promptOpnsenseAdminIp a.opnsenseAdminIps s)).bind fun s =>
  (quiet (promptOpnsenseExternalIp a.opnsenseExternalIps s)).bind fun s =>
  (opnsenseStaticStage a s).bind fun s =>
  quiet (.done (nicsupOpnsense a (opnsenseGatewayStage a (opnsenseMacStage a s))))

/-- The default gateway that is offered without a router. -/
def defaultGateway (s : Globals) : Stage :=
  (if s.headnodeDefaultGateway = "" ∧ s.externalIp ≠ "" then
    computeDefGw s.externalIp (valueOf (s.nictags .external).netmask) s
      fun val s => { s with headnodeDefaultGateway := val }
  else quiet (.done s)).bind fun s =>
  (if s.headnodeDefaultGateway = "" ∧ s.admin.ip ≠ "dhcp" then
    computeDefGw s.admin.ip s.admin.netmask s
      fun val s => { s with headnodeDefaultGateway := val }
  else quiet (.done s)).bind fun s =>
  quiet (.done (if s.headnodeDefaultGateway = "" then
    { s with headnodeDefaultGateway := "none" }
  else s))

def gatewayStage (a : Answers) (s : Globals) : Stage :=
  (defaultGateway s).bind fun s =>
  let s := { s with headnodeDefaultGateway := a.headnodeDefaultGateway }
  ipFromSubnet s.headnodeDefaultGateway s.admin.ip s.admin.netmask s
    (fun s => quiet (.done { s with adminGateway := s.headnodeDefaultGateway }))
    (fun s => promptIpFromSubnet s.admin.ip s.admin.netmask
      (fun val s => { s with adminGateway := val }) a.adminGateways
      { s with adminGateway :=
          if s.adminGateway = "" then printedIp (s.numbers.netNum + 1)
          else s.adminGateway })

def routingStage (a : Answers) (s : Globals) : Stage :=
  let s := { s with
    deployOpnsense :=
      s.externalIface ≠ "" && a.deployOpnsense }
  if s.deployOpnsense then opnsenseStage a s else gatewayStage a s

/-!
## Services and passes
-/

/-- The portal address that is offered. -/
def offerMgmtAdminIp (s : Globals) : Stage :=
  if s.zones.mgmt = "" ∧ s.admin.ip ≠ "dhcp" then
    (ipNetmaskToNetwork s.admin.ip s.admin.netmask s).bind fun s =>
    let s := numToIp (s.numbers.ipNum + 1) s
    quiet (.done { s with zones.mgmt := s.ipAddr })
  else if s.admin.ip = "dhcp" then quiet (.done { s with zones.mgmt := "no default" })
  else quiet (.done s)

def servicesStage (a : Answers) (s : Globals) : Stage :=
  (offerMgmtAdminIp s).bind fun s =>
  quiet (.done { s with
    zones.mgmt := a.mgmtAdminIp
    system.esdcInstallPassword := a.esdcInstallPassword
    system.adminEmail := a.adminEmail })

def cfgdbStage (a : NodeAnswers) (s : Globals) : Stage :=
  let s := { s with zones.cfgdb := a.cfgdbAdminIp }
  if s.advancedInstall then
    ipFromSubnet s.zones.cfgdb s.admin.ip s.admin.netmask s (fun s => quiet (.done s))
      fun s => quiet (.done s)
  else quiet (.done s)

def nodeServicesStage (a : NodeAnswers) (s : Globals) : Stage :=
  (cfgdbStage a s).bind fun s =>
  quiet (.done { s with system.esdcInstallPassword := a.esdcInstallPassword })

/-- One pass of the main loop on the first node. -/
def pass (dladmAddress : String -> String) (a : Answers) (s : Globals) : Stage :=
  (adminStage a s).bind fun s =>
  (tagsStage a s).bind fun s =>
  (routingStage a s).bind fun s =>
  let s := nicsup dladmAddress a s
  let s := systemStage a s
  (servicesStage a s).bind fun s =>
  quiet (.done (saveChangeMacs (nicsdown s)))

/-- One pass of the main loop on a further node. -/
def nodePass (dladmAddress : String -> String) (a : NodeAnswers) (s : Globals) : Stage :=
  (nodeAdminStage a s).bind fun s =>
  (tagsStage a.toAnswers s).bind fun s =>
  (gatewayStage a.toAnswers s).bind fun s =>
  let s := nicsup dladmAddress a.toAnswers s
  let s := systemStage a.toAnswers s
  (nodeServicesStage a s).bind fun s =>
  quiet (.done (saveChangeMacs (nicsdown s)))

def kindPass (kind : NodeKind) (dladmAddress : String -> String) (a : NodeAnswers)
    (s : Globals) : Stage :=
  match kind with
  | .first => pass dladmAddress a.toAnswers s
  | .further => nodePass dladmAddress a s

def mainLoop (kind : NodeKind) (dladmAddress : String -> String) :
    List NodeAnswers -> Globals -> Stage
  | [], _ => quiet .waiting
  | [a], s => kindPass kind dladmAddress a s
  | a :: rest, s => (kindPass kind dladmAddress a s).bind (mainLoop kind dladmAddress rest)

/-!
## Without the arguments
-/

@[simp] theorem ipToNum_outcome (ip : String) (s : Globals) :
    (ipToNum ip s).outcome = Installer.ipToNum ip s := rfl

@[simp] theorem ipNetmaskToNetwork_outcome (ip netmask : String) (s : Globals) :
    (ipNetmaskToNetwork ip netmask s).outcome =
      Installer.ipNetmaskToNetwork ip netmask s := by
  unfold ipNetmaskToNetwork Installer.ipNetmaskToNetwork
  split
  · rfl
  · simp only [bind_outcome, ipToNum_outcome, quiet_outcome]

@[simp] theorem computeDefGw_outcome (ip netmask : String) (s : Globals)
    (withVal : String -> Globals -> Globals) :
    (computeDefGw ip netmask s withVal).outcome =
      Installer.computeDefGw ip netmask s withVal := by
  simp only [computeDefGw, Installer.computeDefGw, bind_outcome, ipNetmaskToNetwork_outcome,
    quiet_outcome]

theorem ipFromSubnet_outcome {myip net mask : String} {s : Globals}
    {fromSubnet other : Globals -> Stage} {fromSubnet' other' : Globals -> Outcome Globals}
    (hfrom : forall s, (fromSubnet s).outcome = fromSubnet' s)
    (hother : forall s, (other s).outcome = other' s) :
    (ipFromSubnet myip net mask s fromSubnet other).outcome =
      Installer.ipFromSubnet myip net mask s fromSubnet' other' := by
  unfold ipFromSubnet Installer.ipFromSubnet
  simp only [apply_ite Traced.outcome, bind_outcome, ipNetmaskToNetwork_outcome,
    ipToNum_outcome, hfrom, hother]

theorem promptIpFromSubnet_outcome (net mask : String)
    (withVal : String -> Globals -> Globals) (vals : List String) (s : Globals) :
    (promptIpFromSubnet net mask withVal vals s).outcome =
      Installer.promptIpFromSubnet net mask withVal vals s := by
  induction vals generalizing s with
  | nil => rfl
  | cons val rest ih => exact ipFromSubnet_outcome (fun _ => rfl) ih

theorem promptAdminIp_outcome (tries : List AddressTry) (s : Globals) :
    (promptAdminIp tries s).outcome = Installer.promptAdminIp tries s := by
  induction tries generalizing s with
  | nil => rfl
  | cons t rest ih =>
      unfold promptAdminIp Installer.promptAdminIp
      simp only [apply_ite Traced.outcome, bind_outcome, ipNetmaskToNetwork_outcome,
        quiet_outcome, ih]

theorem promptAdminIpOrDhcp_outcome (tries : List AddressTry) (s : Globals) :
    (promptAdminIpOrDhcp tries s).outcome = Installer.promptAdminIpOrDhcp tries s := by
  induction tries generalizing s with
  | nil => rfl
  | cons t rest ih =>
      unfold promptAdminIpOrDhcp Installer.promptAdminIpOrDhcp
      simp only [apply_ite Traced.outcome, bind_outcome, ipNetmaskToNetwork_outcome,
        quiet_outcome, ih]

theorem adminStage_outcome (a : Answers) (s : Globals) :
    (adminStage a s).outcome = Installer.adminStage a s := by
  simp only [adminStage, Installer.adminStage, bind_outcome, promptAdminIp_outcome,
    quiet_outcome]

theorem nodeAdminStage_outcome (a : NodeAnswers) (s : Globals) :
    (nodeAdminStage a s).outcome = Installer.nodeAdminStage a s := by
  simp only [nodeAdminStage, Installer.nodeAdminStage, bind_outcome,
    promptAdminIpOrDhcp_outcome, quiet_outcome]

theorem promptTagIp_outcome (ntag : NicTag) (tries : List AddressTry) (s : Globals) :
    (promptTagIp ntag tries s).outcome = Installer.promptTagIp ntag tries s := by
  induction tries generalizing s with
  | nil => rfl
  | cons t rest ih =>
      unfold promptTagIp Installer.promptTagIp
      simp only [apply_ite Traced.outcome, bind_outcome, ipNetmaskToNetwork_outcome,
        quiet_outcome, ih]

theorem tagStage_outcome (ntag : NicTag) (a : TagAnswers) (s : Globals) :
    (tagStage ntag a s).outcome = Installer.tagStage ntag a s := by
  simp only [tagStage, Installer.tagStage, promptnictagIp, Installer.promptnictagIp,
    apply_ite Traced.outcome, bind_outcome, promptTagIp_outcome, quiet_outcome]

theorem tagsStage_outcome (a : Answers) (s : Globals) :
    (tagsStage a s).outcome = Installer.tagsStage a s := by
  simp only [tagsStage, Installer.tagsStage, nictagList, List.foldl_cons, List.foldl_nil,
    apply_ite Traced.outcome, bind_outcome, tagStage_outcome, quiet_outcome]

theorem opnsenseStage_outcome (a : Answers) (s : Globals) :
    (opnsenseStage a s).outcome = Installer.opnsenseStage a s := by
  simp only [opnsenseStage, Installer.opnsenseStage, opnsenseStaticStage,
    Installer.opnsenseStaticStage, apply_ite Traced.outcome, bind_outcome,
    computeDefGw_outcome, quiet_outcome]

theorem defaultGateway_outcome (s : Globals) :
    (defaultGateway s).outcome = Installer.defaultGateway s := by
  simp only [defaultGateway, Installer.defaultGateway, apply_ite Traced.outcome, bind_outcome,
    computeDefGw_outcome, quiet_outcome]

theorem gatewayStage_outcome (a : Answers) (s : Globals) :
    (gatewayStage a s).outcome = Installer.gatewayStage a s := by
  unfold gatewayStage Installer.gatewayStage
  rw [bind_outcome, defaultGateway_outcome]
  congr 1
  funext s1
  exact ipFromSubnet_outcome (fun _ => rfl) fun _ => promptIpFromSubnet_outcome _ _ _ _ _

theorem routingStage_outcome (a : Answers) (s : Globals) :
    (routingStage a s).outcome = Installer.routingStage a s := by
  simp only [routingStage, Installer.routingStage, apply_ite Traced.outcome,
    opnsenseStage_outcome, gatewayStage_outcome]

theorem servicesStage_outcome (a : Answers) (s : Globals) :
    (servicesStage a s).outcome = Installer.servicesStage a s := by
  simp only [servicesStage, Installer.servicesStage, offerMgmtAdminIp,
    Installer.offerMgmtAdminIp, apply_ite Traced.outcome, bind_outcome,
    ipNetmaskToNetwork_outcome, quiet_outcome]

theorem nodeServicesStage_outcome (a : NodeAnswers) (s : Globals) :
    (nodeServicesStage a s).outcome = Installer.nodeServicesStage a s := by
  have hcfgdb : (cfgdbStage a s).outcome = Installer.cfgdbStage a s := by
    unfold cfgdbStage Installer.cfgdbStage
    dsimp only
    rw [apply_ite Traced.outcome, ipFromSubnet_outcome (fun _ => rfl) fun _ => rfl]
    rfl
  simp only [nodeServicesStage, Installer.nodeServicesStage, bind_outcome, hcfgdb,
    quiet_outcome]

theorem kindPass_outcome (kind : NodeKind) (dladmAddress : String -> String)
    (a : NodeAnswers) (s : Globals) :
    (kindPass kind dladmAddress a s).outcome =
      Installer.kindPass kind dladmAddress a s := by
  cases kind with
  | first =>
      simp only [kindPass, Installer.kindPass, pass, Installer.pass, bind_outcome,
        adminStage_outcome, tagsStage_outcome, routingStage_outcome, servicesStage_outcome,
        quiet_outcome]
  | further =>
      simp only [kindPass, Installer.kindPass, nodePass, Installer.nodePass, bind_outcome,
        nodeAdminStage_outcome, tagsStage_outcome, gatewayStage_outcome,
        nodeServicesStage_outcome, quiet_outcome]

/-- Without the arguments the loop on the first node is the main loop. -/
theorem mainLoop_outcome (dladmAddress : String -> String) (passes : List NodeAnswers)
    (s : Globals) :
    (mainLoop .first dladmAddress passes s).outcome =
      Installer.mainLoop dladmAddress (passes.map NodeAnswers.toAnswers) s := by
  induction passes generalizing s with
  | nil => rfl
  | cons a rest ih =>
      cases rest with
      | nil => exact kindPass_outcome .first dladmAddress a s
      | cons b rest =>
          rw [mainLoop, bind_outcome, kindPass_outcome, funext ih]
          · rfl
          · simp

end Stage

end Installer
end EsdcFactory
