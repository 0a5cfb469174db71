import EsdcFactory.Installer.ConfigWriter

/-!
# The main loop of the installer

One pass of the main loop of `prompt-config.sh` on the first node asks all
questions, brings the interfaces up and down again, and ends with a question
whether everything is right.  The loop is left when the answer is yes, or when an
error in an arithmetic expansion breaks off the loop as a whole.
-/

namespace EsdcFactory
namespace Installer

open BashArith Function

/-!
## Admin network
-/

/-- The rounds of questions about the admin address, which must not be dynamic. -/
def promptAdminIp : List AddressTry -> Globals -> Outcome Globals
  | [], _ => .waiting
  | t :: rest, s =>
      if t.ip = "dhcp" then promptAdminIp rest { s with admin.ip := "" }
      else
        let s := { s with
          admin.ip := t.ip
          admin.netmask := t.netmask }
        (ipNetmaskToNetwork t.ip t.netmask s).bind fun s =>
        if s.numbers.ipNum ≠ s.numbers.bcastAddr then .done s
        else promptAdminIp rest s

/-- `init_etherstubs` and the stub that `promptnic` adds -/
def addEtherstub (choice : NicChoice) (etherstubs : List String) : List String :=
  match choice with
  | .physical _ => etherstubs
  | .etherstub name _ => if name ∈ etherstubs then etherstubs else etherstubs ++ [name]

/-- The questions about the admin network. -/
def adminStage (a : Answers) (s : Globals) : Outcome Globals :=
  let s := { s with
    system.datacenterName := a.datacenterName
    etherstubs := addEtherstub a.adminNic a.etherstubs
    admin.nic := a.adminNic.val
    admin.iface := a.adminNic.nicVal }
  (promptAdminIp a.adminTries s).bind fun s =>
  .done { s with admin.vlanId := if s.advancedInstall then a.adminVlanId else "" }

/-!
## Network tags
-/

/-- Set the variables of one network tag. -/
def setTag (ntag : NicTag) (tag : TagVars) (s : Globals) : Globals :=
  { s with nictags := update s.nictags ntag tag }

/-- The rounds of questions about the address of a network tag. -/
def promptTagIp (ntag : NicTag) : List AddressTry -> Globals -> Outcome Globals
  | [], _ => .waiting
  | t :: rest, s =>
      let tag := { s.nictags ntag with ip := some t.ip }
      if t.ip = "dhcp" then
        -- DHCP will provide netmask
        .done (setTag ntag { tag with
          netmask := some "N/A"
          vlan := some t.vlan } s)
      else
        let tag := { tag with netmask := some t.netmask }
        (ipNetmaskToNetwork t.ip t.netmask (setTag ntag tag s)).bind fun s =>
        let valid := s.numbers.ipNum ≠ s.numbers.bcastAddr
        let s := setTag ntag { tag with vlan := some t.vlan } s
        if valid then .done s else promptTagIp ntag rest s

/-- Clear the address of a network tag. -/
def clearTagIp (ntag : NicTag) (s : Globals) : Globals :=
  setTag ntag { s.nictags ntag with
    ip := none
    netmask := none
    vlan := none } s

/-- `promptnictag_ip` -/
def promptnictagIp (ntag : NicTag) (a : TagAnswers) (s : Globals) :
    Outcome Globals :=
  if a.addIp then promptTagIp ntag a.tries s
  else .done (clearTagIp ntag s)

/-- `prompt_preserve_mac` -/
def promptPreserveMac (ntag : NicTag) (a : TagAnswers) (s : Globals) : Globals :=
  let mark := if a.preserveMac then some "1" else none
  { s with nictagPreserveMac := update s.nictagPreserveMac (.tag ntag) mark }

/-- Put a network tag on an interface. -/
def setTagNic (ntag : NicTag) (choice : NicChoice) (s : Globals) : Globals :=
  setTag ntag { s.nictags ntag with
    mac := some choice.val
    iface := some choice.nicVal }
    { s with etherstubs := addEtherstub choice s.etherstubs }

def clearTag (ntag : NicTag) (s : Globals) : Globals :=
  setTag ntag {} { s with
    nictagPreserveMac := update s.nictagPreserveMac (.tag ntag) none }

/-- The questions about one network tag. -/
def tagStage (ntag : NicTag) (a : TagAnswers) (s : Globals) : Outcome Globals :=
  if a.addNictag then
    let s := setTagNic ntag a.nic s
    if s.advancedInstall then
      (promptnictagIp ntag a s).bind fun s =>
      -- only the external tag may keep the address of its interface
      .done (if ntag = .external then promptPreserveMac ntag a s else s)
    else .done s
  else .done (clearTag ntag s)

/-- The questions about all network tags, unless the tags are left as they are. -/
def tagsStage (a : Answers) (s : Globals) : Outcome Globals :=
  if a.addNictags then
    nictagList.foldl (fun x ntag => x.bind (tagStage ntag (a.tag ntag))) (.done s)
  else .done s

/-!
## Router
-/

/-- The rounds of questions about the router's address on the admin network. -/
def promptOpnsenseAdminIp : List String -> Globals -> Outcome Globals
  | [], _ => .waiting
  | val :: rest, s =>
      if val = "dhcp" ∨ val = "none" then promptOpnsenseAdminIp rest s
      else .done { s with
        opnsense.adminIp := val
        adminGateway := val }

/-- The rounds of questions about the router's address on the external network. -/
def promptOpnsenseExternalIp : List String -> Globals -> Outcome Globals
  | [], _ => .waiting
  | val :: rest, s =>
      if val = s.externalIp ∧ val ≠ "dhcp" then
        promptOpnsenseExternalIp rest s
      else .done { s with opnsense.externalIp := val }

/-- Netmask and VLAN of a router with a static external address. -/
def opnsenseNetmaskStage (a : Answers) (s : Globals) : Globals :=
  let s := { s with opnsense.externalNetmask := a.opnsenseExternalNetmask }
  if s.advancedInstall then
    let vlan := valueOf (s.nictags .external).vlan
    { s with opnsense.externalVlan :=
        if vlan = "" then a.opnsenseExternalVlan else vlan }
  else s

/-- Netmask, VLAN and gateway of a router with a static external address. -/
def opnsenseStaticStage (a : Answers) (s : Globals) : Outcome Globals :=
  if s.opnsense.externalIp ≠ "dhcp" then
    let s := opnsenseNetmaskStage a s
    (if s.opnsense.externalGw = "" then
      -- compute proposal
      computeDefGw s.opnsense.externalIp s.opnsense.externalNetmask s
        fun val s => { s with opnsense.externalGw := val }
    else .done s).bind fun s =>
    .done { s with opnsense.externalGw := a.opnsenseExternalGw }
  else .done s

/-- The MAC address of the router's external interface. -/
def opnsenseMacStage (a : Answers) (s : Globals) : Globals :=
  if s.advancedInstall then
    let macType :=
      if isMac a.opnsenseExternalMac then "manual" else a.opnsenseExternalMac
    if macType = "node" then
      { s with
        opnsense.externalMacType := macType
        opnsense.externalMac := valueOf (s.nictags .external).mac
        -- mutually exclusive with preserving the address on the node's interface
        nictagPreserveMac := update s.nictagPreserveMac (.tag .external) none }
    else
      { s with
        opnsense.externalMacType := macType
        opnsense.externalMac := a.opnsenseExternalMac }
  else
    { s with
      opnsense.externalMacType := "auto"
      opnsense.externalMac := "auto" }

/-- Where the node's default gateway is, given a router. -/
def opnsenseGatewayStage (a : Answers) (s : Globals) : Globals :=
  if s.externalIp ≠ "" then
    let s := { s with headnodeDefaultNetwork := a.headnodeDefaultNetwork }
    if s.headnodeDefaultNetwork = "admin" then
      { s with headnodeDefaultGateway := s.adminGateway }
    else if s.headnodeDefaultNetwork = "external" ∧
        s.externalIp = "dhcp" then
      -- node's def gw will be set by dhcp
      { s with headnodeDefaultGateway := "none" }
    else if s.headnodeDefaultNetwork = "external" ∧
        s.opnsense.externalIp = "dhcp" then
      -- will be set when dhcp comes up
      { s with headnodeDefaultGateway := "opnsense" }
    else { s with headnodeDefaultGateway := s.opnsense.externalGw }
  else
    { s with
      headnodeDefaultGateway := s.adminGateway
      headnodeDefaultNetwork := "admin" }

/-- `nicsup_opnsense` -/
def nicsupOpnsense (a : Answers) (s : Globals) : Globals :=
  if s.nicsupOpnsenseDone then s
  else
    let s :=
      if s.opnsense.externalMacType = "node" then
        -- we have to swap the MAC addresses
        let pair := s.opnsense.externalMac ++ "," ++ a.newMac .opnsense
        { s with
          nictagPreserveMac := update s.nictagPreserveMac .opnsense (some pair) }
      else s
    let s :=
      if s.opnsense.externalIp = "dhcp" then
        { s with
          opnsense.externalIp := a.lease.ip
          opnsense.externalNetmask := a.lease.netmask
          opnsense.externalGw := a.lease.gateway
          headnodeDefaultGateway :=
            if a.lease.gateway ≠ "" ∧ s.headnodeDefaultGateway = "opnsense" then
              a.lease.gateway
            else s.headnodeDefaultGateway }
      else s
    { s with nicsupOpnsenseDone := true }

/-- The questions about a router that is deployed. -/
def opnsenseStage (a : Answers) (s : Globals) : Outcome Globals :=
  (if s.opnsense.adminIp = "" then
    -- set default value
    computeDefGw s.admin.ip s.admin.netmask s
      fun val s => { s with opnsense.adminIp := val }
  else .done s).bind fun s =>
  (promptOpnsenseAdminIp a.opnsenseAdminIps s).bind fun s =>
  (promptOpnsenseExternalIp a.opnsenseExternalIps s).bind fun s =>
  (opnsenseStaticStage a s).bind fun s =>
  .done (nicsupOpnsense a (opnsenseGatewayStage a (opnsenseMacStage a s)))

/-!
## Default gateway
-/

/-- The default gateway that is offered without a router. -/
def defaultGateway (s : Globals) : Outcome Globals :=
  (if s.headnodeDefaultGateway = "" ∧ s.externalIp ≠ "" then
    computeDefGw s.externalIp (valueOf (s.nictags .external).netmask) s
      fun val s => { s with headnodeDefaultGateway := val }
  else .done s).bind fun s =>
  (if s.headnodeDefaultGateway = "" ∧ s.admin.ip ≠ "dhcp" then
    computeDefGw s.admin.ip s.admin.netmask s
      fun val s => { s with headnodeDefaultGateway := val }
  else .done s).bind fun s =>
  .done (if s.headnodeDefaultGateway = "" then
    { s with headnodeDefaultGateway := "none" }
  else s)

/-- The questions about the gateways without a router. -/
def gatewayStage (a : Answers) (s : Globals) : Outcome Globals :=
  (defaultGateway s).bind fun s =>
  let s := { s with headnodeDefaultGateway := a.headnodeDefaultGateway }
  ipFromSubnet s.headnodeDefaultGateway s.admin.ip s.admin.netmask s
    (fun s => .done { s with adminGateway := s.headnodeDefaultGateway })
    (fun s => promptIpFromSubnet s.admin.ip s.admin.netmask
      (fun val s => { s with adminGateway := val }) a.adminGateways
      { s with adminGateway :=
          if s.adminGateway = "" then printedIp (s.numbers.netNum + 1)
          else s.adminGateway })

/-- The router stage where a router is wanted and possible, the gateway stage else. -/
def routingStage (a : Answers) (s : Globals) : Outcome Globals :=
  let s := { s with
    deployOpnsense :=
      s.externalIface ≠ "" && a.deployOpnsense }
  if s.deployOpnsense then opnsenseStage a s else gatewayStage a s

/-!
## Interfaces
-/

/--
Bring up the interface of one network tag: an interface whose address the tag
preserves gets a new one itself.
-/
def nicsupTag (dladmAddress : String -> String) (a : Answers) (s : Globals)
    (ntag : NicTag) : Globals :=
  if (s.nictags ntag).ip.isSome ∧
      valueOf (s.nictagPreserveMac (.tag ntag)) ≠ "" then
    let newMacAddr := a.newMac (.tag ntag)
    let macAddr := dladmAddress (valueOf (s.nictags ntag).iface)
    let pair := macAddr ++ "," ++ newMacAddr
    { s with
      nictagPreserveMac := update s.nictagPreserveMac (.tag ntag) (some pair)
      admin.nic := if macAddr = s.admin.nic then newMacAddr else s.admin.nic }
  else s

/-- `nicsup` -/
def nicsup (dladmAddress : String -> String) (a : Answers) (s : Globals) : Globals :=
  if s.nicsupDone then s
  else
    { nictagList.foldl (nicsupTag dladmAddress a) s with nicsupDone := true }

/-- `nicsdown` and `nicsdown_opnsense` -/
def nicsdown (s : Globals) : Globals :=
  { s with
    nicsupDone := false
    nicsupOpnsenseDone := false }

/-!
## System and services
-/

/-- The answers that are stored as they are. -/
def systemStage (a : Answers) (s : Globals) : Globals :=
  let s :=
    if s.advancedInstall then
      { s with
        system.dnsResolver1 := a.dnsResolver1
        system.dnsResolver2 := a.dnsResolver2
        system.dnsDomain := a.dnsSearch
        system.ntpHosts := a.ntpHost }
    else s
  { s with
    system.installToHdd := a.installToHdd
    system.rootShadow := a.rootPassword
    system.hostname := a.hostname }

/-- The portal address that is offered. -/
def offerMgmtAdminIp (s : Globals) : Outcome Globals :=
  if s.zones.mgmt = "" ∧ s.admin.ip ≠ "dhcp" then
    (ipNetmaskToNetwork s.admin.ip s.admin.netmask s).bind fun s =>
    let s := numToIp (s.numbers.ipNum + 1) s
    .done { s with zones.mgmt := s.ipAddr }
  else if s.admin.ip = "dhcp" then .done { s with zones.mgmt := "no default" }
  else .done s

/-- The questions about the management services. -/
def servicesStage (a : Answers) (s : Globals) : Outcome Globals :=
  (offerMgmtAdminIp s).bind fun s =>
  .done { s with
    zones.mgmt := a.mgmtAdminIp
    system.esdcInstallPassword := a.esdcInstallPassword
    system.adminEmail := a.adminEmail }

/-!
## Passes
-/

/--
One pass up to the question whether everything is right.  The address that
`dladm` shows for a link is the one it was made with: what a pass changes, the
end of the pass restores.
-/
def pass (dladmAddress : String -> String) (a : Answers) (s : Globals) :
    Outcome Globals :=
  (adminStage a s).bind fun s =>
  (tagsStage a s).bind fun s =>
  (routingStage a s).bind fun s =>
  let s := nicsup dladmAddress a s
  let s := systemStage a s
  (servicesStage a s).bind fun s =>
  .done (saveChangeMacs (nicsdown s))

/--
The main loop: all passes but the last are rejected at their end.  An error that
breaks off a pass breaks off the loop.
-/
def mainLoop (dladmAddress : String -> String) :
    List Answers -> Globals -> Outcome Globals
  | [], _ => .waiting
  | [a], s => pass dladmAddress a s
  | a :: rest, s => (pass dladmAddress a s).bind (mainLoop dladmAddress rest)

end Installer
end EsdcFactory
