import EsdcFactory.Installer.Prompts
import Mathlib.Logic.Function.Basic

/-!
# Variables and answers of the installer

The global variables that `prompt-config.sh` keeps over the passes of its main
loop, and the answers that one pass receives.
-/

namespace EsdcFactory
namespace Installer

open BashArith

/-!
## Network tags and interfaces
-/

/-- The additional network tags. -/
inductive NicTag where
  | external
  | internal
  | storage
deriving DecidableEq

/-- `nictag_list` -/
def nictagList : List NicTag := [.external, .internal, .storage]

def NicTag.name : NicTag -> String
  | .external => "external"
  | .internal => "internal"
  | .storage => "storage"

/-- The keys of `nictag_preserve_mac`. -/
inductive MacKey where
  | tag (ntag : NicTag)
  | opnsense
deriving DecidableEq

/-- The order in which the keys are visited. -/
def macKeys : List MacKey := nictagList.map .tag ++ [.opnsense]

/-- A physical interface of the node with the address it was made with. -/
structure Nic where
  link : String
  mac : String
  link_ne : link ≠ ""
  mac_isMac : isMac mac = true

/-- The choice of `promptnic`. -/
inductive NicChoice where
  | physical (nic : Nic)
  | etherstub (name : String) (valid : validStubName name = true)

/-- `val` after `promptnic` -/
def NicChoice.val : NicChoice -> String
  | physical nic => nic.mac
  | etherstub name _ => name

/-- `nic_val` after `promptnic` -/
def NicChoice.nicVal : NicChoice -> String
  | physical nic => nic.link
  | etherstub _ _ => "etherstub"

theorem NicChoice.nicVal_ne (choice : NicChoice) : choice.nicVal ≠ "" := by
  cases choice with
  | physical nic => exact nic.link_ne
  | etherstub name _ =>
      show "etherstub" ≠ ""
      decide

/-!
## Globals

Entries of an associative array that are not set are `none`; a scalar that is
not set expands like an empty one.
-/

/-- The numbers that the address functions leave behind. -/
structure Numbers where
  num : Word := 0
  ipNum : Word := 0
  nmNum : Word := 0
  netNum : Word := 0
  bcastAddr : Word := 0
  /-- an error inside `ip_to_num` leaves `IFS` set to a dot -/
  ifsDot : Bool := false

/-- The variables `admin_*` about the node itself. -/
structure AdminVars where
  nic : String := ""
  iface : String := ""
  ip : String := ""
  netmask : String := ""
  vlanId : String := ""

/-- The entries for one tag in the arrays `nictag_macs`, `nictag_ifaces`, and so on. -/
structure TagVars where
  mac : Option String := none
  iface : Option String := none
  ip : Option String := none
  netmask : Option String := none
  vlan : Option String := none

/-- The variables `opnsense_*`. -/
structure OpnsenseVars where
  adminIp : String := ""
  externalIp : String := ""
  externalNetmask : String := ""
  externalVlan : String := ""
  externalGw : String := ""
  externalMac : String := ""
  externalMacType : String := ""

/-- Answers that are kept to be written to the config. -/
structure SystemVars where
  datacenterName : String := ""
  adminEmail : String := ""
  esdcInstallPassword : String := ""
  rootShadow : String := ""
  hostname : String := ""
  dnsResolver1 : String := "8.8.8.8"
  dnsResolver2 : String := "8.8.4.4"
  dnsDomain : String := "local"
  ntpHosts : String := "0.smartos.pool.ntp.org"
  installToHdd : Bool := false

/-- The admin addresses of the service zones. -/
structure ZoneVars where
  mgmt : String := ""
  mon : String := ""
  dns : String := ""
  img : String := ""
  cfgdb : String := ""

/-- The global variables. -/
structure Globals where
  advancedInstall : Bool
  system : SystemVars := {}
  etherstubs : List String := []
  admin : AdminVars := {}
  adminGateway : String := ""
  headnodeDefaultGateway : String := ""
  headnodeDefaultNetwork : String := ""
  nictags : NicTag -> TagVars := fun _ => {}
  nictagPreserveMac : MacKey -> Option String := fun _ => none
  changeMacs : String -> Option String := fun _ => none
  deployOpnsense : Bool := false
  opnsense : OpnsenseVars := {}
  nicsupDone : Bool := false
  nicsupOpnsenseDone : Bool := false
  zones : ZoneVars := {}
  numbers : Numbers := {}
  ipAddr : String := ""

/-- `${array[key]}` where the key may be missing -/
def valueOf (x : Option String) : String := x.getD ""

/-- `${nictag_ifaces[external]}` -/
def Globals.externalIface (s : Globals) : String :=
  valueOf (s.nictags .external).iface

/-- `${nictag_ips[external]}` -/
def Globals.externalIp (s : Globals) : String :=
  valueOf (s.nictags .external).ip

/-- The variables before the first pass. -/
def Globals.initial (advanced : Bool) : Globals where
  advancedInstall := advanced

/-!
## Answers
-/

/-- One round of answers to the questions about an address. -/
structure AddressTry where
  ip : String
  netmask : String
  vlan : String

/-- The answers about one network tag. -/
structure TagAnswers where
  addNictag : Bool
  nic : NicChoice
  addIp : Bool
  tries : List AddressTry
  preserveMac : Bool

/-- What the interface of the router gets by DHCP. -/
structure Lease where
  ip : String
  netmask : String
  gateway : String

/--
The values that the prompts of one pass return, the rounds of those that are
repeated, and what the system answers during the pass.
-/
structure Answers where
  datacenterName : String
  etherstubs : List String
  adminNic : NicChoice
  adminTries : List AddressTry
  adminVlanId : String
  addNictags : Bool
  tag : NicTag -> TagAnswers
  deployOpnsense : Bool
  opnsenseAdminIps : List String
  opnsenseExternalIps : List String
  opnsenseExternalNetmask : String
  opnsenseExternalVlan : String
  opnsenseExternalGw : String
  opnsenseExternalMac : String
  headnodeDefaultNetwork : String
  headnodeDefaultGateway : String
  adminGateways : List String
  dnsResolver1 : String
  dnsResolver2 : String
  dnsSearch : String
  ntpHost : String
  installToHdd : Bool
  rootPassword : String
  hostname : String
  mgmtAdminIp : String
  esdcInstallPassword : String
  adminEmail : String
  /-- the addresses that `generate_mac` makes up -/
  newMac : MacKey -> String
  lease : Lease

/-- The values of one pass are values that their prompts accept. -/
structure Answers.Accepted (a : Answers) : Prop where
  adminTries : forall t, t ∈ a.adminTries ->
    isNetValue t.ip = true ∧ isNetValue t.netmask = true
  tagTries : forall ntag t, t ∈ (a.tag ntag).tries ->
    isNetValue t.ip = true ∧ isNetValue t.netmask = true
  opnsenseAdminIps : forall ip, ip ∈ a.opnsenseAdminIps -> isNetValue ip = true
  opnsenseExternalIps :
    forall ip, ip ∈ a.opnsenseExternalIps -> isNetValue ip = true
  opnsenseExternalNetmask : isNetValue a.opnsenseExternalNetmask = true
  opnsenseExternalGw : isNetValue a.opnsenseExternalGw = true
  headnodeDefaultGateway : isNetValue a.headnodeDefaultGateway = true
  adminGateways : forall ip, ip ∈ a.adminGateways -> isNetValue ip = true
  mgmtAdminIp : isNetValue a.mgmtAdminIp = true
  esdcInstallPassword : a.esdcInstallPassword ≠ ""
  newMac : forall key, isMac (a.newMac key) = true

end Installer
end EsdcFactory
