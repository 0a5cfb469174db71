import EsdcFactory.Installer.Address

/-!
# The config writer of the installer

What `prompt-config.sh` does after its main loop: it calculates the addresses of
the service zones and writes the variables to `/usbkey/config`.  Commands that an
error breaks off here are single ones, and the script goes on with the next.
-/

namespace EsdcFactory
namespace Installer

open BashArith Text

/-!
## Addresses of the service zones
-/

/-- The state after a command, whether or not an error broke it off. -/
def afterCommand (s : Globals) (x : Outcome Globals) : Globals :=
  x.left.getD s

/-- Calculate the admin network address of every core zone. -/
def coreZones (s : Globals) : Globals :=
  let s := afterCommand s (ipNetmaskToNetwork s.zones.mgmt s.admin.netmask s)
  let nextAddr := s.numbers.ipNum + 1
  let s := numToIp nextAddr s
  let s := { s with zones.mon := s.ipAddr }
  let nextAddr := nextAddr + 1
  let s := numToIp nextAddr s
  let s := { s with zones.dns := s.ipAddr }
  let nextAddr := nextAddr + 1
  let s := numToIp nextAddr s
  let s := { s with zones.img := s.ipAddr }
  let nextAddr := nextAddr + 1
  let s := numToIp nextAddr s
  { s with zones.cfgdb := s.ipAddr }

/-!
## Pairs of MAC addresses
-/

/-- `${mac_pair%,*}` and `cut -d, -f1` of a pair -/
def pairFirst (pair : String) : String :=
  String.ofList (before ',' pair.toList)

/-- `${mac_pair#*,}` and `cut -d, -f2` of a pair, a word without a comma as a whole -/
def pairSecond (pair : String) : String :=
  if ',' ∈ pair.toList then String.ofList (after ',' pair.toList) else pair

/-- The values of `nictag_preserve_mac`. -/
def Globals.preserved (s : Globals) : List String :=
  macKeys.filterMap s.nictagPreserveMac

/-- Save the MAC address dictionary when changing MACs. -/
def saveChangeMacs (s : Globals) : Globals :=
  let save := fun macs pair =>
    Function.update macs (pairFirst pair) (some (pairSecond pair))
  { s with changeMacs := s.preserved.foldl save fun _ => none }

/--
Swap the addresses for all network tags that point to the node's external
interface, when the router has taken over its address.
-/
def swapOpnsense (s : Globals) : Globals :=
  let pair := valueOf (s.nictagPreserveMac .opnsense)
  if pair ≠ "" then
    let origMac := pairFirst pair
    let virtMac := pairSecond pair
    { s with
      nictags := fun ntag =>
        let tag := s.nictags ntag
        if tag.ip.isSome ∧ valueOf tag.mac = origMac then
          { tag with mac := some virtMac }
        else tag
      admin.nic := if s.admin.nic = origMac then virtMac else s.admin.nic }
  else s

/-!
## The config file
-/

/-- A line of the config file; values are written bare or in single quotes. -/
inductive ConfigLine where
  | comment (text : String)
  | blank
  | bare (key value : String)
  | quoted (key value : String)
deriving DecidableEq

/-- What the writer asks the system for. -/
structure System where
  isVMware : Bool
  hashOpnsensePasswd : String -> String

/-- Lines that are written under a condition. -/
def linesIf (p : Prop) [Decidable p] (lines : List ConfigLine) : List ConfigLine :=
  if p then lines else []

/-- `${change_macs[mac]:-default}` -/
def Globals.changedMac (s : Globals) (mac default : String) : String :=
  if valueOf (s.changeMacs mac) = "" then default else valueOf (s.changeMacs mac)

/-- The lines about one network tag. -/
def nictagLines (s : Globals) (ntag : NicTag) : List ConfigLine :=
  let tag := s.nictags ntag
  match tag.mac with
  | none => []
  | some physNicMacAddr =>
      (if valueOf (s.nictagPreserveMac (.tag ntag)) ≠ "" then
        [.bare (ntag.name ++ "_nic") (valueOf (s.changeMacs physNicMacAddr)),
          .bare (ntag.name ++ "0_mac") physNicMacAddr]
      else
        [.bare (ntag.name ++ "_nic") (s.changedMac physNicMacAddr physNicMacAddr)]) ++
      linesIf (valueOf tag.ip ≠ "")
        ([.bare (ntag.name ++ "0_vlan_id") (valueOf tag.vlan),
          .bare (ntag.name ++ "0_ip") (valueOf tag.ip)] ++
        linesIf (valueOf tag.ip ≠ "dhcp")
          [.bare (ntag.name ++ "0_netmask") (valueOf tag.netmask)])

def adminNetworkLines (s : Globals) : List ConfigLine :=
  match ipNetmaskToNetwork s.admin.ip s.admin.netmask s with
  | .done s => [.bare "admin_network" (printedIp s.numbers.netNum), .blank]
  | _ => []

/-- The lines about the router. -/
def opnsenseLines (sys : System) (s : Globals) : List ConfigLine :=
  if s.opnsense.adminIp ≠ "" then
    [.quoted "opnsense_deploy" "true",
      .quoted "opnsense_external_ip" s.opnsense.externalIp,
      .quoted "opnsense_external_netmask" s.opnsense.externalNetmask,
      .quoted "opnsense_external_gw" s.opnsense.externalGw] ++
    linesIf (s.opnsense.externalVlan ≠ "")
      [.quoted "opnsense_external_vlan" s.opnsense.externalVlan] ++
    linesIf (isMac s.opnsense.externalMac)
      [.bare "opnsense_external_mac" s.opnsense.externalMac] ++
    [.quoted "opnsense_root_shadow" (sys.hashOpnsensePasswd s.system.rootShadow), .blank]
  else [.quoted "opnsense_deploy" "false", .blank]

/-- The lines before those about the network tags. -/
def nodeLines (s : Globals) : List ConfigLine :=
  [.blank, .bare "admin_nic" s.admin.nic, .bare "admin_vlan_id" s.admin.vlanId,
    .bare "admin_ip" s.admin.ip] ++
  linesIf (s.admin.ip ≠ "dhcp")
    (.bare "admin_netmask" s.admin.netmask :: adminNetworkLines s) ++
  linesIf (s.headnodeDefaultGateway ≠ "none")
    [.bare "admin_gateway" s.adminGateway,
      .bare "headnode_default_gateway" s.headnodeDefaultGateway, .blank] ++
  [.bare "dns_resolvers" (s.system.dnsResolver1 ++ "," ++ s.system.dnsResolver2),
    .bare "dns_domain" s.system.dnsDomain,
    .quoted "dns_options" "timeout:2 attempts:2", .blank,
    .bare "ntp_hosts" s.system.ntpHosts, .bare "compute_node_ntp_hosts" s.admin.ip, .blank,
    .bare "hostname" s.system.hostname, .blank]

/-- The lines about the management services. -/
def serviceLines (s : Globals) : List ConfigLine :=
  [.blank, .comment " Danube Cloud settings",
    .quoted "datacenter_name" s.system.datacenterName,
    .quoted "admin_email" s.system.adminEmail,
    .bare "mgmt_admin_ip" s.zones.mgmt, .bare "mon_admin_ip" s.zones.mon,
    .bare "dns_admin_ip" s.zones.dns, .bare "img_admin_ip" s.zones.img,
    .bare "cfgdb_admin_ip" s.zones.cfgdb,
    .quoted "esdc_install_password" s.system.esdcInstallPassword, .blank]

/-- The lines before the addresses are swapped. -/
def headLines (sys : System) (s : Globals) : List ConfigLine :=
  [.comment "",
    .comment " This file was auto-generated and must be source-able by bash.",
    .comment "", .blank] ++
  linesIf sys.isVMware [.bare "coal" "true"] ++
  linesIf (s.etherstubs ≠ [])
    [.bare "etherstub" (",".intercalate s.etherstubs)] ++
  linesIf (s.preserved ≠ []) [.bare "change_mac" (";".intercalate s.preserved)]

/-- The last lines of the config file. -/
def tailLines (s : Globals) : List ConfigLine :=
  [.bare "install_to_hdd" (if s.system.installToHdd then "1" else "0"), .blank,
    .bare "smt_enabled" "true", .blank]

/-- The whole config file, written after the main loop has left the state `s`. -/
def configFile (sys : System) (s : Globals) : List ConfigLine :=
  let s := coreZones s
  let swapped := swapOpnsense s
  headLines sys s ++ nodeLines swapped ++
    nictagList.flatMap (nictagLines swapped) ++ serviceLines swapped ++
    opnsenseLines sys swapped ++ tailLines swapped

/-- Read one line of the config, given what the lines before it say about a key. -/
def readLine (key : String) (found : Option String) : ConfigLine -> Option String
  | .bare k value => if k = key then some value else found
  | .quoted k value => if k = key then some value else found
  | .comment _ => found
  | .blank => found

/-- `CONFIG_key` after the config was loaded: the last line with the key counts. -/
def configValue (lines : List ConfigLine) (key : String) : Option String :=
  lines.foldl (readLine key) none

end Installer
end EsdcFactory
