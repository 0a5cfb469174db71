import EsdcFactory.Installer.Netmask
import EsdcFactory.Installer.NodeLoop
import EsdcFactory.Lib.Undo

/-!
# Interfaces during the installation

To check the network the installer brings up the interfaces that were asked for, and
takes them down before a pass ends.  On the way it makes VNICs and etherstubs and changes
the addresses of physical interfaces.
-/

namespace EsdcFactory
namespace Installer

open Undo

/-!
## Links
-/

inductive LinkKind where
  | physical
  | etherstub
  | vnic
deriving DecidableEq

/-- What `dladm` knows about a link. -/
structure LinkState where
  lower : Option String := none
  mac : Option String := none
  vlan : String := ""
deriving DecidableEq

/-- The links of the node. -/
abbrev Net := Store (LinkKind × String) LinkState

/-- `normalize_mac` of the address that `dladm` shows for a physical link -/
def Net.address (net : Net) (link : String) : String :=
  match net (.physical, link) with
  | some state => state.mac.getD "00:00:00:00:00:00"
  | none => "00:00:00:00:00:00"

/-- A link that a VNIC can be made on. -/
def Net.hasLink (net : Net) (link : String) : Bool :=
  (net (.physical, link)).isSome || (net (.etherstub, link)).isSome

/-- No link of any kind has this name. -/
def Net.isFree (net : Net) (name : String) : Bool :=
  [LinkKind.physical, .etherstub, .vnic].all fun kind => (net (kind, name)).isNone

/-!
## Commands
-/

inductive Command where
  | createEtherstub (name : String)
  | deleteEtherstub (name : String)
  | createVnic (link vlan : String) (mac : Option String) (name : String)
  | deleteVnic (name : String)
  /-- `ifconfig link ether mac` -/
  | ether (link mac : String)
  /-- a command that leaves the links alone -/
  | ip (words : List String)
deriving DecidableEq

namespace Command

def op : Command -> Option (Op (LinkKind × String) LinkState)
  | createEtherstub name => some (.create (.etherstub, name) {})
  | deleteEtherstub name => some (.delete (.etherstub, name))
  | createVnic link vlan mac name => some (.create (.vnic, name)
      { lower := some link
        mac := mac
        vlan := vlan })
  | deleteVnic name => some (.delete (.vnic, name))
  | ether link mac => some (.set (.physical, link) { mac := some mac })
  | ip _ => none

/-- `dladm` and `ifconfig` do what they are asked for. -/
def succeeds (net : Net) : Command -> Bool
  | createEtherstub name => net.isFree name
  | deleteEtherstub name => (net (.etherstub, name)).isSome
  | createVnic link _ _ name => net.hasLink link && net.isFree name
  | deleteVnic name => (net (.vnic, name)).isSome
  | ether link _ => (net (.physical, link)).isSome
  | ip _ => true

/-- A command that fails leaves everything as it is. -/
def exec (net : Net) (c : Command) : Net :=
  match c.op with
  | some op => if c.succeeds net then op.apply net else net
  | none => net

end Command

/-- The variables, the links and the commands that were issued, each with the links then. -/
structure Shell where
  vars : Globals
  net : Net
  adminIfaceActive : String := ""
  issued : List (Command × Net) := []

namespace Shell

def issue (x : Shell) (c : Command) : Shell :=
  { x with
    net := c.exec x.net
    issued := x.issued ++ [(c, x.net)] }

def issueAll (x : Shell) (cs : List Command) : Shell :=
  cs.foldl issue x

end Shell

/-!
## Admin network
-/

/-- `[[ admin_vlan_id -ne 0 ]]` -/
def vlanNonzero (vlan : String) : Bool :=
  match BashArith.operand vlan.toList with
  | some id => id ≠ 0
  | none => false

/-- `admin_iface_active` once the interface is up -/
def activeIface (s : Globals) : String :=
  if s.admin.vlanId ≠ "" ∨ s.admin.iface = "etherstub" then "admin0" else s.admin.iface

/-- The commands of `nicsup` for the admin network. -/
def adminUp (s : Globals) : List Command :=
  let link := if s.admin.iface = "etherstub" then s.admin.nic else s.admin.iface
  let vlan := if vlanNonzero s.admin.vlanId then s.admin.vlanId else ""
  let active := activeIface s
  (if s.admin.vlanId ≠ "" ∨ s.admin.iface = "etherstub" then
    [.createVnic link vlan none active] else []) ++
  [.ip ["ifconfig", active, "plumb"]] ++
  (if s.admin.ip = "dhcp" then
    [.ip ["ifconfig", active, "up"], .ip ["ifconfig", active, "dhcp"]]
  else [.ip ["ifconfig", active, "inet", s.admin.ip, "netmask", s.admin.netmask, "up"]])

/-- The commands of `nicsdown` for the admin network. -/
def adminDown (s : Globals) (active : String) : List Command :=
  [.ip ["ifconfig", active, "inet", "down", "unplumb"]] ++
  (if s.admin.vlanId ≠ "" ∧ vlanNonzero s.admin.vlanId ∨ s.admin.iface = "etherstub" then
    [.deleteVnic active] else [])

/-!
## Network tags
-/

/-- The name of the interface for the address of a tag. -/
def NicTag.vnic (ntag : NicTag) : String := ntag.name ++ "0"

/-- The commands of `nicsup` for a network tag. -/
def tagUp (net : Net) (newMac : MacKey -> String) (s : Globals) (ntag : NicTag) :
    List Command :=
  let tag := s.nictags ntag
  let iface := valueOf tag.iface
  let vlan := valueOf tag.vlan
  match tag.ip with
  | none => []
  | some ip =>
      (if valueOf (s.nictagPreserveMac (.tag ntag)) ≠ "" then
        [.ether iface (newMac (.tag ntag)),
          .createVnic iface vlan (some (net.address iface)) ntag.vnic]
      else [.createVnic iface vlan none ntag.vnic]) ++
      [.ip ["ifconfig", ntag.vnic, "plumb"]] ++
      (if ip = "dhcp" then
        [.ip ["ifconfig", ntag.vnic, "up"], .ip ["ifconfig", ntag.vnic, "dhcp"]]
      else
        [.ip ["ifconfig", ntag.vnic, "inet", ip, "netmask", valueOf tag.netmask, "up"]])

/-- The commands of `nicsdown` for a network tag. -/
def tagDown (s : Globals) (ntag : NicTag) : List Command :=
  let tag := s.nictags ntag
  let pair := valueOf (s.nictagPreserveMac (.tag ntag))
  match tag.ip with
  | none => []
  | some _ =>
      [.ip ["ifconfig", ntag.vnic, "inet", "down", "unplumb"], .deleteVnic ntag.vnic] ++
      (if pair ≠ "" then [.ether (valueOf tag.iface) (pairFirst pair)] else [])

/-!
## Router
-/

/-- The MAC address of the interface that stands in for the router. -/
def routerMac (s : Globals) : Option String :=
  if s.opnsense.externalMacType = "manual" ∨ s.opnsense.externalMacType = "node" then
    some s.opnsense.externalMac
  else none

/-- The commands of `nicsup_opnsense`. -/
def routerUp (newMac : MacKey -> String) (s : Globals) : List Command :=
  let iface := valueOf (s.nictags .external).iface
  (if s.opnsense.externalMacType = "node" then [.ether iface (newMac .opnsense)] else []) ++
  [.createVnic iface s.opnsense.externalVlan (routerMac s) "opnsense0",
    .ip ["ipadm", "create-if", "opnsense0"]] ++
  (if s.opnsense.externalIp = "dhcp" then
    [.ip ["ipadm", "create-addr", "-t", "-T", "dhcp", "opnsense0/v4"]]
  else
    [.ip ["ipadm", "create-addr", "-t", "-T", "static", "-a",
        s.opnsense.externalIp ++ "/" ++ toString (mask2cdr s.opnsense.externalNetmask),
        "opnsense0/v4"],
      .ip ["route", "add", "default", s.opnsense.externalGw]])

/-- The commands of `nicsdown_opnsense`. -/
def routerDown (s : Globals) : List Command :=
  [.ip ["ipadm", "delete-if", "opnsense0"], .deleteVnic "opnsense0"] ++
  (if s.opnsense.externalMacType = "node" then
    [.ether (valueOf (s.nictags .external).iface) s.opnsense.externalMac] else [])

/-!
## Bringing up and taking down
-/

/-- The default route, unless a router has set its own. -/
def routeUp (s : Globals) : List Command :=
  if s.headnodeDefaultGateway ≠ "" ∧ s.headnodeDefaultGateway ≠ "none" ∧
      s.nicsupOpnsenseDone = false then
    [.ip ["route", "add", "default", s.headnodeDefaultGateway]]
  else []

namespace Shell

/-- `nicsup` for one network tag -/
def nicsupTag (a : Answers) (x : Shell) (ntag : NicTag) : Shell :=
  { x.issueAll (tagUp x.net a.newMac x.vars ntag) with
    vars := Installer.nicsupTag x.net.address a x.vars ntag }

/-- `nicsup` -/
def nicsup (a : Answers) (x : Shell) : Shell :=
  if x.vars.nicsupDone then x
  else
    let x := x.issueAll (x.vars.etherstubs.map .createEtherstub)
    let x := { x.issueAll (adminUp x.vars) with adminIfaceActive := activeIface x.vars }
    let x := nictagList.foldl (nicsupTag a) x
    let x := x.issueAll (routeUp x.vars)
    { x with vars.nicsupDone := true }

/-- `nicsdown` -/
def nicsdown (x : Shell) : Shell :=
  if x.vars.nicsupDone then
    let x := x.issueAll (adminDown x.vars x.adminIfaceActive ++
      nictagList.flatMap (tagDown x.vars) ++ x.vars.etherstubs.map .deleteEtherstub)
    { x with vars.nicsupDone := false }
  else x

/-- `nicsup_opnsense` -/
def nicsupOpnsense (a : Answers) (x : Shell) : Shell :=
  if x.vars.nicsupOpnsenseDone then x
  else
    { x.issueAll (routerUp a.newMac x.vars) with
      vars := Installer.nicsupOpnsense a x.vars }

/-- `nicsdown_opnsense` -/
def nicsdownOpnsense (x : Shell) : Shell :=
  if x.vars.nicsupOpnsenseDone then
    { x.issueAll (routerDown x.vars) with vars.nicsupOpnsenseDone := false }
  else x

end Shell

end Installer
end EsdcFactory
