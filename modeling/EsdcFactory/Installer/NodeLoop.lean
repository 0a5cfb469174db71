import EsdcFactory.Installer.UsableAddresses

/-!
# The main loop on a further node

A node that is not the first may get its admin address by DHCP, deploys no router and
asks for the address of the configuration database.  The other stages are those of the
first node.
-/

namespace EsdcFactory
namespace Installer

/-- The answers of one pass on a further node. -/
structure NodeAnswers extends Answers where
  cfgdbAdminIp : String

/-- The questions about the admin network on a further node. -/
def nodeAdminStage (a : NodeAnswers) (s : Globals) : Outcome Globals :=
  let s := { s with
    etherstubs := addEtherstub a.adminNic a.etherstubs
    admin.nic := a.adminNic.val
    admin.iface := a.adminNic.nicVal }
  (promptAdminIpOrDhcp a.adminTries s).bind fun s =>
  .done { s with admin.vlanId := if s.advancedInstall then a.adminVlanId else "" }

/--
The question about the configuration database.  Whether its address is from the admin
network only decides about `remote_node`.
-/
def cfgdbStage (a : NodeAnswers) (s : Globals) : Outcome Globals :=
  let s := { s with zones.cfgdb := a.cfgdbAdminIp }
  if s.advancedInstall then
    ipFromSubnet s.zones.cfgdb s.admin.ip s.admin.netmask s .done .done
  else .done s

/-- The questions about the configuration database and its password. -/
def nodeServicesStage (a : NodeAnswers) (s : Globals) : Outcome Globals :=
  (cfgdbStage a s).bind fun s =>
  .done { s with system.esdcInstallPassword := a.esdcInstallPassword }

/-- One pass of the main loop on a further node. -/
def nodePass (dladmAddress : String -> String) (a : NodeAnswers) (s : Globals) :
    Outcome Globals :=
  (nodeAdminStage a s).bind fun s =>
  (tagsStage a.toAnswers s).bind fun s =>
  (gatewayStage a.toAnswers s).bind fun s =>
  let s := nicsup dladmAddress a.toAnswers s
  let s := systemStage a.toAnswers s
  (nodeServicesStage a s).bind fun s =>
  .done (saveChangeMacs (nicsdown s))

end Installer
end EsdcFactory
