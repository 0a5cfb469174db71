import EsdcFactory.Headnode.Manifest
import EsdcFactory.Installer.Gateway
import EsdcFactory.Lib.Interrupt

/-!
# The setup of the headnode

`headnode.sh` creates the service VMs and writes their credentials into the
configuration database.  It runs at every boot until it has marked the setup as
complete, and each of its steps has a guard of its own against being done twice.
-/

namespace EsdcFactory
namespace Headnode

open Installer Interrupt

/-!
## What the runs share
-/

/-- The passwords that `get_password` keeps. -/
inductive Password where
  | rabbitmq
  | redis
  | pgsqlEsdc
  | pgsqlPdns
  | pgsqlMgmtMon
  | zabbixEsdc
  | zabbixAdmin
deriving DecidableEq

/-- The order in which the passwords are asked for. -/
def passwordList : List Password :=
  [.rabbitmq, .redis, .pgsqlEsdc, .pgsqlPdns, .pgsqlMgmtMon, .zabbixEsdc, .zabbixAdmin]

inductive Brand where
  | joyent
  | kvm
  | unknown
deriving DecidableEq

/-- The order in which the VMs are created. -/
def usbVms : List Vm :=
  [.opnsense, .cfgdb, .dns, .img, .mon, .mgmt]

def Vm.name : Vm -> String
  | .cfgdb => "esdc-cfgdb"
  | .dns => "esdc-dns"
  | .img => "esdc-img"
  | .mgmt => "esdc-mgmt"
  | .mon => "esdc-mon"
  | .opnsense => "opnsense"

/-- What stays the same over all runs on a node. -/
structure Node where
  /-- the config file, which is read into variables `CONFIG_*` -/
  config : List ConfigLine
  /-- the variables of `esdc_mgmt` that ansible puts into the script -/
  esdcMgmt : String -> List Char
  uuid : String
  hostname : List Char
  /-- the brand in the template of a VM -/
  brand : Vm -> Brand

/-- `${CONFIG_key}` -/
def Node.var (node : Node) (key : String) : String :=
  valueOf (configValue node.config key)

/-- `${CONFIG_key:-default}` -/
def Node.varOr (node : Node) (key default : String) : String :=
  if node.var key = "" then default else node.var key

def Node.deploysOpnsense (node : Node) : Bool :=
  node.varOr "opnsense_deploy" "false" = "true"

/-- What a look at a VM finds that is being set up. -/
structure Poll where
  provisionSuccess : Bool
  /-- `svcs -xvz` lists a service -/
  maintenance : Bool
  provisionFailure : Bool
  /-- the marker in the customer metadata -/
  installed : Bool

/-- What `vmadm get` says about a VM. -/
structure VmJson where
  uuid : List Char
  hostname : List Char
  ip : List Char

/-- What one run gets from other programs. -/
structure Env where
  sshPublicKey : List Char
  /-- `random_string` without its awkward characters -/
  randomString : Password -> List Char
  opnsenseApiKey : List Char
  opnsenseApiSecret : List Char
  svcKey : List Char
  svcCert : List Char
  opnsenseConfigXml : List Char
  /-- what is found after so many seconds -/
  poll : Vm -> Nat -> Poll
  vmJson : Vm -> VmJson

/-- A path of the configuration database. -/
abbrev Path := List String

/--
What a run finds and leaves behind.  Files that are missing or empty alike are empty
texts, and a VM is known by the manifest that it was created with.
-/
structure Machine where
  setupComplete : Bool := false
  sshPrivateKey : Bool := false
  sshPublicKey : Option (List Char) := none
  rootSshPublicKey : Option (List Char) := none
  /-- `PWD_TMPSTORE`, when it holds JSON -/
  passwords : Option (Password -> List Char) := none
  svcKeyTmpfile : List Char := []
  svcCertTmpfile : List Char := []
  svcCertFile : Option (List Char) := none
  vmmanifest : Vm -> Option ManifestVars := fun _ => none
  vms : Vm -> Option ManifestVars := fun _ => none
  /-- not stored anywhere: the VM was seen to come up -/
  cameUp : Vm -> Bool := fun _ => false
  cfgdb : Path -> Option (List Char) := fun _ => none

/-!
## Keys, passwords and certificates
-/

def generateSshKeys (env : Env) : Program Machine Unit := do
  let found <- read fun m => m.sshPrivateKey || m.sshPublicKey.isSome
  if found then return ()
  else
    write fun m => { m with sshPrivateKey := true }
    write fun m => { m with sshPublicKey := some env.sshPublicKey }
    write fun m => { m with rootSshPublicKey := m.sshPublicKey }

/-- `ROOT_AUTHORIZED_KEYS="$(cat …)"`, where `errexit` ends the script. -/
def rootAuthorizedKeys : Program Machine (List Char) := do
  let key <- read fun m => m.rootSshPublicKey
  match key with
  | some key => return key
  | none => fatal "error exit status 1"

/-- The password in the store, or an empty text. -/
def Machine.stored (m : Machine) (name : Password) : List Char :=
  match m.passwords with
  | some store => store name
  | none => []

/-- A store that holds no JSON is emptied, which leaves one that holds no JSON. -/
def getPassword (env : Env) (name : Password) : Program Machine (List Char) := do
  let pwdval <- read fun m => m.stored name
  if pwdval ≠ [] then return pwdval
  else
    write fun m =>
      { m with passwords := some (Function.update m.stored name (env.randomString name)) }
    return env.randomString name

def getPasswords (env : Env) : List Password -> Program Machine (Password -> List Char)
  | [] => return fun _ => []
  | name :: names => do
      let pwdval <- getPassword env name
      let others <- getPasswords env names
      return Function.update others name pwdval

/-- The certificate and its key. -/
def generateSvcSslCert (env : Env) : Program Machine (List Char × List Char) := do
  let found <- read fun m => (m.svcCertTmpfile, m.svcKeyTmpfile)
  if found.1 ≠ [] ∧ found.2 ≠ [] then return found
  else
    write fun m => { m with svcKeyTmpfile := [] }
    write fun m => { m with svcCertTmpfile := [] }
    write fun m => { m with svcKeyTmpfile := env.svcKey }
    write fun m => { m with svcCertTmpfile := env.svcCert }
    if env.svcCert = [] ∨ env.svcKey = [] then
      fatal "Services SSL cert was not generated properly"
    else
      write fun m => { m with svcCertFile := some m.svcCertTmpfile }
      return (env.svcCert, env.svcKey)

def configureErigonesd : Program Machine Unit := do
  let found <- read fun m => m.svcCertFile.isSome
  if found then return ()
  else fatal "SSL certificate file not present: /opt/custom/etc/dc-erigonesd.pem"

/-!
## Service VMs
-/

/-- The metadata for VMs, and what the manifests are built from. -/
def Node.manifestVars (node : Node) (env : Env) (rootAuthorizedKeys : List Char)
    (passwords : Password -> List Char) (cert key : List Char) : ManifestVars where
  dnsIp := (node.var "dns_admin_ip").toList
  adminNetmask := (node.var "admin_netmask").toList
  adminGateway := (node.var "admin_gateway").toList
  adminVlanId := (node.varOr "admin_vlan_id" "0").toList
  cfgdbIp := (node.var "cfgdb_admin_ip").toList
  monIp := (node.var "mon_admin_ip").toList
  imgIp := (node.var "img_admin_ip").toList
  mgmtIp := (node.var "mgmt_admin_ip").toList
  rootAuthorizedKeys := rootAuthorizedKeys
  esdcInstallPassword := (node.var "esdc_install_password").toList
  svcCertTmpfile := cert
  svcKeyTmpfile := key
  dnsResolvers := (node.var "dns_resolvers").toList
  rabbitmqPassword := passwords .rabbitmq
  redisPassword := passwords .redis
  pgsqlEsdcPassword := passwords .pgsqlEsdc
  pgsqlPdnsPassword := passwords .pgsqlPdns
  pgsqlMgmtMonPassword := passwords .pgsqlMgmtMon
  zabbixEsdcPassword := passwords .zabbixEsdc
  zabbixAdminPassword := passwords .zabbixAdmin
  zabbixAdminEmail := (node.var "admin_email").toList
  zabbixSmtpEmail := (node.varOr "sender_email" "zabbix@mon01.local").toList
  opnsenseAdminIp := (node.var "admin_gateway").toList
  opnsenseAdminNetmask := (node.var "admin_netmask").toList
  opnsenseAdminVlanId := (node.varOr "admin_vlan_id" "0").toList
  opnsenseExternalIp := (node.var "opnsense_external_ip").toList
  opnsenseExternalNetmask := (node.var "opnsense_external_netmask").toList
  opnsenseExternalMac := (node.var "opnsense_external_mac").toList
  opnsenseExternalGateway := (node.var "opnsense_external_gw").toList
  opnsenseExternalVlanId := (node.varOr "opnsense_external_vlan" "0").toList
  opnsenseApiKey := env.opnsenseApiKey
  opnsenseApiSecret := env.opnsenseApiSecret
  opnsenseConfigXml := env.opnsenseConfigXml

/-- How the wait for a VM ends. -/
inductive Waited where
  /-- the VM was seen to come up -/
  | up
  /-- the script does not look at such a VM -/
  | waived
  | failure
  | timeout
deriving DecidableEq

def Node.look (node : Node) (vm : Vm) (poll : Poll) : Option Waited :=
  match node.brand vm with
  | .joyent =>
      if poll.provisionSuccess then
        if poll.maintenance then none else some .up
      else if poll.provisionFailure then some .failure
      else none
  | .kvm =>
      if vm = .opnsense ∧ node.var "coal" = "true" then some .waived
      else if poll.installed then some .up
      else none
  | .unknown => some .waived

/-- `VM_DEPLOY_TIMEOUT` -/
def vmDeployTimeout : Nat := 600

/-- The wait from so many seconds on, for at most so many looks. -/
def Node.wait (node : Node) (vm : Vm) (poll : Nat -> Poll) : Nat -> Nat -> Waited
  | 0, _ => .timeout
  | looks + 1, seconds =>
      match node.look vm (poll seconds) with
      | some waited => waited
      | none =>
          if seconds > vmDeployTimeout then .timeout
          else node.wait vm poll looks (seconds + 3)

/-- The wait for a VM, which is over before its looks are used up. -/
def Node.waitFor (node : Node) (vm : Vm) (poll : Nat -> Poll) : Waited :=
  node.wait vm poll (vmDeployTimeout / 3 + 2) 0

def awaitVm (node : Node) (env : Env) (vm : Vm) : Program Machine Unit :=
  match node.waitFor vm (env.poll vm) with
  | .up => write fun m => { m with cameUp := Function.update m.cameUp vm true }
  | .waived => return ()
  | .failure => fatal ("Failed to create VM " ++ vm.name ++ ": setup failed")
  | .timeout => fatal ("Failed to create VM " ++ vm.name ++ ": setup timed out")

def createVm (node : Node) (env : Env) (vars : ManifestVars) (vm : Vm) :
    Program Machine Unit := do
  if vm = .opnsense ∧ node.deploysOpnsense = false then return ()
  else
    write fun m => { m with vmmanifest := Function.update m.vmmanifest vm (some vars) }
    let found <- read fun m => (m.vms vm).isSome
    -- the VM already exists and is skipped
    if found then return ()
    else
      write fun m => { m with vms := Function.update m.vms vm (m.vmmanifest vm) }
      awaitVm node env vm

/-!
## The configuration database
-/

/-- `query_cfgdb creater`, for a node that does not exist: its parents are made as well. -/
def creater (path : Path) (value : List Char) (cfgdb : Path -> Option (List Char)) :
    Path -> Option (List Char) := fun p =>
  if p = path then some value
  else if p <+: path ∧ (cfgdb p).isNone then some []
  else cfgdb p

/-- `_zk creater` -/
def zkCreater (entry : Path × List Char) : Program Machine Unit := do
  let found <- read fun m => (m.cfgdb entry.1).isSome
  if found then
    fatal ("Error: cfgdb command \"creater /" ++ "/".intercalate entry.1 ++ " " ++
      String.ofList entry.2 ++ "\" failed")
  else write fun m => { m with cfgdb := creater entry.1 entry.2 m.cfgdb }

/-- `/esdc/settings/group/key` -/
def setting (group key : String) (value : List Char) : Path × List Char :=
  (["esdc", "settings", group, key], value)

def settingsEntries (node : Node) (vars : ManifestVars) (svcCert : List Char) :
    List (Path × List Char) :=
  [setting "dc" "datacenter_name" (node.var "datacenter_name").toList,
    setting "dc" "ntp_hosts" (node.var "ntp_hosts").toList,
    setting "dc" "admin_email" (node.var "admin_email").toList,
    setting "rabbitmq" "username" (node.esdcMgmt "rabbitmq.user"),
    setting "rabbitmq" "password" vars.rabbitmqPassword,
    setting "rabbitmq" "host" vars.mgmtIp,
    setting "rabbitmq" "port" (node.esdcMgmt "rabbitmq.port"),
    setting "rabbitmq" "port_ssl" (node.esdcMgmt "rabbitmq.port_ssl"),
    setting "rabbitmq" "vhost" (node.esdcMgmt "rabbitmq.vhost"),
    setting "redis" "host" vars.mgmtIp,
    setting "redis" "port" (node.esdcMgmt "redis.port"),
    setting "redis" "port_ssl" (node.esdcMgmt "redis.port_ssl"),
    setting "redis" "password" vars.redisPassword,
    setting "pgsql_esdc" "host" vars.mgmtIp,
    setting "pgsql_esdc" "port" (node.esdcMgmt "pgsql_esdc.port"),
    setting "pgsql_esdc" "username" (node.esdcMgmt "pgsql_esdc.user"),
    setting "pgsql_esdc" "password" vars.pgsqlEsdcPassword,
    setting "pgsql_pdns" "host" vars.mgmtIp,
    setting "pgsql_pdns" "port" (node.esdcMgmt "pgsql_pdns.port"),
    setting "pgsql_pdns" "username" (node.esdcMgmt "pgsql_pdns.user"),
    setting "pgsql_pdns" "password" vars.pgsqlPdnsPassword,
    setting "zabbix" "host" vars.monIp,
    setting "zabbix" "admin_username" "Admin".toList,
    setting "zabbix" "admin_password" vars.zabbixAdminPassword,
    setting "zabbix" "admin_email" vars.zabbixAdminEmail,
    setting "zabbix" "smtp_email" vars.zabbixSmtpEmail,
    setting "zabbix" "esdc_username" (node.esdcMgmt "zabbix_api.username"),
    setting "zabbix" "esdc_password" vars.zabbixEsdcPassword,
    setting "security" "services_ssl_cert" svcCert]

def nodeEntries (node : Node) : List (Path × List Char) :=
  [(["esdc", "nodes", "hosts", node.uuid], node.hostname),
    (["esdc", "nodes", "hosts", node.uuid, "headnode"], "true".toList),
    (["esdc", "nodes", "hosts", node.uuid, "hostname"], node.hostname),
    (["esdc", "nodes", "headnodes"], node.uuid.toList)]

def vmEntries (node : Node) (env : Env) (vars : ManifestVars) (vm : Vm) :
    List (Path × List Char) :=
  let json := env.vmJson vm
  [(["esdc", "vms", vm.name, "master", "id"], "1".toList),
    (["esdc", "vms", vm.name, "master", "ip"], json.ip),
    (["esdc", "vms", vm.name, "hosts", "1", "uuid"], json.uuid),
    (["esdc", "vms", vm.name, "hosts", "1", "hostname"], json.hostname),
    (["esdc", "vms", vm.name, "hosts", "1", "ip"], json.ip),
    (["esdc", "vms", vm.name, "hosts", "1", "node"], node.uuid.toList)] ++
  if vm = .opnsense then
    [(["esdc", "vms", vm.name, "hosts", "1", "api_key"], vars.opnsenseApiKey),
      (["esdc", "vms", vm.name, "hosts", "1", "api_secret"], vars.opnsenseApiSecret)]
  else []

/-- The VMs that the headnode is to have. -/
def Node.wantedVms (node : Node) : List Vm :=
  usbVms.filter fun vm => vm ≠ .opnsense || node.deploysOpnsense

def cfgdbEntries (node : Node) (env : Env) (vars : ManifestVars) (m : Machine) :
    List (Path × List Char) :=
  settingsEntries node vars (m.svcCertFile.getD []) ++ nodeEntries node ++
    (node.wantedVms.filter fun vm => (m.vmmanifest vm).isSome).flatMap
      (vmEntries node env vars)

def configureCfgdb (node : Node) (env : Env) (vars : ManifestVars) :
    Program Machine Unit := do
  let entries <- read (cfgdbEntries node env vars)
  each zkCreater entries

/-!
## The script
-/

def createSetupFile : Program Machine Unit :=
  write fun m => { m with setupComplete := true }

def cleanTmpFiles : Program Machine Unit := do
  write fun m => { m with svcKeyTmpfile := [] }
  write fun m => { m with svcCertTmpfile := [] }
  write fun m => { m with passwords := none }

/-- What is done when the setup is not complete and the config is accepted. -/
def setup (node : Node) (env : Env) : Program Machine Unit := do
  generateSshKeys env
  let rootKeys <- rootAuthorizedKeys
  let passwords <- getPasswords env passwordList
  let certAndKey <- generateSvcSslCert env
  configureErigonesd
  let vars := node.manifestVars env rootKeys passwords certAndKey.1 certAndKey.2
  each (createVm node env vars) usbVms
  configureCfgdb node env vars
  createSetupFile
  cleanTmpFiles

/-- One run of `headnode.sh`. -/
def headnode (node : Node) (env : Env) : Program Machine Unit := do
  if node.var "stop_before_setup" = "true" then return ()
  else
    let complete <- read fun m => m.setupComplete
    if complete then return ()
    else
      match validateConfig node.config with
      | .error message => fatal message
      | .ok _ => setup node env

/-- What the machine comes to by runs of the script, each from where the last one ended. -/
def Leaves (node : Node) (allowed : Machine -> Env -> Prop) (m : Machine) : Prop :=
  Reached (headnode node) allowed {} m

end Headnode
end EsdcFactory
