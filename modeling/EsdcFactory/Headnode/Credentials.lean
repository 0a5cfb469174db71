import EsdcFactory.Headnode.SetupFacts

/-!
# Credentials of the service VMs

A service VM takes its credentials from the manifest that it was created with, and
its clients take them from the configuration database.  Manifests are built anew in
each run, VMs are created once.
-/

namespace EsdcFactory
namespace Headnode

open Installer Interrupt

/-!
## Credentials in manifests and in the database
-/

/-- The credentials that `configure_cfgdb` stores. -/
inductive Credential where
  | rabbitmq
  | redis
  | pgsqlEsdc
  | pgsqlPdns
  | zabbixEsdc
  | zabbixAdmin
  | opnsenseApiKey
  | opnsenseApiSecret
deriving DecidableEq

def Credential.value (vars : ManifestVars) : Credential -> List Char
  | .rabbitmq => vars.rabbitmqPassword
  | .redis => vars.redisPassword
  | .pgsqlEsdc => vars.pgsqlEsdcPassword
  | .pgsqlPdns => vars.pgsqlPdnsPassword
  | .zabbixEsdc => vars.zabbixEsdcPassword
  | .zabbixAdmin => vars.zabbixAdminPassword
  | .opnsenseApiKey => vars.opnsenseApiKey
  | .opnsenseApiSecret => vars.opnsenseApiSecret

/-- The name of the placeholder in the templates. -/
def Credential.placeholder : Credential -> String
  | .rabbitmq => "RABBITMQ_PASSWORD"
  | .redis => "REDIS_PASSWORD"
  | .pgsqlEsdc => "PGSQL_ESDC_PASSWORD"
  | .pgsqlPdns => "PGSQL_PDNS_PASSWORD"
  | .zabbixEsdc => "ZABBIX_ESDC_PASSWORD"
  | .zabbixAdmin => "ZABBIX_ADMIN_PASSWORD"
  | .opnsenseApiKey => "OPNSENSE_API_KEY"
  | .opnsenseApiSecret => "OPNSENSE_API_SECRET"

def Credential.vms : Credential -> List Vm
  | .rabbitmq => [.mgmt]
  | .redis => [.mgmt]
  | .pgsqlEsdc => [.mgmt]
  | .pgsqlPdns => [.dns, .mgmt]
  | .zabbixEsdc => [.mon, .mgmt]
  | .zabbixAdmin => [.mon, .mgmt]
  | .opnsenseApiKey => [.opnsense]
  | .opnsenseApiSecret => [.opnsense]

/-- Where `configure_cfgdb` stores a credential. -/
def Credential.path : Credential -> Path
  | .rabbitmq => ["esdc", "settings", "rabbitmq", "password"]
  | .redis => ["esdc", "settings", "redis", "password"]
  | .pgsqlEsdc => ["esdc", "settings", "pgsql_esdc", "password"]
  | .pgsqlPdns => ["esdc", "settings", "pgsql_pdns", "password"]
  | .zabbixEsdc => ["esdc", "settings", "zabbix", "esdc_password"]
  | .zabbixAdmin => ["esdc", "settings", "zabbix", "admin_password"]
  | .opnsenseApiKey => ["esdc", "vms", "opnsense", "hosts", "1", "api_key"]
  | .opnsenseApiSecret => ["esdc", "vms", "opnsense", "hosts", "1", "api_secret"]

def Credential.password : Credential -> Option Password
  | .rabbitmq => some .rabbitmq
  | .redis => some .redis
  | .pgsqlEsdc => some .pgsqlEsdc
  | .pgsqlPdns => some .pgsqlPdns
  | .zabbixEsdc => some .zabbixEsdc
  | .zabbixAdmin => some .zabbixAdmin
  | .opnsenseApiKey => none
  | .opnsenseApiSecret => none

theorem value_mem_expressions (c : Credential) (vars : ManifestVars) :
    forall vm, vm ∈ c.vms -> ofVar c.placeholder (c.value vars) ∈ expressions vm vars := by
  intro vm hvm
  cases c <;> simp only [Credential.vms, List.mem_cons, List.not_mem_nil, or_false] at hvm
  all_goals
    first
    | subst hvm
      simp [expressions, Credential.placeholder, Credential.value]
    | rcases hvm with rfl | rfl <;>
        simp [expressions, Credential.placeholder, Credential.value]

theorem value_eq_password {c : Credential} {name : Password} (h : c.password = some name)
    (vars : ManifestVars) : c.value vars = vars.password name := by
  cases c <;> cases h <;> rfl

theorem vms_of_not_password {c : Credential} (h : c.password = none) :
    c.vms = [.opnsense] := by
  cases c <;> first | rfl | cases h

/-!
## What the database is given
-/

theorem mem_settingsEntries {node : Node} {vars : ManifestVars} {svcCert value : List Char}
    {c : Credential} (h : (c.path, value) ∈ settingsEntries node vars svcCert) :
    value = c.value vars := by
  cases c <;> simp [settingsEntries, setting, Credential.path, Credential.value] at h ⊢ <;>
    exact h

theorem mem_vmEntries {node : Node} {env : Env} {vars : ManifestVars} {vm : Vm}
    {value : List Char} {c : Credential} (h : (c.path, value) ∈ vmEntries node env vars vm) :
    value = c.value vars ∧ vm = .opnsense := by
  cases c <;> cases vm <;>
    simp [vmEntries, Credential.path, Credential.value, Vm.name] at h ⊢ <;> exact h

theorem four_le_length_path (c : Credential) : 4 ≤ c.path.length := by
  cases c <;> decide

theorem length_settingsEntries {node : Node} {vars : ManifestVars} {svcCert : List Char}
    {entry : Path × List Char} (h : entry ∈ settingsEntries node vars svcCert) :
    entry.1.length = 4 := by
  have hall : forall entry, entry ∈ settingsEntries node vars svcCert ->
      entry.1.length = 4 := by
    simp [settingsEntries, setting]
  exact hall entry h

/-- A setting with a credential has no nodes below it. -/
theorem prefix_settingsEntries {node : Node} {vars : ManifestVars} {svcCert : List Char}
    {c : Credential} {entry : Path × List Char}
    (h : entry ∈ settingsEntries node vars svcCert) (hpath : c.path <+: entry.1) :
    c.path = entry.1 := by
  apply hpath.eq_of_length_le
  rw [length_settingsEntries h]
  exact four_le_length_path c

theorem prefix_nodeEntries {node : Node} {c : Credential} {entry : Path × List Char}
    (h : entry ∈ nodeEntries node) : ¬ c.path <+: entry.1 := by
  simp only [nodeEntries, List.mem_cons, List.not_mem_nil, or_false] at h
  rcases h with rfl | rfl | rfl | rfl <;> cases c <;>
    simp [Credential.path, List.cons_prefix_cons]

theorem prefix_vmEntries {node : Node} {env : Env} {vars : ManifestVars} {vm : Vm}
    {c : Credential} {entry : Path × List Char} (h : entry ∈ vmEntries node env vars vm)
    (hpath : c.path <+: entry.1) : c.path = entry.1 := by
  have hshape : forall entry, entry ∈ vmEntries node env vars vm ->
      entry.1.length ≤ 6 ∧ entry.1[1]? = some "vms" := by
    cases vm <;> simp [vmEntries]
  rcases hshape entry h with ⟨hlength, hkind⟩
  rcases hpath with ⟨rest, hrest⟩
  have hsix : c.path.length = 6 := by
    rw [← hrest] at hkind
    cases c <;> simp [Credential.path] at hkind ⊢
  apply List.IsPrefix.eq_of_length_le ⟨rest, hrest⟩
  rw [hsix]
  exact hlength

theorem length_path_opnsense {c : Credential} (h : c.password = none) :
    c.path.length = 6 := by
  cases c <;> first | rfl | cases h

theorem vms_subset_wantedVms {node : Node} {c : Credential}
    (h : c.password = none -> .opnsense ∈ node.wantedVms) :
    c.vms ⊆ node.wantedVms := by
  have hothers : forall vm : Vm, vm ≠ .opnsense -> vm ∈ node.wantedVms := by
    intro vm hvm
    have hmem : vm ∈ usbVms := by cases vm <;> decide
    exact List.mem_filter.mpr ⟨hmem, by simp [hvm]⟩
  intro vm hvm
  by_cases hopnsense : vm = .opnsense
  · subst hopnsense
    apply h
    cases c <;> first | rfl | simp [Credential.vms] at hvm
  · exact hothers vm hopnsense

theorem mem_cfgdbEntries {node : Node} {env : Env} {vars : ManifestVars} {m : Machine}
    {entry : Path × List Char} (h : entry ∈ cfgdbEntries node env vars m) {c : Credential}
    (hpath : c.path <+: entry.1) :
    c.path = entry.1 ∧ entry.2 = c.value vars ∧ c.vms ⊆ node.wantedVms := by
  simp only [cfgdbEntries, List.mem_append, List.mem_flatMap, List.mem_filter] at h
  rcases h with (h | h) | ⟨vm, ⟨hwanted, _⟩, h⟩
  · have heq := prefix_settingsEntries h hpath
    have hmem : (c.path, entry.2) ∈ settingsEntries node vars (m.svcCertFile.getD []) := by
      rw [heq]
      exact h
    refine ⟨heq, mem_settingsEntries hmem, vms_subset_wantedVms ?_⟩
    intro hc
    have hfour := length_settingsEntries h
    rw [← heq, length_path_opnsense hc] at hfour
    cases hfour
  · exact absurd hpath (prefix_nodeEntries h)
  · have heq := prefix_vmEntries h hpath
    have hmem : (c.path, entry.2) ∈ vmEntries node env vars vm := by
      rw [heq]
      exact h
    rcases mem_vmEntries hmem with ⟨hvalue, rfl⟩
    exact ⟨heq, hvalue, vms_subset_wantedVms fun _ => hwanted⟩

/-!
## Agreement over all runs
-/

/-- A credential in the database is the one that its VMs were created with. -/
def CredentialsAgree (m : Machine) : Prop :=
  forall c value, m.cfgdb (Credential.path c) = some value -> forall vm, vm ∈ c.vms ->
    exists vars, m.vms vm = some vars ∧ ofVar c.placeholder value ∈ expressions vm vars

/-- The VMs have the passwords of the store, for as long as it is used. -/
def KeepsPasswords (m : Machine) : Prop :=
  m.setupComplete = false -> forall vm vars, m.vms vm = some vars -> forall name,
    vars.password name = m.stored name ∧ m.stored name ≠ []

/-- The router was created with the keys of this run. -/
def HasKeys (env : Env) (m : Machine) : Prop :=
  forall vars, m.vms .opnsense = some vars ->
    vars.opnsenseApiKey = env.opnsenseApiKey ∧ vars.opnsenseApiSecret = env.opnsenseApiSecret

structure Consistent (env : Env) (m : Machine) : Prop where
  agree : CredentialsAgree m
  passwords : KeepsPasswords m
  keys : HasKeys env m

theorem Consistent.of_prepares {env : Env} {m m' : Machine} (h : Consistent env m)
    (hprepares : Prepares m m') : Consistent env m' := by
  refine ⟨?_, ?_, ?_⟩
  · rw [CredentialsAgree, hprepares.cfgdb, hprepares.vms]
    exact h.agree
  · intro hsetup vm vars hvm name
    rw [hprepares.setupComplete] at hsetup
    rw [hprepares.vms] at hvm
    rcases h.passwords hsetup vm vars hvm name with ⟨hpassword, hstored⟩
    rw [hprepares.stored name hstored]
    exact ⟨hpassword, hstored⟩
  · rw [HasKeys, hprepares.vms]
    exact h.keys

/-- A VM that did not exist has the manifest of this run. -/
theorem Consistent.addVm {env : Env} {m : Machine} {vars : ManifestVars} {vm : Vm} {up : Bool}
    (h : Consistent env m) (hvars : BuiltFrom env vars m) (hnew : m.vms vm = none) :
    Consistent env (m.addVm vm vars up) := by
  refine ⟨?_, ?_, ?_⟩
  · intro c value hvalue vm' hvm'
    rcases h.agree c value hvalue vm' hvm' with ⟨vars', hvars', hmem⟩
    -- the VMs of a stored credential exist, so this one is none of them
    have hne : vm' ≠ vm := by
      intro hsame
      subst hsame
      rw [hnew] at hvars'
      cases hvars'
    exists vars'
    rw [addVm_vms_of_ne hne]
    exact ⟨hvars', hmem⟩
  · intro hsetup vm' vars' hvm' name
    by_cases heq : vm' = vm
    · rw [heq, addVm_vms_self] at hvm'
      cases hvm'
      exact hvars.passwords name
    · rw [addVm_vms_of_ne heq] at hvm'
      exact h.passwords hsetup vm' vars' hvm' name
  · intro vars' hvm'
    by_cases heq : Vm.opnsense = vm
    · rw [heq, addVm_vms_self] at hvm'
      cases hvm'
      exact ⟨hvars.apiKey, hvars.apiSecret⟩
    · rw [addVm_vms_of_ne heq] at hvm'
      exact h.keys vars' hvm'

/-- A VM that exists has the credentials of this run. -/
theorem Consistent.value_eq {env : Env} {m : Machine} {vars vars' : ManifestVars} {vm : Vm}
    {c : Credential} (h : Consistent env m) (hsetup : m.setupComplete = false)
    (hvars : BuiltFrom env vars m) (hvm : vm ∈ c.vms) (hcreated : m.vms vm = some vars') :
    c.value vars' = c.value vars := by
  cases hc : c.password with
  | some name =>
      rw [value_eq_password hc, value_eq_password hc, (hvars.passwords name).1]
      exact (h.passwords hsetup vm vars' hcreated name).1
  | none =>
      rw [vms_of_not_password hc] at hvm
      rw [List.mem_singleton.mp hvm] at hcreated
      rcases h.keys vars' hcreated with ⟨hkey, hsecret⟩
      cases c <;> cases hc
      · exact hkey.trans hvars.apiKey.symm
      · exact hsecret.trans hvars.apiSecret.symm

/-- What holds while a run creates VMs and fills the database. -/
structure Creating (env : Env) (vars : ManifestVars) (m : Machine) : Prop where
  consistent : Consistent env m
  setupComplete : m.setupComplete = false
  built : BuiltFrom env vars m

theorem Creating.addVm {env : Env} {vars : ManifestVars} {vm : Vm} {up : Bool} {m : Machine}
    (h : Creating env vars m) (hnew : m.vms vm = none) :
    Creating env vars (m.addVm vm vars up) where
  consistent := h.consistent.addVm h.built hnew
  setupComplete := h.setupComplete
  built := h.built.of_stored rfl

theorem Creating.store {node : Node} {env : Env} {vars : ManifestVars} {m m' : Machine}
    {entry : Path × List Char} (h : Creating env vars m) (hall : Created node m)
    (hentry : entry ∈ cfgdbEntries node env vars m') :
    Creating env vars { m with cfgdb := creater entry.1 entry.2 m.cfgdb } := by
  refine ⟨⟨?_, h.consistent.passwords, h.consistent.keys⟩, h.setupComplete,
    h.built.of_stored rfl⟩
  intro c value (hvalue : creater entry.1 entry.2 m.cfgdb c.path = some value) vm hvm
  rw [creater] at hvalue
  split at hvalue
  next hpath =>
    have hat : c.path <+: entry.1 := by rw [hpath]
    rcases mem_cfgdbEntries hentry hat with ⟨_, hcredential, hwanted⟩
    rcases Option.isSome_iff_exists.mp (hall vm (hwanted hvm)) with ⟨vars', hvars'⟩
    exists vars'
    refine ⟨hvars', ?_⟩
    have hsame := h.consistent.value_eq h.setupComplete h.built hvm hvars'
    rw [← Option.some.inj hvalue, hcredential, ← hsame]
    exact value_mem_expressions c vars' vm hvm
  next hpath =>
    split at hvalue
    next habove => exact absurd (mem_cfgdbEntries hentry habove.1).1 hpath
    next => exact h.consistent.agree c value hvalue vm hvm

/-- What holds between runs. -/
def Settled (m : Machine) : Prop :=
  CredentialsAgree m ∧ KeepsPasswords m

end Headnode
end EsdcFactory
