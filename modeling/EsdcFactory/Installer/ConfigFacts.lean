import EsdcFactory.Installer.ConfigWriter

/-!
# Reading the config back

The last line with a key counts, and every part of the config file has keys of its
own.  So a key is looked up in one part only.
-/

namespace EsdcFactory
namespace Installer

open BashArith Text

/-!
## Lines
-/

@[simp] def ConfigLine.key : ConfigLine -> Option String
  | .bare key _ => some key
  | .quoted key _ => some key
  | .comment _ => none
  | .blank => none

@[simp] def ConfigLine.value : ConfigLine -> Option String
  | .bare _ value => some value
  | .quoted _ value => some value
  | .comment _ => none
  | .blank => none

def lineValue (line : ConfigLine) (key : String) : Option String :=
  if line.key = some key then line.value else none

@[simp] theorem configValue_nil (key : String) : configValue [] key = none := rfl

theorem configValue_append (xs ys : List ConfigLine) (key : String) :
    configValue (xs ++ ys) key = (configValue ys key).or (configValue xs key) := by
  have hfold : forall found,
      ys.foldl (readLine key) found = (configValue ys key).or found := by
    unfold configValue
    induction ys using List.reverseRecOn with
    | nil => simp
    | append_singleton ys line ih =>
        intro found
        rw [List.foldl_append, List.foldl_append, ih]
        cases line with
        | comment text => rfl
        | blank => rfl
        | bare k value =>
            simp only [List.foldl_cons, List.foldl_nil, readLine]
            split <;> simp
        | quoted k value =>
            simp only [List.foldl_cons, List.foldl_nil, readLine]
            split <;> simp
  unfold configValue
  rw [List.foldl_append, hfold]
  rfl

theorem configValue_cons (line : ConfigLine) (lines : List ConfigLine)
    (key : String) :
    configValue (line :: lines) key =
      (configValue lines key).or (lineValue line key) := by
  rw [← List.singleton_append, configValue_append]
  congr 1
  cases line <;>
    simp [configValue, readLine, lineValue]

def keysOf (lines : List ConfigLine) : List String :=
  lines.filterMap ConfigLine.key

@[simp] theorem keysOf_nil : keysOf [] = [] := rfl

@[simp] theorem keysOf_cons (line : ConfigLine) (lines : List ConfigLine) :
    keysOf (line :: lines) = line.key.toList ++ keysOf lines := by
  cases line <;> rfl

@[simp] theorem keysOf_append (xs ys : List ConfigLine) :
    keysOf (xs ++ ys) = keysOf xs ++ keysOf ys :=
  List.filterMap_append

theorem configValue_eq_none {lines : List ConfigLine} {key : String}
    (h : key ∉ keysOf lines) : configValue lines key = none := by
  induction lines with
  | nil => rfl
  | cons line rest ih =>
      have hline : line.key ≠ some key := by
        intro heq
        exact h (List.mem_filterMap.mpr ⟨line, List.mem_cons_self, heq⟩)
      have hrest : key ∉ keysOf rest := by
        intro hmem
        rcases List.mem_filterMap.mp hmem with ⟨line', hline', heq⟩
        exact h (List.mem_filterMap.mpr ⟨line', List.mem_cons_of_mem _ hline', heq⟩)
      rw [configValue_cons, ih hrest, lineValue, if_neg hline]
      rfl

theorem keysOf_linesIf {p : Prop} [Decidable p] {lines : List ConfigLine}
    {keys : List String} (h : keysOf lines ⊆ keys) :
    keysOf (linesIf p lines) ⊆ keys := by
  unfold linesIf
  split
  · exact h
  · exact List.nil_subset keys

/-!
## Parts of the config file
-/

def headKeys : List String := ["coal", "etherstub", "change_mac"]

def nodeKeys : List String :=
  ["admin_nic", "admin_vlan_id", "admin_ip", "admin_netmask", "admin_network",
    "admin_gateway", "headnode_default_gateway", "dns_resolvers", "dns_domain",
    "dns_options", "ntp_hosts", "compute_node_ntp_hosts", "hostname"]

def NicTag.keys (ntag : NicTag) : List String :=
  [ntag.name ++ "_nic", ntag.name ++ "0_mac", ntag.name ++ "0_vlan_id",
    ntag.name ++ "0_ip", ntag.name ++ "0_netmask"]

def nictagKeys : List String := nictagList.flatMap NicTag.keys

def serviceAddressKeys : List String :=
  ["mgmt_admin_ip", "mon_admin_ip", "dns_admin_ip", "img_admin_ip", "cfgdb_admin_ip"]

def serviceKeys : List String :=
  ["datacenter_name", "admin_email"] ++ serviceAddressKeys ++ ["esdc_install_password"]

/-- The keys that are written for every router. -/
def opnsenseKeys : List String :=
  ["opnsense_external_ip", "opnsense_external_netmask", "opnsense_external_gw",
    "opnsense_root_shadow"]

def routerKeys : List String :=
  ["opnsense_deploy", "opnsense_external_vlan", "opnsense_external_mac"] ++
    opnsenseKeys

def tailKeys : List String := ["install_to_hdd", "smt_enabled"]

theorem keysOf_headLines (sys : System) (s : Globals) :
    keysOf (headLines sys s) ⊆ headKeys := by
  unfold headLines
  simp only [keysOf_append, List.append_subset]
  refine ⟨⟨⟨?_, keysOf_linesIf ?_⟩, keysOf_linesIf ?_⟩, keysOf_linesIf ?_⟩ <;>
    simp [headKeys]

theorem keysOf_adminNetworkLines (s : Globals) :
    keysOf (adminNetworkLines s) ⊆ nodeKeys := by
  unfold adminNetworkLines
  split <;> simp [nodeKeys]

theorem keysOf_nodeLines (s : Globals) : keysOf (nodeLines s) ⊆ nodeKeys := by
  unfold nodeLines
  simp only [keysOf_append, List.append_subset]
  refine ⟨⟨⟨?_, keysOf_linesIf ?_⟩, keysOf_linesIf ?_⟩, ?_⟩
  · simp [nodeKeys]
  · intro key hkey
    rcases List.mem_cons.mp hkey with rfl | hkey
    · simp [nodeKeys]
    · exact keysOf_adminNetworkLines s hkey
  · simp [nodeKeys]
  · simp [nodeKeys]

theorem keysOf_nictagLines (s : Globals) (ntag : NicTag) :
    keysOf (nictagLines s ntag) ⊆ ntag.keys := by
  unfold nictagLines
  simp only
  split
  · exact List.nil_subset _
  · rw [keysOf_append, List.append_subset]
    constructor
    · split <;> simp [NicTag.keys]
    · apply keysOf_linesIf
      rw [keysOf_append, List.append_subset]
      refine ⟨?_, keysOf_linesIf ?_⟩ <;> simp [NicTag.keys]

theorem keysOf_serviceLines (s : Globals) : keysOf (serviceLines s) ⊆ serviceKeys := by
  simp [serviceLines, serviceKeys, serviceAddressKeys]

theorem keysOf_opnsenseLines (sys : System) (s : Globals) :
    keysOf (opnsenseLines sys s) ⊆ routerKeys := by
  unfold opnsenseLines
  split
  · simp only [keysOf_append, List.append_subset]
    refine ⟨⟨⟨?_, keysOf_linesIf ?_⟩, keysOf_linesIf ?_⟩, ?_⟩ <;>
      simp [routerKeys, opnsenseKeys]
  · simp [routerKeys]

theorem keysOf_tailLines (s : Globals) : keysOf (tailLines s) ⊆ tailKeys := by
  simp [tailLines, tailKeys]

theorem keysOf_allNictagLines (s : Globals) :
    keysOf (nictagList.flatMap (nictagLines s)) ⊆ nictagKeys := by
  intro key hkey
  rcases List.mem_filterMap.mp hkey with ⟨line, hline, hkey⟩
  rcases List.mem_flatMap.mp hline with ⟨ntag, hmem, hline⟩
  have hown := keysOf_nictagLines s ntag
    (List.mem_filterMap.mpr ⟨line, hline, hkey⟩)
  exact List.mem_flatMap.mpr ⟨ntag, hmem, hown⟩

/-!
## Looking up a key in its part
-/

/-- The variables that most of the config file is written from. -/
def Globals.written (s : Globals) : Globals :=
  swapOpnsense (coreZones s)

theorem configValue_configFile (sys : System) (s : Globals) (key : String) :
    configValue (configFile sys s) key =
      (configValue (tailLines s.written) key).or
      ((configValue (opnsenseLines sys s.written) key).or
      ((configValue (serviceLines s.written) key).or
      ((configValue (nictagList.flatMap (nictagLines s.written)) key).or
      ((configValue (nodeLines s.written) key).or
      (configValue (headLines sys (coreZones s)) key))))) := by
  unfold configFile Globals.written
  simp only [configValue_append]

theorem configValue_head (sys : System) (s : Globals) {key : String}
    (h : key ∉ nodeKeys ++ nictagKeys ++ serviceKeys ++ routerKeys ++ tailKeys) :
    configValue (configFile sys s) key =
      configValue (headLines sys (coreZones s)) key := by
  simp only [List.mem_append, not_or] at h
  rcases h with ⟨⟨⟨⟨hnode, htags⟩, hservice⟩, hrouter⟩, htail⟩
  rw [configValue_configFile,
    configValue_eq_none fun hmem => htail (keysOf_tailLines _ hmem),
    configValue_eq_none fun hmem => hrouter (keysOf_opnsenseLines _ _ hmem),
    configValue_eq_none fun hmem => hservice (keysOf_serviceLines _ hmem),
    configValue_eq_none fun hmem => htags (keysOf_allNictagLines _ hmem),
    configValue_eq_none fun hmem => hnode (keysOf_nodeLines _ hmem)]
  simp only [Option.none_or]

theorem configValue_node (sys : System) (s : Globals) {key : String}
    (h : key ∉ headKeys ++ nictagKeys ++ serviceKeys ++ routerKeys ++ tailKeys) :
    configValue (configFile sys s) key = configValue (nodeLines s.written) key := by
  simp only [List.mem_append, not_or] at h
  rcases h with ⟨⟨⟨⟨hhead, htags⟩, hservice⟩, hrouter⟩, htail⟩
  rw [configValue_configFile,
    configValue_eq_none fun hmem => htail (keysOf_tailLines _ hmem),
    configValue_eq_none fun hmem => hrouter (keysOf_opnsenseLines _ _ hmem),
    configValue_eq_none fun hmem => hservice (keysOf_serviceLines _ hmem),
    configValue_eq_none fun hmem => htags (keysOf_allNictagLines _ hmem),
    configValue_eq_none fun hmem => hhead (keysOf_headLines _ _ hmem)]
  simp only [Option.none_or, Option.or_none]

theorem configValue_service (sys : System) (s : Globals) {key : String}
    (h : key ∉ headKeys ++ nodeKeys ++ nictagKeys ++ routerKeys ++ tailKeys) :
    configValue (configFile sys s) key =
      configValue (serviceLines s.written) key := by
  simp only [List.mem_append, not_or] at h
  rcases h with ⟨⟨⟨⟨hhead, hnode⟩, htags⟩, hrouter⟩, htail⟩
  rw [configValue_configFile,
    configValue_eq_none fun hmem => htail (keysOf_tailLines _ hmem),
    configValue_eq_none fun hmem => hrouter (keysOf_opnsenseLines _ _ hmem),
    configValue_eq_none fun hmem => htags (keysOf_allNictagLines _ hmem),
    configValue_eq_none fun hmem => hnode (keysOf_nodeLines _ hmem),
    configValue_eq_none fun hmem => hhead (keysOf_headLines _ _ hmem)]
  simp only [Option.none_or, Option.or_none]

theorem configValue_router (sys : System) (s : Globals) {key : String}
    (h : key ∉ headKeys ++ nodeKeys ++ nictagKeys ++ serviceKeys ++ tailKeys) :
    configValue (configFile sys s) key =
      configValue (opnsenseLines sys s.written) key := by
  simp only [List.mem_append, not_or] at h
  rcases h with ⟨⟨⟨⟨hhead, hnode⟩, htags⟩, hservice⟩, htail⟩
  rw [configValue_configFile,
    configValue_eq_none fun hmem => htail (keysOf_tailLines _ hmem),
    configValue_eq_none fun hmem => hservice (keysOf_serviceLines _ hmem),
    configValue_eq_none fun hmem => htags (keysOf_allNictagLines _ hmem),
    configValue_eq_none fun hmem => hnode (keysOf_nodeLines _ hmem),
    configValue_eq_none fun hmem => hhead (keysOf_headLines _ _ hmem)]
  simp only [Option.none_or, Option.or_none]

/-!
## Keys about the node
-/

theorem configValue_linesIf {p : Prop} [Decidable p] (lines : List ConfigLine)
    (key : String) :
    configValue (linesIf p lines) key = if p then configValue lines key else none := by
  unfold linesIf
  split <;> rfl

theorem configValue_adminNetworkLines (s : Globals) {key : String}
    (h : key ≠ "admin_network") : configValue (adminNetworkLines s) key = none := by
  apply configValue_eq_none
  unfold adminNetworkLines
  split <;> simp [h]

/-- What one part of the file is about is not in another part. -/
theorem keys_apart :
    (forall key, key ∈ nodeKeys ->
      key ∉ headKeys ++ nictagKeys ++ serviceKeys ++ routerKeys ++ tailKeys) ∧
    (forall key, key ∈ serviceKeys ->
      key ∉ headKeys ++ nodeKeys ++ nictagKeys ++ routerKeys ++ tailKeys) ∧
    (forall key, key ∈ routerKeys ->
      key ∉ headKeys ++ nodeKeys ++ nictagKeys ++ serviceKeys ++ tailKeys) ∧
    forall ntag, ntag ∈ nictagList -> forall key, key ∈ ntag.keys ->
      key ∉ headKeys ++ nodeKeys ++ serviceKeys ++ routerKeys ++ tailKeys ∧
        forall ntag', ntag' ∈ nictagList -> ntag' ≠ ntag -> key ∉ ntag'.keys := by
  simp [headKeys, nodeKeys, nictagKeys, serviceKeys, serviceAddressKeys, routerKeys, opnsenseKeys,
    tailKeys, nictagList, NicTag.keys, NicTag.name]

theorem configValue_adminNic (sys : System) (s : Globals) :
    configValue (configFile sys s) "admin_nic" = some s.written.admin.nic := by
  rw [configValue_node sys s (keys_apart.left _ (by simp [nodeKeys]))]
  simp [nodeLines, configValue_append, configValue_cons, configValue_linesIf,
    configValue_adminNetworkLines, lineValue]

theorem configValue_adminNetmask (sys : System) (s : Globals) :
    configValue (configFile sys s) "admin_netmask" =
      if s.written.admin.ip ≠ "dhcp" then some s.written.admin.netmask else none := by
  rw [configValue_node sys s (keys_apart.left _ (by simp [nodeKeys]))]
  simp [nodeLines, configValue_append, configValue_cons, configValue_linesIf,
    configValue_adminNetworkLines, lineValue]

theorem configValue_defaultGateway (sys : System) (s : Globals) :
    configValue (configFile sys s) "headnode_default_gateway" =
      if s.written.headnodeDefaultGateway ≠ "none" then
        some s.written.headnodeDefaultGateway
      else none := by
  rw [configValue_node sys s (keys_apart.left _ (by simp [nodeKeys]))]
  simp [nodeLines, configValue_append, configValue_cons, configValue_linesIf,
    configValue_adminNetworkLines, lineValue]

theorem configValue_installPassword (sys : System) (s : Globals) :
    configValue (configFile sys s) "esdc_install_password" =
      some s.written.system.esdcInstallPassword := by
  rw [configValue_service sys s (keys_apart.right.left _ (by simp [serviceKeys]))]
  simp [serviceLines, configValue_cons, lineValue]

/-!
## Keys about network tags
-/

theorem configValue_opnsenseDeploy (sys : System) (s : Globals) :
    configValue (configFile sys s) "opnsense_deploy" =
      some (if s.written.opnsense.adminIp ≠ "" then "true" else "false") := by
  rw [configValue_router sys s (keys_apart.right.right.left _ (by simp [routerKeys]))]
  unfold opnsenseLines
  split <;>
    simp [configValue_append, configValue_cons, configValue_linesIf, lineValue]

theorem configValue_opnsenseKeys (sys : System) (s : Globals) :
    forall key, key ∈ opnsenseKeys ->
      ((configValue (configFile sys s) key).isSome = true <->
        s.written.opnsense.adminIp ≠ "") := by
  intro key hkey
  rw [configValue_router sys s (keys_apart.right.right.left _ (List.mem_append_right _ hkey))]
  simp only [opnsenseKeys, List.mem_cons, List.not_mem_nil, or_false] at hkey
  unfold opnsenseLines
  split
  · rename_i hip
    rcases hkey with rfl | rfl | rfl | rfl <;>
      simp [configValue_append, configValue_cons, configValue_linesIf, lineValue, hip]
  · rename_i hip
    rcases hkey with rfl | rfl | rfl | rfl <;>
      simp [configValue_cons, lineValue, hip]

/-!
## What the writer leaves alone
-/

theorem coreZones_mgmt (s : Globals) : exists numbers zones ipAddr,
    zones.mgmt = s.zones.mgmt ∧ coreZones s = { s with
      numbers := numbers
      zones := zones
      ipAddr := ipAddr } := by
  have hkeep := ipNetmaskToNetwork_numbersOnly s.zones.mgmt s.admin.netmask s
  have hbase : exists numbers,
      afterCommand s (ipNetmaskToNetwork s.zones.mgmt s.admin.netmask s) =
        { s with numbers := numbers } := by
    unfold afterCommand
    cases hleft : (ipNetmaskToNetwork s.zones.mgmt s.admin.netmask s).left with
    | none => exact ⟨s.numbers, rfl⟩
    | some s' => exact hkeep s' hleft
  rcases hbase with ⟨numbers, hbase⟩
  unfold coreZones numToIp
  rw [hbase]
  dsimp only
  refine ⟨_, _, _, ?_, rfl⟩
  rfl

theorem swapOpnsense_nics (s : Globals) : exists nic nictags,
    swapOpnsense s = { s with
      admin.nic := nic
      nictags := nictags } := by
  unfold swapOpnsense
  simp only
  split
  · exact ⟨_, _, rfl⟩
  · exact ⟨s.admin.nic, s.nictags, rfl⟩

/-- The writer calculates zone addresses and swaps addresses of interfaces. -/
theorem written_keeps (s : Globals) : exists numbers zones ipAddr nic nictags,
    zones.mgmt = s.zones.mgmt ∧ s.written = { s with
      numbers := numbers
      zones := zones
      ipAddr := ipAddr
      admin.nic := nic
      nictags := nictags } := by
  rcases coreZones_mgmt s with ⟨numbers, zones, ipAddr, hmgmt, hcore⟩
  rcases swapOpnsense_nics (coreZones s) with ⟨nic, nictags, hswap⟩
  refine ⟨numbers, zones, ipAddr, nic, nictags, hmgmt, ?_⟩
  unfold Globals.written
  rw [hswap, hcore]

end Installer
end EsdcFactory
