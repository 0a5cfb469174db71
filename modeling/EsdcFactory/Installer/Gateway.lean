import EsdcFactory.Installer.Readable
import EsdcFactory.Installer.ServiceAddresses
import EsdcFactory.Lib.Fold

/-!
# The config that the headnode script expects

`headnode.sh` refuses a config without a default gateway, while the installer takes
`none` for an answer and then leaves the key out.  An address that bash cannot
compute with breaks off the main loop before all keys have their values.
-/

namespace EsdcFactory
namespace Installer

open BashArith Function

/-!
## `validate_config`
-/

/-- `_validate_config_var` -/
def validateConfigVar (var value : String) : Except String Unit :=
  if value = "" then
    .error ("Missing \"" ++ var ++ "\" option in configuration file")
  else .ok ()

/-- The keys that `validate_config` asks for. -/
def requiredKeys : List String :=
  ["admin_netmask", "headnode_default_gateway"] ++ serviceAddressKeys ++
    ["esdc_install_password"]

/-- `validate_config` -/
def validateConfig (lines : List ConfigLine) : Except String Unit :=
  forM requiredKeys fun key =>
    validateConfigVar key (valueOf (configValue lines key))

theorem validateConfigVar_ok_iff {var value : String} :
    validateConfigVar var value = .ok () <-> value ≠ "" := by
  unfold validateConfigVar
  split
  · rename_i h
    simp [h]
  · rename_i h
    simp [h]

theorem validateConfig_ok_iff {lines : List ConfigLine} :
    validateConfig lines = .ok () <->
      forall key, key ∈ requiredKeys -> valueOf (configValue lines key) ≠ "" := by
  refine Fold.forM_eq_ok_iff.trans ?_
  simp only [validateConfigVar_ok_iff]

/-!
## The default gateway of a pass
-/

/--
The answers of a pass name a gateway for the node.  Where the router gets its
addresses by DHCP, a network that is neither `admin` nor `external` leaves the
gateway of an earlier pass.
-/
def NamesGateway (a : Answers) (s : Globals) : Prop :=
  let nodeIp := valueOf (nictagAfter a s .external).ip
  if (decision s.advancedInstall s.hasExternal a).deployed then
    nodeIp = "" ∨ a.headnodeDefaultNetwork = "admin" ∨
      (¬ (a.headnodeDefaultNetwork = "external" ∧ nodeIp = "dhcp") ∧
        forall externalIp,
          acceptedExternalIp nodeIp a.opnsenseExternalIps = some externalIp ->
          if externalIp = "dhcp" then
            a.headnodeDefaultNetwork = "external" ∨
              (s.opnsense.externalGw ≠ "" ∧ s.opnsense.externalGw ≠ "none")
          else a.opnsenseExternalGw ≠ "none")
  else a.headnodeDefaultGateway ≠ "none"

/-- A value is written to the config, and is not empty there. -/
def Named (gateway : String) : Prop :=
  gateway ≠ "" ∧ gateway ≠ "none"

theorem isNetValue_named_iff {val : String} (h : isNetValue val = true) :
    Named val <-> val ≠ "none" :=
  ⟨And.right, fun hne => ⟨isNetValue_ne_empty h, hne⟩⟩

theorem named_lease {gateway lease : String} {p : Prop} [Decidable p]
    (hlease : lease ≠ "none") :
    Named (if p ∧ lease ≠ "" ∧ gateway = "opnsense" then lease else gateway) <->
      Named gateway := by
  split
  · rename_i h
    rw [h.right.right]
    constructor
    · intro _
      constructor <;> decide
    · intro _
      exact ⟨h.right.left, hlease⟩
  · rfl

theorem routerGateway_named_iff {a : Answers} {ip externalIp : String} {s : Globals}
    (hip : Named ip) (hlease : a.lease.gateway ≠ "none")
    (hgw : isNetValue a.opnsenseExternalGw = true) :
    Named (routerGateway a ip externalIp s) <->
      s.externalIp = "" ∨ a.headnodeDefaultNetwork = "admin" ∨
        (¬ (a.headnodeDefaultNetwork = "external" ∧ s.externalIp = "dhcp") ∧
          if externalIp = "dhcp" then
            a.headnodeDefaultNetwork = "external" ∨ Named s.opnsense.externalGw
          else a.opnsenseExternalGw ≠ "none") := by
  unfold routerGateway
  simp only
  rw [named_lease hlease]
  unfold gatewayChoice
  by_cases hnode : s.externalIp = ""
  · simp [hnode, hip]
  · rw [if_pos hnode]
    by_cases hadmin : a.headnodeDefaultNetwork = "admin"
    · simp [hadmin, hip]
    · rw [if_neg hadmin]
      by_cases hdhcp : a.headnodeDefaultNetwork = "external" ∧ s.externalIp = "dhcp"
      · simp [hdhcp, Named]
      · rw [if_neg hdhcp]
        by_cases hext : externalIp = "dhcp"
        · by_cases hnet : a.headnodeDefaultNetwork = "external"
          · have hword : Named "opnsense" := by constructor <;> decide
            have hstatic : s.externalIp ≠ "dhcp" := fun h => hdhcp ⟨hnet, h⟩
            simp [hext, hnet, hword, hstatic, hnode]
          · simp [hext, hnet, hnode, hadmin]
        · simp [hext, hnode, hadmin, hdhcp, isNetValue_named_iff hgw]

/-- What a pass leaves for the keys that the headnode script asks for. -/
structure PassNames (a : Answers) (s s' : Globals) : Prop where
  adminIp : s'.admin.ip ≠ "dhcp"
  adminNetmask : s'.admin.netmask ≠ ""
  gateway : Named s'.headnodeDefaultGateway <-> NamesGateway a s
  mgmt : s'.zones.mgmt ≠ ""
  password : s'.system.esdcInstallPassword ≠ ""

theorem pass_names {dladmAddress : String -> String} {a : Answers}
    {s s' : Globals} (ha : a.Accepted) (hlease : a.lease.gateway ≠ "none")
    (hready : s.Ready) (h : pass dladmAddress a s = .done s') : PassNames a s s' := by
  rcases pass_done h with
    ⟨t, vlan, etherstubs, numbers, routed, numbers', ipAddr, ht, hstatic, _, _,
      hrouting, rfl⟩
  rcases finished_eq dladmAddress a numbers' ipAddr routed with
    ⟨nic, marks, changeMacs, system, hend, _, hpassword⟩
  have hnetmask := isNetValue_ne_empty (ha.adminTries t ht).right
  have hmgmt := isNetValue_ne_empty ha.mgmtAdminIp
  have hexternal := tagged_hasExternal a t.ip t.netmask vlan etherstubs numbers s
  have hdeployed : ((tagged a t.ip t.netmask vlan etherstubs numbers s).externalIface ≠ "" ∧
      a.deployOpnsense = true) <->
        (decision s.advancedInstall s.hasExternal a).deployed = true := by
    show _ <-> ((decision s.advancedInstall s.hasExternal a).external &&
      a.deployOpnsense) = true
    rw [Bool.and_eq_true, ← hexternal]
    simp [Globals.hasExternal]
  rw [hend]
  rcases routingStage_done (by exact hready.opnsense) hrouting with
    ⟨hdeploy, ip, externalIp, router, network, numbers'', rfl, _, _, hmem, hip, haccepted⟩ |
    ⟨hnone, adminGateway, numbers'', rfl, _⟩
  · have hnamed : Named ip := ⟨isNetValue_ne_empty (ha.opnsenseAdminIps ip hmem), hip⟩
    refine ⟨hstatic, hnetmask, ?_, hmgmt, ?_⟩
    · unfold NamesGateway
      simp only
      rw [if_pos (hdeployed.mp hdeploy)]
      refine (routerGateway_named_iff hnamed hlease ha.opnsenseExternalGw).trans ?_
      have haccepted' : acceptedExternalIp (valueOf (nictagAfter a s .external).ip)
          a.opnsenseExternalIps = some externalIp := haccepted
      rw [haccepted']
      simp only [Option.some.injEq, forall_eq']
      rfl
    · rw [hpassword]
      exact ha.esdcInstallPassword
  · refine ⟨hstatic, hnetmask, ?_, hmgmt, ?_⟩
    · unfold NamesGateway
      simp only
      rw [if_neg fun h => hnone (hdeployed.mpr h)]
      exact isNetValue_named_iff ha.headnodeDefaultGateway
    · rw [hpassword]
      exact ha.esdcInstallPassword

/-!
## Configs of runs
-/

theorem dots_ne_empty (a b c d : String) : dots a b c d ≠ "" := by
  intro h
  have hlist := congrArg String.toList h
  simp [dots] at hlist

theorem printedIp_ne_empty (n : Word) : printedIp n ≠ "" :=
  dots_ne_empty _ _ _ _

theorem serviceAddresses_ne_empty {s : Globals} (hmgmt : s.zones.mgmt ≠ "") :
    forall ip, ip ∈ serviceAddresses s -> ip ≠ "" := by
  rw [serviceAddresses_eq]
  intro ip hip
  simp only [List.mem_cons, List.not_mem_nil, or_false] at hip
  rcases hip with rfl | rfl | rfl | rfl | rfl
  · exact hmgmt
  · exact printedIp_ne_empty _
  · exact printedIp_ne_empty _
  · exact printedIp_ne_empty _
  · exact printedIp_ne_empty _

/-- After a pass, the config is accepted exactly when a gateway is named. -/
theorem validateConfig_of_pass {sys : System} {a : Answers} {s s' : Globals}
    (h : PassNames a s s') :
    validateConfig (configFile sys s') = .ok () <-> NamesGateway a s := by
  rcases written_keeps s' with ⟨_, _, _, _, _, _, hwritten⟩
  have hnetmask : valueOf (configValue (configFile sys s') "admin_netmask") ≠ "" := by
    rw [configValue_adminNetmask, hwritten, if_pos h.adminIp]
    exact h.adminNetmask
  have hpassword : valueOf (configValue (configFile sys s') "esdc_install_password") ≠
      "" := by
    rw [configValue_installPassword, hwritten]
    exact h.password
  have hservices : forall key, key ∈ serviceAddressKeys ->
      valueOf (configValue (configFile sys s') key) ≠ "" := by
    intro key hkey
    have hmem : configValue (configFile sys s') key ∈ (serviceAddresses s').map some := by
      rw [← config_serviceAddresses sys s']
      exact List.mem_map_of_mem hkey
    rcases List.mem_map.mp hmem with ⟨ip, hip, hvalue⟩
    rw [← hvalue]
    exact serviceAddresses_ne_empty h.mgmt ip hip
  have hgateway : valueOf (configValue (configFile sys s') "headnode_default_gateway") ≠
      "" <-> Named s'.headnodeDefaultGateway := by
    rw [configValue_defaultGateway, hwritten]
    unfold Named
    split
    · rename_i hne
      simp [valueOf, hne]
    · rename_i hnone
      simp only [ne_eq, not_not] at hnone
      simp [valueOf, hnone]
  rw [validateConfig_ok_iff, ← h.gateway, ← hgateway]
  simp only [requiredKeys, List.mem_append, List.mem_cons, List.not_mem_nil, or_false]
  constructor
  · intro hall
    exact hall _ (Or.inl (Or.inl (Or.inr rfl)))
  · intro hgw key hparts
    rcases hparts with ((rfl | rfl) | hkey) | rfl
    · exact hnetmask
    · exact hgw
    · exact hservices key hkey
    · exact hpassword

/-- The config of a run is judged by its last pass. -/
theorem validateConfig_of_mainLoop {dladmAddress : String -> String} {sys : System}
    {passes : List Answers} {s s' : Globals}
    (hacc : forall a, a ∈ passes -> a.Accepted ∧ a.lease.gateway ≠ "none")
    (hready : s.Ready) (hrun : mainLoop dladmAddress passes s = .done s') :
    validateConfig (configFile sys s') = .ok () <->
      AtLast dladmAddress NamesGateway passes s := by
  induction passes generalizing s with
  | nil => cases hrun
  | cons a rest ih =>
      rcases hacc a List.mem_cons_self with ⟨ha, hlease⟩
      cases rest with
      | nil => exact validateConfig_of_pass (pass_names ha hlease hready hrun)
      | cons b rest =>
          rcases Outcome.bind_eq_done.mp hrun with ⟨s1, hfirst, hrest⟩
          have hrun1 := ih (fun a' ha' => hacc a' (List.mem_cons_of_mem a ha'))
            (pass_ready hready hfirst) hrest
          refine hrun1.trans ?_
          constructor
          · intro h s2 h2
            rw [hfirst] at h2
            cases h2
            exact h
          · intro h
            exact h s1 hfirst

/--
A run of the installer in which bash can read every address ends in a config that
the headnode script accepts exactly when the last pass names a gateway.
-/
theorem validateConfig_iff_namesGateway (dladmAddress : String -> String)
    (sys : System) (advanced : Bool) (passes : List Answers) (s : Globals)
    (hacc : forall a, a ∈ passes -> a.Accepted ∧ a.lease.gateway ≠ "none")
    (hread : Along dladmAddress Readable passes (Globals.initial advanced))
    (hrun : (mainLoop dladmAddress passes (Globals.initial advanced)).left = some s) :
    validateConfig (configFile sys s) = .ok () <->
      AtLast dladmAddress NamesGateway passes (Globals.initial advanced) := by
  have hready := initial_ready advanced
  have hdone := (mainLoop_unbroken hready hread).done_of_left hrun
  exact validateConfig_of_mainLoop hacc hready hdone

/-- The answers of an installation without a default gateway. -/
def ungatedAnswers : Answers :=
  { plainAnswers with headnodeDefaultGateway := "none" }

theorem ungatedAnswers_accepted : ungatedAnswers.Accepted :=
  { plainAnswers_accepted with headnodeDefaultGateway := by decide +kernel }

/-- The answer `none` for the gateway makes a config that is refused. -/
theorem ungated_config_is_refused : exists s,
    mainLoop plainDladm [ungatedAnswers] (Globals.initial false) = .done s ∧
      ungatedAnswers.Accepted ∧
      validateConfig (configFile plainSystem s) =
        .error "Missing \"headnode_default_gateway\" option in configuration file" := by
  have hrun : (mainLoop plainDladm [ungatedAnswers] (Globals.initial false)).passes
      (fun s => validateConfig (configFile plainSystem s) =
        .error "Missing \"headnode_default_gateway\" option in configuration file") =
        true := by
    decide +kernel
  rcases Outcome.passes_iff.mp hrun with ⟨s, hs, htest⟩
  exact ⟨s, hs, ungatedAnswers_accepted, by simpa using htest⟩

theorem plainAnswers_readable (advanced : Bool) :
    Readable plainAnswers (Globals.initial advanced) where
  admin := by
    intro t ht _
    rw [List.mem_singleton.mp ht]
    show (ipNumber "10.0.0.10").isSome = true ∧ (ipNumber "255.255.255.0").isSome = true
    decide +kernel
  tags := fun h => nomatch h
  router := fun h => nomatch h
  offer := by
    intro _ _ h
    exact absurd rfl h
  gateway := fun _ => Or.inr (by
    show (ipNumber "10.0.0.1").isSome = true
    decide +kernel)
  adminGateways := fun _ _ h => nomatch h

/-- A gateway on the admin network is enough. -/
theorem validateConfig_iff_namesGateway_plain : exists s,
    (mainLoop plainDladm [plainAnswers] (Globals.initial false)).left = some s ∧
      (validateConfig (configFile plainSystem s) = .ok () <->
        AtLast plainDladm NamesGateway [plainAnswers] (Globals.initial false)) := by
  have hrun : (mainLoop plainDladm [plainAnswers] (Globals.initial false)).passes
      (fun _ => true) = true := by
    decide +kernel
  rcases Outcome.passes_iff.mp hrun with ⟨s, hs, _⟩
  have hleft : (mainLoop plainDladm [plainAnswers] (Globals.initial false)).left =
      some s := by
    rw [hs]
    rfl
  refine ⟨s, hleft, validateConfig_iff_namesGateway plainDladm plainSystem false
    [plainAnswers] s ?_ ⟨plainAnswers_readable false, fun _ _ => trivial⟩ hleft⟩
  intro a ha
  rw [List.mem_singleton.mp ha]
  exact ⟨plainAnswers_accepted, by decide⟩

end Installer
end EsdcFactory
