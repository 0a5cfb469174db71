import EsdcFactory.Computenode.Cluster
import EsdcFactory.Headnode.Credentials
import EsdcFactory.Headnode.Rerun
import EsdcFactory.Installer.AnswersFile

/-!
# What compute nodes get from the headnode

The headnode fills the configuration database, and compute nodes take their settings
from it.  As long as nothing is set for one node or for remote nodes, a node talks to
the service VMs of the headnode, or to the address of its own database when it is remote.
-/

namespace EsdcFactory
namespace Computenode

open Installer Interleave Interrupt
open Headnode (Path creater creater_eq_none_iff Machine ManifestVars zkCreater InOrder
  configureCfgdb cfgdbEntries settingsEntries nodeEntries vmEntries setting)

/-!
## A database that is filled
-/

/-- Nodes are made one after the other. -/
def stored (entries : List (Path × List Char)) (store : Store) : Store :=
  entries.foldl (fun store entry => creater entry.1 entry.2 store) store

theorem stored_of_not_mem {entries : List (Path × List Char)} {p : Path}
    (h : p ∉ entries.map Prod.fst) {store : Store} (hthere : (store p).isSome) :
    stored entries store p = store p := by
  induction entries generalizing store with
  | nil => rfl
  | cons entry entries ih =>
      have hne : p ≠ entry.1 := fun heq => h (heq ▸ List.mem_cons_self)
      have hsame : creater entry.1 entry.2 store p = store p := by
        rw [creater, if_neg hne, if_neg]
        intro hparent
        rw [Option.isNone_iff_eq_none.mp hparent.2] at hthere
        cases hthere
      have hrest := ih (fun hmem => h (List.mem_cons_of_mem _ hmem)) (hsame ▸ hthere)
      exact hrest.trans hsame

theorem stored_of_mem {entries : List (Path × List Char)} (h : InOrder entries)
    {entry : Path × List Char} (hentry : entry ∈ entries) (store : Store) :
    stored entries store entry.1 = some entry.2 := by
  induction entries generalizing store with
  | nil => cases hentry
  | cons first entries ih =>
      rcases List.pairwise_cons.mp h with ⟨hfirst, hrest⟩
      rcases List.mem_cons.mp hentry with rfl | hlater
      · have hmade : creater entry.1 entry.2 store entry.1 = some entry.2 := if_pos rfl
        have hnot : entry.1 ∉ entries.map Prod.fst := by
          intro hmem
          rcases List.mem_map.mp hmem with ⟨later, hlater, heq⟩
          exact hfirst later hlater (heq ▸ List.prefix_rfl)
        have hthere : (creater entry.1 entry.2 store entry.1).isSome := by
          rw [hmade]
          rfl
        exact (stored_of_not_mem hnot hthere).trans hmade
      · exact ih hrest hlater _

theorem stored_eq_none {entries : List (Path × List Char)} {p : Path}
    (h : forall entry, entry ∈ entries -> ¬ p <+: entry.1) {store : Store}
    (hnone : store p = none) : stored entries store p = none := by
  induction entries generalizing store with
  | nil => exact hnone
  | cons entry entries ih =>
      apply ih fun other hother => h other (List.mem_cons_of_mem entry hother)
      exact creater_eq_none_iff.mpr ⟨hnone, h entry List.mem_cons_self⟩

theorem completes_stored {entries : List (Path × List Char)} (h : InOrder entries)
    {m : Machine} (hnone : forall entry, entry ∈ entries -> m.cfgdb entry.1 = none) :
    Completes (each zkCreater entries) m fun _ m' => m'.cfgdb = stored entries m.cfgdb := by
  induction entries generalizing m with
  | nil => exact completes_pure_iff.mpr rfl
  | cons entry entries ih =>
      rcases List.pairwise_cons.mp h with ⟨hfirst, hrest⟩
      have hmissing : ¬ (m.cfgdb entry.1).isSome := by
        rw [hnone entry List.mem_cons_self]
        exact Bool.false_ne_true
      rw [each, completes_bind_iff, zkCreater, completes_bind_iff, completes_read_iff,
        if_neg hmissing, completes_write_iff]
      apply ih hrest
      intro later hlater
      exact creater_eq_none_iff.mpr
        ⟨hnone later (List.mem_cons_of_mem entry hlater), hfirst later hlater⟩

/-!
## What the script asks for
-/

/-- The nodes of a setting. -/
theorem components_setting {path : String} (names : List String) (last : String)
    (hnames : forall name, name ∈ names -> '/' ∉ name.toList) (hlast : '/' ∉ last.toList)
    (hne : last.toList ≠ [])
    (hpath : path.toList =
      '/' :: names.flatMap (fun name => name.toList ++ ['/']) ++ last.toList) :
    components path = names ++ [last] := by
  have hfields : forall names : List String,
      (forall name, name ∈ names -> '/' ∉ name.toList) ->
      (BashArith.splitFields '/' (names.flatMap (fun name => name.toList ++ ['/']) ++
        last.toList)).map String.ofList = names ++ [last] := by
    intro names
    induction names with
    | nil =>
        intro _
        rw [List.flatMap_nil, List.nil_append, BashArith.splitFields_last hlast hne]
        simp
    | cons name names ih =>
        intro hall
        have hrest := ih fun other hother => hall other (List.mem_cons_of_mem name hother)
        rw [List.flatMap_cons, List.append_assoc, List.append_assoc, List.singleton_append,
          components_append (hall name List.mem_cons_self), hrest]
        rfl
  rw [components, hpath]
  exact hfields names hnames

theorem settings_not_above {hn : Headnode.Node} {env : Headnode.Env} {vars : ManifestVars}
    {m : Machine} {p : Path} (hlength : 4 < p.length) (hsettings : p[1]? = some "settings") :
    forall entry, entry ∈ cfgdbEntries hn env vars m -> ¬ p <+: entry.1 := by
  intro entry hentry hpath
  have hkind := Headnode.getElem_one_of_prefix hpath hsettings
  rw [cfgdbEntries, List.mem_append, List.mem_append] at hentry
  rcases hentry with (hentry | hentry) | hentry
  · have hfour := Headnode.length_settingsEntries hentry
    have hle := hpath.length_le
    omega
  · rw [Headnode.second_nodeEntries hentry] at hkind
    exact absurd hkind (by decide)
  · rcases List.mem_flatMap.mp hentry with ⟨vm, _, hvm⟩
    rw [(Headnode.second_vmEntries hvm).1] at hkind
    exact absurd hkind (by decide)

/-!
## The settings of a node
-/

/-- A text that a command substitution leaves as it is. -/
structure IsLine (text : List Char) : Prop where
  ne_nil : text ≠ []
  noNewline : '\n' ∉ text
  noNul : '\x00' ∉ text

/-- A remote node talks to the address of its database, which is a proxy. -/
def ComputeNode.host (node : ComputeNode) (ip : List Char) : List Char :=
  if node.isRemote ∧ node.cfgdbIp ≠ [] then node.cfgdbIp else ip

/-- The settings that the headnode provides for. -/
def ComputeNode.provided (node : ComputeNode) (vars : ManifestVars) : Settings where
  rabbitmqIp := node.host vars.mgmtIp
  redisIp := node.host vars.mgmtIp
  monIp := node.host vars.monIp
  rabbitmqPassword := vars.rabbitmqPassword
  redisPassword := vars.redisPassword

structure Lines (vars : ManifestVars) : Prop where
  mgmtIp : IsLine vars.mgmtIp
  monIp : IsLine vars.monIp
  rabbitmqPassword : IsLine vars.rabbitmqPassword
  redisPassword : IsLine vars.redisPassword

theorem zk_of_isLine {cfgdb : Cfgdb} {path : String} {text : List Char}
    (h : cfgdb path = some text) (hline : IsLine text) : zk cfgdb path = some text := by
  rw [zk, h, Option.map_some, substituted_line hline.noNewline hline.noNul]

theorem optionalHost_of_none {cfgdb : Cfgdb} {node : ComputeNode} {service : String}
    (hnode : cfgdb s!"/esdc/settings/node/{node.hostname}/{service}/host" = none)
    (hremote : cfgdb s!"/esdc/settings/remote/{service}/host" = none) :
    optionalHost cfgdb node.hostname node.isRemote node.cfgdbIp service =
      if node.isRemote then node.cfgdbIp else [] := by
  rw [optionalHost, zkNoerror, zkNoerror, hnode, hremote]
  rfl

/-- The host that a node takes when there is only the setting for all nodes. -/
theorem orZk_host {cfgdb : Cfgdb} {node : ComputeNode} {path : String} {ip : List Char}
    (h : cfgdb path = some ip) (hline : IsLine ip) :
    orZk cfgdb (if node.isRemote then node.cfgdbIp else []) path = some (node.host ip) := by
  rw [orZk, zk_of_isLine h hline, ComputeNode.host]
  cases node.isRemote with
  | false => rfl
  | true =>
      by_cases hip : node.cfgdbIp = []
      · simp [hip]
      · simp [hip]

section Filled

variable {hn : Headnode.Node} {env : Headnode.Env} {vars : ManifestVars} {m : Machine}

/-- What the headnode makes of an empty database. -/
def filled (hn : Headnode.Node) (env : Headnode.Env) (vars : ManifestVars) (m : Machine) :
    Store :=
  stored (cfgdbEntries hn env vars m) fun _ => none

theorem filled_setting {group key : String} {value : List Char}
    (h : setting group key value ∈ settingsEntries hn vars (m.svcCertFile.getD []))
    {path : String} (hpath : components path = ["esdc", "settings", group, key]) :
    cfgdbOf (filled hn env vars m) path = some value := by
  have hmem : setting group key value ∈ cfgdbEntries hn env vars m :=
    List.mem_append_left _ (List.mem_append_left _ h)
  rw [cfgdbOf, hpath]
  exact stored_of_mem (Headnode.cfgdbEntries_inOrder hn env vars m) hmem _

theorem filled_none {path : String} (hlength : 4 < (components path).length)
    (hsettings : (components path)[1]? = some "settings") :
    cfgdbOf (filled hn env vars m) path = none :=
  stored_eq_none (settings_not_above hlength hsettings) rfl

theorem components_nodeHost (node : ComputeNode) {service : String}
    (h : '/' ∉ service.toList) :
    components s!"/esdc/settings/node/{node.hostname}/{service}/host" =
      ["esdc", "settings", "node", node.hostname, service, "host"] := by
  refine components_setting ["esdc", "settings", "node", node.hostname, service]
    "host" ?_ (by decide) (by decide) ?_
  · have hhostname := node.noSlash
    simp [h, hhostname]
  · simp [toString]

theorem components_nodePassword (node : ComputeNode) {path service : String}
    (hservice : '/' ∉ service.toList)
    (hpath : path = s!"/esdc/settings/{node.hostname}/{service}/password") :
    components path = ["esdc", "settings", node.hostname, service, "password"] := by
  subst hpath
  refine components_setting ["esdc", "settings", node.hostname, service]
    "password" ?_ (by decide) (by decide) ?_
  · have hhostname := node.noSlash
    simp [hservice, hhostname]
  · simp [toString]

theorem components_remoteHost {service : String} (h : '/' ∉ service.toList) :
    components s!"/esdc/settings/remote/{service}/host" =
      ["esdc", "settings", "remote", service, "host"] := by
  refine components_setting ["esdc", "settings", "remote", service]
    "host" ?_ (by decide) (by decide) ?_
  · simp [h]
  · simp [toString]

theorem filled_nodeHost (node : ComputeNode) {service : String} (h : '/' ∉ service.toList) :
    cfgdbOf (filled hn env vars m)
      s!"/esdc/settings/node/{node.hostname}/{service}/host" = none := by
  apply filled_none
  · rw [components_nodeHost node h]
    exact (by decide : 4 < 6)
  · rw [components_nodeHost node h]
    rfl

theorem filled_remoteHost {service : String} (h : '/' ∉ service.toList) :
    cfgdbOf (filled hn env vars m) s!"/esdc/settings/remote/{service}/host" = none := by
  apply filled_none
  · rw [components_remoteHost h]
    exact (by decide : 4 < 5)
  · rw [components_remoteHost h]
    rfl

theorem filled_nodePassword (node : ComputeNode) {path service : String}
    (hservice : '/' ∉ service.toList)
    (hpath : path = s!"/esdc/settings/{node.hostname}/{service}/password") :
    cfgdbOf (filled hn env vars m) path = none := by
  have hcomponents := components_nodePassword node hservice hpath
  apply filled_none
  · rw [hcomponents]
    exact (by decide : 4 < 5)
  · rw [hcomponents]
    rfl

theorem filled_host {node : ComputeNode} {service path : String} {ip : List Char}
    (hservice : '/' ∉ service.toList) (hline : IsLine ip)
    (hip : cfgdbOf (filled hn env vars m) path = some ip) :
    orZk (cfgdbOf (filled hn env vars m)) (optionalHost (cfgdbOf (filled hn env vars m))
      node.hostname node.isRemote node.cfgdbIp service) path = some (node.host ip) := by
  rw [optionalHost_of_none (filled_nodeHost node hservice) (filled_remoteHost hservice)]
  exact orZk_host hip hline

theorem filled_password (node : ComputeNode) (service : String) {path global : String}
    {password : List Char} (hservice : '/' ∉ service.toList)
    (hpath : path = s!"/esdc/settings/{node.hostname}/{service}/password")
    (hline : IsLine password)
    (hpassword : cfgdbOf (filled hn env vars m) global = some password) :
    orZk (cfgdbOf (filled hn env vars m)) (zkNoerror (cfgdbOf (filled hn env vars m)) path)
      global = some password := by
  rw [zkNoerror, filled_nodePassword node hservice hpath]
  exact zk_of_isLine hpassword hline

theorem host_ne_nil (node : ComputeNode) {ip : List Char} (h : IsLine ip) :
    node.host ip ≠ [] := by
  rw [ComputeNode.host]
  split
  · next hremote => exact hremote.2
  · exact h.ne_nil

end Filled

theorem settings_filled (hn : Headnode.Node) (env : Headnode.Env) {vars : ManifestVars}
    (m : Machine) (node : ComputeNode) (h : Lines vars) :
    node.settings (filled hn env vars m) = some (node.provided vars) := by
  have hset : forall group key value,
      setting group key value ∈ settingsEntries hn vars (m.svcCertFile.getD []) ->
      forall path : String, components path = ["esdc", "settings", group, key] ->
      cfgdbOf (filled hn env vars m) path = some value :=
    fun group key value hmem path hpath => filled_setting hmem hpath
  have hrabbitmq := hset "rabbitmq" "host" vars.mgmtIp (by simp [settingsEntries])
    "/esdc/settings/rabbitmq/host" (by decide)
  have hredis := hset "redis" "host" vars.mgmtIp (by simp [settingsEntries])
    "/esdc/settings/redis/host" (by decide)
  have hzabbix := hset "zabbix" "host" vars.monIp (by simp [settingsEntries])
    "/esdc/settings/zabbix/host" (by decide)
  have hrabbitmqPassword := hset "rabbitmq" "password" vars.rabbitmqPassword
    (by simp [settingsEntries]) "/esdc/settings/rabbitmq/password" (by decide)
  have hredisPassword := hset "redis" "password" vars.redisPassword
    (by simp [settingsEntries]) "/esdc/settings/redis/password" (by decide)
  rw [ComputeNode.settings, pullCfgdbData]
  rw [filled_host (by decide) h.mgmtIp hrabbitmq, filled_host (by decide) h.mgmtIp hredis,
    filled_host (by decide) h.monIp hzabbix,
    filled_password node "rabbitmq" (by decide) (by simp [toString, String.append_assoc])
      h.rabbitmqPassword hrabbitmqPassword,
    filled_password node "redis" (by decide) (by simp [toString, String.append_assoc])
      h.redisPassword hredisPassword]
  simp [host_ne_nil, h.mgmtIp, h.monIp, h.rabbitmqPassword.ne_nil, h.redisPassword.ne_nil,
    ComputeNode.provided]

/--
After the headnode has filled an empty database, every compute node that registers, in
whichever order they all take turns and are rebooted, has the settings of the headnode.
-/
theorem nodes_get_provided_settings {party : Type} [DecidableEq party] (hn : Headnode.Node)
    (env : Headnode.Env) (vars : ManifestVars) (m : Machine)
    (hempty : forall path, m.cfgdb path = none) (hlines : Lines vars)
    (node : party -> ComputeNode)
    (huuid : forall i j, i ≠ j -> (node i).uuid ≠ (node j).uuid)
    (turns : List (Turn party Action Change)) (hturns : Allowed (IsElsewhere node) turns) :
    Completes (configureCfgdb hn env vars) m fun _ m' => forall i,
      ((cluster node).run (beginning node m'.cfgdb) turns).own i ≠ .aborted ∧
      forall got,
        ((cluster node).run (beginning node m'.cfgdb) turns).own i = .registered got ->
        got = (node i).provided vars := by
  have hcompletes : Completes (configureCfgdb hn env vars) m fun _ m' =>
      m'.cfgdb = filled hn env vars m := by
    have hnone : m.cfgdb = fun _ => none := funext hempty
    rw [configureCfgdb, completes_bind_iff, completes_read_iff, filled, ← hnone]
    exact completes_stored (Headnode.cfgdbEntries_inOrder hn env vars m)
      fun entry _ => hempty entry.1
  rcases hcompletes with ⟨a, ha, hcfgdb⟩
  refine ⟨a, ha, ?_⟩
  intro i
  rw [hcfgdb]
  have hinv := (cluster_keeps huuid (filled hn env vars m)).run
    (inv_beginning node (filled hn env vars m)) hturns
  have hreached := (hinv i).reached
  have hfound := settings_filled hn env m (node i) hlines
  constructor
  · intro haborted
    rw [haborted] at hreached
    cases hreached.symm.trans hfound
  · intro got hgot
    rw [hgot] at hreached
    exact Option.some.inj (hreached.1.symm.trans hfound)

/-- Values for the manifests, of which compute nodes get four. -/
def plainVars : ManifestVars :=
  { Headnode.plainNode.manifestVars Headnode.plainEnv [] (fun _ => ['p']) [] [] with
    mgmtIp := ['1'], monIp := ['2'] }

theorem lines_plainVars : Lines plainVars := by
  constructor
  · exact ⟨by decide, by decide, by decide⟩
  · exact ⟨by decide, by decide, by decide⟩
  · exact ⟨by decide, by decide, by decide⟩
  · exact ⟨by decide, by decide, by decide⟩

theorem pair_gets_provided_settings :
    Completes (configureCfgdb Headnode.plainNode Headnode.plainEnv plainVars) {} fun _ m' =>
      forall i,
        ((cluster pair).run (beginning pair m'.cfgdb) crossedTurns).own i ≠ .aborted ∧
        forall got, ((cluster pair).run (beginning pair m'.cfgdb) crossedTurns).own i =
            .registered got ->
          got = (pair i).provided plainVars :=
  nodes_get_provided_settings Headnode.plainNode Headnode.plainEnv plainVars {} (fun _ => rfl)
    lines_plainVars pair uuid_pair crossedTurns allowed_crossedTurns

end Computenode
end EsdcFactory
