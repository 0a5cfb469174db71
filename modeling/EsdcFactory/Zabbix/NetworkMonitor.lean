import EsdcFactory.Lib.Sed
import EsdcFactory.Lib.Text
import EsdcFactory.Zabbix.VmDisks

/-!
# The network interfaces of virtual machines

`vm-netif-discovery` tells Zabbix which interfaces the machines have, and
`vm-network-monitor` sends their counters, which it finds by the names that the kernel
gives to the links.  The templates of the server have items for an interface.
-/

namespace EsdcFactory
namespace Zabbix
namespace NetworkMonitor

open VmDisks (isSpace)

/-!
## Items
-/

/-- `@fields` -/
def fields : List String :=
  ["obytes64", "rbytes64", "opackets64", "ipackets64", "oerrors", "ierrors", "ifspeed"]

/-- A counter of the kernel and an item of Zabbix that takes it. -/
structure Metric where
  kstat : String
  zabbixItem : String

/-- `@metrics` -/
def metrics : List Metric :=
  [⟨"obytes64", "vm.net[_DEV_,obytes64]"⟩,
    ⟨"obytes64", "vm.net.bytes[_DEV_,out]"⟩,
    ⟨"rbytes64", "vm.net[_DEV_,rbytes64]"⟩,
    ⟨"rbytes64", "vm.net.bytes[_DEV_,in]"⟩,
    ⟨"opackets64", "vm.net[_DEV_,opackets64]"⟩,
    ⟨"ipackets64", "vm.net[_DEV_,ipackets64]"⟩,
    ⟨"oerrors", "vm.net[_DEV_,oerrors]"⟩,
    ⟨"ierrors", "vm.net[_DEV_,ierrors]"⟩,
    ⟨"ifspeed", "vm.net[_DEV_,ifspeed]"⟩]

/-- The characters behind as many as are to be skipped, with a text put in for another. -/
def replaceBehind (found text : List Char) : Nat -> List Char -> List Char
  | _, [] => []
  | skipped + 1, _ :: rest => replaceBehind found text skipped rest
  | 0, c :: rest =>
      if found.isPrefixOf (c :: rest) then
        text ++ replaceBehind found text (found.length - 1) rest
      else c :: replaceBehind found text 0 rest

/-- `s/_DEV_/$iface/g` -/
def itemOf (metric : Metric) (iface : List Char) : List Char :=
  replaceBehind "_DEV_".toList iface 0 metric.zabbixItem.toList

/-- A line for `zabbix_sender` -/
structure Sample where
  host : List Char
  item : List Char
  ts : Nat
  value : List Char
deriving DecidableEq

/-- `kstat_to_zabbix_item` -/
def kstatToZabbixItem (host iface : List Char) (kstat : String) (ts : Nat) (value : List Char) :
    List Sample :=
  (metrics.filter fun metric => kstat = metric.kstat).map fun metric =>
    ⟨host, itemOf metric iface, ts, value⟩

/-!
## The monitor
-/

/-- `grep` for a word -/
def mentions (word : String) (line : List Char) : Bool :=
  decide (word.toList <:+: line)

/-- `zoneadm list -p | grep -v global | grep running | cut -d: -f1`, cut into lines -/
def zoneids (zoneadm : List (List Char)) : List (List Char) :=
  (((zoneadm.filter fun line => !mentions "global" line).filter (mentions "running")).map
    (Text.before ':')).rdropWhile (· = [])

/-- What the kernel tells of a link. -/
structure Link where
  zonename : List Char
  stat : String -> List Char

/-- `$key =~ /z$zoneid\_(.*)/`, of a number -/
def isLinkOf (zoneid key : List Char) : Bool :=
  decide ('z' :: (zoneid ++ ['_']) <:+: key)

/-- The second field of `split(/_/, $key)`, with `s/eth/net/` -/
def deviceOf (key : List Char) : List Char :=
  Sed.replaceFirst "eth".toList "net".toList ((key.splitOn '_').getD 1 [])

/-- What is sent of a link. -/
def samplesOf (date : Nat) (entry : List Char × Link) : List Sample :=
  fields.flatMap fun field =>
    kstatToZabbixItem entry.2.zonename (deviceOf entry.1) field date (entry.2.stat field)

/-- A round of the loop: what is sent, for what `zoneadm` and the kernel tell at a date. -/
def poll (zoneadm : List (List Char)) (ifstats : List (List Char × Link)) (date : Nat) :
    List Sample :=
  (zoneids zoneadm).flatMap fun zoneid =>
    (ifstats.filter fun entry => isLinkOf zoneid entry.1).flatMap (samplesOf date)

/-!
## The discovery
-/

/-- `{#UUID}` and `{#NETIF}`, and `{#ALIAS}` if it is there -/
structure Entry where
  uuid : List Char
  netif : List Char
  vmAlias : Option (List Char)
deriving DecidableEq

/-- `^(.*):(.*)$`, in which the first group takes what it can -/
def columns (line : List Char) : Option (List Char × List Char) :=
  match (line.splitOn ':').reverse with
  | last :: first :: rest => some ([':'].intercalate (first :: rest).reverse, last)
  | _ => none

/-- The loop over the entries, for a machine. -/
def addAlias (entries : List Entry) (vm : List Char × List Char) : List Entry :=
  entries.map fun entry =>
    if vm.1 = entry.uuid then { entry with vmAlias := some vm.2 } else entry

/--
What `vm-netif-discovery` prints, from `dladm show-vnic -po zone,link` and
`vmadm list -Hpo uuid,alias`.  It fails on a line that does not match.
-/
def netifDiscovery (vnics vms : List (List Char)) : Option (List Entry) := do
  let entries <- vnics.mapM fun line => columns (line.rdropWhile isSpace)
  let aliases <- vms.mapM fun line => columns (line.rdropWhile isSpace)
  return aliases.foldl addAlias (entries.map fun entry => ⟨entry.1, entry.2, none⟩)

/-- The keys of the template `t_vm_network_net0` and its like, for the interface in the name. -/
def templateKeys (iface : List Char) : List (List Char) :=
  fields.map fun field => "vm.net[".toList ++ iface ++ ',' :: (field.toList ++ [']'])

/-!
## Machines
-/

/-- An interface of a machine, under a name that the listings do not cut. -/
structure Vnic where
  name : List Char
  stat : String -> List Char
  plain : forall c, c ∈ name -> c ≠ '_' ∧ c ≠ ':' ∧ c ≠ ',' ∧ c ≠ '[' ∧ isSpace c = false

/-- What an interface is called in the items. -/
def Vnic.device (vnic : Vnic) : List Char :=
  Sed.replaceFirst "eth".toList "net".toList vnic.name

/-- A machine as `zoneadm` lists it, with the fields behind the state as they are. -/
structure Machine where
  zoneid : List Char
  uuid : List Char
  vmAlias : List Char
  state : List Char
  rest : List Char
  vnics : List Vnic
  isNumber : zoneid.all Char.isDigit = true
  zoneid_ne : zoneid ≠ []
  uuid_plain : ':' ∉ uuid
  alias_plain : ':' ∉ vmAlias
  alias_stripped : vmAlias.rdropWhile isSpace = vmAlias

def Machine.isRunning (m : Machine) : Bool := m.state = "running".toList

def Machine.zoneadmLine (m : Machine) : List Char :=
  m.zoneid ++ ':' :: (m.uuid ++ ':' :: (m.state ++ ':' :: m.rest))

def Machine.vmadmLine (m : Machine) : List Char := m.uuid ++ ':' :: (m.vmAlias ++ ['\n'])

/-- The links that the kernel has for a machine. -/
def Machine.links (m : Machine) : List (List Char × Link) :=
  m.vnics.map fun vnic => ('z' :: (m.zoneid ++ '_' :: vnic.name), ⟨m.uuid, vnic.stat⟩)

/-- What is to be sent of a machine. -/
def Machine.due (date : Nat) (m : Machine) : List Sample :=
  m.vnics.flatMap fun vnic => metrics.map fun metric =>
    ⟨m.uuid, itemOf metric vnic.device, date, vnic.stat metric.kstat⟩

/-- The machines of a node, which no listing mixes up. -/
structure Node where
  machines : List Machine
  zoneid_nodup : (machines.map Machine.zoneid).Nodup
  uuid_nodup : (machines.map Machine.uuid).Nodup
  device_nodup : forall m, m ∈ machines -> (m.vnics.map Vnic.device).Nodup
  notGlobal : forall m, m ∈ machines -> mentions "global" m.zoneadmLine = false
  isRunning_eq : forall m, m ∈ machines -> mentions "running" m.zoneadmLine = m.isRunning

def Node.running (node : Node) : List Machine := node.machines.filter Machine.isRunning

/-!
## The monitor finds the links of a machine
-/

theorem Machine.digits (m : Machine) {c : Char} (hc : c ∈ m.zoneid) : c.isDigit = true :=
  List.all_eq_true.mp m.isNumber c hc

theorem Machine.zoneid_notMem (m : Machine) {c : Char} (h : c.isDigit = false) :
    c ∉ m.zoneid := by
  intro hc
  rw [m.digits hc] at h
  cases h

/-- A link belongs to the machine of its number, as the number stands between two marks. -/
theorem isLinkOf_iff (m other : Machine) (vnic : Vnic) :
    isLinkOf m.zoneid ('z' :: (other.zoneid ++ '_' :: vnic.name)) = true <->
      m.zoneid = other.zoneid := by
  rw [isLinkOf, decide_eq_true_eq]
  constructor
  · intro h
    rcases h with ⟨front, back, heq⟩
    have hnumber : '_' ∉ 'z' :: other.zoneid := by
      intro hmem
      rcases List.mem_cons.mp hmem with hz | hmem
      · cases hz
      · exact other.zoneid_notMem (by decide) hmem
    have hname : '_' ∉ vnic.name := fun hmem => (vnic.plain _ hmem).left rfl
    have hform : (front ++ 'z' :: m.zoneid) ++ '_' :: back =
        ('z' :: other.zoneid) ++ '_' :: vnic.name := by
      simpa using heq
    have hfront : '_' ∉ front ++ 'z' :: m.zoneid := by
      intro hmem
      have hpos := List.count_pos_iff.mpr hmem
      have hcount := congrArg (List.count '_') hform
      have hzero := List.count_eq_zero.mpr hnumber
      rw [@List.count_append _ _ _ _ ('_' :: back), @List.count_append _ _ _ _ ('_' :: vnic.name),
        List.count_cons_self, List.count_cons_self, List.count_eq_zero.mpr hname] at hcount
      omega
    have hcut := congrArg (Text.before '_') hform
    rw [Text.before_append_cons _ hfront, Text.before_append_cons _ hnumber] at hcut
    cases front with
    | nil => exact (List.cons.inj hcut).right
    | cons c front =>
        have hz : 'z' ∈ other.zoneid := by
          rw [← (List.cons.inj hcut).right]
          simp
        exact absurd hz (other.zoneid_notMem (by decide))
  · intro h
    exact ⟨[], vnic.name, by simp [h]⟩

theorem deviceOf_link (m : Machine) (vnic : Vnic) :
    deviceOf ('z' :: (m.zoneid ++ '_' :: vnic.name)) = vnic.device := by
  have hsplit : ('z' :: (m.zoneid ++ '_' :: vnic.name)).splitOn '_' =
      ['z' :: m.zoneid, vnic.name] := by
    have hjoin : 'z' :: (m.zoneid ++ '_' :: vnic.name) =
        ['_'].intercalate ['z' :: m.zoneid, vnic.name] := by simp [List.intercalate]
    rw [hjoin, List.splitOn_intercalate]
    · intro text htext
      simp only [List.mem_cons, List.not_mem_nil, or_false] at htext
      rcases htext with rfl | rfl
      · intro hmem
        rcases List.mem_cons.mp hmem with hz | hmem
        · cases hz
        · exact m.zoneid_notMem (by decide) hmem
      · exact fun hmem => (vnic.plain _ hmem).left rfl
    · exact List.cons_ne_nil _ _
  rw [deviceOf, hsplit]
  rfl

/-- The fields are gone through in the order of the metrics. -/
theorem samplesOf_eq (date : Nat) (key : List Char) (link : Link) :
    samplesOf date (key, link) = metrics.map fun metric =>
      ⟨link.zonename, itemOf metric (deviceOf key), date, link.stat metric.kstat⟩ := by
  simp [samplesOf, fields, kstatToZabbixItem, metrics]

theorem samplesOf_links (date : Nat) (m : Machine) :
    m.links.flatMap (samplesOf date) = m.due date := by
  rw [Machine.links, List.flatMap_map, Machine.due]
  apply List.flatMap_congr
  intro vnic _
  rw [samplesOf_eq, deviceOf_link]

/-- What one element contributes, told from what the others do. -/
theorem filter_flatMap_own {xs : List alpha} {f : alpha -> List beta} {p : beta -> Bool}
    {x : alpha} (hx : x ∈ xs) (hnodup : xs.Nodup) (hown : forall b, b ∈ f x -> p b = true)
    (hother : forall y, y ∈ xs -> y ≠ x -> forall b, b ∈ f y -> p b = false) :
    (xs.flatMap f).filter p = f x := by
  rcases List.append_of_mem hx with ⟨front, back, rfl⟩
  have hnone : forall ys : List alpha, (forall y, y ∈ ys -> y ∈ front ++ x :: back ∧ y ≠ x) ->
      (ys.flatMap f).filter p = [] := by
    intro ys hys
    apply List.filter_eq_nil_iff.mpr
    intro b hb
    rcases List.mem_flatMap.mp hb with ⟨y, hy, hbelow⟩
    rw [hother y (hys y hy).left (hys y hy).right b hbelow]
    exact Bool.false_ne_true
  have hapart := List.nodup_middle.mp hnodup
  rw [List.nodup_cons, List.mem_append, not_or] at hapart
  rw [List.flatMap_append, List.filter_append, List.flatMap_cons, List.filter_append,
    hnone front, hnone back, List.filter_eq_self.mpr hown, List.nil_append, List.append_nil]
  · intro y hy
    exact ⟨by simp [hy], fun heq => hapart.left.right (heq ▸ hy)⟩
  · intro y hy
    exact ⟨by simp [hy], fun heq => hapart.left.left (heq ▸ hy)⟩

/-!
## What is sent in a round
-/

/-- The links of the kernel: those of the machines and others, in any order. -/
def Node.Shows (node : Node) (ifstats : List (List Char × Link)) : Prop :=
  exists others, ifstats.Perm (node.machines.flatMap Machine.links ++ others) ∧
    forall m, m ∈ node.running -> forall entry, entry ∈ others ->
      isLinkOf m.zoneid entry.1 = false

theorem zoneids_listing (node : Node) {global : List Char}
    (hglobal : mentions "global" global = true) :
    zoneids (global :: node.machines.map Machine.zoneadmLine) =
      node.running.map Machine.zoneid := by
  have hnot : (node.machines.map Machine.zoneadmLine).filter (fun line => !mentions "global" line) =
      node.machines.map Machine.zoneadmLine := by
    apply List.filter_eq_self.mpr
    intro line hline
    rcases List.mem_map.mp hline with ⟨m, hm, rfl⟩
    rw [node.notGlobal m hm]
    rfl
  have hrunning : node.machines.filter (mentions "running" ∘ Machine.zoneadmLine) =
      node.running := by
    apply List.filter_congr
    intro m hm
    exact node.isRunning_eq m hm
  have hcut : Text.before ':' ∘ Machine.zoneadmLine = Machine.zoneid := by
    funext m
    exact Text.before_append_cons _ (m.zoneid_notMem (by decide))
  rw [zoneids, List.filter_cons_of_neg (by simp [hglobal]), hnot, List.filter_map, hrunning,
    List.map_map, hcut, List.rdropWhile_eq_self_iff]
  intro hne hempty
  rcases List.mem_map.mp (List.getLast_mem hne) with ⟨m, _, hm⟩
  exact m.zoneid_ne (hm.trans (of_decide_eq_true hempty))

theorem Node.running_sub (node : Node) {m : Machine} (h : m ∈ node.running) :
    m ∈ node.machines := (List.mem_filter.mp h).left

theorem Node.links_of (node : Node) {ifstats : List (List Char × Link)}
    (h : node.Shows ifstats) {m : Machine} (hm : m ∈ node.running) :
    (ifstats.filter fun entry => isLinkOf m.zoneid entry.1).Perm m.links := by
  rcases h with ⟨others, hperm, hothers⟩
  have hnone : others.filter (fun entry => isLinkOf m.zoneid entry.1) = [] := by
    apply List.filter_eq_nil_iff.mpr
    intro entry hentry
    rw [hothers m hm entry hentry]
    exact Bool.false_ne_true
  have hown : (node.machines.flatMap Machine.links).filter
      (fun entry => isLinkOf m.zoneid entry.1) = m.links := by
    apply filter_flatMap_own (node.running_sub hm) node.zoneid_nodup.of_map
    · intro entry hentry
      rcases List.mem_map.mp hentry with ⟨vnic, _, rfl⟩
      exact (isLinkOf_iff m m vnic).mpr rfl
    · intro other hother hne entry hentry
      rcases List.mem_map.mp hentry with ⟨vnic, _, rfl⟩
      have hdiffer := mt (isLinkOf_iff m other vnic).mp fun heq => hne
        (List.inj_on_of_nodup_map node.zoneid_nodup hother (node.running_sub hm) heq.symm)
      exact eq_false_of_ne_true hdiffer
  have hfilter := hperm.filter fun entry => isLinkOf m.zoneid entry.1
  rw [List.filter_append, hown, hnone, List.append_nil] at hfilter
  exact hfilter

/-- What is sent are the counters of the interfaces of the running machines. -/
theorem poll_perm (node : Node) {ifstats : List (List Char × Link)} (h : node.Shows ifstats)
    {global : List Char} (hglobal : mentions "global" global = true) (date : Nat) :
    (poll (global :: node.machines.map Machine.zoneadmLine) ifstats date).Perm
      (node.running.flatMap (Machine.due date)) := by
  rw [poll, zoneids_listing node hglobal, List.flatMap_map]
  apply List.Perm.flatMap_left
  intro m hm
  rw [← samplesOf_links]
  exact (node.links_of h hm).flatMap_right _

end NetworkMonitor
end Zabbix
end EsdcFactory
