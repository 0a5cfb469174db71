import EsdcFactory.Installer.Interfaces

/-!
# What bringing up and taking down does to the links

The commands that the functions issue, and which of them undo which.
-/

namespace EsdcFactory
namespace Installer

open Undo Function

/-!
## Issued commands
-/

def netAfter (cs : List Command) (net : Net) : Net :=
  cs.foldl (fun net c => c.exec net) net

/-- Commands with the links at the moment they are issued. -/
def issuedFrom : List Command -> Net -> List (Command × Net)
  | [], _ => []
  | c :: rest, net => (c, net) :: issuedFrom rest (c.exec net)

theorem netAfter_append (cs cs' : List Command) (net : Net) :
    netAfter (cs ++ cs') net = netAfter cs' (netAfter cs net) :=
  List.foldl_append

theorem issuedFrom_append (cs cs' : List Command) (net : Net) :
    issuedFrom (cs ++ cs') net = issuedFrom cs net ++ issuedFrom cs' (netAfter cs net) := by
  induction cs generalizing net with
  | nil => rfl
  | cons c rest ih =>
      rw [List.cons_append, issuedFrom, ih]
      rfl

/-- Between two moments these commands were issued, and no others. -/
structure Issues (x y : Shell) (cs : List Command) : Prop where
  net : y.net = netAfter cs x.net
  issued : y.issued = x.issued ++ issuedFrom cs x.net

theorem Issues.nil {x y : Shell} (hnet : y.net = x.net) (hissued : y.issued = x.issued) :
    Issues x y [] :=
  ⟨hnet, by rw [hissued]; exact (List.append_nil _).symm⟩

theorem Issues.trans {x y z : Shell} {cs cs' : List Command} (h : Issues x y cs)
    (h' : Issues y z cs') : Issues x z (cs ++ cs') where
  net := by rw [h'.net, h.net, netAfter_append]
  issued := by rw [h'.issued, h.issued, h.net, issuedFrom_append, List.append_assoc]

theorem issueAll_issues (x : Shell) (cs : List Command) : Issues x (x.issueAll cs) cs := by
  induction cs generalizing x with
  | nil => exact .nil rfl rfl
  | cons c rest ih =>
      have hfirst : Issues x (x.issue c) [c] := ⟨rfl, rfl⟩
      exact hfirst.trans (ih (x.issue c))

theorem Issues.congr {x y z : Shell} {cs : List Command} (h : Issues x y cs)
    (hnet : z.net = y.net) (hissued : z.issued = y.issued) : Issues x z cs :=
  ⟨hnet.trans h.net, hissued.trans h.issued⟩

@[simp] theorem issueAll_vars (x : Shell) (cs : List Command) :
    (x.issueAll cs).vars = x.vars := by
  induction cs generalizing x with
  | nil => rfl
  | cons c rest ih => exact ih (x.issue c)

@[simp] theorem issueAll_adminIfaceActive (x : Shell) (cs : List Command) :
    (x.issueAll cs).adminIfaceActive = x.adminIfaceActive := by
  induction cs generalizing x with
  | nil => rfl
  | cons c rest ih => exact ih (x.issue c)

/-!
## Commands that succeed
-/

def opsOf (cs : List Command) : List (Op (LinkKind × String) LinkState) :=
  cs.filterMap Command.op

/-- All commands that were issued have succeeded. -/
def Shell.Succeeded (x : Shell) : Prop :=
  forall c net, (c, net) ∈ x.issued -> c.succeeds net = true

theorem succeeds_applies {c : Command} {net : Net} {op : Op (LinkKind × String) LinkState}
    (hop : c.op = some op) (h : c.succeeds net = true) : op.applies net = true := by
  cases c with
  | createEtherstub name =>
      cases hop
      simp [Command.succeeds, Net.isFree] at h
      simp [Op.applies, h]
  | deleteEtherstub name =>
      cases hop
      exact h
  | createVnic link vlan mac name =>
      cases hop
      simp [Command.succeeds, Net.isFree] at h
      simp [Op.applies, h]
  | deleteVnic name =>
      cases hop
      exact h
  | ether link mac =>
      cases hop
      exact h
  | ip words => cases hop

theorem netAfter_eq_run {cs : List Command} {net : Net}
    (h : forall c net', (c, net') ∈ issuedFrom cs net -> c.succeeds net' = true) :
    AllApply (opsOf cs) net ∧ netAfter cs net = run (opsOf cs) net := by
  induction cs generalizing net with
  | nil => exact ⟨trivial, rfl⟩
  | cons c rest ih =>
      have hfirst : c.succeeds net = true := h c net List.mem_cons_self
      have hrest := @ih (c.exec net) fun c' net' hmem =>
        h c' net' (List.mem_cons_of_mem _ hmem)
      cases hop : c.op with
      | none =>
          have hexec : c.exec net = net := by simp [Command.exec, hop]
          rw [hexec] at hrest
          have hops : opsOf (c :: rest) = opsOf rest := by simp [opsOf, hop]
          rw [hops]
          exact ⟨hrest.1, by rw [← hrest.2, ← hexec]; simp [netAfter, hexec]⟩
      | some op =>
          have hexec : c.exec net = op.apply net := by simp [Command.exec, hop, hfirst]
          rw [hexec] at hrest
          have hops : opsOf (c :: rest) = op :: opsOf rest := by simp [opsOf, hop]
          rw [hops]
          refine ⟨⟨succeeds_applies hop hfirst, hrest.1⟩, ?_⟩
          rw [run_cons, ← hrest.2, ← hexec]
          rfl

theorem Issues.succeeded {x y : Shell} {cs : List Command} (h : Issues x y cs)
    (hy : y.Succeeded) : x.Succeeded ∧
      forall c net', (c, net') ∈ issuedFrom cs x.net -> c.succeeds net' = true := by
  constructor
  · intro c net hmem
    exact hy c net (h.issued ▸ List.mem_append_left _ hmem)
  · intro c net hmem
    exact hy c net (h.issued ▸ List.mem_append_right _ hmem)

/-- Commands that undo those before lead back to the links before them. -/
theorem Issues.undone {x y z : Shell} {ups downs : List Command} (hup : Issues x y ups)
    (hdown : Issues y z downs) (hz : z.Succeeded)
    (hundoes : Undoes x.net (opsOf ups) (opsOf downs)) : z.net = x.net := by
  rcases hdown.succeeded hz with ⟨hy, hdowns⟩
  rcases hup.succeeded hy with ⟨_, hups⟩
  rcases netAfter_eq_run hups with ⟨happly, hrunUp⟩
  rcases netAfter_eq_run hdowns with ⟨_, hrunDown⟩
  rw [hdown.net, hrunDown, hup.net, hrunUp]
  exact run_undoes hundoes happly

/-!
## Parts of the configuration
-/

theorem opsOf_append (cs cs' : List Command) : opsOf (cs ++ cs') = opsOf cs ++ opsOf cs' :=
  List.filterMap_append

theorem stubs_undo (net : Net) (stubs : List String) :
    Undoes net (opsOf (stubs.map .createEtherstub)) (opsOf (stubs.map .deleteEtherstub)) := by
  have hups : opsOf (stubs.map .createEtherstub) =
      stubs.map fun stub => .create (.etherstub, stub) {} := by
    rw [opsOf, List.filterMap_map, ← List.filterMap_eq_map]
    rfl
  have hdowns : opsOf (stubs.map .deleteEtherstub) =
      stubs.map fun stub => .delete (.etherstub, stub) := by
    rw [opsOf, List.filterMap_map, ← List.filterMap_eq_map]
    rfl
  rw [hups, hdowns]
  constructor
  · simp
  · simp
  · intro key value h
    rcases List.mem_map.mp h with ⟨stub, hstub, heq⟩
    cases heq
    exact List.mem_map_of_mem hstub
  · intro key h
    rcases List.mem_map.mp h with ⟨stub, hstub, heq⟩
    cases heq
    exact ⟨_, List.mem_map_of_mem hstub⟩
  · simp
  · simp

/-- What both functions look at for the admin network agree. -/
theorem admin_undo (net : Net) {s s' : Globals} (hvlan : s'.admin.vlanId = s.admin.vlanId)
    (hiface : s'.admin.iface = s.admin.iface)
    (hid : s.admin.vlanId ≠ "" -> vlanNonzero s.admin.vlanId = true) :
    Undoes net (opsOf (adminUp s)) (opsOf (adminDown s' (activeIface s))) := by
  by_cases hvnic : s.admin.vlanId ≠ "" ∨ s.admin.iface = "etherstub"
  · have hdown : s.admin.vlanId ≠ "" ∧ vlanNonzero s.admin.vlanId = true ∨
        s.admin.iface = "etherstub" := hvnic.imp (fun h => ⟨h, hid h⟩) id
    have hactive : activeIface s = "admin0" := by simp [activeIface, hvnic]
    have hups : opsOf (adminUp s) = [.create (.vnic, "admin0")
        { lower := some (if s.admin.iface = "etherstub" then s.admin.nic else s.admin.iface)
          vlan := if vlanNonzero s.admin.vlanId then s.admin.vlanId else "" }] := by
      rw [adminUp, if_pos hvnic, hactive]
      by_cases hdhcp : s.admin.ip = "dhcp"
      · rw [if_pos hdhcp]
        rfl
      · rw [if_neg hdhcp]
        rfl
    have hdowns : opsOf (adminDown s' (activeIface s)) = [.delete (.vnic, "admin0")] := by
      rw [adminDown, hvlan, hiface, if_pos hdown, hactive]
      rfl
    rw [hups, hdowns]
    constructor <;> simp
  · have hdown : ¬ (s.admin.vlanId ≠ "" ∧ vlanNonzero s.admin.vlanId = true ∨
        s.admin.iface = "etherstub") := fun h => hvnic (h.imp And.left id)
    have hups : opsOf (adminUp s) = [] := by
      rw [adminUp, if_neg hvnic]
      by_cases hdhcp : s.admin.ip = "dhcp"
      · rw [if_pos hdhcp]
        rfl
      · rw [if_neg hdhcp]
        rfl
    have hdowns : opsOf (adminDown s' (activeIface s)) = [] := by
      rw [adminDown, hvlan, hiface, if_neg hdown]
      rfl
    rw [hups, hdowns]
    exact .nil net

theorem opsOf_tagUp (net : Net) (newMac : MacKey -> String) {s : Globals} {ntag : NicTag}
    {ip : String} (hip : (s.nictags ntag).ip = some ip) :
    opsOf (tagUp net newMac s ntag) =
      if valueOf (s.nictagPreserveMac (.tag ntag)) ≠ "" then
        [.set (.physical, valueOf (s.nictags ntag).iface) { mac := some (newMac (.tag ntag)) },
          .create (.vnic, ntag.vnic)
            { lower := some (valueOf (s.nictags ntag).iface)
              mac := some (net.address (valueOf (s.nictags ntag).iface))
              vlan := valueOf (s.nictags ntag).vlan }]
      else [.create (.vnic, ntag.vnic)
            { lower := some (valueOf (s.nictags ntag).iface)
              vlan := valueOf (s.nictags ntag).vlan }] := by
  unfold tagUp
  simp only [hip]
  by_cases hpair : valueOf (s.nictagPreserveMac (.tag ntag)) ≠ ""
  · rw [if_pos hpair, if_pos hpair]
    split <;> rfl
  · rw [if_neg hpair, if_neg hpair]
    split <;> rfl

theorem opsOf_tagDown {s : Globals} {ntag : NicTag} {ip : String}
    (hip : (s.nictags ntag).ip = some ip) :
    opsOf (tagDown s ntag) =
      if valueOf (s.nictagPreserveMac (.tag ntag)) ≠ "" then
        [.delete (.vnic, ntag.vnic), .set (.physical, valueOf (s.nictags ntag).iface)
          { mac := some (pairFirst (valueOf (s.nictagPreserveMac (.tag ntag)))) }]
      else [.delete (.vnic, ntag.vnic)] := by
  unfold tagDown
  simp only [hip]
  by_cases hpair : valueOf (s.nictagPreserveMac (.tag ntag)) ≠ ""
  · rw [if_pos hpair, if_pos hpair]
    rfl
  · rw [if_neg hpair, if_neg hpair]
    rfl

/-- A tag whose mark tells the address that its interface has without the tag. -/
theorem tag_undo {net upNet : Net} {newMac : MacKey -> String} {s s' : Globals}
    {ntag : NicTag} (htag : s'.nictags ntag = s.nictags ntag)
    (hmark : (s.nictags ntag).ip.isSome ->
      (valueOf (s'.nictagPreserveMac (.tag ntag)) ≠ "" <->
        valueOf (s.nictagPreserveMac (.tag ntag)) ≠ ""))
    (hback : (s.nictags ntag).ip.isSome ->
      valueOf (s'.nictagPreserveMac (.tag ntag)) ≠ "" ->
      net (.physical, valueOf (s.nictags ntag).iface) =
        some { mac := some (pairFirst (valueOf (s'.nictagPreserveMac (.tag ntag)))) }) :
    Undoes net (opsOf (tagUp upNet newMac s ntag)) (opsOf (tagDown s' ntag)) := by
  cases hip : (s.nictags ntag).ip with
  | none =>
      have hups : tagUp upNet newMac s ntag = [] := by simp [tagUp, hip]
      have hdowns : tagDown s' ntag = [] := by simp [tagDown, htag, hip]
      rw [hups, hdowns]
      exact .nil net
  | some ip =>
      rw [hip] at hmark hback
      rw [opsOf_tagUp upNet newMac hip, opsOf_tagDown (htag ▸ hip), htag]
      by_cases hpair : valueOf (s.nictagPreserveMac (.tag ntag)) ≠ ""
      · have hpair' := (hmark rfl).mpr hpair
        rw [if_pos hpair, if_pos hpair']
        constructor <;> simp [hback rfl hpair']
      · have hpair' := mt (hmark rfl).mp hpair
        rw [if_neg hpair, if_neg hpair']
        constructor <;> simp

theorem router_undo {net : Net} {newMac : MacKey -> String} {s s' : Globals}
    (htag : s'.nictags .external = s.nictags .external)
    (htype : s'.opnsense.externalMacType = s.opnsense.externalMacType)
    (hmac : s'.opnsense.externalMac = s.opnsense.externalMac)
    (hback : s.opnsense.externalMacType = "node" ->
      net (.physical, valueOf (s.nictags .external).iface) =
        some { mac := some s.opnsense.externalMac }) :
    Undoes net (opsOf (routerUp newMac s)) (opsOf (routerDown s')) := by
  have hups : opsOf (routerUp newMac s) =
      (if s.opnsense.externalMacType = "node" then
        [.set (.physical, valueOf (s.nictags .external).iface)
          { mac := some (newMac .opnsense) }] else []) ++
      [.create (.vnic, "opnsense0")
        { lower := some (valueOf (s.nictags .external).iface)
          mac := routerMac s
          vlan := s.opnsense.externalVlan }] := by
    unfold routerUp
    simp only [opsOf_append]
    split <;> split <;> rfl
  have hdowns : opsOf (routerDown s') = .delete (.vnic, "opnsense0") ::
      (if s.opnsense.externalMacType = "node" then
        [.set (.physical, valueOf (s.nictags .external).iface)
          { mac := some s.opnsense.externalMac }] else []) := by
    unfold routerDown
    rw [htag, htype, hmac]
    split <;> rfl
  rw [hups, hdowns]
  by_cases hnode : s.opnsense.externalMacType = "node"
  · rw [if_pos hnode, if_pos hnode]
    constructor <;> simp [hback hnode]
  · rw [if_neg hnode, if_neg hnode]
    constructor <;> simp

theorem ether_notMem_adminUp (s : Globals) (link mac : String) :
    .ether link mac ∉ adminUp s := by
  unfold adminUp
  simp only [List.mem_append, not_or]
  refine ⟨⟨?_, by simp⟩, ?_⟩
  · split <;> simp
  · split <;> simp

theorem ether_notMem_routerUp {newMac : MacKey -> String} {s : Globals}
    (hnode : s.opnsense.externalMacType ≠ "node") (link mac : String) :
    .ether link mac ∉ routerUp newMac s := by
  unfold routerUp
  simp only [if_neg hnode, List.mem_append, not_or]
  refine ⟨⟨by simp, by simp⟩, ?_⟩
  split <;> simp

theorem opsOf_routeUp (s : Globals) : opsOf (routeUp s) = [] := by
  unfold routeUp
  split <;> rfl

end Installer
end EsdcFactory
