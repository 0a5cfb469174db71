import EsdcFactory.Installer.InterfaceFacts
import EsdcFactory.Installer.MacSwap

/-!
# Taking down what was brought up

At the end of a pass all VNICs and etherstubs are gone that it has made, and the physical
interfaces have their addresses again.
-/

namespace EsdcFactory
namespace Installer

open Undo Function

/-!
## Bringing up
-/

theorem nicsupTag_issues (a : Answers) (x : Shell) (ntag : NicTag) :
    Issues x (x.nicsupTag a ntag) (tagUp x.net a.newMac x.vars ntag) :=
  (issueAll_issues x _).congr rfl rfl

theorem nicsup_issues {a : Answers} {x : Shell} (hdown : x.vars.nicsupDone = false) :
    exists external internal storage : Shell,
      Issues x external (x.vars.etherstubs.map .createEtherstub ++ adminUp x.vars) ∧
      external.vars = x.vars ∧
      internal = external.nicsupTag a .external ∧
      storage = internal.nicsupTag a .internal ∧
      Issues x (x.nicsup a) (x.vars.etherstubs.map .createEtherstub ++ adminUp x.vars ++
        tagUp external.net a.newMac external.vars .external ++
        tagUp internal.net a.newMac internal.vars .internal ++
        tagUp storage.net a.newMac storage.vars .storage ++
        routeUp (storage.nicsupTag a .storage).vars) ∧
      (x.nicsup a).vars = { (storage.nicsupTag a .storage).vars with nicsupDone := true } ∧
      (x.nicsup a).adminIfaceActive = activeIface x.vars := by
  have hstart : Issues x
      { (x.issueAll (x.vars.etherstubs.map .createEtherstub)).issueAll (adminUp x.vars) with
        adminIfaceActive := activeIface x.vars }
      (x.vars.etherstubs.map .createEtherstub ++ adminUp x.vars) :=
    ((issueAll_issues x _).trans (issueAll_issues _ _)).congr rfl rfl
  have hup : x.nicsup a =
      let y := { (x.issueAll (x.vars.etherstubs.map .createEtherstub)).issueAll
          (adminUp x.vars) with adminIfaceActive := activeIface x.vars }
      let y := ((y.nicsupTag a .external).nicsupTag a .internal).nicsupTag a .storage
      { y.issueAll (routeUp y.vars) with
        vars := { (y.issueAll (routeUp y.vars)).vars with nicsupDone := true } } := by
    unfold Shell.nicsup
    rw [hdown, if_neg Bool.false_ne_true]
    simp only [issueAll_vars, nictagList, List.foldl_cons, List.foldl_nil]
  refine ⟨_, _, _, hstart, ?_, rfl, rfl, ?_, ?_, ?_⟩
  · simp only [issueAll_vars]
  · rw [hup]
    have htags := ((hstart.trans (nicsupTag_issues a _ .external)).trans
      (nicsupTag_issues a _ .internal)).trans (nicsupTag_issues a _ .storage)
    exact (htags.trans (issueAll_issues _ _)).congr rfl rfl
  · rw [hup]
    simp only [issueAll_vars]
  · rw [hup]
    simp [Shell.nicsupTag]

/-!
## Taking down
-/

theorem nicsdown_issues {x : Shell} (hup : x.vars.nicsupDone = true) :
    Issues x x.nicsdown (adminDown x.vars x.adminIfaceActive ++
      nictagList.flatMap (tagDown x.vars) ++ x.vars.etherstubs.map .deleteEtherstub) := by
  unfold Shell.nicsdown
  rw [if_pos hup]
  exact (issueAll_issues x _).congr rfl rfl

theorem nicsdown_vars {x : Shell} (hup : x.vars.nicsupDone = true) :
    x.nicsdown.vars = { x.vars with nicsupDone := false } := by
  unfold Shell.nicsdown
  rw [if_pos hup]
  simp only [issueAll_vars]

def routerDownIfUp (s : Globals) : List Command :=
  if s.nicsupOpnsenseDone then routerDown s else []

theorem nicsdownOpnsense_issues (x : Shell) :
    Issues x x.nicsdownOpnsense (routerDownIfUp x.vars) := by
  unfold Shell.nicsdownOpnsense routerDownIfUp
  split
  · exact (issueAll_issues x _).congr rfl rfl
  · exact .nil rfl rfl

theorem nicsupOpnsense_issues {a : Answers} {x : Shell}
    (hdown : x.vars.nicsupOpnsenseDone = false) :
    Issues x (x.nicsupOpnsense a) (routerUp a.newMac x.vars) := by
  unfold Shell.nicsupOpnsense
  rw [hdown, if_neg Bool.false_ne_true]
  exact (issueAll_issues x _).congr rfl rfl

/-!
## Undoing
-/

/-- Commands that were issued, and others later that undo them. -/
structure Undone (x y z : Shell) (ups downs : List Command) : Prop where
  up : Issues x y ups
  down : Issues y z downs
  undoes : Undoes x.net (opsOf ups) (opsOf downs)
  net : z.net = x.net

theorem delete_vnic_mem_opsOf {cs : List Command} {name : String} :
    .delete (.vnic, name) ∈ opsOf cs <-> .deleteVnic name ∈ cs := by
  constructor
  · intro h
    rcases List.mem_filterMap.mp h with ⟨c, hc, hop⟩
    cases c <;> cases hop
    exact hc
  · exact fun h => List.mem_filterMap.mpr ⟨_, h, rfl⟩

theorem delete_etherstub_mem_opsOf {cs : List Command} {name : String} :
    .delete (.etherstub, name) ∈ opsOf cs <-> .deleteEtherstub name ∈ cs := by
  constructor
  · intro h
    rcases List.mem_filterMap.mp h with ⟨c, hc, hop⟩
    cases c <;> cases hop
    exact hc
  · exact fun h => List.mem_filterMap.mpr ⟨_, h, rfl⟩

theorem create_vnic_mem_opsOf {cs : List Command} {name : String} :
    (exists state, .create (.vnic, name) state ∈ opsOf cs) <->
      exists link vlan mac, .createVnic link vlan mac name ∈ cs := by
  constructor
  · intro hparts
    rcases hparts with ⟨state, h⟩
    rcases List.mem_filterMap.mp h with ⟨c, hc, hop⟩
    cases c <;> cases hop
    exact ⟨_, _, _, hc⟩
  · intro hparts
    rcases hparts with ⟨link, vlan, mac, h⟩
    exact ⟨_, List.mem_filterMap.mpr ⟨_, h, rfl⟩⟩

theorem create_etherstub_mem_opsOf {cs : List Command} {name : String} :
    (exists state, .create (.etherstub, name) state ∈ opsOf cs) <->
      .createEtherstub name ∈ cs := by
  constructor
  · intro hparts
    rcases hparts with ⟨state, h⟩
    rcases List.mem_filterMap.mp h with ⟨c, hc, hop⟩
    cases c <;> cases hop
    exact hc
  · exact fun h => ⟨_, List.mem_filterMap.mpr ⟨_, h, rfl⟩⟩

theorem Undone.vnics {x y z : Shell} {ups downs : List Command}
    (h : Undone x y z ups downs) (name : String) :
    .deleteVnic name ∈ downs <->
      exists link vlan mac, .createVnic link vlan mac name ∈ ups := by
  rw [← delete_vnic_mem_opsOf, ← create_vnic_mem_opsOf]
  constructor
  · exact h.undoes.created _
  · intro hparts
    rcases hparts with ⟨state, hcreate⟩
    exact h.undoes.deleted _ state hcreate

theorem Undone.etherstubs {x y z : Shell} {ups downs : List Command}
    (h : Undone x y z ups downs) (name : String) :
    .deleteEtherstub name ∈ downs <-> .createEtherstub name ∈ ups := by
  rw [← delete_etherstub_mem_opsOf, ← create_etherstub_mem_opsOf]
  constructor
  · exact h.undoes.created _
  · intro hparts
    rcases hparts with ⟨state, hcreate⟩
    exact h.undoes.deleted _ state hcreate

/-!
## Configurations
-/

/-- Bring up the router, when there is one. -/
def Shell.withRouter (a : Answers) (x : Shell) : Shell :=
  if x.vars.deployOpnsense then x.nicsupOpnsense a else x

/-- Bring up what was asked for, with the router before the rest. -/
def Shell.bringUp (a : Answers) (x : Shell) : Shell :=
  (x.withRouter a).nicsup a

/-- The end of a pass. -/
def Shell.bringDown (x : Shell) : Shell :=
  x.nicsdown.nicsdownOpnsense

/-- Two states agree in all variables about the interfaces. -/
structure SameNics (s s' : Globals) : Prop where
  deployOpnsense : s'.deployOpnsense = s.deployOpnsense
  etherstubs : s'.etherstubs = s.etherstubs
  vlanId : s'.admin.vlanId = s.admin.vlanId
  iface : s'.admin.iface = s.admin.iface
  nictags : s'.nictags = s.nictags
  marks : s'.nictagPreserveMac = s.nictagPreserveMac
  macType : s'.opnsense.externalMacType = s.opnsense.externalMacType
  mac : s'.opnsense.externalMac = s.opnsense.externalMac
  nicsupDone : s'.nicsupDone = s.nicsupDone
  nicsupOpnsenseDone : s'.nicsupOpnsenseDone = s.nicsupOpnsenseDone

/-- A tag is on one of the physical interfaces. -/
def OnNic (nics : List Nic) (tag : TagVars) : Prop :=
  exists nic, nic ∈ nics ∧ tag.mac = some nic.mac ∧ tag.iface = some nic.link

/-- `dladm` shows the physical interfaces with the addresses they were made with. -/
def Net.Shows (net : Net) (nics : List Nic) : Prop :=
  forall nic, nic ∈ nics -> net (.physical, nic.link) = some { mac := some nic.mac }

/-- No interface is up, and only the external tag may preserve the address of its one. -/
structure Globals.Idle (s : Globals) : Prop where
  nicsupDone : s.nicsupDone = false
  nicsupOpnsenseDone : s.nicsupOpnsenseDone = false
  marks : forall ntag, ntag ≠ .external -> s.nictagPreserveMac (.tag ntag) = none

/-- What the questions leave for the interfaces, with all tags on physical ones. -/
structure Configured (nics : List Nic) (s : Globals) : Prop extends s.Idle where
  vlan : s.admin.vlanId ≠ "" -> vlanNonzero s.admin.vlanId = true
  tags : forall ntag, (s.nictags ntag).ip.isSome = true -> OnNic nics (s.nictags ntag)
  router : s.deployOpnsense = true -> s.opnsense.externalMacType = "node" ->
    OnNic nics (s.nictags .external) ∧
      s.opnsense.externalMac = valueOf (s.nictags .external).mac ∧
      s.nictagPreserveMac (.tag .external) = none

theorem exec_of_ne {c : Command} {net : Net} {key : LinkKind × String}
    (h : forall op, c.op = some op -> key ≠ op.key) : c.exec net key = net key := by
  unfold Command.exec
  cases hop : c.op with
  | none => rfl
  | some op =>
      dsimp only
      split
      · exact Op.apply_of_ne (h op hop)
      · rfl

theorem netAfter_physical {cs : List Command} {net : Net} (link : String)
    (h : forall link mac, .ether link mac ∉ cs) :
    netAfter cs net (.physical, link) = net (.physical, link) := by
  induction cs generalizing net with
  | nil => rfl
  | cons c rest ih =>
      have hrest := @ih (c.exec net) fun link mac hmem =>
        h link mac (List.mem_cons_of_mem c hmem)
      refine hrest.trans (exec_of_ne ?_)
      intro op hop
      cases c with
      | ether link mac => exact absurd List.mem_cons_self (h link mac)
      | createEtherstub name => cases hop; simp [Op.key]
      | deleteEtherstub name => cases hop; simp [Op.key]
      | createVnic link vlan mac name => cases hop; simp [Op.key]
      | deleteVnic name => cases hop; simp [Op.key]
      | ip words => cases hop

/-!
## Down again
-/

/-- Bringing up the router leaves alone what the other functions look at. -/
structure RouterUp (s s' : Globals) : Prop where
  deployOpnsense : s'.deployOpnsense = s.deployOpnsense
  etherstubs : s'.etherstubs = s.etherstubs
  admin : s'.admin = s.admin
  nictags : s'.nictags = s.nictags
  marks : forall ntag, s'.nictagPreserveMac (.tag ntag) = s.nictagPreserveMac (.tag ntag)
  macType : s'.opnsense.externalMacType = s.opnsense.externalMacType
  mac : s'.opnsense.externalMac = s.opnsense.externalMac
  nicsupDone : s'.nicsupDone = s.nicsupDone

theorem nicsupOpnsense_routerUp {a : Answers} {s : Globals}
    (hdown : s.nicsupOpnsenseDone = false) :
    RouterUp s (nicsupOpnsense a s) ∧ (nicsupOpnsense a s).nicsupOpnsenseDone = true := by
  unfold nicsupOpnsense
  simp only [hdown, Bool.false_eq_true, if_false]
  by_cases hnode : s.opnsense.externalMacType = "node"
  · rw [if_pos hnode]
    by_cases hdhcp : s.opnsense.externalIp = "dhcp"
    · simp only [hdhcp, if_true]
      exact ⟨⟨rfl, rfl, rfl, rfl, fun _ => by simp, rfl, rfl, rfl⟩, trivial⟩
    · simp only [hdhcp, if_false]
      exact ⟨⟨rfl, rfl, rfl, rfl, fun _ => by simp, rfl, rfl, rfl⟩, trivial⟩
  · rw [if_neg hnode]
    by_cases hdhcp : s.opnsense.externalIp = "dhcp"
    · simp only [hdhcp, if_true]
      exact ⟨⟨rfl, rfl, rfl, rfl, fun _ => rfl, rfl, rfl, rfl⟩, trivial⟩
    · simp only [hdhcp, if_false]
      exact ⟨⟨rfl, rfl, rfl, rfl, fun _ => rfl, rfl, rfl, rfl⟩, trivial⟩

/-- The first part of bringing up. -/
structure RouterPart (a : Answers) (x y : Shell) : Prop where
  router : RouterUp x.vars y.vars
  done : y.vars.nicsupOpnsenseDone = x.vars.deployOpnsense
  issues : Issues x y (if x.vars.deployOpnsense then routerUp a.newMac x.vars else [])
  vars : y.vars = if x.vars.deployOpnsense then Installer.nicsupOpnsense a x.vars else x.vars

theorem withRouter_part {a : Answers} {x : Shell} (hdown : x.vars.nicsupOpnsenseDone = false) :
    RouterPart a x (x.withRouter a) := by
  unfold Shell.withRouter
  by_cases hdeploy : x.vars.deployOpnsense = true
  · have hvars : (x.nicsupOpnsense a).vars = nicsupOpnsense a x.vars := by
      unfold Shell.nicsupOpnsense
      rw [hdown, if_neg Bool.false_ne_true]
    rw [if_pos hdeploy]
    rcases nicsupOpnsense_routerUp (a := a) hdown with ⟨hrouter, hdone⟩
    refine ⟨hvars ▸ hrouter, ?_, ?_, ?_⟩
    · rw [hvars, hdone, hdeploy]
    · rw [if_pos hdeploy]
      exact nicsupOpnsense_issues hdown
    · rw [hvars, if_pos hdeploy]
  · rw [if_neg hdeploy]
    refine ⟨⟨rfl, rfl, rfl, rfl, fun _ => rfl, rfl, rfl, rfl⟩, ?_, ?_, ?_⟩
    · simp [hdown, hdeploy]
    · rw [if_neg hdeploy]
      exact .nil rfl rfl
    · rw [if_neg hdeploy]

theorem RouterPart.marks {a : Answers} {x y : Shell} (h : RouterPart a x y)
    (hs : x.vars.Idle) (ntag : NicTag) (hne : ntag ≠ .external) :
    y.vars.nictagPreserveMac (.tag ntag) = none := by
  rw [h.router.marks, hs.marks ntag hne]

theorem tagUp_congr {net net' : Net} {newMac : MacKey -> String} {s s' : Globals}
    {ntag : NicTag} (htag : s'.nictags ntag = s.nictags ntag)
    (hmark : s.nictagPreserveMac (.tag ntag) = none)
    (hmark' : s'.nictagPreserveMac (.tag ntag) = none) :
    tagUp net' newMac s' ntag = tagUp net newMac s ntag := by
  unfold tagUp
  rw [htag, hmark, hmark']
  simp [valueOf]

theorem nicsupTag_nictags (address : String -> String) (a : Answers) (s : Globals)
    (ntag : NicTag) : (nicsupTag address a s ntag).nictags = s.nictags := by
  rcases nicsupTag_eq address a s ntag with ⟨nic, marks, heq, _⟩
  rw [heq]

/-- The mark of the external tag after its interface was brought up. -/
def externalMark (address : String -> String) (a : Answers) (s : Globals) : Option String :=
  if (s.nictags .external).ip.isSome ∧
      valueOf (s.nictagPreserveMac (.tag .external)) ≠ "" then
    some (macPair (address (valueOf (s.nictags .external).iface)) (a.newMac (.tag .external)))
  else s.nictagPreserveMac (.tag .external)

theorem nicsupTag_external (address : String -> String) (a : Answers) (s : Globals) :
    (nicsupTag address a s .external).nictagPreserveMac (.tag .external) =
      externalMark address a s := by
  unfold nicsupTag externalMark
  split
  · simp [macPair]
  · rfl

/-- What `nicsup` does when only the external tag may preserve an address. -/
structure BroughtUp (a : Answers) (x y : Shell) (net : Net) : Prop where
  issues : Issues x y (x.vars.etherstubs.map .createEtherstub ++ adminUp x.vars ++
    tagUp net a.newMac x.vars .external ++ tagUp net a.newMac x.vars .internal ++
    tagUp net a.newMac x.vars .storage ++ routeUp y.vars)
  seen : net = netAfter (x.vars.etherstubs.map .createEtherstub ++ adminUp x.vars) x.net
  active : y.adminIfaceActive = activeIface x.vars
  vars : y.vars = nicsup net.address a x.vars

theorem nicsup_broughtUp {a : Answers} {x : Shell} (hdown : x.vars.nicsupDone = false)
    (hmarks : forall ntag, ntag ≠ .external ->
      x.vars.nictagPreserveMac (.tag ntag) = none) :
    exists net, BroughtUp a x (x.nicsup a) net := by
  rcases nicsup_issues (a := a) hdown with
    ⟨external, internal, storage, hstart, hvars, rfl, rfl, hissues, hup, hactive⟩
  have hmark : forall ntag, ntag ≠ .external ->
      (external.nicsupTag a .external).vars.nictagPreserveMac (.tag ntag) = none := by
    intro ntag hne
    refine (nicsupTag_other hne).trans ?_
    rw [hvars]
    exact hmarks ntag hne
  have htags : (external.nicsupTag a .external).vars.nictags = x.vars.nictags := by
    rw [← hvars]
    exact nicsupTag_nictags _ a external.vars .external
  -- the other two tags have no mark, so they change no variable
  have hinternal : ((external.nicsupTag a .external).nicsupTag a .internal).vars =
      (external.nicsupTag a .external).vars := nicsupTag_of_none (hmark .internal (by decide))
  have hstorage : (((external.nicsupTag a .external).nicsupTag a .internal).nicsupTag a
      .storage).vars = (external.nicsupTag a .external).vars := by
    refine Eq.trans ?_ hinternal
    apply nicsupTag_of_none
    rw [hinternal]
    exact hmark .storage (by decide)
  have hroute : routeUp (((external.nicsupTag a .external).nicsupTag a .internal).nicsupTag a
      .storage).vars = routeUp (x.nicsup a).vars := by
    rw [hup]
    rfl
  rw [hinternal, hroute, tagUp_congr (congrFun htags .internal) (hmarks .internal (by decide))
    (hmark .internal (by decide)), tagUp_congr (congrFun htags .storage)
    (hmarks .storage (by decide)) (hmark .storage (by decide)), hvars] at hissues
  refine ⟨external.net, hissues, hstart.net, hactive, ?_⟩
  rw [hup, hstorage, nicsup_external hdown (hmarks .internal (by decide))
    (hmarks .storage (by decide)), ← hvars]
  rfl

/-- What bringing up changes of the variables. -/
structure UpVars (a : Answers) (net : Net) (s s' : Globals) : Prop where
  deployOpnsense : s'.deployOpnsense = s.deployOpnsense
  etherstubs : s'.etherstubs = s.etherstubs
  vlanId : s'.admin.vlanId = s.admin.vlanId
  iface : s'.admin.iface = s.admin.iface
  nictags : s'.nictags = s.nictags
  external : s'.nictagPreserveMac (.tag .external) = externalMark net.address a s
  others : forall ntag, ntag ≠ .external -> s'.nictagPreserveMac (.tag ntag) = none
  macType : s'.opnsense.externalMacType = s.opnsense.externalMacType
  mac : s'.opnsense.externalMac = s.opnsense.externalMac
  nicsupDone : s'.nicsupDone = true
  nicsupOpnsenseDone : s'.nicsupOpnsenseDone = s.deployOpnsense

theorem SameNics.upVars {a : Answers} {net : Net} {s s' s'' : Globals} (h : UpVars a net s s')
    (hsame : SameNics s' s'') : UpVars a net s s'' where
  deployOpnsense := hsame.deployOpnsense.trans h.deployOpnsense
  etherstubs := hsame.etherstubs.trans h.etherstubs
  vlanId := hsame.vlanId.trans h.vlanId
  iface := hsame.iface.trans h.iface
  nictags := hsame.nictags.trans h.nictags
  external := by rw [hsame.marks, h.external]
  others ntag hne := by rw [hsame.marks, h.others ntag hne]
  macType := hsame.macType.trans h.macType
  mac := hsame.mac.trans h.mac
  nicsupDone := hsame.nicsupDone.trans h.nicsupDone
  nicsupOpnsenseDone := hsame.nicsupOpnsenseDone.trans h.nicsupOpnsenseDone

theorem externalMark_congr (address : String -> String) (a : Answers) {s s' : Globals}
    (hnictags : s'.nictags = s.nictags)
    (hmark : s'.nictagPreserveMac (.tag .external) = s.nictagPreserveMac (.tag .external)) :
    externalMark address a s' = externalMark address a s := by
  unfold externalMark
  rw [hnictags, hmark]

section Configured

variable {nics : List Nic} {a : Answers} {x : Shell}

/-- The commands of bringing up a configuration. -/
def upCommands (a : Answers) (net : Net) (s s' : Globals) : List Command :=
  (if s.deployOpnsense then routerUp a.newMac s else []) ++
    (s.etherstubs.map .createEtherstub ++ adminUp s ++ tagUp net a.newMac s .external ++
      tagUp net a.newMac s .internal ++ tagUp net a.newMac s .storage ++ routeUp s')

theorem bringUp_issues (hs : x.vars.Idle) :
    exists net, Issues x (x.bringUp a) (upCommands a net x.vars (x.bringUp a).vars) ∧
      UpVars a net x.vars (x.bringUp a).vars ∧
      (x.bringUp a).adminIfaceActive = activeIface x.vars ∧
      net = netAfter ((if x.vars.deployOpnsense then routerUp a.newMac x.vars else []) ++
        (x.vars.etherstubs.map .createEtherstub ++ adminUp x.vars)) x.net := by
  have hpart := withRouter_part (a := a) hs.nicsupOpnsenseDone
  have hmarks := hpart.marks hs
  have hup : x.bringUp a = (x.withRouter a).nicsup a := rfl
  revert hpart hmarks hup
  generalize x.withRouter a = y
  intro h hmarks hup
  rcases h with ⟨hrouter, hdone, hissues, _⟩
  have hdown : y.vars.nicsupDone = false := hrouter.nicsupDone.trans hs.nicsupDone
  rcases nicsup_broughtUp (a := a) hdown hmarks with ⟨net, hbrought⟩
  have hadmin : adminUp y.vars = adminUp x.vars := by
    unfold adminUp activeIface
    rw [hrouter.admin]
  have htag : forall ntag, tagUp net a.newMac y.vars ntag = tagUp net a.newMac x.vars ntag := by
    intro ntag
    unfold tagUp
    rw [hrouter.nictags, hrouter.marks]
  refine ⟨net, ?_, ?_, ?_, ?_⟩
  · rw [hup]
    have hall := hissues.trans hbrought.issues
    rwa [hrouter.etherstubs, hadmin, htag, htag, htag] at hall
  · rw [hup, hbrought.vars, nicsup_external hdown (hmarks .internal (by decide))
      (hmarks .storage (by decide))]
    rcases nicsupTag_eq net.address a y.vars .external with ⟨nic, marks, heq, _⟩
    have hexternal := nicsupTag_external net.address a y.vars
    have hothers : forall ntag, ntag ≠ .external ->
        (nicsupTag net.address a y.vars .external).nictagPreserveMac (.tag ntag) = none :=
      fun ntag hne => (nicsupTag_other hne).trans (hmarks ntag hne)
    have hsame := externalMark_congr net.address a hrouter.nictags
      (hrouter.marks .external)
    have hvlan : y.vars.admin.vlanId = x.vars.admin.vlanId := by rw [hrouter.admin]
    have hiface : y.vars.admin.iface = x.vars.admin.iface := by rw [hrouter.admin]
    rw [heq] at hexternal hothers ⊢
    exact ⟨hrouter.deployOpnsense, hrouter.etherstubs, hvlan, hiface, hrouter.nictags,
      hexternal.trans hsame, hothers, hrouter.macType, hrouter.mac, rfl, hdone⟩
  · rw [hup, hbrought.active]
    unfold activeIface
    rw [hrouter.admin]
  · rw [netAfter_append, ← hissues.net, hbrought.seen, hrouter.etherstubs, hadmin]

/-- The commands of taking a configuration down. -/
def downCommands (s : Globals) (active : String) : List Command :=
  adminDown s active ++ nictagList.flatMap (tagDown s) ++
    s.etherstubs.map .deleteEtherstub ++ routerDownIfUp s

theorem bringDown_issues (hup : x.vars.nicsupDone = true) :
    Issues x x.bringDown (downCommands x.vars x.adminIfaceActive) := by
  have hrouter := nicsdownOpnsense_issues x.nicsdown
  rw [nicsdown_vars hup] at hrouter
  exact (nicsdown_issues hup).trans hrouter

theorem address_before (hs : Configured nics x.vars) (hshows : x.net.Shows nics) {net : Net}
    (hnet : net = netAfter ((if x.vars.deployOpnsense then routerUp a.newMac x.vars else []) ++
      (x.vars.etherstubs.map .createEtherstub ++ adminUp x.vars)) x.net)
    (hip : (x.vars.nictags .external).ip.isSome = true)
    (hmark : valueOf (x.vars.nictagPreserveMac (.tag .external)) ≠ "") :
    exists nic, nic ∈ nics ∧ valueOf (x.vars.nictags .external).iface = nic.link ∧
      net.address nic.link = nic.mac := by
  rcases hs.tags .external hip with ⟨nic, hnic, _, hiface⟩
  refine ⟨nic, hnic, by rw [hiface]; rfl, ?_⟩
  have hphysical : net (.physical, nic.link) = x.net (.physical, nic.link) := by
    rw [hnet]
    apply netAfter_physical
    intro link mac hmem
    rcases List.mem_append.mp hmem with hmem | hmem
    · split at hmem
      next hdeploy =>
        have hnode : x.vars.opnsense.externalMacType ≠ "node" := by
          intro hnode
          rw [(hs.router hdeploy hnode).2.2] at hmark
          exact hmark rfl
        exact ether_notMem_routerUp hnode link mac hmem
      next => cases hmem
    · rcases List.mem_append.mp hmem with hmem | hmem
      · simp at hmem
      · exact ether_notMem_adminUp _ link mac hmem
  unfold Net.address
  rw [hphysical, hshows nic hnic]
  rfl

/-- Taking down undoes bringing up. -/
theorem commands_undo (hs : Configured nics x.vars) (hshows : x.net.Shows nics) {net : Net}
    {s s' : Globals} (hvars : UpVars a net x.vars s')
    (hnet : net = netAfter ((if x.vars.deployOpnsense then routerUp a.newMac x.vars else []) ++
      (x.vars.etherstubs.map .createEtherstub ++ adminUp x.vars)) x.net) :
    Undoes x.net (opsOf (upCommands a net x.vars s))
      (opsOf (downCommands s' (activeIface x.vars))) := by
  have hrouter : Undoes x.net
      (opsOf (if x.vars.deployOpnsense then routerUp a.newMac x.vars else []))
      (opsOf (routerDownIfUp s')) := by
    unfold routerDownIfUp
    rw [hvars.nicsupOpnsenseDone]
    split
    next hdeploy =>
      refine router_undo (by rw [hvars.nictags]) hvars.macType hvars.mac ?_
      intro hnode
      rcases hs.router hdeploy hnode with ⟨⟨nic, hnic, hmac, hiface⟩, hexternal, _⟩
      rw [hexternal, hiface, hmac]
      exact hshows nic hnic
    next => exact .nil _
  have hstubs := stubs_undo x.net x.vars.etherstubs
  have hadmin := admin_undo x.net hvars.vlanId hvars.iface hs.vlan
  have hother : forall ntag, ntag ≠ .external -> Undoes x.net
      (opsOf (tagUp net a.newMac x.vars ntag)) (opsOf (tagDown s' ntag)) := by
    intro ntag hne
    apply tag_undo (by rw [hvars.nictags])
    · intro _
      rw [hvars.others ntag hne, hs.marks ntag hne]
    · intro _ hmark
      rw [hvars.others ntag hne] at hmark
      exact absurd rfl hmark
  have hexternal : Undoes x.net (opsOf (tagUp net a.newMac x.vars .external))
      (opsOf (tagDown s' .external)) := by
    apply tag_undo (by rw [hvars.nictags])
    · intro hip
      rw [hvars.external, externalMark]
      split
      next hboth => exact iff_of_true (macPair_ne _ _) hboth.2
      next => rfl
    · intro hip hmark
      have hbefore : valueOf (x.vars.nictagPreserveMac (.tag .external)) ≠ "" := by
        rw [hvars.external, externalMark] at hmark
        split at hmark
        next hboth => exact hboth.2
        next => exact hmark
      rcases address_before hs hshows hnet hip hbefore with ⟨nic, hnic, hiface, haddress⟩
      rw [hvars.external, externalMark, if_pos ⟨hip, hbefore⟩, hiface, haddress]
      rw [show valueOf (some (macPair nic.mac (a.newMac (.tag .external)))) =
        macPair nic.mac (a.newMac (.tag .external)) from rfl,
        pairFirst_macPair _ (plainWord_of_isMac nic.mac_isMac).comma]
      exact hshows nic hnic
  have hall := hrouter.append (((hstubs.append hadmin).append hexternal).append
    ((hother .internal (by decide)).append (hother .storage (by decide))))
  apply hall.of_mem
  · intro op
    simp only [upCommands, opsOf_append, opsOf_routeUp, List.append_nil, List.mem_append]
    tauto
  · intro op
    simp only [downCommands, nictagList, List.flatMap_cons, List.flatMap_nil, List.append_nil,
      opsOf_append, List.mem_append, hvars.etherstubs]
    tauto

/-- What was brought up is gone again, and the physical interfaces are as they were. -/
theorem bringDown_bringUp (hs : Configured nics x.vars) (hshows : x.net.Shows nics)
    {s : Globals} (hsame : SameNics (x.bringUp a).vars s)
    (hsucceeded : ({ x.bringUp a with vars := s } : Shell).bringDown.Succeeded) :
    exists ups downs, Undone x (x.bringUp a)
      ({ x.bringUp a with vars := s } : Shell).bringDown ups downs := by
  rcases bringUp_issues (a := a) hs.toIdle with ⟨net, hup, hvars, hactive, hnet⟩
  have hvars' : UpVars a net x.vars s := hsame.upVars hvars
  have hdown := bringDown_issues (x := { x.bringUp a with vars := s }) hvars'.nicsupDone
  rw [hactive] at hdown
  have hdown' : Issues (x.bringUp a) _ (downCommands s (activeIface x.vars)) :=
    ⟨hdown.net, hdown.issued⟩
  have hundo := commands_undo (s := (x.bringUp a).vars) hs hshows hvars' hnet
  exact ⟨_, _, hup, hdown', hundo, hup.undone hdown' hsucceeded hundo⟩

end Configured

end Installer
end EsdcFactory
