import EsdcFactory.Installer.InterfaceRuns

/-!
# The links that VNICs are made on

For the admin network `nicsup` replaces the marker `etherstub` by the name of the stub.
For the other tags it passes the marker on as the name of a link.
-/

namespace EsdcFactory
namespace Installer

open Function

/-!
## Links at the moment of a command
-/

def NicChoice.key : NicChoice -> LinkKind × String
  | physical nic => (.physical, nic.link)
  | etherstub name _ => (.etherstub, name)

/-- A VNIC is made on the chosen link, which is there. -/
def OnChosenLink (choice : NicChoice) (link : String) (net : Net) : Prop :=
  link = choice.key.2 ∧ (net choice.key).isSome = true

/-- The interface that a tag was put on, in this pass or in an earlier one. -/
structure ChosenFor (nics : List Nic) (a : Answers) (s : Globals) (ntag : NicTag)
    (choice : NicChoice) : Prop where
  offered : Offered nics choice
  mac : (s.nictags ntag).mac = some choice.val
  iface : (s.nictags ntag).iface = some choice.nicVal
  answered : a.adds ntag = true -> choice = (a.tag ntag).nic

/-- The commands between two moments, each with the links then. -/
def issuedBetween (x y : Shell) : List (Command × Net) :=
  y.issued.drop x.issued.length

/-- Every VNIC is made on the link that was chosen for its tag. -/
def VnicsOnChosenLinks (nics : List Nic) (a : Answers) (s : Globals)
    (issued : List (Command × Net)) : Prop :=
  forall link vlan mac name net, (.createVnic link vlan mac name, net) ∈ issued ->
    (name = "admin0" ∧ OnChosenLink a.adminNic link net) ∨
      exists ntag choice, name = NicTag.vnic ntag ∧ ChosenFor nics a s ntag choice ∧
        OnChosenLink choice link net

theorem Issues.issuedBetween {x y : Shell} {cs : List Command} (h : Issues x y cs) :
    issuedBetween x y = issuedFrom cs x.net := by
  rw [Installer.issuedBetween, h.issued, List.drop_left]

theorem mem_of_mem_issuedFrom {cs : List Command} {c : Command} {net net' : Net}
    (h : (c, net') ∈ issuedFrom cs net) : c ∈ cs := by
  induction cs generalizing net with
  | nil => cases h
  | cons first rest ih =>
      rcases List.mem_cons.mp h with heq | hrest
      · cases heq
        exact List.mem_cons_self
      · exact List.mem_cons_of_mem first (ih hrest)

theorem exists_mem_issuedFrom {cs : List Command} {c : Command} (net : Net)
    (h : c ∈ cs) : exists net', (c, net') ∈ issuedFrom cs net := by
  induction cs generalizing net with
  | nil => cases h
  | cons first rest ih =>
      rcases List.mem_cons.mp h with rfl | hrest
      · exact ⟨net, List.mem_cons_self⟩
      · rcases ih (first.exec net) hrest with ⟨net', hmem⟩
        exact ⟨net', List.mem_cons_of_mem _ hmem⟩

theorem exec_physical {c : Command} {net : Net} {link : String}
    (h : (net (.physical, link)).isSome = true) :
    (c.exec net (.physical, link)).isSome = true := by
  by_cases hether : exists mac, c = .ether link mac
  · rcases hether with ⟨mac, rfl⟩
    simp [Command.exec, Command.op, Command.succeeds, h, Undo.Op.apply, Undo.Op.key,
      Undo.Op.value]
  · rw [exec_of_ne]
    · exact h
    · intro op hop hkey
      cases c with
      | ether other mac =>
          cases hop
          apply hether
          exact ⟨mac, by rw [(Prod.mk.inj hkey).2]⟩
      | createEtherstub name => cases hop; cases hkey
      | deleteEtherstub name => cases hop; cases hkey
      | createVnic lower vlan mac name => cases hop; cases hkey
      | deleteVnic name => cases hop; cases hkey
      | ip words => cases hop

theorem netAfter_hasPhysical {cs : List Command} {net : Net} {link : String}
    (h : (net (.physical, link)).isSome = true) :
    (netAfter cs net (.physical, link)).isSome = true := by
  induction cs generalizing net with
  | nil => exact h
  | cons c rest ih => exact ih (exec_physical h)

theorem issuedFrom_hasPhysical {cs : List Command} {c : Command} {net net' : Net}
    {link : String} (h : (net (.physical, link)).isSome = true)
    (hmem : (c, net') ∈ issuedFrom cs net) : (net' (.physical, link)).isSome = true := by
  induction cs generalizing net with
  | nil => cases hmem
  | cons first rest ih =>
      rcases List.mem_cons.mp hmem with heq | hrest
      · cases heq
        exact h
      · exact ih (exec_physical h) hrest

/-!
## Etherstubs
-/

/-- An etherstub is there or can be made. -/
def Net.canStub (net : Net) (stub : String) : Bool :=
  (net (.etherstub, stub)).isSome || net.isFree stub

theorem createEtherstub_of_ne {net : Net} {stub other : String} (h : stub ≠ other)
    (kind : LinkKind) :
    (Command.createEtherstub other).exec net (kind, stub) = net (kind, stub) := by
  apply exec_of_ne
  intro op hop hkey
  cases hop
  exact h (Prod.mk.inj hkey).2

theorem createEtherstub_self (net : Net) (stub : String) :
    ((Command.createEtherstub stub).exec net (.etherstub, stub)).isSome =
      net.canStub stub := by
  unfold Command.exec Net.canStub
  by_cases hfree : net.isFree stub = true
  · simp [Command.op, Command.succeeds, hfree, Undo.Op.apply, Undo.Op.key, Undo.Op.value]
  · simp [Command.op, Command.succeeds, hfree]

theorem canStub_createEtherstub (net : Net) (stub other : String) :
    ((Command.createEtherstub other).exec net).canStub stub = net.canStub stub := by
  by_cases hsame : stub = other
  · subst hsame
    have hself := createEtherstub_self net stub
    by_cases hcan : net.canStub stub = true
    · rw [hcan] at hself ⊢
      simp [Net.canStub, hself]
    · have hnot : net.isFree stub = false := by
        simp [Net.canStub] at hcan
        simpa using hcan.2
      have hexec : (Command.createEtherstub stub).exec net = net := by
        simp [Command.exec, Command.op, Command.succeeds, hnot]
      rw [hexec]
  · simp only [Net.canStub, Net.isFree, createEtherstub_of_ne hsame]

theorem netAfter_stubs (stubs : List String) (net : Net) (stub : String) :
    (netAfter (stubs.map .createEtherstub) net (.etherstub, stub)).isSome =
      if stub ∈ stubs then net.canStub stub else (net (.etherstub, stub)).isSome := by
  induction stubs generalizing net with
  | nil => rfl
  | cons other rest ih =>
      have hrest := ih ((Command.createEtherstub other).exec net)
      rw [canStub_createEtherstub] at hrest
      refine hrest.trans ?_
      by_cases hsame : stub = other
      · subst hsame
        simp [createEtherstub_self]
      · simp [createEtherstub_of_ne hsame, hsame]

/-!
## The commands that make VNICs
-/

theorem createVnic_mem_adminUp {s : Globals} {link vlan name : String}
    {mac : Option String} (h : .createVnic link vlan mac name ∈ adminUp s) :
    name = "admin0" ∧ link = if s.admin.iface = "etherstub" then s.admin.nic
      else s.admin.iface := by
  unfold adminUp at h
  dsimp only at h
  rcases List.mem_append.mp h with h | h
  · rcases List.mem_append.mp h with h | h
    · split at h
      next hvnic =>
        cases List.mem_singleton.mp h
        exact ⟨if_pos hvnic, rfl⟩
      next => cases h
    · cases List.mem_singleton.mp h
  · split at h <;> simp at h

theorem createVnic_mem_tagUp {net : Net} {newMac : MacKey -> String} {s : Globals}
    {ntag : NicTag} {link vlan name : String} {mac : Option String}
    (h : .createVnic link vlan mac name ∈ tagUp net newMac s ntag) :
    (s.nictags ntag).ip.isSome = true ∧ name = ntag.vnic ∧
      link = valueOf (s.nictags ntag).iface := by
  unfold tagUp at h
  dsimp only at h
  split at h
  next => cases h
  next ip hip =>
    rw [hip]
    rcases List.mem_append.mp h with h | h
    · rcases List.mem_append.mp h with h | h
      · split at h
        · simp at h
          exact ⟨rfl, h.2.2.2, h.1⟩
        · simp at h
          exact ⟨rfl, h.2.2.2, h.1⟩
      · cases List.mem_singleton.mp h
    · split at h <;> simp at h

theorem exists_createVnic_tagUp (net : Net) (newMac : MacKey -> String) {s : Globals}
    {ntag : NicTag} (h : (s.nictags ntag).ip.isSome = true) :
    exists vlan mac, .createVnic (valueOf (s.nictags ntag).iface) vlan mac ntag.vnic ∈
      tagUp net newMac s ntag := by
  rcases Option.isSome_iff_exists.mp h with ⟨ip, hip⟩
  unfold tagUp
  dsimp only
  rw [hip]
  dsimp only
  split
  · exact ⟨_, _, List.mem_append_left _ (List.mem_append_left _
      (List.mem_cons_of_mem _ List.mem_cons_self))⟩
  · exact ⟨_, _, List.mem_append_left _ (List.mem_append_left _ List.mem_cons_self)⟩

theorem routeUp_ip {s : Globals} {c : Command} (h : c ∈ routeUp s) :
    exists words, c = .ip words := by
  unfold routeUp at h
  split at h
  · exact ⟨_, List.mem_singleton.mp h⟩
  · cases h

theorem vnic_ne_admin (ntag : NicTag) : ntag.vnic ≠ "admin0" := by
  cases ntag <;> decide

theorem vnic_injective {ntag ntag' : NicTag} (h : ntag.vnic = ntag'.vnic) :
    ntag = ntag' := by
  revert h
  cases ntag <;> cases ntag' <;> decide

theorem stub_ne {name : String} (h : validStubName name = true) : name ≠ "etherstub" := by
  intro heq
  subst heq
  revert h
  decide +kernel

/-!
## What the questions leave about interfaces
-/

theorem mem_addEtherstub {choice : NicChoice} {stubs : List String} {stub : String}
    (h : stub ∈ stubs) : stub ∈ addEtherstub choice stubs := by
  cases choice with
  | physical nic => exact h
  | etherstub name valid =>
      unfold addEtherstub
      dsimp only
      split
      · exact h
      · exact List.mem_append_left _ h

theorem self_mem_addEtherstub {name : String} {valid : validStubName name = true}
    (stubs : List String) : name ∈ addEtherstub (.etherstub name valid) stubs := by
  unfold addEtherstub
  dsimp only
  split
  next h => exact h
  next => simp

theorem tagStage_etherstubs {ntag : NicTag} {a : TagAnswers} {s s' : Globals}
    {stub : String} (h : tagStage ntag a s = .done s') (hstub : stub ∈ s.etherstubs) :
    stub ∈ s'.etherstubs := by
  have hset : stub ∈ (setTagNic ntag a.nic s).etherstubs := mem_addEtherstub hstub
  unfold tagStage at h
  split at h
  · dsimp only at h
    split at h
    · rcases Outcome.bind_eq_done.mp h with ⟨s1, hip, h⟩
      cases h
      have hkept : s1.etherstubs = (setTagNic ntag a.nic s).etherstubs := by
        unfold promptnictagIp at hip
        split at hip
        · rcases promptTagIp_done hip with ⟨_, _, _, _, rfl⟩
          rfl
        · cases hip
          rfl
      split
      · exact hkept ▸ hset
      · exact hkept ▸ hset
    · cases h
      exact hset
  · cases h
    exact hstub

theorem tagsStage_etherstubs {a : Answers} {s s' : Globals} {stub : String}
    (h : tagsStage a s = .done s') (hstub : stub ∈ s.etherstubs) : stub ∈ s'.etherstubs := by
  unfold tagsStage at h
  split at h
  · simp only [nictagList, List.foldl_cons, List.foldl_nil, Outcome.bind_done] at h
    rcases Outcome.bind_eq_done.mp h with ⟨s2, h2, h3⟩
    rcases Outcome.bind_eq_done.mp h2 with ⟨s1, h1, h2⟩
    exact tagStage_etherstubs h3 (tagStage_etherstubs h2 (tagStage_etherstubs h1 hstub))
  · cases h
    exact hstub

theorem routingQuestions_kept {a : Answers} {s s' : Globals}
    (h : routingQuestions a s = .done s') :
    s'.etherstubs = s.etherstubs ∧ s'.nictags = s.nictags ∧ s'.admin = s.admin := by
  unfold routingQuestions at h
  dsimp only at h
  split at h
  · rcases opnsenseQuestions_done h with ⟨s1, ⟨router, adminGateway, numbers, rfl⟩, rfl⟩
    generalize hasked : ({ s with
      deployOpnsense := decide (s.externalIface ≠ "") && a.deployOpnsense
      opnsense := router
      adminGateway := adminGateway
      numbers := numbers } : Globals) = asked
    rcases opnsenseMacStage_eq a asked with ⟨mac, hmac, _⟩
    rcases opnsenseGatewayStage_eq a (opnsenseMacStage a asked) with ⟨network, hgateway⟩
    rw [hgateway, hmac]
    subst hasked
    exact ⟨rfl, rfl, rfl⟩
  · rcases gatewayStage_done h with ⟨_, _, _, rfl⟩
    exact ⟨rfl, rfl, rfl⟩

/-- The interfaces after the questions of a pass. -/
structure NicsAsked (a : Answers) (s : Globals) : Prop where
  adminNic : s.admin.nic = a.adminNic.val
  adminIface : s.admin.iface = a.adminNic.nicVal
  adminStub : forall name valid, a.adminNic = .etherstub name valid -> name ∈ s.etherstubs
  tags : forall ntag, a.adds ntag = true -> (s.nictags ntag).mac = some (a.tag ntag).nic.val ∧
    (s.nictags ntag).iface = some (a.tag ntag).nic.nicVal

theorem nictagAfter_nic {a : Answers} {s : Globals} {ntag : NicTag}
    (h : a.adds ntag = true) : (nictagAfter a s ntag).mac = some (a.tag ntag).nic.val ∧
      (nictagAfter a s ntag).iface = some (a.tag ntag).nic.nicVal := by
  rcases Bool.and_eq_true_iff.mp h with ⟨hadds, hadd⟩
  unfold nictagAfter tagAfter
  rw [if_pos hadds, if_pos hadd]
  dsimp only
  split
  · split <;> exact ⟨rfl, rfl⟩
  · exact ⟨rfl, rfl⟩

theorem tagsStage_nicsAsked {a : Answers} {s s' : Globals} (h : tagsStage a s = .done s')
    (hstubs : s.etherstubs = addEtherstub a.adminNic a.etherstubs)
    (hnic : s.admin.nic = a.adminNic.val) (hiface : s.admin.iface = a.adminNic.nicVal) :
    NicsAsked a s' := by
  have hstub : forall name valid, a.adminNic = .etherstub name valid ->
      name ∈ s'.etherstubs := by
    intro name valid hchoice
    apply tagsStage_etherstubs h
    rw [hstubs, hchoice]
    exact self_mem_addEtherstub a.etherstubs
  rcases tagsStage_done h with ⟨_, _, _, rfl⟩
  exact ⟨hnic, hiface, hstub, fun ntag hadds => nictagAfter_nic hadds⟩

theorem NicsAsked.congr {a : Answers} {s s' : Globals} (h : NicsAsked a s)
    (hkept : s'.etherstubs = s.etherstubs ∧ s'.nictags = s.nictags ∧ s'.admin = s.admin) :
    NicsAsked a s' := by
  rcases hkept with ⟨hstubs, htags, hadmin⟩
  refine ⟨?_, ?_, ?_, ?_⟩
  · rw [hadmin, h.adminNic]
  · rw [hadmin, h.adminIface]
  · rw [hstubs]
    exact h.adminStub
  · rw [htags]
    exact h.tags

theorem questions_nicsAsked {kind : NodeKind} {a : NodeAnswers} {s s' : Globals}
    (h : questions kind a s = .done s') : NicsAsked a.toAnswers s' := by
  cases kind with
  | first =>
      rcases Outcome.bind_eq_done.mp h with ⟨s1, h1, h⟩
      rcases Outcome.bind_eq_done.mp h with ⟨s2, h2, h⟩
      refine (tagsStage_nicsAsked h2 ?_ ?_ ?_).congr (routingQuestions_kept h)
      all_goals
        rcases Outcome.bind_eq_done.mp h1 with ⟨s3, hip, h1⟩
        cases h1
        rcases promptAdminIp_done hip with ⟨_, _, _, _, _, rfl⟩
        rfl
  | further =>
      rcases Outcome.bind_eq_done.mp h with ⟨s1, h1, h⟩
      rcases Outcome.bind_eq_done.mp h with ⟨s2, h2, h⟩
      rcases gatewayStage_done h with ⟨_, _, _, rfl⟩
      refine (tagsStage_nicsAsked h2 ?_ ?_ ?_).congr ⟨rfl, rfl, rfl⟩
      all_goals
        rcases Outcome.bind_eq_done.mp h1 with ⟨s3, hip, h1⟩
        cases h1
        rcases promptAdminIpOrDhcp_done hip with ⟨_, _, _, rfl⟩
        rfl

/-!
## VNICs of a pass
-/

/-- The physical interfaces stay over all passes. -/
theorem Reached.hasPhysical {m : Machine} {kind : NodeKind} {advanced : Bool}
    {P : NicChoice -> Prop} {phase : Phase} {x : Shell}
    (h : Reached m kind advanced P phase x) :
    forall nic, nic ∈ m.nics -> (x.net (.physical, nic.link)).isSome = true := by
  induction h with
  | start =>
      intro nic hnic
      show (m.net (.physical, nic.link)).isSome = true
      rw [m.shows nic hnic]
      rfl
  | ask a h hprompts htags hquestions ih => exact ih
  | up a h ih =>
      intro nic hnic
      rcases bringUp_issues (a := a) h.holds.asked.kept.toIdle with ⟨net, hissues, _⟩
      rw [hissues.net]
      exact netAfter_hasPhysical (ih nic hnic)
  | check a h hquestions ih => exact ih
  | down h ih =>
      intro nic hnic
      rcases h.holds with ⟨before, b, hbefore, _, hsame⟩
      rcases bringUp_issues (a := b) hbefore.asked.kept.toIdle with ⟨_, _, hvars, _⟩
      have hdown := bringDown_issues (hsame.upVars hvars).nicsupDone
      show (_ : Option LinkState).isSome = true
      rw [hdown.net]
      exact netAfter_hasPhysical (ih nic hnic)

theorem createVnic_issuedFrom_adminUp {s : Globals} {net net' : Net}
    {link vlan name : String} {mac : Option String}
    (h : (.createVnic link vlan mac name, net') ∈ issuedFrom (adminUp s) net) :
    net' = net := by
  unfold adminUp at h
  dsimp only at h
  rw [List.append_assoc, issuedFrom_append] at h
  rcases List.mem_append.mp h with h | h
  · split at h
    · cases List.mem_singleton.mp h
      rfl
    · cases h
  · have hip := mem_of_mem_issuedFrom h
    split at hip <;> simp at hip

theorem BroughtUp.createVnic {a : Answers} {x y : Shell} {net net' : Net}
    {link vlan name : String} {mac : Option String} (h : BroughtUp a x y net)
    (hmem : (.createVnic link vlan mac name, net') ∈ issuedBetween x y) :
    (.createVnic link vlan mac name ∈ adminUp x.vars ∧
      net' = netAfter (x.vars.etherstubs.map .createEtherstub) x.net) ∨
    exists ntag, .createVnic link vlan mac name ∈ tagUp net a.newMac x.vars ntag := by
  rw [h.issues.issuedBetween] at hmem
  simp only [issuedFrom_append, List.mem_append] at hmem
  rcases hmem with ((((hstub | hadmin) | hexternal) | hinternal) | hstorage) | hroute
  · have hstub := mem_of_mem_issuedFrom hstub
    simp at hstub
  · exact Or.inl ⟨mem_of_mem_issuedFrom hadmin, createVnic_issuedFrom_adminUp hadmin⟩
  · exact Or.inr ⟨.external, mem_of_mem_issuedFrom hexternal⟩
  · exact Or.inr ⟨.internal, mem_of_mem_issuedFrom hinternal⟩
  · exact Or.inr ⟨.storage, mem_of_mem_issuedFrom hstorage⟩
  · rcases routeUp_ip (mem_of_mem_issuedFrom hroute) with ⟨words, heq⟩
    cases heq

theorem BroughtUp.tagUp_issued {a : Answers} {x y : Shell} {net : Net} {ntag : NicTag}
    {c : Command} (h : BroughtUp a x y net) (hmem : c ∈ tagUp net a.newMac x.vars ntag) :
    exists net', (c, net') ∈ issuedBetween x y := by
  rw [h.issues.issuedBetween]
  apply exists_mem_issuedFrom
  cases ntag <;> simp [hmem]

theorem adminUp_issued {s : Globals} (net : Net) (hstub : s.admin.iface = "etherstub") :
    exists link vlan, (.createVnic link vlan none "admin0", net) ∈
      issuedFrom (adminUp s) net := by
  have hvnic : s.admin.vlanId ≠ "" ∨ s.admin.iface = "etherstub" := Or.inr hstub
  have hactive : activeIface s = "admin0" := if_pos hvnic
  unfold adminUp
  dsimp only
  rw [if_pos hvnic, hactive]
  exact ⟨_, _, List.mem_cons_self⟩

theorem BroughtUp.adminUp_issued {a : Answers} {x y : Shell} {net : Net}
    (h : BroughtUp a x y net) (hstub : x.vars.admin.iface = "etherstub") :
    exists link vlan, (.createVnic link vlan none "admin0",
      netAfter (x.vars.etherstubs.map .createEtherstub) x.net) ∈ issuedBetween x y := by
  rcases Installer.adminUp_issued (netAfter (x.vars.etherstubs.map .createEtherstub) x.net)
    hstub with ⟨link, vlan, hmem⟩
  refine ⟨link, vlan, ?_⟩
  rw [h.issues.issuedBetween]
  simp only [issuedFrom_append, List.mem_append]
  exact Or.inl (Or.inl (Or.inl (Or.inl (Or.inr hmem))))

section Runs

variable {m : Machine} {kind : NodeKind} {advanced : Bool} {x : Shell} {s : Globals}
  {a : NodeAnswers}

theorem link_ne_marker {nic : Nic} (h : Offered m.nics (.physical nic)) :
    nic.link ≠ "etherstub" :=
  m.link_ne nic h

theorem chosenLink {choice : NicChoice} (h : Offered m.nics choice) :
    (if choice.nicVal = "etherstub" then choice.val else choice.nicVal) = choice.key.2 := by
  cases choice with
  | physical nic => exact if_neg (link_ne_marker h)
  | etherstub name valid => exact if_pos rfl

theorem tag_chosenFor (hasked : Asked m.nics (fun _ => True) s)
    (hnics : NicsAsked a.toAnswers s) (hprompts : a.FromPrompts m.nics) {ntag : NicTag}
    (hip : (s.nictags ntag).ip.isSome = true) :
    exists choice, ChosenFor m.nics a.toAnswers s ntag choice := by
  by_cases hadds : a.adds ntag = true
  · rcases hprompts.tagNic ntag hadds with ⟨answer, autoselect, typed, hnic⟩
    rcases hnics.tags ntag hadds with ⟨hmac, hiface⟩
    exact ⟨(a.tag ntag).nic, promptnic_offered hnic, hmac, hiface, fun _ => rfl⟩
  · rcases hasked.kept.tags ntag with ⟨hnone, _⟩ | ⟨choice, hoffered, _, hmac, hiface⟩
    · rw [hnone] at hip
      cases hip
    · exact ⟨choice, hoffered, hmac, hiface, fun h => absurd h hadds⟩

theorem chosen_of_tagUp {net net' : Net} {newMac : MacKey -> String} {ntag : NicTag}
    {link vlan name : String} {mac : Option String} {vars : Globals}
    (hnictags : vars.nictags = s.nictags) (hasked : Asked m.nics (fun _ => True) s)
    (hnics : NicsAsked a.toAnswers s) (hprompts : a.FromPrompts m.nics)
    (hphysical : forall nic, nic ∈ m.nics -> (net' (.physical, nic.link)).isSome = true)
    (hstub : (s.nictags ntag).ip.isSome = true -> (s.nictags ntag).iface ≠ some "etherstub")
    (h : .createVnic link vlan mac name ∈ tagUp net newMac vars ntag) :
    name = ntag.vnic ∧ exists choice, ChosenFor m.nics a.toAnswers s ntag choice ∧
      OnChosenLink choice link net' := by
  rcases createVnic_mem_tagUp h with ⟨hip, hname, hlink⟩
  rw [hnictags] at hip hlink
  rcases tag_chosenFor hasked hnics hprompts hip with ⟨choice, hchosen⟩
  refine ⟨hname, choice, hchosen, ?_⟩
  cases choice with
  | physical nic =>
      rw [hchosen.iface] at hlink
      exact ⟨hlink, hphysical nic hchosen.offered⟩
  | etherstub stub valid => exact absurd hchosen.iface (hstub hip)

/-- The shells before and after `nicsup`, with the variables behind the questions. -/
structure UpAfter (m : Machine) (a : NodeAnswers) (b : Answers) (s : Globals) (y z : Shell)
    (net : Net) : Prop where
  asked : Asked m.nics (fun _ => True) s
  nics : NicsAsked a.toAnswers s
  prompts : a.FromPrompts m.nics
  nictags : y.vars.nictags = s.nictags
  admin : y.vars.admin = s.admin
  etherstubs : y.vars.etherstubs = s.etherstubs
  physical : forall nic, nic ∈ m.nics -> (y.net (.physical, nic.link)).isSome = true
  brought : BroughtUp b y z net

theorem upAfter_questions (b : Answers)
    (h : Reached m kind advanced (fun _ => True) .asking x)
    (hprompts : a.FromPrompts m.nics) (hquestions : questions kind a x.vars = .done s) :
    exists net, UpAfter m a b s (({ x with vars := s } : Shell).withRouter b)
      ((({ x with vars := s } : Shell).withRouter b).nicsup b) net := by
  have hconfigured := h.ask a hprompts (fun _ _ => trivial) hquestions
  have hasked : Asked m.nics (fun _ => True) s := hconfigured.holds.asked
  have hpart := withRouter_part (a := b) (x := { x with vars := s })
    hasked.kept.nicsupOpnsenseDone
  rcases nicsup_broughtUp (a := b) (hpart.router.nicsupDone.trans hasked.kept.nicsupDone)
    (hpart.marks hasked.kept.toIdle) with ⟨net, hbrought⟩
  refine ⟨net, hasked, questions_nicsAsked hquestions, hprompts, hpart.router.nictags,
    hpart.router.admin, hpart.router.etherstubs, ?_, hbrought⟩
  intro nic hnic
  rw [hpart.issues.net]
  exact netAfter_hasPhysical (hconfigured.hasPhysical nic hnic)

variable {b : Answers} {y z : Shell} {net : Net}

theorem UpAfter.canStub_iff (h : UpAfter m a b s y z net) {stub : String}
    {valid : validStubName stub = true} (hchoice : a.adminNic = .etherstub stub valid) :
    (netAfter (y.vars.etherstubs.map .createEtherstub) y.net (.etherstub, stub)).isSome =
      y.net.canStub stub := by
  have hmem : stub ∈ y.vars.etherstubs := by
    rw [h.etherstubs]
    exact h.nics.adminStub stub valid hchoice
  exact (netAfter_stubs _ _ _).trans (if_pos hmem)

/-- The VNIC of a tag on an etherstub would be made on the marker. -/
theorem UpAfter.not_on_stub (h : UpAfter m a b s y z net)
    (hvnics : VnicsOnChosenLinks m.nics a.toAnswers s (issuedBetween y z)) (ntag : NicTag)
    (hip : (s.nictags ntag).ip.isSome = true) : (s.nictags ntag).iface ≠ some "etherstub" := by
  intro hmarker
  rcases exists_createVnic_tagUp net b.newMac (s := y.vars) (h.nictags ▸ hip) with
    ⟨vlan, mac, hmem⟩
  rcases h.brought.tagUp_issued hmem with ⟨net', hissued⟩
  rcases hvnics _ _ _ _ _ hissued with ⟨hname, _⟩ | ⟨other, choice, hname, hchosen, hon⟩
  · exact vnic_ne_admin ntag hname
  · cases vnic_injective hname
    have hlink := hon.1
    rw [h.nictags, hmarker] at hlink
    have hval := hchosen.iface.symm.trans hmarker
    cases choice with
    | physical nic => exact link_ne_marker hchosen.offered (Option.some.inj hval)
    | etherstub stub valid => exact stub_ne valid hlink.symm

/-- The VNIC of the admin network is made on its stub only where the stub is made. -/
theorem UpAfter.canStub (h : UpAfter m a b s y z net)
    (hvnics : VnicsOnChosenLinks m.nics a.toAnswers s (issuedBetween y z)) (stub : String)
    (valid : validStubName stub = true) (hchoice : a.adminNic = .etherstub stub valid) :
    y.net.canStub stub = true := by
  have hiface : y.vars.admin.iface = "etherstub" := by
    rw [h.admin, h.nics.adminIface, hchoice]
    rfl
  rcases h.brought.adminUp_issued hiface with ⟨link, vlan, hissued⟩
  rcases hvnics _ _ _ _ _ hissued with ⟨_, hon⟩ | ⟨other, choice, hname, _⟩
  · have hthere := hon.2
    rw [hchoice] at hthere
    rw [← h.canStub_iff hchoice]
    exact hthere
  · exact absurd hname.symm (vnic_ne_admin other)

theorem UpAfter.onChosenLinks (h : UpAfter m a b s y z net)
    (htags : forall ntag, (s.nictags ntag).ip.isSome = true ->
      (s.nictags ntag).iface ≠ some "etherstub")
    (hstub : forall stub valid, a.adminNic = .etherstub stub valid ->
      y.net.canStub stub = true) :
    VnicsOnChosenLinks m.nics a.toAnswers s (issuedBetween y z) := by
  intro link vlan mac name net' hmem
  have hphysical : forall nic, nic ∈ m.nics ->
      (net' (.physical, nic.link)).isSome = true := by
    intro nic hnic
    rw [h.brought.issues.issuedBetween] at hmem
    exact issuedFrom_hasPhysical (h.physical nic hnic) hmem
  rcases h.prompts.adminNic with ⟨answer, autoselect, typed, hnic⟩
  have hoffered := promptnic_offered hnic
  rcases h.brought.createVnic hmem with ⟨hup, hnet⟩ | ⟨ntag, hup⟩
  · rcases createVnic_mem_adminUp hup with ⟨hname, hlink⟩
    refine Or.inl ⟨hname, ?_, ?_⟩
    · rw [hlink, h.admin, h.nics.adminNic, h.nics.adminIface]
      exact chosenLink hoffered
    · cases hchoice : a.adminNic with
      | physical nic =>
          rw [hchoice] at hoffered
          exact hphysical nic hoffered
      | etherstub stub valid =>
          rw [hnet]
          exact (h.canStub_iff hchoice).trans (hstub stub valid hchoice)
  · rcases chosen_of_tagUp h.nictags h.asked h.nics h.prompts hphysical (htags ntag) hup with
      ⟨hname, choice, hchosen, hon⟩
    exact Or.inr ⟨ntag, choice, hname, hchosen, hon⟩

/--
The VNICs of a pass are all made on the links that were chosen exactly when no tag with
an address is on an etherstub, and the stub for the admin network is there or can be made.
-/
theorem vnics_on_chosen_links_iff (b : Answers)
    (h : Reached m kind advanced (fun _ => True) .asking x)
    (hprompts : a.FromPrompts m.nics) (hquestions : questions kind a x.vars = .done s) :
    VnicsOnChosenLinks m.nics a.toAnswers s
      (issuedBetween (({ x with vars := s } : Shell).withRouter b)
        ((({ x with vars := s } : Shell).withRouter b).nicsup b)) <->
    (forall ntag, (s.nictags ntag).ip.isSome = true ->
      (s.nictags ntag).iface ≠ some "etherstub") ∧
    forall stub valid, a.adminNic = .etherstub stub valid ->
      (({ x with vars := s } : Shell).withRouter b).net.canStub stub = true := by
  rcases upAfter_questions b h hprompts hquestions with ⟨net, hup⟩
  constructor
  · exact fun hvnics => ⟨hup.not_on_stub hvnics, hup.canStub hvnics⟩
  · exact fun hlinks => hup.onChosenLinks hlinks.1 hlinks.2

end Runs

/-!
## A tag on an etherstub
-/

/-- The answers file puts the storage network on an etherstub, with an address. -/
def stubNode : NodeAnswers where
  toAnswers := { plainAnswers with
    addNictags := true
    tag := fun ntag =>
      if ntag = .storage then {
        addNictag := true
        nic := .etherstub "storagestub0" (by decide +kernel)
        addIp := true
        tries := [⟨"192.168.7.5", "255.255.255.0", ""⟩]
        preserveMac := false }
      else plainAnswers.tag ntag }
  cfgdbAdminIp := ""

theorem stubNode_fromPrompts : stubNode.FromPrompts plainMachine.nics where
  adminNic := ⟨"", false, ["1"], rfl⟩
  tagNic := by
    intro ntag hadds
    cases ntag with
    | external => cases hadds
    | internal => cases hadds
    | storage =>
        refine ⟨"storagestub0", false, [], ?_⟩
        have hvalid : validStubName "storagestub0" = true := by decide +kernel
        have hnone : plainMachine.nics.find? (fun nic => nic.mac = "storagestub0") = none := by
          decide +kernel
        simp [promptnic, answeredNic, hnone, hvalid, stubNode]
  adminVlanId := ⟨fun _ => none, "", [""], [], by decide +kernel⟩

/-- The VNIC of the storage network is made on a link `etherstub`. -/
theorem marker_is_taken_for_a_link : exists s : Globals,
    Reached plainMachine .first true (fun _ => True) .asking
      { vars := Globals.initial true, net := plainNet } ∧
    stubNode.FromPrompts plainMachine.nics ∧
    questions .first stubNode (Globals.initial true) = .done s ∧
    ¬ VnicsOnChosenLinks plainMachine.nics stubNode.toAnswers s
      (issuedBetween (({ vars := s, net := plainNet } : Shell).withRouter stubNode.toAnswers)
        ((({ vars := s, net := plainNet } : Shell).withRouter stubNode.toAnswers).nicsup
          stubNode.toAnswers)) := by
  have hrun : (questions .first stubNode (Globals.initial true)).passes (fun s =>
      let y := ({ vars := s, net := plainNet } : Shell).withRouter stubNode.toAnswers
      (issuedBetween y (y.nicsup stubNode.toAnswers)).any fun issued =>
        issued.1 = .createVnic "etherstub" "" none "storage0") = true := by
    decide +kernel
  rcases Outcome.passes_iff.mp hrun with ⟨s, hs, htest⟩
  refine ⟨s, Reached.start, stubNode_fromPrompts, hs, ?_⟩
  intro hvnics
  rcases List.any_eq_true.mp htest with ⟨⟨c, net⟩, hmem, hc⟩
  cases of_decide_eq_true hc
  rcases hvnics _ _ _ _ _ hmem with ⟨hname, _⟩ | ⟨ntag, choice, hname, hchosen, hon⟩
  · revert hname
    decide
  · cases @vnic_injective .storage ntag hname
    have hlink := hon.1
    rw [hchosen.answered rfl] at hlink
    revert hlink
    decide

/-- A tag with an address on a physical interface. -/
theorem vnics_on_chosen_links_keeping : exists s : Globals,
    questions .first keepingNode (Globals.initial true) = .done s ∧
    (VnicsOnChosenLinks plainMachine.nics keepingNode.toAnswers s
      (issuedBetween (({ vars := s, net := plainNet } : Shell).withRouter
          keepingNode.toAnswers)
        ((({ vars := s, net := plainNet } : Shell).withRouter
          keepingNode.toAnswers).nicsup keepingNode.toAnswers)) <->
      (forall ntag, (s.nictags ntag).ip.isSome = true ->
        (s.nictags ntag).iface ≠ some "etherstub") ∧
      forall stub valid, keepingNode.adminNic = .etherstub stub valid ->
        (({ vars := s, net := plainNet } : Shell).withRouter
          keepingNode.toAnswers).net.canStub stub = true) := by
  have hrun : (questions .first keepingNode (Globals.initial true)).passes (fun _ => true) =
      true := by
    decide +kernel
  rcases Outcome.passes_iff.mp hrun with ⟨s, hs, _⟩
  exact ⟨s, hs, vnics_on_chosen_links_iff (m := plainMachine) (x :=
    { vars := Globals.initial true, net := plainNet }) keepingNode.toAnswers .start
    keepingNode_fromPrompts hs⟩

end Installer
end EsdcFactory
