import EsdcFactory.Installer.NicPrompts
import EsdcFactory.Installer.Teardown

/-!
# Interfaces over all passes

The passes of the main loop, with what they do to the interfaces: the questions, bringing
up what was asked for, the questions that need the network, and taking everything down.
-/

namespace EsdcFactory
namespace Installer

open Function

/-!
## Passes
-/

/-- The questions about a router, up to bringing up its interface. -/
def opnsenseQuestions (a : Answers) (s : Globals) : Outcome Globals :=
  (if s.opnsense.adminIp = "" then
    computeDefGw s.admin.ip s.admin.netmask s
      fun val s => { s with opnsense.adminIp := val }
  else .done s).bind fun s =>
  (promptOpnsenseAdminIp a.opnsenseAdminIps s).bind fun s =>
  (promptOpnsenseExternalIp a.opnsenseExternalIps s).bind fun s =>
  (opnsenseStaticStage a s).bind fun s =>
  .done (opnsenseGatewayStage a (opnsenseMacStage a s))

/-- The questions about routing, up to bringing up any interface. -/
def routingQuestions (a : Answers) (s : Globals) : Outcome Globals :=
  let s := { s with deployOpnsense := s.externalIface ≠ "" && a.deployOpnsense }
  if s.deployOpnsense then opnsenseQuestions a s else gatewayStage a s

/-- The first node of a data center, or a further one. -/
inductive NodeKind where
  | first
  | further

/-- The questions of a pass before any interface is brought up. -/
def questions (kind : NodeKind) (a : NodeAnswers) (s : Globals) : Outcome Globals :=
  match kind with
  | .first =>
      (adminStage a.toAnswers s).bind fun s =>
      (tagsStage a.toAnswers s).bind fun s => routingQuestions a.toAnswers s
  | .further =>
      (nodeAdminStage a s).bind fun s =>
      (tagsStage a.toAnswers s).bind fun s => gatewayStage a.toAnswers s

/-- The questions of a pass while the interfaces are up. -/
def furtherQuestions (kind : NodeKind) (a : NodeAnswers) (s : Globals) : Outcome Globals :=
  match kind with
  | .first => servicesStage a.toAnswers (systemStage a.toAnswers s)
  | .further => nodeServicesStage a (systemStage a.toAnswers s)

/-- Answers that come from the prompts for interfaces and VLANs. -/
structure Answers.FromPrompts (a : Answers) (nics : List Nic) : Prop where
  adminNic : exists answer autoselect typed,
    promptnic nics "admin" answer autoselect typed = some a.adminNic
  tagNic : forall ntag, a.adds ntag = true -> exists answer autoselect typed,
    promptnic nics ntag.name answer autoselect typed = some (a.tag ntag).nic
  adminVlanId : exists file default typed rest,
    promptvlan file "admin_vlan_id" default typed = some (a.adminVlanId, rest)

/-- A node before the installation. -/
structure Machine where
  nics : List Nic
  net : Net
  /-- the names of links end with a digit -/
  link_ne : forall nic, nic ∈ nics -> nic.link ≠ "etherstub"
  shows : net.Shows nics

inductive Phase where
  | asking
  | configured
  | up

/--
The states that the passes come through, where the tags are put on interfaces of a kind.
-/
inductive Reached (m : Machine) (kind : NodeKind) (advanced : Bool) (P : NicChoice -> Prop) :
    Phase -> Shell -> Prop where
  | start : Reached m kind advanced P .asking
      { vars := Globals.initial advanced
        net := m.net }
  | ask {x : Shell} {s : Globals} (a : NodeAnswers)
      (h : Reached m kind advanced P .asking x) (hprompts : a.FromPrompts m.nics)
      (htags : forall ntag, a.adds ntag = true -> P (a.tag ntag).nic)
      (hquestions : questions kind a x.vars = .done s) :
      Reached m kind advanced P .configured { x with vars := s }
  | up {x : Shell} (a : Answers) (h : Reached m kind advanced P .configured x) :
      Reached m kind advanced P .up (x.bringUp a)
  | check {x : Shell} {s : Globals} (a : NodeAnswers)
      (h : Reached m kind advanced P .up x)
      (hquestions : furtherQuestions kind a x.vars = .done s) :
      Reached m kind advanced P .up { x with vars := s }
  | down {x : Shell} (h : Reached m kind advanced P .up x) :
      Reached m kind advanced P .asking
        { x.bringDown with vars := saveChangeMacs x.bringDown.vars }

/-!
## What the questions leave
-/

def TagChosen (nics : List Nic) (P : NicChoice -> Prop) (tag : TagVars) : Prop :=
  (tag.ip = none ∧ tag.iface = none) ∨
    exists choice, Offered nics choice ∧ P choice ∧ tag.mac = some choice.val ∧
      tag.iface = some choice.nicVal

/-- What holds of the variables between two passes. -/
structure Globals.Kept (s : Globals) (nics : List Nic) (P : NicChoice -> Prop) : Prop
    extends s.Idle where
  tags : forall ntag, TagChosen nics P (s.nictags ntag)

theorem tagAfter_chosen {nics : List Nic} {P : NicChoice -> Prop} {advanced : Bool}
    {a : TagAnswers} {tag : TagVars}
    (h : a.addNictag = true -> Offered nics a.nic ∧ P a.nic) :
    TagChosen nics P (tagAfter advanced a tag) := by
  by_cases hadd : a.addNictag = true
  · apply Or.inr
    refine ⟨a.nic, (h hadd).1, (h hadd).2, ?_⟩
    unfold tagAfter
    rw [if_pos hadd]
    cases advanced with
    | false => exact ⟨rfl, rfl⟩
    | true =>
        dsimp only
        rw [if_pos rfl]
        split <;> exact ⟨rfl, rfl⟩
  · apply Or.inl
    simp [tagAfter, hadd]

/-- What is known of the variables once the tags were asked for. -/
structure Tagged (nics : List Nic) (P : NicChoice -> Prop) (a : Answers) (s : Globals) :
    Prop where
  kept : s.Kept nics P
  nic : s.admin.nic = a.adminNic.val
  iface : s.admin.iface = a.adminNic.nicVal
  vlan : s.admin.vlanId = if s.advancedInstall then a.adminVlanId else ""

theorem tagsStage_tagged {nics : List Nic} {P : NicChoice -> Prop} {a : Answers}
    {s s' : Globals} (hs : Tagged nics P a s)
    (hchoice : forall ntag, a.adds ntag = true ->
      Offered nics (a.tag ntag).nic ∧ P (a.tag ntag).nic)
    (h : tagsStage a s = .done s') : Tagged nics P a s' := by
  rcases tagsStage_done h with ⟨etherstubs, numbers, _, rfl⟩
  refine ⟨⟨⟨hs.kept.nicsupDone, hs.kept.nicsupOpnsenseDone, ?_⟩, ?_⟩, hs.nic, hs.iface, hs.vlan⟩
  · intro ntag hne
    have hmark := hs.kept.marks ntag hne
    simp only [preserveMacAfter, markAfter, hmark]
    split
    · split
      · rw [if_neg fun h => hne h.2]
      · rfl
    · rfl
  · intro ntag
    show TagChosen nics P (nictagAfter a s ntag)
    unfold nictagAfter
    split
    next hadds =>
      apply tagAfter_chosen
      intro hadd
      exact hchoice ntag (by rw [Answers.adds, hadds, hadd]; rfl)
    next => exact hs.kept.tags ntag

theorem adminStage_tagged {nics : List Nic} {P : NicChoice -> Prop} {a : Answers}
    {s s' : Globals} (hs : s.Kept nics P) (h : adminStage a s = .done s') :
    Tagged nics P a s' := by
  rcases Outcome.bind_eq_done.mp h with ⟨s1, hip, h⟩
  cases h
  rcases promptAdminIp_done hip with ⟨t, numbers, _, _, _, rfl⟩
  exact ⟨⟨⟨hs.nicsupDone, hs.nicsupOpnsenseDone, hs.marks⟩, hs.tags⟩, rfl, rfl, rfl⟩

theorem promptAdminIpOrDhcp_done {tries : List AddressTry} {s s' : Globals}
    (h : promptAdminIpOrDhcp tries s = .done s') :
    exists ip netmask numbers, s' = { s with
      admin.ip := ip
      admin.netmask := netmask
      numbers := numbers } := by
  induction tries generalizing s with
  | nil => cases h
  | cons t rest ih =>
      unfold promptAdminIpOrDhcp at h
      dsimp only at h
      split at h
      · cases h
        exact ⟨t.ip, s.admin.netmask, s.numbers, rfl⟩
      · rcases Outcome.bind_eq_done.mp h with ⟨s1, hnet, h⟩
        rcases ipNetmaskToNetwork_done hnet with ⟨numbers, _, rfl⟩
        split at h
        · cases h
          exact ⟨t.ip, t.netmask, numbers, rfl⟩
        · rcases ih h with ⟨ip, netmask, numbers', rfl⟩
          exact ⟨ip, netmask, numbers', rfl⟩

theorem nodeAdminStage_tagged {nics : List Nic} {P : NicChoice -> Prop} {a : NodeAnswers}
    {s s' : Globals} (hs : s.Kept nics P) (h : nodeAdminStage a s = .done s') :
    Tagged nics P a.toAnswers s' := by
  rcases Outcome.bind_eq_done.mp h with ⟨s1, hip, h⟩
  cases h
  rcases promptAdminIpOrDhcp_done hip with ⟨ip, netmask, numbers, rfl⟩
  exact ⟨⟨⟨hs.nicsupDone, hs.nicsupOpnsenseDone, hs.marks⟩, hs.tags⟩, rfl, rfl, rfl⟩

/-- Only variables about the router, the gateway of the admin network, and numbers changed. -/
def RouterAsked (s s' : Globals) : Prop :=
  exists router adminGateway numbers, s' = { s with
    opnsense := router
    adminGateway := adminGateway
    numbers := numbers }

theorem RouterAsked.trans {s s' s'' : Globals} (h : RouterAsked s s')
    (h' : RouterAsked s' s'') : RouterAsked s s'' := by
  rcases h with ⟨_, _, _, rfl⟩
  rcases h' with ⟨router, adminGateway, numbers, rfl⟩
  exact ⟨router, adminGateway, numbers, rfl⟩

theorem opnsenseStaticStage_asked {a : Answers} {s s' : Globals}
    (h : opnsenseStaticStage a s = .done s') : RouterAsked s s' := by
  have hnetmask : RouterAsked s (opnsenseNetmaskStage a s) := by
    unfold opnsenseNetmaskStage
    dsimp only
    split <;> exact ⟨_, _, _, rfl⟩
  unfold opnsenseStaticStage at h
  split at h
  · rcases Outcome.bind_eq_done.mp h with ⟨s1, h1, h⟩
    cases h
    have hgw : RouterAsked (opnsenseNetmaskStage a s) s1 := by
      split at h1
      · rcases computeDefGw_done h1 with ⟨_, val, ⟨numbers, _, rfl⟩, rfl⟩
        exact ⟨_, _, _, rfl⟩
      · cases h1
        exact ⟨_, _, _, rfl⟩
    exact (hnetmask.trans hgw).trans ⟨_, _, _, rfl⟩
  · cases h
    exact ⟨_, _, _, rfl⟩

theorem opnsenseQuestions_done {a : Answers} {s s' : Globals}
    (h : opnsenseQuestions a s = .done s') :
    exists s1, RouterAsked s s1 ∧ s' = opnsenseGatewayStage a (opnsenseMacStage a s1) := by
  rcases Outcome.bind_eq_done.mp h with ⟨s1, h1, h⟩
  rcases Outcome.bind_eq_done.mp h with ⟨s2, h2, h⟩
  rcases Outcome.bind_eq_done.mp h with ⟨s3, h3, h⟩
  rcases Outcome.bind_eq_done.mp h with ⟨s4, h4, h⟩
  cases h
  have hoffer : RouterAsked s s1 := by
    split at h1
    · rcases computeDefGw_done h1 with ⟨_, val, ⟨numbers, _, rfl⟩, rfl⟩
      exact ⟨_, _, _, rfl⟩
    · cases h1
      exact ⟨_, _, _, rfl⟩
  have hadmin : RouterAsked s1 s2 := by
    rcases promptOpnsenseAdminIp_done h2 with ⟨ip, _, _, _, rfl⟩
    exact ⟨_, _, _, rfl⟩
  have hexternal : RouterAsked s2 s3 := by
    rcases promptOpnsenseExternalIp_done h3 with ⟨val, _, rfl⟩
    exact ⟨_, _, _, rfl⟩
  exact ⟨s4, ((hoffer.trans hadmin).trans hexternal).trans (opnsenseStaticStage_asked h4), rfl⟩

/-- What the questions of a pass leave for the interfaces. -/
structure Asked (nics : List Nic) (P : NicChoice -> Prop) (s : Globals) : Prop where
  kept : s.Kept nics P
  admin : exists choice, Offered nics choice ∧ s.admin.nic = choice.val ∧
    s.admin.iface = choice.nicVal
  vlan : s.admin.vlanId ≠ "" -> vlanNonzero s.admin.vlanId = true
  deploys : s.deployOpnsense = true -> s.externalIface ≠ ""
  router : s.deployOpnsense = true -> s.opnsense.externalMacType = "node" ->
    s.opnsense.externalMac = valueOf (s.nictags .external).mac ∧
      s.nictagPreserveMac (.tag .external) = none

theorem Tagged.asked {nics : List Nic} {P : NicChoice -> Prop} {a : Answers} {s : Globals}
    (hs : Tagged nics P a s) (hprompts : a.FromPrompts nics) :
    (exists choice, Offered nics choice ∧ s.admin.nic = choice.val ∧
      s.admin.iface = choice.nicVal) ∧
    (s.admin.vlanId ≠ "" -> vlanNonzero s.admin.vlanId = true) := by
  constructor
  · rcases hprompts.adminNic with ⟨answer, autoselect, typed, hnic⟩
    exact ⟨a.adminNic, promptnic_offered hnic, hs.nic, hs.iface⟩
  · intro hne
    rcases hprompts.adminVlanId with ⟨file, default, typed, rest, hvlan⟩
    rw [hs.vlan] at hne ⊢
    split at hne
    next hadvanced =>
      rw [if_pos hadvanced]
      exact promptvlan_nonzero hvlan hne
    next => exact absurd rfl hne

theorem gatewayStage_asked {nics : List Nic} {P : NicChoice -> Prop} {a : Answers}
    {s s' : Globals} (hs : Tagged nics P a s) (hprompts : a.FromPrompts nics)
    (hdeploy : s.deployOpnsense = false) (h : gatewayStage a s = .done s') :
    Asked nics P s' := by
  rcases gatewayStage_done h with ⟨adminGateway, numbers, _, rfl⟩
  rcases hs.asked hprompts with ⟨hadmin, hvlan⟩
  refine ⟨⟨⟨hs.kept.nicsupDone, hs.kept.nicsupOpnsenseDone, hs.kept.marks⟩, hs.kept.tags⟩,
    hadmin, hvlan, ?_, ?_⟩
  · exact fun hother => absurd (hdeploy.symm.trans hother) Bool.false_ne_true
  · exact fun hother => absurd (hdeploy.symm.trans hother) Bool.false_ne_true

theorem routingQuestions_asked {nics : List Nic} {P : NicChoice -> Prop} {a : Answers}
    {s s' : Globals} (hs : Tagged nics P a s) (hprompts : a.FromPrompts nics)
    (h : routingQuestions a s = .done s') : Asked nics P s' := by
  unfold routingQuestions at h
  dsimp only at h
  rcases hs.asked hprompts with ⟨hadmin, hvlan⟩
  by_cases hwanted : (decide (s.externalIface ≠ "") && a.deployOpnsense) = true
  · rw [if_pos hwanted] at h
    rcases opnsenseQuestions_done h with ⟨s1, ⟨router, adminGateway, numbers, rfl⟩, rfl⟩
    generalize hasked : ({ s with
      deployOpnsense := decide (s.externalIface ≠ "") && a.deployOpnsense
      opnsense := router
      adminGateway := adminGateway
      numbers := numbers } : Globals) = asked
    rcases opnsenseMacStage_eq a asked with ⟨mac, hmac, hnode⟩
    rcases opnsenseGatewayStage_eq a (opnsenseMacStage a asked) with ⟨network, hgateway⟩
    rw [hmac] at hgateway ⊢
    rw [hgateway]
    subst hasked
    refine ⟨⟨⟨hs.kept.nicsupDone, hs.kept.nicsupOpnsenseDone, ?_⟩, hs.kept.tags⟩,
      hadmin, hvlan, ?_, ?_⟩
    · intro ntag hne
      have hkey : MacKey.tag ntag ≠ .tag .external := fun heq => hne (MacKey.tag.inj heq)
      dsimp only
      split
      · rw [update_of_ne hkey]
        exact hs.kept.marks ntag hne
      · exact hs.kept.marks ntag hne
    · intro _
      have hiface : s.externalIface ≠ "" := by
        simpa using (Bool.and_eq_true_iff.mp hwanted).1
      exact hiface
    · intro _ htype
      refine ⟨hnode htype, ?_⟩
      dsimp only at htype ⊢
      rw [if_pos htype, update_self]
  · rw [if_neg hwanted] at h
    refine gatewayStage_asked (s := { s with
      deployOpnsense := decide (s.externalIface ≠ "") && a.deployOpnsense }) ?_ hprompts ?_ h
    · exact ⟨⟨⟨hs.kept.nicsupDone, hs.kept.nicsupOpnsenseDone, hs.kept.marks⟩, hs.kept.tags⟩,
        hs.nic, hs.iface, hs.vlan⟩
    · simpa using hwanted

/-- What holds between two passes, where a further node never deploys a router. -/
structure Between (nics : List Nic) (kind : NodeKind) (P : NicChoice -> Prop) (s : Globals) :
    Prop where
  kept : s.Kept nics P
  deploys : kind = .further -> s.deployOpnsense = false

theorem questions_asked {nics : List Nic} {kind : NodeKind} {P : NicChoice -> Prop}
    {a : NodeAnswers} {s s' : Globals} (hs : Between nics kind P s)
    (hprompts : a.FromPrompts nics)
    (htags : forall ntag, a.adds ntag = true -> P (a.tag ntag).nic)
    (h : questions kind a s = .done s') :
    Asked nics P s' ∧ (kind = .further -> s'.deployOpnsense = false) := by
  have hchoice : forall ntag, a.adds ntag = true ->
      Offered nics (a.tag ntag).nic ∧ P (a.tag ntag).nic := by
    intro ntag hadds
    rcases hprompts.tagNic ntag hadds with ⟨answer, autoselect, typed, hnic⟩
    exact ⟨promptnic_offered hnic, htags ntag hadds⟩
  cases kind with
  | first =>
      rcases Outcome.bind_eq_done.mp h with ⟨s1, h1, h⟩
      rcases Outcome.bind_eq_done.mp h with ⟨s2, h2, h⟩
      have htagged := tagsStage_tagged (adminStage_tagged hs.kept h1) hchoice h2
      exact ⟨routingQuestions_asked htagged hprompts h, nofun⟩
  | further =>
      rcases Outcome.bind_eq_done.mp h with ⟨s1, h1, h⟩
      rcases Outcome.bind_eq_done.mp h with ⟨s2, h2, h⟩
      have htagged := tagsStage_tagged (nodeAdminStage_tagged hs.kept h1) hchoice h2
      have hdeploy : s2.deployOpnsense = false := by
        rcases tagsStage_done h2 with ⟨_, _, _, rfl⟩
        rcases Outcome.bind_eq_done.mp h1 with ⟨s3, hip, h1⟩
        cases h1
        rcases promptAdminIpOrDhcp_done hip with ⟨_, _, _, rfl⟩
        exact hs.deploys rfl
      refine ⟨gatewayStage_asked htagged hprompts hdeploy h, fun _ => ?_⟩
      rcases gatewayStage_done h with ⟨_, _, _, rfl⟩
      exact hdeploy

/-!
## Runs
-/

def NicChoice.IsPhysical : NicChoice -> Prop
  | physical _ => True
  | etherstub _ _ => False

theorem furtherQuestions_sameNics {kind : NodeKind} {a : NodeAnswers} {s s' : Globals}
    (h : furtherQuestions kind a s = .done s') : SameNics s s' := by
  rcases systemStage_eq a.toAnswers s with ⟨system, hsystem⟩
  cases kind with
  | first =>
      rw [furtherQuestions, hsystem] at h
      rcases servicesStage_done h with ⟨_, _, _, rfl⟩
      exact ⟨rfl, rfl, rfl, rfl, rfl, rfl, rfl, rfl, rfl, rfl⟩
  | further =>
      rw [furtherQuestions, hsystem] at h
      rcases Outcome.bind_eq_done.mp h with ⟨s1, h1, h⟩
      cases h
      unfold cfgdbStage at h1
      dsimp only at h1
      split at h1
      · rcases ipFromSubnet_done h1 with ⟨s2, ⟨numbers, _, rfl⟩, h2 | h2⟩
        · cases h2
          exact ⟨rfl, rfl, rfl, rfl, rfl, rfl, rfl, rfl, rfl, rfl⟩
        · cases h2
          exact ⟨rfl, rfl, rfl, rfl, rfl, rfl, rfl, rfl, rfl, rfl⟩
      · cases h1
        exact ⟨rfl, rfl, rfl, rfl, rfl, rfl, rfl, rfl, rfl, rfl⟩

section Runs

variable {m : Machine} {kind : NodeKind} {advanced : Bool} {P : NicChoice -> Prop}

/-- With all tags on physical interfaces, the links are those before the installation. -/
def Restored (m : Machine) (P : NicChoice -> Prop) (x : Shell) : Prop :=
  (forall choice, P choice -> choice.IsPhysical) -> x.Succeeded -> x.net = m.net

/-- What is known when the questions before bringing up are answered. -/
structure ConfiguredState (m : Machine) (kind : NodeKind) (P : NicChoice -> Prop) (x : Shell) :
    Prop where
  asked : Asked m.nics P x.vars
  deploys : kind = .further -> x.vars.deployOpnsense = false
  restored : Restored m P x

def Holds (m : Machine) (kind : NodeKind) (P : NicChoice -> Prop) : Phase -> Shell -> Prop
  | .asking, x => Between m.nics kind P x.vars ∧ Restored m P x
  | .configured, x => ConfiguredState m kind P x
  | .up, x => exists (before : Shell) (a : Answers), ConfiguredState m kind P before ∧
      x = { before.bringUp a with vars := x.vars } ∧ SameNics (before.bringUp a).vars x.vars

theorem Asked.configured {s : Globals} (hs : Asked m.nics P s)
    (hphysical : forall choice, P choice -> choice.IsPhysical) : Configured m.nics s := by
  have hnic : forall tag, TagChosen m.nics P tag -> tag.ip.isSome = true ∨ tag.iface ≠ none ->
      OnNic m.nics tag := by
    intro tag htag hsome
    rcases htag with ⟨hip, hiface⟩ | ⟨choice, hoffered, hP, hmac, hiface⟩
    · simp [hip, hiface] at hsome
    · cases choice with
      | physical nic => exact ⟨nic, hoffered, hmac, hiface⟩
      | etherstub name valid => exact (hphysical _ hP).elim
  refine ⟨hs.kept.toIdle, hs.vlan, ?_, ?_⟩
  · exact fun ntag hip => hnic _ (hs.kept.tags ntag) (Or.inl hip)
  · intro hdeploy hnode
    rcases hs.router hdeploy hnode with ⟨hmac, hmark⟩
    refine ⟨hnic _ (hs.kept.tags .external) (Or.inr ?_), hmac, hmark⟩
    intro hnone
    have hiface := hs.deploys hdeploy
    simp [Globals.externalIface, hnone, valueOf] at hiface

theorem bringDown_vars {x : Shell} (hup : x.vars.nicsupDone = true) :
    x.bringDown.vars = { x.vars with
      nicsupDone := false
      nicsupOpnsenseDone := false } := by
  have hvars := nicsdown_vars hup
  have hrouter : x.bringDown.vars =
      { x.nicsdown.vars with nicsupOpnsenseDone := false } := by
    unfold Shell.bringDown Shell.nicsdownOpnsense
    split
    next => simp only [issueAll_vars]
    next hdown =>
      rw [Bool.not_eq_true] at hdown
      rw [← hdown]
  rw [hrouter, hvars]

theorem ConfiguredState.restored_down {before : Shell} {a : Answers} {s : Globals}
    (h : ConfiguredState m kind P before) (hsame : SameNics (before.bringUp a).vars s)
    (hphysical : forall choice, P choice -> choice.IsPhysical)
    (hsucceeded : ({ before.bringUp a with vars := s } : Shell).bringDown.Succeeded) :
    before.net = m.net ∧ exists ups downs, Undone before (before.bringUp a)
      ({ before.bringUp a with vars := s } : Shell).bringDown ups downs := by
  have hconfigured := h.asked.configured hphysical
  rcases bringUp_issues (a := a) hconfigured.toIdle with ⟨net, hup, hvars, _⟩
  have hdown := bringDown_issues (x := { before.bringUp a with vars := s })
    (hsame.upVars hvars).nicsupDone
  have hbefore : before.Succeeded :=
    ((hup.congr (z := { before.bringUp a with vars := s }) rfl rfl).succeeded
      (hdown.succeeded hsucceeded).1).1
  have hnet : before.net = m.net := h.restored hphysical hbefore
  refine ⟨hnet, bringDown_bringUp hconfigured ?_ hsame hsucceeded⟩
  rw [hnet]
  exact m.shows

theorem Reached.holds {phase : Phase} {x : Shell} (h : Reached m kind advanced P phase x) :
    Holds m kind P phase x := by
  induction h with
  | start =>
      refine ⟨⟨⟨⟨rfl, rfl, fun _ _ => rfl⟩, fun _ => Or.inl ⟨rfl, rfl⟩⟩, fun _ => rfl⟩, ?_⟩
      exact fun _ _ => rfl
  | ask a h hprompts htags hquestions ih =>
      rcases ih with ⟨hbetween, hrestored⟩
      rcases questions_asked hbetween hprompts htags hquestions with ⟨hasked, hdeploys⟩
      exact ⟨hasked, hdeploys, hrestored⟩
  | up a h ih =>
      exact ⟨_, a, ih, rfl, ⟨rfl, rfl, rfl, rfl, rfl, rfl, rfl, rfl, rfl, rfl⟩⟩
  | check a h hquestions ih =>
      rcases ih with ⟨before, b, hbefore, hx, hsame⟩
      have hlater := furtherQuestions_sameNics hquestions
      refine ⟨before, b, hbefore, ?_, ?_⟩
      · rw [hx]
      · exact ⟨hlater.deployOpnsense.trans hsame.deployOpnsense,
          hlater.etherstubs.trans hsame.etherstubs, hlater.vlanId.trans hsame.vlanId,
          hlater.iface.trans hsame.iface, hlater.nictags.trans hsame.nictags,
          hlater.marks.trans hsame.marks, hlater.macType.trans hsame.macType,
          hlater.mac.trans hsame.mac, hlater.nicsupDone.trans hsame.nicsupDone,
          hlater.nicsupOpnsenseDone.trans hsame.nicsupOpnsenseDone⟩
  | down h ih =>
      rcases ih with ⟨before, b, hbefore, hx, hsame⟩
      rcases bringUp_issues (a := b) hbefore.asked.kept.toIdle with ⟨net, _, hvars, _⟩
      have hup := hsame.upVars hvars
      have hdown := bringDown_vars hup.nicsupDone
      constructor
      · rw [hdown]
        refine ⟨⟨⟨rfl, rfl, hup.others⟩, ?_⟩, ?_⟩
        · intro ntag
          have htag := hbefore.asked.kept.tags ntag
          rw [← hup.nictags] at htag
          exact htag
        · exact fun hkind => hup.deployOpnsense.trans (hbefore.deploys hkind)
      · intro hphysical hsucceeded
        rw [hx] at hsucceeded ⊢
        rcases hbefore.restored_down hsame hphysical hsucceeded with ⟨hnet, _, _, hundone⟩
        exact hundone.net.trans hnet

/-!
## The passes of the main loop
-/

/-- One pass of the main loop on a node. -/
def kindPass (kind : NodeKind) (dladmAddress : String -> String) (a : NodeAnswers)
    (s : Globals) : Outcome Globals :=
  match kind with
  | .first => pass dladmAddress a.toAnswers s
  | .further => nodePass dladmAddress a s

theorem bringUp_vars {a : Answers} {x : Shell} (hs : x.vars.Idle) :
    exists address, (x.bringUp a).vars = nicsup address a
      (if x.vars.deployOpnsense then nicsupOpnsense a x.vars else x.vars) := by
  have hpart := withRouter_part (a := a) hs.nicsupOpnsenseDone
  rcases nicsup_broughtUp (a := a) (hpart.router.nicsupDone.trans hs.nicsupDone)
    (hpart.marks hs) with ⟨net, hbrought⟩
  refine ⟨net.address, ?_⟩
  rw [Shell.bringUp, hbrought.vars, hpart.vars]

theorem opnsenseStage_eq (a : Answers) (s : Globals) :
    opnsenseStage a s = (opnsenseQuestions a s).bind fun s => .done (nicsupOpnsense a s) := by
  simp only [opnsenseStage, opnsenseQuestions, Outcome.bind_assoc, Outcome.bind_done]

theorem opnsenseQuestions_deployOpnsense {a : Answers} {s s' : Globals}
    (h : opnsenseQuestions a s = .done s') : s'.deployOpnsense = s.deployOpnsense := by
  rcases opnsenseQuestions_done h with ⟨s1, ⟨router, adminGateway, numbers, rfl⟩, rfl⟩
  rcases opnsenseGatewayStage_eq a (opnsenseMacStage a { s with
    opnsense := router
    adminGateway := adminGateway
    numbers := numbers }) with ⟨network, hgateway⟩
  rcases opnsenseMacStage_eq a { s with
    opnsense := router
    adminGateway := adminGateway
    numbers := numbers } with ⟨mac, hmac, _⟩
  rw [hgateway, hmac]

theorem gatewayStage_deployOpnsense {a : Answers} {s s' : Globals}
    (h : gatewayStage a s = .done s') : s'.deployOpnsense = s.deployOpnsense := by
  rcases gatewayStage_done h with ⟨_, _, _, rfl⟩
  rfl

theorem routingStage_of_questions {a : Answers} {s s' : Globals}
    (h : routingQuestions a s = .done s') : routingStage a s =
      .done (if s'.deployOpnsense then nicsupOpnsense a s' else s') := by
  unfold routingQuestions at h
  unfold routingStage
  dsimp only at h ⊢
  by_cases hdeploy : (decide (s.externalIface ≠ "") && a.deployOpnsense) = true
  · rw [if_pos hdeploy] at h ⊢
    rw [opnsenseStage_eq, h, Outcome.bind_done,
      if_pos ((opnsenseQuestions_deployOpnsense h).trans hdeploy)]
  · rw [if_neg hdeploy] at h ⊢
    rw [h, if_neg]
    rw [gatewayStage_deployOpnsense h]
    exact hdeploy

/-- What the passes of the shell do to the variables is what the main loop does. -/
theorem Reached.pass {x : Shell} {s s' : Globals} {a : NodeAnswers}
    (h : Reached m kind advanced P .asking x) (hprompts : a.FromPrompts m.nics)
    (htags : forall ntag, a.adds ntag = true -> P (a.tag ntag).nic)
    (hquestions : questions kind a x.vars = .done s)
    (hfurther : furtherQuestions kind a
      ((({ x with vars := s } : Shell).bringUp a.toAnswers)).vars = .done s') :
    exists address, kindPass kind address a x.vars = .done (saveChangeMacs
      ({ ({ x with vars := s } : Shell).bringUp a.toAnswers with vars := s' } :
        Shell).bringDown.vars) := by
  have hconfigured := (h.ask a hprompts htags hquestions).holds
  have hup := (((h.ask a hprompts htags hquestions).up a.toAnswers).check a hfurther).holds
  rcases bringUp_vars (a := a.toAnswers) hconfigured.asked.kept.toIdle with ⟨address, hvars⟩
  rcases bringUp_issues (a := a.toAnswers) hconfigured.asked.kept.toIdle with
    ⟨_, _, hupVars, _⟩
  have hdone : s'.nicsupDone = true :=
    ((furtherQuestions_sameNics hfurther).upVars hupVars).nicsupDone
  refine ⟨address, ?_⟩
  rw [bringDown_vars hdone]
  cases kind with
  | first =>
      rcases Outcome.bind_eq_done.mp hquestions with ⟨s1, h1, hquestions⟩
      rcases Outcome.bind_eq_done.mp hquestions with ⟨s2, h2, hquestions⟩
      show Installer.pass address a.toAnswers x.vars = _
      rw [Installer.pass, h1, Outcome.bind_done, h2, Outcome.bind_done,
        routingStage_of_questions hquestions, Outcome.bind_done]
      rw [hvars] at hfurther
      dsimp only [furtherQuestions] at hfurther ⊢
      rw [hfurther, Outcome.bind_done]
      rfl
  | further =>
      rcases Outcome.bind_eq_done.mp hquestions with ⟨s1, h1, hquestions⟩
      rcases Outcome.bind_eq_done.mp hquestions with ⟨s2, h2, hquestions⟩
      have hdeploy : s.deployOpnsense = false := hconfigured.deploys rfl
      show nodePass address a x.vars = _
      rw [nodePass, h1, Outcome.bind_done, h2, Outcome.bind_done, hquestions,
        Outcome.bind_done]
      rw [hvars] at hfurther
      simp only [hdeploy, Bool.false_eq_true, if_false] at hfurther
      dsimp only [furtherQuestions] at hfurther ⊢
      rw [hfurther, Outcome.bind_done]
      rfl

/-!
## Undoing what a pass has done
-/

theorem nicsup_done (a : Answers) (x : Shell) : (x.nicsup a).vars.nicsupDone = true := by
  unfold Shell.nicsup
  split
  next hdone => exact hdone
  next => rfl

theorem nicsupOpnsense_done (a : Answers) (x : Shell) :
    (x.nicsupOpnsense a).vars.nicsupOpnsenseDone = true := by
  unfold Shell.nicsupOpnsense
  split
  next hdone => exact hdone
  next hdown => exact (nicsupOpnsense_routerUp (by simpa using hdown)).2

theorem nicsdown_done (x : Shell) : x.nicsdown.vars.nicsupDone = false := by
  unfold Shell.nicsdown
  split
  next => rfl
  next hdown => simpa using hdown

theorem nicsdownOpnsense_done (x : Shell) :
    x.nicsdownOpnsense.vars.nicsupOpnsenseDone = false := by
  unfold Shell.nicsdownOpnsense
  split
  next => rfl
  next hdown => simpa using hdown

/-- Without its counterpart in between, each of the functions does nothing the second time. -/
def Shell.Idempotent (x : Shell) : Prop :=
  (forall a b, (x.nicsup a).nicsup b = x.nicsup a) ∧
  (forall a b, (x.nicsupOpnsense a).nicsupOpnsense b = x.nicsupOpnsense a) ∧
  x.nicsdown.nicsdown = x.nicsdown ∧
  x.nicsdownOpnsense.nicsdownOpnsense = x.nicsdownOpnsense

theorem shell_idempotent (x : Shell) : x.Idempotent := by
  refine ⟨fun a b => ?_, fun a b => ?_, ?_, ?_⟩
  · exact if_pos (nicsup_done a x)
  · exact if_pos (nicsupOpnsense_done a x)
  · exact if_neg (by simp [nicsdown_done])
  · exact if_neg (by simp [nicsdownOpnsense_done])

/--
At the end of a pass exactly the VNICs and etherstubs are deleted that the pass created,
and all links, the physical interfaces with their addresses among them, are as they were
before anything was brought up.
-/
theorem nicsdown_undoes_nicsup {x : Shell} {s : Globals} (a : Answers) (b : NodeAnswers)
    (h : Reached m kind advanced NicChoice.IsPhysical .configured x)
    (hfurther : furtherQuestions kind b (x.bringUp a).vars = .done s)
    (hsucceeded : ({ x.bringUp a with vars := s } : Shell).bringDown.Succeeded) :
    (exists ups downs,
      Issues x (x.bringUp a) ups ∧
      Issues (x.bringUp a) ({ x.bringUp a with vars := s } : Shell).bringDown downs ∧
      (forall name, .deleteVnic name ∈ downs <->
        exists link vlan mac, .createVnic link vlan mac name ∈ ups) ∧
      (forall stub, .deleteEtherstub stub ∈ downs <-> .createEtherstub stub ∈ ups)) ∧
    ({ x.bringUp a with vars := s } : Shell).bringDown.net = x.net ∧
    (forall nic, nic ∈ m.nics ->
      ({ x.bringUp a with vars := s } : Shell).bringDown.net (.physical, nic.link) =
        some { mac := some nic.mac }) ∧
    forall y : Shell, y.Idempotent := by
  have hconfigured := h.holds
  rcases hconfigured.restored_down (furtherQuestions_sameNics hfurther) (fun _ h => h)
    hsucceeded with ⟨hnet, ups, downs, hundone⟩
  refine ⟨⟨ups, downs, hundone.up, hundone.down, hundone.vnics, hundone.etherstubs⟩,
    hundone.net, ?_, shell_idempotent⟩
  rw [hundone.net, hnet]
  exact m.shows

end Runs

/-!
## A node with two interfaces
-/

def plainNet : Net := fun key =>
  if key = (.physical, firstNic.link) then some { mac := some firstNic.mac }
  else if key = (.physical, secondNic.link) then some { mac := some secondNic.mac }
  else none

def plainMachine : Machine where
  nics := [firstNic, secondNic]
  net := plainNet
  link_ne := by decide +kernel
  shows := by
    intro nic hnic
    simp only [List.mem_cons, List.not_mem_nil, or_false] at hnic
    rcases hnic with rfl | rfl <;> decide +kernel

/-- The node keeps the address of its external interface, as on the first node. -/
def keepingNode : NodeAnswers where
  toAnswers := keepingAnswers true
  cfgdbAdminIp := ""

theorem keepingNode_fromPrompts : keepingNode.FromPrompts plainMachine.nics where
  adminNic := ⟨"", false, ["1"], rfl⟩
  tagNic := by
    intro ntag hadds
    refine ⟨"", false, ["2"], ?_⟩
    cases ntag with
    | external => rfl
    | internal => cases hadds
    | storage => cases hadds
  adminVlanId := ⟨fun _ => none, "", [""], [], by decide +kernel⟩

theorem keepingNode_physical {ntag : NicTag} (_ : keepingNode.adds ntag = true) :
    (keepingNode.tag ntag).nic.IsPhysical := by
  cases ntag <;> trivial

/-- The commands of a pass that keeps an address, all of them successful. -/
theorem nicsdown_undoes_keeping : exists (x : Shell) (s : Globals),
    x.net = plainNet ∧
    Reached plainMachine .first true NicChoice.IsPhysical .configured x ∧
    furtherQuestions .first keepingNode (x.bringUp keepingNode.toAnswers).vars = .done s ∧
    ({ x.bringUp keepingNode.toAnswers with vars := s } : Shell).bringDown.Succeeded ∧
    ({ x.bringUp keepingNode.toAnswers with vars := s } : Shell).bringDown.net = plainNet := by
  have hrun : (questions .first keepingNode (Globals.initial true)).passes (fun s =>
      let x : Shell := { vars := s, net := plainNet }
      (furtherQuestions .first keepingNode (x.bringUp keepingNode.toAnswers).vars).passes
        fun s' => ({ x.bringUp keepingNode.toAnswers with vars := s' } :
          Shell).bringDown.issued.all fun issued => issued.1.succeeds issued.2) = true := by
    decide +kernel
  rcases Outcome.passes_iff.mp hrun with ⟨s, hquestions, hup⟩
  rcases Outcome.passes_iff.mp hup with ⟨s', hfurther, hissued⟩
  have hreached : Reached plainMachine .first true NicChoice.IsPhysical .configured
      { vars := s, net := plainNet } :=
    Reached.start.ask keepingNode keepingNode_fromPrompts (fun _ => keepingNode_physical)
      hquestions
  have hsucceeded : ({ ({ vars := s, net := plainNet } : Shell).bringUp keepingNode.toAnswers
      with vars := s' } : Shell).bringDown.Succeeded :=
    fun c net hmem => List.all_eq_true.mp hissued (c, net) hmem
  exact ⟨_, s', rfl, hreached, hfurther, hsucceeded,
    (nicsdown_undoes_nicsup keepingNode.toAnswers keepingNode hreached hfurther
      hsucceeded).2.1⟩

end Installer
end EsdcFactory
