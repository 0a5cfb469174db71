import EsdcFactory.Installer.MacFacts

/-!
# Decisions about the router over several passes

Every pass decides anew whether a router is deployed and whose address it takes.
The writer does not look at the decision but at the variables `opnsense_admin_ip`
and `nictag_preserve_mac[opnsense]`, which no pass clears.
-/

namespace EsdcFactory
namespace Installer

open BashArith Function

/-!
## Decisions
-/

/-- What a pass decides about the external tag and the router. -/
structure Decision where
  external : Bool
  deployed : Bool
  node : Bool
deriving DecidableEq

/-- The decision of a pass, given whether there is an external tag before it. -/
def decision (advanced external : Bool) (a : Answers) : Decision :=
  let external := if a.addNictags then (a.tag .external).addNictag else external
  let deployed := external && a.deployOpnsense
  { external
    deployed
    node := deployed && advanced && a.opnsenseExternalMac = "node" }

/-- The decisions of the passes of a run, one after the other. -/
def decisions (advanced : Bool) : Bool -> List Answers -> List Decision
  | _, [] => []
  | external, a :: rest =>
      let d := decision advanced external a
      d :: decisions advanced d.external rest

/-- There is an external tag. -/
def Globals.hasExternal (s : Globals) : Bool :=
  s.externalIface ≠ ""

theorem tagged_hasExternal (a : Answers) (ip netmask vlan : String)
    (etherstubs : List String) (numbers : Numbers) (s : Globals) :
    (tagged a ip netmask vlan etherstubs numbers s).hasExternal =
      (decision s.advancedInstall s.hasExternal a).external := by
  have hnic := (a.tag .external).nic.nicVal_ne
  show decide (valueOf (nictagAfter a s .external).iface ≠ "") = _
  unfold nictagAfter decision
  simp only
  split
  · unfold tagAfter
    cases (a.tag .external).addNictag with
    | false => simp [valueOf]
    | true =>
        simp only [if_true]
        split
        · split <;> simp [withAddress, valueOf, hnic]
        · simp [valueOf, hnic]
  · rfl

theorem routerMacType_node_iff {advanced : Bool} {a : Answers} :
    routerMacType advanced a = "node" <->
      advanced = true ∧ a.opnsenseExternalMac = "node" := by
  have hword : isMac "node" = false := by decide +kernel
  unfold routerMacType
  cases advanced with
  | false => simp
  | true =>
      simp only [if_true, true_and]
      constructor
      · intro h
        split at h
        · exact absurd h (by decide)
        · exact h
      · intro h
        rw [h, hword]
        rfl

/-!
## One pass
-/

/-- The pair of the router's mark in a pass that takes the node's address. -/
def nodePair (a : Answers) (s : Globals) : String :=
  macPair (valueOf (nictagAfter a s .external).mac) (a.newMac .opnsense)

/-- What a pass does to the variables that the writer looks at. -/
structure PassDecides (a : Answers) (s s' : Globals) : Prop where
  advanced : s'.advancedInstall = s.advancedInstall
  external : s'.hasExternal =
    (decision s.advancedInstall s.hasExternal a).external
  adminIp : s'.opnsense.adminIp ≠ "" <->
    (decision s.advancedInstall s.hasExternal a).deployed = true ∨
      s.opnsense.adminIp ≠ ""
  mark : s'.nictagPreserveMac .opnsense =
    if (decision s.advancedInstall s.hasExternal a).node then some (nodePair a s)
    else s.nictagPreserveMac .opnsense

theorem pass_decides {dladmAddress : String -> String} {a : Answers}
    {s s' : Globals} (ha : a.Accepted) (hready : s.Ready)
    (h : pass dladmAddress a s = .done s') : PassDecides a s s' := by
  rcases pass_done h with
    ⟨t, vlan, etherstubs, numbers, routed, numbers', ipAddr, _, _, _, _, hrouting, rfl⟩
  rcases finished_eq dladmAddress a numbers' ipAddr routed with
    ⟨nic, marks, changeMacs, system, hend, hmark, _⟩
  have hexternal := tagged_hasExternal a t.ip t.netmask vlan etherstubs numbers s
  have hdeployed : (decision s.advancedInstall s.hasExternal a).deployed =
      ((decision s.advancedInstall s.hasExternal a).external && a.deployOpnsense) := rfl
  have hnode : (decision s.advancedInstall s.hasExternal a).node = true <->
      (decision s.advancedInstall s.hasExternal a).deployed = true ∧
        routerMacType s.advancedInstall a = "node" := by
    rw [routerMacType_node_iff]
    simp [decision, and_assoc]
  generalize hdec : decision _ s.hasExternal a = d at hexternal hdeployed hnode
  have hwanted : ((tagged a t.ip t.netmask vlan etherstubs numbers s).externalIface ≠ "" ∧
      a.deployOpnsense = true) <-> d.deployed = true := by
    rw [hdeployed, Bool.and_eq_true, ← hexternal]
    simp [Globals.hasExternal]
  rcases routingStage_done (by exact hready.opnsense) hrouting with
    ⟨hdeploy, ip, externalIp, router, network, numbers'', rfl, _, hadmin, hmem, _⟩ |
    ⟨hnone, adminGateway, numbers'', rfl, _⟩
  · have hd := hwanted.mp hdeploy
    have hip : ip ≠ "" := isNetValue_ne_empty (ha.opnsenseAdminIps ip hmem)
    rw [hend]
    refine ⟨rfl, ?_, ?_, ?_⟩ <;> rw [hdec]
    · exact hexternal
    · show router.adminIp ≠ "" <-> _
      rw [hadmin]
      simp [hip, hd]
    · refine hmark.trans ?_
      show routerMarks a (tagged a t.ip t.netmask vlan etherstubs numbers s) .opnsense = _
      unfold routerMarks
      by_cases hn : routerMacType s.advancedInstall a = "node"
      · have hdn : d.node = true := hnode.mpr ⟨hd, hn⟩
        rw [if_pos hdn, if_pos (show routerMacType (tagged a t.ip t.netmask vlan
          etherstubs numbers s).advancedInstall a = "node" from hn), update_self]
        rfl
      · have hdn : ¬ d.node = true := fun hd => hn (hnode.mp hd).right
        rw [if_neg hdn, if_neg (show ¬ routerMacType (tagged a t.ip t.netmask vlan
          etherstubs numbers s).advancedInstall a = "node" from hn)]
        rfl
  · have hd : ¬ d.deployed = true := fun hd => hnone (hwanted.mpr hd)
    have hdn : ¬ d.node = true := fun hn => hd (hnode.mp hn).left
    rw [hend]
    refine ⟨rfl, ?_, ?_, ?_⟩ <;> rw [hdec]
    · exact hexternal
    · show s.opnsense.adminIp ≠ "" <-> _
      simp [hd]
    · rw [if_neg hdn]
      exact hmark

/-!
## Runs
-/

/-- The router's mark is a pair that can be taken apart. -/
def Globals.PairMark (s : Globals) : Prop :=
  forall mark, s.nictagPreserveMac .opnsense = some mark ->
    exists m n, mark = macPair m n ∧ PlainWord m

theorem pass_pairMark {dladmAddress : String -> String} {a : Answers}
    {s s' : Globals} (ha : a.Accepted) (hready : s.Ready) (hmarks : s.GoodMarks)
    (hs : s.PairMark) (h : pass dladmAddress a s = .done s') : s'.PairMark := by
  have hplain : PlainWord (valueOf (nictagAfter a s .external).mac) :=
    (tagged_goodMarks (a := a) hmarks "" "" "" [] {}).macs .external
  intro mark hmark
  rw [(pass_decides ha hready h).mark] at hmark
  split at hmark
  · cases hmark
    exact ⟨_, _, rfl, hplain⟩
  · exact hs mark hmark

theorem mainLoop_pairMark {dladmAddress : String -> String} {passes : List Answers}
    {advanced : Bool} {s : Globals} (hacc : forall a, a ∈ passes -> a.Accepted)
    (hsys : forall a, a ∈ passes -> SystemMacs dladmAddress a)
    (h : mainLoop dladmAddress passes (Globals.initial advanced) = .done s) :
    s.PairMark := by
  have hall := mainLoop_keeps (P := fun s => s.Ready ∧ s.GoodMarks ∧ s.PairMark)
    (fun a hmem _ _ hs hpass =>
      ⟨pass_ready hs.left hpass, pass_goodMarks (hsys a hmem) hs.left hs.right.left hpass,
        pass_pairMark (hacc a hmem) hs.left hs.right.left hs.right.right hpass⟩)
    ⟨initial_ready advanced, initial_goodMarks advanced, fun _ h => nomatch h⟩ h
  exact hall.right.right

/-- The variables that the writer looks at remember every decision for a router. -/
theorem mainLoop_remembers {dladmAddress : String -> String} {passes : List Answers}
    {s s' : Globals} (hacc : forall a, a ∈ passes -> a.Accepted) (hready : s.Ready)
    (h : mainLoop dladmAddress passes s = .done s') :
    (s'.opnsense.adminIp ≠ "" <-> s.opnsense.adminIp ≠ "" ∨
      exists d, d ∈ decisions s.advancedInstall s.hasExternal passes ∧
        d.deployed = true) ∧
    (s'.nictagPreserveMac .opnsense ≠ none <-> s.nictagPreserveMac .opnsense ≠ none ∨
      exists d, d ∈ decisions s.advancedInstall s.hasExternal passes ∧
        d.node = true) := by
  have hone : forall {a : Answers} {s s' : Globals}, PassDecides a s s' ->
      (s'.nictagPreserveMac .opnsense ≠ none <->
        (decision s.advancedInstall s.hasExternal a).node = true ∨
          s.nictagPreserveMac .opnsense ≠ none) := by
    intro a s s' hpass
    rw [hpass.mark]
    split
    · rename_i hnode
      simp [hnode]
    · rename_i hnode
      simp [hnode]
  induction passes generalizing s with
  | nil => cases h
  | cons a rest ih =>
      have ha := hacc a List.mem_cons_self
      cases rest with
      | nil =>
          have hpass := pass_decides ha hready h
          rw [hpass.adminIp, hone hpass]
          simp [decisions, or_comm]
      | cons b rest =>
          rcases Outcome.bind_eq_done.mp h with ⟨s1, hfirst, hrest⟩
          have hpass := pass_decides ha hready hfirst
          rcases ih (fun a' ha' => hacc a' (List.mem_cons_of_mem a ha'))
            (pass_ready hready hfirst) hrest with ⟨hip, hmark⟩
          rw [hpass.advanced, hpass.external] at hip hmark
          have hcons : decisions s.advancedInstall s.hasExternal (a :: b :: rest) =
              decision s.advancedInstall s.hasExternal a ::
                decisions s.advancedInstall
                  (decision s.advancedInstall s.hasExternal a).external (b :: rest) :=
            rfl
          rw [hip, hmark, hpass.adminIp, hone hpass, hcons,
            List.exists_mem_cons_iff, List.exists_mem_cons_iff]
          constructor
          · rw [or_assoc, or_left_comm]
          · rw [or_assoc, or_left_comm]

/-!
## The config
-/

/--
The config changes `m` to `n` for the router, and gives `n` to the interfaces that
had `m`.
-/
structure PairWritten (sys : System) (s : Globals) (m n : String) : Prop where
  mark : s.nictagPreserveMac .opnsense = some (macPair m n)
  entry : macPair m n ∈ changeMacEntries (configFile sys s)
  adminNic : configValue (configFile sys s) "admin_nic" =
    some (if s.admin.nic = m then n else s.admin.nic)
  nictags : forall ntag, (s.nictags ntag).ip.isSome = true ->
    (s.nictags ntag).mac = some m -> (s.written.nictags ntag).mac = some n

theorem pairWritten_of_mark {s : Globals} {m n : String} (sys : System)
    (hs : s.GoodMarks) (hm : PlainWord m)
    (hmark : s.nictagPreserveMac .opnsense = some (macPair m n)) :
    PairWritten sys s m n := by
  have hswap := written_of_pair hm hmark
  constructor
  · exact hmark
  · rw [changeMacEntries_eq hs]
    exact List.mem_filterMap.mpr ⟨.opnsense, by decide, hmark⟩
  · rw [configValue_adminNic, hswap.right]
  · intro ntag hip hmac
    rw [hswap.left]
    simp [hip, hmac, valueOf]

/-- The config says of the router what the last pass decided. -/
structure RouterFollows (sys : System) (s : Globals) (last : Decision) : Prop where
  deploy : configValue (configFile sys s) "opnsense_deploy" = some "true" <->
    last.deployed = true
  keys : forall key, key ∈ opnsenseKeys ->
    ((configValue (configFile sys s) key).isSome = true <-> last.deployed = true)
  pair : (exists m n, PairWritten sys s m n) <-> last.node = true

theorem exists_pairWritten_iff {s : Globals} (sys : System) (hmarks : s.GoodMarks)
    (hpair : s.PairMark) :
    (exists m n, PairWritten sys s m n) <-> s.nictagPreserveMac .opnsense ≠ none := by
  constructor
  · intro hwritten
    rcases hwritten with ⟨m, n, hwritten⟩
    rw [hwritten.mark]
    exact Option.some_ne_none _
  · intro hne
    rcases Option.ne_none_iff_exists'.mp hne with ⟨mark, heq⟩
    rcases hpair mark heq with ⟨m, n, rfl, hm⟩
    exact ⟨m, n, pairWritten_of_mark sys hmarks hm heq⟩

/-- The config is about the router that the variables remember. -/
theorem routerFollows_remembered_iff {s : Globals} (sys : System) (last : Decision)
    (hmarks : s.GoodMarks) (hpair : s.PairMark) :
    RouterFollows sys s last <->
      (s.opnsense.adminIp ≠ "" <-> last.deployed = true) ∧
      (s.nictagPreserveMac .opnsense ≠ none <-> last.node = true) := by
  have hrouter : s.written.opnsense = s.opnsense := by
    rcases written_keeps s with ⟨_, _, _, _, _, _, heq⟩
    rw [heq]
  have hdeploy : configValue (configFile sys s) "opnsense_deploy" = some "true" <->
      s.opnsense.adminIp ≠ "" := by
    rw [configValue_opnsenseDeploy, hrouter]
    split
    next hset => simp [hset]
    next hset =>
      simp at hset
      simp [hset]
  have hkeys := configValue_opnsenseKeys sys s
  rw [hrouter] at hkeys
  have hsome := exists_pairWritten_iff sys hmarks hpair
  constructor
  · intro h
    exact ⟨hdeploy.symm.trans h.deploy, hsome.symm.trans h.pair⟩
  · intro h
    exact ⟨hdeploy.trans h.left, fun key hkey => (hkeys key hkey).trans h.left,
      hsome.trans h.right⟩

/-- What was seen before is seen with the last one only if it is, or if nothing was. -/
theorem seen_last_iff (p : Decision -> Bool) (before : List Decision) (last : Decision) :
    ((exists d, d ∈ before ∧ p d = true) ∨ p last = true <-> p last = true) <->
      p last = true ∨ forall d, d ∈ before -> p d = false := by
  constructor
  · intro h
    by_cases hlast : p last = true
    · exact Or.inl hlast
    · refine Or.inr ?_
      intro d hd
      by_contra htrue
      exact hlast (h.mp (Or.inl ⟨d, hd, by simpa using htrue⟩))
  · intro h
    constructor
    · intro hseen
      rcases hseen with ⟨d, hd, htrue⟩ | hlast
      · rcases h with hlast | hfalse
        · exact hlast
        · rw [hfalse d hd] at htrue
          cases htrue
      · exact hlast
    · exact Or.inr

/--
The config follows the last pass exactly when no earlier pass decided for a router,
or for the node's address, unless the last one does so too.
-/
theorem routerFollows_iff (dladmAddress : String -> String) (sys : System)
    (advanced : Bool) (passes : List Answers) (before : List Decision)
    (last : Decision) (s : Globals)
    (hacc : forall a, a ∈ passes -> a.Accepted)
    (hsys : forall a, a ∈ passes -> SystemMacs dladmAddress a)
    (hdecisions : decisions advanced false passes = before ++ [last])
    (hrun : mainLoop dladmAddress passes (Globals.initial advanced) = .done s) :
    RouterFollows sys s last <->
      (last.deployed = true ∨ forall d, d ∈ before -> d.deployed = false) ∧
      (last.node = true ∨ forall d, d ∈ before -> d.node = false) := by
  rcases mainLoop_remembers hacc (initial_ready advanced) hrun with ⟨hip, hmark⟩
  have hseen : decisions (Globals.initial advanced).advancedInstall
      (Globals.initial advanced).hasExternal passes = before ++ [last] := hdecisions
  rw [hseen] at hip hmark
  have hip' : s.opnsense.adminIp ≠ "" <-> (exists d, d ∈ before ∧ d.deployed = true) ∨
      last.deployed = true := by
    rw [hip]
    simp [Globals.initial, or_and_right, exists_or]
  have hmark' : s.nictagPreserveMac .opnsense ≠ none <->
      (exists d, d ∈ before ∧ d.node = true) ∨ last.node = true := by
    rw [hmark]
    simp [Globals.initial, or_and_right, exists_or]
  rw [routerFollows_remembered_iff sys last (mainLoop_goodMarks hsys hrun)
    (mainLoop_pairMark hacc hsys hrun), hip', hmark', seen_last_iff Decision.deployed,
    seen_last_iff Decision.node]

/-!
## A discarded router
-/

/-- Answers that add an external tag, with a router or without one. -/
def routerAnswers (deployOpnsense : Bool) : Answers :=
  externalAnswers {
    addNictag := true
    nic := .physical secondNic
    addIp := false
    tries := []
    preserveMac := false } deployOpnsense

theorem routerAnswers_accepted (deployOpnsense : Bool) :
    (routerAnswers deployOpnsense).Accepted :=
  externalAnswers_accepted deployOpnsense fun _ h => nomatch h

theorem routerAnswers_passes {first last : Bool} :
    forall a, a ∈ [routerAnswers first, routerAnswers last] ->
      a.Accepted ∧ SystemMacs plainDladm a := by
  intro a ha
  simp only [List.mem_cons, List.not_mem_nil, or_false] at ha
  rcases ha with rfl | rfl
  · exact ⟨routerAnswers_accepted first,
      plainDladm_systemMacs (routerAnswers_accepted first)⟩
  · exact ⟨routerAnswers_accepted last,
      plainDladm_systemMacs (routerAnswers_accepted last)⟩

/-- A router that only a rejected pass decided for is in the config. -/
theorem discarded_router_is_written : exists s,
    mainLoop plainDladm [routerAnswers true, routerAnswers false]
        (Globals.initial false) = .done s ∧
      (forall a, a ∈ [routerAnswers true, routerAnswers false] ->
        a.Accepted ∧ SystemMacs plainDladm a) ∧
      decisions false false [routerAnswers true, routerAnswers false] =
        [⟨true, true, false⟩] ++ [⟨true, false, false⟩] ∧
      ¬ RouterFollows plainSystem s ⟨true, false, false⟩ := by
  have hrun : (mainLoop plainDladm [routerAnswers true, routerAnswers false]
      (Globals.initial false)).passes
        (fun s => configValue (configFile plainSystem s) "opnsense_deploy" =
          some "true") = true := by
    decide +kernel
  rcases Outcome.passes_iff.mp hrun with ⟨s, hs, htest⟩
  refine ⟨s, hs, routerAnswers_passes, by decide +kernel, ?_⟩
  intro h
  have hlast := h.deploy.mp (by simpa using htest)
  cases hlast

/-- A router that the last pass decides for again. -/
theorem routerFollows_iff_again : exists s,
    mainLoop plainDladm [routerAnswers true, routerAnswers true]
        (Globals.initial false) = .done s ∧
      (RouterFollows plainSystem s ⟨true, true, false⟩ <->
        ((⟨true, true, false⟩ : Decision).deployed = true ∨
          forall d, d ∈ [⟨true, true, false⟩] -> Decision.deployed d = false) ∧
        ((⟨true, true, false⟩ : Decision).node = true ∨
          forall d, d ∈ [⟨true, true, false⟩] -> Decision.node d = false)) := by
  have hrun : (mainLoop plainDladm [routerAnswers true, routerAnswers true]
      (Globals.initial false)).passes (fun _ => true) = true := by
    decide +kernel
  rcases Outcome.passes_iff.mp hrun with ⟨s, hs, _⟩
  exact ⟨s, hs, routerFollows_iff plainDladm plainSystem false
    [routerAnswers true, routerAnswers true] [⟨true, true, false⟩]
    ⟨true, true, false⟩ s (fun a ha => (routerAnswers_passes a ha).left)
    (fun a ha => (routerAnswers_passes a ha).right) (by decide +kernel) hs⟩

end Installer
end EsdcFactory
