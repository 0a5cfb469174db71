import EsdcFactory.Installer.MainLoop

/-!
# What a pass of the main loop leaves behind

One lemma for each stage of a pass that is finished: which variables it sets from
which answers, and which it leaves alone.
-/

namespace EsdcFactory
namespace Installer

open BashArith Function

/-!
## Addresses
-/

/-- Only the numbers were changed, and `IFS` is as it was. -/
def NumbersKept (s s' : Globals) : Prop :=
  exists numbers, numbers.ifsDot = s.numbers.ifsDot ∧ s' = { s with numbers := numbers }

theorem NumbersKept.refl (s : Globals) : NumbersKept s s :=
  ⟨s.numbers, rfl, rfl⟩

theorem NumbersKept.trans {s s' s'' : Globals} (h : NumbersKept s s')
    (h' : NumbersKept s' s'') : NumbersKept s s'' := by
  rcases h with ⟨_, hifs, rfl⟩
  rcases h' with ⟨numbers, hifs', rfl⟩
  exact ⟨numbers, hifs'.trans hifs, rfl⟩

theorem ipToNum_done {ip : String} {s s' : Globals} (h : ipToNum ip s = .done s') :
    NumbersKept s s' := by
  unfold ipToNum at h
  split at h
  · rename_i num _
    cases h
    exact ⟨{ s.numbers with num := num }, rfl, rfl⟩
  · cases h

theorem ipNetmaskToNetwork_done {ip netmask : String} {s s' : Globals}
    (h : ipNetmaskToNetwork ip netmask s = .done s') : NumbersKept s s' := by
  rcases ipNetmaskToNetwork_done_iff.mp h with ⟨_, i, m, _, _, rfl⟩
  exact ⟨(withNetwork i m s).numbers, rfl, rfl⟩

theorem computeDefGw_done {ip netmask : String} {s s' : Globals}
    {withVal : String -> Globals -> Globals}
    (h : computeDefGw ip netmask s withVal = .done s') :
    exists s1 val, NumbersKept s s1 ∧ s' = withVal val s1 := by
  rcases Outcome.bind_eq_done.mp h with ⟨s1, hnet, hval⟩
  cases hval
  exact ⟨s1, _, ipNetmaskToNetwork_done hnet, rfl⟩

theorem ipFromSubnet_done {myip net mask : String} {s s' : Globals}
    {fromSubnet other : Globals -> Outcome Globals}
    (h : ipFromSubnet myip net mask s fromSubnet other = .done s') :
    exists s1, NumbersKept s s1 ∧ (fromSubnet s1 = .done s' ∨ other s1 = .done s') := by
  unfold ipFromSubnet at h
  split at h
  · exact ⟨s, NumbersKept.refl s, Or.inl h⟩
  · rcases Outcome.bind_eq_done.mp h with ⟨s1, hnet, h⟩
    rcases Outcome.bind_eq_done.mp h with ⟨s2, hnum, h⟩
    refine ⟨s2, (ipNetmaskToNetwork_done hnet).trans (ipToNum_done hnum), ?_⟩
    split at h
    · exact Or.inl h
    · exact Or.inr h

theorem promptIpFromSubnet_done {net mask : String}
    {withVal : String -> Globals -> Globals} {vals : List String} {s s' : Globals}
    (h : promptIpFromSubnet net mask withVal vals s = .done s') :
    exists s1 val, NumbersKept s s1 ∧ s' = withVal val s1 := by
  induction vals generalizing s with
  | nil => cases h
  | cons val rest ih =>
      rcases ipFromSubnet_done h with ⟨s1, h1, hfrom | hother⟩
      · cases hfrom
        exact ⟨s1, val, h1, rfl⟩
      · rcases ih hother with ⟨s2, val', h2, hs'⟩
        exact ⟨s2, val', h1.trans h2, hs'⟩

/-!
## Admin network
-/

theorem promptAdminIp_done {tries : List AddressTry} {s s' : Globals}
    (h : promptAdminIp tries s = .done s') :
    exists t numbers, t ∈ tries ∧ t.ip ≠ "dhcp" ∧
      numbers.ifsDot = s.numbers.ifsDot ∧ s' = { s with
      admin.ip := t.ip
      admin.netmask := t.netmask
      numbers := numbers } := by
  induction tries generalizing s with
  | nil => cases h
  | cons t rest ih =>
      unfold promptAdminIp at h
      split at h
      · rcases ih h with ⟨t', numbers, hmem, hne, hifs, rfl⟩
        exact ⟨t', numbers, List.mem_cons_of_mem t hmem, hne, hifs, rfl⟩
      · rename_i hne
        rcases Outcome.bind_eq_done.mp h with ⟨s1, hnet, h⟩
        rcases ipNetmaskToNetwork_done hnet with ⟨numbers, hifs, rfl⟩
        split at h
        · cases h
          exact ⟨t, numbers, List.mem_cons_self, hne, hifs, rfl⟩
        · rcases ih h with ⟨t', numbers', hmem, hne', hifs', rfl⟩
          exact ⟨t', numbers', List.mem_cons_of_mem t hmem, hne',
            hifs'.trans hifs, rfl⟩

theorem adminStage_done {a : Answers} {s s' : Globals}
    (h : adminStage a s = .done s') :
    exists t vlan numbers, t ∈ a.adminTries ∧ t.ip ≠ "dhcp" ∧
      numbers.ifsDot = s.numbers.ifsDot ∧ s' = { s with
      system.datacenterName := a.datacenterName
      etherstubs := addEtherstub a.adminNic a.etherstubs
      admin := ⟨a.adminNic.val, a.adminNic.nicVal, t.ip, t.netmask, vlan⟩
      numbers := numbers } := by
  rcases Outcome.bind_eq_done.mp h with ⟨s1, hip, h⟩
  cases h
  rcases promptAdminIp_done hip with ⟨t, numbers, hmem, hne, hifs, rfl⟩
  exact ⟨t, _, numbers, hmem, hne, hifs, rfl⟩

/-!
## Network tags
-/

/-- An address that is not the broadcast address of its own network. -/
def isHostTry (t : AddressTry) : Bool :=
  match ipNumber t.ip, ipNumber t.netmask with
  | some ip, some netmask => ip ≠ broadcastOf ip netmask
  | _, _ => false

/-- The round of questions about a network tag that ends them. -/
def acceptedTry (tries : List AddressTry) : Option AddressTry :=
  tries.find? fun t => t.ip = "dhcp" || isHostTry t

/-- The address variables that a round of questions about a network tag leaves. -/
def withAddress (t : AddressTry) (tag : TagVars) : TagVars :=
  { tag with
    ip := some t.ip
    netmask := some (if t.ip = "dhcp" then "N/A" else t.netmask)
    vlan := some t.vlan }

theorem promptTagIp_done {ntag : NicTag} {tries : List AddressTry}
    {s s' : Globals} (h : promptTagIp ntag tries s = .done s') :
    exists t numbers, acceptedTry tries = some t ∧
      numbers.ifsDot = s.numbers.ifsDot ∧ s' = { s with
      nictags := update s.nictags ntag (withAddress t (s.nictags ntag))
      numbers := numbers } := by
  induction tries generalizing s with
  | nil => cases h
  | cons t rest ih =>
      unfold promptTagIp at h
      simp only at h
      split at h
      · rename_i hdhcp
        cases h
        refine ⟨t, s.numbers, by simp [acceptedTry, hdhcp], rfl, ?_⟩
        simp [setTag, withAddress, hdhcp]
      · rename_i hstatic
        rcases Outcome.bind_eq_done.mp h with ⟨s1, hnet, h⟩
        rcases ipNetmaskToNetwork_done_iff.mp hnet with ⟨_, i, m, hi, hm, rfl⟩
        split at h
        · rename_i hvalid
          have hhost : isHostTry t = true := by
            simpa [isHostTry, hi, hm] using hvalid
          cases h
          refine ⟨t, (withNetwork i m s).numbers, by simp [acceptedTry, hhost],
            rfl, ?_⟩
          simp [setTag, withNetwork, withAddress, hstatic]
        · rename_i hbcast
          have hno : isHostTry t = false := by
            simpa [isHostTry, hi, hm] using hbcast
          rcases ih h with ⟨t', numbers, haccepted, hifs, rfl⟩
          refine ⟨t', numbers, ?_, hifs, ?_⟩
          · simpa [acceptedTry, hstatic, hno] using haccepted
          · simp [setTag, withNetwork, withAddress]

/-- The variables of a network tag after the questions about it. -/
def tagAfter (advanced : Bool) (a : TagAnswers) (tag : TagVars) : TagVars :=
  if a.addNictag then
    let tag := { tag with
      mac := some a.nic.val
      iface := some a.nic.nicVal }
    if advanced then
      match a.addIp, acceptedTry a.tries with
      | true, some t => withAddress t tag
      | _, _ => { tag with
          ip := none
          netmask := none
          vlan := none }
    else tag
  else {}

/-- The mark of a network tag after the questions about it. -/
def markAfter (advanced : Bool) (ntag : NicTag) (a : TagAnswers)
    (mark : Option String) : Option String :=
  if a.addNictag then
    if advanced ∧ ntag = .external then
      if a.preserveMac then some "1" else none
    else mark
  else none

theorem tagStage_done {ntag : NicTag} {a : TagAnswers} {s s' : Globals}
    (h : tagStage ntag a s = .done s') :
    exists etherstubs numbers, numbers.ifsDot = s.numbers.ifsDot ∧ s' = { s with
      etherstubs := etherstubs
      nictags := update s.nictags ntag
        (tagAfter s.advancedInstall a (s.nictags ntag))
      nictagPreserveMac := update s.nictagPreserveMac (.tag ntag)
        (markAfter s.advancedInstall ntag a (s.nictagPreserveMac (.tag ntag)))
      numbers := numbers } := by
  unfold tagStage at h
  by_cases hadd : a.addNictag = true
  · rw [if_pos hadd] at h
    by_cases hadv : s.advancedInstall = true
    · have hadv' : (setTagNic ntag a.nic s).advancedInstall = true := hadv
      simp only [hadv', if_true] at h
      rcases Outcome.bind_eq_done.mp h with ⟨s1, hip, h⟩
      cases h
      unfold promptnictagIp at hip
      by_cases haddIp : a.addIp = true
      · rw [if_pos haddIp] at hip
        rcases promptTagIp_done hip with ⟨t, numbers, ht, hifs, rfl⟩
        refine ⟨addEtherstub a.nic s.etherstubs, numbers, hifs, ?_⟩
        cases ntag <;>
          simp [setTagNic, setTag, promptPreserveMac, tagAfter, markAfter, hadd,
            hadv, haddIp, ht]
      · rw [if_neg haddIp] at hip
        cases hip
        refine ⟨addEtherstub a.nic s.etherstubs, s.numbers, rfl, ?_⟩
        have hfalse : a.addIp = false := by simpa using haddIp
        cases ntag <;>
          simp [setTagNic, setTag, clearTagIp, promptPreserveMac, tagAfter,
            markAfter, hadd, hadv, hfalse]
    · have hadv' : (setTagNic ntag a.nic s).advancedInstall = false := by
        show s.advancedInstall = false
        simpa using hadv
      simp only [hadv', Bool.false_eq_true, if_false] at h
      cases h
      refine ⟨addEtherstub a.nic s.etherstubs, s.numbers, rfl, ?_⟩
      simp [setTagNic, setTag, tagAfter, markAfter, hadd, hadv]
  · rw [if_neg hadd] at h
    cases h
    exact ⟨s.etherstubs, s.numbers, rfl, by simp [clearTag, setTag, tagAfter, markAfter, hadd]⟩

/-- The variables of a network tag after a pass, where its tags may stay as they are. -/
def nictagAfter (a : Answers) (s : Globals) (ntag : NicTag) : TagVars :=
  if a.addNictags then tagAfter s.advancedInstall (a.tag ntag) (s.nictags ntag)
  else s.nictags ntag

/-- The marks after the questions about the network tags. -/
def preserveMacAfter (a : Answers) (s : Globals) (key : MacKey) : Option String :=
  match key with
  | .tag ntag =>
      if a.addNictags then
        markAfter s.advancedInstall ntag (a.tag ntag) (s.nictagPreserveMac key)
      else s.nictagPreserveMac key
  | .opnsense => s.nictagPreserveMac key

theorem tagsStage_done {a : Answers} {s s' : Globals}
    (h : tagsStage a s = .done s') :
    exists etherstubs numbers, numbers.ifsDot = s.numbers.ifsDot ∧ s' = { s with
      etherstubs := etherstubs
      nictags := nictagAfter a s
      nictagPreserveMac := preserveMacAfter a s
      numbers := numbers } := by
  unfold tagsStage at h
  by_cases hadd : a.addNictags = true
  · rw [if_pos hadd] at h
    simp only [nictagList, List.foldl_cons, List.foldl_nil, Outcome.bind_done] at h
    rcases Outcome.bind_eq_done.mp h with ⟨s2, h2, h3⟩
    rcases Outcome.bind_eq_done.mp h2 with ⟨s1, h1, h2⟩
    rcases tagStage_done h1 with ⟨_, _, hifs1, rfl⟩
    rcases tagStage_done h2 with ⟨_, _, hifs2, rfl⟩
    rcases tagStage_done h3 with ⟨etherstubs, numbers, hifs3, rfl⟩
    refine ⟨etherstubs, numbers, hifs3.trans (hifs2.trans hifs1), ?_⟩
    congr 1
    · funext ntag
      cases ntag <;> simp [nictagAfter, hadd]
    · funext key
      cases key with
      | opnsense => simp [preserveMacAfter]
      | tag ntag => cases ntag <;> simp [preserveMacAfter, hadd]
  · rw [if_neg hadd] at h
    cases h
    refine ⟨s.etherstubs, s.numbers, rfl, ?_⟩
    have hmarks : preserveMacAfter a s = s.nictagPreserveMac := by
      funext key
      cases key <;> simp [preserveMacAfter, hadd]
    have htags : nictagAfter a s = s.nictags := by
      funext ntag
      simp [nictagAfter, hadd]
    rw [hmarks, htags]

theorem promptOpnsenseAdminIp_done {vals : List String} {s s' : Globals}
    (h : promptOpnsenseAdminIp vals s = .done s') :
    exists val, val ∈ vals ∧ val ≠ "dhcp" ∧ val ≠ "none" ∧ s' = { s with
      opnsense.adminIp := val
      adminGateway := val } := by
  induction vals with
  | nil => cases h
  | cons val rest ih =>
      unfold promptOpnsenseAdminIp at h
      split at h
      · rcases ih h with ⟨val', hmem, hfacts⟩
        exact ⟨val', List.mem_cons_of_mem val hmem, hfacts⟩
      · rename_i hword
        cases h
        rw [not_or] at hword
        exact ⟨val, List.mem_cons_self, hword.left, hword.right, rfl⟩

/-- The answer about the router's external address that ends the questions. -/
def acceptedExternalIp (externalIp : String) (vals : List String) : Option String :=
  vals.find? fun val => val = "dhcp" || val ≠ externalIp

theorem promptOpnsenseExternalIp_done {vals : List String} {s s' : Globals}
    (h : promptOpnsenseExternalIp vals s = .done s') :
    exists val, acceptedExternalIp s.externalIp vals = some val ∧
      s' = { s with opnsense.externalIp := val } := by
  induction vals with
  | nil => cases h
  | cons val rest ih =>
      unfold promptOpnsenseExternalIp at h
      split at h
      · rename_i htaken
        rcases htaken with ⟨rfl, hstatic⟩
        rcases ih h with ⟨val', hval, rfl⟩
        refine ⟨val', ?_, rfl⟩
        simpa [acceptedExternalIp, hstatic] using hval
      · rename_i hfree
        cases h
        refine ⟨val, ?_, rfl⟩
        by_cases hdhcp : val = "dhcp"
        · simp [acceptedExternalIp, hdhcp]
        · have hne : val ≠ s.externalIp := fun heq => hfree ⟨heq, hdhcp⟩
          simp [acceptedExternalIp, hne]

/-- The router's variables after the questions about its addresses. -/
def routerAnswered (a : Answers) (ip externalIp : String) (s : Globals) : Globals :=
  let s := { s with
    opnsense.adminIp := ip
    adminGateway := ip
    opnsense.externalIp := externalIp }
  if externalIp = "dhcp" then s
  else { opnsenseNetmaskStage a s with
    opnsense.externalGw := a.opnsenseExternalGw }

/-- The router's variables at the end of the questions about it. -/
def routerStage (a : Answers) (ip externalIp : String) (s : Globals) : Globals :=
  nicsupOpnsense a (opnsenseGatewayStage a (opnsenseMacStage a
    (routerAnswered a ip externalIp s)))

theorem opnsenseStage_done {a : Answers} {s s' : Globals}
    (h : opnsenseStage a s = .done s') :
    exists ip externalIp numbers, ip ∈ a.opnsenseAdminIps ∧ ip ≠ "dhcp" ∧
      ip ≠ "none" ∧ numbers.ifsDot = s.numbers.ifsDot ∧
      acceptedExternalIp s.externalIp a.opnsenseExternalIps = some externalIp ∧
      s' = routerStage a ip externalIp { s with numbers := numbers } := by
  rcases Outcome.bind_eq_done.mp h with ⟨s1, h1, h⟩
  rcases Outcome.bind_eq_done.mp h with ⟨s2, h2, h⟩
  rcases Outcome.bind_eq_done.mp h with ⟨s3, h3, h⟩
  rcases Outcome.bind_eq_done.mp h with ⟨s4, h4, h⟩
  cases h
  have hoffer : exists adminIp numbers, numbers.ifsDot = s.numbers.ifsDot ∧
      s1 = { s with
      opnsense.adminIp := adminIp
      numbers := numbers } := by
    split at h1
    · rcases computeDefGw_done h1 with ⟨_, val, ⟨numbers, hifs, rfl⟩, rfl⟩
      exact ⟨val, numbers, hifs, rfl⟩
    · cases h1
      exact ⟨s.opnsense.adminIp, s.numbers, rfl, rfl⟩
  rcases hoffer with ⟨_, numbers, hifs, rfl⟩
  rcases promptOpnsenseAdminIp_done h2 with ⟨ip, hmem, hdhcp, hnone, rfl⟩
  rcases promptOpnsenseExternalIp_done h3 with ⟨externalIp, hexternal, rfl⟩
  unfold opnsenseStaticStage at h4
  split at h4
  · rename_i hstatic
    rcases Outcome.bind_eq_done.mp h4 with ⟨s5, h5, h4⟩
    cases h4
    have hstatic' : externalIp ≠ "dhcp" := hstatic
    split at h5
    · rcases computeDefGw_done h5 with ⟨_, _, ⟨numbers', hifs', rfl⟩, rfl⟩
      have hkeep : numbers'.ifsDot = numbers.ifsDot := by
        rw [hifs']
        unfold opnsenseNetmaskStage
        simp only
        split <;> rfl
      refine ⟨ip, externalIp, numbers', hmem, hdhcp, hnone, hkeep.trans hifs,
        hexternal, ?_⟩
      simp only [routerStage, routerAnswered, if_neg hstatic', opnsenseNetmaskStage]
      split <;> rfl
    · cases h5
      refine ⟨ip, externalIp, numbers, hmem, hdhcp, hnone, hifs, hexternal, ?_⟩
      simp only [routerStage, routerAnswered, if_neg hstatic']
  · rename_i hdynamic
    cases h4
    have hdynamic' : externalIp = "dhcp" := by simpa using hdynamic
    refine ⟨ip, externalIp, numbers, hmem, hdhcp, hnone, hifs, hexternal, ?_⟩
    simp only [routerStage, routerAnswered, if_pos hdynamic']

/-!
## Default gateway
-/

theorem defaultGateway_done {s s' : Globals} (h : defaultGateway s = .done s') :
    exists gateway numbers, numbers.ifsDot = s.numbers.ifsDot ∧ s' = { s with
      headnodeDefaultGateway := gateway
      numbers := numbers } := by
  rcases Outcome.bind_eq_done.mp h with ⟨s1, h1, h⟩
  rcases Outcome.bind_eq_done.mp h with ⟨s2, h2, h⟩
  cases h
  have hone : exists gateway numbers, numbers.ifsDot = s.numbers.ifsDot ∧
      s1 = { s with
      headnodeDefaultGateway := gateway
      numbers := numbers } := by
    split at h1
    · rcases computeDefGw_done h1 with ⟨_, val, ⟨numbers, hifs, rfl⟩, rfl⟩
      exact ⟨val, numbers, hifs, rfl⟩
    · cases h1
      exact ⟨s.headnodeDefaultGateway, s.numbers, rfl, rfl⟩
  rcases hone with ⟨gateway, numbers, hifs, rfl⟩
  have htwo : exists gateway numbers, numbers.ifsDot = s.numbers.ifsDot ∧
      s2 = { s with
      headnodeDefaultGateway := gateway
      numbers := numbers } := by
    split at h2
    · rcases computeDefGw_done h2 with ⟨_, val, ⟨numbers', hifs', rfl⟩, rfl⟩
      exact ⟨val, numbers', hifs'.trans hifs, rfl⟩
    · cases h2
      exact ⟨gateway, numbers, hifs, rfl⟩
  rcases htwo with ⟨gateway', numbers', hifs', rfl⟩
  split
  · exact ⟨"none", numbers', hifs', rfl⟩
  · exact ⟨gateway', numbers', hifs', rfl⟩

theorem gatewayStage_done {a : Answers} {s s' : Globals}
    (h : gatewayStage a s = .done s') :
    exists adminGateway numbers, numbers.ifsDot = s.numbers.ifsDot ∧ s' = { s with
      headnodeDefaultGateway := a.headnodeDefaultGateway
      adminGateway := adminGateway
      numbers := numbers } := by
  rcases Outcome.bind_eq_done.mp h with ⟨s1, h1, h⟩
  rcases defaultGateway_done h1 with ⟨_, numbers, hifs, rfl⟩
  rcases ipFromSubnet_done h with ⟨s2, ⟨numbers', hifs', rfl⟩, hfrom | hother⟩
  · cases hfrom
    exact ⟨a.headnodeDefaultGateway, numbers', hifs'.trans hifs, rfl⟩
  · rcases promptIpFromSubnet_done hother with ⟨_, val, ⟨numbers'', hifs'', rfl⟩, rfl⟩
    exact ⟨val, numbers'', hifs''.trans (hifs'.trans hifs), rfl⟩

/-!
## Passes
-/

theorem nicsup_numbers (dladmAddress : String -> String) (a : Answers)
    (s : Globals) : (nicsup dladmAddress a s).numbers = s.numbers := by
  have htag : forall (s : Globals) (ntag : NicTag),
      (nicsupTag dladmAddress a s ntag).numbers = s.numbers := by
    intro s ntag
    unfold nicsupTag
    split <;> rfl
  unfold nicsup
  split
  · rfl
  · simp only [nictagList, List.foldl_cons, List.foldl_nil, htag]

theorem systemStage_numbers (a : Answers) (s : Globals) :
    (systemStage a s).numbers = s.numbers := by
  unfold systemStage
  simp only
  split <;> rfl

theorem servicesStage_done {a : Answers} {s s' : Globals}
    (h : servicesStage a s = .done s') :
    exists numbers ipAddr, numbers.ifsDot = s.numbers.ifsDot ∧ s' = { s with
      zones.mgmt := a.mgmtAdminIp
      system.esdcInstallPassword := a.esdcInstallPassword
      system.adminEmail := a.adminEmail
      numbers := numbers
      ipAddr := ipAddr } := by
  rcases Outcome.bind_eq_done.mp h with ⟨s1, h1, h⟩
  cases h
  unfold offerMgmtAdminIp at h1
  split at h1
  · rcases Outcome.bind_eq_done.mp h1 with ⟨s2, h2, h1⟩
    rcases ipNetmaskToNetwork_done h2 with ⟨numbers, hifs, rfl⟩
    cases h1
    exact ⟨numbers, printedIp (numbers.ipNum + 1), hifs, rfl⟩
  · split at h1
    · cases h1
      exact ⟨s.numbers, s.ipAddr, rfl, rfl⟩
    · cases h1
      exact ⟨s.numbers, s.ipAddr, rfl, rfl⟩

/-- The variables when a pass comes to its questions about routing. -/
def tagged (a : Answers) (ip netmask vlan : String) (etherstubs : List String)
    (numbers : Numbers) (s : Globals) : Globals :=
  { s with
    system.datacenterName := a.datacenterName
    etherstubs := etherstubs
    admin := ⟨a.adminNic.val, a.adminNic.nicVal, ip, netmask, vlan⟩
    nictags := nictagAfter a s
    nictagPreserveMac := preserveMacAfter a s
    numbers := numbers }

/-- The variables at the end of a pass, from those after its questions about routing. -/
def finished (dladmAddress : String -> String) (a : Answers) (numbers : Numbers)
    (ipAddr : String) (s : Globals) : Globals :=
  saveChangeMacs (nicsdown { systemStage a (nicsup dladmAddress a s) with
    zones.mgmt := a.mgmtAdminIp
    system.esdcInstallPassword := a.esdcInstallPassword
    system.adminEmail := a.adminEmail
    numbers := numbers
    ipAddr := ipAddr })

theorem pass_done {dladmAddress : String -> String} {a : Answers}
    {s s' : Globals} (h : pass dladmAddress a s = .done s') :
    exists t vlan etherstubs numbers routed numbers' ipAddr,
      t ∈ a.adminTries ∧ t.ip ≠ "dhcp" ∧
      numbers.ifsDot = s.numbers.ifsDot ∧ numbers'.ifsDot = routed.numbers.ifsDot ∧
      routingStage a (tagged a t.ip t.netmask vlan etherstubs numbers s) =
        .done routed ∧
      s' = finished dladmAddress a numbers' ipAddr routed := by
  rcases Outcome.bind_eq_done.mp h with ⟨s1, h1, h⟩
  rcases Outcome.bind_eq_done.mp h with ⟨s2, h2, h⟩
  rcases Outcome.bind_eq_done.mp h with ⟨routed, h3, h⟩
  rcases Outcome.bind_eq_done.mp h with ⟨s4, h4, h⟩
  cases h
  rcases adminStage_done h1 with ⟨t, vlan, _, hmem, hne, hifs, rfl⟩
  rcases tagsStage_done h2 with ⟨etherstubs, numbers, hifs', rfl⟩
  rcases servicesStage_done h4 with ⟨numbers', ipAddr, hifs'', rfl⟩
  have hsystem : (systemStage a (nicsup dladmAddress a routed)).numbers =
      routed.numbers := by
    rw [systemStage_numbers, nicsup_numbers]
  rw [hsystem] at hifs''
  exact ⟨t, vlan, etherstubs, numbers, routed, numbers', ipAddr, hmem, hne,
    hifs'.trans hifs, hifs'', h3, rfl⟩

end Installer
end EsdcFactory
