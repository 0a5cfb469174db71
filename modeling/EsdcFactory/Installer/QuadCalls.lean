import EsdcFactory.Installer.AddressCalls
import EsdcFactory.Installer.NetGrammar
import EsdcFactory.Installer.Readable

/-!
# Arithmetic on addresses only

The prompts accept more than addresses, and some stages compute with what an earlier stage
was told.  Where no answer or variable of this kind reaches a computation, all addresses
that are turned into numbers are dotted quads.
-/

namespace EsdcFactory
namespace Installer

open BashArith Function

/-!
## Dotted quads
-/

/-- The fields of a text are four octets, and nothing else is there. -/
def quadText (ip : String) : Bool :=
  match splitFields '.' ip.toList with
  | [a, b, c, d] =>
      ip.toList = quad a b c d && IsOctet a && IsOctet b && IsOctet c && IsOctet d
  | _ => false

theorem quadText_iff (ip : String) : quadText ip = true <-> IsQuad ip := by
  constructor
  · intro h
    unfold quadText at h
    split at h
    next a b c d _ =>
      simp only [Bool.and_eq_true, decide_eq_true_eq, and_assoc] at h
      exact ⟨a, b, c, d, h⟩
    next => cases h
  · intro hparts
    rcases hparts with ⟨a, b, c, d, hip, ha, hb, hc, hd⟩
    unfold quadText
    rw [hip, splitFields_quad ha.1 hb.1 hc.1 hd.1]
    simp [ha, hb, hc, hd]

instance : DecidablePred IsQuad := fun ip => decidable_of_iff _ (quadText_iff ip)

/-- `ip_to_num` finds something in each of the four places that it computes with. -/
def hasOperands (ip : String) : Bool :=
  (List.range 4).all fun k => (splitFields '.' ip.toList).getD k [] ≠ []

theorem IsQuad.hasOperands {ip : String} (h : IsQuad ip) : hasOperands ip = true := by
  rcases h with ⟨a, b, c, d, hip, ha, hb, hc, hd⟩
  rw [Installer.hasOperands, hip, splitFields_quad ha.1 hb.1 hc.1 hd.1]
  simp [List.range_succ, isdigit_ne_nil, ha.1, hb.1, hc.1, hd.1]

/-!
## Answers and variables that do not reach a computation
-/

/-- The number of the address is the one for broadcasts, so that it is asked for again. -/
def isBroadcast (t : AddressTry) : Bool :=
  match ipNumber t.ip, ipNumber t.netmask with
  | some ip, some netmask => ip = broadcastOf ip netmask
  | _, _ => false

/--
The rounds that are asked compute with an address and a mask, or with neither.  They end
with an address that is not for broadcasts, and with `dhcp` where that is an answer.
-/
def carefulTries (staticOnly : Bool) : List AddressTry -> Bool
  | [] => true
  | t :: rest =>
      if t.ip = "dhcp" then !staticOnly || carefulTries staticOnly rest
      else IsQuad t.ip && IsQuad t.netmask &&
        (!isBroadcast t || carefulTries staticOnly rest)

def carefulAdmin (kind : NodeKind) (a : Answers) : Bool :=
  match kind with
  | .first => carefulTries true a.adminTries
  | .further => carefulTries false a.adminTries

/-- The rounds about the addresses of the tags, where there are any. -/
def carefulTags (a : Answers) : List NicTag -> Globals -> Bool
  | [], _ => true
  | ntag :: rest, s =>
      (!(a.adds ntag && s.advancedInstall && (a.tag ntag).addIp) ||
        carefulTries false (a.tag ntag).tries) &&
      (tagStage ntag (a.tag ntag) s).whenDone (carefulTags a rest)

/-- The external address of a router, where a gateway is computed from it. -/
def carefulRouter (a : Answers) (s : Globals) : Bool :=
  s.opnsense.externalGw ≠ "" ||
    a.opnsenseAdminIps.all (fun ip => ip = "dhcp" || ip = "none") ||
    (acceptedExternalIp s.externalIp a.opnsenseExternalIps).all fun ip =>
      ip = "dhcp" || IsQuad ip && IsQuad a.opnsenseExternalNetmask

/-- The address is from the subnet, so that no other one is asked for. -/
def isFromSubnet (myip net mask : String) : Bool :=
  match ipNumber net, ipNumber mask, ipNumber myip with
  | some n, some m, some ip => (m &&& n).slt ip && ip.slt (broadcastOf n m)
  | _, _, _ => true

/-- The gateways that are asked for are addresses.  The first one from the subnet is taken. -/
def carefulGateways (net mask : String) : List String -> Bool
  | [] => true
  | ip :: rest =>
      ip = "none" ||
        IsQuad ip && (isFromSubnet ip net mask || carefulGateways net mask rest)

/--
No gateway is computed from a dynamic external address, and none but an address is
compared with the admin network, which is then static.
-/
def carefulGateway (a : Answers) (s : Globals) : Bool :=
  (s.headnodeDefaultGateway ≠ "" || s.externalIp ≠ "dhcp") &&
    (a.headnodeDefaultGateway = "none" || s.admin.ip ≠ "dhcp") &&
    carefulGateways s.admin.ip s.admin.netmask (a.headnodeDefaultGateway :: a.adminGateways)

def carefulRouting (kind : NodeKind) (a : Answers) (s : Globals) : Bool :=
  match kind with
  | .first =>
      if s.externalIface ≠ "" && a.deployOpnsense then carefulRouter a s
      else carefulGateway a s
  | .further => carefulGateway a s

/-- The configuration database, where its address is compared with the admin network. -/
def carefulCfgdb (kind : NodeKind) (a : NodeAnswers) (s : Globals) : Bool :=
  match kind with
  | .first => true
  | .further =>
      !s.advancedInstall || a.cfgdbAdminIp = "none" ||
        IsQuad a.cfgdbAdminIp && s.admin.ip ≠ "dhcp"

/-- The questions about the admin network on a node. -/
def kindAdminStage (kind : NodeKind) (a : NodeAnswers) (s : Globals) : Outcome Globals :=
  match kind with
  | .first => adminStage a.toAnswers s
  | .further => nodeAdminStage a s

/-- The questions about routing on a node. -/
def kindRoutingStage (kind : NodeKind) (a : Answers) (s : Globals) : Outcome Globals :=
  match kind with
  | .first => routingStage a s
  | .further => gatewayStage a s

/-- The condition on a pass, stage after stage. -/
def carefulPass (kind : NodeKind) (a : NodeAnswers) (s : Globals) : Bool :=
  carefulAdmin kind a.toAnswers &&
    (kindAdminStage kind a s).whenDone fun s =>
      carefulTags a.toAnswers nictagList s &&
        (tagsStage a.toAnswers s).whenDone fun s =>
          carefulRouting kind a.toAnswers s &&
            (kindRoutingStage kind a.toAnswers s).whenDone (carefulCfgdb kind a)

/-- The condition on a run, pass after pass. -/
def careful (kind : NodeKind) (dladmAddress : String -> String) :
    List NodeAnswers -> Globals -> Bool
  | [], _ => true
  | a :: rest, s =>
      carefulPass kind a s &&
        (kindPass kind dladmAddress a s).whenDone (careful kind dladmAddress rest)

/-!
## What is known between the stages
-/

/-- A call that breaks off the stage: bash reads a field as no number. -/
def Breaks (ip : String) : Prop :=
  ipNumber ip = none

/-- A stage that computes with dotted quads only. -/
abbrev OnQuads (x : Stage) (P : Globals -> Prop) : Prop :=
  x.Meets IsQuad Breaks P

/-- What holds between two passes: the external address is dynamic, a quad or not there. -/
structure Settled (s : Globals) : Prop where
  ifs : s.numbers.ifsDot = false
  external : s.externalIp = "" ∨ s.externalIp = "dhcp" ∨
    IsQuad s.externalIp ∧ IsQuad (valueOf (s.nictags .external).netmask)

/-- What holds once the admin network was asked for. -/
structure AdminSettled (kind : NodeKind) (s : Globals) : Prop extends Settled s where
  admin : kind = .further ∧ s.admin.ip = "dhcp" ∨
    IsQuad s.admin.ip ∧ IsQuad s.admin.netmask

/-- Two states agree in the variables that later stages compute with. -/
structure SameAddresses (s s' : Globals) : Prop where
  ifs : s'.numbers.ifsDot = s.numbers.ifsDot
  external : s'.nictags .external = s.nictags .external
  adminIp : s'.admin.ip = s.admin.ip
  adminNetmask : s'.admin.netmask = s.admin.netmask

theorem SameAddresses.settled {s s' : Globals} (h : SameAddresses s s') (hs : Settled s) :
    Settled s' where
  ifs := h.ifs.trans hs.ifs
  external := by
    unfold Globals.externalIp
    rw [h.external]
    exact hs.external

theorem SameAddresses.adminSettled {kind : NodeKind} {s s' : Globals}
    (h : SameAddresses s s') (hs : AdminSettled kind s) : AdminSettled kind s' where
  toSettled := h.settled hs.toSettled
  admin := by
    rw [h.adminIp, h.adminNetmask]
    exact hs.admin

theorem NumbersKept.sameAddresses {s s' : Globals} (h : NumbersKept s s') :
    SameAddresses s s' := by
  rcases h with ⟨numbers, hifs, rfl⟩
  exact ⟨hifs, rfl, rfl, rfl⟩

theorem AdminSettled.quads {kind : NodeKind} {s : Globals} (h : AdminSettled kind s)
    (hstatic : s.admin.ip ≠ "dhcp") : IsQuad s.admin.ip ∧ IsQuad s.admin.netmask := by
  rcases h.admin with ⟨_, hdhcp⟩ | hquads
  · exact absurd hdhcp hstatic
  · exact hquads

theorem AdminSettled.first {s : Globals} (h : AdminSettled .first s) :
    IsQuad s.admin.ip ∧ IsQuad s.admin.netmask := by
  rcases h.admin with ⟨hkind, _⟩ | hquads
  · cases hkind
  · exact hquads

/-!
## Address functions
-/

theorem ipToNum_onQuads {ip : String} (s : Globals) (h : IsQuad ip) :
    OnQuads (Stage.ipToNum ip s) (NumbersKept s) where
  calls c hc := by
    rw [List.mem_singleton.mp hc]
    exact h
  done _ hs := ipToNum_done hs
  aborted s' hs := by
    refine ⟨ip, List.mem_singleton_self ip, ?_⟩
    change ipToNum ip s = .aborted s' at hs
    unfold ipToNum at hs
    split at hs
    · cases hs
    · assumption

theorem ipNetmaskToNetwork_onQuads {ip netmask : String} {s : Globals}
    (hifs : s.numbers.ifsDot = false) (hip : IsQuad ip) (hnetmask : IsQuad netmask) :
    OnQuads (Stage.ipNetmaskToNetwork ip netmask s) (NumbersKept s) := by
  have hones : IsQuad "255.255.255.255" := by decide +kernel
  unfold Stage.ipNetmaskToNetwork
  rw [hifs, if_neg Bool.false_ne_true]
  apply (ipToNum_onQuads s hip).bind
  intro s1 h1
  apply (ipToNum_onQuads _ hnetmask).bind
  intro s2 h2
  apply (ipToNum_onQuads _ hones).bind
  intro s3 h3
  apply Traced.Meets.quiet_done
  have hset : forall {s s' : Globals} (f : Numbers -> Numbers),
      (forall n, (f n).ifsDot = n.ifsDot) -> NumbersKept s s' ->
        NumbersKept s { s' with numbers := f s'.numbers } := by
    intro s s' f hf h
    exact h.trans ⟨f s'.numbers, hf _, rfl⟩
  have hfirst := hset (fun n => { n with ipNum := n.num }) (fun _ => rfl) h1
  have hsecond := hset (fun n => { n with nmNum := n.num }) (fun _ => rfl) (hfirst.trans h2)
  have hnet := hset (fun n => { n with netNum := n.nmNum &&& n.ipNum }) (fun _ => rfl) hsecond
  exact hset (fun n => { n with bcastAddr := n.netNum + (~~~ n.nmNum &&& n.num) })
    (fun _ => rfl) (hnet.trans h3)

theorem computeDefGw_onQuads {ip netmask : String} {s : Globals}
    {withVal : String -> Globals -> Globals} {P : Globals -> Prop}
    (hifs : s.numbers.ifsDot = false) (hip : IsQuad ip) (hnetmask : IsQuad netmask)
    (hP : forall val s', NumbersKept s s' -> P (withVal val s')) :
    OnQuads (Stage.computeDefGw ip netmask s withVal) P := by
  apply (ipNetmaskToNetwork_onQuads hifs hip hnetmask).bind
  intro s1 h1
  exact Traced.Meets.quiet_done (hP _ s1 h1)

/-- A round of questions.  The next one follows where the address is for broadcasts. -/
theorem round_onQuads {staticOnly : Bool} {t : AddressTry} {rest : List AddressTry}
    {s : Globals} (hcareful : carefulTries staticOnly (t :: rest) = true)
    (hstatic : t.ip ≠ "dhcp") (hifs : s.numbers.ifsDot = false) :
    (IsQuad t.ip ∧ IsQuad t.netmask) ∧
      OnQuads (Stage.ipNetmaskToNetwork t.ip t.netmask s) fun s' => NumbersKept s s' ∧
        (s'.numbers.ipNum = s'.numbers.bcastAddr -> carefulTries staticOnly rest = true) := by
  have hround : (IsQuad t.ip ∧ IsQuad t.netmask) ∧
      (isBroadcast t = true -> carefulTries staticOnly rest = true) := by
    rw [carefulTries, if_neg hstatic] at hcareful
    cases hbroadcast : isBroadcast t <;> simpa [hbroadcast] using hcareful
  rcases hround with ⟨⟨hip, hnetmask⟩, hrest⟩
  refine ⟨⟨hip, hnetmask⟩, (ipNetmaskToNetwork_onQuads hifs hip hnetmask).and ?_⟩
  intro s1 h1 hsame
  rw [Stage.ipNetmaskToNetwork_outcome] at h1
  rcases ipNetmaskToNetwork_done_iff.mp h1 with ⟨_, i, m, hi, hm, rfl⟩
  apply hrest
  simpa [isBroadcast, hi, hm] using hsame

theorem ipFromSubnet_onQuads {myip net mask : String} {s : Globals}
    {fromSubnet other : Globals -> Stage} {P : Globals -> Prop}
    (hifs : s.numbers.ifsDot = false)
    (hip : myip ≠ "none" -> IsQuad myip ∧ IsQuad net ∧ IsQuad mask)
    (hfrom : forall s', NumbersKept s s' -> OnQuads (fromSubnet s') P)
    (hother : myip ≠ "none" -> isFromSubnet myip net mask = false ->
      forall s', NumbersKept s s' -> OnQuads (other s') P) :
    OnQuads (Stage.ipFromSubnet myip net mask s fromSubnet other) P := by
  unfold Stage.ipFromSubnet
  split
  next => exact hfrom s (.refl s)
  next hnone =>
    rcases hip hnone with ⟨hmyip, hnet, hmask⟩
    have hnetwork : OnQuads (Stage.ipNetmaskToNetwork net mask s) fun s1 =>
        NumbersKept s s1 ∧ exists n m, ipNumber net = some n ∧ ipNumber mask = some m ∧
          s1 = withNetwork n m s := by
      apply (ipNetmaskToNetwork_onQuads hifs hnet hmask).and
      intro s1 h1
      rw [Stage.ipNetmaskToNetwork_outcome] at h1
      exact (ipNetmaskToNetwork_done_iff.mp h1).right
    apply hnetwork.bind
    intro s1 h
    rcases h with ⟨h1, n, m, hn, hm, rfl⟩
    have hnumber : OnQuads (Stage.ipToNum myip (withNetwork n m s)) fun s2 =>
        NumbersKept s s2 ∧ exists ip, ipNumber myip = some ip ∧
          s2 = { withNetwork n m s with numbers.num := ip } := by
      apply ((ipToNum_onQuads (withNetwork n m s) hmyip).mono fun s2 h2 => h1.trans h2).and
      intro s2 h2
      change ipToNum myip (withNetwork n m s) = .done s2 at h2
      unfold ipToNum at h2
      split at h2
      next ip hip =>
        cases h2
        exact ⟨ip, hip, rfl⟩
      next => cases h2
    apply hnumber.bind
    intro s2 h
    rcases h with ⟨h2, ip, hip, heq⟩
    split
    next => exact hfrom s2 h2
    next htest =>
      apply hother hnone _ s2 h2
      rw [heq] at htest
      simpa [isFromSubnet, hn, hm, hip, withNetwork] using htest

theorem carefulGateways_cons {net mask ip : String} {rest : List String}
    (h : carefulGateways net mask (ip :: rest) = true) (hnone : ip ≠ "none") :
    IsQuad ip ∧ (isFromSubnet ip net mask = false ->
      carefulGateways net mask rest = true) := by
  rw [carefulGateways] at h
  cases hfrom : isFromSubnet ip net mask <;> simpa [hnone, hfrom] using h

theorem promptIpFromSubnet_onQuads {net mask : String} {vals : List String}
    {s : Globals} {withVal : String -> Globals -> Globals} {P : Globals -> Prop}
    (hifs : s.numbers.ifsDot = false) (hnet : IsQuad net) (hmask : IsQuad mask)
    (hvals : carefulGateways net mask vals = true)
    (hP : forall val s', NumbersKept s s' -> P (withVal val s')) :
    OnQuads (Stage.promptIpFromSubnet net mask withVal vals s) P := by
  induction vals generalizing s with
  | nil => exact Traced.Meets.quiet_waiting
  | cons val rest ih =>
      apply ipFromSubnet_onQuads hifs
      · exact fun hnone => ⟨(carefulGateways_cons hvals hnone).1, hnet, hmask⟩
      · exact fun s1 h1 => Traced.Meets.quiet_done (hP val s1 h1)
      · intro hnone hfrom s1 h1
        apply ih (h1.sameAddresses.ifs.trans hifs)
        · exact (carefulGateways_cons hvals hnone).2 hfrom
        · exact fun other s2 h2 => hP other s2 (h1.trans h2)

/-!
## Admin network and tags
-/

/-- A round with an address for the admin network, on the first node and on further ones. -/
theorem adminRound_onQuads {kind : NodeKind} {staticOnly : Bool} {t : AddressTry}
    {rest : List AddressTry} {s : Globals} {next : Globals -> Stage}
    (hcareful : carefulTries staticOnly (t :: rest) = true) (hstatic : t.ip ≠ "dhcp")
    (hs : Settled s)
    (hnext : forall s', carefulTries staticOnly rest = true -> Settled s' ->
      OnQuads (next s') (AdminSettled kind)) :
    OnQuads ((Stage.ipNetmaskToNetwork t.ip t.netmask { s with
        admin.ip := t.ip
        admin.netmask := t.netmask }).bind fun s =>
      if s.numbers.ipNum ≠ s.numbers.bcastAddr then Traced.quiet (.done s) else next s)
      (AdminSettled kind) := by
  rcases round_onQuads (s := { s with
    admin.ip := t.ip
    admin.netmask := t.netmask }) hcareful hstatic hs.ifs with ⟨hquads, hround⟩
  have hset : AdminSettled kind { s with
      admin.ip := t.ip
      admin.netmask := t.netmask } := ⟨⟨hs.ifs, hs.external⟩, Or.inr hquads⟩
  apply hround.bind
  intro s1 h
  rcases h with ⟨h1, hrest⟩
  have hs1 := h1.sameAddresses.adminSettled hset
  split
  next => exact Traced.Meets.quiet_done hs1
  next hbroadcast => exact hnext s1 (hrest (not_not.mp hbroadcast)) hs1.toSettled

theorem promptAdminIp_onQuads {tries : List AddressTry} {s : Globals}
    (htries : carefulTries true tries = true) (hs : Settled s) :
    OnQuads (Stage.promptAdminIp tries s) (AdminSettled .first) := by
  induction tries generalizing s with
  | nil => exact Traced.Meets.quiet_waiting
  | cons t rest ih =>
      unfold Stage.promptAdminIp
      split
      next hdhcp =>
        apply ih
        · simpa [carefulTries, hdhcp] using htries
        · exact ⟨hs.ifs, hs.external⟩
      next hstatic =>
        exact adminRound_onQuads htries hstatic hs fun s' hrest hs' => ih hrest hs'

theorem promptAdminIpOrDhcp_onQuads {tries : List AddressTry} {s : Globals}
    (htries : carefulTries false tries = true) (hs : Settled s) :
    OnQuads (Stage.promptAdminIpOrDhcp tries s) (AdminSettled .further) := by
  induction tries generalizing s with
  | nil => exact Traced.Meets.quiet_waiting
  | cons t rest ih =>
      unfold Stage.promptAdminIpOrDhcp
      dsimp only
      split
      next hdhcp =>
        exact Traced.Meets.quiet_done ⟨⟨hs.ifs, hs.external⟩, Or.inl ⟨rfl, hdhcp⟩⟩
      next hstatic =>
        exact adminRound_onQuads htries hstatic hs fun s' hrest hs' => ih hrest hs'

/-- The questions about the admin network, on the first node and on further ones. -/
def Stage.kindAdminStage (kind : NodeKind) (a : NodeAnswers) (s : Globals) : Stage :=
  match kind with
  | .first => Stage.adminStage a.toAnswers s
  | .further => Stage.nodeAdminStage a s

theorem Stage.kindAdminStage_outcome (kind : NodeKind) (a : NodeAnswers) (s : Globals) :
    (Stage.kindAdminStage kind a s).outcome = Installer.kindAdminStage kind a s := by
  cases kind with
  | first => exact Stage.adminStage_outcome a.toAnswers s
  | further => exact Stage.nodeAdminStage_outcome a s

theorem kindAdminStage_onQuads {kind : NodeKind} {a : NodeAnswers} {s : Globals}
    (hcareful : carefulAdmin kind a.toAnswers = true) (hs : Settled s) :
    OnQuads (Stage.kindAdminStage kind a s) (AdminSettled kind) := by
  have hvlan : forall {s1 : Globals} (vlan : String), AdminSettled kind s1 ->
      AdminSettled kind { s1 with admin.vlanId := vlan } :=
    fun vlan h1 => ⟨⟨h1.ifs, h1.external⟩, h1.admin⟩
  cases kind with
  | first =>
      show OnQuads (Stage.adminStage a.toAnswers s) _
      unfold Stage.adminStage
      refine Traced.Meets.bind (promptAdminIp_onQuads hcareful ⟨hs.ifs, hs.external⟩) ?_
      exact fun s1 h1 => Traced.Meets.quiet_done (hvlan _ h1)
  | further =>
      show OnQuads (Stage.nodeAdminStage a s) _
      unfold Stage.nodeAdminStage
      refine Traced.Meets.bind (promptAdminIpOrDhcp_onQuads hcareful ⟨hs.ifs, hs.external⟩) ?_
      exact fun s1 h1 => Traced.Meets.quiet_done (hvlan _ h1)

/-- The variables of a tag that a gateway may be computed from. -/
def TagSettled (tag : TagVars) : Prop :=
  valueOf tag.ip = "" ∨ valueOf tag.ip = "dhcp" ∨
    IsQuad (valueOf tag.ip) ∧ IsQuad (valueOf tag.netmask)

theorem AdminSettled.setTag {kind : NodeKind} {s : Globals} {tag : TagVars}
    (hs : AdminSettled kind s) (ntag : NicTag) (htag : ntag = .external -> TagSettled tag) :
    AdminSettled kind (Installer.setTag ntag tag s) := by
  refine ⟨⟨hs.ifs, ?_⟩, hs.admin⟩
  unfold Globals.externalIp Installer.setTag
  dsimp only
  by_cases hexternal : ntag = .external
  · subst hexternal
    rw [update_self]
    exact htag rfl
  · rw [update_of_ne (Ne.symm hexternal)]
    exact hs.external

theorem promptTagIp_onQuads {kind : NodeKind} {ntag : NicTag} {tries : List AddressTry}
    {s : Globals} (htries : carefulTries false tries = true) (hs : AdminSettled kind s) :
    OnQuads (Stage.promptTagIp ntag tries s) (AdminSettled kind) := by
  induction tries generalizing s with
  | nil => exact Traced.Meets.quiet_waiting
  | cons t rest ih =>
      unfold Stage.promptTagIp
      dsimp only
      split
      next hdhcp =>
        exact Traced.Meets.quiet_done (hs.setTag ntag fun _ => Or.inr (Or.inl hdhcp))
      next hstatic =>
        rcases round_onQuads (s := setTag ntag { s.nictags ntag with
          ip := some t.ip
          netmask := some t.netmask } s) htries hstatic hs.ifs with ⟨hquads, hround⟩
        have htag : forall vlan, TagSettled { s.nictags ntag with
            ip := some t.ip
            netmask := some t.netmask
            vlan := vlan } := fun _ => Or.inr (Or.inr hquads)
        have hset := hs.setTag ntag fun _ => htag (s.nictags ntag).vlan
        apply hround.bind
        intro s1 h
        rcases h with ⟨h1, hrest⟩
        have hs1 := (h1.sameAddresses.adminSettled hset).setTag ntag
          fun _ => htag (some t.vlan)
        split
        next => exact Traced.Meets.quiet_done hs1
        next hbroadcast => exact ih (hrest (not_not.mp hbroadcast)) hs1

theorem tagStage_onQuads {kind : NodeKind} {ntag : NicTag} {a : TagAnswers} {s : Globals}
    (htries : a.addNictag = true -> s.advancedInstall = true -> a.addIp = true ->
      carefulTries false a.tries = true)
    (hs : AdminSettled kind s) :
    OnQuads (Stage.tagStage ntag a s) (AdminSettled kind) := by
  have htag : ntag = .external -> TagSettled { s.nictags ntag with
      mac := some a.nic.val
      iface := some a.nic.nicVal } := by
    intro heq
    subst heq
    exact hs.external
  have hnic : AdminSettled kind (setTagNic ntag a.nic s) :=
    AdminSettled.setTag (s := { s with etherstubs := addEtherstub a.nic s.etherstubs })
      ⟨⟨hs.ifs, hs.external⟩, hs.admin⟩ ntag htag
  have hclear : forall {s : Globals} {tag : TagVars}, tag.ip = none -> AdminSettled kind s ->
      AdminSettled kind (setTag ntag tag s) :=
    fun hnone h => h.setTag ntag fun _ => Or.inl (by rw [hnone]; rfl)
  unfold Stage.tagStage
  split
  next hadd =>
    dsimp only
    split
    next hadvanced =>
      have hip : OnQuads (Stage.promptnictagIp ntag a (setTagNic ntag a.nic s))
          (AdminSettled kind) := by
        unfold Stage.promptnictagIp
        split
        next haddIp => exact promptTagIp_onQuads (htries hadd hadvanced haddIp) hnic
        next => exact Traced.Meets.quiet_done (hclear rfl hnic)
      apply hip.bind
      intro s1 h1
      apply Traced.Meets.quiet_done
      split
      · exact ⟨⟨h1.ifs, h1.external⟩, h1.admin⟩
      · exact h1
    next => exact Traced.Meets.quiet_done hnic
  next =>
    exact Traced.Meets.quiet_done (hclear rfl ⟨⟨hs.ifs, hs.external⟩, hs.admin⟩)

theorem tagsStage_onQuads {kind : NodeKind} {a : Answers} {s : Globals}
    (hcareful : carefulTags a nictagList s = true) (hs : AdminSettled kind s) :
    OnQuads (Stage.tagsStage a s) (AdminSettled kind) := by
  unfold Stage.tagsStage
  split
  next hadds =>
    have hone : forall (ntag : NicTag) (rest : List NicTag) (s1 : Globals),
        AdminSettled kind s1 ∧ carefulTags a (ntag :: rest) s1 = true ->
        OnQuads (Stage.tagStage ntag (a.tag ntag) s1) fun s2 =>
          AdminSettled kind s2 ∧ carefulTags a rest s2 = true := by
      intro ntag rest s1 h
      rcases h with ⟨hs1, hcareful⟩
      rw [carefulTags, Bool.and_eq_true] at hcareful
      have htries : (a.tag ntag).addNictag = true -> s1.advancedInstall = true ->
          (a.tag ntag).addIp = true -> carefulTries false (a.tag ntag).tries = true := by
        intro hadd hadvanced haddIp
        simpa [Answers.adds, hadds, hadd, hadvanced, haddIp] using hcareful.1
      apply (tagStage_onQuads htries hs1).and
      intro s2 h2
      rw [Stage.tagStage_outcome] at h2
      exact Outcome.whenDone_done hcareful.2 h2
    have hfirst : OnQuads (Traced.quiet (.done s)) fun s1 =>
        AdminSettled kind s1 ∧ carefulTags a nictagList s1 = true :=
      Traced.Meets.quiet_done ⟨hs, hcareful⟩
    simp only [nictagList, List.foldl_cons, List.foldl_nil]
    have hall := ((hfirst.bind (hone .external _)).bind (hone .internal _)).bind
      (hone .storage _)
    exact hall.mono fun s1 h1 => h1.1
  next => exact Traced.Meets.quiet_done hs

/-!
## Routing
-/

theorem defaultGateway_onQuads {kind : NodeKind} {s : Globals} (hs : AdminSettled kind s)
    (hexternal : s.headnodeDefaultGateway ≠ "" ∨ s.externalIp ≠ "dhcp") :
    OnQuads (Stage.defaultGateway s) (SameAddresses s) := by
  unfold Stage.defaultGateway
  have hfirst : OnQuads (if s.headnodeDefaultGateway = "" ∧ s.externalIp ≠ "" then
      Stage.computeDefGw s.externalIp (valueOf (s.nictags .external).netmask) s
        fun val s => { s with headnodeDefaultGateway := val }
      else Traced.quiet (.done s)) (SameAddresses s) := by
    split
    next hasked =>
      have hquads : IsQuad s.externalIp ∧ IsQuad (valueOf (s.nictags .external).netmask) := by
        rcases hs.external with hnone | hdhcp | hquads
        · exact absurd hnone hasked.2
        · exact absurd hdhcp (hexternal.resolve_left fun hne => hne hasked.1)
        · exact hquads
      apply computeDefGw_onQuads hs.ifs hquads.1 hquads.2
      intro val s1 h1
      have hsame := h1.sameAddresses
      exact ⟨hsame.ifs, hsame.external, hsame.adminIp, hsame.adminNetmask⟩
    next => exact Traced.Meets.quiet_done ⟨rfl, rfl, rfl, rfl⟩
  apply hfirst.bind
  intro s1 h1
  have hs1 := h1.adminSettled hs
  have hsecond : OnQuads (if s1.headnodeDefaultGateway = "" ∧ s1.admin.ip ≠ "dhcp" then
      Stage.computeDefGw s1.admin.ip s1.admin.netmask s1
        fun val s => { s with headnodeDefaultGateway := val }
      else Traced.quiet (.done s1)) (SameAddresses s) := by
    split
    next hasked =>
      rcases hs1.quads hasked.2 with ⟨hip, hnetmask⟩
      apply computeDefGw_onQuads hs1.ifs hip hnetmask
      intro val s2 h2
      have hsame := h2.sameAddresses
      exact ⟨hsame.ifs.trans h1.ifs, hsame.external.trans h1.external,
        hsame.adminIp.trans h1.adminIp, hsame.adminNetmask.trans h1.adminNetmask⟩
    next => exact Traced.Meets.quiet_done h1
  apply hsecond.bind
  intro s2 h2
  apply Traced.Meets.quiet_done
  split
  · exact ⟨h2.ifs, h2.external, h2.adminIp, h2.adminNetmask⟩
  · exact h2

theorem gatewayStage_onQuads {kind : NodeKind} {a : Answers} {s : Globals}
    (hcareful : carefulGateway a s = true) (hs : AdminSettled kind s) :
    OnQuads (Stage.gatewayStage a s) (AdminSettled kind) := by
  simp only [carefulGateway, Bool.and_eq_true, Bool.or_eq_true, decide_eq_true_eq]
    at hcareful
  rcases hcareful with ⟨⟨hexternal, hstatic⟩, hgateways⟩
  unfold Stage.gatewayStage
  apply (defaultGateway_onQuads hs hexternal).bind
  intro s1 h1
  have hs1 := h1.adminSettled hs
  have hasked : AdminSettled kind
      { s1 with headnodeDefaultGateway := a.headnodeDefaultGateway } :=
    ⟨⟨hs1.ifs, hs1.external⟩, hs1.admin⟩
  rw [← h1.adminIp, ← h1.adminNetmask] at hgateways
  rw [← h1.adminIp] at hstatic
  have hadmin : a.headnodeDefaultGateway ≠ "none" ->
      IsQuad s1.admin.ip ∧ IsQuad s1.admin.netmask :=
    fun hnone => hs1.quads (hstatic.resolve_left hnone)
  apply ipFromSubnet_onQuads hasked.ifs
  · exact fun hnone => ⟨(carefulGateways_cons hgateways hnone).1, hadmin hnone⟩
  · intro s2 h2
    have hs2 := h2.sameAddresses.adminSettled hasked
    exact Traced.Meets.quiet_done ⟨⟨hs2.ifs, hs2.external⟩, hs2.admin⟩
  · intro hnone hfrom s2 h2
    have hs2 := h2.sameAddresses.adminSettled hasked
    have hrest := (carefulGateways_cons hgateways hnone).2 hfrom
    have hadmin2 : IsQuad s2.admin.ip ∧ IsQuad s2.admin.netmask := by
      rw [h2.sameAddresses.adminIp, h2.sameAddresses.adminNetmask]
      exact hadmin hnone
    have hoffered : AdminSettled kind { s2 with
        adminGateway :=
          if s2.adminGateway = "" then printedIp (s2.numbers.netNum + 1)
          else s2.adminGateway } := ⟨⟨hs2.ifs, hs2.external⟩, hs2.admin⟩
    rw [← h2.sameAddresses.adminIp, ← h2.sameAddresses.adminNetmask] at hrest
    apply promptIpFromSubnet_onQuads hoffered.ifs hadmin2.1 hadmin2.2 hrest
    intro val s3 h3
    have hs3 := h3.sameAddresses.adminSettled hoffered
    exact ⟨⟨hs3.ifs, hs3.external⟩, hs3.admin⟩

/-!
## Router
-/

theorem nicsupOpnsense_sameAddresses (a : Answers) (s : Globals) :
    SameAddresses s (nicsupOpnsense a s) := by
  unfold nicsupOpnsense
  split
  · exact ⟨rfl, rfl, rfl, rfl⟩
  · dsimp only
    split <;> split <;> exact ⟨rfl, rfl, rfl, rfl⟩

theorem opnsenseEnd_sameAddresses (a : Answers) (s : Globals) :
    SameAddresses s (nicsupOpnsense a (opnsenseGatewayStage a (opnsenseMacStage a s))) := by
  have hup := nicsupOpnsense_sameAddresses a (opnsenseGatewayStage a (opnsenseMacStage a s))
  have hasked : SameAddresses s (opnsenseGatewayStage a (opnsenseMacStage a s)) := by
    rcases opnsenseMacStage_eq a s with ⟨mac, hmac, _⟩
    rcases opnsenseGatewayStage_eq a (opnsenseMacStage a s) with ⟨network, hgateway⟩
    rw [hgateway, hmac]
    exact ⟨rfl, rfl, rfl, rfl⟩
  exact ⟨hup.ifs.trans hasked.ifs, hup.external.trans hasked.external,
    hup.adminIp.trans hasked.adminIp, hup.adminNetmask.trans hasked.adminNetmask⟩

theorem opnsenseStaticStage_onQuads {kind : NodeKind} {a : Answers} {s : Globals}
    (hs : AdminSettled kind s) (hexternal : s.opnsense.externalIp ≠ "dhcp" ->
      s.opnsense.externalGw = "" ->
        IsQuad s.opnsense.externalIp ∧ IsQuad a.opnsenseExternalNetmask) :
    OnQuads (Stage.opnsenseStaticStage a s) (AdminSettled kind) := by
  have hasked : exists vlan, opnsenseNetmaskStage a s = { s with
      opnsense.externalNetmask := a.opnsenseExternalNetmask
      opnsense.externalVlan := vlan } := by
    unfold opnsenseNetmaskStage
    dsimp only
    split <;> exact ⟨_, rfl⟩
  rcases hasked with ⟨vlan, hasked⟩
  unfold Stage.opnsenseStaticStage
  split
  next hstatic =>
    rw [hasked]
    dsimp only
    have hgateway : OnQuads (if s.opnsense.externalGw = "" then
        Stage.computeDefGw s.opnsense.externalIp a.opnsenseExternalNetmask { s with
          opnsense.externalNetmask := a.opnsenseExternalNetmask
          opnsense.externalVlan := vlan } fun val s => { s with opnsense.externalGw := val }
        else Traced.quiet (.done { s with
          opnsense.externalNetmask := a.opnsenseExternalNetmask
          opnsense.externalVlan := vlan })) (SameAddresses s) := by
      split
      next hnone =>
        rcases hexternal hstatic hnone with ⟨hip, hnetmask⟩
        apply computeDefGw_onQuads (by exact hs.ifs) hip hnetmask
        intro val s1 h1
        have hsame := h1.sameAddresses
        exact ⟨hsame.ifs, hsame.external, hsame.adminIp, hsame.adminNetmask⟩
      next => exact Traced.Meets.quiet_done ⟨rfl, rfl, rfl, rfl⟩
    refine Traced.Meets.bind hgateway ?_
    intro s1 h1
    have hs1 := h1.adminSettled hs
    exact Traced.Meets.quiet_done ⟨⟨hs1.ifs, hs1.external⟩, hs1.admin⟩
  next => exact Traced.Meets.quiet_done hs

theorem opnsenseStage_onQuads {a : Answers} {s : Globals}
    (hcareful : carefulRouter a s = true) (hs : AdminSettled .first s) :
    OnQuads (Stage.opnsenseStage a s) (AdminSettled .first) := by
  have hoffer : OnQuads (if s.opnsense.adminIp = "" then
      Stage.computeDefGw s.admin.ip s.admin.netmask s
        fun val s => { s with opnsense.adminIp := val }
      else Traced.quiet (.done s)) fun s1 =>
        AdminSettled .first s1 ∧ carefulRouter a s1 = true := by
    split
    next =>
      apply computeDefGw_onQuads hs.ifs hs.first.1 hs.first.2
      intro val s1 h1
      have hs1 := h1.sameAddresses.adminSettled hs
      rcases h1 with ⟨numbers, _, rfl⟩
      exact ⟨⟨⟨hs1.ifs, hs1.external⟩, hs1.admin⟩, hcareful⟩
    next => exact Traced.Meets.quiet_done ⟨hs, hcareful⟩
  unfold Stage.opnsenseStage
  refine hoffer.bind fun s1 h1 => ?_
  have hadmin : OnQuads (Traced.quiet (promptOpnsenseAdminIp a.opnsenseAdminIps s1)) fun s2 =>
      AdminSettled .first s2 ∧ (s2.opnsense.externalGw = "" ->
        (acceptedExternalIp s2.externalIp a.opnsenseExternalIps).all (fun ip =>
          ip = "dhcp" || IsQuad ip && IsQuad a.opnsenseExternalNetmask) = true) := by
    apply Traced.Meets.quiet (promptOpnsenseAdminIp_unbroken _ s1)
    intro s2 h2
    rcases promptOpnsenseAdminIp_done h2 with ⟨val, hmem, hdhcp, hnone, rfl⟩
    refine ⟨⟨⟨h1.1.ifs, h1.1.external⟩, h1.1.admin⟩, ?_⟩
    intro hgateway
    have hasked : a.opnsenseAdminIps.all (fun ip => ip = "dhcp" || ip = "none") = false := by
      rw [List.all_eq_false]
      exact ⟨val, hmem, by simp [hdhcp, hnone]⟩
    have hrouter := h1.2
    unfold carefulRouter at hrouter
    rw [hasked, Bool.or_false, Bool.or_eq_true] at hrouter
    exact hrouter.resolve_left fun hne => of_decide_eq_true hne hgateway
  refine hadmin.bind fun s2 h2 => ?_
  have hexternal : OnQuads (Traced.quiet (promptOpnsenseExternalIp a.opnsenseExternalIps s2))
      fun s3 => AdminSettled .first s3 ∧ (s3.opnsense.externalIp ≠ "dhcp" ->
        s3.opnsense.externalGw = "" ->
          IsQuad s3.opnsense.externalIp ∧ IsQuad a.opnsenseExternalNetmask) := by
    apply Traced.Meets.quiet (promptOpnsenseExternalIp_unbroken _ s2)
    intro s3 h3
    rcases promptOpnsenseExternalIp_done h3 with ⟨val, hval, rfl⟩
    refine ⟨⟨⟨h2.1.ifs, h2.1.external⟩, h2.1.admin⟩, ?_⟩
    intro hstatic hgateway
    have hasked := h2.2 hgateway
    rw [hval] at hasked
    simpa [show val ≠ "dhcp" from hstatic] using hasked
  refine hexternal.bind fun s3 h3 => ?_
  refine (opnsenseStaticStage_onQuads h3.1 h3.2).bind fun s4 h4 => ?_
  exact Traced.Meets.quiet_done ((opnsenseEnd_sameAddresses a s4).adminSettled h4)

/-- The questions about routing, on the first node and on further ones. -/
def Stage.kindRoutingStage (kind : NodeKind) (a : Answers) (s : Globals) : Stage :=
  match kind with
  | .first => Stage.routingStage a s
  | .further => Stage.gatewayStage a s

theorem Stage.kindRoutingStage_outcome (kind : NodeKind) (a : Answers) (s : Globals) :
    (Stage.kindRoutingStage kind a s).outcome = Installer.kindRoutingStage kind a s := by
  cases kind with
  | first => exact Stage.routingStage_outcome a s
  | further => exact Stage.gatewayStage_outcome a s

theorem kindRoutingStage_onQuads {kind : NodeKind} {a : Answers} {s : Globals}
    (hcareful : carefulRouting kind a s = true) (hs : AdminSettled kind s) :
    OnQuads (Stage.kindRoutingStage kind a s) (AdminSettled kind) := by
  cases kind with
  | first =>
      have hset : AdminSettled .first { s with
          deployOpnsense := s.externalIface ≠ "" && a.deployOpnsense } :=
        ⟨⟨hs.ifs, hs.external⟩, hs.admin⟩
      unfold Stage.kindRoutingStage Stage.routingStage
      unfold carefulRouting at hcareful
      dsimp only at hcareful ⊢
      split
      next hdeploy =>
        rw [if_pos hdeploy] at hcareful
        exact opnsenseStage_onQuads hcareful hset
      next hdirect =>
        rw [if_neg hdirect] at hcareful
        exact gatewayStage_onQuads hcareful hset
  | further => exact gatewayStage_onQuads hcareful hs

/-!
## Passes
-/

theorem nicsup_sameAddresses (dladmAddress : String -> String) (a : Answers) (s : Globals) :
    SameAddresses s (nicsup dladmAddress a s) := by
  rcases nicsup_eq dladmAddress a s with ⟨nic, marks, done, hup, _⟩
  rw [hup]
  exact ⟨rfl, rfl, rfl, rfl⟩

theorem systemStage_sameAddresses (a : Answers) (s : Globals) :
    SameAddresses s (systemStage a s) := by
  rcases systemStage_eq a s with ⟨system, hsystem⟩
  rw [hsystem]
  exact ⟨rfl, rfl, rfl, rfl⟩

theorem servicesStage_onQuads {kind : NodeKind} {a : Answers} {s : Globals}
    (hs : AdminSettled kind s) : OnQuads (Stage.servicesStage a s) Settled := by
  have hoffer : OnQuads (Stage.offerMgmtAdminIp s) Settled := by
    unfold Stage.offerMgmtAdminIp
    by_cases hasked : s.zones.mgmt = "" ∧ s.admin.ip ≠ "dhcp"
    · rw [if_pos hasked]
      rcases hs.quads hasked.2 with ⟨hip, hnetmask⟩
      apply (ipNetmaskToNetwork_onQuads hs.ifs hip hnetmask).bind
      intro s1 h1
      have hs1 := h1.sameAddresses.settled hs.toSettled
      have hprinted : forall ip, Settled { s1 with
          ipAddr := ip
          zones.mgmt := ip } := fun _ => ⟨hs1.ifs, hs1.external⟩
      exact Traced.Meets.quiet_done (hprinted _)
    · rw [if_neg hasked]
      by_cases hdhcp : s.admin.ip = "dhcp"
      · rw [if_pos hdhcp]
        exact Traced.Meets.quiet_done ⟨hs.ifs, hs.external⟩
      · rw [if_neg hdhcp]
        exact Traced.Meets.quiet_done hs.toSettled
  refine hoffer.bind fun s1 h1 => ?_
  exact Traced.Meets.quiet_done ⟨h1.ifs, h1.external⟩

theorem nodeServicesStage_onQuads {kind : NodeKind} {a : NodeAnswers} {s : Globals}
    (hcareful : s.advancedInstall = true -> a.cfgdbAdminIp ≠ "none" ->
      IsQuad a.cfgdbAdminIp ∧ s.admin.ip ≠ "dhcp")
    (hs : AdminSettled kind s) : OnQuads (Stage.nodeServicesStage a s) Settled := by
  have hasked : AdminSettled kind { s with zones.cfgdb := a.cfgdbAdminIp } :=
    ⟨⟨hs.ifs, hs.external⟩, hs.admin⟩
  have hcfgdb : OnQuads (Stage.cfgdbStage a s) Settled := by
    unfold Stage.cfgdbStage
    dsimp only
    split
    next hadvanced =>
      apply ipFromSubnet_onQuads hasked.ifs
      · intro hnone
        rcases hcareful hadvanced hnone with ⟨hquad, hstatic⟩
        exact ⟨hquad, hasked.quads hstatic⟩
      · exact fun s1 h1 =>
          Traced.Meets.quiet_done (h1.sameAddresses.settled hasked.toSettled)
      · exact fun _ _ s1 h1 =>
          Traced.Meets.quiet_done (h1.sameAddresses.settled hasked.toSettled)
    next => exact Traced.Meets.quiet_done hasked.toSettled
  refine hcfgdb.bind fun s1 h1 => ?_
  exact Traced.Meets.quiet_done ⟨h1.ifs, h1.external⟩

/-- The questions about the services, on the first node and on further ones. -/
def Stage.kindServicesStage (kind : NodeKind) (a : NodeAnswers) (s : Globals) : Stage :=
  match kind with
  | .first => Stage.servicesStage a.toAnswers s
  | .further => Stage.nodeServicesStage a s

theorem Stage.kindPass_eq (kind : NodeKind) (dladmAddress : String -> String)
    (a : NodeAnswers) (s : Globals) :
    Stage.kindPass kind dladmAddress a s =
      (Stage.kindAdminStage kind a s).bind fun s =>
      (Stage.tagsStage a.toAnswers s).bind fun s =>
      (Stage.kindRoutingStage kind a.toAnswers s).bind fun s =>
      (Stage.kindServicesStage kind a
        (systemStage a.toAnswers (nicsup dladmAddress a.toAnswers s))).bind fun s =>
      Traced.quiet (.done (saveChangeMacs (nicsdown s))) := by
  cases kind <;> rfl

theorem kindServicesStage_onQuads {kind : NodeKind} {dladmAddress : String -> String}
    {a : NodeAnswers} {s : Globals} (hcareful : carefulCfgdb kind a s = true)
    (hs : AdminSettled kind s) :
    OnQuads (Stage.kindServicesStage kind a
      (systemStage a.toAnswers (nicsup dladmAddress a.toAnswers s))) Settled := by
  have hup := nicsup_sameAddresses dladmAddress a.toAnswers s
  have hsystem := systemStage_sameAddresses a.toAnswers (nicsup dladmAddress a.toAnswers s)
  have hs1 := hsystem.adminSettled (hup.adminSettled hs)
  have hadminIp := hsystem.adminIp.trans hup.adminIp
  have hadvanced : (systemStage a.toAnswers
      (nicsup dladmAddress a.toAnswers s)).advancedInstall = s.advancedInstall := by
    rcases systemStage_eq a.toAnswers (nicsup dladmAddress a.toAnswers s) with ⟨_, hsystem⟩
    rcases nicsup_eq dladmAddress a.toAnswers s with ⟨_, _, _, hup, _⟩
    rw [hsystem, hup]
  cases kind with
  | first => exact servicesStage_onQuads hs1
  | further =>
      apply nodeServicesStage_onQuads _ hs1
      intro hadvanced1 hnone
      rw [hadvanced] at hadvanced1
      rw [hadminIp]
      simpa [carefulCfgdb, hadvanced1, hnone] using hcareful

/-- Between two passes the condition on the answers of the next one is all that is needed. -/
theorem kindPass_onQuads {kind : NodeKind} {dladmAddress : String -> String}
    {a : NodeAnswers} {s : Globals} (hcareful : carefulPass kind a s = true)
    (hs : Settled s) : OnQuads (Stage.kindPass kind dladmAddress a s) Settled := by
  rw [carefulPass, Bool.and_eq_true] at hcareful
  rw [Stage.kindPass_eq]
  have hadmin := (kindAdminStage_onQuads hcareful.1 hs).and fun s1 h1 =>
    Outcome.whenDone_done hcareful.2 ((Stage.kindAdminStage_outcome kind a s).symm.trans h1)
  refine hadmin.bind fun s1 h1 => ?_
  have htags := h1.2
  rw [Bool.and_eq_true] at htags
  refine ((tagsStage_onQuads htags.1 h1.1).and fun s2 h2 =>
    Outcome.whenDone_done htags.2
      ((Stage.tagsStage_outcome a.toAnswers s1).symm.trans h2)).bind fun s2 h2 => ?_
  have hrouting := h2.2
  rw [Bool.and_eq_true] at hrouting
  refine ((kindRoutingStage_onQuads hrouting.1 h2.1).and fun s3 h3 =>
    Outcome.whenDone_done hrouting.2
      ((Stage.kindRoutingStage_outcome kind a.toAnswers s2).symm.trans h3)).bind
        fun s3 h3 => ?_
  refine (kindServicesStage_onQuads h3.2 h3.1).bind fun s4 h4 => ?_
  exact Traced.Meets.quiet_done ⟨h4.ifs, h4.external⟩

theorem mainLoop_onQuads {kind : NodeKind} {dladmAddress : String -> String}
    {passes : List NodeAnswers} {s : Globals}
    (hcareful : careful kind dladmAddress passes s = true) (hs : Settled s) :
    OnQuads (Stage.mainLoop kind dladmAddress passes s) Settled := by
  induction passes generalizing s with
  | nil => exact Traced.Meets.quiet_waiting
  | cons a rest ih =>
      rw [careful, Bool.and_eq_true] at hcareful
      have hpass : OnQuads (Stage.kindPass kind dladmAddress a s) Settled :=
        kindPass_onQuads hcareful.1 hs
      cases rest with
      | nil => exact hpass
      | cons b rest =>
          apply (hpass.and fun s1 h1 => ?_).bind fun s1 h1 => ih h1.2 h1.1
          rw [Stage.kindPass_outcome] at h1
          exact Outcome.whenDone_done hcareful.2 h1

theorem initial_settled (advanced : Bool) : Settled (Globals.initial advanced) where
  ifs := rfl
  external := Or.inl rfl

/-- What the main loop turns into numbers, and what it is broken off by. -/
structure OnlyQuads (x : Stage) : Prop where
  quads : forall ip, ip ∈ x.calls -> IsQuad ip
  operands : forall ip, ip ∈ x.calls -> hasOperands ip = true
  aborted : forall s, x.outcome = .aborted s ->
    exists ip, ip ∈ x.calls ∧ IsQuad ip ∧ ipNumber ip = none

/--
In a run whose answers are careful, all addresses that are turned into numbers are dotted
quads.  No operand is missing, and only an octet that bash reads in base 8 breaks the
loop off.
-/
theorem addresses_are_quads (kind : NodeKind) (advanced : Bool)
    (dladmAddress : String -> String) (passes : List NodeAnswers)
    (hcareful : careful kind dladmAddress passes (Globals.initial advanced) = true) :
    OnlyQuads (Stage.mainLoop kind dladmAddress passes (Globals.initial advanced)) := by
  have hquads := mainLoop_onQuads hcareful (initial_settled advanced)
  constructor
  · exact hquads.calls
  · exact fun ip hip => (hquads.calls ip hip).hasOperands
  · intro s hs
    rcases hquads.aborted s hs with ⟨ip, hip, hbreaks⟩
    exact ⟨ip, hip, hquads.calls ip hip, hbreaks⟩

/-- The answers for an external tag with an address, or with `dhcp`. -/
def externalTry (ip : String) : NodeAnswers where
  toAnswers := externalAnswers {
    addNictag := true
    nic := .physical secondNic
    addIp := true
    tries := [⟨ip, "255.255.255.0", ""⟩]
    preserveMac := false } false
  cfgdbAdminIp := ""

theorem addresses_are_quads_static :
    OnlyQuads (Stage.mainLoop .first plainDladm [externalTry "203.0.113.5"]
      (Globals.initial true)) :=
  addresses_are_quads .first true plainDladm [externalTry "203.0.113.5"] (by decide +kernel)

/-- A gateway is computed from `dhcp`, and the loop is broken off. -/
theorem dhcp_is_no_quad :
    (externalTry "dhcp").Accepted ∧
    "dhcp" ∈ (Stage.mainLoop .first plainDladm [externalTry "dhcp"]
      (Globals.initial true)).calls ∧
    hasOperands "dhcp" = false ∧
    (exists s, mainLoop plainDladm [(externalTry "dhcp").toAnswers] (Globals.initial true) =
      .aborted s) ∧
    ¬ OnlyQuads (Stage.mainLoop .first plainDladm [externalTry "dhcp"]
      (Globals.initial true)) := by
  have hcall : "dhcp" ∈ (Stage.mainLoop .first plainDladm [externalTry "dhcp"]
      (Globals.initial true)).calls := by
    decide +kernel
  have hmissing : hasOperands "dhcp" = false := by decide +kernel
  refine ⟨?_, hcall, hmissing, ?_, ?_⟩
  · apply externalAnswers_accepted
    decide +kernel
  · have haborted : (match mainLoop plainDladm [(externalTry "dhcp").toAnswers]
        (Globals.initial true) with
      | .aborted _ => true
      | _ => false) = true := by decide +kernel
    split at haborted
    next s hs => exact ⟨s, hs⟩
    next => cases haborted
  · intro h
    rw [h.operands "dhcp" hcall] at hmissing
    cases hmissing

end Installer
end EsdcFactory
