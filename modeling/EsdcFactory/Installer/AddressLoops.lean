import EsdcFactory.Installer.PromptLoops

/-!
# Loops of the installer and the answers file

The loops that ask for an address and a netmask, and with them all loops of the
installer that ask until a value is accepted.  A loop turns to the terminal after
an answer of the file that it did not accept only where the prompt inside it
would refuse that answer as well.
-/

namespace EsdcFactory
namespace Installer

open BashArith Retry

/-!
## Addresses with a netmask
-/

/-- The questions of an address and its netmask, and the variables they set. -/
structure AddressQuestions where
  ipKey : String
  netmaskKey : String
  keys_ne : ipKey ≠ netmaskKey
  ip : Globals -> String
  netmask : Globals -> String
  setIp : String -> Globals -> Globals
  setNetmask : String -> Globals -> Globals
  /-- a dynamic address is not accepted -/
  staticOnly : Bool
  /-- what else is asked before the next attempt -/
  behind : Globals -> List String -> Option (Globals × List String)
  ip_setIp : forall val s, ip (setIp val s) = val
  netmask_setIp : forall val s, netmask (setIp val s) = netmask s
  ip_setNetmask : forall val s, ip (setNetmask val s) = ip s
  netmask_setNetmask : forall val s, netmask (setNetmask val s) = val
  ip_numbers : forall s s', NumbersOnly s s' -> ip s' = ip s
  netmask_numbers : forall s s', NumbersOnly s s' -> netmask s' = netmask s
  ip_behind : forall s typed s' rest, behind s typed = some (s', rest) -> ip s' = ip s
  netmask_behind : forall s typed s' rest, behind s typed = some (s', rest) ->
    netmask s' = netmask s
  behind_le : forall s typed s' rest, behind s typed = some (s', rest) ->
    rest.length ≤ typed.length

namespace AddressQuestions

variable (q : AddressQuestions) (file : String -> Option String)

/-- The netmask that is offered. -/
def offered (s : Globals) : String :=
  if q.netmask s = "" then "255.255.255.0" else q.netmask s

def ipPrompt (s : Globals) : Prompt :=
  netPrompt file q.ipKey (q.ip s)

def netmaskPrompt (s : Globals) : Prompt :=
  netPrompt file q.netmaskKey (q.offered s)

/-- How an attempt ends that has an address and a netmask. -/
def ending (ip netmask : String) (x : LoopState) (s : Globals) (rest : List String) :
    Ending LoopState String :=
  match ipNetmaskToNetwork ip netmask (q.setNetmask netmask s) with
  | .done s =>
      match q.behind s rest with
      | none => .stuck
      | some (s', rest) =>
          if s.numbers.ipNum ≠ s.numbers.bcastAddr then .accepted
          else .rejected { x with s := s' } rest
  | _ => .stuck

/-- One round of the questions about an address. -/
def attempt (x : LoopState) (typed : List String) : Attempt String LoopState String :=
  match (q.ipPrompt file x.s).answer typed with
  | none => ⟨[(q.ipKey, .terminal)], .stuck⟩
  | some (ip, ipSource, rest) =>
      let s := q.setIp ip x.s
      if ip = "dhcp" then
        ⟨[(q.ipKey, ipSource)],
          if q.staticOnly then .rejected { x with s := q.setIp "" s } rest else .accepted⟩
      else
        match (q.netmaskPrompt file s).answer rest with
        | none => ⟨[(q.ipKey, ipSource), (q.netmaskKey, .terminal)], .stuck⟩
        | some (netmask, netmaskSource, rest) =>
            ⟨[(q.ipKey, ipSource), (q.netmaskKey, netmaskSource)],
              q.ending ip netmask x s rest⟩

/-- The answers that a round asks the file for. -/
def takes (x : LoopState) (key : String) : Prop :=
  (key = q.ipKey ∧ (q.ipPrompt file x.s).fileVal.isSome) ∨
    (key = q.netmaskKey ∧ (q.netmaskPrompt file x.s).fileVal.isSome)

theorem netmaskPrompt_setIp (val : String) (s : Globals) :
    q.netmaskPrompt file (q.setIp val s) = q.netmaskPrompt file s := by
  rw [netmaskPrompt, offered, q.netmask_setIp]
  rfl

theorem takes_ipKey (x : LoopState) :
    q.takes file x q.ipKey <-> (q.ipPrompt file x.s).fileVal.isSome := by
  simp [takes, q.keys_ne]

theorem takes_netmaskKey (x : LoopState) :
    q.takes file x q.netmaskKey <-> (q.netmaskPrompt file x.s).fileVal.isSome := by
  simp [takes, q.keys_ne.symm]

variable {q file}

theorem ending_rejected {ip netmask : String} {x x' : LoopState} {s : Globals}
    {rest rest' : List String} (h : q.ending ip netmask x s rest = .rejected x' rest') :
    q.ip x'.s = q.ip s ∧ q.netmask x'.s = netmask ∧ rest'.length ≤ rest.length := by
  unfold ending at h
  split at h
  · rename_i s1 hnetwork
    split at h
    · cases h
    · rename_i s2 behind hbehind
      split at h
      · cases h
      · cases h
        have hnumbers := ipNetmaskToNetwork_numbersOnly ip netmask (q.setNetmask netmask s)
        rw [hnetwork] at hnumbers
        have honly := Outcome.all_done.mp hnumbers
        refine ⟨?_, ?_, q.behind_le _ _ _ _ hbehind⟩
        · rw [q.ip_behind _ _ _ _ hbehind, q.ip_numbers _ _ honly, q.ip_setNetmask]
        · rw [q.netmask_behind _ _ _ _ hbehind, q.netmask_numbers _ _ honly,
            q.netmask_setNetmask]
  · cases h

variable (q file)

/-- The address is the broadcast address of its network, and the round is finished. -/
def AsksAgain (ip netmask : String) (s : Globals) (rest : List String) : Prop :=
  exists s', ipNetmaskToNetwork ip netmask (q.setNetmask netmask s) = .done s' ∧
    s'.numbers.ipNum = s'.numbers.bcastAddr ∧ (q.behind s' rest).isSome

theorem ending_rejected_iff {ip netmask : String} {x : LoopState} {s : Globals}
    {rest : List String} :
    (exists x' rest', q.ending ip netmask x s rest = .rejected x' rest') <->
      q.AsksAgain ip netmask s rest := by
  unfold ending AsksAgain
  cases ipNetmaskToNetwork ip netmask (q.setNetmask netmask s) with
  | done s1 =>
      cases hbehind : q.behind s1 rest with
      | none => simp [hbehind]
      | some found =>
          by_cases hequal : s1.numbers.ipNum = s1.numbers.bcastAddr
          · simp [hequal, hbehind]
          · simp [hequal, hbehind]
  | waiting => simp
  | aborted s1 => simp

/-- The loop of the questions about an address. -/
def loop : Loop String LoopState String where
  takes := q.takes file
  attempt := q.attempt file
  first := q.ipKey
  source_iff x typed key source h := by
    unfold attempt at h
    split at h
    · rename_i hnone
      cases List.mem_singleton.mp h
      rw [takes_ipKey, Prompt.answer_none hnone]
      simp
    · rename_i ip ipSource rest hip
      dsimp only at h
      have hipSource := (Prompt.answer_source hip).left
      split at h
      · cases List.mem_singleton.mp h
        rw [takes_ipKey, hipSource]
      · rw [netmaskPrompt_setIp] at h
        split at h
        · rename_i hnone
          rcases List.mem_cons.mp h with heq | h
          · cases heq
            rw [takes_ipKey, hipSource]
          · cases List.mem_singleton.mp h
            rw [takes_netmaskKey, Prompt.answer_none hnone]
            simp
        · rename_i hnetmask
          rcases List.mem_cons.mp h with heq | h
          · cases heq
            rw [takes_ipKey, hipSource]
          · cases List.mem_singleton.mp h
            rw [takes_netmaskKey, (Prompt.answer_source hnetmask).left]
  asks_first x typed := by
    unfold attempt
    split
    · exact ⟨_, List.mem_cons_self⟩
    · dsimp only
      split
      · exact ⟨_, List.mem_cons_self⟩
      · split
        · exact ⟨_, List.mem_cons_self⟩
        · exact ⟨_, List.mem_cons_self⟩
  rest_le x typed x' rest h := by
    unfold attempt at h
    split at h
    · cases h
    · rename_i ip ipSource behind hip
      have hle := (Prompt.answer_source hip).right.left
      dsimp only at h
      split at h
      · dsimp only at h
        split at h
        · cases h
          exact hle
        · cases h
      · split at h
        · cases h
        · rename_i hnetmask
          exact Nat.le_trans (ending_rejected h).right.right
            (Nat.le_trans (Prompt.answer_source hnetmask).right.left hle)
  rest_lt x typed x' rest key h hkey := by
    unfold attempt at h hkey
    split at h
    · cases h
    · rename_i ip ipSource behind hip
      have hlt := (Prompt.answer_source hip).right.right.left
      rw [hip] at hkey
      dsimp only at h hkey
      split at h
      · rename_i hdhcp
        rw [if_pos hdhcp] at hkey
        cases List.mem_singleton.mp hkey
        dsimp only at h
        split at h
        · cases h
          exact hlt rfl
        · cases h
      · rename_i hdhcp
        rw [if_neg hdhcp] at hkey
        split at h
        · cases h
        · rename_i netmask netmaskSource last hnetmask
          have hle := (ending_rejected h).right.right
          have hnetmaskFacts := Prompt.answer_source hnetmask
          rw [hnetmask] at hkey
          rcases List.mem_cons.mp hkey with heq | hkey
          · cases heq
            exact Nat.lt_of_le_of_lt hle
              (Nat.lt_of_le_of_lt hnetmaskFacts.right.left (hlt rfl))
          · cases List.mem_singleton.mp hkey
            exact Nat.lt_of_le_of_lt hle
              (Nat.lt_of_lt_of_le (hnetmaskFacts.right.right.left rfl)
                (Prompt.answer_source hip).right.left)

/--
A round that takes no answer from the file which it then does not accept, or
that forgets the answer it took.
-/
def Passes (x : LoopState) (typed : List String) : Prop :=
  match (q.ipPrompt file x.s).answer typed with
  | none => True
  | some (ip, ipSource, rest) =>
      if ip = "dhcp" then
        q.staticOnly = true -> ipSource = .file -> answerText file q.ipKey ≠ "dhcp"
      else
        match (q.netmaskPrompt file x.s).answer rest with
        | none => True
        | some (netmask, netmaskSource, rest) =>
            ipSource = .file ∨ netmaskSource = .file ->
              ¬ q.AsksAgain ip netmask (q.setIp ip x.s) rest

variable {q file}

theorem takes_after_dhcp {x : LoopState}
    (h : (q.ipPrompt file x.s).fileVal = some "dhcp") (s : Globals) :
    ¬ q.takes file { x with s := q.setIp "" s } q.ipKey <->
      answerText file q.ipKey ≠ "dhcp" := by
  have hempty : fileAnswer (answerText file q.ipKey) "" = answerText file q.ipKey := by
    simp [fileAnswer]
  have htakes : q.takes file { x with s := q.setIp "" s } q.ipKey <->
      isNetValue (answerText file q.ipKey) = true := by
    rw [takes_ipKey]
    change (netPrompt file q.ipKey (q.ip (q.setIp "" s))).fileVal.isSome <-> _
    rw [q.ip_setIp]
    simp [netPrompt, hempty]
  rw [htakes, not_iff_not]
  constructor
  · intro hnet
    change (if isNetValue (fileAnswer (answerText file q.ipKey) (q.ip x.s)) then _
      else none) = _ at h
    split at h
    · have hval := Option.some.inj h
      unfold fileAnswer at hval
      split at hval
      · rename_i hdefault
        rw [hdefault.left] at hnet
        exact absurd hnet (by decide)
      · exact hval
    · cases h
  · intro hdhcp
    rw [hdhcp]
    decide

theorem takes_after_rejected {x x' : LoopState} {typed rest rest' last : List String}
    {ip netmask : String} {ipSource netmaskSource : Source}
    (hip : (q.ipPrompt file x.s).answer typed = some (ip, ipSource, rest))
    (hnetmask : (q.netmaskPrompt file x.s).answer rest =
      some (netmask, netmaskSource, rest'))
    (h : q.ending ip netmask x (q.setIp ip x.s) rest' = .rejected x' last) :
    (ipSource = .file -> q.takes file x' q.ipKey) ∧
      (netmaskSource = .file -> q.takes file x' q.netmaskKey) := by
  rcases ending_rejected h with ⟨hipKept, hnetmaskKept, _⟩
  rw [q.ip_setIp] at hipKept
  constructor
  · intro hfile
    have hval := (Prompt.answer_source hip).right.right.right hfile
    rw [takes_ipKey, ipPrompt, hipKept, netPrompt_again hval]
    rfl
  · intro hfile
    have hval := (Prompt.answer_source hnetmask).right.right.right hfile
    have hagain := netPrompt_again hval
    have hnet : isNetValue netmask = true := by
      change (if isNetValue (fileAnswer (answerText file q.netmaskKey) netmask) then _
        else none) = _ at hagain
      split at hagain
      · rename_i hnet
        rwa [Option.some.inj hagain] at hnet
      · cases hagain
    have hoffered : q.offered x'.s = netmask := by
      rw [offered, hnetmaskKept, if_neg (isNetValue_ne_empty hnet)]
    rw [takes_netmaskKey, netmaskPrompt, hoffered, hagain]
    rfl

variable (q file)

/-- The condition is exact for a round of the loop. -/
theorem passes_iff (x : LoopState) (typed : List String) :
    q.Passes file x typed <->
      forall x' rest, ((q.loop file).attempt x typed).ending = .rejected x' rest ->
        forall key, (key, .file) ∈ ((q.loop file).attempt x typed).replies ->
          ¬ (q.loop file).takes x' key := by
  change _ <-> forall x' rest, (q.attempt file x typed).ending = .rejected x' rest ->
    forall key, (key, .file) ∈ (q.attempt file x typed).replies -> ¬ q.takes file x' key
  unfold Passes attempt
  cases hip : (q.ipPrompt file x.s).answer typed with
  | none => simp
  | some found =>
      rcases found with ⟨ip, ipSource, rest⟩
      dsimp only
      by_cases hdhcp : ip = "dhcp"
      · rw [if_pos hdhcp, if_pos hdhcp]
        by_cases hstatic : q.staticOnly = true
        · rw [if_pos hstatic]
          constructor
          · intro h x' last hending key hkey
            cases hending
            cases List.mem_singleton.mp hkey
            have hval := (Prompt.answer_source hip).right.right.right rfl
            rw [hdhcp] at hval
            exact (takes_after_dhcp hval _).mpr (h hstatic rfl)
          · intro h _ hfile
            cases hfile
            have hval := (Prompt.answer_source hip).right.right.right rfl
            rw [hdhcp] at hval
            exact (takes_after_dhcp hval _).mp (h _ _ rfl q.ipKey List.mem_cons_self)
        · simp [hstatic]
      · rw [if_neg hdhcp, if_neg hdhcp, netmaskPrompt_setIp]
        cases hnetmask : (q.netmaskPrompt file x.s).answer rest with
        | none => simp
        | some found =>
            rcases found with ⟨netmask, netmaskSource, rest'⟩
            dsimp only
            constructor
            · intro h x' last hending key hkey
              have hagain := (q.ending_rejected_iff).mp ⟨x', last, hending⟩
              rcases List.mem_cons.mp hkey with heq | hkey
              · cases heq
                exact absurd hagain (h (Or.inl rfl))
              · cases List.mem_singleton.mp hkey
                exact absurd hagain (h (Or.inr rfl))
            · intro h hfile hagain
              rcases (q.ending_rejected_iff (x := x)).mpr hagain with ⟨x', last, hending⟩
              have htakes := takes_after_rejected hip hnetmask hending
              rcases hfile with rfl | rfl
              · exact h x' last hending q.ipKey List.mem_cons_self (htakes.left rfl)
              · exact h x' last hending q.netmaskKey (by simp) (htakes.right rfl)

end AddressQuestions

/-- The image that the installer is on: for the first node or for another one. -/
inductive UsbType where
  | hn
  | cn
deriving DecidableEq

/-- The admin loop, which disallows DHCP on the first node. -/
def adminQuestions (usbType : UsbType) : AddressQuestions where
  ipKey := "admin_ip"
  netmaskKey := "admin_netmask"
  keys_ne := by decide
  ip s := s.admin.ip
  netmask s := s.admin.netmask
  setIp val s := { s with admin.ip := val }
  setNetmask val s := { s with admin.netmask := val }
  staticOnly := usbType = .hn
  behind s typed := some (s, typed)
  ip_setIp _ _ := rfl
  netmask_setIp _ _ := rfl
  ip_setNetmask _ _ := rfl
  netmask_setNetmask _ _ := rfl
  ip_numbers := by
    intro s _ hparts
    rcases hparts with ⟨_, rfl⟩
    rfl
  netmask_numbers := by
    intro s _ hparts
    rcases hparts with ⟨_, rfl⟩
    rfl
  ip_behind := by
    intro s typed s' rest h
    cases h
    rfl
  netmask_behind := by
    intro s typed s' rest h
    cases h
    rfl
  behind_le := by
    intro s typed s' rest h
    cases h
    exact Nat.le_refl _

/-- Read lines until one is a VLAN. -/
def readVlan (default : String) : List String -> Option (String × List String)
  | [] => none
  | line :: rest =>
      if isVlan (entered default line) then some (vlanId (entered default line), rest)
      else readVlan default rest

/-- `promptvlan`, where it returns -/
def promptvlan (file : String -> Option String) (key default : String)
    (typed : List String) : Option (String × List String) :=
  match (optPrompt file key default).fileVal with
  | some val => if isVlan val then some (vlanId val, typed) else none
  | none => readVlan default typed

theorem readVlan_le {default val : String} {typed rest : List String}
    (h : readVlan default typed = some (val, rest)) : rest.length ≤ typed.length := by
  induction typed with
  | nil => cases h
  | cons line typed ih =>
      rw [readVlan] at h
      split at h
      · cases h
        exact Nat.le_succ _
      · exact Nat.le_succ_of_le (ih h)

theorem promptvlan_le {file : String -> Option String} {key default val : String}
    {typed rest : List String}
    (h : promptvlan file key default typed = some (val, rest)) :
    rest.length ≤ typed.length := by
  unfold promptvlan at h
  split at h
  · split at h
    · cases h
      exact Nat.le_refl _
    · cases h
  · exact readVlan_le h

/-- The VLAN that is asked for at the end of a round. -/
def tagVlan (file : String -> Option String) (ntag : NicTag) (s : Globals)
    (typed : List String) : Option (Globals × List String) :=
  (promptvlan file (ntag.name ++ "_vlan_id") (valueOf (s.nictags ntag).vlan) typed).map
    fun found => (setTag ntag { s.nictags ntag with vlan := some found.1 } s, found.2)

theorem tagVlan_eq_some {file : String -> Option String} {ntag : NicTag}
    {s s' : Globals} {typed rest : List String}
    (h : tagVlan file ntag s typed = some (s', rest)) :
    (s'.nictags ntag).ip = (s.nictags ntag).ip ∧
      (s'.nictags ntag).netmask = (s.nictags ntag).netmask ∧
      rest.length ≤ typed.length := by
  rcases Option.map_eq_some_iff.mp h with ⟨⟨val, behind⟩, hvlan, heq⟩
  cases heq
  exact ⟨by simp [setTag], by simp [setTag], promptvlan_le hvlan⟩

/-- The loop of `promptnictag_ip` -/
def tagQuestions (file : String -> Option String) (ntag : NicTag) : AddressQuestions where
  ipKey := ntag.name ++ "_ip"
  netmaskKey := ntag.name ++ "_netmask"
  keys_ne := by cases ntag <;> decide
  ip s := valueOf (s.nictags ntag).ip
  netmask s := valueOf (s.nictags ntag).netmask
  setIp val s := setTag ntag { s.nictags ntag with ip := some val } s
  setNetmask val s := setTag ntag { s.nictags ntag with netmask := some val } s
  staticOnly := false
  behind := tagVlan file ntag
  ip_setIp _ _ := by simp [setTag, valueOf]
  netmask_setIp _ _ := by simp [setTag]
  ip_setNetmask _ _ := by simp [setTag]
  netmask_setNetmask _ _ := by simp [setTag, valueOf]
  ip_numbers := by
    intro s _ hparts
    rcases hparts with ⟨_, rfl⟩
    rfl
  netmask_numbers := by
    intro s _ hparts
    rcases hparts with ⟨_, rfl⟩
    rfl
  ip_behind _ _ _ _ h := by rw [(tagVlan_eq_some h).left]
  netmask_behind _ _ _ _ h := by rw [(tagVlan_eq_some h).right.left]
  behind_le _ _ _ _ h := (tagVlan_eq_some h).right.right

/-!
## All loops
-/

/-- The loops of the installer, with the arguments that they are called with. -/
inductive InstallerLoop where
  | promptbool (key default : String)
  | promptHostname (key default : String)
  | promptSelect (vals key default : String)
  | promptvlan (key default : String)
  | promptnet (key default extra : String)
  | promptmac (key default extra : String)
  | promptemail (key default : String)
  | promptIpFromSubnet (key default net mask : String)
  | adminAddress (usbType : UsbType)
  | tagAddress (ntag : NicTag)
  | opnsenseAdminIp
  | opnsenseExternalIp

namespace InstallerLoop

variable (regex : Regex) (file : String -> Option String)

/-- The loops, as what they do in one attempt. -/
def loop : InstallerLoop -> Loop String LoopState String
  | promptbool key default =>
      promptLoop key (fun _ => valPrompt file key default) (testVerdict isYesNo)
        (fun _ => rfl)
  | promptHostname key default =>
      promptLoop key (fun _ => valPrompt file key default)
        (testVerdict fun val => val.toList.contains '.') (fun _ => rfl)
  | promptSelect vals key default =>
      promptLoop key (fun _ => valPrompt file key default)
        (testVerdict fun val => isInVals regex val vals) (fun _ => rfl)
  | promptvlan key default =>
      promptLoop key (fun _ => optPrompt file key default) (testVerdict isVlan)
        (fun _ => rfl)
  | promptnet key default extra =>
      onceLoop key (fileAnswer (answerText file key) default) default
        (fun val => isInVals regex val extra || isNetValue val)
  | promptmac key default extra =>
      onceLoop key (fileAnswer (answerText file key) default) default
        (fun val => isInVals regex val extra || isMac val)
  | promptemail key default =>
      onceLoop key (fileAnswer (answerText file key) default) default
        (fun val => val ≠ "" && isEmail regex val)
  | promptIpFromSubnet key default net mask =>
      promptLoop key (fun _ => netPrompt file key default) (subnetVerdict net mask)
        (fun _ => rfl)
  | adminAddress usbType => (adminQuestions usbType).loop file
  | tagAddress ntag => (tagQuestions file ntag).loop file
  | opnsenseAdminIp =>
      promptLoop "opnsense_admin_ip"
        (fun s => netPrompt file "opnsense_admin_ip" s.opnsense.adminIp)
        (testVerdict fun val => val ≠ "dhcp" && val ≠ "none") (fun _ => rfl)
  | opnsenseExternalIp =>
      promptLoop "opnsense_external_ip"
        (fun s => netPrompt file "opnsense_external_ip" s.opnsense.externalIp)
        (fun s => testVerdict (fun val => val ≠ s.externalIp || val = "dhcp") s)
        (fun _ => rfl)

/-- The answers of the file are answers that the loop accepts. -/
def FilePasses (l : InstallerLoop) (x : LoopState) (typed : List String) : Prop :=
  match l with
  | promptbool key default =>
      forall val, (valPrompt file key default).fileVal = some val -> isYesNo val = true
  | promptHostname key default =>
      forall val, (valPrompt file key default).fileVal = some val -> '.' ∈ val.toList
  | promptSelect vals key default =>
      forall val, (valPrompt file key default).fileVal = some val ->
        isInVals regex val vals = true
  | promptvlan key default =>
      forall val, (optPrompt file key default).fileVal = some val -> isVlan val = true
  -- these look at the file once
  | promptnet _ _ _ => True
  | promptmac _ _ _ => True
  | promptemail _ _ => True
  | promptIpFromSubnet key default net mask =>
      forall val, (netPrompt file key default).fileVal = some val ->
        forall s, subnetVerdict net mask x.s val ≠ .rejected s
  | adminAddress usbType => (adminQuestions usbType).Passes file x typed
  | tagAddress ntag => (tagQuestions file ntag).Passes file x typed
  | opnsenseAdminIp =>
      forall val,
        (netPrompt file "opnsense_admin_ip" x.s.opnsense.adminIp).fileVal = some val ->
          val ≠ "dhcp" ∧ val ≠ "none"
  | opnsenseExternalIp =>
      forall val,
        (netPrompt file "opnsense_external_ip" x.s.opnsense.externalIp).fileVal = some val ->
          val ≠ x.s.externalIp ∨ val = "dhcp"

theorem testVerdict_rejected {test : String -> Bool} {s s' : Globals} {val : String}
    (h : testVerdict test s val = .rejected s') : s' = s := by
  unfold testVerdict at h
  split at h
  · cases h
  · cases h
    rfl

theorem testVerdict_passes {test : String -> Bool} {s : Globals} {val : String} :
    (forall s', testVerdict test s val ≠ .rejected s') <-> test val = true := by
  unfold testVerdict
  cases test val with
  | true => simp
  | false => simp

theorem testLoop_passes {key : String} (prompt : Globals -> Prompt)
    (test : Globals -> String -> Bool) (hkey : forall s, (prompt s).key = key)
    (x : LoopState) (typed : List String) :
    (forall val, (prompt x.s).fileVal = some val -> test x.s val = true) <->
      forall x' rest,
        ((promptLoop key prompt (fun s => testVerdict (test s) s) hkey).attempt
          x typed).ending = .rejected x' rest ->
        forall q, (q, .file) ∈ ((promptLoop key prompt (fun s => testVerdict (test s) s)
            hkey).attempt x typed).replies ->
          ¬ (promptLoop key prompt (fun s => testVerdict (test s) s) hkey).takes x' q := by
  rw [← promptLoop_passes hkey (fun s val s' h => by rw [testVerdict_rejected h])]
  exact forall₂_congr fun val _ => testVerdict_passes.symm

/-- The condition is exact for an attempt of each loop. -/
theorem filePasses_iff (l : InstallerLoop) (x : LoopState) (typed : List String) :
    l.FilePasses regex file x typed <->
      forall x' rest, ((l.loop regex file).attempt x typed).ending = .rejected x' rest ->
        forall q, (q, .file) ∈ ((l.loop regex file).attempt x typed).replies ->
          ¬ (l.loop regex file).takes x' q := by
  cases l with
  | promptbool key default =>
      exact testLoop_passes _ (fun _ => isYesNo) (fun _ => rfl) x typed
  | promptHostname key default =>
      have htest := testLoop_passes (fun _ => valPrompt file key default)
        (fun _ val => val.toList.contains '.') (fun _ => rfl) x typed
      simp only [List.contains_iff_mem] at htest
      exact htest
  | promptSelect vals key default =>
      exact testLoop_passes _ (fun _ val => isInVals regex val vals) (fun _ => rfl) x typed
  | promptvlan key default =>
      exact testLoop_passes _ (fun _ => isVlan) (fun _ => rfl) x typed
  | promptnet key default extra =>
      exact iff_of_true trivial fun _ _ h q _ => onceLoop_passes _ _ _ _ h q
  | promptmac key default extra =>
      exact iff_of_true trivial fun _ _ h q _ => onceLoop_passes _ _ _ _ h q
  | promptemail key default =>
      exact iff_of_true trivial fun _ _ h q _ => onceLoop_passes _ _ _ _ h q
  | promptIpFromSubnet key default net mask =>
      exact promptLoop_passes (fun _ => rfl) (fun _ _ _ _ => rfl) x typed
  | adminAddress usbType => exact (adminQuestions usbType).passes_iff file x typed
  | tagAddress ntag => exact (tagQuestions file ntag).passes_iff file x typed
  | opnsenseAdminIp =>
      have htest := testLoop_passes
        (fun s => netPrompt file "opnsense_admin_ip" s.opnsense.adminIp)
        (fun _ val => val ≠ "dhcp" && val ≠ "none") (fun _ => rfl) x typed
      simp only [Bool.and_eq_true, decide_eq_true_eq] at htest
      exact htest
  | opnsenseExternalIp =>
      have htest := testLoop_passes
        (fun s => netPrompt file "opnsense_external_ip" s.opnsense.externalIp)
        (fun s val => val ≠ s.externalIp || val = "dhcp") (fun _ => rfl) x typed
      simp only [Bool.or_eq_true, decide_eq_true_eq] at htest
      exact htest

end InstallerLoop

/--
In a run of a loop, no answer of the file that is not accepted is taken again, and
the loop does not repeat itself forever without the terminal, exactly when all
attempts of the run meet the condition.
-/
theorem promptLoops_noSpin_iff (regex : Regex) (file : String -> Option String)
    (l : InstallerLoop) (x : LoopState) (typed : List String) :
    (l.loop regex file).NoSpin (x, typed) <->
      forall n y, (l.loop regex file).inputAt n (x, typed) = some y ->
        l.FilePasses regex file y.1 y.2 :=
  Loop.noSpin_iff (l.filePasses_iff regex file) (x, typed)

/-- An answers file that answers the question about more network tags with `maybe`. -/
def maybeFile (key : String) : Option String :=
  if key = "add_nictags" then some "maybe" else none

/-- The answer is neither yes nor no, and the question gets no other. -/
theorem maybe_is_asked_forever :
    let loop := (InstallerLoop.promptbool "add_nictags" "y").loop (fun _ _ => false) maybeFile
    let x : LoopState × List String := (⟨.initial false, false⟩, ["y"])
    ¬ loop.NoSpin x ∧ forall n, loop.inputAt n x = some x := by
  intro loop x
  have hnext : loop.next x = some x := by rfl
  have hforever : forall n, loop.inputAt n x = some x := by
    intro n
    induction n with
    | zero => rfl
    | succ n ih =>
        rw [Loop.inputAt, hnext, Option.bind_some]
        exact ih
  refine ⟨?_, hforever⟩
  intro h
  rcases h with ⟨_, n, hn⟩
  rw [hforever n] at hn
  cases hn

end Installer
end EsdcFactory
