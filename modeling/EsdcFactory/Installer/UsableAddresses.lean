import EsdcFactory.Installer.Networks

/-!
# Addresses that the loops let out

The loops that ask for an address and a netmask end when the number of the address is
not the one of the broadcast address.  That the address is one of a host is left to
whoever answers.
-/

namespace EsdcFactory
namespace Installer

open BashArith

/-!
## The loops
-/

/-- The rounds of questions about the admin address of a node that may get it by DHCP. -/
def promptAdminIpOrDhcp : List AddressTry -> Globals -> Outcome Globals
  | [], _ => .waiting
  | t :: rest, s =>
      let s := { s with admin.ip := t.ip }
      if t.ip = "dhcp" then .done s
      else
        let s := { s with admin.netmask := t.netmask }
        (ipNetmaskToNetwork t.ip t.netmask s).bind fun s =>
        if s.numbers.ipNum ≠ s.numbers.bcastAddr then .done s
        else promptAdminIpOrDhcp rest s

/--
The round that ends the questions, unless one before it breaks them off.  With `IFS` set
to a dot every round does so that computes a network.
-/
def lastTry (staticOnly ifsDot : Bool) : List AddressTry -> Option AddressTry
  | [] => none
  | t :: rest =>
      if t.ip = "dhcp" then
        if staticOnly then lastTry staticOnly ifsDot rest else some t
      else if ifsDot then none
      else
        match ipNumber t.ip, ipNumber t.netmask with
        | some ip, some netmask =>
            if ip ≠ broadcastOf ip netmask then some t else lastTry staticOnly ifsDot rest
        | _, _ => none

/-- A loop ends with the values of a round, or does not end by itself. -/
def EndsWith (x : Outcome Globals) (ip netmask : Globals -> String)
    (last : Option AddressTry) : Prop :=
  match last with
  | some t => exists s, x = .done s ∧ ip s = t.ip ∧ (t.ip ≠ "dhcp" -> netmask s = t.netmask)
  | none => forall s, x ≠ .done s

/-- What a round of all three loops does with an address that is no `dhcp`. -/
theorem endsWith_round {t : AddressTry} {rest : List AddressTry} {staticOnly : Bool}
    {s : Globals} {ip netmask : Globals -> String} {f : Globals -> Globals}
    {next : Globals -> Outcome Globals} (hstatic : t.ip ≠ "dhcp")
    (hlast : forall numbers, ip (f { s with numbers := numbers }) = t.ip ∧
      netmask (f { s with numbers := numbers }) = t.netmask)
    (hnext : forall numbers, numbers.ifsDot = s.numbers.ifsDot ->
      EndsWith (next { s with numbers := numbers }) ip netmask
        (lastTry staticOnly numbers.ifsDot rest)) :
    EndsWith ((ipNetmaskToNetwork t.ip t.netmask s).bind fun s =>
        if s.numbers.ipNum ≠ s.numbers.bcastAddr then .done (f s) else next s)
      ip netmask (lastTry staticOnly s.numbers.ifsDot (t :: rest)) := by
  have hbroken : (forall i m, s.numbers.ifsDot = false -> ipNumber t.ip = some i ->
        ipNumber t.netmask = some m -> False) ->
      EndsWith ((ipNetmaskToNetwork t.ip t.netmask s).bind fun s =>
        if s.numbers.ipNum ≠ s.numbers.bcastAddr then .done (f s) else next s)
        ip netmask none := by
    intro hnone s' hdone
    rcases Outcome.bind_eq_done.mp hdone with ⟨s1, hnet, _⟩
    rcases ipNetmaskToNetwork_done_iff.mp hnet with ⟨hifs, i, m, hi, hm, _⟩
    exact hnone i m hifs hi hm
  rw [lastTry, if_neg hstatic]
  cases hifs : s.numbers.ifsDot with
  | true => exact hbroken (by simp [hifs])
  | false =>
      rw [if_neg Bool.false_ne_true]
      cases hip : ipNumber t.ip with
      | none => exact hbroken (by simp [hip])
      | some i =>
          cases hmask : ipNumber t.netmask with
          | none => exact hbroken (by simp [hmask])
          | some m =>
              have hnet : ipNetmaskToNetwork t.ip t.netmask s = .done (withNetwork i m s) :=
                ipNetmaskToNetwork_done_iff.mpr ⟨hifs, i, m, hip, hmask, rfl⟩
              rw [hnet, Outcome.bind_done, withNetwork_ipNum, withNetwork_bcastAddr]
              dsimp only
              split
              · exact ⟨_, rfl, (hlast _).1, fun _ => (hlast _).2⟩
              · have hrest := hnext (withNetwork i m s).numbers rfl
                rwa [show (withNetwork i m s).numbers.ifsDot = false from hifs] at hrest

theorem promptAdminIp_endsWith (tries : List AddressTry) (s : Globals) :
    EndsWith (promptAdminIp tries s) (·.admin.ip) (·.admin.netmask)
      (lastTry true s.numbers.ifsDot tries) := by
  induction tries generalizing s with
  | nil => simp [promptAdminIp, lastTry, EndsWith]
  | cons t rest ih =>
      by_cases hdhcp : t.ip = "dhcp"
      · rw [promptAdminIp, if_pos hdhcp, lastTry, if_pos hdhcp, if_pos rfl]
        exact ih { s with admin.ip := "" }
      · rw [promptAdminIp, if_neg hdhcp]
        refine endsWith_round (f := id) hdhcp ?_ ?_
        · exact fun numbers => ⟨rfl, rfl⟩
        · intro numbers _
          apply ih

theorem promptAdminIpOrDhcp_endsWith (tries : List AddressTry) (s : Globals) :
    EndsWith (promptAdminIpOrDhcp tries s) (·.admin.ip) (·.admin.netmask)
      (lastTry false s.numbers.ifsDot tries) := by
  induction tries generalizing s with
  | nil => simp [promptAdminIpOrDhcp, lastTry, EndsWith]
  | cons t rest ih =>
      by_cases hdhcp : t.ip = "dhcp"
      · rw [promptAdminIpOrDhcp, lastTry, if_pos hdhcp]
        simp only [if_pos hdhcp]
        exact ⟨_, rfl, rfl, absurd hdhcp⟩
      · rw [promptAdminIpOrDhcp]
        simp only [if_neg hdhcp]
        refine endsWith_round (f := id) hdhcp ?_ ?_
        · exact fun numbers => ⟨rfl, rfl⟩
        · intro numbers _
          apply ih

theorem promptTagIp_endsWith (ntag : NicTag) (tries : List AddressTry) (s : Globals) :
    EndsWith (promptTagIp ntag tries s) (fun s => valueOf (s.nictags ntag).ip)
      (fun s => valueOf (s.nictags ntag).netmask) (lastTry false s.numbers.ifsDot tries) := by
  induction tries generalizing s with
  | nil => simp [promptTagIp, lastTry, EndsWith]
  | cons t rest ih =>
      by_cases hdhcp : t.ip = "dhcp"
      · rw [promptTagIp, lastTry, if_pos hdhcp]
        simp only [if_pos hdhcp]
        refine ⟨_, rfl, ?_, absurd hdhcp⟩
        simp [setTag, valueOf]
      · rw [promptTagIp]
        simp only [if_neg hdhcp]
        refine endsWith_round hdhcp ?_ ?_
        · intro numbers
          simp [setTag, valueOf]
        · intro numbers _
          apply ih

/-!
## Usable addresses
-/

/-- The address of a host and the contiguous mask of its network, as dotted quads. -/
def IsUsable (ip netmask : String) : Prop :=
  exists (net : Subnet) (n : Nat), net.Usable n ∧ netmask = dotted net.mask ∧ ip = dotted n

/-- A loop only lets usable addresses out, besides the one that stands for DHCP. -/
def OnlyUsable (x : Outcome Globals) (ip netmask : Globals -> String) : Prop :=
  forall s, x = .done s -> ip s ≠ "dhcp" -> IsUsable (ip s) (netmask s)

/-- A contiguous mask, and an address with host bits that are not all zero. -/
def HasHostBits (ip netmask : String) : Prop :=
  exists k n, k ≤ 32 ∧ n < 2 ^ 32 ∧ netmask = dotted (2 ^ 32 - 2 ^ k) ∧ ip = dotted n ∧
    n % 2 ^ k ≠ 0

/-- The test of the loops: the number of the address is not the one for broadcasts. -/
def IsNotBroadcast (ip netmask : String) : Prop :=
  exists i m, ipNumber ip = some i ∧ ipNumber netmask = some m ∧ i ≠ broadcastOf i m

theorem lastTry_isNotBroadcast {staticOnly ifsDot : Bool} {tries : List AddressTry}
    {t : AddressTry} (h : lastTry staticOnly ifsDot tries = some t) (hstatic : t.ip ≠ "dhcp") :
    IsNotBroadcast t.ip t.netmask := by
  induction tries with
  | nil => cases h
  | cons first rest ih =>
      unfold lastTry at h
      split at h
      next hdhcp =>
        split at h
        · exact ih h
        · cases h
          exact absurd hdhcp hstatic
      next =>
        split at h
        · cases h
        · split at h
          next ip netmask hip hmask =>
            split at h
            next hvalid =>
              cases h
              exact ⟨ip, netmask, hip, hmask, hvalid⟩
            next => exact ih h
          next => cases h

theorem broadcastOf_containing {n k : Nat} (hn : n < 2 ^ 32) (hk : k ≤ 32) :
    broadcastOf (BitVec.ofNat 64 n) (BitVec.ofNat 64 (2 ^ 32 - 2 ^ k)) =
      BitVec.ofNat 64 (Subnet.containing n k hn hk).broadcast := by
  have hlow : (Subnet.containing n k hn hk).base ≤ n := Subnet.base_containing_le
  rcases network_numbers hlow Subnet.le_broadcast_containing (s := Globals.initial false)
    rfl with ⟨s, hnet, _, hbcast⟩
  rw [ipNetmaskToNetwork_dotted hn (Subnet.mask_lt _) rfl] at hnet
  cases hnet
  exact hbcast

theorem isUsable_iff {ip netmask : String} (h : IsNotBroadcast ip netmask) :
    IsUsable ip netmask <-> HasHostBits ip netmask := by
  constructor
  · intro husable
    rcases husable with ⟨net, n, hn, rfl, rfl⟩
    exact ⟨net.hostBits, n, net.hostBits_le, hn.lt, rfl, rfl, hn.hostBits_ne⟩
  · intro hbits
    rcases hbits with ⟨k, n, hk, hn, rfl, rfl, hhost⟩
    rcases h with ⟨i, m, hi, hm, hne⟩
    rw [ipNumber_dotted hn] at hi
    rw [ipNumber_dotted (by omega)] at hm
    cases hi
    cases hm
    rw [broadcastOf_containing hn hk] at hne
    refine ⟨Subnet.containing n k hn hk, n, ⟨?_, ?_⟩, rfl, rfl⟩
    · have hle : n % 2 ^ k ≤ n := Nat.mod_le n _
      show n - n % 2 ^ k < n
      omega
    · apply lt_of_le_of_ne Subnet.le_broadcast_containing
      exact fun heq => hne (congrArg (BitVec.ofNat 64) heq)

/-!
## What the loops let out
-/

theorem EndsWith.onlyUsable_iff {x : Outcome Globals} {ip netmask : Globals -> String}
    {last : Option AddressTry} (h : EndsWith x ip netmask last) :
    OnlyUsable x ip netmask <->
      forall t, last = some t -> t.ip ≠ "dhcp" -> IsUsable t.ip t.netmask := by
  cases last with
  | none =>
      constructor
      · exact fun _ t ht => nomatch ht
      · exact fun _ s hdone => absurd hdone (h s)
  | some t =>
      rcases h with ⟨s, hdone, hip, hnetmask⟩
      constructor
      · intro honly other hother hstatic
        cases hother
        have husable := honly s hdone (hip ▸ hstatic)
        rwa [hip, hnetmask hstatic] at husable
      · intro hlast s' hdone' hstatic
        cases hdone.symm.trans hdone'
        rw [hip] at hstatic
        rw [hip, hnetmask hstatic]
        exact hlast t rfl hstatic

/-- A round that passes the test of a loop has a contiguous mask and host bits. -/
def PassesWithHostBits (staticOnly : Bool) (tries : List AddressTry) (s : Globals) : Prop :=
  forall t, lastTry staticOnly s.numbers.ifsDot tries = some t -> t.ip ≠ "dhcp" ->
    HasHostBits t.ip t.netmask

theorem EndsWith.onlyUsable_iff_hasHostBits {x : Outcome Globals}
    {ip netmask : Globals -> String} {staticOnly : Bool} {tries : List AddressTry}
    {s : Globals} (h : EndsWith x ip netmask (lastTry staticOnly s.numbers.ifsDot tries)) :
    OnlyUsable x ip netmask <-> PassesWithHostBits staticOnly tries s := by
  rw [h.onlyUsable_iff]
  constructor
  · intro husable t ht hstatic
    exact (isUsable_iff (lastTry_isNotBroadcast ht hstatic)).mp (husable t ht hstatic)
  · intro hbits t ht hstatic
    exact (isUsable_iff (lastTry_isNotBroadcast ht hstatic)).mpr (hbits t ht hstatic)

/--
The loops let out usable addresses only when the round that passes their test has a
contiguous mask and an address that is not the one of its network.
-/
theorem loops_onlyUsable_iff (ntag : NicTag) (tries : List AddressTry) (s : Globals) :
    (OnlyUsable (promptAdminIp tries s) (·.admin.ip) (·.admin.netmask) <->
      PassesWithHostBits true tries s) ∧
    (OnlyUsable (promptAdminIpOrDhcp tries s) (·.admin.ip) (·.admin.netmask) <->
      PassesWithHostBits false tries s) ∧
    (OnlyUsable (promptTagIp ntag tries s) (fun s => valueOf (s.nictags ntag).ip)
        (fun s => valueOf (s.nictags ntag).netmask) <->
      PassesWithHostBits false tries s) :=
  ⟨(promptAdminIp_endsWith tries s).onlyUsable_iff_hasHostBits,
    (promptAdminIpOrDhcp_endsWith tries s).onlyUsable_iff_hasHostBits,
    (promptTagIp_endsWith ntag tries s).onlyUsable_iff_hasHostBits⟩

/-- The address of a network passes for one of a host. -/
theorem network_address_is_let_out :
    ¬ OnlyUsable (promptAdminIp [⟨"10.0.0.0", "255.255.255.0", ""⟩] (.initial false))
      (·.admin.ip) (·.admin.netmask) := by
  intro honly
  have hlast : lastTry true false [⟨"10.0.0.0", "255.255.255.0", ""⟩] =
      some ⟨"10.0.0.0", "255.255.255.0", ""⟩ := by
    have hip : ipNumber "10.0.0.0" = some 167772160 := by decide +kernel
    have hmask : ipNumber "255.255.255.0" = some 4294967040 := by decide +kernel
    simp [lastTry, hip, hmask, broadcastOf]
  have hbits := (promptAdminIp_endsWith _ _).onlyUsable_iff_hasHostBits.mp honly _ hlast
    (by decide)
  rcases hbits with ⟨k, n, hk, hn, hmask, hip, hne⟩
  have hpow := Nat.two_pow_pos k
  have hip' : dotted 167772160 = dotted n := by
    rw [← hip]
    decide +kernel
  have hmask' : dotted 4294967040 = dotted (2 ^ 32 - 2 ^ k) := by
    rw [← hmask]
    decide +kernel
  have hn' := dotted_injective (by omega) hn hip'
  have hsize := dotted_injective (by omega) (by omega) hmask'
  have hle : 2 ^ k ≤ 2 ^ 32 := Nat.pow_le_pow_right (by decide) hk
  rw [← hn', show 2 ^ k = 256 by omega] at hne
  exact hne rfl

end Installer
end EsdcFactory
