import EsdcFactory.Installer.Globals
import EsdcFactory.Lib.Outcome

/-!
# Addresses of the installer

The functions that turn addresses into numbers and back.  They leave their
results in global variables, and an address whose fields bash cannot read as
numbers breaks off the command that they were called from.
-/

namespace EsdcFactory
namespace Installer

open BashArith

/-!
## Numbers of addresses
-/

/-- The number of an address, where bash can read its first four fields. -/
def ipNumber (ip : String) : Option Word := do
  let fields := splitFields '.' ip.toList
  let numA <- operand (fields.getD 0 [])
  let numB <- operand (fields.getD 1 [])
  let numC <- operand (fields.getD 2 [])
  let numD <- operand (fields.getD 3 [])
  return (numA <<< 24) + (numB <<< 16) + (numC <<< 8) + numD

/-- The fields that `ip_to_num` shifts, while `IFS` is set to a dot, are numbers. -/
def shiftsFields (ip : String) : Bool :=
  ((splitFields '.' ip.toList ++ [[], [], []]).take 3).all fun field =>
    (operand field).isSome

/-- `ip_to_num`, which sets `IFS` back before it looks at the last field. -/
def ipToNum (ip : String) (s : Globals) : Outcome Globals :=
  match ipNumber ip with
  | some num => .done { s with numbers.num := num }
  | none =>
      .aborted { s with numbers.ifsDot := s.numbers.ifsDot || !shiftsFields ip }

/-- Four numbers with dots between them. -/
def dots (a b c d : String) : String :=
  a ++ "." ++ b ++ "." ++ c ++ "." ++ d

/-- The address for a number, as `num_to_ip` prints it. -/
def printedIp (n : Word) : String :=
  dots (toString (n.sshiftRight 24).toInt)
    (toString (n.sshiftRight 16 &&& 255).toInt)
    (toString (n.sshiftRight 8 &&& 255).toInt)
    (toString (n &&& 255).toInt)

/-- `num_to_ip` -/
def numToIp (n : Word) (s : Globals) : Globals :=
  { s with ipAddr := printedIp n }

/--
`ip_netmask_to_network`.  Its arguments are not quoted, so with `IFS` set to a
dot `ip_to_num` is handed the fields of an address and finds no second one.
-/
def ipNetmaskToNetwork (ip netmask : String) (s : Globals) : Outcome Globals :=
  if s.numbers.ifsDot then .aborted s
  else
    (ipToNum ip s).bind fun s =>
    let s := { s with numbers.ipNum := s.numbers.num }
    (ipToNum netmask s).bind fun s =>
    let s := { s with numbers.nmNum := s.numbers.num }
    let s := { s with numbers.netNum := s.numbers.nmNum &&& s.numbers.ipNum }
    (ipToNum "255.255.255.255" s).bind fun s =>
    let bcasthost := ~~~ s.numbers.nmNum &&& s.numbers.num
    .done { s with numbers.bcastAddr := s.numbers.netNum + bcasthost }

/-- `compute_def_gw` and what is then left in `val` -/
def computeDefGw (ip netmask : String) (s : Globals)
    (withVal : String -> Globals -> Globals) : Outcome Globals :=
  (ipNetmaskToNetwork ip netmask s).bind fun s =>
  .done (withVal (printedIp (s.numbers.netNum + 1)) s)

/--
`ip_from_subnet`, followed by what is done for an address from the subnet or for
another one.  No address at all counts as one from the subnet.
-/
def ipFromSubnet (myip net mask : String) (s : Globals)
    (fromSubnet other : Globals -> Outcome Globals) : Outcome Globals :=
  if myip = "none" then fromSubnet s
  else
    (ipNetmaskToNetwork net mask s).bind fun s =>
    (ipToNum myip s).bind fun s =>
    if s.numbers.netNum.slt s.numbers.num &&
        s.numbers.num.slt s.numbers.bcastAddr then fromSubnet s
    else other s

/-- `prompt_ip_from_subnet`, and what is done with the address -/
def promptIpFromSubnet (net mask : String)
    (withVal : String -> Globals -> Globals) :
    List String -> Globals -> Outcome Globals
  | [], _ => .waiting
  | val :: rest, s =>
      ipFromSubnet val net mask s (fun s => .done (withVal val s))
        (promptIpFromSubnet net mask withVal rest)

/-!
## What the address functions leave alone
-/

/-- Only the numbers and `IFS` were changed. -/
def NumbersOnly (s s' : Globals) : Prop :=
  exists numbers, s' = { s with numbers := numbers }

theorem NumbersOnly.refl (s : Globals) : NumbersOnly s s :=
  ⟨s.numbers, rfl⟩

theorem NumbersOnly.trans {s s' s'' : Globals} (h : NumbersOnly s s')
    (h' : NumbersOnly s' s'') : NumbersOnly s s'' := by
  rcases h with ⟨_, rfl⟩
  rcases h' with ⟨numbers, rfl⟩
  exact ⟨numbers, rfl⟩

theorem ipToNum_numbersOnly (ip : String) (s : Globals) :
    (ipToNum ip s).All (NumbersOnly s) := by
  unfold ipToNum
  cases ipNumber ip with
  | some num =>
      simp only [Outcome.all_done]
      exact ⟨_, rfl⟩
  | none =>
      simp only [Outcome.all_aborted]
      exact ⟨_, rfl⟩

theorem ipNetmaskToNetwork_numbersOnly (ip netmask : String) (s : Globals) :
    (ipNetmaskToNetwork ip netmask s).All (NumbersOnly s) := by
  unfold ipNetmaskToNetwork
  split
  · exact Outcome.all_aborted.mpr (NumbersOnly.refl s)
  · apply (ipToNum_numbersOnly ip s).bind
    intro s1 h1
    apply Outcome.All.bind
    · intro s2 h2
      exact (h1.trans ⟨_, rfl⟩).trans (ipToNum_numbersOnly netmask _ s2 h2)
    · intro s2 h2
      apply Outcome.All.bind
      · intro s3 h3
        exact (h2.trans ⟨_, rfl⟩).trans (ipToNum_numbersOnly _ _ s3 h3)
      · intro s3 h3
        exact Outcome.all_done.mpr (h3.trans ⟨_, rfl⟩)

/-!
## Networks
-/

theorem ipNumber_allOnes :
    ipNumber "255.255.255.255" = some (BitVec.ofNat 64 (2 ^ 32 - 1)) := by
  decide +kernel

/-- The broadcast address that is computed for the numbers of an address and a mask. -/
def broadcastOf (ip netmask : Word) : Word :=
  (netmask &&& ip) + (~~~ netmask &&& BitVec.ofNat 64 (2 ^ 32 - 1))

/-- The numbers that `ip_netmask_to_network` leaves behind. -/
def withNetwork (ip netmask : Word) (s : Globals) : Globals :=
  { s with numbers := { s.numbers with
      num := BitVec.ofNat 64 (2 ^ 32 - 1)
      ipNum := ip
      nmNum := netmask
      netNum := netmask &&& ip
      bcastAddr := broadcastOf ip netmask } }

@[simp] theorem withNetwork_ipNum (ip netmask : Word) (s : Globals) :
    (withNetwork ip netmask s).numbers.ipNum = ip := rfl

@[simp] theorem withNetwork_bcastAddr (ip netmask : Word) (s : Globals) :
    (withNetwork ip netmask s).numbers.bcastAddr = broadcastOf ip netmask := rfl

/-- `ip_netmask_to_network` finishes exactly on an address and a mask it can read. -/
theorem ipNetmaskToNetwork_done_iff {ip netmask : String} {s s' : Globals} :
    ipNetmaskToNetwork ip netmask s = .done s' <->
      s.numbers.ifsDot = false ∧ exists i m, ipNumber ip = some i ∧
        ipNumber netmask = some m ∧ s' = withNetwork i m s := by
  unfold ipNetmaskToNetwork ipToNum
  by_cases hifs : s.numbers.ifsDot = true
  · simp [hifs]
  · rw [if_neg hifs]
    cases hip : ipNumber ip with
    | none => simp
    | some i =>
        cases hmask : ipNumber netmask with
        | none => simp
        | some m =>
            simp only [Outcome.bind_done, ipNumber_allOnes, Option.some.injEq,
              Outcome.done.injEq]
            constructor
            · intro h
              exact ⟨by simpa using hifs, i, m, rfl, rfl, h.symm⟩
            · intro hparts
              rcases hparts with ⟨_, _, _, rfl, rfl, rfl⟩
              rfl

/-!
## Dotted quads
-/

/-- The dotted quad of a 32-bit address. -/
def dotted (n : Nat) : String :=
  dots (toString (n / 2 ^ 24)) (toString (n / 2 ^ 16 % 256))
    (toString (n / 2 ^ 8 % 256)) (toString (n % 256))

theorem octet_text : forall o : Nat, o < 256 ->
    operand (toString o).toList = some (BitVec.ofNat 64 o) ∧
      '.' ∉ (toString o).toList ∧ (toString o).toList ≠ [] := by
  have hdigits : forall o : Nat, o < 256 ->
      operand (Nat.toDigits 10 o) = some (BitVec.ofNat 64 o) ∧
        '.' ∉ Nat.toDigits 10 o ∧ Nat.toDigits 10 o ≠ [] := by
    decide +kernel
  intro o ho
  have htext : (toString o).toList = Nat.toDigits 10 o := Nat.toList_repr
  rw [htext]
  exact hdigits o ho

theorem splitFields_dots {a b c d : String} (ha : '.' ∉ a.toList)
    (hb : '.' ∉ b.toList) (hc : '.' ∉ c.toList) (hd : '.' ∉ d.toList)
    (hne : d.toList ≠ []) :
    splitFields '.' (dots a b c d).toList =
      [a.toList, b.toList, c.toList, d.toList] := by
  have hlist : (dots a b c d).toList =
      a.toList ++ '.' :: (b.toList ++ '.' :: (c.toList ++ '.' :: d.toList)) := by
    simp [dots]
  rw [hlist, splitFields_append_sep ha, splitFields_append_sep hb,
    splitFields_append_sep hc, splitFields_last hd hne]

theorem ipNumber_dotted {n : Nat} (h : n < 2 ^ 32) :
    ipNumber (dotted n) = some (BitVec.ofNat 64 n) := by
  rcases octet_text (n / 2 ^ 24) (by omega) with ⟨ha, hadot, _⟩
  rcases octet_text (n / 2 ^ 16 % 256) (by omega) with ⟨hb, hbdot, _⟩
  rcases octet_text (n / 2 ^ 8 % 256) (by omega) with ⟨hc, hcdot, _⟩
  rcases octet_text (n % 256) (by omega) with ⟨hd, hddot, hdne⟩
  unfold ipNumber dotted
  rw [splitFields_dots hadot hbdot hcdot hddot hdne]
  simp only [List.getD_cons_zero, List.getD_cons_succ, ha, hb, hc, hd,
    Option.bind_eq_bind, Option.bind_some, Option.pure_def, Option.some.injEq]
  apply BitVec.eq_of_toNat_eq
  simp only [BitVec.toNat_add, BitVec.toNat_shiftLeft, BitVec.toNat_ofNat,
    Nat.shiftLeft_eq]
  omega

theorem dotted_injective {m n : Nat} (hm : m < 2 ^ 32) (hn : n < 2 ^ 32)
    (h : dotted m = dotted n) : m = n := by
  have hnum := ipNumber_dotted hm
  rw [h, ipNumber_dotted hn, Option.some.injEq] at hnum
  have hnat := congrArg BitVec.toNat hnum
  simp only [BitVec.toNat_ofNat] at hnat
  omega

theorem toInt_sshiftRight {n : Nat} (h : n < 2 ^ 32) (k : Nat) :
    ((BitVec.ofNat 64 n).sshiftRight k).toInt = (n / 2 ^ k : Nat) := by
  have hpos : (BitVec.ofNat 64 n).toInt = n := by
    rw [BitVec.toInt_eq_toNat_of_lt (by simp only [BitVec.toNat_ofNat]; omega)]
    simp only [BitVec.toNat_ofNat]
    omega
  rw [BitVec.toInt_sshiftRight, hpos, Int.shiftRight_eq_div_pow]
  norm_cast

theorem toInt_and_255 (w : Word) : (w &&& 255).toInt = (w.toNat % 256 : Nat) := by
  have hnat : (w &&& 255).toNat = w.toNat % 256 := by
    rw [BitVec.toNat_and]
    exact Nat.and_two_pow_sub_one_eq_mod w.toNat 8
  rw [BitVec.toInt_eq_toNat_of_lt (by omega), hnat]

theorem printedIp_ofNat {n : Nat} (h : n < 2 ^ 32) :
    printedIp (BitVec.ofNat 64 n) = dotted n := by
  have hshift : forall k, ((BitVec.ofNat 64 n).sshiftRight k).toNat = n / 2 ^ k := by
    intro k
    have hint := toInt_sshiftRight h k
    have hle : n / 2 ^ k ≤ n := Nat.div_le_self n _
    generalize n / 2 ^ k = m at hint hle
    have hlt := ((BitVec.ofNat 64 n).sshiftRight k).isLt
    rw [BitVec.toInt_eq_toNat_cond] at hint
    split at hint <;> omega
  unfold printedIp dotted
  rw [toInt_sshiftRight h 24, toInt_and_255, toInt_and_255, toInt_and_255,
    hshift, hshift, BitVec.toNat_ofNat,
    Nat.mod_eq_of_lt (show n < 2 ^ 64 by omega)]
  rfl

end Installer
end EsdcFactory
