import Mathlib.Data.List.GetD
import Mathlib.Data.List.Infix

/-!
# Discovery of the configuration database

`cfgdb_discovery.c` broadcasts a request and looks at up to six datagrams for a
reply.  All of them are received into one buffer, which is hardly cleared in
between, and what is compared with the beginning of a reply is the buffer.
-/

namespace EsdcFactory
namespace Cfgdb

/-!
## Bytes and strings of C
-/

abbrev Byte := UInt8

def asBytes (text : String) : List Byte :=
  text.toList.map fun c => c.toNat.toUInt8

/-- `strncmp` finds no difference: it stops behind `n` bytes or at a common `NUL`. -/
def strncmpEqual : Nat -> List Byte -> List Byte -> Bool
  | 0, _, _ => true
  | n + 1, a :: s, b :: t => a = b && (a = 0 || strncmpEqual n s t)
  | _ + 1, _, _ => false

theorem strncmpEqual_length_iff {s t : List Byte} (h : 0 ∉ s) :
    strncmpEqual s.length s t = true <-> s <+: t := by
  induction s generalizing t with
  | nil => simp [strncmpEqual]
  | cons a s ih =>
      have ha : a ≠ 0 := fun heq => h (heq ▸ List.mem_cons_self)
      have hs : 0 ∉ s := fun hmem => h (List.mem_cons_of_mem a hmem)
      cases t with
      | nil => simp [strncmpEqual]
      | cons b t =>
          simp [strncmpEqual, ha, ih hs, List.cons_prefix_cons]

theorem isPrefix_iff_getD {s t : List Byte} (h : s.length ≤ t.length) :
    s <+: t <-> forall j, j < s.length -> t.getD j 0 = s.getD j 0 := by
  rw [List.prefix_iff_getElem?]
  constructor
  · intro hget j hj
    simp [List.getD_eq_getElem?_getD, hget j hj, hj]
  · intro hget j hj
    have hjt : j < t.length := Nat.lt_of_lt_of_le hj h
    have hbyte := hget j hj
    rw [List.getD_eq_getElem _ _ hjt, List.getD_eq_getElem _ _ hj] at hbyte
    rw [List.getElem?_eq_getElem hjt, hbyte]

/-!
## The client
-/

/-- `BUFLEN` -/
def bufLen : Nat := 100

/-- `REPLY_STRING` -/
def replyString : List Byte := asBytes "cfgdb_reply:"

/-- `DISCO_STRING` -/
def discoString : List Byte := asBytes "cfgdb_discovery"

/-- The receive buffer `buf`. -/
structure Buffer where
  bytes : List Byte
  size : bytes.length = bufLen

namespace Buffer

def byte (buf : Buffer) (j : Nat) : Byte := buf.bytes.getD j 0

/-- `memset(&buf, 0, sizeof(BUFLEN))`, where `BUFLEN` is an `int`. -/
def memset (buf : Buffer) : Buffer where
  bytes := List.replicate 4 0 ++ buf.bytes.drop 4
  size := by simp [buf.size, bufLen]

/-- `recvfrom`, which cuts a datagram off at the end of the buffer. -/
def recvfrom (data : List Byte) (buf : Buffer) : Buffer where
  bytes := data.take bufLen ++ buf.bytes.drop (data.take bufLen).length
  size := by
    simp only [List.length_append, List.length_drop, buf.size, List.length_take]
    omega

/-- `!strncmp(REPLY_STRING, buf, strnlen(REPLY_STRING, BUFLEN))` -/
def isAccepted (buf : Buffer) : Bool :=
  strncmpEqual replyString.length replyString buf.bytes

end Buffer

variable {Address : Type}

/-- What a call of `recvfrom` ends with, unless it times out. -/
inductive Reception (Address : Type) where
  | datagram (data : List Byte) (source : Address)
  | failed

/-- How the client ends. -/
inductive Exit (Address : Type) where
  | found (source : Address)
  | notFound
  | died
  deriving DecidableEq

/-- The loop over at most so many datagrams.  It times out when there are no more. -/
def listen : Nat -> Buffer -> List (Reception Address) -> Exit Address
  | 0, _, _ => .notFound
  | _ + 1, _, [] => .notFound
  | _ + 1, _, .failed :: _ => .died
  | n + 1, buf, .datagram data source :: rest =>
      let buf := buf.memset.recvfrom data
      if buf.isAccepted then .found source else listen n buf rest

/-- `main`, from the datagrams that follow the broadcast. -/
def discover (buf : Buffer) (receptions : List (Reception Address)) : Exit Address :=
  listen 6 buf receptions

/-- Which of the datagrams that the loop looks at are accepted. -/
def decisions : Nat -> Buffer -> List (Reception Address) -> List Bool
  | n + 1, buf, .datagram data _ :: rest =>
      let buf := buf.memset.recvfrom data
      if buf.isAccepted then [true] else false :: decisions n buf rest
  | _, _, _ => []

/-!
## The server
-/

/-- `cfgdb_disco_server.py` on one packet, given the name of the datacenter. -/
def serverAnswer (dcName data : List Byte) : Option (List Byte) :=
  if discoString <+: data then some (replyString ++ dcName) else none

/-!
## What the client is meant to do
-/

def IsReply (data : List Byte) : Prop := replyString <+: data

instance (data : List Byte) : Decidable (IsReply data) :=
  inferInstanceAs (Decidable (_ <+: _))

/-- The source of the first reply among so many datagrams. -/
def firstReply : Nat -> List (Reception Address) -> Exit Address
  | 0, _ => .notFound
  | _ + 1, [] => .notFound
  | _ + 1, .failed :: _ => .died
  | n + 1, .datagram data source :: rest =>
      if IsReply data then .found source else firstReply n rest

/-- Which of these datagrams are replies. -/
def replies : Nat -> List (Reception Address) -> List Bool
  | n + 1, .datagram data _ :: rest =>
      if IsReply data then [true] else false :: replies n rest
  | _, _ => []

theorem serverAnswer_isReply (dcName : List Byte) :
    (serverAnswer dcName discoString).all IsReply ∧ ¬ IsReply discoString := by
  constructor
  · simp [serverAnswer, IsReply]
  · decide

/-!
## Bytes that are left in the buffer
-/

/--
The byte that earlier datagrams, the latest of them first, leave at a place: that
of the latest one that is long enough, and else what was there at first.
-/
def staleByte (initial : Buffer) : List (List Byte) -> Nat -> Byte
  | [], j => initial.byte j
  | data :: earlier, j =>
      if j < data.length then data.getD j 0 else staleByte initial earlier j

/--
A short datagram that bytes left behind by others complete to a reply.  The first
four bytes of the buffer are cleared, so it has at least these.
-/
structure Completed (initial : Buffer) (earlier : List (List Byte))
    (data : List Byte) : Prop where
  begins : data <+: replyString
  reaches : 4 ≤ data.length
  ends : data.length < replyString.length
  stale : forall j, data.length ≤ j -> j < replyString.length ->
    staleByte initial earlier j = replyString.getD j 0

namespace Buffer

theorem byte_memset (buf : Buffer) (j : Nat) :
    buf.memset.byte j = if j < 4 then 0 else buf.byte j := by
  unfold byte memset
  simp only [List.getD_eq_getElem?_getD]
  split
  · rename_i hj
    rw [List.getElem?_append_left (by simpa using hj), List.getElem?_replicate,
      if_pos hj]
    rfl
  · rename_i hj
    rw [List.getElem?_append_right (by simpa using hj), List.getElem?_drop]
    have hindex : 4 + (j - (List.replicate 4 (0 : Byte)).length) = j := by
      rw [List.length_replicate]
      omega
    rw [hindex]

theorem byte_recvfrom (data : List Byte) (buf : Buffer) {j : Nat} (h : j < bufLen) :
    (buf.recvfrom data).byte j = if j < data.length then data.getD j 0 else buf.byte j := by
  unfold byte recvfrom
  simp only [List.getD_eq_getElem?_getD]
  split
  · rename_i hj
    rw [List.getElem?_append_left (by rw [List.length_take]; omega),
      List.getElem?_take_of_lt h]
  · rename_i hj
    rw [List.getElem?_append_right (by rw [List.length_take]; omega),
      List.getElem?_drop]
    have hindex : (data.take bufLen).length + (j - (data.take bufLen).length) = j := by
      rw [List.length_take]
      omega
    rw [hindex]

theorem isAccepted_iff (buf : Buffer) :
    buf.isAccepted = true <->
      forall j, j < replyString.length -> buf.byte j = replyString.getD j 0 := by
  unfold isAccepted
  rw [strncmpEqual_length_iff (by decide), isPrefix_iff_getD]
  · rfl
  · rw [buf.size]
    decide

/-- The buffer holds what earlier datagrams left, where it is not cleared. -/
def Holds (initial : Buffer) (earlier : List (List Byte)) (buf : Buffer) : Prop :=
  forall j, 4 ≤ j -> j < bufLen -> buf.byte j = staleByte initial earlier j

theorem Holds.recvfrom {initial buf : Buffer} {earlier : List (List Byte)}
    (h : Holds initial earlier buf) (data : List Byte) :
    Holds initial (data :: earlier) (buf.memset.recvfrom data) := by
  intro j hlow hhigh
  rw [byte_recvfrom data _ hhigh, byte_memset, if_neg (Nat.not_lt.mpr hlow), h j hlow hhigh]
  rfl

theorem Holds.isAccepted_iff {initial buf : Buffer} {earlier : List (List Byte)}
    (h : Holds initial earlier buf) (data : List Byte) :
    (buf.memset.recvfrom data).isAccepted = true <->
      IsReply data ∨ Completed initial earlier data := by
  have hlen : replyString.length = 12 := rfl
  have hnul : forall j, j < replyString.length -> replyString.getD j 0 ≠ 0 := by decide
  have hbyte : forall j, j < replyString.length ->
      (buf.memset.recvfrom data).byte j =
        if j < data.length then data.getD j 0
        else if j < 4 then 0 else staleByte initial earlier j := by
    intro j hj
    have hbuf : j < bufLen := Nat.lt_trans hj (by decide)
    rw [byte_recvfrom data _ hbuf, byte_memset]
    split
    · rfl
    · split
      · rfl
      · rename_i hlow
        exact h j (Nat.not_lt.mp hlow) hbuf
  rw [Buffer.isAccepted_iff]
  constructor
  · intro hall
    have hdata : forall j, j < replyString.length -> j < data.length ->
        data.getD j 0 = replyString.getD j 0 := by
      intro j hj hlt
      rw [← hall j hj, hbyte j hj, if_pos hlt]
    by_cases hlong : replyString.length ≤ data.length
    · apply Or.inl
      rw [IsReply, isPrefix_iff_getD hlong]
      intro j hj
      exact hdata j hj (Nat.lt_of_lt_of_le hj hlong)
    · have hshort : data.length < replyString.length := Nat.not_le.mp hlong
      have hrest : forall j, data.length ≤ j -> j < replyString.length ->
          (if j < 4 then 0 else staleByte initial earlier j) = replyString.getD j 0 := by
        intro j hle hj
        rw [← hall j hj, hbyte j hj, if_neg (Nat.not_lt.mpr hle)]
      have hreach : 4 ≤ data.length := by
        by_contra hlow
        have hzero := hrest data.length (Nat.le_refl _) hshort
        rw [if_pos (Nat.not_le.mp hlow)] at hzero
        exact hnul _ hshort hzero.symm
      apply Or.inr
      constructor
      · rw [isPrefix_iff_getD (Nat.le_of_lt hshort)]
        intro j hj
        exact (hdata j (Nat.lt_trans hj hshort) hj).symm
      · exact hreach
      · exact hshort
      · intro j hle hj
        have hstale := hrest j hle hj
        rwa [if_neg (Nat.not_lt.mpr (Nat.le_trans hreach hle))] at hstale
  · intro hparts j hj
    rcases hparts with hreply | hcompleted
    · have hlong : replyString.length ≤ data.length := hreply.length_le
      rw [hbyte j hj, if_pos (Nat.lt_of_lt_of_le hj hlong)]
      exact (isPrefix_iff_getD hlong).mp hreply j hj
    · rw [hbyte j hj]
      split
      · rename_i hlt
        exact ((isPrefix_iff_getD (Nat.le_of_lt hcompleted.ends)).mp
          hcompleted.begins j hlt).symm
      · rename_i hge
        have hle : data.length ≤ j := Nat.not_lt.mp hge
        rw [if_neg (Nat.not_lt.mpr (Nat.le_trans hcompleted.reaches hle))]
        exact hcompleted.stale j hle hj

end Buffer

/-!
## Runs of the client
-/

def received (datagrams : List (List Byte × Address)) : List (Reception Address) :=
  datagrams.map fun (data, source) => .datagram data source

/--
One of the first datagrams, with no reply before it, is completed to a reply by
what was in the buffer at first and what the datagrams before it left there.
-/
def IsDeceived (n : Nat) (initial : Buffer) (earlier : List (List Byte))
    (receptions : List (Reception Address)) : Prop :=
  exists before data source after,
    receptions = received before ++ .datagram data source :: after ∧
    before.length < n ∧ (forall d, d ∈ before -> ¬ IsReply d.1) ∧
    Completed initial ((before.map Prod.fst).reverse ++ earlier) data

theorem Completed.not_isReply {initial : Buffer} {earlier : List (List Byte)}
    {data : List Byte} (h : Completed initial earlier data) : ¬ IsReply data := by
  intro hreply
  exact Nat.not_le.mpr h.ends hreply.length_le

theorem not_isDeceived_zero {initial : Buffer} {earlier : List (List Byte)}
    {receptions : List (Reception Address)} :
    ¬ IsDeceived 0 initial earlier receptions := by
  intro h
  rcases h with ⟨_, _, _, _, _, hlen, _⟩
  cases hlen

theorem not_isDeceived_nil {n : Nat} {initial : Buffer} {earlier : List (List Byte)} :
    ¬ IsDeceived n initial earlier ([] : List (Reception Address)) := by
  intro h
  rcases h with ⟨before, _, _, _, heq, _⟩
  cases before <;> cases heq

theorem not_isDeceived_failed {n : Nat} {initial : Buffer} {earlier : List (List Byte)}
    {rest : List (Reception Address)} :
    ¬ IsDeceived n initial earlier (.failed :: rest) := by
  intro h
  rcases h with ⟨before, _, _, _, heq, _⟩
  cases before <;> cases heq

theorem isDeceived_datagram_iff {n : Nat} {initial : Buffer}
    {earlier : List (List Byte)} {data : List Byte} {source : Address}
    {rest : List (Reception Address)} :
    IsDeceived (n + 1) initial earlier (.datagram data source :: rest) <->
      Completed initial earlier data ∨
        (¬ IsReply data ∧ IsDeceived n initial (data :: earlier) rest) := by
  constructor
  · intro h
    rcases h with ⟨before, data', source', after, heq, hlen, hbefore, hcompleted⟩
    cases before with
    | nil =>
        cases heq
        exact Or.inl hcompleted
    | cons first before =>
        cases heq
        apply Or.inr
        constructor
        · exact hbefore first List.mem_cons_self
        · refine ⟨before, data', source', after, rfl, Nat.lt_of_succ_lt_succ hlen, ?_, ?_⟩
          · intro d hd
            exact hbefore d (List.mem_cons_of_mem first hd)
          · simpa using hcompleted
  · intro h
    rcases h with hcompleted | ⟨hnot, before, data', source', after, heq, hlen, hbefore, hlater⟩
    · exact ⟨[], data, source, rest, rfl, Nat.succ_pos n, by simp, hcompleted⟩
    · refine ⟨(data, source) :: before, data', source', after, ?_,
        Nat.succ_lt_succ hlen, ?_, ?_⟩
      · rw [heq]
        rfl
      · intro d hd
        rcases List.mem_cons.mp hd with rfl | hd
        · exact hnot
        · exact hbefore d hd
      · simpa using hlater

/-- The loop does what it is meant to do, on every datagram that it looks at. -/
def Faithful (n : Nat) (buf : Buffer) (receptions : List (Reception Address)) : Prop :=
  listen n buf receptions = firstReply n receptions ∧
    decisions n buf receptions = replies n receptions

theorem faithful_iff {n : Nat} {initial buf : Buffer} {earlier : List (List Byte)}
    (h : Buffer.Holds initial earlier buf)
    (receptions : List (Reception Address)) :
    Faithful n buf receptions <-> ¬ IsDeceived n initial earlier receptions := by
  induction n generalizing buf earlier receptions with
  | zero => simp [Faithful, listen, firstReply, decisions, replies, not_isDeceived_zero]
  | succ n ih =>
      cases receptions with
      | nil => simp [Faithful, listen, firstReply, decisions, replies, not_isDeceived_nil]
      | cons reception rest =>
          cases reception with
          | failed =>
              simp [Faithful, listen, firstReply, decisions, replies,
                not_isDeceived_failed]
          | datagram data source =>
              have hrest := ih (h.recvfrom data) rest
              have haccept := h.isAccepted_iff data
              rw [isDeceived_datagram_iff]
              by_cases hreply : IsReply data
              · have htrue := haccept.mpr (Or.inl hreply)
                have hwhole : ¬ Completed initial earlier data := fun hcompleted =>
                  hcompleted.not_isReply hreply
                simp [Faithful, listen, firstReply, decisions, replies, htrue, hreply,
                  hwhole]
              · by_cases hcompleted : Completed initial earlier data
                · have htrue := haccept.mpr (Or.inr hcompleted)
                  simp [Faithful, decisions, replies, htrue, hreply, hcompleted]
                · have hfalse : (buf.memset.recvfrom data).isAccepted = false := by
                    rw [Bool.eq_false_iff]
                    intro htrue
                    exact (haccept.mp htrue).elim hreply hcompleted
                  simpa [Faithful, listen, firstReply, decisions, replies, hfalse, hreply,
                    hcompleted] using hrest

/--
The client finds the first reply among six datagrams and takes nothing else for
one, exactly when no short datagram is completed to a reply.
-/
theorem discover_faithful_iff (buf : Buffer) (receptions : List (Reception Address)) :
    (discover buf receptions = firstReply 6 receptions ∧
      decisions 6 buf receptions = replies 6 receptions) <->
      ¬ IsDeceived 6 buf [] receptions :=
  faithful_iff (fun _ _ _ => rfl) receptions

/-- The buffer of a client that starts with nothing in it. -/
def zeros : Buffer where
  bytes := List.replicate bufLen 0
  size := List.length_replicate

/-- The rest of one datagram completes the next one, which is no reply. -/
theorem short_datagram_is_completed :
    ¬ forall (buf : Buffer) (receptions : List (Reception String)),
      discover buf receptions = firstReply 6 receptions ∧
        decisions 6 buf receptions = replies 6 receptions := by
  intro h
  have hfound := (h zeros [.datagram (asBytes "....b_reply:") "10.0.0.1",
    .datagram (asBytes "cfgd") "10.0.0.2"]).left
  have hleft : discover zeros [.datagram (asBytes "....b_reply:") "10.0.0.1",
      .datagram (asBytes "cfgd") "10.0.0.2"] = .found "10.0.0.2" := by
    decide +kernel
  have hright : firstReply 6 [.datagram (asBytes "....b_reply:") "10.0.0.1",
      .datagram (asBytes "cfgd") "10.0.0.2"] = .notFound := by
    decide +kernel
  rw [hleft, hright] at hfound
  cases hfound

end Cfgdb
end EsdcFactory
