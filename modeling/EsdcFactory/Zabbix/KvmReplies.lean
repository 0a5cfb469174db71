import EsdcFactory.Lib.BashArith
import EsdcFactory.Zabbix.KvmIostat

/-!
# Whose reply a row is computed from

A line of a socket stays in the variable of the script until another one is taken.  A
row is about its own machine as long as the first line that the script takes is the
reply.
-/

namespace EsdcFactory
namespace Zabbix
namespace KvmIostat

/-- The row is computed from the reply that its machine gave in its poll. -/
def IsOwn (perl : Perl) (polls : List (List Zone)) (row : Row) : Prop :=
  exists zones zone session reply perlScalar, polls[row.poll]? = some zones ∧ zone ∈ zones ∧
    zone.uuid = row.zone ∧ zone.contact = .opened session ∧ session.reply = some reply ∧
    perl.decode reply = some perlScalar ∧
    perl.countersOf perlScalar row.disk = some row.data.counters ∧
    row.data.timestamp = zone.clock

/-- The first line that is not passed over is the reply, or the script waits for one. -/
def Session.StartsWithReply (session : Session) : Prop :=
  match session.taken with
  | some line => session.reply = some line
  | none => session.closed = false

instance (session : Session) : Decidable session.StartsWithReply := by
  unfold Session.StartsWithReply
  cases session.taken <;> infer_instance

/-- Where a disk is shown, the reply comes first. -/
def Zone.Answers (opts : Options) (zone : Zone) : Prop :=
  zone.IsShown opts -> forall session, zone.contact = .opened session -> session.StartsWithReply

/-!
## Rows of a machine
-/

/-- All rows have the property. -/
def RowsAre (P : Row -> Prop) (s : State) : Prop :=
  forall row, row ∈ s.rows -> P row

variable {opts : Options} {P : Row -> Prop}

theorem rowsAre_printStats {row : Row} {s : State} (hs : RowsAre P s) (hrow : P row) :
    (printStats opts row s).All (RowsAre P) := by
  rw [printStats]
  split
  · exact Outcome.all_aborted.mpr hs
  · split
    · exact Outcome.all_done.mpr hs
    · refine Outcome.all_done.mpr ?_
      intro other hother
      rcases List.mem_append.mp hother with hold | hnew
      · exact hs other hold
      · rw [List.mem_singleton.mp hnew]
        exact hrow

theorem rowsAre_visitDisk {poll : Nat} {uuid : String} {clock : Nat}
    {counters : Nat -> Option Counters} {di : Nat}
    (hrow : forall found old, opts.wantsDisk di = true -> counters di = some found ->
      P ⟨poll, uuid, di, ⟨found, clock⟩, old⟩) {s : State} (hs : RowsAre P s) :
    (visitDisk opts poll uuid clock counters di s).All (RowsAre P) := by
  rw [visitDisk]
  split
  · exact Outcome.all_done.mpr hs
  · next hwanted =>
      split
      · exact Outcome.all_aborted.mpr hs
      · next found hfound =>
          refine (rowsAre_printStats hs ?_).bind fun s' hs' => Outcome.all_done.mpr hs'
          exact hrow found _ (by simpa using hwanted) hfound

/-- The rows that a machine adds are about its disks, with the counters that were found. -/
theorem rowsAre_showDisks {perl : Perl} {poll : Nat} {zone : Zone} {s : State}
    (hrow : forall di line perlScalar found old, di < zone.diskCount ->
      opts.wantsDisk di = true -> s.jsonData = some line ->
      perl.decode line = some perlScalar -> perl.countersOf perlScalar di = some found ->
      P ⟨poll, zone.uuid, di, ⟨found, zone.clock⟩, old⟩) (hs : RowsAre P s) :
    (showDisks perl opts poll zone s).All (RowsAre P) := by
  rw [showDisks]
  split
  · exact Outcome.all_aborted.mpr hs
  · next perlScalar hscalar =>
      rcases Option.bind_eq_some_iff.mp hscalar with ⟨line, hline, hdecode⟩
      apply Outcome.All.each _ hs
      intro di hdi s' hs'
      refine rowsAre_visitDisk ?_ hs'
      intro found old hwanted hfound
      exact hrow di line perlScalar found old (List.mem_range.mp hdi) hwanted hline hdecode hfound

/-- A machine that answers adds rows of its own reply only. -/
theorem rowsAre_visitZone {perl : Perl} {polls : List (List Zone)} {poll : Nat}
    {zones : List Zone} {zone : Zone} {s : State} (hzones : polls[poll]? = some zones)
    (hzone : zone ∈ zones) (hwanted : opts.wantsZone zone.uuid = true)
    (h : zone.Answers opts) (hs : RowsAre (IsOwn perl polls) s) :
    (visitZone perl opts poll zone s).All (RowsAre (IsOwn perl polls)) := by
  rw [visitZone]
  split
  · exact Outcome.all_aborted.mpr hs
  · next session hsession =>
      have hshown : forall di, di < zone.diskCount -> opts.wantsDisk di = true ->
          session.StartsWithReply :=
        fun di hdi hdisk => h ⟨hwanted, di, hdi, hdisk⟩ session hsession
      unfold Session.StartsWithReply at hshown
      split
      · next line htaken =>
          rw [htaken] at hshown
          refine rowsAre_showDisks ?_ hs
          intro di line' perlScalar found old hdi hdisk hline hdecode hfound
          cases hline
          exact ⟨zones, zone, session, line, perlScalar, hzones, hzone, rfl, hsession,
            hshown di hdi hdisk, hdecode, hfound, rfl⟩
      · next htaken =>
          rw [htaken] at hshown
          split
          · next hclosed =>
              refine rowsAre_showDisks ?_ hs
              intro di _ _ _ _ hdi hdisk
              rw [hshown di hdi hdisk] at hclosed
              cases hclosed
          · exact Outcome.all_aborted.mpr hs

/--
While each machine of which a disk is shown answers with its reply first, every row is
computed from the reply of its own machine in its own poll.
-/
theorem kvmiostat_rows_own (perl : Perl) (opts : Options) (polls : List (List Zone))
    (h : forall zones, zones ∈ polls -> forall zone, zone ∈ zones -> zone.Answers opts) :
    (kvmiostat perl opts polls).All (RowsAre (IsOwn perl polls)) := by
  apply Outcome.All.each
  · intro poll hpoll s hs
    rcases List.mem_iff_getElem?.mp hpoll with ⟨k, hk⟩
    rw [List.getElem?_zipIdx, Option.map_eq_some_iff] at hk
    rcases hk with ⟨zones, hzones, rfl⟩
    apply Outcome.All.each _ hs
    intro zone hzone s' hs'
    rcases List.mem_filter.mp hzone with ⟨hmem, hwanted⟩
    refine rowsAre_visitZone ?_ hmem hwanted ?_ hs'
    · rw [Nat.zero_add]
      exact hzones
    · exact h zones (List.mem_of_getElem? hzones) zone hmem
  · nofun

/-!
## A socket that is closed early
-/

/-- Whole numbers are all that the counters are made of. -/
def wholeNumbers : Perl where
  decode := Json.read
  number
    | .num text => BashArith.digitsValue 10 text
    | _ => 0

def plainOptions : Options := ⟨none, none, false, false, .kilo⟩

/-- A machine that answers as it should. -/
def answering : Zone where
  uuid := "a"
  diskCount := 1
  clock := 60
  contact := .opened {
    before := ["\x7b\"QMP\": \x7b\x7d\x7d\n".toList, "\x7b\"return\": \x7b\x7d\x7d\n".toList]
    reply := some "\x7b\"return\": [\x7b\"stats\": \x7b\"rd_operations\": 7\x7d\x7d]\x7d\n".toList
    after := []
    closed := true }

/-- A machine that is gone behind the greeting. -/
def leaving : Zone where
  uuid := "b"
  diskCount := 1
  clock := 60
  contact := .opened {
    before := ["\x7b\"QMP\": \x7b\x7d\x7d\n".toList]
    reply := none
    after := []
    closed := true }

theorem kvmiostat_rows_own_answering :
    (kvmiostat wholeNumbers plainOptions [[answering]]).All
      (RowsAre (IsOwn wholeNumbers [[answering]])) := by
  apply kvmiostat_rows_own
  intro zones hzones zone hzone
  rw [List.mem_singleton.mp hzones] at hzone
  rw [List.mem_singleton.mp hzone]
  intro _ session hsession
  cases hsession
  decide +kernel

/-- The disk of the machine that is gone is shown with the counters of the other one. -/
theorem stale_reply_is_shown : ¬ forall perl opts polls,
    (kvmiostat perl opts polls).All (RowsAre (IsOwn perl polls)) := by
  intro h
  have hrun : (kvmiostat wholeNumbers plainOptions [[answering, leaving]]).left.any
      (fun s => s.rows.any fun row => row.zone = "b") = true := by decide +kernel
  rcases (Option.any_eq_true _ _).mp hrun with ⟨s, hs, hany⟩
  rcases List.any_eq_true.mp hany with ⟨row, hrow, hzone⟩
  rcases h wholeNumbers plainOptions [[answering, leaving]] s hs row hrow with
    ⟨zones, zone, session, reply, _, hzones, hmem, hname, hsession, hreply, _⟩
  rw [of_decide_eq_true hzone] at hname
  rw [List.mem_singleton.mp (List.mem_of_getElem? hzones)] at hmem
  rcases List.mem_cons.mp hmem with rfl | hmem
  · exact absurd hname (by decide)
  · rw [List.mem_singleton.mp hmem] at hsession
    cases hsession
    cases hreply

end KvmIostat
end Zabbix
end EsdcFactory
