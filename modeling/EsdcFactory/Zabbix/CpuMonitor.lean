import EsdcFactory.Lib.Words
import Mathlib.Data.List.AList
import Mathlib.Data.List.Infix

/-!
# The monitor of the processors

`vm-cpu-monitor` reads the reports of `prstat`, which has a line for each zone that
runs, and at the end of a report sends what KVM machines used of their processors.  It
takes the machines from a table that is read anew only now and then.
-/

namespace EsdcFactory
namespace Zabbix
namespace CpuMonitor

open Words

/-!
## Machines
-/

/-- A row of `vmadm list`; `vcpus` is zero where nothing is shown. -/
structure Machine where
  uuid : List Char
  type : List Char
  vcpus : Nat

def Machine.isKvm (machine : Machine) : Bool := machine.type = "KVM".toList

abbrev CpuStats := AList fun _ : List Char => Machine

/-- `parse_vmadm` -/
def parseVmadm (rows : List Machine) : CpuStats :=
  rows.foldl (fun stats row => stats.insert row.uuid row) ∅

/-- The KVM machine of a name. -/
def kvmOf (stats : CpuStats) (zone : List Char) : Option Machine :=
  (stats.lookup zone).filter Machine.isKvm

/-- What Perl computes with doubles. -/
structure Numbers where
  /-- `ceil($arg{$1}->{'vcpus'} / $cpu_count * 100)` -/
  cpuPercMax : Nat -> Nat
  /-- `sprintf("%0.2f", (100 * $cpu_perc) / ...)` -/
  share : List Char -> Nat -> List Char

/-!
## Lines
-/

/-- `\s` -/
def isSpace (c : Char) : Bool :=
  c = ' ' || c = '\t' || c = '\n' || c = '\r' || c = '\x0b' || c = '\x0c'

/-- `\w` -/
def isWordChar (c : Char) : Bool := c.isAlphanum || c = '_'

/-- `([\d\.]+)%` -/
def percent (field : List Char) : Option (List Char) :=
  if field.getLast? = some '%' && field.dropLast ≠ [] &&
      field.dropLast.all (fun c => c.isDigit || c = '.') then some field.dropLast
  else none

/--
The match of a line whose whitespace is trimmed, which gives the percentage and the
zone.  A blank is left behind the last field by the end of the line.
-/
def parseLine (line : List Char) : Option (List Char × List Char) :=
  match words isSpace line with
  | [zoneid, nproc, swap, rss, memory, time, cpu, zone] =>
      if (zoneid ++ nproc ++ swap ++ rss).all isWordChar && (percent memory).isSome &&
          time.all (fun c => c.isDigit || c = ':') &&
          zone.all (fun c => isWordChar c || c = '-') && line.getLast?.any isSpace then
        (percent cpu).map fun perc => (perc, zone)
      else none
  | _ => none

/-- `$cpu_perc == 0`, by the number that the text begins with -/
def isZero (perc : List Char) : Bool :=
  (perc.takeWhile Char.isDigit).all (· = '0') &&
    match perc.dropWhile Char.isDigit with
    | '.' :: rest => (rest.takeWhile Char.isDigit).all (· = '0')
    | _ => true

/-- A line, with the time and the table of `vmadm` when it is read. -/
structure Line where
  text : List Char
  date : Nat
  vmadm : List Machine

def Line.has (line : Line) (word : String) : Bool := decide (word.toList <:+: line.text)

/-!
## The script
-/

/-- What is sent of a machine. -/
structure Entry where
  zone : List Char
  date : Nat
  perc : List Char

def Entry.text (entry : Entry) : List Char :=
  entry.zone ++ (" vm.cpu.perc ".toList ++ ((toString entry.date).toList ++
    (' ' :: (entry.perc ++ ['\n']))))

structure Monitor where
  vmadmInterval : Nat
  cpuStats : CpuStats
  data : AList fun _ : List Char => Entry
  sent : List (List Char)

def interval : Nat := 10

def vmadmListInterval : Nat := 60

def start (rows : List Machine) : Monitor := ⟨vmadmListInterval, parseVmadm rows, ∅, []⟩

/-- The branch for the header of a report. -/
def readHeader (rows : List Machine) (m : Monitor) : Monitor :=
  if m.vmadmInterval = 0 then
    { m with cpuStats := parseVmadm rows, vmadmInterval := vmadmListInterval }
  else { m with vmadmInterval := m.vmadmInterval - interval }

/-- `$real_perc`; the script ends where it would divide by zero. -/
def realPerc (nums : Numbers) (perc : List Char) (machine : Machine) : Option (List Char) :=
  if isZero perc then some ['0']
  else if nums.cpuPercMax machine.vcpus = 0 then none
  else some (nums.share perc (nums.cpuPercMax machine.vcpus))

/-- The branch for a zone. -/
def readZone (nums : Numbers) (date : Nat) (perc zone : List Char) (m : Monitor) :
    Option Monitor :=
  match kvmOf m.cpuStats zone with
  | none => some m
  | some machine =>
      (realPerc nums perc machine).map fun shown =>
        { m with data := m.data.insert zone ⟨zone, date, shown⟩ }

/-- A KVM machine that the report did not mention is given nothing to have used. -/
def fillZero (stats : CpuStats) (date : Nat) (data : AList fun _ : List Char => Entry)
    (zone : List Char) : AList fun _ : List Char => Entry :=
  if (kvmOf stats zone).isSome && (data.lookup zone).isNone then
    data.insert zone ⟨zone, date, ['0']⟩
  else data

/-- The branch for the end of a report, where hashes are gone through in an order of their own. -/
def readTotal (order : List (List Char) -> List (List Char)) (date : Nat) (m : Monitor) :
    Monitor :=
  let data := (order m.cpuStats.keys).foldl (fillZero m.cpuStats date) m.data
  { m with
    data := ∅
    sent := m.sent ++
      [(order data.keys).flatMap fun zone => ((data.lookup zone).map Entry.text).getD []] }

def readLine (nums : Numbers) (order : List (List Char) -> List (List Char)) (m : Monitor)
    (line : Line) : Option Monitor :=
  if line.has "ZONEID" then some (readHeader line.vmadm m)
  else if line.has "global" then some m
  else if line.has "Total" then some (readTotal order line.date m)
  else
    match parseLine line.text with
    | none => some m
    | some (perc, zone) => readZone nums line.date perc zone m

def run (nums : Numbers) (order : List (List Char) -> List (List Char)) (m : Monitor)
    (lines : List Line) : Option Monitor :=
  lines.foldlM (readLine nums order) m

/-!
## What the monitor is for
-/

/-- A report of `prstat`: its header, any lines, and the line of the totals. -/
structure Report where
  zoneid : Line
  lines : List Line
  total : Line
  isZoneid : zoneid.has "ZONEID" = true
  isTotal : total.has "ZONEID" = false ∧ total.has "global" = false ∧ total.has "Total" = true
  isBody : forall line, line ∈ lines -> line.has "ZONEID" = false ∧ line.has "Total" = false

def Report.all (report : Report) : List Line :=
  report.zoneid :: (report.lines ++ [report.total])

/-- What a line says of a zone, and when it was read. -/
def Line.told (zone : List Char) (line : Line) : Option (List Char × Nat) :=
  if line.has "global" then none
  else
    (parseLine line.text).bind fun x => if x.2 = zone then some (x.1, line.date) else none

/-- The last of what some lines say of a zone. -/
def lastOf (lines : List Line) (zone : List Char) : Option (List Char × Nat) :=
  lines.reverse.findSome? (Line.told zone)

def shownPerc (nums : Numbers) (perc : List Char) (machine : Machine) : List Char :=
  if isZero perc then ['0'] else nums.share perc (nums.cpuPercMax machine.vcpus)

/-- What is due of a KVM machine at the end of a report. -/
def due (nums : Numbers) (stats : CpuStats) (report : Report) (zone : List Char) : Entry :=
  match kvmOf stats zone, lastOf report.lines zone with
  | some machine, some (perc, date) => ⟨zone, date, shownPerc nums perc machine⟩
  | _, _ => ⟨zone, report.total.date, ['0']⟩

/-- The table after some headers: every seventh header has it read anew. -/
def tableAfter (rows : List Machine) (reports : List Report) (headers : Nat) : CpuStats :=
  if headers < 7 then parseVmadm rows
  else parseVmadm ((reports[headers / 7 * 7 - 1]?.map fun report => report.zoneid.vmadm).getD [])

/-- A batch that has one entry for each KVM machine of a table, and no other. -/
def IsComplete (nums : Numbers) (stats : CpuStats) (report : Report) (batch : List Char) : Prop :=
  exists zones : List (List Char), zones.Nodup ∧
    (forall zone, zone ∈ zones <-> (kvmOf stats zone).isSome = true) ∧
    batch = zones.flatMap fun zone => (due nums stats report zone).text

/-- Where a KVM machine is listed, it has a processor. -/
def HaveProcessors (rows : List Machine) : Prop :=
  forall machine, machine ∈ rows -> machine.isKvm = true -> 0 < machine.vcpus

/-!
## Tables
-/

theorem parseVmadm_concat (rows : List Machine) (row : Machine) :
    parseVmadm (rows ++ [row]) = (parseVmadm rows).insert row.uuid row :=
  List.foldl_concat ..

theorem mem_of_lookup {rows : List Machine} {zone : List Char} {machine : Machine}
    (h : (parseVmadm rows).lookup zone = some machine) : machine ∈ rows := by
  induction rows using List.reverseRecOn with
  | nil => cases h
  | append_singleton rows row ih =>
      rw [parseVmadm_concat] at h
      by_cases hzone : zone = row.uuid
      · subst hzone
        rw [AList.lookup_insert] at h
        cases h
        exact List.mem_append_right _ List.mem_cons_self
      · rw [AList.lookup_insert_ne hzone] at h
        exact List.mem_append_left _ (ih h)

theorem kvmOf_eq_some {stats : CpuStats} {zone : List Char} {machine : Machine}
    (h : kvmOf stats zone = some machine) :
    stats.lookup zone = some machine ∧ machine.isKvm = true :=
  Option.filter_eq_some_iff.mp h

theorem mem_keys_of_kvmOf {stats : CpuStats} {zone : List Char} {machine : Machine}
    (h : kvmOf stats zone = some machine) : zone ∈ stats.keys := by
  rw [← AList.mem_keys, ← AList.lookup_isSome, (kvmOf_eq_some h).left]
  rfl

/-- Every KVM machine of the table has a share of the processors. -/
def HasShares (nums : Numbers) (stats : CpuStats) : Prop :=
  forall zone machine, kvmOf stats zone = some machine -> nums.cpuPercMax machine.vcpus ≠ 0

variable {nums : Numbers} {order : List (List Char) -> List (List Char)}

theorem hasShares_parseVmadm {rows : List Machine} (h : HaveProcessors rows)
    (hmax : forall vcpus, 0 < vcpus -> 0 < nums.cpuPercMax vcpus) :
    HasShares nums (parseVmadm rows) := by
  intro zone machine hkvm
  rcases kvmOf_eq_some hkvm with ⟨hlookup, htype⟩
  exact Nat.ne_of_gt (hmax _ (h machine (mem_of_lookup hlookup) htype))

theorem realPerc_eq {machine : Machine} (h : nums.cpuPercMax machine.vcpus ≠ 0)
    (perc : List Char) : realPerc nums perc machine = some (shownPerc nums perc machine) := by
  rw [realPerc, shownPerc, if_neg h]
  split
  · rfl
  · rfl

/-!
## The lines of a report
-/

theorem run_append (m : Monitor) (front back : List Line) :
    run nums order m (front ++ back) = (run nums order m front).bind fun m =>
      run nums order m back :=
  List.foldlM_append ..

theorem run_single (m : Monitor) (line : Line) :
    run nums order m [line] = readLine nums order m line := by
  rw [run, List.foldlM_cons]
  exact Option.bind_fun_some ..

theorem lastOf_concat (lines : List Line) (line : Line) (zone : List Char) :
    lastOf (lines ++ [line]) zone = (line.told zone).or (lastOf lines zone) := by
  rw [lastOf, List.reverse_append, List.reverse_singleton, List.singleton_append,
    List.findSome?_cons]
  cases line.told zone with
  | none => rfl
  | some x => rfl

/-- What the data hold after some lines of a report. -/
def Holds (nums : Numbers) (stats : CpuStats) (lines : List Line)
    (data : AList fun _ : List Char => Entry) : Prop :=
  forall zone, data.lookup zone =
    (kvmOf stats zone).bind fun machine =>
      (lastOf lines zone).map fun x => ⟨zone, x.2, shownPerc nums x.1 machine⟩

theorem Holds.unsaid {stats : CpuStats} {lines : List Line} {line : Line}
    {data : AList fun _ : List Char => Entry} (h : Holds nums stats lines data)
    (hline : forall zone, (kvmOf stats zone).isSome = true -> line.told zone = none) :
    Holds nums stats (lines ++ [line]) data := by
  intro zone
  rw [h zone]
  cases hkvm : kvmOf stats zone with
  | none => rfl
  | some machine =>
      have hnone : line.told zone = none := hline zone (by rw [hkvm]; rfl)
      rw [lastOf_concat, hnone, Option.none_or]

theorem Holds.insert {stats : CpuStats} {lines : List Line} {line : Line}
    {data : AList fun _ : List Char => Entry} (h : Holds nums stats lines data)
    {perc zone : List Char} {machine : Machine} (hkvm : kvmOf stats zone = some machine)
    (htold : forall other, line.told other =
      if zone = other then some (perc, line.date) else none) :
    Holds nums stats (lines ++ [line])
      (data.insert zone ⟨zone, line.date, shownPerc nums perc machine⟩) := by
  intro other
  rw [lastOf_concat, htold]
  by_cases hzone : zone = other
  · subst hzone
    rw [AList.lookup_insert, if_pos rfl, hkvm]
    rfl
  · rw [AList.lookup_insert_ne (fun heq => hzone heq.symm), if_neg hzone, Option.none_or]
    exact h other

theorem readLine_body {m : Monitor} {lines : List Line} {line : Line}
    (hshares : HasShares nums m.cpuStats) (h : Holds nums m.cpuStats lines m.data)
    (hline : line.has "ZONEID" = false ∧ line.has "Total" = false) :
    exists data, readLine nums order m line = some { m with data := data } ∧
      Holds nums m.cpuStats (lines ++ [line]) data := by
  rw [readLine, hline.left, hline.right]
  simp only [Bool.false_eq_true, if_false]
  cases hglobal : line.has "global" with
  | true =>
      refine ⟨m.data, rfl, h.unsaid ?_⟩
      intro zone _
      rw [Line.told, if_pos hglobal]
  | false =>
      simp only [Bool.false_eq_true, if_false]
      have htold : forall zone, line.told zone =
          (parseLine line.text).bind fun x =>
            if x.2 = zone then some (x.1, line.date) else none := by
        intro zone
        rw [Line.told, hglobal, if_neg Bool.false_ne_true]
      cases hparse : parseLine line.text with
      | none =>
          refine ⟨m.data, rfl, h.unsaid ?_⟩
          intro zone _
          rw [htold, hparse, Option.bind_none]
      | some x =>
          rcases x with ⟨perc, zone⟩
          simp only [hparse, Option.bind_some] at htold
          dsimp only
          rw [readZone]
          cases hkvm : kvmOf m.cpuStats zone with
          | none =>
              refine ⟨m.data, rfl, h.unsaid ?_⟩
              intro other hother
              have hne : zone ≠ other := by
                intro heq
                rw [← heq, hkvm] at hother
                cases hother
              rw [htold, if_neg hne]
          | some machine =>
              dsimp only
              rw [realPerc_eq (hshares zone machine hkvm)]
              exact ⟨_, rfl, h.insert hkvm htold⟩

theorem run_body {m : Monitor} {lines : List Line} (hshares : HasShares nums m.cpuStats)
    (hempty : m.data = ∅)
    (hlines : forall line, line ∈ lines -> line.has "ZONEID" = false ∧ line.has "Total" = false) :
    exists data, run nums order m lines = some { m with data := data } ∧
      Holds nums m.cpuStats lines data := by
  induction lines using List.reverseRecOn with
  | nil =>
      refine ⟨m.data, rfl, ?_⟩
      intro zone
      rw [hempty]
      cases kvmOf m.cpuStats zone with
      | none => rfl
      | some machine => rfl
  | append_singleton lines line ih =>
      rcases ih fun line hline => hlines line (List.mem_append_left _ hline) with
        ⟨data, hrun, hdata⟩
      rw [run_append, hrun, Option.bind_some, run_single]
      exact readLine_body (m := { m with data := data }) hshares hdata
        (hlines line (List.mem_append_right _ List.mem_cons_self))

/-!
## The end of a report
-/

/-- A zone of which nothing has been seen is filled in with zero. -/
theorem lookup_fillZero (stats : CpuStats) (date : Nat)
    (data : AList fun _ : List Char => Entry) (zone other : List Char) :
    (fillZero stats date data zone).lookup other =
      (data.lookup other).or
        (if other = zone ∧ (kvmOf stats other).isSome = true then some ⟨other, date, ['0']⟩
          else none) := by
  rw [fillZero]
  by_cases hzone : other = zone
  · subst hzone
    cases hkvm : (kvmOf stats other).isSome with
    | false => simp
    | true =>
        cases hdata : data.lookup other with
        | none => simp [AList.lookup_insert]
        | some entry => simp [hdata]
  · have hcond : ¬ (other = zone ∧ (kvmOf stats other).isSome = true) := fun h => hzone h.left
    rw [if_neg hcond, Option.or_none]
    split
    · rw [AList.lookup_insert_ne hzone]
    · rfl

theorem lookup_fillZeros (stats : CpuStats) (date : Nat) (zones : List (List Char))
    (data : AList fun _ : List Char => Entry) (zone : List Char) :
    (zones.foldl (fillZero stats date) data).lookup zone =
      (data.lookup zone).or
        (if zone ∈ zones ∧ (kvmOf stats zone).isSome = true then some ⟨zone, date, ['0']⟩
          else none) := by
  induction zones using List.reverseRecOn with
  | nil => simp
  | append_singleton zones last ih =>
      rw [List.foldl_concat, lookup_fillZero, ih, Option.or_assoc]
      apply congrArg
      cases (kvmOf stats zone).isSome with
      | false => simp
      | true =>
          by_cases hlast : zone = last
          · subst hlast
            by_cases hzones : zone ∈ zones <;> simp [hzones]
          · simp [hlast]

/-- What has been seen and what is filled in is what is due. -/
theorem lookup_due {stats : CpuStats} {report : Report}
    {data : AList fun _ : List Char => Entry} (h : Holds nums stats report.lines data)
    (horder : forall zones, (order zones).Perm zones) (zone : List Char) :
    ((order stats.keys).foldl (fillZero stats report.total.date) data).lookup zone =
      if (kvmOf stats zone).isSome = true then some (due nums stats report zone) else none := by
  rw [lookup_fillZeros, h zone, due]
  cases hkvm : kvmOf stats zone with
  | none => simp
  | some machine =>
      have hmem : zone ∈ order stats.keys := (horder _).mem_iff.mpr (mem_keys_of_kvmOf hkvm)
      cases lastOf report.lines zone with
      | none => simp [hmem]
      | some x => simp

theorem readTotal_sent {m : Monitor} {report : Report}
    (h : Holds nums m.cpuStats report.lines m.data)
    (horder : forall zones, (order zones).Perm zones) :
    exists batch, readTotal order report.total.date m =
        { m with data := ∅, sent := m.sent ++ [batch] } ∧
      IsComplete nums m.cpuStats report batch := by
  refine ⟨_, rfl, ?_⟩
  generalize hdata : (order m.cpuStats.keys).foldl (fillZero m.cpuStats report.total.date)
    m.data = data
  have hlookup : forall zone, data.lookup zone =
      if (kvmOf m.cpuStats zone).isSome = true then some (due nums m.cpuStats report zone)
      else none := by
    intro zone
    rw [← hdata]
    exact lookup_due h horder zone
  have hmem : forall zone, zone ∈ order data.keys <-> (kvmOf m.cpuStats zone).isSome = true := by
    intro zone
    rw [(horder _).mem_iff, ← AList.mem_keys, ← AList.lookup_isSome, hlookup]
    split
    · next hkvm => exact iff_of_true rfl hkvm
    · next hkvm => exact iff_of_false (by simp) hkvm
  refine ⟨order data.keys, (horder _).nodup_iff.mpr data.keys_nodup, hmem, ?_⟩
  apply List.flatMap_congr
  intro zone hzone
  rw [hlookup, if_pos ((hmem zone).mp hzone)]
  rfl

/-!
## Reports
-/

theorem run_report {m : Monitor} {report : Report} (hempty : m.data = ∅)
    (hshares : HasShares nums (readHeader report.zoneid.vmadm m).cpuStats)
    (horder : forall zones, (order zones).Perm zones) :
    exists batch, run nums order m report.all =
        some { readHeader report.zoneid.vmadm m with data := ∅, sent := m.sent ++ [batch] } ∧
      IsComplete nums (readHeader report.zoneid.vmadm m).cpuStats report batch := by
  have hheader : readLine nums order m report.zoneid = some (readHeader report.zoneid.vmadm m) := by
    rw [readLine, if_pos report.isZoneid]
  have hkept : (readHeader report.zoneid.vmadm m).data = m.data ∧
      (readHeader report.zoneid.vmadm m).sent = m.sent := by
    rw [readHeader]
    split
    · exact ⟨rfl, rfl⟩
    · exact ⟨rfl, rfl⟩
  rcases @run_body nums order _ _ hshares (hkept.left.trans hempty) report.isBody with
    ⟨data, hrun, hdata⟩
  rcases @readTotal_sent nums order { readHeader report.zoneid.vmadm m with data := data }
    report hdata horder with ⟨batch, htotal, hbatch⟩
  refine ⟨batch, ?_, hbatch⟩
  have hlast : forall m, readLine nums order m report.total =
      some (readTotal order report.total.date m) := by
    intro m
    rw [readLine, report.isTotal.left, report.isTotal.right.left, report.isTotal.right.right]
    rfl
  have hsplit : report.all = [report.zoneid] ++ (report.lines ++ [report.total]) := rfl
  rw [hsplit, run_append, run_single, hheader, Option.bind_some, run_append, hrun,
    Option.bind_some, run_single, hlast, htotal]
  dsimp only
  rw [hkept.right]

theorem tableAfter_append {rows : List Machine} {reports : List Report} {n : Nat}
    (h : n ≤ reports.length) (more : List Report) :
    tableAfter rows (reports ++ more) n = tableAfter rows reports n := by
  rw [tableAfter, tableAfter]
  split
  · rfl
  · rw [List.getElem?_append_left (by omega)]

/-- The monitor between two reports. -/
structure Between (nums : Numbers) (rows : List Machine) (reports : List Report) (m : Monitor) :
    Prop where
  data : m.data = ∅
  interval : m.vmadmInterval = 60 - 10 * (reports.length % 7)
  cpuStats : m.cpuStats = tableAfter rows reports reports.length
  length : m.sent.length = reports.length
  sent : forall i report, reports[i]? = some report -> exists batch, m.sent[i]? = some batch ∧
    IsComplete nums (tableAfter rows reports (i + 1)) report batch

theorem Between.readHeader {rows : List Machine} {reports : List Report} {m : Monitor}
    (h : Between nums rows reports m) (report : Report) :
    (CpuMonitor.readHeader report.zoneid.vmadm m).vmadmInterval =
        60 - 10 * ((reports.length + 1) % 7) ∧
      (CpuMonitor.readHeader report.zoneid.vmadm m).cpuStats =
        tableAfter rows (reports ++ [report]) (reports.length + 1) := by
  rw [CpuMonitor.readHeader]
  by_cases hrefresh : reports.length % 7 = 6
  · have hzero : m.vmadmInterval = 0 := by
      rw [h.interval, hrefresh]
    have hindex : (reports.length + 1) / 7 * 7 - 1 = reports.length := by omega
    rw [if_pos hzero, tableAfter, if_neg (by omega), hindex, List.getElem?_concat_length]
    refine ⟨?_, rfl⟩
    change 60 = 60 - 10 * ((reports.length + 1) % 7)
    omega
  · have hzero : m.vmadmInterval ≠ 0 := by
      rw [h.interval]
      omega
    have hsame : tableAfter rows (reports ++ [report]) (reports.length + 1) =
        tableAfter rows reports reports.length := by
      rw [← tableAfter_append (Nat.le_refl _) [report], tableAfter, tableAfter]
      have hdiv : (reports.length + 1) / 7 = reports.length / 7 := by omega
      have hlt : reports.length + 1 < 7 <-> reports.length < 7 := by omega
      rw [hdiv, if_congr hlt rfl rfl]
    rw [if_neg hzero, hsame, ← h.cpuStats]
    refine ⟨?_, rfl⟩
    change m.vmadmInterval - 10 = _
    rw [h.interval]
    omega

theorem hasShares_tableAfter {rows : List Machine} {reports : List Report}
    (hmax : forall vcpus, 0 < vcpus -> 0 < nums.cpuPercMax vcpus) (hrows : HaveProcessors rows)
    (hreports : forall report, report ∈ reports -> HaveProcessors report.zoneid.vmadm) (n : Nat) :
    HasShares nums (tableAfter rows reports n) := by
  rw [tableAfter]
  split
  · exact hasShares_parseVmadm hrows hmax
  · apply hasShares_parseVmadm _ hmax
    cases hreport : reports[n / 7 * 7 - 1]? with
    | none => exact nofun
    | some report => exact hreports report (List.mem_of_getElem? hreport)

theorem Between.report {rows : List Machine} {reports : List Report} {m : Monitor}
    (h : Between nums rows reports m) {report : Report}
    (hshares : HasShares nums (tableAfter rows (reports ++ [report]) (reports.length + 1)))
    (horder : forall zones, (order zones).Perm zones) :
    exists m', run nums order m report.all = some m' ∧
      Between nums rows (reports ++ [report]) m' := by
  rcases h.readHeader report with ⟨hinterval, hstats⟩
  rw [← hstats] at hshares
  rcases run_report h.data hshares horder with ⟨batch, hrun, hbatch⟩
  refine ⟨_, hrun, rfl, ?_, ?_, ?_, ?_⟩
  · simpa using hinterval
  · simpa using hstats
  · simp [h.length]
  · intro i other hother
    rcases Nat.lt_trichotomy i reports.length with hlt | heq | hgt
    · rw [List.getElem?_append_left hlt] at hother
      rcases h.sent i other hother with ⟨old, hold, hcomplete⟩
      refine ⟨old, ?_, ?_⟩
      · change (m.sent ++ [batch])[i]? = some old
        rw [List.getElem?_append_left (h.length ▸ hlt)]
        exact hold
      · rw [tableAfter_append hlt]
        exact hcomplete
    · subst heq
      rw [List.getElem?_concat_length] at hother
      cases hother
      refine ⟨batch, ?_, ?_⟩
      · change (m.sent ++ [batch])[reports.length]? = some batch
        rw [← h.length, List.getElem?_concat_length]
      · rw [← hstats]
        exact hbatch
    · have hlong : (reports ++ [report]).length ≤ i := by
        rw [List.length_append, List.length_singleton]
        exact hgt
      rw [List.getElem?_eq_none hlong] at hother
      cases hother

/--
Each report has one batch, with exactly one entry for each KVM machine of the table
that was read last: the last that the report said of it, or zero.  The table is never
older than seven reports.
-/
theorem monitor_tells_machines (nums : Numbers)
    (order : List (List Char) -> List (List Char)) (rows : List Machine) (reports : List Report)
    (hmax : forall vcpus, 0 < vcpus -> 0 < nums.cpuPercMax vcpus)
    (horder : forall zones, (order zones).Perm zones) (hrows : HaveProcessors rows)
    (hreports : forall report, report ∈ reports -> HaveProcessors report.zoneid.vmadm) :
    exists m, run nums order (start rows) (reports.flatMap Report.all) = some m ∧
      m.sent.length = reports.length ∧
      forall i report, reports[i]? = some report -> exists batch, m.sent[i]? = some batch ∧
        IsComplete nums (tableAfter rows reports (i + 1)) report batch := by
  have hrun : exists m, run nums order (start rows) (reports.flatMap Report.all) = some m ∧
      Between nums rows reports m := by
    induction reports using List.reverseRecOn with
    | nil => exact ⟨start rows, rfl, rfl, rfl, rfl, rfl, nofun⟩
    | append_singleton reports report ih =>
        rcases ih fun other hother => hreports other (List.mem_append_left _ hother) with
          ⟨m, hm, hbetween⟩
        have hshares := hasShares_tableAfter hmax hrows hreports (reports.length + 1)
        rcases hbetween.report hshares horder with ⟨m', hm', hbetween'⟩
        refine ⟨m', ?_, hbetween'⟩
        rw [List.flatMap_append, List.flatMap_singleton, run_append, hm, Option.bind_some, hm']
  rcases hrun with ⟨m, hm, hbetween⟩
  exact ⟨m, hm, hbetween.length, hbetween.sent⟩

/-- What four processors make of a percentage with one decimal, where it comes out even. -/
def fourProcessors : Numbers where
  cpuPercMax := fun vcpus => vcpus * 25
  share := fun perc max =>
    let hundredths := Nat.ofDigitChars 10 (perc.filter Char.isDigit) 0 * 1000 / max
    Nat.toDigits 10 (hundredths / 100) ++
      '.' :: (Nat.toDigits 10 (hundredths / 10 % 10) ++ Nat.toDigits 10 (hundredths % 10))

def twoMachines : List Machine :=
  [⟨['a'], "KVM".toList, 1⟩, ⟨['b'], "KVM".toList, 2⟩, ⟨['c'], "OS".toList, 0⟩]

/-- A report in which only one of the machines is mentioned. -/
def oneBusy : Report where
  zoneid := ⟨"ZONEID CPU ZONE\n".toList, 1, []⟩
  lines := [⟨" 6 2 21M 21M 4.3% 3:14:43 1.0% a\n".toList, 2, []⟩]
  total := ⟨"Total: 2\n".toList, 3, []⟩
  isZoneid := by decide
  isTotal := by decide
  isBody := by decide

theorem monitor_tells_machines_busy :
    exists m, run fourProcessors id (start twoMachines) ([oneBusy].flatMap Report.all) = some m ∧
      m.sent.length = [oneBusy].length ∧
      forall i report, [oneBusy][i]? = some report -> exists batch, m.sent[i]? = some batch ∧
        IsComplete fourProcessors (tableAfter twoMachines [oneBusy] (i + 1)) report batch := by
  apply monitor_tells_machines
  · intro vcpus hvcpus
    exact Nat.mul_pos hvcpus (by decide)
  · exact fun zones => List.Perm.refl zones
  · intro machine hmachine
    revert machine hmachine
    decide
  · intro report hreport
    rw [List.mem_singleton.mp hreport]
    exact nofun

end CpuMonitor
end Zabbix
end EsdcFactory
