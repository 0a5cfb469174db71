import EsdcFactory.Lib.Escapes
import EsdcFactory.Lib.Words
import EsdcFactory.Zabbix.BhiostatRuns
import EsdcFactory.Zabbix.DiskBatches

/-!
# From system calls to Zabbix

`vm-bhyve-disk-io-monitor` reads what `bhiostat` prints.  Put together, they tell
Zabbix of each disk of a running machine what the process of the machine did to it in
an interval, whichever way its threads run.
-/

namespace EsdcFactory
namespace Zabbix
namespace DiskPipeline

open Bhiostat DiskMonitor Words

/-!
## Reading a report
-/

def isBlank (c : Char) : Bool :=
  c = ' ' || c = '\t' || c = '\n'

/-- `$1`, `$2` and so on of a line. -/
def field (n : Nat) (line : List Char) : String :=
  String.ofList ((words isBlank line)[n - 1]?.getD [])

/--
What the monitor finds when it reads a report: the machine that each process belongs
to, the process table, the dates, and the machines at the tick.
-/
structure Surroundings where
  owner : String -> Uuid
  table : String -> Option String
  date : List Char -> Nat
  zeroDate : String -> Nat
  zones : List Zone

def lineOf (around : Surroundings) (text : List Char) : Line where
  pid := field 1 text
  ior := field 2 text
  iow := field 3 text
  br := field 4 text
  bw := field 5 text
  disk := field 6 text
  owner := around.owner (field 1 text)
  table := around.table
  date := around.date text

/-- The lines read, where the surroundings change with each tick. -/
def reading (around : Nat -> Surroundings) : Nat -> List (List Char) -> List Event
  | _, [] => []
  | n, text :: rest =>
      if field 1 text = "---" then
        .tick (around n).zeroDate (around n).zones :: reading around (n + 1) rest
      else .line (lineOf (around n) text) :: reading around n rest

/-- The monitor runs `bhiostat -H -T -i 10`. -/
def bhiostatCmd : Options := ⟨10, by decide, "bhyve", false, true⟩

/-!
## What the pipeline is for
-/

def ownerOf (around : Surroundings) (io : Io) : Uuid :=
  around.owner (toString io.pid)

/-- The calls that are traced and did not fail. -/
def traced (ios : List Io) : List Io := ios.filter (Io.isSeen bhiostatCmd.prog)

/--
When a report is read, each process of it is still there, and no two of them are of
the same machine and used a disk of the same name.  The names of their files are
words that `printf` prints as they are.
-/
structure Readable (around : Surroundings) (ios : List Io) : Prop where
  plain : forall io, io ∈ traced ios -> forall c, c ∈ io.file.toList ->
    isBlank c = false ∧ c ≠ '%'
  there : forall io, io ∈ traced ios ->
    around.table (toString io.pid) = some (ownerOf around io).text
  single : forall io io', io ∈ traced ios -> io' ∈ traced ios ->
    (ownerOf around io).text = (ownerOf around io').text -> io.file = io'.file ->
      io.pid = io'.pid

def shown (n : Word) : String := String.ofList (decimal n)

/-- What is told of a disk that was used. -/
def told (uuid : String) (date : Nat) (row : Row) : List Sample :=
  [⟨uuid, row.file, .reads, date, shown row.ior⟩,
    ⟨uuid, row.file, .writes, date, shown row.iow⟩,
    ⟨uuid, row.file, .read, date, shown row.rbytes⟩,
    ⟨uuid, row.file, .written, date, shown row.wbytes⟩]

/-- A batch that tells exactly what some calls did to the disks of some machines. -/
structure Tells (around : Surroundings) (zones : List Zone) (ios : List Io)
    (batch : Batch) : Prop where
  used : forall io, io ∈ traced ios ->
    ((ownerOf around io).text, io.file) ∈ zoneDisks zones -> exists date,
      batch.samples.filter (isOf (ownerOf around io).text io.file) =
        told (ownerOf around io).text date (total bhiostatCmd.prog ios io.key)
  idle : forall uuid disk, (uuid, disk) ∈ zoneDisks zones ->
    (forall io, io ∈ traced ios ->
      ¬ ((ownerOf around io).text = uuid ∧ io.file = disk)) -> exists date,
      batch.samples.filter (isOf uuid disk) = zeros uuid disk date
  text : batch.text = dataText batch.samples

/-- The batches for some intervals; each tick finds the machines of the next one. -/
def AllTell (around : Nat -> Surroundings) : Nat -> List Zone ->
    List (Period bhiostatCmd.interval) -> List Batch -> Prop
  | _, _, [], [] => True
  | n, zones, period :: periods, batch :: batches =>
      Tells (around n) zones (finished period.firings) batch ∧
        AllTell around (n + 1) (around n).zones periods batches
  | _, _, _, _ => False

/-!
## Fields
-/

theorem isWord_toString (n : Nat) : IsWord isBlank (toString n).toList where
  ne_nil := by
    rw [show (toString n).toList = Nat.toDigits 10 n from Nat.toList_repr]
    exact Nat.toDigits_ne_nil
  noBlank := by
    intro c hc
    rw [show (toString n).toList = Nat.toDigits 10 n from Nat.toList_repr] at hc
    have hdigit := Nat.isDigit_of_mem_toDigits (b := 10) (by decide) (by decide) hc
    cases hblank : isBlank c with
    | false => rfl
    | true =>
        simp only [isBlank, Bool.or_eq_true, decide_eq_true_eq] at hblank
        rcases hblank with (rfl | rfl) | rfl <;> cases hdigit

theorem decimal_eq (n : Word) :
    decimal n = (toString n.toInt.toNat).toList ∨
      decimal n = '-' :: (toString (-n.toInt).toNat).toList := by
  unfold decimal
  cases n.toInt with
  | ofNat m => exact Or.inl rfl
  | negSucc m =>
      apply Or.inr
      change ("-" ++ toString (m + 1)).toList = '-' :: (toString (m + 1)).toList
      simp

theorem not_mem_toString {c : Char} (h : c.isDigit = false) (n : Nat) :
    c ∉ (toString n).toList := by
  intro hmem
  rw [show (toString n).toList = Nat.toDigits 10 n from Nat.toList_repr] at hmem
  have hdigit := Nat.isDigit_of_mem_toDigits (b := 10) (by decide) (by decide) hmem
  rw [h] at hdigit
  cases hdigit

theorem not_mem_decimal {c : Char} (h : c.isDigit = false) (hminus : c ≠ '-') (n : Word) :
    c ∉ decimal n := by
  rcases decimal_eq n with heq | heq
  · rw [heq]
    exact not_mem_toString h _
  · rw [heq, List.mem_cons]
    intro hmem
    rcases hmem with hmem | hmem
    · exact hminus hmem
    · exact not_mem_toString h _ hmem

theorem isWord_decimal (n : Word) : IsWord isBlank (decimal n) where
  ne_nil := by
    rcases decimal_eq n with heq | heq
    · rw [heq]
      exact (isWord_toString _).ne_nil
    · rw [heq]
      exact List.cons_ne_nil _ _
  noBlank := by
    intro c hc
    cases hblank : isBlank c with
    | false => rfl
    | true =>
        simp only [isBlank, Bool.or_eq_true, decide_eq_true_eq] at hblank
        rcases hblank with (rfl | rfl) | rfl
        · exact absurd hc (not_mem_decimal (by decide) (by decide) n)
        · exact absurd hc (not_mem_decimal (by decide) (by decide) n)
        · exact absurd hc (not_mem_decimal (by decide) (by decide) n)

/-- A row without blanks in the name of its file. -/
def Row.IsPlain (row : Row) : Prop := forall c, c ∈ row.file.toList -> isBlank c = false

theorem words_file {row : Row} (h : Row.IsPlain row) :
    (words isBlank row.file.toList)[0]?.getD [] = row.file.toList := by
  cases hfile : row.file.toList with
  | nil => rfl
  | cons c rest =>
      have hword : IsWord isBlank (c :: rest) := by
        rw [← hfile]
        exact ⟨by simp [hfile], h⟩
      rw [words_word hword]
      rfl

theorem words_row (row : Row) :
    words isBlank row.text = (toString row.pid).toList :: decimal row.ior ::
      decimal row.iow :: decimal row.rbytes :: decimal row.wbytes ::
        words isBlank row.file.toList := by
  have htab : isBlank '\t' = true := rfl
  rw [Row.text, words_word_blank (isWord_toString _) htab,
    words_word_blank (isWord_decimal _) htab, words_blank htab,
    words_word_blank (isWord_decimal _) htab, words_blank htab,
    words_word_blank (isWord_decimal _) htab, words_blank htab,
    words_word_blank (isWord_decimal _) htab, words_blank htab]

/-- The line that is read for a row. -/
def lineFor (around : Surroundings) (row : Row) : Line :=
  ⟨toString row.pid, shown row.ior, shown row.iow, shown row.rbytes, shown row.wbytes,
    row.file, around.owner (toString row.pid), around.table, around.date row.text⟩

theorem lineOf_text (around : Surroundings) {row : Row} (h : Row.IsPlain row) :
    lineOf around row.text = lineFor around row := by
  have hpid : field 1 row.text = toString row.pid := by
    rw [field, words_row]
    exact String.ofList_toList
  have hfile : field 6 row.text = row.file := by
    rw [field, words_row]
    change String.ofList ((words isBlank row.file.toList)[0]?.getD []) = row.file
    rw [words_file h, String.ofList_toList]
  rw [lineOf, hpid, hfile]
  simp only [field, words_row]
  rfl

theorem field_one (row : Row) : field 1 row.text ≠ "---" := by
  intro h
  rw [field, words_row] at h
  have hlist := congrArg String.toList h
  rw [String.toList_ofList] at hlist
  have hmem : '-' ∈ (toString row.pid).toList := by
    change (toString row.pid).toList = "---".toList at hlist
    rw [hlist]
    decide
  exact not_mem_toString (by decide) row.pid hmem

/-!
## Intervals
-/

def intervalOf (around : Surroundings) (report : List Row) : Interval :=
  ⟨report.map (lineFor around), around.zeroDate, around.zones⟩

def intervalsFrom (around : Nat -> Surroundings) : Nat -> List (List Row) -> List Interval
  | _, [] => []
  | n, report :: reports =>
      intervalOf (around n) report :: intervalsFrom around (n + 1) reports

theorem reading_rows {around : Nat -> Surroundings} {n : Nat} {report : List Row}
    (h : forall row, row ∈ report -> Row.IsPlain row) (rest : List (List Char)) :
    reading around n (report.map Row.text ++ rest) =
      (report.map (lineFor (around n))).map Event.line ++ reading around n rest := by
  induction report with
  | nil => rfl
  | cons row report ih =>
      rw [List.map_cons, List.cons_append, reading, if_neg (field_one row),
        lineOf_text _ (h row List.mem_cons_self),
        ih fun other hother => h other (List.mem_cons_of_mem row hother)]
      rfl

theorem reading_report {around : Nat -> Surroundings} {n : Nat} {report : List Row}
    (h : forall row, row ∈ report -> Row.IsPlain row) (rest : List (List Char)) :
    reading around n (reportText bhiostatCmd report ++ rest) =
      (intervalOf (around n) report).events ++ reading around (n + 1) rest := by
  have hmark : field 1 tickMark = "---" := by decide
  have htick : reading around n (tickMark :: rest) =
      .tick (around n).zeroDate (around n).zones :: reading around (n + 1) rest := by
    rw [reading, if_pos hmark]
  have htext : reportText bhiostatCmd report ++ rest =
      report.map Row.text ++ tickMark :: rest := by
    rw [reportText, List.append_assoc]
    rfl
  rw [htext, reading_rows h, htick, Interval.events, List.append_assoc]
  rfl

theorem reading_reports {around : Nat -> Surroundings} {n : Nat} {reports : List (List Row)}
    (h : forall report, report ∈ reports -> forall row, row ∈ report -> Row.IsPlain row) :
    reading around n (reports.flatMap (reportText bhiostatCmd)) =
      (intervalsFrom around n reports).flatMap Interval.events := by
  induction reports generalizing n with
  | nil => rfl
  | cons report reports ih =>
      rw [List.flatMap_cons, reading_report (h report List.mem_cons_self),
        ih fun other hother => h other (List.mem_cons_of_mem report hother)]
      rfl

/-!
## Rows of a report
-/

theorem mem_traced {ios : List Io} {io : Io} :
    io ∈ traced ios <-> io ∈ ios ∧ io.isSeen bhiostatCmd.prog = true :=
  List.mem_filter

theorem exists_traced {ios : List Io} {report : List Row}
    (h : IsReport bhiostatCmd.prog ios report) {row : Row} (hrow : row ∈ report) :
    exists io, io ∈ traced ios ∧ io.pid = row.pid ∧ io.file = row.file := by
  rcases (h.keys row.key).mp (List.mem_map_of_mem hrow) with ⟨io, hio, hseen, hkey⟩
  exact ⟨io, mem_traced.mpr ⟨hio, hseen⟩, congrArg Prod.fst hkey, congrArg Prod.snd hkey⟩

theorem isFor_lineFor_iff {around : Surroundings} {row : Row} {uuid disk : String} :
    (lineFor around row).isFor uuid disk = true <->
      (around.owner (toString row.pid)).text = uuid ∧ row.file = disk := by
  rw [Line.isFor, Bool.and_eq_true_iff, decide_eq_true_iff, decide_eq_true_iff]
  rfl

section Report

variable {around : Surroundings} {ios : List Io} {report : List Row}
  (hreport : IsReport bhiostatCmd.prog ios report) (hreadable : Readable around ios)

include hreport hreadable

theorem isPlain_of_readable : forall row, row ∈ report -> Row.IsPlain row := by
  intro row hrow c hc
  rcases exists_traced hreport hrow with ⟨io, hio, _, hfile⟩
  rw [← hfile] at hc
  exact (hreadable.plain io hio c hc).left

theorem isAttributable_of_readable {row : Row} (hrow : row ∈ report) (s : Monitor) :
    IsAttributable s (lineFor around row) := by
  rcases exists_traced hreport hrow with ⟨io, hio, hpid, hfile⟩
  constructor
  · have hthere := hreadable.there io hio
    rw [ownerOf, hpid] at hthere
    change (around.table (toString row.pid)).getD s.uuid =
      (around.owner (toString row.pid)).text
    rw [hthere]
    rfl
  · have hnumber : forall n, '%' ∉ (shown n).toList := by
      intro n
      rw [shown, String.toList_ofList]
      exact not_mem_decimal (by decide) (by decide) n
    intro word hword
    simp only [lineFor, List.mem_cons, List.not_mem_nil, or_false] at hword
    rcases hword with rfl | rfl | rfl | rfl | rfl
    · rw [← hfile]
      intro hpercent
      exact (hreadable.plain io hio '%' hpercent).right rfl
    · exact hnumber _
    · exact hnumber _
    · exact hnumber _
    · exact hnumber _

/-- Rows for a disk of the same machine are the same. -/
theorem row_unique {row row' : Row} (hrow : row ∈ report) (hrow' : row' ∈ report)
    {uuid disk : String} (h : (lineFor around row).isFor uuid disk = true)
    (h' : (lineFor around row').isFor uuid disk = true) : row = row' := by
  rw [isFor_lineFor_iff] at h h'
  rcases exists_traced hreport hrow with ⟨io, hio, hpid, hfile⟩
  rcases exists_traced hreport hrow' with ⟨io', hio', hpid', hfile'⟩
  have hsame : io.pid = io'.pid := by
    apply hreadable.single io io' hio hio'
    · rw [ownerOf, ownerOf, hpid, hpid', h.left, h'.left]
    · rw [hfile, hfile', h.right, h'.right]
  have hkey : row.key = row'.key := by
    rw [Row.key, Row.key, ← hpid, ← hpid', hsame, h.right, h'.right]
  rw [hreport.rows row hrow, hreport.rows row' hrow', hkey]

theorem filter_isFor_length (uuid disk : String) :
    ((report.map (lineFor around)).filter fun line => line.isFor uuid disk).length ≤ 1 := by
  rw [List.filter_map, List.length_map]
  have hnodup : (report.filter ((fun line => line.isFor uuid disk) ∘ lineFor around)).Nodup :=
    (List.Nodup.of_map Row.key hreport.nodup).filter _
  cases hfilter : report.filter ((fun line => line.isFor uuid disk) ∘ lineFor around) with
  | nil => simp
  | cons row rest =>
      cases rest with
      | nil => simp
      | cons row' rest =>
          have hmem : forall other, other ∈ row :: row' :: rest ->
              other ∈ report ∧ (lineFor around other).isFor uuid disk = true := by
            intro other hother
            rw [← hfilter] at hother
            exact List.mem_filter.mp hother
          have hrow := hmem row (by simp)
          have hrow' := hmem row' (by simp)
          rw [hfilter] at hnodup
          have heq := row_unique hreport hreadable hrow.left hrow'.left hrow.right hrow'.right
          exact absurd hnodup (by simp [heq])

theorem tells_of_isGood {zones : List Zone} {batch : Batch}
    (h : IsGood zones (intervalOf around report) batch) : Tells around zones ios batch := by
  constructor
  · intro io hio hdisk
    rcases mem_traced.mp hio with ⟨hmem, hseen⟩
    rcases List.mem_map.mp ((hreport.keys io.key).mpr ⟨io, hmem, hseen, rfl⟩) with
      ⟨row, hrow, hkey⟩
    have hpid : row.pid = io.pid := congrArg Prod.fst hkey
    have hfile : row.file = io.file := congrArg Prod.snd hkey
    have hfor : (lineFor around row).isFor (ownerOf around io).text io.file = true := by
      rw [isFor_lineFor_iff, hpid, hfile]
      exact ⟨rfl, rfl⟩
    have hfind : (intervalOf around report).lines.find?
        (fun line => line.isFor (ownerOf around io).text io.file) =
          some (lineFor around row) := by
      cases hfound : (intervalOf around report).lines.find?
          (fun line => line.isFor (ownerOf around io).text io.file) with
      | none =>
          exact absurd hfor (List.find?_eq_none.mp hfound _ (List.mem_map_of_mem hrow))
      | some line =>
          rcases List.mem_map.mp (List.mem_of_find?_eq_some hfound) with ⟨row', hrow', rfl⟩
          have hfor' := List.find?_some hfound
          rw [row_unique hreport hreadable hrow' hrow hfor' hfor]
    exists around.date row.text
    have hcomplete := h.complete _ _ hdisk
    rw [due, hfind] at hcomplete
    refine Eq.trans hcomplete ?_
    rw [← hkey, ← hreport.rows row hrow, told, hfile]
    simp only [Line.samples, lineFor, hfile]
  · intro uuid disk hdisk hidle
    have hfind : (intervalOf around report).lines.find?
        (fun line => line.isFor uuid disk) = none := by
      rw [List.find?_eq_none]
      intro line hline hfor
      rcases List.mem_map.mp hline with ⟨row, hrow, rfl⟩
      rcases exists_traced hreport hrow with ⟨io, hio, hpid, hfile⟩
      rw [isFor_lineFor_iff] at hfor
      apply hidle io hio
      rw [ownerOf, hpid, hfile]
      exact hfor
    have hcomplete := h.complete uuid disk hdisk
    rw [due, hfind] at hcomplete
    exact ⟨_, hcomplete⟩
  · exact h.text

end Report

/-!
## Runs
-/

/-- Every report is readable in the surroundings of its interval. -/
def AllReadable (around : Nat -> Surroundings) :
    Nat -> List (Period bhiostatCmd.interval) -> Prop
  | _, [] => True
  | n, period :: periods =>
      Readable (around n) (finished period.firings) ∧ AllReadable around (n + 1) periods

/-- The reports for some intervals. -/
def AllReports (periods : List (Period bhiostatCmd.interval))
    (reports : List (List Row)) : Prop :=
  List.Forall₂ (fun period report => IsReport bhiostatCmd.prog (finished period.firings) report)
    periods reports

theorem attributed_lines {order : List String -> List String} {lines : List Line}
    (h : forall line, line ∈ lines -> forall s, IsAttributable s line) {rest : List Event}
    (hrest : forall s, Attributed order s rest) (s : Monitor) :
    Attributed order s (lines.map Event.line ++ rest) := by
  induction lines generalizing s with
  | nil => exact hrest s
  | cons line lines ih =>
      exact ⟨fun _ => h line List.mem_cons_self s,
        ih (fun other hother => h other (List.mem_cons_of_mem line hother)) _⟩

theorem attributed_intervals (order : List String -> List String)
    {around : Nat -> Surroundings} {n : Nat} {periods : List (Period bhiostatCmd.interval)}
    {reports : List (List Row)} (hreports : AllReports periods reports)
    (hreadable : AllReadable around n periods) (s : Monitor) :
    Attributed order s ((intervalsFrom around n reports).flatMap Interval.events) := by
  induction hreports generalizing n s with
  | nil => exact trivial
  | cons hreport _ ih =>
      rcases hreadable with ⟨hfirst, hrest⟩
      rw [intervalsFrom, List.flatMap_cons, Interval.events, List.append_assoc]
      apply attributed_lines
      · intro line hline s
        rcases List.mem_map.mp hline with ⟨row, hrow, rfl⟩
        exact isAttributable_of_readable hreport hfirst hrow s
      · intro s s' _
        exact ih hrest s'

theorem oncePerInterval_intervals {around : Nat -> Surroundings} {n : Nat}
    {periods : List (Period bhiostatCmd.interval)} {reports : List (List Row)}
    (hreports : AllReports periods reports) (hreadable : AllReadable around n periods)
    (zones : List Zone) : OncePerInterval zones (intervalsFrom around n reports) := by
  induction hreports generalizing n zones with
  | nil => exact trivial
  | cons hreport _ ih =>
      rcases hreadable with ⟨hfirst, hrest⟩
      exact ⟨fun uuid disk _ => filter_isFor_length hreport hfirst uuid disk, ih hrest _⟩

theorem allTell_of_allGood {around : Nat -> Surroundings} {n : Nat}
    {periods : List (Period bhiostatCmd.interval)} {reports : List (List Row)}
    (hreports : AllReports periods reports) (hreadable : AllReadable around n periods)
    {zones : List Zone} {batches : List Batch}
    (h : AllGood zones (intervalsFrom around n reports) batches) :
    AllTell around n zones periods batches := by
  induction hreports generalizing n zones batches with
  | nil =>
      cases batches with
      | nil => exact trivial
      | cons batch batches => cases h
  | cons hreport _ ih =>
      rcases hreadable with ⟨hfirst, hrest⟩
      cases batches with
      | nil => cases h
      | cons batch batches =>
          rcases h with ⟨hgood, hgoods⟩
          exact ⟨tells_of_isGood hreport hfirst hgood, ih hrest hgoods⟩

theorem allPlain {around : Nat -> Surroundings} {n : Nat}
    {periods : List (Period bhiostatCmd.interval)} {reports : List (List Row)}
    (hreports : AllReports periods reports) (hreadable : AllReadable around n periods) :
    forall report, report ∈ reports -> forall row, row ∈ report -> Row.IsPlain row := by
  induction hreports generalizing n with
  | nil =>
      intro report hmem
      cases hmem
  | cons hreport _ ih =>
      rcases hreadable with ⟨hfirst, hrest⟩
      intro report hmem
      rcases List.mem_cons.mp hmem with rfl | hmem
      · exact isPlain_of_readable hreport hfirst
      · exact ih hrest report hmem

/--
The calls of any number of threads in any order reach Zabbix: the monitor does not fail
over what `bhiostat` prints of them, and each batch tells what was done in its interval.
-/
theorem monitor_tells_history (sort : List Row -> List Row)
    (order : List String -> List String) (around : Nat -> Surroundings) (zones : List Zone)
    (periods : List (Period bhiostatCmd.interval)) (rest : List Firing)
    (hsort : forall rows, (sort rows).Perm rows)
    (horder : forall insts, (order insts).Perm insts)
    (hrest : ticks rest < bhiostatCmd.interval)
    (hthreads : Threaded bhiostatCmd.prog (periods.flatMap Period.firings ++ rest))
    (hreadable : AllReadable around 0 periods) :
    exists s, DiskMonitor.run order (start zones)
        (reading around 0 (Bhiostat.run bhiostatCmd sort (begin bhiostatCmd)
          (periods.flatMap Period.firings ++ rest)).printed) = some s ∧
      AllTell around 0 zones periods s.sent := by
  rcases run_periods hsort (atStart_begin bhiostatCmd) hthreads with
    ⟨reports, hreports, hstart, hprinted, hkept⟩
  have hsecs : (ticks rest : Int) < (Bhiostat.run bhiostatCmd sort (begin bhiostatCmd)
      (periods.flatMap Period.firings)).secs := by
    rw [hstart.secs]
    omega
  rw [← List.append_nil rest] at hkept
  rcases run_before sort hstart.tallied hsecs hkept with ⟨_, _, hsame, _⟩
  have hread : reading around 0 (Bhiostat.run bhiostatCmd sort (begin bhiostatCmd)
      (periods.flatMap Period.firings ++ rest)).printed =
        (intervalsFrom around 0 reports).flatMap Interval.events := by
    rw [Bhiostat.run_append, hsame, hprinted]
    exact reading_reports (allPlain hreports hreadable)
  have hattributed := attributed_intervals order hreports hreadable (start zones)
  rw [← List.append_nil ((intervalsFrom around 0 reports).flatMap Interval.events)]
    at hattributed
  rcases run_intervals horder (atStart_start zones)
    (oncePerInterval_intervals hreports hreadable zones) hattributed with
    ⟨s, batches, hrun, hsent, hgood, _⟩
  rw [List.append_nil] at hrun
  rw [hread]
  refine ⟨s, hrun, ?_⟩
  rw [hsent]
  exact allTell_of_allGood hreports hreadable hgood

/-!
## A machine with two threads
-/

/-- The process of the machine is there at all times. -/
def alone : Surroundings where
  owner := fun _ => machineA
  table := fun _ => some machineA.text
  date := fun _ => 1
  zeroDate := fun _ => 1
  zones := [⟨machineA, ["disk0", "disk1"], by decide⟩]

/-- An interval of ten seconds in which the calls of two threads cross. -/
def crossedPeriod : Period bhiostatCmd.interval where
  before := [.entry reader, .entry writer, .done reader, .done writer] ++
    List.replicate 9 .tick
  length := rfl

theorem threaded_crossedPeriod :
    Threaded bhiostatCmd.prog ([crossedPeriod].flatMap Period.firings ++ [.entry reader]) := by
  intro tid
  by_cases hreader : tid = 1
  · subst hreader
    exact ⟨rfl, trivial⟩
  · by_cases hwriter : tid = 2
    · subst hwriter
      exact ⟨rfl, trivial⟩
    · have hnone : ([crossedPeriod].flatMap Period.firings ++ [Firing.entry reader]).filter
          (Firing.isOf tid) = [] := by
        have hreader : 1 ≠ tid := fun heq => hreader heq.symm
        have hwriter : 2 ≠ tid := fun heq => hwriter heq.symm
        simp [crossedPeriod, Period.firings, Firing.isOf, reader, writer, hreader, hwriter]
      rw [hnone]
      exact trivial

theorem readable_crossedPeriod : Readable alone (finished crossedPeriod.firings) where
  plain := by
    intro io hio
    have hboth : io = reader ∨ io = writer := by
      have hlist : traced (finished crossedPeriod.firings) = [reader, writer] := by decide
      simpa [hlist] using hio
    rcases hboth with rfl | rfl
    · decide
    · decide
  there := by
    intro io _
    rfl
  single := by
    have hlist : traced (finished crossedPeriod.firings) = [reader, writer] := by decide
    intro io io' hio hio' _ _
    simp only [hlist, List.mem_cons, List.not_mem_nil, or_false] at hio hio'
    rcases hio with rfl | rfl <;> rcases hio' with rfl | rfl <;> rfl

theorem monitor_tells_crossed :
    exists s, DiskMonitor.run id (start alone.zones)
        (reading (fun _ => alone) 0 (Bhiostat.run bhiostatCmd id (begin bhiostatCmd)
          ([crossedPeriod].flatMap Period.firings ++ [.entry reader])).printed) = some s ∧
      AllTell (fun _ => alone) 0 alone.zones [crossedPeriod] s.sent :=
  monitor_tells_history id id (fun _ => alone) alone.zones [crossedPeriod] [.entry reader]
    (fun rows => List.Perm.refl rows) (fun insts => List.Perm.refl insts) (by decide)
    threaded_crossedPeriod ⟨readable_crossedPeriod, trivial⟩

end DiskPipeline
end Zabbix
end EsdcFactory
