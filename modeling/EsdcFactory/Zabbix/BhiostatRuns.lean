import EsdcFactory.Zabbix.Bhiostat

/-!
# Reports on bhyve processes

Between two reports the aggregations hold what the calls did that returned since the
last one.  A call is counted for the file of its own entry, since the variable of a
thread is not touched by the others.
-/

namespace EsdcFactory
namespace Zabbix
namespace Bhiostat

/-!
## Threads
-/

theorem follows_of_alternates {prog file : String} {history : List Firing}
    (h : Alternates history) : Follows prog file history := by
  cases history with
  | nil => exact h
  | cons first rest =>
      cases first with
      | entry io => exact h
      | done io => cases h
      | tick => exact h

theorem follows_behind_entry {prog file : String} {io : Io} {rest : List Firing}
    (h : Alternates (.entry io :: rest)) (hfile : io.execname = prog -> io.file = file) :
    Follows prog file rest := by
  cases rest with
  | nil => exact trivial
  | cons next rest =>
      cases next with
      | entry _ => cases h
      | done io' =>
          rcases h with ⟨rfl, hrest⟩
          exact ⟨hfile, hrest⟩
      | tick => cases h

/-- What is left of a history goes with the variables of the threads. -/
def Kept (prog : String) (s : Trace) (history : List Firing) : Prop :=
  forall tid, Follows prog (s.file tid) (history.filter (Firing.isOf tid))

theorem Kept.entered {opts : Options} {s : Trace} {io : Io} {rest : List Firing}
    (h : Kept opts.prog s (.entry io :: rest)) : Kept opts.prog (entered opts io s) rest := by
  intro tid
  have htid := h tid
  by_cases hown : io.tid = tid
  · rw [List.filter_cons_of_pos (by simpa [Firing.isOf] using hown)] at htid
    apply follows_behind_entry htid
    intro hprog
    rw [Bhiostat.entered, if_pos hprog, ← hown]
    exact (Function.update_self io.tid io.file s.file).symm
  · rw [List.filter_cons_of_neg (by simpa [Firing.isOf] using hown)] at htid
    have hfile : (Bhiostat.entered opts io s).file tid = s.file tid := by
      rw [Bhiostat.entered]
      split
      · exact Function.update_of_ne (fun heq => hown heq.symm) io.file s.file
      · rfl
    rw [hfile]
    exact htid

theorem Kept.behind_done {prog : String} {s : Trace} {io : Io} {rest : List Firing}
    (h : Kept prog s (.done io :: rest)) :
    (io.execname = prog -> io.file = s.file io.tid) ∧ Kept prog s rest := by
  have hown : (Firing.done io).isOf io.tid = true := by simp [Firing.isOf]
  constructor
  · have htid := h io.tid
    rw [List.filter_cons_of_pos hown] at htid
    exact htid.left
  · intro tid
    have htid := h tid
    by_cases heq : io.tid = tid
    · rw [List.filter_cons_of_pos (by simpa [Firing.isOf] using heq)] at htid
      exact follows_of_alternates htid.right
    · rw [List.filter_cons_of_neg (by simpa [Firing.isOf] using heq)] at htid
      exact htid

theorem Kept.behind_tick {prog : String} {s : Trace} {rest : List Firing}
    (h : Kept prog s (.tick :: rest)) : Kept prog s rest := by
  intro tid
  exact h tid

theorem Kept.of_file {prog : String} {s s' : Trace} {history : List Firing}
    (h : Kept prog s history) (hfile : s'.file = s.file) : Kept prog s' history := by
  intro tid
  rw [hfile]
  exact h tid

/-!
## Aggregations
-/

/-- The reads or the writes among some calls that are counted. -/
def counted (prog : String) (isRead : Bool) (ios : List Io) : List Io :=
  ios.filter fun io => io.isSeen prog && io.call.isRead == isRead

/-- The aggregations hold what some calls did. -/
structure Tallied (prog : String) (ios : List Io) (s : Trace) : Prop where
  ior : s.ior.Holds Io.key (fun _ => 1) (counted prog true ios)
  iow : s.iow.Holds Io.key (fun _ => 1) (counted prog false ios)
  rbytes : s.rbytes.Holds Io.key Io.result (counted prog true ios)
  wbytes : s.wbytes.Holds Io.key Io.result (counted prog false ios)

theorem tallied_begin (opts : Options) : Tallied opts.prog [] (begin opts) :=
  ⟨Tally.holds_empty, Tally.holds_empty, Tally.holds_empty, Tally.holds_empty⟩

theorem tallied_report (opts : Options) (order : List Row -> List Row) (s : Trace) :
    Tallied opts.prog [] (report opts order s) :=
  ⟨Tally.holds_empty, Tally.holds_empty, Tally.holds_empty, Tally.holds_empty⟩

theorem isSeen_iff {prog : String} {io : Io} :
    io.isSeen prog = true <-> io.execname = prog ∧ io.result ≠ -1 := by
  simp [Io.isSeen]

theorem counted_concat {prog : String} {isRead : Bool} (ios : List Io) {io : Io}
    (hseen : io.isSeen prog = true) (hread : io.call.isRead = isRead) :
    counted prog isRead (ios ++ [io]) = counted prog isRead ios ++ [io] := by
  simp [counted, hseen, hread]

theorem counted_concat_of_not {prog : String} {isRead : Bool} (ios : List Io) {io : Io}
    (h : io.isSeen prog = true -> io.call.isRead ≠ isRead) :
    counted prog isRead (ios ++ [io]) = counted prog isRead ios := by
  have hnot : (io.isSeen prog && io.call.isRead == isRead) = false := by
    simpa using h
  simp [counted, hnot]

theorem Tallied.returned {opts : Options} {ios : List Io} {s : Trace} {io : Io}
    (h : Tallied opts.prog ios s)
    (hfile : io.execname = opts.prog -> io.file = s.file io.tid) :
    Tallied opts.prog (ios ++ [io]) (returned opts io s) := by
  rw [Bhiostat.returned]
  split
  · next hseen =>
      have hkey : (io.pid, s.file io.tid) = io.key := by
        rw [← hfile hseen.left]
        rfl
      rw [← isSeen_iff] at hseen
      rw [hkey]
      cases hread : io.call.isRead with
      | true =>
          have hgrown := counted_concat ios hseen hread
          have hsame : counted opts.prog false (ios ++ [io]) = counted opts.prog false ios :=
            counted_concat_of_not ios fun _ => by simp [hread]
          constructor
          · exact hgrown ▸ h.ior.add io
          · exact hsame ▸ h.iow
          · exact hgrown ▸ h.rbytes.add io
          · exact hsame ▸ h.wbytes
      | false =>
          have hgrown := counted_concat ios hseen hread
          have hsame : counted opts.prog true (ios ++ [io]) = counted opts.prog true ios :=
            counted_concat_of_not ios fun _ => by simp [hread]
          constructor
          · exact hsame ▸ h.ior
          · exact hgrown ▸ h.iow.add io
          · exact hsame ▸ h.rbytes
          · exact hgrown ▸ h.wbytes.add io
  · next hunseen =>
      rw [← isSeen_iff] at hunseen
      have hsame : forall isRead,
          counted opts.prog isRead (ios ++ [io]) = counted opts.prog isRead ios :=
        fun isRead => counted_concat_of_not ios fun hseen => absurd hseen hunseen
      constructor
      · exact hsame true ▸ h.ior
      · exact hsame false ▸ h.iow
      · exact hsame true ▸ h.rbytes
      · exact hsame false ▸ h.wbytes

theorem counted_filter_key (prog : String) (isRead : Bool) (key : Key) (ios : List Io) :
    (counted prog isRead ios).filter (fun io => io.key = key) = seen prog isRead key ios := by
  rw [counted, seen, List.filter_filter]
  congr 1
  funext io
  rw [Bool.and_comm]

theorem sum_map_one {alpha : Type} (l : List alpha) :
    (l.map fun _ => (1 : Word)).sum = (l.length : Word) := by
  simp

theorem Tallied.row {prog : String} {ios : List Io} {s : Trace} (h : Tallied prog ios s)
    (key : Key) : row s key = total prog ios key := by
  rw [Bhiostat.row, total, h.ior.value, h.iow.value, h.rbytes.value, h.wbytes.value]
  simp only [counted_filter_key, sum_map_one]

theorem mem_counted {prog : String} {isRead : Bool} {ios : List Io} {io : Io} :
    io ∈ counted prog isRead ios <->
      io ∈ ios ∧ io.isSeen prog = true ∧ io.call.isRead = isRead := by
  simp [counted]

theorem Tallied.mem_keys {prog : String} {ios : List Io} {s : Trace}
    (h : Tallied prog ios s) (key : Key) :
    key ∈ keys s <-> exists io, io ∈ ios ∧ io.isSeen prog = true ∧ io.key = key := by
  have hkeys : key ∈ keys s <->
      key ∈ s.ior.keys ∨ key ∈ s.iow.keys ∨ key ∈ s.rbytes.keys ∨ key ∈ s.wbytes.keys := by
    simp [keys]
  rw [hkeys, h.ior.keys, h.iow.keys, h.rbytes.keys, h.wbytes.keys]
  constructor
  · intro hsome
    rcases hsome with ⟨io, hio, rfl⟩ | ⟨io, hio, rfl⟩ | ⟨io, hio, rfl⟩ | ⟨io, hio, rfl⟩
    all_goals
      rcases mem_counted.mp hio with ⟨hmem, hseen, _⟩
      exact ⟨io, hmem, hseen, rfl⟩
  · intro hsome
    rcases hsome with ⟨io, hmem, hseen, rfl⟩
    cases hread : io.call.isRead with
    | true => exact Or.inl ⟨io, mem_counted.mpr ⟨hmem, hseen, hread⟩, rfl⟩
    | false => exact Or.inr (Or.inl ⟨io, mem_counted.mpr ⟨hmem, hseen, hread⟩, rfl⟩)

theorem row_key (s : Trace) (key : Key) : (row s key).key = key := rfl

theorem Tallied.isReport {prog : String} {ios : List Io} {s : Trace}
    (h : Tallied prog ios s) : IsReport prog ios (rows s) := by
  have hkeys : (rows s).map Row.key = keys s := by
    rw [rows, List.map_map]
    exact List.map_id _
  constructor
  · rw [hkeys]
    exact List.nodup_dedup _
  · rw [hkeys]
    exact h.mem_keys
  · intro shown hshown
    rcases List.mem_map.mp hshown with ⟨key, _, rfl⟩
    rw [row_key]
    exact h.row key

theorem IsReport.perm {prog : String} {ios : List Io} {shown shown' : List Row}
    (h : IsReport prog ios shown) (hperm : shown'.Perm shown) : IsReport prog ios shown' where
  nodup := (hperm.map Row.key).nodup_iff.mpr h.nodup
  keys := by
    intro key
    rw [(hperm.map Row.key).mem_iff]
    exact h.keys key
  rows := by
    intro shown hshown
    exact h.rows shown (hperm.mem_iff.mp hshown)

/-!
## Runs
-/

/-- What was printed by a report. -/
def reportText (opts : Options) (shown : List Row) : List (List Char) :=
  shown.map Row.text ++ if opts.printTicks then [tickMark] else []

theorem ticks_of_not {firing : Firing} (h : firing.isTick = false) (history : List Firing) :
    ticks (firing :: history) = ticks history := by
  simp [ticks, h]

theorem ticks_tick (history : List Firing) : ticks (.tick :: history) = ticks history + 1 :=
  List.countP_cons_of_pos rfl

/-- A stretch without a report. -/
theorem run_before {opts : Options} (order : List Row -> List Row) {ios : List Io}
    {before rest : List Firing} {s : Trace} (htallied : Tallied opts.prog ios s)
    (hsecs : (ticks before : Int) < s.secs) (hkept : Kept opts.prog s (before ++ rest)) :
    Tallied opts.prog (ios ++ finished before) (run opts order s before) ∧
      (run opts order s before).secs = s.secs - ticks before ∧
      (run opts order s before).printed = s.printed ∧
      Kept opts.prog (run opts order s before) rest := by
  induction before generalizing s ios with
  | nil =>
      refine ⟨?_, ?_, rfl, hkept⟩
      · rw [finished, List.filterMap_nil, List.append_nil]
        exact htallied
      · simp [run, ticks]
  | cons firing before ih =>
      cases firing with
      | entry io =>
          rw [ticks_of_not rfl] at hsecs
          have hentered : (entered opts io s).secs = s.secs ∧
              (entered opts io s).printed = s.printed ∧
              Tallied opts.prog ios (entered opts io s) := by
            rw [entered]
            split
            · exact ⟨rfl, rfl, htallied.ior, htallied.iow, htallied.rbytes, htallied.wbytes⟩
            · exact ⟨rfl, rfl, htallied⟩
          rcases hentered with ⟨hsame, hprinted, hstill⟩
          rw [← hsame, ← hprinted, ticks_of_not rfl]
          exact ih hstill (hsame ▸ hsecs) hkept.entered
      | done io =>
          rw [ticks_of_not rfl] at hsecs
          have hdone : (returned opts io s).secs = s.secs ∧
              (returned opts io s).printed = s.printed ∧
              (returned opts io s).file = s.file := by
            rw [returned]
            split
            · dsimp only
              split
              · exact ⟨rfl, rfl, rfl⟩
              · exact ⟨rfl, rfl, rfl⟩
            · exact ⟨rfl, rfl, rfl⟩
          rcases hdone with ⟨hsame, hprinted, hfile⟩
          rcases hkept.behind_done with ⟨hown, hrest⟩
          have hfinished : ios ++ finished (.done io :: before) = ios ++ [io] ++ finished before := by
            rw [List.append_assoc]
            rfl
          rw [← hsame, ← hprinted, ticks_of_not rfl, hfinished]
          exact ih (htallied.returned hown) (hsame ▸ hsecs) (hrest.of_file hfile)
      | tick =>
          rw [ticks_tick, Nat.cast_add, Nat.cast_one] at hsecs
          have hsecond : second opts order s = { s with secs := s.secs - 1 } := by
            rw [second]
            exact if_neg (by dsimp only; omega)
          have hstill : Tallied opts.prog ios { s with secs := s.secs - 1 } :=
            ⟨htallied.ior, htallied.iow, htallied.rbytes, htallied.wbytes⟩
          have hless : (ticks before : Int) < s.secs - 1 := by omega
          rcases ih hstill hless (hkept.behind_tick.of_file rfl) with
            ⟨hthen, hleft, hprinted, hrest⟩
          have hrun : run opts order s (.tick :: before) =
              run opts order { s with secs := s.secs - 1 } before := by
            rw [run, List.foldl_cons, fire, hsecond]
            rfl
          rw [hrun, ticks_tick, Nat.cast_add, Nat.cast_one]
          refine ⟨hthen, ?_, hprinted, hrest⟩
          rw [hleft]
          dsimp only
          omega

/-- The aggregations are empty, and an interval begins. -/
structure AtStart (opts : Options) (s : Trace) : Prop where
  tallied : Tallied opts.prog [] s
  secs : s.secs = opts.interval

theorem atStart_begin (opts : Options) : AtStart opts (begin opts) where
  tallied := tallied_begin opts
  secs := rfl

theorem run_append (opts : Options) (order : List Row -> List Row) (s : Trace)
    (history rest : List Firing) :
    run opts order s (history ++ rest) = run opts order (run opts order s history) rest :=
  List.foldl_append

/-- An interval ends with a report of the calls that returned in it. -/
theorem run_period {opts : Options} {order : List Row -> List Row}
    (horder : forall shown, (order shown).Perm shown) (period : Period opts.interval)
    {rest : List Firing} {s : Trace} (hstart : AtStart opts s)
    (hkept : Kept opts.prog s (period.firings ++ rest)) :
    exists shown, IsReport opts.prog (finished period.firings) shown ∧
      AtStart opts (run opts order s period.firings) ∧
      (run opts order s period.firings).printed = s.printed ++ reportText opts shown ∧
      Kept opts.prog (run opts order s period.firings) rest := by
  have hlength := period.length
  have hsecs : (ticks period.before : Int) < s.secs := by
    rw [hstart.secs]
    omega
  rw [Period.firings, List.append_assoc] at hkept
  rcases run_before order hstart.tallied hsecs hkept with
    ⟨htallied, hleft, hprinted, hrest⟩
  have hfinished : finished period.firings = finished period.before := by
    rw [Period.firings, finished, List.filterMap_append]
    exact List.append_nil _
  have hlast : (run opts order s period.before).secs - 1 = 0 := by
    rw [hleft, hstart.secs]
    omega
  have hrun : run opts order s period.firings =
      report opts order { run opts order s period.before with
        secs := (run opts order s period.before).secs - 1 } := by
    rw [Period.firings, run_append]
    exact if_pos hlast
  rw [hrun, hfinished]
  exists order (rows (run opts order s period.before))
  refine ⟨?_, ⟨tallied_report opts order _, rfl⟩, ?_, hrest.behind_tick.of_file rfl⟩
  · exact htallied.isReport.perm (horder _)
  · rw [report, trunc, reportText, ← List.append_assoc, ← hprinted]
    rfl

theorem run_periods {opts : Options} {order : List Row -> List Row}
    (horder : forall shown, (order shown).Perm shown) {periods : List (Period opts.interval)}
    {rest : List Firing} {s : Trace} (hstart : AtStart opts s)
    (hkept : Kept opts.prog s (periods.flatMap Period.firings ++ rest)) :
    exists reports,
      List.Forall₂ (fun period shown => IsReport opts.prog (finished period.firings) shown)
        periods reports ∧
      AtStart opts (run opts order s (periods.flatMap Period.firings)) ∧
      (run opts order s (periods.flatMap Period.firings)).printed =
        s.printed ++ reports.flatMap (reportText opts) ∧
      Kept opts.prog (run opts order s (periods.flatMap Period.firings)) rest := by
  induction periods generalizing s with
  | nil =>
      refine ⟨[], List.Forall₂.nil, hstart, ?_, hkept⟩
      exact (List.append_nil _).symm
  | cons period periods ih =>
      rw [List.flatMap_cons, List.append_assoc] at hkept
      rcases run_period horder period hstart hkept with ⟨shown, hreport, hnext, hprinted, hrest⟩
      rcases ih hnext hrest with ⟨reports, hreports, hend, hprinted2, hrest2⟩
      rw [List.flatMap_cons, run_append]
      refine ⟨shown :: reports, hreports.cons hreport, hend, ?_, hrest2⟩
      rw [hprinted2, hprinted, List.append_assoc]
      rfl

theorem exists_periods {interval : Nat} (hpos : 0 < interval) (history : List Firing) :
    exists (periods : List (Period interval)) (rest : List Firing),
      history = periods.flatMap Period.firings ++ rest ∧ ticks rest < interval := by
  induction history using List.reverseRecOn with
  | nil => exact ⟨[], [], rfl, hpos⟩
  | append_singleton history firing ih =>
      rcases ih with ⟨periods, rest, rfl, hless⟩
      by_cases hlast : firing = .tick ∧ ticks rest + 1 = interval
      · rcases hlast with ⟨rfl, hlength⟩
        refine ⟨periods ++ [⟨rest, hlength⟩], [], ?_, hpos⟩
        rw [List.flatMap_append, List.append_nil, List.append_assoc]
        simp [Period.firings]
      · refine ⟨periods, rest ++ [firing], List.append_assoc .., ?_⟩
        rw [ticks, List.countP_append]
        rw [ticks] at hless hlast
        cases firing with
        | entry io => simpa [List.countP_cons, Firing.isTick] using hless
        | done io => simpa [List.countP_cons, Firing.isTick] using hless
        | tick =>
            have hne : List.countP Firing.isTick rest + 1 ≠ interval :=
              fun heq => hlast ⟨rfl, heq⟩
            simp only [List.countP_cons, List.countP_nil, Firing.isTick, if_pos]
            omega

/-!
## Sums
-/

/-- The numbers of a row. -/
def numbers : List (Row -> Word) := [Row.ior, Row.iow, Row.rbytes, Row.wbytes]

/-- What some rows say of a process and file, taken together. -/
def sumOf (number : Row -> Word) (key : Key) (shown : List Row) : Word :=
  ((shown.filter fun row => row.key = key).map number).sum

theorem total_append {number : Row -> Word} (hnumber : number ∈ numbers) (prog : String)
    (ios ios' : List Io) (key : Key) :
    number (total prog (ios ++ ios') key) =
      number (total prog ios key) + number (total prog ios' key) := by
  simp only [numbers, List.mem_cons, List.not_mem_nil, or_false] at hnumber
  rcases hnumber with rfl | rfl | rfl | rfl
  · simp [total, seen]
  · simp [total, seen]
  · simp [total, seen]
  · simp [total, seen]

theorem total_unseen {number : Row -> Word} (hnumber : number ∈ numbers) {prog : String}
    {ios : List Io} {key : Key}
    (h : ¬ exists io, io ∈ ios ∧ io.isSeen prog = true ∧ io.key = key) :
    number (total prog ios key) = 0 := by
  have hnone : forall isRead, seen prog isRead key ios = [] := by
    intro isRead
    rw [seen, List.filter_eq_nil_iff]
    intro io hio hcounted
    simp only [Bool.and_eq_true, decide_eq_true_eq] at hcounted
    exact h ⟨io, hio, hcounted.left.left, hcounted.right⟩
  simp only [numbers, List.mem_cons, List.not_mem_nil, or_false] at hnumber
  rcases hnumber with rfl | rfl | rfl | rfl
  · simp [total, hnone]
  · simp [total, hnone]
  · simp [total, hnone]
  · simp [total, hnone]

theorem filter_key_of_nodup {shown : List Row} (h : (shown.map Row.key).Nodup) {row : Row}
    (hrow : row ∈ shown) : shown.filter (fun other => other.key = row.key) = [row] := by
  induction shown with
  | nil => cases hrow
  | cons first rest ih =>
      rw [List.map_cons, List.nodup_cons] at h
      rcases List.mem_cons.mp hrow with rfl | hrest
      · rw [List.filter_cons_of_pos (by simp), List.filter_eq_nil_iff.mpr]
        intro other hother hsame
        simp only [decide_eq_true_eq] at hsame
        exact h.left (hsame ▸ List.mem_map_of_mem hother)
      · have hne : first.key ≠ row.key :=
          fun heq => h.left (heq ▸ List.mem_map_of_mem hrest)
        rw [List.filter_cons_of_neg (by simpa using hne)]
        exact ih h.right hrest

theorem IsReport.sumOf {number : Row -> Word} (hnumber : number ∈ numbers) {prog : String}
    {ios : List Io} {shown : List Row} (h : IsReport prog ios shown) (key : Key) :
    sumOf number key shown = number (total prog ios key) := by
  by_cases hkey : key ∈ shown.map Row.key
  · rcases List.mem_map.mp hkey with ⟨row, hrow, rfl⟩
    rw [Bhiostat.sumOf, filter_key_of_nodup h.nodup hrow, ← h.rows row hrow]
    simp
  · have hnone : shown.filter (fun row => row.key = key) = [] := by
      rw [List.filter_eq_nil_iff]
      intro row hrow hsame
      simp only [decide_eq_true_eq] at hsame
      exact hkey (hsame ▸ List.mem_map_of_mem hrow)
    rw [Bhiostat.sumOf, hnone, total_unseen hnumber (mt (h.keys key).mpr hkey)]
    rfl

theorem finished_append (history rest : List Firing) :
    finished (history ++ rest) = finished history ++ finished rest :=
  List.filterMap_append

theorem sumOf_append (number : Row -> Word) (key : Key) (shown shown' : List Row) :
    sumOf number key (shown ++ shown') = sumOf number key shown + sumOf number key shown' := by
  simp [sumOf]

theorem sumOf_reports {number : Row -> Word} (hnumber : number ∈ numbers) {prog : String}
    {interval : Nat} {periods : List (Period interval)} {reports : List (List Row)}
    (h : List.Forall₂ (fun period shown => IsReport prog (finished period.firings) shown)
      periods reports) (key : Key) :
    sumOf number key reports.flatten =
      number (total prog (finished (periods.flatMap Period.firings)) key) := by
  induction h with
  | nil => exact (total_unseen hnumber (by simp [finished])).symm
  | cons hreport _ ih =>
      rw [List.flatten_cons, sumOf_append, hreport.sumOf hnumber, ih, List.flatMap_cons,
        finished_append, total_append hnumber]

/-!
## All of a history
-/

/--
A history falls into intervals and a rest.  The output is one report for each of the
intervals, and the aggregations hold what was done in the rest.  For each process and
file the reports and what is still to come add up to all that was done.
-/
def Covered (opts : Options) (order : List Row -> List Row) (history : List Firing) : Prop :=
  exists (periods : List (Period opts.interval)) (rest : List Firing)
      (reports : List (List Row)),
    history = periods.flatMap Period.firings ++ rest ∧ ticks rest < opts.interval ∧
    List.Forall₂ (fun period shown => IsReport opts.prog (finished period.firings) shown)
      periods reports ∧
    (run opts order (begin opts) history).printed =
      (if opts.headline then [header] else []) ++ reports.flatMap (reportText opts) ∧
    IsReport opts.prog (finished rest) (rows (run opts order (begin opts) history)) ∧
    forall number, number ∈ numbers -> forall key,
      sumOf number key reports.flatten +
          number (row (run opts order (begin opts) history) key) =
        number (total opts.prog (finished history) key)

theorem reports_cover_history (opts : Options) (order : List Row -> List Row)
    (horder : forall shown, (order shown).Perm shown) (history : List Firing)
    (h : Threaded opts.prog history) : Covered opts order history := by
  rcases exists_periods opts.positive history with ⟨periods, rest, rfl, hless⟩
  rcases run_periods horder (atStart_begin opts) h with
    ⟨reports, hreports, hstart, hprinted, hkept⟩
  have hsecs : (ticks rest : Int) <
      (run opts order (begin opts) (periods.flatMap Period.firings)).secs := by
    rw [hstart.secs]
    omega
  rw [← List.append_nil rest] at hkept
  rcases run_before order hstart.tallied hsecs hkept with
    ⟨htallied, _, hsame, _⟩
  rw [List.nil_append] at htallied
  refine ⟨periods, rest, reports, rfl, hless, hreports, ?_, ?_, ?_⟩
  · rw [run_append, hsame, hprinted]
    rfl
  · rw [run_append]
    exact htallied.isReport
  · intro number hnumber key
    rw [sumOf_reports hnumber hreports, run_append, htallied.row, finished_append,
      total_append hnumber]

def reader : Io := ⟨1, 4711, "bhyve", .pread, "disk0", 512⟩

def writer : Io := ⟨2, 4711, "bhyve", .pwritev, "disk1", 4096⟩

/-- The calls of two threads, one of which is still under way at the report. -/
def crossed : List Firing :=
  [.entry reader, .entry writer, .done reader, .tick, .done writer, .entry reader, .tick,
    .done reader]

theorem threaded_crossed : Threaded "bhyve" crossed := by
  intro tid
  by_cases hreader : tid = 1
  · subst hreader
    exact ⟨rfl, rfl, trivial⟩
  · by_cases hwriter : tid = 2
    · subst hwriter
      exact ⟨rfl, trivial⟩
    · have hnone : crossed.filter (Firing.isOf tid) = [] := by
        have hreader : 1 ≠ tid := fun heq => hreader heq.symm
        have hwriter : 2 ≠ tid := fun heq => hwriter heq.symm
        simp [crossed, Firing.isOf, reader, writer, hreader, hwriter]
      rw [hnone]
      exact trivial

theorem reports_cover_crossed : Covered ⟨2, by decide, "bhyve", false, true⟩ id crossed :=
  reports_cover_history ⟨2, by decide, "bhyve", false, true⟩ id
    (fun shown => List.Perm.refl shown) crossed threaded_crossed

end Bhiostat
end Zabbix
end EsdcFactory
