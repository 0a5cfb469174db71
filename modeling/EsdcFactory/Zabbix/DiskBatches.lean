import EsdcFactory.Zabbix.DiskMonitor

/-!
# Batches of the disk monitor

The batches of a run are good as long as every line is attributed to the machine
it belongs to.  Between two ticks the program collects the samples of the lines
and takes their disks off the list of those that are to be filled in.
-/

namespace EsdcFactory
namespace Zabbix
namespace DiskMonitor

open Text

/-!
## Runs without defects
-/

/--
The lookup for a line ends with the machine that the line belongs to: the process
is still there, or is gone and the machine looked at before is the same.  The text
of the line is nothing that `printf` would take for a conversion.
-/
structure IsAttributable (s : Monitor) (line : Line) : Prop where
  lookup : (line.table line.pid).getD s.uuid = line.owner.text
  plain : forall word, word ∈ [line.disk, line.ior, line.iow, line.br, line.bw] ->
    '%' ∉ word.toList

/-- Every line with a disk is attributable when it is read. -/
def Attributed (order : List String -> List String) : Monitor -> List Event -> Prop
  | _, [] => True
  | s, .line line :: rest =>
      (line.isRecognized = true -> IsAttributable s line) ∧
        Attributed order (readLine line s) rest
  | s, .tick date zones :: rest =>
      forall s', tick order date zones s = some s' -> Attributed order s' rest

/-- No disk that is active at the start of an interval has two lines in it. -/
def OncePerInterval : List Zone -> List Interval -> Prop
  | _, [] => True
  | zones, interval :: intervals =>
      (forall uuid disk, (uuid, disk) ∈ zoneDisks zones ->
        (interval.lines.filter fun line => line.isFor uuid disk).length ≤ 1) ∧
      OncePerInterval interval.zones intervals

/-!
## Names
-/

theorem isDiskName_text {disk : String} (h : isDiskName disk = true) :
    exists number, disk.toList = "disk".toList ++ number ∧
      number.all Char.isDigit = true := by
  rcases Bool.and_eq_true_iff.mp h with ⟨hbegins, hdigits⟩
  rcases List.isPrefixOf_iff_prefix.mp hbegins with ⟨number, hnumber⟩
  exists number
  constructor
  · exact hnumber.symm
  · rw [← hnumber] at hdigits
    exact hdigits

theorem isDiskName_not_mem {disk : String} (h : isDiskName disk = true) {c : Char}
    (hletter : c ∉ "disk".toList) (hdigit : c.isDigit = false) : c ∉ disk.toList := by
  rcases isDiskName_text h with ⟨number, htext, hnumber⟩
  rw [htext, List.mem_append]
  intro hparts
  rcases hparts with hmem | hmem
  · exact hletter hmem
  · have htrue := List.all_eq_true.mp hnumber c hmem
    rw [hdigit] at htrue
    cases htrue

theorem isRecognized_of_isDiskName {line : Line} (h : isDiskName line.disk = true) :
    line.isRecognized = true :=
  (Bool.and_eq_true_iff.mp h).left

theorem mem_zoneDisks {zones : List Zone} {uuid disk : String}
    (h : (uuid, disk) ∈ zoneDisks zones) :
    (exists machine : Uuid, machine.text = uuid) ∧ isDiskName disk = true := by
  rcases List.mem_flatMap.mp h with ⟨zone, _, hzone⟩
  rcases List.mem_map.mp hzone with ⟨disk', hdisk, heq⟩
  cases heq
  exact ⟨⟨zone.uuid, rfl⟩, zone.names disk hdisk⟩

theorem subscript_toList (uuid disk : String) :
    (subscript uuid disk).toList = uuid.toList ++ '_' :: disk.toList := by
  simp [subscript]

theorem subscript_split (machine : Uuid) {disk : String}
    (h : '_' ∉ disk.toList) :
    String.ofList (before '_' (subscript machine.text disk).toList) = machine.text ∧
      String.ofList (before '_' (after '_' (subscript machine.text disk).toList)) =
        disk := by
  rw [subscript_toList]
  constructor
  · rw [before_append_cons _ machine.noUnderscore, String.ofList_toList]
  · rw [after_append_cons _ machine.noUnderscore, before_eq_self_iff.mpr h,
      String.ofList_toList]

theorem subscript_inj {machine machine' : Uuid} {disk disk' : String}
    (h : subscript machine.text disk = subscript machine'.text disk') :
    machine.text = machine'.text ∧ disk = disk' := by
  have hlist := congrArg String.toList h
  rw [subscript_toList, subscript_toList] at hlist
  have hleft := congrArg (before '_') hlist
  have hright := congrArg (after '_') hlist
  rw [before_append_cons _ machine.noUnderscore,
    before_append_cons _ machine'.noUnderscore] at hleft
  rw [after_append_cons _ machine.noUnderscore,
    after_append_cons _ machine'.noUnderscore] at hright
  exact ⟨String.toList_inj.mp hleft, String.toList_inj.mp hright⟩

/-!
## Texts without conversions
-/

theorem printf_of_noPercent {format : List Char} (h : '%' ∉ format) :
    printf format = some format := by
  induction format with
  | nil => rfl
  | cons c rest ih =>
      have hc : c ≠ '%' := fun heq => h (heq ▸ List.mem_cons_self)
      have hrest := ih fun hmem => h (List.mem_cons_of_mem c hmem)
      rw [printf, hrest]
      · rfl
      · intro _ hpercent
        exact absurd hpercent hc
      · exact hc

/-- A sample without a percent sign. -/
def Sample.IsPlain (sample : Sample) : Prop :=
  '%' ∉ sample.uuid.toList ∧ '%' ∉ sample.disk.toList ∧ '%' ∉ sample.value.toList

theorem Sample.IsPlain.text {sample : Sample} (h : sample.IsPlain) :
    '%' ∉ sample.text := by
  have hname : forall item : Item, '%' ∉ item.name.toList := by
    intro item
    cases item <;> decide
  have hdate : '%' ∉ (toString sample.date).toList := by
    intro hmem
    have hdigit := Nat.isDigit_of_mem_toDigits (b := 10) (by decide) (by decide)
      (show '%' ∈ Nat.toDigits 10 sample.date by simpa [Nat.repr] using hmem)
    cases hdigit
  rcases h with ⟨huuid, hdisk, hvalue⟩
  simp only [Sample.text, List.mem_append, List.mem_cons, not_or]
  refine ⟨huuid, by decide, hdisk, by decide, hname _, by decide, hdate, by decide,
    hvalue, by decide, ?_⟩
  exact List.not_mem_nil

theorem dataText_noPercent {samples : List Sample}
    (h : forall sample, sample ∈ samples -> sample.IsPlain) :
    '%' ∉ dataText samples := by
  intro hmem
  rcases List.mem_flatMap.mp hmem with ⟨sample, hsample, htext⟩
  exact (h sample hsample).text htext

/-!
## Lines of an interval
-/

/-- The samples of a line under the machine that it belongs to. -/
def ownSamples (line : Line) : List Sample :=
  if line.isRecognized then line.samples line.owner.text else []

/-- A line of the interval is for the disk with this subscript. -/
def isHit (lines : List Line) (inst : String) : Bool :=
  lines.any fun line =>
    line.isRecognized && inst = subscript line.owner.text line.disk

/-- What lines leave behind: their samples, and the disks that none of them is for. -/
structure Collected (s : Monitor) (lines : List Line) (s' : Monitor) : Prop where
  active : s'.activeDisks = s.activeDisks.filter fun inst => !isHit lines inst
  data : s'.zabbixData = s.zabbixData ++ lines.flatMap ownSamples
  sent : s'.sent = s.sent

theorem Collected.nil (s : Monitor) : Collected s [] s where
  active := by simp [isHit]
  data := by simp
  sent := rfl

theorem collected_readLine {s : Monitor} {line : Line}
    (h : line.isRecognized = true -> IsAttributable s line) :
    Collected s [line] (readLine line s) := by
  by_cases hrec : line.isRecognized = true
  · have huuid := (h hrec).lookup
    constructor
    · simp [readLine, pidToUuid, isHit, hrec, huuid]
    · simp [readLine, pidToUuid, ownSamples, hrec, huuid]
    · simp [readLine, pidToUuid, hrec]
  · constructor
    · simp [readLine, isHit, hrec]
    · simp [readLine, ownSamples, hrec]
    · simp [readLine, hrec]

theorem Collected.cons {s s' s'' : Monitor} {line : Line} {lines : List Line}
    (h : Collected s [line] s') (h' : Collected s' lines s'') :
    Collected s (line :: lines) s'' where
  active := by
    rw [h'.active, h.active, List.filter_filter]
    congr 1
    funext inst
    simp [isHit, Bool.and_comm]
  data := by
    rw [h'.data, h.data]
    simp
  sent := h'.sent.trans h.sent

theorem ownSamples_isPlain {s : Monitor} {line : Line}
    (h : line.isRecognized = true -> IsAttributable s line) :
    forall sample, sample ∈ ownSamples line -> sample.IsPlain := by
  intro sample hsample
  unfold ownSamples at hsample
  split at hsample
  · rename_i hrec
    have hplain := (h hrec).plain
    simp only [List.forall_mem_cons] at hplain
    rcases hplain with ⟨hdisk, hior, hiow, hbr, hbw, _⟩
    simp only [Line.samples, List.mem_cons, List.not_mem_nil, or_false] at hsample
    rcases hsample with rfl | rfl | rfl | rfl
    · exact ⟨line.owner.noPercent, hdisk, hior⟩
    · exact ⟨line.owner.noPercent, hdisk, hiow⟩
    · exact ⟨line.owner.noPercent, hdisk, hbr⟩
    · exact ⟨line.owner.noPercent, hdisk, hbw⟩
  · cases hsample

/-- The run over attributable lines. -/
theorem run_lines {order : List String -> List String} {s : Monitor}
    {lines : List Line} {rest : List Event}
    (h : Attributed order s (lines.map Event.line ++ rest)) :
    exists s', Collected s lines s' ∧ Attributed order s' rest ∧
      run order s (lines.map Event.line ++ rest) = run order s' rest ∧
      forall sample, sample ∈ lines.flatMap ownSamples -> sample.IsPlain := by
  induction lines generalizing s with
  | nil => exact ⟨s, Collected.nil s, h, rfl, by simp⟩
  | cons line lines ih =>
      rcases h with ⟨hline, hlines⟩
      rcases ih hlines with ⟨s', hcollected, hrest, hrun, hplain⟩
      refine ⟨s', (collected_readLine hline).cons hcollected, hrest, hrun, ?_⟩
      intro sample hsample
      rw [List.flatMap_cons, List.mem_append] at hsample
      rcases hsample with hsample | hsample
      · exact ownSamples_isPlain hline sample hsample
      · exact hplain sample hsample

/-!
## Zeros at the tick
-/

/-- The zeros that are filled in for a subscript. -/
def filled (date : String -> Nat) (inst : String) : List Sample :=
  zeros (String.ofList (before '_' inst.toList))
    (String.ofList (before '_' (after '_' inst.toList))) (date inst)

theorem filled_subscript (date : String -> Nat) {zones : List Zone} {uuid disk : String}
    (h : (uuid, disk) ∈ zoneDisks zones) :
    filled date (subscript uuid disk) = zeros uuid disk (date (subscript uuid disk)) := by
  rcases mem_zoneDisks h with ⟨⟨machine, rfl⟩, hname⟩
  have hsplit := subscript_split machine (isDiskName_not_mem hname (c := '_')
    (by decide) (by decide))
  rw [filled, hsplit.left, hsplit.right]

theorem foldl_fillZeros (date : String -> Nat) (insts : List String) (s : Monitor) :
    (insts.foldl (fillZeros date) s).zabbixData =
        s.zabbixData ++ insts.flatMap (filled date) ∧
      (insts.foldl (fillZeros date) s).sent = s.sent := by
  induction insts generalizing s with
  | nil => simp
  | cons inst insts ih =>
      rcases ih (fillZeros date s inst) with ⟨hdata, hsent⟩
      constructor
      · rw [List.foldl_cons, hdata, List.flatMap_cons, ← List.append_assoc]
        rfl
      · rw [List.foldl_cons, hsent]
        rfl

theorem mem_activeSubscripts_iff {zones : List Zone} {inst : String} :
    inst ∈ activeSubscripts zones <->
      exists uuid disk, (uuid, disk) ∈ zoneDisks zones ∧ inst = subscript uuid disk := by
  simp only [activeSubscripts, List.mem_dedup, List.mem_map, Prod.exists]
  constructor
  · intro h
    rcases h with ⟨uuid, disk, hmem, rfl⟩
    exact ⟨uuid, disk, hmem, rfl⟩
  · intro h
    rcases h with ⟨uuid, disk, hmem, rfl⟩
    exact ⟨uuid, disk, hmem, rfl⟩

def isOf (uuid disk : String) (sample : Sample) : Bool :=
  sample.uuid = uuid && sample.disk = disk

theorem zeros_filter_isOf (uuid disk uuid' disk' : String) (date : Nat) :
    (zeros uuid disk date).filter (isOf uuid' disk') =
      if uuid = uuid' ∧ disk = disk' then zeros uuid disk date else [] := by
  by_cases h : uuid = uuid' ∧ disk = disk'
  · simp [zeros, isOf, h]
  · have hfalse : (decide (uuid = uuid') && decide (disk = disk')) = false := by
      simpa using h
    simp [zeros, isOf, hfalse, h]

theorem samples_filter_isOf (line : Line) (uuid disk : String) :
    (line.samples line.owner.text).filter (isOf uuid disk) =
      if line.isFor uuid disk then line.samples uuid else [] := by
  by_cases h : line.owner.text = uuid ∧ line.disk = disk
  · simp [Line.samples, isOf, Line.isFor, h]
  · have hfalse : (decide (line.owner.text = uuid) && decide (line.disk = disk)) =
        false := by
      simpa using h
    simp [Line.samples, isOf, Line.isFor, hfalse]

theorem filled_filter_isOf (date : String -> Nat) {zones : List Zone}
    {insts : List String} (hnodup : insts.Nodup)
    (hsub : forall inst, inst ∈ insts -> inst ∈ activeSubscripts zones)
    {uuid disk : String} (h : (uuid, disk) ∈ zoneDisks zones) :
    (insts.flatMap (filled date)).filter (isOf uuid disk) =
      if subscript uuid disk ∈ insts then
        zeros uuid disk (date (subscript uuid disk)) else [] := by
  rcases mem_zoneDisks h with ⟨⟨machine, rfl⟩, _⟩
  induction insts with
  | nil => simp
  | cons inst insts ih =>
      rcases List.nodup_cons.mp hnodup with ⟨hnot, hnodup⟩
      have hrest := ih hnodup fun i hi => hsub i (List.mem_cons_of_mem inst hi)
      rcases mem_activeSubscripts_iff.mp (hsub inst List.mem_cons_self) with
        ⟨uuid', disk', hmem, rfl⟩
      rcases mem_zoneDisks hmem with ⟨⟨machine', rfl⟩, _⟩
      rw [List.flatMap_cons, List.filter_append, hrest, filled_subscript date hmem,
        zeros_filter_isOf]
      by_cases hsame : subscript machine'.text disk' = subscript machine.text disk
      · rcases subscript_inj hsame with ⟨huuid, rfl⟩
        rw [huuid] at hnot ⊢
        simp [hnot]
      · have hne : ¬ (machine'.text = machine.text ∧ disk' = disk) := by
          intro hparts
          rcases hparts with ⟨huuid, rfl⟩
          exact hsame (by rw [huuid])
        have hne' : subscript machine.text disk ≠ subscript machine'.text disk' :=
          fun heq => hsame heq.symm
        simp [hne, hne']

/-!
## One interval
-/

theorem filter_eq_find? {alpha : Type} {p : alpha -> Bool} {l : List alpha}
    (h : (l.filter p).length ≤ 1) : l.filter p = (l.find? p).toList := by
  rw [← List.head?_filter]
  cases hfilter : l.filter p with
  | nil => rfl
  | cons first rest =>
      rw [hfilter, List.length_cons] at h
      have hrest : rest = [] := List.eq_nil_of_length_eq_zero (by omega)
      simp [hrest]

theorem ownSamples_filter_isOf (lines : List Line) {uuid disk : String}
    (h : isDiskName disk = true) :
    (lines.flatMap ownSamples).filter (isOf uuid disk) =
      (lines.filter fun line => line.isFor uuid disk).flatMap
        fun line => line.samples uuid := by
  induction lines with
  | nil => rfl
  | cons line lines ih =>
      rw [List.flatMap_cons, List.filter_append, ih, List.filter_cons]
      by_cases hfor : line.isFor uuid disk = true
      · have hdisk : line.disk = disk := by
          simpa using (Bool.and_eq_true_iff.mp hfor).right
        have hrec : line.isRecognized = true :=
          isRecognized_of_isDiskName (hdisk.symm ▸ h)
        rw [ownSamples, if_pos hrec, samples_filter_isOf, if_pos hfor, if_pos hfor,
          List.flatMap_cons]
      · rw [if_neg hfor]
        have hnone : (ownSamples line).filter (isOf uuid disk) = [] := by
          unfold ownSamples
          split
          · rw [samples_filter_isOf, if_neg hfor]
          · rfl
        rw [hnone, List.nil_append]

/-- A disk is hit by the lines exactly when one of them is for it. -/
theorem isHit_subscript_iff {lines : List Line} (machine : Uuid) {disk : String}
    (h : isDiskName disk = true) :
    isHit lines (subscript machine.text disk) = true <->
      exists line, line ∈ lines ∧ line.isFor machine.text disk = true := by
  simp only [isHit, List.any_eq_true, Bool.and_eq_true, decide_eq_true_eq, Line.isFor]
  constructor
  · intro hparts
    rcases hparts with ⟨line, hmem, _, heq⟩
    rcases subscript_inj heq with ⟨huuid, hdisk⟩
    exact ⟨line, hmem, huuid.symm, hdisk.symm⟩
  · intro hparts
    rcases hparts with ⟨line, hmem, huuid, hdisk⟩
    refine ⟨line, hmem, isRecognized_of_isDiskName (hdisk.symm ▸ h), ?_⟩
    rw [huuid, hdisk]

/-- The program is at the start of an interval. -/
structure AtStart (zones : List Zone) (s : Monitor) : Prop where
  active : s.activeDisks = activeSubscripts zones
  data : s.zabbixData = []

/-- The samples that are sent for the lines of an interval. -/
theorem isGood_of_collected {order : List String -> List String}
    (horder : forall insts, (order insts).Perm insts) {zones : List Zone}
    {interval : Interval} {s s' : Monitor} (hstart : AtStart zones s)
    (honce : forall uuid disk, (uuid, disk) ∈ zoneDisks zones ->
      (interval.lines.filter fun line => line.isFor uuid disk).length ≤ 1)
    (h : Collected s interval.lines s') {samples : List Sample}
    (hsamples : samples = s'.zabbixData ++
      (order s'.activeDisks).flatMap (filled interval.date)) :
    IsGood zones interval ⟨samples, dataText samples⟩ := by
  have hperm := horder s'.activeDisks
  have hactive : forall inst, inst ∈ order s'.activeDisks <->
      inst ∈ activeSubscripts zones ∧ isHit interval.lines inst = false := by
    intro inst
    rw [hperm.mem_iff, h.active, hstart.active, List.mem_filter, Bool.not_eq_true']
  have hnodup : (order s'.activeDisks).Nodup := by
    rw [hperm.nodup_iff, h.active, hstart.active]
    exact (List.nodup_dedup _).filter _
  rw [h.data, hstart.data, List.nil_append] at hsamples
  constructor
  · intro sample hsample
    rw [hsamples, List.mem_append] at hsample
    rcases hsample with hown | hzero
    · rcases List.mem_flatMap.mp hown with ⟨line, hline, hown⟩
      unfold ownSamples at hown
      split at hown
      · rename_i hrec
        exact Or.inl ⟨line, hline, hrec, hown⟩
      · cases hown
    · rcases List.mem_flatMap.mp hzero with ⟨inst, hinst, hzero⟩
      rcases mem_activeSubscripts_iff.mp ((hactive inst).mp hinst).left with
        ⟨uuid, disk, hmem, rfl⟩
      rw [filled_subscript interval.date hmem] at hzero
      simp only [zeros, List.mem_cons, List.not_mem_nil, or_false] at hzero
      apply Or.inr
      rcases hzero with rfl | rfl | rfl | rfl <;> exact ⟨hmem, rfl⟩
  · intro uuid disk hmem
    rcases mem_zoneDisks hmem with ⟨⟨machine, rfl⟩, hname⟩
    show samples.filter (isOf machine.text disk) = _
    rw [hsamples, List.filter_append, ownSamples_filter_isOf _ hname,
      filled_filter_isOf interval.date hnodup (fun inst hi => ((hactive inst).mp hi).left)
        hmem, filter_eq_find? (honce _ _ hmem), due]
    cases hfind : interval.lines.find? fun line => line.isFor machine.text disk with
    | some line =>
        -- the disk is not filled in, because the line took it off the list
        have hhit : isHit interval.lines (subscript machine.text disk) = true :=
          (isHit_subscript_iff machine hname).mpr
            ⟨line, List.mem_of_find?_eq_some hfind,
              List.find?_some (p := fun line : Line => line.isFor machine.text disk) hfind⟩
        have hnot : subscript machine.text disk ∉ order s'.activeDisks := by
          intro hin
          rw [((hactive _).mp hin).right] at hhit
          cases hhit
        simp [hnot]
    | none =>
        have hno : isHit interval.lines (subscript machine.text disk) = false := by
          rw [Bool.eq_false_iff, Ne, isHit_subscript_iff machine hname]
          intro hparts
          rcases hparts with ⟨line, hline, hfor⟩
          exact List.find?_eq_none.mp hfind line hline hfor
        have hin : subscript machine.text disk ∈ order s'.activeDisks :=
          (hactive _).mpr ⟨mem_activeSubscripts_iff.mpr ⟨_, _, hmem, rfl⟩, hno⟩
        simp [hin]
  · rfl

theorem filled_isPlain (date : String -> Nat) {zones : List Zone} {inst : String}
    (h : inst ∈ activeSubscripts zones) :
    forall sample, sample ∈ filled date inst -> sample.IsPlain := by
  rcases mem_activeSubscripts_iff.mp h with ⟨uuid, disk, hmem, rfl⟩
  rcases mem_zoneDisks hmem with ⟨⟨machine, rfl⟩, hname⟩
  have hdisk : '%' ∉ disk.toList := isDiskName_not_mem hname (by decide) (by decide)
  have hzero : '%' ∉ "0".toList := by decide
  intro sample hsample
  rw [filled_subscript date hmem] at hsample
  simp only [zeros, List.mem_cons, List.not_mem_nil, or_false] at hsample
  rcases hsample with rfl | rfl | rfl | rfl <;>
    exact ⟨machine.noPercent, hdisk, hzero⟩

/-- An interval whose lines are attributable ends with a good batch. -/
theorem run_interval {order : List String -> List String}
    (horder : forall insts, (order insts).Perm insts) {zones : List Zone}
    {interval : Interval} {rest : List Event} {s : Monitor} (hstart : AtStart zones s)
    (honce : forall uuid disk, (uuid, disk) ∈ zoneDisks zones ->
      (interval.lines.filter fun line => line.isFor uuid disk).length ≤ 1)
    (h : Attributed order s (interval.events ++ rest)) :
    exists s' batch, run order s (interval.events ++ rest) = run order s' rest ∧
      AtStart interval.zones s' ∧ s'.sent = s.sent ++ [batch] ∧
      IsGood zones interval batch ∧ Attributed order s' rest := by
  rw [Interval.events, List.append_assoc] at h ⊢
  rcases run_lines h with ⟨s1, hcollected, htick, hrun, hplain⟩
  rcases foldl_fillZeros interval.date (order s1.activeDisks) s1 with ⟨hdata, hsent⟩
  have hgood := isGood_of_collected horder hstart honce hcollected hdata
  have hnone : '%' ∉ dataText
      ((order s1.activeDisks).foldl (fillZeros interval.date) s1).zabbixData := by
    apply dataText_noPercent
    intro sample hsample
    rw [hdata, hcollected.data, hstart.data, List.nil_append, List.mem_append] at hsample
    rcases hsample with hown | hzero
    · exact hplain sample hown
    · rcases List.mem_flatMap.mp hzero with ⟨inst, hinst, hzero⟩
      rw [(horder _).mem_iff, hcollected.active, hstart.active] at hinst
      exact filled_isPlain interval.date (List.mem_of_mem_filter hinst) sample hzero
  have hdone : tick order interval.date interval.zones s1 =
      some (updateActiveDisks interval.zones
        { (order s1.activeDisks).foldl (fillZeros interval.date) s1 with
          sent := s1.sent ++
            [⟨((order s1.activeDisks).foldl (fillZeros interval.date) s1).zabbixData,
              dataText ((order s1.activeDisks).foldl
                (fillZeros interval.date) s1).zabbixData⟩]
          zabbixData := [] }) := by
    simp only [tick, printf_of_noPercent hnone, Option.map_some, hsent]
  refine ⟨_, _, ?_, ⟨rfl, rfl⟩, ?_, hgood, htick _ hdone⟩
  · rw [hrun]
    simp only [List.cons_append, List.nil_append, run, step, hdone, Option.bind_some]
  · simp only [updateActiveDisks, hcollected.sent]

/-!
## Whole runs
-/

theorem atStart_start (zones : List Zone) : AtStart zones (start zones) :=
  ⟨rfl, rfl⟩

theorem exists_intervals (events : List Event) :
    exists (intervals : List Interval) (lines : List Line),
      events = intervals.flatMap Interval.events ++ lines.map Event.line := by
  induction events with
  | nil => exact ⟨[], [], rfl⟩
  | cons event rest ih =>
      rcases ih with ⟨intervals, lines, rfl⟩
      cases event with
      | tick date zones =>
          exact ⟨⟨[], date, zones⟩ :: intervals, lines, rfl⟩
      | line line =>
          cases intervals with
          | nil => exact ⟨[], line :: lines, rfl⟩
          | cons interval intervals =>
              exact ⟨{ interval with lines := line :: interval.lines } :: intervals,
                lines, rfl⟩

theorem run_intervals {order : List String -> List String}
    (horder : forall insts, (order insts).Perm insts) {zones : List Zone}
    {intervals : List Interval} {rest : List Event} {s : Monitor}
    (hstart : AtStart zones s) (honce : OncePerInterval zones intervals)
    (h : Attributed order s (intervals.flatMap Interval.events ++ rest)) :
    exists s' batches,
      run order s (intervals.flatMap Interval.events ++ rest) = run order s' rest ∧
      s'.sent = s.sent ++ batches ∧ AllGood zones intervals batches ∧
      Attributed order s' rest := by
  induction intervals generalizing zones s with
  | nil => exact ⟨s, [], rfl, by simp, trivial, h⟩
  | cons interval intervals ih =>
      rcases honce with ⟨hinterval, hintervals⟩
      rw [List.flatMap_cons, List.append_assoc] at h ⊢
      rcases run_interval horder hstart hinterval h with
        ⟨s1, batch, hrun, hstart1, hsent, hgood, h1⟩
      rcases ih hstart1 hintervals h1 with ⟨s2, batches, hrun2, hsent2, hgood2, h2⟩
      refine ⟨s2, batch :: batches, hrun.trans hrun2, ?_, ⟨hgood, hgood2⟩, h2⟩
      rw [hsent2, hsent, List.append_assoc]
      rfl

/--
A run whose lines are all attributable, and in which no active disk has two lines
in an interval, does not end early, and all its batches are good.
-/
theorem batches_are_good (order : List String -> List String) (zones : List Zone)
    (intervals : List Interval) (lines : List Line)
    (horder : forall insts, (order insts).Perm insts)
    (honce : OncePerInterval zones intervals)
    (h : Attributed order (start zones)
      (intervals.flatMap Interval.events ++ lines.map Event.line)) :
    exists s, run order (start zones)
        (intervals.flatMap Interval.events ++ lines.map Event.line) = some s ∧
      AllGood zones intervals s.sent := by
  rcases run_intervals horder (atStart_start zones) honce h with
    ⟨s1, batches, hrun, hsent, hgood, h1⟩
  have hlines : Attributed order s1 (lines.map Event.line ++ []) := by
    rw [List.append_nil]
    exact h1
  rcases run_lines hlines with ⟨s2, hcollected, _, hrun2, _⟩
  rw [List.append_nil] at hrun2
  refine ⟨s2, hrun.trans hrun2, ?_⟩
  rw [hcollected.sent, hsent]
  exact hgood

/-!
## Two machines with a disk each
-/

def machineA : Uuid := ⟨"aaaa-01", by decide, by decide⟩

def machineB : Uuid := ⟨"bbbb-02", by decide, by decide⟩

def twoZones : List Zone :=
  [⟨machineA, ["disk0"], by decide⟩, ⟨machineB, ["disk0"], by decide⟩]

/-- A line for the disk of a machine, with what the lookup prints for it. -/
def diskLine (owner : Uuid) (root : Option String) : Line :=
  ⟨"4711", "1", "2", "3", "4", "disk0", owner, fun _ => root, 1⟩

def busyInterval (lines : List Line) : Interval :=
  ⟨lines, fun _ => 1, twoZones⟩

/-- A process that is gone does no harm after a line of the same machine. -/
theorem batches_are_good_busy :
    exists s, run id (start twoZones)
        ([busyInterval [diskLine machineA (some "aaaa-01")]].flatMap Interval.events ++
          [diskLine machineB (some "bbbb-02"), diskLine machineB none].map Event.line) =
        some s ∧
      AllGood twoZones [busyInterval [diskLine machineA (some "aaaa-01")]] s.sent := by
  apply batches_are_good id twoZones _ _ fun insts => List.Perm.refl insts
  · constructor
    · intro uuid disk _
      exact List.length_filter_le _ [diskLine machineA (some "aaaa-01")]
    · trivial
  · refine ⟨fun _ => ⟨rfl, by decide⟩, ?_⟩
    intro s hs
    exact ⟨fun _ => ⟨rfl, by decide⟩, fun _ => ⟨rfl, by decide⟩, trivial⟩

/-- The line of a process that is gone goes to the machine of the line before. -/
theorem gone_process_is_misattributed :
    ¬ forall (order : List String -> List String) (zones : List Zone)
      (intervals : List Interval) (lines : List Line),
      (forall insts, (order insts).Perm insts) ->
      exists s, run order (start zones)
          (intervals.flatMap Interval.events ++ lines.map Event.line) = some s ∧
        AllGood zones intervals s.sent := by
  intro h
  rcases h id twoZones
    [busyInterval [diskLine machineA (some "aaaa-01"), diskLine machineB none]] []
    (fun insts => List.Perm.refl insts) with ⟨s, hrun, hgood⟩
  have hsets : ((run id (start twoZones)
      ([busyInterval [diskLine machineA (some "aaaa-01"),
        diskLine machineB none]].flatMap Interval.events ++ [])).map fun s =>
      s.sent.map fun batch =>
        (batch.samples.filter (isOf "aaaa-01" "disk0")).length) = some [8] := by
    decide +kernel
  have hdue : (due (busyInterval [diskLine machineA (some "aaaa-01"),
      diskLine machineB none]) "aaaa-01" "disk0").length = 4 := by
    decide +kernel
  rw [List.map_nil] at hrun
  rw [hrun, Option.map_some, Option.some.injEq] at hsets
  cases hsent : s.sent with
  | nil =>
      rw [hsent] at hsets
      cases hsets
  | cons batch batches =>
      rw [hsent] at hgood hsets
      have hcomplete := hgood.left.complete "aaaa-01" "disk0" (by decide +kernel)
      have hlength := congrArg List.length hcomplete
      rw [hdue] at hlength
      have height : (batch.samples.filter (isOf "aaaa-01" "disk0")).length = 8 :=
        (List.cons.inj hsets).left
      exact absurd (height.symm.trans hlength) (by decide)

end DiskMonitor
end Zabbix
end EsdcFactory
