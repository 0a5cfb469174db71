import EsdcFactory.Zabbix.Retention

/-!
# Routing rows to partitions

Partitions are provisioned in advance, for periods counted from the time of a
run, and rows are routed by the name that their clock gives.  As long as all
sessions show the same offset, the bounds and the name of a partition denote the
same period, whatever day the run falls on.
-/

namespace EsdcFactory
namespace Zabbix

open Calendar Timestamp Decimal Fold

/-!
## Sessions with one offset
-/

/-- The offset that all sessions show. -/
structure Offset where
  seconds : Int
  bounds : seconds < 86400 ∧ -seconds < 86400

def Offset.zone (o : Offset) : TimeZone :=
  TimeZone.fixedOffset (o.seconds * secondUs) (by
    have h := o.bounds
    unfold secondUs dayUs
    omega)

/-- The clock at the beginning of a day. -/
def Offset.epoch (o : Offset) (n : Int) : Int :=
  n * 86400 - o.seconds

theorem Offset.epoch_le_iff (o : Offset) {m n : Int} :
    o.epoch m ≤ o.epoch n <-> m ≤ n := by
  unfold epoch
  omega

/-- The local day of an instant. -/
def Offset.day (o : Offset) (t : Int) : Int :=
  localDay (o.zone.toLocal t)

theorem Offset.day_mono (o : Offset) {t t' : Int} (h : t ≤ t') : o.day t ≤ o.day t' := by
  apply localDay_mono
  unfold zone TimeZone.fixedOffset
  simp only
  omega

theorem Offset.epoch_le_clock_iff (o : Offset) (row : Row alpha) (n : Int) :
    o.epoch n ≤ row.clock <-> n ≤ o.day row.instant := by
  unfold day
  rw [← midnight_le_iff]
  unfold epoch midnight zone TimeZone.fixedOffset Row.instant dayUs secondUs
  simp only
  omega

theorem Offset.clock_lt_epoch_iff (o : Offset) (row : Row alpha) (n : Int) :
    row.clock < o.epoch n <-> o.day row.instant < n := by
  have h := o.epoch_le_clock_iff row n
  omega

theorem Offset.fourDigitYear (o : Offset) {n : Int} (h : Int4 (o.epoch n)) :
    FourDigitYear n := by
  have hbounds := o.bounds
  rcases h with ⟨hlow, hhigh⟩
  unfold epoch at hlow hhigh
  exact fourDigitYear_of_bounds (by omega) (by omega)

/-!
## Names
-/

/-- The name of the partition for the period that begins with a day. -/
def periodName (tableName : String) (p : Period) (n : Int) : List Char :=
  partitionName tableName (zbxTimeFormatBy p) (midnight n)

theorem partitionName_eq_periodName (tableName : String) (p : Period) (x : Int) :
    partitionName tableName (zbxTimeFormatBy p) x =
      periodName tableName p (p.start (localDay x)) := by
  unfold periodName partitionName toChar
  rw [localDay_midnight]
  cases p with
  | day => rfl
  | month => simp only [zbxTimeFormatBy, Period.start, dateOf, monthOf_monthStart]
  | year =>
      simp only [zbxTimeFormatBy, Period.start, dateOf, monthOf_monthStart, monthYear]
      congr 3
      omega

theorem periodName_inj {tableName : String} {p : Period} {m n : Int}
    (hm : FourDigitYear m) (hn : FourDigitYear n) (hstartm : p.start m = m)
    (hstartn : p.start n = n) (h : periodName tableName p m = periodName tableName p n) :
    m = n := by
  have hchild := childDate_partitionName tableName (zbxTimeFormatBy p) (x := midnight m)
    (by rw [localDay_midnight]; exact hm)
  have hchild' := childDate_partitionName tableName (zbxTimeFormatBy p) (x := midnight n)
    (by rw [localDay_midnight]; exact hn)
  unfold periodName at h
  rw [h, hchild'] at hchild
  have hdate := congrArg Date.toDay (Prod.mk.inj (Option.some.inj hchild)).right
  rw [suffixDate_toDay, suffixDate_toDay, localDay_midnight, localDay_midnight,
    period_zbxTimeFormatBy, hstartm, hstartn] at hdate
  exact hdate.symm

/-!
## One partition
-/

/-- The first day of the period so many after the current one. -/
def Offset.firstDay (o : Offset) (p : Period) (now : Int) (i : Nat) : Int :=
  p.later (o.day now) i

theorem Offset.toLocal_plusInterval (o : Offset) (now : Int) (iv : Interval) :
    o.zone.toLocal (plusInterval o.zone now iv) = addInterval (o.zone.toLocal now) iv := by
  unfold plusInterval
  split
  · rename_i hzero
    rcases iv with ⟨months, days⟩
    rcases hzero with ⟨rfl, rfl⟩
    exact (addInterval_zero _).symm
  · unfold zone TimeZone.fixedOffset
    simp only
    omega

theorem Offset.extractEpoch_dateTrunc (o : Offset) (p : Period) (now : Int) (i : Nat)
    (h : Int4 (o.epoch (o.firstDay p now i))) :
    extractEpoch (dateTrunc o.zone p (plusInterval o.zone now (p.interval.scale i))) =
      .ok (o.epoch (o.firstDay p now i)) := by
  have hday : truncate p (o.zone.toLocal (plusInterval o.zone now (p.interval.scale i))) =
      midnight (o.firstDay p now i) := by
    rw [truncate, o.toLocal_plusInterval, p.start_addInterval]
    rfl
  have hsecond : (2 * (midnight (o.firstDay p now i) - o.seconds * secondUs) + secondUs) /
      (2 * secondUs) = o.epoch (o.firstDay p now i) := by
    unfold midnight epoch dayUs secondUs
    omega
  unfold dateTrunc extractEpoch
  rw [hday]
  simp only [zone, TimeZone.fixedOffset, hsecond]
  rw [if_pos h]

def periodPartition (o : Offset) (tableName : String) (p : Period) (n : Int) :
    Partition alpha :=
  ⟨periodName tableName p n, tableName, some (o.epoch n, o.epoch (p.next n)), []⟩

theorem provisionPartition_eq (o : Offset) (now : Int) (tableName : String)
    (p : Period) (db : Database alpha) (i : Nat)
    (hstart : Int4 (o.epoch (o.firstDay p now i)))
    (hend : Int4 (o.epoch (o.firstDay p now (i + 1)))) :
    provisionPartition o.zone now tableName p db i =
      .ok (if db.hasPartition (periodName tableName p (o.firstDay p now i)) then db
        else { db with partitions := db.partitions ++
          [periodPartition o tableName p (o.firstDay p now i)] }) := by
  have hname : partitionName tableName (zbxTimeFormatBy p)
      (o.zone.toLocal (plusInterval o.zone now (p.interval.scale i))) =
      periodName tableName p (o.firstDay p now i) := by
    rw [partitionName_eq_periodName, o.toLocal_plusInterval, p.start_addInterval]
    rfl
  have hnext := o.extractEpoch_dateTrunc p now (i + 1) hend
  push_cast at hnext
  unfold provisionPartition
  simp only [o.extractEpoch_dateTrunc p now i hstart, hnext, hname]
  simp only [bind, Except.bind, pure, Except.pure]
  split
  · rfl
  · rfl

/-!
## The partitions of a table
-/

/-- The child of a table for a period: with its bounds, or unchecked and closed. -/
structure IsPeriodOf (o : Offset) (tableName : String) (p : Period) (limit : Int)
    (q : Partition alpha) (n : Int) : Prop where
  first : p.start n = n
  fourDigits : FourDigitYear n
  name : q.relname = periodName tableName p n
  check : q.check = some (o.epoch n, o.epoch (p.next n)) ∨
    (q.check = none ∧ p.next n ≤ limit)

/--
The children of a table are those of different periods, where only periods before
`limit` can be unchecked, and children of other tables do not get in their way.
-/
structure Tidy (o : Offset) (tableName : String) (p : Period) (limit : Int)
    (db : Database alpha) : Prop where
  children : forall q, q ∈ db.partitions -> q.parent = tableName ->
    exists n, IsPeriodOf o tableName p limit q n
  others : forall q, q ∈ db.partitions -> q.parent ≠ tableName ->
    forall n, q.relname ≠ periodName tableName p n
  distinct : db.partitions.Pairwise fun q r =>
    q.parent = tableName -> r.parent = tableName -> q.relname ≠ r.relname
  trigger : forall timeFormat, db.triggers tableName = some timeFormat ->
    timeFormat = zbxTimeFormatBy p

theorem Tidy.mono {o : Offset} {tableName : String} {p : Period} {limit limit' : Int}
    {db : Database alpha} (h : Tidy o tableName p limit db) (hle : limit ≤ limit') :
    Tidy o tableName p limit' db where
  children := by
    intro q hq hparent
    rcases h.children q hq hparent with ⟨n, hn⟩
    refine ⟨n, hn.first, hn.fourDigits, hn.name, ?_⟩
    rcases hn.check with hsome | ⟨hnone, hnext⟩
    · exact Or.inl hsome
    · exact Or.inr ⟨hnone, hnext.trans hle⟩
  others := h.others
  distinct := h.distinct
  trigger := h.trigger

theorem Tidy.of_name {o : Offset} {tableName : String} {p : Period} {limit : Int}
    {db : Database alpha} (h : Tidy o tableName p limit db) {q : Partition alpha}
    (hq : q ∈ db.partitions) {n : Int} (hstart : p.start n = n) (hyear : FourDigitYear n)
    (hname : q.relname = periodName tableName p n) :
    q.parent = tableName ∧ IsPeriodOf o tableName p limit q n := by
  have hparent : q.parent = tableName := by
    by_contra hother
    exact h.others q hq hother n hname
  rcases h.children q hq hparent with ⟨m, hm⟩
  have heq : m = n :=
    periodName_inj hm.fourDigits hyear hm.first hstart (hm.name.symm.trans hname)
  rw [heq] at hm
  exact ⟨hparent, hm⟩

theorem Tidy.append {o : Offset} {tableName : String} {p : Period} {limit : Int}
    {db db' : Database alpha} (h : Tidy o tableName p limit db) {q : Partition alpha}
    {n : Int} (hparent : q.parent = tableName) (hn : IsPeriodOf o tableName p limit q n)
    (hnew : db.hasPartition q.relname = false)
    (hpartitions : db'.partitions = db.partitions ++ [q])
    (htrigger : forall timeFormat, db'.triggers tableName = some timeFormat ->
      timeFormat = zbxTimeFormatBy p) :
    Tidy o tableName p limit db' where
  children := by
    intro r hr hr'
    rw [hpartitions, List.mem_append, List.mem_singleton] at hr
    rcases hr with hold | rfl
    · exact h.children r hold hr'
    · exact ⟨n, hn⟩
  others := by
    intro r hr hother
    rw [hpartitions, List.mem_append, List.mem_singleton] at hr
    rcases hr with hold | rfl
    · exact h.others r hold hother
    · exact absurd hparent hother
  distinct := by
    rw [hpartitions, List.pairwise_append]
    refine ⟨h.distinct, List.pairwise_singleton _ _, ?_⟩
    intro r hr q' hq' _ _ heq
    rw [List.mem_singleton.mp hq'] at heq
    have hhas : db.hasPartition q.relname = true := by
      rw [Database.hasPartition, List.any_eq_true]
      exact ⟨r, hr, by simpa using heq⟩
    rw [hnew] at hhas
    cases hhas
  trigger := htrigger

/-!
## Provisioning
-/

/-- The bounds of the periods from the current one on fit the clock's type. -/
def FitsClock (o : Offset) (p : Period) (now : Int) (count : Nat) : Prop :=
  Int4 (o.epoch (o.firstDay p now 0)) ∧ Int4 (o.epoch (o.firstDay p now count))

theorem FitsClock.int4 {o : Offset} {p : Period} {now : Int} {count : Nat}
    (h : FitsClock o p now count) {i : Nat} (hi : i ≤ count) :
    Int4 (o.epoch (o.firstDay p now i)) := by
  have hmono := (p.later_strictMono (o.day now)).monotone
  have hlow := o.epoch_le_iff.mpr (hmono (Nat.zero_le i))
  have hhigh := o.epoch_le_iff.mpr (hmono hi)
  exact ⟨h.left.left.trans hlow, lt_of_le_of_lt hhigh h.right.right⟩

/-- There is a partition with the bounds of a period. -/
def HasPeriod (o : Offset) (tableName : String) (p : Period) (n : Int)
    (db : Database alpha) : Prop :=
  exists q, q ∈ db.partitions ∧ q.parent = tableName ∧
    q.relname = periodName tableName p n ∧
    q.check = some (o.epoch n, o.epoch (p.next n))

theorem provisionPartition_tidy {o : Offset} {now : Int} {tableName : String}
    {p : Period} {count i : Nat} {db : Database alpha}
    (h : Tidy o tableName p (o.firstDay p now 0) db) (hfits : FitsClock o p now count)
    (hi : i < count) :
    exists db', provisionPartition o.zone now tableName p db i = .ok db' ∧
      Tidy o tableName p (o.firstDay p now 0) db' ∧
      HasPeriod o tableName p (o.firstDay p now i) db' ∧
      (forall q, q ∈ db.partitions -> q ∈ db'.partitions) := by
  rw [provisionPartition_eq o now tableName p db i (hfits.int4 (Nat.le_of_lt hi))
    (hfits.int4 hi)]
  have hstart : p.start (o.firstDay p now i) = o.firstDay p now i := p.start_later _ i
  have hyear := o.fourDigitYear (hfits.int4 (Nat.le_of_lt hi))
  refine ⟨_, rfl, ?_⟩
  by_cases hhas : db.hasPartition (periodName tableName p (o.firstDay p now i)) = true
  · rw [if_pos hhas]
    refine ⟨h, ?_, fun q hq => hq⟩
    rw [Database.hasPartition, List.any_eq_true] at hhas
    rcases hhas with ⟨q, hq, hname⟩
    have hname : q.relname = periodName tableName p (o.firstDay p now i) := by
      simpa using hname
    rcases h.of_name hq hstart hyear hname with ⟨hparent, hperiod⟩
    refine ⟨q, hq, hparent, hname, ?_⟩
    rcases hperiod.check with hsome | ⟨_, hclosed⟩
    · exact hsome
    · -- unchecked partitions are those of periods before the current one
      have hle := (p.later_strictMono (o.day now)).monotone (Nat.zero_le i)
      have hlt := p.lt_next (o.firstDay p now i)
      unfold Offset.firstDay at *
      omega
  · rw [if_neg hhas]
    have hperiod : IsPeriodOf o tableName p (o.firstDay p now 0)
        (periodPartition o tableName p (o.firstDay p now i) : Partition alpha)
        (o.firstDay p now i) :=
      ⟨hstart, hyear, rfl, Or.inl rfl⟩
    refine ⟨h.append rfl hperiod (Bool.eq_false_iff.mpr hhas) rfl h.trigger, ?_, ?_⟩
    · exact ⟨_, List.mem_append_right _ List.mem_cons_self, rfl, rfl, rfl⟩
    · exact fun q hq => List.mem_append_left _ hq

theorem zbxProvisionPartitions_tidy {o : Offset} {now : Int} {tableName : String}
    {p : Period} {count : Nat} {db : Database alpha}
    (h : Tidy o tableName p (o.firstDay p now 0) db) (hfits : FitsClock o p now count) :
    exists db', zbxProvisionPartitions o.zone now tableName p count db = .ok db' ∧
      Tidy o tableName p (o.firstDay p now 0) db' ∧
      forall i, i < count -> HasPeriod o tableName p (o.firstDay p now i) db' := by
  have hrange : forall k, k ≤ count -> exists db',
      (List.range k).foldlM (provisionPartition o.zone now tableName p) db = .ok db' ∧
      Tidy o tableName p (o.firstDay p now 0) db' ∧
      forall i, i < k -> HasPeriod o tableName p (o.firstDay p now i) db' := by
    intro k hk
    induction k with
    | zero => exact ⟨db, rfl, h, fun i hi => absurd hi (Nat.not_lt_zero i)⟩
    | succ k ih =>
        rcases ih (Nat.le_of_succ_le hk) with ⟨db1, hrun, htidy, hperiods⟩
        rcases provisionPartition_tidy htidy hfits hk with
          ⟨db2, hstep, htidy2, hperiod, hkeeps⟩
        refine ⟨db2, ?_, htidy2, ?_⟩
        · rw [List.range_succ, List.foldlM_append, hrun]
          simp only [bind, Except.bind, List.foldlM_cons, List.foldlM_nil, hstep]
          rfl
        · intro i hi
          rcases Nat.lt_succ_iff_lt_or_eq.mp hi with hlt | rfl
          · rcases hperiods i hlt with ⟨q, hq, hrest⟩
            exact ⟨q, hkeeps q hq, hrest⟩
          · exact hperiod
  exact hrange count (Nat.le_refl count)

/-!
## Ranges
-/

/-- The `CHECK` ranges of the children of a table. -/
def checkRanges (tableName : String) (db : Database alpha) : List (Int × Int) :=
  db.partitions.filterMap fun q => if q.parent = tableName then q.check else none

/-- No clock lies in two of the ranges. -/
def RangesDisjoint (tableName : String) (db : Database alpha) : Prop :=
  (checkRanges tableName db).Pairwise fun a b => a.2 ≤ b.1 ∨ b.2 ≤ a.1

/-- The ranges of two children with different names do not overlap. -/
theorem Tidy.range_disjoint {o : Offset} {tableName : String} {p : Period} {limit : Int}
    {db : Database alpha} (h : Tidy o tableName p limit db) {q r : Partition alpha}
    (hq : q ∈ db.partitions) (hr : r ∈ db.partitions) (hparent : q.parent = tableName)
    (hparent' : r.parent = tableName) (hne : q.relname ≠ r.relname) {a b : Int × Int}
    (ha : q.check = some a) (hb : r.check = some b) : a.2 ≤ b.1 ∨ b.2 ≤ a.1 := by
  rcases h.children q hq hparent with ⟨m, hm⟩
  rcases h.children r hr hparent' with ⟨n, hn⟩
  have hne' : m ≠ n := by
    intro heq
    subst heq
    exact hne (hm.name.trans hn.name.symm)
  rcases hm.check with hcheck | ⟨hnone, _⟩
  · rcases hn.check with hcheck' | ⟨hnone, _⟩
    · rw [hcheck, Option.some.injEq] at ha
      rw [hcheck', Option.some.injEq] at hb
      subst ha
      subst hb
      simp only [o.epoch_le_iff]
      exact p.disjoint hm.first hn.first hne'
    · rw [hnone] at hb
      cases hb
  · rw [hnone] at ha
    cases ha

theorem Tidy.rangesDisjoint {o : Offset} {tableName : String} {p : Period} {limit : Int}
    {db : Database alpha} (h : Tidy o tableName p limit db) :
    RangesDisjoint tableName db := by
  unfold RangesDisjoint checkRanges
  rw [List.pairwise_filterMap]
  apply h.distinct.imp_of_mem
  intro q r hq hr hne a ha b hb
  split at ha
  · rename_i hparent
    split at hb
    · rename_i hparent'
      exact h.range_disjoint hq hr hparent hparent' (hne hparent hparent') ha hb
    · cases hb
  · cases ha

/--
The periods of a run tile the time from the start of the current period to the
start of the period `count` later.
-/
structure Tiles (o : Offset) (tableName : String) (p : Period) (now : Int) (count : Nat)
    (db : Database alpha) : Prop where
  periods : forall i, i < count -> exists q, q ∈ db.partitions ∧ q.parent = tableName ∧
    q.relname = periodName tableName p (o.firstDay p now i) ∧
    q.check = some (o.epoch (o.firstDay p now i), o.epoch (o.firstDay p now (i + 1)))
  covers : forall clock, o.epoch (p.start (o.day now)) ≤ clock ->
    clock < o.epoch (o.firstDay p now count) ->
    exists range, range ∈ checkRanges tableName db ∧ range.1 ≤ clock ∧ clock < range.2

theorem exists_lt_of_steps {bound : Nat -> Int} {clock : Int} {count : Nat}
    (hlow : bound 0 ≤ clock) (hhigh : clock < bound count) :
    exists i, i < count ∧ bound i ≤ clock ∧ clock < bound (i + 1) := by
  induction count with
  | zero => omega
  | succ count ih =>
      by_cases hlast : bound count ≤ clock
      · exact ⟨count, Nat.lt_succ_self count, hlast, hhigh⟩
      · rcases ih (not_le.mp hlast) with ⟨i, hi, hrange⟩
        exact ⟨i, Nat.lt_succ_of_lt hi, hrange⟩

theorem tiles_of_hasPeriod {o : Offset} {tableName : String} {p : Period} {now : Int}
    {count : Nat} {db : Database alpha}
    (h : forall i, i < count -> HasPeriod o tableName p (o.firstDay p now i) db) :
    Tiles o tableName p now count db where
  periods := h
  covers := by
    intro clock hlow hhigh
    rcases @exists_lt_of_steps (fun i => o.epoch (o.firstDay p now i)) clock count
      hlow hhigh with ⟨i, hi, hrange⟩
    rcases h i hi with ⟨q, hq, hparent, _, hcheck⟩
    exists (o.epoch (o.firstDay p now i), o.epoch (o.firstDay p now (i + 1)))
    constructor
    · rw [checkRanges, List.mem_filterMap]
      refine ⟨q, hq, ?_⟩
      rw [if_pos hparent]
      exact hcheck
    · exact hrange

/-!
## Enabling
-/

theorem zbxEnablePartitions_tidy {o : Offset} {now : Int} {tableName : String}
    {p : Period} {db db' : Database alpha}
    (h : Tidy o tableName p (o.firstDay p now 0) db) (hfits : FitsClock o p now 0)
    (henable : zbxEnablePartitions o.zone now tableName p db = .ok db') :
    Tidy o tableName p (o.firstDay p now 0) db' := by
  have hback : o.zone.toLocal (plusInterval o.zone now (p.interval.scale (-1))) =
      addInterval (o.zone.toLocal now) (p.interval.scale (-1)) :=
    o.toLocal_plusInterval now _
  have hnext := p.next_addInterval_neg (o.zone.toLocal now)
  unfold zbxEnablePartitions at henable
  simp only at henable
  split at henable
  · cases henable
  · split at henable
    · cases henable
    · rename_i hnew
      cases henable
      rw [partitionName_eq_periodName, hback] at hnew ⊢
      generalize localDay (addInterval (o.zone.toLocal now) (p.interval.scale (-1))) = day
        at hnext hnew ⊢
      have hclosed : p.next (p.start day) = o.firstDay p now 0 := by
        rw [p.next_start, hnext]
        rfl
      have hyear : FourDigitYear (p.start day) := by
        have hlen := p.next_le (p.start day)
        have hlt := p.lt_next (p.start day)
        have hbounds := o.bounds
        rcases hfits.left with ⟨hlow, hhigh⟩
        unfold Offset.epoch at hlow hhigh
        exact fourDigitYear_of_bounds (by omega) (by omega)
      apply h.append rfl (n := p.start day) _ (Bool.eq_false_iff.mpr hnew) rfl
      · intro timeFormat htrigger
        simp only [Function.update_self, Option.some.injEq] at htrigger
        exact htrigger.symm
      · exact ⟨p.start_start day, hyear, rfl, Or.inr ⟨rfl, hclosed.le⟩⟩

/-!
## Inserting
-/

/-- The name that the trigger computes for a row. -/
def routedName (o : Offset) (tableName : String) (timeFormat : TimeFormat)
    (row : Row alpha) : List Char :=
  partitionName tableName timeFormat (o.zone.toLocal row.instant)

/-- A row is stored in the child of this name if that takes it, else in the parent. -/
inductive Placed (conflicts : List (Row alpha) -> Row alpha -> Bool)
    (tableName : String) (relname : List Char) (row : Row alpha)
    (db db' : Database alpha) : Prop where
  | child (front : List (Partition alpha)) (q : Partition alpha)
      (back : List (Partition alpha))
      (partitions : db.partitions = front ++ q :: back)
      (name : q.relname = relname) (parent : q.parent = tableName)
      (admits : q.admits conflicts row = true)
      (stored : db' = { db with
        partitions := front ++ { q with rows := q.rows ++ [row] } :: back })
  | parent
      (refused : forall q, q ∈ db.partitions -> q.relname = relname ->
        q.admits conflicts row = false)
      (stored : db' = { db with
        parents := Function.update db.parents tableName
          (db.parents tableName ++ [row]) })

/-- What becomes of an insert: the row is stored exactly once, or it is refused. -/
inductive Inserted (conflicts : List (Row alpha) -> Row alpha -> Bool)
    (tableName : String) (relname : List Char) (row : Row alpha)
    (db : Database alpha) : Except SqlError (Database alpha) -> Prop where
  | stored (db' : Database alpha) (placed : Placed conflicts tableName relname row db db')
      (once : db'.rows tableName = row ::ₘ db.rows tableName) :
      Inserted conflicts tableName relname row db (.ok db')
  | duplicate
      (refused : forall q, q ∈ db.partitions -> q.relname = relname ->
        q.admits conflicts row = false)
      (conflict : conflicts (db.parents tableName) row = true) :
      Inserted conflicts tableName relname row db (.error .uniqueViolation)

theorem insertInto_eq_none {conflicts : List (Row alpha) -> Row alpha -> Bool}
    {relname : List Char} {row : Row alpha} {ps : List (Partition alpha)}
    (h : insertInto conflicts relname row ps = none)
    (hunique : ps.Pairwise fun q r => q.relname = relname -> r.relname ≠ relname) :
    forall q, q ∈ ps -> q.relname = relname -> q.admits conflicts row = false := by
  induction ps with
  | nil =>
      intro q hq
      cases hq
  | cons first rest ih =>
      rcases List.pairwise_cons.mp hunique with ⟨hfirst, hrest⟩
      rw [insertInto] at h
      intro q hq hname
      split at h
      · rename_i hhit
        split at h
        · cases h
        · rename_i hrefused
          rcases List.mem_cons.mp hq with rfl | hq
          · exact Bool.eq_false_iff.mpr hrefused
          · exact absurd hname (hfirst q hq hhit)
      · rename_i hmiss
        rcases List.mem_cons.mp hq with rfl | hq
        · exact absurd hname hmiss
        · exact ih (Option.map_eq_none_iff.mp h) hrest q hq hname

theorem insertInto_admits {conflicts : List (Row alpha) -> Row alpha -> Bool}
    {relname : List Char} {row : Row alpha} {ps ps' : List (Partition alpha)}
    (h : insertInto conflicts relname row ps = some ps') :
    exists front q back, ps = front ++ q :: back ∧ q.relname = relname ∧
      q.admits conflicts row = true ∧
      ps' = front ++ { q with rows := q.rows ++ [row] } :: back := by
  induction ps generalizing ps' with
  | nil => cases h
  | cons first rest ih =>
      rw [insertInto] at h
      split at h
      · rename_i hname
        split at h
        · rename_i hadmits
          cases h
          exact ⟨[], first, rest, rfl, hname, hadmits, rfl⟩
        · cases h
      · rcases Option.map_eq_some_iff.mp h with ⟨rest', hrest, rfl⟩
        rcases ih hrest with ⟨front, q, back, rfl, hname, hadmits, rfl⟩
        exact ⟨first :: front, q, back, rfl, hname, hadmits, rfl⟩

theorem Tidy.routedName_eq {o : Offset} {tableName : String} {p : Period} {limit : Int}
    {db : Database alpha} (h : Tidy o tableName p limit db) {q : Partition alpha}
    (hq : q ∈ db.partitions) (hparent : q.parent = tableName) {row : Row alpha}
    {a b : Int} (hcheck : q.check = some (a, b)) (hlow : a ≤ row.clock)
    (hhigh : row.clock < b) :
    routedName o tableName (zbxTimeFormatBy p) row = q.relname := by
  rcases h.children q hq hparent with ⟨n, hn⟩
  rcases hn.check with hbounds | ⟨hnone, _⟩
  · rw [hcheck, Option.some.injEq, Prod.mk.injEq] at hbounds
    rcases hbounds with ⟨rfl, rfl⟩
    have hday := (o.epoch_le_clock_iff row n).mp hlow
    have hday' := (o.clock_lt_epoch_iff row (p.next n)).mp hhigh
    unfold Offset.day at hday hday'
    rw [routedName, partitionName_eq_periodName, hn.name,
      p.start_eq_of_mem hn.first hday hday']
  · rw [hnone] at hcheck
    cases hcheck

theorem partitionRows_append_cons (tableName : String)
    (front : List (Partition alpha)) (q : Partition alpha)
    (back : List (Partition alpha)) (hparent : q.parent = tableName) (row : Row alpha) :
    partitionRows tableName (front ++ { q with rows := q.rows ++ [row] } :: back) =
      row ::ₘ partitionRows tableName (front ++ q :: back) := by
  have hrows : ((q.rows ++ [row] : List (Row alpha)) : Multiset (Row alpha)) =
      row ::ₘ (q.rows : Multiset (Row alpha)) := by
    rw [Multiset.cons_coe, Multiset.coe_eq_coe]
    exact List.perm_append_singleton row q.rows
  simp only [partitionRows, List.map_append, List.map_cons, List.sum_append,
    List.sum_cons, if_pos hparent, hrows]
  rw [Multiset.cons_add, Multiset.add_cons]

/-- A row is routed, kept in the parent, or refused by the parent as a duplicate. -/
theorem Tidy.inserted {conflicts : List (Row alpha) -> Row alpha -> Bool} {o : Offset}
    {tableName : String} {p : Period} {limit : Int} {db : Database alpha}
    (h : Tidy o tableName p limit db) {timeFormat : TimeFormat}
    (htrigger : db.triggers tableName = some timeFormat) (row : Row alpha) :
    Inserted conflicts tableName (routedName o tableName timeFormat row) row db
      (insertRow conflicts o.zone tableName row db) := by
  have hformat := h.trigger timeFormat htrigger
  subst hformat
  have hname : forall q, q ∈ db.partitions ->
      q.relname = routedName o tableName (zbxTimeFormatBy p) row ->
      q.parent = tableName := by
    intro q hq hrel
    by_contra hother
    rw [routedName, partitionName_eq_periodName] at hrel
    exact h.others q hq hother _ hrel
  unfold insertRow zbxRouteInsertByClock
  simp only [htrigger]
  cases hroute : insertInto conflicts (routedName o tableName (zbxTimeFormatBy p) row) row
      db.partitions with
  | some ps =>
      rw [routedName] at hroute
      rw [hroute]
      rcases insertInto_admits hroute with ⟨front, q, back, hps, hrel, hadmits, rfl⟩
      have hparent := hname q (by rw [hps]; simp) hrel
      apply Inserted.stored
      · exact Placed.child front q back hps hrel hparent hadmits rfl
      · unfold Database.rows
        simp only
        rw [partitionRows_append_cons tableName front q back hparent row, ← hps,
          Multiset.add_cons]
  | none =>
      have hunique : db.partitions.Pairwise fun q r =>
          q.relname = routedName o tableName (zbxTimeFormatBy p) row ->
            r.relname ≠ routedName o tableName (zbxTimeFormatBy p) row := by
        apply h.distinct.imp_of_mem
        intro q r hq hr hne hrel hrel'
        exact hne (hname q hq hrel) (hname r hr hrel') (hrel.trans hrel'.symm)
      have hrefused := insertInto_eq_none hroute hunique
      rw [routedName] at hroute
      rw [hroute]
      simp only [Option.map_none]
      unfold insertOnly
      split
      · rename_i hconflict
        exact Inserted.duplicate hrefused hconflict
      · apply Inserted.stored
        · exact Placed.parent hrefused rfl
        · unfold Database.rows
          simp only [Function.update_self]
          rw [← Multiset.cons_add, Multiset.cons_coe]
          congr 1
          rw [Multiset.coe_eq_coe]
          exact List.perm_append_singleton row _

/-- What of a partition does not depend on its rows. -/
def Partition.form (q : Partition alpha) : List Char × String × Option (Int × Int) :=
  (q.relname, q.parent, q.check)

theorem Tidy.of_forms {o : Offset} {tableName : String} {p : Period} {limit : Int}
    {db db' : Database alpha} (h : Tidy o tableName p limit db)
    (hforms : db'.partitions.map Partition.form = db.partitions.map Partition.form)
    (htrigger : db'.triggers = db.triggers) : Tidy o tableName p limit db' := by
  have hsame : forall q, q ∈ db'.partitions ->
      exists r, r ∈ db.partitions ∧ r.form = q.form := by
    intro q hq
    have hmem := List.mem_map_of_mem (f := Partition.form) hq
    rw [hforms] at hmem
    exact List.mem_map.mp hmem
  have hdistinct := h.distinct
  constructor
  · intro q hq hparent
    rcases hsame q hq with ⟨r, hr, hform⟩
    simp only [Partition.form, Prod.mk.injEq] at hform
    rcases hform with ⟨hrel, hpar, hcheck⟩
    rcases h.children r hr (hpar.trans hparent) with ⟨n, hn⟩
    exact ⟨n, hn.first, hn.fourDigits, hrel.symm.trans hn.name, hcheck ▸ hn.check⟩
  · intro q hq hparent n
    rcases hsame q hq with ⟨r, hr, hform⟩
    simp only [Partition.form, Prod.mk.injEq] at hform
    rcases hform with ⟨hrel, hpar, _⟩
    rw [← hrel]
    exact h.others r hr (hpar ▸ hparent) n
  · have hpairs : forall partitions : List (Partition alpha),
        partitions.Pairwise (fun q r =>
          q.parent = tableName -> r.parent = tableName -> q.relname ≠ r.relname) <->
        (partitions.map Partition.form).Pairwise fun a b =>
          a.2.1 = tableName -> b.2.1 = tableName -> a.1 ≠ b.1 := by
      intro partitions
      rw [List.pairwise_map]
      rfl
    rw [hpairs, hforms, ← hpairs]
    exact hdistinct
  · rw [htrigger]
    exact h.trigger

theorem Placed.tidy {conflicts : List (Row alpha) -> Row alpha -> Bool} {o : Offset}
    {tableName : String} {p : Period} {limit : Int} {relname : List Char}
    {row : Row alpha} {db db' : Database alpha} (h : Tidy o tableName p limit db)
    (hplaced : Placed conflicts tableName relname row db db') :
    Tidy o tableName p limit db' := by
  cases hplaced with
  | child front q back partitions _ _ _ stored =>
      subst stored
      exact Tidy.of_forms h (by simp [partitions, Partition.form]) rfl
  | parent _ stored =>
      subst stored
      exact h.of_forms rfl rfl

/-!
## Histories of one table
-/

/-- What happens to a table that is partitioned. -/
inductive TableEvent (alpha : Type) where
  | provision (now : Int) (count : Nat)
  | enable (now : Int)
  | insert (row : Row alpha)

def tableStep (conflicts : List (Row alpha) -> Row alpha -> Bool) (o : Offset)
    (tableName : String) (p : Period) (db : Database alpha) :
    TableEvent alpha -> Database alpha
  | .provision now count =>
      committed db (zbxProvisionPartitions o.zone now tableName p count db)
  | .enable now => committed db (zbxEnablePartitions o.zone now tableName p db)
  | .insert row => committed db (insertRow conflicts o.zone tableName row db)

/-- Times do not decrease, and bounds fit the type of the clock. -/
def Timely (o : Offset) (p : Period) : Int -> List (TableEvent alpha) -> Prop
  | _, [] => True
  | last, .provision now count :: rest =>
      last ≤ now ∧ FitsClock o p now count ∧ Timely o p now rest
  | last, .enable now :: rest => last ≤ now ∧ FitsClock o p now 0 ∧ Timely o p now rest
  | last, .insert _ :: rest => Timely o p last rest

/-- A table without partitions and trigger, whose names are not taken either. -/
structure Unpartitioned (tableName : String) (p : Period) (db : Database alpha) : Prop where
  children : forall q, q ∈ db.partitions -> q.parent ≠ tableName
  names : forall q, q ∈ db.partitions -> forall n, q.relname ≠ periodName tableName p n
  trigger : db.triggers tableName = none

/-- What partitioning promises of one event. -/
def EventExact (conflicts : List (Row alpha) -> Row alpha -> Bool) (o : Offset)
    (tableName : String) (p : Period) (db db' : Database alpha) :
    TableEvent alpha -> Prop
  | .provision now count =>
      Tiles o tableName p now count db' ∧ db'.rows tableName = db.rows tableName
  | .enable _ => db'.rows tableName = db.rows tableName
  | .insert row => forall timeFormat, db.triggers tableName = some timeFormat ->
      (forall q a b, q ∈ db.partitions -> q.parent = tableName ->
        q.check = some (a, b) -> a ≤ row.clock -> row.clock < b ->
        routedName o tableName timeFormat row = q.relname) ∧
      Inserted conflicts tableName (routedName o tableName timeFormat row) row db
        (insertRow conflicts o.zone tableName row db)

/-- What partitioning promises of a history. -/
def RoutingExact (conflicts : List (Row alpha) -> Row alpha -> Bool) (o : Offset)
    (tableName : String) (p : Period) : Database alpha -> List (TableEvent alpha) -> Prop
  | db, [] => RangesDisjoint tableName db
  | db, event :: rest =>
      RangesDisjoint tableName db ∧
      EventExact conflicts o tableName p db (tableStep conflicts o tableName p db event)
        event ∧
      RoutingExact conflicts o tableName p (tableStep conflicts o tableName p db event) rest

theorem Unpartitioned.tidy {o : Offset} {tableName : String} {p : Period}
    {db : Database alpha} (h : Unpartitioned tableName p db) (limit : Int) :
    Tidy o tableName p limit db where
  children := by
    intro q hq hparent
    exact absurd hparent (h.children q hq)
  others := fun q hq _ n => h.names q hq n
  distinct := by
    rw [List.pairwise_iff_forall_sublist]
    intro q r hsub hparent
    exact absurd hparent (h.children q (hsub.subset List.mem_cons_self))
  trigger := by
    intro timeFormat htrigger
    rw [h.trigger] at htrigger
    cases htrigger

/-- Inserts keep the partitions as they are. -/
theorem Tidy.insertRow {conflicts : List (Row alpha) -> Row alpha -> Bool} {o : Offset}
    {tableName : String} {p : Period} {limit : Int} {db : Database alpha}
    (h : Tidy o tableName p limit db) (row : Row alpha) :
    Tidy o tableName p limit
      (committed db (insertRow conflicts o.zone tableName row db)) := by
  cases htrigger : db.triggers tableName with
  | some timeFormat =>
      have hinserted := @Tidy.inserted alpha conflicts o tableName p limit db h
        timeFormat htrigger row
      generalize Zabbix.insertRow conflicts o.zone tableName row db = result at hinserted ⊢
      cases hinserted with
      | stored db' placed _ => exact placed.tidy h
      | duplicate _ _ => exact h
  | none =>
      unfold Zabbix.insertRow insertOnly
      rw [htrigger]
      simp only
      split
      · exact h
      · exact h.of_forms rfl rfl

theorem Tidy.routingExact {conflicts : List (Row alpha) -> Row alpha -> Bool}
    {o : Offset} {tableName : String} {p : Period} {last : Int} {db : Database alpha}
    {events : List (TableEvent alpha)} (h : Tidy o tableName p (o.firstDay p last 0) db)
    (htimely : Timely o p last events) :
    RoutingExact conflicts o tableName p db events := by
  have hlater : forall {now : Int}, last ≤ now ->
      o.firstDay p last 0 ≤ o.firstDay p now 0 := fun hle => p.start_mono (o.day_mono hle)
  induction events generalizing last db with
  | nil => exact h.rangesDisjoint
  | cons event rest ih =>
      refine ⟨h.rangesDisjoint, ?_⟩
      cases event with
      | provision now count =>
          rcases htimely with ⟨hle, hfits, hrest⟩
          have hnow := h.mono (hlater hle)
          rcases zbxProvisionPartitions_tidy hnow hfits with ⟨db', hrun, htidy, hperiods⟩
          have hrows := (zbxProvisionPartitions_ok hrun).rows_eq tableName
          simp only [tableStep, hrun, committed]
          exact ⟨⟨tiles_of_hasPeriod hperiods, hrows.symm⟩, ih htidy hrest fun hle' =>
            p.start_mono (o.day_mono hle')⟩
      | enable now =>
          rcases htimely with ⟨hle, hfits, hrest⟩
          have hnow := h.mono (hlater hle)
          have hnext : forall {now' : Int}, now ≤ now' ->
              o.firstDay p now 0 ≤ o.firstDay p now' 0 := fun hle' =>
            p.start_mono (o.day_mono hle')
          simp only [tableStep]
          cases henable : zbxEnablePartitions o.zone now tableName p db with
          | error e => exact ⟨rfl, ih hnow hrest hnext⟩
          | ok db' =>
              have hrows := zbxEnablePartitions_rows henable tableName
              exact ⟨hrows.symm, ih (zbxEnablePartitions_tidy hnow hfits henable) hrest hnext⟩
      | insert row =>
          constructor
          · intro timeFormat htrigger
            constructor
            · intro q a b hq hparent hcheck hlow hhigh
              have hformat := h.trigger timeFormat htrigger
              subst hformat
              exact h.routedName_eq hq hparent hcheck hlow hhigh
            · exact h.inserted htrigger row
          · exact ih (h.insertRow row) htimely hlater

/--
In every history of a table, ranges are disjoint, runs tile their periods, and
every row that is inserted is stored once, where its clock belongs.
-/
theorem routing_is_exact (conflicts : List (Row alpha) -> Row alpha -> Bool)
    (o : Offset) (tableName : String) (p : Period) (db : Database alpha) (last : Int)
    (events : List (TableEvent alpha)) (hdb : Unpartitioned tableName p db)
    (htimely : Timely o p last events) :
    RoutingExact conflicts o tableName p db events :=
  (hdb.tidy _).routingExact htimely

theorem routing_is_exact_history :
    RoutingExact (fun _ _ => false) ⟨7200, by decide⟩ "history" .day
      (unpartitioned fun _ => ([] : List (Row Unit)))
      [.provision 0 2, .enable 0, .insert ⟨5, (), by decide⟩] :=
  routing_is_exact _ _ _ _ _ 0 _ ⟨nofun, nofun, rfl⟩
    ⟨by decide, ⟨by decide, by decide⟩, by decide, ⟨by decide, by decide⟩, trivial⟩

end Zabbix
end EsdcFactory
