import EsdcFactory.Lib.Fold
import EsdcFactory.Zabbix.Partitions
import Mathlib.Data.Multiset.OrderedMonoid

/-!
# Which rows the cleanup of old partitions may delete

Dropping looks at nothing but the date suffix of a partition.  It deletes no row
too early as long as every row of a partition was recorded before the end of the
period that the suffix names.  Routing and the creation of partitions keep this
invariant; the move of the parent table's rows when partitioning is enabled keeps
it only for rows from before the current period.
-/

namespace EsdcFactory
namespace Zabbix

open Calendar Timestamp Decimal Fold

/-!
## The date suffix of a name
-/

/-- The period that a suffix format stands for. -/
def TimeFormat.period : TimeFormat -> Period
  | .yyyyMmDd => .day
  | .yyyyMm => .month
  | .yyyy => .year

@[simp] theorem period_zbxTimeFormatBy (p : Period) :
    (zbxTimeFormatBy p).period = p := by
  cases p <;> rfl

/-- The suffix format writes years with four digits. -/
def FourDigitYear (n : Int) : Prop :=
  0 ≤ (dateOf n).year ∧ (dateOf n).year < 10000

theorem fourDigitYear_of_bounds {n : Int} (hlow : -30000 ≤ n) (hhigh : n ≤ 30000) :
    FourDigitYear n := by
  have h1 := monthOf_mono hlow
  have h2 := monthOf_mono hhigh
  have hfirst : monthOf (-30000) = 22654 := by decide +kernel
  have hlast : monthOf 30000 = 24625 := by decide +kernel
  rw [hfirst] at h1
  rw [hlast] at h2
  unfold FourDigitYear dateOf monthYear
  simp only
  omega

/-- The date that a suffix is read back as: the first day of the period. -/
def suffixDate (format : TimeFormat) (n : Int) : Date :=
  match format with
  | .yyyyMmDd => dateOf n
  | .yyyyMm => ⟨(dateOf n).year, (dateOf n).month, 1⟩
  | .yyyy => ⟨(dateOf n).year, 1, 1⟩

theorem two_digits_of_year (year : Nat) (front : List Char) :
    exists k name, numberAtEnd 2 ((padded 4 year).reverse ++ front) =
      some (k, name) ∧ separatorAtEnd '_' name = none := by
  have hd : forall k : Nat, k % 10 < 10 := fun k => Nat.mod_lt k (by decide)
  have hrev : (padded 4 year).reverse ++ front =
      Nat.digitChar (year % 10) :: Nat.digitChar (year / 10 % 10) ::
        Nat.digitChar (year / 10 / 10 % 10) ::
          Nat.digitChar (year / 10 / 10 / 10 % 10) :: front := rfl
  have hread : numberAtEnd 2 ((padded 4 year).reverse ++ front) =
      some (10 * (10 * 0 + digitValue (Nat.digitChar (year / 10 % 10))) +
          digitValue (Nat.digitChar (year % 10)),
        Nat.digitChar (year / 10 / 10 % 10) ::
          Nat.digitChar (year / 10 / 10 / 10 % 10) :: front) := by
    rw [hrev]
    simp only [numberAtEnd, digitChar_isDigit (hd _), if_true, Option.map_some]
  exact ⟨_, _, hread, separatorAtEnd_digit (by decide) (hd _) _⟩

section Suffix

variable {year month day : Nat} (hyear : year < 10 ^ 4) (hmonth : month < 10 ^ 2)
  (hday : day < 10 ^ 2) (front : List Char)

include hyear in
theorem byYear_year :
    byYear ((padded 4 year).reverse ++ front) = some ⟨year, 1, 1⟩ := by
  simp [byYear, numberAtEnd_padded hyear]

include hyear hmonth in
theorem byMonth_month :
    byMonth ((padded 2 month).reverse ++ '_' ::
      ((padded 4 year).reverse ++ front)) = some ⟨year, month, 1⟩ := by
  simp [byMonth, numberAtEnd_padded hyear, numberAtEnd_padded hmonth]

include hyear hmonth hday in
theorem byDay_day :
    byDay ((padded 2 day).reverse ++ '_' :: ((padded 2 month).reverse ++ '_' ::
      ((padded 4 year).reverse ++ front))) = some ⟨year, month, day⟩ := by
  simp [byDay, numberAtEnd_padded hyear, numberAtEnd_padded hmonth,
    numberAtEnd_padded hday]

include hmonth in
theorem byDay_month :
    byDay ((padded 2 month).reverse ++ '_' ::
      ((padded 4 year).reverse ++ front)) = none := by
  rcases two_digits_of_year year front with ⟨k, name, hread, hsep⟩
  simp [byDay, numberAtEnd_padded hmonth, hread, hsep]

theorem byDay_year : byDay ((padded 4 year).reverse ++ front) = none := by
  rcases two_digits_of_year year front with ⟨k, name, hread, hsep⟩
  simp [byDay, hread, hsep]

theorem byMonth_year : byMonth ((padded 4 year).reverse ++ front) = none := by
  rcases two_digits_of_year year front with ⟨k, name, hread, hsep⟩
  simp [byMonth, hread, hsep]

end Suffix

theorem childDate_partitionName (tableName : String) (format : TimeFormat)
    {x : Int} (hfour : FourDigitYear (localDay x)) :
    childDate (partitionName tableName format x) =
      some (format.period, suffixDate format (localDay x)) := by
  unfold partitionName toChar
  generalize localDay x = n at hfour
  rcases dateOf_month_bounds n with ⟨hm1, hm2⟩
  rcases dateOf_day_bounds n with ⟨hd1, hd2⟩
  rcases hfour with ⟨hy1, hy2⟩
  unfold suffixDate
  generalize dateOf n = date at hm1 hm2 hd1 hd2 hy1 hy2
  rcases date with ⟨year, month, day⟩
  rcases Int.eq_ofNat_of_zero_le hy1 with ⟨y, rfl⟩
  simp only at hm1 hm2 hd1 hd2 hy2
  have hyear : y < 10 ^ 4 := by omega
  have hmonth : month < 10 ^ 2 := by omega
  have hday : day < 10 ^ 2 := by omega
  cases format with
  | yyyyMmDd =>
      simp [childDate, byDay_day hyear hmonth hday, TimeFormat.period]
  | yyyyMm =>
      simp [childDate, byDay_month hmonth, byMonth_month hyear hmonth,
        TimeFormat.period]
  | yyyy =>
      simp [childDate, byDay_year, byMonth_year, byYear_year hyear,
        TimeFormat.period]

/-!
## The upper bound of a partition
-/

theorem suffixDate_toDay (format : TimeFormat) (n : Int) :
    (suffixDate format n).toDay = format.period.start n := by
  cases format with
  | yyyyMmDd => exact dateOf_toDay n
  | yyyyMm =>
      simp [suffixDate, Date.toDay, dateOf, monthIndex_year_number,
        TimeFormat.period, Period.start]
  | yyyy =>
      simp [suffixDate, Date.toDay, dateOf, monthIndex, monthYear,
        TimeFormat.period, Period.start]

theorem toTimestamp_suffixDate (tz : TimeZone) (format : TimeFormat) (n : Int) :
    toTimestamp tz (suffixDate format n) =
      .ok (tz.ofLocal (midnight (format.period.start n))) := by
  rcases dateOf_month_bounds n with ⟨hm1, hm2⟩
  have hd1 := (dateOf_day_bounds n).left
  have hvalid : 1 ≤ (suffixDate format n).month ∧
      (suffixDate format n).month ≤ 12 ∧ 1 ≤ (suffixDate format n).day ∧
      ((suffixDate format n).day : Int) ≤ monthLength
        (monthIndex (suffixDate format n).year (suffixDate format n).month) := by
    cases format with
    | yyyyMmDd =>
        refine ⟨hm1, hm2, hd1, ?_⟩
        rcases monthOf_spec n with ⟨hlow, hhigh⟩
        simp only [suffixDate, dateOf, monthIndex_year_number, monthLength]
        omega
    | yyyyMm =>
        refine ⟨hm1, hm2, le_rfl, ?_⟩
        have hlen := (monthLength_bounds
          (monthIndex (dateOf n).year (dateOf n).month)).left
        simp only [suffixDate]
        omega
    | yyyy =>
        have hlen := (monthLength_bounds (monthIndex (dateOf n).year 1)).left
        simp only [suffixDate]
        omega
  unfold toTimestamp
  rw [if_pos hvalid, suffixDate_toDay]

theorem addInterval_mono_midnight {n x : Int} (iv : Interval)
    (h : midnight n ≤ x) :
    midnight (addMonths n iv.months + iv.days) ≤ addInterval x iv := by
  rw [midnight_le_iff, localDay_addInterval]
  have hmono := addMonths_mono iv.months (midnight_le_iff.mp h)
  omega

theorem Period.interval_ne_zero (p : Period) :
    ¬ (p.interval.months = 0 ∧ p.interval.days = 0) := by
  cases p <;> decide

theorem childBound_partitionName (tz : TimeZone) (tableName : String)
    (format : TimeFormat) {x : Int} (hfour : FourDigitYear (localDay x)) :
    exists bound, childBound tz (partitionName tableName format x) = .ok bound ∧
      midnight (format.period.next (localDay x)) ≤ bound := by
  let start := tz.ofLocal (midnight (format.period.start (localDay x)))
  exists tz.toLocal (plusInterval tz start format.period.interval)
  constructor
  · unfold childBound
    rw [childDate_partitionName tableName format hfour]
    simp only [toTimestamp_suffixDate]
    rfl
  · unfold plusInterval
    rw [if_neg (Period.interval_ne_zero _), ← Period.start_add_interval]
    exact (addInterval_mono_midnight _ (tz.le_toLocal_ofLocal _)).trans
      (tz.le_toLocal_ofLocal _)

theorem Row.fourDigitYear (tz : TimeZone) (r : Row alpha) :
    FourDigitYear (localDay (tz.toLocal r.instant)) := by
  rcases r.clock_int4 with ⟨hlow, hhigh⟩
  rcases tz.offset_lt r.instant with ⟨h1, h2⟩
  have hx : midnight (-30000) ≤ tz.toLocal r.instant ∧
      tz.toLocal r.instant < midnight 30000 := by
    unfold midnight Row.instant dayUs secondUs at *
    omega
  have h3 := midnight_le_iff.mp hx.left
  have h4 := lt_midnight_iff.mp hx.right
  exact fourDigitYear_of_bounds h3 (by omega)

/-!
## The invariant
-/

/-- The row was recorded before the end of the period that the suffix names. -/
def WithinSuffix (tz : TimeZone) (relname : List Char) (r : Row alpha) : Prop :=
  exists bound, childBound tz relname = .ok bound ∧ tz.toLocal r.instant < bound

/-- No partition holds a row from after the period that its suffix names. -/
def Sound (tz : TimeZone) (partitions : List (Partition alpha)) : Prop :=
  forall p, p ∈ partitions -> forall r, r ∈ p.rows -> WithinSuffix tz p.relname r

theorem withinSuffix_partitionName (tz : TimeZone) (tableName : String)
    (format : TimeFormat) (r : Row alpha) :
    WithinSuffix tz (partitionName tableName format (tz.toLocal r.instant)) r := by
  obtain ⟨bound, hbound, hnext⟩ :=
    childBound_partitionName tz tableName format (r.fourDigitYear tz)
  have hend := lt_midnight_iff.mpr (format.period.lt_next
    (localDay (tz.toLocal r.instant)))
  exact ⟨bound, hbound, lt_of_lt_of_le hend hnext⟩

theorem Sound.append {tz : TimeZone} {ps qs : List (Partition alpha)}
    (hps : Sound tz ps) (hqs : Sound tz qs) : Sound tz (ps ++ qs) := by
  intro p hp
  rcases List.mem_append.mp hp with hp | hp
  · exact hps p hp
  · exact hqs p hp

/-- A partition without rows is sound under any name. -/
theorem sound_of_rows_nil (tz : TimeZone) {ps : List (Partition alpha)}
    (h : forall p, p ∈ ps -> p.rows = []) : Sound tz ps := by
  intro p hp r hr
  rw [h p hp] at hr
  cases hr

theorem insertInto_some {conflicts : List (Row alpha) -> Row alpha -> Bool}
    {relname : List Char} {row : Row alpha} {ps ps' : List (Partition alpha)}
    (h : insertInto conflicts relname row ps = some ps') :
    exists front p back, ps = front ++ p :: back ∧ p.relname = relname ∧
      ps' = front ++ { p with rows := p.rows ++ [row] } :: back := by
  induction ps generalizing ps' with
  | nil => cases h
  | cons p rest ih =>
      unfold insertInto at h
      split at h
      · rename_i hname
        split at h
        · cases h
          exact ⟨[], p, rest, rfl, hname, rfl⟩
        · cases h
      · rw [Option.map_eq_some_iff] at h
        rcases h with ⟨rest', hrest, rfl⟩
        rcases ih hrest with ⟨front, q, back, rfl, hname, rfl⟩
        exact ⟨p :: front, q, back, rfl, hname, rfl⟩

theorem insertInto_sound {conflicts : List (Row alpha) -> Row alpha -> Bool}
    {tz : TimeZone} {relname : List Char} {row : Row alpha}
    {ps ps' : List (Partition alpha)}
    (h : insertInto conflicts relname row ps = some ps') (hps : Sound tz ps)
    (hrow : WithinSuffix tz relname row) : Sound tz ps' := by
  rcases insertInto_some h with ⟨front, p, back, rfl, rfl, rfl⟩
  intro q hq r hr
  rcases List.mem_append.mp hq with hfront | hback
  · exact hps q (List.mem_append_left _ hfront) r hr
  · cases hback with
    | head =>
        rcases List.mem_append.mp hr with hold | hnew
        · exact hps p (by simp) r hold
        · rw [List.mem_singleton.mp hnew]
          exact hrow
    | tail _ hback =>
        exact hps q (List.mem_append_right _ (List.mem_cons_of_mem p hback)) r hr

/-- Inserted rows keep the invariant. -/
theorem insertRow_sound {conflicts : List (Row alpha) -> Row alpha -> Bool}
    {tz : TimeZone} {tableName : String} {row : Row alpha}
    {db db' : Database alpha}
    (h : insertRow conflicts tz tableName row db = .ok db')
    (hdb : Sound tz db.partitions) : Sound tz db'.partitions := by
  have hparent : forall {d : Database alpha},
      insertOnly conflicts tableName row db = .ok d -> Sound tz d.partitions := by
    intro d hd
    unfold insertOnly at hd
    split at hd
    · cases hd
    · cases hd
      exact hdb
  unfold insertRow at h
  split at h
  · exact hparent h
  · rename_i timeFormat _
    split at h
    · rename_i routed hroute
      cases h
      unfold zbxRouteInsertByClock at hroute
      rw [Option.map_eq_some_iff] at hroute
      rcases hroute with ⟨ps, hinsert, rfl⟩
      exact insertInto_sound hinsert hdb
        (withinSuffix_partitionName tz tableName timeFormat row)
    · exact hparent h

/-!
## Lost rows
-/

@[simp] theorem partitionRows_nil (tableName : String) :
    partitionRows tableName ([] : List (Partition alpha)) = 0 := rfl

@[simp] theorem partitionRows_cons (tableName : String) (p : Partition alpha)
    (ps : List (Partition alpha)) :
    partitionRows tableName (p :: ps) =
      (if p.parent = tableName then ↑p.rows else 0) +
        partitionRows tableName ps := by
  simp [partitionRows]

@[simp] theorem partitionRows_append (tableName : String)
    (ps qs : List (Partition alpha)) :
    partitionRows tableName (ps ++ qs) =
      partitionRows tableName ps + partitionRows tableName qs := by
  simp [partitionRows]

/-- From `db` to `db'` the table loses only rows with the property `Q`. -/
def Loses (tableName : String) (Q : Row alpha -> Prop) (db db' : Database alpha) :
    Prop :=
  exists gone, db.rows tableName = db'.rows tableName + gone ∧
    forall r, r ∈ gone -> Q r

theorem Loses.of_rows_eq {tableName : String} {Q : Row alpha -> Prop}
    {db db' : Database alpha} (h : db.rows tableName = db'.rows tableName) :
    Loses tableName Q db db' := by
  refine ⟨0, by rw [h, add_zero], ?_⟩
  intro r hr
  exact absurd hr (Multiset.notMem_zero r)

theorem Loses.trans {tableName : String} {Q : Row alpha -> Prop}
    {db db' db'' : Database alpha} (h : Loses tableName Q db db')
    (h' : Loses tableName Q db' db'') : Loses tableName Q db db'' := by
  rcases h with ⟨gone, hrows, hgone⟩
  rcases h' with ⟨gone', hrows', hgone'⟩
  refine ⟨gone' + gone, by rw [hrows, hrows', add_assoc], ?_⟩
  intro r hr
  rcases Multiset.mem_add.mp hr with hr | hr
  · exact hgone' r hr
  · exact hgone r hr

theorem Loses.of_mem_sub [DecidableEq alpha] {tableName : String}
    {Q : Row alpha -> Prop} {db db' : Database alpha}
    (h : Loses tableName Q db db') {r : Row alpha}
    (hr : r ∈ db.rows tableName - db'.rows tableName) : Q r := by
  rcases h with ⟨gone, hrows, hgone⟩
  rw [hrows, add_tsub_cancel_left] at hr
  exact hgone r hr

/-!
## Creating partitions
-/

/-- Only partitions without rows were added. -/
def Extends (db db' : Database alpha) : Prop :=
  db'.parents = db.parents ∧ exists new, db'.partitions = db.partitions ++ new ∧
    forall p, p ∈ new -> p.rows = []

theorem Extends.refl (db : Database alpha) : Extends db db :=
  ⟨rfl, [], by simp, by simp⟩

theorem Extends.trans {db db' db'' : Database alpha} (h : Extends db db')
    (h' : Extends db' db'') : Extends db db'' := by
  rcases h with ⟨hparents, new, hps, hnew⟩
  rcases h' with ⟨hparents', new', hps', hnew'⟩
  refine ⟨hparents'.trans hparents, new ++ new', ?_, ?_⟩
  · rw [hps', hps, List.append_assoc]
  · intro p hp
    rcases List.mem_append.mp hp with hp | hp
    · exact hnew p hp
    · exact hnew' p hp

theorem Extends.sound {tz : TimeZone} {db db' : Database alpha}
    (h : Extends db db') (hdb : Sound tz db.partitions) :
    Sound tz db'.partitions := by
  rcases h with ⟨_, new, hps, hnew⟩
  rw [hps]
  exact hdb.append (sound_of_rows_nil tz hnew)

theorem Extends.rows_eq {db db' : Database alpha} (h : Extends db db')
    (tableName : String) : db.rows tableName = db'.rows tableName := by
  rcases h with ⟨hparents, new, hps, hnew⟩
  have hzero : partitionRows tableName new = 0 := by
    clear hps
    induction new with
    | nil => rfl
    | cons p rest ih =>
        rw [partitionRows_cons, hnew p List.mem_cons_self,
          ih (fun q hq => hnew q (List.mem_cons_of_mem p hq))]
        simp
  unfold Database.rows
  rw [hparents, hps, partitionRows_append, hzero, add_zero]

theorem provisionPartition_ok {tz : TimeZone} {now : Int} {tableName : String}
    {p : Period} {i : Nat} {db db' : Database alpha}
    (h : provisionPartition tz now tableName p db i = .ok db') :
    Extends db db' ∧ exists startDate, extractEpoch (dateTrunc tz p
      (plusInterval tz now (p.interval.scale i))) = .ok startDate := by
  unfold provisionPartition at h
  rcases bind_eq_ok.mp h with ⟨startDate, hstart, h⟩
  rcases bind_eq_ok.mp h with ⟨endDate, _, h⟩
  refine ⟨?_, startDate, hstart⟩
  simp only at h
  split at h
  · cases h
    exact Extends.refl _
  · cases h
    exact ⟨rfl, [_], rfl, by simp⟩

theorem zbxProvisionPartitions_ok {tz : TimeZone} {now : Int}
    {tableName : String} {p : Period} {count : Nat} {db db' : Database alpha}
    (h : zbxProvisionPartitions tz now tableName p count db = .ok db') :
    Extends db db' :=
  foldlM_rel Extends.refl Extends.trans
    (fun _ _ _ _ hone => (provisionPartition_ok hone).left) h

theorem provisionTables_ok {tz : TimeZone} {now : Int} {db db' : Database alpha}
    (h : provisionTables tz now db = .ok db') : Extends db db' :=
  foldlM_rel Extends.refl Extends.trans
    (fun _ _ _ _ hone => zbxProvisionPartitions_ok hone) h

theorem count_pos : forall o, o ∈ tables -> 0 < o.count := by
  decide

theorem provisionTables_start {tz : TimeZone} {now : Int}
    {db db' : Database alpha} (h : provisionTables tz now db = .ok db')
    {o : TableOptions} (ho : o ∈ tables) :
    exists startDate,
      extractEpoch (dateTrunc tz o.partitionBy now) = .ok startDate := by
  rcases foldlM_mem h ho with ⟨c, c', htable⟩
  have hmem : 0 ∈ List.range o.count := List.mem_range.mpr (count_pos o ho)
  rcases foldlM_mem htable hmem with ⟨d, d', hone⟩
  have hstart := (provisionPartition_ok hone).right
  have hzero : plusInterval tz now (o.partitionBy.interval.scale (0 : Nat)) =
      now := by
    simp [plusInterval, Interval.scale]
  rw [hzero] at hstart
  exact hstart

/-!
## Enabling partitions
-/

/-- Every row that the parent tables hold was recorded before the current period. -/
def BeforePeriod (tz : TimeZone) (now : Int) (parents : String -> List (Row alpha)) :
    Prop :=
  forall o, o ∈ tables -> forall r, r ∈ parents o.tableName ->
    tz.toLocal r.instant < truncate o.partitionBy (tz.toLocal now)

/-- The local time one period back, by which the first partition is named. -/
def periodBack (tz : TimeZone) (now : Int) (p : Period) : Int :=
  tz.toLocal (plusInterval tz now (p.interval.scale (-1)))

theorem interval_scale_neg_ne_zero (p : Period) :
    ¬ ((p.interval.scale (-1)).months = 0 ∧ (p.interval.scale (-1)).days = 0) := by
  cases p <;> decide

theorem start_le_next_periodBack (tz : TimeZone) (now : Int) (p : Period) :
    p.start (localDay (tz.toLocal now)) ≤
      p.next (localDay (periodBack tz now p)) := by
  unfold periodBack plusInterval
  rw [if_neg (interval_scale_neg_ne_zero p), ← p.next_addInterval_neg]
  exact p.next_mono (localDay_mono (tz.le_toLocal_ofLocal _))

theorem periodBack_lt (tz : TimeZone) (now : Int) (p : Period) :
    localDay (periodBack tz now p) < p.start (localDay (tz.toLocal now)) + 2 := by
  have hday : localDay (addInterval (tz.toLocal now) (p.interval.scale (-1))) <
      p.start (localDay (tz.toLocal now)) := by
    rw [← p.next_addInterval_neg]
    exact p.lt_next _
  unfold periodBack plusInterval
  rw [if_neg (interval_scale_neg_ne_zero p)]
  generalize addInterval (tz.toLocal now) (p.interval.scale (-1)) = x at hday ⊢
  have hx := lt_midnight_iff.mpr hday
  have h1 := (tz.offset_lt (tz.ofLocal x)).left
  have h2 := tz.ofLocal_sub_lt x
  rw [← lt_midnight_iff]
  unfold midnight dayUs at *
  omega

theorem start_bounds {tz : TimeZone} {now : Int} {p : Period} {startDate : Int}
    (h : extractEpoch (dateTrunc tz p now) = .ok startDate) :
    -25000 ≤ p.start (localDay (tz.toLocal now)) ∧
      p.start (localDay (tz.toLocal now)) < 25000 := by
  unfold extractEpoch at h
  simp only at h
  split at h
  · rename_i hint
    rcases hint with ⟨hlow, hhigh⟩
    unfold dateTrunc truncate at hlow hhigh
    generalize p.start (localDay (tz.toLocal now)) = n at hlow hhigh ⊢
    have h1 := tz.le_toLocal_ofLocal (midnight n)
    have h2 := (tz.offset_lt (tz.ofLocal (midnight n))).left
    have h3 := tz.ofLocal_sub_lt (midnight n)
    unfold midnight dayUs secondUs at *
    omega
  · cases h

theorem fourDigitYear_periodBack {tz : TimeZone} {now : Int} {p : Period}
    {startDate : Int} (h : extractEpoch (dateTrunc tz p now) = .ok startDate) :
    FourDigitYear (localDay (periodBack tz now p)) := by
  rcases start_bounds h with ⟨hlow, hhigh⟩
  have hupper := periodBack_lt tz now p
  have hnext := start_le_next_periodBack tz now p
  have hlen := p.next_le (localDay (periodBack tz now p))
  exact fourDigitYear_of_bounds (by omega) (by omega)

theorem zbxEnablePartitions_ok {tz : TimeZone} {now : Int} {tableName : String}
    {p : Period} {db db' : Database alpha}
    (h : zbxEnablePartitions tz now tableName p db = .ok db') :
    db'.parents = Function.update db.parents tableName [] ∧
      db'.partitions = db.partitions ++
        [⟨partitionName tableName (zbxTimeFormatBy p) (periodBack tz now p),
          tableName, none, db.parents tableName⟩] := by
  unfold zbxEnablePartitions at h
  simp only at h
  split at h
  · cases h
  · split at h
    · cases h
    · cases h
      exact ⟨rfl, rfl⟩

theorem zbxEnablePartitions_rows {tz : TimeZone} {now : Int} {tableName : String}
    {p : Period} {db db' : Database alpha}
    (h : zbxEnablePartitions tz now tableName p db = .ok db') (name : String) :
    db.rows name = db'.rows name := by
  rcases zbxEnablePartitions_ok h with ⟨hparents, hps⟩
  unfold Database.rows
  rw [hparents, hps, partitionRows_append]
  by_cases hname : tableName = name
  · subst hname
    simp [add_comm]
  · simp [hname, Function.update_of_ne (Ne.symm hname)]

/-- Rows from before the current period are moved where their age puts them. -/
theorem zbxEnablePartitions_sound {tz : TimeZone} {now : Int}
    {db db' : Database alpha} {o : TableOptions} (ho : o ∈ tables)
    (hstart : exists startDate,
      extractEpoch (dateTrunc tz o.partitionBy now) = .ok startDate)
    (hbefore : BeforePeriod tz now db.parents) (hdb : Sound tz db.partitions)
    (h : zbxEnablePartitions tz now o.tableName o.partitionBy db = .ok db') :
    BeforePeriod tz now db'.parents ∧ Sound tz db'.partitions := by
  rcases zbxEnablePartitions_ok h with ⟨hparents, hps⟩
  constructor
  · intro o' ho' r hr
    apply hbefore o' ho' r
    rw [hparents] at hr
    by_cases hname : o'.tableName = o.tableName
    · rw [hname, Function.update_self] at hr
      cases hr
    · rwa [Function.update_of_ne hname] at hr
  · rw [hps]
    apply hdb.append
    intro q hq r hr
    rw [List.mem_singleton] at hq
    subst hq
    rcases hstart with ⟨startDate, hstart⟩
    rcases childBound_partitionName tz o.tableName (zbxTimeFormatBy o.partitionBy)
      (fourDigitYear_periodBack hstart) with ⟨bound, hbound, hnext⟩
    rw [period_zbxTimeFormatBy] at hnext
    have hperiod : truncate o.partitionBy (tz.toLocal now) ≤
        midnight (o.partitionBy.next
          (localDay (periodBack tz now o.partitionBy))) := by
      unfold truncate
      rw [midnight_le_iff, localDay_midnight]
      exact start_le_next_periodBack tz now o.partitionBy
    exact ⟨bound, hbound, lt_of_lt_of_le (hbefore o ho r hr)
      (hperiod.trans hnext)⟩

theorem enableTables_ok {tz : TimeZone} {now : Int} {db db' : Database alpha}
    {options : List TableOptions} (hlisted : forall o, o ∈ options -> o ∈ tables)
    (hstart : forall o, o ∈ tables -> exists startDate,
      extractEpoch (dateTrunc tz o.partitionBy now) = .ok startDate)
    (h : options.foldlM (fun db o =>
      zbxEnablePartitions tz now o.tableName o.partitionBy db) db = .ok db') :
    (BeforePeriod tz now db.parents -> Sound tz db.partitions ->
      BeforePeriod tz now db'.parents ∧ Sound tz db'.partitions) ∧
    forall name, db.rows name = db'.rows name := by
  refine foldlM_rel
    (R := fun db db' : Database alpha =>
      (BeforePeriod tz now db.parents -> Sound tz db.partitions ->
        BeforePeriod tz now db'.parents ∧ Sound tz db'.partitions) ∧
      forall name, db.rows name = db'.rows name) ?_ ?_ ?_ h
  · intro d
    exact ⟨fun hbefore hsound => ⟨hbefore, hsound⟩, fun _ => rfl⟩
  · intro c d e hcd hde
    refine ⟨?_, fun name => (hcd.right name).trans (hde.right name)⟩
    intro hbefore hsound
    rcases hcd.left hbefore hsound with ⟨hbefore', hsound'⟩
    exact hde.left hbefore' hsound'
  · intro o ho d d' hone
    have hmem := hlisted o ho
    exact ⟨fun hbefore hsound =>
      zbxEnablePartitions_sound hmem (hstart o hmem) hbefore hsound hone,
      zbxEnablePartitions_rows hone⟩

theorem initialized_rows (tz : TimeZone) (initNow : Int)
    (rows : String -> List (Row alpha)) (name : String) :
    (initialized tz initNow rows).rows name = (unpartitioned rows).rows name := by
  unfold initialized
  cases hinit : initTransaction tz initNow (unpartitioned rows) with
  | error e => rfl
  | ok db =>
      rcases bind_eq_ok.mp hinit with ⟨mid, hprovision, henable⟩
      have hrows := (enableTables_ok (fun _ ho => ho)
        (fun o ho => provisionTables_start hprovision ho) henable).right name
      rw [(provisionTables_ok hprovision).rows_eq name, hrows]
      rfl

/-- Rows from before the current period leave a sound set-up. -/
theorem initialized_sound {tz : TimeZone} {initNow : Int}
    {rows : String -> List (Row alpha)} (h : BeforePeriod tz initNow rows) :
    Sound tz (initialized tz initNow rows).partitions := by
  have hempty : Sound tz (unpartitioned rows).partitions := by
    intro p hp
    cases hp
  unfold initialized
  cases hinit : initTransaction tz initNow (unpartitioned rows) with
  | error e => exact hempty
  | ok db =>
      rcases bind_eq_ok.mp hinit with ⟨mid, hprovision, henable⟩
      have hmid := provisionTables_ok hprovision
      have hbefore : BeforePeriod tz initNow mid.parents := by
        rw [hmid.left]
        exact h
      exact ((enableTables_ok (fun _ ho => ho)
        (fun o ho => provisionTables_start hprovision ho) henable).left
          hbefore (hmid.sound hempty)).right

/-!
## Dropping partitions
-/

/-- What dropping partitions with an upper bound up to a cutoff leaves of a table. -/
structure DroppedTo (tz : TimeZone) (tableName : String) (cutoff : Int)
    (ps ps' : List (Partition alpha)) : Prop where
  mem : forall p, p ∈ ps' -> p ∈ ps
  rows : forall name, exists gone,
    partitionRows name ps = partitionRows name ps' + gone ∧
    forall r, r ∈ gone -> tableName = name ∧
      exists p bound, p ∈ ps ∧ r ∈ p.rows ∧
        childBound tz p.relname = .ok bound ∧ tz.ofLocal bound ≤ cutoff

theorem DroppedTo.keep {tz : TimeZone} {tableName : String} {cutoff : Int}
    {ps ps' : List (Partition alpha)} (h : DroppedTo tz tableName cutoff ps ps')
    (p : Partition alpha) : DroppedTo tz tableName cutoff (p :: ps) (p :: ps') where
  mem := by
    intro q hq
    cases hq with
    | head => exact List.mem_cons_self
    | tail _ hq => exact List.mem_cons_of_mem p (h.mem q hq)
  rows := by
    intro name
    rcases h.rows name with ⟨gone, hrows, hold⟩
    refine ⟨gone, ?_, ?_⟩
    · rw [partitionRows_cons, partitionRows_cons, hrows, add_assoc]
    · intro r hr
      rcases hold r hr with ⟨hname, q, bound, hq, hfacts⟩
      exact ⟨hname, q, bound, List.mem_cons_of_mem p hq, hfacts⟩

theorem DroppedTo.drop {tz : TimeZone} {tableName : String} {cutoff bound : Int}
    {ps ps' : List (Partition alpha)} (h : DroppedTo tz tableName cutoff ps ps')
    {p : Partition alpha} (hparent : p.parent = tableName)
    (hbound : childBound tz p.relname = .ok bound) (hold : tz.ofLocal bound ≤ cutoff) :
    DroppedTo tz tableName cutoff (p :: ps) ps' where
  mem q hq := List.mem_cons_of_mem p (h.mem q hq)
  rows := by
    intro name
    rcases h.rows name with ⟨gone, hrows, hgone⟩
    refine ⟨(if p.parent = name then ↑p.rows else 0) + gone, ?_, ?_⟩
    · rw [partitionRows_cons, hrows, add_left_comm]
    · intro r hr
      rcases Multiset.mem_add.mp hr with hp | hr
      · split at hp
        next hname =>
          exact ⟨hparent.symm.trans hname, p, bound, List.mem_cons_self, hp, hbound, hold⟩
        next => exact absurd hp (Multiset.notMem_zero r)
      · rcases hgone r hr with ⟨hname, q, bound, hq, hfacts⟩
        exact ⟨hname, q, bound, List.mem_cons_of_mem p hq, hfacts⟩

theorem dropOldPartitions_ok {tz : TimeZone} {now : Int} {tableName : String}
    {cutoff : Int} {ps ps' : List (Partition alpha)}
    (h : dropOldPartitions tz now tableName cutoff ps = .ok ps') :
    DroppedTo tz tableName cutoff ps ps' := by
  induction ps generalizing ps' with
  | nil =>
      cases h
      exact ⟨fun _ hp => hp, fun name => ⟨0, by simp, by simp⟩⟩
  | cons p rest ih =>
      unfold dropOldPartitions at h
      split at h
      next hparent =>
        rcases bind_eq_ok.mp h with ⟨bound, hbound, h⟩
        rcases bind_eq_ok.mp h with ⟨rest', hrest, h⟩
        split at h
        next =>
          cases h
          exact (ih hrest).keep p
        next =>
          split at h
          next hold =>
            cases h
            exact (ih hrest).drop hparent hbound hold
          next =>
            cases h
            exact (ih hrest).keep p
      next =>
        rcases bind_eq_ok.mp h with ⟨rest', hrest, h⟩
        cases h
        exact (ih hrest).keep p

/-- The row is older than the cutoff that the run computes for its table. -/
def PastCutoff (tz : TimeZone) (scriptNow : Int) (tableName : String)
    (r : Row alpha) : Prop :=
  exists o, o ∈ tables ∧ o.tableName = tableName ∧
    r.instant < cutoff tz scriptNow o

/-- Dropping keeps the invariant, and the invariant limits what is dropped. -/
theorem zbxDropOldPartitions_ok {tz : TimeZone} {now scriptNow : Int}
    {o : TableOptions} (ho : o ∈ tables) {db db' : Database alpha}
    (h : zbxDropOldPartitions tz now o.tableName (cutoff tz scriptNow o) db =
      .ok db') (hdb : Sound tz db.partitions) :
    Sound tz db'.partitions ∧
      forall name, Loses name (PastCutoff tz scriptNow name) db db' := by
  rcases bind_eq_ok.mp h with ⟨ps, hdrop, hps⟩
  cases hps
  have hdropped := dropOldPartitions_ok hdrop
  refine ⟨fun p hp => hdb p (hdropped.mem p hp), ?_⟩
  intro name
  rcases hdropped.rows name with ⟨gone, hrows, hold⟩
  refine ⟨gone, ?_, ?_⟩
  · unfold Database.rows
    rw [hrows, add_assoc]
  · intro r hr
    rcases hold r hr with ⟨hname, p, bound, hp, hrp, hbound, hcutoff⟩
    rcases hdb p hp r hrp with ⟨bound', hbound', hlt⟩
    rw [hbound] at hbound'
    cases hbound'
    exact ⟨o, ho, hname, lt_of_lt_of_le (tz.lt_ofLocal hlt) hcutoff⟩

/-- A run of the script keeps the invariant and deletes only rows past the cutoff. -/
theorem cleanupTransaction_ok {tz : TimeZone} {now scriptNow : Int}
    {db db' : Database alpha}
    (h : cleanupTransaction tz now scriptNow db = .ok db')
    (hdb : Sound tz db.partitions) :
    Sound tz db'.partitions ∧
      forall name, Loses name (PastCutoff tz scriptNow name) db db' := by
  rcases bind_eq_ok.mp h with ⟨mid, hprovision, hdrop⟩
  have hmid := provisionTables_ok hprovision
  have hdropped : Sound tz mid.partitions -> Sound tz db'.partitions ∧
      forall name, Loses name (PastCutoff tz scriptNow name) mid db' := by
    refine foldlM_rel
      (R := fun db db' : Database alpha => Sound tz db.partitions ->
        Sound tz db'.partitions ∧
          forall name, Loses name (PastCutoff tz scriptNow name) db db')
      ?_ ?_ ?_ hdrop
    · intro d hd
      exact ⟨hd, fun _ => Loses.of_rows_eq rfl⟩
    · intro c d e hcd hde hc
      rcases hcd hc with ⟨hd, hlose⟩
      rcases hde hd with ⟨he, hlose'⟩
      exact ⟨he, fun name => (hlose name).trans (hlose' name)⟩
    · intro o ho d d' hone hd
      exact zbxDropOldPartitions_ok ho hone hd
  rcases hdropped (hmid.sound hdb) with ⟨hsound, hlose⟩
  exact ⟨hsound, fun name =>
    (Loses.of_rows_eq (hmid.rows_eq name)).trans (hlose name)⟩

/-!
## Whole histories
-/

/-- One event keeps the invariant. -/
theorem step_sound {conflicts : List (Row alpha) -> Row alpha -> Bool}
    {tz : TimeZone} {db : Database alpha} (hdb : Sound tz db.partitions)
    (event : Event alpha) :
    Sound tz (step conflicts tz db event).partitions := by
  cases event with
  | insert tableName row =>
      rw [step_insert]
      cases hinsert : insertRow conflicts tz tableName row db with
      | error e => exact hdb
      | ok db' => exact insertRow_sound hinsert hdb
  | cleanup now scriptNow =>
      rw [step_cleanup]
      cases hrun : cleanupTransaction tz now scriptNow db with
      | error e => exact hdb
      | ok db' => exact (cleanupTransaction_ok hrun hdb).left

theorem step_loses {conflicts : List (Row alpha) -> Row alpha -> Bool}
    {tz : TimeZone} {db : Database alpha} (hdb : Sound tz db.partitions)
    (now scriptNow : Int) (tableName : String) :
    Loses tableName (PastCutoff tz scriptNow tableName) db
      (step conflicts tz db (.cleanup now scriptNow)) := by
  rw [step_cleanup]
  cases hrun : cleanupTransaction tz now scriptNow db with
  | error e => exact Loses.of_rows_eq rfl
  | ok db' => exact (cleanupTransaction_ok hrun hdb).right tableName

/-- Every history keeps the invariant. -/
theorem history_sound {conflicts : List (Row alpha) -> Row alpha -> Bool}
    {tz : TimeZone} {initNow : Int} {rows : String -> List (Row alpha)}
    (h : BeforePeriod tz initNow rows) (events : List (Event alpha)) :
    Sound tz (history conflicts tz initNow rows events).partitions := by
  have hrun : forall db : Database alpha, Sound tz db.partitions ->
      Sound tz (events.foldl (step conflicts tz) db).partitions := by
    induction events with
    | nil => exact fun db hdb => hdb
    | cons event rest ih => exact fun db hdb => ih _ (step_sound hdb event)
  exact hrun _ (initialized_sound h)

/-- An event deletes a row of a table: fewer copies of it are left. -/
structure Deletes [DecidableEq alpha]
    (conflicts : List (Row alpha) -> Row alpha -> Bool) (tz : TimeZone)
    (db : Database alpha) (event : Event alpha) (tableName : String)
    (r : Row alpha) : Prop where
  mem_sub :
    r ∈ db.rows tableName - (step conflicts tz db event).rows tableName

instance [DecidableEq alpha] (conflicts : List (Row alpha) -> Row alpha -> Bool)
    (tz : TimeZone) (db : Database alpha) (event : Event alpha)
    (tableName : String) (r : Row alpha) :
    Decidable (Deletes conflicts tz db event tableName r) :=
  decidable_of_iff _ ⟨Deletes.mk, Deletes.mem_sub⟩

/--
No run of a history deletes a row that is not past the cutoff of that run: the
run that sets up partitioning deletes nothing, and each later one deletes only
rows from before the cutoff of their table.
-/
def RetentionSafe [DecidableEq alpha]
    (conflicts : List (Row alpha) -> Row alpha -> Bool) (tz : TimeZone)
    (initNow : Int) (rows : String -> List (Row alpha))
    (events : List (Event alpha)) : Prop :=
  (forall tableName, (unpartitioned rows).rows tableName -
    (initialized tz initNow rows).rows tableName = 0) ∧
  forall before now scriptNow later,
    events = before ++ .cleanup now scriptNow :: later ->
    forall tableName r,
      Deletes conflicts tz (history conflicts tz initNow rows before)
        (.cleanup now scriptNow) tableName r ->
      PastCutoff tz scriptNow tableName r

/--
Every history is safe if all rows that exist when partitioning is set up were
recorded before the current period of their table.
-/
theorem retentionSafe_of_beforePeriod [DecidableEq alpha]
    (conflicts : List (Row alpha) -> Row alpha -> Bool) (tz : TimeZone)
    {initNow : Int} {rows : String -> List (Row alpha)}
    (h : BeforePeriod tz initNow rows) (events : List (Event alpha)) :
    RetentionSafe conflicts tz initNow rows events := by
  constructor
  · intro tableName
    rw [initialized_rows, tsub_self]
  · intro before now scriptNow later _ tableName r hr
    have hsound : Sound tz (history conflicts tz initNow rows before).partitions :=
      history_sound h before
    exact (step_loses hsound now scriptNow tableName).of_mem_sub hr.mem_sub

/-- A time on a day of January 2020 in universal time. -/
def january2020 (day hour minute : Nat) : Int :=
  midnight (Date.toDay ⟨2020, 1, day⟩) + (60 * hour + minute) * (60 * secondUs)

/-- A value recorded at six in the morning of the tenth. -/
def morningRow : Row Unit where
  clock := january2020 10 6 0 / secondUs
  data := ()
  clock_int4 := by decide +kernel

/-- The table `history` holds one value, all others are empty. -/
def morningRows (tableName : String) : List (Row Unit) :=
  if tableName = "history" then [morningRow] else []

theorem morningRow_deleted :
    Deletes (fun _ _ => false) .utc
      (history (fun _ _ => false) .utc (january2020 10 12 0) morningRows [])
      (.cleanup (january2020 17 1 30) (january2020 17 1 30)) "history"
      morningRow := by
  decide +kernel

theorem morningRow_not_pastCutoff :
    ¬ PastCutoff .utc (january2020 17 1 30) "history" morningRow := by
  have hkept : forall o, o ∈ tables -> o.tableName = "history" ->
      ¬ morningRow.instant < cutoff .utc (january2020 17 1 30) o := by
    decide +kernel
  intro h
  rcases h with ⟨o, ho, hname, hlt⟩
  exact hkept o ho hname hlt

/--
Set up at noon of the tenth, partitioning files that morning's value under the
ninth, and the cleanup of the seventeenth deletes it half a day too early.
-/
theorem moved_row_is_deleted_early :
    january2020 10 12 0 ≤ january2020 17 1 30 ∧
      ¬ RetentionSafe (fun _ _ => false) .utc (january2020 10 12 0) morningRows
        [.cleanup (january2020 17 1 30) (january2020 17 1 30)] := by
  refine ⟨by decide +kernel, ?_⟩
  intro hsafe
  exact morningRow_not_pastCutoff
    (hsafe.right [] _ _ [] rfl "history" morningRow morningRow_deleted)

/-- The same value is safe when partitioning is set up on the eleventh. -/
theorem retentionSafe_of_beforePeriod_next_day :
    RetentionSafe (fun _ _ => false) .utc (january2020 11 12 0)
      morningRows [.cleanup (january2020 17 1 30) (january2020 17 1 30)] :=
  retentionSafe_of_beforePeriod (fun _ _ => false) .utc
    (by unfold BeforePeriod; decide +kernel) _

end Zabbix
end EsdcFactory
