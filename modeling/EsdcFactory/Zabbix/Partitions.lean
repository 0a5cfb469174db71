import EsdcFactory.Lib.Decimal
import EsdcFactory.Lib.Timestamp
import Mathlib.Algebra.BigOperators.Group.List.Basic
import Mathlib.Algebra.Order.Group.Multiset

/-!
# Partitioning of the Zabbix database

The functions of `bootstrap.sql` and the script `zbx_partitions.py` that calls
them.  A parent table in the schema `public` hands inserted rows to child tables
in the schema `partitions`, which are named after the parent with a date suffix.
The script creates partitions in advance and drops those whose suffix is old.
-/

namespace EsdcFactory
namespace Zabbix

open Calendar Timestamp Decimal

/-!
## Tables
-/

/-- The range of the type `INTEGER`. -/
def Int4 (n : Int) : Prop := -2147483648 ≤ n ∧ n < 2147483648

instance (n : Int) : Decidable (Int4 n) := by
  unfold Int4
  infer_instance

/-- A row of a history or trends table, with the columns besides `clock` as data. -/
structure Row (alpha : Type) where
  clock : Int
  data : alpha
  clock_int4 : Int4 clock
deriving DecidableEq

/-- `TO_TIMESTAMP(clock)` -/
def Row.instant (r : Row alpha) : Int := r.clock * secondUs

/-- A child table with the bounds of its `CHECK` constraint, where it has one. -/
structure Partition (alpha : Type) where
  relname : List Char
  parent : String
  check : Option (Int × Int)
  rows : List (Row alpha)
deriving DecidableEq

/-- The suffix formats of `zbx_time_format_by`. -/
inductive TimeFormat where
  | yyyyMmDd
  | yyyyMm
  | yyyy
deriving DecidableEq

/--
The rows that sit in the parent tables themselves, the format argument of the
insert trigger of each parent table that has one, and the child tables.
-/
structure Database (alpha : Type) where
  parents : String -> List (Row alpha)
  triggers : String -> Option TimeFormat
  partitions : List (Partition alpha)

def partitionRows (tableName : String) (partitions : List (Partition alpha)) :
    Multiset (Row alpha) :=
  (partitions.map fun p => if p.parent = tableName then ↑p.rows else 0).sum

/-- All rows that a query of a parent table sees. -/
def Database.rows (db : Database alpha) (tableName : String) :
    Multiset (Row alpha) :=
  ↑(db.parents tableName) + partitionRows tableName db.partitions

/-- The errors that end a statement. -/
inductive SqlError where
  | raised (message : String)
  | integerOutOfRange
  | duplicateTable (relname : List Char)
  | datetimeFieldOverflow
  | uniqueViolation
  | syntaxError
deriving DecidableEq

/-!
## Time functions
-/

/-- `zbx_time_format_by` -/
def zbxTimeFormatBy : Period -> TimeFormat
  | .day => .yyyyMmDd
  | .month => .yyyyMm
  | .year => .yyyy

/--
`TO_CHAR` of a timestamp shown as the local time `x`.  The years of the
timestamps that get this far have four digits: a clock is an `INTEGER`, and the
bounds of a partition are stored in one before it is named.
-/
def toChar (format : TimeFormat) (x : Int) : List Char :=
  let date := dateOf (localDay x)
  let year := padded 4 date.year.toNat
  let month := padded 2 date.month
  match format with
  | .yyyyMmDd => year ++ '_' :: month ++ '_' :: padded 2 date.day
  | .yyyyMm => year ++ '_' :: month
  | .yyyy => year

/-- The name of the child table for the local time `x`. -/
def partitionName (tableName : String) (format : TimeFormat) (x : Int) :
    List Char :=
  tableName.toList ++ '_' :: toChar format x

/--
A timestamp with time zone plus an interval of months or of days.  An interval
of zero leaves the timestamp alone, others are added to the local time.
-/
def plusInterval (tz : TimeZone) (t : Int) (iv : Interval) : Int :=
  if iv.months = 0 ∧ iv.days = 0 then t
  else tz.ofLocal (addInterval (tz.toLocal t) iv)

/-- `DATE_TRUNC` of a timestamp with time zone -/
def dateTrunc (tz : TimeZone) (p : Period) (t : Int) : Int :=
  tz.ofLocal (truncate p (tz.toLocal t))

/-- `EXTRACT(EPOCH FROM ..)`, rounded as by the assignment to an `INTEGER`. -/
def extractEpoch (t : Int) : Except SqlError Int :=
  let seconds := (2 * t + secondUs) / (2 * secondUs)
  if Int4 seconds then .ok seconds else .error .integerOutOfRange

/-- `TO_TIMESTAMP` of a date read from a suffix -/
def toTimestamp (tz : TimeZone) (d : Date) : Except SqlError Int :=
  if 1 ≤ d.month ∧ d.month ≤ 12 ∧ 1 ≤ d.day ∧
      (d.day : Int) ≤ monthLength (monthIndex d.year d.month) then
    .ok (tz.ofLocal (midnight d.toDay))
  else .error .datetimeFieldOverflow

/-!
## Creating partitions
-/

/-- `(schema_name || '.' || name)::regclass` finds a table. -/
def Database.hasPartition (db : Database alpha) (relname : List Char) : Bool :=
  db.partitions.any (fun p => p.relname = relname)

/-- One turn of the loop of `zbx_provision_partitions`. -/
def provisionPartition (tz : TimeZone) (now : Int) (tableName : String)
    (partitionBy : Period) (db : Database alpha) (i : Nat) :
    Except SqlError (Database alpha) := do
  let timeInterval := partitionBy.interval
  let startDate <- extractEpoch
    (dateTrunc tz partitionBy (plusInterval tz now (timeInterval.scale i)))
  let endDate <- extractEpoch
    (dateTrunc tz partitionBy (plusInterval tz now (timeInterval.scale (i + 1))))
  let newTableName := partitionName tableName (zbxTimeFormatBy partitionBy)
    (tz.toLocal (plusInterval tz now (timeInterval.scale i)))
  if db.hasPartition newTableName then
    return db
  else
    return { db with
      partitions := db.partitions ++
        [⟨newTableName, tableName, some (startDate, endDate), []⟩] }

/-- `zbx_provision_partitions` -/
def zbxProvisionPartitions (tz : TimeZone) (now : Int) (tableName : String)
    (partitionBy : Period) (count : Nat) (db : Database alpha) :
    Except SqlError (Database alpha) :=
  (List.range count).foldlM (provisionPartition tz now tableName partitionBy) db

/-- `zbx_enable_partitions` -/
def zbxEnablePartitions (tz : TimeZone) (now : Int) (tableName : String)
    (partitionBy : Period) (db : Database alpha) :
    Except SqlError (Database alpha) :=
  let timeFormat := zbxTimeFormatBy partitionBy
  let partition := partitionName tableName timeFormat (tz.toLocal now)
  if !db.hasPartition partition then
    .error (.raised ("Next partition partitions." ++ String.ofList partition ++
      " for table public." ++ tableName ++ " does not exist!"))
  else
    -- the first partition takes what the parent table holds, unchecked
    let firstPartitionName := partitionName tableName timeFormat
      (tz.toLocal (plusInterval tz now (partitionBy.interval.scale (-1))))
    if db.hasPartition firstPartitionName then
      .error (.duplicateTable firstPartitionName)
    else
      .ok {
        parents := Function.update db.parents tableName []
        triggers := Function.update db.triggers tableName (some timeFormat)
        partitions := db.partitions ++
          [⟨firstPartitionName, tableName, none, db.parents tableName⟩] }

/-!
## Inserting rows

A unique index of a parent table is copied to its child tables, and each of them
enforces it for its own rows.
-/

/-- A row passes the `CHECK` constraint and the unique indexes of a child table. -/
def Partition.admits (conflicts : List (Row alpha) -> Row alpha -> Bool)
    (p : Partition alpha) (row : Row alpha) : Bool :=
  (match p.check with
    | none => true
    | some (startDate, endDate) => startDate ≤ row.clock && row.clock < endDate) &&
  !conflicts p.rows row

/-- `INSERT INTO partitions.relname`, or nothing where the insert fails. -/
def insertInto (conflicts : List (Row alpha) -> Row alpha -> Bool)
    (relname : List Char) (row : Row alpha) :
    List (Partition alpha) -> Option (List (Partition alpha))
  | [] => none
  | p :: rest =>
      if p.relname = relname then
        if p.admits conflicts row then
          some ({ p with rows := p.rows ++ [row] } :: rest)
        else none
      else (insertInto conflicts relname row rest).map (p :: ·)

/--
`zbx_route_insert_by_clock`: a row that its child table takes is not inserted
into the parent, and any error hands the row back.
-/
def zbxRouteInsertByClock (conflicts : List (Row alpha) -> Row alpha -> Bool)
    (tz : TimeZone) (tableName : String) (timeFormat : TimeFormat)
    (new : Row alpha) (db : Database alpha) : Option (Database alpha) :=
  (insertInto conflicts
    (partitionName tableName timeFormat (tz.toLocal new.instant)) new
    db.partitions).map fun partitions => { db with partitions }

/-- An insert that stays in the parent table. -/
def insertOnly (conflicts : List (Row alpha) -> Row alpha -> Bool)
    (tableName : String) (row : Row alpha) (db : Database alpha) :
    Except SqlError (Database alpha) :=
  if conflicts (db.parents tableName) row then .error .uniqueViolation
  else .ok { db with
    parents := Function.update db.parents tableName
      (db.parents tableName ++ [row]) }

/-- `INSERT INTO public.tableName` -/
def insertRow (conflicts : List (Row alpha) -> Row alpha -> Bool) (tz : TimeZone)
    (tableName : String) (row : Row alpha) (db : Database alpha) :
    Except SqlError (Database alpha) :=
  match db.triggers tableName with
  | none => insertOnly conflicts tableName row db
  | some timeFormat =>
      match zbxRouteInsertByClock conflicts tz tableName timeFormat row db with
      | some routed => .ok routed
      | none => insertOnly conflicts tableName row db

/-!
## Dropping partitions
-/

/-- `SUBSTRING(.. FROM '\d{4}$')`, on a name in reverse -/
def byYear (name : List Char) : Option Date := do
  let (year, _) <- numberAtEnd 4 name
  return ⟨year, 1, 1⟩

/-- `SUBSTRING(.. FROM '\d{4}_\d{2}$')`, on a name in reverse -/
def byMonth (name : List Char) : Option Date := do
  let (month, name) <- numberAtEnd 2 name
  let name <- separatorAtEnd '_' name
  let (year, _) <- numberAtEnd 4 name
  return ⟨year, month, 1⟩

/-- `SUBSTRING(.. FROM '\d{4}_\d{2}_\d{2}$')`, on a name in reverse -/
def byDay (name : List Char) : Option Date := do
  let (day, name) <- numberAtEnd 2 name
  let name <- separatorAtEnd '_' name
  let (month, name) <- numberAtEnd 2 name
  let name <- separatorAtEnd '_' name
  let (year, _) <- numberAtEnd 4 name
  return ⟨year, month, day⟩

/-- The date in a suffix and the period it stands for, the longest match first. -/
def childDate (relname : List Char) : Option (Period × Date) :=
  match byDay relname.reverse with
  | some date => some (.day, date)
  | none =>
      match byMonth relname.reverse with
      | some date => some (.month, date)
      | none => (byYear relname.reverse).map fun date => (.year, date)

/-- The upper bound timestamp of a partition, a local time. -/
def childBound (tz : TimeZone) (relname : List Char) : Except SqlError Int :=
  match childDate relname with
  | none => .error (.raised
      ("Unsupported partition date suffix: partitions." ++ String.ofList relname))
  | some (period, date) => do
      let start <- toTimestamp tz date
      return tz.toLocal (plusInterval tz start period.interval)

/-- The loop of `zbx_drop_old_partitions`: what is left of the child tables. -/
def dropOldPartitions (tz : TimeZone) (now : Int) (tableName : String)
    (cutoff : Int) : List (Partition alpha) ->
    Except SqlError (List (Partition alpha))
  | [] => .ok []
  | p :: rest =>
      if p.parent = tableName then do
        let bound <- childBound tz p.relname
        let rest <- dropOldPartitions tz now tableName cutoff rest
        -- protect current partition
        if now < tz.ofLocal bound then return p :: rest
        -- drop table if upper bound is older than cutoff date
        else if tz.ofLocal bound ≤ cutoff then return rest
        else return p :: rest
      else do
        let rest <- dropOldPartitions tz now tableName cutoff rest
        return p :: rest

/-- `zbx_drop_old_partitions` -/
def zbxDropOldPartitions (tz : TimeZone) (now : Int) (tableName : String)
    (cutoff : Int) (db : Database alpha) : Except SqlError (Database alpha) := do
  let partitions <- dropOldPartitions tz now tableName cutoff db.partitions
  return { db with partitions }

/-!
## The script
-/

/-- An entry of `tables`: its name, the partitioning schema and the count. -/
structure TableOptions where
  tableName : String
  partitionBy : Period
  count : Nat
deriving DecidableEq

/-- The tables that the script looks after. -/
def tables : List TableOptions :=
  [⟨"history", .day, 7⟩, ⟨"history_uint", .day, 7⟩, ⟨"history_str", .day, 7⟩,
    ⟨"history_log", .day, 7⟩, ⟨"history_text", .day, 7⟩,
    ⟨"trends", .month, 12⟩, ⟨"trends_uint", .month, 12⟩]

/-- `get_days`, with the integer division of the interpreter it runs on. -/
def getDays : Period -> Int
  | .month => 365 / 12
  | .year => 365
  | .day => 1

/-- The cutoff of a run, computed on the local clock of the script. -/
def cutoff (tz : TimeZone) (scriptNow : Int) (options : TableOptions) : Int :=
  tz.ofLocal (tz.toLocal scriptNow -
    getDays options.partitionBy * options.count * dayUs)

/-- Create partitions for every table. -/
def provisionTables (tz : TimeZone) (now : Int) (db : Database alpha) :
    Except SqlError (Database alpha) :=
  tables.foldlM (fun db o =>
    zbxProvisionPartitions tz now o.tableName o.partitionBy o.count db) db

/-- `zbx_partitions.py init` before its commit -/
def initTransaction (tz : TimeZone) (now : Int) (db : Database alpha) :
    Except SqlError (Database alpha) := do
  let db <- provisionTables tz now db
  tables.foldlM (fun db o =>
    zbxEnablePartitions tz now o.tableName o.partitionBy db) db

/--
`zbx_partitions.py` before its commit, where `now` is the start of the
transaction and `scriptNow` the time that the script itself reads.
-/
def cleanupTransaction (tz : TimeZone) (now scriptNow : Int)
    (db : Database alpha) : Except SqlError (Database alpha) := do
  let db <- provisionTables tz now db
  tables.foldlM (fun db o =>
    zbxDropOldPartitions tz now o.tableName (cutoff tz scriptNow o) db) db

/-- A failed statement ends the script before its commit. -/
def committed (db : Database alpha) (r : Except SqlError (Database alpha)) :
    Database alpha :=
  match r with
  | .ok db' => db'
  | .error _ => db

/-!
## Histories
-/

/-- What happens to the database after the run that sets up partitioning. -/
inductive Event (alpha : Type) where
  | insert (tableName : String) (row : Row alpha)
  | cleanup (now scriptNow : Int)

def step (conflicts : List (Row alpha) -> Row alpha -> Bool) (tz : TimeZone)
    (db : Database alpha) : Event alpha -> Database alpha
  | .insert tableName row =>
      committed db (insertRow conflicts tz tableName row db)
  | .cleanup now scriptNow =>
      committed db (cleanupTransaction tz now scriptNow db)

@[simp] theorem step_insert
    (conflicts : List (Row alpha) -> Row alpha -> Bool) (tz : TimeZone)
    (db : Database alpha) (tableName : String) (row : Row alpha) :
    step conflicts tz db (.insert tableName row) =
      committed db (insertRow conflicts tz tableName row db) := rfl

@[simp] theorem step_cleanup
    (conflicts : List (Row alpha) -> Row alpha -> Bool) (tz : TimeZone)
    (db : Database alpha) (now scriptNow : Int) :
    step conflicts tz db (.cleanup now scriptNow) =
      committed db (cleanupTransaction tz now scriptNow db) := rfl

/-- A database before partitioning. -/
def unpartitioned (rows : String -> List (Row alpha)) : Database alpha where
  parents := rows
  triggers := fun _ => none
  partitions := []

/-- The database after `zbx_partitions.py init` at the given time. -/
def initialized (tz : TimeZone) (initNow : Int)
    (rows : String -> List (Row alpha)) : Database alpha :=
  committed (unpartitioned rows)
    (initTransaction tz initNow (unpartitioned rows))

/-- The database after the set-up and the given events. -/
def history (conflicts : List (Row alpha) -> Row alpha -> Bool) (tz : TimeZone)
    (initNow : Int) (rows : String -> List (Row alpha))
    (events : List (Event alpha)) : Database alpha :=
  events.foldl (step conflicts tz) (initialized tz initNow rows)

end Zabbix
end EsdcFactory
