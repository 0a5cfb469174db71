import EsdcFactory.Lib.SqlIdentifier
import EsdcFactory.Zabbix.Routing
import Mathlib.Data.Char
import Mathlib.Data.List.Lex
import Mathlib.Data.List.Sort

/-!
# Undoing the partitioning of a table

`zbx_deprovision_partitions` drops the routing trigger and copies the rows of all
children into the parent.  The trigger was created under a quoted name and is
dropped under a pasted one; where these differ, the trigger stays, and what is
copied goes where the trigger sends it.
-/

namespace EsdcFactory
namespace Zabbix

open Timestamp Fold SqlIdentifier

/-!
## Named triggers
-/

/-- A database with the name of the routing trigger of each table that has one. -/
structure Named (alpha : Type) where
  db : Database alpha
  triggerName : String -> Option (List Char)

/-- The default for an empty name of a trigger -/
def triggerNameOf (tableName triggerName : String) : List Char :=
  if triggerName = "" then (tableName ++ "_insert").toList else triggerName.toList

/--
`zbx_enable_partitions` with the name of the trigger, for a table without another
routing trigger.
-/
def enableNamed (tz : TimeZone) (now : Int) (tableName : String) (partitionBy : Period)
    (triggerName : String) (s : Named alpha) : Except SqlError (Named alpha) :=
  (zbxEnablePartitions tz now tableName partitionBy s.db).map fun db =>
    { db
      triggerName := Function.update s.triggerName tableName
        (some (quoted (triggerNameOf tableName triggerName))) }

/-- `DROP TRIGGER`, where the name is that of the routing trigger -/
def Named.dropTrigger (s : Named alpha) (tableName : String) : Named alpha where
  db := { s.db with triggers := Function.update s.db.triggers tableName none }
  triggerName := Function.update s.triggerName tableName none

/-!
## Deprovisioning
-/

/-- The unique indexes of a table: two rows that it cannot hold both. -/
structure UniqueIndexes (alpha : Type) where
  clash : Row alpha -> Row alpha -> Bool
  symm : forall a b, clash a b = clash b a

/-- A row violates a unique index of a table with the given rows. -/
def UniqueIndexes.conflicts (indexes : UniqueIndexes alpha) (rows : List (Row alpha))
    (row : Row alpha) : Bool :=
  rows.any fun r => indexes.clash r row

/-- The rows that `SELECT * FROM ONLY` finds in a child. -/
def Database.rowsOf (db : Database alpha) (relname : List Char) : List (Row alpha) :=
  ((db.partitions.find? fun q => q.relname = relname).map Partition.rows).getD []

/-- The children of a table by the view `zbx_partitions`, in the order of their names. -/
def Database.childNames (db : Database alpha) (tableName : String) : List (List Char) :=
  ((db.partitions.filter fun q => q.parent = tableName).map
    Partition.relname).insertionSort (· ≤ ·)

/-- Copy one child into the parent table and drop it. -/
def copyBack (conflicts : List (Row alpha) -> Row alpha -> Bool) (tz : TimeZone)
    (tableName : String) (db : Database alpha) (relname : List Char) :
    Except SqlError (Database alpha) := do
  let db <- (db.rowsOf relname).foldlM
    (fun db row => insertRow conflicts tz tableName row db) db
  return { db with partitions := db.partitions.filter fun q => q.relname ≠ relname }

/--
Delete the insert trigger on the parent table, given the words that PostgreSQL
reserves.  A trigger that does not exist is only noticed.
-/
def dropNamed (reserved : List Char -> Bool) (tableName triggerName : String)
    (s : Named alpha) : Except SqlError (Named alpha) :=
  match pasted reserved (triggerNameOf tableName triggerName) with
  | none => .error .syntaxError
  | some name =>
      if s.triggerName tableName = some name then .ok (s.dropTrigger tableName) else .ok s

/-- `zbx_deprovision_partitions` -/
def zbxDeprovisionPartitions (reserved : List Char -> Bool)
    (indexes : UniqueIndexes alpha) (tz : TimeZone) (tableName triggerName : String)
    (s : Named alpha) : Except SqlError (Named alpha) := do
  let s <- dropNamed reserved tableName triggerName s
  let db <- (s.db.childNames tableName).foldlM
    (copyBack indexes.conflicts tz tableName) s.db
  return { s with db }

/-- Inserts into a table, each a statement of its own. -/
def insertAll (conflicts : List (Row alpha) -> Row alpha -> Bool) (tz : TimeZone)
    (tableName : String) (db : Database alpha) (rows : List (Row alpha)) :
    Database alpha :=
  rows.foldl (fun db row => committed db (insertRow conflicts tz tableName row db)) db

def insertedRows (conflicts : List (Row alpha) -> Row alpha -> Bool) (tz : TimeZone)
    (tableName : String) : Database alpha -> List (Row alpha) -> List (Row alpha)
  | _, [] => []
  | db, row :: rest =>
      match insertRow conflicts tz tableName row db with
      | .ok db' => row :: insertedRows conflicts tz tableName db' rest
      | .error _ => insertedRows conflicts tz tableName db rest

/-- The state after a call, which leaves nothing behind if it fails. -/
def afterDeprovision (reserved : List Char -> Bool) (indexes : UniqueIndexes alpha)
    (tz : TimeZone) (tableName triggerName : String) (s : Named alpha) : Named alpha :=
  match zbxDeprovisionPartitions reserved indexes tz tableName triggerName s with
  | .ok s' => s'
  | .error _ => s

/-!
## What is promised
-/

/-- All rows are in the parent table again, which has no children and no trigger. -/
structure Undone (tableName : String) (before : Multiset (Row alpha))
    (added : List (Row alpha)) (s : Named alpha) : Prop where
  rows : (s.db.parents tableName : Multiset (Row alpha)) = before + added
  children : forall q, q ∈ s.db.partitions -> q.parent ≠ tableName
  trigger : s.db.triggers tableName = none

def NoClash (indexes : UniqueIndexes alpha) (rows : Multiset (Row alpha)) : Prop :=
  rows.Pairwise fun a b => indexes.clash a b = false

/-- The names in the schema of partitions are unique, and those of a table its own. -/
structure Catalog (tableName : String) (p : Period) (db : Database alpha) : Prop where
  unique : (db.partitions.map Partition.relname).Nodup
  others : forall q, q ∈ db.partitions -> q.parent ≠ tableName ->
    forall x, q.relname ≠ partitionName tableName (zbxTimeFormatBy p) x

instance (indexes : UniqueIndexes alpha) :
    Std.Symm fun a b : Row alpha => indexes.clash a b = false where
  symm := by
    intro a b h
    rw [indexes.symm]
    exact h

theorem noClash_coe_iff {indexes : UniqueIndexes alpha} {rows : List (Row alpha)} :
    NoClash indexes rows <-> rows.Pairwise fun a b => indexes.clash a b = false :=
  Multiset.pairwise_coe_iff_pairwise

theorem conflicts_eq_false_iff {indexes : UniqueIndexes alpha} {rows : List (Row alpha)}
    {row : Row alpha} :
    indexes.conflicts rows row = false <->
      forall r, r ∈ rows -> indexes.clash r row = false := by
  simp [UniqueIndexes.conflicts]

/-- A row can be added without a conflict exactly if it clashes with none before it. -/
theorem pairwise_concat_iff {indexes : UniqueIndexes alpha} {rows : List (Row alpha)}
    {row : Row alpha} :
    (rows ++ [row]).Pairwise (fun a b => indexes.clash a b = false) <->
      rows.Pairwise (fun a b => indexes.clash a b = false) ∧
        indexes.conflicts rows row = false := by
  rw [List.pairwise_append, conflicts_eq_false_iff]
  simp

/-!
## Copying back without a trigger
-/

def withParentRows (tableName : String) (rows : List (Row alpha)) (db : Database alpha) :
    Database alpha :=
  { db with
    parents := Function.update db.parents tableName (db.parents tableName ++ rows) }

theorem insertRow_ok_iff {indexes : UniqueIndexes alpha} {tz : TimeZone}
    {tableName : String} {row : Row alpha} {db db' : Database alpha}
    (h : db.triggers tableName = none) :
    insertRow indexes.conflicts tz tableName row db = .ok db' <->
      indexes.conflicts (db.parents tableName) row = false ∧
        db' = withParentRows tableName [row] db := by
  unfold insertRow insertOnly
  rw [h]
  simp only
  cases indexes.conflicts (db.parents tableName) row with
  | true => simp
  | false => simp [withParentRows, eq_comm]

/-- Rows are copied into the parent exactly if none of them clashes. -/
theorem copyRows_ok_iff {indexes : UniqueIndexes alpha} {tz : TimeZone}
    {tableName : String} {rows : List (Row alpha)} {db db' : Database alpha}
    (h : db.triggers tableName = none)
    (hparent : (db.parents tableName).Pairwise fun a b => indexes.clash a b = false) :
    rows.foldlM (fun db row => insertRow indexes.conflicts tz tableName row db) db =
        .ok db' <->
      (db.parents tableName ++ rows).Pairwise (fun a b => indexes.clash a b = false) ∧
        db' = withParentRows tableName rows db := by
  induction rows generalizing db with
  | nil =>
      simp only [List.foldlM_nil, List.append_nil, pure, Except.pure, Except.ok.injEq,
        withParentRows, Function.update_eq_self]
      constructor
      · intro heq
        exact ⟨hparent, heq.symm⟩
      · intro hparts
        rcases hparts with ⟨_, rfl⟩
        rfl
  | cons row rest ih =>
      rw [List.foldlM_cons, bind_eq_ok]
      have hsplit : db.parents tableName ++ row :: rest =
          (db.parents tableName ++ [row]) ++ rest := by simp
      have hrows : (withParentRows tableName [row] db).parents tableName =
          db.parents tableName ++ [row] := by simp [withParentRows]
      have hwhole : withParentRows tableName rest (withParentRows tableName [row] db) =
          withParentRows tableName (row :: rest) db := by
        simp [withParentRows]
      constructor
      · intro hparts
        rcases hparts with ⟨db1, hone, hrest⟩
        rcases (insertRow_ok_iff h).mp hone with ⟨hnone, rfl⟩
        have hadded := pairwise_concat_iff.mpr ⟨hparent, hnone⟩
        have hiff := @ih (withParentRows tableName [row] db) h (by rw [hrows]; exact hadded)
        rcases hiff.mp hrest with ⟨hall, rfl⟩
        rw [hrows] at hall
        exact ⟨hsplit ▸ hall, hwhole⟩
      · intro hparts
        rcases hparts with ⟨hall, rfl⟩
        rw [hsplit] at hall
        have hadded := (List.pairwise_append.mp hall).left
        refine ⟨withParentRows tableName [row] db,
          (insertRow_ok_iff h).mpr ⟨(pairwise_concat_iff.mp hadded).right, rfl⟩, ?_⟩
        have hiff := @ih (withParentRows tableName [row] db) h (by rw [hrows]; exact hadded)
        rw [hiff, hrows]
        exact ⟨hall, hwhole.symm⟩

def withoutChildren (names : List (List Char)) (db : Database alpha) : Database alpha :=
  { db with partitions := db.partitions.filter fun q => q.relname ∉ names }

theorem copyBack_ok_iff {indexes : UniqueIndexes alpha} {tz : TimeZone}
    {tableName : String} {relname : List Char} {db db' : Database alpha}
    (h : db.triggers tableName = none)
    (hparent : (db.parents tableName).Pairwise fun a b => indexes.clash a b = false) :
    copyBack indexes.conflicts tz tableName db relname = .ok db' <->
      (db.parents tableName ++ db.rowsOf relname).Pairwise
          (fun a b => indexes.clash a b = false) ∧
        db' = withoutChildren [relname] (withParentRows tableName (db.rowsOf relname) db) := by
  unfold copyBack
  rw [bind_eq_ok]
  simp only [copyRows_ok_iff h hparent, pure, Except.pure, Except.ok.injEq]
  constructor
  · intro hparts
    rcases hparts with ⟨_, ⟨hall, rfl⟩, rfl⟩
    exact ⟨hall, by simp [withoutChildren, withParentRows]⟩
  · intro hparts
    rcases hparts with ⟨hall, rfl⟩
    exact ⟨_, ⟨hall, rfl⟩, by simp [withoutChildren, withParentRows]⟩

theorem rowsOf_withoutChildren {names : List (List Char)} {relname : List Char}
    (db : Database alpha) (h : relname ∉ names) :
    (withoutChildren names db).rowsOf relname = db.rowsOf relname := by
  unfold Database.rowsOf withoutChildren
  rw [List.find?_filter]
  congr 3
  funext q
  by_cases hname : q.relname = relname
  · simp [hname, h]
  · simp [hname]

/-- All given children are copied back exactly if no rows clash. -/
theorem copyAll_ok_iff {indexes : UniqueIndexes alpha} {tz : TimeZone}
    {tableName : String} {names : List (List Char)} {db db' : Database alpha}
    (h : db.triggers tableName = none) (hnodup : names.Nodup)
    (hparent : (db.parents tableName).Pairwise fun a b => indexes.clash a b = false) :
    names.foldlM (copyBack indexes.conflicts tz tableName) db = .ok db' <->
      (db.parents tableName ++ names.flatMap db.rowsOf).Pairwise
          (fun a b => indexes.clash a b = false) ∧
        db' = withoutChildren names
          (withParentRows tableName (names.flatMap db.rowsOf) db) := by
  induction names generalizing db with
  | nil =>
      simp only [List.foldlM_nil, List.flatMap_nil, List.append_nil, pure, Except.pure,
        Except.ok.injEq, withoutChildren, withParentRows, Function.update_eq_self,
        List.not_mem_nil, not_false_eq_true, decide_true, List.filter_true]
      constructor
      · intro heq
        exact ⟨hparent, heq.symm⟩
      · intro hparts
        rcases hparts with ⟨_, rfl⟩
        rfl
  | cons relname rest ih =>
      rcases List.nodup_cons.mp hnodup with ⟨hnot, hrest⟩
      rw [List.foldlM_cons, bind_eq_ok]
      have hrows : forall rows, (withoutChildren [relname]
          (withParentRows tableName rows db)).parents tableName =
          db.parents tableName ++ rows := by
        intro rows
        simp [withoutChildren, withParentRows]
      have hlater : rest.flatMap (withoutChildren [relname]
          (withParentRows tableName (db.rowsOf relname) db)).rowsOf =
          rest.flatMap db.rowsOf := by
        apply List.flatMap_congr
        intro other hother
        rw [rowsOf_withoutChildren]
        · rfl
        · rw [List.mem_singleton]
          intro hsame
          subst hsame
          exact hnot hother
      have hwhole : withoutChildren rest (withParentRows tableName (rest.flatMap db.rowsOf)
          (withoutChildren [relname]
            (withParentRows tableName (db.rowsOf relname) db))) =
          withoutChildren (relname :: rest)
            (withParentRows tableName ((relname :: rest).flatMap db.rowsOf) db) := by
        simp [withoutChildren, withParentRows, List.filter_filter, Bool.and_comm]
      have hsplit : db.parents tableName ++ (relname :: rest).flatMap db.rowsOf =
          (db.parents tableName ++ db.rowsOf relname) ++ rest.flatMap db.rowsOf := by simp
      constructor
      · intro hparts
        rcases hparts with ⟨db1, hone, hmore⟩
        rcases (copyBack_ok_iff h hparent).mp hone with ⟨hfirst, rfl⟩
        have hiff := @ih (withoutChildren [relname]
          (withParentRows tableName (db.rowsOf relname) db)) h hrest
          (by rw [hrows]; exact hfirst)
        rcases hiff.mp hmore with ⟨hall, rfl⟩
        rw [hrows, hlater] at hall
        rw [hlater, hwhole]
        exact ⟨hsplit ▸ hall, rfl⟩
      · intro hparts
        rcases hparts with ⟨hall, rfl⟩
        rw [hsplit] at hall
        have hfirst := (List.pairwise_append.mp hall).left
        have hiff := @ih (withoutChildren [relname]
          (withParentRows tableName (db.rowsOf relname) db)) h hrest
          (by rw [hrows]; exact hfirst)
        refine ⟨_, (copyBack_ok_iff h hparent).mpr ⟨hfirst, rfl⟩, ?_⟩
        rw [hiff, hrows, hlater, hwhole]
        exact ⟨hall, rfl⟩

theorem find?_relname {ps : List (Partition alpha)} {q : Partition alpha}
    (h : (ps.map Partition.relname).Nodup) (hq : q ∈ ps) :
    ps.find? (fun r => r.relname = q.relname) = some q := by
  induction ps with
  | nil => cases hq
  | cons first rest ih =>
      rcases List.nodup_cons.mp h with ⟨hnot, hrest⟩
      rcases List.mem_cons.mp hq with rfl | hq
      · simp
      · have hne : first.relname ≠ q.relname := by
          intro heq
          exact hnot (heq ▸ List.mem_map_of_mem hq)
        rw [List.find?_cons_of_neg (by simpa using hne)]
        exact ih hrest hq

theorem flatMap_rows_children (tableName : String) (ps : List (Partition alpha)) :
    (((ps.filter fun q => q.parent = tableName).flatMap Partition.rows :
      List (Row alpha)) : Multiset (Row alpha)) = partitionRows tableName ps := by
  induction ps with
  | nil => rfl
  | cons q rest ih =>
      rw [partitionRows_cons, ← ih]
      by_cases hparent : q.parent = tableName
      · rw [List.filter_cons_of_pos (by simpa using hparent), List.flatMap_cons,
          if_pos hparent, Multiset.coe_add]
      · rw [List.filter_cons_of_neg (by simpa using hparent), if_neg hparent, zero_add]

theorem flatMap_rowsOf_childNames {tableName : String} {db : Database alpha}
    (h : (db.partitions.map Partition.relname).Nodup) :
    (((db.childNames tableName).flatMap db.rowsOf : List (Row alpha)) :
      Multiset (Row alpha)) = partitionRows tableName db.partitions := by
  have hrows : forall q, q ∈ db.partitions.filter (fun q => q.parent = tableName) ->
      db.rowsOf q.relname = q.rows := by
    intro q hq
    rw [Database.rowsOf, find?_relname h (List.mem_of_mem_filter hq)]
    rfl
  have hperm := (List.perm_insertionSort (· ≤ ·) ((db.partitions.filter fun q =>
    q.parent = tableName).map Partition.relname)).flatMap_right db.rowsOf
  rw [Database.childNames, Multiset.coe_eq_coe.mpr hperm, List.flatMap_map,
    List.flatMap_congr hrows, flatMap_rows_children]

theorem mem_childNames {tableName : String} {db : Database alpha}
    {q : Partition alpha} (hq : q ∈ db.partitions) (hparent : q.parent = tableName) :
    q.relname ∈ db.childNames tableName := by
  rw [Database.childNames, List.mem_insertionSort]
  apply List.mem_map_of_mem
  rw [List.mem_filter]
  exact ⟨hq, by simpa using hparent⟩

theorem childNames_nodup {tableName : String} {db : Database alpha}
    (h : (db.partitions.map Partition.relname).Nodup) :
    (db.childNames tableName).Nodup := by
  rw [Database.childNames, (List.perm_insertionSort _ _).nodup_iff]
  exact h.sublist (List.Sublist.map _ List.filter_sublist)

/-- Without a trigger, deprovisioning succeeds exactly if no two rows clash. -/
theorem copyChildren_ok_iff {indexes : UniqueIndexes alpha} (tz : TimeZone)
    {tableName : String} {db : Database alpha} (h : db.triggers tableName = none)
    (hunique : (db.partitions.map Partition.relname).Nodup)
    (hparent : (db.parents tableName).Pairwise fun a b => indexes.clash a b = false) :
    (exists db', (db.childNames tableName).foldlM
        (copyBack indexes.conflicts tz tableName) db = .ok db') <->
      NoClash indexes (db.rows tableName) := by
  have hrows : ((db.parents tableName ++ (db.childNames tableName).flatMap db.rowsOf :
      List (Row alpha)) : Multiset (Row alpha)) = db.rows tableName := by
    rw [← Multiset.coe_add, flatMap_rowsOf_childNames hunique]
    rfl
  rw [← hrows, noClash_coe_iff]
  simp only [copyAll_ok_iff h (childNames_nodup hunique) hparent]
  constructor
  · intro hparts
    rcases hparts with ⟨_, hall, _⟩
    exact hall
  · intro hall
    exact ⟨_, hall, rfl⟩

/-- What deprovisioning without a trigger leads to. -/
theorem copyChildren_undone {indexes : UniqueIndexes alpha} {tz : TimeZone}
    {tableName : String} {db db' : Database alpha} (h : db.triggers tableName = none)
    (hunique : (db.partitions.map Partition.relname).Nodup)
    (hparent : (db.parents tableName).Pairwise fun a b => indexes.clash a b = false)
    (hcopy : (db.childNames tableName).foldlM
      (copyBack indexes.conflicts tz tableName) db = .ok db') :
    (db'.parents tableName : Multiset (Row alpha)) = db.rows tableName ∧
      (forall q, q ∈ db'.partitions -> q.parent ≠ tableName) ∧
      db'.triggers tableName = none := by
  rcases (copyAll_ok_iff h (childNames_nodup hunique) hparent).mp hcopy with ⟨_, rfl⟩
  refine ⟨?_, ?_, h⟩
  · simp only [withoutChildren, withParentRows, Function.update_self]
    rw [← Multiset.coe_add, flatMap_rowsOf_childNames hunique]
    rfl
  · intro q hq hchild
    simp only [withoutChildren, withParentRows, List.mem_filter,
      decide_eq_true_eq] at hq
    exact hq.right (mem_childNames hq.left hchild)

/-!
## Enabling and inserting
-/

/-- A table that is partitioned, and whose parent table holds no two rows that clash. -/
structure Partitioned (indexes : UniqueIndexes alpha) (tableName : String) (p : Period)
    (db : Database alpha) : Prop where
  catalog : Catalog tableName p db
  trigger : db.triggers tableName = some (zbxTimeFormatBy p)
  parent : (db.parents tableName).Pairwise fun a b => indexes.clash a b = false

theorem Catalog.enable {tz : TimeZone} {now : Int} {tableName : String} {p : Period}
    {db db' : Database alpha} (h : Catalog tableName p db)
    (henable : zbxEnablePartitions tz now tableName p db = .ok db') :
    Catalog tableName p db' := by
  unfold zbxEnablePartitions at henable
  simp only at henable
  split at henable
  · cases henable
  · split at henable
    · cases henable
    · rename_i hnew
      cases henable
      constructor
      · simp only [List.map_append, List.map_cons, List.map_nil]
        rw [List.nodup_append]
        refine ⟨h.unique, List.nodup_singleton _, ?_⟩
        intro a ha b hb heq
        rw [List.mem_singleton] at hb
        rcases List.mem_map.mp ha with ⟨q, hq, rfl⟩
        apply hnew
        rw [Database.hasPartition, List.any_eq_true]
        exact ⟨q, hq, by simpa using heq.trans hb⟩
      · intro q hq hother
        simp only [List.mem_append, List.mem_singleton] at hq
        rcases hq with hold | rfl
        · exact h.others q hold hother
        · exact absurd rfl hother

theorem partitioned_of_enable {indexes : UniqueIndexes alpha} {tz : TimeZone} {now : Int}
    {tableName : String} {p : Period} {db db' : Database alpha}
    (h : Catalog tableName p db)
    (henable : zbxEnablePartitions tz now tableName p db = .ok db') :
    Partitioned indexes tableName p db' := by
  have hcatalog := h.enable henable
  unfold zbxEnablePartitions at henable
  simp only at henable
  split at henable
  · cases henable
  · split at henable
    · cases henable
    · cases henable
      constructor
      · exact hcatalog
      · simp
      · simp

theorem Partitioned.insertRow {indexes : UniqueIndexes alpha} {tz : TimeZone}
    {tableName : String} {p : Period} {row : Row alpha} {db db' : Database alpha}
    (h : Partitioned indexes tableName p db)
    (hinsert : Zabbix.insertRow indexes.conflicts tz tableName row db = .ok db') :
    Partitioned indexes tableName p db' ∧
      db'.rows tableName = row ::ₘ db.rows tableName := by
  unfold Zabbix.insertRow zbxRouteInsertByClock at hinsert
  rw [h.trigger] at hinsert
  simp only at hinsert
  split at hinsert
  · rename_i routed hroute
    cases hinsert
    rcases Option.map_eq_some_iff.mp hroute with ⟨ps, hinto, rfl⟩
    rcases insertInto_admits hinto with ⟨front, q, back, hps, hname, _, rfl⟩
    have hq : q ∈ db.partitions := by
      rw [hps]
      simp
    have hparent : q.parent = tableName := by
      by_contra hother
      exact h.catalog.others q hq hother _ hname
    have hforms : (front ++ { q with rows := q.rows ++ [row] } :: back).map
        Partition.relname = db.partitions.map Partition.relname := by
      rw [hps]
      simp
    constructor
    · constructor
      · constructor
        · rw [hforms]
          exact h.catalog.unique
        · intro r hr hother
          rcases List.mem_append.mp hr with hfront | hback
          · exact h.catalog.others r (by rw [hps]; exact List.mem_append_left _ hfront) hother
          · rcases List.mem_cons.mp hback with rfl | hback
            · exact absurd hparent hother
            · exact h.catalog.others r (by
                rw [hps]
                exact List.mem_append_right _ (List.mem_cons_of_mem q hback)) hother
      · exact h.trigger
      · exact h.parent
    · unfold Database.rows
      simp only
      rw [partitionRows_append_cons tableName front q back hparent row, ← hps,
        Multiset.add_cons]
  · unfold insertOnly at hinsert
    split at hinsert
    · cases hinsert
    · rename_i hnone
      cases hinsert
      constructor
      · refine ⟨⟨h.catalog.unique, h.catalog.others⟩, h.trigger, ?_⟩
        simp only [Function.update_self]
        exact pairwise_concat_iff.mpr ⟨h.parent, Bool.eq_false_iff.mpr hnone⟩
      · unfold Database.rows
        simp only [Function.update_self]
        rw [← Multiset.cons_add, Multiset.cons_coe]
        congr 1
        rw [Multiset.coe_eq_coe]
        exact List.perm_append_singleton row _

theorem Partitioned.insertAll {indexes : UniqueIndexes alpha} {tz : TimeZone}
    {tableName : String} {p : Period} {rows : List (Row alpha)} {db : Database alpha}
    (h : Partitioned indexes tableName p db) :
    Partitioned indexes tableName p
        (Zabbix.insertAll indexes.conflicts tz tableName db rows) ∧
      (Zabbix.insertAll indexes.conflicts tz tableName db rows).rows tableName =
        db.rows tableName + insertedRows indexes.conflicts tz tableName db rows := by
  induction rows generalizing db with
  | nil => exact ⟨h, by simp [Zabbix.insertAll, insertedRows]⟩
  | cons row rest ih =>
      rw [Zabbix.insertAll, List.foldl_cons, insertedRows]
      cases hinsert : Zabbix.insertRow indexes.conflicts tz tableName row db with
      | error e => exact ih h
      | ok db' =>
          rcases h.insertRow hinsert with ⟨hdb', hrows⟩
          rcases ih hdb' with ⟨hall, hadded⟩
          constructor
          · exact hall
          · refine hadded.trans ?_
            rw [hrows, ← Multiset.cons_coe, Multiset.cons_add, Multiset.add_cons]

/-!
## The whole way and back
-/

theorem insertRow_triggers {conflicts : List (Row alpha) -> Row alpha -> Bool}
    {tz : TimeZone} {tableName : String} {row : Row alpha} {db db' : Database alpha}
    (h : insertRow conflicts tz tableName row db = .ok db') :
    db'.triggers = db.triggers := by
  have hparent : forall {d : Database alpha},
      insertOnly conflicts tableName row db = .ok d -> d.triggers = db.triggers := by
    intro d hd
    unfold insertOnly at hd
    split at hd
    · cases hd
    · cases hd
      rfl
  unfold insertRow at h
  split at h
  · exact hparent h
  · split at h
    · rename_i routed hroute
      cases h
      rcases Option.map_eq_some_iff.mp hroute with ⟨_, _, rfl⟩
      rfl
    · exact hparent h

theorem copyBack_triggers {conflicts : List (Row alpha) -> Row alpha -> Bool}
    {tz : TimeZone} {tableName : String} {relname : List Char} {db db' : Database alpha}
    (h : copyBack conflicts tz tableName db relname = .ok db') :
    db.triggers = db'.triggers := by
  rcases bind_eq_ok.mp h with ⟨db1, hrows, hdrop⟩
  have hsame : db.triggers = db1.triggers :=
    foldlM_rel (R := fun d d' => d.triggers = d'.triggers) (fun _ => rfl)
      (by
        intro _ _ _ h1 h2
        exact h1.trans h2)
      (fun _ _ _ _ hone => (insertRow_triggers hone).symm) hrows
  cases hdrop
  exact hsame

theorem copyAll_triggers {conflicts : List (Row alpha) -> Row alpha -> Bool}
    {tz : TimeZone} {tableName : String} {names : List (List Char)}
    {db db' : Database alpha}
    (h : names.foldlM (copyBack conflicts tz tableName) db = .ok db') :
    db.triggers = db'.triggers :=
  foldlM_rel (R := fun d d' => d.triggers = d'.triggers) (fun _ => rfl)
    (by
      intro _ _ _ h1 h2
      exact h1.trans h2)
    (fun _ _ _ _ hone => copyBack_triggers hone) h

theorem deprovision_ok_iff {reserved : List Char -> Bool} {indexes : UniqueIndexes alpha}
    {tz : TimeZone} {tableName triggerName : String} {s s' : Named alpha} :
    zbxDeprovisionPartitions reserved indexes tz tableName triggerName s = .ok s' <->
      exists s1 db, dropNamed reserved tableName triggerName s = .ok s1 ∧
        (s1.db.childNames tableName).foldlM (copyBack indexes.conflicts tz tableName)
          s1.db = .ok db ∧ s' = { s1 with db } := by
  unfold zbxDeprovisionPartitions
  simp only [bind_eq_ok, pure, Except.pure, Except.ok.injEq]
  constructor
  · intro h
    rcases h with ⟨s1, hdrop, db, hcopy, rfl⟩
    exact ⟨s1, db, hdrop, hcopy, rfl⟩
  · intro h
    rcases h with ⟨s1, db, hdrop, hcopy, rfl⟩
    exact ⟨s1, hdrop, db, hcopy, rfl⟩

/-!
## The whole way and back
-/

section

variable {reserved : List Char -> Bool} {indexes : UniqueIndexes alpha} {tz : TimeZone}
  {tableName triggerName : String} {p : Period} {s : Named alpha}

theorem trigger_stays (hpart : Partitioned indexes tableName p s.db)
    (hname : s.triggerName tableName = some (quoted (triggerNameOf tableName triggerName)))
    (h : pasted reserved (triggerNameOf tableName triggerName) ≠
      some (quoted (triggerNameOf tableName triggerName))) :
    (afterDeprovision reserved indexes tz tableName triggerName s).db.triggers tableName ≠
      none := by
  have hsome : s.db.triggers tableName ≠ none := by
    rw [hpart.trigger]
    exact Option.some_ne_none _
  unfold afterDeprovision
  split
  · rename_i s' hdone
    rcases deprovision_ok_iff.mp hdone with ⟨s1, db, hdrop, hcopy, rfl⟩
    have hsame : s1 = s := by
      unfold dropNamed at hdrop
      split at hdrop
      · cases hdrop
      · rename_i name hpasted
        rw [hname, if_neg] at hdrop
        · cases hdrop
          rfl
        · intro heq
          exact h (hpasted.trans heq.symm)
    subst hsame
    simp only
    rw [← copyAll_triggers hcopy]
    exact hsome
  · exact hsome

/-- Where the trigger is found, the rest depends on the rows. -/
theorem undone_iff_noClash (hpart : Partitioned indexes tableName p s.db)
    (hname : s.triggerName tableName = some (quoted (triggerNameOf tableName triggerName)))
    (h : pasted reserved (triggerNameOf tableName triggerName) =
      some (quoted (triggerNameOf tableName triggerName)))
    {before : Multiset (Row alpha)} {added : List (Row alpha)}
    (hrows : s.db.rows tableName = before + added) :
    Undone tableName before added
        (afterDeprovision reserved indexes tz tableName triggerName s) <->
      NoClash indexes (s.db.rows tableName) := by
  have hdrop : dropNamed reserved tableName triggerName s =
      .ok (s.dropTrigger tableName) := by
    unfold dropNamed
    rw [h]
    simp only
    rw [if_pos hname]
  have hnone : (s.dropTrigger tableName).db.triggers tableName = none := by
    simp [Named.dropTrigger]
  have hiff := copyChildren_ok_iff tz hnone hpart.catalog.unique hpart.parent
  constructor
  · intro hundone
    apply hiff.mp
    unfold afterDeprovision at hundone
    split at hundone
    · rename_i s' hdone
      rcases deprovision_ok_iff.mp hdone with ⟨s1, db, hdrop', hcopy, _⟩
      rw [hdrop, Except.ok.injEq] at hdrop'
      subst hdrop'
      exact ⟨db, hcopy⟩
    · have htrigger := hundone.trigger
      rw [hpart.trigger] at htrigger
      cases htrigger
  · intro hclash
    rcases hiff.mpr hclash with ⟨db, hcopy⟩
    have hdone : zbxDeprovisionPartitions reserved indexes tz tableName triggerName s =
        .ok { s.dropTrigger tableName with db } :=
      deprovision_ok_iff.mpr ⟨_, db, hdrop, hcopy, rfl⟩
    rcases copyChildren_undone hnone hpart.catalog.unique hpart.parent hcopy with
      ⟨hback, hchildren, htrigger⟩
    rw [afterDeprovision, hdone]
    exact ⟨hback.trans hrows, hchildren, htrigger⟩

theorem undone_iff_of_partitioned (hpart : Partitioned indexes tableName p s.db)
    (hname : s.triggerName tableName = some (quoted (triggerNameOf tableName triggerName)))
    {before : Multiset (Row alpha)} {added : List (Row alpha)}
    (hrows : s.db.rows tableName = before + added) :
    Undone tableName before added
        (afterDeprovision reserved indexes tz tableName triggerName s) <->
      pasted reserved (triggerNameOf tableName triggerName) =
          some (quoted (triggerNameOf tableName triggerName)) ∧
        NoClash indexes (before + added) := by
  rw [← hrows]
  by_cases h : pasted reserved (triggerNameOf tableName triggerName) =
      some (quoted (triggerNameOf tableName triggerName))
  · rw [undone_iff_noClash hpart hname h hrows]
    constructor
    · exact fun hclash => ⟨h, hclash⟩
    · exact And.right
  · constructor
    · intro hundone
      exact absurd hundone.trigger (trigger_stays hpart hname h)
    · intro hboth
      exact absurd hboth.left h

end

/--
Enabling, inserting and deprovisioning puts all rows back into a plain table,
exactly when the pasted name of the trigger denotes what the quoted one does and
no two of the rows violate a unique index together.
-/
theorem undone_iff (reserved : List Char -> Bool) (indexes : UniqueIndexes alpha)
    (tz : TimeZone) (now : Int) (tableName : String) (p : Period) (triggerName : String)
    (s s1 : Named alpha) (rows : List (Row alpha)) (hcatalog : Catalog tableName p s.db)
    (henable : enableNamed tz now tableName p triggerName s = .ok s1) :
    Undone tableName (s.db.rows tableName)
        (insertedRows indexes.conflicts tz tableName s1.db rows)
        (afterDeprovision reserved indexes tz tableName triggerName
          { s1 with db := insertAll indexes.conflicts tz tableName s1.db rows }) <->
      pasted reserved (triggerNameOf tableName triggerName) =
          some (quoted (triggerNameOf tableName triggerName)) ∧
        NoClash indexes (s.db.rows tableName +
          insertedRows indexes.conflicts tz tableName s1.db rows) := by
  unfold enableNamed at henable
  cases hdb1 : zbxEnablePartitions tz now tableName p s.db with
  | error e =>
      rw [hdb1] at henable
      cases henable
  | ok db1 =>
      rw [hdb1] at henable
      cases henable
      have hpart1 : Partitioned indexes tableName p db1 := partitioned_of_enable hcatalog hdb1
      rcases @Partitioned.insertAll alpha indexes tz tableName p rows db1 hpart1 with
        ⟨hpart, hrows⟩
      rw [← zbxEnablePartitions_rows hdb1 tableName] at hrows
      exact undone_iff_of_partitioned hpart (Function.update_self _ _ _) hrows

/-!
## A history table
-/

/-- A table without unique indexes. -/
def noIndexes : UniqueIndexes Unit where
  clash := fun _ _ => false
  symm := fun _ _ => rfl

/-- The table `history` with a row of the day before, and a partition for the day. -/
def historyTable : Named Unit where
  db := {
    parents := fun _ => [⟨-5, (), by decide⟩]
    triggers := fun _ => none
    partitions := [⟨partitionName "history" .yyyyMmDd 0, "history", some (0, 86400), []⟩] }
  triggerName := fun _ => none

theorem historyTable_catalog : Catalog "history" .day historyTable.db where
  unique := List.nodup_singleton _
  others := by
    intro q hq hother
    rw [List.mem_singleton.mp hq] at hother
    exact absurd rfl hother

/-- `history` after its partitions are enabled. -/
def enabledTable (triggerName : String) : Named Unit where
  db := {
    parents := Function.update historyTable.db.parents "history" []
    triggers := Function.update historyTable.db.triggers "history" (some .yyyyMmDd)
    partitions := historyTable.db.partitions ++
      [⟨partitionName "history" .yyyyMmDd (-dayUs), "history", none,
        [⟨-5, (), by decide⟩]⟩] }
  triggerName := Function.update historyTable.triggerName "history"
    (some (quoted (triggerNameOf "history" triggerName)))

theorem enableNamed_historyTable (triggerName : String) :
    enableNamed TimeZone.utc 0 "history" .day triggerName historyTable =
      .ok (enabledTable triggerName) := by
  have hdb : zbxEnablePartitions TimeZone.utc 0 "history" .day historyTable.db =
      .ok (enabledTable triggerName).db := by
    have hnow : historyTable.db.hasPartition (partitionName "history" .yyyyMmDd 0) = true := by
      decide +kernel
    have hfirst : historyTable.db.hasPartition
        (partitionName "history" .yyyyMmDd (-dayUs)) = false := by
      decide +kernel
    have hback : TimeZone.utc.toLocal
        (plusInterval TimeZone.utc 0 (Period.day.interval.scale (-1))) = -dayUs := by
      decide +kernel
    unfold zbxEnablePartitions
    simp only [zbxTimeFormatBy, hback, hfirst]
    rw [show TimeZone.utc.toLocal 0 = 0 from rfl, hnow]
    rfl
  rw [enableNamed, hdb]
  rfl

theorem noClash_noIndexes (rows : Multiset (Row Unit)) : NoClash noIndexes rows := by
  induction rows using Quotient.inductionOn with
  | h rows => exact noClash_coe_iff.mpr (List.pairwise_of_forall fun _ _ => rfl)

theorem undone_iff_default :
    Undone "history" (historyTable.db.rows "history")
      (insertedRows noIndexes.conflicts TimeZone.utc "history" (enabledTable "").db
        [⟨5, (), by decide⟩])
      (afterDeprovision (fun _ => false) noIndexes TimeZone.utc "history" ""
        { enabledTable "" with
          db := insertAll noIndexes.conflicts TimeZone.utc "history" (enabledTable "").db
            [⟨5, (), by decide⟩] }) := by
  rw [undone_iff (fun _ => false) noIndexes TimeZone.utc 0 "history" .day "" historyTable
    (enabledTable "") [⟨5, (), by decide⟩] historyTable_catalog (enableNamed_historyTable "")]
  exact ⟨by decide +kernel, noClash_noIndexes _⟩

/-- A trigger with a capital letter is not found again, and the rows are lost. -/
theorem capital_letter_loses_rows :
    ¬ forall (triggerName : String) (s1 : Named Unit) (rows : List (Row Unit)),
      enableNamed TimeZone.utc 0 "history" .day triggerName historyTable = .ok s1 ->
      Undone "history" (historyTable.db.rows "history")
        (insertedRows noIndexes.conflicts TimeZone.utc "history" s1.db rows)
        (afterDeprovision (fun _ => false) noIndexes TimeZone.utc "history" triggerName
          { s1 with
            db := insertAll noIndexes.conflicts TimeZone.utc "history" s1.db rows }) := by
  intro h
  have hundone := h "Insert" (enabledTable "Insert") [⟨5, (), by decide⟩]
    (enableNamed_historyTable "Insert")
  have hempty : (afterDeprovision (fun _ => false) noIndexes TimeZone.utc "history" "Insert"
      { enabledTable "Insert" with
        db := insertAll noIndexes.conflicts TimeZone.utc "history" (enabledTable "Insert").db
          [⟨5, (), by decide⟩] }).db.parents "history" = [] := by
    decide +kernel
  have hrows := congrArg Multiset.card hundone.rows
  rw [hempty] at hrows
  simp [historyTable, Database.rows] at hrows

end Zabbix
end EsdcFactory
