import EsdcFactory.Zabbix.Retention
import Mathlib.Data.List.Induction

/-!
# References to partitioned events

Once the events are partitioned, the foreign keys of the tables that refer to them no
longer find them.  `repair-zabbix-3.2.0.sql` puts triggers in their place, which look an
event up whenever a reference is written.  They do not watch the events themselves.
-/

namespace EsdcFactory
namespace Zabbix
namespace ForeignKeys

open Calendar Timestamp Fold

/-!
## Triggers
-/

/-- A row of `event_recovery`, with its other columns as data. -/
structure EventRecovery (beta : Type) where
  eventid : Option Int
  rEventid : Option Int
  data : beta

/-- A row of `problem`. -/
structure Problem (gamma : Type) where
  eventid : Option Int
  data : gamma

inductive FkError where
  | foreignKeyViolation (message detail : String)
  /-- the detail is put together from a value that is null -/
  | nullOption
deriving DecidableEq

/-- A function that checks a column, for the rows that are inserted or have it updated. -/
structure FkTrigger (rho : Type) where
  message : String
  columnName : String
  column : rho -> Option Int

def recoveryMessage : String :=
  "Insert or update on table \"event_recovery\" violates custom foreign key trigger " ++
    "\"event_recovery_fk_trigger\" "

def problemMessage : String :=
  "Insert or update on table \"problem\" violates custom foreign key trigger " ++
    "\"problem_fk_trigger\" "

/-- `event_recovery_1_fk_trigger` -/
def eventRecovery1FkTrigger (beta : Type) : FkTrigger (EventRecovery beta) :=
  ⟨recoveryMessage, "eventid", EventRecovery.eventid⟩

/-- `event_recovery_2_fk_trigger` -/
def eventRecovery2FkTrigger (beta : Type) : FkTrigger (EventRecovery beta) :=
  ⟨recoveryMessage, "r_eventid", EventRecovery.rEventid⟩

/-- `problem_1_fk_trigger` -/
def problem1FkTrigger (gamma : Type) : FkTrigger (Problem gamma) :=
  ⟨problemMessage, "eventid", Problem.eventid⟩

def recoveryTriggers (beta : Type) : List (FkTrigger (EventRecovery beta)) :=
  [eventRecovery1FkTrigger beta, eventRecovery2FkTrigger beta]

def problemTriggers (gamma : Type) : List (FkTrigger (Problem gamma)) :=
  [problem1FkTrigger gamma]

variable {alpha beta gamma rho : Type}

/-- `SELECT eventid FROM events e WHERE e.eventid = ..`, which sees all partitions -/
def hasEvent (eventid : Row alpha -> Int) (db : Database alpha) (id : Int) : Bool :=
  decide (id ∈ (db.rows "events").map eventid)

def FkTrigger.check (trigger : FkTrigger rho) (eventid : Row alpha -> Int)
    (db : Database alpha) (new : rho) : Except FkError PUnit :=
  match trigger.column new with
  | none => .error .nullOption
  | some id =>
      if hasEvent eventid db id then .ok ⟨⟩
      else .error (.foreignKeyViolation trigger.message
        ("Key (eventid=" ++ toString id ++ ") is not present in events table"))

/-!
## Statements
-/

/-- `INSERT`, which fires all triggers -/
def insertRef (triggers : List (FkTrigger rho)) (eventid : Row alpha -> Int)
    (db : Database alpha) (new : rho) (rows : List rho) : Except FkError (List rho) := do
  triggers.forM fun trigger => trigger.check eventid db new
  return rows ++ [new]

/-- An `UPDATE`; the columns that it does not list stay as they are. -/
structure Update (triggers : List (FkTrigger rho)) where
  applies : rho -> Bool
  listed : String -> Bool
  set : rho -> rho
  unlisted : forall trigger, trigger ∈ triggers -> listed trigger.columnName = false ->
    forall row, trigger.column (set row) = trigger.column row

/-- `BEFORE UPDATE OF` a column fires for the rows where the column is listed. -/
def Update.row {triggers : List (FkTrigger rho)} (update : Update triggers)
    (eventid : Row alpha -> Int) (db : Database alpha) (old : rho) : Except FkError rho :=
  if update.applies old then do
    (triggers.filter fun trigger => update.listed trigger.columnName).forM fun trigger =>
      trigger.check eventid db (update.set old)
    return update.set old
  else return old

def Update.rows {triggers : List (FkTrigger rho)} (update : Update triggers)
    (eventid : Row alpha -> Int) (db : Database alpha) (rows : List rho) :
    Except FkError (List rho) :=
  rows.mapM (update.row eventid db)

/-- The events, and the tables that refer to them. -/
structure Tables (alpha beta gamma : Type) where
  db : Database alpha
  eventRecovery : List (EventRecovery beta)
  problem : List (Problem gamma)

/-- A statement of the Zabbix server, or a call of a partitioning function. -/
inductive Act (alpha beta gamma : Type) where
  | insertEvent (event : Row alpha)
  | provision (now : Int) (partitionBy : Period) (count : Nat)
  | dropOld (now cutoff : Int)
  | insertRecovery (new : EventRecovery beta)
  | updateRecovery (update : Update (recoveryTriggers beta))
  | deleteRecovery (keeps : EventRecovery beta -> Bool)
  | insertProblem (new : Problem gamma)
  | updateProblem (update : Update (problemTriggers gamma))
  | deleteProblem (keeps : Problem gamma -> Bool)

/-- A statement that fails changes nothing. -/
def settled (rows : List rho) : Except FkError (List rho) -> List rho
  | .ok rows' => rows'
  | .error _ => rows

/-- The server that the statements are sent to. -/
structure Server (alpha : Type) where
  conflicts : List (Row alpha) -> Row alpha -> Bool
  tz : TimeZone
  eventid : Row alpha -> Int

def Server.step (server : Server alpha) (t : Tables alpha beta gamma) :
    Act alpha beta gamma -> Tables alpha beta gamma
  | .insertEvent event =>
      { t with db := committed t.db (insertRow server.conflicts server.tz "events" event t.db) }
  | .provision now partitionBy count =>
      { t with
        db := committed t.db
          (zbxProvisionPartitions server.tz now "events" partitionBy count t.db) }
  | .dropOld now cutoff =>
      { t with db := committed t.db (zbxDropOldPartitions server.tz now "events" cutoff t.db) }
  | .insertRecovery new =>
      { t with
        eventRecovery := settled t.eventRecovery
          (insertRef (recoveryTriggers beta) server.eventid t.db new t.eventRecovery) }
  | .updateRecovery update =>
      { t with
        eventRecovery := settled t.eventRecovery
          (update.rows server.eventid t.db t.eventRecovery) }
  | .deleteRecovery keeps => { t with eventRecovery := t.eventRecovery.filter keeps }
  | .insertProblem new =>
      { t with
        problem := settled t.problem
          (insertRef (problemTriggers gamma) server.eventid t.db new t.problem) }
  | .updateProblem update =>
      { t with problem := settled t.problem (update.rows server.eventid t.db t.problem) }
  | .deleteProblem keeps => { t with problem := t.problem.filter keeps }

def Server.run (server : Server alpha) (acts : List (Act alpha beta gamma))
    (t : Tables alpha beta gamma) : Tables alpha beta gamma :=
  acts.foldl server.step t

/-!
## References
-/

def IsEvent (eventid : Row alpha -> Int) (db : Database alpha) (id : Int) : Prop :=
  exists event, event ∈ db.rows "events" ∧ eventid event = id

theorem hasEvent_iff {eventid : Row alpha -> Int} {db : Database alpha} {id : Int} :
    hasEvent eventid db id = true <-> IsEvent eventid db id := by
  rw [hasEvent, decide_eq_true_iff, Multiset.mem_map, IsEvent]

/-- Each checked column of each row refers to an event, or to what is excused. -/
def Refers (triggers : List (FkTrigger rho)) (isEvent : Int -> Prop) (rows : List rho) : Prop :=
  forall row, row ∈ rows -> forall trigger, trigger ∈ triggers ->
    exists id, trigger.column row = some id ∧ isEvent id

/-- All references are to events, or to what is excused. -/
structure Intact (server : Server alpha) (excused : Int -> Prop) (t : Tables alpha beta gamma) :
    Prop where
  sound : Sound server.tz t.db.partitions
  eventRecovery : Refers (recoveryTriggers beta)
    (fun id => IsEvent server.eventid t.db id ∨ excused id) t.eventRecovery
  problem : Refers (problemTriggers gamma)
    (fun id => IsEvent server.eventid t.db id ∨ excused id) t.problem

/-- Partitions were dropped up to some time after an event of this number. -/
def IsDropped (server : Server alpha) (acts : List (Act alpha beta gamma)) (id : Int) : Prop :=
  exists now cutoff event, Act.dropOld now cutoff ∈ acts ∧
    Row.instant event < cutoff ∧ server.eventid event = id

/-!
## Statements that write references
-/

theorem FkTrigger.check_eq_ok {trigger : FkTrigger rho} {eventid : Row alpha -> Int}
    {db : Database alpha} {new : rho} (h : trigger.check eventid db new = .ok ⟨⟩) :
    exists id, trigger.column new = some id ∧ IsEvent eventid db id := by
  rw [FkTrigger.check] at h
  split at h
  · cases h
  · next id hcolumn =>
      split at h
      · next hevent => exact ⟨id, hcolumn, hasEvent_iff.mp hevent⟩
      · cases h

theorem Refers.mono {triggers : List (FkTrigger rho)} {P Q : Int -> Prop} {rows : List rho}
    (h : Refers triggers P rows) (hPQ : forall id, P id -> Q id) : Refers triggers Q rows := by
  intro row hrow trigger htrigger
  rcases h row hrow trigger htrigger with ⟨id, hcolumn, hid⟩
  exact ⟨id, hcolumn, hPQ id hid⟩

theorem Refers.filter {triggers : List (FkTrigger rho)} {P : Int -> Prop} {rows : List rho}
    (h : Refers triggers P rows) (keeps : rho -> Bool) : Refers triggers P (rows.filter keeps) :=
  fun row hrow => h row (List.mem_of_mem_filter hrow)

theorem Refers.settled {triggers : List (FkTrigger rho)} {P : Int -> Prop} {rows : List rho}
    {r : Except FkError (List rho)} (h : Refers triggers P rows)
    (hr : forall rows', r = .ok rows' -> Refers triggers P rows') :
    Refers triggers P (ForeignKeys.settled rows r) := by
  cases r with
  | error e => exact h
  | ok rows' => exact hr rows' rfl

variable {triggers : List (FkTrigger rho)} {eventid : Row alpha -> Int} {db : Database alpha}
  {P : Int -> Prop} {rows rows' : List rho}

theorem Refers.insert {new : rho} (h : Refers triggers P rows)
    (hP : forall id, IsEvent eventid db id -> P id)
    (hinsert : insertRef triggers eventid db new rows = .ok rows') : Refers triggers P rows' := by
  rcases bind_eq_ok.mp hinsert with ⟨_, hchecks, hrows⟩
  cases hrows
  intro row hrow trigger htrigger
  rcases List.mem_append.mp hrow with hold | hnew
  · exact h row hold trigger htrigger
  · rw [List.mem_singleton.mp hnew]
    rcases FkTrigger.check_eq_ok (forM_eq_ok_iff.mp hchecks trigger htrigger) with
      ⟨id, hcolumn, hid⟩
    exact ⟨id, hcolumn, hP id hid⟩

/-- A column that is listed is checked, and one that is not refers to what it did. -/
theorem Update.row_refers {update : Update triggers} {old new : rho}
    (hold : forall trigger, trigger ∈ triggers -> exists id, trigger.column old = some id ∧ P id)
    (hP : forall id, IsEvent eventid db id -> P id)
    (h : update.row eventid db old = .ok new) :
    forall trigger, trigger ∈ triggers -> exists id, trigger.column new = some id ∧ P id := by
  intro trigger htrigger
  rw [Update.row] at h
  split at h
  · rcases bind_eq_ok.mp h with ⟨_, hchecks, hnew⟩
    cases hnew
    cases hlisted : update.listed trigger.columnName with
    | true =>
        have hfires : trigger ∈ triggers.filter fun trigger => update.listed trigger.columnName :=
          List.mem_filter.mpr ⟨htrigger, hlisted⟩
        rcases FkTrigger.check_eq_ok (forM_eq_ok_iff.mp hchecks trigger hfires) with
          ⟨id, hcolumn, hid⟩
        exact ⟨id, hcolumn, hP id hid⟩
    | false =>
        rw [update.unlisted trigger htrigger hlisted]
        exact hold trigger htrigger
  · cases h
    exact hold trigger htrigger

theorem Refers.update {update : Update triggers} (h : Refers triggers P rows)
    (hP : forall id, IsEvent eventid db id -> P id)
    (hupdate : update.rows eventid db rows = .ok rows') : Refers triggers P rows' := by
  rw [Update.rows] at hupdate
  induction rows generalizing rows' with
  | nil =>
      cases hupdate
      exact nofun
  | cons row rows ih =>
      rw [List.mapM_cons] at hupdate
      rcases bind_eq_ok.mp hupdate with ⟨new, hrow, hrest⟩
      rcases bind_eq_ok.mp hrest with ⟨news, hrows, hnews⟩
      cases hnews
      intro other hother
      rcases List.mem_cons.mp hother with rfl | hother
      · exact Update.row_refers (h row List.mem_cons_self) hP hrow
      · exact ih (fun row' hrow' => h row' (List.mem_cons_of_mem row hrow')) hrows other hother

/-!
## Statements on the events
-/

theorem mem_partitionRows {tableName : String} {ps : List (Partition alpha)} {event : Row alpha} :
    event ∈ partitionRows tableName ps <->
      exists p, p ∈ ps ∧ p.parent = tableName ∧ event ∈ p.rows := by
  induction ps with
  | nil => simp
  | cons p ps ih =>
      rw [partitionRows_cons, Multiset.mem_add, ih, List.exists_mem_cons_iff]
      apply or_congr _ Iff.rfl
      split
      · next hparent => simp [hparent]
      · next hparent => simp [hparent]

/-- An insert leaves every row where it can be seen. -/
theorem mem_rows_insertRow {conflicts : List (Row alpha) -> Row alpha -> Bool} {tz : TimeZone}
    {tableName : String} {new event : Row alpha} {db' : Database alpha}
    (h : insertRow conflicts tz tableName new db = .ok db') (hevent : event ∈ db.rows tableName) :
    event ∈ db'.rows tableName := by
  have honly : forall d, insertOnly conflicts tableName new db = .ok d ->
      event ∈ d.rows tableName := by
    intro d hd
    rw [insertOnly] at hd
    split at hd
    · cases hd
    · cases hd
      rw [Database.rows, Multiset.mem_add] at hevent ⊢
      apply hevent.imp _ id
      intro hparent
      simp only [Function.update_self]
      exact List.mem_append_left _ hparent
  rw [insertRow] at h
  split at h
  · exact honly db' h
  · split at h
    · next hroute =>
        cases h
        rcases Option.map_eq_some_iff.mp hroute with ⟨ps, hinsert, rfl⟩
        rcases insertInto_some hinsert with ⟨front, p, back, hps, _, rfl⟩
        rw [Database.rows, Multiset.mem_add] at hevent ⊢
        apply hevent.imp id
        intro hchild
        rw [mem_partitionRows] at hchild ⊢
        rw [hps] at hchild
        rcases hchild with ⟨q, hq, hparent, hrow⟩
        rcases List.mem_append.mp hq with hq | hq
        · exact ⟨q, List.mem_append_left _ hq, hparent, hrow⟩
        · rcases List.mem_cons.mp hq with rfl | hq
          · exact ⟨_, List.mem_append_right _ List.mem_cons_self, hparent,
              List.mem_append_left _ hrow⟩
          · exact ⟨q, List.mem_append_right _ (List.mem_cons_of_mem _ hq), hparent, hrow⟩
    · exact honly db' h

/-- What is lost when partitions are dropped is from before the cutoff. -/
theorem loses_dropOld {tz : TimeZone} {now cutoff : Int} {tableName : String}
    {db' : Database alpha} (h : zbxDropOldPartitions tz now tableName cutoff db = .ok db')
    (hdb : Sound tz db.partitions) :
    Sound tz db'.partitions ∧
      Loses tableName (fun event => event.instant < cutoff) db db' := by
  rcases bind_eq_ok.mp h with ⟨ps, hdrop, hps⟩
  cases hps
  have hdropped := dropOldPartitions_ok hdrop
  refine ⟨fun p hp => hdb p (hdropped.mem p hp), ?_⟩
  rcases hdropped.rows tableName with ⟨gone, hrows, hold⟩
  refine ⟨gone, ?_, ?_⟩
  · rw [Database.rows, Database.rows, hrows, add_assoc]
  · intro event hevent
    rcases hold event hevent with ⟨_, p, bound, hp, hmem, hbound, hcutoff⟩
    rcases hdb p hp event hmem with ⟨bound', hbound', hlt⟩
    rw [hbound] at hbound'
    cases hbound'
    exact lt_of_lt_of_le (tz.lt_ofLocal hlt) hcutoff

/-!
## Runs
-/

variable {server : Server alpha} {excused : Int -> Prop} {t : Tables alpha beta gamma}

/-- The references stay as they are while no event is lost that is not excused then. -/
theorem Intact.withDb {excused' : Int -> Prop} {db' : Database alpha}
    (h : Intact server excused t) (hsound : Sound server.tz db'.partitions)
    (hevents : forall id, IsEvent server.eventid t.db id ->
      IsEvent server.eventid db' id ∨ excused' id)
    (hexcused : forall id, excused id -> excused' id) :
    Intact server excused' { t with db := db' } := by
  have hmono : forall id, IsEvent server.eventid t.db id ∨ excused id ->
      IsEvent server.eventid db' id ∨ excused' id := by
    intro id hid
    rcases hid with hid | hid
    · exact hevents id hid
    · exact Or.inr (hexcused id hid)
  exact ⟨hsound, h.eventRecovery.mono hmono, h.problem.mono hmono⟩

theorem Intact.mono {excused' : Int -> Prop} (h : Intact server excused t)
    (hexcused : forall id, excused id -> excused' id) : Intact server excused' t :=
  h.withDb h.sound (fun _ hid => Or.inl hid) hexcused

theorem isDropped_append {acts : List (Act alpha beta gamma)} {id : Int}
    (h : IsDropped server acts id) (act : Act alpha beta gamma) :
    IsDropped server (acts ++ [act]) id := by
  rcases h with ⟨now, cutoff, event, hmem, hevent⟩
  exact ⟨now, cutoff, event, List.mem_append_left _ hmem, hevent⟩

theorem Intact.step {acts : List (Act alpha beta gamma)} (h : Intact server (IsDropped server acts) t)
    (act : Act alpha beta gamma) :
    Intact server (IsDropped server (acts ++ [act])) (server.step t act) := by
  have hkept : Intact server (IsDropped server (acts ++ [act])) t :=
    h.mono fun id hid => isDropped_append hid act
  have hP : forall id, IsEvent server.eventid t.db id ->
      IsEvent server.eventid t.db id ∨ IsDropped server (acts ++ [act]) id :=
    fun id hid => Or.inl hid
  cases act with
  | insertEvent event =>
      rw [Server.step]
      cases hinsert : insertRow server.conflicts server.tz "events" event t.db with
      | error e => exact hkept
      | ok db' =>
          refine hkept.withDb (insertRow_sound hinsert h.sound) ?_ fun _ hid => hid
          intro id hid
          rcases hid with ⟨old, hold, hid⟩
          exact Or.inl ⟨old, mem_rows_insertRow hinsert hold, hid⟩
  | provision now partitionBy count =>
      rw [Server.step]
      cases hprovision : zbxProvisionPartitions server.tz now "events" partitionBy count t.db with
      | error e => exact hkept
      | ok db' =>
          have hextends := zbxProvisionPartitions_ok hprovision
          refine hkept.withDb (hextends.sound h.sound) ?_ fun _ hid => hid
          intro id hid
          rcases hid with ⟨old, hold, hid⟩
          rw [hextends.rows_eq] at hold
          exact Or.inl ⟨old, hold, hid⟩
  | dropOld now cutoff =>
      rw [Server.step]
      cases hdrop : zbxDropOldPartitions server.tz now "events" cutoff t.db with
      | error e => exact hkept
      | ok db' =>
          rcases loses_dropOld hdrop h.sound with ⟨hsound, gone, hrows, hgone⟩
          refine hkept.withDb hsound ?_ fun _ hid => hid
          intro id hid
          rcases hid with ⟨event, hevent, hid⟩
          rw [hrows, Multiset.mem_add] at hevent
          rcases hevent with hleft | hlost
          · exact Or.inl ⟨event, hleft, hid⟩
          · exact Or.inr ⟨now, cutoff, event, List.mem_append_right _ List.mem_cons_self,
              hgone event hlost, hid⟩
  | insertRecovery new =>
      exact ⟨h.sound, hkept.eventRecovery.settled fun _ hr => hkept.eventRecovery.insert hP hr,
        hkept.problem⟩
  | updateRecovery update =>
      exact ⟨h.sound, hkept.eventRecovery.settled fun _ hr => hkept.eventRecovery.update hP hr,
        hkept.problem⟩
  | deleteRecovery keeps =>
      exact ⟨h.sound, hkept.eventRecovery.filter keeps, hkept.problem⟩
  | insertProblem new =>
      exact ⟨h.sound, hkept.eventRecovery,
        hkept.problem.settled fun _ hr => hkept.problem.insert hP hr⟩
  | updateProblem update =>
      exact ⟨h.sound, hkept.eventRecovery,
        hkept.problem.settled fun _ hr => hkept.problem.update hP hr⟩
  | deleteProblem keeps =>
      exact ⟨h.sound, hkept.eventRecovery, hkept.problem.filter keeps⟩

end ForeignKeys
end Zabbix
end EsdcFactory
