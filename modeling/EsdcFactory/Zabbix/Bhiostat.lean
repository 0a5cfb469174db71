import EsdcFactory.Lib.Tally
import Mathlib.Data.BitVec
import Mathlib.Data.List.Dedup
import Mathlib.Data.List.Forall2
import Mathlib.Data.List.Perm.Basic
import Mathlib.Logic.Function.Basic

/-!
# The I/O of bhyve processes

`bhiostat` traces the positioned reads and writes of the processes of one name and
prints once in an interval what they did to each file.  The name of the file is
known at the entry of a system call and what it did at its return; between the two
it is kept in a variable of the thread.
-/

namespace EsdcFactory
namespace Zabbix
namespace Bhiostat

/-!
## What is traced
-/

abbrev Word := BitVec 64

inductive Call where
  | pread
  | preadv
  | pwrite
  | pwritev
  deriving DecidableEq

def Call.isRead : Call -> Bool
  | .pread => true
  | .preadv => true
  | .pwrite => false
  | .pwritev => false

/--
A system call of a thread.  `file` is `fds[arg0].fi_name` at its entry, or nothing
for a call that was under way before the trace began; `result` is what it returns.
-/
structure Io where
  tid : Nat
  pid : Nat
  execname : String
  call : Call
  file : String
  result : Word
  deriving DecidableEq

/-- The probes as they fire, each call at its entry and at its return. -/
inductive Firing where
  | entry (io : Io)
  | done (io : Io)
  | tick
  deriving DecidableEq

/-- The options, of which the interval was checked to be greater than zero. -/
structure Options where
  interval : Nat
  positive : 0 < interval
  prog : String
  headline : Bool
  printTicks : Bool

/-!
## The script
-/

/-- What the aggregations are kept for. -/
abbrev Key := Nat × String

/-- What `printa` prints for one process and file. -/
structure Row where
  pid : Nat
  ior : Word
  iow : Word
  rbytes : Word
  wbytes : Word
  file : String
  deriving DecidableEq

def Row.key (row : Row) : Key := (row.pid, row.file)

def decimal (n : Word) : List Char := (toString n.toInt).toList

/-- `"%d\t%@d\t\t%@d\t\t%@d\t\t%@d\t\t%s\n"`, without the end of the line. -/
def Row.text (row : Row) : List Char :=
  (toString row.pid).toList ++ ('\t' :: (decimal row.ior ++ ('\t' :: '\t' ::
    (decimal row.iow ++ ('\t' :: '\t' :: (decimal row.rbytes ++ ('\t' :: '\t' ::
      (decimal row.wbytes ++ ('\t' :: '\t' :: row.file.toList)))))))))

def header : List Char := "PID\tIOR\t\tIOW\t\tB_RD\t\tB_WR\t\tDISK".toList

def tickMark : List Char := "---".toList

/-- The variables of the script, with `self->file` of each thread, and its output. -/
structure Trace where
  file : Nat -> String
  ior : Tally Key Word
  iow : Tally Key Word
  rbytes : Tally Key Word
  wbytes : Tally Key Word
  secs : Int
  printed : List (List Char)

/-- `dtrace:::BEGIN`; a variable of a thread that was never set is empty. -/
def begin (opts : Options) : Trace where
  file := fun _ => ""
  ior := .empty
  iow := .empty
  rbytes := .empty
  wbytes := .empty
  secs := opts.interval
  printed := if opts.headline then [header] else []

/-- The clauses for an entry. -/
def entered (opts : Options) (io : Io) (s : Trace) : Trace :=
  if io.execname = opts.prog then
    { s with file := Function.update s.file io.tid io.file }
  else s

/-- The clauses for a return, of which `arg0` is the result. -/
def returned (opts : Options) (io : Io) (s : Trace) : Trace :=
  if io.execname = opts.prog ∧ io.result ≠ -1 then
    let key := (io.pid, s.file io.tid)
    if io.call.isRead then
      { s with rbytes := s.rbytes.add key io.result, ior := s.ior.add key 1 }
    else
      { s with wbytes := s.wbytes.add key io.result, iow := s.iow.add key 1 }
  else s

/-- `printa` goes through the keys of all its aggregations. -/
def keys (s : Trace) : List Key :=
  (s.ior.keys ++ s.iow.keys ++ s.rbytes.keys ++ s.wbytes.keys).dedup

/-- An aggregation without the key is printed as zero. -/
def row (s : Trace) (key : Key) : Row where
  pid := key.1
  ior := s.ior.value key
  iow := s.iow.value key
  rbytes := s.rbytes.value key
  wbytes := s.wbytes.value key
  file := key.2

def rows (s : Trace) : List Row := (keys s).map (row s)

/-- `trunc` of the four aggregations. -/
def trunc (s : Trace) : Trace :=
  { s with ior := .empty, iow := .empty, rbytes := .empty, wbytes := .empty }

/-- The clause for the end of an interval.  `printa` sorts its rows. -/
def report (opts : Options) (order : List Row -> List Row) (s : Trace) : Trace :=
  let s :=
    { s with printed := s.printed ++ (order (rows s)).map Row.text ++
        if opts.printTicks then [tickMark] else [] }
  { trunc s with secs := opts.interval }

/-- The two clauses for `tick-1sec`. -/
def second (opts : Options) (order : List Row -> List Row) (s : Trace) : Trace :=
  let s := { s with secs := s.secs - 1 }
  if s.secs = 0 then report opts order s else s

def fire (opts : Options) (order : List Row -> List Row) (s : Trace) : Firing -> Trace
  | .entry io => entered opts io s
  | .done io => returned opts io s
  | .tick => second opts order s

def run (opts : Options) (order : List Row -> List Row) (s : Trace)
    (history : List Firing) : Trace :=
  history.foldl (fire opts order) s

/-!
## Histories
-/

def Firing.isOf (tid : Nat) : Firing -> Bool
  | .entry io => io.tid = tid
  | .done io => io.tid = tid
  | .tick => false

def Firing.isTick : Firing -> Bool
  | .tick => true
  | _ => false

/-- The call that is over, if that is what fired. -/
def Firing.finished? : Firing -> Option Io
  | .done io => some io
  | _ => none

/-- The calls of a thread come one after the other. -/
def Alternates : List Firing -> Prop
  | [] => True
  | [.entry _] => True
  | .entry io :: .done io' :: rest => io' = io ∧ Alternates rest
  | _ => False

/-- A call that was under way may return first, one for a file of the given name. -/
def Follows (prog : String) (file : String) : List Firing -> Prop
  | .done io :: rest => (io.execname = prog -> io.file = file) ∧ Alternates rest
  | history => Alternates history

/-- The threads run at the same time, each with its calls one after the other. -/
def Threaded (prog : String) (history : List Firing) : Prop :=
  forall tid, Follows prog "" (history.filter (Firing.isOf tid))

def ticks (history : List Firing) : Nat := history.countP Firing.isTick

/-- What fires in an interval: the last tick of a given number is the last of all. -/
structure Period (interval : Nat) where
  before : List Firing
  length : ticks before + 1 = interval

def Period.firings {interval : Nat} (period : Period interval) : List Firing :=
  period.before ++ [.tick]

/-- The calls that returned, in the order in which they did. -/
def finished (history : List Firing) : List Io := history.filterMap Firing.finished?

/-!
## What a report is for
-/

def Io.key (io : Io) : Key := (io.pid, io.file)

/-- A call of the program that did not fail. -/
def Io.isSeen (prog : String) (io : Io) : Bool :=
  io.execname = prog && io.result != -1

/-- The calls that are counted for a process and file. -/
def seen (prog : String) (isRead : Bool) (key : Key) (ios : List Io) : List Io :=
  ios.filter fun io => io.isSeen prog && io.call.isRead == isRead && io.key = key

/-- All that was done for a process and file. -/
def total (prog : String) (ios : List Io) (key : Key) : Row where
  pid := key.1
  ior := (seen prog true key ios).length
  iow := (seen prog false key ios).length
  rbytes := ((seen prog true key ios).map Io.result).sum
  wbytes := ((seen prog false key ios).map Io.result).sum
  file := key.2

/-- One row for each process and file that something was done for, with all of it. -/
structure IsReport (prog : String) (ios : List Io) (rows : List Row) : Prop where
  nodup : (rows.map Row.key).Nodup
  keys : forall key, key ∈ rows.map Row.key <->
    exists io, io ∈ ios ∧ io.isSeen prog = true ∧ io.key = key
  rows : forall row, row ∈ rows -> row = total prog ios row.key

end Bhiostat
end Zabbix
end EsdcFactory
