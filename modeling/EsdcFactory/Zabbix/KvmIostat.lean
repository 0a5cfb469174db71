import EsdcFactory.Lib.Json
import EsdcFactory.Lib.Outcome
import Mathlib.Algebra.Order.Field.Rat
import Mathlib.Data.List.Infix
import Mathlib.Logic.Function.Basic

/-!
# The statistics of KVM disks

`kvmiostat` asks each running KVM machine for the counters of its disks, through the
QMP socket of the machine, and prints how much they grew since it asked before.  The
reply is kept in a variable of the whole script.
-/

namespace EsdcFactory
namespace Zabbix
namespace KvmIostat

/-!
## Counters
-/

/-- `@fields` -/
inductive Field where
  | rdOperations
  | wrOperations
  | rdBytes
  | wrBytes
deriving DecidableEq

def Field.name : Field -> List Char
  | .rdOperations => "rd_operations".toList
  | .wrOperations => "wr_operations".toList
  | .rdBytes => "rd_bytes".toList
  | .wrBytes => "wr_bytes".toList

abbrev Counters := Field -> Rat

/-- The counters of a disk at a reading of the clock. -/
structure Stats where
  counters : Counters
  timestamp : Nat

/-- What `JSON::PP` makes of a text, and what Perl takes a value for when it counts. -/
structure Perl where
  decode : List Char -> Option Json
  number : Json -> Rat

/-- `$x->{key}`, which ends the script on what is no hash; what is undefined has no members. -/
def hashGet (key : List Char) : Option Json -> Option (Option Json)
  | none => some none
  | some .null => some none
  | some (.obj members) => some (members.reverse.lookup key)
  | some _ => none

/-- `$x->[i]` -/
def arrayGet (i : Nat) : Option Json -> Option (Option Json)
  | none => some none
  | some .null => some none
  | some (.arr items) => some items[i]?
  | some _ => none

/-- `$perl_scalar->{'return'}[$di]{'stats'}` -/
def diskstats (perlScalar : Json) (di : Nat) : Option (Option Json) := do
  let all ← hashGet "return".toList (some perlScalar)
  let disk ← arrayGet di all
  hashGet "stats".toList disk

/-- A value that is not defined counts as zero. -/
def Perl.amount (perl : Perl) : Option Json -> Rat
  | none => 0
  | some .null => 0
  | some value => perl.number value

/-- `parse_blockstats` -/
def Perl.parseBlockstats (perl : Perl) : Option Json -> Option Counters
  | none => some fun _ => 0
  | some .null => some fun _ => 0
  | some (.obj members) => some fun field => perl.amount (members.reverse.lookup field.name)
  | some _ => none

/-- The counters of a disk in a reply. -/
def Perl.countersOf (perl : Perl) (perlScalar : Json) (di : Nat) : Option Counters :=
  (diskstats perlScalar di).bind perl.parseBlockstats

/-!
## Sockets
-/

/-- `/QMP/` or `/\x7b"return": \x7b\x7d\x7d/`: the lines that the script passes over. -/
def passesOver (line : List Char) : Bool :=
  "QMP".toList <:+: line || "\x7b\"return\": \x7b\x7d\x7d".toList <:+: line

/-- What is sent on a socket: the reply to `query-blockstats`, if it gets there, among others. -/
structure Session where
  before : List (List Char)
  reply : Option (List Char)
  after : List (List Char)
  /-- it is closed behind the last line, and does not keep the script waiting -/
  closed : Bool

def Session.lines (session : Session) : List (List Char) :=
  session.before ++ (session.reply.toList ++ session.after)

/-- The line at which the script stops reading. -/
def Session.taken (session : Session) : Option (List Char) :=
  session.lines.find? fun line => !passesOver line

/-- What becomes of the attempt to ask a machine. -/
inductive Contact where
  | refused
  | opened (session : Session)

/-- A running KVM machine in a poll. -/
structure Zone where
  uuid : String
  diskCount : Nat
  clock : Nat
  contact : Contact

/-!
## The script
-/

/-- `-M`, `-b`, or neither -/
inductive BytesUnit where
  | mega
  | byte
  | kilo

def BytesUnit.divisor : BytesUnit -> Rat
  | .mega => 1024 * 1024
  | .byte => 1
  | .kilo => 1024

structure Options where
  onlyZone : Option String
  onlyDevice : Option String
  useInterval : Bool
  hideZeroes : Bool
  bytes : BytesUnit

def diskName (di : Nat) : String :=
  "disk" ++ toString di

def Options.wantsZone (opts : Options) (uuid : String) : Bool :=
  opts.onlyZone.all (· = uuid)

def Options.wantsDisk (opts : Options) (di : Nat) : Bool :=
  opts.onlyDevice.all (· = diskName di)

/-- A disk of the machine is shown. -/
def Zone.IsShown (opts : Options) (zone : Zone) : Prop :=
  opts.wantsZone zone.uuid = true ∧ exists di, di < zone.diskCount ∧ opts.wantsDisk di = true

def Options.divisor (opts : Options) : Field -> Rat
  | .rdOperations => 1
  | .wrOperations => 1
  | .rdBytes => opts.bytes.divisor
  | .wrBytes => opts.bytes.divisor

/-- A line that is printed, with the samples from which its rates are taken. -/
structure Row where
  poll : Nat
  zone : String
  disk : Nat
  data : Stats
  old : Stats

def rateDivisor (opts : Options) (data old : Stats) : Rat :=
  if opts.useInterval then 1 else (data.timestamp : Rat) - old.timestamp

def rate (opts : Options) (data old : Stats) (field : Field) : Rat :=
  (data.counters field - old.counters field) / rateDivisor opts data old / opts.divisor field

/-- The variables that outlive a poll, and what has been printed. -/
structure State where
  jsonData : Option (List Char)
  old : String -> Nat -> Option Stats
  rows : List Row

def State.initial : State where
  jsonData := none
  old := fun _ _ => none
  rows := []

/-- All rates of a row are zero. -/
def isIdle (opts : Options) (data old : Stats) : Bool :=
  rate opts data old .rdOperations = 0 && rate opts data old .wrOperations = 0 &&
    rate opts data old .rdBytes = 0 && rate opts data old .wrBytes = 0

/-- `print_stats`, which ends the script where it would divide by zero -/
def printStats (opts : Options) (row : Row) (s : State) : Outcome State :=
  if rateDivisor opts row.data row.old = 0 then .aborted s
  else if opts.hideZeroes && isIdle opts row.data row.old then .done s
  else .done { s with rows := s.rows ++ [row] }

/-- What is remembered of a disk, which is zero before the first poll. -/
def State.remembered (s : State) (uuid : String) (di : Nat) : Stats :=
  (s.old uuid di).getD ⟨fun _ => 0, 0⟩

def State.remember (s : State) (uuid : String) (di : Nat) (data : Stats) : State :=
  { s with old := Function.update s.old uuid (Function.update (s.old uuid) di (some data)) }

/-- A round of the loop over the disks, for the counters of a reply. -/
def visitDisk (opts : Options) (poll : Nat) (uuid : String) (clock : Nat)
    (counters : Nat -> Option Counters) (di : Nat) (s : State) : Outcome State :=
  if !opts.wantsDisk di then .done s
  else
    match counters di with
    | none => .aborted s
    | some counters =>
        let data := ⟨counters, clock⟩
        (printStats opts ⟨poll, uuid, di, data, s.remembered uuid di⟩ s).bind fun s =>
          .done (s.remember uuid di data)

/-- The loop over the disks. -/
def visitDisks (opts : Options) (poll : Nat) (uuid : String) (clock : Nat)
    (counters : Nat -> Option Counters) (diskCount : Nat) (s : State) : Outcome State :=
  Outcome.each (visitDisk opts poll uuid clock counters) (List.range diskCount) s

/-- What the script does with the line it has, be it old or new. -/
def showDisks (perl : Perl) (opts : Options) (poll : Nat) (zone : Zone) (s : State) :
    Outcome State :=
  match s.jsonData.bind perl.decode with
  | none => .aborted s
  | some perlScalar =>
      visitDisks opts poll zone.uuid zone.clock (perl.countersOf perlScalar) zone.diskCount s

/-- A round of the loop over the machines. -/
def visitZone (perl : Perl) (opts : Options) (poll : Nat) (zone : Zone) (s : State) :
    Outcome State :=
  match zone.contact with
  | .refused => .aborted s
  | .opened session =>
      match session.taken with
      | some line => showDisks perl opts poll zone { s with jsonData := some line }
      | none => if session.closed then showDisks perl opts poll zone s else .aborted s

/-- A poll, of the machines that are running. -/
def visitPoll (perl : Perl) (opts : Options) (poll : List Zone × Nat) (s : State) :
    Outcome State :=
  Outcome.each (visitZone perl opts poll.2) (poll.1.filter fun zone => opts.wantsZone zone.uuid) s

/-- The script, up to the last of some polls or to where it ends before. -/
def kvmiostat (perl : Perl) (opts : Options) (polls : List (List Zone)) : Outcome State :=
  Outcome.each (visitPoll perl opts) polls.zipIdx State.initial

end KvmIostat
end Zabbix
end EsdcFactory
