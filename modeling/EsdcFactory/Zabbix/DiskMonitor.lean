import EsdcFactory.Lib.Text
import Mathlib.Data.List.Dedup
import Mathlib.Data.List.Perm.Basic

/-!
# The monitor of bhyve disks

`vm-bhyve-disk-io-monitor` reads the lines of `bhiostat`, one for each disk that
was busy in an interval, and sends what they say to Zabbix at the tick that ends
the interval.  Disks that were idle are filled in with zeros.  The program is
written in awk, where the variables of the helper functions are global.
-/

namespace EsdcFactory
namespace Zabbix
namespace DiskMonitor

open Text

/-!
## Samples
-/

/-- What is measured of a disk. -/
inductive Item where
  | reads
  | writes
  | read
  | written
  deriving DecidableEq

def Item.name : Item -> String
  | .reads => "reads"
  | .writes => "writes"
  | .read => "read"
  | .written => "written"

/-- A line of the data for Zabbix. -/
structure Sample where
  uuid : String
  disk : String
  item : Item
  date : Nat
  value : String
  deriving DecidableEq

def Sample.text (sample : Sample) : List Char :=
  sample.uuid.toList ++ (" vm.disk.io[".toList ++ (sample.disk.toList ++ (','
    :: (sample.item.name.toList ++ ("] ".toList ++ ((toString sample.date).toList ++
      (' ' :: (sample.value.toList ++ ['\n']))))))))

/-- The data as it is put together in `zabbix_data`. -/
def dataText (samples : List Sample) : List Char :=
  samples.flatMap Sample.text

/-- The set of samples of an idle disk. -/
def zeros (uuid disk : String) (date : Nat) : List Sample :=
  [⟨uuid, disk, .reads, date, "0"⟩, ⟨uuid, disk, .writes, date, "0"⟩,
    ⟨uuid, disk, .read, date, "0"⟩, ⟨uuid, disk, .written, date, "0"⟩]

/-!
## Machines and lines
-/

/-- The UUID of a virtual machine, by which its zone is named. -/
structure Uuid where
  text : String
  noUnderscore : '_' ∉ text.toList
  noPercent : '%' ∉ text.toList

/-- A disk name that `grep -Eo 'disk[0-9]+'` finds. -/
def isDiskName (disk : String) : Bool :=
  "disk".toList.isPrefixOf disk.toList && (disk.toList.drop 4).all Char.isDigit

/-- A running bhyve machine with the disks of its zone configuration. -/
structure Zone where
  uuid : Uuid
  disks : List String
  names : forall disk, disk ∈ disks -> isDiskName disk = true

/--
A line of `bhiostat`, with the machine that the process belonged to when it was
traced.  At the time of the lookup, a command prints the machine of a process
from the process table, or nothing when the process is gone.
-/
structure Line where
  pid : String
  ior : String
  iow : String
  br : String
  bw : String
  disk : String
  owner : Uuid
  table : String -> Option String
  date : Nat

/-- `disk ~/^disk/` -/
def Line.isRecognized (line : Line) : Bool :=
  "disk".toList.isPrefixOf line.disk.toList

def Line.samples (line : Line) (uuid : String) : List Sample :=
  [⟨uuid, line.disk, .reads, line.date, line.ior⟩,
    ⟨uuid, line.disk, .writes, line.date, line.iow⟩,
    ⟨uuid, line.disk, .read, line.date, line.br⟩,
    ⟨uuid, line.disk, .written, line.date, line.bw⟩]

/-!
## The program
-/

/-- What was sent at a tick; nothing at all is sent for no samples. -/
structure Batch where
  samples : List Sample
  text : List Char

/-- The global variables, and the batches sent so far. -/
structure Monitor where
  uuid : String
  disk : String
  activeDisks : List String
  zabbixData : List Sample
  sent : List Batch

/-- The subscript of a disk in `active_disks`. -/
def subscript (uuid disk : String) : String :=
  uuid ++ "_" ++ disk

/-- The disks of all machines. -/
def zoneDisks (zones : List Zone) : List (String × String) :=
  zones.flatMap fun zone => zone.disks.map fun disk => (zone.uuid.text, disk)

/-- The subscripts that `update_active_disks` sets up. -/
def activeSubscripts (zones : List Zone) : List String :=
  ((zoneDisks zones).map fun (uuid, disk) => subscript uuid disk).dedup

/-- `update_active_disks`, which leaves the last name it read in `disk`. -/
def updateActiveDisks (zones : List Zone) (s : Monitor) : Monitor :=
  { s with
    activeDisks := activeSubscripts zones
    disk := ((zoneDisks zones).getLast?.map Prod.snd).getD s.disk }

/-- `pid_to_uuid`: without a line to read, `getline` leaves `uuid` as it was. -/
def pidToUuid (table : String -> Option String) (pid : String) (s : Monitor) :
    Monitor :=
  { s with uuid := (table pid).getD s.uuid }

/-- The branch for a line of `bhiostat`. -/
def readLine (line : Line) (s : Monitor) : Monitor :=
  let s := { s with disk := line.disk }
  if line.isRecognized then
    let s := pidToUuid line.table line.pid s
    { s with
      activeDisks := s.activeDisks.filter fun inst => inst ≠ subscript s.uuid s.disk
      zabbixData := s.zabbixData ++ line.samples s.uuid }
  else s

/-- The zeros for one remaining disk. -/
def fillZeros (date : String -> Nat) (s : Monitor) (inst : String) : Monitor :=
  let uuid := String.ofList (before '_' inst.toList)
  let disk := String.ofList (before '_' (after '_' inst.toList))
  { s with
    uuid := uuid
    disk := disk
    zabbixData := s.zabbixData ++ zeros uuid disk (date inst) }

/-- `printf` with a format and no arguments, which a conversion is fatal for. -/
def printf : List Char -> Option (List Char)
  | [] => some []
  | '%' :: '%' :: rest => (printf rest).map ('%' :: ·)
  | '%' :: _ => none
  | c :: rest => (printf rest).map (c :: ·)

/--
The branch for a tick.  The remaining disks are visited in an order of awk's own,
and dates are read for each of them.
-/
def tick (order : List String -> List String) (date : String -> Nat)
    (zones : List Zone) (s : Monitor) : Option Monitor :=
  let s := (order s.activeDisks).foldl (fillZeros date) s
  (printf (dataText s.zabbixData)).map fun text =>
    updateActiveDisks zones
      { s with
        sent := s.sent ++ [⟨s.zabbixData, text⟩]
        zabbixData := [] }

/-- What is read from `bhiostat`, and what else the program reads meanwhile. -/
inductive Event where
  | line (line : Line)
  | tick (date : String -> Nat) (zones : List Zone)

def step (order : List String -> List String) (s : Monitor) : Event -> Option Monitor
  | .line line => some (readLine line s)
  | .tick date zones => tick order date zones s

def run (order : List String -> List String) : Monitor -> List Event -> Option Monitor
  | s, [] => some s
  | s, event :: rest => (step order s event).bind fun s => run order s rest

/-- `BEGIN`, up to the first line. -/
def start (zones : List Zone) : Monitor :=
  updateActiveDisks zones ⟨"", "", [], [], []⟩

/-!
## What the monitor is for
-/

/-- The lines of an interval and the tick that ends it. -/
structure Interval where
  lines : List Line
  date : String -> Nat
  zones : List Zone

def Interval.events (interval : Interval) : List Event :=
  interval.lines.map Event.line ++ [.tick interval.date interval.zones]

def Line.isFor (line : Line) (uuid disk : String) : Bool :=
  line.owner.text = uuid && line.disk = disk

def due (interval : Interval) (uuid disk : String) : List Sample :=
  match interval.lines.find? fun line => line.isFor uuid disk with
  | some line => line.samples uuid
  | none => zeros uuid disk (interval.date (subscript uuid disk))

/--
A batch with nothing under a machine but samples of its own lines and zeros, and
with exactly one set of samples for each disk that was active at the start.
-/
structure IsGood (zones : List Zone) (interval : Interval) (batch : Batch) : Prop where
  attributed : forall sample, sample ∈ batch.samples ->
    (exists line, line ∈ interval.lines ∧ line.isRecognized = true ∧
      sample ∈ line.samples line.owner.text) ∨
    ((sample.uuid, sample.disk) ∈ zoneDisks zones ∧ sample.value = "0")
  complete : forall uuid disk, (uuid, disk) ∈ zoneDisks zones ->
    batch.samples.filter (fun sample => sample.uuid = uuid && sample.disk = disk) =
      due interval uuid disk
  text : batch.text = dataText batch.samples

/-- The batches of intervals, of which the first one starts with the given machines. -/
def AllGood : List Zone -> List Interval -> List Batch -> Prop
  | _, [], [] => True
  | zones, interval :: intervals, batch :: batches =>
      IsGood zones interval batch ∧ AllGood interval.zones intervals batches
  | _, _, _ => False

end DiskMonitor
end Zabbix
end EsdcFactory
