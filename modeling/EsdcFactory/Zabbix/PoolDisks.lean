import EsdcFactory.Lib.Ere
import EsdcFactory.Lib.JsonLayout
import EsdcFactory.Lib.Sed
import EsdcFactory.Lib.WordSearch
import Mathlib.Data.List.Nodup
import Mathlib.Data.List.Pairwise
import Mathlib.Data.List.TakeWhile

/-!
# The discovery of the disks of pools

`disk-discovery` lists the disks of each pool with the names that `iostat` has for
them.  The disks are looked for in the status of the pool, by the form of their names,
and are then given to `iostat` as arguments.
-/

namespace EsdcFactory
namespace Zabbix
namespace PoolDisks

/-!
## Pools and devices
-/

/-- A character of a word that neither the shell nor JSON takes for something else. -/
def isWordChar (c : Char) : Bool :=
  c.isAlphanum || ['_', '-', '.', ':'].contains c

/-- A disk, with the two names that `iostat` has for it. -/
structure Device where
  sd : List Char
  name : List Char
  sdWord : sd.all isWordChar = true
  nameWord : name.all isWordChar = true
deriving DecidableEq

/-- A pool; its name may hold blanks. -/
structure Pool where
  name : List Char
  status : List (List Char)
  disks : List (List Char)
  nameWords : name.all (fun c => isWordChar c || c = ' ') = true

/-- `{ print $1; }` -/
def firstField (line : List Char) : List Char :=
  (line.dropWhile fun c => c = ' ' || c = '\t').takeWhile fun c => !(c = ' ' || c = '\t')

/-- A machine, of which each pool has its own disks and names no others in its status. -/
structure Machine where
  devices : List Device
  pools : List Pool
  devicesNodup : (devices.map Device.name).Nodup
  poolsApart : pools.Pairwise fun p q => p.name ≠ q.name ∧ forall disk, disk ∈ p.disks ->
    disk ∉ q.disks
  listed : forall pool, pool ∈ pools -> forall line, line ∈ pool.status ->
    forall device, device ∈ devices -> device.name = firstField line -> device.name ∈ pool.disks

/-- The disks that `iostat` reports for some arguments, in an order of its own. -/
structure Iostat (devices : List Device) where
  report : List (List Char) -> List Device
  report_all : (report []).Perm devices
  report_given : forall disks, disks ≠ [] ->
    (report disks).Perm (devices.filter fun device => disks.contains device.name)

/-!
## The script
-/

/-- The words of `$(zpool list -Ho name)` -/
def poolWords (machine : Machine) : List (List Char) :=
  machine.pools.flatMap fun pool => (pool.name.splitOn ' ').filter (· ≠ [])

/-- `zpool status`, which prints nothing for a word that is no pool -/
def zpoolStatus (machine : Machine) (word : List Char) : List (List Char) :=
  ((machine.pools.find? fun pool => pool.name = word).map Pool.status).getD []

/-- `awk '/c[0-9]+t[0-9a-zA-Z]+d0/ \x7b print $1; \x7d'` -/
def disksOf (machine : Machine) (word : List Char) : List (List Char) :=
  ((zpoolStatus machine word).filter fun line =>
    Ere.isMatch (String.ofList line) "c[0-9]+t[0-9a-zA-Z]+d0").map firstField

/-- What is printed of a disk. -/
structure Entry where
  sd : List Char
  disk : List Char
  zpool : List Char
deriving DecidableEq

/-- A line of `paste -d';'` -/
def pasted (device : Device) : List Char :=
  device.sd ++ ';' :: device.name

/-- A round of the inner loop, with its two calls of `cut`. -/
def entryOf (pool line : List Char) : Entry where
  sd := line.takeWhile (· ≠ ';')
  disk := ((line.dropWhile (· ≠ ';')).drop 1).takeWhile (· ≠ ';')
  zpool := pool

/-- The loop over the pools. -/
def entries (machine : Machine) (iostat : Iostat machine.devices) : List Entry :=
  (poolWords machine).flatMap fun pool =>
    ((iostat.report (disksOf machine pool)).map pasted).map (entryOf pool)

/-- The lines that are printed for a disk. -/
def entryLines (entry : Entry) : List (List Char) :=
  ["\t\t\x7b \"\x7b#SD\x7d\": \"".toList ++ entry.sd ++ "\",".toList,
    "\t\t  \"\x7b#DISK\x7d\": \"".toList ++ entry.disk ++ "\",".toList,
    "\t\t  \"\x7b#ZPOOL\x7d\": \"".toList ++ entry.zpool ++ "\"".toList,
    "\t\t\x7d,".toList]

/-- `sed '$ s/\x7d,/\x7d/'` -/
def sedLast : List (List Char) -> List (List Char)
  | [] => []
  | [line] => [Sed.replaceFirst "\x7d,".toList "\x7d".toList line]
  | line :: lines => line :: sedLast lines

/-- What `echo` prints for each line. -/
def unlines (lines : List (List Char)) : List Char :=
  lines.flatMap fun line => line ++ ['\n']

/-- What the script prints. -/
def diskDiscovery (machine : Machine) (iostat : Iostat machine.devices) : List Char :=
  unlines ("\x7b\n\t\"data\": [".toList ::
    (sedLast ((entries machine iostat).flatMap entryLines) ++ ["\t]\n\x7d".toList]))

/-!
## What is asked of it
-/

def Entry.json (entry : Entry) : Json :=
  .obj [("\x7b#SD\x7d".toList, .str entry.sd), ("\x7b#DISK\x7d".toList, .str entry.disk),
    ("\x7b#ZPOOL\x7d".toList, .str entry.zpool)]

/-- The disk belongs to the pool that is named with it. -/
def Belongs (machine : Machine) (disk zpool : List Char) : Prop :=
  exists pool, pool ∈ machine.pools ∧ pool.name = zpool ∧ disk ∈ pool.disks

/-- The text is JSON, in which disks stand with their pools and none stands twice. -/
def IsExact (machine : Machine) (text : List Char) : Prop :=
  exists found : List Entry,
    Json.read text = some (.obj [("data".toList, .arr (found.map Entry.json))]) ∧
      (forall entry, entry ∈ found -> Belongs machine entry.disk entry.zpool) ∧
      (found.map Entry.disk).Nodup

/--
Where no disk is found in the status, the pool has all disks there are; and of a word
that comes twice in the names of the pools no disk is found.
-/
structure FindsDisks (machine : Machine) : Prop where
  all : forall word, word ∈ poolWords machine -> disksOf machine word = [] ->
    forall device, device ∈ machine.devices -> Belongs machine device.name word
  once : (poolWords machine).Pairwise fun v w => v = w -> forall device,
    device ∈ machine.devices -> disksOf machine v ≠ [] ∧ device.name ∉ disksOf machine v

/-!
## The text
-/

theorem ne_of_isWordChar {c x : Char} (h : isWordChar c = true) (hx : isWordChar x = false) :
    c ≠ x := by
  intro heq
  rw [heq, hx] at h
  cases h

theorem toNat_of_isWordChar {c : Char} (h : isWordChar c = true) : 0x20 ≤ c.toNat := by
  simp only [isWordChar, Bool.or_eq_true, List.contains_iff_mem] at h
  rcases h with halnum | hmark
  · exact Nat.le_trans (by decide) (Escapes.le_toNat_of_isAlphanum halnum)
  · revert c
    decide

theorem isLiteral_of_isWordChar {c : Char} (h : isWordChar c = true) :
    Json.isLiteral c = true := by
  have hcontrol : Json.isControl c = false := by
    have hlow := toNat_of_isWordChar h
    simp only [Json.isControl, decide_eq_false_iff_not]
    omega
  have hquote : c ≠ '"' := ne_of_isWordChar h rfl
  have hback : c ≠ '\\' := ne_of_isWordChar h rfl
  simp [Json.isLiteral, hcontrol, hquote, hback]

/-- An entry of words. -/
structure Entry.IsPlain (entry : Entry) : Prop where
  sd : forall c, c ∈ entry.sd -> isWordChar c = true
  disk : forall c, c ∈ entry.disk -> isWordChar c = true
  zpool : forall c, c ∈ entry.zpool -> isWordChar c = true

abbrev PlainEntry := { entry : Entry // entry.IsPlain }

/-- A word between quotes. -/
def quoted (word : List Char) (h : forall c, c ∈ word -> isWordChar c = true) : Json.Printed :=
  .string word word fun rest =>
    Json.readString_literal rest fun c hc => isLiteral_of_isWordChar (h c hc)

def memberGap : Json.Break where
  blanks := "\t\t  ".toList
  isBlank := by decide

def entryGap : Json.Break where
  blanks := ['\t', '\t']
  isBlank := by decide

def tabGap : Json.Break where
  blanks := ['\t']
  isBlank := by decide

theorem literal_keys :
    forall key, key ∈ ["\x7b#SD\x7d", "\x7b#DISK\x7d", "\x7b#ZPOOL\x7d", "data"] ->
      forall c, c ∈ key.toList -> Json.isLiteral c = true := by
  decide

/-- The layout of an entry. -/
def printedEntry (entry : PlainEntry) : Json.Printed :=
  .spaced entryGap "\x7b#SD\x7d".toList (quoted entry.val.sd entry.property.sd)
    (literal_keys _ (by decide))
    [⟨memberGap, "\x7b#DISK\x7d".toList, quoted entry.val.disk entry.property.disk,
        literal_keys _ (by decide)⟩,
      ⟨memberGap, "\x7b#ZPOOL\x7d".toList, quoted entry.val.zpool entry.property.zpool,
        literal_keys _ (by decide)⟩]

def printedItem (entry : PlainEntry) : Json.Item where
  gap := entryGap
  item := printedEntry entry

/-- The layout of the entries. -/
def printedEntries : List PlainEntry -> Json.Printed
  | [] => .noItems tabGap
  | entry :: entries => .array tabGap (printedItem entry) (entries.map printedItem)

/-- The layout of what is printed. -/
def document (entries : List PlainEntry) : Json.Printed :=
  .object Json.lineEnd
    ⟨tabGap, "data".toList, printedEntries entries, literal_keys _ (by decide)⟩ []

theorem printedEntries_value (entries : List PlainEntry) :
    (printedEntries entries).value = .arr ((entries.map Subtype.val).map Entry.json) := by
  cases entries with
  | nil => rfl
  | cons entry entries =>
      simp only [printedEntries, Json.Printed.array, List.map_cons, List.map_map]
      rfl

theorem document_value (entries : List PlainEntry) :
    (document entries).value =
      .obj [("data".toList, .arr ((entries.map Subtype.val).map Entry.json))] := by
  rw [← printedEntries_value]
  rfl

theorem unlines_append (xs ys : List (List Char)) :
    unlines (xs ++ ys) = unlines xs ++ unlines ys :=
  List.flatMap_append

theorem unlines_entryLines (entry : PlainEntry) :
    unlines (entryLines entry.val) =
      entryGap.blanks ++ (printedEntry entry).text ++ [',', '\n'] := by
  simp [unlines, entryLines, printedEntry, Json.Printed.spaced, Json.entriesText, quoted,
    Json.Printed.string, Json.Entry.text, Json.Break.text, Json.lineEnd, memberGap, entryGap]

theorem sedLast_append (xs : List (List Char)) {ys : List (List Char)} (h : ys ≠ []) :
    sedLast (xs ++ ys) = xs ++ sedLast ys := by
  induction xs with
  | nil => rfl
  | cons x xs ih =>
      rw [List.cons_append, List.cons_append, ← ih, sedLast]
      intro heq
      exact h (List.append_eq_nil_iff.mp heq).right

/-- The comma that is taken away is the one behind the last entry. -/
theorem unlines_sedLast_entryLines (entry : PlainEntry) :
    unlines (sedLast (entryLines entry.val)) =
      entryGap.blanks ++ (printedEntry entry).text ++ ['\n'] := by
  have hlast : Sed.replaceFirst ['\x7d', ','] ['\x7d'] ['\t', '\t', '\x7d', ','] =
      ['\t', '\t', '\x7d'] := rfl
  simp [sedLast, hlast, unlines, entryLines, printedEntry, Json.Printed.spaced,
    Json.entriesText, quoted, Json.Printed.string, Json.Entry.text, Json.Break.text,
    Json.lineEnd, memberGap, entryGap]

theorem printed_entries (entry : PlainEntry) (entries : List PlainEntry) :
    '\n' :: unlines (sedLast (((entry :: entries).map Subtype.val).flatMap entryLines)) ++
        ['\t', ']'] =
      Json.itemsText tabGap (printedItem entry) (entries.map printedItem) := by
  induction entries generalizing entry with
  | nil =>
      simp only [List.map_cons, List.map_nil, List.flatMap_cons, List.flatMap_nil,
        List.append_nil, unlines_sedLast_entryLines, Json.itemsText]
      simp [Json.Item.text, printedItem, Json.Break.text, tabGap]
  | cons next entries ih =>
      have hne : ((next :: entries).map Subtype.val).flatMap entryLines ≠ [] :=
        List.append_ne_nil_of_left_ne_nil (List.cons_ne_nil _ _) _
      rw [List.map_cons, List.flatMap_cons, sedLast_append _ hne, unlines_append,
        unlines_entryLines, List.map_cons (f := printedItem), Json.itemsText, ← ih next]
      simp [Json.Item.text, printedItem, Json.Break.text]

theorem printed_document (entries : List PlainEntry) :
    unlines ("\x7b\n\t\"data\": [".toList ::
        (sedLast ((entries.map Subtype.val).flatMap entryLines) ++ ["\t]\n\x7d".toList])) =
      (document entries).text ++ ['\n'] := by
  cases entries with
  | nil => decide
  | cons entry entries =>
      have htext := printed_entries entry entries
      simp only [document, Json.Printed.object, Json.entriesText, Json.Entry.text,
        printedEntries, Json.Printed.array, ← htext]
      simp [unlines, Json.Break.text, tabGap, Json.lineEnd]

theorem Entry.json_injective : Function.Injective Entry.json := by
  intro x y h
  cases x
  cases y
  simp only [Entry.json, Json.obj.injEq, List.cons.injEq, Prod.mk.injEq, Json.str.injEq,
    true_and, and_true] at h
  rw [h.left, h.right.left, h.right.right]

/-!
## The entries
-/

theorem isWordChar_of_mem_poolWords {machine : Machine} {word : List Char}
    (h : word ∈ poolWords machine) : forall c, c ∈ word -> isWordChar c = true := by
  rcases List.mem_flatMap.mp h with ⟨pool, _, hword⟩
  rcases WordSearch.of_mem_splitOn (List.mem_filter.mp hword).left with ⟨hblank, hsubset⟩
  intro c hc
  have hname := List.all_eq_true.mp pool.nameWords c (hsubset hc)
  have hne : c ≠ ' ' := fun heq => hblank (heq ▸ hc)
  simpa [hne] using hname

theorem entryOf_pasted (pool : List Char) (device : Device) :
    entryOf pool (pasted device) = ⟨device.sd, device.name, pool⟩ := by
  have hsd : forall c, c ∈ device.sd -> decide (c ≠ ';') = true := fun c hc =>
    decide_eq_true (ne_of_isWordChar (List.all_eq_true.mp device.sdWord c hc) rfl)
  have hname : forall c, c ∈ device.name -> decide (c ≠ ';') = true := fun c hc =>
    decide_eq_true (ne_of_isWordChar (List.all_eq_true.mp device.nameWord c hc) rfl)
  rw [entryOf, pasted, List.takeWhile_append_of_pos hsd, List.dropWhile_append_of_pos hsd,
    List.takeWhile_cons_of_neg (by decide), List.dropWhile_cons_of_neg (by decide),
    List.drop_one, List.tail_cons, List.takeWhile_eq_self_iff.mpr hname, List.append_nil]

/-- What a round of the outer loop adds. -/
def poolEntries (machine : Machine) (iostat : Iostat machine.devices) (word : List Char) :
    List Entry :=
  (iostat.report (disksOf machine word)).map fun device => ⟨device.sd, device.name, word⟩

theorem entries_eq (machine : Machine) (iostat : Iostat machine.devices) :
    entries machine iostat = (poolWords machine).flatMap (poolEntries machine iostat) := by
  simp only [entries, List.map_map]
  congr
  funext word
  apply List.map_congr_left
  intro device _
  exact entryOf_pasted word device

theorem isPlain_of_mem_entries {machine : Machine} {iostat : Iostat machine.devices}
    {entry : Entry} (h : entry ∈ entries machine iostat) : entry.IsPlain := by
  rw [entries_eq] at h
  rcases List.mem_flatMap.mp h with ⟨word, hword, hentry⟩
  rcases List.mem_map.mp hentry with ⟨device, _, rfl⟩
  exact ⟨List.all_eq_true.mp device.sdWord, List.all_eq_true.mp device.nameWord,
    isWordChar_of_mem_poolWords hword⟩

/-- What is printed is JSON with the entries in it. -/
theorem read_diskDiscovery (machine : Machine) (iostat : Iostat machine.devices) :
    Json.read (diskDiscovery machine iostat) =
      some (.obj [("data".toList, .arr ((entries machine iostat).map Entry.json))]) := by
  have hplain : forall entry, entry ∈ entries machine iostat -> entry.IsPlain :=
    fun _ => isPlain_of_mem_entries
  have hprinted := printed_document ((entries machine iostat).attachWith _ hplain)
  have hread := (document ((entries machine iostat).attachWith _ hplain)).read
  rw [document_value, ← hprinted, List.attachWith_map_subtype_val] at hread
  exact hread

theorem isExact_iff (machine : Machine) (iostat : Iostat machine.devices) :
    IsExact machine (diskDiscovery machine iostat) <->
      (forall entry, entry ∈ entries machine iostat ->
        Belongs machine entry.disk entry.zpool) ∧
        ((entries machine iostat).map Entry.disk).Nodup := by
  constructor
  · intro h
    rcases h with ⟨found, hread, hfound⟩
    rw [read_diskDiscovery] at hread
    injection hread with hjson
    injection hjson with hmembers
    injection hmembers with hmember
    injection hmember with _ hitems
    injection hitems with hlist
    have heq := List.map_injective_iff.mpr Entry.json_injective hlist
    rw [heq]
    exact hfound
  · intro h
    exact ⟨entries machine iostat, read_diskDiscovery machine iostat, h⟩

theorem mem_poolEntries {machine : Machine} {iostat : Iostat machine.devices}
    {word : List Char} {entry : Entry} :
    entry ∈ poolEntries machine iostat word <->
      exists device, device ∈ iostat.report (disksOf machine word) ∧
        ⟨device.sd, device.name, word⟩ = entry :=
  List.mem_map

theorem mem_report {devices : List Device} {iostat : Iostat devices} {disks : List (List Char)}
    {device : Device} :
    device ∈ iostat.report disks <->
      device ∈ devices ∧ (disks = [] ∨ device.name ∈ disks) := by
  by_cases hempty : disks = []
  · subst hempty
    rw [iostat.report_all.mem_iff]
    simp
  · rw [(iostat.report_given disks hempty).mem_iff, List.mem_filter, List.contains_iff_mem]
    simp [hempty]

/-- A disk that is found in the status of a pool is a disk of the pool. -/
theorem belongs_of_mem_disksOf {machine : Machine} {word : List Char} {device : Device}
    (hdevice : device ∈ machine.devices) (h : device.name ∈ disksOf machine word) :
    Belongs machine device.name word := by
  rcases List.mem_map.mp h with ⟨line, hline, hname⟩
  have hstatus := (List.mem_filter.mp hline).left
  rw [zpoolStatus] at hstatus
  cases hfind : machine.pools.find? fun pool => pool.name = word with
  | none =>
      rw [hfind] at hstatus
      cases hstatus
  | some pool =>
      rw [hfind] at hstatus
      have hpool := List.mem_of_find?_eq_some hfind
      have hword : pool.name = word := by simpa using List.find?_some hfind
      exact ⟨pool, hpool, hword,
        machine.listed pool hpool line hstatus device hdevice hname.symm⟩

theorem belongs_iff (machine : Machine) (iostat : Iostat machine.devices) :
    (forall entry, entry ∈ entries machine iostat ->
      Belongs machine entry.disk entry.zpool) <->
      forall word, word ∈ poolWords machine -> disksOf machine word = [] ->
        forall device, device ∈ machine.devices -> Belongs machine device.name word := by
  rw [entries_eq]
  constructor
  · intro h word hword hempty device hdevice
    apply h ⟨device.sd, device.name, word⟩
    apply List.mem_flatMap.mpr
    exact ⟨word, hword, mem_poolEntries.mpr
      ⟨device, mem_report.mpr ⟨hdevice, Or.inl hempty⟩, rfl⟩⟩
  · intro h entry hentry
    rcases List.mem_flatMap.mp hentry with ⟨word, hword, hmem⟩
    rcases mem_poolEntries.mp hmem with ⟨device, hreport, rfl⟩
    rcases mem_report.mp hreport with ⟨hdevice, hempty | hdisk⟩
    · exact h word hword hempty device hdevice
    · exact belongs_of_mem_disksOf hdevice hdisk

theorem nodup_poolEntries (machine : Machine) (iostat : Iostat machine.devices)
    (word : List Char) : ((poolEntries machine iostat word).map Entry.disk).Nodup := by
  have hnames : ((iostat.report (disksOf machine word)).map Device.name).Nodup := by
    by_cases hempty : disksOf machine word = []
    · rw [hempty]
      exact (iostat.report_all.map _).nodup_iff.mpr machine.devicesNodup
    · apply ((iostat.report_given _ hempty).map _).nodup_iff.mpr
      exact machine.devicesNodup.sublist ((List.filter_sublist).map _)
  rw [poolEntries, List.map_map]
  exact hnames

/-- Pools of different names have different disks. -/
theorem name_unique {machine : Machine} {disk v w : List Char} (hv : Belongs machine disk v)
    (hw : Belongs machine disk w) : v = w := by
  rcases hv with ⟨p, hp, rfl, hpdisk⟩
  rcases hw with ⟨q, hq, rfl, hqdisk⟩
  by_contra hne
  have hpq : p ≠ q := fun heq => hne (congrArg Pool.name heq)
  have hsymm : Std.Symm fun p q : Pool => p.name ≠ q.name ∧
      forall disk, disk ∈ p.disks -> disk ∉ q.disks := by
    constructor
    intro p q h
    exact ⟨h.left.symm, fun disk hq hp => h.right disk hp hq⟩
  exact (machine.poolsApart.forall hp hq hpq).right disk hpdisk hqdisk

theorem mem_disks {machine : Machine} {iostat : Iostat machine.devices}
    {word disk : List Char} :
    disk ∈ (poolEntries machine iostat word).map Entry.disk <->
      exists device, device ∈ machine.devices ∧
        (disksOf machine word = [] ∨ device.name ∈ disksOf machine word) ∧
          device.name = disk := by
  simp only [poolEntries, List.map_map, List.mem_map, mem_report, Function.comp, and_assoc]

theorem disjoint_disks_iff {machine : Machine} {iostat : Iostat machine.devices}
    {v w : List Char}
    (hv : forall disk, disk ∈ (poolEntries machine iostat v).map Entry.disk ->
      Belongs machine disk v)
    (hw : forall disk, disk ∈ (poolEntries machine iostat w).map Entry.disk ->
      Belongs machine disk w) :
    List.Disjoint ((poolEntries machine iostat v).map Entry.disk)
        ((poolEntries machine iostat w).map Entry.disk) <->
      (v = w -> forall device, device ∈ machine.devices ->
        disksOf machine v ≠ [] ∧ device.name ∉ disksOf machine v) := by
  constructor
  · intro h heq device hdevice
    subst heq
    have hnot : device.name ∉ (poolEntries machine iostat v).map Entry.disk :=
      fun hmem => h hmem hmem
    constructor
    · intro hempty
      exact hnot (mem_disks.mpr ⟨device, hdevice, Or.inl hempty, rfl⟩)
    · intro hdisk
      exact hnot (mem_disks.mpr ⟨device, hdevice, Or.inr hdisk, rfl⟩)
  · intro h disk hdiskv hdiskw
    have heq := name_unique (hv disk hdiskv) (hw disk hdiskw)
    rcases mem_disks.mp hdiskv with ⟨device, hdevice, hempty | hdisk, _⟩
    · exact (h heq device hdevice).left hempty
    · exact (h heq device hdevice).right hdisk

theorem nodup_iff {machine : Machine} {iostat : Iostat machine.devices}
    (h : forall entry, entry ∈ entries machine iostat ->
      Belongs machine entry.disk entry.zpool) :
    ((entries machine iostat).map Entry.disk).Nodup <->
      (poolWords machine).Pairwise fun v w => v = w -> forall device,
        device ∈ machine.devices -> disksOf machine v ≠ [] ∧
          device.name ∉ disksOf machine v := by
  have hbelongs : forall word, word ∈ poolWords machine -> forall disk,
      disk ∈ (poolEntries machine iostat word).map Entry.disk -> Belongs machine disk word := by
    intro word hword disk hdisk
    rcases List.mem_map.mp hdisk with ⟨entry, hentry, rfl⟩
    have hmem := List.mem_flatMap.mpr ⟨word, hword, hentry⟩
    rw [← entries_eq] at hmem
    rcases mem_poolEntries.mp hentry with ⟨device, _, rfl⟩
    exact h _ hmem
  rw [entries_eq, List.map_flatMap, List.nodup_flatMap,
    and_iff_right fun word _ => nodup_poolEntries machine iostat word]
  apply List.Pairwise.iff_of_mem
  intro v w hv hw
  exact disjoint_disks_iff (hbelongs v hv) (hbelongs w hw)

/-!
## The discovery
-/

/-- When the discovery lists the disks of the pools, and each one once. -/
theorem diskDiscovery_isExact_iff (machine : Machine) (iostat : Iostat machine.devices) :
    IsExact machine (diskDiscovery machine iostat) <-> FindsDisks machine := by
  rw [isExact_iff]
  constructor
  · intro h
    exact ⟨(belongs_iff machine iostat).mp h.left, (nodup_iff h.left).mp h.right⟩
  · intro h
    have hbelongs := (belongs_iff machine iostat).mpr h.all
    exact ⟨hbelongs, (nodup_iff hbelongs).mpr h.once⟩

/-- An `iostat` that keeps the order of the devices. -/
def Iostat.inOrder (devices : List Device) : Iostat devices where
  report disks :=
    if disks = [] then devices else devices.filter fun device => disks.contains device.name
  report_all := by rw [if_pos rfl]
  report_given disks h := by rw [if_neg h]

/-- Two pools, the second of which is on a disk without a target in its name. -/
def ideMachine : Machine where
  devices := [⟨"sd0".toList, "c0t0d0".toList, by decide, by decide⟩,
    ⟨"cmdk0".toList, "c1d0".toList, by decide, by decide⟩]
  pools := [⟨"a".toList, ["\t  c0t0d0  ONLINE".toList], ["c0t0d0".toList], by decide⟩,
    ⟨"b".toList, ["\t  c1d0  ONLINE".toList], ["c1d0".toList], by decide⟩]
  devicesNodup := by decide
  poolsApart := by decide
  listed := by decide +kernel

/-- The disk of the first pool is shown once more, as a disk of the second. -/
theorem other_disks_are_shown :
    ¬ IsExact ideMachine (diskDiscovery ideMachine (Iostat.inOrder ideMachine.devices)) := by
  intro h
  have hbelongs := (isExact_iff ideMachine _).mp h
  have hall := (belongs_iff ideMachine _).mp hbelongs.left
  have hnone : disksOf ideMachine "b".toList = [] := by decide +kernel
  have hfirst := hall "b".toList (by decide +kernel) hnone
    ⟨"sd0".toList, "c0t0d0".toList, by decide, by decide⟩ (by decide)
  rcases hfirst with ⟨pool, hpool, hname, hdisk⟩
  revert hdisk
  revert hname
  revert pool
  decide

end PoolDisks
end Zabbix
end EsdcFactory
