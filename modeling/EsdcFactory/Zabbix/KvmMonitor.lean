import EsdcFactory.Lib.BashArith
import EsdcFactory.Lib.Batches
import EsdcFactory.Lib.Words
import EsdcFactory.Zabbix.KvmReplies

/-!
# The monitor of KVM disks

`vm-kvm-disk-io-monitor` reads the lines of `kvmiostat` and sends what they say to
Zabbix whenever a new header tells it that a poll has begun.  What `kvmiostat` prints
reaches it at any time up to some line.
-/

namespace EsdcFactory
namespace Zabbix
namespace KvmMonitor

open BashArith Batches KvmIostat Words

/-!
## What kvmiostat prints
-/

/-- The monitor runs `kvmiostat -r -b 10`. -/
def kvmiostatCmd : Options := ⟨none, none, false, false, .byte⟩

/-- `$HEADER_FMT` with what it is filled in with -/
def header : List Char := "zone,device,r/s,w/s,br/s,bw/s\n".toList

/-- `%.1f` of a rate -/
abbrev OneDecimal := Rat -> List Char

def value (oneDecimal : OneDecimal) (row : Row) (field : Field) : List Char :=
  oneDecimal (rate kvmiostatCmd row.data row.old field)

/-- `$DATA_FMT` -/
def rowText (oneDecimal : OneDecimal) (row : Row) : List Char :=
  row.zone.toList ++ ',' :: ((diskName row.disk).toList ++ ',' ::
    (value oneDecimal row .rdOperations ++ ',' :: (value oneDecimal row .wrOperations ++ ',' ::
      (value oneDecimal row .rdBytes ++ ',' :: (value oneDecimal row .wrBytes ++ ['\n'])))))

/-- The state of `kvmiostat` with the lines that it has printed. -/
structure Printed where
  state : State
  lines : List (List Char)

def Printed.initial : Printed := ⟨.initial, []⟩

/-- A poll prints its header, since `$rows_printed` is always zero, and then its rows. -/
def printPoll (perl : Perl) (oneDecimal : OneDecimal) (poll : List Zone × Nat) (p : Printed) :
    Outcome Printed :=
  (visitPoll perl kvmiostatCmd poll p.state).map fun s =>
    { state := s
      lines := p.lines ++
        header :: (s.rows.drop p.state.rows.length).map (rowText oneDecimal) }

def printPolls (perl : Perl) (oneDecimal : OneDecimal) (polls : List (List Zone)) :
    Outcome Printed :=
  Outcome.each (printPoll perl oneDecimal) polls.zipIdx .initial

/-!
## What the monitor does
-/

/-- A line with the time at which it is read. -/
structure Read where
  line : List Char
  date : Nat

structure Monitor where
  data : Option (List Char)
  sent : List (List Char)

/-- `/^zone,device/` -/
def isHeader (line : List Char) : Bool :=
  "zone,device".toList.isPrefixOf line

/-- `$parsed[n]`, where what is undefined is put in as nothing -/
def parsed (line : List Char) (n : Nat) : List Char :=
  (splitFields ',' line)[n]?.getD []

def item (zone device : List Char) (name : String) (date : Nat) (text : List Char) : List Char :=
  zone ++ (" vm.disk.io[".toList ++ (device ++ (',' :: (name.toList ++ ("] ".toList ++
    ((toString date).toList ++ ' ' :: text))))))

/-- What is added to the data for a line; its last field brings the end of the line along. -/
def items (date : Nat) (line : List Char) : List Char :=
  item (parsed line 0) (parsed line 1) "reads" date (parsed line 2 ++ ['\n']) ++
    item (parsed line 0) (parsed line 1) "writes" date (parsed line 3 ++ ['\n']) ++
    item (parsed line 0) (parsed line 1) "read" date (parsed line 4 ++ ['\n']) ++
    item (parsed line 0) (parsed line 1) "written" date (parsed line 5)

def readLine (m : Monitor) (read : Read) : Monitor :=
  if isHeader read.line then
    match m.data with
    | none => m
    | some data => ⟨none, m.sent ++ [data]⟩
  else { m with data := some (m.data.getD [] ++ items read.date read.line) }

def monitor (reads : List Read) : Monitor :=
  reads.foldl readLine ⟨none, []⟩

/-!
## What Zabbix is told
-/

/-- The lines of a batch as `zabbix_sender` takes them, word by word. -/
def received (data : List Char) : List (List (List Char)) :=
  (splitFields '\n' data).map (words (· = ' '))

def key (row : Row) (name : String) : List Char :=
  "vm.disk.io[".toList ++ ((diskName row.disk).toList ++ (',' :: (name.toList ++ [']'])))

/-- What a row tells of its disk: the machine, the item, the time and the value. -/
def told (oneDecimal : OneDecimal) (x : Row × Nat) : List (List (List Char)) :=
  [[x.1.zone.toList, key x.1 "reads", (toString x.2).toList, value oneDecimal x.1 .rdOperations],
    [x.1.zone.toList, key x.1 "writes", (toString x.2).toList,
      value oneDecimal x.1 .wrOperations],
    [x.1.zone.toList, key x.1 "read", (toString x.2).toList, value oneDecimal x.1 .rdBytes],
    [x.1.zone.toList, key x.1 "written", (toString x.2).toList, value oneDecimal x.1 .wrBytes]]

/-- A text that `%.1f` makes of a number. -/
structure IsDecimal (text : List Char) : Prop where
  ne_nil : text ≠ []
  plain : forall c, c ∈ text -> c.isDigit = true ∨ c = '-' ∨ c = '.'

/-- A name that a zone can have. -/
structure IsZoneName (name : List Char) : Prop where
  ne_nil : name ≠ []
  plain : forall c, c ∈ name -> c ≠ ',' ∧ c ≠ ' ' ∧ c ≠ '\n'

def rowsOf (rows : List Row) (poll : Nat) : List Row :=
  rows.filter fun row => row.poll = poll

def headersRead (reads : List Read) : Nat :=
  reads.countP fun read => isHeader read.line

/--
The batches are the rows of the polls behind which a header has been read, one batch for
each poll that has rows; every row of a poll tells of its machine what the machine
replied in that poll.
-/
structure Sends (perl : Perl) (oneDecimal : OneDecimal) (polls : List (List Zone))
    (rows : List Row) (reads : List Read) : Prop where
  batches : exists batches : List (List (Row × Nat)),
    (monitor reads).sent.map received =
      batches.map (fun batch => batch.flatMap (told oneDecimal)) ∧
    batches.map (List.map Prod.fst) =
      nonempty ((List.range (headersRead reads - 1)).map (rowsOf rows)) ∧
    forall batch, batch ∈ batches -> forall x, x ∈ batch ->
      ⟨rowText oneDecimal x.1, x.2⟩ ∈ reads
  own : RowsAre (IsOwn perl polls) { State.initial with rows := rows }

/-!
## Rows in the order of the polls
-/

/-- Some rows of a poll have been added. -/
def Grown (poll : Nat) (s s' : State) : Prop :=
  exists new, s'.rows = s.rows ++ new ∧ forall row, row ∈ new -> row.poll = poll

theorem Grown.refl (poll : Nat) (s : State) : Grown poll s s :=
  ⟨[], (List.append_nil _).symm, nofun⟩

theorem Grown.trans {poll : Nat} {s s' s'' : State} (h : Grown poll s s')
    (h' : Grown poll s' s'') : Grown poll s s'' := by
  rcases h with ⟨new, hrows, hpoll⟩
  rcases h' with ⟨new', hrows', hpoll'⟩
  refine ⟨new ++ new', by rw [hrows', hrows, List.append_assoc], ?_⟩
  intro row hrow
  rcases List.mem_append.mp hrow with hrow | hrow
  · exact hpoll row hrow
  · exact hpoll' row hrow

theorem grown_each {poll : Nat} {visit : alpha -> State -> Outcome State} {xs : List alpha}
    (h : forall x s, (visit x s).All (Grown poll s)) (s : State) :
    (Outcome.each visit xs s).All (Grown poll s) := by
  apply Outcome.All.each _ (Grown.refl poll s)
  intro x _ s' hs' s'' hleft
  exact hs'.trans (h x s' s'' hleft)

theorem grown_visitDisk {opts : Options} {poll : Nat} {uuid : String} {clock : Nat}
    {counters : Nat -> Option Counters} (di : Nat) (s : State) :
    (visitDisk opts poll uuid clock counters di s).All (Grown poll s) := by
  rw [visitDisk]
  split
  · exact Outcome.all_done.mpr (Grown.refl poll s)
  · split
    · exact Outcome.all_aborted.mpr (Grown.refl poll s)
    · dsimp only
      rw [printStats]
      split
      · exact Outcome.all_aborted.mpr (Grown.refl poll s)
      · split
        · exact Outcome.all_done.mpr (Grown.refl poll s)
        · refine Outcome.all_done.mpr ⟨[_], rfl, ?_⟩
          intro row hrow
          rw [List.mem_singleton.mp hrow]

theorem grown_showDisks {perl : Perl} {opts : Options} {poll : Nat} {zone : Zone} (s : State) :
    (showDisks perl opts poll zone s).All (Grown poll s) := by
  rw [showDisks]
  split
  · exact Outcome.all_aborted.mpr (Grown.refl poll s)
  · exact grown_each grown_visitDisk s

theorem grown_visitPoll {perl : Perl} {opts : Options} (poll : List Zone × Nat) (s : State) :
    (visitPoll perl opts poll s).All (Grown poll.2 s) := by
  apply grown_each
  intro zone s
  rw [visitZone]
  split
  · exact Outcome.all_aborted.mpr (Grown.refl _ s)
  · split
    · next line _ =>
        exact grown_showDisks { s with jsonData := some line }
    · split
      · exact grown_showDisks s
      · exact Outcome.all_aborted.mpr (Grown.refl _ s)

/-- A line that is printed: a header, or a row. -/
def lineText (oneDecimal : OneDecimal) : Option Row -> List Char
  | none => header
  | some row => rowText oneDecimal row

def pollsOf (rows : List Row) (begun : Nat) : List (List Row) :=
  (List.range begun).map (rowsOf rows)

/-- What is printed are the polls that have begun, one after the other. -/
structure InOrder (oneDecimal : OneDecimal) (begun : Nat) (p : Printed) : Prop where
  polls : forall row, row ∈ p.state.rows -> row.poll < begun
  lines : p.lines = (framed (pollsOf p.state.rows begun)).map (lineText oneDecimal)

variable {perl : Perl} {oneDecimal : OneDecimal}

theorem pollsOf_append {rows new : List Row} {begun : Nat}
    (h : forall row, row ∈ new -> row.poll = begun) :
    pollsOf (rows ++ new) begun = pollsOf rows begun := by
  apply List.map_congr_left
  intro poll hpoll
  have hnone : new.filter (fun row => row.poll = poll) = [] := by
    apply List.filter_eq_nil_iff.mpr
    intro row hrow hsame
    rw [decide_eq_true_eq, h row hrow] at hsame
    exact absurd (List.mem_range.mp hpoll) (hsame ▸ Nat.lt_irrefl _)
  rw [rowsOf, List.filter_append, hnone, List.append_nil, rowsOf]

theorem rowsOf_append {rows new : List Row} {begun : Nat}
    (hrows : forall row, row ∈ rows -> row.poll < begun)
    (hnew : forall row, row ∈ new -> row.poll = begun) : rowsOf (rows ++ new) begun = new := by
  have hnone : rows.filter (fun row => row.poll = begun) = [] := by
    apply List.filter_eq_nil_iff.mpr
    intro row hrow hsame
    rw [decide_eq_true_eq] at hsame
    exact absurd (hrows row hrow) (hsame ▸ Nat.lt_irrefl _)
  have hall : new.filter (fun row => row.poll = begun) = new := by
    apply List.filter_eq_self.mpr
    intro row hrow
    exact decide_eq_true (hnew row hrow)
  rw [rowsOf, List.filter_append, hnone, hall, List.nil_append]

theorem InOrder.printPoll {begun : Nat} {p : Printed} (h : InOrder oneDecimal begun p)
    (zones : List Zone) :
    (printPoll perl oneDecimal (zones, begun) p).All (InOrder oneDecimal (begun + 1)) := by
  rw [KvmMonitor.printPoll]
  refine Outcome.All.map (grown_visitPoll (zones, begun) p.state) ?_
  intro s hs
  rcases hs with ⟨new, hrows, hnew⟩
  constructor
  · intro row hrow
    change row ∈ s.rows at hrow
    rw [hrows] at hrow
    rcases List.mem_append.mp hrow with hrow | hrow
    · exact Nat.lt_succ_of_lt (h.polls row hrow)
    · exact Nat.lt_succ_of_le (Nat.le_of_eq (hnew row hrow))
  · change p.lines ++ header :: (s.rows.drop p.state.rows.length).map (rowText oneDecimal) =
      (framed (pollsOf s.rows (begun + 1))).map (lineText oneDecimal)
    have hblocks : pollsOf s.rows (begun + 1) = pollsOf p.state.rows begun ++ [new] := by
      rw [← pollsOf_append hnew, ← hrows, pollsOf, pollsOf, List.range_succ, List.map_append,
        List.map_singleton, hrows, rowsOf_append h.polls hnew]
    have hframed : framed (pollsOf p.state.rows begun ++ [new]) =
        framed (pollsOf p.state.rows begun) ++ none :: new.map some := by
      rw [framed, List.flatMap_append, List.flatMap_singleton, framed]
    rw [hblocks, hframed, List.map_append, ← h.lines, hrows, List.drop_left, List.map_cons,
      List.map_map]
    rfl

theorem inOrder_printPolls (polls : List (List Zone)) :
    (printPolls perl oneDecimal polls).All fun p => exists begun, InOrder oneDecimal begun p := by
  have hrun : forall (polls : List (List Zone)) (begun : Nat) (p : Printed),
      InOrder oneDecimal begun p ->
      (Outcome.each (printPoll perl oneDecimal) (polls.zipIdx begun) p).All
        fun p => exists begun, InOrder oneDecimal begun p := by
    intro polls
    induction polls with
    | nil =>
        intro begun p h
        exact Outcome.all_done.mpr ⟨begun, h⟩
    | cons zones polls ih =>
        intro begun p h
        have hfirst : (KvmMonitor.printPoll perl oneDecimal (zones, begun) p).All
            (InOrder oneDecimal (begun + 1)) := h.printPoll zones
        rw [List.zipIdx_cons, Outcome.each_cons]
        cases hpoll : KvmMonitor.printPoll perl oneDecimal (zones, begun) p with
        | done p' =>
            rw [hpoll, Outcome.all_done] at hfirst
            exact ih (begun + 1) p' hfirst
        | aborted p' =>
            rw [hpoll, Outcome.all_aborted] at hfirst
            exact Outcome.all_aborted.mpr ⟨begun + 1, hfirst⟩
        | waiting => exact Outcome.all_waiting
  exact hrun polls 0 .initial ⟨nofun, rfl⟩

/-- The script prints as it goes on with what it prints left out of account. -/
theorem printPolls_state (polls : List (List Zone)) :
    (printPolls perl oneDecimal polls).map Printed.state = kvmiostat perl kvmiostatCmd polls := by
  apply Outcome.each_map
  intro poll _ p
  rw [printPoll]
  cases visitPoll perl kvmiostatCmd poll p.state with
  | done s => rfl
  | aborted s => rfl
  | waiting => rfl

/-!
## Lines
-/

/-- A row whose line is cut at the right places. -/
structure IsPlain (oneDecimal : OneDecimal) (row : Row) : Prop where
  zone : IsZoneName row.zone.toList
  decimal : forall field, IsDecimal (value oneDecimal row field)

theorem IsDecimal.not_mem {text : List Char} (h : IsDecimal text) {c : Char}
    (hdigit : c.isDigit = false) (hminus : c ≠ '-') (hpoint : c ≠ '.') : c ∉ text := by
  intro hmem
  rcases h.plain c hmem with heq | heq | heq
  · rw [hdigit] at heq
    cases heq
  · exact hminus heq
  · exact hpoint heq

theorem IsDecimal.comma {text : List Char} (h : IsDecimal text) : ',' ∉ text :=
  h.not_mem (by decide) (by decide) (by decide)

theorem IsZoneName.not_mem {name : List Char} (h : IsZoneName name) :
    ',' ∉ name ∧ ' ' ∉ name ∧ '\n' ∉ name :=
  ⟨fun hmem => (h.plain _ hmem).left rfl, fun hmem => (h.plain _ hmem).right.left rfl,
    fun hmem => (h.plain _ hmem).right.right rfl⟩

theorem diskName_toList (di : Nat) : (diskName di).toList = "disk".toList ++ Nat.toDigits 10 di := by
  rw [diskName, String.toList_append]
  exact congrArg _ Nat.toList_repr

theorem not_mem_toDigits {c : Char} (h : c.isDigit = false) (n : Nat) :
    c ∉ Nat.toDigits 10 n := by
  intro hmem
  have hdigit := Nat.isDigit_of_mem_toDigits (b := 10) (by decide) (by decide) hmem
  rw [h] at hdigit
  cases hdigit

theorem not_mem_diskName {c : Char} (h : c.isDigit = false) (hdisk : c ∉ "disk".toList)
    (di : Nat) : c ∉ (diskName di).toList := by
  rw [diskName_toList, List.mem_append]
  intro hmem
  rcases hmem with hmem | hmem
  · exact hdisk hmem
  · exact not_mem_toDigits h di hmem

/-- No row is taken for a header, not even of a machine that is called `zone`. -/
theorem isHeader_rowText {row : Row} (h : IsPlain oneDecimal row) :
    isHeader (rowText oneDecimal row) = false := by
  cases hheader : isHeader (rowText oneDecimal row) with
  | false => rfl
  | true =>
      rcases List.isPrefixOf_iff_prefix.mp hheader with ⟨rest, hrest⟩
      have hcut : Text.after ',' ("zone".toList ++ ',' :: ("device".toList ++ rest)) =
          Text.after ',' (rowText oneDecimal row) := congrArg _ hrest
      rw [rowText, Text.after_append_cons _ h.zone.not_mem.left,
        Text.after_append_cons _ (by decide), diskName_toList] at hcut
      exact absurd (List.cons.inj (List.cons.inj hcut).right).left (by decide)

/-- The fields of a row are the fields of its line. -/
theorem splitFields_rowText {row : Row} (h : IsPlain oneDecimal row) :
    splitFields ',' (rowText oneDecimal row) =
      [row.zone.toList, (diskName row.disk).toList, value oneDecimal row .rdOperations,
        value oneDecimal row .wrOperations, value oneDecimal row .rdBytes,
        value oneDecimal row .wrBytes ++ ['\n']] := by
  have hlast : ',' ∉ value oneDecimal row .wrBytes ++ ['\n'] := by
    rw [List.mem_append, List.mem_singleton]
    intro hmem
    rcases hmem with hmem | hmem
    · exact (h.decimal .wrBytes).comma hmem
    · cases hmem
  rw [rowText, splitFields_append_sep h.zone.not_mem.left,
    splitFields_append_sep (not_mem_diskName (by decide) (by decide) _),
    splitFields_append_sep (h.decimal _).comma, splitFields_append_sep (h.decimal _).comma,
    splitFields_append_sep (h.decimal _).comma,
    splitFields_last hlast (List.append_ne_nil_of_right_ne_nil _ (List.cons_ne_nil _ _))]

/-- The items of a row, each in a line of its own. -/
def rowItems (oneDecimal : OneDecimal) (x : Row × Nat) : List Char :=
  let line (name : String) (field : Field) : List Char :=
    item x.1.zone.toList (diskName x.1.disk).toList name x.2 (value oneDecimal x.1 field ++ ['\n'])
  line "reads" .rdOperations ++ line "writes" .wrOperations ++ line "read" .rdBytes ++
    line "written" .wrBytes

theorem items_rowText {row : Row} (h : IsPlain oneDecimal row) (date : Nat) :
    items date (rowText oneDecimal row) = rowItems oneDecimal (row, date) := by
  rw [items, rowItems]
  simp only [parsed, splitFields_rowText h]
  rfl

/-!
## The monitor as a collector
-/

/-- The monitor that has collected some rows. -/
def ofCollector (oneDecimal : OneDecimal) (c : Collector (Row × Nat)) : Monitor where
  data := if c.pending.isEmpty then none else some (c.pending.flatMap (rowItems oneDecimal))
  sent := c.sent.map fun batch => batch.flatMap (rowItems oneDecimal)

def toRead (oneDecimal : OneDecimal) (x : Option Row × Nat) : Read :=
  ⟨lineText oneDecimal x.1, x.2⟩

/-- A row goes with the time at which it is read. -/
def dated (x : Option Row × Nat) : Option (Row × Nat) :=
  x.1.map fun row => (row, x.2)

theorem readLine_toRead {x : Option Row × Nat}
    (h : forall row, x.1 = some row -> IsPlain oneDecimal row) (c : Collector (Row × Nat)) :
    readLine (ofCollector oneDecimal c) (toRead oneDecimal x) =
      ofCollector oneDecimal (c.step (dated x)) := by
  rcases c with ⟨pending, sent⟩
  rcases x with ⟨line, date⟩
  cases line with
  | none =>
      cases pending with
      | nil => rfl
      | cons x pending =>
          have hheader : isHeader header = true := rfl
          simp [readLine, ofCollector, toRead, lineText, dated, Collector.step, hheader]
  | some row =>
      have hplain : IsPlain oneDecimal row := h row rfl
      have hheader : isHeader (toRead oneDecimal (some row, date)).line = false :=
        isHeader_rowText hplain
      have hitems : items date (rowText oneDecimal row) = rowItems oneDecimal (row, date) :=
        items_rowText hplain date
      rw [readLine, hheader, if_neg Bool.false_ne_true]
      change Monitor.mk (some (_ ++ items date (rowText oneDecimal row))) _ = _
      rw [hitems]
      cases pending with
      | nil => simp [ofCollector, dated, Collector.step]
      | cons x pending => simp [ofCollector, dated, Collector.step]

theorem monitor_toRead {xs : List (Option Row × Nat)}
    (h : forall x, x ∈ xs -> forall row, x.1 = some row -> IsPlain oneDecimal row) :
    monitor (xs.map (toRead oneDecimal)) = ofCollector oneDecimal (collect (xs.map dated)) := by
  have hrun : forall c : Collector (Row × Nat),
      (xs.map (toRead oneDecimal)).foldl readLine (ofCollector oneDecimal c) =
        ofCollector oneDecimal (c.run (xs.map dated)) := by
    induction xs with
    | nil => exact fun c => rfl
    | cons x xs ih =>
        intro c
        rw [List.map_cons, List.foldl_cons, readLine_toRead (h x List.mem_cons_self)]
        exact ih (fun y hy => h y (List.mem_cons_of_mem _ hy)) _
  exact hrun ⟨[], []⟩

/-!
## Batches
-/

theorem isWord_of_not_mem {word : List Char} (hne : word ≠ []) (h : ' ' ∉ word) :
    IsWord (· = ' ') word where
  ne_nil := hne
  noBlank := by
    intro c hc
    exact decide_eq_false fun heq => h (heq ▸ hc)

/-- An item is read as the words that it was made of. -/
theorem words_item {zone device text : List Char} {name : String} (date : Nat)
    (hzone : IsZoneName zone) (hdevice : ' ' ∉ device) (hname : ' ' ∉ name.toList)
    (htext : IsDecimal text) :
    words (· = ' ') (item zone device name date text) =
      [zone, "vm.disk.io[".toList ++ (device ++ (',' :: (name.toList ++ [']']))),
        (toString date).toList, text] := by
  have hkey : ' ' ∉ "vm.disk.io[".toList ++ (device ++ (',' :: (name.toList ++ [']']))) := by
    simp [hdevice, hname]
  have hdate : ' ' ∉ (toString date).toList := by
    rw [show (toString date).toList = Nat.toDigits 10 date from Nat.toList_repr]
    exact not_mem_toDigits (by decide) date
  have hdate_ne : (toString date).toList ≠ [] := by
    rw [show (toString date).toList = Nat.toDigits 10 date from Nat.toList_repr]
    exact Nat.toDigits_ne_nil
  have hitem : item zone device name date text =
      zone ++ ' ' :: (("vm.disk.io[".toList ++ (device ++ (',' :: (name.toList ++ [']'])))) ++
        ' ' :: ((toString date).toList ++ ' ' :: text)) := by
    simp [item]
  rw [hitem,
    words_word_blank (isWord_of_not_mem hzone.ne_nil hzone.not_mem.right.left) (by decide),
    words_word_blank (isWord_of_not_mem (by simp) hkey) (by decide),
    words_word_blank (isWord_of_not_mem hdate_ne hdate) (by decide),
    words_word (isWord_of_not_mem htext.ne_nil (htext.not_mem (by decide) (by decide) (by decide)))]

theorem received_item {zone device text : List Char} {name : String} (date : Nat)
    (hzone : IsZoneName zone) (hdevice : ' ' ∉ device ∧ '\n' ∉ device)
    (hname : ' ' ∉ name.toList ∧ '\n' ∉ name.toList) (htext : IsDecimal text)
    (rest : List Char) :
    received (item zone device name date (text ++ ['\n']) ++ rest) =
      [zone, "vm.disk.io[".toList ++ (device ++ (',' :: (name.toList ++ [']']))),
        (toString date).toList, text] :: received rest := by
  have hdate : '\n' ∉ Nat.toDigits 10 date := not_mem_toDigits (by decide) date
  have htext_end : '\n' ∉ text := htext.not_mem (by decide) (by decide) (by decide)
  have hend : '\n' ∉ item zone device name date text := by
    simp [item, hzone.not_mem.right.right, hdevice.right, hname.right, hdate, htext_end]
  have hline : item zone device name date (text ++ ['\n']) ++ rest =
      item zone device name date text ++ '\n' :: rest := by
    simp [item]
  rw [received, hline, splitFields_append_sep hend, List.map_cons,
    words_item date hzone hdevice.left hname.left htext]
  rfl

theorem received_rowItems {x : Row × Nat} (h : IsPlain oneDecimal x.1) (rest : List Char) :
    received (rowItems oneDecimal x ++ rest) = told oneDecimal x ++ received rest := by
  have hdevice : ' ' ∉ (diskName x.1.disk).toList ∧ '\n' ∉ (diskName x.1.disk).toList :=
    ⟨not_mem_diskName (by decide) (by decide) _, not_mem_diskName (by decide) (by decide) _⟩
  rw [rowItems]
  simp only [List.append_assoc]
  rw [received_item x.2 h.zone hdevice (by decide) (h.decimal _),
    received_item x.2 h.zone hdevice (by decide) (h.decimal _),
    received_item x.2 h.zone hdevice (by decide) (h.decimal _),
    received_item x.2 h.zone hdevice (by decide) (h.decimal _)]
  rfl

theorem received_batch {batch : List (Row × Nat)}
    (h : forall x, x ∈ batch -> IsPlain oneDecimal x.1) :
    received (batch.flatMap (rowItems oneDecimal)) = batch.flatMap (told oneDecimal) := by
  induction batch with
  | nil => rfl
  | cons x batch ih =>
      rw [List.flatMap_cons, received_rowItems (h x List.mem_cons_self),
        ih fun y hy => h y (List.mem_cons_of_mem _ hy), List.flatMap_cons]

/-!
## What is sent
-/

theorem headersRead_toRead {xs : List (Option Row × Nat)}
    (h : forall x, x ∈ xs -> forall row, x.1 = some row -> IsPlain oneDecimal row) :
    headersRead (xs.map (toRead oneDecimal)) = marks (xs.map dated) := by
  rw [headersRead, marks, List.countP_map, List.countP_map]
  apply List.countP_congr
  intro x hx
  rcases x with ⟨line, date⟩
  cases line with
  | none => exact iff_of_true rfl rfl
  | some row =>
      have hheader : isHeader (rowText oneDecimal row) = false := isHeader_rowText (h _ hx row rfl)
      exact iff_of_false (by simpa [toRead, lineText] using hheader) (by simp [dated])

/-- What is read of printed lines are the lines with dates. -/
theorem reads_eq {reads : List Read} {stream : List (Option Row)}
    (h : reads.map Read.line <+: stream.map (lineText oneDecimal)) :
    exists xs : List (Option Row × Nat), reads = xs.map (toRead oneDecimal) ∧
      xs.map Prod.fst <+: stream := by
  rcases List.prefix_map_iff.mp h with ⟨read, hread, hlines⟩
  clear h
  induction reads generalizing read stream with
  | nil => exact ⟨[], rfl, List.nil_prefix⟩
  | cons first reads ih =>
      cases read with
      | nil => cases hlines
      | cons line read =>
          cases stream with
          | nil => exact absurd hread (by simp)
          | cons line' stream =>
              rcases List.cons_prefix_cons.mp hread with ⟨rfl, hrest⟩
              rcases List.cons.inj hlines with ⟨hfirst, hlines⟩
              rcases ih read hrest hlines with ⟨xs, hreads, hxs⟩
              refine ⟨(line, first.date) :: xs, ?_, ?_⟩
              · rw [List.map_cons, ← hreads, toRead, ← hfirst]
              · exact List.cons_prefix_cons.mpr ⟨rfl, hxs⟩

theorem own_printPolls {polls : List (List Zone)}
    (h : forall zones, zones ∈ polls -> forall zone, zone ∈ zones -> zone.Answers kvmiostatCmd) :
    (printPolls perl oneDecimal polls).All fun p => RowsAre (IsOwn perl polls) p.state := by
  apply Outcome.All.each
  · intro poll hpoll p hp
    rcases List.mem_iff_getElem?.mp hpoll with ⟨k, hk⟩
    rw [List.getElem?_zipIdx, Option.map_eq_some_iff] at hk
    rcases hk with ⟨zones, hzones, rfl⟩
    refine Outcome.All.map (P := RowsAre (IsOwn perl polls)) ?_ fun s hs => hs
    apply Outcome.All.each _ hp
    intro zone hzone s hs
    rcases List.mem_filter.mp hzone with ⟨hmem, hwanted⟩
    refine rowsAre_visitZone ?_ hmem hwanted ?_ hs
    · rw [Nat.zero_add]
      exact hzones
    · exact h zones (List.mem_of_getElem? hzones) zone hmem
  · nofun

theorem isPlain_of_isOwn {polls : List (List Zone)} {row : Row}
    (hdecimal : forall x, IsDecimal (oneDecimal x))
    (hnames : forall zones, zones ∈ polls -> forall zone, zone ∈ zones ->
      IsZoneName zone.uuid.toList)
    (h : IsOwn perl polls row) : IsPlain oneDecimal row := by
  rcases h with ⟨zones, zone, _, _, _, hzones, hzone, hname, _⟩
  refine ⟨?_, fun field => hdecimal _⟩
  rw [← hname]
  exact hnames zones (List.mem_of_getElem? hzones) zone hzone

/-- The batches of what is read of an orderly print. -/
theorem InOrder.batches {begun : Nat} {p : Printed} (h : InOrder oneDecimal begun p)
    (hplain : forall row, row ∈ p.state.rows -> IsPlain oneDecimal row) {reads : List Read}
    (hreads : reads.map Read.line <+: p.lines) :
    exists batches : List (List (Row × Nat)),
      (monitor reads).sent.map received =
        batches.map (fun batch => batch.flatMap (told oneDecimal)) ∧
      batches.map (List.map Prod.fst) =
        nonempty ((List.range (headersRead reads - 1)).map (rowsOf p.state.rows)) ∧
      forall batch, batch ∈ batches -> forall x, x ∈ batch ->
        ⟨rowText oneDecimal x.1, x.2⟩ ∈ reads := by
  rw [h.lines] at hreads
  rcases reads_eq hreads with ⟨xs, rfl, hxs⟩
  have hrows : forall x, x ∈ xs -> forall row, x.1 = some row -> IsPlain oneDecimal row := by
    intro x hx row hrow
    have hmem : some row ∈ xs.map Prod.fst := hrow ▸ List.mem_map_of_mem hx
    rcases mem_framed (hxs.mem hmem) with ⟨block, hblock, hin⟩
    rcases List.mem_map.mp hblock with ⟨poll, _, rfl⟩
    exact hplain row (List.mem_of_mem_filter hin)
  have hsent : forall batch, batch ∈ (collect (xs.map dated)).sent -> forall x, x ∈ batch ->
      (some x.1, x.2) ∈ xs := by
    intro batch hbatch x hx
    rcases List.mem_map.mp (mem_of_sent hbatch hx) with ⟨⟨line, date⟩, hy, heq⟩
    rcases Option.map_eq_some_iff.mp heq with ⟨row, hline, hpair⟩
    cases hpair
    cases hline
    exact hy
  refine ⟨(collect (xs.map dated)).sent, ?_, ?_, ?_⟩
  · rw [monitor_toRead hrows]
    change ((collect (xs.map dated)).sent.map fun batch =>
      batch.flatMap (rowItems oneDecimal)).map received = _
    rw [List.map_map]
    apply List.map_congr_left
    intro batch hbatch
    apply received_batch
    intro x hx
    exact hrows _ (hsent batch hbatch x hx) x.1 rfl
  · have hundated : (xs.map dated).map (Option.map Prod.fst) = xs.map Prod.fst := by
      rw [List.map_map]
      apply List.map_congr_left
      intro x _
      rcases x with ⟨line, date⟩
      cases line <;> rfl
    have hmarks : marks (xs.map dated) = marks (xs.map Prod.fst) := by
      rw [← hundated, marks_map]
    have hcollect := congrArg Collector.sent (collect_map Prod.fst (xs.map dated))
    rw [hundated, collect_sent hxs, ← hmarks] at hcollect
    rw [headersRead_toRead hrows]
    refine hcollect.symm.trans ?_
    have hle : marks (xs.map dated) ≤ begun := by
      rw [hmarks]
      exact (marks_le hxs).trans_eq (by simp [pollsOf])
    rw [pollsOf, ← List.map_take, List.take_range, Nat.min_eq_left (by omega)]
  · intro batch hbatch x hx
    exact List.mem_map.mpr ⟨(some x.1, x.2), hsent batch hbatch x hx, rfl⟩

/--
If every machine answers with its reply first, then whatever is read so far of what
`kvmiostat` prints, Zabbix has been told of each poll but the last one that was begun:
in a batch of its own, and of each row what its machine replied in that poll.
-/
theorem monitor_sends_polls (perl : Perl) (oneDecimal : OneDecimal) (polls : List (List Zone))
    (hdecimal : forall x, IsDecimal (oneDecimal x))
    (hnames : forall zones, zones ∈ polls -> forall zone, zone ∈ zones ->
      IsZoneName zone.uuid.toList)
    (hanswers : forall zones, zones ∈ polls -> forall zone, zone ∈ zones ->
      zone.Answers kvmiostatCmd) :
    (printPolls perl oneDecimal polls).All fun p => forall reads,
      reads.map Read.line <+: p.lines -> Sends perl oneDecimal polls p.state.rows reads := by
  intro p hp reads hreads
  have hown : RowsAre (IsOwn perl polls) p.state := own_printPolls hanswers p hp
  rcases inOrder_printPolls polls p hp with ⟨begun, horder⟩
  refine ⟨horder.batches ?_ hreads, hown⟩
  intro row hrow
  exact isPlain_of_isOwn hdecimal hnames (hown row hrow)

/-- `%.1f` of what is no tie -/
def tenths (x : Rat) : List Char :=
  let n := (x * 10 + 1 / 2).floor
  (if n < 0 then ['-'] else []) ++
    (Nat.toDigits 10 (n.natAbs / 10) ++ '.' :: Nat.toDigits 10 (n.natAbs % 10))

theorem isDecimal_tenths (x : Rat) : IsDecimal (tenths x) where
  ne_nil := by
    rw [tenths]
    simp
  plain := by
    intro c hc
    have hdigits : forall n, c ∈ Nat.toDigits 10 n -> c.isDigit = true :=
      fun n hn => Nat.isDigit_of_mem_toDigits (by decide) (by decide) hn
    rw [tenths, List.mem_append, List.mem_append, List.mem_cons] at hc
    rcases hc with hc | hc | hc | hc
    · split at hc
      · exact Or.inr (Or.inl (List.mem_singleton.mp hc))
      · cases hc
    · exact Or.inl (hdigits _ hc)
    · exact Or.inr (Or.inr hc)
    · exact Or.inl (hdigits _ hc)

/-- The same machine ten seconds later. -/
def answeringLater : Zone := { answering with clock := 70 }

theorem monitor_sends_polls_answering :
    (printPolls wholeNumbers tenths [[answering], [answeringLater]]).All fun p => forall reads,
      reads.map Read.line <+: p.lines ->
        Sends wholeNumbers tenths [[answering], [answeringLater]] p.state.rows reads := by
  apply monitor_sends_polls
  · exact isDecimal_tenths
  · intro zones hzones zone hzone
    have hname : zone.uuid = "a" := by
      rcases List.mem_cons.mp hzones with rfl | hzones
      · rw [List.mem_singleton.mp hzone]
        rfl
      · rw [List.mem_singleton.mp hzones] at hzone
        rw [List.mem_singleton.mp hzone]
        rfl
    rw [hname]
    exact ⟨by decide, by decide⟩
  · intro zones hzones zone hzone _ session hsession
    have hcontact : zone.contact = answering.contact := by
      rcases List.mem_cons.mp hzones with rfl | hzones
      · rw [List.mem_singleton.mp hzone]
      · rw [List.mem_singleton.mp hzones] at hzone
        rw [List.mem_singleton.mp hzone]
        rfl
    rw [hcontact] at hsession
    cases hsession
    decide

end KvmMonitor
end Zabbix
end EsdcFactory
