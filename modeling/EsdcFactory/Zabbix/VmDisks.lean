import Mathlib.Data.List.Infix
import Mathlib.Data.List.Perm.Basic
import Mathlib.Data.List.DropRight
import Mathlib.Data.List.Nodup

/-!
# The discovery of the disks of virtual machines

`vm-disk-discovery` lists the running machines, and then goes through the volumes of
the pool.  A disk is put into the first entry of its machine; if that entry has a disk
already, another entry is added to the list that is gone through.
-/

namespace EsdcFactory
namespace Zabbix
namespace VmDisks

/-!
## Machines
-/

/-- A field of the listing. -/
structure Column where
  text : List Char
  colonFree : ':' ∉ text
  oneLine : '\n' ∉ text

/-- `str.isspace`, of a byte -/
def isSpace (c : Char) : Bool :=
  [' ', '\t', '\n', '\r', '\x0b', '\x0c'].contains c

/-- `[a-z0-9-]` -/
def isUuidChar (c : Char) : Bool :=
  c.isLower || c.isDigit || c = '-'

/-- A machine in the listing of `vmadm`. -/
structure Vm where
  uuid : List Char
  vmType : Column
  vmAlias : Column
  state : Column
  uuidChars : uuid.all isUuidChar = true
  uuidDashes : 2 ≤ uuid.count '-'
  stateWord : state.text.all (fun c => !isSpace c) = true

/-- A line of `vmadm list -Hpo uuid,type,alias,state` -/
def Vm.line (vm : Vm) : List Char :=
  [':'].intercalate [vm.uuid, vm.vmType.text, vm.vmAlias.text, vm.state.text] ++ ['\n']

/-- The machine is to be discovered. -/
def Vm.isShown (vm : Vm) : Bool :=
  vm.state.text = "running".toList && vm.vmType.text ≠ "OS".toList

/-!
## The script
-/

/-- `{#UUID}`, `{#ALIAS}`, and `{#DISK}` if it is there -/
structure Entry where
  uuid : List Char
  vmAlias : List Char
  disk : Option (List Char)
deriving DecidableEq

/-- `^(.*):(.*):(.*):(.*)$`, in which the first group takes what it can -/
def columns (line : List Char) : Option (List Char × List Char × List Char × List Char) :=
  match (line.splitOn ':').reverse with
  | state :: vmAlias :: vmType :: last :: uuid =>
      some ([':'].intercalate (last :: uuid).reverse, vmType, vmAlias, state)
  | _ => none

/-- The loop over the lines, which fails on a line that does not match. -/
def readVms : List (List Char) -> Option (List Entry)
  | [] => some []
  | line :: lines =>
      match columns (line.rdropWhile isSpace) with
      | none => none
      | some (uuid, vmType, vmAlias, state) =>
          if state ≠ "running".toList then readVms lines
          else if vmType = "OS".toList then readVms lines
          else (readVms lines).map (⟨uuid, vmAlias, none⟩ :: ·)

/-- `regex_disks`: a disk with its number at the end, behind a dash or a slash -/
def diskParts (name : List Char) : Option (List Char × List Char) :=
  let digits := name.reverse.takeWhile Char.isDigit
  match name.reverse.dropWhile Char.isDigit with
  | 'k' :: 's' :: 'i' :: 'd' :: sep :: front =>
      if digits ≠ [] ∧ (sep = '-' ∨ sep = '/') then
        some (front.reverse, "disk".toList ++ digits.reverse)
      else none
  | _ => none

/-- The regular expression on the names: the same, behind what looks like a UUID. -/
def isVolume (name : List Char) : Bool :=
  match diskParts name with
  | some (front, _) => front ≠ [] && front.all isUuidChar
  | none => false

/-- `glob('*-disk*')` -/
def isFlat (name : List Char) : Bool :=
  !name.contains '/' && name.head? ≠ some '.' && "-disk".toList <:+: name

/-- `glob('*-*-*/*disk*')` -/
def isNested (name : List Char) : Bool :=
  match name.splitOn '/' with
  | [dir, file] =>
      dir.head? ≠ some '.' && 2 ≤ dir.count '-' && file.head? ≠ some '.' &&
        "disk".toList <:+: file
  | _ => false

/-- The volumes, of what is below `/dev/zvol/dsk/zones`. -/
def volumes (names : List (List Char)) : List (List Char) :=
  (names.filter isFlat ++ names.filter isNested).filter isVolume

/-- The search for the first entry of a machine, and what is done with it. -/
def assign (array : List Entry) (uuid disk : List Char) : List Entry :=
  match array.find? fun entry => uuid = entry.uuid with
  | none => array
  | some entry =>
      if entry.disk.isSome then array ++ [{ entry with disk := some disk }]
      else array.set (array.findIdx fun entry => uuid = entry.uuid)
        { entry with disk := some disk }

/-- The loop over the volumes. -/
def assignAll : List (List Char) -> List Entry -> Option (List Entry)
  | [], array => some array
  | name :: names, array =>
      match diskParts name with
      | none => none
      | some (uuid, disk) => assignAll names (assign array uuid disk)

/-- `data['data']`, which the script prints -/
def discover (lines names : List (List Char)) : Option (List Entry) := do
  let array ← readVms lines
  assignAll (volumes names) array

/-!
## What is asked of it
-/

/-- The disk that a name is for a machine, in either naming scheme. -/
def IsDiskOf (uuid name disk : List Char) : Prop :=
  exists digits, digits ≠ [] ∧ digits.all Char.isDigit = true ∧ disk = "disk".toList ++ digits ∧
    (name = uuid ++ '-' :: disk ∨ name = uuid ++ '/' :: disk)

/-- The disk of the machine that has the name. -/
def diskOf (uuid name : List Char) : Option (List Char) :=
  (diskParts name).bind fun parts => if parts.1 = uuid then some parts.2 else none

/-- The entries of a machine with some disks. -/
def Vm.entries (vm : Vm) : List (List Char) -> List Entry
  | [] => [⟨vm.uuid, vm.vmAlias.text, none⟩]
  | disks => disks.map fun disk => ⟨vm.uuid, vm.vmAlias.text, some disk⟩

/-- The machines that are to be discovered have their entries, and there are no others. -/
structure IsExact (vms : List Vm) (names : List (List Char)) (output : List Entry) : Prop where
  own : forall vm, vm ∈ vms -> vm.isShown = true ->
    (output.filter fun entry => entry.uuid = vm.uuid).Perm
      (vm.entries (names.filterMap (diskOf vm.uuid)))
  known : forall entry, entry ∈ output ->
    exists vm, vm ∈ vms ∧ vm.isShown = true ∧ entry.uuid = vm.uuid

/-!
## Names
-/

theorem diskParts_eq_some_iff {name front disk : List Char} :
    diskParts name = some (front, disk) <-> IsDiskOf front name disk := by
  constructor
  · intro h
    have hname : name.reverse = name.reverse.takeWhile Char.isDigit ++
        name.reverse.dropWhile Char.isDigit := List.takeWhile_append_dropWhile.symm
    have hdigits : (name.reverse.takeWhile Char.isDigit).reverse.all Char.isDigit = true := by
      rw [List.all_reverse]
      exact List.all_takeWhile
    rw [diskParts] at h
    generalize name.reverse.takeWhile Char.isDigit = digits at h hname hdigits
    split at h
    next sep rest hrest =>
      rw [hrest, List.reverse_eq_iff] at hname
      split at h
      next hcond =>
        cases h
        refine ⟨digits.reverse, by simpa using hcond.left, hdigits, rfl, ?_⟩
        rcases hcond.right with rfl | rfl
        · exact Or.inl (by simp [hname])
        · exact Or.inr (by simp [hname])
      next => cases h
    next => cases h
  · intro h
    rcases h with ⟨digits, hne, hdigits, rfl, hname⟩
    have hreverse : exists sep, (sep = '-' ∨ sep = '/') ∧
        name.reverse = digits.reverse ++ 'k' :: 's' :: 'i' :: 'd' :: sep :: front.reverse := by
      rcases hname with rfl | rfl
      · exact ⟨'-', Or.inl rfl, by simp⟩
      · exact ⟨'/', Or.inr rfl, by simp⟩
    rcases hreverse with ⟨sep, hsep, hreverse⟩
    have hall : forall c, c ∈ digits.reverse -> Char.isDigit c = true :=
      fun c hc => List.all_eq_true.mp hdigits c (List.mem_reverse.mp hc)
    have hk : Char.isDigit 'k' = false := by decide
    rw [diskParts, hreverse, List.takeWhile_append_of_pos hall, List.dropWhile_append_of_pos hall]
    simp [hk, hne, hsep]

theorem diskOf_eq_some_iff {uuid name disk : List Char} :
    diskOf uuid name = some disk <-> IsDiskOf uuid name disk := by
  rw [← diskParts_eq_some_iff, diskOf]
  cases diskParts name with
  | none => simp
  | some parts =>
      rcases parts with ⟨front, found⟩
      by_cases hfront : front = uuid
      · simp [hfront]
      · simp [hfront]

theorem isUuidChar_ne {uuid : List Char} (h : uuid.all isUuidChar = true) {c : Char}
    (hc : isUuidChar c = false) : c ∉ uuid := by
  intro hmem
  rw [List.all_eq_true.mp h c hmem] at hc
  cases hc

/-- A name for a machine is found by one of the two patterns, and by that one only. -/
theorem globs_of_diskOf (vm : Vm) {name disk : List Char} (h : diskOf vm.uuid name = some disk) :
    isVolume name = true ∧ isNested name = !isFlat name := by
  have hdisk := diskOf_eq_some_iff.mp h
  have hslash := isUuidChar_ne vm.uuidChars (by decide : isUuidChar '/' = false)
  have hdot := isUuidChar_ne vm.uuidChars (by decide : isUuidChar '.' = false)
  have hne : vm.uuid ≠ [] := by
    intro hnil
    have hdashes := vm.uuidDashes
    rw [hnil] at hdashes
    cases hdashes
  have hhead : forall rest, (vm.uuid ++ rest).head? ≠ some '.' := by
    intro rest
    rw [List.head?_append_of_ne_nil _ hne]
    exact fun heq => hdot (List.mem_of_mem_head? heq)
  constructor
  · rw [isVolume, diskParts_eq_some_iff.mpr hdisk]
    simp [hne, vm.uuidChars]
  · rcases hdisk with ⟨digits, hdigits, hall, rfl, hname⟩
    have hdiskSlash : '/' ∉ "disk".toList ++ digits := by
      intro hmem
      rcases List.mem_append.mp hmem with hmem | hmem
      · exact absurd hmem (by decide)
      · exact absurd (List.all_eq_true.mp hall '/' hmem) (by decide)
    rcases hname with rfl | rfl
    · have hnone : '/' ∉ vm.uuid ++ '-' :: ("disk".toList ++ digits) := by
        intro hmem
        rcases List.mem_append.mp hmem with hmem | hmem
        · exact hslash hmem
        · exact (List.mem_cons.mp hmem).elim (by decide) hdiskSlash
      have hinfix : "-disk".toList <:+: vm.uuid ++ '-' :: ("disk".toList ++ digits) :=
        ⟨vm.uuid, digits, by simp⟩
      have hflat : isFlat (vm.uuid ++ '-' :: ("disk".toList ++ digits)) = true := by
        rw [isFlat, Bool.and_eq_true, Bool.and_eq_true]
        exact ⟨⟨by rw [List.contains_eq_mem, decide_eq_false hnone]; rfl,
          decide_eq_true (hhead _)⟩, decide_eq_true hinfix⟩
      rw [isNested, List.splitOn_eq_singleton hnone, hflat]
      rfl
    · have hinfix : "disk".toList <:+: "disk".toList ++ digits := ⟨[], digits, by simp⟩
      have hfirst : vm.uuid.head? ≠ some '.' := by
        rw [← List.append_nil vm.uuid]
        exact hhead []
      have hnested : isNested (vm.uuid ++ '/' :: ("disk".toList ++ digits)) = true := by
        rw [isNested, List.splitOn_append_cons_self_of_not_mem hslash,
          List.splitOn_eq_singleton hdiskSlash]
        dsimp only
        rw [decide_eq_true hfirst, decide_eq_true vm.uuidDashes, decide_eq_true hinfix]
        rfl
      have hflat : isFlat (vm.uuid ++ '/' :: ("disk".toList ++ digits)) = false := by
        have hmem : '/' ∈ vm.uuid ++ '/' :: ("disk".toList ++ digits) := by simp
        rw [isFlat, List.contains_eq_mem, decide_eq_true hmem]
        rfl
      rw [hnested, hflat]
      rfl

/-- The volumes have the disks of a machine, in another order at most. -/
theorem volumes_perm (vm : Vm) (names : List (List Char)) :
    ((volumes names).filterMap (diskOf vm.uuid)).Perm (names.filterMap (diskOf vm.uuid)) := by
  have hsplit := (List.filter_append_perm isFlat names).filterMap (diskOf vm.uuid)
  refine List.Perm.trans (List.Perm.of_eq ?_) hsplit
  rw [volumes, List.filter_append, List.filterMap_append, List.filterMap_append]
  have hvolume : forall more : List (List Char),
      (more.filter isVolume).filterMap (diskOf vm.uuid) = more.filterMap (diskOf vm.uuid) := by
    intro more
    rw [List.filterMap_filter]
    apply List.filterMap_congr
    intro name _
    cases hdisk : diskOf vm.uuid name with
    | none => simp
    | some disk => rw [(globs_of_diskOf vm hdisk).left, if_pos rfl]
  rw [hvolume, hvolume, List.filterMap_filter, List.filterMap_filter, List.filterMap_filter]
  congr 1
  apply List.filterMap_congr
  intro name _
  cases hdisk : diskOf vm.uuid name with
  | none => simp
  | some disk => rw [(globs_of_diskOf vm hdisk).right]

/-!
## Lines
-/

/-- The state is a word, so that nothing but the line end is stripped. -/
theorem rdropWhile_line (vm : Vm) :
    vm.line.rdropWhile isSpace =
      [':'].intercalate [vm.uuid, vm.vmType.text, vm.vmAlias.text, vm.state.text] := by
  have hbody : [':'].intercalate [vm.uuid, vm.vmType.text, vm.vmAlias.text, vm.state.text] =
      (vm.uuid ++ ':' :: vm.vmType.text ++ ':' :: vm.vmAlias.text) ++ ':' :: vm.state.text := by
    simp [List.intercalate_cons_cons]
  rw [Vm.line, List.rdropWhile_concat_pos _ _ _ (by decide), hbody, List.rdropWhile_eq_self_iff]
  intro hne
  rw [List.getLast_append_of_ne_nil hne (List.cons_ne_nil _ _)]
  rcases List.mem_cons.mp (List.getLast_mem (List.cons_ne_nil ':' vm.state.text)) with hlast | hlast
  · rw [hlast]
    decide
  · have hword := List.all_eq_true.mp vm.stateWord _ hlast
    simpa using hword

theorem columns_line (vm : Vm) :
    columns (vm.line.rdropWhile isSpace) =
      some (vm.uuid, vm.vmType.text, vm.vmAlias.text, vm.state.text) := by
  have huuid : ':' ∉ vm.uuid := isUuidChar_ne vm.uuidChars (by decide)
  rw [rdropWhile_line, columns, List.splitOn_intercalate]
  · simp
  · intro text htext
    simp only [List.mem_cons, List.not_mem_nil, or_false] at htext
    rcases htext with rfl | rfl | rfl | rfl
    · exact huuid
    · exact vm.vmType.colonFree
    · exact vm.vmAlias.colonFree
    · exact vm.state.colonFree
  · exact List.cons_ne_nil _ _

/-- The entry of a machine before a disk is found. -/
def Vm.first (vm : Vm) : Entry :=
  ⟨vm.uuid, vm.vmAlias.text, none⟩

theorem readVms_lines (vms : List Vm) :
    readVms (vms.map Vm.line) = some ((vms.filter Vm.isShown).map Vm.first) := by
  induction vms with
  | nil => rfl
  | cons vm vms ih =>
      rw [List.map_cons, readVms, columns_line]
      dsimp only
      by_cases hstate : vm.state.text = "running".toList
      · rw [if_neg (not_not.mpr hstate)]
        by_cases htype : vm.vmType.text = "OS".toList
        · have hshown : vm.isShown = false := by
            rw [Vm.isShown, decide_eq_false (not_not.mpr htype), Bool.and_false]
          rw [if_pos htype, ih, List.filter_cons_of_neg (by simp [hshown])]
        · have hshown : vm.isShown = true := by
            rw [Vm.isShown, decide_eq_true hstate, decide_eq_true htype, Bool.and_self]
          rw [if_neg htype, ih, List.filter_cons_of_pos hshown]
          rfl
      · have hshown : vm.isShown = false := by
          rw [Vm.isShown, decide_eq_false hstate, Bool.false_and]
        rw [if_pos hstate, ih, List.filter_cons_of_neg (by simp [hshown])]

/-!
## The loop over the volumes
-/

theorem assign_of_notMem {array : List Entry} {uuid : List Char} (disk : List Char)
    (h : forall entry, entry ∈ array -> uuid ≠ entry.uuid) : assign array uuid disk = array := by
  have hnone : array.find? (fun entry => uuid = entry.uuid) = none := by
    rw [List.find?_eq_none]
    intro entry hentry
    simpa using h entry hentry
  rw [assign, hnone]

theorem assign_append {front back : List Entry} {entry : Entry} (disk : List Char)
    (h : forall other, other ∈ front -> entry.uuid ≠ other.uuid) :
    assign (front ++ entry :: back) entry.uuid disk =
      if entry.disk.isSome then front ++ entry :: back ++ [{ entry with disk := some disk }]
      else front ++ { entry with disk := some disk } :: back := by
  have hfind : (front ++ entry :: back).find? (fun other => entry.uuid = other.uuid) =
      some entry := by
    rw [List.find?_eq_some_iff_append]
    exact ⟨by simp, front, back, rfl, fun other hother => by simpa using h other hother⟩
  have hidx : (front ++ entry :: back).findIdx (fun other => entry.uuid = other.uuid) =
      front.length := by
    rw [List.findIdx_append, List.findIdx_eq_length_of_false, if_neg (Nat.lt_irrefl _)]
    · simp [List.findIdx_cons]
    · intro other hother
      simpa using h other hother
  rw [assign, hfind, hidx]
  simp

/-- The entries of each machine, after some of the volumes. -/
structure Covers (vms : List Vm) (seen : List (List Char)) (array : List Entry) : Prop where
  own : forall vm, vm ∈ vms -> array.filter (fun entry => entry.uuid = vm.uuid) =
    vm.entries (seen.filterMap (diskOf vm.uuid))
  known : forall entry, entry ∈ array -> exists vm, vm ∈ vms ∧ entry.uuid = vm.uuid

theorem Vm.entries_ne_nil (vm : Vm) (disks : List (List Char)) : vm.entries disks ≠ [] := by
  cases disks <;> simp [Vm.entries]

theorem Vm.entries_perm (vm : Vm) {disks others : List (List Char)} (h : disks.Perm others) :
    (vm.entries disks).Perm (vm.entries others) := by
  cases disks with
  | nil => rw [List.nil_perm.mp h]
  | cons disk disks =>
      cases others with
      | nil => exact absurd (List.perm_nil.mp h) (List.cons_ne_nil _ _)
      | cons other others => exact h.map fun disk => Entry.mk vm.uuid vm.vmAlias.text (some disk)

/-- The first entry of a machine is filled, or another one is added behind the others. -/
theorem entries_concat (vm : Vm) (disks : List (List Char)) (disk : List Char) {entry : Entry}
    {rest : List Entry} (h : vm.entries disks = entry :: rest) :
    vm.entries (disks ++ [disk]) =
      if entry.disk.isSome then entry :: rest ++ [{ entry with disk := some disk }]
      else { entry with disk := some disk } :: rest := by
  cases disks with
  | nil =>
      cases h
      rfl
  | cons first disks =>
      cases h
      simp [Vm.entries]

theorem seen_concat (uuid : List Char) (seen : List (List Char)) {name front disk : List Char}
    (h : diskParts name = some (front, disk)) :
    (seen ++ [name]).filterMap (diskOf uuid) =
      if front = uuid then seen.filterMap (diskOf uuid) ++ [disk]
      else seen.filterMap (diskOf uuid) := by
  rw [List.filterMap_append]
  have hdisk : diskOf uuid name = if front = uuid then some disk else none := by
    rw [diskOf, h]
    rfl
  split
  next hfront => simp [hdisk, hfront]
  next hfront => simp [hdisk, hfront]

theorem Covers.assign {vms : List Vm} {seen : List (List Char)} {array : List Entry}
    {name uuid disk : List Char} (h : Covers vms seen array)
    (hname : diskParts name = some (uuid, disk)) :
    Covers vms (seen ++ [name]) (assign array uuid disk) := by
  cases hfind : array.find? fun entry => decide (uuid = entry.uuid) with
  | none =>
      have hnone : forall entry, entry ∈ array -> uuid ≠ entry.uuid := by
        intro entry hentry
        simpa using List.find?_eq_none.mp hfind entry hentry
      rw [assign_of_notMem disk hnone]
      refine ⟨fun vm hvm => ?_, h.known⟩
      have hother : uuid ≠ vm.uuid := by
        intro heq
        rcases List.exists_mem_of_ne_nil _
          (vm.entries_ne_nil (seen.filterMap (diskOf vm.uuid))) with ⟨entry, hentry⟩
        rw [← h.own vm hvm] at hentry
        rcases List.mem_filter.mp hentry with ⟨hmem, huuid⟩
        exact hnone entry hmem (heq.trans (of_decide_eq_true huuid).symm)
      rw [seen_concat vm.uuid seen hname, if_neg hother]
      exact h.own vm hvm
  | some entry =>
      rcases List.find?_eq_some_iff_append.mp hfind with ⟨hsame, front, back, rfl, hfront⟩
      have huuid : uuid = entry.uuid := of_decide_eq_true hsame
      subst huuid
      have hbefore : forall other, other ∈ front -> entry.uuid ≠ other.uuid := by
        intro other hother
        simpa using hfront other hother
      rw [assign_append disk hbefore]
      constructor
      · intro vm hvm
        have hown := h.own vm hvm
        rw [seen_concat vm.uuid seen hname]
        by_cases hmine : entry.uuid = vm.uuid
        · have hnone : front.filter (fun other => decide (other.uuid = vm.uuid)) = [] := by
            rw [List.filter_eq_nil_iff]
            intro other hother
            simpa [← hmine] using (hbefore other hother).symm
          rw [List.filter_append, hnone, List.filter_cons_of_pos (by simpa using hmine),
            List.nil_append] at hown
          rw [if_pos hmine, entries_concat vm _ disk hown.symm]
          split
          · simp [List.filter_append, hnone, hmine]
          · simp [List.filter_append, hnone, hmine]
        · rw [if_neg hmine, ← hown]
          split
          · simp [List.filter_append, hmine]
          · simp [List.filter_append, hmine]
      · intro other hother
        have hkept : other ∈ front ++ entry :: back ∨ other.uuid = entry.uuid := by
          split at hother
          · rcases List.mem_append.mp hother with hold | hnew
            · exact Or.inl hold
            · rw [List.mem_singleton.mp hnew]
              exact Or.inr rfl
          · rcases List.mem_append.mp hother with hold | hnew
            · exact Or.inl (List.mem_append_left _ hold)
            · rcases List.mem_cons.mp hnew with rfl | hold
              · exact Or.inr rfl
              · exact Or.inl (List.mem_append_right _ (List.mem_cons_of_mem _ hold))
        rcases hkept with hold | hentry
        · exact h.known other hold
        · rw [hentry]
          exact h.known entry (List.mem_append_right _ List.mem_cons_self)

theorem Covers.assignAll {vms : List Vm} {seen names : List (List Char)} {array : List Entry}
    (h : Covers vms seen array) (hnames : forall name, name ∈ names -> isVolume name = true) :
    exists output, assignAll names array = some output ∧ Covers vms (seen ++ names) output := by
  induction names generalizing seen array with
  | nil =>
      rw [List.append_nil]
      exact ⟨array, rfl, h⟩
  | cons name names ih =>
      have hvolume := hnames name List.mem_cons_self
      cases hparts : diskParts name with
      | none =>
          rw [isVolume, hparts] at hvolume
          cases hvolume
      | some parts =>
          rcases ih (h.assign hparts) (fun other hother =>
            hnames other (List.mem_cons_of_mem _ hother)) with ⟨output, houtput, hcovers⟩
          refine ⟨output, ?_, ?_⟩
          · rw [VmDisks.assignAll, hparts]
            exact houtput
          · rw [← List.singleton_append, ← List.append_assoc]
            exact hcovers

/-- Machines whose UUIDs are distinct have one entry each at first. -/
theorem covers_first {vms : List Vm} (h : (vms.map Vm.uuid).Nodup) :
    Covers vms [] (vms.map Vm.first) := by
  constructor
  · intro vm hvm
    induction vms with
    | nil => cases hvm
    | cons first vms ih =>
        rw [List.map_cons, List.nodup_cons] at h
        rw [List.map_cons]
        rcases List.mem_cons.mp hvm with rfl | hvm
        · have hnone : (vms.map Vm.first).filter (fun entry => decide (entry.uuid = vm.uuid)) =
              [] := by
            rw [List.filter_eq_nil_iff]
            intro entry hentry
            rcases List.mem_map.mp hentry with ⟨other, hother, rfl⟩
            have hne : other.uuid ≠ vm.uuid :=
              fun heq => h.left (heq ▸ List.mem_map_of_mem hother)
            rw [decide_eq_true_eq]
            exact hne
          rw [List.filter_cons_of_pos (by simp [Vm.first]), hnone]
          rfl
        · have hne : first.uuid ≠ vm.uuid :=
            fun heq => h.left (heq ▸ List.mem_map_of_mem hvm)
          rw [List.filter_cons_of_neg]
          · exact ih h.right hvm
          · rw [decide_eq_true_eq]
            exact hne
  · intro entry hentry
    rcases List.mem_map.mp hentry with ⟨vm, hvm, rfl⟩
    exact ⟨vm, hvm, rfl⟩

/-- The discovery loses no disk and no machine, and makes up none. -/
theorem discover_exact (vms : List Vm) (names : List (List Char))
    (h : (vms.map Vm.uuid).Nodup) :
    exists output, discover (vms.map Vm.line) names = some output ∧
      IsExact vms names output := by
  have hshown : ((vms.filter Vm.isShown).map Vm.uuid).Nodup :=
    h.sublist (List.filter_sublist.map _)
  have hvolumes : forall name, name ∈ volumes names -> isVolume name = true :=
    fun name hname => (List.mem_filter.mp hname).right
  rcases (covers_first hshown).assignAll hvolumes with ⟨output, houtput, hcovers⟩
  refine ⟨output, ?_, ?_, ?_⟩
  · rw [discover, readVms_lines]
    exact houtput
  · intro vm hvm hisShown
    rw [hcovers.own vm (List.mem_filter.mpr ⟨hvm, hisShown⟩), List.nil_append]
    exact vm.entries_perm (volumes_perm vm names)
  · intro entry hentry
    rcases hcovers.known entry hentry with ⟨vm, hvm, huuid⟩
    rcases List.mem_filter.mp hvm with ⟨hmem, hisShown⟩
    exact ⟨vm, hmem, hisShown, huuid⟩

def sampleVm (uuid state : List Char) (huuid : uuid.all isUuidChar = true)
    (hdashes : 2 ≤ uuid.count '-') (hcolon : ':' ∉ state) (hline : '\n' ∉ state)
    (hword : state.all (fun c => !isSpace c) = true) : Vm where
  uuid := uuid
  vmType := ⟨"KVM".toList, by decide, by decide⟩
  vmAlias := ⟨"web 1".toList, by decide, by decide⟩
  state := ⟨state, hcolon, hline⟩
  uuidChars := huuid
  uuidDashes := hdashes
  stateWord := hword

/-- Two machines, of which one is running. -/
def sampleVms : List Vm :=
  [sampleVm "1a-2-3".toList "running".toList (by decide) (by decide) (by decide) (by decide)
      (by decide),
    sampleVm "1b-2-3".toList "stopped".toList (by decide) (by decide) (by decide) (by decide)
      (by decide)]

theorem discover_exact_sample :
    exists output, discover (sampleVms.map Vm.line)
        ["1a-2-3/disk1".toList, "1b-2-3-disk0".toList, "1a-2-3-disk0".toList] = some output ∧
      IsExact sampleVms
        ["1a-2-3/disk1".toList, "1b-2-3-disk0".toList, "1a-2-3-disk0".toList] output :=
  discover_exact sampleVms _ (by decide)

end VmDisks
end Zabbix
end EsdcFactory
