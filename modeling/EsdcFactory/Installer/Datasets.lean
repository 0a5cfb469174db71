import EsdcFactory.Lib.WordSearch

/-!
# The datasets of the system pool

`setup_datasets` creates the datasets that are missing in the system pool.  It takes
the names of all datasets into one line and searches that line for each name.
-/

namespace EsdcFactory
namespace Installer

/-!
## Datasets
-/

def isNameChar (c : Char) : Bool :=
  c.isAlphanum || "-_.: /@%".toList.contains c

/-- A dataset, by its name, which holds nothing that the shell expands. -/
structure Dataset where
  name : List Char
  letter : name.head?.any Char.isAlpha = true
  allowed : name.all isNameChar = true
deriving DecidableEq

/-- `install_to_hdd` -/
inductive Mode where
  | usb
  | hdd
deriving DecidableEq

def dump : Dataset := ⟨"zones/dump".toList, by decide, by decide⟩
def confds : Dataset := ⟨"zones/config".toList, by decide, by decide⟩
def coreds : Dataset := ⟨"zones/cores".toList, by decide, by decide⟩
def optds : Dataset := ⟨"zones/opt".toList, by decide, by decide⟩
def usbkeyds : Dataset := ⟨"zones/usbkey".toList, by decide, by decide⟩
def swapvol : Dataset := ⟨"zones/swap".toList, by decide, by decide⟩
def backupds : Dataset := ⟨"zones/backups".toList, by decide, by decide⟩
def isods : Dataset := ⟨"zones/iso".toList, by decide, by decide⟩
def rootds : Dataset := ⟨"zones/ROOT".toList, by decide, by decide⟩
def rootbe : Dataset := ⟨"zones/ROOT/dcos-1".toList, by decide, by decide⟩

def vards : Mode -> Dataset
  | .usb => ⟨"zones/var".toList, by decide, by decide⟩
  | .hdd => ⟨"zones/ROOT/dcos-1/var".toList, by decide, by decide⟩

def backupdsFile : Dataset := ⟨"zones/backups/file".toList, by decide, by decide⟩
def backupdsDs : Dataset := ⟨"zones/backups/ds".toList, by decide, by decide⟩
def backupdsManifests : Dataset := ⟨"zones/backups/manifests".toList, by decide, by decide⟩

/-!
## Steps
-/

/-- A command whose failure is fatal. -/
inductive FatalCommand where
  | transferSystem
  | transferPlatform
  | enableDump
  | enterVar
  | initializeVar
  | setAtime
  | transferUsb
  | activate

/-- What `zfs create` does beside some datasets, and which other commands go well. -/
structure Host where
  creates : List Dataset -> Dataset -> Bool
  creates_new : forall datasets ds, creates datasets ds = true -> ds ∉ datasets
  succeeds : FatalCommand -> Bool

/-- The datasets of all pools, and those for which `zfs create` was called. -/
structure Pools where
  datasets : List Dataset
  calls : List Dataset

/-- A step of the setup, which is nothing after a fatal error. -/
abbrev Step := Pools -> Option Pools

/-- `zfs create`, whatever comes of it -/
def zfsCreate (host : Host) (ds : Dataset) (pools : Pools) : Pools where
  datasets := if host.creates pools.datasets ds then pools.datasets ++ [ds] else pools.datasets
  calls := pools.calls ++ [ds]

/-- `zfs create … || fatal` -/
def create (host : Host) (ds : Dataset) : Step := fun pools =>
  if host.creates pools.datasets ds then some (zfsCreate host ds pools) else none

/-- `… || fatal` -/
def orFatal (host : Host) (command : FatalCommand) : Step := fun pools =>
  if host.succeeds command then some pools else none

def words (ds : Dataset) : List (List Char) :=
  (ds.name.splitOn ' ').filter (· ≠ [])

/-- `echo $datasets`, one line of what `zfs list` has on several -/
def joined (datasets : List Dataset) : List Char :=
  [' '].intercalate (datasets.flatMap words)

/-- `if ! echo $datasets | grep PATTERN` -/
def unlessFound (line pattern : List Char) (body : Step) : Step := fun pools =>
  if pattern <:+: line then some pools else body pools

/-!
## `setup_datasets`
-/

def transferImage (host : Host) : Step := fun pools => do
  let pools := zfsCreate host rootbe (zfsCreate host rootds pools)
  let pools ← orFatal host .transferSystem pools
  orFatal host .transferPlatform pools

def createDump (host : Host) : Step := fun pools => do
  let pools ← create host dump pools
  orFatal host .enableDump pools

def initializeVar (host : Host) (mode : Mode) : Step := fun pools => do
  let pools ← create host (vards mode) pools
  let pools ← orFatal host .enterVar pools
  orFatal host .initializeVar pools

def createBackups (host : Host) : Step := fun pools => do
  let pools ← create host backupds pools
  let pools ← create host backupdsFile pools
  let pools ← create host backupdsDs pools
  create host backupdsManifests pools

def createIso (host : Host) : Step := fun pools => do
  let pools ← create host isods pools
  orFatal host .setAtime pools

/-- The nine tests. -/
def createMissing (host : Host) (mode : Mode) (line : List Char) : Step := fun pools => do
  let pools ← unlessFound line "dump".toList (createDump host) pools
  let pools ← unlessFound line confds.name (create host confds) pools
  let pools ← unlessFound line usbkeyds.name (create host usbkeyds) pools
  let pools ← unlessFound line coreds.name (create host coreds) pools
  let pools ← unlessFound line optds.name (create host optds) pools
  let pools ← unlessFound line (vards mode).name (initializeVar host mode) pools
  let pools ← unlessFound line swapvol.name (create host swapvol) pools
  let pools ← unlessFound line backupds.name (createBackups host) pools
  unlessFound line isods.name (createIso host) pools

def activateHdd (host : Host) : Step := fun pools => do
  let pools ← orFatal host .transferUsb pools
  orFatal host .activate pools

/-- `setup_datasets`, which takes the line before anything is created -/
def setupDatasets (host : Host) (mode : Mode) (datasets : List Dataset) : Option Pools := do
  let line := joined datasets
  let pools ← if mode = .hdd then transferImage host ⟨datasets, []⟩ else some ⟨datasets, []⟩
  let pools ← createMissing host mode line pools
  if mode = .hdd then activateHdd host pools else some pools

/-!
## What is asked of it
-/

/-- A test of `setup_datasets`: what it searches for, and what it creates. -/
structure Test where
  pattern : List Char
  dataset : Dataset
  children : List Dataset

def tests (mode : Mode) : List Test :=
  [⟨"dump".toList, dump, []⟩, ⟨confds.name, confds, []⟩, ⟨usbkeyds.name, usbkeyds, []⟩,
    ⟨coreds.name, coreds, []⟩, ⟨optds.name, optds, []⟩, ⟨(vards mode).name, vards mode, []⟩,
    ⟨swapvol.name, swapvol, []⟩,
    ⟨backupds.name, backupds, [backupdsFile, backupdsDs, backupdsManifests]⟩,
    ⟨isods.name, isods, []⟩]

/-- The datasets of the mode all exist, and none is created that was there. -/
structure CreatesMissing (mode : Mode) (before : List Dataset) (after : Pools) : Prop where
  exist : forall test, test ∈ tests mode -> test.dataset ∈ after.datasets
  /-- `zfs create` is not even called for a dataset that is tested for -/
  uncalled : forall test ds, test ∈ tests mode -> ds ∈ test.dataset :: test.children ->
    ds ∈ before -> ds ∉ after.calls
  created : exists made, after.datasets = before ++ made ∧ forall ds, ds ∈ made -> ds ∉ before

/-- No dataset has the name of a missing one in its own, or `dump` if that is missing. -/
def Unmasked (mode : Mode) (before : List Dataset) : Prop :=
  forall test, test ∈ tests mode -> test.dataset ∉ before ->
    forall ds, ds ∈ before -> ¬ test.pattern <:+: ds.name

/-!
## The search
-/

theorem infix_joined_iff {pattern : List Char} (hblank : ' ' ∉ pattern) (hne : pattern ≠ [])
    (datasets : List Dataset) :
    pattern <:+: joined datasets <-> exists ds, ds ∈ datasets ∧ pattern <:+: ds.name := by
  have hwords : forall ds : Dataset,
      (exists word, word ∈ words ds ∧ pattern <:+: word) <-> pattern <:+: ds.name := by
    intro ds
    rw [← WordSearch.infix_splitOn_iff hblank hne]
    constructor
    · intro h
      rcases h with ⟨word, hword, hinfix⟩
      exact ⟨word, List.mem_of_mem_filter hword, hinfix⟩
    · intro h
      rcases h with ⟨word, hword, hinfix⟩
      refine ⟨word, List.mem_filter.mpr ⟨hword, ?_⟩, hinfix⟩
      apply decide_eq_true
      intro hnil
      rw [hnil, List.infix_nil] at hinfix
      exact hne hinfix
  rw [joined, WordSearch.infix_intercalate_iff hblank hne]
  constructor
  · intro h
    rcases h with ⟨word, hword, hinfix⟩
    rcases List.mem_flatMap.mp hword with ⟨ds, hds, hmem⟩
    exact ⟨ds, hds, (hwords ds).mp ⟨word, hmem, hinfix⟩⟩
  · intro h
    rcases h with ⟨ds, hds, hinfix⟩
    rcases (hwords ds).mpr hinfix with ⟨word, hmem, hword⟩
    exact ⟨word, List.mem_flatMap.mpr ⟨ds, hds, hmem⟩, hword⟩

theorem tests_searchable : forall mode test, test ∈ tests mode ->
    ' ' ∉ test.pattern ∧ test.pattern ≠ [] := by
  intro mode
  cases mode <;> decide +kernel

/-- No two tests share a dataset, and none is one of the boot environment. -/
theorem tests_apart : forall mode test, test ∈ tests mode ->
    (forall other, other ∈ tests mode ->
      test.dataset ∈ other.dataset :: other.children -> other.pattern = test.pattern) ∧
    forall ds, ds ∈ test.dataset :: test.children -> ds ≠ rootds ∧ ds ≠ rootbe := by
  intro mode
  cases mode <;> decide +kernel

/-!
## What a step creates
-/

/-- A step that is finished has created these datasets, which were not there. -/
def Makes (names : List Dataset) (step : Step) : Prop :=
  forall pools after, step pools = some after ->
    after.datasets = pools.datasets ++ names ∧ after.calls = pools.calls ++ names ∧
      forall ds, ds ∈ names -> ds ∉ pools.datasets

theorem makes_create (host : Host) (ds : Dataset) : Makes [ds] (create host ds) := by
  intro pools after h
  rw [create] at h
  split at h
  next hcreates =>
    cases h
    refine ⟨if_pos hcreates, rfl, ?_⟩
    intro other hother
    rw [List.mem_singleton.mp hother]
    exact host.creates_new _ _ hcreates
  next => cases h

theorem makes_orFatal (host : Host) (command : FatalCommand) : Makes [] (orFatal host command) := by
  intro pools after h
  rw [orFatal] at h
  split at h
  next =>
    cases h
    exact ⟨(List.append_nil _).symm, (List.append_nil _).symm, nofun⟩
  next => cases h

theorem Makes.bind {names more : List Dataset} {first second : Step} (hfirst : Makes names first)
    (hsecond : Makes more second) :
    Makes (names ++ more) fun pools => first pools >>= second := by
  intro pools after h
  rcases Option.bind_eq_some_iff.mp h with ⟨between, hbetween, hafter⟩
  rcases hfirst pools between hbetween with ⟨hdatasets, hcalls, hnew⟩
  rcases hsecond between after hafter with ⟨hdatasets', hcalls', hnew'⟩
  refine ⟨by rw [hdatasets', hdatasets, List.append_assoc],
    by rw [hcalls', hcalls, List.append_assoc], ?_⟩
  intro ds hds hold
  rcases List.mem_append.mp hds with hmem | hmem
  · exact hnew ds hmem hold
  · apply hnew' ds hmem
    rw [hdatasets]
    exact List.mem_append_left _ hold

/-- What a test creates, given the line that is searched. -/
def Test.made (line : List Char) (test : Test) : List Dataset :=
  if test.pattern <:+: line then [] else test.dataset :: test.children

theorem Makes.unlessFound {names : List Dataset} {line pattern : List Char} {body : Step}
    (h : Makes names body) :
    Makes (if pattern <:+: line then [] else names) (unlessFound line pattern body) := by
  intro pools after heq
  rw [Installer.unlessFound] at heq
  split at heq
  next hfound =>
    cases heq
    rw [if_pos hfound]
    exact ⟨(List.append_nil _).symm, (List.append_nil _).symm, nofun⟩
  next hmissing =>
    rw [if_neg hmissing]
    exact h pools after heq

theorem makes_createMissing (host : Host) (mode : Mode) (line : List Char) :
    Makes ((tests mode).flatMap (Test.made line)) (createMissing host mode line) := by
  have hdump : Makes [dump] (createDump host) :=
    (makes_create host dump).bind (makes_orFatal host .enableDump)
  have hvar : Makes [vards mode] (initializeVar host mode) :=
    (makes_create host (vards mode)).bind
      ((makes_orFatal host .enterVar).bind (makes_orFatal host .initializeVar))
  have hbackups : Makes [backupds, backupdsFile, backupdsDs, backupdsManifests]
      (createBackups host) :=
    (makes_create host backupds).bind ((makes_create host backupdsFile).bind
      ((makes_create host backupdsDs).bind (makes_create host backupdsManifests)))
  have hiso : Makes [isods] (createIso host) :=
    (makes_create host isods).bind (makes_orFatal host .setAtime)
  simp only [tests, List.flatMap_cons, List.flatMap_nil, List.append_nil]
  exact hdump.unlessFound.bind <| (makes_create host confds).unlessFound.bind <|
    (makes_create host usbkeyds).unlessFound.bind <|
    (makes_create host coreds).unlessFound.bind <|
    (makes_create host optds).unlessFound.bind <| hvar.unlessFound.bind <|
    (makes_create host swapvol).unlessFound.bind <| hbackups.unlessFound.bind hiso.unlessFound

/-- The boot environment is created if `zfs create` lets it; it is called in any case. -/
theorem zfsCreate_eq (host : Host) (ds : Dataset) (pools : Pools) :
    (zfsCreate host ds pools).calls = pools.calls ++ [ds] ∧
      exists made, (zfsCreate host ds pools).datasets = pools.datasets ++ made ∧
        forall other, other ∈ made -> other = ds ∧ other ∉ pools.datasets := by
  refine ⟨rfl, ?_⟩
  by_cases hcreates : host.creates pools.datasets ds = true
  · refine ⟨[ds], if_pos hcreates, ?_⟩
    intro other hother
    rw [List.mem_singleton.mp hother]
    exact ⟨rfl, host.creates_new _ _ hcreates⟩
  · exact ⟨[], by rw [zfsCreate, if_neg hcreates, List.append_nil], nofun⟩

theorem transferImage_eq {host : Host} {pools after : Pools}
    (h : transferImage host pools = some after) :
    after.calls = pools.calls ++ [rootds, rootbe] ∧
      exists made, after.datasets = pools.datasets ++ made ∧
        forall ds, ds ∈ made -> (ds = rootds ∨ ds = rootbe) ∧ ds ∉ pools.datasets := by
  have hchecks := (makes_orFatal host .transferSystem).bind (makes_orFatal host .transferPlatform)
  rcases hchecks _ after h with ⟨hdatasets, hcalls, _⟩
  rcases zfsCreate_eq host rootds pools with ⟨hcalls₁, made₁, hdatasets₁, hmade₁⟩
  rcases zfsCreate_eq host rootbe (zfsCreate host rootds pools) with
    ⟨hcalls₂, made₂, hdatasets₂, hmade₂⟩
  rw [List.append_nil, List.append_nil] at hdatasets hcalls
  refine ⟨?_, made₁ ++ made₂, ?_, ?_⟩
  · rw [hcalls, hcalls₂, hcalls₁, List.append_assoc]
    rfl
  · rw [hdatasets, hdatasets₂, hdatasets₁, List.append_assoc]
  · intro ds hds
    rcases List.mem_append.mp hds with hmem | hmem
    · exact ⟨Or.inl (hmade₁ ds hmem).left, (hmade₁ ds hmem).right⟩
    · rcases hmade₂ ds hmem with ⟨heq, hnew⟩
      rw [hdatasets₁, List.mem_append, not_or] at hnew
      exact ⟨Or.inr heq, hnew.left⟩

/-- A run that is finished creates the boot environment first and then what is not found. -/
theorem setupDatasets_eq {host : Host} {mode : Mode} {before : List Dataset} {after : Pools}
    (h : setupDatasets host mode before = some after) :
    exists boot called, after.datasets =
        before ++ boot ++ (tests mode).flatMap (Test.made (joined before)) ∧
      after.calls = called ++ (tests mode).flatMap (Test.made (joined before)) ∧
      (forall ds, ds ∈ called -> ds = rootds ∨ ds = rootbe) ∧
      (forall ds, ds ∈ boot -> (ds = rootds ∨ ds = rootbe) ∧ ds ∉ before) ∧
      forall ds, ds ∈ (tests mode).flatMap (Test.made (joined before)) -> ds ∉ before ++ boot := by
  have hmissing := makes_createMissing host mode (joined before)
  cases mode with
  | usb =>
      rcases Option.bind_eq_some_iff.mp h with ⟨_, hpools, heq⟩
      cases heq
      rcases hmissing ⟨before, []⟩ after hpools with ⟨hdatasets, hcalls, hnew⟩
      refine ⟨[], [], ?_, hcalls, nofun, nofun, ?_⟩
      · rw [List.append_nil]
        exact hdatasets
      · rw [List.append_nil]
        exact hnew
  | hdd =>
      rcases Option.bind_eq_some_iff.mp h with ⟨image, himage, hrest⟩
      have hactivate : Makes [] (activateHdd host) :=
        (makes_orFatal host .transferUsb).bind (makes_orFatal host .activate)
      rcases transferImage_eq himage with ⟨hcalled, boot, hboot, hmade⟩
      rcases hmissing.bind hactivate image after hrest with ⟨hdatasets, hcalls, hnew⟩
      rw [List.append_nil] at hdatasets hcalls hnew
      rw [hboot] at hdatasets hnew
      rw [hcalled, List.nil_append] at hcalls
      refine ⟨boot, _, hdatasets, hcalls, ?_, hmade, hnew⟩
      intro ds hds
      rcases List.mem_cons.mp hds with heq | hds
      · exact Or.inl heq
      · exact Or.inr (List.mem_singleton.mp hds)

theorem mem_made {line : List Char} {test : Test} {ds : Dataset} :
    ds ∈ test.made line <->
      ¬ test.pattern <:+: line ∧ ds ∈ test.dataset :: test.children := by
  rw [Test.made]
  split
  next hfound => simp [hfound]
  next hmissing => simp [hmissing]

/--
A run that is finished has created what was missing, and nothing else, exactly when no
name hid a missing dataset from its test.
-/
theorem setupDatasets_createsMissing_iff (host : Host) (mode : Mode) (before : List Dataset)
    (after : Pools) (h : setupDatasets host mode before = some after) :
    CreatesMissing mode before after <-> Unmasked mode before := by
  rcases setupDatasets_eq h with ⟨boot, called, hdatasets, hcalls, hcalled, hboot, hnew⟩
  constructor
  · intro hall test htest hmissing ds hds hinfix
    rcases tests_searchable mode test htest with ⟨hblank, hne⟩
    rcases tests_apart mode test htest with ⟨happart, hother⟩
    have hfound : test.pattern <:+: joined before :=
      (infix_joined_iff hblank hne before).mpr ⟨ds, hds, hinfix⟩
    have hexists := hall.exist test htest
    rw [hdatasets, List.mem_append, List.mem_append] at hexists
    rcases hexists with (hold | hmem) | hmem
    · exact hmissing hold
    · rcases hother _ List.mem_cons_self with ⟨hroot, hbe⟩
      exact (hboot _ hmem).left.elim hroot hbe
    · rcases List.mem_flatMap.mp hmem with ⟨other, hothers, hmade⟩
      rcases mem_made.mp hmade with ⟨hunfound, hshared⟩
      rw [happart other hothers hshared] at hunfound
      exact hunfound hfound
  · intro hunmasked
    constructor
    · intro test htest
      rw [hdatasets, List.mem_append, List.mem_append]
      by_cases hold : test.dataset ∈ before
      · exact Or.inl (Or.inl hold)
      · rcases tests_searchable mode test htest with ⟨hblank, hne⟩
        refine Or.inr (List.mem_flatMap.mpr ⟨test, htest, mem_made.mpr ⟨?_, List.mem_cons_self⟩⟩)
        rw [infix_joined_iff hblank hne]
        intro hfound
        rcases hfound with ⟨ds, hds, hinfix⟩
        exact hunmasked test htest hold ds hds hinfix
    · intro test ds htest hds hold hcall
      rw [hcalls, List.mem_append] at hcall
      rcases hcall with hmem | hmem
      · rcases (tests_apart mode test htest).right ds hds with ⟨hroot, hbe⟩
        exact (hcalled ds hmem).elim hroot hbe
      · exact hnew ds hmem (List.mem_append_left _ hold)
    · refine ⟨boot ++ (tests mode).flatMap (Test.made (joined before)), ?_, ?_⟩
      · rw [hdatasets, List.append_assoc]
      · intro ds hds
        rcases List.mem_append.mp hds with hmem | hmem
        · exact (hboot ds hmem).right
        · exact fun hold => hnew ds hmem (List.mem_append_left _ hold)

/-- A host on which all goes well. -/
def soundHost : Host where
  creates datasets ds := decide (ds ∉ datasets)
  creates_new _ _ h := of_decide_eq_true h
  succeeds _ := true

def zones : Dataset := ⟨"zones".toList, by decide, by decide⟩

theorem setupDatasets_createsMissing_iff_fresh :
    exists after, setupDatasets soundHost .usb [zones] = some after ∧
      (CreatesMissing .usb [zones] after <-> Unmasked .usb [zones]) := by
  have hsome : (setupDatasets soundHost .usb [zones]).isSome = true := by decide +kernel
  rcases Option.isSome_iff_exists.mp hsome with ⟨after, hafter⟩
  exact ⟨after, hafter, setupDatasets_createsMissing_iff soundHost .usb [zones] after hafter⟩

/-- A pool with a dataset of a database dump, and with no other one. -/
def dumped : List Dataset :=
  [zones, ⟨"zones/mysqldump".toList, by decide, by decide⟩]

theorem dump_is_masked : ¬ forall host mode before after,
    setupDatasets host mode before = some after -> CreatesMissing mode before after := by
  intro h
  have hrun : (setupDatasets soundHost .usb dumped).any
      (fun after => decide (dump ∉ after.datasets)) = true := by decide +kernel
  rcases (Option.any_eq_true _ _).mp hrun with ⟨after, hafter, hmissing⟩
  have hexists := (h soundHost .usb dumped after hafter).exist _ List.mem_cons_self
  exact of_decide_eq_true hmissing hexists

end Installer
end EsdcFactory
