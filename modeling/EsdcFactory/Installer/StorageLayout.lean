import EsdcFactory.Installer.AnswersFile
import EsdcFactory.Installer.Prompts
import EsdcFactory.Lib.Rounds
import EsdcFactory.Lib.Words

/-!
# The layout of the pool

`promptpool` goes around until a layout is accepted or a pool was made by hand.  The
layout is drawn up by `disklayout`, whose errors send the script around again, and a
layout that the answers file asks for is used without a question.
-/

namespace EsdcFactory
namespace Installer

open Printf

/-!
## Disks
-/

/-- What the tools of the system tell of its disks, line by line. -/
structure Hardware where
  /-- `diskinfo -Hp` -/
  diskinfo : List (List Char)
  /-- `fstyp -v`, of a device -/
  fstyp : List Char -> List (List Char)
  /-- `disklist -s` -/
  disklist : List (List Char)

/-- A field of a line, as awk numbers them. -/
def awkField (n : Nat) (line : List Char) : List Char :=
  (Words.words (fun c => c = ' ' || c = '\t') line).getD (n - 1) []

/-- `$0 ~ /^Volume Label:/ && $3 == label` -/
def hasLabel (label : String) (line : List Char) : Bool :=
  "Volume Label:".toList.isPrefixOf line && awkField 3 line = label.toList

/--
The search of a disk for a boot image.  `getline` replaces the fields, so that the second
device takes its name from the last line that was read about the first one.
-/
def isBootDisk (fstyp : List Char -> List (List Char)) (diskinfo : List Char) : Bool :=
  let first := fstyp ("/dev/dsk/".toList ++ awkField 2 diskinfo ++ "p1".toList)
  let name := awkField 2 (first.getLastD diskinfo)
  first.any (hasLabel "ESDC") ||
    (fstyp ("/dev/dsk/".toList ++ name ++ "s2".toList)).any (hasLabel "DANUBECLOUD")

/-- The lines of `/var/tmp/mydisks` -/
def mydisks (hardware : Hardware) : List (List Char) :=
  hardware.diskinfo.filter fun line =>
    awkField 1 line ≠ "USB".toList && !isBootDisk hardware.fstyp line

/-- The sizes that exactly two disks have. -/
def mirrorCandidates (hardware : Hardware) : Nat :=
  let sizes := hardware.disklist.map fun line => (line.splitOn '=').getD 1 []
  sizes.eraseDups.countP fun size => sizes.count size = 2

/-- Raidz layouts cannot be suggested when the system is installed on its disks. -/
def suggested (installToHdd : Bool) (hardware : Hardware) (layout : String) : String :=
  if layout = "" && installToHdd then
    if 1 ≤ mirrorCandidates hardware then "mirror" else "single"
  else layout

/-!
## The prompt
-/

/-- What stands around the script while it goes around once. -/
structure Turn where
  hardware : Hardware
  /-- the lines that are typed at the prompt -/
  typed : List String
  /-- whether `zpool list zones` finds a pool, when the shell is left -/
  zones : Bool

/-- The tools that the script calls. -/
structure Tools where
  /-- `disklayout -f`, for the lines of the file and the words behind it: its exit status
  and what it prints -/
  disklayout : List (List Char) -> List String -> Nat × List Char
  /-- how the `json` tool prints what is not a string -/
  shown : Json -> List Char

/-- What `promptpool` leaves: `DISK_LAYOUT`, the file it may name, and the answers. -/
structure Storage where
  diskLayout : String
  disklayoutJson : List Char
  answersOut : AnswersOut

/-- The state of the loop, with `layout` and `layout_answer`. -/
structure PoolPrompt extends Storage where
  layout : String
  layoutAnswer : String

def layoutFile : String := "/var/tmp/disklayout.json"

def diskLayoutKey : AnswerKey :=
  ⟨"disk_layout".toList, by decide, by decide, by decide⟩

/-- The layouts that `disklayout` is asked for by name. -/
def layouts : List String := ["single", "mirror", "raidz1", "raidz2", "raidz3"]

/-- The cases of the answer: the layout, and the answer as far as it counts. -/
def answered (answer : String) : String × String :=
  if answer = "raidz" then ("raidz1", answer)
  else if answer ∈ layouts then (answer, answer)
  else if answer ∈ ["<default>", "default", "yes"] then ("", answer)
  else ("", "")

/-- The layout that is typed. -/
def typedLayout (val : String) : Option String :=
  if val = "raidz" then some "raidz1"
  else if val ∈ layouts then some val
  else none

/-- `$layout`, which is no word when it is empty -/
def layoutWords (layout : String) : List String :=
  if layout = "" then [] else [layout]

/-- `json error | grep .` -/
def showsError (shown : Json -> List Char) (json : List Char) : Bool :=
  match Json.read json with
  | some (.obj members) =>
      match lookupLast "error".toList members with
      | none => false
      | some (.str text) => text.any (· ≠ '\n')
      | some value => (shown value).any (· ≠ '\n')
  | _ => false

def layoutName (layout : String) : String :=
  if layout = "" then "default" else layout

/-- The layout is used, and recorded under its name. -/
def PoolPrompt.accept (p : PoolPrompt) : PoolPrompt :=
  { p with
    diskLayout := layoutFile
    answersOut := addToAnswers diskLayoutKey.text p.layout.toList [] p.answersOut }

/-- What comes of a reply at the prompt. -/
def replied (turn : Turn) (val : String) (p : PoolPrompt) : Round PoolPrompt :=
  match typedLayout val with
  | some layout => .again { p with layout := layout }
  | none =>
      if val = "default" then .again { p with layout := "" }
      else if val = "yes" then .returned p.accept
      else if val = "manual" then
        let p := { p with layout := "", diskLayout := "manual" }
        if turn.zones then .returned p else .again p
      else .again { p with layout := "" }

/-- Where a layout comes from: the answers file, a reply, or the suggestion for disks. -/
inductive Chosen (installToHdd : Bool) (answer : String) (turns : List Turn) : String -> Prop
  | ofAnswer (h : (answered answer).1 ≠ "") : Chosen installToHdd answer turns (answered answer).1
  | ofReply {turn : Turn} {val layout : String} (hturn : turn ∈ turns)
      (hval : promptval "" "yes" turn.typed = some val) (h : typedLayout val = some layout) :
      Chosen installToHdd answer turns layout
  | ofDisks {turn : Turn} (hturn : turn ∈ turns) :
      Chosen installToHdd answer turns (suggested installToHdd turn.hardware "")

/-- The pool is to be made by the layout that was drawn up in the last turn. -/
structure Accepted (tools : Tools) (installToHdd : Bool) (answer : String) (turns : List Turn)
    (turn : Turn) (layout : String) (s s' : Storage) : Prop where
  chosen : Chosen installToHdd answer turns layout
  drawn : tools.disklayout (mydisks turn.hardware) (layoutWords layout) = (0, s'.disklayoutJson)
  noError : showsError tools.shown s'.disklayoutJson = false
  consent : (answered answer).2 ≠ "" ∨ promptval "" "yes" turn.typed = some "yes"
  path : s'.diskLayout = layoutFile
  answers : s'.answersOut =
    addToAnswers diskLayoutKey.text (layoutName layout).toList [] s.answersOut

variable {tools : Tools} {installToHdd : Bool} {answer : String} {s : Storage}

theorem Chosen.mono {turns more : List Turn} {layout : String}
    (h : Chosen installToHdd answer turns layout) (hsub : turns ⊆ more) :
    Chosen installToHdd answer more layout := by
  cases h with
  | ofAnswer h => exact .ofAnswer h
  | ofReply hturn hval h => exact .ofReply (hsub hturn) hval h
  | ofDisks hturn => exact .ofDisks (hsub hturn)

theorem typedLayout_mem {val layout : String} (h : typedLayout val = some layout) :
    layout ∈ layouts := by
  rw [typedLayout] at h
  split at h
  · cases h
    simp [layouts]
  · split at h
    · next hmem =>
        cases h
        exact hmem
    · cases h

theorem answered_mem (h : (answered answer).1 ≠ "") : (answered answer).1 ∈ layouts := by
  revert h
  rw [answered]
  split
  · intro _
    simp [layouts]
  · split
    · next hmem => exact fun _ => hmem
    · split
      · exact fun h => absurd rfl h
      · exact fun h => absurd rfl h

/-- No name is asked for that `disklayout` does not know, and on disks always one. -/
theorem Chosen.known {turns : List Turn} {layout : String}
    (h : Chosen installToHdd answer turns layout) :
    layout ∈ layouts ∨ layout = "" ∧ installToHdd = false := by
  cases h with
  | ofAnswer h => exact Or.inl (answered_mem h)
  | ofReply _ _ h => exact Or.inl (typedLayout_mem h)
  | ofDisks _ =>
      rw [suggested]
      cases installToHdd with
      | false => exact Or.inr ⟨rfl, rfl⟩
      | true =>
          refine Or.inl ?_
          rw [if_pos (by simp)]
          split
          · simp [layouts]
          · simp [layouts]

end Installer
end EsdcFactory
