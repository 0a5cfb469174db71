import EsdcFactory.Installer.AnswersFile
import EsdcFactory.Lib.Interrupt

/-!
# The store of the generated passwords

`get_password` generates a password once and keeps it in a file, so that a setup
that is taken up again finds the passwords of its earlier runs.  The file is
replaced by a rename; each step before that can be the last one of a run.
-/

namespace EsdcFactory
namespace Headnode

open Interrupt Installer

/-!
## The tool that reads and merges
-/

/-- What the JSON tool reads from a file, which is nothing from an empty or broken one. -/
abbrev File := Option Json

/-- A name that is one key for the tool, and that stands for itself in a JSON string. -/
structure IsKeyName (name : List Char) : Prop where
  ne_nil : name ≠ []
  /-- no option -/
  not_option : name.head? ≠ some '-'
  /-- no index of an array -/
  not_index : exists c, c ∈ name ∧ c.isDigit = false
  literal : forall c, c ∈ name -> Json.isLiteral c = true
  /-- no separator of a path -/
  undivided : forall c, c ∈ name -> c ≠ '.' ∧ c ≠ '[' ∧ c ≠ ']'

/--
The commands `json FILE NAME` and `json --merge`, as far as they are documented.  A
lookup follows the keys of a path; of objects that are merged the last one counts.
-/
structure JsonTool where
  /-- a value in the output, as `$(...)` leaves it -/
  shown : Json -> List Char
  shown_str : forall text, shown (.str text) = substituted text
  /-- `$(json -f FILE NAME)` -/
  lookup : Json -> List Char -> List Char
  lookup_key : forall members name, IsKeyName name ->
    lookup (.obj members) name = ((lookupLast name members).map shown).getD []
  /-- the file that `cat FILE <(echo TEXT) | json --merge` makes -/
  merge : File -> List Char -> File
  merge_empty : forall text new, Json.read text = some (.obj new) ->
    exists members, merge none text = some (.obj members) ∧
      forall key, lookupLast key members = lookupLast key new
  merge_object : forall old text new, Json.read text = some (.obj new) ->
    exists members, merge (some (.obj old)) text = some (.obj members) ∧
      forall key, lookupLast key members = (lookupLast key new).or (lookupLast key old)

/-!
## Getting a password
-/

/-- The characters of `openssl rand -base64`. -/
def isBase64 (c : Char) : Bool :=
  c.isAlphanum || c = '+' || c = '/' || c = '=' || c = '\n'

/-- `tr -dc _A-Z-a-z-0-9` -/
def stripAwkward (text : List Char) : List Char :=
  text.filter fun c => c = '_' || c.isUpper || c = '-' || c.isLower || c.isDigit

/-- A call of `get_password`, with what `openssl` prints for each length. -/
structure PasswordCall where
  pwdname : List Char
  length : List Char
  openssl : List Char -> List Char
  base64 : forall length c, c ∈ openssl length -> isBase64 c = true
  /-- what reaches the file before its end, when the merge writes it in parts -/
  parts : List File

/-- `random_string` -/
def PasswordCall.randomString (call : PasswordCall) : List Char :=
  stripAwkward (call.openssl (if call.length = [] then "24".toList else call.length))

structure PasswordFiles where
  /-- `PWD_TMPSTORE` -/
  store : Option File
  /-- `PWD_TMPSTORE.tmp` -/
  tmp : Option File

/-- `json --validate -qf "${PWD_TMPSTORE}"` -/
def PasswordFiles.document (files : PasswordFiles) : File :=
  files.store.join

/-- The password in a valid store; another store is emptied. -/
def readPassword (tool : JsonTool) (pwdname : List Char) :
    Program PasswordFiles (List Char) := do
  let document <- read PasswordFiles.document
  match document with
  | some json => return tool.lookup json pwdname
  | none => do
      write fun files => { files with store := none }
      write fun files => { files with store := some none }
      return []

/-- The password that the store has for a name, or nothing. -/
def PasswordFiles.stored (tool : JsonTool) (files : PasswordFiles) (name : List Char) :
    List Char :=
  match files.document with
  | some json => tool.lookup json name
  | none => []

/-- The store is an object, if it is a document at all. -/
def PasswordFiles.IsObject (files : PasswordFiles) : Prop :=
  forall json, files.document = some json -> exists members, json = .obj members

/-!
## Calls that follow one another
-/

/-- Every password but a missing one of the given name stays what it is. -/
structure Keeps (tool : JsonTool) (name : List Char) (before after : PasswordFiles) : Prop where
  isObject : after.IsObject
  stored : forall other, IsKeyName other -> other ≠ name ∨ before.stored tool other ≠ [] ->
    after.stored tool other = before.stored tool other

/-- The invariant of the calls: what was returned is in the store. -/
structure Remembers (tool : JsonTool) (locale : Printf.ShellLocale) (files : PasswordFiles)
    (past : List (List Char × List Char)) : Prop where
  isObject : files.IsObject
  returned : forall entry, entry ∈ past -> IsKeyName entry.1 ∧ files.stored tool entry.1 ≠ [] ∧
    entry.2 = Printf.printf locale (files.stored tool entry.1)

theorem Remembers.keeps {tool : JsonTool} {locale : Printf.ShellLocale}
    {files files' : PasswordFiles} {past : List (List Char × List Char)} {name : List Char}
    (h : Remembers tool locale files past) (hkeeps : Keeps tool name files files') :
    Remembers tool locale files' past where
  isObject := hkeeps.isObject
  returned entry hentry := by
    rcases h.returned entry hentry with ⟨hkey, hne, hvalue⟩
    rw [hkeeps.stored entry.1 hkey (Or.inr hne)]
    exact ⟨hkey, hne, hvalue⟩

theorem Keeps.refl {tool : JsonTool} {name : List Char} {files : PasswordFiles}
    (h : files.IsObject) : Keeps tool name files files :=
  ⟨h, fun _ _ _ => rfl⟩

end Headnode
end EsdcFactory
