import EsdcFactory.Lib.BashArith

/-!
# Prompts of the installer

What the prompts of `prompt-config.sh` accept.  A prompt first looks for an
answer in the answers file and otherwise reads lines until one is accepted.  An
answer that the file does not hold is the empty string, and a typed line is what
`read` makes of it.
-/

namespace EsdcFactory
namespace Installer

open BashArith Decimal

/-!
## Validators
-/

/-- `isdigit` -/
def isdigit (word : List Char) : Bool :=
  !word.isEmpty && word.all Char.isDigit

/--
`[ $a -gt 255 ]`: the test of a number that does not fit a machine integer is an
error, and then no reason to refuse it.
-/
def isAbove255 (word : List Char) : Bool :=
  255 < digitsValue 10 word && digitsValue 10 word < 2 ^ 63

/-- `is_net`, which looks at four fields and sets no bound for the last. -/
def isNet (net : String) : Bool :=
  let fields := splitFields '.' net.toList
  let a := fields.getD 0 []
  let b := fields.getD 1 []
  let c := fields.getD 2 []
  let d := fields.getD 3 []
  isdigit a && isdigit b && isdigit c && isdigit d &&
    !isAbove255 a && !isAbove255 b && !isAbove255 c

def isHexDigit (c : Char) : Bool :=
  c.isDigit || ('a' ≤ c && c ≤ 'f')

/-- A pair of digits, followed by so many more pairs behind colons. -/
def hexPairs : Nat -> List Char -> Bool
  | 0, [a, b] => isHexDigit a && isHexDigit b
  | n + 1, a :: b :: ':' :: rest => isHexDigit a && isHexDigit b && hexPairs n rest
  | _, _ => false

/-- `is_mac` -/
def isMac (mac : String) : Bool :=
  hexPairs 5 (mac.toList.map Char.toLower)

/-- `valid_stub_name` -/
def validStubName (name : String) : Bool :=
  name.length ≤ 31 && name.toList.all (fun c => c.isAlphanum || c = '_') &&
    name.toList.getLast?.any Char.isDigit

/-!
## Reading an answer
-/

/-- Read lines, where an empty one stands for the default, until one is accepted. -/
def readUntil (default : String) (accepts : String -> Bool) :
    List String -> Option String
  | [] => none
  | line :: rest =>
      let val := if line = "" then default else line
      if val ≠ "" ∧ accepts val then some val
      else readUntil default accepts rest

/-- The answer of the file, with `<default>` standing for a default that exists. -/
def fileAnswer (answer default : String) : String :=
  if answer = "<default>" ∧ default ≠ "" then default else answer

/-- Forward and back quotes are not allowed in a typed value. -/
def hasNoQuotes (val : String) : Bool :=
  !val.toList.contains '\'' && !val.toList.contains '`'

/-- `promptval`: only typed values are checked for quotes. -/
def promptval (answer default : String) (typed : List String) : Option String :=
  if answer ≠ "" then some (fileAnswer answer default)
  else readUntil default hasNoQuotes typed

/-- `prompt_hostname`, which asks for a dot and never ends on a bad file answer. -/
def promptHostname (answer default : String) (typed : List String) :
    Option String :=
  if answer ≠ "" then
    if (fileAnswer answer default).toList.contains '.' then
      some (fileAnswer answer default)
    else none
  else readUntil default (fun val => hasNoQuotes val && val.toList.contains '.') typed

/-- `prompt_host_ok_val`: the connectivity check has no say in the result. -/
def promptHostOkVal (answer default : String) (typed : List String) :
    Option String :=
  if answer ≠ "" then some (fileAnswer answer default)
  else readUntil default (fun _ => true) typed

/-- A value that `promptnet` accepts without further choices. -/
def isNetValue (val : String) : Bool :=
  val = "none" || val = "dhcp" || isNet val

/-- `promptnet` -/
def promptnet (answer default : String) (typed : List String) : Option String :=
  if isNetValue (fileAnswer answer default) then some (fileAnswer answer default)
  else readUntil default isNetValue typed

/-- Read lines until one is not empty. -/
def readConfirmation : List String -> Option (String × List String)
  | [] => none
  | line :: rest => if line ≠ "" then some (line, rest) else readConfirmation rest

/-- The typed part of `promptpw`: a password and its confirmation. -/
def readPassword (checkLength : Bool) (default : String) :
    Nat -> List String -> Option String
  | 0, _ => none
  | _ + 1, [] => none
  | fuel + 1, line :: rest =>
      if line = "" then
        if default ≠ "" then some default
        else readPassword checkLength default fuel rest
      else if checkLength && line.length < 6 then
        readPassword checkLength default fuel rest
      else
        match readConfirmation rest with
        | none => none
        | some (confirmation, rest) =>
            if line = confirmation then some line
            else readPassword checkLength default fuel rest

/-- `promptpw`, which never runs out of rounds before it runs out of lines. -/
def promptpw (checkLength : Bool) (answer default : String)
    (typed : List String) : Option String :=
  if answer ≠ "" ∧ ¬ (checkLength ∧ answer.length < 6) then some answer
  else readPassword checkLength default (typed.length + 1) typed

/-!
## What the prompts return
-/

theorem readUntil_some {default val : String} {accepts : String -> Bool}
    {typed : List String} (h : readUntil default accepts typed = some val) :
    val ≠ "" ∧ accepts val = true := by
  induction typed with
  | nil => cases h
  | cons line rest ih =>
      unfold readUntil at h
      simp only at h
      generalize (if line = "" then default else line) = entered at h
      split at h
      · rename_i hval
        cases h
        exact hval
      · exact ih h

theorem isNetValue_ne_empty {val : String} (h : isNetValue val = true) :
    val ≠ "" := by
  intro heq
  subst heq
  revert h
  decide

theorem promptnet_isNetValue {answer default val : String} {typed : List String}
    (h : promptnet answer default typed = some val) : isNetValue val = true := by
  unfold promptnet at h
  split at h
  · cases h
    assumption
  · exact (readUntil_some h).right

theorem promptpw_ne_empty {checkLength : Bool} {answer default val : String}
    {typed : List String}
    (h : promptpw checkLength answer default typed = some val) : val ≠ "" := by
  have hread : forall (fuel : Nat) (lines : List String),
      readPassword checkLength default fuel lines = some val -> val ≠ "" := by
    intro fuel
    induction fuel with
    | zero =>
        intro lines hnone
        cases lines <;> cases hnone
    | succ fuel ih =>
        intro lines hsome
        cases lines with
        | nil => cases hsome
        | cons line rest =>
            unfold readPassword at hsome
            split at hsome
            · split at hsome
              · cases hsome
                assumption
              · exact ih rest hsome
            · split at hsome
              · exact ih rest hsome
              · split at hsome
                · cases hsome
                · split at hsome
                  · cases hsome
                    assumption
                  · exact ih _ hsome
  unfold promptpw at h
  split at h
  · rename_i hanswer
    cases h
    exact hanswer.left
  · exact hread _ _ h

end Installer
end EsdcFactory
