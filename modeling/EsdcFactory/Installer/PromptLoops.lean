import EsdcFactory.Lib.Retry
import EsdcFactory.Installer.MainLoop

/-!
# Prompts that are repeated

The loops of the installer that ask again until a value is accepted.  Some of
them look at the answer of the file once and then read the terminal.  Others are
put around a prompt that looks at the file each time it is called.
-/

namespace EsdcFactory
namespace Installer

open BashArith Retry

/-!
## Prompts
-/

/-- A prompt: the value it takes from the file, if any, and how it reads lines. -/
structure Prompt where
  key : String
  fileVal : Option String
  read : List String -> Option (String × List String)
  read_lt : forall typed val rest, read typed = some (val, rest) ->
    rest.length < typed.length

/-- The value of a prompt, where it comes from, and the lines behind it. -/
def Prompt.answer (p : Prompt) (typed : List String) :
    Option (String × Source × List String) :=
  match p.fileVal with
  | some val => some (val, .file, typed)
  | none => (p.read typed).map fun found => (found.1, .terminal, found.2)

/-- A line that was typed, where an empty one stands for the default. -/
def entered (default line : String) : String :=
  if line = "" then default else line

/-- Read lines until one is accepted. -/
def readReply (default : String) (accepts : String -> Bool) :
    List String -> Option (String × List String)
  | [] => none
  | line :: rest =>
      if entered default line ≠ "" ∧ accepts (entered default line) then
        some (entered default line, rest)
      else readReply default accepts rest

theorem readReply_lt {default val : String} {accepts : String -> Bool}
    {typed rest : List String} (h : readReply default accepts typed = some (val, rest)) :
    rest.length < typed.length := by
  induction typed with
  | nil => cases h
  | cons line typed ih =>
      rw [readReply] at h
      split at h
      · cases h
        exact Nat.lt_succ_self _
      · exact Nat.lt_succ_of_lt (ih h)

/-- `$(getanswer "${key}")`, which is empty without a key or an answer -/
def answerText (file : String -> Option String) (key : String) : String :=
  if key = "" then "" else (file key).getD ""

/-- `promptval` -/
def valPrompt (file : String -> Option String) (key default : String) : Prompt where
  key := key
  fileVal :=
    if answerText file key = "" then none
    else some (fileAnswer (answerText file key) default)
  read := readReply default hasNoQuotes
  read_lt _ _ _ h := readReply_lt h

/-- `promptopt`, which takes an answer that is there, be it empty or not. -/
def optPrompt (file : String -> Option String) (key default : String) : Prompt where
  key := key
  fileVal :=
    if key = "" then none
    else (file key).map fun val => if val = "<default>" then default else val
  read
    | [] => none
    | line :: rest => some (entered default line, rest)
  read_lt typed val rest h := by
    cases typed with
    | nil => cases h
    | cons line typed =>
        cases h
        exact Nat.lt_succ_self _

/-- `promptnet` without extra values -/
def netPrompt (file : String -> Option String) (key default : String) : Prompt where
  key := key
  fileVal :=
    if isNetValue (fileAnswer (answerText file key) default) then
      some (fileAnswer (answerText file key) default)
    else none
  read := readReply default isNetValue
  read_lt _ _ _ h := readReply_lt h

theorem readReply_fst (default : String) (accepts : String -> Bool) (typed : List String) :
    (readReply default accepts typed).map Prod.fst = readUntil default accepts typed := by
  induction typed with
  | nil => rfl
  | cons line typed ih =>
      rw [readReply, readUntil]
      by_cases h : entered default line ≠ "" ∧ accepts (entered default line) = true
      · rw [if_pos h]
        exact (if_pos h).symm
      · rw [if_neg h, ih]
        exact (if_neg h).symm

theorem Prompt.answer_fst (p : Prompt) (typed : List String) :
    (p.answer typed).map Prod.fst =
      match p.fileVal with
      | some val => some val
      | none => (p.read typed).map Prod.fst := by
  unfold answer
  cases p.fileVal with
  | some val => rfl
  | none => simp [Option.map_map, Function.comp_def]

theorem valPrompt_answer (file : String -> Option String) (key default : String)
    (typed : List String) :
    ((valPrompt file key default).answer typed).map Prod.fst =
      promptval (answerText file key) default typed := by
  rw [Prompt.answer_fst, promptval, ← readReply_fst]
  by_cases h : answerText file key = ""
  · simp [valPrompt, h]
  · simp [valPrompt, h]

theorem netPrompt_answer (file : String -> Option String) (key default : String)
    (typed : List String) :
    ((netPrompt file key default).answer typed).map Prod.fst =
      promptnet (answerText file key) default typed := by
  rw [Prompt.answer_fst, promptnet, ← readReply_fst]
  by_cases h : isNetValue (fileAnswer (answerText file key) default) = true
  · simp [netPrompt, h]
  · simp [netPrompt, h]

theorem netPrompt_again {file : String -> Option String} {key default val : String}
    (h : (netPrompt file key default).fileVal = some val) :
    (netPrompt file key val).fileVal = some val := by
  change (if isNetValue (fileAnswer (answerText file key) default) then _ else none) = _ at h
  change (if isNetValue (fileAnswer (answerText file key) val) then _ else none) = _
  split at h
  · rename_i hnet
    have hval : fileAnswer (answerText file key) default = val := Option.some.inj h
    rw [hval] at hnet
    have hagain : fileAnswer (answerText file key) val = val := by
      unfold fileAnswer at hval ⊢
      split at hval
      · rename_i hdefault
        rw [if_pos ⟨hdefault.left, isNetValue_ne_empty hnet⟩]
      · rw [hval]
        split <;> rfl
    rw [hagain, if_pos hnet]
  · cases h

/-!
## Checks
-/

/--
The shell's matching of a text against an extended regular expression, as the
operator `=~` does it.
-/
abbrev Regex := String -> String -> Bool

/-- `is_in_vals`, which takes the value it looks for as an expression -/
def isInVals (regex : Regex) (key vals : String) : Bool :=
  key ≠ "" && vals ≠ "" && regex ("," ++ vals ++ ",") ("," ++ key ++ ",")

/-- `regex` in `is_email` -/
def emailRegex : String :=
  "^[a-z0-9!#$%&'*+/=?^_`\x7b|\x7d~-]+(\\.[a-z0-9!#$%&'*+/=?^_`\x7b|\x7d~-]+)*" ++
    "@([a-z0-9]([a-z0-9-]*[a-z0-9])?\\.?)+[a-z0-9]([a-z0-9-]*[a-z0-9])?$"

/-- `is_email` -/
def isEmail (regex : Regex) (address : String) : Bool :=
  regex address emailRegex

/-- The words of `promptbool`, in any case. -/
def isYesNo (val : String) : Bool :=
  let word := String.ofList (val.toList.map Char.toLower)
  word ∈ ["y", "yes", "true", "1", "n", "no", "false", "0"]

/-- A value that `promptvlan` accepts. -/
def isVlan (val : String) : Bool :=
  val = "" || val = "none" ||
    isdigit val.toList && (operand val.toList).any fun n => 0 ≤ n.toInt && n.toInt ≤ 4095

/-- What `promptvlan` makes of a value that it accepts. -/
def vlanId (val : String) : String :=
  if val = "none" ∨ operand val.toList = some 0 then "" else val

/-!
## Loops with one question
-/

/-- The variables, and whether the file was looked at. -/
structure LoopState where
  s : Globals
  consulted : Bool

/-- What a loop says of a value. -/
inductive Verdict where
  | accepted
  /-- the loop is broken off -/
  | stuck
  | rejected (s : Globals)

def Verdict.ending (x : LoopState) (rest : List String) :
    Verdict -> Ending LoopState String
  | accepted => .accepted
  | stuck => .stuck
  | rejected s => .rejected { x with s := s } rest

def promptAttempt (p : Prompt) (verdict : String -> Verdict) (x : LoopState)
    (typed : List String) : Attempt String LoopState String :=
  match p.answer typed with
  | none => ⟨[(p.key, .terminal)], .stuck⟩
  | some (val, source, rest) => ⟨[(p.key, source)], (verdict val).ending x rest⟩

theorem Prompt.answer_source {p : Prompt} {typed rest : List String} {val : String}
    {source : Source} (h : p.answer typed = some (val, source, rest)) :
    (source = .file <-> p.fileVal.isSome) ∧ rest.length ≤ typed.length ∧
      (source = .terminal -> rest.length < typed.length) ∧
      (source = .file -> p.fileVal = some val) := by
  unfold answer at h
  split at h
  · rename_i found hfound
    cases h
    simp [hfound]
  · rename_i hnone
    rcases Option.map_eq_some_iff.mp h with ⟨⟨found, behind⟩, hread, heq⟩
    cases heq
    have hlt := p.read_lt _ _ _ hread
    simp [hnone, hlt, Nat.le_of_lt hlt]

theorem Prompt.answer_none {p : Prompt} {typed : List String}
    (h : p.answer typed = none) : p.fileVal = none := by
  unfold answer at h
  split at h
  · cases h
  · assumption

theorem ending_rejected {verdict : Verdict} {x x' : LoopState} {rest rest' : List String}
    (h : verdict.ending x rest = .rejected x' rest') :
    exists s, verdict = .rejected s ∧ x' = { x with s := s } ∧ rest' = rest := by
  cases verdict with
  | accepted => cases h
  | stuck => cases h
  | rejected s =>
      cases h
      exact ⟨s, rfl, rfl, rfl⟩

def promptLoop (key : String) (prompt : Globals -> Prompt)
    (verdict : Globals -> String -> Verdict) (hkey : forall s, (prompt s).key = key) :
    Loop String LoopState String where
  takes x q := q = key ∧ (prompt x.s).fileVal.isSome
  attempt x typed := promptAttempt (prompt x.s) (verdict x.s) x typed
  first := key
  source_iff x typed q source h := by
    unfold promptAttempt at h
    split at h
    · rename_i hnone
      cases List.mem_singleton.mp h
      simp [Prompt.answer_none hnone]
    · rename_i val found rest hsome
      cases List.mem_singleton.mp h
      simp [(Prompt.answer_source hsome).left, hkey]
  asks_first x typed := by
    unfold promptAttempt
    split
    · exact ⟨_, by rw [hkey]; exact List.mem_cons_self⟩
    · exact ⟨_, by rw [hkey]; exact List.mem_cons_self⟩
  rest_le x typed x' rest h := by
    unfold promptAttempt at h
    split at h
    · cases h
    · rename_i hsome
      rcases ending_rejected h with ⟨_, _, _, rfl⟩
      exact (Prompt.answer_source hsome).right.left
  rest_lt x typed x' rest q h hq := by
    unfold promptAttempt at h hq
    split at h
    · cases h
    · rename_i hsome
      rcases ending_rejected h with ⟨_, _, _, rfl⟩
      rw [hsome] at hq
      cases List.mem_singleton.mp hq
      exact (Prompt.answer_source hsome).right.right.left rfl

/--
A loop around a prompt turns to the terminal exactly when it does not reject the
answer of the file, for the prompt takes that answer again.
-/
theorem promptLoop_passes {key : String} {prompt : Globals -> Prompt}
    {verdict : Globals -> String -> Verdict} (hkey : forall s, (prompt s).key = key)
    (hsame : forall s val s', verdict s val = .rejected s' -> prompt s' = prompt s)
    (x : LoopState) (typed : List String) :
    (forall val, (prompt x.s).fileVal = some val ->
        forall s', verdict x.s val ≠ .rejected s') <->
      forall x' rest,
        ((promptLoop key prompt verdict hkey).attempt x typed).ending = .rejected x' rest ->
        forall q, (q, .file) ∈ ((promptLoop key prompt verdict hkey).attempt x typed).replies ->
          ¬ (promptLoop key prompt verdict hkey).takes x' q := by
  change _ <-> forall x' rest,
    (promptAttempt (prompt x.s) (verdict x.s) x typed).ending = .rejected x' rest ->
    forall q, (q, .file) ∈ (promptAttempt (prompt x.s) (verdict x.s) x typed).replies ->
      ¬ (q = key ∧ (prompt x'.s).fileVal.isSome)
  constructor
  · intro h x' rest hending q hq
    unfold promptAttempt at hending hq
    split at hending
    · cases hending
    · rename_i val source behind hsome
      rcases ending_rejected hending with ⟨s', hverdict, _, _⟩
      rw [hsome] at hq
      cases List.mem_singleton.mp hq
      exact absurd hverdict (h val ((Prompt.answer_source hsome).right.right.right rfl) s')
  · intro h val hval s' hverdict
    have hanswer : (prompt x.s).answer typed = some (val, .file, typed) := by
      rw [Prompt.answer, hval]
    have hattempt : promptAttempt (prompt x.s) (verdict x.s) x typed =
        ⟨[((prompt x.s).key, .file)], .rejected { x with s := s' } typed⟩ := by
      rw [promptAttempt, hanswer]
      dsimp only
      rw [hverdict]
      rfl
    rw [hattempt] at h
    refine h _ _ rfl (prompt x.s).key List.mem_cons_self ⟨hkey x.s, ?_⟩
    rw [hsame x.s val s' hverdict, hval]
    rfl

/-- A check that leaves the variables as they are. -/
def testVerdict (test : String -> Bool) (s : Globals) (val : String) : Verdict :=
  if test val then .accepted else .rejected s

/-- The check of `prompt_ip_from_subnet` -/
def subnetVerdict (net mask : String) (s : Globals) (val : String) : Verdict :=
  if val = "none" then .accepted
  else
    match (ipNetmaskToNetwork net mask s).bind (ipToNum val) with
    | .done s =>
        if s.numbers.netNum.slt s.numbers.num && s.numbers.num.slt s.numbers.bcastAddr then
          .accepted
        else .rejected s
    | _ => .stuck

theorem ipFromSubnet_of_rejected {net mask val : String} {s s' : Globals}
    (h : subnetVerdict net mask s val = .rejected s')
    (fromSubnet other : Globals -> Outcome Globals) :
    ipFromSubnet val net mask s fromSubnet other = other s' := by
  unfold subnetVerdict at h
  unfold ipFromSubnet
  split at h
  · cases h
  · rename_i hval
    rw [if_neg hval]
    split at h
    · rename_i s1 hdone
      rcases Outcome.bind_eq_done.mp hdone with ⟨s2, hnetwork, hnum⟩
      split at h
      · cases h
      · rename_i hinside
        cases h
        rw [hnetwork, Outcome.bind_done, hnum, Outcome.bind_done, if_neg hinside]
    · cases h

/-!
## Prompts that look at the file once
-/

/-- How an attempt inside a prompt ends, after which the file is not looked at. -/
def onceEnding (valid : Bool) (x : LoopState) (rest : List String) :
    Ending LoopState String :=
  if valid then .accepted else .rejected { x with consulted := true } rest

theorem onceEnding_rejected {valid : Bool} {x x' : LoopState} {rest rest' : List String}
    (h : onceEnding valid x rest = .rejected x' rest') :
    x'.consulted = true ∧ rest' = rest := by
  unfold onceEnding at h
  split at h
  · cases h
  · cases h
    exact ⟨rfl, rfl⟩

/-- An attempt of a loop inside a prompt. -/
def onceAttempt (key answer default : String) (valid : String -> Bool) (x : LoopState)
    (typed : List String) : Attempt String LoopState String :=
  if x.consulted = false ∧ answer ≠ "" then
    ⟨[(key, .file)], onceEnding (valid answer) x typed⟩
  else
    match typed with
    | [] => ⟨[(key, .terminal)], .stuck⟩
    | line :: rest =>
        ⟨[(key, .terminal)], onceEnding (valid (entered default line)) x rest⟩

/-- The loop inside a prompt, with the answer of the file in front of it. -/
def onceLoop (key answer default : String) (valid : String -> Bool) :
    Loop String LoopState String where
  takes x q := q = key ∧ x.consulted = false ∧ answer ≠ ""
  attempt := onceAttempt key answer default valid
  first := key
  source_iff x typed q source h := by
    unfold onceAttempt at h
    split at h
    · rename_i htakes
      cases List.mem_singleton.mp h
      simpa using htakes
    · rename_i htakes
      cases typed with
      | nil =>
          cases List.mem_singleton.mp h
          simpa using htakes
      | cons line rest =>
          cases List.mem_singleton.mp h
          simpa using htakes
  asks_first x typed := by
    unfold onceAttempt
    split
    · exact ⟨_, List.mem_cons_self⟩
    · cases typed with
      | nil => exact ⟨_, List.mem_cons_self⟩
      | cons line rest => exact ⟨_, List.mem_cons_self⟩
  rest_le x typed x' rest h := by
    unfold onceAttempt at h
    split at h
    · rw [(onceEnding_rejected h).right]
    · cases typed with
      | nil => cases h
      | cons line typed =>
          rw [(onceEnding_rejected h).right]
          exact Nat.le_succ _
  rest_lt x typed x' rest q h hq := by
    unfold onceAttempt at h hq
    split at h
    · rename_i htakes
      rw [if_pos htakes] at hq
      cases List.mem_singleton.mp hq
    · cases typed with
      | nil => cases h
      | cons line typed =>
          rw [(onceEnding_rejected h).right]
          exact Nat.lt_succ_self _

theorem onceLoop_passes (key answer default : String) (valid : String -> Bool)
    {x x' : LoopState} {typed rest : List String}
    (h : ((onceLoop key answer default valid).attempt x typed).ending = .rejected x' rest)
    (q : String) : ¬ (onceLoop key answer default valid).takes x' q := by
  have hconsulted : x'.consulted = true := by
    change (onceAttempt key answer default valid x typed).ending = _ at h
    unfold onceAttempt at h
    split at h
    · exact (onceEnding_rejected h).left
    · cases typed with
      | nil => cases h
      | cons line typed => exact (onceEnding_rejected h).left
  intro hparts
  rcases hparts with ⟨_, hnot, _⟩
  rw [hconsulted] at hnot
  cases hnot

end Installer
end EsdcFactory
