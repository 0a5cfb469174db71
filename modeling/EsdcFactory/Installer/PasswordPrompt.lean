import EsdcFactory.Installer.Prompts
import Mathlib.Data.List.Basic

/-!
# The prompt for a password

`promptpw` ignores interrupts and hides what is typed, until a password was entered and
confirmed.  It can also keep the password there is, and then it returns from within its
loops.
-/

namespace EsdcFactory
namespace Installer
namespace PasswordPrompt

/-!
## Sessions
-/

/-- What `SIGINT` is trapped with. -/
inductive Handler where
  | ignored
  | doshell
deriving DecidableEq

/-- What the prompt finds and leaves; `preset_val` is no local variable. -/
structure Session where
  sigint : Handler
  echo : Bool
  preset : String
deriving DecidableEq

def Session.stty (echo : Bool) (s : Session) : Session :=
  { s with echo }

def Session.trap (sigint : Handler) (s : Session) : Session :=
  { s with sigint }

def Session.withPreset (preset : String) (s : Session) : Session :=
  { s with preset }

/-- The arguments behind the text of the prompt. -/
structure Call where
  mode : String
  default : String
  key : String

/-- `[ "$2" == "chklen" -a ${#val} -lt 6 ]` -/
def Call.tooShort (call : Call) (val : String) : Bool :=
  call.mode = "chklen" && val.length < 6

/-- A line is read without echo. -/
def Session.hidden (s : Session) : Session :=
  (s.stty false).stty true

/-!
## The loops
-/

/-- How the first inner loop ends. -/
inductive Asked where
  | kept (s : Session) (rest : List String)
  | entered (val : String) (s : Session) (rest : List String)

/-- The first inner loop, without a preset. -/
def askTyped (call : Call) (s : Session) : List String -> Option Asked
  | [] => none
  | line :: rest =>
      if line ≠ "" then
        if call.tooShort line then askTyped call (s.hidden.withPreset "") rest
        else some (.entered line s.hidden rest)
      else if call.default ≠ "" then some (.kept s.hidden rest)
      else askTyped call s.hidden rest

def askVal (call : Call) (s : Session) (typed : List String) : Option Asked :=
  if s.preset ≠ "" then
    if call.tooShort s.preset then askTyped call (s.withPreset "") typed
    else some (.entered s.preset s typed)
  else askTyped call s typed

/-- The second inner loop, without a preset. -/
def confirmTyped (s : Session) : List String -> Option (String × Session × List String)
  | [] => none
  | line :: rest => if line ≠ "" then some (line, s.hidden, rest) else confirmTyped s.hidden rest

def askConfirmation (s : Session) (typed : List String) :
    Option (String × Session × List String) :=
  if s.preset ≠ "" then some (s.preset, s, typed) else confirmTyped s typed

/-- `val`, with what is left of the session and of the lines. -/
structure Reply where
  val : String
  session : Session
  rest : List String
deriving DecidableEq

/-- The outer loop. -/
def rounds (call : Call) : Nat -> Session -> List String -> Option Reply
  | 0, _, _ => none
  | fuel + 1, s, typed =>
      match askVal call s typed with
      | none => none
      | some (.kept s rest) => some ⟨call.default, s, rest⟩
      | some (.entered val s rest) =>
          match askConfirmation s rest with
          | none => none
          | some (cval, s, rest) =>
              if val = cval then some ⟨val, s.trap .doshell, rest⟩ else rounds call fuel s rest

/-- `preset_val`, which stays as it was when there is no key. -/
def presetVal (file : String -> Option String) (call : Call) (s : Session) : String :=
  if call.key ≠ "" then (file call.key).getD "" else s.preset

def promptpw (file : String -> Option String) (call : Call) (s : Session)
    (typed : List String) : Option Reply :=
  rounds call (typed.length + 1) ((s.withPreset (presetVal file call s)).trap .ignored) typed

/-- The sessions of the installer, in which other functions set traps too. -/
inductive Reached (file : String -> Option String) : Session -> Prop where
  | start : Reached file ⟨.doshell, true, ""⟩
  | trap {s : Session} (sigint : Handler) (h : Reached file s) : Reached file (s.trap sigint)
  | prompt {s : Session} {call : Call} {typed : List String} {reply : Reply}
      (h : Reached file s) (hreply : promptpw file call s typed = some reply) :
      Reached file reply.session

/-!
## What is asked of it
-/

/-- The value was preset, or it was typed twice with nothing but empty lines between. -/
def IsConfirmed (preset : String) (typed : List String) (reply : Reply) : Prop :=
  reply.val = preset ∨ exists front gaps,
    typed = front ++ reply.val :: (List.replicate gaps "" ++ reply.val :: reply.rest)

structure IsGood (preset : String) (call : Call) (typed : List String) (reply : Reply) :
    Prop where
  ne_empty : reply.val ≠ ""
  source : reply.val = call.default ∨
    IsConfirmed preset typed reply ∧ call.tooShort reply.val = false
  sigint : reply.session.sigint = .doshell
  echo : reply.session.echo = true

/-- Lines after which a password is asked for again, of a prompt with a default. -/
inductive Rejected (call : Call) : List String -> Prop where
  | none : Rejected call []
  | short {line : String} {rest : List String} (hline : line ≠ "")
      (hshort : call.tooShort line = true) (h : Rejected call rest) :
      Rejected call (line :: rest)
  | differing {line cval : String} {rest : List String} (gaps : Nat) (hline : line ≠ "")
      (hlong : call.tooShort line = false) (hcval : cval ≠ "") (hdiffer : line ≠ cval)
      (h : Rejected call rest) :
      Rejected call (line :: (List.replicate gaps "" ++ cval :: rest))

/-- A password is asked for, and an empty line is typed to keep the one there is. -/
structure KeepsDefault (preset : String) (call : Call) (typed : List String) : Prop where
  default : call.default ≠ ""
  unset : preset = "" ∨ call.tooShort preset = true
  typed : exists attempts rest, Rejected call attempts ∧ typed = attempts ++ "" :: rest

/-!
## One line after the other
-/

variable {call : Call} {s : Session}

@[simp] theorem hidden_preset (s : Session) : s.hidden.preset = s.preset := rfl

@[simp] theorem hidden_hidden (s : Session) : s.hidden.hidden = s.hidden := rfl

theorem withPreset_eq_self (h : s.preset = "") : s.withPreset "" = s := by
  cases s
  cases h
  rfl

theorem askVal_typed (typed : List String) (h : s.preset = "") :
    askVal call s typed = askTyped call s typed := by
  rw [askVal, if_neg (by simp [h])]

theorem askConfirmation_typed (typed : List String) (h : s.preset = "") :
    askConfirmation s typed = confirmTyped s typed := by
  rw [askConfirmation, if_neg (by simp [h])]

/-- A line after which the same loop goes on. -/
structure Skips (call : Call) (line : String) : Prop where
  empty : line = "" -> call.default = ""
  short : line ≠ "" -> call.tooShort line = true

theorem askTyped_skips {line : String} (rest : List String) (h : s.preset = "")
    (hline : Skips call line) :
    askTyped call s (line :: rest) = askTyped call s.hidden rest := by
  rw [askTyped]
  by_cases hempty : line = ""
  · rw [if_neg (by simp [hempty]), if_neg (by simp [hline.empty hempty])]
  · rw [if_pos hempty, if_pos (hline.short hempty), withPreset_eq_self (s := s.hidden) h]

theorem rounds_skips {line : String} (fuel : Nat) (rest : List String) (h : s.preset = "")
    (hline : Skips call line) :
    rounds call (fuel + 1) s (line :: rest) = rounds call (fuel + 1) s.hidden rest := by
  rw [rounds, rounds, askVal_typed _ h, askVal_typed rest (s := s.hidden) h,
    askTyped_skips rest h hline]

theorem rounds_kept (fuel : Nat) (rest : List String) (h : s.preset = "")
    (hdefault : call.default ≠ "") :
    rounds call (fuel + 1) s ("" :: rest) = some ⟨call.default, s.hidden, rest⟩ := by
  rw [rounds, askVal_typed _ h, askTyped, if_neg (by simp), if_pos hdefault]

theorem rounds_entered {line : String} (fuel : Nat) (rest : List String) (h : s.preset = "")
    (hline : line ≠ "") (hlong : call.tooShort line = false) :
    rounds call (fuel + 1) s (line :: rest) =
      match confirmTyped s.hidden rest with
      | none => none
      | some (cval, s, rest) =>
          if line = cval then some ⟨line, s.trap .doshell, rest⟩ else rounds call fuel s rest := by
  rw [rounds, askVal_typed _ h, askTyped, if_pos hline, if_neg (by simp [hlong])]
  dsimp only
  rw [askConfirmation_typed rest (s := s.hidden) h]

theorem confirmTyped_gaps (gaps : Nat) {cval : String} (rest : List String) (h : cval ≠ "") :
    confirmTyped s (List.replicate gaps "" ++ cval :: rest) = some (cval, s.hidden, rest) := by
  induction gaps generalizing s with
  | zero => rw [List.replicate_zero, List.nil_append, confirmTyped, if_pos h]
  | succ gaps ih =>
      rw [List.replicate_succ, List.cons_append, confirmTyped, if_neg (by simp), ih,
        hidden_hidden]

theorem confirmTyped_eq_some {typed rest : List String} {cval : String} {s' : Session}
    (h : confirmTyped s typed = some (cval, s', rest)) :
    cval ≠ "" ∧ s' = s.hidden ∧ exists gaps, typed = List.replicate gaps "" ++ cval :: rest := by
  induction typed generalizing s with
  | nil => cases h
  | cons line typed ih =>
      rw [confirmTyped] at h
      split at h
      next hline =>
        cases h
        exact ⟨hline, rfl, 0, rfl⟩
      next hline =>
        rcases ih h with ⟨hcval, hsession, gaps, rfl⟩
        rw [Decidable.not_not.mp hline]
        exact ⟨hcval, hsession, gaps + 1, rfl⟩

/-!
## Runs of the prompt
-/

theorem rounds_rejected {attempts : List String} (hattempts : Rejected call attempts)
    (hdefault : call.default ≠ "") (rest : List String) {fuel : Nat} (h : s.preset = "")
    (hfuel : attempts.length < fuel) :
    rounds call fuel s (attempts ++ "" :: rest) = some ⟨call.default, s.hidden, rest⟩ := by
  induction hattempts generalizing s fuel with
  | none =>
      cases fuel with
      | zero => cases hfuel
      | succ fuel => exact rounds_kept fuel rest h hdefault
  | short hline hshort _ ih =>
      cases fuel with
      | zero => cases hfuel
      | succ fuel =>
          rw [List.cons_append, rounds_skips fuel _ h
            ⟨fun heq => absurd heq hline, fun _ => hshort⟩]
          exact ih h (Nat.lt_of_succ_lt hfuel)
  | differing gaps hline hlong hcval hdiffer _ ih =>
      cases fuel with
      | zero => cases hfuel
      | succ fuel =>
          rw [List.cons_append, List.append_assoc, List.cons_append,
            rounds_entered fuel _ h hline hlong, confirmTyped_gaps gaps _ hcval]
          simp only [if_neg hdiffer, hidden_hidden]
          apply ih (s := s.hidden) h
          simp only [List.length_cons, List.length_append] at hfuel
          omega

/-- The default was kept, or a password was entered and confirmed. -/
inductive IsReply (call : Call) (s : Session) (typed : List String) : Reply -> Prop where
  | kept {attempts rest : List String} (hdefault : call.default ≠ "")
      (hattempts : Rejected call attempts) (htyped : typed = attempts ++ "" :: rest) :
      IsReply call s typed ⟨call.default, s.hidden, rest⟩
  | confirmed {val : String} {front rest : List String} (gaps : Nat) (hval : val ≠ "")
      (hlong : call.tooShort val = false)
      (htyped : typed = front ++ val :: (List.replicate gaps "" ++ val :: rest)) :
      IsReply call s typed ⟨val, s.hidden.trap .doshell, rest⟩

theorem IsReply.skips {typed : List String} {line : String} {reply : Reply}
    (h : IsReply call s.hidden typed reply) (hline : Skips call line) :
    IsReply call s (line :: typed) reply := by
  cases h with
  | kept hdefault hattempts htyped =>
      have hne : line ≠ "" := fun heq => hdefault (hline.empty heq)
      exact .kept hdefault (.short hne (hline.short hne) hattempts) (by rw [htyped]; rfl)
  | @confirmed val front rest gaps hval hlong htyped =>
      have hline : line :: typed =
          (line :: front) ++ val :: (List.replicate gaps "" ++ val :: rest) := by
        rw [htyped, List.cons_append]
      exact .confirmed gaps hval hlong hline

theorem IsReply.differing {typed : List String} {line cval : String} {reply : Reply}
    (h : IsReply call s.hidden typed reply) (gaps : Nat) (hline : line ≠ "")
    (hlong : call.tooShort line = false) (hcval : cval ≠ "") (hdiffer : line ≠ cval) :
    IsReply call s (line :: (List.replicate gaps "" ++ cval :: typed)) reply := by
  cases h with
  | kept hdefault hattempts htyped =>
      exact .kept hdefault (.differing gaps hline hlong hcval hdiffer hattempts)
        (by rw [htyped]; simp)
  | @confirmed val front rest more hval hvalLong htyped =>
      have hlines : line :: (List.replicate gaps "" ++ cval :: typed) =
          (line :: (List.replicate gaps "" ++ cval :: front)) ++
            val :: (List.replicate more "" ++ val :: rest) := by
        rw [htyped]
        simp
      exact .confirmed more hval hvalLong hlines

theorem isReply_of_rounds {fuel : Nat} {typed : List String} {reply : Reply}
    (h : s.preset = "") (hreply : rounds call fuel s typed = some reply) :
    IsReply call s typed reply := by
  induction hn : typed.length using Nat.strong_induction_on generalizing s fuel typed with
  | _ n ih =>
      cases fuel with
      | zero => cases hreply
      | succ fuel =>
          cases typed with
          | nil =>
              rw [rounds, askVal_typed _ h] at hreply
              cases hreply
          | cons line rest =>
              rw [List.length_cons] at hn
              by_cases hskips : Skips call line
              · rw [rounds_skips fuel rest h hskips] at hreply
                have hrest := ih rest.length (by omega) (s := s.hidden) h hreply rfl
                exact hrest.skips hskips
              · by_cases hline : line = ""
                · have hdefault : call.default ≠ "" := fun heq =>
                    hskips ⟨fun _ => heq, fun hne => absurd hline hne⟩
                  rw [hline, rounds_kept fuel rest h hdefault] at hreply
                  cases hreply
                  exact .kept hdefault .none (by rw [hline]; rfl)
                · have hlong : call.tooShort line = false := by
                    by_contra hshort
                    exact hskips ⟨fun heq => absurd heq hline, fun _ => by simpa using hshort⟩
                  rw [rounds_entered fuel rest h hline hlong] at hreply
                  split at hreply
                  next => cases hreply
                  next cval s' tail hconfirm =>
                    rcases confirmTyped_eq_some hconfirm with ⟨hcval, rfl, gaps, rfl⟩
                    split at hreply
                    next heq =>
                      cases hreply
                      rw [← heq]
                      exact .confirmed gaps hline hlong (List.nil_append _).symm
                    next hdiffer =>
                      simp only [List.length_append, List.length_cons] at hn
                      have hrest := ih tail.length (by omega) (s := s.hidden) h hreply rfl
                      exact hrest.differing gaps hline hlong hcval hdiffer

/-!
## What the prompt leaves
-/

/-- A preset that is not refused is taken twice. -/
theorem rounds_preset (fuel : Nat) (typed : List String) (h : s.preset ≠ "")
    (hlong : call.tooShort s.preset = false) :
    rounds call (fuel + 1) s typed = some ⟨s.preset, s.trap .doshell, typed⟩ := by
  rw [rounds, askVal, if_pos h, if_neg (by simp [hlong])]
  dsimp only
  rw [askConfirmation, if_pos h]
  exact if_pos rfl

theorem rounds_refused (fuel : Nat) (typed : List String)
    (h : s.preset = "" ∨ call.tooShort s.preset = true) :
    rounds call (fuel + 1) s typed = rounds call (fuel + 1) (s.withPreset "") typed := by
  by_cases hempty : s.preset = ""
  · rw [withPreset_eq_self hempty]
  · have hshort := h.resolve_left hempty
    rw [rounds, rounds, askVal, if_pos hempty, if_pos hshort,
      askVal_typed typed (s := s.withPreset "") rfl]

/-- The session in which passwords are read. -/
def asking (s : Session) : Session :=
  (s.withPreset "").trap .ignored

theorem asking_eq (preset : String) (s : Session) :
    ((s.withPreset preset).trap .ignored).withPreset "" = asking s := rfl

/-- A reply is the preset, or it was typed. -/
theorem promptpw_eq_some {file : String -> Option String} {typed : List String} {reply : Reply}
    (h : promptpw file call s typed = some reply) :
    (presetVal file call s ≠ "" ∧ call.tooShort (presetVal file call s) = false ∧
        reply = ⟨presetVal file call s, (s.withPreset (presetVal file call s)).trap .doshell,
          typed⟩) ∨
      (presetVal file call s = "" ∨ call.tooShort (presetVal file call s) = true) ∧
        IsReply call (asking s) typed reply := by
  rw [promptpw] at h
  by_cases hrefused : presetVal file call s = "" ∨ call.tooShort (presetVal file call s) = true
  · rw [rounds_refused _ _ hrefused, asking_eq] at h
    exact Or.inr ⟨hrefused, isReply_of_rounds rfl h⟩
  · rw [not_or, Bool.not_eq_true] at hrefused
    rw [rounds_preset (s := (s.withPreset (presetVal file call s)).trap .ignored) _ _
      hrefused.left hrefused.right] at h
    cases h
    exact Or.inl ⟨hrefused.left, hrefused.right, rfl⟩

/-- An empty line in place of a password is the default. -/
theorem promptpw_keepsDefault {file : String -> Option String} {typed : List String}
    (h : KeepsDefault (presetVal file call s) call typed) :
    exists rest, promptpw file call s typed = some ⟨call.default, (asking s).hidden, rest⟩ := by
  rcases h.typed with ⟨attempts, rest, hattempts, rfl⟩
  refine ⟨rest, ?_⟩
  rw [promptpw, rounds_refused _ _ h.unset, asking_eq]
  apply rounds_rejected hattempts h.default rest rfl
  simp only [List.length_append]
  omega

theorem echo_of_promptpw {file : String -> Option String} {typed : List String} {reply : Reply}
    (hs : s.echo = true) (h : promptpw file call s typed = some reply) :
    reply.session.echo = true := by
  rcases promptpw_eq_some h with ⟨_, _, rfl⟩ | ⟨_, hreply⟩
  · exact hs
  · cases hreply with
    | kept _ _ _ => rfl
    | confirmed _ _ _ _ => rfl

theorem Reached.echo {file : String -> Option String} (h : Reached file s) : s.echo = true := by
  induction h with
  | start => rfl
  | trap _ _ ih => exact ih
  | prompt _ hreply ih => exact echo_of_promptpw ih hreply

/--
In every session, the prompt leaves all as it should unless it is the default that is
kept.
-/
theorem promptpw_isGood_iff (file : String -> Option String) (call : Call) {s : Session}
    (hs : Reached file s) (typed : List String) :
    (forall reply, promptpw file call s typed = some reply ->
        IsGood (presetVal file call s) call typed reply) <->
      ¬ KeepsDefault (presetVal file call s) call typed := by
  constructor
  · intro h hkeeps
    rcases promptpw_keepsDefault hkeeps with ⟨rest, hreply⟩
    have hsigint := (h _ hreply).sigint
    cases hsigint
  · intro h reply hreply
    have hecho := echo_of_promptpw hs.echo hreply
    rcases promptpw_eq_some hreply with ⟨hne, hlong, rfl⟩ | ⟨hunset, hasked⟩
    · exact ⟨hne, Or.inr ⟨Or.inl rfl, hlong⟩, rfl, hecho⟩
    · cases hasked with
      | kept hdefault hattempts htyped =>
          exact absurd ⟨hdefault, hunset, _, _, hattempts, htyped⟩ h
      | confirmed gaps hval hlong htyped =>
          exact ⟨hval, Or.inr ⟨Or.inr ⟨_, gaps, htyped⟩, hlong⟩, rfl, hecho⟩

/-- A password that is typed is confirmed, from the first session on. -/
theorem promptpw_isGood_iff_typed :
    (forall reply, promptpw (fun _ => none) ⟨"chklen", "", "root_password"⟩
        ⟨.doshell, true, ""⟩ ["secret", "secret"] = some reply ->
      IsGood (presetVal (fun _ => none) ⟨"chklen", "", "root_password"⟩ ⟨.doshell, true, ""⟩)
        ⟨"chklen", "", "root_password"⟩ ["secret", "secret"] reply) <->
      ¬ KeepsDefault
        (presetVal (fun _ => none) ⟨"chklen", "", "root_password"⟩ ⟨.doshell, true, ""⟩)
        ⟨"chklen", "", "root_password"⟩ ["secret", "secret"] :=
  promptpw_isGood_iff (fun _ => none) ⟨"chklen", "", "root_password"⟩ .start
    ["secret", "secret"]

/-- Interrupts are still ignored when the password that is there was kept. -/
theorem kept_ignores_interrupts :
    exists reply, promptpw (fun _ => none) ⟨"nolen", "x", "root_password"⟩
        ⟨.doshell, true, ""⟩ [""] = some reply ∧
      ¬ IsGood "" ⟨"nolen", "x", "root_password"⟩ [""] reply := by
  refine ⟨⟨"x", ⟨.ignored, true, ""⟩, []⟩, rfl, ?_⟩
  intro h
  cases h.sigint

/-!
## The value alone
-/

theorem confirmTyped_value (s : Session) (typed : List String) :
    readConfirmation typed =
      (confirmTyped s typed).map fun found => (found.1, found.2.2) := by
  induction typed generalizing s with
  | nil => rfl
  | cons line typed ih =>
      rw [readConfirmation, confirmTyped]
      split
      · rfl
      · exact ih s.hidden

/-- The loops return the value that is read from the lines, and wait when there is none. -/
theorem rounds_value {fuel more : Nat} {typed : List String} (h : s.preset = "")
    (hfuel : typed.length < fuel) (hmore : typed.length < more) :
    (rounds call fuel s typed).map Reply.val =
      readPassword (call.mode = "chklen") call.default more typed := by
  induction hn : typed.length using Nat.strong_induction_on generalizing s fuel more typed with
  | _ n ih =>
      cases fuel with
      | zero => cases hfuel
      | succ fuel =>
          cases more with
          | zero => cases hmore
          | succ more =>
              cases typed with
              | nil =>
                  rw [rounds, askVal_typed _ h]
                  rfl
              | cons line rest =>
                  simp only [List.length_cons] at hn hfuel hmore
                  rw [readPassword]
                  by_cases hline : line = ""
                  · rw [if_pos hline]
                    by_cases hdefault : call.default = ""
                    · rw [if_neg (by simp [hdefault]), rounds_skips fuel rest h
                        ⟨fun _ => hdefault, fun hne => absurd hline hne⟩]
                      exact ih rest.length (by omega) (s := s.hidden) h (by omega) (by omega) rfl
                    · rw [if_pos hdefault, hline, rounds_kept fuel rest h hdefault]
                      rfl
                  · rw [if_neg hline]
                    cases hshort : call.tooShort line with
                    | true =>
                        rw [← Call.tooShort, if_pos hshort, rounds_skips fuel rest h
                          ⟨fun heq => absurd heq hline, fun _ => hshort⟩]
                        exact ih rest.length (by omega) (s := s.hidden) h (by omega) (by omega)
                          rfl
                    | false =>
                        rw [← Call.tooShort, if_neg (by simp [hshort]),
                          rounds_entered fuel rest h hline hshort, confirmTyped_value s.hidden]
                        cases hconfirm : confirmTyped s.hidden rest with
                        | none => rfl
                        | some found =>
                            rcases found with ⟨cval, s', tail⟩
                            rcases confirmTyped_eq_some hconfirm with ⟨_, rfl, gaps, rfl⟩
                            simp only [List.length_append, List.length_cons] at hn hfuel hmore
                            simp only [Option.map_some]
                            split
                            · rfl
                            · exact ih tail.length (by omega) (s := s.hidden) h (by omega)
                                (by omega) rfl

theorem promptpw_value (file : String -> Option String) (call : Call) (s : Session)
    (typed : List String) :
    (promptpw file call s typed).map Reply.val =
      Installer.promptpw (call.mode = "chklen") (presetVal file call s) call.default typed := by
  rw [promptpw, Installer.promptpw]
  by_cases hrefused : presetVal file call s = "" ∨ call.tooShort (presetVal file call s) = true
  · rw [rounds_refused _ _ hrefused, asking_eq, if_neg]
    · exact rounds_value rfl (Nat.lt_succ_self _) (Nat.lt_succ_self _)
    · intro h
      rcases hrefused with hempty | hshort
      · exact h.left hempty
      · exact h.right (by simpa [Call.tooShort] using hshort)
  · rw [not_or, Bool.not_eq_true] at hrefused
    rw [rounds_preset (s := (s.withPreset (presetVal file call s)).trap .ignored) _ _
      hrefused.left hrefused.right, if_pos]
    · rfl
    · exact ⟨hrefused.left, by simpa [Call.tooShort] using hrefused.right⟩

end PasswordPrompt
end Installer
end EsdcFactory
