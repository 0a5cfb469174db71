import EsdcFactory.Lib.Text

/-!
# The lock of the build script

`bin/ansible.sh` writes a lock file for its playbook and removes it when it ends.
Two invocations for the same playbook take their steps in any order, and either
of them can be hit by signals.
-/

namespace EsdcFactory
namespace Build

open Text

/-!
## Two invocations
-/

inductive Invocation where
  | first
  | second
  deriving DecidableEq

def Invocation.other : Invocation -> Invocation
  | .first => .second
  | .second => .first

/-- Where an invocation is in the script. -/
inductive Phase where
  | start
  | checked
  | trapped
  | locked
  | running
  | ended
  | exited
  | alreadyRunning
  | killed (playbookRuns : Bool)
  deriving DecidableEq

/-- An invocation got past its check and is not over yet. -/
def Phase.isActive : Phase -> Bool
  | .checked | .trapped | .locked | .running | .ended | .killed true => true
  | .start | .exited | .alreadyRunning | .killed false => false

/-- Who wrote the lock file: one of the two, or an invocation before them. -/
inductive Owner where
  | invocation (p : Invocation)
  | earlier
  deriving DecidableEq

/-- What the two invocations are started with. -/
structure Environment where
  playbook : String
  /-- The variable `LOCK`, empty when it is not set. -/
  lock : Invocation -> String
  /-- The files that exist, apart from the lock file. -/
  present : String -> Bool
  noEmptyName : present "" = false

/-- `LOCKFILE`: the name of the playbook is taken up to its last dot. -/
def Environment.lockFile (env : Environment) : String :=
  "/tmp/esdc-factory-" ++
    String.ofList (uptoLast '.' env.playbook.toList).dropLast ++ ".lock"

structure State where
  phase : Invocation -> Phase
  lockFile : Option Owner

def State.setPhase (s : State) (p : Invocation) (phase : Phase) : State :=
  { s with phase := fun q => if q = p then phase else s.phase q }

@[simp] theorem State.setPhase_lockFile (s : State) (p : Invocation)
    (phase : Phase) : (s.setPhase p phase).lockFile = s.lockFile := rfl

/-- `rm -f ${LOCKFILE}`, the action of the trap -/
def State.removeLock (s : State) : State :=
  { s with lockFile := none }

/-!
## Steps
-/

/-- `-e` on a path -/
def fileExists (env : Environment) (s : State) (path : String) : Bool :=
  if path = env.lockFile then s.lockFile.isSome else env.present path

/-- `[[ -e "${LOCK}" ]]`, which exits if there is such a file. -/
def check (env : Environment) (p : Invocation) (s : State) : State :=
  if fileExists env s (env.lock p) then s.setPhase p .alreadyRunning
  else s.setPhase p .checked

/--
A signal that the trap is for.  Without the trap it ends the script; with it, the
lock file is removed and the script goes on.  While the playbook runs, the trap
has to wait for it to end.
-/
def signal (p : Invocation) (s : State) : State :=
  match s.phase p with
  | .start | .checked => s.setPhase p (.killed false)
  | .trapped | .locked | .ended => s.removeLock
  | .running | .exited | .alreadyRunning | .killed _ => s

/-- A signal that ends the script at once, but not the playbook. -/
def kill (p : Invocation) (s : State) : State :=
  match s.phase p with
  | .start | .checked | .trapped | .locked | .ended => s.setPhase p (.killed false)
  | .running => s.setPhase p (.killed true)
  | .exited | .alreadyRunning | .killed _ => s

/-- What can happen to one of the invocations. -/
inductive Action where
  | check
  | setTrap
  | writeLock
  | startPlaybook
  | endPlaybook
  | exit
  | signal
  | kill
  deriving DecidableEq

def step (env : Environment) (p : Invocation) (s : State) : Action -> Option State
  | .check => if s.phase p = .start then some (check env p s) else none
  | .setTrap => if s.phase p = .checked then some (s.setPhase p .trapped) else none
  | .writeLock =>
      if s.phase p = .trapped then
        some { s.setPhase p .locked with lockFile := some (.invocation p) }
      else none
  | .startPlaybook =>
      if s.phase p = .locked then some (s.setPhase p .running) else none
  | .endPlaybook =>
      if s.phase p = .running then some (s.setPhase p .ended)
      else if s.phase p = .killed true then some (s.setPhase p (.killed false))
      else none
  | .exit =>
      if s.phase p = .ended then some (s.setPhase p .exited).removeLock else none
  | .signal => some (signal p s)
  | .kill => some (kill p s)

def run (env : Environment) : State -> List (Invocation × Action) -> Option State
  | s, [] => some s
  | s, (p, action) :: rest => (step env p s action).bind fun s => run env s rest

/-- Before any step of the two.  An earlier invocation may have left its lock file. -/
structure Initial (s : State) : Prop where
  phase : forall p, s.phase p = .start
  lockFile : forall p, s.lockFile ≠ some (.invocation p)

/-!
## What the lock is for
-/

/-- An active invocation is alone, and a lock file is not the other one's. -/
def Alone (s : State) : Prop :=
  forall p, (s.phase p).isActive = true -> (s.phase p.other).isActive = false ∧
    s.lockFile ≠ some (.invocation p.other)

theorem Initial.alone {s : State} (h : Initial s) : Alone s := by
  intro p hactive
  rw [h.phase p] at hactive
  cases hactive

end Build
end EsdcFactory
