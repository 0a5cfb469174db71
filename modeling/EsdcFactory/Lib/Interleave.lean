import Mathlib.Logic.Function.Basic

/-!
# Parties that share a store

Any number of parties take turns.  A turn of a party changes its own state and the
store that all of them share, and the store may be changed by something else as well.
What each party keeps, and no one else spoils, holds for all of them in every order of
turns.
-/

namespace EsdcFactory
namespace Interleave

variable {party store local' action change : Type}

/-- A turn of a party, with one of its actions, or a change from outside. -/
inductive Turn (party action change : Type) where
  | act (i : party) (a : action)
  | outside (c : change)

structure System (party store local' action change : Type) where
  act : party -> action -> store -> local' -> store × local'
  outside : change -> store -> store

structure State (party store local' : Type) where
  shared : store
  own : party -> local'

def System.step [DecidableEq party] (sys : System party store local' action change)
    (s : State party store local') : Turn party action change -> State party store local'
  | .act i a =>
      let after := sys.act i a s.shared (s.own i)
      ⟨after.1, Function.update s.own i after.2⟩
  | .outside c => ⟨sys.outside c s.shared, s.own⟩

def System.run [DecidableEq party] (sys : System party store local' action change)
    (s : State party store local') (turns : List (Turn party action change)) :
    State party store local' :=
  turns.foldl sys.step s

/--
An invariant of each party on the store and its own state: its actions keep it, and the
actions of others and the changes from outside that are allowed do not spoil it.
-/
structure System.Keeps (sys : System party store local' action change)
    (allowed : change -> Prop) (inv : party -> store -> local' -> Prop) : Prop where
  own : forall i a s l, inv i s l -> inv i (sys.act i a s l).1 (sys.act i a s l).2
  others : forall i j a s l l', i ≠ j -> inv i s l -> inv j s l' ->
    inv j (sys.act i a s l).1 l'
  outside : forall c, allowed c -> forall j s l, inv j s l -> inv j (sys.outside c s) l

/-- The changes from outside among some turns are allowed. -/
def Allowed (allowed : change -> Prop) (turns : List (Turn party action change)) : Prop :=
  forall c, .outside c ∈ turns -> allowed c

theorem Allowed.tail {allowed : change -> Prop} {turn : Turn party action change}
    {turns : List (Turn party action change)} (h : Allowed allowed (turn :: turns)) :
    Allowed allowed turns :=
  fun c hc => h c (List.mem_cons_of_mem turn hc)

variable [DecidableEq party] {sys : System party store local' action change}
  {allowed : change -> Prop} {inv : party -> store -> local' -> Prop}

theorem System.Keeps.step (h : sys.Keeps allowed inv) {s : State party store local'}
    (hinv : forall j, inv j s.shared (s.own j)) {turn : Turn party action change}
    (hturn : forall c, turn = .outside c -> allowed c) (j : party) :
    inv j (sys.step s turn).shared ((sys.step s turn).own j) := by
  cases turn with
  | act i a =>
      by_cases hij : j = i
      · subst hij
        have hown := h.own j a s.shared (s.own j) (hinv j)
        simpa [System.step] using hown
      · have hothers := h.others i j a s.shared (s.own i) (s.own j)
          (fun heq => hij heq.symm) (hinv i) (hinv j)
        simpa [System.step, hij] using hothers
  | outside c => exact h.outside c (hturn c rfl) j s.shared (s.own j) (hinv j)

theorem System.Keeps.run (h : sys.Keeps allowed inv) {s : State party store local'}
    (hinv : forall j, inv j s.shared (s.own j)) {turns : List (Turn party action change)}
    (hturns : Allowed allowed turns) (j : party) :
    inv j (sys.run s turns).shared ((sys.run s turns).own j) := by
  induction turns generalizing s with
  | nil => exact hinv j
  | cons turn turns ih =>
      apply ih _ hturns.tail
      intro i
      apply h.step hinv
      intro c heq
      exact hturns c (heq ▸ List.mem_cons_self)

theorem run_append (sys : System party store local' action change)
    (s : State party store local') (turns more : List (Turn party action change)) :
    sys.run s (turns ++ more) = sys.run (sys.run s turns) more :=
  List.foldl_append

end Interleave
end EsdcFactory
