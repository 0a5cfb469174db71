import Mathlib.Data.List.GetD

/-!
# Programs that can be interrupted

A program makes one effect after the other and may fail in between.  Since it can be
cut off behind each of its effects, a run is the list of the states behind them.  What
such runs leave behind is where the next run of the program starts.
-/

namespace EsdcFactory
namespace Interrupt

variable {σ α β ε : Type}

/-- The states behind the effects of a run, in order, and how it ends by itself. -/
structure Run (σ α : Type) where
  states : List σ
  result : Except String α

/-- The state behind the last effect. -/
def Run.last (s : σ) (r : Run σ α) : σ :=
  r.states.getLastD s

/-- The state when the run is cut off behind so many effects. -/
def Run.cut (s : σ) (r : Run σ α) (effects : Nat) : σ :=
  (s :: r.states).getD effects s

theorem Run.cut_mem (s : σ) (r : Run σ α) (effects : Nat) :
    r.cut s effects = s ∨ r.cut s effects ∈ r.states := by
  by_cases h : effects < (s :: r.states).length
  · rw [Run.cut, List.getD_eq_getElem _ s h]
    exact List.mem_cons.mp (List.getElem_mem h)
  · rw [Run.cut, List.getD_eq_default _ s (Nat.le_of_not_lt h)]
    exact Or.inl rfl

/-- A program runs from each state. -/
def Program (σ α : Type) : Type :=
  σ -> Run σ α

instance : Monad (Program σ) where
  pure a := fun _ => ⟨[], .ok a⟩
  bind p f := fun s =>
    match (p s).result with
    | .error message => ⟨(p s).states, .error message⟩
    | .ok a =>
        let r := f a ((p s).last s)
        ⟨(p s).states ++ r.states, r.result⟩

def read (f : σ -> α) : Program σ α :=
  fun s => ⟨[], .ok (f s)⟩

/-- One effect. -/
def write (f : σ -> σ) : Program σ Unit :=
  fun s => ⟨[f s], .ok ()⟩

def fatal (message : String) : Program σ α :=
  fun _ => ⟨[], .error message⟩

/-- Run a program for each element of a list. -/
def each (body : β -> Program σ Unit) : List β -> Program σ Unit
  | [] => pure ()
  | x :: xs => do
      body x
      each body xs

/-!
## What holds at every interruption
-/

/--
From a state, a run has an invariant behind each effect, and a postcondition when it
is not cut off and does not fail.
-/
structure Meets (p : Program σ α) (s : σ) (inv : σ -> Prop) (post : α -> σ -> Prop) :
    Prop where
  visited : forall s', s' ∈ (p s).states -> inv s'
  ended : forall a, (p s).result = .ok a -> post a ((p s).last s)

section Rules

variable {p : Program σ α} {f : α -> Program σ β} {s : σ} {inv : σ -> Prop}

theorem Meets.pure {post : α -> σ -> Prop} {a : α} (h : post a s) :
    Meets (Pure.pure a) s inv post where
  visited := nofun
  ended := by
    intro b hb
    cases hb
    exact h

theorem Meets.read {post : α -> σ -> Prop} {g : σ -> α} (h : post (g s) s) :
    Meets (read g) s inv post where
  visited := nofun
  ended := by
    intro b hb
    cases hb
    exact h

theorem Meets.write {post : Unit -> σ -> Prop} {g : σ -> σ} (hinv : inv (g s))
    (h : post () (g s)) : Meets (write g) s inv post where
  visited := by
    intro s' hs'
    rw [List.mem_singleton.mp hs']
    exact hinv
  ended := fun _ _ => h

theorem Meets.fatal (message : String) (post : α -> σ -> Prop) :
    Meets (fatal message) s inv post where
  visited := nofun
  ended := nofun

theorem bind_ok {a : α} (h : (p s).result = .ok a) :
    (p >>= f) s = ⟨(p s).states ++ (f a ((p s).last s)).states,
      (f a ((p s).last s)).result⟩ := by
  show (match (p s).result with
    | .error message => _
    | .ok a => _) = _
  rw [h]

theorem bind_error {message : String} (h : (p s).result = .error message) :
    (p >>= f) s = ⟨(p s).states, .error message⟩ := by
  show (match (p s).result with
    | .error message => _
    | .ok a => _) = _
  rw [h]

theorem getLastD_append (s : σ) (xs ys : List σ) :
    (xs ++ ys).getLastD s = ys.getLastD (xs.getLastD s) := by
  cases ys with
  | nil => rw [List.append_nil, List.getLastD_nil]
  | cons y ys =>
      rw [List.getLastD_eq_getLast?, List.getLast?_append, List.getLastD_eq_getLast?,
        List.getLast?_cons]
      rfl

theorem last_bind {a : α} (h : (p s).result = .ok a) :
    Run.last s ((p >>= f) s) = Run.last ((p s).last s) (f a ((p s).last s)) := by
  rw [bind_ok h]
  exact getLastD_append s _ _

theorem Meets.bind {mid : α -> σ -> Prop} {post : β -> σ -> Prop}
    (hp : Meets p s inv mid) (hf : forall a s', mid a s' -> Meets (f a) s' inv post) :
    Meets (p >>= f) s inv post := by
  cases hresult : (p s).result with
  | error message =>
      constructor
      · rw [bind_error hresult]
        exact hp.visited
      · rw [bind_error hresult]
        exact nofun
  | ok a =>
      have hnext := hf a _ (hp.ended a hresult)
      constructor
      · rw [bind_ok hresult]
        intro s' hs'
        rcases List.mem_append.mp hs' with hs' | hs'
        · exact hp.visited s' hs'
        · exact hnext.visited s' hs'
      · intro b hb
        rw [bind_ok hresult] at hb
        rw [last_bind hresult]
        exact hnext.ended b hb

theorem Meets.read_bind {g : σ -> α} {post : β -> σ -> Prop}
    (h : Meets (f (g s)) s inv post) : Meets (Interrupt.read g >>= f) s inv post := by
  have hread : Meets (Interrupt.read g) s inv fun a s' => a = g s ∧ s' = s :=
    Meets.read ⟨rfl, rfl⟩
  refine hread.bind ?_
  intro a s' hparts
  rcases hparts with ⟨rfl, rfl⟩
  exact h

theorem Meets.write_bind {g : σ -> σ} {f : Unit -> Program σ β} {post : β -> σ -> Prop}
    (hinv : inv (g s)) (h : Meets (f ()) (g s) inv post) :
    Meets (Interrupt.write g >>= f) s inv post := by
  have hwrite : Meets (Interrupt.write g) s inv fun _ s' => s' = g s :=
    Meets.write hinv rfl
  refine hwrite.bind ?_
  intro _ s' heq
  subst heq
  exact h

theorem Meets.mono {inv' : σ -> Prop} {post post' : α -> σ -> Prop}
    (h : Meets p s inv post) (hinv : forall s', inv s' -> inv' s')
    (hpost : forall a s', post a s' -> post' a s') : Meets p s inv' post' where
  visited := fun s' hs' => hinv s' (h.visited s' hs')
  ended := fun a ha => hpost a _ (h.ended a ha)

theorem Meets.each {body : β -> Program σ Unit} {xs : List β}
    (done : List β -> σ -> Prop) (hstart : done [] s)
    (hbody : forall before x after s', xs = before ++ x :: after -> done before s' ->
      Meets (body x) s' inv fun _ => done (before ++ [x])) :
    Meets (each body xs) s inv fun _ => done xs := by
  have hrest : forall after before s', xs = before ++ after -> done before s' ->
      Meets (Interrupt.each body after) s' inv fun _ => done xs := by
    intro after
    induction after with
    | nil =>
        intro before s' hxs hbefore
        rw [List.append_nil] at hxs
        subst hxs
        exact Meets.pure hbefore
    | cons x after ih =>
        intro before s' hxs hbefore
        refine (hbody before x after s' hxs hbefore).bind ?_
        intro _ s'' hx
        exact ih (before ++ [x]) s'' (by rw [hxs, List.append_assoc]; rfl) hx
  exact hrest xs [] s rfl hstart

end Rules

/-!
## Runs that get to their end
-/

/-- Without an interruption, the run does not fail and ends in such a state. -/
def Completes (p : Program σ α) (s : σ) (post : α -> σ -> Prop) : Prop :=
  exists a, (p s).result = .ok a ∧ post a ((p s).last s)

section Completes

variable {s : σ}

@[simp] theorem completes_pure_iff {a : α} {post : α -> σ -> Prop} :
    Completes (pure a) s post <-> post a s := by
  constructor
  · intro hparts
    rcases hparts with ⟨b, hb, hpost⟩
    cases hb
    exact hpost
  · intro h
    exact ⟨a, rfl, h⟩

@[simp] theorem completes_read_iff {g : σ -> α} {post : α -> σ -> Prop} :
    Completes (read g) s post <-> post (g s) s := by
  constructor
  · intro hparts
    rcases hparts with ⟨b, hb, hpost⟩
    cases hb
    exact hpost
  · intro h
    exact ⟨g s, rfl, h⟩

@[simp] theorem completes_write_iff {g : σ -> σ} {post : Unit -> σ -> Prop} :
    Completes (write g) s post <-> post () (g s) := by
  constructor
  · intro hparts
    rcases hparts with ⟨_, _, hpost⟩
    exact hpost
  · intro h
    exact ⟨(), rfl, h⟩

theorem completes_bind_iff {p : Program σ α} {f : α -> Program σ β} {post : β -> σ -> Prop} :
    Completes (p >>= f) s post <->
      Completes p s fun a s' => Completes (f a) s' post := by
  constructor
  · intro h
    rcases h with ⟨b, hb, hpost⟩
    cases hresult : (p s).result with
    | error message =>
        rw [bind_error hresult] at hb
        cases hb
    | ok a =>
        rw [last_bind hresult] at hpost
        rw [bind_ok hresult] at hb
        exact ⟨a, hresult, b, hb, hpost⟩
  · intro h
    rcases h with ⟨a, ha, b, hb, hpost⟩
    refine ⟨b, ?_, ?_⟩
    · rw [bind_ok ha]
      exact hb
    · rw [last_bind ha]
      exact hpost

end Completes

/-!
## Runs that follow one another
-/

/--
The states that runs of a program leave behind, each of which starts where the one
before it was interrupted.
-/
inductive Reached (program : ε -> Program σ α) (allowed : σ -> ε -> Prop) (start : σ) :
    σ -> Prop where
  | start : Reached program allowed start start
  | run {s s' : σ} (env : ε) (hreached : Reached program allowed start s)
      (hallowed : allowed s env) (hvisited : s' ∈ (program env s).states) :
      Reached program allowed start s'

theorem Reached.cut {program : ε -> Program σ α} {allowed : σ -> ε -> Prop} {start s : σ}
    (h : Reached program allowed start s) (env : ε) (hallowed : allowed s env)
    (effects : Nat) : Reached program allowed start ((program env s).cut s effects) := by
  rcases Run.cut_mem s (program env s) effects with heq | hmem
  · rw [heq]
    exact h
  · exact Reached.run env h hallowed hmem

/-- What every single run keeps, from states where it may start, holds of all runs. -/
theorem Reached.keeps {program : ε -> Program σ α} {allowed : σ -> ε -> Prop} {start : σ}
    {inv : σ -> Prop} (hstart : inv start)
    (hrun : forall s env, inv s -> allowed s env ->
      Meets (program env) s inv fun _ _ => True)
    {s : σ} (h : Reached program allowed start s) : inv s := by
  induction h with
  | start => exact hstart
  | run env _ hallowed hvisited ih => exact (hrun _ env ih hallowed).visited _ hvisited

end Interrupt
end EsdcFactory
