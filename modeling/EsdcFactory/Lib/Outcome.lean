/-!
# Outcomes of a piece of a script

A piece of an interactive script is finished, is broken off by an error after
which the shell goes on elsewhere, or waits for an answer that is not given.
-/

namespace EsdcFactory

/-- How a piece of a script ends, and the state it leaves. -/
inductive Outcome (sigma : Type) where
  | done (s : sigma)
  | aborted (s : sigma)
  | waiting
deriving DecidableEq

namespace Outcome

/-- Go on with the next piece after one that was finished. -/
def bind (x : Outcome sigma) (f : sigma -> Outcome sigma) : Outcome sigma :=
  match x with
  | done s => f s
  | aborted s => aborted s
  | waiting => waiting

@[simp] theorem bind_done (s : sigma) (f : sigma -> Outcome sigma) :
    (done s).bind f = f s := rfl

@[simp] theorem bind_aborted (s : sigma) (f : sigma -> Outcome sigma) :
    (aborted s).bind f = aborted s := rfl

@[simp] theorem bind_waiting (f : sigma -> Outcome sigma) :
    (waiting : Outcome sigma).bind f = waiting := rfl

theorem bind_eq_done {x : Outcome sigma} {f : sigma -> Outcome sigma} {s : sigma} :
    x.bind f = done s <-> exists s', x = done s' ∧ f s' = done s := by
  cases x with
  | done s' => simp
  | aborted s' => simp
  | waiting => simp

theorem bind_assoc (x : Outcome sigma) (f g : sigma -> Outcome sigma) :
    (x.bind f).bind g = x.bind fun s => (f s).bind g := by
  cases x with
  | done s => rfl
  | aborted s => rfl
  | waiting => rfl

theorem bind_done_right (x : Outcome sigma) : x.bind done = x := by
  cases x with
  | done s => rfl
  | aborted s => rfl
  | waiting => rfl

/-- The piece is finished, in a state that passes a test. -/
def passes (test : sigma -> Bool) : Outcome sigma -> Bool
  | done s => test s
  | aborted _ => false
  | waiting => false

theorem passes_iff {test : sigma -> Bool} {x : Outcome sigma} :
    x.passes test = true <-> exists s, x = done s ∧ test s = true := by
  cases x with
  | done s => simp [passes]
  | aborted s => simp [passes]
  | waiting => simp [passes]

/-- The state in which the piece is finished passes a test, if it is finished at all. -/
def whenDone (test : sigma -> Bool) : Outcome sigma -> Bool
  | done s => test s
  | aborted _ => true
  | waiting => true

theorem whenDone_done {test : sigma -> Bool} {x : Outcome sigma} {s : sigma}
    (h : x.whenDone test = true) (hs : x = done s) : test s = true := by
  rw [hs] at h
  exact h

/-- The state in which the script goes on, whether or not the piece was finished. -/
def left : Outcome sigma -> Option sigma
  | done s => some s
  | aborted s => some s
  | waiting => none

/-- Every state that is left has the property. -/
def All (P : sigma -> Prop) (x : Outcome sigma) : Prop :=
  forall s, x.left = some s -> P s

@[simp] theorem all_done {P : sigma -> Prop} {s : sigma} :
    (done s).All P <-> P s := by
  simp [All, left]

@[simp] theorem all_aborted {P : sigma -> Prop} {s : sigma} :
    (aborted s).All P <-> P s := by
  simp [All, left]

@[simp] theorem all_waiting {P : sigma -> Prop} :
    (waiting : Outcome sigma).All P := by
  simp [All, left]

theorem All.bind {P : sigma -> Prop} {x : Outcome sigma}
    {f : sigma -> Outcome sigma} (hx : x.All P)
    (hf : forall s, P s -> (f s).All P) : (x.bind f).All P := by
  cases x with
  | done s => exact hf s (all_done.mp hx)
  | aborted s => exact hx
  | waiting => exact hx

/-- A piece for each element of a list, one after the other. -/
def each (visit : alpha -> sigma -> Outcome sigma) : List alpha -> sigma -> Outcome sigma
  | [], s => done s
  | x :: xs, s => (visit x s).bind (each visit xs)

@[simp] theorem each_nil (visit : alpha -> sigma -> Outcome sigma) (s : sigma) :
    each visit [] s = done s := rfl

theorem each_cons (visit : alpha -> sigma -> Outcome sigma) (x : alpha) (xs : List alpha)
    (s : sigma) : each visit (x :: xs) s = (visit x s).bind (each visit xs) := rfl

theorem each_append (visit : alpha -> sigma -> Outcome sigma) (xs ys : List alpha)
    (s : sigma) : each visit (xs ++ ys) s = (each visit xs s).bind (each visit ys) := by
  induction xs generalizing s with
  | nil => rfl
  | cons x xs ih =>
      rw [List.cons_append, each_cons, each_cons, bind_assoc]
      exact congrArg _ (funext ih)

/-- Loops within a loop are one loop. -/
theorem each_flatMap (visit : beta -> sigma -> Outcome sigma) (f : alpha -> List beta)
    (xs : List alpha) (s : sigma) :
    each visit (xs.flatMap f) s = each (fun x => each visit (f x)) xs s := by
  induction xs generalizing s with
  | nil => rfl
  | cons x xs ih =>
      rw [List.flatMap_cons, each_append, each_cons]
      exact congrArg _ (funext ih)

theorem each_listMap (visit : beta -> sigma -> Outcome sigma) (f : alpha -> beta)
    (xs : List alpha) (s : sigma) : each visit (xs.map f) s = each (fun x => visit (f x)) xs s := by
  induction xs generalizing s with
  | nil => rfl
  | cons x xs ih =>
      rw [List.map_cons, each_cons, each_cons]
      exact congrArg _ (funext ih)

theorem each_congr {visit visit' : alpha -> sigma -> Outcome sigma} {xs : List alpha}
    (h : forall x, x ∈ xs -> visit x = visit' x) : each visit xs = each visit' xs := by
  induction xs with
  | nil => rfl
  | cons x xs ih =>
      funext s
      rw [each_cons, each_cons, h x List.mem_cons_self,
        ih fun y hy => h y (List.mem_cons_of_mem _ hy)]

/-- What is done with the state of a piece that is finished, or of one that is not. -/
def map (f : sigma -> tau) : Outcome sigma -> Outcome tau
  | done s => done (f s)
  | aborted s => aborted (f s)
  | waiting => waiting

theorem All.map {P : sigma -> Prop} {Q : tau -> Prop} {f : sigma -> tau} {x : Outcome sigma}
    (hx : x.All P) (hf : forall s, P s -> Q (f s)) : (x.map f).All Q := by
  cases x with
  | done s => exact all_done.mpr (hf s (all_done.mp hx))
  | aborted s => exact all_aborted.mpr (hf s (all_aborted.mp hx))
  | waiting => exact all_waiting

theorem map_bind {visit : sigma -> Outcome sigma} {visit' : tau -> Outcome tau}
    {f : sigma -> tau} (h : forall s, (visit s).map f = visit' (f s)) (x : Outcome sigma) :
    (x.bind visit).map f = (x.map f).bind visit' := by
  cases x with
  | done s => exact h s
  | aborted s => rfl
  | waiting => rfl

/-- Rounds that do the same with less of the state make loops that do the same. -/
theorem each_map {visit : alpha -> sigma -> Outcome sigma}
    {visit' : alpha -> tau -> Outcome tau} {f : sigma -> tau} {xs : List alpha}
    (h : forall x, x ∈ xs -> forall s, (visit x s).map f = visit' x (f s)) (s : sigma) :
    (each visit xs s).map f = each visit' xs (f s) := by
  induction xs generalizing s with
  | nil => rfl
  | cons x xs ih =>
      rw [each_cons, each_cons, ← h x List.mem_cons_self s]
      exact map_bind (ih fun y hy => h y (List.mem_cons_of_mem _ hy)) _

theorem All.each {P : sigma -> Prop} {visit : alpha -> sigma -> Outcome sigma}
    {xs : List alpha} (h : forall x, x ∈ xs -> forall s, P s -> (visit x s).All P)
    {s : sigma} (hs : P s) : (each visit xs s).All P := by
  induction xs generalizing s with
  | nil => exact all_done.mpr hs
  | cons x xs ih =>
      rw [each_cons]
      refine (h x List.mem_cons_self s hs).bind fun s' hs' => ?_
      exact ih (fun y hy => h y (List.mem_cons_of_mem _ hy)) hs'

/-- The piece is not broken off. -/
def Unbroken (x : Outcome sigma) : Prop :=
  forall s, x ≠ aborted s

theorem unbroken_done (s : sigma) : (done s).Unbroken := by
  intro s' h
  cases h

theorem unbroken_waiting : (waiting : Outcome sigma).Unbroken := by
  intro s h
  cases h

theorem Unbroken.bind {x : Outcome sigma} {f : sigma -> Outcome sigma}
    (hx : x.Unbroken) (hf : forall s, x = done s -> (f s).Unbroken) :
    (x.bind f).Unbroken := by
  cases x with
  | done s => exact hf s rfl
  | aborted s => exact absurd rfl (hx s)
  | waiting => exact unbroken_waiting

theorem Unbroken.done_of_left {x : Outcome sigma} {s : sigma} (hx : x.Unbroken)
    (h : x.left = some s) : x = done s := by
  cases x with
  | done s' =>
      cases h
      rfl
  | aborted s' => exact absurd rfl (hx s')
  | waiting => cases h

end Outcome
end EsdcFactory
