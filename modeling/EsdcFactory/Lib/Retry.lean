import Mathlib.Data.List.Basic

/-!
# Loops that ask until an answer is accepted

A loop asks its questions in attempts, and each question is answered by a file
that was written beforehand or at a terminal.  A loop that asks the file again
for an answer it did not accept makes no progress.
-/

namespace EsdcFactory
namespace Retry

/-- Where the answer to a question comes from. -/
inductive Source where
  | file
  | terminal
deriving DecidableEq

/-- How an attempt ends. -/
inductive Ending (sigma line : Type) where
  | accepted
  /-- the attempt waits at the terminal, or the loop is broken off -/
  | stuck
  /-- the state and the lines that are left for the next attempt -/
  | rejected (s : sigma) (rest : List line)

/-- The questions that an attempt asks, and how it ends. -/
structure Attempt (question sigma line : Type) where
  replies : List (question × Source)
  ending : Ending sigma line

/-- A loop, in which `takes` says for a state what answers the file is asked for. -/
structure Loop (question sigma line : Type) where
  takes : sigma -> question -> Prop
  attempt : sigma -> List line -> Attempt question sigma line
  first : question
  /-- the file is asked exactly for the answers it is said to be asked for -/
  source_iff : forall s typed q source, (q, source) ∈ (attempt s typed).replies ->
    (source = .file <-> takes s q)
  asks_first : forall s typed, exists source, (first, source) ∈ (attempt s typed).replies
  rest_le : forall s typed s' rest, (attempt s typed).ending = .rejected s' rest ->
    rest.length ≤ typed.length
  /-- an answer at the terminal takes a line -/
  rest_lt : forall s typed s' rest q, (attempt s typed).ending = .rejected s' rest ->
    (q, .terminal) ∈ (attempt s typed).replies -> rest.length < typed.length

namespace Loop

variable {question sigma line : Type} (loop : Loop question sigma line)

/-- What an attempt leaves to the next one. -/
def next (x : sigma × List line) : Option (sigma × List line) :=
  match (loop.attempt x.1 x.2).ending with
  | .rejected s rest => some (s, rest)
  | _ => none

/-- What the attempt of the given number starts with. -/
def inputAt : Nat -> sigma × List line -> Option (sigma × List line)
  | 0, x => some x
  | n + 1, x => (loop.next x).bind (inputAt n)

/-- No answer of the file that was not accepted is taken from the file again. -/
def TurnsToTerminal (x : sigma × List line) : Prop :=
  forall n y z, loop.inputAt n x = some y -> loop.next y = some z ->
    forall q, (q, .file) ∈ (loop.attempt y.1 y.2).replies -> ¬ loop.takes z.1 q

/-- The attempts come to an end, or to a point where they wait for the terminal. -/
def Ends (x : sigma × List line) : Prop :=
  exists n, loop.inputAt n x = none

/-- A loop that does not spin on the file. -/
def NoSpin (x : sigma × List line) : Prop :=
  loop.TurnsToTerminal x ∧ loop.Ends x

variable {loop}

theorem next_eq_some {x z : sigma × List line} :
    loop.next x = some z <->
      (loop.attempt x.1 x.2).ending = .rejected z.1 z.2 := by
  unfold next
  cases (loop.attempt x.1 x.2).ending with
  | accepted => simp
  | stuck => simp
  | rejected s rest =>
      constructor
      · intro h
        cases h
        rfl
      · intro h
        cases h
        rfl

theorem TurnsToTerminal.next {x y : sigma × List line} (h : loop.TurnsToTerminal x)
    (hnext : loop.next x = some y) : loop.TurnsToTerminal y := by
  intro n u z hu hz
  refine h (n + 1) u z ?_ hz
  rw [inputAt, hnext, Option.bind_some]
  exact hu

theorem TurnsToTerminal.rest_lt {x y z : sigma × List line}
    (h : loop.TurnsToTerminal x) (hy : loop.next x = some y) (hz : loop.next y = some z) :
    z.2.length < x.2.length := by
  have hxy := next_eq_some.mp hy
  have hyz := next_eq_some.mp hz
  have hle := loop.rest_le _ _ _ _ hxy
  rcases loop.asks_first x.1 x.2 with ⟨source, hsource⟩
  cases source with
  | terminal =>
      exact Nat.lt_of_le_of_lt (loop.rest_le _ _ _ _ hyz)
        (loop.rest_lt _ _ _ _ _ hxy hsource)
  | file =>
      have hnot := h 0 x y rfl hy loop.first hsource
      rcases loop.asks_first y.1 y.2 with ⟨again, hagain⟩
      cases again with
      | file => exact absurd ((loop.source_iff _ _ _ _ hagain).mp rfl) hnot
      | terminal =>
          exact Nat.lt_of_lt_of_le (loop.rest_lt _ _ _ _ _ hyz hagain) hle

theorem TurnsToTerminal.ends {x : sigma × List line} (h : loop.TurnsToTerminal x) :
    loop.Ends x := by
  generalize hn : x.2.length = n
  induction n using Nat.strongRecOn generalizing x with
  | ind n ih =>
      cases hy : loop.next x with
      | none => exact ⟨1, by rw [inputAt, hy, Option.bind_none]⟩
      | some y =>
          cases hz : loop.next y with
          | none =>
              exact ⟨2, by rw [inputAt, hy, Option.bind_some, inputAt, hz, Option.bind_none]⟩
          | some z =>
              have hlt := h.rest_lt hy hz
              rcases ih z.2.length (hn ▸ hlt) ((h.next hy).next hz) rfl with ⟨m, hm⟩
              refine ⟨m + 2, ?_⟩
              rw [inputAt, hy, Option.bind_some, inputAt, hz, Option.bind_some, hm]

/--
With a condition that says of one attempt whether the answers it does not accept
are left to the terminal, a run does not spin exactly when all its attempts meet
the condition.
-/
theorem noSpin_iff {passes : sigma -> List line -> Prop}
    (hpasses : forall s typed, passes s typed <->
      forall s' rest, (loop.attempt s typed).ending = .rejected s' rest ->
        forall q, (q, .file) ∈ (loop.attempt s typed).replies -> ¬ loop.takes s' q)
    (x : sigma × List line) :
    loop.NoSpin x <-> forall n y, loop.inputAt n x = some y -> passes y.1 y.2 := by
  constructor
  · intro hparts n y hy
    rcases hparts with ⟨hturns, _⟩
    refine (hpasses y.1 y.2).mpr ?_
    intro s' rest hending
    exact hturns n y (s', rest) hy (next_eq_some.mpr hending)
  · intro h
    have hturns : loop.TurnsToTerminal x := by
      intro n y z hy hz
      exact (hpasses y.1 y.2).mp (h n y hy) z.1 z.2 (next_eq_some.mp hz)
    exact ⟨hturns, hturns.ends⟩

end Loop
end Retry
end EsdcFactory
