import Mathlib.Data.List.Basic

/-!
# Loops that go around until they return

A loop takes one round for each turn of the things around it.  What holds at the start
and is kept by every round that goes around again holds when a round returns.
-/

namespace EsdcFactory

/-- How a round of a loop ends. -/
inductive Round (sigma : Type) where
  | again (s : sigma)
  | returned (s : sigma)
  /-- a question is left without an answer -/
  | waiting

namespace Round

variable {tau sigma : Type}

/-- The rounds of a loop, up to the one that returns. -/
def loop (round : tau -> sigma -> Round sigma) : List tau -> sigma -> Option sigma
  | [], _ => none
  | turn :: turns, s =>
      match round turn s with
      | again s => loop round turns s
      | returned s => some s
      | waiting => none

variable {round : tau -> sigma -> Round sigma}

/-- What holds of the state that a round leaves, by the way it ends. -/
def Meets (again returned : sigma -> Prop) : Round sigma -> Prop
  | .again s => again s
  | .returned s => returned s
  | .waiting => True

section Invariants

variable {P : List tau -> sigma -> Prop} {R : List tau -> tau -> sigma -> Prop}
variable (hround : forall past turn s, P past s ->
  (round turn s).Meets (P (past ++ [turn])) (R past turn))

include hround

end Invariants

end Round
end EsdcFactory
