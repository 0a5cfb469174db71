import EsdcFactory.Lib.Outcome

/-!
# Pieces of a script that report calls

A piece of a script reports the arguments that it calls some function with.  Without the
reports it is a piece of a script as before.
-/

namespace EsdcFactory

/-- A piece of a script with the arguments of its calls. -/
structure Traced (alpha sigma : Type) where
  calls : List alpha
  outcome : Outcome sigma

namespace Traced

variable {alpha sigma : Type}

/-- A piece without calls. -/
def quiet (x : Outcome sigma) : Traced alpha sigma where
  calls := []
  outcome := x

/-- Go on with the next piece after one that was finished. -/
def bind (x : Traced alpha sigma) (f : sigma -> Traced alpha sigma) :
    Traced alpha sigma :=
  match x.outcome with
  | .done s => { calls := x.calls ++ (f s).calls, outcome := (f s).outcome }
  | .aborted s => { calls := x.calls, outcome := .aborted s }
  | .waiting => { calls := x.calls, outcome := .waiting }

@[simp] theorem quiet_outcome (x : Outcome sigma) :
    (quiet x : Traced alpha sigma).outcome = x := rfl

@[simp] theorem bind_outcome (x : Traced alpha sigma) (f : sigma -> Traced alpha sigma) :
    (x.bind f).outcome = x.outcome.bind fun s => (f s).outcome := by
  unfold bind
  cases x.outcome with
  | done s => rfl
  | aborted s => rfl
  | waiting => rfl

/--
All calls are good, a piece that is finished leaves a state with the property, and one
that is broken off has made a call that breaks.
-/
structure Meets (Good Breaks : alpha -> Prop) (x : Traced alpha sigma) (P : sigma -> Prop) :
    Prop where
  calls : forall c, c ∈ x.calls -> Good c
  done : forall s, x.outcome = .done s -> P s
  aborted : forall s, x.outcome = .aborted s -> exists c, c ∈ x.calls ∧ Breaks c

variable {Good Breaks : alpha -> Prop} {P Q : sigma -> Prop}

theorem Meets.mono {x : Traced alpha sigma} (h : Meets Good Breaks x P)
    (hPQ : forall s, P s -> Q s) : Meets Good Breaks x Q where
  calls := h.calls
  done s hs := hPQ s (h.done s hs)
  aborted := h.aborted

theorem Meets.and {x : Traced alpha sigma} (h : Meets Good Breaks x P)
    (hQ : forall s, x.outcome = .done s -> Q s) :
    Meets Good Breaks x fun s => P s ∧ Q s where
  calls := h.calls
  done s hs := ⟨h.done s hs, hQ s hs⟩
  aborted := h.aborted

theorem Meets.quiet {x : Outcome sigma} (hx : x.Unbroken)
    (h : forall s, x = .done s -> P s) :
    Meets Good Breaks (Traced.quiet x : Traced alpha sigma) P where
  calls c hc := by cases hc
  done := h
  aborted s hs := absurd hs (hx s)

theorem Meets.quiet_waiting :
    Meets Good Breaks (Traced.quiet .waiting : Traced alpha sigma) P :=
  Meets.quiet Outcome.unbroken_waiting fun _ hs => nomatch hs

theorem Meets.quiet_done {s : sigma} (h : P s) :
    Meets Good Breaks (Traced.quiet (.done s) : Traced alpha sigma) P := by
  apply Meets.quiet (Outcome.unbroken_done s)
  intro s' hs'
  cases hs'
  exact h

theorem Meets.bind {x : Traced alpha sigma} {f : sigma -> Traced alpha sigma}
    (hx : Meets Good Breaks x P) (hf : forall s, P s -> Meets Good Breaks (f s) Q) :
    Meets Good Breaks (x.bind f) Q := by
  cases hout : x.outcome with
  | done s =>
      have hs := hf s (hx.done s hout)
      have hbind : x.bind f =
          { calls := x.calls ++ (f s).calls, outcome := (f s).outcome } := by
        simp only [Traced.bind, hout]
      rw [hbind]
      constructor
      · intro c hc
        rcases List.mem_append.mp hc with hc | hc
        · exact hx.calls c hc
        · exact hs.calls c hc
      · exact hs.done
      · intro s' hs'
        rcases hs.aborted s' hs' with ⟨c, hc, hbreaks⟩
        exact ⟨c, List.mem_append_right _ hc, hbreaks⟩
  | aborted s =>
      have hbind : x.bind f = { calls := x.calls, outcome := .aborted s } := by
        simp only [Traced.bind, hout]
      rw [hbind]
      exact ⟨hx.calls, (fun _ hs => nomatch hs), fun _ _ => hx.aborted s hout⟩
  | waiting =>
      have hbind : x.bind f = { calls := x.calls, outcome := .waiting } := by
        simp only [Traced.bind, hout]
      rw [hbind]
      exact ⟨hx.calls, (fun _ hs => nomatch hs), fun _ hs => nomatch hs⟩

end Traced
end EsdcFactory
