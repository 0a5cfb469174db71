import Mathlib.Data.List.Basic
import Mathlib.Data.List.Infix

/-!
# Batches

A reader of a stream keeps what it reads and sends it on at each mark, if there is
anything to send.  What a stream is framed into by its marks are then the batches,
apart from what stands behind the last mark.
-/

namespace EsdcFactory
namespace Batches

variable {α β : Type}

structure Collector (α : Type) where
  pending : List α
  sent : List (List α)

/-- What is not empty is sent at a mark, which is `none`. -/
def Collector.step (c : Collector α) : Option α -> Collector α
  | none => if c.pending.isEmpty then c else ⟨[], c.sent ++ [c.pending]⟩
  | some x => { c with pending := c.pending ++ [x] }

def Collector.run (c : Collector α) (stream : List (Option α)) : Collector α :=
  stream.foldl Collector.step c

def collect (stream : List (Option α)) : Collector α :=
  Collector.run ⟨[], []⟩ stream

/-- Each block with a mark in front. -/
def framed (blocks : List (List α)) : List (Option α) :=
  blocks.flatMap fun block => none :: block.map some

def nonempty (blocks : List (List α)) : List (List α) :=
  blocks.filter fun block => !block.isEmpty

def marks (stream : List (Option α)) : Nat :=
  stream.countP Option.isNone

/-!
## Runs
-/

theorem Collector.run_append (c : Collector α) (front back : List (Option α)) :
    c.run (front ++ back) = (c.run front).run back :=
  List.foldl_append

theorem Collector.run_some (c : Collector α) (block : List α) :
    c.run (block.map some) = { c with pending := c.pending ++ block } := by
  induction block generalizing c with
  | nil =>
      rw [List.append_nil]
      rfl
  | cons x block ih =>
      change Collector.run { c with pending := c.pending ++ [x] } (block.map some) = _
      rw [ih, List.append_assoc, List.singleton_append]

theorem Collector.step_none (c : Collector α) :
    c.step none = ⟨[], c.sent ++ nonempty [c.pending]⟩ := by
  rcases c with ⟨pending, sent⟩
  cases pending with
  | nil => simp [Collector.step, nonempty]
  | cons x pending => simp [Collector.step, nonempty]

theorem marks_some (block : List α) : marks (block.map some) = 0 := by
  simp [marks, List.countP_eq_zero]

theorem marks_append (block : List α) (stream : List (Option α)) :
    marks (block.map some ++ stream) = marks stream := by
  rw [marks, List.countP_append]
  exact (congrArg (· + _) (marks_some block)).trans (Nat.zero_add _)

theorem nonempty_append (front back : List (List α)) :
    nonempty (front ++ back) = nonempty front ++ nonempty back :=
  List.filter_append ..

theorem prefix_append_cases {s front back : List α} (h : s <+: front ++ back) :
    s <+: front ∨ exists t, s = front ++ t ∧ t <+: back := by
  rcases List.prefix_or_prefix_of_prefix h (List.prefix_append front back) with hs | hs
  · exact Or.inl hs
  · rcases hs with ⟨t, rfl⟩
    exact Or.inr ⟨t, rfl, (List.prefix_append_right_inj front).mp h⟩

/--
Of a stream that is read up to some point, the blocks in front of the last mark have
been sent, each that is not empty as one batch.
-/
theorem Collector.run_sent {blocks : List (List α)} {stream : List (Option α)}
    (h : stream <+: framed blocks) (c : Collector α) :
    (c.run stream).sent =
      c.sent ++ nonempty ((c.pending :: blocks).take (marks stream)) := by
  induction blocks generalizing c stream with
  | nil =>
      rw [List.prefix_nil.mp h]
      simp [Collector.run, marks, nonempty]
  | cons block blocks ih =>
      cases stream with
      | nil => simp [Collector.run, marks, nonempty]
      | cons item stream =>
          have hcons : item :: stream <+: none :: (block.map some ++ framed blocks) := h
          rcases List.cons_prefix_cons.mp hcons with ⟨rfl, hrest⟩
          have hmarks : marks (none :: stream) = marks stream + 1 := by simp [marks]
          have hrun : c.run (none :: stream) = (c.step none).run stream := rfl
          rw [hrun, hmarks, List.take_succ_cons]
          rcases prefix_append_cases hrest with hwithin | ⟨back, rfl, hback⟩
          · rcases List.prefix_map_iff.mp hwithin with ⟨part, _, rfl⟩
            rw [Collector.run_some, Collector.step_none, marks_some, List.take_zero]
          · rw [Collector.run_append, Collector.run_some, ih hback, Collector.step_none,
              marks_append, List.nil_append, List.append_assoc, ← nonempty_append,
              List.singleton_append]

/-- What is sent and what is pending are the elements of the stream, in their order. -/
theorem Collector.run_flatten (c : Collector α) (stream : List (Option α)) :
    (c.run stream).sent.flatten ++ (c.run stream).pending =
      c.sent.flatten ++ c.pending ++ stream.filterMap id := by
  induction stream generalizing c with
  | nil => simp [Collector.run]
  | cons item stream ih =>
      change ((c.step item).run stream).sent.flatten ++ ((c.step item).run stream).pending = _
      rw [ih]
      cases item with
      | none =>
          have hflat : (nonempty [c.pending]).flatten = c.pending := by
            cases c.pending <;> simp [nonempty]
          simp [Collector.step_none, hflat]
      | some x => simp [Collector.step]

/-!
## Elements with something added
-/

def Collector.map (f : α -> β) (c : Collector α) : Collector β where
  pending := c.pending.map f
  sent := c.sent.map (List.map f)

theorem Collector.step_map (f : α -> β) (c : Collector α) (item : Option α) :
    (c.map f).step (item.map f) = (c.step item).map f := by
  cases item with
  | none =>
      rcases c with ⟨pending, sent⟩
      cases pending with
      | nil => rfl
      | cons x pending => simp [Collector.step, Collector.map]
  | some x => simp [Collector.step, Collector.map]

theorem Collector.run_map (f : α -> β) (c : Collector α) (stream : List (Option α)) :
    (c.map f).run (stream.map (Option.map f)) = (c.run stream).map f := by
  induction stream generalizing c with
  | nil => rfl
  | cons item stream ih =>
      change ((c.map f).step (item.map f)).run (stream.map (Option.map f)) = _
      rw [Collector.step_map, ih]
      rfl

theorem marks_map (f : α -> β) (stream : List (Option α)) :
    marks (stream.map (Option.map f)) = marks stream := by
  rw [marks, marks, List.countP_map]
  apply List.countP_congr
  intro item _
  cases item <;> simp

theorem collect_map (f : α -> β) (stream : List (Option α)) :
    collect (stream.map (Option.map f)) = (collect stream).map f :=
  Collector.run_map f ⟨[], []⟩ stream

/-- The batches of a framed stream that is read up to some point. -/
theorem collect_sent {blocks : List (List α)} {stream : List (Option α)}
    (h : stream <+: framed blocks) :
    (collect stream).sent = nonempty (blocks.take (marks stream - 1)) := by
  rw [collect, Collector.run_sent h, List.nil_append]
  cases marks stream with
  | zero => rfl
  | succ n => rfl

/-- What is in a batch has been read. -/
theorem mem_of_sent {stream : List (Option α)} {batch : List α}
    (hbatch : batch ∈ (collect stream).sent) {x : α} (hx : x ∈ batch) : some x ∈ stream := by
  have hflatten : (collect stream).sent.flatten ++ (collect stream).pending =
      stream.filterMap id := Collector.run_flatten ⟨[], []⟩ stream
  have hmem : x ∈ stream.filterMap id := by
    rw [← hflatten]
    exact List.mem_append_left _ (List.mem_flatten.mpr ⟨batch, hbatch, hx⟩)
  rcases List.mem_filterMap.mp hmem with ⟨item, hitem, heq⟩
  cases item with
  | none => cases heq
  | some y =>
      cases heq
      exact hitem

theorem mem_framed {blocks : List (List α)} {x : α} (h : some x ∈ framed blocks) :
    exists block, block ∈ blocks ∧ x ∈ block := by
  rcases List.mem_flatMap.mp h with ⟨block, hblock, hmem⟩
  rcases List.mem_cons.mp hmem with hmem | hmem
  · cases hmem
  · rcases List.mem_map.mp hmem with ⟨y, hy, heq⟩
    cases heq
    exact ⟨block, hblock, hy⟩

theorem marks_framed (blocks : List (List α)) : marks (framed blocks) = blocks.length := by
  induction blocks with
  | nil => rfl
  | cons block blocks ih =>
      have hframed : framed (block :: blocks) = none :: (block.map some ++ framed blocks) := rfl
      have hmark : marks (none :: (block.map some ++ framed blocks)) =
          marks (block.map some ++ framed blocks) + 1 := by simp [marks]
      rw [hframed, hmark, marks_append, ih, List.length_cons]

theorem marks_le {blocks : List (List α)} {stream : List (Option α)}
    (h : stream <+: framed blocks) : marks stream ≤ blocks.length := by
  rw [← marks_framed]
  exact h.sublist.countP_le

end Batches
end EsdcFactory
