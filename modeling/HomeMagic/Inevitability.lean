import Mathlib

/-! Paths in a graph given by successor lists. -/
namespace HomeMagic

/-- Every path from a vertex meets `goal`; a vertex without successors must meet
it itself. -/
inductive Inevitable {α : Type} (succ : α → List α) (goal : α → Prop) : α → Prop
  | here {a : α} (h : goal a) : Inevitable succ goal a
  | next {a : α} (hne : succ a ≠ []) (h : ∀ b ∈ succ a, Inevitable succ goal b) :
      Inevitable succ goal a

theorem inevitable_of_wellFounded {α : Type} {succ : α → List α} {goal : α → Prop}
    {r : α → α → Prop} (hwf : WellFounded r) (P : α → Prop)
    (hstep : ∀ a, P a → ¬ goal a → succ a ≠ [] ∧ ∀ b ∈ succ a, P b ∧ r b a) (a : α) (ha : P a) :
    Inevitable succ goal a := by
  induction a using hwf.induction with
  | _ a ih =>
    by_cases hg : goal a
    · exact .here hg
    · obtain ⟨hne, hsucc⟩ := hstep a ha hg
      refine .next hne ?_
      intro b hb
      exact ih b (hsucc b hb).2 (hsucc b hb).1

theorem walk_invariant {α : Type} {r : α → α → Prop} {P : α → Prop} {a b : α}
    (hw : Relation.ReflTransGen r a b) (ha : P a) (hstep : ∀ x y, P x → r x y → P y) : P b := by
  induction hw with
  | refl => exact ha
  | tail _ hr ih => exact hstep _ _ ih hr

end HomeMagic
