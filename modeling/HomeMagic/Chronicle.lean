import Mathlib

/-! Chronicles: recorded changes of a value, each from the value it met to the one it left. -/
namespace HomeMagic

namespace Chronicle

variable {σ : Type}

/-- Played from the first value the changes end at the last one, and each starts where the one before
it ended. -/
def Follows : σ → List (σ × σ) → σ → Prop
  | start, [], stop => start = stop
  | start, change :: rest, stop => change.1 = start ∧ Follows change.2 rest stop

theorem Follows.append {a b c : σ} {earlier later : List (σ × σ)} (h : Follows a earlier b)
    (h' : Follows b later c) : Follows a (earlier ++ later) c := by
  induction earlier generalizing a with
  | nil =>
    have heq : a = b := h
    exact heq ▸ h'
  | cons change rest ih => exact ⟨h.1, ih h.2⟩

def Reproduces (changes : List (σ × σ)) (stored : Option σ) : Prop :=
  ∀ first rest, changes = first :: rest → ∃ value, stored = some value ∧ Follows first.1 changes value

theorem reproduces_nil (stored : Option σ) : Reproduces [] stored :=
  fun _ _ h => nomatch h

theorem Reproduces.append {changes later : List (σ × σ)} {stored : Option σ} {a b : σ}
    (h : Reproduces changes stored) (hstored : ∀ value, stored = some value → value = a)
    (hlater : Follows a later b) : Reproduces (changes ++ later) (some b) := by
  intro first rest heq
  cases changes with
  | nil =>
    rw [List.nil_append] at heq
    rw [heq] at hlater
    refine ⟨b, rfl, ?_⟩
    rw [List.nil_append, heq]
    exact ⟨rfl, hlater.2⟩
  | cons change earlier =>
    obtain ⟨value, hvalue, hfollows⟩ := h change earlier rfl
    have hfirst : change = first := (List.cons.inj heq).1
    refine ⟨b, rfl, ?_⟩
    rw [← hfirst]
    exact hfollows.append (hstored value hvalue ▸ hlater)

end Chronicle

end HomeMagic
