import Mathlib

/-! Sequences and loops of steps that may fail. -/
namespace HomeMagic
open List

namespace Fallible

variable {ε α β : Type}
variable {f : α → Except ε β} {l : List α} {a : α} {b : β} {r : List β} {x : Except ε α}

theorem bind_inv (h : (x >>= f) = .ok b) :
    ∃ a, x = .ok a ∧ f a = .ok b := by
  cases x with
  | error error => cases h
  | ok a => exact ⟨a, rfl, h⟩

theorem toOption_eq_some (h : x.toOption = some a) : x = .ok a := by
  cases x with
  | ok other => rw [Option.some.inj h]
  | error error => cases h

theorem exists_bind (hx : x = .ok a) (hf : ∃ b, f a = .ok b) : ∃ b, (x >>= f) = .ok b := by
  rw [hx]
  exact hf

theorem foldlM_keeps {f : β → α → Except ε β} {I : β → Prop} (hf : ∀ a ∈ l, ∀ b b', f b a = .ok b' → I b → I b')
    {b' : β} (h : l.foldlM f b = .ok b') (hb : I b) : I b' := by
  induction l generalizing b with
  | nil =>
    cases h
    exact hb
  | cons a rest ih =>
    rw [foldlM_cons] at h
    obtain ⟨next, hfirst, hrest⟩ := bind_inv h
    have hnext : I next := hf a mem_cons_self b next hfirst hb
    exact ih (fun c hc => hf c (mem_cons_of_mem _ hc)) hrest hnext

theorem exists_of_mem_mapM (h : l.mapM f = .ok r) (hb : b ∈ r) : ∃ a ∈ l, f a = .ok b := by
  induction l generalizing r with
  | nil =>
    cases h
    cases hb
  | cons a rest ih =>
    rw [mapM_cons] at h
    obtain ⟨first, ha, h⟩ := bind_inv h
    obtain ⟨others, hrest, h⟩ := bind_inv h
    cases h
    rcases mem_cons.mp hb with rfl | hmem
    · exact ⟨a, mem_cons_self, ha⟩
    · obtain ⟨a', ha', heq⟩ := ih hrest hmem
      exact ⟨a', mem_cons_of_mem a ha', heq⟩

theorem exists_mapM_of_mem (h : l.mapM f = .ok r) (ha : a ∈ l) : ∃ b ∈ r, f a = .ok b := by
  induction l generalizing r with
  | nil => cases ha
  | cons first rest ih =>
    rw [mapM_cons] at h
    obtain ⟨head, hhead, h⟩ := bind_inv h
    obtain ⟨tail, htail, h⟩ := bind_inv h
    cases h
    rcases mem_cons.mp ha with rfl | hrest
    · exact ⟨head, mem_cons_self, hhead⟩
    · obtain ⟨b, hb, hf⟩ := ih htail hrest
      exact ⟨b, mem_cons_of_mem head hb, hf⟩

theorem forall₂_of_mapM {f : α → Option β} (h : l.mapM f = some r) :
    List.Forall₂ (fun a b => f a = some b) l r := by
  induction l generalizing r with
  | nil =>
    cases h
    exact List.Forall₂.nil
  | cons first rest ih =>
    rw [mapM_cons] at h
    obtain ⟨head, hhead, h⟩ := Option.bind_eq_some_iff.mp h
    obtain ⟨tail, htail, h⟩ := Option.bind_eq_some_iff.mp h
    cases h
    exact List.Forall₂.cons hhead (ih htail)

end Fallible
end HomeMagic
