import Mathlib

/-! Sliding windows. A queue holds the times that were admitted, oldest first; expired ones are dropped
from its front before a new time is compared with the limit. -/
namespace HomeMagic
open List

namespace SlidingWindow

variable {τ : Type*} [AddCommGroup τ] [LinearOrder τ]

def prune (window now : τ) (queue : List τ) : List τ := queue.dropWhile (fun time => decide (time ≤ now - window))

/-- Among the times up to each one, at most `limit` are less than a window old. -/
def Bounded (limit : ℕ) (window : τ) (log : List τ) : Prop :=
  ∀ before time after, log = before ++ time :: after →
    (before ++ [time]).countP (fun earlier => decide (time - window < earlier)) ≤ limit

theorem Bounded.countP_le {limit : ℕ} {window : τ} {log : List τ} (h : Bounded limit window log) {p : τ → Bool}
    (hp : ∀ earlier time, p earlier = true → p time = true → time - window < earlier) :
    log.countP p ≤ limit := by
  induction log using List.reverseRecOn with
  | nil => exact Nat.zero_le limit
  | append_singleton log time ih =>
    by_cases htime : p time = true
    · -- the last time is one of them, so all of them are counted when it came
      have hcount := h log time [] rfl
      refine le_trans (countP_mono_left ?_) hcount
      intro earlier _ hearlier
      exact decide_eq_true (hp earlier time hearlier htime)
    · have hlog : Bounded limit window log := by
        intro before earlier after heq
        exact h before earlier (after ++ [time]) (by rw [heq, append_assoc, cons_append])
      rw [countP_append, countP_singleton, if_neg htime, Nat.add_zero]
      exact ih hlog

structure Keeps (limit : ℕ) (window latest : τ) (log queue : List τ) : Prop where
  sorted : log.Pairwise (· ≤ ·)
  past : ∀ time ∈ log, time ≤ latest
  expired : ∃ old, log = old ++ queue ∧ ∀ time ∈ old, time ≤ latest - window
  bounded : Bounded limit window log

theorem keeps_nil (limit : ℕ) (window latest : τ) : Keeps limit window latest [] [] := by
  refine ⟨List.Pairwise.nil, fun _ h => absurd h not_mem_nil, ⟨[], rfl, fun _ h => absurd h not_mem_nil⟩, ?_⟩
  intro before time after heq
  exact absurd heq.symm (by simp)

omit [AddCommGroup τ] in
theorem le_of_mem_dropWhile {cutoff : τ} {queue : List τ} (hsorted : queue.Pairwise (· ≤ ·)) {time : τ}
    (h : time ∈ queue.dropWhile (fun time => decide (time ≤ cutoff))) : cutoff < time := by
  induction queue with
  | nil => cases h
  | cons first rest ih =>
    rw [pairwise_cons] at hsorted
    rw [dropWhile_cons] at h
    split at h
    · exact ih hsorted.2 h
    next hfirst =>
      have hcutoff : cutoff < first := lt_of_not_ge (fun hle => hfirst (decide_eq_true hle))
      rcases mem_cons.mp h with rfl | hrest
      · exact hcutoff
      · exact lt_of_lt_of_le hcutoff (hsorted.1 time hrest)

variable [IsOrderedAddMonoid τ] {limit : ℕ} {window latest now : τ} {log queue : List τ}

theorem Keeps.later (h : Keeps limit window latest log queue) (hnow : latest ≤ now) :
    Keeps limit window now log queue := by
  obtain ⟨old, hlog, hold⟩ := h.expired
  refine ⟨h.sorted, fun time htime => (h.past time htime).trans hnow, ⟨old, hlog, ?_⟩, h.bounded⟩
  intro time htime
  exact (hold time htime).trans (sub_le_sub_right hnow window)

theorem Keeps.prune (h : Keeps limit window latest log queue) (hnow : latest ≤ now) :
    Keeps limit window now log (SlidingWindow.prune window now queue) := by
  obtain ⟨old, hlog, hold⟩ := (h.later hnow).expired
  refine ⟨h.sorted, (h.later hnow).past, ?_, h.bounded⟩
  refine ⟨old ++ queue.takeWhile (fun time => decide (time ≤ now - window)), ?_, ?_⟩
  · unfold SlidingWindow.prune
    rw [append_assoc, takeWhile_append_dropWhile, hlog]
  · intro time htime
    rcases mem_append.mp htime with hfirst | htaken
    · exact hold time hfirst
    · have hexpired := mem_takeWhile_imp htaken
      exact of_decide_eq_true hexpired

theorem Keeps.length_prune (h : Keeps limit window latest log queue) (hnow : latest ≤ now) :
    (SlidingWindow.prune window now queue).length =
      log.countP (fun time => decide (now - window < time)) := by
  obtain ⟨old, hlog, hold⟩ := (h.prune hnow).expired
  have hsorted : queue.Pairwise (· ≤ ·) := by
    obtain ⟨first, hfirst, -⟩ := h.expired
    have hwhole := h.sorted
    rw [hfirst, pairwise_append] at hwhole
    exact hwhole.2.1
  have hold' : old.countP (fun time => decide (now - window < time)) = 0 := by
    rw [countP_eq_zero]
    intro time htime hlt
    exact absurd (of_decide_eq_true hlt) (not_lt.mpr (hold time htime))
  have hkept : (SlidingWindow.prune window now queue).countP (fun time => decide (now - window < time)) =
      (SlidingWindow.prune window now queue).length := by
    rw [countP_eq_length]
    intro time htime
    exact decide_eq_true (le_of_mem_dropWhile hsorted htime)
  rw [hlog, countP_append, hold', hkept, Nat.zero_add]

theorem Keeps.admitted (h : Keeps limit window latest log queue) (hnow : latest ≤ now)
    (hroom : (SlidingWindow.prune window now queue).length < limit) :
    Keeps limit window now (log ++ [now]) (SlidingWindow.prune window now queue ++ [now]) := by
  have hpruned := h.prune hnow
  obtain ⟨old, hlog, hold⟩ := hpruned.expired
  refine ⟨?_, ?_, ⟨old, ?_, hold⟩, ?_⟩
  · rw [pairwise_append]
    refine ⟨h.sorted, pairwise_singleton _ _, ?_⟩
    intro time htime last hlast
    rw [mem_singleton.mp hlast]
    exact hpruned.past time htime
  · intro time htime
    rcases mem_append.mp htime with hearlier | hlast
    · exact hpruned.past time hearlier
    · exact le_of_eq (mem_singleton.mp hlast)
  · rw [← append_assoc, ← hlog]
  · intro before time after heq
    rcases eq_nil_or_concat after with rfl | ⟨middle, last, rfl⟩
    · -- the new time: the log has fewer than `limit` within its window
      obtain ⟨rfl, hlast⟩ := append_inj' heq rfl
      cases hlast
      have hone : [now].countP (fun earlier => decide (now - window < earlier)) ≤ 1 := countP_le_length
      rw [countP_append, ← h.length_prune hnow]
      omega
    · refine h.bounded before time middle ?_
      have hassoc : log ++ [now] = (before ++ time :: middle) ++ [last] := by
        rw [heq, concat_eq_append, append_assoc, cons_append]
      exact (append_inj' hassoc rfl).1

end SlidingWindow

end HomeMagic
