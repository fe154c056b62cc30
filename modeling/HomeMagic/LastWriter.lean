import Mathlib

/-! Registers in which a later stamp wins, and of equal stamps the later write. -/
namespace HomeMagic
open List

namespace LastWriter

variable {α τ : Type*} [LinearOrder τ] (stamp : α → τ)

def write (current : Option α) (incoming : α) : Option α :=
  if current.all (fun value => decide (stamp value ≤ stamp incoming)) then some incoming else current

/-- The newest of the current value and of some writes: a write that is as new as everything, or the current
value if it is newer than all writes. -/
inductive Newest (current : Option α) (writes : List α) : Option α → Prop
  | kept (h : ∀ incoming ∈ writes, ∃ value, current = some value ∧ stamp incoming < stamp value) :
      Newest current writes current
  | written {newest : α} (hmem : newest ∈ writes) (hwrites : ∀ incoming ∈ writes, stamp incoming ≤ stamp newest)
      (hcurrent : ∀ value, current = some value → stamp value ≤ stamp newest) :
      Newest current writes (some newest)

variable {stamp} {current : Option α} {incoming : α} {writes : List α}

theorem write_of_le {value : α} (h : stamp value ≤ stamp incoming) :
    write stamp (some value) incoming = some incoming :=
  if_pos (decide_eq_true h)

theorem write_of_lt {value : α} (h : stamp incoming < stamp value) :
    write stamp (some value) incoming = some value :=
  if_neg (fun hle => absurd (of_decide_eq_true hle) (not_le.mpr h))

theorem write_some (value : α) : ∃ kept, write stamp (some value) incoming = some kept ∧ stamp value ≤ stamp kept := by
  rcases le_or_gt (stamp value) (stamp incoming) with hle | hlt
  · exact ⟨incoming, write_of_le hle, hle⟩
  · exact ⟨value, write_of_lt hlt, le_rfl⟩

theorem write_comm {first second : α} (h : stamp first ≠ stamp second) :
    write stamp (write stamp current first) second = write stamp (write stamp current second) first := by
  have hpair : write stamp (some first) second = write stamp (some second) first := by
    rcases lt_or_gt_of_ne h with hlt | hgt
    · rw [write_of_le hlt.le, write_of_lt hlt]
    · rw [write_of_lt hgt, write_of_le hgt.le]
  cases current with
  | none => exact hpair
  | some value =>
    rcases le_or_gt (stamp value) (stamp first) with hfirst | hfirst
    · rw [write_of_le hfirst]
      rcases le_or_gt (stamp value) (stamp second) with hsecond | hsecond
      · rw [write_of_le hsecond]
        exact hpair
      · rw [write_of_lt hsecond, write_of_le hfirst, write_of_lt (hsecond.trans_le hfirst)]
    · rw [write_of_lt hfirst]
      rcases le_or_gt (stamp value) (stamp second) with hsecond | hsecond
      · rw [write_of_le hsecond, write_of_lt (hfirst.trans_le hsecond)]
      · rw [write_of_lt hsecond, write_of_lt hfirst]

theorem foldl_write_perm {other : List α} (hperm : other.Perm writes) (hstamps : (writes.map stamp).Nodup)
    (current : Option α) : other.foldl (write stamp) current = writes.foldl (write stamp) current := by
  apply hperm.foldl_eq'
  intro first hfirst second hsecond value
  by_cases heq : first = second
  · rw [heq]
  · apply write_comm
    intro hsame
    exact heq (inj_on_of_nodup_map hstamps (hperm.mem_iff.mp hfirst) (hperm.mem_iff.mp hsecond) hsame)

/-- Writing one after the other leaves the newest. -/
theorem newest_foldl (current : Option α) (writes : List α) :
    Newest stamp current writes (writes.foldl (write stamp) current) := by
  induction writes using List.reverseRecOn with
  | nil => exact .kept (fun _ h => absurd h not_mem_nil)
  | append_singleton writes last ih =>
    rw [foldl_append, foldl_cons, foldl_nil]
    generalize hresult : writes.foldl (write stamp) current = result at ih
    cases ih with
    | kept hkept =>
      cases hcurrent : current with
      | none =>
        -- nothing was there and nothing was written
        have hempty : writes = [] := by
          rw [eq_nil_iff_forall_not_mem]
          intro incoming hmem
          obtain ⟨value, hvalue, -⟩ := hkept incoming hmem
          rw [hcurrent] at hvalue
          cases hvalue
        subst hempty
        exact .written mem_cons_self (fun incoming hmem => by rw [mem_singleton.mp hmem])
          (fun value hvalue => nomatch hvalue)
      | some value =>
        rw [hcurrent] at hkept
        rcases le_or_gt (stamp value) (stamp last) with hle | hlt
        · rw [write_of_le hle]
          refine .written (mem_append_right _ mem_cons_self) ?_ ?_
          · intro incoming hmem
            rcases mem_append.mp hmem with hearlier | hlast
            · obtain ⟨_, hsame, hless⟩ := hkept incoming hearlier
              cases hsame
              exact hless.le.trans hle
            · rw [mem_singleton.mp hlast]
          · rintro _ ⟨⟩
            exact hle
        · rw [write_of_lt hlt]
          refine .kept ?_
          intro incoming hmem
          rcases mem_append.mp hmem with hearlier | hlast
          · exact hkept incoming hearlier
          · rw [mem_singleton.mp hlast]
            exact ⟨value, rfl, hlt⟩
    | @written newest hmem hwrites hcurrent =>
      rcases le_or_gt (stamp newest) (stamp last) with hle | hlt
      · rw [write_of_le hle]
        refine .written (mem_append_right _ mem_cons_self) ?_ ?_
        · intro incoming hin
          rcases mem_append.mp hin with hearlier | hlast
          · exact (hwrites incoming hearlier).trans hle
          · rw [mem_singleton.mp hlast]
        · intro value hvalue
          exact (hcurrent value hvalue).trans hle
      · rw [write_of_lt hlt]
        refine .written (mem_append_left _ hmem) ?_ hcurrent
        intro incoming hin
        rcases mem_append.mp hin with hearlier | hlast
        · exact hwrites incoming hearlier
        · rw [mem_singleton.mp hlast]
          exact hlt.le

end LastWriter

end HomeMagic
