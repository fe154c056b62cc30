import HomeMagic.KeyedTable

/-! Retention of a table: eligible rows that expired are deleted, and of the others all but
the first few by rank. -/
namespace HomeMagic

namespace Table

variable {κ α β : Type} {key : α → κ} [LinearOrder β] {t : Table κ α key}
  {eligible expired : α → Bool} {rank : α → β} {maximum : ℕ} {a : α}

def expire (t : Table κ α key) (eligible expired : α → Bool) : Table κ α key :=
  t.filter (fun a => !(eligible a && expired a))

def trim [DecidableEq α] (t : Table κ α key) (eligible : α → Bool) (rank : α → β) (maximum : ℕ) : Table κ α key :=
  t.filter (fun a => !(eligible a && !(t.page eligible rank maximum).contains a))

def before (t : Table κ α key) (eligible : α → Bool) (rank : α → β) (a : α) : ℕ :=
  t.count (fun b => eligible b && decide (rank b < rank a))

/-- An eligible row is due when it expired or too many rows stand before it. -/
def Due (t : Table κ α key) (eligible expired : α → Bool) (rank : α → β) (maximum : ℕ) (a : α) : Prop :=
  eligible a = true ∧ (expired a = true ∨ maximum ≤ t.before eligible rank a)

theorem mem_expire : a ∈ (t.expire eligible expired).rows ↔
    a ∈ t.rows ∧ ¬ (eligible a = true ∧ expired a = true) := by
  rw [expire, mem_filter, Bool.not_eq_true', Bool.eq_false_iff, ne_eq, Bool.and_eq_true]

theorem mem_trim [DecidableEq α] (hinj : Set.InjOn rank {a | a ∈ t.rows}) :
    a ∈ (t.trim eligible rank maximum).rows ↔
      a ∈ t.rows ∧ ¬ (eligible a = true ∧ maximum ≤ t.before eligible rank a) := by
  rw [trim, mem_filter]
  constructor
  · rintro ⟨ha, hkept⟩
    refine ⟨ha, ?_⟩
    rintro ⟨heligible, hbefore⟩
    have hpage : a ∈ t.page eligible rank maximum := by simpa [heligible] using hkept
    exact absurd (count_lt_of_mem_page hpage) (not_lt.mpr hbefore)
  · rintro ⟨ha, hkept⟩
    refine ⟨ha, ?_⟩
    by_cases heligible : eligible a = true
    · have hpage : a ∈ t.page eligible rank maximum := by
        rw [mem_page_iff (fun x hx y hy h => hinj hx hy h) ha heligible]
        exact not_le.mp (fun h => hkept ⟨heligible, h⟩)
      simp [hpage]
    · simp [heligible]

theorem before_expire (hexpired : ∀ a b, rank b < rank a → expired b = true → expired a = true)
    (ha : expired a = false) : (t.expire eligible expired).before eligible rank a = t.before eligible rank a := by
  unfold before expire filter count
  rw [List.countP_filter]
  apply List.countP_congr
  intro b _
  constructor
  · intro h
    rw [Bool.and_eq_true] at h
    exact h.1
  · intro h
    have hrank : rank b < rank a := by
      rw [Bool.and_eq_true, decide_eq_true_eq] at h
      exact h.2
    have hb : expired b = false := by
      rw [Bool.eq_false_iff]
      intro hb
      rw [hexpired a b hrank hb] at ha
      cases ha
    simp only [h, hb, Bool.and_false, Bool.not_false, Bool.and_self]

theorem mem_trim_expire [DecidableEq α] (hinj : Set.InjOn rank {a | a ∈ t.rows})
    (hexpired : ∀ a b, rank b < rank a → expired b = true → expired a = true) :
    a ∈ ((t.expire eligible expired).trim eligible rank maximum).rows ↔
      a ∈ t.rows ∧ ¬ t.Due eligible expired rank maximum a := by
  rw [mem_trim (hinj.mono (fun b hb => (mem_expire.mp hb).1)), mem_expire]
  unfold Due
  by_cases hgone : expired a = true
  · simp only [hgone, and_true, true_or]
    constructor
    · rintro ⟨h, -⟩
      exact h
    · intro h
      exact ⟨h, fun hdue => h.2 hdue.1⟩
  · rw [before_expire hexpired (by simpa using hgone)]
    simp [hgone]

theorem not_due_of_mem_trim_expire [DecidableEq α] (hinj : Set.InjOn rank {a | a ∈ t.rows})
    (hexpired : ∀ a b, rank b < rank a → expired b = true → expired a = true)
    (ha : a ∈ ((t.expire eligible expired).trim eligible rank maximum).rows) :
    ¬ ((t.expire eligible expired).trim eligible rank maximum).Due eligible expired rank maximum a := by
  have hnot := ((mem_trim_expire hinj hexpired).mp ha).2
  rintro ⟨heligible, hdue⟩
  apply hnot
  refine ⟨heligible, hdue.imp_right (fun h => le_trans h ?_)⟩
  apply count_le_of_keys
  intro b hb hbefore
  exact ⟨b, ((mem_trim_expire hinj hexpired).mp hb).1, hbefore, rfl⟩

theorem filter_eq_self {p : α → Bool} (h : ∀ a ∈ t.rows, p a = true) : t.filter p = t := by
  cases t with
  | mk rows nodup =>
    unfold filter
    congr 1
    exact List.filter_eq_self.mpr h

theorem count_eq_zero {p : α → Bool} (h : ∀ a ∈ t.rows, p a = false) : t.count p = 0 := by
  rw [count, List.countP_eq_zero]
  intro a ha
  rw [h a ha]
  exact Bool.false_ne_true

theorem expire_of_none_due (h : ∀ a ∈ t.rows, ¬ t.Due eligible expired rank maximum a) :
    ∀ a ∈ t.rows, (eligible a && expired a) = false := by
  intro a ha
  rw [Bool.eq_false_iff]
  intro hgone
  rw [Bool.and_eq_true] at hgone
  exact h a ha ⟨hgone.1, Or.inl hgone.2⟩

theorem trim_of_none_due [DecidableEq α] (hinj : Set.InjOn rank {a | a ∈ t.rows})
    (h : ∀ a ∈ t.rows, ¬ t.Due eligible expired rank maximum a) :
    ∀ a ∈ t.rows, (eligible a && !(t.page eligible rank maximum).contains a) = false := by
  intro a ha
  have hkept : a ∈ (t.trim eligible rank maximum).rows :=
    (mem_trim hinj).mpr ⟨ha, fun hdue => h a ha ⟨hdue.1, Or.inr hdue.2⟩⟩
  rw [trim, mem_filter, Bool.not_eq_true'] at hkept
  exact hkept.2

end Table
end HomeMagic
