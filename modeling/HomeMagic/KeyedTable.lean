import Mathlib

/-! Tables with a primary key, and bounded pages of their rows. -/
namespace HomeMagic
open List

structure Table (κ α : Type) (key : α → κ) where
  rows : List α
  nodup : (rows.map key).Nodup

theorem countP_lt_of_mem_take {α β : Type} [LinearOrder β] {rank : α → β} {l : List α} {n : ℕ} {a : α}
    (hs : l.Pairwise (fun x y => rank x ≤ rank y)) (ha : a ∈ l.take n) :
    l.countP (fun b => rank b < rank a) < n := by
  induction l generalizing n with
  | nil => simp at ha
  | cons b rest ih =>
    obtain ⟨hb, hrest⟩ := pairwise_cons.mp hs
    cases n with
    | zero => simp at ha
    | succ n =>
      rw [take_succ_cons, mem_cons] at ha
      rw [countP_cons]
      rcases ha with rfl | ha
      · -- everything after the head is not before it
        have hzero : rest.countP (fun y => rank y < rank a) = 0 := by
          rw [countP_eq_zero]
          intro y hy
          simpa using hb y hy
        simp [hzero]
      · have hih := ih hrest ha
        split <;> omega

theorem mem_take_of_sorted {α β : Type} [LinearOrder β] {rank : α → β} {l : List α} {n : ℕ} {a : α}
    (hs : l.Pairwise (fun x y => rank x ≤ rank y))
    (hinj : ∀ x ∈ l, ∀ y ∈ l, rank x = rank y → x = y) (hnd : l.Nodup) (ha : a ∈ l) :
    a ∈ l.take n ↔ l.countP (fun b => rank b < rank a) < n := by
  refine ⟨countP_lt_of_mem_take hs, ?_⟩
  intro hcount
  induction l generalizing n with
  | nil => exact absurd ha not_mem_nil
  | cons b rest ih =>
    obtain ⟨hb, hrest⟩ := pairwise_cons.mp hs
    obtain ⟨hnb, hnrest⟩ := nodup_cons.mp hnd
    cases n with
    | zero => exact absurd hcount (Nat.not_lt_zero _)
    | succ n =>
      rw [take_succ_cons, mem_cons]
      rcases mem_cons.mp ha with rfl | har
      · exact .inl rfl
      · have hne : a ≠ b := by
          rintro rfl
          exact hnb har
        have hbefore : rank b < rank a := by
          refine lt_of_le_of_ne (hb a har) ?_
          intro heq
          exact hne (hinj a ha b mem_cons_self heq.symm)
        rw [countP_cons, if_pos (by simpa using hbefore)] at hcount
        exact .inr (ih hrest (fun x hx y hy => hinj x (mem_cons_of_mem _ hx) y
          (mem_cons_of_mem _ hy)) hnrest har (by omega))

namespace Table
variable {κ α : Type} {key : α → κ}
variable {k : κ} {b old : α} {l : List α} {t' : Table κ α key} {p' : α → Bool}

def empty : Table κ α key := ⟨[], List.nodup_nil⟩

def filter (t : Table κ α key) (p : α → Bool) : Table κ α key where
  rows := t.rows.filter p
  nodup := t.nodup.sublist (List.filter_sublist.map key)

def count (t : Table κ α key) (p : α → Bool) : ℕ := t.rows.countP p

theorem eq_of_key {t : Table κ α key} {a : α} (ha : a ∈ t.rows) (hb : b ∈ t.rows) (h : key a = key b) : a = b :=
  inj_on_of_nodup_map t.nodup ha hb h

theorem mem_filter {t : Table κ α key} {p : α → Bool} :
    b ∈ (t.filter p).rows ↔ b ∈ t.rows ∧ p b = true := by
  simp [filter]

theorem length_le_count {t : Table κ α key} {p : α → Bool} {ks : List κ} (hks : ks.Nodup)
    (h : ∀ k ∈ ks, ∃ b ∈ t.rows, p b = true ∧ key b = k) : ks.length ≤ t.count p := by
  have hsub : ks ⊆ (t.filter p).rows.map key := by
    intro k hk
    obtain ⟨b, hb, hpb, hkey⟩ := h k hk
    exact List.mem_map.mpr ⟨b, List.mem_filter.mpr ⟨hb, hpb⟩, hkey⟩
  have hlen := (subperm_of_subset hks hsub).length_le
  simp only [filter, length_map, ← countP_eq_length_filter] at hlen
  exact hlen

theorem count_le_of_keys {t : Table κ α key} {p : α → Bool}
    (h : ∀ a ∈ t'.rows, p' a = true → ∃ b ∈ t.rows, p b = true ∧ key b = key a) :
    t'.count p' ≤ t.count p := by
  have hkeys : ((t'.filter p').rows.map key).length ≤ t.count p := by
    apply length_le_count (t'.filter p').nodup
    intro k hk
    obtain ⟨a, ha, rfl⟩ := List.mem_map.mp hk
    obtain ⟨ha, hp⟩ := List.mem_filter.mp ha
    exact h a ha hp
  simp only [filter, length_map, ← countP_eq_length_filter] at hkeys
  exact hkeys

theorem count_lt_of_keys {t : Table κ α key} {p : α → Bool}
    (h : ∀ a ∈ t'.rows, p' a = true → ∃ b ∈ t.rows, p b = true ∧ key b = key a) {c : α} (hc : c ∈ t.rows)
    (hpc : p c = true) (hmiss : ∀ a ∈ t'.rows, p' a = true → key a ≠ key c) :
    t'.count p' < t.count p := by
  have hnodup : (key c :: (t'.filter p').rows.map key).Nodup := by
    rw [nodup_cons]
    refine ⟨?_, (t'.filter p').nodup⟩
    intro hk
    obtain ⟨a, ha, hkey⟩ := List.mem_map.mp hk
    obtain ⟨ha, hp⟩ := List.mem_filter.mp ha
    exact hmiss a ha hp hkey
  have hkeys : (key c :: (t'.filter p').rows.map key).length ≤ t.count p := by
    apply length_le_count hnodup
    intro k hk
    rcases mem_cons.mp hk with rfl | hk
    · exact ⟨c, hc, hpc, rfl⟩
    · obtain ⟨a, ha, rfl⟩ := List.mem_map.mp hk
      obtain ⟨ha, hp⟩ := List.mem_filter.mp ha
      exact h a ha hp
  simp only [length_cons, filter, length_map, ← countP_eq_length_filter] at hkeys
  exact hkeys

section Page
variable {β : Type} [LinearOrder β] {t : Table κ α key} {p : α → Bool} {rank : α → β} {limit : ℕ}
  {a : α}

def page (t : Table κ α key) (p : α → Bool) (rank : α → β) (limit : ℕ) : List α :=
  ((t.rows.filter p).insertionSort (fun a b => rank a ≤ rank b)).take limit

theorem pairwise_sorted (t : Table κ α key) (p : α → Bool) (rank : α → β) :
    ((t.rows.filter p).insertionSort (fun a b => rank a ≤ rank b)).Pairwise
      (fun a b => rank a ≤ rank b) := by
  have : IsTrans α (fun a b => rank a ≤ rank b) := ⟨fun _ _ _ => le_trans⟩
  have : Std.Total (fun a b => rank a ≤ rank b) := ⟨fun x y => le_total (rank x) (rank y)⟩
  exact pairwise_insertionSort _ _

theorem count_before (t : Table κ α key) (p : α → Bool) (rank : α → β) (a : α) :
    t.count (fun b => p b && decide (rank b < rank a)) =
      ((t.rows.filter p).insertionSort (fun a b => rank a ≤ rank b)).countP
        (fun b => rank b < rank a) := by
  rw [(perm_insertionSort _ _).countP_eq, count, countP_filter]
  congr 1
  funext b
  exact Bool.and_comm _ _

theorem mem_of_mem_page (h : a ∈ t.page p rank limit) : a ∈ t.rows ∧ p a = true := by
  have hm := mem_of_mem_take h
  rw [mem_insertionSort, List.mem_filter] at hm
  exact hm

theorem nodup_page (t : Table κ α key) (p : α → Bool) (rank : α → β) (limit : ℕ) :
    ((t.page p rank limit).map key).Nodup := by
  have hfilter : ((t.rows.filter p).map key).Nodup := (t.filter p).nodup
  have hsort : (((t.rows.filter p).insertionSort (fun a b => rank a ≤ rank b)).map key).Nodup :=
    ((perm_insertionSort _ _).map key).nodup_iff.mpr hfilter
  exact hsort.sublist ((take_sublist _ _).map key)

theorem countP_page_le (t : Table κ α key) (p : α → Bool) (rank : α → β) (limit : ℕ) (q : α → Bool) :
    (t.page p rank limit).countP q ≤ t.count q := by
  have hsub : ∀ a ∈ t.page p rank limit, q a = true → ∃ b ∈ t.rows, q b = true ∧ key b = key a :=
    fun a ha hq => ⟨a, (mem_of_mem_page ha).1, hq, rfl⟩
  have hle : (⟨t.page p rank limit, nodup_page t p rank limit⟩ : Table κ α key).count q ≤ t.count q :=
    count_le_of_keys hsub
  exact hle

theorem count_le_countP_page {q : α → Bool}
    (h : ∀ a ∈ t.rows, q a = true → a ∈ t.page p rank limit) :
    t.count q ≤ (t.page p rank limit).countP q := by
  have hle : t.count q ≤
      (⟨t.page p rank limit, nodup_page t p rank limit⟩ : Table κ α key).count q :=
    count_le_of_keys (fun a ha hq => ⟨a, h a ha hq, hq, rfl⟩)
  exact hle

theorem mem_page_of_count_le (hc : t.count p ≤ limit) (ha : a ∈ t.rows) (hp : p a = true) :
    a ∈ t.page p rank limit := by
  unfold page
  rw [take_of_length_le, mem_insertionSort, List.mem_filter]
  · exact ⟨ha, hp⟩
  · rw [length_insertionSort, ← countP_eq_length_filter]
    exact hc

theorem length_page (t : Table κ α key) (p : α → Bool) (rank : α → β) (limit : ℕ) :
    (t.page p rank limit).length = min limit (t.count p) := by
  rw [page, length_take, length_insertionSort, ← countP_eq_length_filter, count]

theorem count_lt_of_mem_page (h : a ∈ t.page p rank limit) :
    t.count (fun b => p b && decide (rank b < rank a)) < limit := by
  rw [count_before]
  exact countP_lt_of_mem_take (pairwise_sorted t p rank) h

theorem mem_page_iff (hinj : ∀ x ∈ t.rows, ∀ y ∈ t.rows, rank x = rank y → x = y) (ha : a ∈ t.rows)
    (hp : p a = true) :
    a ∈ t.page p rank limit ↔ t.count (fun b => p b && decide (rank b < rank a)) < limit := by
  have hperm := perm_insertionSort (fun a b => rank a ≤ rank b) (t.rows.filter p)
  have hmem : ∀ x ∈ (t.rows.filter p).insertionSort (fun a b => rank a ≤ rank b), x ∈ t.rows :=
    fun x hx => (List.mem_filter.mp (hperm.mem_iff.mp hx)).1
  have hnodup : ((t.rows.filter p).insertionSort (fun a b => rank a ≤ rank b)).Nodup :=
    hperm.nodup_iff.mpr ((List.Nodup.of_map key t.nodup).filter p)
  have hin : a ∈ (t.rows.filter p).insertionSort (fun a b => rank a ≤ rank b) :=
    hperm.mem_iff.mpr (List.mem_filter.mpr ⟨ha, hp⟩)
  rw [page, mem_take_of_sorted (pairwise_sorted t p rank)
    (fun x hx y hy => hinj x (hmem x hx) y (hmem y hy)) hnodup hin, count_before]

end Page

variable [DecidableEq κ]

def find (t : Table κ α key) (k : κ) : Option α := t.rows.find? (fun row => key row = k)

theorem find_eq_some {t : Table κ α key} {a : α} :
    t.find k = some a ↔ a ∈ t.rows ∧ key a = k := by
  constructor
  · intro h
    have hk := List.find?_some h
    exact ⟨List.mem_of_find?_eq_some h, of_decide_eq_true hk⟩
  · rintro ⟨hm, rfl⟩
    cases hf : t.find (key a) with
    | none =>
      have hnone := List.find?_eq_none.mp hf a hm
      simp at hnone
    | some b =>
      have hb := List.find?_some hf
      have hbm := List.mem_of_find?_eq_some hf
      have heq : b = a := inj_on_of_nodup_map t.nodup hbm hm (of_decide_eq_true hb)
      rw [heq]

theorem find_eq_none {t : Table κ α key} :
    t.find k = none ↔ ∀ a ∈ t.rows, key a ≠ k := by
  simp [find, List.find?_eq_none]

def insert (t : Table κ α key) (a : α) (h : t.find (key a) = none) : Table κ α key where
  rows := t.rows ++ [a]
  nodup := by
    rw [List.map_append, List.map_singleton, List.nodup_append]
    refine ⟨t.nodup, List.nodup_singleton _, ?_⟩
    intro k hk k' hk' heq
    obtain ⟨b, hb, rfl⟩ := List.mem_map.mp hk
    rw [List.mem_singleton.mp hk'] at heq
    exact find_eq_none.mp h b hb heq

def replace (t : Table κ α key) (a : α) : Table κ α key where
  rows := t.rows.map (fun row => if key row = key a then a else row)
  nodup := by
    have hkeys : (t.rows.map (fun row => if key row = key a then a else row)).map key =
        t.rows.map key := by
      rw [List.map_map]
      apply List.map_congr_left
      intro row _
      by_cases h : key row = key a <;> simp [h]
    rw [hkeys]
    exact t.nodup

theorem mem_insert {t : Table κ α key} {a : α} {h : t.find (key a) = none} :
    b ∈ (t.insert a h).rows ↔ b ∈ t.rows ∨ b = a := by
  simp [insert]

theorem mem_replace {t : Table κ α key} {a : α} (hf : t.find (key a) = some old) :
    b ∈ (t.replace a).rows ↔ b = a ∨ (b ∈ t.rows ∧ key b ≠ key a) := by
  obtain ⟨hold, hkey⟩ := find_eq_some.mp hf
  simp only [replace, List.mem_map]
  constructor
  · rintro ⟨row, hrow, rfl⟩
    by_cases h : key row = key a
    · rw [if_pos h]
      exact .inl rfl
    · rw [if_neg h]
      exact .inr ⟨hrow, h⟩
  · rintro (rfl | ⟨hb, hne⟩)
    · exact ⟨old, hold, if_pos hkey⟩
    · exact ⟨b, hb, if_neg hne⟩

theorem find_insert {t : Table κ α key} {a : α} {h : t.find (key a) = none} :
    (t.insert a h).find k = if key a = k then some a else t.find k := by
  simp only [find, insert, List.find?_append]
  by_cases hk : key a = k
  · subst hk
    have hnone : t.rows.find? (fun row => key row = key a) = none := h
    simp [hnone]
  · simp [hk]

theorem find_replace {t : Table κ α key} {a : α} (hf : t.find (key a) = some old) :
    (t.replace a).find k = if key a = k then some a else t.find k := by
  by_cases hk : key a = k
  · rw [if_pos hk, find_eq_some]
    exact ⟨(mem_replace hf).mpr (.inl rfl), hk⟩
  · rw [if_neg hk]
    cases hfind : t.find k with
    | none =>
      rw [find_eq_none]
      intro b hb
      rcases (mem_replace hf).mp hb with rfl | ⟨hb, _⟩
      · exact hk
      · exact find_eq_none.mp hfind b hb
    | some b =>
      obtain ⟨hb, rfl⟩ := find_eq_some.mp hfind
      rw [find_eq_some]
      exact ⟨(mem_replace hf).mpr (.inr ⟨hb, fun h => hk h.symm⟩), rfl⟩

theorem count_insert {t : Table κ α key} {a : α} {h : t.find (key a) = none} (p : α → Bool) :
    (t.insert a h).count p = t.count p + if p a then 1 else 0 := by
  simp [count, insert, countP_append, countP_singleton]

theorem count_replace {t : Table κ α key} {a : α} (hf : t.find (key a) = some old) (p : α → Bool) :
    (t.replace a).count p + (if p old then 1 else 0) =
      t.count p + if p a then 1 else 0 := by
  obtain ⟨hold, hkey⟩ := find_eq_some.mp hf
  obtain ⟨before, after, hrows⟩ := append_of_mem hold
  have hnd := t.nodup
  rw [hrows, map_append, map_cons, nodup_append] at hnd
  obtain ⟨_, hcons, hdisj⟩ := hnd
  -- no other row has the key, so the map changes nothing but `old`
  have hsame (l : List α) (hl : ∀ b ∈ l, key b ≠ key a) :
      l.map (fun row => if key row = key a then a else row) = l := by
    have hmap : l.map (fun row => if key row = key a then a else row) = l.map id :=
      map_congr_left (fun b hb => if_neg (hl b hb))
    rw [hmap, List.map_id]
  have hbefore : ∀ b ∈ before, key b ≠ key a := by
    intro b hb h
    exact hdisj (key b) (List.mem_map_of_mem hb) (key old) mem_cons_self (h.trans hkey.symm)
  have hafter : ∀ b ∈ after, key b ≠ key a := by
    intro b hb h
    have hnot := (nodup_cons.mp hcons).1
    exact hnot (List.mem_map.mpr ⟨b, hb, h.trans hkey.symm⟩)
  simp only [count, replace, hrows, map_append, map_cons, hsame before hbefore,
    hsame after hafter, hkey, if_true, countP_append, countP_cons]
  omega

def insertAll (t : Table κ α key) : List α → Option (Table κ α key)
  | [] => some t
  | a :: rest => if h : t.find (key a) = none then (t.insert a h).insertAll rest else none

theorem rows_insertAll {t : Table κ α key} (h : t.insertAll l = some t') :
    t'.rows = t.rows ++ l := by
  induction l generalizing t with
  | nil =>
    cases h
    exact (append_nil _).symm
  | cons a rest ih =>
    unfold insertAll at h
    split at h
    next hfree =>
      rw [ih h]
      simp [insert]
    next => cases h

theorem nodup_of_insertAll {t : Table κ α key} (h : t.insertAll l = some t') :
    (l.map key).Nodup := by
  have hnodup := t'.nodup
  rw [rows_insertAll h, map_append] at hnodup
  exact hnodup.of_append_right

theorem exists_insertAll {t : Table κ α key} (hnodup : (l.map key).Nodup) (hfree : ∀ a ∈ l, t.find (key a) = none) :
    ∃ t', t.insertAll l = some t' := by
  induction l generalizing t with
  | nil => exact ⟨t, rfl⟩
  | cons a rest ih =>
    rw [map_cons, nodup_cons] at hnodup
    have ha := hfree a mem_cons_self
    unfold insertAll
    rw [dif_pos ha]
    apply ih hnodup.2
    intro b hb
    have hne : key a ≠ key b := fun heq => hnodup.1 (heq ▸ List.mem_map_of_mem hb)
    rw [find_insert, if_neg hne]
    exact hfree b (mem_cons_of_mem a hb)

def upsert (t : Table κ α key) (a : α) : Table κ α key :=
  if h : t.find (key a) = none then t.insert a h else t.replace a

theorem find_upsert {t : Table κ α key} {a : α} :
    (t.upsert a).find k = if key a = k then some a else t.find k := by
  unfold upsert
  split
  next h => exact find_insert
  next h =>
    obtain ⟨old, hold⟩ := Option.ne_none_iff_exists'.mp h
    exact find_replace hold

theorem map_rows_upsert {β : Type} {t : Table κ α key} {a : α} (hf : t.find (key a) = some old) {f : α → β}
    (hsame : f a = f old) : (t.upsert a).rows.map f = t.rows.map f := by
  have hreplace : t.upsert a = t.replace a := by
    unfold upsert
    rw [dif_neg]
    rw [hf]
    exact fun h => nomatch h
  rw [hreplace]
  show (t.rows.map (fun row => if key row = key a then a else row)).map f = t.rows.map f
  rw [List.map_map]
  apply map_congr_left
  intro row hrow
  show f (if key row = key a then a else row) = f row
  split
  next hkey =>
    have hfind : t.find (key a) = some row := find_eq_some.mpr ⟨hrow, hkey⟩
    rw [hf] at hfind
    cases hfind
    exact hsame
  · rfl

theorem mem_upsert {t : Table κ α key} {a : α} :
    b ∈ (t.upsert a).rows ↔ b = a ∨ b ∈ t.rows ∧ key b ≠ key a := by
  constructor
  · intro hb
    have hfind : (t.upsert a).find (key b) = some b := find_eq_some.mpr ⟨hb, rfl⟩
    rw [find_upsert] at hfind
    split at hfind
    · exact Or.inl (Option.some.inj hfind).symm
    · next hne => exact Or.inr ⟨(find_eq_some.mp hfind).1, Ne.symm hne⟩
  · rintro (rfl | ⟨hb, hne⟩)
    · exact (find_eq_some.mp (find_upsert.trans (if_pos rfl))).1
    · have hfind : (t.upsert a).find (key b) = some b := by
        rw [find_upsert, if_neg (Ne.symm hne)]
        exact find_eq_some.mpr ⟨hb, rfl⟩
      exact (find_eq_some.mp hfind).1

theorem find_filter {t : Table κ α key} {p : α → Bool} :
    (t.filter p).find k = (t.find k).filter p := by
  cases hfind : t.find k with
  | none =>
    rw [Option.filter_none, find_eq_none]
    intro a ha
    exact find_eq_none.mp hfind a (mem_filter.mp ha).1
  | some a =>
    obtain ⟨ha, hkey⟩ := find_eq_some.mp hfind
    by_cases hp : p a = true
    · rw [Option.filter_some, if_pos hp, find_eq_some]
      exact ⟨mem_filter.mpr ⟨ha, hp⟩, hkey⟩
    · rw [Option.filter_some, if_neg hp, find_eq_none]
      intro b hb hkey'
      obtain ⟨hb, hpb⟩ := mem_filter.mp hb
      exact hp (eq_of_key hb ha (hkey'.trans hkey.symm) ▸ hpb)

theorem find_foldl_upsert {t : Table κ α key} :
    (l.foldl upsert t).find k = (l.reverse.find? (fun a => key a = k)).or (t.find k) := by
  induction l generalizing t with
  | nil => rfl
  | cons a rest ih =>
    rw [foldl_cons, ih, find_upsert, reverse_cons, List.find?_append]
    by_cases hk : key a = k
    · simp [hk]
    · simp [hk]

end Table

end HomeMagic
