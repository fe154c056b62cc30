import Mathlib

/-! Finite maps as lists of entries in the order of their keys, and patches that set or drop entries one by one. -/
namespace HomeMagic
open List

section
variable {κ β : Type} [LinearOrder κ]
variable {entries patch : List (κ × β)} {key : κ} {value : β}

abbrev EntriesSorted (entries : List (κ × β)) : Prop := entries.Pairwise (fun entry later => entry.1 < later.1)

def setEntry (key : κ) (value : β) : List (κ × β) → List (κ × β)
  | [] => [(key, value)]
  | entry :: rest =>
    if entry.1 = key then (key, value) :: rest
    else if key < entry.1 then (key, value) :: entry :: rest
    else entry :: setEntry key value rest

def dropEntry (key : κ) (entries : List (κ × β)) : List (κ × β) := entries.filter (fun entry => entry.1 != key)

@[simp] theorem lookup_setEntry (key : κ) (value : β) (entries : List (κ × β)) (k : κ) :
    (setEntry key value entries).lookup k = if k = key then some value else entries.lookup k := by
  induction entries with
  | nil =>
    by_cases hk : k = key
    · simp [setEntry, hk]
    · have hne : (k == key) = false := beq_eq_false_iff_ne.mpr hk
      simp [setEntry, List.lookup, hk, hne]
  | cons entry rest ih =>
    unfold setEntry
    by_cases hk : k = key
    · rw [if_pos hk]
      split_ifs with hsame hless
      · rw [lookup_cons, beq_iff_eq.mpr hk]
      · rw [lookup_cons, beq_iff_eq.mpr hk]
      · have hne : (k == entry.1) = false := beq_eq_false_iff_ne.mpr (by rw [hk]; exact fun h => hsame h.symm)
        rw [lookup_cons, hne, ih, if_pos hk]
    · have hne : (k == key) = false := beq_eq_false_iff_ne.mpr hk
      rw [if_neg hk]
      split_ifs with hsame hless
      · have hne' : (k == entry.1) = false := by rw [hsame]; exact hne
        rw [lookup_cons, hne, lookup_cons, hne']
      · rw [lookup_cons, hne]
      · rw [lookup_cons, lookup_cons, ih, if_neg hk]

@[simp] theorem lookup_dropEntry (key : κ) (entries : List (κ × β)) (k : κ) :
    (dropEntry key entries).lookup k = if k = key then none else entries.lookup k := by
  induction entries with
  | nil => simp [dropEntry]
  | cons entry rest ih =>
    have hrest : (rest.filter (fun entry => entry.1 != key)).lookup k =
        if k = key then none else rest.lookup k := ih
    unfold dropEntry
    rw [filter_cons]
    by_cases hsame : entry.1 = key
    · rw [if_neg (by simp [hsame]), hrest]
      split_ifs with hk
      · rfl
      · have hne : (k == entry.1) = false := beq_eq_false_iff_ne.mpr (by rw [hsame]; exact hk)
        rw [lookup_cons, hne]
    · rw [if_pos (by simp [hsame]), lookup_cons, lookup_cons, hrest]
      split_ifs with hk
      · have hne : (k == entry.1) = false := beq_eq_false_iff_ne.mpr (by rw [hk]; exact fun h => hsame h.symm)
        rw [hne]
      · rfl

theorem mem_setEntry {entry : κ × β} (h : entry ∈ setEntry key value entries) :
    entry = (key, value) ∨ entry ∈ entries := by
  induction entries with
  | nil => exact .inl (mem_singleton.mp h)
  | cons first rest ih =>
    unfold setEntry at h
    split_ifs at h
    · rcases mem_cons.mp h with hhead | hrest
      · exact .inl hhead
      · exact .inr (mem_cons_of_mem _ hrest)
    · rcases mem_cons.mp h with hhead | hrest
      · exact .inl hhead
      · exact .inr hrest
    · rcases mem_cons.mp h with hhead | hrest
      · exact .inr (by rw [hhead]; exact mem_cons_self)
      · exact (ih hrest).imp id (mem_cons_of_mem _)

theorem EntriesSorted.setEntry {key : κ} {value : β} {entries : List (κ × β)} (h : EntriesSorted entries) :
    EntriesSorted (setEntry key value entries) := by
  induction entries with
  | nil => exact pairwise_singleton _ _
  | cons first rest ih =>
    obtain ⟨hfirst, hrest⟩ := pairwise_cons.mp h
    unfold HomeMagic.setEntry
    split_ifs with hsame hless
    · exact pairwise_cons.mpr ⟨fun later hlater => hsame ▸ hfirst later hlater, hrest⟩
    · refine pairwise_cons.mpr ⟨fun later hlater => ?_, h⟩
      rcases mem_cons.mp hlater with rfl | hlater
      · exact hless
      · exact hless.trans (hfirst later hlater)
    · refine pairwise_cons.mpr ⟨fun later hlater => ?_, ih hrest⟩
      rcases mem_setEntry hlater with rfl | hlater
      · exact lt_of_le_of_ne (not_lt.mp hless) hsame
      · exact hfirst later hlater

theorem EntriesSorted.dropEntry {key : κ} {entries : List (κ × β)} (h : EntriesSorted entries) :
    EntriesSorted (dropEntry key entries) :=
  h.filter _

theorem EntriesSorted.lookup_iff_mem (h : EntriesSorted entries) :
    entries.lookup key = some value ↔ (key, value) ∈ entries := by
  induction entries with
  | nil => simp
  | cons first rest ih =>
    obtain ⟨hfirst, hrest⟩ := pairwise_cons.mp h
    rw [lookup_cons, mem_cons]
    by_cases hkey : key = first.1
    · have hnot : (key, value) ∉ rest := fun hmem => absurd (hfirst _ hmem) (by rw [hkey]; exact lt_irrefl _)
      rw [beq_iff_eq.mpr hkey]
      constructor
      · intro hvalue
        exact .inl (Prod.ext hkey (Option.some.inj hvalue).symm)
      · rintro (hhead | hmem)
        · exact congrArg some (congrArg Prod.snd hhead).symm
        · exact absurd hmem hnot
    · rw [beq_eq_false_iff_ne.mpr hkey, ih hrest]
      exact ⟨.inr, fun hmem => hmem.resolve_left (fun hhead => hkey (congrArg Prod.fst hhead))⟩

theorem EntriesSorted.ext {entries' : List (κ × β)} (h : EntriesSorted entries) (h' : EntriesSorted entries')
    (hlookup : ∀ k, entries.lookup k = entries'.lookup k) : entries = entries' := by
  have hmem : ∀ entry, entry ∈ entries ↔ entry ∈ entries' := by
    rintro ⟨key, value⟩
    rw [← h.lookup_iff_mem, ← h'.lookup_iff_mem, hlookup]
  have hnodup : ∀ {list : List (κ × β)}, EntriesSorted list → list.Nodup :=
    fun hsorted => hsorted.imp (fun hless heq => absurd hless (by rw [heq]; exact lt_irrefl _))
  have hperm : entries.Perm entries' := (perm_ext_iff_of_nodup (hnodup h) (hnodup h')).mpr hmem
  exact hperm.eq_of_pairwise (fun _ _ _ _ hless hless' => absurd hless' hless.asymm) h h'

variable (drops : β → Bool) (f : Option β → β → β)

def patchEntry (entries : List (κ × β)) (entry : κ × β) : List (κ × β) :=
  if drops entry.2 then dropEntry entry.1 entries else setEntry entry.1 (f (entries.lookup entry.1) entry.2) entries

def patchEntries (entries patch : List (κ × β)) : List (κ × β) := patch.foldl (patchEntry drops f) entries

def patchedValue (current : Option β) (value : β) : Option β := if drops value then none else some (f current value)

theorem lookup_patchEntry (entries : List (κ × β)) (entry : κ × β) (k : κ) :
    (patchEntry drops f entries entry).lookup k =
      if k = entry.1 then patchedValue drops f (entries.lookup k) entry.2 else entries.lookup k := by
  unfold patchEntry patchedValue
  split_ifs with hdrops hk hk
  · rw [lookup_dropEntry, if_pos hk]
  · rw [lookup_dropEntry, if_neg hk]
  · rw [lookup_setEntry, if_pos hk, hk]
  · rw [lookup_setEntry, if_neg hk]

theorem lookup_patchEntries (hpatch : EntriesSorted patch) (entries : List (κ × β)) (k : κ) :
    (patchEntries drops f entries patch).lookup k =
      match patch.lookup k with
      | none => entries.lookup k
      | some value => patchedValue drops f (entries.lookup k) value := by
  induction patch generalizing entries with
  | nil => rfl
  | cons first rest ih =>
    obtain ⟨hfirst, hrest⟩ := pairwise_cons.mp hpatch
    have hstep := ih hrest (patchEntry drops f entries first)
    change (patchEntries drops f (patchEntry drops f entries first) rest).lookup k = _
    rw [hstep, lookup_patchEntry, lookup_cons]
    by_cases hk : k = first.1
    · have hnone : rest.lookup k = none := by
        rw [Option.eq_none_iff_forall_ne_some]
        intro value hvalue
        have hless := hfirst _ ((EntriesSorted.lookup_iff_mem hrest).mp hvalue)
        exact absurd hless (by rw [hk]; exact lt_irrefl _)
      rw [hnone, if_pos hk, beq_iff_eq.mpr hk]
    · rw [if_neg hk, beq_eq_false_iff_ne.mpr hk]

theorem EntriesSorted.patchEntries {entries : List (κ × β)} (h : EntriesSorted entries) (patch : List (κ × β)) :
    EntriesSorted (patchEntries drops f entries patch) := by
  induction patch generalizing entries with
  | nil => exact h
  | cons first rest ih =>
    refine ih ?_
    unfold patchEntry
    split_ifs
    · exact h.dropEntry
    · exact h.setEntry

variable {drops f}

theorem patchEntries_all {P : β → Prop} (h : EntriesSorted entries) (hpatch : EntriesSorted patch)
    (hentries : ∀ entry ∈ entries, P entry.2)
    (hset : ∀ entry ∈ patch, drops entry.2 = false → P (f (entries.lookup entry.1) entry.2)) :
    ∀ entry ∈ patchEntries drops f entries patch, P entry.2 := by
  intro entry hentry
  have hvalue := (h.patchEntries drops f patch).lookup_iff_mem.mpr hentry
  rw [lookup_patchEntries drops f hpatch] at hvalue
  cases hnamed : patch.lookup entry.1 with
  | none =>
    rw [hnamed] at hvalue
    exact hentries _ (h.lookup_iff_mem.mp hvalue)
  | some value =>
    rw [hnamed] at hvalue
    change (if drops value then none else some (f (entries.lookup entry.1) value)) = some entry.2 at hvalue
    split_ifs at hvalue with hdrops
    rw [← Option.some.inj hvalue]
    exact hset _ (hpatch.lookup_iff_mem.mp hnamed) (Bool.not_eq_true _ ▸ hdrops)

theorem patchEntries_eq_iff {g : Option β → β → β} (h : EntriesSorted entries) (hpatch : EntriesSorted patch) :
    patchEntries drops f entries patch = patchEntries drops g entries patch ↔
      ∀ entry ∈ patch, drops entry.2 = false →
        f (entries.lookup entry.1) entry.2 = g (entries.lookup entry.1) entry.2 := by
  constructor
  · intro heq entry hentry hkept
    have hlookup := congrArg (List.lookup entry.1) heq
    rw [lookup_patchEntries drops f hpatch, lookup_patchEntries drops g hpatch,
      hpatch.lookup_iff_mem.mpr hentry] at hlookup
    simpa [patchedValue, hkept] using hlookup
  · intro hall
    refine EntriesSorted.ext (h.patchEntries drops f patch) (h.patchEntries drops g patch) (fun k => ?_)
    rw [lookup_patchEntries drops f hpatch, lookup_patchEntries drops g hpatch]
    cases hvalue : patch.lookup k with
    | none => rfl
    | some value =>
      have hentry := hall _ (hpatch.lookup_iff_mem.mp hvalue)
      change patchedValue drops f (entries.lookup k) value = patchedValue drops g (entries.lookup k) value
      unfold patchedValue
      split_ifs with hdrops
      · rfl
      · exact congrArg some (hentry (Bool.not_eq_true _ ▸ hdrops))

theorem patchEntries_eq_self_iff (h : EntriesSorted entries) (hpatch : EntriesSorted patch)
    (hkeys : ∀ k, patch.lookup k = none → entries.lookup k = none) :
    patchEntries drops f entries patch = patch ↔
      ∀ entry ∈ patch, drops entry.2 = false ∧ f (entries.lookup entry.1) entry.2 = entry.2 := by
  constructor
  · intro heq entry hentry
    have hvalue := hpatch.lookup_iff_mem.mpr hentry
    have hlookup := congrArg (List.lookup entry.1) heq
    rw [lookup_patchEntries drops f hpatch, hvalue] at hlookup
    by_cases hdrops : drops entry.2 = true
    · simp [patchedValue, hdrops] at hlookup
    · exact ⟨Bool.not_eq_true _ ▸ hdrops, by simpa [patchedValue, hdrops] using hlookup⟩
  · intro hall
    refine EntriesSorted.ext (h.patchEntries drops f patch) hpatch (fun k => ?_)
    rw [lookup_patchEntries drops f hpatch]
    cases hvalue : patch.lookup k with
    | none => exact hkeys k hvalue
    | some value =>
      obtain ⟨hkept, hsame⟩ := hall _ (hpatch.lookup_iff_mem.mp hvalue)
      change (if drops value then none else some (f (entries.lookup k) value)) = some value
      rw [hkept, if_neg Bool.false_ne_true]
      exact congrArg some hsame

theorem patchEntries_twice (h : EntriesSorted entries) (hpatch : EntriesSorted patch)
    (hall : ∀ entry ∈ patch, drops entry.2 = false →
      f (some (f (entries.lookup entry.1) entry.2)) entry.2 = f (entries.lookup entry.1) entry.2) :
    patchEntries drops f (patchEntries drops f entries patch) patch = patchEntries drops f entries patch := by
  have hsorted := h.patchEntries drops f patch
  refine EntriesSorted.ext (hsorted.patchEntries drops f patch) hsorted (fun k => ?_)
  rw [lookup_patchEntries drops f hpatch, lookup_patchEntries drops f hpatch]
  cases hvalue : patch.lookup k with
  | none => rfl
  | some value =>
    have hentry := hall _ (hpatch.lookup_iff_mem.mp hvalue)
    change patchedValue drops f (patchedValue drops f (entries.lookup k) value) value =
      patchedValue drops f (entries.lookup k) value
    unfold patchedValue
    split_ifs with hdrops
    · rfl
    · exact congrArg some (hentry (Bool.not_eq_true _ ▸ hdrops))

end

end HomeMagic
