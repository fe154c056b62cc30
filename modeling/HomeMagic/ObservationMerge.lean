import HomeMagic.LastWriter
import HomeMagic.LiveObservations

/-! `merge_partial` in any order. Fields are registers with their own stamps, and a merge writes each field of
a patch to its register. -/
namespace HomeMagic
open List

namespace SourcedObservation

def patched (observation patch : SourcedObservation) : SourcedObservation :=
  match observation.mergePartial patch with
  | .ok (merged, _) => merged
  | .error _ => observation

def fieldWrites (observation : SourcedObservation) (patches : List SourcedObservation) (name : String) :
    List ObservedValue :=
  patches.filterMap (fun patch => if observation.sameTarget patch then patch.field name else none)

def Untied (patches : List SourcedObservation) : Prop :=
  ∀ name, ((patches.filterMap (fun patch => patch.field name)).map ObservedValue.observedAt).Nodup

def Restamps (observation patch : SourcedObservation) : Prop :=
  ∃ name current incoming, observation.field name = some current ∧ patch.field name = some incoming ∧
    current.value = incoming.value ∧ current.observedAt < incoming.observedAt

variable {observation patch merged : SourcedObservation} {patches : List SourcedObservation} {changed : List String}

theorem mergedValue_some (current : Option ObservedValue) (incoming : ObservedValue) :
    mergedValue current (some incoming) = LastWriter.write ObservedValue.observedAt current incoming := rfl

theorem target_of_ok (h : observation.mergePartial patch = .ok (merged, changed)) :
    observation.sameTarget patch = true := by
  by_contra hother
  unfold mergePartial at h
  rw [if_neg hother] at h
  cases h

theorem patched_of_ok (h : observation.mergePartial patch = .ok (merged, changed)) :
    observation.patched patch = merged := by
  unfold patched
  rw [h]

theorem patched_of_other (h : observation.sameTarget patch = false) : observation.patched patch = observation := by
  unfold patched mergePartial
  rw [h]
  rfl

theorem patched_spec (hdistinct : patch.Distinct) :
    (∀ name, (observation.patched patch).field name =
        (observation.fieldWrites [patch] name).foldl (LastWriter.write ObservedValue.observedAt)
          (observation.field name)) ∧
      ∀ other, (observation.patched patch).sameTarget other = observation.sameTarget other := by
  by_cases htarget : observation.sameTarget patch = true
  · obtain ⟨merged, changed, hmerge, hdevice, hendpoint, hcapability, hfields, hreceipt⟩ :=
      mergePartial_eq hdistinct htarget
    rw [patched_of_ok hmerge]
    refine ⟨?_, ?_⟩
    · intro name
      rw [hfields name]
      unfold fieldWrites
      rw [filterMap_cons, if_pos htarget]
      cases hincoming : patch.field name with
      | none => rfl
      | some incoming =>
        rw [mergedValue_some]
        rfl
    · intro other
      have hsource : merged.source.integrationId = observation.source.integrationId := by
        simp only [sameTarget, Bool.and_eq_true, beq_iff_eq] at htarget
        rcases hreceipt with ⟨-, -, hsource⟩ | ⟨-, -, hsource⟩
        · rw [hsource]
        · rw [hsource, htarget.2]
      unfold sameTarget
      rw [hdevice, hendpoint, hcapability, hsource]
  · have hother : observation.sameTarget patch = false := Bool.eq_false_iff.mpr htarget
    rw [patched_of_other hother]
    refine ⟨fun name => ?_, fun _ => rfl⟩
    unfold fieldWrites
    rw [filterMap_cons, if_neg htarget]
    rfl

theorem foldl_patched (hdistinct : ∀ patch ∈ patches, patch.Distinct) (name : String) :
    (patches.foldl patched observation).field name =
      (observation.fieldWrites patches name).foldl (LastWriter.write ObservedValue.observedAt)
        (observation.field name) := by
  induction patches generalizing observation with
  | nil => rfl
  | cons patch rest ih =>
    obtain ⟨hfields, htarget⟩ := @patched_spec observation patch (hdistinct patch mem_cons_self)
    have hrest := @ih (observation.patched patch) (fun other hother => hdistinct other (mem_cons_of_mem _ hother))
    have hwrites : (observation.patched patch).fieldWrites rest name = observation.fieldWrites rest name := by
      unfold fieldWrites
      refine filterMap_congr (fun other _ => ?_)
      rw [htarget]
    have hsplit : observation.fieldWrites (patch :: rest) name =
        observation.fieldWrites [patch] name ++ observation.fieldWrites rest name := by
      unfold fieldWrites
      rw [← filterMap_append, singleton_append]
    rw [foldl_cons, hrest, hwrites, hfields, hsplit, foldl_append]

theorem nodup_fieldWrites (huntied : Untied patches) (name : String) :
    ((observation.fieldWrites patches name).map ObservedValue.observedAt).Nodup := by
  have hwrites : observation.fieldWrites patches name =
      (patches.filter (fun patch => observation.sameTarget patch)).filterMap (fun patch => patch.field name) := by
    rw [filterMap_filter]
    rfl
  have hsub : (observation.fieldWrites patches name).Sublist (patches.filterMap (fun patch => patch.field name)) := by
    rw [hwrites]
    exact filter_sublist.filterMap _
  exact (huntied name).sublist (hsub.map ObservedValue.observedAt)

/-- The reported names are exact unless a patch restamps a value that it does not change. -/
theorem changed_iff (hdistinct : patch.Distinct) (h : observation.mergePartial patch = .ok (merged, changed)) :
    (changed.Nodup ∧ ∀ name, name ∈ changed ↔
        (observation.field name).map ObservedValue.value ≠ (merged.field name).map ObservedValue.value) ↔
      ¬ Restamps observation patch := by
  have htarget := target_of_ok h
  obtain ⟨_, _, hmerge, -, -, -, hfields, -⟩ := mergePartial_eq hdistinct htarget
  rw [h, Except.ok.injEq, Prod.mk.injEq] at hmerge
  obtain ⟨rfl, rfl⟩ := hmerge
  have hchanged : changed = (patch.values.filter (fun incoming =>
      changesValue (observation.values.lookup incoming.1) incoming.2)).map Prod.fst := by
    have hmerged : changed = (patch.values.foldl mergeField (observation.values, [])).2 := by
      unfold mergePartial at h
      rw [if_pos htarget] at h
      dsimp only at h
      split at h
      · cases h
        rfl
      · cases h
        rfl
    rw [hmerged, changed_merge hdistinct, nil_append]
  have hnodup : changed.Nodup := by
    rw [hchanged]
    exact hdistinct.sublist (filter_sublist.map Prod.fst)
  have hmem : ∀ name, name ∈ changed ↔ ∃ incoming, patch.field name = some incoming ∧
      changesValue (observation.field name) incoming = true := by
    intro name
    rw [hchanged, List.mem_map]
    constructor
    · rintro ⟨⟨other, incoming⟩, hin, rfl⟩
      obtain ⟨hentry, hchanges⟩ := List.mem_filter.mp hin
      exact ⟨incoming, (lookup_eq_some_iff_mem hdistinct).mpr hentry, hchanges⟩
    · rintro ⟨incoming, hincoming, hchanges⟩
      exact ⟨(name, incoming), List.mem_filter.mpr ⟨(lookup_eq_some_iff_mem hdistinct).mp hincoming, hchanges⟩, rfl⟩
  refine ⟨?_, ?_⟩
  · rintro ⟨-, hexact⟩ ⟨name, current, incoming, hcurrent, hincoming, hvalue, hnewer⟩
    -- the newer stamp is a change, and the value is not
    have hchanges : changesValue (some current) incoming = true := by
      unfold changesValue
      rw [Bool.and_eq_true, bne_iff_ne, Option.all_some, decide_eq_true_eq]
      refine ⟨hnewer.le, fun hsame => ?_⟩
      cases hsame
      exact absurd hnewer (lt_irrefl _)
    have hin := (hmem name).mpr ⟨incoming, hincoming, hcurrent ▸ hchanges⟩
    refine (hexact name).mp hin ?_
    have hmerged := hfields name
    rw [hcurrent, hincoming, mergedValue_some, LastWriter.write_of_le hnewer.le] at hmerged
    rw [hcurrent, hmerged, Option.map_some, Option.map_some, hvalue]
  · intro hkeeps
    refine ⟨hnodup, fun name => ?_⟩
    rw [hmem, hfields name]
    cases hincoming : patch.field name with
    | none =>
      refine iff_of_false ?_ (fun hne => hne rfl)
      rintro ⟨incoming, hsome, -⟩
      cases hsome
    | some incoming =>
      cases hcurrent : observation.field name with
      | none => exact iff_of_true ⟨incoming, rfl, rfl⟩ (fun hsame => nomatch hsame)
      | some current =>
        rcases lt_or_ge incoming.observedAt current.observedAt with hlt | hle
        · -- an older value is ignored
          rw [mergedValue_some, LastWriter.write_of_lt hlt]
          refine iff_of_false ?_ (fun hne => hne rfl)
          rintro ⟨other, hsame, hchanges⟩
          cases hsame
          unfold changesValue at hchanges
          rw [Bool.and_eq_true, Option.all_some, decide_eq_true_eq] at hchanges
          exact absurd hchanges.1 (not_le.mpr hlt)
        · rw [mergedValue_some, LastWriter.write_of_le hle, Option.map_some, Option.map_some]
          by_cases hvalue : current.value = incoming.value
          · -- the same value, so by assumption with the same stamp
            have hstamp : current.observedAt = incoming.observedAt := by
              refine le_antisymm hle (le_of_not_gt (fun hnewer => ?_))
              exact hkeeps ⟨name, current, incoming, hcurrent, hincoming, hvalue, hnewer⟩
            have hsame : current = incoming := by
              cases current
              cases incoming
              cases hvalue
              cases hstamp
              rfl
            rw [hsame]
            refine iff_of_false ?_ (fun hne => hne rfl)
            rintro ⟨other, heq, hchanges⟩
            cases heq
            simp [changesValue] at hchanges
          · refine iff_of_true ⟨incoming, rfl, ?_⟩ (fun hsame => hvalue (Option.some.inj hsame))
            unfold changesValue
            rw [Bool.and_eq_true, bne_iff_ne, Option.all_some, decide_eq_true_eq]
            refine ⟨hle, fun hsame => ?_⟩
            cases hsame
            exact hvalue rfl

/-- Patches without ties leave the same fields in every order: of each field the newest value, and a merge
drops no field and turns back no stamp. The fields that a merge reports are those whose JSON value was added
or became different, exactly when the patch repeats no stored value with a newer stamp. -/
theorem merge_converges_iff (observation : SourcedObservation) (patches : List SourcedObservation)
    (hdistinct : ∀ patch ∈ patches, patch.Distinct) :
    (Untied patches → ∀ order : List SourcedObservation, order.Perm patches → ∀ name,
      (order.foldl patched observation).field name = (patches.foldl patched observation).field name ∧
        LastWriter.Newest ObservedValue.observedAt (observation.field name) (observation.fieldWrites patches name)
          ((order.foldl patched observation).field name)) ∧
    ∀ patch ∈ patches,
      (∀ name current, observation.field name = some current →
        ∃ kept, (observation.patched patch).field name = some kept ∧ current.observedAt ≤ kept.observedAt) ∧
      ∀ merged changed, observation.mergePartial patch = .ok (merged, changed) →
        ((changed.Nodup ∧ ∀ name, name ∈ changed ↔
            (observation.field name).map ObservedValue.value ≠ (merged.field name).map ObservedValue.value) ↔
          ¬ Restamps observation patch) := by
  refine ⟨?_, ?_⟩
  · intro huntied order hperm name
    have hwrites : (observation.fieldWrites order name).Perm (observation.fieldWrites patches name) :=
      hperm.filterMap _
    have horder : (order.foldl patched observation).field name = (patches.foldl patched observation).field name := by
      rw [foldl_patched (fun patch hpatch => hdistinct patch (hperm.mem_iff.mp hpatch)), foldl_patched hdistinct]
      exact LastWriter.foldl_write_perm hwrites (nodup_fieldWrites huntied name) _
    refine ⟨horder, ?_⟩
    rw [horder, foldl_patched hdistinct]
    exact LastWriter.newest_foldl _ _
  · intro patch hpatch
    refine ⟨?_, fun merged changed h => changed_iff (hdistinct patch hpatch) h⟩
    intro name current hcurrent
    rw [(patched_spec (hdistinct patch hpatch)).1 name, hcurrent]
    unfold fieldWrites
    rw [List.filterMap_cons]
    split
    · exact ⟨current, rfl, le_rfl⟩
    next incoming _ => exact LastWriter.write_some current

def wattsAgain : SourcedObservation :=
  { ObservationRepository.wattsOnly with values := [("watts", ⟨.integer 7, 5⟩)] }

theorem watts_untied : Untied [ObservationRepository.wattsOnly, wattsAgain] := by
  intro name
  by_cases hname : name = "watts"
  · rw [hname]
    decide
  · have hnone : ∀ value, List.lookup name [("watts", value)] = (none : Option ObservedValue) := by
      intro value
      rw [lookup_cons, show (name == "watts") = false by simpa using hname]
      rfl
    simp [SourcedObservation.field, ObservationRepository.wattsOnly, wattsAgain, hnone]

/-- Both readings of the watts may come first, and the other one reports its field. -/
theorem watts_converge :
    ([wattsAgain, ObservationRepository.wattsOnly].foldl patched ObservationRepository.fullReading).field "watts" =
        ([ObservationRepository.wattsOnly, wattsAgain].foldl patched ObservationRepository.fullReading).field "watts" ∧
      ∃ merged changed, ObservationRepository.fullReading.mergePartial wattsAgain = .ok (merged, changed) ∧
        changed.Nodup ∧ ∀ name, name ∈ changed ↔
          (ObservationRepository.fullReading.field name).map ObservedValue.value ≠
            (merged.field name).map ObservedValue.value := by
  have hdistinct : ∀ patch ∈ [ObservationRepository.wattsOnly, wattsAgain], patch.Distinct := by
    intro patch hpatch
    rcases List.mem_cons.mp hpatch with rfl | hlast
    · unfold Distinct
      decide
    · rw [List.mem_singleton.mp hlast]
      unfold Distinct
      decide
  have hconverges := merge_converges_iff ObservationRepository.fullReading _ hdistinct
  refine ⟨(hconverges.1 watts_untied _ (List.Perm.swap _ _ _) "watts").1, ?_⟩
  have hreported := (hconverges.2 wattsAgain (by simp)).2 _ _ rfl
  refine ⟨_, _, rfl, hreported.mpr ?_⟩
  rintro ⟨name, current, incoming, hcurrent, hincoming, hvalue, -⟩
  have hname : name = "watts" := by
    by_contra hother
    unfold field wattsAgain at hincoming
    rw [List.lookup_cons, show (name == "watts") = false by simpa using hother] at hincoming
    cases hincoming
  rw [hname] at hcurrent hincoming
  cases hcurrent
  cases hincoming
  cases hvalue

/-- The watts are reported as changed, and their JSON value is what it was. -/
theorem watts_reported_unchanged : ∃ merged,
    ObservationRepository.wattsOnly.mergePartial wattsAgain = .ok (merged, ["watts"]) ∧
      (ObservationRepository.wattsOnly.field "watts").map ObservedValue.value =
        (merged.field "watts").map ObservedValue.value := ⟨_, rfl, rfl⟩

end SourcedObservation

end HomeMagic
