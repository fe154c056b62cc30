import HomeMagic.FoundationObservations

/-! Live observations: the merge of partial observations that the domain defines, and the
sink that publishes batches to a repository. -/
namespace HomeMagic
open List Option Fallible

inductive ObservationMergeError
  | targetMismatch
  deriving DecidableEq

variable {observation patch next a b first : SourcedObservation} {observations rest : List SourcedObservation}

namespace SourcedObservation

def field (observation : SourcedObservation) (name : String) : Option ObservedValue :=
  observation.values.lookup name

def mergeField (merged : List (String × ObservedValue) × List String) (incoming : String × ObservedValue) :
    List (String × ObservedValue) × List String :=
  if (merged.1.lookup incoming.1).all (fun existing => decide (existing.observedAt ≤ incoming.2.observedAt)) then
    (incoming :: merged.1.filter (fun entry => entry.1 != incoming.1),
      if merged.1.lookup incoming.1 = some incoming.2 then merged.2 else merged.2 ++ [incoming.1])
  else merged

def sameTarget (observation patch : SourcedObservation) : Bool :=
  observation.deviceId == patch.deviceId && observation.endpointId == patch.endpointId &&
    observation.capability == patch.capability &&
    observation.source.integrationId == patch.source.integrationId

def mergePartial (observation patch : SourcedObservation) :
    Except ObservationMergeError (SourcedObservation × List String) :=
  if observation.sameTarget patch then
    let merged := patch.values.foldl mergeField (observation.values, [])
    if merged.2.isEmpty then
      .ok ({ observation with values := merged.1 }, merged.2)
    else
      .ok ({ observation with
        values := merged.1
        receivedAt := max observation.receivedAt patch.receivedAt
        source := patch.source }, merged.2)
  else .error .targetMismatch

def Distinct (observation : SourcedObservation) : Prop :=
  (observation.values.map Prod.fst).Nodup

theorem lookup_filter_ne (values : List (String × ObservedValue)) (name other : String) (hne : other ≠ name) :
    (values.filter (fun entry => entry.1 != name)).lookup other = values.lookup other := by
  induction values with
  | nil => rfl
  | cons entry rest ih =>
    by_cases hentry : entry.1 = name
    · have hother : (other == entry.1) = false := by simpa [hentry] using hne
      rw [filter_cons_of_neg (by simpa using hentry), ih, lookup_cons, hother]
    · rw [filter_cons_of_pos (by simpa using hentry), lookup_cons, lookup_cons, ih]

def mergedValue (current incoming : Option ObservedValue) : Option ObservedValue :=
  match incoming with
  | none => current
  | some value =>
    if current.all (fun existing => decide (existing.observedAt ≤ value.observedAt)) then some value else current

theorem lookup_mergeField (merged : List (String × ObservedValue) × List String)
    (incoming : String × ObservedValue) (name : String) :
    (mergeField merged incoming).1.lookup name =
      if name = incoming.1 then mergedValue (merged.1.lookup name) (some incoming.2)
      else merged.1.lookup name := by
  unfold mergeField mergedValue
  by_cases hname : name = incoming.1
  · subst hname
    rw [if_pos rfl]
    dsimp only
    by_cases hall : (merged.1.lookup incoming.1).all
        (fun existing => decide (existing.observedAt ≤ incoming.2.observedAt)) = true
    · rw [if_pos hall, if_pos hall, lookup_cons, beq_self_eq_true]
    · rw [if_neg hall, if_neg hall]
  · rw [if_neg hname]
    split
    · rw [lookup_cons, show (name == incoming.1) = false by simpa using hname]
      exact lookup_filter_ne _ _ _ hname
    · rfl

def changesValue (current : Option ObservedValue) (value : ObservedValue) : Bool :=
  current.all (fun existing => decide (existing.observedAt ≤ value.observedAt)) && current != some value

theorem lookup_merge {patch : List (String × ObservedValue)} (hdistinct : (patch.map Prod.fst).Nodup)
    (values : List (String × ObservedValue)) (changed : List String) (name : String) :
    (patch.foldl mergeField (values, changed)).1.lookup name =
      mergedValue (values.lookup name) (patch.lookup name) := by
  induction patch generalizing values changed with
  | nil => rfl
  | cons incoming rest ih =>
    rw [map_cons, nodup_cons] at hdistinct
    have hstep := lookup_mergeField (values, changed) incoming name
    rw [foldl_cons]
    rw [show mergeField (values, changed) incoming =
      ((mergeField (values, changed) incoming).1, (mergeField (values, changed) incoming).2) from rfl,
      ih hdistinct.2, hstep, lookup_cons]
    by_cases hname : name = incoming.1
    · -- the field does not occur again
      have hrest : rest.lookup name = none := by
        rw [lookup_eq_none_iff]
        intro entry hentry
        rw [hname, bne_iff_ne]
        intro heq
        exact hdistinct.1 (heq ▸ List.mem_map_of_mem hentry)
      rw [if_pos hname, hrest, show (name == incoming.1) = true by simpa using hname]
      rfl
    · rw [if_neg hname, show (name == incoming.1) = false by simpa using hname]

theorem changed_mergeField (merged : List (String × ObservedValue) × List String)
    (incoming : String × ObservedValue) :
    (mergeField merged incoming).2 =
      merged.2 ++ if changesValue (merged.1.lookup incoming.1) incoming.2 then [incoming.1] else [] := by
  unfold mergeField changesValue
  by_cases hall : (merged.1.lookup incoming.1).all
      (fun existing => decide (existing.observedAt ≤ incoming.2.observedAt)) = true
  · rw [if_pos hall, hall]
    by_cases hsame : merged.1.lookup incoming.1 = some incoming.2 <;> simp [hsame]
  · rw [if_neg hall]
    simp [hall]

theorem changed_merge {patch : List (String × ObservedValue)} (hdistinct : (patch.map Prod.fst).Nodup)
    (values : List (String × ObservedValue)) (changed : List String) :
    (patch.foldl mergeField (values, changed)).2 =
      changed ++ (patch.filter (fun incoming => changesValue (values.lookup incoming.1) incoming.2)).map
        Prod.fst := by
  induction patch generalizing values changed with
  | nil => simp
  | cons incoming rest ih =>
    rw [map_cons, nodup_cons] at hdistinct
    rw [foldl_cons]
    rw [show mergeField (values, changed) incoming =
      ((mergeField (values, changed) incoming).1, (mergeField (values, changed) incoming).2) from rfl,
      ih hdistinct.2, changed_mergeField]
    -- the other fields of the patch meet the values as they were
    have hothers : rest.filter (fun other =>
        changesValue ((mergeField (values, changed) incoming).1.lookup other.1) other.2) =
        rest.filter (fun other => changesValue (values.lookup other.1) other.2) := by
      apply filter_congr
      intro other hother
      have hne : other.1 ≠ incoming.1 := fun heq => hdistinct.1 (heq ▸ List.mem_map_of_mem hother)
      rw [lookup_mergeField, if_neg hne]
    rw [hothers, filter_cons]
    by_cases hchanges : changesValue (values.lookup incoming.1) incoming.2 = true <;> simp [hchanges]

structure Same (a b : SourcedObservation) : Prop where
  deviceId : a.deviceId = b.deviceId
  endpointId : a.endpointId = b.endpointId
  capability : a.capability = b.capability
  fields : ∀ name, a.field name = b.field name
  receivedAt : a.receivedAt = b.receivedAt
  source : a.source = b.source

/-- `next` carries every field of `previous`, none of them older, for the same target; it was
received no earlier, and if it changes no field it repeats the receipt and the source too. -/
structure Refreshes (previous next : SourcedObservation) : Prop where
  target : previous.sameTarget next = true
  fields : ∀ name value, previous.field name = some value →
    ∃ value', next.field name = some value' ∧ value.observedAt ≤ value'.observedAt
  received : previous.receivedAt ≤ next.receivedAt
  repeated : (∀ name, previous.field name = next.field name) →
    previous.receivedAt = next.receivedAt ∧ previous.source = next.source

theorem Same.refl (a : SourcedObservation) : Same a a := ⟨rfl, rfl, rfl, fun _ => rfl, rfl, rfl⟩

theorem lookup_eq_some_iff_mem {values : List (String × ObservedValue)}
    (hdistinct : (values.map Prod.fst).Nodup) {name : String} {value : ObservedValue} :
    values.lookup name = some value ↔ (name, value) ∈ values := by
  induction values with
  | nil => simp
  | cons entry rest ih =>
    rw [map_cons, nodup_cons] at hdistinct
    rw [lookup_cons, mem_cons]
    by_cases hname : name = entry.1
    · have hrest : (name, value) ∉ rest := fun hmem =>
        hdistinct.1 (hname ▸ List.mem_map_of_mem (f := Prod.fst) hmem)
      rw [show (name == entry.1) = true by simpa using hname]
      subst hname
      simp [hrest, Prod.ext_iff, eq_comm]
    · rw [show (name == entry.1) = false by simpa using hname]
      have hne : (name, value) ≠ entry := fun heq => hname (congrArg Prod.fst heq)
      simp [hne, ih hdistinct.2]

def Changing (observation patch : SourcedObservation) : Prop :=
  ∃ name value, patch.field name = some value ∧ changesValue (observation.field name) value = true

theorem changed_merge_eq_nil {observation patch : SourcedObservation} (hdistinct : patch.Distinct) :
    (patch.values.foldl mergeField (observation.values, [])).2 = [] ↔ ¬ Changing observation patch := by
  rw [changed_merge hdistinct, nil_append, map_eq_nil_iff, filter_eq_nil_iff]
  unfold Changing field
  constructor
  · rintro h ⟨name, value, hvalue, hchanges⟩
    exact h (name, value) ((lookup_eq_some_iff_mem hdistinct).mp hvalue) hchanges
  · intro h incoming hincoming hchanges
    exact h ⟨incoming.1, incoming.2, (lookup_eq_some_iff_mem hdistinct).mpr hincoming, hchanges⟩

theorem mergePartial_eq (hdistinct : patch.Distinct) (htarget : observation.sameTarget patch = true) :
    ∃ merged changed, observation.mergePartial patch = .ok (merged, changed) ∧
      merged.deviceId = observation.deviceId ∧ merged.endpointId = observation.endpointId ∧
      merged.capability = observation.capability ∧
      (∀ name, merged.field name = mergedValue (observation.field name) (patch.field name)) ∧
      (¬ Changing observation patch ∧ merged.receivedAt = observation.receivedAt ∧
          merged.source = observation.source ∨
        Changing observation patch ∧ merged.receivedAt = max observation.receivedAt patch.receivedAt ∧
          merged.source = patch.source) := by
  have hfields := lookup_merge hdistinct observation.values []
  have hchanged := @changed_merge_eq_nil observation _ hdistinct
  unfold mergePartial
  rw [if_pos htarget]
  dsimp only
  by_cases hempty : (patch.values.foldl mergeField (observation.values, [])).2 = []
  · rw [if_pos (List.isEmpty_iff.mpr hempty)]
    exact ⟨_, _, rfl, rfl, rfl, rfl, hfields, Or.inl ⟨hchanged.mp hempty, rfl, rfl⟩⟩
  · rw [if_neg (fun h => hempty (List.isEmpty_iff.mp h))]
    exact ⟨_, _, rfl, rfl, rfl, rfl, hfields,
      Or.inr ⟨Classical.not_not.mp (fun h => hempty (hchanged.mpr h)), rfl, rfl⟩⟩

theorem Refreshes.mergedValue_eq (h : Refreshes observation patch) (name : String) :
    mergedValue (observation.field name) (patch.field name) = patch.field name := by
  cases hcurrent : observation.field name with
  | none => cases patch.field name <;> rfl
  | some value =>
    obtain ⟨value', hvalue', hle⟩ := h.fields name value hcurrent
    rw [hvalue']
    simp [mergedValue, hle]

theorem Refreshes.fields_eq (h : Refreshes observation patch) (hchanging : ¬ Changing observation patch)
    (name : String) :
    observation.field name = patch.field name := by
  cases hpatch : patch.field name with
  | none =>
    cases hcurrent : observation.field name with
    | none => rfl
    | some value =>
      obtain ⟨value', hvalue', -⟩ := h.fields name value hcurrent
      rw [hpatch] at hvalue'
      cases hvalue'
  | some value =>
    by_contra hne
    refine hchanging ⟨name, value, hpatch, ?_⟩
    unfold changesValue
    rw [Bool.and_eq_true, bne_iff_ne]
    refine ⟨?_, hne⟩
    cases hcurrent : observation.field name with
    | none => rfl
    | some current =>
      obtain ⟨value', hvalue', hle⟩ := h.fields name current hcurrent
      rw [hpatch, Option.some.injEq] at hvalue'
      simpa [hvalue'] using hle

theorem Same.refreshes (h : Same a b) :
    Refreshes a next ↔ Refreshes b next := by
  have htarget : a.sameTarget next = b.sameTarget next := by
    unfold sameTarget
    rw [h.deviceId, h.endpointId, h.capability, h.source]
  constructor
  · intro hr
    exact ⟨htarget ▸ hr.target, fun name value hvalue => hr.fields name value ((h.fields name).trans hvalue),
      h.receivedAt ▸ hr.received, fun hsame => h.receivedAt ▸ h.source ▸ hr.repeated (fun name =>
        (h.fields name).trans (hsame name))⟩
  · intro hr
    exact ⟨htarget ▸ hr.target,
      fun name value hvalue => hr.fields name value ((h.fields name).symm.trans hvalue),
      h.receivedAt ▸ hr.received, fun hsame => h.receivedAt ▸ h.source ▸ hr.repeated (fun name =>
        (h.fields name).symm.trans (hsame name))⟩

/-- Merging a patch gives the patch exactly when it refreshes what is there. -/
theorem merges_to_patch_iff (hdistinct : patch.Distinct) :
    (∃ merged changed, observation.mergePartial patch = .ok (merged, changed) ∧ Same merged patch) ↔
      Refreshes observation patch := by
  constructor
  · rintro ⟨merged, changed, hmerge, hsame⟩
    have htarget : observation.sameTarget patch = true := by
      by_contra hne
      unfold mergePartial at hmerge
      rw [if_neg hne] at hmerge
      cases hmerge
    obtain ⟨merged', changed', hmerge', -, -, -, hfields, hreceipt⟩ := mergePartial_eq hdistinct htarget
    rw [hmerge, Except.ok.injEq, Prod.mk.injEq] at hmerge'
    obtain ⟨rfl, rfl⟩ := hmerge'
    have hvalues : ∀ name, mergedValue (observation.field name) (patch.field name) = patch.field name :=
      fun name => (hfields name).symm.trans (hsame.fields name)
    refine ⟨htarget, ?_, ?_, ?_⟩
    · intro name value hvalue
      have heq := hvalues name
      rw [hvalue] at heq
      cases hpatch : patch.field name with
      | none =>
        rw [hpatch] at heq
        cases heq
      | some value' =>
        refine ⟨value', rfl, ?_⟩
        by_contra hlt
        rw [hpatch] at heq
        simp only [mergedValue, all_some, decide_eq_true_eq, if_neg hlt, Option.some.injEq] at heq
        exact hlt (heq ▸ le_refl _)
    · rcases hreceipt with ⟨-, hreceived, -⟩ | ⟨-, hreceived, -⟩
      · exact le_of_eq (hreceived.symm.trans hsame.receivedAt)
      · rw [← hsame.receivedAt, hreceived]
        exact le_max_left _ _
    · intro hall
      rcases hreceipt with ⟨-, hreceived, hsource⟩ | ⟨⟨name, value, hvalue, hchanges⟩, -⟩
      · exact ⟨hreceived.symm.trans hsame.receivedAt, hsource.symm.trans hsame.source⟩
      · rw [hall name, hvalue] at hchanges
        simp [changesValue] at hchanges
  · intro hrefreshes
    obtain ⟨merged, changed, hmerge, hdevice, hendpoint, hcapability, hfields, hreceipt⟩ :=
      mergePartial_eq hdistinct hrefreshes.target
    have htarget := hrefreshes.target
    simp only [sameTarget, Bool.and_eq_true, beq_iff_eq] at htarget
    have hreceipts : merged.receivedAt = patch.receivedAt ∧ merged.source = patch.source := by
      rcases hreceipt with ⟨hchanging, hreceived, hsource⟩ | ⟨-, hreceived, hsource⟩
      · obtain ⟨hreceipt, hsources⟩ := hrefreshes.repeated (hrefreshes.fields_eq hchanging)
        exact ⟨hreceived.trans hreceipt, hsource.trans hsources⟩
      · exact ⟨hreceived.trans (max_eq_right hrefreshes.received), hsource⟩
    exact ⟨merged, changed, hmerge, hdevice.trans htarget.1.1.1, hendpoint.trans htarget.1.1.2,
      hcapability.trans htarget.1.2, fun name => (hfields name).trans (hrefreshes.mergedValue_eq name),
      hreceipts.1, hreceipts.2⟩

def mergeAll (first : SourcedObservation) (rest : List SourcedObservation) :
    Except ObservationMergeError SourcedObservation :=
  rest.foldlM (fun merged patch => (merged.mergePartial patch).map Prod.fst) first

def Accumulated (stored : Option SourcedObservation) : List SourcedObservation → Prop
  | [] => stored = none
  | first :: rest => ∃ merged current, first.mergeAll rest = .ok merged ∧ stored = some current ∧
      Same current merged

theorem map_fst_ok {merged : SourcedObservation} :
    (observation.mergePartial patch).map Prod.fst = .ok merged ↔
      ∃ changed, observation.mergePartial patch = .ok (merged, changed) := by
  cases observation.mergePartial patch with
  | error error => simp [Except.map]
  | ok result =>
    obtain ⟨merged', changed⟩ := result
    simp [Except.map, eq_comm]

theorem Same.symm (h : Same a b) : Same b a :=
  ⟨h.deviceId.symm, h.endpointId.symm, h.capability.symm, fun name => (h.fields name).symm,
    h.receivedAt.symm, h.source.symm⟩

theorem mergeAll_of_chain {first : SourcedObservation} {rest : List SourcedObservation}
    (hdistinct : ∀ patch ∈ rest, patch.Distinct) (hchain : (first :: rest).IsChain Refreshes)
    {current : SourcedObservation} (hsame : Same current first) :
    ∃ merged, current.mergeAll rest = .ok merged ∧ Same merged ((first :: rest).getLast (by simp)) := by
  induction rest generalizing first current with
  | nil => exact ⟨current, rfl, hsame⟩
  | cons patch rest ih =>
    rw [isChain_cons_cons] at hchain
    have hrefreshes : Refreshes current patch := hsame.refreshes.mpr hchain.1
    obtain ⟨next, changed, hmerge, hnext⟩ :=
      (merges_to_patch_iff (hdistinct patch mem_cons_self)).mpr hrefreshes
    obtain ⟨merged, hmerged, hlast⟩ := ih (fun other hother => hdistinct other (mem_cons_of_mem patch hother))
      hchain.2 hnext
    refine ⟨merged, ?_, hlast⟩
    unfold mergeAll
    rw [foldlM_cons, map_fst_ok.mpr ⟨changed, hmerge⟩]
    exact hmerged

theorem accumulated_of_chain {history : List SourcedObservation}
    (hdistinct : ∀ patch ∈ history.tail, patch.Distinct) (hchain : history.IsChain Refreshes) :
    Accumulated history.getLast? history := by
  cases history with
  | nil => rfl
  | cons first rest =>
    obtain ⟨merged, hmerged, hsame⟩ := mergeAll_of_chain hdistinct hchain (Same.refl first)
    exact ⟨merged, _, hmerged, List.getLast?_eq_getLast_of_ne_nil (by simp), hsame.symm⟩

theorem mergeAll_concat {folded : SourcedObservation} (h : first.mergeAll (rest ++ [next]) = .ok folded) :
    ∃ merged changed, first.mergeAll rest = .ok merged ∧ merged.mergePartial next = .ok (folded, changed) := by
  unfold mergeAll at h
  rw [foldlM_append] at h
  obtain ⟨merged, hmerged, hlast⟩ := bind_inv h
  rw [foldlM_cons] at hlast
  obtain ⟨result, hresult, heq⟩ := bind_inv hlast
  cases heq
  obtain ⟨changed, hmerge⟩ := map_fst_ok.mp hresult
  exact ⟨merged, changed, hmerged, hmerge⟩

theorem refreshes_of_accumulated {history : List SourcedObservation}
    (hdistinct : ∀ patch ∈ history.tail, patch.Distinct) (hnext : next.Distinct)
    (hchain : history.IsChain Refreshes) (h : Accumulated (some next) (history ++ [next])) :
    (history ++ [next]).IsChain Refreshes := by
  cases history with
  | nil => exact isChain_singleton _
  | cons first rest =>
    obtain ⟨merged, hmerged, hsame⟩ := @mergeAll_of_chain first rest hdistinct hchain _ (Same.refl first)
    obtain ⟨folded, current, hfolded, hcurrent, hsame'⟩ := h
    cases hcurrent
    obtain ⟨merged', changed, hmerged', hmerge⟩ := mergeAll_concat hfolded
    rw [hmerged, Except.ok.injEq] at hmerged'
    subst hmerged'
    have hrefreshes : Refreshes merged next := (merges_to_patch_iff hnext).mp ⟨folded, changed, hmerge, hsame'.symm⟩
    rw [isChain_append]
    refine ⟨hchain, isChain_singleton _, ?_⟩
    intro last hlast other hother
    cases hother
    rw [List.getLast?_eq_getLast_of_ne_nil (by simp), mem_some_iff] at hlast
    subst hlast
    exact hsame.refreshes.mp hrefreshes

end SourcedObservation
structure LiveObservationBatch where
  observations : List SourcedObservation
  events : List DomainEvent

abbrev DeviceTable := Table DeviceId DeviceRecord (fun device => device.snapshot.id)

inductive PublishError
  | timeMovedBackwards
  | storage (error : StorageError)
  deriving DecidableEq

def SourcedObservation.observedAt (observation : SourcedObservation) : Instant :=
  ((observation.values.map (fun entry => entry.2.observedAt)).max?).getD observation.receivedAt

def successes (observations : List SourcedObservation) : List (DeviceId × Instant) :=
  (observations.map (fun observation => observation.deviceId)).dedup.map (fun deviceId =>
    (deviceId, (((observations.filter (fun observation => observation.deviceId == deviceId)).map
      SourcedObservation.observedAt).max?).getD 0))

def recordLive (device : DeviceRecord) (observedAt : Instant) : Except PublishError DeviceRecord :=
  match device.timestamps.recordSuccess observedAt with
  | none => .error .timeMovedBackwards
  | some timestamps => .ok { device with
      timestamps := timestamps
      availability := if device.availability.state = .sleeping then device.availability
        else device.availability.transition .online observedAt none }

def liveDevices (registry : Option DeviceTable) (observations : List SourcedObservation) :
    Except PublishError (List DeviceRecord) :=
  match registry with
  | none => .ok []
  | some records => ((successes observations).filterMap (fun success =>
      (records.find success.1).map (fun device => (device, success.2)))).mapM (fun entry =>
        recordLive entry.1 entry.2)

/-- `publish` on any repository; the registry follows a durable write. -/
def RepositoryLiveObservationSink.publish {ρ : Type} (apply : ρ → FoundationWrite → Except StorageError ρ)
    (state : ρ × Option DeviceTable) (batch : LiveObservationBatch) :
    Except PublishError (ρ × Option DeviceTable) :=
  match liveDevices state.2 batch.observations with
  | .error error => .error error
  | .ok devices =>
    match apply state.1 ⟨[], [], [], devices, batch.observations, batch.events, []⟩ with
    | .error error => .error (.storage error)
    | .ok repository =>
      .ok (repository, state.2.map (fun records => devices.foldl Table.upsert records))

def registered (registry : Option DeviceTable) (deviceId : DeviceId) : Bool :=
  registry.any (fun records => (records.find deviceId).isSome)

theorem recordLive_id {device live : DeviceRecord} {observedAt : Instant}
    (h : recordLive device observedAt = .ok live) : live.snapshot.id = device.snapshot.id := by
  unfold recordLive at h
  split at h
  · cases h
  · cases h
    rfl

theorem mem_successes {deviceId : DeviceId} :
    (∃ success ∈ successes observations, success.1 = deviceId) ↔
      ∃ observation ∈ observations, observation.deviceId = deviceId := by
  unfold successes
  simp

theorem mem_liveDevices {registry : Option DeviceTable} {devices : List DeviceRecord}
    (h : liveDevices registry observations = .ok devices) (deviceId : DeviceId) :
    (∃ device ∈ devices, device.snapshot.id = deviceId) ↔
      registered registry deviceId = true ∧ ∃ observation ∈ observations, observation.deviceId = deviceId := by
  unfold liveDevices at h
  split at h
  · cases h
    simp [registered]
  next records =>
    rw [← mem_successes]
    simp only [registered, any_some]
    constructor
    · rintro ⟨device, hdevice, rfl⟩
      obtain ⟨entry, hentry, hlive⟩ := exists_of_mem_mapM h hdevice
      obtain ⟨success, hsuccess, hfound⟩ := mem_filterMap.mp hentry
      obtain ⟨record, hrecord, rfl⟩ := map_eq_some_iff.mp hfound
      have hid : record.snapshot.id = success.1 := (Table.find_eq_some.mp hrecord).2
      rw [recordLive_id hlive, hid]
      exact ⟨isSome_iff_exists.mpr ⟨record, hrecord⟩, success, hsuccess, rfl⟩
    · rintro ⟨hregistered, success, hsuccess, rfl⟩
      obtain ⟨record, hrecord⟩ := isSome_iff_exists.mp hregistered
      have hentry : (record, success.2) ∈ (successes observations).filterMap (fun success =>
          (records.find success.1).map (fun device => (device, success.2))) :=
        mem_filterMap.mpr ⟨success, hsuccess, by rw [hrecord]; rfl⟩
      obtain ⟨live, hmem, hlive⟩ := exists_mapM_of_mem h hentry
      exact ⟨live, hmem, (recordLive_id hlive).trans (Table.find_eq_some.mp hrecord).2⟩

/-- A repository keeps the last observation that was written under a key. One that `drops`
forgets the observations of a device whose record is written, unless the write repeats them. -/
structure ObservationRepository (ρ κ : Type) [DecidableEq κ] where
  apply : ρ → FoundationWrite → Except StorageError ρ
  key : SourcedObservation → κ
  deviceOf : κ → DeviceId
  stored : ρ → κ → Option SourcedObservation
  valid : ρ → Prop
  drops : Prop
  deviceOf_key : ∀ observation, deviceOf (key observation) = observation.deviceId
  keeps_valid : ∀ {r r' write}, valid r → apply r write = .ok r' → valid r'
  stored_apply : ∀ {r r' write}, valid r → apply r write = .ok r' → ∀ k,
    (∀ observation ∈ write.observations, key observation ≠ k) →
    (drops ∧ (∃ device ∈ write.devices, device.snapshot.id = deviceOf k) ∧ stored r' k = none) ∨
      (¬ (drops ∧ ∃ device ∈ write.devices, device.snapshot.id = deviceOf k) ∧ stored r' k = stored r k)
  stored_written : ∀ {r r' write}, valid r → apply r write = .ok r' → ∀ k observation,
    write.observations.reverse.find? (fun observation => key observation = k) = some observation →
    stored r' k = some observation

open FoundationStore in
def sqliteRepository : ObservationRepository FoundationStore CapabilityKey where
  apply := FoundationStore.apply
  key := SourcedObservation.key
  deviceOf := fun key => key.1.1
  stored := fun store key => store.observations.find key
  valid := FoundationStore.Consistent
  drops := True
  deviceOf_key := fun _ => rfl
  keeps_valid := fun hvalid h => hvalid.apply h
  stored_apply := by
    intro r r' write hvalid h k habsent
    rw [find_of_absent hvalid h habsent]
    by_cases hdevice : ∃ device ∈ write.devices, device.snapshot.id = k.1.1
    · exact Or.inl ⟨trivial, hdevice, if_pos hdevice⟩
    · exact Or.inr ⟨fun h => hdevice h.2, if_neg hdevice⟩
  stored_written := by
    intro r r' write hvalid h k observation hlast
    rw [find_apply hvalid h, hlast, Option.some_or]

def memoryRepository : ObservationRepository MemoryState (EndpointKey × CapabilityDescriptor) where
  apply := fun state write => .ok (state.apply write)
  key := SourcedObservation.memoryKey
  deviceOf := fun key => key.1.1
  stored := fun state key => state.observations.find key
  valid := fun _ => True
  drops := False
  deviceOf_key := fun _ => rfl
  keeps_valid := fun _ _ => trivial
  stored_apply := by
    rintro r r' write - ⟨⟩ k habsent
    have hnone : write.observations.reverse.find? (fun observation => observation.memoryKey = k) = none := by
      rw [List.find?_eq_none]
      intro incoming hincoming
      simpa using habsent incoming (List.mem_reverse.mp hincoming)
    refine Or.inr ⟨fun h => h.1, ?_⟩
    unfold MemoryState.apply
    dsimp only
    rw [Table.find_foldl_upsert, hnone, Option.none_or]
  stored_written := by
    rintro r r' write - ⟨⟩ k observation hlast
    unfold MemoryState.apply
    dsimp only
    rw [Table.find_foldl_upsert, hlast, Option.some_or]

namespace ObservationRepository

open RepositoryLiveObservationSink SourcedObservation

variable {ρ κ : Type} [DecidableEq κ] (R : ObservationRepository ρ κ)

def history (initial : ρ) (batches : List LiveObservationBatch) (k : κ) : List SourcedObservation :=
  (R.stored initial k).toList ++
    (batches.flatMap LiveObservationBatch.observations).filter (fun observation => R.key observation = k)

/-- No batch makes the repository drop an observation: a batch with observations of a registered
device repeats every capability that the device has a history for. -/
def Whole (initial : ρ × Option DeviceTable) (batches : List LiveObservationBatch) : Prop :=
  R.drops → ∀ before batch after, batches = before ++ batch :: after → ∀ k,
    R.history initial.1 before k ≠ [] → registered initial.2 (R.deviceOf k) = true →
    (∃ observation ∈ batch.observations, observation.deviceId = R.deviceOf k) →
    ∃ observation ∈ batch.observations, R.key observation = k

theorem history_concat (initial : ρ) (batches : List LiveObservationBatch) (batch : LiveObservationBatch)
    (k : κ) : R.history initial (batches ++ [batch]) k =
      R.history initial batches k ++ batch.observations.filter (fun observation => R.key observation = k) := by
  simp [history]

variable {batches : List LiveObservationBatch} {batch : LiveObservationBatch}
  {initial state state' final : ρ × Option DeviceTable} {k : κ}

theorem Whole.of_append {before after : List LiveObservationBatch} (h : R.Whole initial (before ++ after)) :
    R.Whole initial before := by
  intro hdrops earlier batch later heq
  exact h hdrops earlier batch (later ++ after) (by rw [heq]; simp)

theorem publish_ok (h : RepositoryLiveObservationSink.publish R.apply state batch = .ok state') :
    ∃ devices, liveDevices state.2 batch.observations = .ok devices ∧
      R.apply state.1 ⟨[], [], [], devices, batch.observations, batch.events, []⟩ = .ok state'.1 ∧
      state'.2 = state.2.map (fun records => devices.foldl Table.upsert records) := by
  unfold RepositoryLiveObservationSink.publish at h
  split at h
  · cases h
  next devices hdevices =>
    split at h
    · cases h
    next repository happly =>
      cases h
      exact ⟨devices, hdevices, happly, rfl⟩

theorem registered_publish (h : RepositoryLiveObservationSink.publish R.apply state batch = .ok state')
    (deviceId : DeviceId) :
    registered state'.2 deviceId = registered state.2 deviceId := by
  obtain ⟨devices, hdevices, -, hregistry⟩ := R.publish_ok h
  have hlive := mem_liveDevices hdevices deviceId
  rw [hregistry]
  cases hrecords : state.2 with
  | none => rfl
  | some records =>
    rw [hrecords] at hlive
    simp only [registered, map_some, any_some, Table.find_foldl_upsert] at hlive ⊢
    cases hlast : devices.reverse.find? (fun device => device.snapshot.id = deviceId) with
    | none => rw [none_or]
    | some device =>
      have hmem := mem_reverse.mp (List.mem_of_find?_eq_some hlast)
      have hid : device.snapshot.id = deviceId := by simpa using List.find?_some hlast
      have hknown := (hlive.mp ⟨device, hmem, hid⟩).1
      rw [some_or, hknown]
      rfl

theorem stored_publish_absent (hvalid : R.valid state.1)
    (h : RepositoryLiveObservationSink.publish R.apply state batch = .ok state')
    (habsent : ∀ observation ∈ batch.observations, R.key observation ≠ k) :
    (R.drops ∧ registered state.2 (R.deviceOf k) = true ∧
        (∃ observation ∈ batch.observations, observation.deviceId = R.deviceOf k) ∧
        R.stored state'.1 k = none) ∨
      (¬ (R.drops ∧ registered state.2 (R.deviceOf k) = true ∧
          ∃ observation ∈ batch.observations, observation.deviceId = R.deviceOf k) ∧
        R.stored state'.1 k = R.stored state.1 k) := by
  obtain ⟨devices, hdevices, happly, -⟩ := R.publish_ok h
  have hlive := mem_liveDevices hdevices (R.deviceOf k)
  rcases R.stored_apply hvalid happly k habsent with ⟨hdrops, hdevice, hnone⟩ | ⟨hkept, hsame⟩
  · obtain ⟨hregistered, hmentioned⟩ := hlive.mp hdevice
    exact Or.inl ⟨hdrops, hregistered, hmentioned, hnone⟩
  · refine Or.inr ⟨?_, hsame⟩
    rintro ⟨hdrops, hregistered, hmentioned⟩
    exact hkept ⟨hdrops, hlive.mpr ⟨hregistered, hmentioned⟩⟩

theorem getLast?_filter_eq (k : κ) (observations : List SourcedObservation) :
    (observations.filter (fun observation => R.key observation = k)).getLast? =
      observations.reverse.find? (fun observation => R.key observation = k) := by
  rw [← List.head?_reverse, ← filter_reverse, List.head?_filter]

/-- A run that drops nothing stores the last observation of every history. -/
theorem stored_of_run (hvalid : R.valid initial.1)
    (hrun : batches.foldlM (RepositoryLiveObservationSink.publish R.apply) initial = .ok final)
    (hwhole : R.Whole initial batches) :
    R.valid final.1 ∧ (∀ deviceId, registered final.2 deviceId = registered initial.2 deviceId) ∧
      ∀ k, R.stored final.1 k = (R.history initial.1 batches k).getLast? := by
  induction batches using List.reverseRecOn generalizing final with
  | nil =>
    cases hrun
    refine ⟨hvalid, fun _ => rfl, fun k => ?_⟩
    simp only [history, flatMap_nil, filter_nil, append_nil]
    cases R.stored initial.1 k <;> rfl
  | append_singleton batches batch ih =>
    rw [foldlM_append] at hrun
    obtain ⟨mid, hmid, hlast⟩ := bind_inv hrun
    rw [foldlM_cons] at hlast
    obtain ⟨_, hpublish, hend⟩ := bind_inv hlast
    cases hend
    obtain ⟨hvalidMid, hregistered, hstored⟩ := ih hmid (Whole.of_append R hwhole)
    obtain ⟨devices, -, happly, -⟩ := R.publish_ok hpublish
    refine ⟨R.keeps_valid hvalidMid happly,
      fun deviceId => (R.registered_publish hpublish deviceId).trans (hregistered deviceId), fun k => ?_⟩
    rw [history_concat, List.getLast?_append, getLast?_filter_eq]
    cases hfind : batch.observations.reverse.find? (fun observation => R.key observation = k) with
    | some observation =>
      rw [some_or]
      exact R.stored_written hvalidMid happly k observation hfind
    | none =>
      have habsent : ∀ observation ∈ batch.observations, R.key observation ≠ k := by
        intro observation hobservation
        simpa using List.find?_eq_none.mp hfind observation (mem_reverse.mpr hobservation)
      rw [none_or, ← hstored k]
      rcases R.stored_publish_absent hvalidMid hpublish habsent with ⟨hdrops, hknown, hmentioned, hnone⟩ | ⟨-, hsame⟩
      · -- nothing was stored, or the batch would not be whole
        by_cases hhistory : R.history initial.1 batches k = []
        · rw [hnone, hstored k, hhistory]
          rfl
        · rw [hregistered] at hknown
          obtain ⟨observation, hobservation, hkey⟩ :=
            hwhole hdrops batches batch [] rfl k hhistory hknown hmentioned
          exact absurd hkey (habsent observation hobservation)
      · exact hsame

def AccumulatesAlong (initial : ρ × Option DeviceTable) (batches : List LiveObservationBatch) : Prop :=
  ∀ before after mid, batches = before ++ after →
    before.foldlM (RepositoryLiveObservationSink.publish R.apply) initial = .ok mid →
    ∀ k, Accumulated (R.stored mid.1 k) (R.history initial.1 before k)

def Refreshing (initial : ρ) (batches : List LiveObservationBatch) : Prop :=
  ∀ k, (R.history initial batches k).IsChain Refreshes

def DistinctFields (batches : List LiveObservationBatch) : Prop :=
  ∀ batch ∈ batches, ∀ observation ∈ batch.observations, observation.Distinct

theorem distinct_of_mem_tail {initial : ρ} (h : DistinctFields batches) :
    ∀ patch ∈ (R.history initial batches k).tail, patch.Distinct := by
  intro patch hpatch
  have hpublished : patch ∈ (batches.flatMap LiveObservationBatch.observations).filter
      (fun observation => R.key observation = k) := by
    unfold history at hpatch
    cases hstored : R.stored initial k with
    | none =>
      rw [hstored] at hpatch
      exact mem_of_mem_tail hpatch
    | some observation =>
      rw [hstored] at hpatch
      exact hpatch
  obtain ⟨batch, hbatch, hmem⟩ := mem_flatMap.mp (List.mem_filter.mp hpublished).1
  exact h batch hbatch patch hmem

theorem accumulates_of_refreshing (hvalid : R.valid initial.1) (hdistinct : DistinctFields batches)
    (hrefreshing : R.Refreshing initial.1 batches) (hwhole : R.Whole initial batches) :
    R.AccumulatesAlong initial batches := by
  rintro before after mid rfl hrun k
  obtain ⟨-, -, hstored⟩ := R.stored_of_run hvalid hrun (Whole.of_append R hwhole)
  have hsplit : R.history initial.1 (before ++ after) k = R.history initial.1 before k ++
      (after.flatMap LiveObservationBatch.observations).filter (fun observation => R.key observation = k) := by
    simp [history]
  have hchain := hrefreshing k
  rw [hsplit] at hchain
  rw [hstored k]
  exact accumulated_of_chain
    (R.distinct_of_mem_tail (fun batch hbatch => hdistinct batch (mem_append_left after hbatch)))
    hchain.left_of_append

theorem filter_key_of_nodup (hkeys : (batch.observations.map R.key).Nodup) (k : κ) :
    batch.observations.filter (fun observation => R.key observation = k) = [] ∨
      ∃ observation ∈ batch.observations,
        batch.observations.filter (fun observation => R.key observation = k) = [observation] ∧
        R.key observation = k := by
  have hnodup : ((batch.observations.filter (fun observation => R.key observation = k)).map R.key).Nodup :=
    hkeys.sublist (filter_sublist.map R.key)
  rcases hfilter : batch.observations.filter (fun observation => R.key observation = k) with _ | ⟨first, rest⟩
  · exact Or.inl rfl
  · have hmem : ∀ observation ∈ first :: rest, observation ∈ batch.observations ∧ R.key observation = k := by
      intro observation hobservation
      rw [← hfilter] at hobservation
      simpa using hobservation
    cases rest with
    | nil => exact Or.inr ⟨first, (hmem first mem_cons_self).1, rfl, (hmem first mem_cons_self).2⟩
    | cons second rest =>
      rw [hfilter, map_cons, map_cons, (hmem first mem_cons_self).2,
        (hmem second (mem_cons_of_mem first mem_cons_self)).2] at hnodup
      simp at hnodup

/-- Where everything reported accumulates, each batch refreshes what it overwrites. -/
theorem refreshing_of_accumulates (hvalid : R.valid initial.1) (hdistinct : DistinctFields batches)
    (hkeys : ∀ batch ∈ batches, (batch.observations.map R.key).Nodup)
    (hrun : batches.foldlM (RepositoryLiveObservationSink.publish R.apply) initial = .ok final)
    (h : R.AccumulatesAlong initial batches) :
    R.Refreshing initial.1 batches ∧ R.Whole initial batches := by
  induction batches using List.reverseRecOn generalizing final with
  | nil =>
    refine ⟨fun k => ?_, fun _ before batch after heq => ?_⟩
    · simp only [history, flatMap_nil, filter_nil, append_nil]
      cases R.stored initial.1 k with
      | none => exact isChain_nil
      | some observation => exact isChain_singleton _
    · simp at heq
  | append_singleton batches batch ih =>
    have hfinal := h (batches ++ [batch]) [] final (by simp) hrun
    rw [foldlM_append] at hrun
    obtain ⟨mid, hmid, hlast⟩ := bind_inv hrun
    rw [foldlM_cons] at hlast
    obtain ⟨_, hpublish, hend⟩ := bind_inv hlast
    cases hend
    obtain ⟨hrefreshing, hwhole⟩ := ih
      (fun other hother => hdistinct other (mem_append_left _ hother))
      (fun other hother => hkeys other (mem_append_left _ hother)) hmid
      (fun before after middle heq => h before (after ++ [batch]) middle (by rw [heq, append_assoc]))
    obtain ⟨hvalidMid, hregistered, hstored⟩ := R.stored_of_run hvalid hmid hwhole
    have hbatch : batch ∈ batches ++ [batch] := by simp
    constructor
    · intro k
      rcases R.filter_key_of_nodup (hkeys batch hbatch) k with hnone | ⟨observation, hmem, hone, hkey⟩
      · rw [history_concat, hnone, append_nil]
        exact hrefreshing k
      · -- the key is written by one observation of the batch
        have haccumulated := hfinal k
        obtain ⟨devices, -, happly, -⟩ := R.publish_ok hpublish
        rw [R.stored_written hvalidMid happly k observation (by rw [← getLast?_filter_eq, hone]; rfl),
          history_concat, hone] at haccumulated
        rw [history_concat, hone]
        exact refreshes_of_accumulated
          (R.distinct_of_mem_tail (fun other hother => hdistinct other (mem_append_left _ hother)))
          (hdistinct batch hbatch observation hmem) (hrefreshing k) haccumulated
    · intro hdrops before other after heq k hhistory hknown hmentioned
      rcases eq_nil_or_concat after with rfl | ⟨earlier, last, rfl⟩
      · -- the last batch: what it drops is missing afterwards
        obtain ⟨rfl, hother⟩ := append_inj' heq (by simp)
        cases hother
        by_contra hno
        have habsent : ∀ observation ∈ batch.observations, R.key observation ≠ k :=
          fun observation hobservation hkey => hno ⟨observation, hobservation, hkey⟩
        have hfilter : batch.observations.filter (fun observation => R.key observation = k) = [] := by
          rw [filter_eq_nil_iff]
          intro observation hobservation
          simpa using habsent observation hobservation
        have haccumulated := hfinal k
        rw [history_concat, hfilter, append_nil] at haccumulated
        rcases R.stored_publish_absent hvalidMid hpublish habsent with ⟨-, -, -, hnone⟩ | ⟨hkept, -⟩
        · rw [hnone] at haccumulated
          cases hcases : R.history initial.1 batches k with
          | nil => exact hhistory hcases
          | cons first rest =>
            rw [hcases] at haccumulated
            obtain ⟨_, _, _, hcontra, _⟩ := haccumulated
            cases hcontra
        · exact hkept ⟨hdrops, (hregistered _).trans hknown, hmentioned⟩
      · have hsplit : batches = before ++ other :: earlier := by
          have hassoc : batches ++ [batch] = (before ++ other :: earlier) ++ [last] := by
            rw [heq]
            simp
          exact (append_inj' hassoc rfl).1
        exact hwhole hdrops before other earlier hsplit k hhistory hknown hmentioned

theorem memory_whole {initial : MemoryState × Option DeviceTable} :
    memoryRepository.Whole initial batches :=
  fun hdrops => hdrops.elim

/-- On both repositories, live observations accumulate when each one refreshes the one published
before it under its key and, in the tables, no batch leaves out a capability of a device that it
writes; and when a batch publishes at most one observation for a key, only then. -/
theorem live_observations_accumulate_iff (registry : Option DeviceTable) (batches : List LiveObservationBatch)
    (hdistinct : DistinctFields batches) :
    (∀ store, FoundationStore.Reachable store →
      (sqliteRepository.Refreshing store batches ∧ sqliteRepository.Whole (store, registry) batches →
        sqliteRepository.AccumulatesAlong (store, registry) batches) ∧
      (∀ final, (∀ batch ∈ batches, (batch.observations.map SourcedObservation.key).Nodup) →
        batches.foldlM (RepositoryLiveObservationSink.publish FoundationStore.apply) (store, registry) = .ok final →
        sqliteRepository.AccumulatesAlong (store, registry) batches →
        sqliteRepository.Refreshing store batches ∧ sqliteRepository.Whole (store, registry) batches)) ∧
    (∀ memory,
      (memoryRepository.Refreshing memory batches →
        memoryRepository.AccumulatesAlong (memory, registry) batches) ∧
      (∀ final, (∀ batch ∈ batches, (batch.observations.map SourcedObservation.memoryKey).Nodup) →
        batches.foldlM (RepositoryLiveObservationSink.publish (fun state write => .ok (state.apply write)))
          (memory, registry) = .ok final →
        memoryRepository.AccumulatesAlong (memory, registry) batches →
        memoryRepository.Refreshing memory batches)) := by
  constructor
  · intro store hreachable
    refine ⟨?_, ?_⟩
    · rintro ⟨hrefreshing, hwhole⟩
      exact sqliteRepository.accumulates_of_refreshing hreachable.consistent hdistinct hrefreshing hwhole
    · intro final hkeys hrun h
      have hvalid : sqliteRepository.valid (store, registry).1 := hreachable.consistent
      exact sqliteRepository.refreshing_of_accumulates hvalid hdistinct hkeys hrun h
  · intro memory
    refine ⟨?_, ?_⟩
    · intro hrefreshing
      exact memoryRepository.accumulates_of_refreshing trivial hdistinct hrefreshing memory_whole
    · intro final hkeys hrun h
      exact (memoryRepository.refreshing_of_accumulates trivial hdistinct hkeys hrun h).1

def fullReading : SourcedObservation :=
  ⟨⟨1, "lock", ⟨"power", 1, .observe⟩, [("volts", ⟨.integer 230, 0⟩), ("watts", ⟨.integer 5, 0⟩)], 0⟩,
    ⟨1, .fullStatus, none⟩⟩

def wattsOnly : SourcedObservation :=
  ⟨⟨1, "lock", ⟨"power", 1, .observe⟩, [("watts", ⟨.integer 7, 1⟩)], 1⟩, ⟨1, .notification, none⟩⟩

def laterReading : SourcedObservation :=
  ⟨⟨1, "lock", ⟨"power", 1, .observe⟩, [("volts", ⟨.integer 231, 1⟩), ("watts", ⟨.integer 7, 1⟩)], 1⟩,
    ⟨1, .notification, none⟩⟩

def fullReadings : List LiveObservationBatch := [⟨[fullReading], []⟩, ⟨[laterReading], []⟩]

def hallRegistry : DeviceTable := ⟨[FoundationStore.hallRecord], by decide⟩

theorem laterReading_refreshes : Refreshes fullReading laterReading where
  target := by decide
  fields := by
    intro name value hvalue
    have hnames : (fullReading.values.map Prod.fst).Nodup := by decide
    rcases List.mem_cons.mp ((lookup_eq_some_iff_mem hnames).mp hvalue) with heq | hmem
    · cases heq
      exact ⟨⟨.integer 231, 1⟩, rfl, by decide⟩
    · cases List.mem_singleton.mp hmem
      exact ⟨⟨.integer 7, 1⟩, rfl, by decide⟩
  received := by decide
  repeated := by
    intro hsame
    cases hsame "volts"

theorem fullReadings_chain (p : SourcedObservation → Bool) :
    ([] ++ (fullReadings.flatMap LiveObservationBatch.observations).filter p).IsChain Refreshes := by
  show ([fullReading, laterReading].filter p).IsChain Refreshes
  rw [List.filter_cons, List.filter_cons, List.filter_nil]
  split <;> split
  · exact List.isChain_pair.mpr laterReading_refreshes
  · exact List.isChain_singleton _
  · exact List.isChain_singleton _
  · exact List.isChain_nil

/-- Two full readings of a registered device accumulate, and the second one is stored. -/
theorem full_readings_accumulate :
    memoryRepository.AccumulatesAlong (MemoryState.empty, some hallRegistry) fullReadings ∧
      sqliteRepository.AccumulatesAlong (FoundationStore.hallStore, some hallRegistry) fullReadings ∧
      (fullReadings.foldlM (RepositoryLiveObservationSink.publish FoundationStore.apply)
        (FoundationStore.hallStore, some hallRegistry)).toOption.map (fun final => final.1.observations.rows) =
          some [laterReading] := by
  have hdistinct : DistinctFields fullReadings := by
    unfold DistinctFields SourcedObservation.Distinct
    decide
  have hkeys : ∀ batch ∈ fullReadings, ∃ observation ∈ batch.observations, observation.key = fullReading.key := by
    decide
  have hone : ∀ batch ∈ fullReadings, ∀ observation ∈ batch.observations, observation.key = fullReading.key := by
    decide
  refine ⟨?_, ?_, by decide +kernel⟩
  · exact ((live_observations_accumulate_iff (some hallRegistry) _ hdistinct).2 MemoryState.empty).1
      (fun k => fullReadings_chain _)
  · refine ((live_observations_accumulate_iff (some hallRegistry) _ hdistinct).1 FoundationStore.hallStore
      FoundationStore.hallStore_reachable).1 ⟨fun k => fullReadings_chain _, ?_⟩
    intro _ before batch after hsplit k hhistory _ _
    obtain ⟨observation, hobservation⟩ := List.exists_mem_of_ne_nil _ hhistory
    obtain ⟨hread, hkey⟩ := List.mem_filter.mp hobservation
    obtain ⟨earlier, hearlier, hmem⟩ := List.mem_flatMap.mp hread
    have hbefore : earlier ∈ fullReadings := hsplit ▸ mem_append_left _ hearlier
    have hbatch : batch ∈ fullReadings := hsplit ▸ mem_append_right _ mem_cons_self
    rw [← of_decide_eq_true hkey, show sqliteRepository.key observation = _ from hone earlier hbefore observation hmem]
    exact hkeys batch hbatch

/-- The second reading erases the volts, in memory and in the tables. -/
theorem partial_reading_erases :
    ¬ memoryRepository.AccumulatesAlong (MemoryState.empty, none) [⟨[fullReading], []⟩, ⟨[wattsOnly], []⟩] ∧
      ¬ sqliteRepository.AccumulatesAlong (FoundationStore.hallStore, none)
        [⟨[fullReading], []⟩, ⟨[wattsOnly], []⟩] := by
  have hmerged : fullReading.mergeAll [wattsOnly] = .ok ⟨⟨1, "lock", ⟨"power", 1, .observe⟩,
      [("watts", ⟨.integer 7, 1⟩), ("volts", ⟨.integer 230, 0⟩)], 1⟩, ⟨1, .notification, none⟩⟩ := rfl
  have hcontra : ¬ Accumulated (some wattsOnly) [fullReading, wattsOnly] := by
    rintro ⟨merged, current, hfold, hcurrent, hsame⟩
    rw [hmerged] at hfold
    cases hfold
    cases hcurrent
    have hvolts := hsame.fields "volts"
    cases hvolts
  constructor
  · intro h
    exact hcontra (h [⟨[fullReading], []⟩, ⟨[wattsOnly], []⟩] [] _ rfl rfl wattsOnly.memoryKey)
  · intro h
    exact hcontra (h [⟨[fullReading], []⟩, ⟨[wattsOnly], []⟩] [] _ rfl rfl wattsOnly.key)

end ObservationRepository

end HomeMagic
