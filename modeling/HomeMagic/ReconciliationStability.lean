import HomeMagic.ReconciledDevices

/-! Reconciliation of a scan is stable, local and idempotent where the candidates agree with what is known. -/
namespace HomeMagic

variable {identities : DeviceIdentities} {ids : FreshIds} {existing : DeviceTable} {candidate : DiscoveryCandidate}
  {known : Option DeviceRecord} {record : DeviceRecord}

theorem nativeIndex_eq_some {records : DeviceTable} {key : IntegrationId × String} {id : DeviceId} :
    nativeIndex records key = some id ↔
      (∃ record, records.find id = some record ∧ record.nativeKey = key) ∧
        ∀ other record, records.find other = some record → record.nativeKey = key → other ≤ id := by
  have hmem : ∀ other, other ∈ (records.rows.filter (fun record => record.nativeKey = key)).map
      (fun record => record.snapshot.id) ↔ ∃ record, records.find other = some record ∧ record.nativeKey = key := by
    intro other
    rw [List.mem_map]
    refine exists_congr fun record => ?_
    rw [List.mem_filter, Table.find_eq_some, decide_eq_true_eq]
    constructor
    · rintro ⟨⟨hrow, hkey⟩, hid⟩
      exact ⟨⟨hrow, hid⟩, hkey⟩
    · rintro ⟨⟨hrow, hid⟩, hkey⟩
      exact ⟨⟨hrow, hkey⟩, hid⟩
  unfold nativeIndex
  rw [List.max?_eq_some_iff, hmem]
  refine and_congr Iff.rfl (forall_congr' fun other => ?_)
  rw [hmem]
  exact ⟨fun h record hfind hkey => h ⟨record, hfind, hkey⟩, fun h ⟨record, hfind, hkey⟩ => h record hfind hkey⟩

theorem nativeIndex_congr {records records' : DeviceTable} {key : IntegrationId × String}
    (h : ∀ id, (∃ record, records.find id = some record ∧ record.nativeKey = key) ↔
      ∃ record, records'.find id = some record ∧ record.nativeKey = key) :
    nativeIndex records key = nativeIndex records' key := by
  apply Option.ext
  intro id
  rw [nativeIndex_eq_some, nativeIndex_eq_some, h]
  refine and_congr Iff.rfl (forall_congr' fun other => ?_)
  have hother := h other
  constructor
  · intro hle record hfind hkey
    obtain ⟨record', hfind', hkey'⟩ := hother.mpr ⟨record, hfind, hkey⟩
    exact hle record' hfind' hkey'
  · intro hle record hfind hkey
    obtain ⟨record', hfind', hkey'⟩ := hother.mp ⟨record, hfind, hkey⟩
    exact hle record' hfind' hkey'

section Again

variable {candidates : List DiscoveryCandidate} {outcome : ReconciliationOutcome}

def Unclaimed (identities : DeviceIdentities) (existing : DeviceTable) (candidates : List DiscoveryCandidate) : Prop :=
  ∀ candidate ∈ candidates, candidate.target identities existing = some none →
    existing.find candidate.snapshot.id = none

theorem CandidatesJoined.keyed (hjoined : CandidatesJoined identities existing candidates outcome)
    (hdistinct : (candidates.map DiscoveryCandidate.nativeKey).Nodup)
    (hunclaimed : Unclaimed identities existing candidates) (hcandidate : candidate ∈ candidates) (id : DeviceId) :
    (∃ record, (outcome.after existing).find id = some record ∧ record.nativeKey = candidate.nativeKey) ↔
      (∃ record, existing.find id = some record ∧ record.nativeKey = candidate.nativeKey) ∨
        id = candidate.snapshot.id ∧ candidate.target identities existing = some none := by
  rcases targeted_or_apart identities existing candidates id with ⟨other, hother, rfl, known, htarget⟩ | hnone
  · have hrecord := hjoined.record other hother known htarget
    have hkey := renewed_nativeKey htarget
    constructor
    · rintro ⟨record, hfind, hrecordKey⟩
      rw [hrecord] at hfind
      cases hfind
      have hsame : other = candidate :=
        List.inj_on_of_nodup_map hdistinct hother hcandidate (hkey.symm.trans hrecordKey)
      subst hsame
      cases known with
      | none => exact Or.inr ⟨rfl, htarget⟩
      | some before => exact Or.inl ⟨before, (target_known htarget).2⟩
    · rintro (⟨record, hfind, hrecordKey⟩ | ⟨hid, hnew⟩)
      · refine ⟨_, hrecord, hkey.trans ?_⟩
        cases known with
        | none =>
          rw [hunclaimed other hother htarget] at hfind
          cases hfind
        | some before =>
          obtain ⟨-, hbefore, hbeforeKey⟩ := target_known htarget
          rw [hbefore] at hfind
          cases hfind
          exact hbeforeKey.symm.trans hrecordKey
      · exact ⟨_, hrecord, hkey.trans
          (nativeKey_of_id (identified_of_target htarget) (identified_of_target hnew) hid)⟩
  · rw [(hjoined.apart id hnone).1]
    refine ⟨Or.inl, ?_⟩
    rintro (h | ⟨hid, hnew⟩)
    · exact h
    · rw [hnone candidate hcandidate hid.symm] at hnew
      cases hnew

/-- Afterwards each candidate has the record it has just renewed. -/
theorem CandidatesJoined.target_after (hjoined : CandidatesJoined identities existing candidates outcome)
    (hdistinct : (candidates.map DiscoveryCandidate.nativeKey).Nodup)
    (hunclaimed : Unclaimed identities existing candidates) (hcandidate : candidate ∈ candidates) :
    candidate.target identities (outcome.after existing) =
      (candidate.target identities existing).map (fun known => some (candidate.renewed known)) := by
  have hkeyed := hjoined.keyed hdistinct hunclaimed hcandidate
  cases htarget : candidate.target identities existing with
  | none =>
    have hsame : nativeIndex (outcome.after existing) candidate.nativeKey =
        nativeIndex existing candidate.nativeKey := by
      apply nativeIndex_congr
      intro id
      rw [hkeyed id, htarget]
      simp
    show candidate.target identities (outcome.after existing) = none
    by_contra hsome
    obtain ⟨known, hknown⟩ := Option.ne_none_iff_exists'.mp hsome
    have haccepted := identified_of_target hknown
    cases known with
    | none =>
      have hnew := target_of_index_none haccepted (hsame.symm.trans (target_new hknown))
      rw [htarget] at hnew
      cases hnew
    | some record =>
      have hindex := hsame.symm.trans (target_known hknown).1
      obtain ⟨⟨earlier, hearlier, -⟩, -⟩ := nativeIndex_eq_some.mp hindex
      have hold := target_of_index haccepted hindex hearlier
      rw [htarget] at hold
      cases hold
  | some known =>
    have hrecord := hjoined.record candidate hcandidate known htarget
    refine target_of_index (identified_of_target htarget) ?_ hrecord
    cases known with
    | none =>
      rw [nativeIndex_eq_some]
      refine ⟨⟨_, hrecord, renewed_nativeKey htarget⟩, ?_⟩
      intro other record hfind hkey
      rcases (hkeyed other).mp ⟨record, hfind, hkey⟩ with ⟨earlier, hearlier, hearlierKey⟩ | ⟨rfl, -⟩
      · exact absurd hearlierKey (nativeIndex_none (target_new htarget) earlier (Table.find_eq_some.mp hearlier).1)
      · exact le_rfl
    | some before =>
      rw [← (target_known htarget).1]
      apply nativeIndex_congr
      intro id
      rw [hkeyed id, htarget]
      simp

theorem renewed_timely (candidate : DiscoveryCandidate) {known : Option DeviceRecord} (h : candidate.Timely known) :
    candidate.Timely (some (candidate.renewed known)) := by
  cases known with
  | none => exact ⟨min_le_left _ _, min_le_right _ _⟩
  | some record => exact h

/-- Renewing twice is renewing once, unless a new device was discovered after it was observed. -/
theorem renewed_again (known : Option DeviceRecord) :
    candidate.renewed (some (candidate.renewed known)) = candidate.renewed known ↔
      (known = none → candidate.discoveredAt ≤ candidate.snapshot.observedAt) := by
  cases known with
  | none =>
    constructor
    · intro hsame hnone
      have hlast : max (max candidate.snapshot.observedAt candidate.discoveredAt) candidate.snapshot.observedAt =
          candidate.snapshot.observedAt := congrArg (fun record => record.timestamps.lastSeen) hsame
      calc candidate.discoveredAt ≤ max candidate.snapshot.observedAt candidate.discoveredAt := le_max_right _ _
        _ ≤ max (max candidate.snapshot.observedAt candidate.discoveredAt) candidate.snapshot.observedAt :=
          le_max_left _ _
        _ = candidate.snapshot.observedAt := hlast
    · intro hseen
      have hlast : max (max candidate.snapshot.observedAt candidate.discoveredAt) candidate.snapshot.observedAt =
          candidate.snapshot.observedAt := by
        rw [max_eq_left (hseen rfl), max_self]
      unfold DiscoveryCandidate.renewed
      simp only [hlast, Option.elim_some, max_self]
      rfl
  | some record =>
    refine iff_of_true ?_ (fun h => nomatch h)
    have havailability : ∀ availability : Availability,
        (availability.transition .online candidate.snapshot.observedAt none).transition .online
          candidate.snapshot.observedAt none = availability.transition .online candidate.snapshot.observedAt none := by
      intro availability
      unfold Availability.transition
      split
      next => rfl
      next => rfl
    have hlast : ∀ last discovered observed : Instant,
        max (max (max (max last discovered) observed) discovered) observed = max (max last discovered) observed := by
      intro last discovered observed
      rw [max_eq_left (le_max_of_le_left (le_max_right last discovered)), max_eq_left (le_max_right _ observed)]
    have hsuccess : ∀ last : Option Instant, max (last.elim candidate.snapshot.observedAt
        (fun current => max current candidate.snapshot.observedAt)) candidate.snapshot.observedAt =
          last.elim candidate.snapshot.observedAt (fun current => max current candidate.snapshot.observedAt) := by
      intro last
      cases last with
      | none => exact max_self _
      | some current => exact max_eq_left (le_max_right _ _)
    unfold DiscoveryCandidate.renewed
    simp only [havailability, hlast, Option.elim_some, hsuccess]

/-- A second reconciliation of the same candidates tells of nothing. -/
theorem CandidatesJoined.again (hjoined : CandidatesJoined identities existing candidates outcome) (ids' : FreshIds)
    (hdistinct : (candidates.map DiscoveryCandidate.nativeKey).Nodup)
    (hunclaimed : Unclaimed identities existing candidates) :
    ∃ outcome', reconcile identities ids' (outcome.after existing) candidates = .ok outcome' ∧ outcome'.events = [] ∧
      (outcome'.devices = [] ↔ ∀ candidate ∈ candidates, candidate.target identities existing = some none →
        candidate.discoveredAt ≤ candidate.snapshot.observedAt) := by
  have htarget : ∀ candidate ∈ candidates, ∀ known, candidate.target identities (outcome.after existing) = some known →
      ∃ before, candidate.target identities existing = some before ∧ known = some (candidate.renewed before) := by
    intro candidate hcandidate known hknown
    rw [hjoined.target_after hdistinct hunclaimed hcandidate] at hknown
    obtain ⟨before, hbefore, hsame⟩ := Option.map_eq_some_iff.mp hknown
    exact ⟨before, hbefore, hsame.symm⟩
  have htimely : ∀ candidate ∈ candidates, ∀ known,
      candidate.target identities (outcome.after existing) = some known → candidate.Timely known := by
    intro candidate hcandidate known hknown
    obtain ⟨before, hbefore, rfl⟩ := htarget candidate hcandidate known hknown
    exact renewed_timely candidate (hjoined.timely candidate hcandidate before hbefore)
  obtain ⟨outcome', houtcome'⟩ := exists_reconcile ids' hdistinct htimely
  have hjoined' := reconcile_joined hdistinct houtcome'
  refine ⟨outcome', houtcome', ?_, ?_⟩
  · apply hjoined'.silent
    intro candidate hcandidate known hknown
    obtain ⟨before, -, rfl⟩ := htarget candidate hcandidate known hknown
    exact renewed_condition
  · constructor
    · intro hidle candidate hcandidate hnew
      have hknown : candidate.target identities (outcome.after existing) = some (some (candidate.renewed none)) := by
        rw [hjoined.target_after hdistinct hunclaimed hcandidate, hnew]
        rfl
      refine (renewed_again none).mp ?_ rfl
      by_contra hdiffers
      have hwritten := hjoined'.written candidate hcandidate _ hknown
        (fun hsame => hdiffers (Option.some.inj hsame).symm)
      rw [hidle] at hwritten
      cases hwritten
    · intro hseen
      apply hjoined'.idle
      intro candidate hcandidate known hknown
      obtain ⟨before, hbefore, rfl⟩ := htarget candidate hcandidate known hknown
      have hsame : candidate.renewed (some (candidate.renewed before)) = candidate.renewed before :=
        (renewed_again before).mpr (fun hnone => hseen candidate hcandidate (hnone ▸ hbefore))
      rw [hsame]

end Again

/-- What a person has set: the name is here only where it is not the device's own. -/
structure UserMetadata where
  name : Option String
  aliases : List String
  spaces : List SpaceId
  deriving DecidableEq

def DeviceRecord.metadata (renamed : DeviceId → Bool) (record : DeviceRecord) : UserMetadata :=
  ⟨if renamed record.snapshot.id then some record.snapshot.name else none, record.aliases, record.spaces⟩

/-- The candidate is no identity collision, and none of its times is before its record was first seen. -/
def DiscoveryCandidate.Applicable (identities : DeviceIdentities) (existing : DeviceTable)
    (candidate : DiscoveryCandidate) : Prop :=
  candidate.identified identities = true ∧ ∀ record ∈ existing.rows, record.nativeKey = candidate.nativeKey →
    record.snapshot.id = candidate.snapshot.id ∧ candidate.Timely (some record)

structure StableReconciliation (identities : DeviceIdentities) (renamed : DeviceId → Bool) (existing : DeviceTable)
    (candidates : List DiscoveryCandidate) (outcome : ReconciliationOutcome) : Prop where
  kept : ∀ candidate ∈ candidates, ∀ record ∈ existing.rows, record.nativeKey = candidate.nativeKey →
    ∃ kept, (outcome.after existing).find record.snapshot.id = some kept ∧ kept.nativeKey = record.nativeKey ∧
      kept.metadata renamed = record.metadata renamed
  applied : ∀ candidate ∈ candidates, candidate.Applicable identities existing →
    ∃ record, (outcome.after existing).find candidate.snapshot.id = some record ∧
      record.nativeKey = candidate.nativeKey ∧
      record.snapshot = { candidate.snapshot with name := record.snapshot.name } ∧
      (renamed candidate.snapshot.id = false → record.snapshot.name = candidate.snapshot.name)
  fresh : ∀ candidate ∈ candidates, candidate.Applicable identities existing →
    (∀ record ∈ existing.rows, record.nativeKey ≠ candidate.nativeKey) → existing.find candidate.snapshot.id = none ∧
      ∃ record, (outcome.after existing).find candidate.snapshot.id = some record ∧ record.snapshot = candidate.snapshot
  named : ∀ id, (outcome.after existing).find id ≠ existing.find id → ∃ candidate ∈ candidates,
    candidate.snapshot.id = id ∧ ∀ record, existing.find id = some record → record.nativeKey = candidate.nativeKey
  lifecycle : ∀ id, lifecycleChanges id outcome.events =
    if (conditionOf (existing.find id)).lifecycle = (conditionOf ((outcome.after existing).find id)).lifecycle then []
    else [((conditionOf (existing.find id)).lifecycle, (conditionOf ((outcome.after existing).find id)).lifecycle)]
  idempotent : ∀ ids, ∃ outcome', reconcile identities ids (outcome.after existing) candidates = .ok outcome' ∧
    outcome'.devices = [] ∧ outcome'.events = []

/-- Every candidate agrees with what is known of its device: it is not too early and has the name that a person has
set; a new one has an identifier of its own, and was not discovered after it was observed. -/
structure Agreeable (identities : DeviceIdentities) (renamed : DeviceId → Bool) (existing : DeviceTable)
    (candidates : List DiscoveryCandidate) : Prop where
  timely : ∀ candidate ∈ candidates, ∀ record, candidate.target identities existing = some (some record) →
    candidate.Timely (some record)
  named : ∀ candidate ∈ candidates, ∀ record, candidate.target identities existing = some (some record) →
    renamed record.snapshot.id = true → candidate.snapshot.name = record.snapshot.name
  unclaimed : Unclaimed identities existing candidates
  seen : ∀ candidate ∈ candidates, candidate.target identities existing = some none →
    candidate.discoveredAt ≤ candidate.snapshot.observedAt

section Stability

variable {candidates : List DiscoveryCandidate} {outcome : ReconciliationOutcome} {renamed : DeviceId → Bool}

theorem DiscoveryCandidate.Applicable.target (h : candidate.Applicable identities existing) :
    ∃ known, candidate.target identities existing = some known := by
  cases hindex : nativeIndex existing candidate.nativeKey with
  | none => exact ⟨none, target_of_index_none h.1 hindex⟩
  | some id =>
    obtain ⟨record, hrecord, hkey, hid⟩ := nativeIndex_some hindex
    have hsame := (h.2 record hrecord hkey).1
    rw [← hid, hsame] at hindex
    exact ⟨some record, target_of_index h.1 hindex (Table.find_eq_some.mpr ⟨hrecord, hsame⟩)⟩

theorem target_of_unknown (haccepted : candidate.identified identities = true)
    (hunknown : ∀ record ∈ existing.rows, record.nativeKey ≠ candidate.nativeKey) :
    candidate.target identities existing = some none := by
  apply target_of_index_none haccepted
  by_contra hsome
  obtain ⟨id, hindex⟩ := Option.ne_none_iff_exists'.mp hsome
  obtain ⟨record, hrecord, hkey, -⟩ := nativeIndex_some hindex
  exact hunknown record hrecord hkey

theorem agreeable_of_stable (hdistinct : (candidates.map DiscoveryCandidate.nativeKey).Nodup)
    (hreconcile : reconcile identities ids existing candidates = .ok outcome)
    (h : StableReconciliation identities renamed existing candidates outcome) :
    Agreeable identities renamed existing candidates := by
  have hjoined := reconcile_joined hdistinct hreconcile
  have hunclaimed : Unclaimed identities existing candidates := by
    intro candidate hcandidate htarget
    have hunknown := nativeIndex_none (target_new htarget)
    have happlicable : candidate.Applicable identities existing :=
      ⟨identified_of_target htarget, fun record hrecord hkey => absurd hkey (hunknown record hrecord)⟩
    exact (h.fresh candidate hcandidate happlicable hunknown).1
  refine ⟨fun candidate hcandidate record => hjoined.timely candidate hcandidate (some record), ?_, hunclaimed, ?_⟩
  · intro candidate hcandidate record htarget hrenamed
    obtain ⟨-, hfind, hkey⟩ := target_known htarget
    have hrow := Table.find_eq_some.mp hfind
    obtain ⟨kept, hkept, -, hmetadata⟩ := h.kept candidate hcandidate record hrow.1 hkey
    have hid := (Table.find_eq_some.mp hkept).2
    rw [hrow.2, hjoined.record candidate hcandidate _ htarget] at hkept
    cases hkept
    have hname := congrArg UserMetadata.name hmetadata
    unfold DeviceRecord.metadata at hname
    rw [hid, if_pos hrenamed, if_pos hrenamed, renewed_snapshot] at hname
    exact Option.some.inj hname
  · obtain ⟨outcome', houtcome', hdevices, -⟩ := h.idempotent ids
    obtain ⟨again, hagain, -, hidle⟩ := hjoined.again ids hdistinct hunclaimed
    rw [houtcome'] at hagain
    cases hagain
    exact hidle.mp hdevices

theorem Agreeable.kept (h : Agreeable identities renamed existing candidates)
    (hjoined : CandidatesJoined identities existing candidates outcome) (hrecord : record ∈ existing.rows) :
    ∃ kept, (outcome.after existing).find record.snapshot.id = some kept ∧ kept.nativeKey = record.nativeKey ∧
      kept.metadata renamed = record.metadata renamed := by
  have hfind : existing.find record.snapshot.id = some record := Table.find_eq_some.mpr ⟨hrecord, rfl⟩
  rcases targeted_or_apart identities existing candidates record.snapshot.id with
    ⟨candidate, hcandidate, hid, known, htarget⟩ | hnone
  · rw [← hid] at hfind ⊢
    cases known with
    | none =>
      rw [h.unclaimed candidate hcandidate htarget] at hfind
      cases hfind
    | some before =>
      obtain ⟨-, hbefore, hkey⟩ := target_known htarget
      rw [hbefore] at hfind
      cases hfind
      refine ⟨_, hjoined.record candidate hcandidate _ htarget, (renewed_nativeKey htarget).trans hkey.symm, ?_⟩
      have hid : candidate.snapshot.id = record.snapshot.id := (Table.find_eq_some.mp hbefore).2.symm
      show (⟨if renamed candidate.snapshot.id then some candidate.snapshot.name else none, record.aliases,
        record.spaces⟩ : UserMetadata) = record.metadata renamed
      rw [hid, DeviceRecord.metadata]
      by_cases hrenamed : renamed record.snapshot.id = true
      · rw [h.named candidate hcandidate record htarget hrenamed]
      · rw [if_neg hrenamed, if_neg hrenamed]
  · exact ⟨record, (hjoined.apart _ hnone).1.trans hfind, rfl, rfl⟩

theorem Agreeable.known_find (h : Agreeable identities renamed existing candidates)
    (hcandidate : candidate ∈ candidates)
    (htarget : candidate.target identities existing = some known) : existing.find candidate.snapshot.id = known := by
  cases known with
  | none => exact h.unclaimed candidate hcandidate htarget
  | some record => exact (target_known htarget).2.1

theorem Agreeable.stable (h : Agreeable identities renamed existing candidates)
    (hdistinct : (candidates.map DiscoveryCandidate.nativeKey).Nodup)
    (hreconcile : reconcile identities ids existing candidates = .ok outcome) :
    StableReconciliation identities renamed existing candidates outcome := by
  have hjoined := reconcile_joined hdistinct hreconcile
  constructor
  · exact fun candidate _ record hrecord _ => h.kept hjoined hrecord
  · intro candidate hcandidate happlicable
    obtain ⟨known, htarget⟩ := happlicable.target
    refine ⟨_, hjoined.record candidate hcandidate known htarget, renewed_nativeKey htarget, ?_, fun _ => ?_⟩
    · rw [renewed_snapshot]
    · rw [renewed_snapshot]
  · intro candidate hcandidate happlicable hunknown
    have htarget := target_of_unknown happlicable.1 hunknown
    exact ⟨h.unclaimed candidate hcandidate htarget, _, hjoined.record candidate hcandidate none htarget,
      renewed_snapshot⟩
  · intro id hdiffers
    rcases targeted_or_apart identities existing candidates id with
      ⟨candidate, hcandidate, hid, known, htarget⟩ | hnone
    · refine ⟨candidate, hcandidate, hid, ?_⟩
      intro record hfind
      rw [← hid, h.known_find hcandidate htarget] at hfind
      cases hfind
      exact (target_known htarget).2.2
    · exact absurd (hjoined.apart id hnone).1 hdiffers
  · intro id
    rcases targeted_or_apart identities existing candidates id with
      ⟨candidate, hcandidate, rfl, known, htarget⟩ | hnone
    · have hafter : (conditionOf ((outcome.after existing).find candidate.snapshot.id)).lifecycle = .enrolled := by
        rw [hjoined.record candidate hcandidate known htarget]
        exact congrArg DeviceCondition.lifecycle renewed_condition
      rw [hjoined.lifecycle candidate hcandidate known htarget, hafter, h.known_find hcandidate htarget]
    · obtain ⟨hsame, hunheard⟩ := hjoined.apart id hnone
      rw [hunheard, hsame, if_pos rfl]
  · intro ids'
    obtain ⟨outcome', houtcome', hevents, hidle⟩ := hjoined.again ids' hdistinct h.unclaimed
    exact ⟨outcome', houtcome', hidle.mpr h.seen, hevents⟩

/-- A scan is reconciled in a stable, local and idempotent way exactly when every candidate agrees with what is known
of its device, whichever names were set by a person. -/
theorem reconcile_stable_iff (identities : DeviceIdentities) (ids : FreshIds) (renamed : DeviceId → Bool)
    (existing : DeviceTable) (candidates : List DiscoveryCandidate)
    (hdistinct : (candidates.map DiscoveryCandidate.nativeKey).Nodup) :
    (∃ outcome, reconcile identities ids existing candidates = .ok outcome ∧
        StableReconciliation identities renamed existing candidates outcome) ↔
      Agreeable identities renamed existing candidates := by
  constructor
  · rintro ⟨outcome, hreconcile, hstable⟩
    exact agreeable_of_stable hdistinct hreconcile hstable
  · intro h
    have htimely : ∀ candidate ∈ candidates, ∀ known, candidate.target identities existing = some known →
        candidate.Timely known := by
      intro candidate hcandidate known htarget
      cases known with
      | none => trivial
      | some record => exact h.timely candidate hcandidate record htarget
    obtain ⟨outcome, hreconcile⟩ := exists_reconcile ids hdistinct htimely
    exact ⟨outcome, hreconcile, h.stable hdistinct hreconcile⟩

end Stability

open DeviceWorld (plainIdentities plainIds)

def deskCandidate (native name : String) (discoveredAt observedAt : Instant) : DiscoveryCandidate where
  installationId := 0
  integrationId := 1
  snapshot := ⟨plainIdentities.fromIntegration 1 native, native, name, [], observedAt⟩
  discoveredAt := discoveredAt
  repairs := []

def deskRegistry (name : String) : DeviceTable :=
  ⟨[(deskCandidate "lamp" name 0 0).renewed none], List.nodup_singleton _⟩

theorem desk_distinct (name : String) (discoveredAt observedAt : Instant) :
    ([deskCandidate "lamp" name discoveredAt observedAt].map DiscoveryCandidate.nativeKey).Nodup :=
  List.nodup_singleton _

theorem desk_identified (name : String) (discoveredAt observedAt : Instant) :
    (deskCandidate "lamp" name discoveredAt observedAt).identified plainIdentities = true := by
  show (plainIdentities.fromIntegration 1 "lamp" == plainIdentities.fromIntegration 1 "lamp") = true
  exact beq_self_eq_true _

theorem desk_target (name name' : String) (discoveredAt observedAt : Instant) :
    (deskCandidate "lamp" name discoveredAt observedAt).target plainIdentities (deskRegistry name') =
      some (some ((deskCandidate "lamp" name' 0 0).renewed none)) := by
  have hindex : nativeIndex (deskRegistry name') (1, "lamp") = some (plainIdentities.fromIntegration 1 "lamp") := rfl
  exact target_of_index (desk_identified name discoveredAt observedAt) hindex
    (Table.find_eq_some.mpr ⟨List.mem_singleton_self _, rfl⟩)

/-- The next scan takes back a name that was set; a scan with one early time is lost as a whole, with the fan that it
has found; a lamp that was discovered after it was observed changes again with the same candidate. -/
theorem desk_unstable :
    (¬ ∃ outcome, reconcile plainIdentities (plainIds 0) (deskRegistry "Desk lamp")
        [deskCandidate "lamp" "Lamp" 1 1] = .ok outcome ∧
      StableReconciliation plainIdentities (fun _ => true) (deskRegistry "Desk lamp")
        [deskCandidate "lamp" "Lamp" 1 1] outcome) ∧
    (¬ ∃ outcome, reconcile plainIdentities (plainIds 0) (deskRegistry "Lamp")
        [deskCandidate "lamp" "Lamp" (-1) (-1), deskCandidate "fan" "Fan" 1 1] = .ok outcome ∧
      StableReconciliation plainIdentities (fun _ => false) (deskRegistry "Lamp")
        [deskCandidate "lamp" "Lamp" (-1) (-1), deskCandidate "fan" "Fan" 1 1] outcome) ∧
    ¬ ∃ outcome, reconcile plainIdentities (plainIds 0) .empty [deskCandidate "lamp" "Lamp" 1 0] = .ok outcome ∧
      StableReconciliation plainIdentities (fun _ => false) .empty [deskCandidate "lamp" "Lamp" 1 0] outcome := by
  refine ⟨?_, ?_, ?_⟩
  · rintro ⟨outcome, hreconcile, hstable⟩
    have hagreeable := agreeable_of_stable (desk_distinct _ _ _) hreconcile hstable
    have hname := hagreeable.named _ (List.mem_singleton_self _) _ (desk_target "Lamp" "Desk lamp" 1 1) rfl
    exact absurd hname (by decide)
  · rintro ⟨outcome, hreconcile, hstable⟩
    have hdistinct : ([deskCandidate "lamp" "Lamp" (-1) (-1), deskCandidate "fan" "Fan" 1 1].map
        DiscoveryCandidate.nativeKey).Nodup := by
      show [((1 : IntegrationId), "lamp"), (1, "fan")].Nodup
      decide
    have hagreeable := agreeable_of_stable hdistinct hreconcile hstable
    have htimely := hagreeable.timely _ List.mem_cons_self _ (desk_target "Lamp" "Lamp" (-1) (-1))
    exact absurd htimely.1 (by decide)
  · rintro ⟨outcome, hreconcile, hstable⟩
    have hagreeable := agreeable_of_stable (desk_distinct _ _ _) hreconcile hstable
    have hseen := hagreeable.seen _ (List.mem_singleton_self _)
      (target_of_index_none (desk_identified _ _ _) rfl)
    exact absurd hseen (by decide)

theorem desk_agreeable {renamed : DeviceId → Bool} {name : String}
    (hname : renamed (plainIdentities.fromIntegration 1 "lamp") = true → name = "Desk lamp") :
    Agreeable plainIdentities renamed (deskRegistry "Desk lamp") [deskCandidate "lamp" name 1 1] := by
  have htarget := desk_target name "Desk lamp" 1 1
  refine ⟨?_, ?_, ?_, ?_⟩
  · intro candidate hcandidate record hknown
    rw [List.mem_singleton.mp hcandidate, htarget] at hknown
    rw [List.mem_singleton.mp hcandidate]
    cases hknown
    exact ⟨Int.one_nonneg, Int.one_nonneg⟩
  · intro candidate hcandidate record hknown hrenamed
    rw [List.mem_singleton.mp hcandidate, htarget] at hknown
    rw [List.mem_singleton.mp hcandidate]
    cases hknown
    exact hname hrenamed
  · intro candidate hcandidate hnew
    rw [List.mem_singleton.mp hcandidate, htarget] at hnew
    cases hnew
  · intro candidate hcandidate hnew
    rw [List.mem_singleton.mp hcandidate, htarget] at hnew
    cases hnew

/-- A scan that finds the lamp with the name that a person has set, and one that finds it renamed by its own app. -/
theorem desk_scanned_again :
    (∃ outcome, reconcile plainIdentities (plainIds 0) (deskRegistry "Desk lamp")
        [deskCandidate "lamp" "Desk lamp" 1 1] = .ok outcome ∧
      StableReconciliation plainIdentities (fun _ => true) (deskRegistry "Desk lamp")
        [deskCandidate "lamp" "Desk lamp" 1 1] outcome) ∧
    ∃ outcome, reconcile plainIdentities (plainIds 0) (deskRegistry "Desk lamp")
        [deskCandidate "lamp" "Reading lamp" 1 1] = .ok outcome ∧
      StableReconciliation plainIdentities (fun _ => false) (deskRegistry "Desk lamp")
        [deskCandidate "lamp" "Reading lamp" 1 1] outcome :=
  ⟨(reconcile_stable_iff plainIdentities (plainIds 0) _ (deskRegistry "Desk lamp") _ (desk_distinct _ _ _)).mpr
      (desk_agreeable (fun _ => rfl)),
    (reconcile_stable_iff plainIdentities (plainIds 0) _ (deskRegistry "Desk lamp") _ (desk_distinct _ _ _)).mpr
      (desk_agreeable (fun hrenamed => nomatch hrenamed))⟩

end HomeMagic
