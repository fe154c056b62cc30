import HomeMagic.DeviceOperationsSpec

/-! What a reconciliation makes of each candidate by itself: the native keys of the candidates differ, so each has a
record that no other candidate touches. -/
namespace HomeMagic
open List Table

open Fallible

variable {done candidates : List DiscoveryCandidate} {r' : Reconciliation}

namespace DiscoveryCandidate

def target (identities : DeviceIdentities) (existing : DeviceTable) (candidate : DiscoveryCandidate) :
    Option (Option DeviceRecord) :=
  if candidate.identified identities = false then none
  else
    match nativeIndex existing candidate.nativeKey with
    | none => some none
    | some id => if id = candidate.snapshot.id then (existing.find id).map some else none

def Timely (candidate : DiscoveryCandidate) : Option DeviceRecord → Prop
  | none => True
  | some record => record.timestamps.firstSeen ≤ candidate.discoveredAt ∧
      record.timestamps.firstSeen ≤ candidate.snapshot.observedAt

def renewed (candidate : DiscoveryCandidate) : Option DeviceRecord → DeviceRecord
  | none =>
    { installationId := candidate.installationId
      integrationId := candidate.integrationId
      snapshot := candidate.snapshot
      lifecycle := .enrolled
      availability := ⟨.online, candidate.snapshot.observedAt, none⟩
      timestamps := ⟨min candidate.discoveredAt candidate.snapshot.observedAt, candidate.snapshot.observedAt,
        some candidate.snapshot.observedAt⟩
      aliases := []
      spaces := []
      capabilityDescriptors := descriptors candidate.snapshot }
  | some record =>
    { record with
      snapshot := candidate.snapshot
      lifecycle := .enrolled
      availability := record.availability.transition .online candidate.snapshot.observedAt none
      timestamps := ⟨record.timestamps.firstSeen,
        max (max record.timestamps.lastSeen candidate.discoveredAt) candidate.snapshot.observedAt,
        some (record.timestamps.lastSuccess.elim candidate.snapshot.observedAt
          (fun current => max current candidate.snapshot.observedAt))⟩
      capabilityDescriptors := descriptors candidate.snapshot }

def tell (ids : FreshIds) (candidate : DiscoveryCandidate) (before : DeviceCondition) (events : List DomainEvent) :
    List DomainEvent :=
  let told := if before.lifecycle = .enrolled then events
    else ids.tell events candidate.snapshot.id candidate.snapshot.observedAt
      (.lifecycleChanged before.lifecycle .enrolled (if before.lifecycle = .candidate then .enroll else .rediscover))
  if before.availability = .online then told
  else ids.tell told candidate.snapshot.id candidate.snapshot.observedAt
    (.availabilityChanged before.availability .online none)

end DiscoveryCandidate

variable {identities : DeviceIdentities} {ids : FreshIds} {existing : DeviceTable} {candidate : DiscoveryCandidate}
  {known : Option DeviceRecord} {record : DeviceRecord} {events : List DomainEvent} {r : Reconciliation}

@[simp] theorem renewed_snapshot : (candidate.renewed known).snapshot = candidate.snapshot := by
  cases known <;> rfl

theorem transition_reason (state : AvailabilityState) (at_ : Instant) (reason : Option String) :
    (record.availability.transition state at_ reason).reason = reason := by
  unfold Availability.transition
  split
  next h => exact h.2
  next => rfl

theorem renewed_condition : (candidate.renewed known).condition = enrolledOnline := by
  cases known with
  | none => rfl
  | some record =>
    have hstate : (record.availability.transition .online candidate.snapshot.observedAt none).state = .online :=
      becomes_state record .online candidate.snapshot.observedAt none
    exact congrArg (DeviceCondition.mk .enrolled) hstate

theorem enroll_eq (hid : record.snapshot.id = candidate.snapshot.id)
    (hobserved : record.snapshot.observedAt = candidate.snapshot.observedAt) :
    enroll ids record events = .ok ({ record with lifecycle := .enrolled },
      if record.lifecycle = .enrolled then events
      else ids.tell events candidate.snapshot.id candidate.snapshot.observedAt
        (.lifecycleChanged record.lifecycle .enrolled
          (if record.lifecycle = .candidate then .enroll else .rediscover))) := by
  unfold enroll
  split
  next henrolled => rw [← henrolled]
  next hother =>
    have htransition : record.transition
        (if record.lifecycle = .candidate then LifecycleTrigger.enroll else .rediscover) =
          .ok { record with lifecycle := .enrolled } := by
      unfold DeviceRecord.transition
      cases hcurrent : record.lifecycle
      case enrolled => exact absurd hcurrent hother
      all_goals rfl
    dsimp only
    rw [htransition]
    show Except.ok (_, ids.tell events record.snapshot.id record.snapshot.observedAt _) = _
    rw [hid, hobserved]

theorem recordSeen_eq (record : DeviceRecord) (at_ : Instant) : record.recordSeen at_ =
    if at_ < record.timestamps.firstSeen then .error .domainInvariant
    else .ok { record with
      timestamps := { record.timestamps with lastSeen := max record.timestamps.lastSeen at_ } } := by
  unfold DeviceRecord.recordSeen DeviceTimestamps.recordSeen
  by_cases hearly : at_ < record.timestamps.firstSeen
  · rw [if_pos hearly, if_pos hearly]
  · rw [if_neg hearly, if_neg hearly]

theorem recordSuccess_eq (record : DeviceRecord) (at_ : Instant) : record.recordSuccess at_ =
    if at_ < record.timestamps.firstSeen then .error .domainInvariant
    else .ok { record with timestamps := ⟨record.timestamps.firstSeen, max record.timestamps.lastSeen at_,
      some (record.timestamps.lastSuccess.elim at_ (fun current => max current at_))⟩ } := by
  unfold DeviceRecord.recordSuccess DeviceTimestamps.recordSuccess DeviceTimestamps.recordSeen
  by_cases hearly : at_ < record.timestamps.firstSeen
  · rw [if_pos hearly, if_pos hearly]
    rfl
  · rw [if_neg hearly, if_neg hearly]
    rfl

theorem updateRecord_eq (hid : record.snapshot.id = candidate.snapshot.id) (htimely : candidate.Timely (some record)) :
    updateRecord ids record candidate events =
      .ok (candidate.renewed (some record), candidate.tell ids record.condition events) := by
  obtain ⟨hdiscovered, hobserved⟩ := htimely
  have hsnapshot : ({ candidate.snapshot with id := record.snapshot.id } : DeviceSnapshot) = candidate.snapshot := by
    rw [hid]
  have hreplaced : record.replaceSnapshot candidate.snapshot =
      { record with snapshot := candidate.snapshot, capabilityDescriptors := descriptors candidate.snapshot } := by
    unfold DeviceRecord.replaceSnapshot
    rw [hsnapshot]
  unfold updateRecord
  dsimp only
  rw [hreplaced, recordSeen_eq, if_neg (not_lt.mpr hdiscovered)]
  show (DeviceRecord.recordSuccess _ candidate.snapshot.observedAt >>= _) = _
  rw [recordSuccess_eq, if_neg (not_lt.mpr hobserved)]
  show (enroll ids _ events >>= _) = _
  rw [enroll_eq rfl (rfl : _ = candidate.snapshot.observedAt)]
  show Except.ok (candidate.renewed (some record), if record.availability.state =
    (candidate.renewed (some record)).availability.state then _ else
      tellAvailability ids _ (candidate.renewed (some record)) record.availability.state) = _
  have hstate : (candidate.renewed (some record)).availability.state = .online :=
    congrArg DeviceCondition.availability renewed_condition
  have hreason : (candidate.renewed (some record)).availability.reason = none :=
    transition_reason .online candidate.snapshot.observedAt none
  unfold tellAvailability
  rw [hstate, hreason, renewed_snapshot]
  rfl

theorem updateRecord_timely {updated : DeviceRecord × List DomainEvent}
    (h : updateRecord ids record candidate events = .ok updated) : candidate.Timely (some record) := by
  unfold updateRecord at h
  obtain ⟨seen, hseen, h⟩ := bind_inv h
  obtain ⟨successful, hsuccess, -⟩ := bind_inv h
  rw [recordSeen_eq] at hseen
  split at hseen
  · cases hseen
  next hdiscovered =>
    cases hseen
    rw [recordSuccess_eq] at hsuccess
    split at hsuccess
    · cases hsuccess
    next hobserved => exact ⟨not_lt.mp hdiscovered, not_lt.mp hobserved⟩

theorem enrollCandidate_eq : enrollCandidate ids candidate events =
    .ok (candidate.renewed none, candidate.tell ids (conditionOf none) events) := by
  have hfirst : ¬ candidate.snapshot.observedAt < min candidate.discoveredAt candidate.snapshot.observedAt :=
    not_lt.mpr (min_le_right _ _)
  have hlast : max (min candidate.discoveredAt candidate.snapshot.observedAt) candidate.snapshot.observedAt =
      candidate.snapshot.observedAt := max_eq_right (min_le_right _ _)
  let first := DeviceRecord.candidate candidate.installationId candidate.integrationId candidate.snapshot
    (min candidate.discoveredAt candidate.snapshot.observedAt)
  have hsuccess : DeviceRecord.recordSuccess { first with lifecycle := .enrolled } candidate.snapshot.observedAt =
      .ok { first with
        lifecycle := .enrolled
        timestamps :=
          ⟨first.timestamps.firstSeen, candidate.snapshot.observedAt, some candidate.snapshot.observedAt⟩ } := by
    rw [recordSuccess_eq]
    refine (if_neg hfirst).trans ?_
    exact congrArg (fun last => Except.ok { first with
      lifecycle := .enrolled
      timestamps := ⟨first.timestamps.firstSeen, last, some candidate.snapshot.observedAt⟩ }) hlast
  unfold enrollCandidate
  show (DeviceRecord.recordSuccess { first with lifecycle := .enrolled } candidate.snapshot.observedAt >>= _) = _
  rw [hsuccess]
  rfl

theorem identified_of_target (h : candidate.target identities existing = some known) :
    candidate.identified identities = true := by
  unfold DiscoveryCandidate.target at h
  split at h
  · cases h
  next haccepted => exact Bool.not_eq_false _ ▸ haccepted

theorem target_new (h : candidate.target identities existing = some none) :
    nativeIndex existing candidate.nativeKey = none := by
  unfold DiscoveryCandidate.target at h
  split at h
  · cases h
  · split at h
    next hindex => exact hindex
    next id hindex =>
      split at h
      · obtain ⟨record, -, hrecord⟩ := Option.map_eq_some_iff.mp h
        cases hrecord
      · cases h

theorem target_known (h : candidate.target identities existing = some (some record)) :
    nativeIndex existing candidate.nativeKey = some candidate.snapshot.id ∧
      existing.find candidate.snapshot.id = some record ∧ record.nativeKey = candidate.nativeKey := by
  unfold DiscoveryCandidate.target at h
  split at h
  · cases h
  · split at h
    · cases h
    next id hindex =>
      split at h
      next hid =>
        obtain ⟨found, hfound, hrecord⟩ := Option.map_eq_some_iff.mp h
        cases hrecord
        subst hid
        refine ⟨hindex, hfound, ?_⟩
        obtain ⟨indexed, hmem, hkey, hsame⟩ := nativeIndex_some hindex
        rw [← hkey, eq_of_key (find_eq_some.mp hfound).1 hmem
          ((find_eq_some.mp hfound).2.trans hsame.symm)]
      next => cases h

theorem target_of_index_none (haccepted : candidate.identified identities = true)
    (hindex : nativeIndex existing candidate.nativeKey = none) : candidate.target identities existing = some none := by
  unfold DiscoveryCandidate.target
  rw [if_neg (fun hfalse => Bool.noConfusion (haccepted.symm.trans hfalse)), hindex]

theorem target_of_index (haccepted : candidate.identified identities = true)
    (hindex : nativeIndex existing candidate.nativeKey = some candidate.snapshot.id)
    (hfind : existing.find candidate.snapshot.id = some record) :
    candidate.target identities existing = some (some record) := by
  unfold DiscoveryCandidate.target
  rw [if_neg (fun hfalse => Bool.noConfusion (haccepted.symm.trans hfalse)), hindex]
  show (if candidate.snapshot.id = candidate.snapshot.id then _ else none) = _
  rw [if_pos rfl, hfind]
  rfl

theorem renewed_nativeKey (h : candidate.target identities existing = some known) :
    (candidate.renewed known).nativeKey = candidate.nativeKey := by
  cases known with
  | none => rfl
  | some record =>
    have hintegration : record.integrationId = candidate.integrationId := congrArg Prod.fst (target_known h).2.2
    show (record.integrationId, candidate.snapshot.nativeId) = candidate.nativeKey
    rw [hintegration]
    rfl

theorem nativeKey_of_id {other : DiscoveryCandidate} (hidentified : candidate.identified identities = true)
    (hother : other.identified identities = true) (hid : candidate.snapshot.id = other.snapshot.id) :
    candidate.nativeKey = other.nativeKey := by
  have hexpected := (beq_iff_eq.mp hidentified).symm.trans (hid.trans (beq_iff_eq.mp hother))
  have hparts := identities.injective hexpected
  exact Prod.ext hparts.1 hparts.2

theorem targeted_or_apart (identities : DeviceIdentities) (existing : DeviceTable)
    (candidates : List DiscoveryCandidate) (id : DeviceId) :
    (∃ candidate ∈ candidates, candidate.snapshot.id = id ∧
      ∃ known, candidate.target identities existing = some known) ∨
    ∀ candidate ∈ candidates, candidate.snapshot.id = id → candidate.target identities existing = none := by
  by_cases hown : ∃ candidate ∈ candidates, candidate.snapshot.id = id ∧
      ∃ known, candidate.target identities existing = some known
  · exact Or.inl hown
  · refine Or.inr fun candidate hcandidate hid => ?_
    by_contra hsome
    exact hown ⟨candidate, hcandidate, hid, Option.ne_none_iff_exists'.mp hsome⟩

structure Joined (candidate : DiscoveryCandidate) (known : Option DeviceRecord) (r : Reconciliation) : Prop where
  timely : candidate.Timely known
  record : r.records.find candidate.snapshot.id = some (candidate.renewed known)
  changed : r.changed.find candidate.snapshot.id =
    if known = some (candidate.renewed known) then none else some (candidate.renewed known)
  lifecycle : lifecycleChanges candidate.snapshot.id r.events =
    if (conditionOf known).lifecycle = .enrolled then [] else [((conditionOf known).lifecycle, .enrolled)]

structure CandidatesSettled (identities : DeviceIdentities) (existing : DeviceTable) (done : List DiscoveryCandidate)
    (r : Reconciliation) : Prop where
  index : ∀ key, (∀ candidate ∈ done, candidate.nativeKey ≠ key) → r.index key = nativeIndex existing key
  held : ∀ key id, r.index key = some id → r.records.find id ≠ none
  apart : ∀ id, (∀ candidate ∈ done, candidate.snapshot.id = id → candidate.target identities existing = none) →
    r.records.find id = existing.find id ∧ r.changed.find id = none ∧ lifecycleChanges id r.events = []
  each : ∀ candidate ∈ done, ∀ known, candidate.target identities existing = some known → Joined candidate known r
  silent : (∀ candidate ∈ done, ∀ known, candidate.target identities existing = some known →
    conditionOf known = enrolledOnline) → r.events = []

theorem CandidatesSettled.start :
    CandidatesSettled identities existing [] ⟨existing, nativeIndex existing, .empty, [], [], 0⟩ where
  index := fun _ _ => rfl
  held := by
    intro key id hindex hnone
    obtain ⟨record, hrecord, -, hid⟩ := nativeIndex_some hindex
    exact find_eq_none.mp hnone record hrecord hid
  apart := fun _ _ => ⟨rfl, rfl, rfl⟩
  each := fun _ h => nomatch h
  silent := fun _ => rfl

theorem reconcileCandidate_collision (ids : FreshIds) (hr : CandidatesSettled identities existing done r)
    (hnew : ∀ other ∈ done, other.nativeKey ≠ candidate.nativeKey)
    (htarget : candidate.target identities existing = none) :
    ∃ repairs, reconcileCandidate identities ids r candidate = .ok { r with repairs := repairs } := by
  unfold reconcileCandidate
  dsimp only
  split
  · exact ⟨_, rfl⟩
  next hexpected =>
    have haccepted : candidate.identified identities = true := beq_iff_eq.mpr (Classical.not_not.mp hexpected)
    rw [hr.index _ hnew]
    cases hindex : nativeIndex existing candidate.nativeKey with
    | none =>
      rw [target_of_index_none haccepted hindex] at htarget
      cases htarget
    | some id =>
      obtain ⟨record, hrecord⟩ := Option.ne_none_iff_exists'.mp (hr.held candidate.nativeKey id
        ((hr.index _ hnew).trans hindex))
      dsimp only
      rw [hrecord]
      dsimp only
      rw [(find_eq_some.mp hrecord).2]
      by_cases hid : id = candidate.snapshot.id
      · subst hid
        obtain ⟨indexed, hmem, -, hsame⟩ := nativeIndex_some hindex
        rw [target_of_index haccepted hindex (find_eq_some.mpr ⟨hmem, hsame⟩)] at htarget
        cases htarget
      · rw [if_pos hid]
        exact ⟨_, rfl⟩

def Reconciliation.join (ids : FreshIds) (r : Reconciliation) (candidate : DiscoveryCandidate)
    (known : Option DeviceRecord) : Reconciliation :=
  { records := r.records.upsert (candidate.renewed known)
    index := if known = none then Function.update r.index candidate.nativeKey (some candidate.snapshot.id) else r.index
    changed := if known = some (candidate.renewed known) then r.changed else r.changed.upsert (candidate.renewed known)
    events := candidate.tell ids (conditionOf known) r.events
    repairs := r.repairs ++ candidate.repairs
    accepted := r.accepted + 1 }

theorem CandidatesSettled.before (hr : CandidatesSettled identities existing done r)
    (hnew : ∀ other ∈ done, other.nativeKey ≠ candidate.nativeKey)
    (htarget : candidate.target identities existing = some known) :
    r.index candidate.nativeKey = nativeIndex existing candidate.nativeKey ∧
      r.records.find candidate.snapshot.id = existing.find candidate.snapshot.id ∧
      r.changed.find candidate.snapshot.id = none ∧ lifecycleChanges candidate.snapshot.id r.events = [] := by
  refine ⟨hr.index _ hnew, hr.apart _ ?_⟩
  intro other hother hid
  cases hotherTarget : other.target identities existing with
  | none => rfl
  | some otherKnown =>
    have hsame := nativeKey_of_id (identified_of_target hotherTarget) (identified_of_target htarget) hid
    exact absurd hsame (hnew other hother)

theorem reconcileCandidate_join (hr : CandidatesSettled identities existing done r)
    (hnew : ∀ other ∈ done, other.nativeKey ≠ candidate.nativeKey)
    (htarget : candidate.target identities existing = some known) (htimely : candidate.Timely known) :
    reconcileCandidate identities ids r candidate = .ok (r.join ids candidate known) := by
  obtain ⟨hindex, hrecords, -, -⟩ := hr.before hnew htarget
  have hexpected : ¬ candidate.snapshot.id ≠
      identities.fromIntegration candidate.integrationId candidate.snapshot.nativeId :=
    not_not.mpr (beq_iff_eq.mp (identified_of_target htarget))
  unfold reconcileCandidate
  dsimp only
  rw [if_neg hexpected, hindex]
  cases known with
  | none =>
    rw [target_new htarget]
    dsimp only
    rw [enrollCandidate_eq]
    rfl
  | some record =>
    obtain ⟨hfound, hfind, -⟩ := target_known htarget
    rw [hfound]
    dsimp only
    rw [hrecords, hfind]
    have hid := (find_eq_some.mp hfind).2
    dsimp only
    rw [if_neg (not_not.mpr hid), updateRecord_eq hid htimely]
    show Except.ok _ = Except.ok _
    unfold Reconciliation.join
    simp only [Option.some.injEq, eq_comm, reduceCtorEq, if_false]
    rfl

theorem reconcileCandidate_timely (hr : CandidatesSettled identities existing done r)
    (hnew : ∀ other ∈ done, other.nativeKey ≠ candidate.nativeKey)
    (htarget : candidate.target identities existing = some known)
    (h : reconcileCandidate identities ids r candidate = .ok r') : candidate.Timely known := by
  cases known with
  | none => trivial
  | some record =>
    obtain ⟨hindex, hrecords, -, -⟩ := hr.before hnew htarget
    obtain ⟨hfound, hfind, -⟩ := target_known htarget
    have hid := (find_eq_some.mp hfind).2
    unfold reconcileCandidate at h
    dsimp only at h
    rw [if_neg (not_not.mpr (beq_iff_eq.mp (identified_of_target htarget))), hindex, hfound] at h
    dsimp only at h
    rw [hrecords, hfind] at h
    dsimp only at h
    rw [if_neg (not_not.mpr hid)] at h
    obtain ⟨updated, hupdated, -⟩ := bind_inv h
    exact updateRecord_timely hupdated

theorem lifecycleChanges_tell (before : DeviceCondition) :
    lifecycleChanges candidate.snapshot.id (candidate.tell ids before events) =
      lifecycleChanges candidate.snapshot.id events ++
        if before.lifecycle = .enrolled then [] else [(before.lifecycle, .enrolled)] := by
  unfold DiscoveryCandidate.tell
  dsimp only
  have hfirst : ∀ trigger, lifecycleChanges candidate.snapshot.id (if before.lifecycle = .enrolled then events
      else ids.tell events candidate.snapshot.id candidate.snapshot.observedAt
        (.lifecycleChanged before.lifecycle .enrolled trigger)) = lifecycleChanges candidate.snapshot.id events ++
          if before.lifecycle = .enrolled then [] else [(before.lifecycle, .enrolled)] := by
    intro trigger
    by_cases henrolled : before.lifecycle = .enrolled
    · rw [if_pos henrolled, if_pos henrolled, append_nil]
    · rw [if_neg henrolled, if_neg henrolled]
      exact changesOf_tell
  by_cases honline : before.availability = .online
  · rw [if_pos honline]
    exact hfirst _
  · rw [if_neg honline]
    exact (changesOf_tell.trans (append_nil _)).trans (hfirst _)

theorem lifecycleChanges_tell_other {id : DeviceId} (before : DeviceCondition) (hne : candidate.snapshot.id ≠ id) :
    lifecycleChanges id (candidate.tell ids before events) = lifecycleChanges id events := by
  unfold DiscoveryCandidate.tell
  dsimp only
  have hfirst : ∀ trigger, lifecycleChanges id (if before.lifecycle = .enrolled then events
      else ids.tell events candidate.snapshot.id candidate.snapshot.observedAt
        (.lifecycleChanged before.lifecycle .enrolled trigger)) = lifecycleChanges id events := by
    intro trigger
    split
    · rfl
    · exact changesOf_tell_other hne
  split
  · exact hfirst _
  · exact (changesOf_tell_other hne).trans (hfirst _)

theorem CandidatesSettled.skip {repairs : List RepairRecord} (hr : CandidatesSettled identities existing done r)
    (htarget : candidate.target identities existing = none) :
    CandidatesSettled identities existing (done ++ [candidate]) { r with repairs := repairs } where
  index := fun key hkeys => hr.index key (fun other hother => hkeys other (mem_append_left _ hother))
  held := hr.held
  apart := fun id hnone => hr.apart id (fun other hother => hnone other (mem_append_left _ hother))
  each := by
    intro other hother known hknown
    rcases mem_append.mp hother with hdone | hlast
    · have hjoined := hr.each other hdone known hknown
      exact ⟨hjoined.timely, hjoined.record, hjoined.changed, hjoined.lifecycle⟩
    · rw [mem_singleton.mp hlast, htarget] at hknown
      cases hknown
  silent := fun hquiet => hr.silent (fun other hother => hquiet other (mem_append_left _ hother))

/-- A candidate joins its record and touches no other. -/
theorem CandidatesSettled.join (hr : CandidatesSettled identities existing done r)
    (hnew : ∀ other ∈ done, other.nativeKey ≠ candidate.nativeKey)
    (htarget : candidate.target identities existing = some known) (htimely : candidate.Timely known) :
    CandidatesSettled identities existing (done ++ [candidate]) (r.join ids candidate known) := by
  obtain ⟨hindex, hrecords, hchanged, hlifecycle⟩ := hr.before hnew htarget
  have hid : (candidate.renewed known).snapshot.id = candidate.snapshot.id := by rw [renewed_snapshot]
  have hfind : ∀ id, (r.join ids candidate known).records.find id =
      if candidate.snapshot.id = id then some (candidate.renewed known) else r.records.find id := by
    intro id
    show (r.records.upsert (candidate.renewed known)).find id = _
    rw [find_upsert, hid]
  have hchange : ∀ id, candidate.snapshot.id ≠ id →
      (r.join ids candidate known).changed.find id = r.changed.find id := by
    intro id hne
    show (if known = some (candidate.renewed known) then r.changed
      else r.changed.upsert (candidate.renewed known)).find id = _
    split
    · rfl
    · rw [find_upsert, hid, if_neg hne]
  constructor
  · intro key hkeys
    have hold := hr.index key (fun other hother => hkeys other (mem_append_left _ hother))
    have hne := hkeys candidate (mem_append_right _ (mem_singleton_self _))
    show (if known = none then Function.update r.index candidate.nativeKey (some candidate.snapshot.id)
      else r.index) key = _
    split
    · rw [Function.update_of_ne (Ne.symm hne), hold]
    · exact hold
  · intro key id hentry
    rw [hfind]
    split
    · exact fun h => by cases h
    next hother =>
      change (if known = none then Function.update r.index candidate.nativeKey (some candidate.snapshot.id)
        else r.index) key = some id at hentry
      split at hentry
      · by_cases hkey : key = candidate.nativeKey
        · rw [hkey, Function.update_self] at hentry
          exact absurd (Option.some.inj hentry) hother
        · rw [Function.update_of_ne hkey] at hentry
          exact hr.held key id hentry
      · exact hr.held key id hentry
  · -- a device that no candidate joins
    intro id hnone
    have hne : candidate.snapshot.id ≠ id := by
      intro heq
      have hcollision := hnone candidate (mem_append_right _ (mem_singleton_self _)) heq
      rw [htarget] at hcollision
      cases hcollision
    obtain ⟨hrecord, hunchanged, hunheard⟩ :=
      hr.apart id (fun other hother => hnone other (mem_append_left _ hother))
    refine ⟨?_, (hchange id hne).trans hunchanged, (lifecycleChanges_tell_other _ hne).trans hunheard⟩
    rw [hfind, if_neg hne]
    exact hrecord
  · intro other hother otherKnown hotherTarget
    rcases mem_append.mp hother with hdone | hlast
    · -- a device of its own
      have hjoined := hr.each other hdone otherKnown hotherTarget
      have hne : candidate.snapshot.id ≠ other.snapshot.id := by
        intro heq
        exact hnew other hdone
          (nativeKey_of_id (identified_of_target hotherTarget) (identified_of_target htarget) heq.symm)
      refine ⟨hjoined.timely, ?_, (hchange _ hne).trans hjoined.changed,
        (lifecycleChanges_tell_other _ hne).trans hjoined.lifecycle⟩
      rw [hfind, if_neg hne]
      exact hjoined.record
    · rw [mem_singleton.mp hlast] at hotherTarget ⊢
      rw [htarget] at hotherTarget
      cases hotherTarget
      refine ⟨htimely, (hfind _).trans (if_pos rfl), ?_, ?_⟩
      · show (if known = some (candidate.renewed known) then r.changed
          else r.changed.upsert (candidate.renewed known)).find candidate.snapshot.id = _
        split
        · exact hchanged
        · rw [find_upsert, hid, if_pos rfl]
      · refine (lifecycleChanges_tell _).trans ?_
        rw [hlifecycle, nil_append]
  · intro hquiet
    have hcondition := hquiet candidate (mem_append_right _ (mem_singleton_self _)) known htarget
    show candidate.tell ids (conditionOf known) r.events = []
    rw [hcondition]
    exact hr.silent (fun other hother => hquiet other (mem_append_left _ hother))

theorem CandidatesSettled.step (hr : CandidatesSettled identities existing done r)
    (hnew : ∀ other ∈ done, other.nativeKey ≠ candidate.nativeKey)
    (h : reconcileCandidate identities ids r candidate = .ok r') :
    CandidatesSettled identities existing (done ++ [candidate]) r' := by
  cases htarget : candidate.target identities existing with
  | none =>
    obtain ⟨repairs, hskip⟩ := reconcileCandidate_collision ids hr hnew htarget
    rw [hskip] at h
    cases h
    exact hr.skip htarget
  | some known =>
    have htimely := reconcileCandidate_timely hr hnew htarget h
    rw [reconcileCandidate_join hr hnew htarget htimely] at h
    cases h
    exact hr.join hnew htarget htimely

theorem CandidatesSettled.run (hr : CandidatesSettled identities existing done r)
    (hdistinct : ((done ++ candidates).map DiscoveryCandidate.nativeKey).Nodup)
    (h : candidates.foldlM (reconcileCandidate identities ids) r = .ok r') :
    CandidatesSettled identities existing (done ++ candidates) r' := by
  induction candidates generalizing done r with
  | nil =>
    cases h
    rw [append_nil]
    exact hr
  | cons candidate rest ih =>
    rw [foldlM_cons] at h
    obtain ⟨next, hnext, hrest⟩ := bind_inv h
    have hnew : ∀ other ∈ done, other.nativeKey ≠ candidate.nativeKey := by
      intro other hother
      rw [map_append, map_cons] at hdistinct
      exact (nodup_append.mp hdistinct).2.2 _ (List.mem_map_of_mem hother) _ mem_cons_self
    rw [append_cons] at hdistinct ⊢
    exact ih (hr.step hnew hnext) hdistinct hrest

theorem CandidatesSettled.run_ok (ids : FreshIds) (hr : CandidatesSettled identities existing done r)
    (hdistinct : ((done ++ candidates).map DiscoveryCandidate.nativeKey).Nodup)
    (htimely : ∀ candidate ∈ candidates, ∀ known, candidate.target identities existing = some known →
      candidate.Timely known) :
    ∃ r', candidates.foldlM (reconcileCandidate identities ids) r = .ok r' := by
  induction candidates generalizing done r with
  | nil => exact ⟨r, rfl⟩
  | cons candidate rest ih =>
    have hnew : ∀ other ∈ done, other.nativeKey ≠ candidate.nativeKey := by
      intro other hother
      rw [map_append, map_cons] at hdistinct
      exact (nodup_append.mp hdistinct).2.2 _ (List.mem_map_of_mem hother) _ mem_cons_self
    have hnext : ∃ next, reconcileCandidate identities ids r candidate = .ok next := by
      cases htarget : candidate.target identities existing with
      | none =>
        obtain ⟨repairs, hskip⟩ := reconcileCandidate_collision ids hr hnew htarget
        exact ⟨_, hskip⟩
      | some known =>
        exact ⟨_, reconcileCandidate_join hr hnew htarget (htimely candidate mem_cons_self known htarget)⟩
    obtain ⟨next, hnext⟩ := hnext
    rw [append_cons] at hdistinct
    rw [foldlM_cons]
    exact exists_bind hnext (ih (hr.step hnew hnext) hdistinct
      (fun other hother => htimely other (mem_cons_of_mem _ hother)))

def ReconciliationOutcome.after (outcome : ReconciliationOutcome) (existing : DeviceTable) : DeviceTable :=
  outcome.devices.foldl Table.upsert existing

structure CandidatesJoined (identities : DeviceIdentities) (existing : DeviceTable)
    (candidates : List DiscoveryCandidate) (outcome : ReconciliationOutcome) : Prop where
  timely : ∀ candidate ∈ candidates, ∀ known, candidate.target identities existing = some known →
    candidate.Timely known
  record : ∀ candidate ∈ candidates, ∀ known, candidate.target identities existing = some known →
    (outcome.after existing).find candidate.snapshot.id = some (candidate.renewed known)
  written : ∀ candidate ∈ candidates, ∀ known, candidate.target identities existing = some known →
    known ≠ some (candidate.renewed known) → candidate.renewed known ∈ outcome.devices
  lifecycle : ∀ candidate ∈ candidates, ∀ known, candidate.target identities existing = some known →
    lifecycleChanges candidate.snapshot.id outcome.events =
      if (conditionOf known).lifecycle = .enrolled then [] else [((conditionOf known).lifecycle, .enrolled)]
  apart : ∀ id, (∀ candidate ∈ candidates, candidate.snapshot.id = id → candidate.target identities existing = none) →
    (outcome.after existing).find id = existing.find id ∧ lifecycleChanges id outcome.events = []
  idle : (∀ candidate ∈ candidates, ∀ known, candidate.target identities existing = some known →
    known = some (candidate.renewed known)) → outcome.devices = []
  silent : (∀ candidate ∈ candidates, ∀ known, candidate.target identities existing = some known →
    conditionOf known = enrolledOnline) → outcome.events = []

/-- Every candidate of a successful reconciliation has joined the record it had before. -/
theorem reconcile_joined {outcome : ReconciliationOutcome}
    (hdistinct : (candidates.map DiscoveryCandidate.nativeKey).Nodup)
    (h : reconcile identities ids existing candidates = .ok outcome) :
    CandidatesJoined identities existing candidates outcome := by
  unfold reconcile at h
  obtain ⟨r, hr, h⟩ := bind_inv h
  cases h
  have hsettled : CandidatesSettled identities existing candidates r := CandidatesSettled.start.run hdistinct hr
  have hafter : ∀ id,
      (ReconciliationOutcome.after ⟨inIdOrder r.changed, r.events, r.repairs, r.accepted⟩ existing).find id =
        (r.changed.find id).or (existing.find id) := by
    intro id
    refine find_foldl_upsert.trans ?_
    exact congrArg (fun written : Option DeviceRecord => written.or (existing.find id))
      (lastWritten_inIdOrder r.changed id)
  refine ⟨fun c hc known hk => (hsettled.each c hc known hk).timely, ?_, ?_,
    fun c hc known hk => (hsettled.each c hc known hk).lifecycle, ?_, ?_, hsettled.silent⟩
  · intro candidate hcandidate known htarget
    have hjoined := hsettled.each candidate hcandidate known htarget
    rw [hafter, hjoined.changed]
    split
    next hsame =>
      rw [Option.none_or, ← hsame]
      rw [hsame] at htarget
      exact (target_known htarget).2.1.trans hsame.symm
    next => rfl
  · intro candidate hcandidate known htarget hchanged
    have hfind := (hsettled.each candidate hcandidate known htarget).changed
    rw [if_neg hchanged] at hfind
    exact (perm_insertionSort _ _).mem_iff.mpr (find_eq_some.mp hfind).1
  · intro id hnone
    obtain ⟨-, hunchanged, hunheard⟩ := hsettled.apart id hnone
    refine ⟨?_, hunheard⟩
    rw [hafter, hunchanged]
    rfl
  · intro hsame
    rw [eq_nil_iff_forall_not_mem]
    intro device hdevice
    have hfind : r.changed.find device.snapshot.id = some device :=
      find_eq_some.mpr ⟨(perm_insertionSort _ _).mem_iff.mp hdevice, rfl⟩
    have hnone : r.changed.find device.snapshot.id = none := by
      rcases targeted_or_apart identities existing candidates device.snapshot.id with
        ⟨candidate, hcandidate, hid, known, htarget⟩ | hnone
      · rw [← hid, (hsettled.each candidate hcandidate known htarget).changed,
          if_pos (hsame candidate hcandidate known htarget)]
      · exact (hsettled.apart _ hnone).2.1
    rw [hnone] at hfind
    cases hfind

theorem exists_reconcile (ids : FreshIds) (hdistinct : (candidates.map DiscoveryCandidate.nativeKey).Nodup)
    (htimely : ∀ candidate ∈ candidates, ∀ known, candidate.target identities existing = some known →
      candidate.Timely known) :
    ∃ outcome, reconcile identities ids existing candidates = .ok outcome := by
  obtain ⟨r, hr⟩ := CandidatesSettled.start.run_ok ids hdistinct htimely
  exact exists_bind hr ⟨_, rfl⟩

end HomeMagic
