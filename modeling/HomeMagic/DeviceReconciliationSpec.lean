import HomeMagic.Chronicle
import HomeMagic.DeviceReconciliation

/-! What reconciliation does to each device, and which events tell it. -/
namespace HomeMagic
open List Table

open Fallible Chronicle

structure DeviceCondition where
  lifecycle : DeviceLifecycle
  availability : AvailabilityState
  deriving DecidableEq

def DeviceRecord.condition (record : DeviceRecord) : DeviceCondition := ⟨record.lifecycle, record.availability.state⟩

def conditionOf (record : Option DeviceRecord) : DeviceCondition :=
  (record.map DeviceRecord.condition).getD ⟨.candidate, .unknown⟩

def DomainEventKind.lifecycleChange : DomainEventKind → Option (DeviceLifecycle × DeviceLifecycle)
  | lifecycleChanged from_ to_ _ => some (from_, to_)
  | _ => none

def DomainEventKind.availabilityChange : DomainEventKind → Option (AvailabilityState × AvailabilityState)
  | availabilityChanged from_ to_ _ => some (from_, to_)
  | _ => none

def changesOf {σ : Type} (change : DomainEventKind → Option (σ × σ)) (id : DeviceId) (events : List DomainEvent) :
    List (σ × σ) :=
  events.filterMap (fun event => if event.deviceId = some id then change event.kind else none)

abbrev lifecycleChanges (id : DeviceId) (events : List DomainEvent) : List (DeviceLifecycle × DeviceLifecycle) :=
  changesOf DomainEventKind.lifecycleChange id events

abbrev availabilityChanges (id : DeviceId) (events : List DomainEvent) :
    List (AvailabilityState × AvailabilityState) :=
  changesOf DomainEventKind.availabilityChange id events

def Unheard (id : DeviceId) (events : List DomainEvent) : Prop :=
  lifecycleChanges id events = [] ∧ availabilityChanges id events = []

structure Told (id : DeviceId) (before after : DeviceCondition) (events : List DomainEvent) : Prop where
  lifecycle : Chronicle.Follows before.lifecycle (lifecycleChanges id events) after.lifecycle
  availability : Chronicle.Follows before.availability (availabilityChanges id events) after.availability
  silent : before = after → Unheard id events

section Changes

variable {σ : Type} {change : DomainEventKind → Option (σ × σ)} {id other : DeviceId} {events later : List DomainEvent}
  {ids : FreshIds} {at_ : Instant} {kind : DomainEventKind}

theorem changesOf_append : changesOf change id (events ++ later) =
    changesOf change id events ++ changesOf change id later :=
  filterMap_append

theorem changesOf_tell : changesOf change id (ids.tell events id at_ kind) =
    changesOf change id events ++ (change kind).toList := by
  unfold FreshIds.tell
  rw [changesOf_append]
  congr 1
  unfold changesOf
  rw [filterMap_cons, if_pos rfl]
  cases change kind <;> rfl

theorem changesOf_tell_other (hne : other ≠ id) : changesOf change id (ids.tell events other at_ kind) =
    changesOf change id events := by
  unfold FreshIds.tell
  rw [changesOf_append]
  have hnone : changesOf change id [⟨ids.event events.length, some other, at_, ids.correlation, none, kind⟩] = [] := by
    unfold changesOf
    rw [filterMap_cons, if_neg (fun h => hne (Option.some.inj h))]
    rfl
  rw [hnone, append_nil]

theorem Unheard.told (h : Unheard id events) (condition : DeviceCondition) : Told id condition condition events := by
  refine ⟨?_, ?_, fun _ => h⟩
  · rw [h.1]
    rfl
  · rw [h.2]
    rfl

end Changes

def enrolledOnline : DeviceCondition := ⟨.enrolled, .online⟩

variable {candidate : DiscoveryCandidate} {record record' : DeviceRecord} {identities : DeviceIdentities}
  {events' : List DomainEvent} {existing records : DeviceTable} {r r' : Reconciliation}
  {after before : DeviceCondition} {candidates done : List DiscoveryCandidate} {key : IntegrationId × String}

variable {ids : FreshIds} {events : List DomainEvent}

theorem enroll_ok (h : enroll ids record events = .ok (record', events')) :
    record' = { record with lifecycle := .enrolled } ∧
      (record.lifecycle = .enrolled ∧ events' = events ∨
        record.lifecycle ≠ .enrolled ∧ ∃ trigger, events' = ids.tell events record.snapshot.id
          record.snapshot.observedAt (.lifecycleChanged record.lifecycle .enrolled trigger)) := by
  unfold enroll at h
  split at h
  next henrolled =>
    cases h
    refine ⟨?_, Or.inl ⟨henrolled, rfl⟩⟩
    rw [← henrolled]
  next hother =>
    obtain ⟨enrolled, htransition, h⟩ := bind_inv h
    cases h
    have hlifecycle : record.lifecycle.transition
        (if record.lifecycle = .candidate then LifecycleTrigger.enroll else .rediscover) = some .enrolled := by
      cases hcurrent : record.lifecycle
      case enrolled => exact absurd hcurrent hother
      all_goals rfl
    unfold DeviceRecord.transition at htransition
    rw [hlifecycle] at htransition
    cases htransition
    exact ⟨rfl, Or.inr ⟨hother, _, rfl⟩⟩

structure Adds (id : DeviceId) (before after : DeviceCondition) (events events' : List DomainEvent) : Prop where
  lifecycle : ∃ later, lifecycleChanges id events' = lifecycleChanges id events ++ later ∧
    Chronicle.Follows before.lifecycle later after.lifecycle
  availability : ∃ later, availabilityChanges id events' = availabilityChanges id events ++ later ∧
    Chronicle.Follows before.availability later after.availability
  silent : before = after → events' = events
  others : ∀ other, other ≠ id → lifecycleChanges other events' = lifecycleChanges other events ∧
    availabilityChanges other events' = availabilityChanges other events

variable {id : DeviceId}

theorem Adds.told (h : Adds id before after events events')
    (hunheard : Unheard id events) : Told id before after events' := by
  obtain ⟨later, hlater, hfollows⟩ := h.lifecycle
  obtain ⟨later', hlater', hfollows'⟩ := h.availability
  rw [hunheard.1, nil_append] at hlater
  rw [hunheard.2, nil_append] at hlater'
  exact ⟨hlater ▸ hfollows, hlater' ▸ hfollows', fun hsame => h.silent hsame ▸ hunheard⟩

/-- A lifecycle event and then an availability event, each where the value changes. -/
theorem adds_of_tells (ids : FreshIds) (middle : List DomainEvent)
    (hmiddle : before.lifecycle = after.lifecycle ∧ middle = events ∨ ∃ at_ trigger,
      middle = ids.tell events id at_ (.lifecycleChanged before.lifecycle after.lifecycle trigger))
    (hlast : before.availability = after.availability ∧ events' = middle ∨ ∃ at_ reason,
      events' = ids.tell middle id at_ (.availabilityChanged before.availability after.availability reason))
    (hsilent : before = after → events' = events) : Adds id before after events events' := by
  have hothers : ∀ {σ : Type} {change : DomainEventKind → Option (σ × σ)} (other : DeviceId), other ≠ id →
      changesOf change other events' = changesOf change other events := by
    intro σ change other hne
    have hfirst : changesOf change other middle = changesOf change other events := by
      rcases hmiddle with ⟨-, rfl⟩ | ⟨_, _, rfl⟩
      · rfl
      · exact changesOf_tell_other (Ne.symm hne)
    rw [← hfirst]
    rcases hlast with ⟨-, rfl⟩ | ⟨_, _, rfl⟩
    · rfl
    · exact changesOf_tell_other (Ne.symm hne)
  refine ⟨?_, ?_, hsilent, fun other hne => ⟨hothers other hne, hothers other hne⟩⟩
  · have hkept : lifecycleChanges id events' = lifecycleChanges id middle := by
      rcases hlast with ⟨-, rfl⟩ | ⟨_, _, rfl⟩
      · rfl
      · exact changesOf_tell.trans (append_nil _)
    rw [hkept]
    rcases hmiddle with ⟨hsame, rfl⟩ | ⟨_, _, rfl⟩
    · exact ⟨[], (append_nil _).symm, hsame⟩
    · exact ⟨_, changesOf_tell, rfl, rfl⟩
  · have hkept : availabilityChanges id middle = availabilityChanges id events := by
      rcases hmiddle with ⟨-, rfl⟩ | ⟨_, _, rfl⟩
      · rfl
      · exact changesOf_tell.trans (append_nil _)
    rw [← hkept]
    rcases hlast with ⟨hsame, rfl⟩ | ⟨_, _, rfl⟩
    · exact ⟨[], (append_nil _).symm, hsame⟩
    · exact ⟨_, changesOf_tell, rfl, rfl⟩

theorem recordSeen_ok {at_ : Instant} (h : record.recordSeen at_ = .ok record') :
    ∃ timestamps, record' = { record with timestamps := timestamps } := by
  unfold DeviceRecord.recordSeen at h
  split at h
  · cases h
  · cases h
    exact ⟨_, rfl⟩

theorem recordSuccess_ok {at_ : Instant} (h : record.recordSuccess at_ = .ok record') :
    ∃ timestamps, record' = { record with timestamps := timestamps } := by
  unfold DeviceRecord.recordSuccess at h
  split at h
  · cases h
  · cases h
    exact ⟨_, rfl⟩

@[simp] theorem becomes_state (record : DeviceRecord) (state : AvailabilityState) (at_ : Instant)
    (reason : Option String) : (record.becomes state at_ reason).availability.state = state := by
  unfold DeviceRecord.becomes Availability.transition
  dsimp only
  split
  next h => exact h.1
  next => rfl

structure Refreshed (candidate : DiscoveryCandidate) (record : DeviceRecord) : Prop where
  snapshot : record.snapshot = candidate.snapshot
  integrationId : record.integrationId = candidate.integrationId
  condition : record.condition = enrolledOnline

/-- A refreshed record, with the events that lead from its old condition to the new one. -/
theorem updateRecord_ok {updated : DeviceRecord} (hid : record.snapshot.id = candidate.snapshot.id)
    (hintegration : record.integrationId = candidate.integrationId)
    (h : updateRecord ids record candidate events = .ok (updated, events')) :
    Refreshed candidate updated ∧ Adds candidate.snapshot.id record.condition enrolledOnline events events' := by
  unfold updateRecord at h
  obtain ⟨seen, hseen, h⟩ := bind_inv h
  obtain ⟨successful, hsuccess, h⟩ := bind_inv h
  obtain ⟨⟨enrolled, told⟩, henrolled, h⟩ := bind_inv h
  obtain ⟨timestamps, rfl⟩ := recordSeen_ok hseen
  obtain ⟨timestamps', rfl⟩ := recordSuccess_ok hsuccess
  obtain ⟨rfl, hevents⟩ := enroll_ok henrolled
  cases h
  have hsnapshot : ({ candidate.snapshot with id := record.snapshot.id } : DeviceSnapshot) = candidate.snapshot := by
    rw [hid]
  refine ⟨⟨hsnapshot, hintegration, ?_⟩, ?_⟩
  · unfold DeviceRecord.condition enrolledOnline
    rw [becomes_state]
    rfl
  · apply adds_of_tells ids told
    · rcases hevents with ⟨hsame, htold⟩ | ⟨-, trigger, htold⟩
      · exact Or.inl ⟨hsame, htold⟩
      · exact Or.inr ⟨_, trigger, hid ▸ htold⟩
    · rw [becomes_state]
      by_cases hsame : record.availability.state = .online
      · rw [if_pos hsame]
        exact Or.inl ⟨hsame, rfl⟩
      · rw [if_neg hsame]
        unfold tellAvailability
        rw [becomes_state]
        rw [← hid]
        exact Or.inr ⟨_, _, rfl⟩
    · intro hcondition
      have hlifecycle : record.lifecycle = .enrolled := congrArg DeviceCondition.lifecycle hcondition
      have havailability : record.availability.state = .online := congrArg DeviceCondition.availability hcondition
      rw [becomes_state, if_pos havailability]
      rcases hevents with ⟨-, htold⟩ | ⟨hother, -⟩
      · exact htold
      · exact absurd hlifecycle hother

theorem enrollCandidate_ok (h : enrollCandidate ids candidate events = .ok (record, events')) :
    Refreshed candidate record ∧ Adds candidate.snapshot.id (conditionOf none) enrolledOnline events events' := by
  unfold enrollCandidate at h
  obtain ⟨enrolled, henrolled, h⟩ := bind_inv h
  obtain ⟨successful, hsuccess, h⟩ := bind_inv h
  cases henrolled
  obtain ⟨timestamps, rfl⟩ := recordSuccess_ok hsuccess
  cases h
  refine ⟨⟨rfl, rfl, rfl⟩, ?_⟩
  exact adds_of_tells ids _ (Or.inr ⟨_, _, rfl⟩) (Or.inr ⟨_, _, rfl⟩) (fun h => nomatch h)

def Identified (identities : DeviceIdentities) (records : DeviceTable) : Prop :=
  ∀ record ∈ records.rows,
    identities.fromIntegration record.integrationId record.snapshot.nativeId = record.snapshot.id

def DiscoveryCandidate.identified (identities : DeviceIdentities) (candidate : DiscoveryCandidate) : Bool :=
  candidate.snapshot.id == identities.fromIntegration candidate.integrationId candidate.snapshot.nativeId

theorem nativeIndex_some (h : nativeIndex records key = some id) :
    ∃ record ∈ records.rows, record.nativeKey = key ∧ record.snapshot.id = id := by
  have hmem := List.max?_mem h
  obtain ⟨record, hrecord, hid⟩ := List.mem_map.mp hmem
  obtain ⟨hrow, hkey⟩ := List.mem_filter.mp hrecord
  exact ⟨record, hrow, of_decide_eq_true hkey, hid⟩

theorem nativeIndex_none (h : nativeIndex records key = none) : ∀ record ∈ records.rows, record.nativeKey ≠ key := by
  intro record hrecord hkey
  have hempty := List.max?_eq_none_iff.mp h
  rw [map_eq_nil_iff, filter_eq_nil_iff] at hempty
  exact hempty record hrecord (decide_eq_true hkey)

structure Indexed (index : IntegrationId × String → Option DeviceId) (records : DeviceTable) : Prop where
  found : ∀ {key id}, index key = some id → ∃ record ∈ records.rows, record.nativeKey = key ∧ record.snapshot.id = id
  missing : ∀ {key}, index key = none → ∀ record ∈ records.rows, record.nativeKey ≠ key

theorem indexed_nativeIndex (records : DeviceTable) : Indexed (nativeIndex records) records :=
  ⟨nativeIndex_some, nativeIndex_none⟩

theorem Refreshed.nativeKey (h : Refreshed candidate record) :
    record.nativeKey = candidate.nativeKey := by
  unfold DeviceRecord.nativeKey DiscoveryCandidate.nativeKey
  rw [h.integrationId, h.snapshot]

theorem Indexed.upsert {index index' : IntegrationId × String → Option DeviceId} (h : Indexed index records)
    (hidentified : Identified identities records) (haccepted : candidate.identified identities = true)
    (hrefreshed : Refreshed candidate record) (hown : index' candidate.nativeKey = some candidate.snapshot.id)
    (hothers : ∀ key, key ≠ candidate.nativeKey → index' key = index key) :
    Indexed index' (records.upsert record) := by
  have hid : record.snapshot.id = candidate.snapshot.id := by rw [hrefreshed.snapshot]
  constructor
  · intro key id hindex
    by_cases hkey : key = candidate.nativeKey
    · subst hkey
      rw [hown] at hindex
      cases hindex
      exact ⟨record, mem_upsert.mpr (Or.inl rfl), hrefreshed.nativeKey, hid⟩
    · rw [hothers key hkey] at hindex
      obtain ⟨row, hrow, hrowkey, hrowid⟩ := h.found hindex
      refine ⟨row, mem_upsert.mpr (Or.inr ⟨hrow, ?_⟩), hrowkey, hrowid⟩
      intro hsame
      have hexpected := (hidentified row hrow).trans (hsame.trans (hid.trans (beq_iff_eq.mp haccepted)))
      have hparts := identities.injective hexpected
      exact hkey (hrowkey.symm.trans (Prod.ext hparts.1 hparts.2))
  · intro key hindex row hrow
    by_cases hkey : key = candidate.nativeKey
    · subst hkey
      rw [hown] at hindex
      cases hindex
    · rw [hothers key hkey] at hindex
      rcases mem_upsert.mp hrow with rfl | ⟨hold, -⟩
      · rw [hrefreshed.nativeKey]
        exact Ne.symm hkey
      · exact h.missing hindex row hold

/-- What one candidate makes of the records: it is left out, or it refreshes the record of its device,
or the device is new. -/
theorem reconcileCandidate_cases (hidentified : Identified identities r.records)
    (hindexed : Indexed r.index r.records) (h : reconcileCandidate identities ids r candidate = .ok r') :
    candidate.identified identities = false ∧ r'.records = r.records ∧ r'.index = r.index ∧
      r'.changed = r.changed ∧ r'.events = r.events ∨
    candidate.identified identities = true ∧ ∃ record, Refreshed candidate record ∧
      r'.records = r.records.upsert record ∧
      (r'.index candidate.nativeKey = some candidate.snapshot.id ∧
        ∀ key, key ≠ candidate.nativeKey → r'.index key = r.index key) ∧
      Adds candidate.snapshot.id (conditionOf (r.records.find candidate.snapshot.id)) enrolledOnline r.events r'.events ∧
      (r'.changed = r.changed.upsert record ∨
        r'.changed = r.changed ∧ r.records.find candidate.snapshot.id = some record) := by
  unfold reconcileCandidate at h
  dsimp only at h
  split at h
  next hcollision =>
    cases h
    exact Or.inl ⟨by simpa [DiscoveryCandidate.identified] using hcollision, rfl, rfl, rfl, rfl⟩
  next hexpected =>
    have hid := Classical.not_not.mp hexpected
    have haccepted : candidate.identified identities = true := by
      simpa [DiscoveryCandidate.identified] using hid
    refine Or.inr ⟨haccepted, ?_⟩
    split at h
    next id hindex =>
      obtain ⟨indexed, hmem, hkey, rfl⟩ := hindexed.found hindex
      have hfind : r.records.find indexed.snapshot.id = some indexed := find_eq_some.mpr ⟨hmem, rfl⟩
      have hkeys := Prod.mk.inj hkey
      have hsame : indexed.snapshot.id = candidate.snapshot.id := by
        rw [hid, ← hidentified indexed hmem, hkeys.1, hkeys.2]
      rw [hfind] at h
      dsimp only at h
      rw [if_neg (fun hne => hne hsame)] at h
      obtain ⟨⟨updated, events⟩, hupdated, h⟩ := bind_inv h
      cases h
      obtain ⟨hrefreshed, hadds⟩ := updateRecord_ok hsame hkeys.1 hupdated
      rw [hsame] at hfind hindex
      refine ⟨updated, hrefreshed, rfl, ⟨hindex, fun _ _ => rfl⟩, ?_, ?_⟩
      · rw [hfind]
        exact hadds
      · by_cases hunchanged : updated = indexed
        · exact Or.inr ⟨if_pos hunchanged, by rw [hfind, hunchanged]⟩
        · exact Or.inl (if_neg hunchanged)
    next hindex =>
      have hnone : r.records.find candidate.snapshot.id = none := by
        rw [find_eq_none]
        intro record hrecord heq
        have hkey := identities.injective ((hidentified record hrecord).trans (heq.trans hid))
        exact hindexed.missing hindex record hrecord (Prod.ext hkey.1 hkey.2)
      obtain ⟨⟨record, events⟩, henrolled, h⟩ := bind_inv h
      cases h
      obtain ⟨hrefreshed, hadds⟩ := enrollCandidate_ok henrolled
      refine ⟨record, hrefreshed, rfl, ⟨?_, fun key hne => Function.update_of_ne hne _ _⟩, ?_, Or.inl rfl⟩
      · show Function.update r.index candidate.nativeKey (some record.snapshot.id) candidate.nativeKey = _
        rw [Function.update_self, hrefreshed.snapshot]
      · rw [hnone]
        exact hadds

def acceptedCandidates (identities : DeviceIdentities) (id : DeviceId) (candidates : List DiscoveryCandidate) :
    List DiscoveryCandidate :=
  candidates.filter (fun candidate => candidate.identified identities && candidate.snapshot.id == id)

theorem acceptedCandidates_concat : acceptedCandidates identities id (candidates ++ [candidate]) =
      acceptedCandidates identities id candidates ++
        if candidate.identified identities && candidate.snapshot.id == id then [candidate] else [] := by
  unfold acceptedCandidates
  rw [filter_append, filter_singleton]
  cases candidate.identified identities && candidate.snapshot.id == id <;> rfl

structure Reconciled (identities : DeviceIdentities) (existing : DeviceTable) (done : List DiscoveryCandidate)
    (r : Reconciliation) : Prop where
  identified : Identified identities r.records
  indexed : Indexed r.index r.records
  merged : ∀ id, r.records.find id = (r.changed.find id).or (existing.find id)
  lifecycle : ∀ id, Chronicle.Follows (conditionOf (existing.find id)).lifecycle (lifecycleChanges id r.events)
    (conditionOf (r.records.find id)).lifecycle
  availability : ∀ id, Chronicle.Follows (conditionOf (existing.find id)).availability (availabilityChanges id r.events)
    (conditionOf (r.records.find id)).availability
  quiet : ∀ id, conditionOf (existing.find id) = conditionOf (r.records.find id) → Unheard id r.events
  settled : ∀ id record, r.changed.find id = some record → record.condition = enrolledOnline
  snapshot : ∀ id, (r.records.find id).map DeviceRecord.snapshot =
    ((acceptedCandidates identities id done).getLast?.map DiscoveryCandidate.snapshot).or
      ((existing.find id).map DeviceRecord.snapshot)

theorem Reconciled.start (hidentified : Identified identities existing) :
    Reconciled identities existing [] ⟨existing, nativeIndex existing, .empty, [], [], 0⟩ where
  identified := hidentified
  indexed := indexed_nativeIndex existing
  merged := fun _ => rfl
  lifecycle := fun _ => rfl
  availability := fun _ => rfl
  quiet := fun _ _ => ⟨rfl, rfl⟩
  settled := fun _ _ h => nomatch h
  snapshot := fun _ => rfl

/-- One candidate of the loop. -/
theorem Reconciled.step {ids : FreshIds} (hr : Reconciled identities existing done r)
    (h : reconcileCandidate identities ids r candidate = .ok r') :
    Reconciled identities existing (done ++ [candidate]) r' := by
  rcases reconcileCandidate_cases hr.identified hr.indexed h with ⟨hout, hrecords, hindex, hchanged, hevents⟩ |
    ⟨haccepted, record, hrefreshed, hrecords, ⟨hown, hothers⟩, hadds, hchanged⟩
  · -- left out: nothing changes
    refine ⟨hrecords ▸ hr.identified, ?_, ?_, ?_, ?_, ?_, ?_, ?_⟩
    · rw [hrecords, hindex]
      exact hr.indexed
    · rw [hrecords, hchanged]
      exact hr.merged
    · rw [hrecords, hevents]
      exact hr.lifecycle
    · rw [hrecords, hevents]
      exact hr.availability
    · rw [hrecords, hevents]
      exact hr.quiet
    · rw [hchanged]
      exact hr.settled
    · intro id
      rw [hrecords, hr.snapshot id, acceptedCandidates_concat, hout]
      simp
  · have hid : record.snapshot.id = candidate.snapshot.id := by rw [hrefreshed.snapshot]
    have hfind : ∀ id, r'.records.find id = if candidate.snapshot.id = id then some record else r.records.find id := by
      intro id
      rw [hrecords, find_upsert, hid]
    have hcondition : ∀ id, conditionOf (r'.records.find id) =
        if candidate.snapshot.id = id then enrolledOnline else conditionOf (r.records.find id) := by
      intro id
      rw [hfind]
      split
      · exact hrefreshed.condition
      · rfl
    refine ⟨?_, ?_, ?_, ?_, ?_, ?_, ?_, ?_⟩
    · intro row hrow
      rw [hrecords] at hrow
      rcases mem_upsert.mp hrow with rfl | ⟨hold, -⟩
      · rw [hrefreshed.integrationId, hrefreshed.snapshot]
        exact (beq_iff_eq.mp haccepted).symm
      · exact hr.identified row hold
    · rw [hrecords]
      exact hr.indexed.upsert hr.identified haccepted hrefreshed hown hothers
    · intro id
      rw [hfind]
      rcases hchanged with hchanged | ⟨hchanged, hsame⟩
      · rw [hchanged, find_upsert, hid]
        split
        · rfl
        · exact hr.merged id
      · rw [hchanged, ← hr.merged id]
        split
        next heq => rw [← heq, hsame]
        next => rfl
    · intro id
      rw [hcondition]
      split
      next heq =>
        obtain ⟨later, hlater, hfollows⟩ := hadds.lifecycle
        rw [← heq, hlater]
        exact (hr.lifecycle _).append hfollows
      next hne =>
        rw [(hadds.others id (Ne.symm hne)).1]
        exact hr.lifecycle id
    · intro id
      rw [hcondition]
      split
      next heq =>
        obtain ⟨later, hlater, hfollows⟩ := hadds.availability
        rw [← heq, hlater]
        exact (hr.availability _).append hfollows
      next hne =>
        rw [(hadds.others id (Ne.symm hne)).2]
        exact hr.availability id
    · intro id hsame
      rw [hcondition] at hsame
      split at hsame
      next heq =>
        subst heq
        -- the record already was what it becomes, so nothing was told of it
        have hbefore : conditionOf (r.records.find candidate.snapshot.id) = enrolledOnline := by
          rw [hr.merged, ← hsame]
          cases hearlier : r.changed.find candidate.snapshot.id with
          | none => rfl
          | some earlier => exact (hr.settled _ _ hearlier).trans hsame.symm
        rw [hadds.silent hbefore]
        exact hr.quiet _ (hsame.trans hbefore.symm)
      next hne =>
        obtain ⟨hlifecycle, havailability⟩ := hadds.others id (Ne.symm hne)
        obtain ⟨hquiet, hquiet'⟩ := hr.quiet id hsame
        exact ⟨hlifecycle.trans hquiet, havailability.trans hquiet'⟩
    · intro id row hrow
      rcases hchanged with hchanged | ⟨hchanged, -⟩
      · rw [hchanged, find_upsert] at hrow
        split at hrow
        · cases hrow
          exact hrefreshed.condition
        · exact hr.settled id row hrow
      · rw [hchanged] at hrow
        exact hr.settled id row hrow
    · intro id
      rw [hfind, acceptedCandidates_concat, haccepted]
      by_cases heq : candidate.snapshot.id = id
      · simp [heq, hrefreshed.snapshot]
      · simp [heq, hr.snapshot id]

theorem Reconciled.run (hr : Reconciled identities existing done r)
    (h : candidates.foldlM (reconcileCandidate identities ids) r = .ok r') :
    Reconciled identities existing (done ++ candidates) r' := by
  induction candidates generalizing done r with
  | nil =>
    cases h
    rw [append_nil]
    exact hr
  | cons candidate rest ih =>
    rw [foldlM_cons] at h
    obtain ⟨next, hnext, hrest⟩ := bind_inv h
    have hrun := ih (hr.step hnext) hrest
    rwa [append_assoc] at hrun

end HomeMagic
