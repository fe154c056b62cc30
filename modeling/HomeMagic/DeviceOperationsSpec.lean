import HomeMagic.DeviceOperations
import HomeMagic.DeviceReconciliationSpec

/-! What each operation on devices posts: the records it writes, and the events that tell of them. -/
namespace HomeMagic
open List Table

open Fallible Chronicle

variable {devices : List DeviceRecord} {now : Instant} {device record live : DeviceRecord}
  {policy : FreshnessPolicy} {batch : LiveObservationBatch} {candidates : List DiscoveryCandidate}
  {changes : List DeviceRecord × List DomainEvent} {id : DeviceId} {outcome : ReconciliationOutcome}

theorem lastWritten_table (records : DeviceTable) (devices : List DeviceRecord) (hperm : devices.Perm records.rows)
    (id : DeviceId) : lastWritten devices id = records.find id := by
  have hnodup : (devices.reverse.map (fun device => device.snapshot.id)).Nodup :=
    ((devices.reverse_perm.trans hperm).map _).nodup_iff.mpr records.nodup
  have hfind : lastWritten devices id = Table.find (κ := DeviceId) ⟨devices.reverse, hnodup⟩ id := rfl
  rw [hfind]
  apply Option.ext
  intro record
  rw [find_eq_some, find_eq_some]
  show record ∈ devices.reverse ∧ _ ↔ _
  rw [mem_reverse, hperm.mem_iff]

theorem lastWritten_inIdOrder (records : DeviceTable) (id : DeviceId) :
    lastWritten (inIdOrder records) id = records.find id :=
  lastWritten_table records _ (perm_insertionSort _ _) id

theorem lastWritten_some (h : lastWritten devices id = some record) : record ∈ devices ∧ record.snapshot.id = id := by
  have hid := List.find?_some h
  exact ⟨mem_reverse.mp (List.mem_of_find?_eq_some h), of_decide_eq_true hid⟩

theorem lastWritten_concat (devices : List DeviceRecord) (device : DeviceRecord) (id : DeviceId) :
    lastWritten (devices ++ [device]) id = if device.snapshot.id = id then some device else lastWritten devices id := by
  unfold lastWritten
  rw [reverse_append, reverse_singleton, singleton_append, List.find?_cons]
  by_cases hid : device.snapshot.id = id
  · rw [if_pos hid, hid]
    simp
  · simp [hid]

structure Posts (identities : DeviceIdentities) (registry : DeviceTable) (devices : List DeviceRecord)
    (events : List DomainEvent) : Prop where
  told : ∀ id, Told id (conditionOf (registry.find id)) (conditionOf ((lastWritten devices id).or (registry.find id)))
    events
  identified : ∀ device ∈ devices,
    identities.fromIntegration device.integrationId device.snapshot.nativeId = device.snapshot.id

theorem exists_lastWritten (h : device ∈ devices) :
    ∃ record, lastWritten devices device.snapshot.id = some record := by
  apply Option.ne_none_iff_exists'.mp
  intro hnone
  have hnot := List.find?_eq_none.mp hnone device (mem_reverse.mpr h)
  simp at hnot

variable {identities : DeviceIdentities} {ids : FreshIds} {registry : DeviceTable}

structure ReconcileSpec (identities : DeviceIdentities) (existing : DeviceTable) (candidates : List DiscoveryCandidate)
    (outcome : ReconciliationOutcome) : Prop where
  posts : Posts identities existing outcome.devices outcome.events
  snapshot : ∀ id, ((lastWritten outcome.devices id).or (existing.find id)).map DeviceRecord.snapshot =
    ((acceptedCandidates identities id candidates).getLast?.map DiscoveryCandidate.snapshot).or
      ((existing.find id).map DeviceRecord.snapshot)

theorem reconcile_ok (hidentified : Identified identities registry)
    (h : reconcile identities ids registry candidates = .ok outcome) :
    ReconcileSpec identities registry candidates outcome := by
  unfold reconcile at h
  obtain ⟨r, hr, h⟩ := bind_inv h
  cases h
  have hreconciled := (Reconciled.start hidentified).run hr
  have hmerged : ∀ id, (lastWritten (inIdOrder r.changed) id).or (registry.find id) = r.records.find id := by
    intro id
    rw [lastWritten_inIdOrder]
    exact (hreconciled.merged id).symm
  refine ⟨⟨?_, ?_⟩, ?_⟩
  · intro id
    rw [hmerged]
    exact ⟨hreconciled.lifecycle id, hreconciled.availability id, hreconciled.quiet id⟩
  · intro device hdevice
    have hchanged : r.changed.find device.snapshot.id = some device :=
      find_eq_some.mpr ⟨(perm_insertionSort _ _).mem_iff.mp hdevice, rfl⟩
    have hrecord : r.records.find device.snapshot.id = some device := by
      rw [hreconciled.merged, hchanged]
      rfl
    exact hreconciled.identified device (find_eq_some.mp hrecord).1
  · intro id
    rw [hmerged]
    exact hreconciled.snapshot id

theorem ReconcileSpec.candidate_of_new (h : ReconcileSpec identities registry candidates outcome)
    (hdevice : device ∈ outcome.devices) (hnew : registry.find device.snapshot.id = none) :
    ∃ candidate ∈ candidates, candidate.identified identities = true ∧ candidate.snapshot.id = device.snapshot.id := by
  obtain ⟨record, hlast⟩ := exists_lastWritten hdevice
  have hsnapshot := h.snapshot device.snapshot.id
  rw [hlast, hnew] at hsnapshot
  simp only [Option.map_none, Option.or_none] at hsnapshot
  obtain ⟨candidate, hcandidate, -⟩ := Option.map_eq_some_iff.mp hsnapshot.symm
  have hmem := List.mem_filter.mp (List.mem_of_getLast? hcandidate)
  rw [Bool.and_eq_true, beq_iff_eq] at hmem
  exact ⟨candidate, hmem.1, hmem.2⟩

theorem transition_ok {record' : DeviceRecord} {trigger : LifecycleTrigger}
    (h : record.transition trigger = .ok record') :
    ∃ lifecycle, record' = { record with lifecycle := lifecycle } := by
  unfold DeviceRecord.transition at h
  split at h
  · cases h
  · cases h
    exact ⟨_, rfl⟩

namespace DeviceWorld

theorem assess_ok {assessed : DeviceRecord} (h : assess policy now device = .ok (some assessed)) :
    ∃ lifecycle availability, assessed = { device with lifecycle := lifecycle, availability := availability } := by
  unfold assess at h
  split at h
  · cases h
  · split at h
    · cases h
    · cases h
    all_goals
      obtain ⟨moved, hmoved, h⟩ := bind_inv h
      cases h
      unfold transitionFrom at hmoved
      split at hmoved
      · obtain ⟨lifecycle, rfl⟩ := transition_ok hmoved
        exact ⟨_, _, rfl⟩
      · cases hmoved
        exact ⟨_, _, rfl⟩

theorem tellAssessment_adds {now : Instant} {events : List DomainEvent} {device assessed : DeviceRecord}
    (h : ∃ lifecycle availability, assessed = { device with lifecycle := lifecycle, availability := availability }) :
    Adds device.snapshot.id device.condition assessed.condition events
      (tellAssessment ids now events device assessed) := by
  obtain ⟨lifecycle, availability, rfl⟩ := h
  unfold tellAssessment
  dsimp only
  apply adds_of_tells ids (if lifecycle = device.lifecycle then events else ids.tell events device.snapshot.id now
    (.lifecycleChanged device.lifecycle lifecycle (if lifecycle = .stale then .markStale else .rediscover)))
  · by_cases hsame : lifecycle = device.lifecycle
    · exact Or.inl ⟨hsame.symm, if_pos hsame⟩
    · exact Or.inr ⟨now, _, if_neg hsame⟩
  · by_cases hsame : availability.state = device.availability.state
    · exact Or.inl ⟨hsame.symm, if_pos hsame⟩
    · exact Or.inr ⟨now, availability.reason, if_neg hsame⟩
  · intro hsame
    have hlifecycle : device.lifecycle = lifecycle := congrArg DeviceCondition.lifecycle hsame
    have havailability : device.availability.state = availability.state := congrArg DeviceCondition.availability hsame
    rw [if_pos havailability.symm, if_pos hlifecycle.symm]

structure Evaluated (registry : DeviceTable) (done : List DeviceRecord)
    (changes : List DeviceRecord × List DomainEvent) : Prop where
  told : ∀ id, Told id (conditionOf (registry.find id))
    (conditionOf ((lastWritten changes.1 id).or (registry.find id))) changes.2
  ahead : ∀ id, id ∉ done.map (fun device => device.snapshot.id) → lastWritten changes.1 id = none ∧ Unheard id changes.2
  kept : ∀ device ∈ changes.1, ∃ record ∈ registry.rows, record.integrationId = device.integrationId ∧
    record.snapshot = device.snapshot

/-- One record of the loop. -/
theorem Evaluated.step {policy : FreshnessPolicy} {now : Instant} {done : List DeviceRecord}
    {changes changes' : List DeviceRecord × List DomainEvent} {device : DeviceRecord}
    (hevaluated : Evaluated registry done changes) (hdevice : registry.find device.snapshot.id = some device)
    (hnew : device.snapshot.id ∉ done.map (fun device => device.snapshot.id))
    (h : evaluateRecord ids policy now changes device = .ok changes') :
    Evaluated registry (done ++ [device]) changes' := by
  unfold evaluateRecord at h
  obtain ⟨result, hassessed, h⟩ := bind_inv h
  obtain ⟨hunwritten, hunheard⟩ := hevaluated.ahead _ hnew
  cases result with
  | none =>
    cases h
    refine ⟨hevaluated.told, ?_, hevaluated.kept⟩
    intro id hid
    apply hevaluated.ahead id
    intro hmem
    exact hid (by simp at hmem ⊢; exact Or.inl hmem)
  | some assessed =>
    have hmoved := assess_ok hassessed
    have hadds := @tellAssessment_adds ids now changes.2 device assessed hmoved
    have hsnapshot : assessed.snapshot = device.snapshot ∧ assessed.integrationId = device.integrationId := by
      obtain ⟨_, _, rfl⟩ := hmoved
      exact ⟨rfl, rfl⟩
    have hcondition : (assessed.lifecycle = device.lifecycle ∧
        assessed.availability.state = device.availability.state) ↔ assessed.condition = device.condition :=
      ⟨fun h => congrArg₂ DeviceCondition.mk h.1 h.2, fun h => DeviceCondition.mk.inj h⟩
    -- a record is written just when its condition has changed
    have hlast : ∀ id, lastWritten changes'.1 id = if device.snapshot.id = id then
        (if assessed.condition = device.condition then none else some assessed) else lastWritten changes.1 id := by
      intro id
      cases h
      simp only [hcondition]
      by_cases hsame : assessed.condition = device.condition
      · rw [if_pos hsame, if_pos hsame]
        split
        next heq => rw [← heq, hunwritten]
        next => rfl
      · rw [if_neg hsame, if_neg hsame, lastWritten_concat, hsnapshot.1]
    have hevents : changes'.2 = tellAssessment ids now changes.2 device assessed := by
      cases h
      rfl
    rw [← hevents] at hadds
    refine ⟨?_, ?_, ?_⟩
    · intro id
      rw [hlast]
      split
      next heq =>
        rw [← heq, hdevice]
        have htold := hadds.told hunheard
        by_cases hsame : assessed.condition = device.condition
        · rw [if_pos hsame]
          rw [hsame] at htold
          exact htold
        · rw [if_neg hsame]
          exact htold
      next hne =>
        obtain ⟨hlifecycle, havailability⟩ := hadds.others id (Ne.symm hne)
        have htold := hevaluated.told id
        exact ⟨hlifecycle ▸ htold.lifecycle, havailability ▸ htold.availability, fun hsame =>
          ⟨hlifecycle.trans (htold.silent hsame).1, havailability.trans (htold.silent hsame).2⟩⟩
    · intro id hid
      rw [map_append, mem_append, map_singleton, mem_singleton, not_or] at hid
      obtain ⟨hnone, hquiet⟩ := hevaluated.ahead id hid.1
      obtain ⟨hlifecycle, havailability⟩ := hadds.others id hid.2
      rw [hlast, if_neg (Ne.symm hid.2)]
      exact ⟨hnone, hlifecycle.trans hquiet.1, havailability.trans hquiet.2⟩
    · intro written hwritten
      cases h
      dsimp only at hwritten
      split at hwritten
      · exact hevaluated.kept written hwritten
      · rcases mem_append.mp hwritten with hearlier | hlatest
        · exact hevaluated.kept written hearlier
        · rw [mem_singleton.mp hlatest]
          exact ⟨device, (find_eq_some.mp hdevice).1, hsnapshot.2.symm, hsnapshot.1.symm⟩

theorem Evaluated.run {done : List DeviceRecord} {changes' : List DeviceRecord × List DomainEvent}
    (hevaluated : Evaluated registry done changes)
    (hdevices : ∀ device ∈ devices, registry.find device.snapshot.id = some device)
    (hnodup : ((done ++ devices).map (fun device => device.snapshot.id)).Nodup)
    (h : devices.foldlM (evaluateRecord ids policy now) changes = .ok changes') :
    Evaluated registry (done ++ devices) changes' := by
  induction devices generalizing done changes with
  | nil =>
    cases h
    rw [append_nil]
    exact hevaluated
  | cons device rest ih =>
    rw [foldlM_cons] at h
    obtain ⟨next, hnext, hrest⟩ := bind_inv h
    have hnew : device.snapshot.id ∉ done.map (fun device => device.snapshot.id) := by
      rw [map_append, nodup_append] at hnodup
      intro hmem
      exact hnodup.2.2 _ hmem _ (List.mem_map_of_mem mem_cons_self) rfl
    have hstep := hevaluated.step (hdevices device mem_cons_self) hnew hnext
    have hrun := ih hstep (fun other hother => hdevices other (mem_cons_of_mem _ hother))
      (by rwa [append_assoc]) hrest
    rwa [append_assoc] at hrun

theorem evaluated_posts (hidentified : Identified identities registry)
    (h : (inIdOrder registry).foldlM (evaluateRecord ids policy now) ([], []) = .ok changes) :
    Posts identities registry changes.1 changes.2 ∧
      ∀ device ∈ changes.1, registry.find device.snapshot.id ≠ none := by
  have hperm : (inIdOrder registry).Perm registry.rows := perm_insertionSort _ _
  have hstart : Evaluated registry [] ([], []) :=
    ⟨fun id => Unheard.told ⟨rfl, rfl⟩ _, fun _ _ => ⟨rfl, rfl, rfl⟩, fun _ hmem => nomatch hmem⟩
  have hrun := hstart.run (fun device hdevice => find_eq_some.mpr ⟨hperm.mem_iff.mp hdevice, rfl⟩)
    (((hperm.map _).nodup_iff).mpr registry.nodup) h
  refine ⟨⟨hrun.told, ?_⟩, ?_⟩
  · intro device hdevice
    obtain ⟨record, hrecord, hintegration, hsnapshot⟩ := hrun.kept device hdevice
    rw [← hintegration, ← hsnapshot]
    exact hidentified record hrecord
  · intro device hdevice hnone
    obtain ⟨record, hrecord, -, hsnapshot⟩ := hrun.kept device hdevice
    exact find_eq_none.mp hnone record hrecord (by rw [hsnapshot])

/-- What the removal of a device posts. -/
theorem removed_posts {removed : DeviceRecord} (hidentified : Identified identities registry)
    (hrecord : registry.find record.snapshot.id = some record) (hlifecycle : record.lifecycle ≠ .removed)
    (h : record.transition .remove = .ok removed) :
    Posts identities registry [removed.becomes .offline now (some "removed")]
      (ids.tell (ids.tell [] record.snapshot.id now (.lifecycleChanged record.lifecycle .removed .remove))
        record.snapshot.id now (.availabilityChanged record.availability.state .offline (some "removed"))) := by
  have hmoved : removed = { record with lifecycle := .removed } := by
    have hallowed : record.lifecycle.transition .remove = some .removed := by
      cases hcurrent : record.lifecycle
      case removed => exact absurd hcurrent hlifecycle
      all_goals rfl
    unfold DeviceRecord.transition at h
    rw [hallowed] at h
    exact (Except.ok.inj h).symm
  subst hmoved
  have hadds : Adds record.snapshot.id record.condition ⟨.removed, .offline⟩ [] _ :=
    adds_of_tells ids (ids.tell [] record.snapshot.id now (.lifecycleChanged record.lifecycle .removed .remove))
      (Or.inr ⟨now, _, rfl⟩) (Or.inr ⟨now, some "removed", rfl⟩)
      (fun hsame => absurd (congrArg DeviceCondition.lifecycle hsame) hlifecycle)
  have hlast : ∀ id, lastWritten [({ record with lifecycle := .removed } : DeviceRecord).becomes .offline now
      (some "removed")] id = if record.snapshot.id = id then
        some (({ record with lifecycle := .removed } : DeviceRecord).becomes .offline now (some "removed")) else none :=
    fun id => lastWritten_concat [] _ id
  refine ⟨?_, ?_⟩
  · intro id
    rw [hlast]
    split
    next heq =>
      rw [← heq, hrecord]
      have htold := hadds.told ⟨rfl, rfl⟩
      have hcondition : (({ record with lifecycle := .removed } : DeviceRecord).becomes .offline now
          (some "removed")).condition = ⟨.removed, .offline⟩ :=
        congrArg₂ DeviceCondition.mk rfl (becomes_state _ _ _ _)
      show Told _ _ (DeviceRecord.condition _) _
      rw [hcondition]
      exact htold
    next hne =>
      obtain ⟨hquiet, hquiet'⟩ := hadds.others id (Ne.symm hne)
      exact Unheard.told ⟨hquiet, hquiet'⟩ _
  · intro device hdevice
    rw [mem_singleton.mp hdevice]
    exact hidentified record (find_eq_some.mp hrecord).1

variable {ρ : Type} {R : DeviceRepository ρ} {world after : DeviceWorld ρ}

theorem post_ok {operation : String} {events : List DomainEvent} {repairs : List RepairRecord}
    (h : world.post R operation devices events repairs = .ok after) :
    ∃ repository, R.apply world.repository ⟨[], [], [], devices, [], events, repairs⟩ = .ok repository ∧
      after = ⟨repository, devices.foldl Table.upsert world.registry⟩ := by
  unfold post at h
  split at h
  · cases h
  next repository happly =>
    cases h
    exact ⟨repository, happly, rfl⟩

theorem published_ok (h : world.publish R batch = .ok after) :
    ∃ devices, liveDevices (some world.registry) batch.observations = .ok devices ∧
      ∃ repository, R.apply world.repository ⟨[], [], [], devices, batch.observations, batch.events, []⟩ =
          .ok repository ∧
        after = ⟨repository, devices.foldl Table.upsert world.registry⟩ := by
  unfold publish RepositoryLiveObservationSink.publish at h
  dsimp only at h
  cases hdevices : liveDevices (some world.registry) batch.observations with
  | error error =>
    rw [hdevices] at h
    cases h
  | ok devices =>
    rw [hdevices] at h
    dsimp only at h
    cases happly : R.apply world.repository ⟨[], [], [], devices, batch.observations, batch.events, []⟩ with
    | error error =>
      rw [happly] at h
      cases h
    | ok repository =>
      rw [happly] at h
      cases h
      exact ⟨devices, rfl, repository, happly, rfl⟩

theorem evaluateFreshness_ok {count : ℕ} (h : world.evaluateFreshness R ids policy now = .ok (after, count)) :
    after = world ∨ ∃ changes repository,
      (inIdOrder world.registry).foldlM (evaluateRecord ids policy now) ([], []) = .ok changes ∧
      R.apply world.repository ⟨[], [], [], changes.1, [], changes.2, []⟩ = .ok repository ∧
      after = ⟨repository, changes.1.foldl Table.upsert world.registry⟩ := by
  unfold evaluateFreshness at h
  obtain ⟨changes, hchanges, h⟩ := bind_inv h
  dsimp only at h
  split at h
  · cases h
    exact Or.inl rfl
  · obtain ⟨posted, hpost, h⟩ := bind_inv h
    cases h
    obtain ⟨repository, happly, hafter⟩ := post_ok hpost
    exact Or.inr ⟨changes, repository, hchanges, happly, hafter⟩

theorem removeDevice_ok (h : world.removeDevice R ids id now = .ok after) :
    after = world ∨ ∃ record removed repository, world.registry.find id = some record ∧ record.lifecycle ≠ .removed ∧
      record.transition .remove = .ok removed ∧
      R.apply world.repository ⟨[], [], [], [removed.becomes .offline now (some "removed")], [],
        ids.tell (ids.tell [] id now (.lifecycleChanged record.lifecycle .removed .remove)) id now
          (.availabilityChanged record.availability.state .offline (some "removed")), []⟩ = .ok repository ∧
      after = ⟨repository, world.registry.upsert (removed.becomes .offline now (some "removed"))⟩ := by
  unfold removeDevice at h
  split at h
  · cases h
  next record hrecord =>
    split at h
    · cases h
      exact Or.inl rfl
    next hlifecycle =>
      obtain ⟨removed, hremoved, h⟩ := bind_inv h
      obtain ⟨repository, happly, hafter⟩ := post_ok h
      exact Or.inr ⟨record, removed, repository, hrecord, hlifecycle, hremoved, happly, hafter⟩

structure Uneventful (registry : DeviceTable) (batch : LiveObservationBatch) : Prop where
  awake : ∀ observation ∈ batch.observations, ∀ record, registry.find observation.deviceId = some record →
    record.availability.state = .online ∨ record.availability.state = .sleeping
  unheard : ∀ id, Unheard id batch.events

theorem recordLive_ok {observedAt : Instant} (h : recordLive device observedAt = .ok live) :
    live.snapshot = device.snapshot ∧ live.integrationId = device.integrationId ∧ live.lifecycle = device.lifecycle ∧
      live.availability.state =
        if device.availability.state = .sleeping then .sleeping else .online := by
  unfold recordLive at h
  split at h
  · cases h
  · cases h
    refine ⟨rfl, rfl, rfl, ?_⟩
    dsimp only
    split
    next hsleeping => exact hsleeping
    next => exact becomes_state device .online observedAt none

theorem mem_liveDevices_record {observations : List SourcedObservation}
    (h : liveDevices (some registry) observations = .ok devices) (hlive : live ∈ devices) :
    ∃ record observedAt, registry.find live.snapshot.id = some record ∧ recordLive record observedAt = .ok live ∧
      ∃ observation ∈ observations, observation.deviceId = live.snapshot.id := by
  obtain ⟨entry, hentry, hrecorded⟩ := exists_of_mem_mapM h hlive
  obtain ⟨success, hsuccess, hfound⟩ := mem_filterMap.mp hentry
  obtain ⟨record, hrecord, rfl⟩ := Option.map_eq_some_iff.mp hfound
  have hid : live.snapshot.id = success.1 :=
    (recordLive_id hrecorded).trans (find_eq_some.mp hrecord).2
  exact ⟨record, success.2, hid ▸ hrecord, hrecorded, hid ▸ mem_successes.mp ⟨success, hsuccess, rfl⟩⟩

theorem published_posts (hidentified : Identified identities registry) (huneventful : Uneventful registry batch)
    (h : liveDevices (some registry) batch.observations = .ok devices) :
    Posts identities registry devices batch.events := by
  refine ⟨?_, ?_⟩
  · intro id
    cases hlast : lastWritten devices id with
    | none => exact (huneventful.unheard id).told _
    | some live =>
      obtain ⟨hmem, rfl⟩ := lastWritten_some hlast
      obtain ⟨record, observedAt, hrecord, hlive, observation, hobservation, hid⟩ := mem_liveDevices_record h hmem
      obtain ⟨-, -, hlifecycle, havailability⟩ := recordLive_ok hlive
      have hsame : live.condition = record.condition := by
        refine congrArg₂ DeviceCondition.mk hlifecycle (havailability.trans ?_)
        rcases huneventful.awake observation hobservation record (hid ▸ hrecord) with honline | hsleeping
        · rw [honline]
          rfl
        · rw [if_pos hsleeping, hsleeping]
      rw [hrecord]
      show Told _ record.condition live.condition _
      rw [hsame]
      exact (huneventful.unheard _).told _
  · intro live hmem
    obtain ⟨record, observedAt, hrecord, hlive, -⟩ := mem_liveDevices_record h hmem
    obtain ⟨hsnapshot, hintegration, -⟩ := recordLive_ok hlive
    rw [hsnapshot, hintegration]
    exact hidentified record (find_eq_some.mp hrecord).1

end DeviceWorld

end HomeMagic
