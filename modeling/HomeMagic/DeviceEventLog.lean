import HomeMagic.DeviceOperationsSpec
import HomeMagic.MatterNodeWorkflow

/-! What the event log says about devices, along runs of the application and of Matter commits on one
repository. -/
namespace HomeMagic

open Fallible Chronicle

variable {device : DeviceRecord} {expectedRevision : Option ℕ} {expected : ℕ} {repository : MatterStore}

namespace MatterStore

variable {store store' : MatterStore}

structure SameDeviceLog (store store' : MatterStore) : Prop where
  devices : store'.foundation.devices = store.foundation.devices
  events : store'.foundation.events = store.foundation.events

theorem SameDeviceLog.trans {a b c : MatterStore} (h : SameDeviceLog a b) (h' : SameDeviceLog b c) :
    SameDeviceLog a c :=
  ⟨h'.devices.trans h.devices, h'.events.trans h.events⟩

theorem storeNode_deviceLog {node : StoredMatterNode} (h : store.storeNode node expectedRevision = .ok store') :
    SameDeviceLog store store' := by
  obtain ⟨-, -, _, _, rfl⟩ := storeNode_ok h
  exact ⟨rfl, rfl⟩

theorem storeProjection_deviceLog {projection : StoredMatterProjection}
    (h : store.storeProjection projection expectedRevision = .ok store') : SameDeviceLog store store' := by
  rw [(storeProjection_ok h).rest]
  exact ⟨rfl, rfl⟩

theorem storeProjections_deviceLog {projections : List StoredMatterProjection}
    (h : projections.foldlM (fun store projection => store.storeProjection projection none) store = .ok store') :
    SameDeviceLog store store' :=
  foldlM_keeps (I := SameDeviceLog store) (fun _ _ _ _ hstep hsame => hsame.trans (storeProjection_deviceLog hstep)) h
    ⟨rfl, rfl⟩

theorem Advanced.deviceLog {write : MatterOperationWrite} {current : MatterOperation}
    (h : Advanced store store' write current) : SameDeviceLog store store' := by
  rw [h.rest]
  exact ⟨rfl, rfl⟩

theorem Subscribed.deviceLog {subscription : StoredMatterSubscription}
    (h : Subscribed store store' subscription expectedRevision) : SameDeviceLog store store' := by
  rw [h.rest]
  exact ⟨rfl, rfl⟩

theorem insertNodeResult_deviceLog {result : MatterOperationNodeResult}
    (h : store.insertNodeResult result = .ok store') : SameDeviceLog store store' := by
  unfold insertNodeResult at h
  obtain ⟨_, _, h⟩ := bind_inv h
  split at h
  · cases h
  · split at h
    · cases h
    · cases h
      exact ⟨rfl, rfl⟩

structure WritesSilently (device : DeviceRecord) (store store' : MatterStore) : Prop where
  devices : ∀ id, store'.foundation.deviceRecord id =
    if device.snapshot.id = id then some device else store.foundation.deviceRecord id
  events : store'.foundation.events = store.foundation.events

theorem WritesSilently.followed {middle : MatterStore} (h : WritesSilently device store middle)
    (hsame : SameDeviceLog middle store') : WritesSilently device store store' := by
  refine ⟨?_, hsame.events.trans h.events⟩
  intro id
  rw [← h.devices id]
  unfold FoundationStore.deviceRecord
  rw [hsame.devices]

theorem upsertDevice_silent (h : store.onFoundation (fun foundation => foundation.upsertDevice device) = .ok store') :
    WritesSilently device store store' := by
  obtain ⟨foundation, hwrite, rfl⟩ := onFoundation_ok h
  exact ⟨FoundationStore.deviceRecord_upsertDevice hwrite, FoundationStore.upsertDevice_events hwrite⟩

theorem commitCommissioning_silent {commit : MatterCommissioningCommit}
    (h : store.commitCommissioning commit expected = .ok store') : WritesSilently commit.device store store' := by
  unfold commitCommissioning at h
  split at h
  · cases h
  · obtain ⟨_, hintegration, h⟩ := bind_inv h
    obtain ⟨_, hdevice, h⟩ := bind_inv h
    obtain ⟨_, hnode, h⟩ := bind_inv h
    obtain ⟨_, hprojections, h⟩ := bind_inv h
    obtain ⟨_, hsubscription, h⟩ := bind_inv h
    obtain ⟨_, hresult, h⟩ := bind_inv h
    obtain ⟨_, hadvanced⟩ := transitionOperation_ok h
    obtain ⟨foundation, hintegrated, rfl⟩ := onFoundation_ok hintegration
    have hprojected := ((upsertDevice_silent hdevice).followed (storeNode_deviceLog hnode)).followed
      (storeProjections_deviceLog hprojections)
    have hwritten := ((hprojected.followed (storeSubscription_ok hsubscription).deviceLog).followed
      (insertNodeResult_deviceLog hresult)).followed hadvanced.deviceLog
    refine ⟨?_, hwritten.events.trans (FoundationStore.upsertIntegration_events hintegrated)⟩
    intro id
    rw [hwritten.devices id, ← (FoundationStore.upsertIntegration_same hintegrated).deviceRecord id]

theorem commitNodeRemoval_silent {commit : MatterNodeRemovalCommit}
    (h : store.commitNodeRemoval commit expected = .ok store') : WritesSilently commit.device store store' := by
  unfold commitNodeRemoval at h
  split at h
  · cases h
  · split at h
    · cases h
    · obtain ⟨_, _, h⟩ := bind_inv h
      split at h
      · cases h
      · split at h
        · cases h
        · obtain ⟨_, hdevice, h⟩ := bind_inv h
          obtain ⟨_, hadvanced⟩ := transitionOperation_ok h
          have hwritten := (upsertDevice_silent hdevice).followed hadvanced.deviceLog
          exact ⟨hwritten.devices, hwritten.events⟩

end MatterStore

def matterDevices : DeviceRepository MatterStore where
  apply := fun store write => store.onFoundation (fun foundation => foundation.apply write)
  device := fun store id => store.foundation.deviceRecord id
  events := fun store => store.foundation.events.rows
  device_apply := by
    intro store store' write h id
    obtain ⟨foundation, hwrite, rfl⟩ := MatterStore.onFoundation_ok h
    exact FoundationStore.deviceRecord_apply hwrite id
  events_apply := by
    intro store store' write h
    obtain ⟨foundation, hwrite, rfl⟩ := MatterStore.onFoundation_ok h
    exact FoundationStore.events_rows_apply hwrite

inductive DeviceAction
  | refresh (ids : FreshIds) (candidates : List DiscoveryCandidate)
  | publish (batch : LiveObservationBatch)
  | evaluateFreshness (ids : FreshIds) (policy : FreshnessPolicy) (now : Instant)
  | removeDevice (ids : FreshIds) (id : DeviceId) (now : Instant)
  | commission (commit : MatterCommissioningCommit) (expectedRevision : ℕ)
  | removeNode (commit : MatterNodeRemovalCommit) (expectedRevision : ℕ)

namespace DeviceWorld

def perform (identities : DeviceIdentities) (world : DeviceWorld MatterStore) :
    DeviceAction → Option (DeviceWorld MatterStore)
  | .refresh ids candidates => (world.refresh matterDevices identities ids candidates).toOption
  | .publish batch => (world.publish matterDevices batch).toOption
  | .evaluateFreshness ids policy now =>
    ((world.evaluateFreshness matterDevices ids policy now).map Prod.fst).toOption
  | .removeDevice ids id now => (world.removeDevice matterDevices ids id now).toOption
  | .commission commit expectedRevision =>
    (world.repository.commitCommissioning commit expectedRevision).toOption.map (fun store =>
      { world with repository := store })
  | .removeNode commit expectedRevision =>
    (world.repository.commitNodeRemoval commit expectedRevision).toOption.map (fun store =>
      { world with repository := store })

def next (identities : DeviceIdentities) (world : DeviceWorld MatterStore) (action : DeviceAction) :
    DeviceWorld MatterStore :=
  (world.perform identities action).getD world

def record (world : DeviceWorld MatterStore) (id : DeviceId) : Option DeviceRecord :=
  matterDevices.device world.repository id

def log (world : DeviceWorld MatterStore) : List DomainEvent := matterDevices.events world.repository

/-- From its first event onwards the log reproduces what is stored for every device. -/
structure LogTruthful (world : DeviceWorld MatterStore) : Prop where
  lifecycle : ∀ id, Reproduces (lifecycleChanges id world.log) ((world.record id).map DeviceRecord.lifecycle)
  availability : ∀ id, Reproduces (availabilityChanges id world.log)
    ((world.record id).map (fun record => record.availability.state))

/-- What a step appends starts, for every device, at the condition before it, and there is nothing about
a device whose condition it leaves. -/
def AppendsTruth (before after : DeviceWorld MatterStore) : Prop :=
  ∃ appended, after.log = before.log ++ appended ∧ ∀ id,
    (∃ lifecycle, Chronicle.Follows (conditionOf (before.record id)).lifecycle (lifecycleChanges id appended) lifecycle) ∧
    (∃ availability, Chronicle.Follows (conditionOf (before.record id)).availability (availabilityChanges id appended)
      availability) ∧
    (conditionOf (before.record id) = conditionOf (after.record id) → Unheard id appended)

/-- A silent write of the record that the log and the registry do not notice: they know nothing of the
device, or its condition stays the same. -/
def Unnoticed (world : DeviceWorld MatterStore) (device : DeviceRecord) : Prop :=
  (world.registry.find device.snapshot.id = none ∧ Unheard device.snapshot.id world.log) ∨
    ∃ stored, world.record device.snapshot.id = some stored ∧ stored.condition = device.condition

def Audible (identities : DeviceIdentities) (world : DeviceWorld MatterStore) : DeviceAction → Prop
  | .refresh _ candidates => ∀ candidate ∈ candidates, candidate.identified identities = true →
      world.registry.find candidate.snapshot.id = none → world.record candidate.snapshot.id = none
  | .publish batch => Uneventful world.registry batch
  | .evaluateFreshness _ _ _ | .removeDevice _ _ _ => True
  | .commission commit _ => Unnoticed world commit.device
  | .removeNode commit _ => Unnoticed world commit.device

structure Truthful (identities : DeviceIdentities) (world : DeviceWorld MatterStore) : Prop where
  reproduced : LogTruthful world
  registered : ∀ id registered, world.registry.find id = some registered →
    ∃ stored, world.record id = some stored ∧ stored.condition = registered.condition
  identified : Identified identities world.registry

variable {identities : DeviceIdentities} {world : DeviceWorld MatterStore}

theorem conditionOf_lifecycle (record : Option DeviceRecord) :
    (record.map DeviceRecord.lifecycle).getD .candidate = (conditionOf record).lifecycle := by
  cases record <;> rfl

theorem conditionOf_availability (record : Option DeviceRecord) :
    (record.map (fun record => record.availability.state)).getD .unknown = (conditionOf record).availability := by
  cases record <;> rfl

theorem reproduces_told {id : DeviceId} {σ : Type} {change : DomainEventKind → Option (σ × σ)}
    {value : DeviceRecord → σ} {start : σ} {events appended : List DomainEvent} {before after : Option DeviceRecord}
    (h : Reproduces (changesOf change id events) (before.map value)) (hafter : after = none → before = none)
    (hquiet : after = none → changesOf change id appended = [])
    (hfollows : Chronicle.Follows ((before.map value).getD start) (changesOf change id appended)
      ((after.map value).getD start)) :
    Reproduces (changesOf change id (events ++ appended)) (after.map value) := by
  rw [changesOf_append]
  cases after with
  | none =>
    rw [hquiet rfl, List.append_nil]
    rw [hafter rfl] at h
    exact h
  | some record =>
    refine h.append ?_ hfollows
    intro stored hstored
    rw [hstored]
    rfl

/-- A posted write moves log, records and registry together. -/
theorem Truthful.posted {write : FoundationWrite} (h : Truthful identities world)
    (hposts : Posts identities world.registry write.devices write.events)
    (hnew : ∀ device ∈ write.devices, world.registry.find device.snapshot.id = none →
      world.record device.snapshot.id = none)
    (happly : matterDevices.apply world.repository write = .ok repository) :
    Truthful identities ⟨repository, write.devices.foldl Table.upsert world.registry⟩ ∧
      AppendsTruth world ⟨repository, write.devices.foldl Table.upsert world.registry⟩ := by
  have hrecord : ∀ id, record ⟨repository, write.devices.foldl Table.upsert world.registry⟩ id =
      (lastWritten write.devices id).or (world.record id) := matterDevices.device_apply happly
  have hlog : log ⟨repository, write.devices.foldl Table.upsert world.registry⟩ = world.log ++ write.events :=
    matterDevices.events_apply happly
  -- for every device the events start at what is stored
  have htold : ∀ id, Told id (conditionOf (world.record id))
      (conditionOf ((lastWritten write.devices id).or (world.record id))) write.events := by
    intro id
    have hregistry := hposts.told id
    cases hregistered : world.registry.find id with
    | some registered =>
      obtain ⟨stored, hstored, hcondition⟩ := h.registered id registered hregistered
      rw [hregistered] at hregistry
      rw [hstored]
      cases hlast : lastWritten write.devices id with
      | none =>
        rw [hlast] at hregistry
        show Told id stored.condition stored.condition write.events
        rw [hcondition]
        exact hregistry
      | some written =>
        rw [hlast] at hregistry
        show Told id stored.condition written.condition write.events
        rw [hcondition]
        exact hregistry
    | none =>
      rw [hregistered] at hregistry
      cases hlast : lastWritten write.devices id with
      | none =>
        rw [hlast] at hregistry
        exact (hregistry.silent rfl).told _
      | some written =>
        obtain ⟨hmem, hid⟩ := lastWritten_some hlast
        rw [hlast] at hregistry
        rw [← hid, hnew written hmem (hid ▸ hregistered), hid]
        exact hregistry
  have hgone : ∀ id, (lastWritten write.devices id).or (world.record id) = none →
      world.record id = none ∧ Unheard id write.events := by
    intro id hnone
    obtain ⟨hlast, hnone'⟩ := Option.or_eq_none_iff.mp hnone
    have hquiet := htold id
    rw [hlast, hnone'] at hquiet
    exact ⟨hnone', hquiet.silent rfl⟩
  refine ⟨⟨⟨?_, ?_⟩, ?_, ?_⟩, ⟨write.events, hlog, ?_⟩⟩
  · intro id
    rw [hlog, hrecord]
    apply reproduces_told (h.reproduced.lifecycle id) (fun hnone => (hgone id hnone).1)
      (fun hnone => (hgone id hnone).2.1)
    rw [conditionOf_lifecycle, conditionOf_lifecycle]
    exact (htold id).lifecycle
  · intro id
    rw [hlog, hrecord]
    apply reproduces_told (h.reproduced.availability id) (fun hnone => (hgone id hnone).1)
      (fun hnone => (hgone id hnone).2.2)
    rw [conditionOf_availability, conditionOf_availability]
    exact (htold id).availability
  · intro id registered hregistered
    rw [Table.find_foldl_upsert] at hregistered
    rw [hrecord]
    cases hlast : lastWritten write.devices id with
    | some written =>
      have hwritten : some written = some registered := by
        rw [← hregistered, ← hlast]
        unfold lastWritten at hlast ⊢
        rw [hlast]
        rfl
      exact ⟨written, rfl, by rw [Option.some.inj hwritten]⟩
    | none =>
      unfold lastWritten at hlast
      rw [hlast] at hregistered
      exact h.registered id registered hregistered
  · intro registered hregistered
    have hfind : (write.devices.foldl Table.upsert world.registry).find registered.snapshot.id = some registered :=
      Table.find_eq_some.mpr ⟨hregistered, rfl⟩
    rw [Table.find_foldl_upsert] at hfind
    rcases Option.or_eq_some_iff.mp hfind with hlast | ⟨-, hkept⟩
    · exact hposts.identified registered (lastWritten_some hlast).1
    · exact h.identified registered (Table.find_eq_some.mp hkept).1
  · intro id
    rw [hrecord]
    exact ⟨⟨_, (htold id).lifecycle⟩, ⟨_, (htold id).availability⟩, (htold id).silent⟩

/-- A silent write that log and registry do not notice keeps both truthful. -/
theorem Truthful.unnoticed (h : Truthful identities world) (hunnoticed : Unnoticed world device)
    (hwrites : MatterStore.WritesSilently device world.repository repository) :
    Truthful identities { world with repository := repository } ∧
      AppendsTruth world { world with repository := repository } := by
  have hrecord : ∀ id, DeviceWorld.record { world with repository := repository } id =
      if device.snapshot.id = id then some device else world.record id := hwrites.devices
  have hlog : DeviceWorld.log { world with repository := repository } = world.log :=
    congrArg Table.rows hwrites.events
  have hvalue : ∀ {σ : Type} (value : DeviceRecord → σ) (change : DomainEventKind → Option (σ × σ)) (id : DeviceId),
      (∀ {a b : DeviceRecord}, a.condition = b.condition → value a = value b) →
      (Unheard id world.log → changesOf change id world.log = []) →
      Reproduces (changesOf change id world.log) ((world.record id).map value) →
      Reproduces (changesOf change id world.log)
        ((if device.snapshot.id = id then some device else world.record id).map value) := by
    intro σ value change id hcongr hquiet hreproduces
    split
    next heq =>
      subst heq
      rcases hunnoticed with ⟨-, hunheard⟩ | ⟨stored, hstored, hcondition⟩
      · rw [hquiet hunheard]
        exact reproduces_nil _
      · rw [hstored] at hreproduces
        show Reproduces _ (some (value device))
        rw [← hcongr hcondition]
        exact hreproduces
    next => exact hreproduces
  refine ⟨⟨⟨?_, ?_⟩, ?_, h.identified⟩, [], by rw [hlog, List.append_nil], ?_⟩
  · intro id
    rw [hlog, hrecord]
    exact hvalue _ _ id (fun hcondition => congrArg DeviceCondition.lifecycle hcondition) (fun hunheard => hunheard.1)
      (h.reproduced.lifecycle id)
  · intro id
    rw [hlog, hrecord]
    exact hvalue _ _ id (fun hcondition => congrArg DeviceCondition.availability hcondition)
      (fun hunheard => hunheard.2) (h.reproduced.availability id)
  · intro id registered hregistered
    rw [hrecord]
    split
    next heq =>
      subst heq
      rcases hunnoticed with ⟨hunregistered, -⟩ | ⟨stored, hstored, hcondition⟩
      · rw [hunregistered] at hregistered
        cases hregistered
      · obtain ⟨stored', hstored', hcondition'⟩ := h.registered _ registered hregistered
        rw [hstored] at hstored'
        cases hstored'
        exact ⟨device, rfl, hcondition.symm.trans hcondition'⟩
    next => exact h.registered id registered hregistered
  · intro id
    exact ⟨⟨_, rfl⟩, ⟨_, rfl⟩, fun _ => ⟨rfl, rfl⟩⟩

/-- Each action appends what leads from the old condition of a device to the new one. -/
theorem truthful_next {action : DeviceAction} (h : Truthful identities world)
    (haudible : Audible identities world action) :
    Truthful identities (world.next identities action) ∧ AppendsTruth world (world.next identities action) := by
  have hsame : Truthful identities world ∧ AppendsTruth world world := by
    refine ⟨h, [], (List.append_nil _).symm, ?_⟩
    intro id
    exact ⟨⟨_, rfl⟩, ⟨_, rfl⟩, fun _ => ⟨rfl, rfl⟩⟩
  unfold next
  cases hperform : world.perform identities action with
  | none => exact hsame
  | some after =>
    show Truthful identities after ∧ AppendsTruth world after
    cases action with
    | refresh ids candidates =>
      obtain ⟨outcome, houtcome, hpost⟩ := bind_inv (toOption_eq_some hperform)
      have hspec := reconcile_ok h.identified houtcome
      obtain ⟨repository, happly, rfl⟩ := post_ok hpost
      refine h.posted hspec.posts ?_ happly
      intro device hdevice hunregistered
      obtain ⟨candidate, hcandidate, hidentified, hid⟩ := hspec.candidate_of_new hdevice hunregistered
      rw [← hid]
      exact haudible candidate hcandidate hidentified (hid ▸ hunregistered)
    | publish batch =>
      obtain ⟨devices, hdevices, repository, happly, rfl⟩ := published_ok (toOption_eq_some hperform)
      refine h.posted (published_posts h.identified haudible hdevices) ?_ happly
      intro device hdevice hunregistered
      obtain ⟨record, -, hrecord, -⟩ := mem_liveDevices_record hdevices hdevice
      rw [hunregistered] at hrecord
      cases hrecord
    | evaluateFreshness ids policy now =>
      have hmapped := toOption_eq_some hperform
      cases hresult : world.evaluateFreshness matterDevices ids policy now with
      | error error =>
        rw [hresult] at hmapped
        cases hmapped
      | ok result =>
        rw [hresult] at hmapped
        cases hmapped
        rcases evaluateFreshness_ok hresult with hunchanged | ⟨changes, repository, hchanges, happly, hafter⟩
        · rw [hunchanged]
          exact hsame
        · obtain ⟨hposts, hregistered⟩ := evaluated_posts h.identified hchanges
          rw [hafter]
          exact h.posted hposts (fun device hdevice hnone => absurd hnone (hregistered device hdevice)) happly
    | removeDevice ids id now =>
      rcases removeDevice_ok (toOption_eq_some hperform) with hunchanged |
        ⟨record, removed, repository, hrecord, hlifecycle, hremoved, happly, rfl⟩
      · rw [hunchanged]
        exact hsame
      · have hid : record.snapshot.id = id := (Table.find_eq_some.mp hrecord).2
        subst hid
        refine h.posted (removed_posts h.identified hrecord hlifecycle hremoved) ?_ happly
        intro device hdevice hunregistered
        rw [List.mem_singleton.mp hdevice] at hunregistered
        obtain ⟨lifecycle, rfl⟩ := transition_ok hremoved
        exact absurd (hunregistered.symm.trans hrecord) (fun h => nomatch h)
    -- the Matter commits write devices without an event
    | commission commit expectedRevision =>
      obtain ⟨store, hstore, rfl⟩ := Option.map_eq_some_iff.mp hperform
      exact h.unnoticed haudible (MatterStore.commitCommissioning_silent (toOption_eq_some hstore))
    | removeNode commit expectedRevision =>
      obtain ⟨store, hstore, rfl⟩ := Option.map_eq_some_iff.mp hperform
      exact h.unnoticed haudible (MatterStore.commitNodeRemoval_silent (toOption_eq_some hstore))

def Audibly (identities : DeviceIdentities) (before after : DeviceWorld MatterStore) : Prop :=
  ∃ action, Audible identities before action ∧ after = before.next identities action

/-- In every run of audible actions the log reproduces what is stored, every event starts at the condition
before it, and what changes no condition appends nothing about it. -/
theorem device_log_truthful {initial : DeviceWorld MatterStore} (hinitial : Truthful identities initial)
    (hrun : Relation.ReflTransGen (Audibly identities) initial world) :
    LogTruthful world ∧ ∀ after, Audibly identities world after → AppendsTruth world after := by
  have htruthful : Truthful identities world := by
    induction hrun with
    | refl => exact hinitial
    | tail _ hstep ih =>
      obtain ⟨action, haudible, rfl⟩ := hstep
      exact (truthful_next ih haudible).1
  refine ⟨htruthful.reproduced, ?_⟩
  rintro after ⟨action, haudible, rfl⟩
  exact (truthful_next htruthful haudible).2

def relayHome : DeviceWorld MatterStore where
  repository := { MatterSystem.newHome with foundation := relayTables }
  registry := .empty

theorem relayHome_truthful : Truthful plainIdentities relayHome where
  reproduced := ⟨fun _ => reproduces_nil _, fun _ => reproduces_nil _⟩
  registered := fun _ _ h => nomatch h
  identified := fun _ h => nomatch h

def relayFound : DeviceWorld MatterStore := relayHome.next plainIdentities (.refresh (plainIds 0) [relayCandidate])

def relayLost : DeviceWorld MatterStore :=
  relayFound.next plainIdentities (.evaluateFreshness (plainIds 1) minutePolicy 180000000000)

def relayBack : DeviceWorld MatterStore :=
  relayLost.next plainIdentities (.publish ⟨[relayOn 200000000000], []⟩)

/-- The relay is found and lost. -/
theorem lost_relay_told : LogTruthful relayLost ∧
    ∀ after, Audibly plainIdentities relayLost after → AppendsTruth relayLost after :=
  device_log_truthful relayHome_truthful (.tail (.tail .refl ⟨.refresh (plainIds 0) [relayCandidate],
    fun _ _ _ _ => rfl, rfl⟩) ⟨.evaluateFreshness (plainIds 1) minutePolicy 180000000000, trivial, rfl⟩)

/-- A notification brings a lost relay back online, and no event says so. -/
theorem relay_back_untold : LogTruthful relayLost ∧ ¬ LogTruthful relayBack := by
  constructor
  · have hfound := (@truthful_next _ _ (.refresh (plainIds 0) [relayCandidate]) relayHome_truthful
      (fun _ _ _ _ => rfl)).1
    have hlost := (@truthful_next _ _ (.evaluateFreshness (plainIds 1) minutePolicy 180000000000) hfound trivial).1
    exact hlost.reproduced
  · intro h
    have hstored : (relayBack.record relayId).map (fun record => record.availability.state) = some .online := by
      decide +kernel
    have hlog : availabilityChanges relayId relayBack.log = [(.unknown, .online), (.online, .offline)] := by
      decide +kernel
    have havailability := h.availability relayId
    rw [hstored, hlog] at havailability
    obtain ⟨value, hvalue, -, -, hends⟩ := havailability _ _ rfl
    have hoffline : AvailabilityState.offline = value := hends
    cases hvalue
    cases hoffline

end DeviceWorld

end HomeMagic
