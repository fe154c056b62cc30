import HomeMagic.FoundationStoreSpec

/-! Writing the record of a stored device again: when it succeeds, and what it does to the
rows that hang off the device's endpoints. -/
namespace HomeMagic

namespace FoundationStore

open Fallible

variable {store store' : FoundationStore} {device : DeviceRecord}

/-- A record as the operations on a stored device produce it: the stored identity, endpoints and
capability descriptors, distinct aliases, and spaces that are known. -/
structure Updates (store : FoundationStore) (device : DeviceRecord) : Prop where
  stored : ∃ row, store.devices.find device.snapshot.id = some row ∧
    row.integrationId = device.integrationId ∧ row.nativeId = device.snapshot.nativeId ∧
    row.record.snapshot.endpoints = device.snapshot.endpoints ∧
    row.record.capabilityDescriptors = device.capabilityDescriptors
  aliases : device.aliases.Nodup
  spaces : device.spaces.Nodup
  known : ∀ space ∈ device.spaces, (store.spaces.find space).isSome

theorem Updates.insertable (h : Updates store device) (hconsistent : Consistent store) :
    Insertable device := by
  obtain ⟨row, hfind, -, -, hendpoints, hdescriptors⟩ := h.stored
  obtain ⟨hrow, hid⟩ := Table.find_eq_some.mp hfind
  obtain ⟨hinsertable, hrecord⟩ := hconsistent.devices row hrow
  have hrows : capabilityRows row.record = capabilityRows device := by
    funext endpoint
    unfold capabilityRows
    rw [hdescriptors, hrecord, hid]
  refine ⟨?_, ?_, ?_, h.aliases⟩
  · rw [← hendpoints]
    exact hinsertable.endpoints
  · rw [← hendpoints, ← hrows]
    exact hinsertable.capabilities
  · rw [← hendpoints, ← hrows]
    exact hinsertable.versions

theorem Updates.unclaimed (h : Updates store device) (hconsistent : Consistent store) :
    Unclaimed device store.devices := by
  obtain ⟨row, hfind, hintegration, hnative, -⟩ := h.stored
  obtain ⟨hrow, hid⟩ := Table.find_eq_some.mp hfind
  intro other hother hintegration' hnative'
  rw [← hid]
  exact hconsistent.unique other hother row hrow (hintegration'.trans hintegration.symm)
    (hnative'.trans hnative.symm)

theorem deleteEndpoints_eq {deviceId : DeviceId}
    (hfree : ∀ projection ∈ store.projections.rows, projection.deviceId ≠ deviceId) :
    store.deleteEndpoints deviceId = .ok { store with
      endpoints := store.endpoints.filter (fun row => row.deviceId != deviceId)
      capabilities := store.capabilities.filter (fun row =>
        !store.ownsEndpoint deviceId (row.deviceId, row.endpointId))
      observations := store.observations.filter (fun row =>
        !store.ownsEndpoint deviceId (row.deviceId, row.endpointId)) } := by
  unfold deleteEndpoints
  rw [if_neg]
  intro hany
  obtain ⟨projection, hprojection, howns⟩ := List.any_eq_true.mp hany
  simp only [ownsEndpoint, Bool.and_eq_true, beq_iff_eq] at howns
  exact hfree projection hprojection howns.1

theorem exists_insertLinks {α : Type} [DecidableEq α] {t : Table (DeviceId × α) (DeviceId × α) id}
    {deviceId : DeviceId} {targets : List α} (hnodup : targets.Nodup)
    (hfree : ∀ row ∈ t.rows, row.1 ≠ deviceId) :
    ∃ t', t.insertAll (targets.map (fun target => (deviceId, target))) = some t' := by
  apply Table.exists_insertAll
  · rw [List.map_id]
    exact hnodup.map (fun _ _ h => congrArg Prod.snd h)
  · intro entry hentry
    obtain ⟨target, -, rfl⟩ := List.mem_map.mp hentry
    rw [Table.find_eq_none]
    intro row hrow heq
    exact hfree row hrow (congrArg Prod.fst heq)

theorem exists_insertAliases (hnodup : device.aliases.Nodup)
    (hfree : ∀ row ∈ store.aliases.rows, row.1 ≠ device.snapshot.id) :
    ∃ aliases, store.insertAliases device = .ok { store with aliases := aliases } := by
  obtain ⟨aliases, haliases⟩ := exists_insertLinks hnodup hfree
  refine ⟨aliases, ?_⟩
  unfold insertAliases
  rw [haliases]

theorem exists_insertSpaces (hnodup : device.spaces.Nodup)
    (hknown : ∀ space ∈ device.spaces, (store.spaces.find space).isSome)
    (hfree : ∀ row ∈ store.deviceSpaces.rows, row.1 ≠ device.snapshot.id) :
    ∃ store', store.insertSpaces device = .ok store' := by
  obtain ⟨deviceSpaces, hspaces⟩ := exists_insertLinks hnodup hfree
  refine ⟨{ store with deviceSpaces := deviceSpaces }, ?_⟩
  unfold insertSpaces
  rw [if_neg, hspaces]
  intro hany
  obtain ⟨space, hspace, hmissing⟩ := List.any_eq_true.mp hany
  have hsome := hknown space hspace
  rw [Option.isNone_iff_eq_none.mp hmissing] at hsome
  cases hsome

structure Cleared (store : FoundationStore) (deviceId : DeviceId) : Prop where
  endpoints : ∀ row ∈ store.endpoints.rows, row.deviceId ≠ deviceId
  capabilities : ∀ row ∈ store.capabilities.rows, row.deviceId ≠ deviceId
  aliases : ∀ row ∈ store.aliases.rows, row.1 ≠ deviceId
  deviceSpaces : ∀ row ∈ store.deviceSpaces.rows, row.1 ≠ deviceId

theorem exists_insertRows (hcleared : Cleared store device.snapshot.id) (hinsertable : Insertable device)
    (hspaces : device.spaces.Nodup)
    (hknown : ∀ space ∈ device.spaces, (store.spaces.find space).isSome) :
    ∃ store', (do
      let store ← device.snapshot.endpoints.foldlM (insertEndpoint device) store
      let store ← store.insertAliases device
      store.insertSpaces device) = Except.ok store' := by
  obtain ⟨_, hinserted⟩ := @exists_insertEndpoints store _ _ hinsertable.endpoints
    hinsertable.capabilities hinsertable.versions
    (by
      intro endpoint _
      rw [Table.find_eq_none]
      intro row hrow heq
      exact hcleared.endpoints row hrow (congrArg Prod.fst heq))
    (by
      intro inserted hmem
      obtain ⟨endpoint, -, hmem⟩ := List.mem_flatMap.mp hmem
      rw [Table.find_eq_none]
      intro row hrow heq
      have howner : row.deviceId = inserted.deviceId := congrArg (fun key => key.1.1) heq
      exact hcleared.capabilities row hrow (howner.trans (mem_capabilityRows hmem).1))
  obtain ⟨endpoints, capabilities, rfl, -⟩ := insertEndpoints_ok hinserted
  apply exists_bind hinserted
  obtain ⟨aliases, haliases⟩ := @exists_insertAliases
    { store with endpoints := endpoints, capabilities := capabilities } _ hinsertable.aliases hcleared.aliases
  apply exists_bind haliases
  exact exists_insertSpaces hspaces hknown hcleared.deviceSpaces

theorem exists_upsertDevice (hupdates : Updates store device) (hconsistent : Consistent store)
    (hfree : ∀ projection ∈ store.projections.rows, projection.deviceId ≠ device.snapshot.id) :
    ∃ store', store.upsertDevice device = .ok store' := by
  obtain ⟨row, hfind, -⟩ := hupdates.stored
  unfold upsertDevice
  apply exists_bind (exists_upsertDeviceRow (hupdates.unclaimed hconsistent) hfind)
  apply exists_bind (@deleteEndpoints_eq
    { store with devices := store.devices.replace { row with record := device } } _ hfree)
  refine exists_insertRows ⟨?_, ?_, ?_, ?_⟩ (hupdates.insertable hconsistent) hupdates.spaces hupdates.known
  · intro other hother
    simpa using (Table.mem_filter.mp hother).2
  · intro other hother howner
    obtain ⟨hother, hkept⟩ := Table.mem_filter.mp hother
    have howns := (@ownsEndpoint_iff store device.snapshot.id _
      (hconsistent.capabilities other hother)).mpr howner
    change (!store.ownsEndpoint device.snapshot.id (other.deviceId, other.endpointId)) = true at hkept
    rw [howns] at hkept
    cases hkept
  · intro other hother
    simpa using (Table.mem_filter.mp hother).2
  · intro other hother
    simpa using (Table.mem_filter.mp hother).2

structure SameMatter (store store' : FoundationStore) : Prop where
  projections : store'.projections = store.projections
  slots : store'.slots = store.slots
  authorizations : store'.authorizations = store.authorizations
  supersessions : store'.supersessions = store.supersessions

theorem Rewritten.sameMatter (h : Rewritten device store store') : SameMatter store store' := by
  obtain ⟨⟨_, _, _, _, _, rfl⟩, _⟩ := h
  exact ⟨rfl, rfl, rfl, rfl⟩

theorem Updates.upsertDevice (h : store.upsertDevice device = .ok store') (hdevice : Updates store device)
    (hconsistent : Consistent store) {other : DeviceRecord} (hother : Updates store other) :
    Updates store' other := by
  have hrewritten := upsertDevice_ok h
  obtain ⟨row, hfind, hintegration, hnative, hendpoints, hdescriptors⟩ := hother.stored
  obtain ⟨current, hcurrent, -, -, hendpoints', hdescriptors'⟩ := hdevice.stored
  have hdevices : store'.devices = store.devices.replace { current with record := device } := by
    have hrow := hrewritten.row
    rw [exists_upsertDeviceRow (hdevice.unclaimed hconsistent) hcurrent, Except.ok.injEq] at hrow
    exact (congrArg FoundationStore.devices hrow).symm
  have hid : current.id = device.snapshot.id := (Table.find_eq_some.mp hcurrent).2
  have hstored : store.devices.find current.id = some current := by
    rw [hid]
    exact hcurrent
  refine ⟨?_, hother.aliases, hother.spaces, ?_⟩
  · rw [hdevices, Table.find_replace (t := store.devices) (a := { current with record := device }) hstored]
    by_cases heq : current.id = other.snapshot.id
    · -- the device was written under its own row
      rw [if_pos heq]
      have hsame : current = row := by
        rw [← heq, hid, hcurrent] at hfind
        exact Option.some.inj hfind
      subst hsame
      exact ⟨_, rfl, hintegration, hnative, hendpoints'.symm.trans hendpoints,
        hdescriptors'.symm.trans hdescriptors⟩
    · rw [if_neg heq]
      exact ⟨row, hfind, hintegration, hnative, hendpoints, hdescriptors⟩
  · obtain ⟨⟨_, _, _, _, _, rfl⟩, _⟩ := hrewritten
    exact hother.known

/-- A device can be written again unless a projection hangs off it. -/
theorem device_writes_of_consistent (hconsistent : Consistent store) {devices : List DeviceRecord}
    (hdevices : ∀ device ∈ devices, Updates store device) :
    (∃ store', devices.foldlM upsertDevice store = .ok store' ∧ SameMatter store store') ↔
      ∀ device ∈ devices, ∀ projection ∈ store.projections.rows,
        projection.deviceId ≠ device.snapshot.id := by
  induction devices generalizing store with
  | nil => exact ⟨fun _ _ h => (nomatch h), fun _ => ⟨store, rfl, rfl, rfl, rfl, rfl⟩⟩
  | cons device rest ih =>
    have hdevice := hdevices device List.mem_cons_self
    have hrest : ∀ next, store.upsertDevice device = .ok next → ∀ other ∈ rest, Updates next other :=
      fun next hnext other hother =>
        hdevice.upsertDevice hnext hconsistent (hdevices other (List.mem_cons_of_mem device hother))
    rw [List.foldlM_cons]
    constructor
    · rintro ⟨store', h, hsame⟩
      obtain ⟨next, hnext, hothers⟩ := bind_inv h
      have hrewritten := upsertDevice_ok hnext
      have hmatter := hrewritten.sameMatter
      have hsame' : SameMatter next store' :=
        ⟨hsame.projections.trans hmatter.projections.symm, hsame.slots.trans hmatter.slots.symm,
          hsame.authorizations.trans hmatter.authorizations.symm,
          hsame.supersessions.trans hmatter.supersessions.symm⟩
      have hfree := (ih (hconsistent.upsertDevice hnext) (hrest next hnext)).mp ⟨store', hothers, hsame'⟩
      intro other hother projection hprojection
      rcases List.mem_cons.mp hother with rfl | hother
      · intro howner
        have hunreferenced := hrewritten.unreferenced projection hprojection
        rw [(ownsEndpoint_iff (hconsistent.projections projection hprojection)).mpr howner] at hunreferenced
        cases hunreferenced
      · exact hfree other hother projection (hmatter.projections ▸ hprojection)
    · intro hfree
      obtain ⟨next, hnext⟩ := exists_upsertDevice hdevice hconsistent (hfree device List.mem_cons_self)
      have hmatter := (upsertDevice_ok hnext).sameMatter
      obtain ⟨store', hothers, hsame⟩ :=
        (ih (hconsistent.upsertDevice hnext) (hrest next hnext)).mpr (by
          intro other hother projection hprojection
          rw [hmatter.projections] at hprojection
          exact hfree other (List.mem_cons_of_mem device hother) projection hprojection)
      refine ⟨store', ?_, hsame.projections.trans hmatter.projections, hsame.slots.trans hmatter.slots,
        hsame.authorizations.trans hmatter.authorizations, hsame.supersessions.trans hmatter.supersessions⟩
      rw [hnext]
      exact hothers

/-- From every reachable state, writing records of stored devices with their stored endpoints
succeeds and keeps the Matter rows exactly when none of these devices owns a projection. -/
theorem device_writes_succeed_iff (h : Reachable store) (devices : List DeviceRecord)
    (hdevices : ∀ device ∈ devices, Updates store device) :
    (∃ store', devices.foldlM upsertDevice store = .ok store' ∧ SameMatter store store') ↔
      ∀ device ∈ devices, ∀ projection ∈ store.projections.rows,
        projection.deviceId ≠ device.snapshot.id :=
  device_writes_of_consistent h.consistent hdevices

def hallRecord : DeviceRecord where
  installationId := 1
  integrationId := 1
  snapshot := ⟨1, "node-1", "Hall", [⟨"lock", none, []⟩], 0⟩
  lifecycle := .enrolled
  availability := Availability.unknown 0
  timestamps := ⟨0, 0, none⟩
  aliases := []
  spaces := []
  capabilityDescriptors := []

def hallWrite : FoundationWrite :=
  ⟨[1], [⟨1, 1, "matter", "main"⟩], [], [hallRecord], [], [], []⟩

def hallStore : FoundationStore :=
  { FoundationStore.empty with
    installations := ⟨[1], by decide⟩
    integrations := ⟨[⟨1, 1, "matter", "main"⟩], by decide⟩
    devices := ⟨[⟨1, 1, 1, "node-1", hallRecord⟩], by decide⟩
    endpoints := ⟨[⟨1, "lock", none⟩], by decide⟩ }

theorem hallStore_reachable : Reachable hallStore :=
  .change .empty (.apply hallWrite rfl)

def renamedHall : DeviceRecord :=
  { hallRecord with aliases := ["front door"] }

theorem renamedHall_updates {store : FoundationStore} (hdevices : store.devices = hallStore.devices) :
    Updates store renamedHall := by
  refine ⟨⟨⟨1, 1, 1, "node-1", hallRecord⟩, ?_, rfl, rfl, rfl, rfl⟩, by decide, by decide,
    fun _ h => (nomatch h)⟩
  rw [hdevices]
  rfl

theorem wired_device_renamed :
    ∃ store', [renamedHall].foldlM upsertDevice hallStore = .ok store' ∧ SameMatter hallStore store' :=
  (device_writes_succeed_iff hallStore_reachable [renamedHall] (by
    intro device hdevice
    rw [List.mem_singleton.mp hdevice]
    exact renamedHall_updates rfl)).mpr (fun _ _ _ h => nomatch h)

def matterHallStore : FoundationStore :=
  { hallStore with
    projections := ⟨[⟨1, 1, 1, 1, 1, 1, "lock", "access_control.v1", initialMatterProjectedState 1, 1, 0⟩],
      by decide⟩ }

/-- A Matter device cannot even get an alias: its endpoint row must not be deleted. -/
theorem matter_device_not_renamed :
    Reachable matterHallStore ∧ Updates matterHallStore renamedHall ∧
      matterHallStore.upsertDevice renamedHall = .error .constraint := by
  refine ⟨.change hallStore_reachable (.matter ?_), renamedHall_updates rfl, rfl⟩
  intro row hrow
  rw [List.mem_singleton.mp hrow]
  rfl

end FoundationStore
end HomeMagic
