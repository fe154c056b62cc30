import HomeMagic.Fallible
import HomeMagic.FoundationStore

/-! What the writes of the device tables do, the foreign keys they keep, and when a device
that owns Matter projections can be written. -/
namespace HomeMagic
open List Table

namespace FoundationStore

open Fallible

variable {store store' : FoundationStore} {device : DeviceRecord}
variable {endpoint : EndpointSnapshot} {key : EndpointKey} {deviceId : DeviceId} {endpoints : List EndpointSnapshot}
  {observation : SourcedObservation}

structure WrittenRow (device : DeviceRecord) (old : Table DeviceId DeviceRow DeviceRow.id)
    (row : DeviceRow) : Prop where
  id : row.id = device.snapshot.id
  record : row.record = device
  columns : (∃ current ∈ old.rows, current.id = row.id ∧ current.integrationId = row.integrationId ∧
      current.nativeId = row.nativeId) ∨
    row.integrationId = device.integrationId ∧ row.nativeId = device.snapshot.nativeId

def Unclaimed (device : DeviceRecord) (devices : Table DeviceId DeviceRow DeviceRow.id) : Prop :=
  ∀ row ∈ devices.rows, row.integrationId = device.integrationId →
    row.nativeId = device.snapshot.nativeId → row.id = device.snapshot.id

theorem upsertDeviceRow_ok (h : store.upsertDeviceRow device = .ok store') :
    Unclaimed device store.devices ∧ ∃ devices, store' = { store with devices := devices } ∧
      ∀ row ∈ devices.rows, row ∈ store.devices.rows ∧ row.id ≠ device.snapshot.id ∨
        WrittenRow device store.devices row := by
  unfold upsertDeviceRow at h
  split at h
  · cases h
  next hclaimed =>
    refine ⟨?_, ?_⟩
    · intro row hrow hintegration hnative
      by_contra hne
      exact hclaimed (List.any_eq_true.mpr ⟨row, hrow, by simp [hne, hintegration, hnative]⟩)
    · split at h
      next row hfind =>
        cases h
        refine ⟨_, rfl, ?_⟩
        intro row' hrow'
        obtain ⟨hrow, hid⟩ := find_eq_some.mp hfind
        rcases (mem_replace (a := { row with record := device }) (hid ▸ hfind)).mp hrow' with
          rfl | ⟨hold, hne⟩
        · exact Or.inr ⟨hid, rfl, Or.inl ⟨row, hrow, rfl, rfl, rfl⟩⟩
        · exact Or.inl ⟨hold, fun heq => hne (heq.trans hid.symm)⟩
      next hfind =>
        split at h
        · cases h
        · cases h
          refine ⟨_, rfl, ?_⟩
          intro row' hrow'
          rcases (mem_insert (h := hfind)).mp hrow' with hold | rfl
          · exact Or.inl ⟨hold, find_eq_none.mp hfind row' hold⟩
          · exact Or.inr ⟨rfl, rfl, Or.inr ⟨rfl, rfl⟩⟩

theorem exists_upsertDeviceRow {row : DeviceRow} (hunclaimed : Unclaimed device store.devices)
    (hfind : store.devices.find device.snapshot.id = some row) :
    store.upsertDeviceRow device =
      .ok { store with devices := store.devices.replace { row with record := device } } := by
  unfold upsertDeviceRow
  rw [if_neg]
  · split
    next row' hfind' =>
      rw [hfind] at hfind'
      cases hfind'
      rfl
    next hnone =>
      rw [hfind] at hnone
      cases hnone
  · intro hany
    obtain ⟨other, hother, hclaims⟩ := List.any_eq_true.mp hany
    simp only [Bool.and_eq_true, bne_iff_ne, beq_iff_eq] at hclaims
    exact hclaims.1.1 (hunclaimed other hother hclaims.1.2 hclaims.2)

theorem deleteEndpoints_ok (h : store.deleteEndpoints deviceId = .ok store') :
    store' = { store with
      endpoints := store.endpoints.filter (fun row => row.deviceId != deviceId)
      capabilities := store.capabilities.filter (fun row =>
        !store.ownsEndpoint deviceId (row.deviceId, row.endpointId))
      observations := store.observations.filter (fun row =>
        !store.ownsEndpoint deviceId (row.deviceId, row.endpointId)) } ∧
    ∀ projection ∈ store.projections.rows,
      store.ownsEndpoint deviceId (projection.deviceId, projection.endpointId) = false := by
  unfold deleteEndpoints at h
  split at h
  · cases h
  next hnone =>
    cases h
    refine ⟨rfl, ?_⟩
    intro projection hprojection
    rw [Bool.eq_false_iff]
    intro howns
    exact hnone (List.any_eq_true.mpr ⟨projection, hprojection, howns⟩)

theorem insertEndpoint_ok (h : insertEndpoint device store endpoint = .ok store') :
    ∃ endpoints capabilities,
      store' = { store with endpoints := endpoints, capabilities := capabilities } ∧
      endpoints.rows = store.endpoints.rows ++ [endpointRow device endpoint] ∧
      capabilities.rows = store.capabilities.rows ++ capabilityRows device endpoint ∧
      ∀ row ∈ capabilityRows device endpoint, row.descriptor.version ≠ 0 := by
  unfold insertEndpoint at h
  split at h
  · cases h
  next endpoints hendpoints =>
    split at h
    · cases h
    next hversions =>
      split at h
      · cases h
      next capabilities hcapabilities =>
        cases h
        refine ⟨_, _, rfl, rows_insertAll hendpoints, rows_insertAll hcapabilities, ?_⟩
        intro row hrow hzero
        exact hversions (List.any_eq_true.mpr ⟨row, hrow, by simpa using hzero⟩)

theorem insertEndpoints_ok (h : endpoints.foldlM (insertEndpoint device) store = .ok store') :
    ∃ inserted capabilities,
      store' = { store with endpoints := inserted, capabilities := capabilities } ∧
      inserted.rows = store.endpoints.rows ++ endpoints.map (endpointRow device) ∧
      capabilities.rows = store.capabilities.rows ++ endpoints.flatMap (capabilityRows device) ∧
      ∀ row ∈ endpoints.flatMap (capabilityRows device), row.descriptor.version ≠ 0 := by
  induction endpoints generalizing store with
  | nil =>
    cases h
    exact ⟨store'.endpoints, store'.capabilities, rfl, by simp, by simp, by simp⟩
  | cons endpoint rest ih =>
    rw [foldlM_cons] at h
    obtain ⟨next, hfirst, hrest⟩ := bind_inv h
    obtain ⟨_, _, rfl, hendpoints, hcapabilities, hversions⟩ := insertEndpoint_ok hfirst
    obtain ⟨inserted, capabilities, rfl, hendpoints', hcapabilities', hversions'⟩ := ih hrest
    refine ⟨inserted, capabilities, rfl, ?_, ?_, ?_⟩
    · rw [hendpoints', hendpoints, map_cons, append_assoc, singleton_append]
    · rw [hcapabilities', hcapabilities, flatMap_cons, append_assoc]
    · intro row hrow
      rw [flatMap_cons, mem_append] at hrow
      exact hrow.elim (hversions row) (hversions' row)

/-- Rows that do not collide can be inserted. -/
theorem exists_insertEndpoints {endpoints : List EndpointSnapshot}
    (hids : (endpoints.map (fun endpoint => endpoint.id)).Nodup)
    (hkeys : ((endpoints.flatMap (capabilityRows device)).map CapabilityRow.key).Nodup)
    (hversions : ∀ row ∈ endpoints.flatMap (capabilityRows device), row.descriptor.version ≠ 0)
    (hfree : ∀ endpoint ∈ endpoints, store.endpoints.find (device.snapshot.id, endpoint.id) = none)
    (hfreeRows : ∀ row ∈ endpoints.flatMap (capabilityRows device), store.capabilities.find row.key = none) :
    ∃ store', endpoints.foldlM (insertEndpoint device) store = .ok store' := by
  induction endpoints generalizing store with
  | nil => exact ⟨store, rfl⟩
  | cons endpoint rest ih =>
    rw [map_cons, nodup_cons] at hids
    rw [flatMap_cons, map_append, nodup_append] at hkeys
    obtain ⟨hkeysHead, hkeysRest, hkeysApart⟩ := hkeys
    simp only [flatMap_cons, mem_append] at hversions hfreeRows
    obtain ⟨inserted, hinserted⟩ := exists_insertAll (t := store.endpoints)
      (l := [endpointRow device endpoint]) (by simp)
      (by simpa [endpointRow, EndpointRow.key] using hfree endpoint mem_cons_self)
    obtain ⟨capabilities, hcapabilities⟩ := exists_insertAll (t := store.capabilities) hkeysHead
      (fun row hrow => hfreeRows row (Or.inl hrow))
    have hfirst : insertEndpoint device store endpoint =
        .ok { store with endpoints := inserted, capabilities := capabilities } := by
      unfold insertEndpoint
      rw [hinserted]
      dsimp only
      rw [if_neg, hcapabilities]
      intro hany
      obtain ⟨row, hrow, hzero⟩ := List.any_eq_true.mp hany
      exact hversions row (Or.inl hrow) (by simpa using hzero)
    rw [foldlM_cons, hfirst]
    refine ih hids.2 hkeysRest (fun row hrow => hversions row (Or.inr hrow)) ?_ ?_
    · intro other hother
      rw [find_eq_none]
      intro row hrow heq
      rw [show ({ store with endpoints := inserted, capabilities := capabilities } : FoundationStore).endpoints.rows
        = store.endpoints.rows ++ [endpointRow device endpoint] from rows_insertAll hinserted] at hrow
      rcases mem_append.mp hrow with hold | hnew
      · exact find_eq_none.mp (hfree other (mem_cons_of_mem endpoint hother)) row hold heq
      · rw [mem_singleton.mp hnew] at heq
        have hid : endpoint.id = other.id := congrArg Prod.snd heq
        exact hids.1 (hid ▸ List.mem_map_of_mem hother)
    · intro other hother
      rw [find_eq_none]
      intro row hrow heq
      rw [show ({ store with endpoints := inserted, capabilities := capabilities } : FoundationStore).capabilities.rows
        = store.capabilities.rows ++ capabilityRows device endpoint from rows_insertAll hcapabilities] at hrow
      rcases mem_append.mp hrow with hold | hnew
      · exact find_eq_none.mp (hfreeRows other (Or.inr hother)) row hold heq
      · exact hkeysApart row.key (List.mem_map_of_mem hnew) other.key (List.mem_map_of_mem hother) heq

theorem insertAliases_ok (h : store.insertAliases device = .ok store') :
    ∃ aliases, store' = { store with aliases := aliases } ∧ device.aliases.Nodup := by
  unfold insertAliases at h
  split at h
  · cases h
  next aliases haliases =>
    cases h
    have hnodup := nodup_of_insertAll haliases
    rw [List.map_id] at hnodup
    exact ⟨aliases, rfl, hnodup.of_map _⟩

theorem insertSpaces_ok (h : store.insertSpaces device = .ok store') :
    ∃ deviceSpaces, store' = { store with deviceSpaces := deviceSpaces } := by
  unfold insertSpaces at h
  split at h
  · cases h
  · split at h
    · cases h
    · cases h
      exact ⟨_, rfl⟩

structure Insertable (device : DeviceRecord) : Prop where
  endpoints : (device.snapshot.endpoints.map (fun endpoint => endpoint.id)).Nodup
  capabilities : ((device.snapshot.endpoints.flatMap (capabilityRows device)).map CapabilityRow.key).Nodup
  versions : ∀ row ∈ device.snapshot.endpoints.flatMap (capabilityRows device), row.descriptor.version ≠ 0
  aliases : device.aliases.Nodup

/-- What a successful `upsert_device` leaves behind. The observations of the device go with its
endpoints. -/
structure Rewritten (device : DeviceRecord) (store store' : FoundationStore) : Prop where
  frame : ∃ devices endpoints capabilities aliases deviceSpaces, store' = { store with
    devices := devices, endpoints := endpoints, capabilities := capabilities, aliases := aliases,
    deviceSpaces := deviceSpaces,
    observations := store.observations.filter (fun row =>
      !store.ownsEndpoint device.snapshot.id (row.deviceId, row.endpointId)) }
  unclaimed : Unclaimed device store.devices
  row : store.upsertDeviceRow device = .ok { store with devices := store'.devices }
  devices : ∀ row ∈ store'.devices.rows, row ∈ store.devices.rows ∧ row.id ≠ device.snapshot.id ∨
    WrittenRow device store.devices row
  endpoints : store'.endpoints.rows = store.endpoints.rows.filter (fun row =>
    row.deviceId != device.snapshot.id) ++ device.snapshot.endpoints.map (endpointRow device)
  capabilities : store'.capabilities.rows = store.capabilities.rows.filter (fun row =>
      !store.ownsEndpoint device.snapshot.id (row.deviceId, row.endpointId)) ++
    device.snapshot.endpoints.flatMap (capabilityRows device)
  unreferenced : ∀ projection ∈ store.projections.rows,
    store.ownsEndpoint device.snapshot.id (projection.deviceId, projection.endpointId) = false
  insertable : Insertable device

theorem upsertDevice_ok (h : store.upsertDevice device = .ok store') : Rewritten device store store' := by
  unfold upsertDevice at h
  obtain ⟨_, hrow, h⟩ := bind_inv h
  obtain ⟨hunclaimed, devices, rfl, hdevices⟩ := upsertDeviceRow_ok hrow
  obtain ⟨_, hdelete, h⟩ := bind_inv h
  obtain ⟨hdeleted, hunreferenced⟩ := deleteEndpoints_ok hdelete
  rw [hdeleted] at h
  obtain ⟨_, hinsert, h⟩ := bind_inv h
  obtain ⟨endpoints, capabilities, rfl, hendpoints, hcapabilities, hversions⟩ := insertEndpoints_ok hinsert
  obtain ⟨_, haliases, h⟩ := bind_inv h
  obtain ⟨aliases, rfl, hnames⟩ := insertAliases_ok haliases
  obtain ⟨deviceSpaces, rfl⟩ := insertSpaces_ok h
  -- the distinct keys of the two tables are those of the record's rows
  have hids : ((device.snapshot.endpoints.map (endpointRow device)).map EndpointRow.key).Nodup := by
    have hnodup := endpoints.nodup
    rw [hendpoints, map_append] at hnodup
    exact hnodup.of_append_right
  have hkeys : ((device.snapshot.endpoints.flatMap (capabilityRows device)).map CapabilityRow.key).Nodup := by
    have hnodup := capabilities.nodup
    rw [hcapabilities, map_append] at hnodup
    exact hnodup.of_append_right
  refine ⟨⟨devices, endpoints, capabilities, aliases, deviceSpaces, rfl⟩, hunclaimed, hrow, hdevices,
    hendpoints, hcapabilities, hunreferenced, ?_, hkeys, hversions, hnames⟩
  rw [List.map_map] at hids
  exact List.Nodup.of_map (fun id => (device.snapshot.id, id)) (by rw [List.map_map]; exact hids)

/-- The declared references into the endpoints hold, and every stored record was inserted once. -/
structure Consistent (store : FoundationStore) : Prop where
  capabilities : ∀ row ∈ store.capabilities.rows, (store.endpoints.find (row.deviceId, row.endpointId)).isSome
  observations : ∀ row ∈ store.observations.rows, (store.endpoints.find (row.deviceId, row.endpointId)).isSome
  projections : ∀ row ∈ store.projections.rows, (store.endpoints.find (row.deviceId, row.endpointId)).isSome
  devices : ∀ row ∈ store.devices.rows, Insertable row.record ∧ row.record.snapshot.id = row.id
  unique : ∀ row ∈ store.devices.rows, ∀ row' ∈ store.devices.rows,
    row.integrationId = row'.integrationId → row.nativeId = row'.nativeId → row.id = row'.id

theorem isSome_find_iff :
    (store.endpoints.find key).isSome ↔ ∃ row ∈ store.endpoints.rows, row.key = key := by
  rw [Option.isSome_iff_exists]
  constructor
  · rintro ⟨row, hrow⟩
    exact ⟨row, find_eq_some.mp hrow⟩
  · rintro ⟨row, hrow⟩
    exact ⟨row, find_eq_some.mpr hrow⟩

theorem ownsEndpoint_iff {deviceId : DeviceId} {key : EndpointKey} (h : (store.endpoints.find key).isSome) :
    store.ownsEndpoint deviceId key = true ↔ key.1 = deviceId := by
  simp [ownsEndpoint, h]

theorem Consistent.empty : Consistent FoundationStore.empty :=
  ⟨fun _ h => (nomatch h), fun _ h => (nomatch h), fun _ h => (nomatch h), fun _ h => (nomatch h),
    fun _ h => (nomatch h)⟩

namespace Rewritten

variable (h : Rewritten device store store')
include h

theorem projections : store'.projections = store.projections := by
  obtain ⟨⟨_, _, _, _, _, rfl⟩, _⟩ := h
  rfl

theorem observations : store'.observations = store.observations.filter (fun row =>
    !store.ownsEndpoint device.snapshot.id (row.deviceId, row.endpointId)) := by
  obtain ⟨⟨_, _, _, _, _, rfl⟩, _⟩ := h
  rfl

theorem endpoint_of_ne (hkey : (store.endpoints.find key).isSome) (hne : key.1 ≠ device.snapshot.id) :
    (store'.endpoints.find key).isSome := by
  rw [isSome_find_iff] at hkey ⊢
  obtain ⟨row, hrow, rfl⟩ := hkey
  refine ⟨row, ?_, rfl⟩
  rw [h.endpoints, mem_append]
  exact Or.inl (List.mem_filter.mpr ⟨hrow, by simpa [EndpointRow.key] using hne⟩)

theorem endpoint_of_mem (hmem : endpoint ∈ device.snapshot.endpoints) :
    (store'.endpoints.find (device.snapshot.id, endpoint.id)).isSome := by
  rw [isSome_find_iff]
  refine ⟨endpointRow device endpoint, ?_, rfl⟩
  rw [h.endpoints, mem_append]
  exact Or.inr (List.mem_map_of_mem hmem)

theorem unique (hunique : ∀ row ∈ store.devices.rows, ∀ row' ∈ store.devices.rows,
      row.integrationId = row'.integrationId → row.nativeId = row'.nativeId → row.id = row'.id) :
    ∀ row ∈ store'.devices.rows, ∀ row' ∈ store'.devices.rows,
      row.integrationId = row'.integrationId → row.nativeId = row'.nativeId → row.id = row'.id := by
  -- a kept row and the written one never share a native identity
  have hmixed : ∀ row ∈ store.devices.rows, ∀ written, WrittenRow device store.devices written →
      row.integrationId = written.integrationId → row.nativeId = written.nativeId →
      row.id = written.id := by
    intro row hrow written hwritten hintegration hnative
    rcases hwritten.columns with ⟨current, hcurrent, hid, hintegration', hnative'⟩ | ⟨hintegration', hnative'⟩
    · rw [← hid]
      exact hunique row hrow current hcurrent (hintegration.trans hintegration'.symm)
        (hnative.trans hnative'.symm)
    · rw [hwritten.id]
      exact h.unclaimed row hrow (hintegration.trans hintegration') (hnative.trans hnative')
  intro row hrow row' hrow' hintegration hnative
  rcases h.devices row hrow with ⟨hold, -⟩ | hwritten
  · rcases h.devices row' hrow' with ⟨hold', -⟩ | hwritten'
    · exact hunique row hold row' hold' hintegration hnative
    · exact hmixed row hold row' hwritten' hintegration hnative
  · rcases h.devices row' hrow' with ⟨hold', -⟩ | hwritten'
    · exact (hmixed row' hold' row hwritten hintegration.symm hnative.symm).symm
    · exact hwritten.id.trans hwritten'.id.symm

end Rewritten

theorem mem_capabilityRows {row : CapabilityRow} (h : row ∈ capabilityRows device endpoint) :
    row.deviceId = device.snapshot.id ∧ row.endpointId = endpoint.id := by
  unfold capabilityRows at h
  split at h
  · cases h
  · obtain ⟨_, _, rfl⟩ := List.mem_map.mp h
    exact ⟨rfl, rfl⟩

/-- Writing a device keeps the references into its endpoints. -/
theorem Consistent.upsertDevice (hconsistent : Consistent store) (h : store.upsertDevice device = .ok store') :
    Consistent store' := by
  have hrewritten := upsertDevice_ok h
  refine ⟨?_, ?_, ?_, ?_, ?_⟩
  · intro row hrow
    rw [hrewritten.capabilities, mem_append] at hrow
    rcases hrow with hold | hnew
    · obtain ⟨hrow, hkept⟩ := List.mem_filter.mp hold
      have hendpoint := hconsistent.capabilities row hrow
      apply hrewritten.endpoint_of_ne hendpoint
      intro heq
      rw [(ownsEndpoint_iff hendpoint).mpr heq] at hkept
      cases hkept
    · obtain ⟨endpoint, hendpoint, hmem⟩ := mem_flatMap.mp hnew
      obtain ⟨hdevice, hid⟩ := mem_capabilityRows hmem
      rw [hdevice, hid]
      exact hrewritten.endpoint_of_mem hendpoint
  · intro row hrow
    rw [hrewritten.observations] at hrow
    obtain ⟨hrow, hkept⟩ := Table.mem_filter.mp hrow
    have hendpoint := hconsistent.observations row hrow
    apply hrewritten.endpoint_of_ne hendpoint
    intro heq
    rw [(ownsEndpoint_iff hendpoint).mpr heq] at hkept
    cases hkept
  · intro row hrow
    rw [hrewritten.projections] at hrow
    have hendpoint := hconsistent.projections row hrow
    apply hrewritten.endpoint_of_ne hendpoint
    intro heq
    have hfalse := hrewritten.unreferenced row hrow
    rw [(ownsEndpoint_iff hendpoint).mpr heq] at hfalse
    cases hfalse
  · intro row hrow
    rcases hrewritten.devices row hrow with ⟨hold, -⟩ | hwritten
    · exact hconsistent.devices row hold
    · rw [hwritten.record, hwritten.id]
      exact ⟨hrewritten.insertable, rfl⟩
  · exact hrewritten.unique hconsistent.unique

structure SameDevices (store store' : FoundationStore) : Prop where
  devices : store'.devices = store.devices
  endpoints : store'.endpoints = store.endpoints
  capabilities : store'.capabilities = store.capabilities
  observations : store'.observations = store.observations
  projections : store'.projections = store.projections

theorem Consistent.of_same (hconsistent : Consistent store) (h : SameDevices store store') :
    Consistent store' := by
  refine ⟨?_, ?_, ?_, ?_, ?_⟩
  · rw [h.capabilities, h.endpoints]
    exact hconsistent.capabilities
  · rw [h.observations, h.endpoints]
    exact hconsistent.observations
  · rw [h.projections, h.endpoints]
    exact hconsistent.projections
  · rw [h.devices]
    exact hconsistent.devices
  · rw [h.devices]
    exact hconsistent.unique

theorem upsertIntegration_same {integration : IntegrationInstance}
    (h : store.upsertIntegration integration = .ok store') : SameDevices store store' := by
  unfold upsertIntegration at h
  dsimp only at h
  split at h
  · cases h
  · cases h
    exact ⟨rfl, rfl, rfl, rfl, rfl⟩

theorem upsertInstallation_same {installation : InstallationId}
    (h : store.upsertInstallation installation = .ok store') : SameDevices store store' := by
  cases h
  exact ⟨rfl, rfl, rfl, rfl, rfl⟩

theorem upsertSpace_same {space : Space} (h : store.upsertSpace space = .ok store') :
    SameDevices store store' := by
  unfold upsertSpace at h
  dsimp only at h
  split at h
  · cases h
  · cases h
    exact ⟨rfl, rfl, rfl, rfl, rfl⟩

theorem insertEvent_same {event : DomainEvent} (h : store.insertEvent event = .ok store') :
    SameDevices store store' := by
  unfold insertEvent at h
  split at h
  · cases h
  · split at h
    · cases h
    · cases h
      exact ⟨rfl, rfl, rfl, rfl, rfl⟩

theorem upsertRepair_same {repair : RepairRecord} (h : store.upsertRepair repair = .ok store') :
    SameDevices store store' := by
  unfold upsertRepair at h
  split at h
  · cases h
    exact ⟨rfl, rfl, rfl, rfl, rfl⟩
  · split at h
    · cases h
    · cases h
      exact ⟨rfl, rfl, rfl, rfl, rfl⟩

theorem upsertObservation_ok (h : store.upsertObservation observation = .ok store') :
    (store.endpoints.find (observation.deviceId, observation.endpointId)).isSome ∧
      store' = { store with observations := store.observations.upsert observation } := by
  unfold upsertObservation at h
  split at h
  · cases h
  next hendpoint =>
    cases h
    exact ⟨by simpa [Option.isSome_iff_ne_none] using hendpoint, rfl⟩

theorem Consistent.upsertObservation (hconsistent : Consistent store)
    (h : store.upsertObservation observation = .ok store') : Consistent store' := by
  obtain ⟨hendpoint, rfl⟩ := upsertObservation_ok h
  refine ⟨hconsistent.capabilities, ?_, hconsistent.projections, hconsistent.devices, hconsistent.unique⟩
  intro row hrow
  rcases mem_upsert.mp hrow with rfl | ⟨hold, -⟩
  · exact hendpoint
  · exact hconsistent.observations row hold

/-- A write goes through its seven lists one after the other. -/
theorem apply_stages {write : FoundationWrite} (h : store.apply write = .ok store') : ∃ s₁ s₂ s₃ s₄ s₅ s₆,
    write.installations.foldlM upsertInstallation store = .ok s₁ ∧
    write.integrations.foldlM upsertIntegration s₁ = .ok s₂ ∧ write.spaces.foldlM upsertSpace s₂ = .ok s₃ ∧
    write.devices.foldlM upsertDevice s₃ = .ok s₄ ∧ write.observations.foldlM upsertObservation s₄ = .ok s₅ ∧
    write.events.foldlM insertEvent s₅ = .ok s₆ ∧ write.repairs.foldlM upsertRepair s₆ = .ok store' := by
  unfold FoundationStore.apply at h
  obtain ⟨_, hinstallations, h⟩ := bind_inv h
  obtain ⟨_, hintegrations, h⟩ := bind_inv h
  obtain ⟨_, hspaces, h⟩ := bind_inv h
  obtain ⟨_, hdevices, h⟩ := bind_inv h
  obtain ⟨_, hobservations, h⟩ := bind_inv h
  obtain ⟨_, hevents, hrepairs⟩ := bind_inv h
  exact ⟨_, _, _, _, _, _, hinstallations, hintegrations, hspaces, hdevices, hobservations, hevents, hrepairs⟩

theorem Consistent.apply (hconsistent : Consistent store) {write : FoundationWrite}
    (h : store.apply write = .ok store') : Consistent store' := by
  obtain ⟨_, _, _, _, _, _, hinstallations, hintegrations, hspaces, hdevices, hobservations, hevents, hrepairs⟩ :=
    apply_stages h
  apply foldlM_keeps (fun _ _ _ _ hf hs => hs.of_same (upsertRepair_same hf)) hrepairs
  apply foldlM_keeps (fun _ _ _ _ hf hs => hs.of_same (insertEvent_same hf)) hevents
  apply foldlM_keeps (fun _ _ _ _ hf hs => hs.upsertObservation hf) hobservations
  apply foldlM_keeps (fun _ _ _ _ hf hs => hs.upsertDevice hf) hdevices
  apply foldlM_keeps (fun _ _ _ _ hf hs => hs.of_same (upsertSpace_same hf)) hspaces
  apply foldlM_keeps (fun _ _ _ _ hf hs => hs.of_same (upsertIntegration_same hf)) hintegrations
  exact foldlM_keeps (fun _ _ _ _ hf hs => hs.of_same (upsertInstallation_same hf)) hinstallations hconsistent

/-- The committed changes of the device tables. Matter commits upsert integrations and devices of
their own; whatever else they do to projections, slots, authorizations and supersessions, the
schema holds every projection to a stored endpoint. -/
inductive Changes : FoundationStore → FoundationStore → Prop
  | apply {store store' : FoundationStore} (write : FoundationWrite)
      (h : store.apply write = .ok store') : Changes store store'
  | integration {store store' : FoundationStore} (integration : IntegrationInstance)
      (h : store.upsertIntegration integration = .ok store') : Changes store store'
  | device {store store' : FoundationStore} (device : DeviceRecord)
      (h : store.upsertDevice device = .ok store') : Changes store store'
  | matter {store : FoundationStore} {projections slots authorizations supersessions}
      (h : ∀ row ∈ Table.rows projections, (store.endpoints.find (row.deviceId, row.endpointId)).isSome) :
      Changes store { store with
        projections := projections, slots := slots, authorizations := authorizations,
        supersessions := supersessions }

inductive Reachable : FoundationStore → Prop
  | empty : Reachable FoundationStore.empty
  | change {store store' : FoundationStore} (h : Reachable store) (hchange : Changes store store') :
      Reachable store'

theorem Consistent.changes (hconsistent : Consistent store) (h : Changes store store') :
    Consistent store' := by
  cases h with
  | apply write h => exact hconsistent.apply h
  | integration integration h => exact hconsistent.of_same (upsertIntegration_same h)
  | device device h => exact hconsistent.upsertDevice h
  | matter h => exact ⟨hconsistent.capabilities, hconsistent.observations, h, hconsistent.devices,
      hconsistent.unique⟩

theorem Reachable.consistent (h : Reachable store) : Consistent store := by
  induction h with
  | empty => exact Consistent.empty
  | change _ hchange ih => exact ih.changes hchange

end FoundationStore
end HomeMagic
