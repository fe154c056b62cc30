import HomeMagic.CommandStoreSpec

/-! The durable device tables, with the foreign keys that the schema declares on them, and
the Matter tables whose rows hang off an endpoint. A statement that violates a constraint
fails with its whole transaction. -/
namespace HomeMagic

abbrev RepairId := ℕ

mutual
def JsonValue.same : JsonValue → JsonValue → Bool
  | .null, .null => true
  | .bool a, .bool b => a == b
  | .integer a, .integer b => a == b
  | .number a, .number b => a == b
  | .string a, .string b => a == b
  | .array a, .array b => sameElements a b
  | .object a, .object b => sameMembers a b
  | _, _ => false

def sameElements : List JsonValue → List JsonValue → Bool
  | [], [] => true
  | a :: as, b :: bs => JsonValue.same a b && sameElements as bs
  | _, _ => false

def sameMembers : List (String × JsonValue) → List (String × JsonValue) → Bool
  | [], [] => true
  | (name, a) :: as, (name', b) :: bs => name == name' && JsonValue.same a b && sameMembers as bs
  | _, _ => false
end

mutual
theorem JsonValue.same_iff : ∀ a b : JsonValue, a.same b = true ↔ a = b
  | .null, b => by cases b <;> simp [JsonValue.same]
  | .bool a, b => by cases b <;> simp [JsonValue.same]
  | .integer a, b => by cases b <;> simp [JsonValue.same]
  | .number a, b => by cases b <;> simp [JsonValue.same]
  | .string a, b => by cases b <;> simp [JsonValue.same]
  | .array a, b => by
    cases b with
    | array b => simp [JsonValue.same, sameElements_iff a b]
    | _ => simp [JsonValue.same]
  | .object a, b => by
    cases b with
    | object b => simp [JsonValue.same, sameMembers_iff a b]
    | _ => simp [JsonValue.same]

theorem sameElements_iff : ∀ a b : List JsonValue, sameElements a b = true ↔ a = b
  | [], b => by cases b <;> simp [sameElements]
  | a :: as, b => by
    cases b with
    | nil => simp [sameElements]
    | cons b bs => simp [sameElements, JsonValue.same_iff a b, sameElements_iff as bs]

theorem sameMembers_iff : ∀ a b : List (String × JsonValue), sameMembers a b = true ↔ a = b
  | [], b => by cases b <;> simp [sameMembers]
  | (name, a) :: as, b => by
    cases b with
    | nil => simp [sameMembers]
    | cons member bs =>
      obtain ⟨name', b⟩ := member
      simp [sameMembers, JsonValue.same_iff a b, sameMembers_iff as bs]
end

instance : DecidableEq JsonValue := fun a b => decidable_of_iff _ (JsonValue.same_iff a b)

deriving instance DecidableEq for ObservedValue
deriving instance DecidableEq for CapabilityObservation

inductive ObservationSourceKind
  | fullStatus | notification | event | refreshFallback
  deriving DecidableEq

structure ObservationSource where
  integrationId : IntegrationId
  kind : ObservationSourceKind
  sequence : Option ℕ
  deriving DecidableEq

structure SourcedObservation extends CapabilityObservation where
  source : ObservationSource
  deriving DecidableEq

structure IntegrationInstance where
  id : IntegrationId
  installationId : InstallationId
  adapter : String
  instanceKey : String
  deriving DecidableEq

structure Space where
  id : SpaceId
  installationId : InstallationId
  parentId : Option SpaceId
  deriving DecidableEq

structure RepairRecord where
  id : RepairId
  deviceId : Option DeviceId
  closedAt : Option Instant
  deriving DecidableEq

structure FoundationWrite where
  installations : List InstallationId
  integrations : List IntegrationInstance
  spaces : List Space
  devices : List DeviceRecord
  observations : List SourcedObservation
  events : List DomainEvent
  repairs : List RepairRecord

/-- The identity columns are written once; an update replaces the record only. -/
structure DeviceRow where
  id : DeviceId
  installationId : InstallationId
  integrationId : IntegrationId
  nativeId : String
  record : DeviceRecord
  deriving DecidableEq

structure EndpointRow where
  deviceId : DeviceId
  endpointId : EndpointId
  name : Option String
  deriving DecidableEq

structure CapabilityRow where
  deviceId : DeviceId
  endpointId : EndpointId
  descriptor : CapabilityDescriptor
  snapshot : Option CapabilitySnapshot
  deriving DecidableEq

abbrev EndpointKey := DeviceId × EndpointId
abbrev CapabilityKey := EndpointKey × String × ℕ

def EndpointRow.key (row : EndpointRow) : EndpointKey := (row.deviceId, row.endpointId)

def CapabilityRow.key (row : CapabilityRow) : CapabilityKey :=
  ((row.deviceId, row.endpointId), row.descriptor.name, row.descriptor.version)

def SourcedObservation.key (observation : SourcedObservation) : CapabilityKey :=
  ((observation.deviceId, observation.endpointId), observation.capability.name,
    observation.capability.version)

structure FoundationStore where
  installations : Table InstallationId InstallationId id
  integrations : Table IntegrationId IntegrationInstance IntegrationInstance.id
  spaces : Table SpaceId Space Space.id
  devices : Table DeviceId DeviceRow DeviceRow.id
  endpoints : Table EndpointKey EndpointRow EndpointRow.key
  capabilities : Table CapabilityKey CapabilityRow CapabilityRow.key
  aliases : Table (DeviceId × String) (DeviceId × String) id
  deviceSpaces : Table (DeviceId × SpaceId) (DeviceId × SpaceId) id
  observations : Table CapabilityKey SourcedObservation SourcedObservation.key
  events : Table EventId DomainEvent DomainEvent.id
  repairs : Table RepairId RepairRecord RepairRecord.id
  projections : Table MatterProjectionId StoredMatterProjection StoredMatterProjection.projectionId
  slots : Table MatterProjectionId MatterDesiredCommandSlot MatterDesiredCommandSlot.projectionId
  authorizations : Table MatterUnlockAuthorizationId MatterUnlockAuthorization
    MatterUnlockAuthorization.id
  supersessions : Table CommandId MatterCommandSupersession MatterCommandSupersession.oldCommandId

namespace FoundationStore

def empty : FoundationStore :=
  ⟨.empty, .empty, .empty, .empty, .empty, .empty, .empty, .empty, .empty, .empty, .empty, .empty,
    .empty, .empty, .empty⟩

def upsertDeviceRow (store : FoundationStore) (device : DeviceRecord) :
    Except StorageError FoundationStore :=
  -- UNIQUE (integration_id, native_id)
  if store.devices.rows.any (fun row => row.id != device.snapshot.id &&
      row.integrationId == device.integrationId && row.nativeId == device.snapshot.nativeId) then
    .error .constraint
  else match h : store.devices.find device.snapshot.id with
    | some row => .ok { store with devices := store.devices.replace { row with record := device } }
    | none =>
      if (store.installations.find device.installationId).isNone ||
          (store.integrations.find device.integrationId).isNone then .error .constraint
      else .ok { store with
        devices := store.devices.insert ⟨device.snapshot.id, device.installationId,
          device.integrationId, device.snapshot.nativeId, device⟩ h }

def ownsEndpoint (store : FoundationStore) (deviceId : DeviceId) (key : EndpointKey) : Bool :=
  key.1 == deviceId && (store.endpoints.find key).isSome

/-- Deleting the endpoints of a device is refused while a projection refers to one of them, and
takes the capability and observation rows that do with it. -/
def deleteEndpoints (store : FoundationStore) (deviceId : DeviceId) :
    Except StorageError FoundationStore :=
  if store.projections.rows.any (fun projection =>
      store.ownsEndpoint deviceId (projection.deviceId, projection.endpointId)) then .error .constraint
  else .ok { store with
    endpoints := store.endpoints.filter (fun row => row.deviceId != deviceId)
    capabilities := store.capabilities.filter (fun row =>
      !store.ownsEndpoint deviceId (row.deviceId, row.endpointId))
    observations := store.observations.filter (fun row =>
      !store.ownsEndpoint deviceId (row.deviceId, row.endpointId)) }

def deleteLinks (store : FoundationStore) (deviceId : DeviceId) : FoundationStore :=
  { store with
    aliases := store.aliases.filter (fun row => row.1 != deviceId)
    deviceSpaces := store.deviceSpaces.filter (fun row => row.1 != deviceId) }

def endpointRow (device : DeviceRecord) (endpoint : EndpointSnapshot) : EndpointRow :=
  ⟨device.snapshot.id, endpoint.id, endpoint.name⟩

def capabilityRows (device : DeviceRecord) (endpoint : EndpointSnapshot) : List CapabilityRow :=
  match device.capabilityDescriptors.find? (fun entry => entry.1 == endpoint.id) with
  | none => []
  | some (_, descriptors) => descriptors.map (fun descriptor =>
      ⟨device.snapshot.id, endpoint.id, descriptor,
        endpoint.capabilities.find? (fun candidate => candidate.descriptor == descriptor)⟩)

def insertEndpoint (device : DeviceRecord) (store : FoundationStore) (endpoint : EndpointSnapshot) :
    Except StorageError FoundationStore :=
  match store.endpoints.insertAll [endpointRow device endpoint] with
  | none => .error .constraint
  | some endpoints =>
    -- CHECK (version > 0)
    if (capabilityRows device endpoint).any (fun row => row.descriptor.version == 0) then
      .error .constraint
    else match store.capabilities.insertAll (capabilityRows device endpoint) with
      | none => .error .constraint
      | some capabilities => .ok { store with endpoints := endpoints, capabilities := capabilities }

def insertAliases (store : FoundationStore) (device : DeviceRecord) :
    Except StorageError FoundationStore :=
  match store.aliases.insertAll (device.aliases.map (fun name => (device.snapshot.id, name))) with
  | none => .error .constraint
  | some aliases => .ok { store with aliases := aliases }

def insertSpaces (store : FoundationStore) (device : DeviceRecord) :
    Except StorageError FoundationStore :=
  if device.spaces.any (fun space => (store.spaces.find space).isNone) then .error .constraint
  else match store.deviceSpaces.insertAll (device.spaces.map (fun space => (device.snapshot.id, space))) with
    | none => .error .constraint
    | some deviceSpaces => .ok { store with deviceSpaces := deviceSpaces }

def upsertDevice (store : FoundationStore) (device : DeviceRecord) :
    Except StorageError FoundationStore := do
  let store ← store.upsertDeviceRow device
  let store ← store.deleteEndpoints device.snapshot.id
  let store := store.deleteLinks device.snapshot.id
  let store ← device.snapshot.endpoints.foldlM (insertEndpoint device) store
  let store ← store.insertAliases device
  store.insertSpaces device

def upsertInstallation (store : FoundationStore) (installation : InstallationId) :
    Except StorageError FoundationStore :=
  .ok { store with installations := store.installations.upsert installation }

def upsertIntegration (store : FoundationStore) (integration : IntegrationInstance) :
    Except StorageError FoundationStore :=
  let installationId :=
    ((store.integrations.find integration.id).map IntegrationInstance.installationId).getD
      integration.installationId
  -- UNIQUE (installation_id, adapter, instance_key); an update keeps the installation
  if store.integrations.rows.any (fun row => row.id != integration.id &&
      row.installationId == installationId && row.adapter == integration.adapter &&
      row.instanceKey == integration.instanceKey) ||
      (store.installations.find installationId).isNone then .error .constraint
  else .ok { store with
    integrations := store.integrations.upsert { integration with installationId := installationId } }

def upsertSpace (store : FoundationStore) (space : Space) : Except StorageError FoundationStore :=
  let installationId :=
    ((store.spaces.find space.id).map Space.installationId).getD space.installationId
  if (store.installations.find installationId).isNone ||
      space.parentId.any (fun parent => parent != space.id && (store.spaces.find parent).isNone) then
    .error .constraint
  else .ok { store with spaces := store.spaces.upsert { space with installationId := installationId } }

def upsertObservation (store : FoundationStore) (observation : SourcedObservation) :
    Except StorageError FoundationStore :=
  if (store.endpoints.find (observation.deviceId, observation.endpointId)).isNone then .error .constraint
  else .ok { store with observations := store.observations.upsert observation }

def deviceMissing (store : FoundationStore) (deviceId : Option DeviceId) : Bool :=
  deviceId.any (fun deviceId => (store.devices.find deviceId).isNone)

def insertEvent (store : FoundationStore) (event : DomainEvent) : Except StorageError FoundationStore :=
  if store.deviceMissing event.deviceId then .error .constraint
  else match store.events.insertAll [event] with
    | none => .error .constraint
    | some events => .ok { store with events := events }

def upsertRepair (store : FoundationStore) (repair : RepairRecord) :
    Except StorageError FoundationStore :=
  match store.repairs.find repair.id with
  | some current => .ok { store with repairs := store.repairs.upsert { repair with deviceId := current.deviceId } }
  | none =>
    if store.deviceMissing repair.deviceId then .error .constraint
    else .ok { store with repairs := store.repairs.upsert repair }

def apply (store : FoundationStore) (write : FoundationWrite) : Except StorageError FoundationStore := do
  let store ← write.installations.foldlM upsertInstallation store
  let store ← write.integrations.foldlM upsertIntegration store
  let store ← write.spaces.foldlM upsertSpace store
  let store ← write.devices.foldlM upsertDevice store
  let store ← write.observations.foldlM upsertObservation store
  let store ← write.events.foldlM insertEvent store
  write.repairs.foldlM upsertRepair store

end FoundationStore
end HomeMagic
