import HomeMagic.LiveObservations

/-! Reconciliation of the devices that a scan has found with the registry. -/
namespace HomeMagic

inductive ApplicationError
  | domainInvariant
  | repository (operation : String) (error : StorageError)
  | deviceNotFound (id : DeviceId)
  deriving DecidableEq

structure FreshIds where
  event : ℕ → EventId
  repair : ℕ → RepairId
  correlation : CorrelationId

/-- `DeviceId::from_integration`, a name-based UUID: different names have different identifiers. -/
structure DeviceIdentities where
  fromIntegration : IntegrationId → String → DeviceId
  injective : ∀ {integration integration' native native'},
    fromIntegration integration native = fromIntegration integration' native' →
      integration = integration' ∧ native = native'

structure DiscoveryCandidate where
  installationId : InstallationId
  integrationId : IntegrationId
  snapshot : DeviceSnapshot
  discoveredAt : Instant
  repairs : List RepairRecord

def DiscoveryCandidate.nativeKey (candidate : DiscoveryCandidate) : IntegrationId × String :=
  (candidate.integrationId, candidate.snapshot.nativeId)

namespace DeviceTimestamps

def seenFirst (at_ : Instant) : DeviceTimestamps := ⟨at_, at_, none⟩

end DeviceTimestamps

def descriptors (snapshot : DeviceSnapshot) : List (EndpointId × List CapabilityDescriptor) :=
  snapshot.endpoints.map (fun endpoint => (endpoint.id, endpoint.capabilities.map CapabilitySnapshot.descriptor))

namespace DeviceRecord

def candidate (installationId : InstallationId) (integrationId : IntegrationId) (snapshot : DeviceSnapshot)
    (firstSeen : Instant) : DeviceRecord where
  installationId := installationId
  integrationId := integrationId
  snapshot := snapshot
  lifecycle := .candidate
  availability := Availability.unknown firstSeen
  timestamps := DeviceTimestamps.seenFirst firstSeen
  aliases := []
  spaces := []
  capabilityDescriptors := descriptors snapshot

def replaceSnapshot (record : DeviceRecord) (snapshot : DeviceSnapshot) : DeviceRecord :=
  { record with
    snapshot := { snapshot with id := record.snapshot.id }
    capabilityDescriptors := descriptors snapshot }

def transition (record : DeviceRecord) (trigger : LifecycleTrigger) : Except ApplicationError DeviceRecord :=
  match record.lifecycle.transition trigger with
  | none => .error .domainInvariant
  | some lifecycle => .ok { record with lifecycle := lifecycle }

def recordSeen (record : DeviceRecord) (at_ : Instant) : Except ApplicationError DeviceRecord :=
  match record.timestamps.recordSeen at_ with
  | none => .error .domainInvariant
  | some timestamps => .ok { record with timestamps := timestamps }

def recordSuccess (record : DeviceRecord) (at_ : Instant) : Except ApplicationError DeviceRecord :=
  match record.timestamps.recordSuccess at_ with
  | none => .error .domainInvariant
  | some timestamps => .ok { record with timestamps := timestamps }

def becomes (record : DeviceRecord) (state : AvailabilityState) (at_ : Instant) (reason : Option String) :
    DeviceRecord :=
  { record with availability := record.availability.transition state at_ reason }

def nativeKey (record : DeviceRecord) : IntegrationId × String := (record.integrationId, record.snapshot.nativeId)

end DeviceRecord

def FreshIds.tell (ids : FreshIds) (events : List DomainEvent) (deviceId : DeviceId) (occurredAt : Instant)
    (kind : DomainEventKind) : List DomainEvent :=
  events ++ [⟨ids.event events.length, some deviceId, occurredAt, ids.correlation, none, kind⟩]

def tellLifecycle (ids : FreshIds) (events : List DomainEvent) (record : DeviceRecord) (from_ : DeviceLifecycle)
    (trigger : LifecycleTrigger) : List DomainEvent :=
  ids.tell events record.snapshot.id record.snapshot.observedAt (.lifecycleChanged from_ record.lifecycle trigger)

def tellAvailability (ids : FreshIds) (events : List DomainEvent) (record : DeviceRecord)
    (from_ : AvailabilityState) : List DomainEvent :=
  ids.tell events record.snapshot.id record.snapshot.observedAt
    (.availabilityChanged from_ record.availability.state record.availability.reason)

def enroll (ids : FreshIds) (record : DeviceRecord) (events : List DomainEvent) :
    Except ApplicationError (DeviceRecord × List DomainEvent) :=
  if record.lifecycle = .enrolled then .ok (record, events)
  else do
    let trigger := if record.lifecycle = .candidate then LifecycleTrigger.enroll else .rediscover
    let enrolled ← record.transition trigger
    .ok (enrolled, tellLifecycle ids events enrolled record.lifecycle trigger)

def updateRecord (ids : FreshIds) (record : DeviceRecord) (candidate : DiscoveryCandidate)
    (events : List DomainEvent) : Except ApplicationError (DeviceRecord × List DomainEvent) := do
  let previousAvailability := record.availability.state
  let record := record.replaceSnapshot candidate.snapshot
  let record ← record.recordSeen candidate.discoveredAt
  let record ← record.recordSuccess record.snapshot.observedAt
  let (record, events) ← enroll ids record events
  let record := record.becomes .online record.snapshot.observedAt none
  .ok (record, if previousAvailability = record.availability.state then events
    else tellAvailability ids events record previousAvailability)

def enrollCandidate (ids : FreshIds) (candidate : DiscoveryCandidate) (events : List DomainEvent) :
    Except ApplicationError (DeviceRecord × List DomainEvent) := do
  let record := DeviceRecord.candidate candidate.installationId candidate.integrationId candidate.snapshot
    (min candidate.discoveredAt candidate.snapshot.observedAt)
  let record ← record.transition .enroll
  let record ← record.recordSuccess record.snapshot.observedAt
  let record := record.becomes .online record.snapshot.observedAt none
  .ok (record, tellAvailability ids (tellLifecycle ids events record .candidate .enroll) record .unknown)

/-- The records so far, the index of their native keys, the records that changed, and what goes with them. -/
structure Reconciliation where
  records : DeviceTable
  index : IntegrationId × String → Option DeviceId
  changed : DeviceTable
  events : List DomainEvent
  repairs : List RepairRecord
  accepted : ℕ

def nativeIndex (records : DeviceTable) (key : IntegrationId × String) : Option DeviceId :=
  ((records.rows.filter (fun record => record.nativeKey = key)).map (fun record => record.snapshot.id)).max?

def identityCollision (ids : FreshIds) (repairs : List RepairRecord) (conflicting : DeviceId) : List RepairRecord :=
  repairs ++ [⟨ids.repair repairs.length, some conflicting, none⟩]

def reconcileCandidate (identities : DeviceIdentities) (ids : FreshIds) (r : Reconciliation)
    (candidate : DiscoveryCandidate) : Except ApplicationError Reconciliation :=
  let r := { r with repairs := r.repairs ++ candidate.repairs }
  let expectedId := identities.fromIntegration candidate.integrationId candidate.snapshot.nativeId
  if candidate.snapshot.id ≠ expectedId then
    .ok { r with repairs := identityCollision ids r.repairs expectedId }
  else
    match r.index candidate.nativeKey with
    | some id =>
      match r.records.find id with
      | none => .error .domainInvariant
      | some record =>
        if record.snapshot.id ≠ candidate.snapshot.id then
          .ok { r with repairs := identityCollision ids r.repairs record.snapshot.id }
        else do
          let (updated, events) ← updateRecord ids record candidate r.events
          .ok { r with
            records := r.records.upsert updated
            changed := if updated = record then r.changed else r.changed.upsert updated
            events := events
            accepted := r.accepted + 1 }
    | none => do
      let (record, events) ← enrollCandidate ids candidate r.events
      .ok { r with
        records := r.records.upsert record
        index := Function.update r.index candidate.nativeKey (some record.snapshot.id)
        changed := r.changed.upsert record
        events := events
        accepted := r.accepted + 1 }

def inIdOrder (records : DeviceTable) : List DeviceRecord :=
  records.rows.insertionSort (fun a b => a.snapshot.id ≤ b.snapshot.id)

structure ReconciliationOutcome where
  devices : List DeviceRecord
  events : List DomainEvent
  repairs : List RepairRecord
  accepted : ℕ

def reconcile (identities : DeviceIdentities) (ids : FreshIds) (existing : DeviceTable)
    (candidates : List DiscoveryCandidate) : Except ApplicationError ReconciliationOutcome := do
  let r ← candidates.foldlM (reconcileCandidate identities ids) ⟨existing, nativeIndex existing, .empty, [], [], 0⟩
  .ok ⟨inIdOrder r.changed, r.events, r.repairs, r.accepted⟩

end HomeMagic
