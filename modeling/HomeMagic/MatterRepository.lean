import HomeMagic.Fallible
import HomeMagic.FoundationStore
import HomeMagic.MatterOperation

/-! The durable Matter tables beside the device tables, and the transactions of the Matter
repository on them. A transaction that fails at any statement leaves no trace. -/
namespace HomeMagic

structure MatterDeviceType where
  id : ℕ
  revision : ℕ
  deriving DecidableEq

structure MatterClusterDescriptor where
  id : ℕ
  revision : ℕ
  featureMap : ℕ
  acceptedCommands : List ℕ
  attributes : List ℕ
  deriving DecidableEq

structure MatterEndpointDescriptor where
  number : MatterEndpointNumber
  deviceTypes : List MatterDeviceType
  serverClusters : List MatterClusterDescriptor
  clientClusters : List MatterClusterDescriptor
  deriving DecidableEq

structure MatterNodeDescriptor where
  fabricId : MatterFabricId
  nodeId : MatterNodeId
  endpoints : List MatterEndpointDescriptor
  descriptorRevision : ℕ
  nodeId_pos : 0 < nodeId
  nodeId_lt : nodeId < 2^64
  revision_pos : 0 < descriptorRevision
  revision_lt : descriptorRevision < 2^64
  bounded : endpoints.length ≤ 256
  distinct : (endpoints.map MatterEndpointDescriptor.number).Nodup

instance : DecidableEq MatterNodeDescriptor := fun a b =>
  decidable_of_iff (a.fabricId = b.fabricId ∧ a.nodeId = b.nodeId ∧ a.endpoints = b.endpoints ∧
    a.descriptorRevision = b.descriptorRevision) (by cases a; cases b; simp)

abbrev SecretRef := ℕ

inductive MatterFabricState
  | active | unavailable | repairRequired
  deriving DecidableEq

structure MatterFabricSecretRefs where
  rootCaKey : SecretRef
  operationalKey : SecretRef
  controllerState : SecretRef
  deriving DecidableEq

structure StoredMatterFabric where
  installationId : InstallationId
  fabricId : MatterFabricId
  state : MatterFabricState
  secrets : MatterFabricSecretRefs
  revision : ℕ
  updatedAt : Instant
  deriving DecidableEq

structure StoredMatterNode where
  installationId : InstallationId
  deviceId : DeviceId
  descriptor : MatterNodeDescriptor
  revision : ℕ
  updatedAt : Instant
  deriving DecidableEq

abbrev MatterNodeKey := MatterFabricId × MatterNodeId

def StoredMatterNode.key (node : StoredMatterNode) : MatterNodeKey :=
  (node.descriptor.fabricId, node.descriptor.nodeId)

structure MatterEndpointRow where
  nodeKey : MatterNodeKey
  descriptor : MatterEndpointDescriptor
  deriving DecidableEq

def MatterEndpointRow.key (row : MatterEndpointRow) : MatterNodeKey × MatterEndpointNumber :=
  (row.nodeKey, row.descriptor.number)

inductive StoredMatterSubscriptionState
  | pending | established | stale | repairRequired
  deriving DecidableEq

structure StoredMatterSubscriptionRecovery where
  gapReason : Option MatterSubscriptionLossReason
  sleepy : Bool
  gapReads : ℕ
  maximumGapReads : ℕ
  subscribeAttempts : ℕ
  maximumSubscribeAttempts : ℕ
  retryAt : Option Instant
  lastGapReadAt : Option Instant
  sleepyReadIntervalMillis : ℕ
  deriving DecidableEq

def StoredMatterSubscriptionRecovery.initial : StoredMatterSubscriptionRecovery :=
  ⟨none, false, 0, 1, 0, 5, none, none, 60000⟩

structure StoredMatterSubscription where
  subscriptionId : MatterSubscriptionId
  fabricId : MatterFabricId
  nodeId : MatterNodeId
  state : StoredMatterSubscriptionState
  reportSequence : ℕ
  staleAfter : Instant
  recovery : StoredMatterSubscriptionRecovery
  revision : ℕ
  updatedAt : Instant
  deriving DecidableEq

structure MatterOperationBinding where
  operationId : MatterOperationId
  actorId : ActorId
  installationId : InstallationId
  action : CommandAction
  idempotencyKey : IdempotencyKey
  requestHash : CanonicalRequestHash
  policyVersion : ℕ
  deriving DecidableEq

def MatterOperationBinding.actionForKind : MatterOperationKind → CommandAction
  | .createFabric => .matterCreateFabric
  | .commissionNode => .matterCommissionNode
  | .cancelCommissioning => .matterCancelOperation
  | .removeNode => .matterRemoveNode
  | .exportFabric => .matterExportFabric
  | .restoreFabric => .matterRestoreFabric
  | .repairSubscription => .matterRepairSubscription

inductive MatterOperationCreateOutcome
  | created (operation : MatterOperation)
  | existingEquivalent (operation : MatterOperation)
  | conflict (operationId : MatterOperationId)
  deriving DecidableEq

structure MatterOperationNodeResult where
  operationId : MatterOperationId
  fabricId : MatterFabricId
  nodeId : MatterNodeId
  deviceId : DeviceId
  createdAt : Instant
  deriving DecidableEq

structure MatterOperationTransitioned where
  operationId : MatterOperationId
  operationKind : MatterOperationKind
  source : Option MatterOperationPhase
  target : MatterOperationPhase
  revision : ℕ
  occurredAt : Instant
  actor : Option ActorId
  deriving DecidableEq

structure MatterStore where
  foundation : FoundationStore
  fabrics : Table MatterFabricId StoredMatterFabric StoredMatterFabric.fabricId
  nodes : Table MatterNodeKey StoredMatterNode StoredMatterNode.key
  endpoints : Table (MatterNodeKey × MatterEndpointNumber) MatterEndpointRow MatterEndpointRow.key
  subscriptions : Table MatterSubscriptionId StoredMatterSubscription StoredMatterSubscription.subscriptionId
  operations : Table MatterOperationId MatterOperation MatterOperation.id
  bindings : Table MatterOperationId MatterOperationBinding MatterOperationBinding.operationId
  progress : Table (MatterOperationId × ℕ) MatterOperationProgress (fun row => (row.operationId, row.revision))
  repairs : Table ℕ MatterRepairRecord MatterRepairRecord.id
  results : Table MatterOperationId MatterOperationNodeResult MatterOperationNodeResult.operationId
  events : List MatterOperationTransitioned

structure MatterNodeInventoryRecord where
  node : StoredMatterNode
  device : DeviceRecord
  projections : List StoredMatterProjection
  subscription : Option StoredMatterSubscription
  commissioningResult : Option MatterOperationNodeResult

structure MatterCommissioningCommit where
  integration : IntegrationInstance
  device : DeviceRecord
  node : StoredMatterNode
  projections : List StoredMatterProjection
  subscription : StoredMatterSubscription
  result : MatterOperationNodeResult
  operation : MatterOperation
  progress : MatterOperationProgress

structure MatterOperationWrite where
  operation : MatterOperation
  expectedRevision : ℕ
  progress : MatterOperationProgress
  repair : Option MatterRepairRecord
  deriving DecidableEq

structure MatterCancellationCommit where
  commissioning : MatterOperationWrite
  cancellation : MatterOperationWrite

structure MatterNodeRemovalCommit where
  device : DeviceRecord
  fabricId : MatterFabricId
  nodeId : MatterNodeId
  operation : MatterOperation
  progress : MatterOperationProgress

structure MatterSubscriptionProjectionWrite where
  projection : StoredMatterProjection
  expectedRevision : ℕ

structure MatterSubscriptionRepairCommit where
  operation : MatterOperationWrite
  subscription : StoredMatterSubscription
  expectedSubscriptionRevision : ℕ
  projections : List MatterSubscriptionProjectionWrite

namespace MatterOperation

def phaseAllowed : MatterOperationKind → MatterOperationPhase → Bool
  | _, .requested | _, .completed | _, .cancelled | _, .failed | _, .repairRequired => true
  | .createFabric, phase => phase == .creatingFabric
  | .commissionNode, phase => phase == .validatingSetup || phase == .discovering ||
      phase == .establishingSession || phase == .commissioning || phase == .projecting || phase == .subscribing
  | .cancelCommissioning, phase => phase == .cancelling
  | .removeNode, phase => phase == .removingNode || phase == .cleaningSecrets
  | .exportFabric, phase => phase == .exporting
  | .restoreFabric, phase => phase == .restoring || phase == .loadingFabric
  | .repairSubscription, phase => phase == .readingGap || phase == .subscribing

def validPersisted (operation : MatterOperation) : Bool :=
  operation.revision != 0 && decide (operation.createdAt ≤ operation.updatedAt) &&
    !(operation.phase == .requested && operation.revision != 1) &&
    !(operation.phase != .requested && decide (operation.revision < 2)) &&
    phaseAllowed operation.kind operation.phase

end MatterOperation

def toI64 (value : ℕ) : Except StorageError ℕ :=
  if value < 2^63 then .ok value else .error .numericOverflow

def validateRevision (resource : String) (found expected : Option ℕ) (next : ℕ) :
    Except StorageError Unit :=
  if found ≠ expected ∨ next ≠ min (expected.getD 0 + 1) (2^64 - 1) then
    .error (.matterRevisionConflict resource expected found)
  else .ok ()

namespace MatterStore

def installationForFabric (store : MatterStore) (fabricId : MatterFabricId) : Except StorageError InstallationId :=
  match store.fabrics.find fabricId with
  | none => .error .database
  | some fabric => .ok fabric.installationId

def storeFabric (store : MatterStore) (fabric : StoredMatterFabric) (expectedRevision : Option ℕ) :
    Except StorageError MatterStore := do
  let stored := store.fabrics.find fabric.fabricId
  validateRevision "fabric" (stored.map StoredMatterFabric.revision) expectedRevision fabric.revision
  if stored.any (fun stored => stored.installationId != fabric.installationId) then
    .error (.invalidMatter "fabric installation changed")
  else do
    let _ ← toI64 fabric.revision
    if (store.foundation.installations.find fabric.installationId).isNone then .error .constraint
    else .ok { store with fabrics := store.fabrics.upsert fabric }

def insertProgress (store : MatterStore) (progress : MatterOperationProgress) : Except StorageError MatterStore := do
  let _ ← toI64 progress.revision
  if (store.operations.find progress.operationId).isNone then .error .constraint
  else match store.progress.insertAll [progress] with
    | none => .error .constraint
    | some rows => .ok { store with progress := rows }

def storeRepair (store : MatterStore) (repair : MatterRepairRecord) (expectedRevision : Option ℕ) :
    Except StorageError MatterStore := do
  validateRevision "repair" ((store.repairs.find repair.id).map MatterRepairRecord.revision) expectedRevision
    repair.revision
  if (store.operations.find repair.operationId).isNone then .error .database
  else do
    let _ ← toI64 repair.revision
    .ok { store with repairs := store.repairs.upsert repair }

def appendOperationEvent (store : MatterStore) (operation : MatterOperation) (source : Option MatterOperationPhase)
    (actor : Option ActorId) : MatterStore :=
  { store with events := store.events ++
    [⟨operation.id, operation.kind, source, operation.phase, operation.revision, operation.updatedAt, actor⟩] }

def createOperation (store : MatterStore) (operation : MatterOperation) (progress : MatterOperationProgress) :
    Except StorageError MatterStore := do
  if operation.revision ≠ 1 ∨ operation.phase.isTerminal ∨ progress.operationId ≠ operation.id ∨
      progress.revision ≠ operation.revision ∨ progress.phase ≠ operation.phase then
    .error (.invalidMatter "invalid initial operation progress")
  else do
    let _ ← store.installationForFabric operation.target.fabricId
    match store.operations.insertAll [operation] with
    | none => .error .constraint
    | some operations => insertProgress { store with operations := operations } progress

def createMatterOperation (store : MatterStore) (operation : MatterOperation)
    (progress : MatterOperationProgress) : Except StorageError MatterStore := do
  let store ← store.createOperation operation progress
  .ok (store.appendOperationEvent operation none none)

def createAdministrationOperation (store : MatterStore) (operation : MatterOperation)
    (binding : MatterOperationBinding) (progress : MatterOperationProgress) :
    Except StorageError (MatterStore × MatterOperationCreateOutcome) := do
  if binding.operationId ≠ operation.id ∨ binding.policyVersion = 0 ∨
      binding.action ≠ MatterOperationBinding.actionForKind operation.kind then
    .error (.invalidMatter "invalid Matter operation actor binding")
  else do
    let installationId ← store.installationForFabric operation.target.fabricId
    if binding.installationId ≠ installationId then
      .error (.invalidMatter "Matter operation installation binding mismatch")
    else match store.bindings.rows.find? (fun row =>
        row.actorId == binding.actorId && row.idempotencyKey == binding.idempotencyKey) with
      | some row =>
        match store.operations.find row.operationId with
        | none => .error (.invalidMatter "Matter operation binding references missing operation")
        | some existing =>
          if row.requestHash = binding.requestHash then .ok (store, .existingEquivalent existing)
          else .ok (store, .conflict row.operationId)
      | none => do
        let store ← store.createOperation operation progress
        match store.bindings.insertAll [binding] with
        | none => .error .constraint
        | some bindings =>
          .ok (appendOperationEvent { store with bindings := bindings } operation none (some binding.actorId),
            .created operation)

def repairMatches (operation : MatterOperation) (progress : MatterOperationProgress) :
    Option MatterRepairRecord → Except StorageError Unit
  | some repair =>
    if operation.phase ≠ .repairRequired then
      .error (.invalidMatter "repair record requires repair-required operation")
    else if progress.error = some repair.error then .ok ()
    else .error (.invalidMatter "repair-required transition lacks matching repair evidence")
  | none =>
    if operation.phase = .repairRequired then
      .error (.invalidMatter "repair-required transition lacks matching repair evidence")
    else .ok ()

def storeRepairOf (store : MatterStore) (operation : MatterOperation) :
    Option MatterRepairRecord → Except StorageError MatterStore
  | none => .ok store
  | some repair =>
    if repair.operationId ≠ operation.id then .error (.invalidMatter "repair operation mismatch")
    else store.storeRepair repair none

def transitionOperation (store : MatterStore) (write : MatterOperationWrite) : Except StorageError MatterStore := do
  match store.operations.find write.operation.id with
  | none => .error (.invalidMatter "Matter operation is missing")
  | some current =>
    if current.validPersisted = false then .error .database
    else do
      validateRevision "operation" (some current.revision) (some write.expectedRevision) write.operation.revision
      if write.progress.operationId ≠ write.operation.id ∨ write.progress.revision ≠ write.operation.revision ∨
          write.progress.phase ≠ write.operation.phase then
        .error (.invalidMatter "operation progress mismatch")
      else do
        repairMatches write.operation write.progress write.repair
        let _ ← toI64 write.operation.revision
        let store ← insertProgress { store with operations := store.operations.replace write.operation } write.progress
        let store ← store.storeRepairOf write.operation write.repair
        .ok (store.appendOperationEvent write.operation (some current.phase)
          ((store.bindings.find write.operation.id).map MatterOperationBinding.actorId))

def deleteProjections (foundation : FoundationStore) (gone : StoredMatterProjection → Bool) : FoundationStore :=
  let deleted := fun id => (foundation.projections.find id).any gone
  { foundation with
    projections := foundation.projections.filter (fun projection => !gone projection)
    slots := foundation.slots.filter (fun row => !deleted row.projectionId)
    authorizations := foundation.authorizations.filter (fun row => !deleted row.projectionId)
    supersessions := foundation.supersessions.filter (fun row => !deleted row.projectionId) }

def storeNode (store : MatterStore) (node : StoredMatterNode) (expectedRevision : Option ℕ) :
    Except StorageError MatterStore := do
  let _ ← toI64 node.descriptor.nodeId
  let stored := store.nodes.find node.key
  validateRevision "node" (stored.map StoredMatterNode.revision) expectedRevision node.revision
  if stored.any (fun stored => stored.installationId != node.installationId || stored.deviceId != node.deviceId) then
    .error (.invalidMatter "node stable identity changed")
  else do
    let _ ← toI64 node.descriptor.descriptorRevision
    let _ ← toI64 node.revision
    -- the references to fabric, installation and device, and UNIQUE (fabric_id, device_id)
    if (store.fabrics.find node.descriptor.fabricId).isNone ||
        (store.foundation.installations.find node.installationId).isNone ||
        (store.foundation.devices.find node.deviceId).isNone ||
        store.nodes.rows.any (fun row => row.key != node.key && row.key.1 == node.key.1 &&
          row.deviceId == node.deviceId) then .error .constraint
    else
      let kept := store.endpoints.filter (fun row =>
        row.nodeKey != node.key || node.descriptor.endpoints.any (fun endpoint => endpoint.number == row.descriptor.number))
      let gone := fun (projection : StoredMatterProjection) =>
        (projection.fabricId, projection.nodeId) == node.key &&
          !node.descriptor.endpoints.any (fun endpoint => endpoint.number == projection.endpointNumber)
      .ok { store with
        nodes := store.nodes.upsert node
        endpoints := node.descriptor.endpoints.foldl (fun rows endpoint => rows.upsert ⟨node.key, endpoint⟩) kept
        foundation := deleteProjections store.foundation gone }

def storeProjection (store : MatterStore) (projection : StoredMatterProjection) (expectedRevision : Option ℕ) :
    Except StorageError MatterStore := do
  if projection.state.projectionId ≠ projection.projectionId then
    .error (.invalidMatter "projection state identity mismatch")
  else do
    let stored := store.foundation.projections.find projection.projectionId
    validateRevision "projection" (stored.map StoredMatterProjection.revision) expectedRevision projection.revision
    if stored.any (fun stored => !CommandStore.sameIdentity stored projection) then
      .error (.invalidMatter "projection stable identity changed")
    else do
      let _ ← toI64 projection.nodeId
      let _ ← toI64 projection.revision
      -- UNIQUE (fabric_id, node_id, endpoint_number, capability_schema), then the foreign keys
      if store.foundation.projections.rows.any (fun row => row.projectionId != projection.projectionId &&
          row.fabricId == projection.fabricId && row.nodeId == projection.nodeId &&
          row.endpointNumber == projection.endpointNumber && row.capabilitySchema == projection.capabilitySchema) ||
          (store.foundation.installations.find projection.installationId).isNone ||
          (store.endpoints.find ((projection.fabricId, projection.nodeId), projection.endpointNumber)).isNone ||
          (store.foundation.endpoints.find (projection.deviceId, projection.endpointId)).isNone then
        .error .constraint
      else .ok { store with foundation := { store.foundation with
        projections := store.foundation.projections.upsert projection } }

def validRecovery (recovery : StoredMatterSubscriptionRecovery) : Bool :=
  recovery.maximumGapReads != 0 && recovery.maximumSubscribeAttempts != 0 &&
    recovery.sleepyReadIntervalMillis != 0 && decide (recovery.gapReads ≤ recovery.maximumGapReads) &&
    decide (recovery.subscribeAttempts ≤ recovery.maximumSubscribeAttempts)

def storeSubscription (store : MatterStore) (subscription : StoredMatterSubscription)
    (expectedRevision : Option ℕ) : Except StorageError MatterStore := do
  if validRecovery subscription.recovery = false then
    .error (.invalidMatter "subscription recovery budget is invalid")
  else do
    validateRevision "subscription"
      ((store.subscriptions.find subscription.subscriptionId).map StoredMatterSubscription.revision)
      expectedRevision subscription.revision
    let _ ← store.installationForFabric subscription.fabricId
    let _ ← toI64 subscription.nodeId
    let _ ← toI64 subscription.reportSequence
    let _ ← toI64 subscription.revision
    -- UNIQUE (fabric_id, node_id), then the node it refers to
    if store.subscriptions.rows.any (fun row => row.subscriptionId != subscription.subscriptionId &&
        row.fabricId == subscription.fabricId && row.nodeId == subscription.nodeId) ||
        (store.nodes.find (subscription.fabricId, subscription.nodeId)).isNone then .error .constraint
    else .ok { store with subscriptions := store.subscriptions.upsert subscription }

def commissioningCoherent (commit : MatterCommissioningCommit) : Bool :=
  commit.operation.kind == .commissionNode && commit.operation.phase == .completed &&
    commit.progress.operationId == commit.operation.id && commit.progress.revision == commit.operation.revision &&
    commit.progress.phase == commit.operation.phase && commit.result.operationId == commit.operation.id &&
    commit.result.fabricId == commit.node.descriptor.fabricId &&
    commit.result.nodeId == commit.node.descriptor.nodeId && commit.result.deviceId == commit.node.deviceId &&
    commit.device.snapshot.id == commit.node.deviceId && commit.device.integrationId == commit.integration.id &&
    commit.device.installationId == commit.node.installationId &&
    commit.integration.installationId == commit.node.installationId &&
    commit.subscription.fabricId == commit.node.descriptor.fabricId &&
    commit.subscription.nodeId == commit.node.descriptor.nodeId &&
    commit.projections.all (fun projection => projection.installationId == commit.node.installationId &&
      projection.fabricId == commit.node.descriptor.fabricId &&
      projection.nodeId == commit.node.descriptor.nodeId && projection.deviceId == commit.node.deviceId)

def insertNodeResult (store : MatterStore) (result : MatterOperationNodeResult) : Except StorageError MatterStore := do
  let _ ← toI64 result.nodeId
  if (store.operations.find result.operationId).isNone || (store.foundation.devices.find result.deviceId).isNone ||
      (store.nodes.find (result.fabricId, result.nodeId)).isNone then .error .constraint
  else match store.results.insertAll [result] with
    | none => .error .constraint
    | some results => .ok { store with results := results }

def onFoundation (store : MatterStore) (write : FoundationStore → Except StorageError FoundationStore) :
    Except StorageError MatterStore := do
  let foundation ← write store.foundation
  .ok { store with foundation := foundation }

def commitCommissioning (store : MatterStore) (commit : MatterCommissioningCommit) (expectedOperationRevision : ℕ) :
    Except StorageError MatterStore := do
  if commissioningCoherent commit = false then
    .error (.invalidMatter "commissioning projection commit is inconsistent")
  else do
    let store ← store.onFoundation (fun foundation => foundation.upsertIntegration commit.integration)
    let store ← store.onFoundation (fun foundation => foundation.upsertDevice commit.device)
    let store ← store.storeNode commit.node none
    let store ← commit.projections.foldlM (fun store projection => store.storeProjection projection none) store
    let store ← store.storeSubscription commit.subscription none
    let store ← store.insertNodeResult commit.result
    store.transitionOperation ⟨commit.operation, expectedOperationRevision, commit.progress, none⟩

def commitCancellation (store : MatterStore) (commit : MatterCancellationCommit) : Except StorageError MatterStore := do
  let store ← store.transitionOperation commit.commissioning
  store.transitionOperation commit.cancellation

def commitNodeRemoval (store : MatterStore) (commit : MatterNodeRemovalCommit) (expectedOperationRevision : ℕ) :
    Except StorageError MatterStore := do
  if commit.operation.kind ≠ .removeNode ∨ commit.operation.phase ≠ .completed then
    .error (.invalidMatter "removal commit operation mismatch")
  else if commit.operation.target ≠ .node commit.fabricId commit.nodeId then
    .error (.invalidMatter "removal commit target mismatch")
  else do
    let _ ← toI64 commit.nodeId
    match store.nodes.find (commit.fabricId, commit.nodeId) with
    | none => .error .database
    | some node =>
      if node.deviceId ≠ commit.device.snapshot.id then
        .error (.invalidMatter "removal device identity mismatch")
      else do
        let store := { store with
          subscriptions := store.subscriptions.filter (fun row =>
            (row.fabricId, row.nodeId) != (commit.fabricId, commit.nodeId))
          foundation := deleteProjections store.foundation (fun projection =>
            (projection.fabricId, projection.nodeId) == (commit.fabricId, commit.nodeId)) }
        let store ← store.onFoundation (fun foundation => foundation.upsertDevice commit.device)
        store.transitionOperation ⟨commit.operation, expectedOperationRevision, commit.progress, none⟩

def storeRepairedProjection (operation : MatterOperation) (store : MatterStore)
    (write : MatterSubscriptionProjectionWrite) : Except StorageError MatterStore :=
  if operation.target ≠ .node write.projection.fabricId write.projection.nodeId then
    .error (.invalidMatter "subscription repair projection mismatch")
  else store.storeProjection write.projection (some write.expectedRevision)

def commitSubscriptionRepair (store : MatterStore) (commit : MatterSubscriptionRepairCommit) :
    Except StorageError MatterStore := do
  if commit.operation.operation.kind ≠ .repairSubscription then
    .error (.invalidMatter "subscription repair operation mismatch")
  else match commit.operation.operation.target with
    | .node fabricId nodeId =>
      if fabricId ≠ commit.subscription.fabricId ∨ nodeId ≠ commit.subscription.nodeId then
        .error (.invalidMatter "subscription repair resource mismatch")
      else do
        let store ← commit.projections.foldlM (storeRepairedProjection commit.operation.operation) store
        let store ← store.storeSubscription commit.subscription (some commit.expectedSubscriptionRevision)
        store.transitionOperation commit.operation
    | _ => .error (.invalidMatter "subscription repair target mismatch")

def firstResult (store : MatterStore) (key : MatterNodeKey) : Option MatterOperationNodeResult :=
  (store.results.page (fun result => (result.fabricId, result.nodeId) == key)
    (fun result => toLex (result.createdAt, result.operationId)) 1).head?

def inventoryCoherent (record : MatterNodeInventoryRecord) : Bool :=
  record.projections.all (fun projection => projection.installationId == record.node.installationId &&
      projection.fabricId == record.node.descriptor.fabricId &&
      projection.nodeId == record.node.descriptor.nodeId && projection.deviceId == record.node.deviceId) &&
    record.device.snapshot.id == record.node.deviceId && record.device.installationId == record.node.installationId &&
    record.subscription.all (fun subscription => subscription.fabricId == record.node.descriptor.fabricId &&
      subscription.nodeId == record.node.descriptor.nodeId) &&
    record.commissioningResult.all (fun result => result.fabricId == record.node.descriptor.fabricId &&
      result.nodeId == record.node.descriptor.nodeId && result.deviceId == record.node.deviceId)

def projectionsOf (store : MatterStore) (key : MatterNodeKey) : List StoredMatterProjection :=
  store.foundation.projections.page (fun projection => (projection.fabricId, projection.nodeId) == key)
    (fun projection => toLex (projection.endpointNumber, toLex (projection.capabilitySchema, projection.projectionId)))
    store.foundation.projections.rows.length

def subscriptionOf (store : MatterStore) (key : MatterNodeKey) : Option StoredMatterSubscription :=
  store.subscriptions.rows.find? (fun row => (row.fabricId, row.nodeId) == key)

def loadInventoryRecord (store : MatterStore) (node : StoredMatterNode) :
    Except StorageError MatterNodeInventoryRecord :=
  match store.foundation.devices.find node.deviceId with
  | none => .error (.invalidMatter "node device is missing")
  | some row =>
    let record : MatterNodeInventoryRecord :=
      ⟨node, row.record, store.projectionsOf node.key, store.subscriptionOf node.key, store.firstResult node.key⟩
    if inventoryCoherent record then .ok record
    else .error (.invalidMatter "node inventory relations are inconsistent")

def nodeInventoryItem (store : MatterStore) (installationId : InstallationId) (fabricId : MatterFabricId)
    (nodeId : MatterNodeId) : Except StorageError (Option MatterNodeInventoryRecord) := do
  let _ ← toI64 nodeId
  match store.nodes.find (fabricId, nodeId) with
  | none => .ok none
  | some node =>
    if node.installationId ≠ installationId then .ok none
    else do
      let record ← store.loadInventoryRecord node
      .ok (some record)

end MatterStore
end HomeMagic
