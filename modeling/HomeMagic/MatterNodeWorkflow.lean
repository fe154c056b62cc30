import HomeMagic.MatterPorts

/-! The node workflows: commissioning with its recovery, cancellation and removal. -/
namespace HomeMagic

structure MatterIdentities where
  integration : InstallationId → MatterFabricId → IntegrationId
  device : IntegrationId → MatterNodeId → DeviceId
  projection : MatterFabricId → MatterNodeId → MatterEndpointNumber → MatterProjectionRule → MatterProjectionId
  subscription : MatterFabricId → MatterNodeId → MatterSubscriptionId
  fabricText : MatterFabricId → String

structure MatterNodeCapability extends MatterCapabilityProjection where
  deviceId : DeviceId
  endpointId : EndpointId
  capability : CapabilityDescriptor
  deriving DecidableEq

def hasDeviceType (deviceTypes : List MatterDeviceType) (eligible : List ℕ) : Bool :=
  deviceTypes.any (fun deviceType => eligible.contains deviceType.id)

def eligibleServerCluster (endpoint : MatterEndpointDescriptor) (clusterId : ℕ) (attributes commands : List ℕ) :
    Option MatterClusterDescriptor :=
  endpoint.serverClusters.find? (fun cluster => cluster.id == clusterId &&
    attributes.all (fun id => cluster.attributes.contains id) &&
    commands.all (fun id => cluster.acceptedCommands.contains id))

namespace MatterNodeDescriptor

def capability (ids : MatterIdentities) (deviceId : DeviceId) (node : MatterNodeDescriptor)
    (endpoint : MatterEndpointDescriptor) (cluster : MatterClusterDescriptor) (rule : MatterProjectionRule)
    (attributeId : ℕ) (name : String) (risk : RiskClass) : MatterNodeCapability where
  projectionId := ids.projection node.fabricId node.nodeId endpoint.number rule
  rule := rule
  reportPath := ⟨node.nodeId, endpoint.number, cluster.id, attributeId⟩
  deviceId := deviceId
  endpointId := s!"matter:{endpoint.number}"
  capability := ⟨name, 1, risk⟩

def projectOnOff (ids : MatterIdentities) (deviceId : DeviceId) (node : MatterNodeDescriptor)
    (endpoint : MatterEndpointDescriptor) : Option MatterNodeCapability :=
  if hasDeviceType endpoint.deviceTypes [0x0100, 0x0101] then
    (eligibleServerCluster endpoint 0x0006 [0x0000] [0x0000, 0x0001]).map (fun cluster =>
      node.capability ids deviceId endpoint cluster .onOffV1 0x0000 "on_off" .comfort)
  else none

def projectAccessControl (ids : MatterIdentities) (deviceId : DeviceId) (node : MatterNodeDescriptor)
    (endpoint : MatterEndpointDescriptor) : Option MatterNodeCapability :=
  if hasDeviceType endpoint.deviceTypes [0x000A] then
    (eligibleServerCluster endpoint 0x0101 [0x0000] [0x0000, 0x0001]).map (fun cluster =>
      node.capability ids deviceId endpoint cluster .accessControlV1 0x0000 "access_control" .security)
  else none

def deviceId (ids : MatterIdentities) (installationId : InstallationId) (node : MatterNodeDescriptor) : DeviceId :=
  ids.device (ids.integration installationId node.fabricId) node.nodeId

def capabilities (ids : MatterIdentities) (installationId : InstallationId) (node : MatterNodeDescriptor) :
    List MatterNodeCapability :=
  node.endpoints.flatMap (fun endpoint =>
    (node.projectOnOff ids (node.deviceId ids installationId) endpoint).toList ++
      (node.projectAccessControl ids (node.deviceId ids installationId) endpoint).toList)

end MatterNodeDescriptor

def attributeSelection (paths : List MatterAttributePath) : Option (List MatterAttributePath) :=
  if paths = [] ∨ 256 < paths.length ∨ ¬ paths.Nodup then none else some paths

def commissioningError (fabricId : MatterFabricId) (category : MatterControllerErrorCategory)
    (code : MatterControllerErrorCode) (retryability : MatterRetryability) : MatterControllerError :=
  ⟨category, code, retryability, some (.fabric fabricId),
    if retryability = .afterRepair then some .reviewPartialCleanup else none⟩

def indeterminateOperationError (operation : MatterOperation) : MatterControllerError :=
  ⟨.persistence, .outcomeIndeterminate, .afterRepair, some (.operation operation.id), some .reviewPartialCleanup⟩

def indeterminateNodeError (fabricId : MatterFabricId) (nodeId : MatterNodeId) : MatterControllerError :=
  ⟨.persistence, .outcomeIndeterminate, .afterRepair, some (.node fabricId nodeId), some .reviewPartialCleanup⟩

inductive MatterNodeWorkflowError
  | administration (error : MatterAdministrationError)
  | repository (error : StorageError)
  | nodeNotFound | commissioningResultMissing | invalidOperationState | invalidOperationTarget
  | invalidDeviceState | timeOverflow
  deriving DecidableEq

inductive MatterWorkflowOutcome (α : Type)
  | completed (operation : MatterOperation) (value : α)
  | terminal (operation : MatterOperation)
  deriving DecidableEq

structure PreparedCommissioning where
  integration : IntegrationInstance
  device : DeviceRecord
  node : StoredMatterNode
  projections : List StoredMatterProjection
  subscriptionRequest : MatterSubscriptionRequest

def initialStoredMatterProjection (installationId : InstallationId) (fabricId : MatterFabricId)
    (capability : MatterNodeCapability) (now : Instant) : StoredMatterProjection :=
  ⟨installationId, fabricId, capability.reportPath.nodeId, capability.reportPath.endpoint, capability.projectionId,
    capability.deviceId, capability.endpointId, capability.capability.schema,
    initialMatterProjectedState capability.projectionId, 1, now⟩

def reportedProjection (installationId : InstallationId) (fabricId : MatterFabricId)
    (reports : List MatterAttributeReport) (now : Instant) (capability : MatterNodeCapability) :
    Option StoredMatterProjection :=
  match reports.find? (fun report => report.path == capability.reportPath) with
  | none => none
  | some report =>
    let stored := initialStoredMatterProjection installationId fabricId capability now
    match normalizeMatterReport capability.toMatterCapabilityProjection report now none with
    | .applied reported =>
      match advanceMatterProjectedState stored.state reported ⟨none⟩ with
      | .ok state => some { stored with state := state }
      | .error _ => none
    | _ => none

def capabilitySnapshot (value : MatterStateValue) (schema : String) : Option CapabilitySnapshot :=
  match value with
  | .onOff on => if schema = "on_off.v1" then some (.onOff on .comfort) else none
  | .lock state =>
    if schema = "access_control.v1" then
      some (.accessControl (match state with
        | .locked => some true
        | .unlocked => some false
        | .notFullyLocked | .unknown => none))
    else none
  | _ => none

def addCapability (endpointId : EndpointId) (snapshot : CapabilitySnapshot) :
    List EndpointSnapshot → List EndpointSnapshot
  | [] => [⟨endpointId, none, [snapshot]⟩]
  | endpoint :: rest =>
    if endpoint.id = endpointId then { endpoint with capabilities := endpoint.capabilities ++ [snapshot] } :: rest
    else if endpointId < endpoint.id then ⟨endpointId, none, [snapshot]⟩ :: endpoint :: rest
    else endpoint :: addCapability endpointId snapshot rest

def endpointSnapshots (projections : List StoredMatterProjection) : List EndpointSnapshot :=
  projections.foldl (fun endpoints projection =>
    match projection.state.reported.bind (fun reported =>
        capabilitySnapshot reported.value projection.capabilitySchema) with
    | some snapshot => addCapability projection.endpointId snapshot endpoints
    | none => endpoints) []

def commissionedDevice (installationId : InstallationId) (integration : IntegrationInstance)
    (descriptor : MatterNodeDescriptor) (deviceId : DeviceId) (projections : List StoredMatterProjection)
    (now : Instant) : DeviceRecord where
  installationId := installationId
  integrationId := integration.id
  snapshot := ⟨(projections.head?.map StoredMatterProjection.deviceId).getD deviceId, s!"node:{descriptor.nodeId}",
    s!"Matter node {descriptor.nodeId}", endpointSnapshots projections, now⟩
  lifecycle := .enrolled
  availability := ⟨.online, now, some "commissioned"⟩
  timestamps := ⟨now, now, some now⟩
  aliases := []
  spaces := []
  capabilityDescriptors := (endpointSnapshots projections).map (fun endpoint =>
    (endpoint.id, endpoint.capabilities.map CapabilitySnapshot.descriptor))

namespace MatterNodeWorkflow

open Fallible

abbrev NodeM := MatterM MatterNodeWorkflowError

def caught {ε ε' α : Type} (x : MatterM ε α) : MatterM ε' (Except ε α) :=
  ExceptT.mk (x.run.bind (fun result => .done (.ok result)))

def within {ε ε' α : Type} (wrap : ε → ε') (x : MatterM ε α) : MatterM ε' α := attempt wrap x.run

def owned (actorId : ActorId) (operationId : MatterOperationId) (action : CommandAction) : NodeM MatterOperation :=
  within .administration (MatterAdministration.ownedOperationForAction actorId operationId action)

def transition (operation : MatterOperation) (next : MatterOperationPhase) (now : Instant) : NodeM MatterOperation :=
  match operation.transition next now with
  | .error _ => throw .invalidOperationState
  | .ok moved => do
    attempt .repository (MatterCall.perform (.commit (.transition
      ⟨moved, operation.revision, progressWithError moved none, none⟩)))
    pure moved

def terminalControllerError {α : Type} (actorId : ActorId) (operation : MatterOperation)
    (error : MatterControllerError) (now : Instant) : NodeM (MatterWorkflowOutcome α) := do
  let terminal ← within .administration
    (MatterAdministration.recordControllerFailure actorId operation.id error now)
  pure (.terminal terminal)

def commissioningPhases : List MatterOperationPhase :=
  [.validatingSetup, .discovering, .establishingSession, .commissioning, .projecting, .subscribing]

def reportedPhase (operationId : MatterOperationId) (event : MatterControllerEvent) : Option MatterOperationPhase :=
  match event.kind with
  | .operationProgress candidate phase => if candidate = operationId then some phase else none
  | _ => none

def commissioningProgress (operationId : MatterOperationId) :
    MatterM MatterControllerError (List MatterOperationPhase) := do
  let events ← attempt id (MatterCall.perform (.eventsAfter 0 256))
  let phases := events.filterMap (reportedPhase operationId)
  if phases = commissioningPhases then pure phases
  else throw ⟨.persistence, .outcomeIndeterminate, .afterRepair, some (.operation operationId),
    some .reviewPartialCleanup⟩

def boundInstallation (operation : MatterOperation) : MatterM MatterControllerError InstallationId := do
  let stored ← attempt (fun _ => indeterminateOperationError operation)
    (MatterCall.perform (.administrationOperation operation.id))
  match stored with
  | none => throw (indeterminateOperationError operation)
  | some (_, binding) => pure binding.installationId

def prepared (ids : MatterIdentities) (installationId : InstallationId) (fabricId : MatterFabricId)
    (descriptor : MatterNodeDescriptor) (selection : List MatterAttributePath)
    (projections : List StoredMatterProjection) (now : Instant) : PreparedCommissioning :=
  let integration : IntegrationInstance :=
    ⟨ids.integration installationId fabricId, installationId, "matter", ids.fabricText fabricId⟩
  let deviceId := descriptor.deviceId ids installationId
  ⟨integration, commissionedDevice installationId integration descriptor deviceId projections now,
    ⟨installationId, deviceId, descriptor, 1, now⟩, projections,
    ⟨ids.subscription fabricId descriptor.nodeId, fabricId, descriptor.nodeId, selection⟩⟩

def prepareCommissioningProjection (ids : MatterIdentities) (operation : MatterOperation)
    (descriptor : MatterNodeDescriptor) (now : Instant) : MatterM MatterControllerError PreparedCommissioning := do
  match operation.target with
  | .fabric fabricId =>
    let installationId ← boundInstallation operation
    let capabilities := descriptor.capabilities ids installationId
    if capabilities = [] then throw (commissioningError fabricId .unsupported .unsupportedOperation .never)
    else match attributeSelection (capabilities.map (fun capability => capability.reportPath)) with
      | none => throw (indeterminateOperationError operation)
      | some selection =>
        let reports ← attempt id (MatterCall.perform (.read ⟨fabricId, descriptor.nodeId, selection⟩))
        match capabilities.mapM (reportedProjection installationId fabricId reports now) with
        | none => throw (indeterminateOperationError operation)
        | some projections => pure (prepared ids installationId fabricId descriptor selection projections now)
  | _ => throw (indeterminateOperationError operation)

def commissioningCommit (ready : PreparedCommissioning) (fabricId : MatterFabricId) (operation : MatterOperation)
    (status : MatterSubscriptionStatus) (staleAfter now : Instant) : MatterCommissioningCommit where
  integration := ready.integration
  device := ready.device
  node := ready.node
  projections := ready.projections
  subscription := ⟨status.subscriptionId, fabricId, ready.node.descriptor.nodeId, .established, status.reportSequence,
    staleAfter, .initial, 1, now⟩
  result := ⟨operation.id, fabricId, ready.node.descriptor.nodeId, ready.node.deviceId, now⟩
  operation := operation
  progress := progressWithError operation none

def finishCommissioning (ready : PreparedCommissioning) (fabricId : MatterFabricId) (operation : MatterOperation)
    (status : MatterSubscriptionStatus) (now : Instant) :
    NodeM (MatterWorkflowOutcome MatterOperationNodeResult) :=
  match operation.transition .completed now with
  | .error _ => throw .invalidOperationState
  | .ok completed =>
    match addMillis status.verifiedAt 60000 with
    | none => throw .timeOverflow
    | some staleAfter => do
      let commit := commissioningCommit ready fabricId completed status staleAfter now
      attempt .repository (MatterCall.perform (.commit (.commissioning commit operation.revision)))
      pure (.completed completed commit.result)

def enterSubscribing (operation : MatterOperation) (now : Instant) : NodeM MatterOperation :=
  if operation.phase = .projecting then transition operation .subscribing now
  else if operation.phase = .subscribing then pure operation else throw .invalidOperationState

def completeCommissioning (ids : MatterIdentities) (actorId : ActorId) (operation : MatterOperation)
    (descriptor : MatterNodeDescriptor) (now : Instant) :
    NodeM (MatterWorkflowOutcome MatterOperationNodeResult) := do
  match operation.target with
  | .fabric fabricId =>
    match ← caught (prepareCommissioningProjection ids operation descriptor now) with
    | .error error => terminalControllerError actorId operation error now
    | .ok ready =>
      let operation ← enterSubscribing operation now
      let established : Except MatterControllerError MatterSubscriptionStatus ←
        answer (MatterCall.subscribe operation.id ready.subscriptionRequest)
      match established with
      | .error error => terminalControllerError actorId operation error now
      | .ok status =>
        if status.established then finishCommissioning ready fabricId operation status now
        else
          terminalControllerError actorId operation
            (commissioningError fabricId .persistence .outcomeIndeterminate .afterRepair) now
  | _ => throw .invalidOperationTarget

def commissioned (operation : MatterOperation) : NodeM (MatterWorkflowOutcome MatterOperationNodeResult) := do
  let stored ← attempt .repository (MatterCall.perform (.operationNodeResult operation.id))
  match stored with
  | none => throw .commissioningResultMissing
  | some result => pure (.completed operation result)

def followProgress (ids : MatterIdentities) (actorId : ActorId) (operation : MatterOperation)
    (descriptor : MatterNodeDescriptor) (now : Instant) :
    NodeM (MatterWorkflowOutcome MatterOperationNodeResult) := do
  match ← caught (commissioningProgress operation.id) with
  | .error error => terminalControllerError actorId operation error now
  | .ok phases =>
    let operation ← ((phases.drop 1).take 4).foldlM (fun operation phase => transition operation phase now) operation
    completeCommissioning ids actorId operation descriptor now

def runCommission (ids : MatterIdentities) (actorId : ActorId) (operationId : MatterOperationId) (now : Instant) :
    NodeM (MatterWorkflowOutcome MatterOperationNodeResult) := do
  let operation ← owned actorId operationId .matterCommissionNode
  if operation.phase = .completed then commissioned operation
  else if operation.phase ≠ .requested then throw .invalidOperationState
  else
    let operation ← transition operation .validatingSetup now
    match operation.target with
    | .fabric fabricId =>
      let joined : Except MatterControllerError MatterNodeDescriptor ←
        answer (MatterCall.commission operation.id fabricId)
      match joined with
      | .error error => terminalControllerError actorId operation error now
      | .ok descriptor =>
        if descriptor.fabricId ≠ fabricId then
          terminalControllerError actorId operation
            (commissioningError fabricId .validation .invalidRequest .never) now
        else followProgress ids actorId operation descriptor now
    | _ => throw .invalidOperationTarget

def recoverCommissioning (actorId : ActorId) (operationId : MatterOperationId) (now : Instant) :
    NodeM (MatterWorkflowOutcome MatterOperationNodeResult) := do
  let operation ← owned actorId operationId .matterCommissionNode
  if operation.phase = .completed then commissioned operation
  else if operation.phase.isTerminal then pure (.terminal operation)
  else if operation.phase = .requested ∨ commissioningPhases.contains operation.phase = false then
    throw .invalidOperationState
  else match operation.target with
    | .fabric fabricId =>
      -- the evidence is read but never decides
      let _ ← answer (.eventsAfter 0 256)
      let _ ← answer (.nodes fabricId)
      terminalControllerError actorId operation (indeterminateOperationError operation) now
    | _ => throw .invalidOperationTarget

inductive MatterCancellationResolution
  | cancelled | alreadyCompletedRequiresRepair | outcomeUnknown
  deriving DecidableEq

def resolution : Except MatterControllerError MatterCancellationOutcome →
    MatterCancellationResolution × MatterOperationPhase × MatterOperationPhase
  | .ok .cancelled => (.cancelled, .cancelled, .completed)
  | .ok .alreadyCompleted => (.alreadyCompletedRequiresRepair, .repairRequired, .completed)
  | .ok .outcomeUnknown | .error _ => (.outcomeUnknown, .repairRequired, .repairRequired)

def resolvedWrite (repairId : ℕ) (operation resolved : MatterOperation) (now : Instant) : MatterOperationWrite :=
  let error := if resolved.phase = .repairRequired then some (indeterminateOperationError operation) else none
  ⟨resolved, operation.revision, progressWithError resolved error,
    error.map (fun error => MatterAdministration.newRepair repairId resolved error now)⟩

def resolveCancellation (commissioning cancellation : MatterOperation)
    (outcome : Except MatterControllerError MatterCancellationOutcome) (now : Instant) :
    NodeM (MatterOperation × MatterOperation × MatterCancellationResolution) :=
  match commissioning.transition (resolution outcome).2.1 now,
      cancellation.transition (resolution outcome).2.2 now with
  | .ok commissioned, .ok cancelled => do
    let repairId ← answer .newId
    let repairId' ← answer .newId
    attempt .repository (MatterCall.perform (.commit (.cancellation
      ⟨resolvedWrite repairId commissioning commissioned now, resolvedWrite repairId' cancellation cancelled now⟩)))
    pure (commissioned, cancelled, (resolution outcome).1)
  | _, _ => throw .invalidOperationState

def enterCancelling (cancellation : MatterOperation) (now : Instant) : NodeM MatterOperation :=
  if cancellation.phase = .requested then transition cancellation .cancelling now
  else if cancellation.phase = .cancelling then pure cancellation else throw .invalidOperationState

def runCancelCommissioning (actorId : ActorId) (cancellationId : MatterOperationId) (now : Instant) :
    NodeM (MatterOperation × MatterOperation × MatterCancellationResolution) := do
  let cancellation ← owned actorId cancellationId .matterCancelOperation
  match cancellation.target with
  | .operation _ commissioningId =>
    let commissioning ← within .administration
      (MatterAdministration.ownedCommissioningForCancellation actorId commissioningId)
    if commissioning.phase.isTerminal then throw .invalidOperationState
    else
      let cancellation ← enterCancelling cancellation now
      let outcome ← answer (.cancelCommissioning commissioning.id)
      resolveCancellation commissioning cancellation outcome now
  | _ => throw .invalidOperationTarget

def removedDevice (device : DeviceRecord) (now : Instant) : Option DeviceRecord :=
  (if device.lifecycle = .removed then some .removed else device.lifecycle.transition .remove).map (fun lifecycle =>
    { device with
      lifecycle := lifecycle
      availability := device.availability.transition .offline now (some "removed")
      snapshot := { device.snapshot with endpoints := [] }
      capabilityDescriptors := [] })

def completeNodeRemoval (actorId : ActorId) (operation : MatterOperation) (now : Instant) :
    NodeM (MatterWorkflowOutcome Unit) := do
  match operation.target with
  | .node fabricId nodeId =>
    let installationId ← within .administration
      (MatterAdministration.authorizeInstallationAction actorId .matterRemoveNode)
    match ← attempt .repository (MatterCall.perform (.nodeInventoryItem installationId fabricId nodeId)) with
    | none => throw .nodeNotFound
    | some record =>
      match removedDevice record.device now with
      | none => throw .invalidDeviceState
      | some device =>
        match operation.transition .completed now with
        | .error _ => throw .invalidOperationState
        | .ok completed =>
          attempt .repository (MatterCall.perform (.commit (.removal
            ⟨device, fabricId, nodeId, completed, progressWithError completed none⟩ operation.revision)))
          pure (.completed completed ())
  | _ => throw .invalidOperationTarget

def nodeGone (fabricId : MatterFabricId) (nodeId : MatterNodeId) : NodeM Bool := do
  let seen : Except MatterControllerError (Option MatterNodeDescriptor) ← answer (MatterCall.node fabricId nodeId)
  match seen with
  | .ok none => pure true
  | _ => pure false

/-- The first run of a removal asks the controller; a later one only looks. -/
def leaveFabric (operation : MatterOperation) (fabricId : MatterFabricId) (nodeId : MatterNodeId) : NodeM Bool := do
  let removal : Except MatterControllerError MatterRemovalOutcome ←
    answer (MatterCall.removeNode operation.id fabricId nodeId)
  match removal with
  | .ok .removed | .ok .notPresent => pure true
  | .ok .partialOutcome => pure false
  | .error _ => nodeGone fabricId nodeId

def runRemoveNode (actorId : ActorId) (operationId : MatterOperationId) (now : Instant) :
    NodeM (MatterWorkflowOutcome Unit) := do
  let operation ← owned actorId operationId .matterRemoveNode
  if operation.phase = .completed then pure (.completed operation ())
  else if operation.phase.isTerminal then pure (.terminal operation)
  else match operation.target with
    | .node fabricId nodeId =>
      if operation.phase = .requested then
        let operation ← transition operation .removingNode now
        if ← leaveFabric operation fabricId nodeId then
          let operation ← transition operation .cleaningSecrets now
          completeNodeRemoval actorId operation now
        else terminalControllerError actorId operation (indeterminateNodeError fabricId nodeId) now
      else if operation.phase = .removingNode then
        if ← nodeGone fabricId nodeId then
          let operation ← transition operation .cleaningSecrets now
          completeNodeRemoval actorId operation now
        else terminalControllerError actorId operation (indeterminateNodeError fabricId nodeId) now
      else if operation.phase = .cleaningSecrets then completeNodeRemoval actorId operation now
      else throw .invalidOperationState
    | _ => throw .invalidOperationTarget

end MatterNodeWorkflow
end HomeMagic
