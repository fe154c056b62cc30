import HomeMagic.CommandDomain
import HomeMagic.MatterProjection

/-! The durable command, audit and Matter desired-state tables. Every operation is
one transaction on the shared connection; a failed one leaves the store unchanged.
The columns next to a payload repeat what the payload holds and are not kept apart. -/
namespace HomeMagic

abbrev MatterUnlockAuthorizationId := ℕ
abbrev CanonicalRequestHash := String

structure StoredMatterProjection where
  installationId : InstallationId
  fabricId : MatterFabricId
  nodeId : MatterNodeId
  endpointNumber : MatterEndpointNumber
  projectionId : MatterProjectionId
  deviceId : DeviceId
  endpointId : EndpointId
  capabilitySchema : String
  state : MatterProjectedState
  revision : ℕ
  updatedAt : Instant
  deriving DecidableEq

structure MatterDesiredCommandSlot where
  projectionId : MatterProjectionId
  desiredRevision : ℕ
  commandId : CommandId
  dispatchedAt : Option Instant
  updatedAt : Instant
  deriving DecidableEq

structure MatterUnlockAuthorization where
  id : MatterUnlockAuthorizationId
  commandId : CommandId
  canonicalRequestHash : CanonicalRequestHash
  requestingActorId : ActorId
  approvingActorId : ActorId
  projectionId : MatterProjectionId
  deviceId : DeviceId
  endpointId : EndpointId
  capabilitySchema : String
  action : AccessControlCommand
  desiredRevision : ℕ
  policyRevision : ℕ
  issuedAt : Instant
  expiresAt : Instant
  consumedAt : Option Instant
  deriving DecidableEq

structure MatterCommandSupersession where
  oldCommandId : CommandId
  newCommandId : CommandId
  projectionId : MatterProjectionId
  occurredAt : Instant
  deriving DecidableEq

structure StoredCommand where
  command : CommandAggregate
  requestHash : CanonicalRequestHash
  deriving DecidableEq

structure CommandStore where
  devices : Table DeviceId DeviceRecord (fun device => device.snapshot.id)
  actors : Table ActorId ActorSecurity (fun security => security.actor.id)
  commands : Table CommandId StoredCommand (fun row => row.command.envelope.id)
  audit : Table AuditId CommandAuditRecord CommandAuditRecord.id
  projections : Table MatterProjectionId StoredMatterProjection StoredMatterProjection.projectionId
  slots : Table MatterProjectionId MatterDesiredCommandSlot MatterDesiredCommandSlot.projectionId
  authorizations : Table MatterUnlockAuthorizationId MatterUnlockAuthorization
    MatterUnlockAuthorization.id
  supersessions : Table CommandId MatterCommandSupersession MatterCommandSupersession.oldCommandId

inductive CommandCreateOutcome
  | created (command : CommandAggregate)
  | existingEquivalent (existing : CommandAggregate)
  | conflict (existing : CommandId)
  deriving DecidableEq

structure MatterSupersededCommand where
  command : CommandAggregate
  expectedVersion : ℕ
  audit : CommandAuditRecord

structure MatterDesiredStateWrite where
  slot : MatterDesiredCommandSlot
  projection : StoredMatterProjection
  superseded : Option MatterSupersededCommand

structure MatterDispatchWrite where
  projectionId : MatterProjectionId
  command : CommandAggregate
  expectedVersion : ℕ
  audit : CommandAuditRecord
  dispatchedAt : Instant

inductive MatterUnlockConsumption
  | consumed | notFound | alreadyConsumed | expired | bindingMismatch
  deriving DecidableEq

def validateReceipt (command : CommandAggregate) (audit : CommandAuditRecord) :
    Except StorageError Unit :=
  if command.state ≠ .received ∨ command.version ≠ 0 ∨ command.isTerminal then
    .error (.invalidCommand "command is not an initial receipt")
  else if audit.commandId ≠ command.envelope.id ∨ audit.actorId ≠ command.envelope.actorId ∨
      audit.sequence ≠ 0 ∨ audit.fromState.isSome ∨ audit.toState ≠ .received ∨
      audit.correlationId ≠ command.envelope.correlationId then
    .error (.invalidCommand "receipt audit mismatch")
  else .ok ()

def needsPolicy : CommandState → Bool
  | .dispatched | .acknowledged | .confirmed => true
  | _ => false

def validateTransition (current next : CommandAggregate) (audit : CommandAuditRecord) :
    Except StorageError Unit :=
  if next.envelope ≠ current.envelope ∨
      next.version ≠ CommandAggregate.nextVersion current.version then
    .error (.invalidCommand "immutable envelope or version changed")
  else if current.state.allowsTransitionTo next.state = false then
    .error (.invalidCommand "invalid command state transition")
  else if audit.commandId ≠ next.envelope.id ∨ audit.actorId ≠ next.envelope.actorId ∨
      audit.sequence ≠ next.version ∨ audit.fromState ≠ some current.state ∨
      audit.toState ≠ next.state ∨ audit.correlationId ≠ next.envelope.correlationId then
    .error (.invalidCommand "transition audit mismatch")
  else if needsPolicy next.state ∧ ¬ next.policy.any PolicyDecision.allowed then
    .error (.invalidCommand "dispatchable command lacks an allowed policy decision")
  else .ok ()

namespace CommandStore

def insertAudit (store : CommandStore) (audit : CommandAuditRecord) :
    Except StorageError CommandStore :=
  if 2^63 ≤ audit.sequence then .error .numericOverflow
  else if store.audit.rows.any (fun row =>
      row.commandId == audit.commandId && row.sequence == audit.sequence) then .error .constraint
  else match h : store.audit.find audit.id with
    | some _ => .error .constraint
    | none => .ok { store with audit := store.audit.insert audit h }

def commandByKey (store : CommandStore) (actorId : ActorId) (key : IdempotencyKey) :
    Option StoredCommand :=
  store.commands.rows.find? (fun row =>
    row.command.envelope.actorId == actorId && row.command.envelope.idempotencyKey == key)

def insertCommand (store : CommandStore) (command : CommandAggregate)
    (requestHash : CanonicalRequestHash) : Except StorageError CommandStore :=
  match store.actors.find command.envelope.actorId, store.devices.find command.envelope.deviceId with
  | some security, some device =>
    if security.actor.installationId ≠ device.installationId then
      .error (.invalidCommand "actor and device installations differ")
    else match h : store.commands.find command.envelope.id with
      | some _ => .error .constraint
      | none => .ok { store with commands := store.commands.insert ⟨command, requestHash⟩ h }
  | _, _ => .error .database

def createCommand (store : CommandStore) (command : CommandAggregate)
    (requestHash : CanonicalRequestHash) (audit : CommandAuditRecord) :
    Except StorageError (CommandCreateOutcome × CommandStore) :=
  match store.commandByKey command.envelope.actorId command.envelope.idempotencyKey with
  | some existing =>
    .ok (if existing.requestHash = requestHash then .existingEquivalent existing.command
      else .conflict existing.command.envelope.id, store)
  | none => do
    validateReceipt command audit
    let store ← store.insertCommand command requestHash
    let store ← store.insertAudit audit
    .ok (.created command, store)

def transitionCommand (store : CommandStore) (command : CommandAggregate) (expectedVersion : ℕ)
    (audit : CommandAuditRecord) : Except StorageError CommandStore :=
  match store.commands.find command.envelope.id with
  | none => .error .database
  | some current =>
    if current.command.version ≠ expectedVersion then
      .error (.commandVersionConflict expectedVersion current.command.version)
    else do
      validateTransition current.command command audit
      let row : StoredCommand := { current with command := command }
      if 2^63 ≤ command.version then .error .numericOverflow
      else insertAudit { store with commands := store.commands.replace row } audit

def storeActor (store : CommandStore) (actor : Actor) : Except StorageError CommandStore :=
  match h : store.actors.find actor.id with
  | none => .ok { store with actors := store.actors.insert ⟨actor, []⟩ h }
  | some stored =>
    if stored.actor.installationId ≠ actor.installationId then
      .error (.invalidCommand "actor installation is immutable")
    else .ok { store with actors := store.actors.replace ⟨actor, stored.grants⟩ }

def otherGrantIds (store : CommandStore) (actorId : ActorId) : List GrantId :=
  store.actors.rows.flatMap (fun row =>
    if row.actor.id = actorId then [] else row.grants.map ActorGrant.id)

def replaceActorGrants (store : CommandStore) (actorId : ActorId) (grants : List ActorGrant) :
    Except StorageError CommandStore :=
  if grants.any (fun grant => grant.actorId != actorId) then
    .error (.invalidCommand "grant actor mismatch")
  else match store.actors.find actorId with
    | none => if grants.isEmpty then .ok store else .error .constraint
    | some stored =>
      if (store.otherGrantIds actorId ++ grants.map ActorGrant.id).Nodup then
        .ok { store with actors := store.actors.replace ⟨stored.actor, grants⟩ }
      else .error .constraint

def loadCommand (store : CommandStore) (id : CommandId) : Option CommandAggregate :=
  (store.commands.find id).map StoredCommand.command

def auditOf (store : CommandStore) (id : CommandId) : List CommandAuditRecord :=
  store.audit.rows.filter (fun row => row.commandId == id)

def loadRecoverableCommands (host : StoreHost) (commandIdText : CommandId → String)
    (store : CommandStore) (limit : ℕ) : List CommandAggregate :=
  (store.commands.page (fun row => !row.command.isTerminal)
    (fun row => toLex (host.timestampText row.command.updatedAt,
      commandIdText row.command.envelope.id)) (min limit maxQueryPage)).map StoredCommand.command

def projectionForTarget (store : CommandStore) (deviceId : DeviceId) (endpointId : EndpointId)
    (schema : String) : Option StoredMatterProjection :=
  store.projections.rows.find? (fun projection => projection.deviceId == deviceId &&
    projection.endpointId == endpointId && projection.capabilitySchema == schema)

def insertSupersession (store : CommandStore) (supersession : MatterCommandSupersession) :
    Except StorageError CommandStore :=
  match h : store.supersessions.find supersession.oldCommandId with
  | some _ => .error .constraint
  | none => .ok { store with supersessions := store.supersessions.insert supersession h }

def supersede (store : CommandStore) (slot current : MatterDesiredCommandSlot) :
    Option MatterSupersededCommand → Except StorageError CommandStore
  | none => .error (.invalidMatter "missing superseded command transition")
  | some replacement =>
    if replacement.command.envelope.id ≠ current.commandId ∨
        replacement.command.state ≠ .cancelled then
      .error (.invalidMatter "superseded command mismatch")
    else do
      let store ← store.transitionCommand replacement.command replacement.expectedVersion
        replacement.audit
      store.insertSupersession
        ⟨current.commandId, slot.commandId, slot.projectionId, slot.updatedAt⟩

def closeSlot (store : CommandStore) (slot current : MatterDesiredCommandSlot)
    (superseded : Option MatterSupersededCommand) : Except StorageError CommandStore :=
  if current.dispatchedAt.isNone then store.supersede slot current superseded
  else if superseded.isSome then
    .error (.invalidMatter "dispatched command must remain historical")
  else .ok store

def overwriteSlot (store : CommandStore) (slot current : MatterDesiredCommandSlot)
    (superseded : Option MatterSupersededCommand) : Except StorageError CommandStore :=
  if slot.desiredRevision ≤ current.desiredRevision then
    .error (.invalidMatter "desired revision did not advance")
  else if current.commandId = slot.commandId then
    if superseded.isSome then .error (.invalidMatter "unexpected superseded command")
    else .ok store
  else do
    let store ← store.closeSlot slot current superseded
    .ok { store with authorizations := store.authorizations.filter (fun authorization =>
      !(authorization.commandId == current.commandId && authorization.consumedAt.isNone)) }

def replaceDesiredSlot (store : CommandStore) (slot : MatterDesiredCommandSlot)
    (superseded : Option MatterSupersededCommand) : Except StorageError CommandStore :=
  if slot.desiredRevision = 0 ∨ slot.dispatchedAt.isSome then
    .error (.invalidMatter "new desired slot is invalid")
  else match store.projections.find slot.projectionId, store.loadCommand slot.commandId with
    | none, _ => .error (.invalidMatter "Matter projection not found")
    | some _, none => .error (.invalidMatter "command not found")
    | some projection, some command =>
      if command.envelope.deviceId ≠ projection.deviceId ∨
          command.envelope.endpointId ≠ projection.endpointId then
        .error (.invalidMatter "command projection target mismatch")
      else if command.state ≠ .received ∧ command.state ≠ .validated then
        .error (.invalidMatter "new desired command is not pre-dispatch")
      else match h : store.slots.find slot.projectionId with
        | none =>
          if superseded.isSome then .error (.invalidMatter "unexpected superseded command")
          else if 2^63 ≤ slot.desiredRevision then .error .numericOverflow
          else .ok { store with slots := store.slots.insert slot h }
        | some current => do
          let store ← store.overwriteSlot slot current superseded
          if 2^63 ≤ slot.desiredRevision then .error .numericOverflow
          else .ok { store with slots := store.slots.replace slot }

def sameIdentity (stored projection : StoredMatterProjection) : Bool :=
  stored.installationId == projection.installationId && stored.fabricId == projection.fabricId &&
  stored.nodeId == projection.nodeId && stored.endpointNumber == projection.endpointNumber &&
  stored.deviceId == projection.deviceId && stored.endpointId == projection.endpointId

def storeProjection (store : CommandStore) (projection : StoredMatterProjection)
    (expectedRevision : ℕ) : Except StorageError CommandStore :=
  if projection.state.projectionId ≠ projection.projectionId then
    .error (.invalidMatter "projection state identity mismatch")
  else match store.projections.find projection.projectionId with
    | none => .error (.matterRevisionConflict "projection" (some expectedRevision) none)
    | some stored =>
      if stored.revision ≠ expectedRevision ∨
          projection.revision ≠ min (expectedRevision + 1) (2^64 - 1) then
        .error (.matterRevisionConflict "projection" (some expectedRevision) (some stored.revision))
      else if sameIdentity stored projection = false then
        .error (.invalidMatter "projection stable identity changed")
      else if 2^63 ≤ projection.revision then .error .numericOverflow
      else .ok { store with projections := store.projections.replace projection }

def replaceMatterDesiredState (store : CommandStore) (write : MatterDesiredStateWrite) :
    Except StorageError CommandStore :=
  if write.projection.projectionId ≠ write.slot.projectionId ∨
      write.projection.state.desired.all (fun desired =>
        desired.revision != write.slot.desiredRevision) then
    .error (.invalidMatter "desired slot and projection state mismatch")
  else do
    let store ← store.replaceDesiredSlot write.slot write.superseded
    if write.projection.revision = 0 then .error (.invalidMatter "invalid projection revision")
    else store.storeProjection write.projection (write.projection.revision - 1)

def recordDispatch (store : CommandStore) (write : MatterDispatchWrite) :
    Except StorageError CommandStore :=
  if write.command.state ≠ .dispatched then
    .error (.invalidMatter "dispatch aggregate is not dispatched")
  else match store.slots.find write.projectionId with
    | none => .error .database
    | some slot =>
      if slot.dispatchedAt.isSome then .error .database
      else if slot.commandId ≠ write.command.envelope.id then
        .error (.invalidMatter "dispatch slot command mismatch")
      else do
        let store ← store.transitionCommand write.command write.expectedVersion write.audit
        let marked : MatterDesiredCommandSlot :=
          { slot with dispatchedAt := some write.dispatchedAt, updatedAt := write.dispatchedAt }
        .ok { store with slots := store.slots.replace marked }

def currentSlotMatches (store : CommandStore) (authorization : MatterUnlockAuthorization) : Bool :=
  (store.slots.find authorization.projectionId).any (fun slot =>
    slot.dispatchedAt.isNone && slot.commandId == authorization.commandId &&
      slot.desiredRevision == authorization.desiredRevision)

def commandPolicyMatches (store : CommandStore) (authorization : MatterUnlockAuthorization) : Bool :=
  (((store.auditOf authorization.commandId).insertionSort (fun left right =>
    right.sequence ≤ left.sequence)).head?).any (fun audit => audit.policy.any (fun policy =>
      policy.allowed && policy.policyVersion == authorization.policyRevision))

def actorHasExactUnlockGrant (store : CommandStore) (authorization : MatterUnlockAuthorization) :
    Bool :=
  (store.actors.find authorization.approvingActorId).any (fun security =>
    security.actor.enabled && security.actor.kind == .user &&
      security.grants.any (fun grant => grant.enabled && grant.maximumRisk.permits .security &&
        grant.actions.contains .approveUnlock && grant.scope == .capability authorization.deviceId
          authorization.endpointId authorization.capabilitySchema))

def authorizationBound (store : CommandStore) (authorization : MatterUnlockAuthorization)
    (projection : StoredMatterProjection) (row : StoredCommand) : Bool :=
  row.command.state == .validated &&
  row.command.envelope.actorId == authorization.requestingActorId &&
  row.command.envelope.deviceId == projection.deviceId &&
  row.command.envelope.endpointId == projection.endpointId &&
  row.command.envelope.deviceId == authorization.deviceId &&
  row.command.envelope.endpointId == authorization.endpointId &&
  row.command.envelope.payload == .accessControl .unlock &&
  row.command.envelope.payload.schema == authorization.capabilitySchema &&
  row.requestHash == authorization.canonicalRequestHash &&
  projection.projectionId == authorization.projectionId &&
  projection.capabilitySchema == authorization.capabilitySchema &&
  projection.state.freshness == .fresh &&
  projection.state.desired.any (fun desired => desired.revision == authorization.desiredRevision &&
    desired.value == .lock .unlocked) &&
  store.currentSlotMatches authorization && store.commandPolicyMatches authorization &&
  store.actorHasExactUnlockGrant authorization

def createAuthorization (store : CommandStore) (authorization : MatterUnlockAuthorization) :
    Except StorageError CommandStore :=
  if authorization.desiredRevision = 0 ∨ authorization.policyRevision = 0 ∨
      authorization.expiresAt ≤ authorization.issuedAt ∨ authorization.consumedAt.isSome ∨
      authorization.capabilitySchema ≠ "access_control.v1" ∨ authorization.action ≠ .unlock then
    .error (.invalidMatter "invalid unlock authorization")
  else match store.projections.find authorization.projectionId,
      store.commands.find authorization.commandId with
    | some projection, some row =>
      if store.authorizationBound authorization projection row = false then
        .error (.invalidMatter "unlock authorization binding mismatch")
      else match h : store.authorizations.find authorization.id with
        | some _ => .error .constraint
        | none => .ok { store with authorizations := store.authorizations.insert authorization h }
    | _, _ => .error .database

def consumeAuthorization (store : CommandStore) (id : MatterUnlockAuthorizationId)
    (commandId : CommandId) (projectionId : MatterProjectionId) (consumedAt : Instant) :
    MatterUnlockConsumption × CommandStore :=
  match store.authorizations.find id with
  | none => (.notFound, store)
  | some stored =>
    if stored.commandId ≠ commandId ∨ stored.projectionId ≠ projectionId then
      (.bindingMismatch, store)
    else if stored.consumedAt.isSome then (.alreadyConsumed, store)
    else if stored.expiresAt ≤ consumedAt then (.expired, store)
    else
      let used : MatterUnlockAuthorization := { stored with consumedAt := some consumedAt }
      (.consumed, { store with authorizations := store.authorizations.replace used })

/-- What the stored authorization has to agree on with the dispatch it is used for. -/
def consumptionBound (store : CommandStore) (stored : MatterUnlockAuthorization)
    (write : MatterDispatchWrite) (row : StoredCommand) (projection : StoredMatterProjection) : Bool :=
  let authorization : MatterUnlockAuthorization :=
    { stored with
      commandId := write.command.envelope.id
      projectionId := write.projectionId
      deviceId := write.command.envelope.deviceId
      endpointId := write.command.envelope.endpointId }
  stored.commandId == write.command.envelope.id && stored.projectionId == write.projectionId &&
  stored.deviceId == write.command.envelope.deviceId &&
  stored.endpointId == write.command.envelope.endpointId &&
  stored.capabilitySchema == "access_control.v1" && stored.action == .unlock &&
  row.requestHash == stored.canonicalRequestHash && row.command.state == .validated &&
  row.command.envelope.payload == .accessControl .unlock &&
  projection.state.freshness == .fresh && write.expectedVersion == row.command.version &&
  store.currentSlotMatches authorization && store.commandPolicyMatches authorization &&
  store.actorHasExactUnlockGrant authorization

def authorizeAndRecordUnlockDispatch (store : CommandStore) (id : MatterUnlockAuthorizationId)
    (write : MatterDispatchWrite) : Except StorageError (MatterUnlockConsumption × CommandStore) :=
  match store.authorizations.find id with
  | none => .ok (.notFound, store)
  | some stored =>
    if stored.consumedAt.isSome then .ok (.alreadyConsumed, store)
    else if stored.expiresAt ≤ write.dispatchedAt then .ok (.expired, store)
    else match store.commands.find write.command.envelope.id,
        store.projections.find write.projectionId with
      | none, _ => .error (.invalidMatter "command not found")
      | some _, none => .error (.invalidMatter "Matter projection not found")
      | some row, some projection =>
        if store.consumptionBound stored write row projection = false then
          .ok (.bindingMismatch, store)
        else do
          let used : MatterUnlockAuthorization :=
            { stored with consumedAt := some write.dispatchedAt }
          let store ← recordDispatch
            { store with authorizations := store.authorizations.replace used } write
          .ok (.consumed, store)

end CommandStore
end HomeMagic
