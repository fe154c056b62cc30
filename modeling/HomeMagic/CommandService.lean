import HomeMagic.CommandPorts

/-! The command service: one governed path from a request to the adapter. -/
namespace HomeMagic

structure CommandRequest where
  deviceId : DeviceId
  endpointId : EndpointId
  payload : CommandPayload
  idempotencyKey : IdempotencyKey
  deadline : Instant
  expected : Option ExpectedObservation
  dryRun : Bool
  correlationId : CorrelationId
  causationEventId : Option EventId
  automationCausation : Option AutomationCausation
  deriving DecidableEq

structure CanonicalRequest where
  actorId : ActorId
  deviceId : DeviceId
  endpointId : EndpointId
  payload : CommandPayload
  deadline : Instant
  expected : Option ExpectedObservation
  dryRun : Bool
  deriving DecidableEq

def canonicalRequest (actorId : ActorId) (request : CommandRequest) : CanonicalRequest where
  actorId := actorId
  deviceId := request.deviceId
  endpointId := request.endpointId
  payload := request.payload
  deadline := request.deadline
  expected := request.expected
  dryRun := request.dryRun

/-- The SHA-256 of a canonical request, the freshness thresholds and whether the Matter
dispatch control is attached. -/
structure CommandHost where
  canonicalHash : CanonicalRequest → CanonicalRequestHash
  freshness : FreshnessPolicy
  dispatchControl : Bool

inductive MatterCommandControlError
  | revisionExhausted | priorCommandMissing | priorCommandNotCancellable | desiredSlotMissing
  | invalidDispatchTransition | registrationFailed | unsupportedDesiredState
  | invalidUnlockApproval | unlockApprovalExpired | unlockApprovalRejected | invalidState
  deriving DecidableEq

inductive BoxError
  | storage (error : StorageError)
  | control (error : MatterCommandControlError)
  deriving DecidableEq

inductive CommandServiceError
  | deviceNotFound | commandNotFound | actorNotFound | actorMismatch | notCancellable
  | idempotencyConflict (existing : CommandId)
  | repository (source : BoxError)
  | auditPublication | confirmation | invalidTransition | unlockApprovalUnavailable
  | unlockNotPending | unlockApprovalDenied
  deriving DecidableEq

abbrev CommandPathM (ε : Type) := ExceptT ε (Program CommandCall CommandCall.Response)
abbrev CommandM := CommandPathM CommandServiceError
abbrev ControlM := CommandPathM BoxError

def invoke (c : CommandCall) : Program CommandCall CommandCall.Response c.Response := .perform c

def asking {ε : Type} (c : CommandCall) : CommandPathM ε c.Response :=
  ExceptT.mk ((invoke c).bind (fun response => .done (.ok response)))

def calling {ε ε' α : Type} (wrap : ε → ε')
    (p : Program CommandCall CommandCall.Response (Except ε α)) : CommandPathM ε' α :=
  ExceptT.mk (p.bind (fun response => match response with
    | .ok value => .done (.ok value)
    | .error error => .done (.error (wrap error))))

abbrev stored {α : Type} (p : Program CommandCall CommandCall.Response (Except StorageError α)) :
    CommandM α := calling (fun error => .repository (.storage error)) p

abbrev controlled {α : Type} (p : Program CommandCall CommandCall.Response (Except StorageError α)) :
    ControlM α := calling .storage p

def readClock : CommandM Instant := asking .now

def freshId {ε : Type} : CommandPathM ε ℕ := asking .newId

def publish (audit : CommandAuditRecord) : CommandM Unit :=
  calling (fun _ => .auditPublication) (invoke (.publish audit))

def endpointOf (device : DeviceRecord) (endpointId : EndpointId) : Option EndpointSnapshot :=
  device.snapshot.endpoints.find? (fun endpoint => endpoint.id == endpointId)

def descriptorsOf (device : DeviceRecord) (endpointId : EndpointId) :
    Option (List CapabilityDescriptor) :=
  (device.capabilityDescriptors.find? (fun entry => entry.1 == endpointId)).map Prod.snd

def requestedDescriptor : CommandPayload → CapabilityDescriptor
  | .onOff _ => ⟨"on_off", 1, .comfort⟩
  | .level _ => ⟨"level", 1, .comfort⟩
  | .position _ => ⟨"position", 1, .mechanical⟩
  | .accessControl _ => ⟨"access_control", 1, .security⟩

def effectivePayload (payload : CommandPayload) (endpointId : EndpointId) (device : DeviceRecord)
    (freshness : FreshnessPolicy) (now : Instant) : CommandPayload :=
  if payload ≠ .onOff .toggle ∨ device.freshnessAt freshness now ≠ .fresh then payload
  else match (endpointOf device endpointId).bind (fun endpoint =>
      endpoint.capabilities.findSome? (fun capability => match capability with
        | .onOff on _ => some (!on)
        | _ => none)) with
    | some on => .onOff (.set on)
    | none => payload

def constraintState (payload : CommandPayload) (endpointId : EndpointId) (device : DeviceRecord) :
    ConstraintState :=
  match payload with
  | .position (.goTo _) =>
    if (device.snapshot.endpoints.filter (fun endpoint => endpoint.id == endpointId)).any
        (fun endpoint => endpoint.capabilities.any (fun capability => match capability with
          | .position (some _) _ _ => true
          | _ => false)) then .available
    else .unavailable
  | _ => .available

def validateTarget (command : CommandAggregate) (device : DeviceRecord) (now : Instant) :
    Except CommandErrorCode Unit := do
  command.envelope.validate now
  if !(descriptorsOf device command.envelope.endpointId).any (fun descriptors =>
      descriptors.contains command.envelope.capability) then .error .capabilityMismatch
  else if command.envelope.expected.any (fun expected =>
      expected.observedAt != device.snapshot.observedAt) then .error .staleObservation
  else if command.envelope.payload = .onOff .toggle then .error .staleObservation
  else if constraintState command.envelope.payload command.envelope.endpointId device =
      .unavailable then .error .unsupportedConstraint
  else .ok ()

def requestEnvelope (host : CommandHost) (actorId : ActorId) (request : CommandRequest)
    (device : DeviceRecord) (now : Instant) (id : CommandId) : CommandEnvelope where
  id := id
  actorId := actorId
  deviceId := request.deviceId
  endpointId := request.endpointId
  capability := ((descriptorsOf device request.endpointId).bind (fun descriptors =>
    descriptors.find? (fun descriptor => descriptor.schema == request.payload.schema))).getD
      (requestedDescriptor request.payload)
  payload := effectivePayload request.payload request.endpointId device host.freshness now
  idempotencyKey := request.idempotencyKey
  deadline := request.deadline
  expected := request.expected
  dryRun := request.dryRun
  correlationId := request.correlationId
  causationEventId := request.causationEventId
  automationCausation := request.automationCausation
  receivedAt := now

def policyInput (host : CommandHost) (actor : Actor) (action : CommandAction) (risk : RiskClass)
    (command : CommandAggregate) (device : DeviceRecord) (constraint : ConstraintState)
    (capacities : CommandLimitCapacities) (dryRun : Bool) (now : Instant) : PolicyInput where
  actor := actor
  action := action
  deviceId := command.envelope.deviceId
  endpointId := command.envelope.endpointId
  schema := command.envelope.capability.schema
  risk := risk
  spaces := device.spaces
  freshness := device.freshnessAt host.freshness now
  constraint := constraint
  rateCapacity := capacities.rate
  deviceCapacity := capacities.device
  dryRun := dryRun
  evaluatedAt := now

def executeInput (host : CommandHost) (actor : Actor) (command : CommandAggregate)
    (device : DeviceRecord) (capacities : CommandLimitCapacities) (now : Instant) : PolicyInput :=
  policyInput host actor .execute command.envelope.capability.risk command device
    (constraintState command.envelope.payload command.envelope.endpointId device) capacities
    command.envelope.dryRun now

def transition (command : CommandAggregate) (next : CommandState) (now : Instant) :
    CommandM CommandAggregate :=
  match command.transition next now with
  | none => throw .invalidTransition
  | some moved => do
    let auditId ← freshId
    let audit := commandAudit auditId moved (some command.state)
    stored (invoke (.transitionCommand moved command.version audit))
    publish audit
    pure moved

def reject (command : CommandAggregate) (code : CommandErrorCode) (now : Instant)
    (policy : Option PolicyDecision) : CommandM CommandAggregate :=
  transition { command with
    policy := policy.orElse (fun _ => command.policy), failure := some ⟨code, none⟩ } .rejected now

def timeout (command : CommandAggregate) (now : Instant) : CommandM CommandAggregate :=
  transition { command with failure := some ⟨.deadlineExceeded, none⟩ } .timedOut now

inductive DesiredStateRegistration
  | unmanaged
  | managed (projectionId : MatterProjectionId) (desiredRevision : ℕ)
      (supersededAudit : Option CommandAuditRecord)

inductive MatterDispatchAdmission
  | unmanaged
  | committed (command : CommandAggregate) (audit : CommandAuditRecord)
  | superseded (durable : CommandAggregate)
  | awaitingUnlockAuthorization

namespace MatterCommandDispatchControl

def desiredValue : CommandPayload → Option MatterStateValue
  | .onOff (.set on) => some (.onOff on)
  | .accessControl .lock => some (.lock .locked)
  | .accessControl .unlock => some (.lock .unlocked)
  | _ => none

def isReplaceable : CommandPayload → Bool
  | .onOff (.set _) | .accessControl _ => true
  | _ => false

def projectionFor (command : CommandAggregate) : ControlM (Option StoredMatterProjection) :=
  if isReplaceable command.envelope.payload then
    controlled (invoke (.matterProjectionForTarget command.envelope.deviceId
      command.envelope.endpointId command.envelope.capability.schema))
  else pure none

def advanceDesired (state : MatterProjectedState) (revision : ℕ) (value : MatterStateValue)
    (now : Instant) : Except MatterStateError MatterProjectedState := do
  let desired ← MatterDesiredState.new revision value now
  advanceMatterDesiredState state desired

def supersededBy (current : Option MatterDesiredCommandSlot) (now : Instant) :
    ControlM (Option MatterSupersededCommand) :=
  match current with
  | none => pure none
  | some slot =>
    if slot.dispatchedAt.isSome then pure none
    else do
      match ← controlled (invoke (.command slot.commandId)) with
      | none => throw (.control .priorCommandMissing)
      | some prior =>
        let failed := { prior with failure := some ⟨.supersededBeforeDispatch, none⟩ }
        match failed.transition .cancelled now with
        | none => throw (.control .priorCommandNotCancellable)
        | some cancelled =>
          let auditId ← freshId
          pure (some ⟨cancelled, prior.version, commandAudit auditId cancelled (some prior.state)⟩)

def desiredWrite (command : CommandAggregate) (now : Instant) (projection : StoredMatterProjection)
    (current : Option MatterDesiredCommandSlot) (superseded : Option MatterSupersededCommand) :
    Except MatterCommandControlError MatterDesiredStateWrite :=
  let desiredRevision := current.elim 1 (fun slot => slot.desiredRevision + 1)
  if 2^64 ≤ desiredRevision then .error .revisionExhausted
  else match desiredValue command.envelope.payload with
    | none => .error .unsupportedDesiredState
    | some value =>
      match advanceDesired projection.state desiredRevision value now with
      | .error _ => .error .invalidState
      | .ok state =>
        if 2^64 ≤ projection.revision + 1 then .error .revisionExhausted
        else .ok ⟨⟨projection.projectionId, desiredRevision, command.envelope.id, none, now⟩,
          { projection with state := state, revision := projection.revision + 1, updatedAt := now },
          superseded⟩

def replaceDesired (command : CommandAggregate) (now : Instant) (projection : StoredMatterProjection)
    (current : Option MatterDesiredCommandSlot) : ControlM DesiredStateRegistration :=
  match desiredWrite command now projection current none with
  | .error error => throw (.control error)
  | .ok write => do
    let superseded ← supersededBy current now
    controlled (invoke (.replaceMatterDesiredState { write with superseded := superseded }))
    pure (.managed projection.projectionId write.slot.desiredRevision
      (superseded.map MatterSupersededCommand.audit))

def registerOnce (command : CommandAggregate) (now : Instant) : ControlM DesiredStateRegistration := do
  match ← projectionFor command with
  | none => pure .unmanaged
  | some projection =>
    let current ← controlled (invoke (.matterDesiredSlot projection.projectionId))
    match current.filter (fun slot => slot.commandId == command.envelope.id) with
    | some slot => pure (.managed projection.projectionId slot.desiredRevision none)
    | none => replaceDesired command now projection current

def desiredRegistrationAttempts : ℕ := 4

def registerDesired (command : CommandAggregate) (now : Instant) :
    ℕ → BoxError → ControlM DesiredStateRegistration
  | 0, last => throw last
  | attempts + 1, _ =>
    ExceptT.mk ((registerOnce command now).run.bind (fun result => match result with
      | .ok registration => .done (.ok registration)
      | .error error => (registerDesired command now attempts error).run))

def superseded (command : CommandAggregate) : ControlM MatterDispatchAdmission := do
  match ← controlled (invoke (.command command.envelope.id)) with
  | none => throw (.control .priorCommandMissing)
  | some durable => pure (.superseded durable)

def dispatchWrite (command : CommandAggregate) (now : Instant)
    (projectionId : MatterProjectionId) : ControlM MatterDispatchWrite :=
  match command.transition .dispatched now with
  | none => throw (.control .invalidDispatchTransition)
  | some dispatched => do
    let auditId ← freshId
    pure ⟨projectionId, dispatched, command.version,
      commandAudit auditId dispatched (some command.state), now⟩

def commitDispatch (command : CommandAggregate) (now : Instant) :
    ControlM MatterDispatchAdmission := do
  match ← projectionFor command with
  | none => pure .unmanaged
  | some projection =>
    match ← controlled (invoke (.matterDesiredSlot projection.projectionId)) with
    | none => throw (.control .desiredSlotMissing)
    | some slot =>
      if slot.commandId ≠ command.envelope.id then superseded command
      else if command.envelope.payload = .accessControl .unlock then
        pure .awaitingUnlockAuthorization
      else
        let write ← dispatchWrite command now projection.projectionId
        controlled (invoke (.recordMatterDispatch write))
        pure (.committed write.command write.audit)

def unlockAuthorization (id : MatterUnlockAuthorizationId) (approver : Actor)
    (command : CommandAggregate) (approval : PolicyDecision) (now expiresAt : Instant)
    (projection : StoredMatterProjection) (slot : MatterDesiredCommandSlot)
    (requestHash : CanonicalRequestHash) : MatterUnlockAuthorization where
  id := id
  commandId := command.envelope.id
  canonicalRequestHash := requestHash
  requestingActorId := command.envelope.actorId
  approvingActorId := approver.id
  projectionId := projection.projectionId
  deviceId := command.envelope.deviceId
  endpointId := command.envelope.endpointId
  capabilitySchema := command.envelope.capability.schema
  action := .unlock
  desiredRevision := slot.desiredRevision
  policyRevision := approval.policyVersion
  issuedAt := now
  expiresAt := expiresAt
  consumedAt := none

def nanosPerMinute : ℤ := 60000000000

def useAuthorization (approver : Actor) (command : CommandAggregate) (approval : PolicyDecision)
    (now : Instant) (projection : StoredMatterProjection) (slot : MatterDesiredCommandSlot)
    (requestHash : CanonicalRequestHash) : ControlM MatterDispatchAdmission := do
  let expiresAt := min (now + nanosPerMinute) command.envelope.deadline
  if expiresAt ≤ now then throw (.control .unlockApprovalExpired)
  else
    let id ← freshId
    controlled (invoke (.createUnlockAuthorization
      (unlockAuthorization id approver command approval now expiresAt projection slot requestHash)))
    let write ← dispatchWrite command now projection.projectionId
    match ← controlled (invoke (.authorizeAndRecordUnlockDispatch id write)) with
    | .consumed => pure (.committed write.command write.audit)
    | _ => throw (.control .unlockApprovalRejected)

def authorizeUnlock (approver : Actor) (command : CommandAggregate) (approval : PolicyDecision)
    (now : Instant) : ControlM MatterDispatchAdmission := do
  if approval.allowed = false ∨ command.envelope.payload ≠ .accessControl .unlock then
    throw (.control .invalidUnlockApproval)
  else match ← projectionFor command with
    | none => throw (.control .desiredSlotMissing)
    | some projection =>
      match ← controlled (invoke (.matterDesiredSlot projection.projectionId)) with
      | none => throw (.control .desiredSlotMissing)
      | some slot =>
        if slot.commandId ≠ command.envelope.id then superseded command
        else match ← controlled (invoke (.commandRequestHash command.envelope.id)) with
          | none => throw (.control .priorCommandMissing)
          | some requestHash =>
            useAuthorization approver command approval now projection slot requestHash

end MatterCommandDispatchControl

def viaControl {α : Type} (p : ControlM α) : CommandM α := calling .repository p.run

def confirm (command : CommandAggregate) (now : Instant) : CommandM CommandAggregate := do
  match ← calling (fun _ => .confirmation) (invoke (.confirm command)) with
  | .confirmed confirmation =>
    transition { command with confirmation := some confirmation } .confirmed now
  | .failed failure => transition { command with failure := some failure } .failed now
  | .pending => if command.envelope.deadline ≤ now then timeout command now else pure command

def dispatchCommitted (command : CommandAggregate) : CommandM CommandAggregate := do
  match ← asking (.dispatch command.envelope) with
  | .ok acknowledgement =>
    let command := { command with acknowledgement := some acknowledgement }
    let afterDispatch ← readClock
    if command.envelope.deadline ≤ afterDispatch then timeout command afterDispatch
    else
      let command ← transition command .acknowledged afterDispatch
      let now ← readClock
      confirm command now
  | .error failure =>
    let now ← readClock
    transition { command with failure := some failure } .failed now

def publishSuperseded : DesiredStateRegistration → CommandM Unit
  | .managed _ _ (some audit) => publish audit
  | _ => pure ()

def dispatchControlled (command : CommandAggregate) (now : Instant) : CommandM CommandAggregate := do
  let registration ← viaControl (MatterCommandDispatchControl.registerDesired command now
    MatterCommandDispatchControl.desiredRegistrationAttempts (.control .registrationFailed))
  publishSuperseded registration
  match ← viaControl (MatterCommandDispatchControl.commitDispatch command now) with
  | .unmanaged =>
    let command ← transition command .dispatched now
    dispatchCommitted command
  | .committed dispatched audit =>
    publish audit
    dispatchCommitted dispatched
  | .superseded durable => pure durable
  | .awaitingUnlockAuthorization => pure command

def dispatch (host : CommandHost) (command : CommandAggregate) (now : Instant) :
    CommandM CommandAggregate :=
  if command.envelope.deadline ≤ now then timeout command now
  else if host.dispatchControl then dispatchControlled command now
  else do
    let command ← transition command .dispatched now
    dispatchCommitted command

def admitReceived (host : CommandHost) (command : CommandAggregate) (security : ActorSecurity)
    (device : DeviceRecord) (now : Instant) : CommandM CommandAggregate := do
  let capacities ← asking (.tryAcquire security.actor.id command.envelope.deviceId now)
  let decision := PolicyEvaluator.evaluate
    (executeInput host security.actor command device capacities now) security.grants
  let command := { command with policy := some decision }
  if decision.allowed = false then reject command .policyDenied now (some decision)
  else
    let command ← transition command .validated now
    if command.envelope.dryRun then pure command else dispatch host command now

def continueReceived (host : CommandHost) (command : CommandAggregate) (actorId : ActorId)
    (device : DeviceRecord) (now : Instant) : CommandM CommandAggregate :=
  match validateTarget command device now with
  | .error code => reject command code now none
  | .ok () => do
    match ← stored (invoke (.actorSecurity actorId)) with
    | none => throw .actorNotFound
    | some security => admitReceived host command security device now

def execute (host : CommandHost) (actor : Actor) (request : CommandRequest) (now : Instant) :
    CommandM CommandAggregate := do
  let devices ← stored (invoke .loadFoundation)
  match devices.find? (fun device => device.snapshot.id == request.deviceId) with
  | none => throw .deviceNotFound
  | some device =>
    let id ← freshId
    let command := CommandAggregate.received (requestEnvelope host actor.id request device now id)
    let auditId ← freshId
    let receipt := commandAudit auditId command none
    match ← stored (invoke (.createCommand command
        (host.canonicalHash (canonicalRequest actor.id request)) receipt)) with
    | .existingEquivalent existing => pure existing
    | .conflict existing => throw (.idempotencyConflict existing)
    | .created _ =>
      publish receipt
      continueReceived host command actor.id device now

def get (actorId : ActorId) (commandId : CommandId) : CommandM (Option CommandAggregate) := do
  match ← stored (invoke (.command commandId)) with
  | none => pure none
  | some command =>
    if command.envelope.actorId ≠ actorId then throw .actorMismatch else pure (some command)

def cancel (actorId : ActorId) (commandId : CommandId) (now : Instant) :
    CommandM CommandAggregate := do
  match ← get actorId commandId with
  | none => throw .commandNotFound
  | some command =>
    if command.isTerminal ∨ (command.state ≠ .received ∧ command.state ≠ .validated) then
      throw .notCancellable
    else transition command .cancelled now

def recoveryContext (command : CommandAggregate) : CommandM (DeviceRecord × ActorSecurity) := do
  let devices ← stored (invoke .loadFoundation)
  match devices.find? (fun device => device.snapshot.id == command.envelope.deviceId) with
  | none => throw .deviceNotFound
  | some device =>
    match ← stored (invoke (.actorSecurity command.envelope.actorId)) with
    | none => throw .actorNotFound
    | some security => pure (device, security)

def recoverValidated (host : CommandHost) (command : CommandAggregate) (device : DeviceRecord)
    (security : ActorSecurity) (now : Instant) : CommandM CommandAggregate := do
  let capacities ← asking (.tryAcquire command.envelope.actorId command.envelope.deviceId now)
  let decision := PolicyEvaluator.evaluate
    (executeInput host security.actor command device capacities now) security.grants
  if decision.allowed then dispatch host command now
  else reject command .policyDenied now (some decision)

def recoverOne (host : CommandHost) (command : CommandAggregate) (now : Instant) : CommandM Unit :=
  match command.state with
  | .received =>
    if command.envelope.deadline ≤ now then do
      let _ ← timeout command now
    else do
      let (device, security) ← recoveryContext command
      let _ ← continueReceived host command security.actor.id device now
  | .validated =>
    if command.envelope.deadline ≤ now then do
      let _ ← timeout command now
    else do
      let (device, security) ← recoveryContext command
      let _ ← recoverValidated host command device security now
  | .dispatched | .acknowledged => do
    let _ ← confirm command now
  | _ => pure ()

def recoverAll (host : CommandHost) (now : Instant) : List CommandAggregate → CommandM Unit
  | [] => pure ()
  | command :: rest => do
    recoverOne host command now
    recoverAll host now rest

def commandRecoveryPage : ℕ := 256

def recoverCommands (host : CommandHost) (now : Instant) : CommandM ℕ := do
  let commands ← stored (invoke (.recoverableCommands commandRecoveryPage))
  recoverAll host now commands
  pure commands.length

def approveUnlock (host : CommandHost) (approver : Actor) (commandId : CommandId) (now : Instant) :
    CommandM CommandAggregate := do
  match ← stored (invoke (.command commandId)) with
  | none => throw .commandNotFound
  | some command =>
    if command.state ≠ .validated ∨ command.envelope.deadline ≤ now ∨
        command.envelope.payload ≠ .accessControl .unlock then throw .unlockNotPending
    else match ← stored (invoke (.actorSecurity approver.id)) with
      | none => throw .actorNotFound
      | some security =>
        let devices ← stored (invoke .loadFoundation)
        match devices.find? (fun device => device.snapshot.id == command.envelope.deviceId) with
        | none => throw .deviceNotFound
        | some device =>
          let approval := PolicyEvaluator.evaluate
            (policyInput host security.actor .approveUnlock .security command device .available
              ⟨.available, .available⟩ false now) security.grants
          if approval.allowed = false then throw .unlockApprovalDenied
          else if host.dispatchControl = false then throw .unlockApprovalUnavailable
          else
            match ← viaControl (MatterCommandDispatchControl.authorizeUnlock security.actor command
                approval now) with
            | .committed dispatched audit =>
              publish audit
              dispatchCommitted dispatched
            | .superseded durable => pure durable
            | .unmanaged | .awaitingUnlockAuthorization => throw .unlockApprovalUnavailable

end HomeMagic
