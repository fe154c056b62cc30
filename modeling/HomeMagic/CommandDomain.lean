import HomeMagic.AutomationPorts

/-! Commands, actors, grants and the default-deny command policy. -/
namespace HomeMagic

abbrev AuditId := ℕ
abbrev GrantId := ℕ

inductive ActorKind
  | legacy | user | agent | automation | service
  deriving DecidableEq

structure Actor where
  id : ActorId
  installationId : InstallationId
  kind : ActorKind
  enabled : Bool
  deriving DecidableEq

inductive CommandAction
  | validate | execute | cancel | readAudit | approveUnlock | matterRead | matterCreateFabric
  | matterCommissionNode | matterCancelOperation | matterRemoveNode | matterExportFabric
  | matterRestoreFabric | matterRepairSubscription
  deriving DecidableEq

inductive GrantScope
  | installation (installationId : InstallationId)
  | space (spaceId : SpaceId)
  | device (deviceId : DeviceId)
  | capability (deviceId : DeviceId) (endpointId : EndpointId) (schema : String)
  deriving DecidableEq

structure ActorGrant where
  id : GrantId
  actorId : ActorId
  actions : List CommandAction
  scope : GrantScope
  maximumRisk : RiskClass
  enabled : Bool
  deriving DecidableEq

structure ActorSecurity where
  actor : Actor
  grants : List ActorGrant
  deriving DecidableEq

namespace RiskClass

def rank : RiskClass → ℕ
  | observe => 0
  | comfort => 1
  | mechanical => 2
  | security => 3

def permits (maximum requested : RiskClass) : Bool := decide (requested.rank ≤ maximum.rank)

end RiskClass

inductive PolicyReason
  | actorDisabled | noMatchingGrant | riskExceedsGrant | mechanicalGrantRequired
  | securityExactGrantRequired | interactiveUserRequired | stateNotFresh | constraintUnavailable
  | rateLimitExceeded | deviceConcurrencyExceeded | allowedByGrant
  deriving DecidableEq

inductive ConstraintState
  | available | unavailable
  deriving DecidableEq

inductive CapacityState
  | available | exhausted
  deriving DecidableEq

structure PolicyInput where
  actor : Actor
  action : CommandAction
  deviceId : DeviceId
  endpointId : EndpointId
  schema : String
  risk : RiskClass
  spaces : List SpaceId
  freshness : FreshnessState
  constraint : ConstraintState
  rateCapacity : CapacityState
  deviceCapacity : CapacityState
  dryRun : Bool
  evaluatedAt : Instant

structure PolicyDecision where
  policyVersion : ℕ
  allowed : Bool
  reasons : Finset PolicyReason
  evaluatedAt : Instant
  deriving DecidableEq

def policyVersion : ℕ := 1

namespace PolicyEvaluator

def scopeMatches (scope : GrantScope) (input : PolicyInput) : Bool :=
  match scope with
  | .installation installationId => installationId == input.actor.installationId
  | .space spaceId => input.spaces.contains spaceId
  | .device deviceId => deviceId == input.deviceId
  | .capability deviceId endpointId schema =>
    deviceId == input.deviceId && endpointId == input.endpointId && schema == input.schema

def exactScope (scope : GrantScope) (input : PolicyInput) : Bool :=
  match scope with
  | .capability deviceId endpointId schema =>
    deviceId == input.deviceId && endpointId == input.endpointId && schema == input.schema
  | _ => false

def scopedGrants (input : PolicyInput) (grants : List ActorGrant) : List ActorGrant :=
  grants.filter (fun grant => grant.actorId == input.actor.id && grant.enabled &&
    grant.actions.contains input.action && scopeMatches grant.scope input)

def riskMatched (input : PolicyInput) (grants : List ActorGrant) : List ActorGrant :=
  (scopedGrants input grants).filter (fun grant => grant.maximumRisk.permits input.risk)

def because (condition : Bool) (reason : PolicyReason) (reasons : Finset PolicyReason) :
    Finset PolicyReason :=
  if condition then insert reason reasons else reasons

def riskReasons (input : PolicyInput) (grants : List ActorGrant) (reasons : Finset PolicyReason) :
    Finset PolicyReason :=
  match input.risk with
  | .observe | .comfort => reasons
  | .mechanical =>
    because (input.constraint != .available) .constraintUnavailable
      (because (input.freshness != .fresh) .stateNotFresh
        (because (riskMatched input grants).isEmpty .mechanicalGrantRequired reasons))
  | .security =>
    because (!(riskMatched input grants).any (fun grant => exactScope grant.scope input))
      .securityExactGrantRequired reasons

def denials (input : PolicyInput) (grants : List ActorGrant) : Finset PolicyReason :=
  let reasons := because (!input.actor.enabled) .actorDisabled ∅
  let reasons := because (input.action == .approveUnlock && input.actor.kind != .user)
    .interactiveUserRequired reasons
  let reasons := because (scopedGrants input grants).isEmpty .noMatchingGrant reasons
  let reasons := because (!(scopedGrants input grants).isEmpty && (riskMatched input grants).isEmpty)
    .riskExceedsGrant reasons
  let reasons := riskReasons input grants reasons
  let reasons := because (input.rateCapacity == .exhausted) .rateLimitExceeded reasons
  because (input.deviceCapacity == .exhausted) .deviceConcurrencyExceeded reasons

def evaluate (input : PolicyInput) (grants : List ActorGrant) : PolicyDecision :=
  let reasons := denials input grants
  let allowed := decide (reasons = ∅) && !(riskMatched input grants).isEmpty
  { policyVersion := policyVersion
    allowed := allowed
    reasons := because allowed .allowedByGrant reasons
    evaluatedAt := input.evaluatedAt }

end PolicyEvaluator

inductive IdempotencyKeyError
  | empty | tooLong | controlCharacter
  deriving DecidableEq

def isControl (c : Char) : Bool := c.toNat < 32 || (127 ≤ c.toNat && c.toNat < 160)

structure IdempotencyKey where
  text : String
  not_blank : blankText text = false
  bounded : text.length ≤ 128
  printable : text.toList.any isControl = false
  deriving DecidableEq

def IdempotencyKey.new (text : String) : Except IdempotencyKeyError IdempotencyKey :=
  if hblank : blankText text = true then .error .empty
  else if hlong : 128 < text.length then .error .tooLong
  else if hcontrol : text.toList.any isControl = true then .error .controlCharacter
  else .ok ⟨text, by simpa using hblank, by omega, by simpa using hcontrol⟩

structure ExpectedObservation where
  observedAt : Instant
  deriving DecidableEq

structure CommandEnvelope where
  id : CommandId
  actorId : ActorId
  deviceId : DeviceId
  endpointId : EndpointId
  capability : CapabilityDescriptor
  payload : CommandPayload
  idempotencyKey : IdempotencyKey
  deadline : Instant
  expected : Option ExpectedObservation
  dryRun : Bool
  correlationId : CorrelationId
  causationEventId : Option EventId
  automationCausation : Option AutomationCausation
  receivedAt : Instant
  deriving DecidableEq

def CommandEnvelope.validate (envelope : CommandEnvelope) (now : Instant) :
    Except CommandErrorCode Unit :=
  if envelope.deadline ≤ now then .error .deadlineExceeded
  else if envelope.capability.schema ≠ envelope.payload.schema then .error .capabilityMismatch
  else envelope.payload.validate

structure AdapterAcknowledgement where
  acknowledgedAt : Instant
  code : String
  deriving DecidableEq

structure ObservedConfirmation where
  confirmedAt : Instant
  observationAt : Instant
  deriving DecidableEq

structure CommandFailure where
  code : CommandErrorCode
  detail : Option String
  deriving DecidableEq

structure CommandAggregate where
  envelope : CommandEnvelope
  state : CommandState
  version : ℕ
  policy : Option PolicyDecision
  acknowledgement : Option AdapterAcknowledgement
  confirmation : Option ObservedConfirmation
  failure : Option CommandFailure
  updatedAt : Instant
  deriving DecidableEq

namespace CommandAggregate

def received (envelope : CommandEnvelope) : CommandAggregate where
  envelope := envelope
  state := .received
  version := 0
  policy := none
  acknowledgement := none
  confirmation := none
  failure := none
  updatedAt := envelope.receivedAt

def nextVersion (version : ℕ) : ℕ := min (version + 1) (2^64 - 1)

def transition (command : CommandAggregate) (next : CommandState) (at_ : Instant) :
    Option CommandAggregate :=
  if command.state.allowsTransitionTo next then
    some { command with
      state := next, version := nextVersion command.version, updatedAt := at_ }
  else none

def isTerminal (command : CommandAggregate) : Bool :=
  command.state.isTerminal || (command.envelope.dryRun && command.state == .validated)

end CommandAggregate

structure CommandAuditRecord where
  id : AuditId
  commandId : CommandId
  sequence : ℕ
  fromState : Option CommandState
  toState : CommandState
  actorId : ActorId
  policy : Option PolicyDecision
  failure : Option CommandFailure
  acknowledgement : Option AdapterAcknowledgement
  confirmation : Option ObservedConfirmation
  correlationId : CorrelationId
  causationEventId : Option EventId
  occurredAt : Instant
  deriving DecidableEq

def commandAudit (id : AuditId) (command : CommandAggregate) (before : Option CommandState) :
    CommandAuditRecord where
  id := id
  commandId := command.envelope.id
  sequence := command.version
  fromState := before
  toState := command.state
  actorId := command.envelope.actorId
  policy := command.policy
  failure := command.failure
  acknowledgement := command.acknowledgement
  confirmation := command.confirmation
  correlationId := command.envelope.correlationId
  causationEventId := command.envelope.causationEventId
  occurredAt := command.updatedAt

end HomeMagic
