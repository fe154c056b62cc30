import HomeMagic.MatterProjection

/-! Durable Matter controller operations: their kinds and phases, the phase machine of
each kind, and the closed errors and events that a controller reports. -/
namespace HomeMagic

abbrev MatterOperationId := ℕ
abbrev MatterSubscriptionId := ℕ

inductive MatterOperationKind
  | createFabric | commissionNode | cancelCommissioning | removeNode | exportFabric | restoreFabric
  | repairSubscription
  deriving DecidableEq

inductive MatterOperationPhase
  | requested | creatingFabric | validatingSetup | discovering | establishingSession | commissioning
  | projecting | subscribing | cancelling | removingNode | cleaningSecrets | exporting | restoring
  | loadingFabric | readingGap | completed | cancelled | failed | repairRequired
  deriving DecidableEq

namespace MatterOperationPhase

def isTerminal : MatterOperationPhase → Bool
  | completed | cancelled | failed | repairRequired => true
  | _ => false

end MatterOperationPhase

inductive MatterOperationTarget
  | fabric (fabricId : MatterFabricId)
  | operation (fabricId : MatterFabricId) (operationId : MatterOperationId)
  | node (fabricId : MatterFabricId) (nodeId : MatterNodeId)
  deriving DecidableEq

def MatterOperationTarget.fabricId : MatterOperationTarget → MatterFabricId
  | fabric fabricId | operation fabricId _ | node fabricId _ => fabricId

inductive MatterControllerErrorCategory
  | validation | discovery | transport | attestation | authentication | conflict | notFound
  | unsupported | timeout | cancelled | secretStore | persistence | protocol | internal
  deriving DecidableEq

inductive MatterControllerErrorCode
  | invalidRequest | invalidSetupPayload | fabricNotFound | fabricConflict | nodeNotFound
  | descriptorChanged | discoveryTimeout | sessionUnavailable | attestationFailed
  | authenticationFailed | subscriptionLost | readFailed | invokeFailed | outcomeIndeterminate
  | unsupportedOperation | secretUnavailable | persistenceFailed | deadlineExceeded | cancelled
  | internalInvariant
  deriving DecidableEq

inductive MatterRetryability
  | never | safe | afterRepair
  deriving DecidableEq

inductive MatterAffectedResource
  | controller
  | fabric (fabricId : MatterFabricId)
  | node (fabricId : MatterFabricId) (nodeId : MatterNodeId)
  | endpoint (fabricId : MatterFabricId) (nodeId : MatterNodeId) (endpoint : MatterEndpointNumber)
  | operation (operationId : MatterOperationId)
  deriving DecidableEq

inductive MatterRepairAction
  | checkLocalNetwork | restoreSecretStore | recommissionDevice | refreshDescriptor
  | reviewPartialCleanup | updateControllerAdapter
  deriving DecidableEq

structure MatterControllerError where
  category : MatterControllerErrorCategory
  code : MatterControllerErrorCode
  retryability : MatterRetryability
  resource : Option MatterAffectedResource
  repair : Option MatterRepairAction
  deriving DecidableEq

structure MatterOperationProgress where
  operationId : MatterOperationId
  revision : ℕ
  phase : MatterOperationPhase
  occurredAt : Instant
  error : Option MatterControllerError
  deriving DecidableEq

inductive MatterRepairStatus
  | open_ | inProgress | resolved
  deriving DecidableEq

structure MatterRepairRecord where
  id : ℕ
  operationId : MatterOperationId
  status : MatterRepairStatus
  error : MatterControllerError
  revision : ℕ
  createdAt : Instant
  updatedAt : Instant
  deriving DecidableEq

inductive MatterSubscriptionLossReason
  | sessionClosed | reportGap | timedOut | descriptorChanged | controllerRestarted
  deriving DecidableEq

inductive MatterControllerEventKind
  | attributeReport (fabricId : MatterFabricId) (report : MatterAttributeReport)
  | subscriptionLost (subscriptionId : MatterSubscriptionId) (reason : MatterSubscriptionLossReason)
  | descriptorChanged (fabricId : MatterFabricId) (nodeId : MatterNodeId) (descriptorRevision : ℕ)
  | operationProgress (operationId : MatterOperationId) (phase : MatterOperationPhase)
  deriving DecidableEq

structure MatterControllerEvent where
  id : MatterFabricId × ℕ
  occurredAt : Instant
  kind : MatterControllerEventKind
  deriving DecidableEq

section Transitions
open MatterOperationPhase

def validCreateFabricTransition : MatterOperationPhase → MatterOperationPhase → Bool
  | requested, creatingFabric | creatingFabric, completed => true
  | _, _ => false

def validCommissionTransition : MatterOperationPhase → MatterOperationPhase → Bool
  | requested, validatingSetup | validatingSetup, discovering | discovering, establishingSession
  | establishingSession, commissioning | commissioning, projecting | projecting, subscribing
  | subscribing, completed => true
  | _, _ => false

def validCancelTransition : MatterOperationPhase → MatterOperationPhase → Bool
  | requested, cancelling | cancelling, completed => true
  | _, _ => false

def validRemoveTransition : MatterOperationPhase → MatterOperationPhase → Bool
  | requested, removingNode | removingNode, cleaningSecrets | cleaningSecrets, completed => true
  | _, _ => false

def validExportTransition : MatterOperationPhase → MatterOperationPhase → Bool
  | requested, exporting | exporting, completed => true
  | _, _ => false

def validRestoreTransition : MatterOperationPhase → MatterOperationPhase → Bool
  | requested, restoring | restoring, loadingFabric | loadingFabric, completed => true
  | _, _ => false

def validSubscriptionTransition : MatterOperationPhase → MatterOperationPhase → Bool
  | requested, readingGap | readingGap, subscribing | subscribing, completed => true
  | _, _ => false

def validTransition (kind : MatterOperationKind) (source target : MatterOperationPhase) : Bool :=
  if target = failed ∨ target = repairRequired then true
  else if target = cancelled then kind = .commissionNode ∨ kind = .cancelCommissioning
  else match kind with
    | .createFabric => validCreateFabricTransition source target
    | .commissionNode => validCommissionTransition source target
    | .cancelCommissioning => validCancelTransition source target
    | .removeNode => validRemoveTransition source target
    | .exportFabric => validExportTransition source target
    | .restoreFabric => validRestoreTransition source target
    | .repairSubscription => validSubscriptionTransition source target

end Transitions

structure MatterOperation where
  id : MatterOperationId
  kind : MatterOperationKind
  target : MatterOperationTarget
  phase : MatterOperationPhase
  revision : ℕ
  createdAt : Instant
  updatedAt : Instant
  deriving DecidableEq

inductive MatterOperationTransitionError
  | timeMovedBackwards | alreadyTerminal
  | invalidPhase (kind : MatterOperationKind) (source target : MatterOperationPhase)
  | revisionExhausted
  deriving DecidableEq

variable {at_ : Instant} {operation next : MatterOperation} {phase : MatterOperationPhase}

namespace MatterOperation

def new (id : MatterOperationId) (kind : MatterOperationKind) (target : MatterOperationTarget)
    (createdAt : Instant) : MatterOperation :=
  ⟨id, kind, target, .requested, 1, createdAt, createdAt⟩

def transition (operation : MatterOperation) (next : MatterOperationPhase) (at_ : Instant) :
    Except MatterOperationTransitionError MatterOperation :=
  if at_ < operation.updatedAt then .error .timeMovedBackwards
  else if operation.phase.isTerminal then .error .alreadyTerminal
  else if validTransition operation.kind operation.phase next = false then
    .error (.invalidPhase operation.kind operation.phase next)
  else if 2^64 ≤ operation.revision + 1 then .error .revisionExhausted
  else .ok { operation with phase := next, revision := operation.revision + 1, updatedAt := at_ }

structure Moves (operation next : MatterOperation) (at_ : Instant) : Prop where
  time : operation.updatedAt ≤ at_
  active : operation.phase.isTerminal = false
  valid : validTransition operation.kind operation.phase next.phase = true
  bounded : operation.revision + 1 < 2^64
  only : next = { operation with
    phase := next.phase, revision := operation.revision + 1, updatedAt := at_ }

theorem transition_ok (h : operation.transition phase at_ = .ok next) :
    next.phase = phase ∧ Moves operation next at_ := by
  unfold transition at h
  split at h
  · cases h
  · rename_i htime
    split at h
    · cases h
    · rename_i hactive
      split at h
      · cases h
      · rename_i hvalid
        split at h
        · cases h
        · rename_i hbound
          cases h
          exact ⟨rfl, not_lt.mp htime, by simpa using hactive, by simpa using hvalid,
            not_le.mp hbound, rfl⟩

theorem Moves.id (h : Moves operation next at_) :
    next.id = operation.id := by
  rw [h.only]

theorem Moves.target (h : Moves operation next at_) :
    next.target = operation.target := by
  rw [h.only]

theorem exists_transition (htime : operation.updatedAt ≤ at_) (hactive : operation.phase.isTerminal = false)
    (hvalid : validTransition operation.kind operation.phase phase = true) (hbound : operation.revision + 1 < 2^64) :
    operation.transition phase at_ = .ok { operation with
      phase := phase, revision := operation.revision + 1, updatedAt := at_ } := by
  unfold transition
  rw [if_neg (not_lt.mpr htime), if_neg (by simp [hactive]), if_neg (by simp [hvalid]),
    if_neg (not_le.mpr hbound)]

end MatterOperation
end HomeMagic
