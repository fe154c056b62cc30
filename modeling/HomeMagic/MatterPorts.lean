import HomeMagic.Interleaving
import HomeMagic.MatterHistory

/-! The calls of the Matter workflows: authority, the repository, and the controller, whose
answers are open. Setup payloads, export envelopes and keys pass through unread. -/
namespace HomeMagic

structure MatterFabricStatus where
  fabricId : MatterFabricId
  state : MatterFabricState
  deriving DecidableEq

inductive MatterFabricExportFormat
  | simulatorV1 | protectedV1
  deriving DecidableEq

inductive MatterRemovalOutcome
  | removed | notPresent | partialOutcome
  deriving DecidableEq

inductive MatterCancellationOutcome
  | cancelled | alreadyCompleted | outcomeUnknown
  deriving DecidableEq

structure MatterSubscriptionStatus where
  subscriptionId : MatterSubscriptionId
  established : Bool
  reportSequence : ℕ
  verifiedAt : Instant
  deriving DecidableEq

structure MatterSubscriptionRequest where
  subscriptionId : MatterSubscriptionId
  fabricId : MatterFabricId
  nodeId : MatterNodeId
  selection : List MatterAttributePath
  deriving DecidableEq

structure MatterReadSelection where
  fabricId : MatterFabricId
  nodeId : MatterNodeId
  selection : List MatterAttributePath
  deriving DecidableEq

inductive MatterCall
  | newId
  | actorSecurity (actorId : ActorId)
  | fabric (fabricId : MatterFabricId)
  | storeFabric (fabric : StoredMatterFabric) (expectedRevision : Option ℕ)
  | administrationOperation (operationId : MatterOperationId)
  | operationNodeResult (operationId : MatterOperationId)
  | nodeInventoryItem (installationId : InstallationId) (fabricId : MatterFabricId) (nodeId : MatterNodeId)
  | admission (operation : MatterOperation) (binding : MatterOperationBinding) (progress : MatterOperationProgress)
  | commit (commit : MatterCommit)
  | fabricStatus (fabricId : MatterFabricId)
  | createFabric (operationId : MatterOperationId) (fabricId : MatterFabricId) (secrets : MatterFabricSecretRefs)
  | exportFabric (operationId : MatterOperationId) (fabricId : MatterFabricId)
  | restoreFabric (operationId : MatterOperationId) (fabricId : MatterFabricId)
  | commission (operationId : MatterOperationId) (fabricId : MatterFabricId)
  | cancelCommissioning (operationId : MatterOperationId)
  | eventsAfter (cursor limit : ℕ)
  | nodes (fabricId : MatterFabricId)
  | node (fabricId : MatterFabricId) (nodeId : MatterNodeId)
  | removeNode (operationId : MatterOperationId) (fabricId : MatterFabricId) (nodeId : MatterNodeId)
  | read (request : MatterReadSelection)
  /-- The operation is the one that the call is made for. -/
  | subscribe (operationId : MatterOperationId) (request : MatterSubscriptionRequest)

namespace MatterCall

@[reducible] def Response : MatterCall → Type
  | newId => ℕ
  | actorSecurity _ => Except StorageError (Option ActorSecurity)
  | fabric _ => Except StorageError (Option StoredMatterFabric)
  | storeFabric _ _ | commit _ => Except StorageError Unit
  | administrationOperation _ => Except StorageError (Option (MatterOperation × MatterOperationBinding))
  | operationNodeResult _ => Except StorageError (Option MatterOperationNodeResult)
  | nodeInventoryItem _ _ _ => Except StorageError (Option MatterNodeInventoryRecord)
  | admission _ _ _ => Except StorageError MatterOperationCreateOutcome
  | fabricStatus _ => Except MatterControllerError (Option MatterFabricStatus)
  | createFabric _ _ _ | restoreFabric _ _ => Except MatterControllerError MatterFabricStatus
  | exportFabric _ _ => Except MatterControllerError MatterFabricExportFormat
  | commission _ _ => Except MatterControllerError MatterNodeDescriptor
  | cancelCommissioning _ => Except MatterControllerError MatterCancellationOutcome
  | eventsAfter _ _ => Except MatterControllerError (List MatterControllerEvent)
  | nodes _ => Except MatterControllerError (List MatterNodeDescriptor)
  | node _ _ => Except MatterControllerError (Option MatterNodeDescriptor)
  | removeNode _ _ _ => Except MatterControllerError MatterRemovalOutcome
  | read _ => Except MatterControllerError (List MatterAttributeReport)
  | subscribe _ _ => Except MatterControllerError MatterSubscriptionStatus

end MatterCall

def MatterCall.perform (c : MatterCall) : Program MatterCall MatterCall.Response c.Response := Program.perform c

abbrev MatterM (ε α : Type) := ExceptT ε (Program MatterCall MatterCall.Response) α

namespace MatterStore

def administrationOperation (store : MatterStore) (operationId : MatterOperationId) :
    Option (MatterOperation × MatterOperationBinding) :=
  match store.operations.find operationId, store.bindings.find operationId with
  | some operation, some binding => some (operation, binding)
  | _, _ => none

def Reads {α : Type} (result : Except StorageError α) (response : Except StorageError α)
    (store store' : MatterStore) : Prop :=
  store' = store ∧ (response = result ∨ ∃ error, response = .error error)

def Writes {α : Type} (result : Except StorageError (MatterStore × α)) (response : Except StorageError α)
    (store store' : MatterStore) : Prop :=
  (∃ value, result = .ok (store', value) ∧ response = .ok value) ∨
    (store' = store ∧ ∃ error, response = .error error)

def handler : Handler MatterCall MatterCall.Response MatterStore
  | .fabric fabricId, store, response, store' => Reads (.ok (store.fabrics.find fabricId)) response store store'
  | .administrationOperation operationId, store, response, store' =>
    Reads (.ok (store.administrationOperation operationId)) response store store'
  | .operationNodeResult operationId, store, response, store' =>
    Reads (.ok (store.results.find operationId)) response store store'
  | .nodeInventoryItem installationId fabricId nodeId, store, response, store' =>
    Reads (store.nodeInventoryItem installationId fabricId nodeId) response store store'
  | .storeFabric fabric expectedRevision, store, response, store' =>
    Writes ((store.storeFabric fabric expectedRevision).map (fun store => (store, ()))) response store store'
  | .admission operation binding progress, store, response, store' =>
    Writes (store.createAdministrationOperation operation binding progress) response store store'
  | .commit commit, store, response, store' =>
    Writes ((store.apply commit).map (fun store => (store, ()))) response store store'
  | .newId, store, _, store' | .actorSecurity _, store, _, store' | .fabricStatus _, store, _, store'
  | .createFabric _ _ _, store, _, store' | .exportFabric _ _, store, _, store'
  | .restoreFabric _ _, store, _, store' | .commission _ _, store, _, store'
  | .cancelCommissioning _, store, _, store' | .eventsAfter _ _, store, _, store' | .nodes _, store, _, store'
  | .node _ _, store, _, store' | .removeNode _ _ _, store, _, store' | .read _, store, _, store'
  | .subscribe _ _, store, _, store' => store' = store

end MatterStore

structure MatterAnswers where
  newId : ℕ
  actorSecurity : ActorId → Option ActorSecurity
  fabricStatus : Except MatterControllerError (Option MatterFabricStatus)
  createFabric : Except MatterControllerError MatterFabricStatus
  exportFabric : Except MatterControllerError MatterFabricExportFormat
  restoreFabric : Except MatterControllerError MatterFabricStatus
  commission : Except MatterControllerError MatterNodeDescriptor
  cancelCommissioning : Except MatterControllerError MatterCancellationOutcome
  events : List MatterControllerEvent
  nodes : Except MatterControllerError (List MatterNodeDescriptor)
  node : Except MatterControllerError (Option MatterNodeDescriptor)
  removeNode : Except MatterControllerError MatterRemovalOutcome
  read : MatterReadSelection → Except MatterControllerError (List MatterAttributeReport)
  subscribe : MatterSubscriptionRequest → Except MatterControllerError MatterSubscriptionStatus

def eventPage (events : List MatterControllerEvent) (cursor limit : ℕ) : List MatterControllerEvent :=
  (events.drop cursor).take (min limit 256)

namespace MatterStore

def committed {α : Type} (store : MatterStore) (result : Except StorageError (MatterStore × α)) :
    Except StorageError α × MatterStore :=
  match result with
  | .ok (store', value) => (.ok value, store')
  | .error error => (.error error, store)

theorem map_unit_ok {store' : MatterStore} {result : Except StorageError MatterStore} {value : Unit}
    (h : result.map (fun store => (store, ())) = .ok (store', value)) : result = .ok store' := by
  cases result with
  | error error => cases h
  | ok written =>
    cases h
    rfl

def answering (answers : MatterAnswers) : (c : MatterCall) → MatterStore → c.Response × MatterStore
  | .newId, store => (answers.newId, store)
  | .actorSecurity actorId, store => (.ok (answers.actorSecurity actorId), store)
  | .fabric fabricId, store => (.ok (store.fabrics.find fabricId), store)
  | .storeFabric fabric expectedRevision, store =>
    store.committed ((store.storeFabric fabric expectedRevision).map (fun store => (store, ())))
  | .administrationOperation operationId, store => (.ok (store.administrationOperation operationId), store)
  | .operationNodeResult operationId, store => (.ok (store.results.find operationId), store)
  | .nodeInventoryItem installationId fabricId nodeId, store =>
    (store.nodeInventoryItem installationId fabricId nodeId, store)
  | .admission operation binding progress, store =>
    store.committed (store.createAdministrationOperation operation binding progress)
  | .commit commit, store => store.committed ((store.apply commit).map (fun store => (store, ())))
  | .fabricStatus _, store => (answers.fabricStatus, store)
  | .createFabric _ _ _, store => (answers.createFabric, store)
  | .exportFabric _ _, store => (answers.exportFabric, store)
  | .restoreFabric _ _, store => (answers.restoreFabric, store)
  | .commission _ _, store => (answers.commission, store)
  | .cancelCommissioning _, store => (answers.cancelCommissioning, store)
  | .eventsAfter cursor limit, store => (.ok (eventPage answers.events cursor limit), store)
  | .nodes _, store => (answers.nodes, store)
  | .node _ _, store => (answers.node, store)
  | .removeNode _ _ _, store => (answers.removeNode, store)
  | .read request, store => (answers.read request, store)
  | .subscribe _ request, store => (answers.subscribe request, store)

theorem committed_writes {α : Type} (store : MatterStore) (result : Except StorageError (MatterStore × α)) :
    Writes result (store.committed result).1 store (store.committed result).2 := by
  cases result with
  | ok written => exact Or.inl ⟨written.2, rfl, rfl⟩
  | error error => exact Or.inr ⟨rfl, error, rfl⟩

theorem answering_handles (answers : MatterAnswers) (c : MatterCall) (store : MatterStore) :
    handler c store (answering answers c store).1 (answering answers c store).2 := by
  cases c with
  | fabric fabricId | administrationOperation operationId | operationNodeResult operationId
  | nodeInventoryItem installationId fabricId nodeId => exact ⟨rfl, Or.inl rfl⟩
  | storeFabric fabric expectedRevision | admission operation binding progress | commit commit =>
    exact committed_writes store _
  | _ => exact rfl

end MatterStore

inductive MatterAdministrationError
  | denied | actorNotFound | operationNotFound | fabricNotFound | installationMismatch | invalidTarget
  | invalidTransition | notCancellable
  | repository (error : StorageError)
  deriving DecidableEq

namespace MatterAdministration

open Fallible

def authorized (security : ActorSecurity) (action : CommandAction) : Bool :=
  security.actor.enabled && security.grants.any (fun grant => grant.enabled &&
    grant.actorId == security.actor.id && grant.actions.contains action &&
    grant.maximumRisk.permits .security && grant.scope == .installation security.actor.installationId)

def authorize (security : ActorSecurity) (action : CommandAction) : MatterM MatterAdministrationError Unit :=
  if authorized security action then pure () else throw .denied

def security (actorId : ActorId) : MatterM MatterAdministrationError ActorSecurity := do
  let stored ← attempt .repository (MatterCall.perform (.actorSecurity actorId))
  match stored with
  | none => throw .actorNotFound
  | some security => pure security

def authorizeInstallationAction (actorId : ActorId) (action : CommandAction) :
    MatterM MatterAdministrationError InstallationId := do
  let security ← security actorId
  authorize security action
  pure security.actor.installationId

def ownedOperation (security : ActorSecurity) (operationId : MatterOperationId) :
    MatterM MatterAdministrationError (MatterOperation × MatterOperationBinding) := do
  let stored ← attempt .repository (MatterCall.perform (.administrationOperation operationId))
  match stored with
  | none => throw .operationNotFound
  | some (operation, binding) =>
    if binding.actorId = security.actor.id then pure (operation, binding) else throw .operationNotFound

def ownedOperationForAction (actorId : ActorId) (operationId : MatterOperationId) (action : CommandAction) :
    MatterM MatterAdministrationError MatterOperation := do
  let security ← security actorId
  authorize security action
  let (operation, binding) ← ownedOperation security operationId
  if binding.action = action then pure operation else throw .operationNotFound

def ownedCommissioningForCancellation (actorId : ActorId) (operationId : MatterOperationId) :
    MatterM MatterAdministrationError MatterOperation := do
  let security ← security actorId
  authorize security .matterCancelOperation
  let (operation, binding) ← ownedOperation security operationId
  if binding.action = .matterCommissionNode ∧ operation.kind = .commissionNode then pure operation
  else throw .operationNotFound

def repairRequired (error : MatterControllerError) : Bool :=
  error.retryability == .afterRepair || error.repair.isSome || error.code == .outcomeIndeterminate

def newRepair (id : ℕ) (operation : MatterOperation) (error : MatterControllerError) (now : Instant) :
    MatterRepairRecord :=
  ⟨id, operation.id, .open_, error, 1, now, now⟩

def failureWrite (repairId : ℕ) (expectedRevision : ℕ) (operation : MatterOperation)
    (error : MatterControllerError) (now : Instant) : MatterOperationWrite :=
  ⟨operation, expectedRevision, progressWithError operation (some error),
    if repairRequired error then some (newRepair repairId operation error now) else none⟩

def failurePhase (error : MatterControllerError) : MatterOperationPhase :=
  if repairRequired error then .repairRequired else .failed

def recordControllerFailure (actorId : ActorId) (operationId : MatterOperationId) (error : MatterControllerError)
    (now : Instant) : MatterM MatterAdministrationError MatterOperation := do
  let security ← security actorId
  let (operation, binding) ← ownedOperation security operationId
  authorize security binding.action
  match operation.transition (failurePhase error) now with
  | .error _ => throw .invalidTransition
  | .ok next =>
    let repairId ← answer .newId
    attempt .repository (MatterCall.perform (.commit (.transition
      (failureWrite repairId operation.revision next error now))))
    pure next

end MatterAdministration
end HomeMagic
