import HomeMagic.CommandStore

/-! The calls the command path makes. Repository calls are atomic on the store and
may fail without a change; the adapter, the confirmation port, the audit sink, the
limiter, the clock and fresh identifiers may answer anything. -/
namespace HomeMagic

structure CommandLimitCapacities where
  rate : CapacityState
  device : CapacityState
  deriving DecidableEq

inductive CommandConfirmationOutcome
  | confirmed (confirmation : ObservedConfirmation)
  | failed (failure : CommandFailure)
  | pending
  deriving DecidableEq

inductive CommandCall
  | now
  | newId
  | loadFoundation
  | foundationWrite
  | actorSecurity (actorId : ActorId)
  | storeActor (actor : Actor)
  | replaceActorGrants (actorId : ActorId) (grants : List ActorGrant)
  | createCommand (command : CommandAggregate) (requestHash : CanonicalRequestHash)
      (audit : CommandAuditRecord)
  | command (id : CommandId)
  | commandRequestHash (id : CommandId)
  | transitionCommand (command : CommandAggregate) (expectedVersion : ℕ) (audit : CommandAuditRecord)
  | recoverableCommands (limit : ℕ)
  | matterProjectionForTarget (deviceId : DeviceId) (endpointId : EndpointId) (schema : String)
  | matterDesiredSlot (projectionId : MatterProjectionId)
  | matterWrite
  | replaceMatterDesiredSlot (slot : MatterDesiredCommandSlot)
      (superseded : Option MatterSupersededCommand)
  | replaceMatterDesiredState (write : MatterDesiredStateWrite)
  | recordMatterDispatch (write : MatterDispatchWrite)
  | createUnlockAuthorization (authorization : MatterUnlockAuthorization)
  | consumeUnlockAuthorization (id : MatterUnlockAuthorizationId) (commandId : CommandId)
      (projectionId : MatterProjectionId) (consumedAt : Instant)
  | authorizeAndRecordUnlockDispatch (id : MatterUnlockAuthorizationId) (write : MatterDispatchWrite)
  | tryAcquire (actorId : ActorId) (deviceId : DeviceId) (now : Instant)
  | dispatch (envelope : CommandEnvelope)
  | confirm (command : CommandAggregate)
  | publish (audit : CommandAuditRecord)

namespace CommandCall

@[reducible] def Response : CommandCall → Type
  | now => Instant
  | newId => ℕ
  | loadFoundation => Except StorageError (List DeviceRecord)
  | actorSecurity _ => Except StorageError (Option ActorSecurity)
  | createCommand _ _ _ => Except StorageError CommandCreateOutcome
  | command _ => Except StorageError (Option CommandAggregate)
  | commandRequestHash _ => Except StorageError (Option CanonicalRequestHash)
  | recoverableCommands _ => Except StorageError (List CommandAggregate)
  | matterProjectionForTarget _ _ _ => Except StorageError (Option StoredMatterProjection)
  | matterDesiredSlot _ => Except StorageError (Option MatterDesiredCommandSlot)
  | foundationWrite | storeActor _ | replaceActorGrants _ _ | transitionCommand _ _ _ | matterWrite
  | replaceMatterDesiredSlot _ _ | replaceMatterDesiredState _ | recordMatterDispatch _
  | createUnlockAuthorization _ => Except StorageError Unit
  | consumeUnlockAuthorization _ _ _ _ => Except StorageError MatterUnlockConsumption
  | authorizeAndRecordUnlockDispatch _ _ => Except StorageError MatterUnlockConsumption
  | tryAcquire _ _ _ => CommandLimitCapacities
  | dispatch _ => Except CommandFailure AdapterAcknowledgement
  | confirm _ => Except Unit CommandConfirmationOutcome
  | publish _ => Except Unit Unit

end CommandCall

namespace CommandStore

def Reads {α : Type} (value : α) (response : Except StorageError α) (store store' : CommandStore) :
    Prop :=
  store' = store ∧ ∀ answer, response = .ok answer → answer = value

def Writes {α : Type} (result : Except StorageError (α × CommandStore))
    (response : Except StorageError α) (store store' : CommandStore) : Prop :=
  (∃ value, response = .ok value ∧ result = .ok (value, store')) ∨
    (∃ error, response = .error error) ∧ store' = store

def Stores (result : Except StorageError CommandStore) (response : Except StorageError Unit)
    (store store' : CommandStore) : Prop :=
  Writes (result.map (fun store' => ((), store'))) response store store'

structure FoundationWritten (store store' : CommandStore) : Prop where
  only : store' = { store with devices := store'.devices }
  kept : ∀ device ∈ store.devices.rows, ∃ device' ∈ store'.devices.rows,
    device'.snapshot.id = device.snapshot.id ∧ device'.installationId = device.installationId

inductive Observes (state state' : MatterProjectedState) : Prop
  | kept (h : state' = state)
  | reported (reported : MatterReportedState) (causation : MatterReportCausation)
      (h : advanceMatterProjectedState state reported causation = .ok state')
  | stale (uncertainty : MatterStateUncertainty)
      (h : markMatterProjectionStale state uncertainty = .ok state')

structure ProjectionMoved (stored projection : StoredMatterProjection) : Prop where
  only : projection = { stored with
    state := projection.state, revision := projection.revision, updatedAt := projection.updatedAt }
  observes : Observes stored.state projection.state
  later : stored.revision < projection.revision

def ProjectionWritten (store : CommandStore) (projection : StoredMatterProjection) : Prop :=
  projection ∈ store.projections.rows ∨
  (∃ stored ∈ store.projections.rows, ProjectionMoved stored projection) ∨
  store.projections.find projection.projectionId = none ∧
    projection.state = initialMatterProjectedState projection.projectionId

/-- A Matter workflow changes projections; removing one removes its slot, its
authorizations and its supersessions with it, and nothing else removes a slot. -/
structure MatterWritten (store store' : CommandStore) : Prop where
  only : store' = { store with
    devices := store'.devices
    projections := store'.projections
    slots := store'.slots
    authorizations := store'.authorizations
    supersessions := store'.supersessions }
  foundation : FoundationWritten store { store with devices := store'.devices }
  projections : ∀ projection ∈ store'.projections.rows, ProjectionWritten store projection
  slots : store'.slots.rows.Sublist store.slots.rows
  removed : ∀ slot ∈ store.slots.rows,
    slot ∈ store'.slots.rows ↔ (store'.projections.find slot.projectionId).isSome
  authorizations : store'.authorizations.rows.Sublist store.authorizations.rows
  supersessions : store'.supersessions.rows.Sublist store.supersessions.rows

end CommandStore

open CommandStore in
def commandHandler (host : StoreHost) (commandIdText : CommandId → String) :
    Handler CommandCall CommandCall.Response CommandStore
  | .now, store, _, store' | .newId, store, _, store' | .tryAcquire _ _ _, store, _, store'
  | .dispatch _, store, _, store' | .confirm _, store, _, store' | .publish _, store, _, store' =>
    store' = store
  | .loadFoundation, store, response, store' => Reads store.devices.rows response store store'
  | .foundationWrite, store, _, store' => store' = store ∨ FoundationWritten store store'
  | .actorSecurity actorId, store, response, store' =>
    Reads (store.actors.find actorId) response store store'
  | .storeActor actor, store, response, store' => Stores (store.storeActor actor) response store store'
  | .replaceActorGrants actorId grants, store, response, store' =>
    Stores (store.replaceActorGrants actorId grants) response store store'
  | .createCommand command requestHash audit, store, response, store' =>
    Writes (store.createCommand command requestHash audit) response store store'
  | .command id, store, response, store' => Reads (store.loadCommand id) response store store'
  | .commandRequestHash id, store, response, store' =>
    Reads ((store.commands.find id).map StoredCommand.requestHash) response store store'
  | .transitionCommand command expectedVersion audit, store, response, store' =>
    Stores (store.transitionCommand command expectedVersion audit) response store store'
  | .recoverableCommands limit, store, response, store' =>
    Reads (store.loadRecoverableCommands host commandIdText limit) response store store'
  | .matterProjectionForTarget deviceId endpointId schema, store, response, store' =>
    Reads (store.projectionForTarget deviceId endpointId schema) response store store'
  | .matterDesiredSlot projectionId, store, response, store' =>
    Reads (store.slots.find projectionId) response store store'
  | .matterWrite, store, _, store' => store' = store ∨ MatterWritten store store'
  | .replaceMatterDesiredSlot slot superseded, store, response, store' =>
    Stores (store.replaceDesiredSlot slot superseded) response store store'
  | .replaceMatterDesiredState write, store, response, store' =>
    Stores (store.replaceMatterDesiredState write) response store store'
  | .recordMatterDispatch write, store, response, store' =>
    Stores (store.recordDispatch write) response store store'
  | .createUnlockAuthorization authorization, store, response, store' =>
    Stores (store.createAuthorization authorization) response store store'
  | .consumeUnlockAuthorization id commandId projectionId consumedAt, store, response, store' =>
    Writes (.ok (store.consumeAuthorization id commandId projectionId consumedAt)) response store store'
  | .authorizeAndRecordUnlockDispatch id write, store, response, store' =>
    Writes (store.authorizeAndRecordUnlockDispatch id write) response store store'

def CommandStore.commit {α : Type} (result : Except StorageError (α × CommandStore))
    (store : CommandStore) : Except StorageError α × CommandStore :=
  match result with
  | .ok (value, store') => (.ok value, store')
  | .error error => (.error error, store)

theorem CommandStore.commit_writes {α : Type} (result : Except StorageError (α × CommandStore))
    (store : CommandStore) : Writes result (commit result store).1 store (commit result store).2 := by
  cases result with
  | ok written => exact .inl ⟨written.1, rfl, rfl⟩
  | error error => exact .inr ⟨⟨error, rfl⟩, rfl⟩

open CommandStore in
def commandApply (host : StoreHost) (commandIdText : CommandId → String) (now : Instant) :
    (c : CommandCall) → CommandStore → c.Response × CommandStore
  | .now, store => (now, store)
  | .newId, store => (store.audit.rows.length, store)
  | .loadFoundation, store => (.ok store.devices.rows, store)
  | .foundationWrite, store | .matterWrite, store => (.ok (), store)
  | .actorSecurity actorId, store => (.ok (store.actors.find actorId), store)
  | .storeActor actor, store => commit ((store.storeActor actor).map (fun s => ((), s))) store
  | .replaceActorGrants actorId grants, store =>
    commit ((store.replaceActorGrants actorId grants).map (fun s => ((), s))) store
  | .createCommand command requestHash audit, store =>
    commit (store.createCommand command requestHash audit) store
  | .command id, store => (.ok (store.loadCommand id), store)
  | .commandRequestHash id, store =>
    (.ok ((store.commands.find id).map StoredCommand.requestHash), store)
  | .transitionCommand command expectedVersion audit, store =>
    commit ((store.transitionCommand command expectedVersion audit).map (fun s => ((), s))) store
  | .recoverableCommands limit, store =>
    (.ok (store.loadRecoverableCommands host commandIdText limit), store)
  | .matterProjectionForTarget deviceId endpointId schema, store =>
    (.ok (store.projectionForTarget deviceId endpointId schema), store)
  | .matterDesiredSlot projectionId, store => (.ok (store.slots.find projectionId), store)
  | .replaceMatterDesiredSlot slot superseded, store =>
    commit ((store.replaceDesiredSlot slot superseded).map (fun s => ((), s))) store
  | .replaceMatterDesiredState write, store =>
    commit ((store.replaceMatterDesiredState write).map (fun s => ((), s))) store
  | .recordMatterDispatch write, store =>
    commit ((store.recordDispatch write).map (fun s => ((), s))) store
  | .createUnlockAuthorization authorization, store =>
    commit ((store.createAuthorization authorization).map (fun s => ((), s))) store
  | .consumeUnlockAuthorization id commandId projectionId consumedAt, store =>
    commit (.ok (store.consumeAuthorization id commandId projectionId consumedAt)) store
  | .authorizeAndRecordUnlockDispatch id write, store =>
    commit (store.authorizeAndRecordUnlockDispatch id write) store
  | .tryAcquire _ _ _, store => (⟨.available, .available⟩, store)
  | .dispatch _, store => (.ok ⟨now, "accepted"⟩, store)
  | .confirm _, store => (.ok .pending, store)
  | .publish _, store => (.ok (), store)

open CommandStore in
theorem commandApply_handles (host : StoreHost) (commandIdText : CommandId → String) (now : Instant)
    (c : CommandCall) (store : CommandStore) :
    commandHandler host commandIdText c store (commandApply host commandIdText now c store).1
      (commandApply host commandIdText now c store).2 := by
  have hread : ∀ {α : Type} (value : α), Reads value (.ok value) store store := by
    intro α value
    refine ⟨rfl, ?_⟩
    rintro answer ⟨⟩
    rfl
  cases c with
  | now | newId | tryAcquire | dispatch | confirm | publish => rfl
  | loadFoundation | actorSecurity | command | commandRequestHash | recoverableCommands
  | matterProjectionForTarget | matterDesiredSlot => exact hread _
  | foundationWrite | matterWrite => exact .inl rfl
  | storeActor | replaceActorGrants | createCommand | transitionCommand | replaceMatterDesiredSlot
  | replaceMatterDesiredState | recordMatterDispatch | createUnlockAuthorization
  | consumeUnlockAuthorization | authorizeAndRecordUnlockDispatch => exact commit_writes _ _

end HomeMagic
