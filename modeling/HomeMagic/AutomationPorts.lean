import HomeMagic.Interleaving
import HomeMagic.AutomationStore

/-! The calls the automation services make. A call is atomic on the store; any
repository call may also fail and then changes nothing. -/
namespace HomeMagic

structure AutomationCausation where
  automationId : AutomationId
  version : ℕ
  runId : AutomationRunId
  deriving DecidableEq

inductive DomainEventKind
  | lifecycleChanged (from_ to_ : DeviceLifecycle) (trigger : LifecycleTrigger)
  | availabilityChanged (from_ to_ : AvailabilityState) (reason : Option String)
  | observationChanged (endpointId : EndpointId) (capability : CapabilityDescriptor)
      (changedFields : List String)
  | deviceEvent (endpointId : EndpointId) (event : String)
  | commandTransitioned (state : CommandState) (endpointId : Option EndpointId)
      (capability : Option String)
  | other
  deriving DecidableEq

structure DomainEvent where
  id : EventId
  deviceId : Option DeviceId
  occurredAt : Instant
  correlationId : CorrelationId
  automation : Option AutomationCausation
  kind : DomainEventKind
  deriving DecidableEq

structure CursorEvent where
  cursor : ℕ
  event : DomainEvent
  deriving DecidableEq

structure EventPage where
  events : List CursorEvent
  earliestCursor : Option ℕ
  deriving DecidableEq

/-- One call of an automation service. `stepPorts` stands for the clock readings, the
registry snapshot, the timer lookups and the command submissions of one interpreter
step of a run with this many trace rows read. -/
inductive AutomationCall
  | now
  | activeVersions (limit : ℕ)
  | identity (automationId : AutomationId)
  | version (automationId : AutomationId) (version : ℕ)
  | eventCursor
  | eventsAfter (cursor limit : ℕ)
  | advanceEventCursor (expectedRevision cursor : ℕ)
  | createOccurrence (occurrence : AutomationOccurrence)
  | occurrence (id : AutomationOccurrenceId)
  | transitionOccurrence (occurrence : AutomationOccurrence)
  | createRun (run : AutomationRun)
  | run (id : AutomationRunId)
  | transitionTimer (timer : AutomationTimer)
  | trace (runId : AutomationRunId) (afterSequence : Option ℕ) (limit : ℕ)
  | commitStep (write : AutomationStepWrite)
  | recoverableWork (limit : ℕ)
  | retain (policy : AutomationRetention)
  | stepPorts (plan : AutomationExecutionPlan) (run : AutomationRun) (traceLength : ℕ)

namespace AutomationCall

@[reducible] def Response : AutomationCall → Type
  | now => Instant
  | activeVersions _ => Except StorageError (List ActiveAutomationVersion)
  | identity _ => Except StorageError (Option AutomationIdentityState)
  | version _ _ => Except StorageError (Option StoredAutomationVersion)
  | eventCursor => Except StorageError AutomationEventCursor
  | eventsAfter _ _ => Except StorageError EventPage
  | advanceEventCursor _ _ => Except StorageError AutomationEventCursor
  | occurrence _ => Except StorageError (Option AutomationOccurrence)
  | run _ => Except StorageError (Option AutomationRun)
  | trace _ _ _ => Except StorageError (List AutomationTraceStep)
  | recoverableWork _ => Except StorageError AutomationRecovery
  | createOccurrence _ | transitionOccurrence _ | createRun _ | transitionTimer _ | commitStep _
  | retain _ => Except StorageError Unit
  | stepPorts _ _ _ => StepInputs

end AutomationCall

def Answers {α : Type} (value : α) (response : Except StorageError α) (store store' : AutomationStore) :
    Prop :=
  store' = store ∧ ∀ answer, response = .ok answer → answer = value

def Commits (result : Except StorageError AutomationStore) (response : Except StorageError Unit)
    (store store' : AutomationStore) : Prop :=
  (response = .ok () ∧ result = .ok store') ∨ (∃ error, response = .error error) ∧ store' = store

def automationHandler (host : StoreHost) :
    Handler AutomationCall AutomationCall.Response AutomationStore
  | .now, store, _, store' | .stepPorts _ _ _, store, _, store' | .eventsAfter _ _, store, _, store' =>
    store' = store
  | .activeVersions limit, store, response, store' =>
    Answers (store.loadActiveVersions host limit) response store store'
  | .identity automationId, store, response, store' =>
    Answers (store.identities.find automationId) response store store'
  | .version automationId version, store, response, store' =>
    Answers (store.loadVersion automationId version) response store store'
  | .eventCursor, store, response, store' => Answers store.eventCursor response store store'
  | .advanceEventCursor expectedRevision cursor, store, response, store' =>
    (∃ advanced, response = .ok advanced ∧
      store.advanceEventCursor expectedRevision cursor = .ok (advanced, store')) ∨
    (∃ error, response = .error error) ∧ store' = store
  | .createOccurrence occurrence, store, response, store' =>
    Commits (store.createOccurrence occurrence) response store store'
  | .occurrence id, store, response, store' =>
    Answers (store.occurrences.find id) response store store'
  | .transitionOccurrence occurrence, store, response, store' =>
    Commits (store.transitionOccurrence occurrence) response store store'
  | .createRun run, store, response, store' => Commits (store.createRun run) response store store'
  | .run id, store, response, store' => Answers (store.runs.find id) response store store'
  | .transitionTimer timer, store, response, store' =>
    Commits (store.transitionTimer timer) response store store'
  | .trace runId afterSequence limit, store, response, store' =>
    Answers (store.loadTrace runId afterSequence limit) response store store'
  | .commitStep write, store, response, store' => Commits (store.commitStep write) response store store'
  | .recoverableWork limit, store, response, store' =>
    Answers (store.recover host limit) response store store'
  | .retain policy, store, response, store' => Commits (.ok (store.retain host policy)) response store store'

structure FixedPorts where
  now : Instant
  events : EventPage
  inputs : StepInputs

def commitResult (result : Except StorageError AutomationStore) (store : AutomationStore) :
    Except StorageError Unit × AutomationStore :=
  match result with
  | .ok store' => (.ok (), store')
  | .error error => (.error error, store)

def automationApply (host : StoreHost) (ports : FixedPorts) :
    (c : AutomationCall) → AutomationStore → c.Response × AutomationStore
  | .now, store => (ports.now, store)
  | .stepPorts _ _ _, store => (ports.inputs, store)
  | .eventsAfter _ _, store => (.ok ports.events, store)
  | .activeVersions limit, store => (.ok (store.loadActiveVersions host limit), store)
  | .identity automationId, store => (.ok (store.identities.find automationId), store)
  | .version automationId version, store => (.ok (store.loadVersion automationId version), store)
  | .eventCursor, store => (.ok store.eventCursor, store)
  | .advanceEventCursor expectedRevision cursor, store =>
    match store.advanceEventCursor expectedRevision cursor with
    | .ok (advanced, store') => (.ok advanced, store')
    | .error error => (.error error, store)
  | .createOccurrence occurrence, store => commitResult (store.createOccurrence occurrence) store
  | .occurrence id, store => (.ok (store.occurrences.find id), store)
  | .transitionOccurrence occurrence, store => commitResult (store.transitionOccurrence occurrence) store
  | .createRun run, store => commitResult (store.createRun run) store
  | .run id, store => (.ok (store.runs.find id), store)
  | .transitionTimer timer, store => commitResult (store.transitionTimer timer) store
  | .trace runId afterSequence limit, store => (.ok (store.loadTrace runId afterSequence limit), store)
  | .commitStep write, store => commitResult (store.commitStep write) store
  | .recoverableWork limit, store => (.ok (store.recover host limit), store)
  | .retain policy, store => (.ok (), store.retain host policy)

theorem commitResult_commits (result : Except StorageError AutomationStore) (store : AutomationStore) :
    Commits result (commitResult result store).1 store (commitResult result store).2 := by
  cases result with
  | ok store' => exact .inl ⟨rfl, rfl⟩
  | error error => exact .inr ⟨⟨error, rfl⟩, rfl⟩

theorem answers_ok {α : Type} (value : α) (store : AutomationStore) :
    Answers value (.ok value) store store := by
  refine ⟨rfl, ?_⟩
  intro answer h
  cases h
  rfl

theorem automationApply_handles (host : StoreHost) (ports : FixedPorts) (c : AutomationCall)
    (store : AutomationStore) :
    automationHandler host c store (automationApply host ports c store).1
      (automationApply host ports c store).2 := by
  cases c with
  | now | stepPorts plan run traceLength | eventsAfter cursor limit => rfl
  | activeVersions limit | identity id | version id v | eventCursor | occurrence id | run id
    | trace runId afterSequence limit | recoverableWork limit => exact answers_ok _ _
  | createOccurrence o | transitionOccurrence o | createRun run | transitionTimer timer
    | commitStep write => exact commitResult_commits _ _
  | retain policy => exact .inl ⟨rfl, rfl⟩
  | advanceEventCursor expectedRevision cursor =>
    simp only [automationApply]
    split
    · rename_i advanced store' h
      exact .inl ⟨advanced, rfl, h⟩
    · rename_i error h
      exact .inr ⟨⟨error, rfl⟩, rfl⟩

end HomeMagic
