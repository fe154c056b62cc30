import HomeMagic.AutomationGovernance
import HomeMagic.AutomationServices

/-! The authenticated lifecycle service: authoring, evidence and activation. -/
namespace HomeMagic

structure AutomationSimulationInput where
  trigger : SimulationTriggerContext
  initialState : List (SimulationObservationKey × AutomationValue)
  stateChanges : List SimulationStateChange
  commandOutcomes : List SimulationCommandOutcome

structure AutomationDraftCreateInput where
  name : String
  agentId : Option String
  sourceRequest : String
  rationale : String
  vars : List (String × AutomationVariableDefinition)
  triggers : List AutomationTrigger
  condition : Option AutomationCondition
  actions : List AutomationAction
  runMode : AutomationRunMode
  selfTrigger : AutomationSelfTriggerPolicy
  budget : AutomationResourceBudget

/-- Text columns, the compiler's and the evaluator's crates, and the canonical hashes
of simulation inputs and traces. -/
structure LifecycleHost where
  store : StoreHost
  compiler : CompilerHost
  evaluator : EvaluatorHost
  inputHash : AutomationSimulationInput → Option String
  traceHash : List AutomationTraceStep → Option String

inductive LifecycleCall
  | automation (c : AutomationCall)
  | newId
  | loadFoundation
  | wakeEvents
  | draft (automationId : AutomationId)
  | storeDraft (draft : AutomationDraft) (expectedRevision : Option ℕ)
  | storeVersion (version : StoredAutomationVersion)
  | transitionVersion (version : StoredAutomationVersion) (expectedState : AutomationVersionState)
  | appendApproval (approval : AutomationApprovalRecord)
  | activate (activation : AutomationActivation)
  | transitionIdentity (identity : AutomationIdentityState) (expectedRevision : ℕ)

namespace LifecycleCall

@[reducible] def Response : LifecycleCall → Type
  | automation c => c.Response
  | newId => ℕ
  | loadFoundation => Except StorageError FoundationSnapshot
  | draft _ => Except StorageError (Option AutomationDraft)
  | wakeEvents | storeDraft _ _ | storeVersion _ | transitionVersion _ _ | appendApproval _ =>
    Except StorageError Unit
  | activate _ | transitionIdentity _ _ => Except StorageError AutomationIdentityState

end LifecycleCall

def WritesRow {α : Type} (result : Except StorageError (α × AutomationStore))
    (response : Except StorageError α) (store store' : AutomationStore) : Prop :=
  (∃ row, response = .ok row ∧ result = .ok (row, store')) ∨
    (∃ error, response = .error error) ∧ store' = store

def lifecycleHandler (host : LifecycleHost) :
    Handler LifecycleCall LifecycleCall.Response AutomationStore
  | .automation c, store, response, store' => automationHandler host.store c store response store'
  | .newId, store, _, store' | .loadFoundation, store, _, store' | .wakeEvents, store, _, store' =>
    store' = store
  | .draft automationId, store, response, store' =>
    Answers (store.drafts.find automationId) response store store'
  | .storeDraft draft expectedRevision, store, response, store' =>
    Commits (store.storeDraft draft expectedRevision) response store store'
  | .storeVersion version, store, response, store' =>
    Commits (store.storeVersion host.compiler version) response store store'
  | .transitionVersion version expectedState, store, response, store' =>
    Commits (store.transitionVersion host.compiler version expectedState) response store store'
  | .appendApproval approval, store, response, store' =>
    Commits (store.appendApproval approval) response store store'
  | .activate activation, store, response, store' =>
    WritesRow (store.activate activation) response store store'
  | .transitionIdentity identity expectedRevision, store, response, store' =>
    WritesRow (store.transitionIdentity identity expectedRevision) response store store'

def writeResult {α : Type} (result : Except StorageError (α × AutomationStore)) (store : AutomationStore) :
    Except StorageError α × AutomationStore :=
  match result with
  | .ok (row, store') => (.ok row, store')
  | .error error => (.error error, store)

theorem writeResult_writesRow {α : Type} (result : Except StorageError (α × AutomationStore))
    (store : AutomationStore) :
    WritesRow result (writeResult result store).1 store (writeResult result store).2 := by
  cases result with
  | ok written => exact .inl ⟨written.1, rfl, rfl⟩
  | error error => exact .inr ⟨⟨error, rfl⟩, rfl⟩

def lifecycleApply (host : LifecycleHost) (ports : FixedPorts) (id : ℕ) (snapshot : FoundationSnapshot) :
    (c : LifecycleCall) → AutomationStore → c.Response × AutomationStore
  | .automation c, store => automationApply host.store ports c store
  | .newId, store => (id, store)
  | .loadFoundation, store => (.ok snapshot, store)
  | .wakeEvents, store => (.ok (), store)
  | .draft automationId, store => (.ok (store.drafts.find automationId), store)
  | .storeDraft draft expectedRevision, store => commitResult (store.storeDraft draft expectedRevision) store
  | .storeVersion version, store => commitResult (store.storeVersion host.compiler version) store
  | .transitionVersion version expectedState, store =>
    commitResult (store.transitionVersion host.compiler version expectedState) store
  | .appendApproval approval, store => commitResult (store.appendApproval approval) store
  | .activate activation, store => writeResult (store.activate activation) store
  | .transitionIdentity identity expectedRevision, store =>
    writeResult (store.transitionIdentity identity expectedRevision) store

theorem lifecycleApply_handles (host : LifecycleHost) (ports : FixedPorts) (id : ℕ)
    (snapshot : FoundationSnapshot) (c : LifecycleCall) (store : AutomationStore) :
    lifecycleHandler host c store (lifecycleApply host ports id snapshot c store).1
      (lifecycleApply host ports id snapshot c store).2 := by
  cases c with
  | automation c => exact automationApply_handles host.store ports c store
  | newId | loadFoundation | wakeEvents => rfl
  | draft automationId => exact answers_ok _ _
  | storeDraft draft expectedRevision | storeVersion version
    | transitionVersion version expectedState | appendApproval approval =>
    exact commitResult_commits _ _
  | activate activation | transitionIdentity identity expectedRevision => exact writeResult_writesRow _ _

abbrev GovernanceM := ExceptT AutomationLifecycleError (Program LifecycleCall LifecycleCall.Response)

namespace Lifecycle

def consult (c : LifecycleCall) : Program LifecycleCall LifecycleCall.Response c.Response := .perform c

def answer (c : LifecycleCall) : GovernanceM c.Response := Fallible.answer c

abbrev stored {α : Type} (p : Program LifecycleCall LifecycleCall.Response (Except StorageError α)) :
    GovernanceM α := Fallible.attempt .repository p

abbrev now : GovernanceM Instant := answer (.automation .now)

def wake : GovernanceM Unit := Fallible.attempt (fun _ => .eventWakeup) (consult .wakeEvents)

def ensureOwner {α : Type} (actorId : ActorId) (document : AutomationDocument) (value : α) :
    GovernanceM α :=
  if document.provenance.authorId = actorId then pure value else throw .notAuthorized

def draft (actorId : ActorId) (automationId : AutomationId) : GovernanceM AutomationDraft := do
  match ← stored (consult (.draft automationId)) with
  | none => throw .notFound
  | some draft => ensureOwner actorId draft.document draft

def version (actorId : ActorId) (automationId : AutomationId) (version : ℕ) :
    GovernanceM StoredAutomationVersion := do
  match ← stored (consult (.automation (.version automationId version))) with
  | none => throw .notFound
  | some stored => ensureOwner actorId stored.document stored

def putDraft (actorId : ActorId) (document : AutomationDocument) (expectedRevision : Option ℕ) :
    GovernanceM AutomationDraft := do
  ensureOwner actorId document ()
  let updatedAt ← now
  let draft : AutomationDraft :=
    ⟨document.id, expectedRevision.elim 0 nextRevision, document, actorId, updatedAt⟩
  stored (consult (.storeDraft draft expectedRevision))
  pure draft

def createDraft (actorId : ActorId) (input : AutomationDraftCreateInput) :
    GovernanceM AutomationDraft := do
  let createdAt ← now
  let id ← answer .newId
  putDraft actorId
    { id := id
      version := 1
      name := input.name
      provenance := ⟨actorId, input.agentId, input.sourceRequest, input.rationale⟩
      vars := input.vars
      triggers := input.triggers
      condition := input.condition
      actions := input.actions
      runMode := input.runMode
      selfTrigger := input.selfTrigger
      budget := input.budget
      createdAt := createdAt } none

section
variable (host : LifecycleHost)

def validate (actorId : ActorId) (automationId : AutomationId) :
    GovernanceM StoredAutomationVersion := do
  let draft ← draft actorId automationId
  let snapshot ← Fallible.attempt .foundation (consult .loadFoundation)
  match compile ⟨host.compiler, draft.document, snapshot⟩ with
  | .error findings => throw (.validation findings)
  | .ok plan => do
    let validatedAt ← now
    let version : StoredAutomationVersion :=
      { document := draft.document
        plan := plan
        state := .validated
        validation := ⟨plan.documentHash, plan.planHash, plan.registryRevision, validatedAt⟩
        simulation := none }
    stored (consult (.storeVersion version))
    wake
    pure version

def simulationFixture (automationId : AutomationId) (version : ℕ) (plan : AutomationExecutionPlan)
    (inputHash : String) (input : AutomationSimulationInput) : AutomationSimulationFixture :=
  let occurrenceId : AutomationOccurrenceId := ⟨automationId, version, .simulation inputHash⟩
  { plan := plan
    runId := ⟨occurrenceId⟩
    correlationId := .fromKey occurrenceId
    causationEventId := none
    trigger := input.trigger
    initialState := input.initialState
    stateChanges := input.stateChanges
    commandOutcomes := input.commandOutcomes }

def readiness (plan : AutomationExecutionPlan) : AutomationVersionState :=
  match plan.approval with
  | .activationGrant => .ready
  | .explicitUserApproval => .awaitingApproval

def simulatedVersion (version : StoredAutomationVersion) (result : AutomationSimulationResult)
    (simulatedAt : Instant) : StoredAutomationVersion :=
  { version with
    state := .simulated
    simulation := some
      { documentHash := version.plan.documentHash
        planHash := version.plan.planHash
        registryRevision := version.plan.registryRevision
        traceHash := result.traceHash
        succeeded := result.status == .completed
        simulatedAt := simulatedAt } }

def simulate (actorId : ActorId) (automationId : AutomationId) (number : ℕ)
    (input : AutomationSimulationInput) : GovernanceM StoredAutomationVersion := do
  let loaded ← version actorId automationId number
  if loaded.state ≠ .validated then throw .invalidState
  else match host.inputHash input with
    | none => throw .canonicalInput
    | some inputHash =>
      match simulateFixture host.evaluator host.traceHash
          (simulationFixture automationId number loaded.plan inputHash input) with
      | .error error => throw (.simulation error)
      | .ok result => do
        let simulatedAt ← now
        let simulated := simulatedVersion loaded result simulatedAt
        stored (consult (.transitionVersion simulated .validated))
        if result.status = .completed then do
          let ready := { simulated with state := readiness simulated.plan }
          stored (consult (.transitionVersion ready .simulated))
          wake
          pure ready
        else do
          wake
          pure simulated

def decide (actorId : ActorId) (automationId : AutomationId) (number : ℕ) (approved : Bool)
    (rationale : Option String) : GovernanceM StoredAutomationVersion := do
  let loaded ← version actorId automationId number
  if loaded.state ≠ .awaitingApproval then throw .invalidState
  else do
    let id ← answer .newId
    let decidedAt ← now
    stored (consult (.appendApproval
      { id := id
        automationId := automationId
        version := number
        documentHash := loaded.plan.documentHash
        planHash := loaded.plan.planHash
        actorId := actorId
        state := if approved then .approved else .rejected
        rationale := rationale
        decidedAt := decidedAt }))
    let decided := { loaded with state := if approved then .ready else .rejected }
    stored (consult (.transitionVersion decided .awaitingApproval))
    wake
    pure decided

def activate (actorId : ActorId) (automationId : AutomationId) (number expectedRevision : ℕ) :
    GovernanceM AutomationIdentityState := do
  let loaded ← version actorId automationId number
  if loaded.state ≠ .ready then throw .invalidState
  else do
    let activatedAt ← now
    let identity ← stored (consult (.activate
      { automationId := automationId
        version := number
        expectedRevision := expectedRevision
        documentHash := loaded.plan.documentHash
        planHash := loaded.plan.planHash
        registryRevision := loaded.plan.registryRevision
        activatedAt := activatedAt }))
    wake
    pure identity

def ensureIdentityOwner (actorId : ActorId) (automationId : AutomationId)
    (identity : AutomationIdentityState) : GovernanceM Unit :=
  match identity.activeVersion with
  | some number => do
    let _ ← version actorId automationId number
    pure ()
  | none => do
    let _ ← draft actorId automationId
    pure ()

def transitionOperational (actorId : ActorId) (automationId : AutomationId) (expectedRevision : ℕ)
    (state : AutomationOperationalState) : GovernanceM AutomationIdentityState := do
  match ← stored (consult (.automation (.identity automationId))) with
  | none => throw .notFound
  | some identity => do
    ensureIdentityOwner actorId automationId identity
    if identity.revision ≠ expectedRevision ∨ identity.state.allowsTransitionTo state = false then
      throw .invalidState
    else do
      let updatedAt ← now
      let identity ← stored (consult (.transitionIdentity
        { identity with
          state := state, revision := nextRevision identity.revision, updatedAt := updatedAt }
        expectedRevision))
      wake
      pure identity

def disable (actorId : ActorId) (automationId : AutomationId) (expectedRevision : ℕ) :
    GovernanceM AutomationIdentityState :=
  transitionOperational actorId automationId expectedRevision .disabled

def retire (actorId : ActorId) (automationId : AutomationId) (expectedRevision : ℕ) :
    GovernanceM AutomationIdentityState :=
  transitionOperational actorId automationId expectedRevision .retired

end
end Lifecycle

def Program.embed {α : Type} :
    Program AutomationCall AutomationCall.Response α → Program LifecycleCall LifecycleCall.Response α
  | .done a => .done a
  | .call c next => .call (.automation c) (fun response => (next response).embed)

theorem Program.calls_embed {P : AutomationCall → Prop} {P' : LifecycleCall → Prop}
    (h : ∀ c, P c → P' (.automation c)) {α : Type}
    {p : Program AutomationCall AutomationCall.Response α} (hp : p.Calls P) :
    p.embed.Calls P' := by
  induction p with
  | done a => trivial
  | call c next ih => exact ⟨h c hp.1, fun r => ih r (hp.2 r)⟩

def asOperation {α : Type} (p : GovernanceM α) : Program LifecycleCall LifecycleCall.Response Unit :=
  p.run.bind (fun _ => .done ())

inductive LifecycleRequest
  | createDraft (input : AutomationDraftCreateInput)
  | putDraft (document : AutomationDocument) (expectedRevision : Option ℕ)
  | validate (automationId : AutomationId)
  | simulate (automationId : AutomationId) (number : ℕ) (input : AutomationSimulationInput)
  | decide (automationId : AutomationId) (number : ℕ) (approved : Bool) (rationale : Option String)
  | activate (automationId : AutomationId) (number expectedRevision : ℕ)
  | disable (automationId : AutomationId) (expectedRevision : ℕ)
  | retire (automationId : AutomationId) (expectedRevision : ℕ)
  | cancelRun (runId : AutomationRunId) (fuel : ℕ)

namespace LifecycleRequest

def program (host : LifecycleHost) (actorId : ActorId) :
    LifecycleRequest → Program LifecycleCall LifecycleCall.Response Unit
  | createDraft input => asOperation (Lifecycle.createDraft actorId input)
  | putDraft document expectedRevision => asOperation (Lifecycle.putDraft actorId document expectedRevision)
  | validate automationId => asOperation (Lifecycle.validate host actorId automationId)
  | simulate automationId number input => asOperation (Lifecycle.simulate host actorId automationId number input)
  | decide automationId number approved rationale =>
    asOperation (Lifecycle.decide actorId automationId number approved rationale)
  | activate automationId number expectedRevision =>
    asOperation (Lifecycle.activate actorId automationId number expectedRevision)
  | disable automationId expectedRevision => asOperation (Lifecycle.disable actorId automationId expectedRevision)
  | retire automationId expectedRevision => asOperation (Lifecycle.retire actorId automationId expectedRevision)
  | cancelRun runId fuel => (asClient (HomeMagic.cancelRun actorId runId fuel)).embed

end LifecycleRequest

def LifecycleOperation (host : LifecycleHost) (actorId : ActorId)
    (p : Program LifecycleCall LifecycleCall.Response Unit) : Prop :=
  ∃ request : LifecycleRequest, p = request.program host actorId

end HomeMagic
