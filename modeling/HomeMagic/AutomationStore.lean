import HomeMagic.KeyedTable
import HomeMagic.AutomationCommandStep

/-! The SQLite automation repository. Every repository call is one transaction on
the shared connection, so a call is a function of the whole store and a failed
call leaves it unchanged. The event rows written next to a transition are left
out. -/
namespace HomeMagic

def maxQueryPage : ℕ := 1000

structure StoreHost where
  timestampText : Instant → String
  automationIdText : AutomationId → String
  occurrenceIdText : AutomationOccurrenceId → String
  runIdText : AutomationRunId → String
  timerIdText : AutomationTimerId → String
  traceIdText : AutomationTraceId → String

inductive AutomationOperationalState
  | inactive | active | disabled | retired
  deriving DecidableEq

structure AutomationIdentityState where
  id : AutomationId
  state : AutomationOperationalState
  activeVersion : Option ℕ
  revision : ℕ
  createdAt : Instant
  updatedAt : Instant
  deriving DecidableEq

inductive AutomationVersionState
  | draft | validated | simulated | awaitingApproval | ready | rejected | retired
  deriving DecidableEq

structure AutomationDraft where
  automationId : AutomationId
  revision : ℕ
  document : AutomationDocument
  actorId : ActorId
  updatedAt : Instant
  deriving DecidableEq

structure AutomationValidationEvidence where
  documentHash : String
  planHash : String
  registryRevision : ℕ
  validatedAt : Instant
  deriving DecidableEq

structure AutomationSimulationEvidence where
  documentHash : String
  planHash : String
  registryRevision : ℕ
  traceHash : String
  succeeded : Bool
  simulatedAt : Instant
  deriving DecidableEq

structure StoredAutomationVersion where
  document : AutomationDocument
  plan : AutomationExecutionPlan
  state : AutomationVersionState
  validation : AutomationValidationEvidence
  simulation : Option AutomationSimulationEvidence
  deriving DecidableEq

abbrev AutomationApprovalId := ℕ

inductive AutomationApprovalState
  | notRequired | pending | approved | rejected
  deriving DecidableEq

structure AutomationApprovalRecord where
  id : AutomationApprovalId
  automationId : AutomationId
  version : ℕ
  documentHash : String
  planHash : String
  actorId : ActorId
  state : AutomationApprovalState
  rationale : Option String
  decidedAt : Instant
  deriving DecidableEq

structure ActiveAutomationVersion where
  identity : AutomationIdentityState
  version : StoredAutomationVersion

inductive StorageError
  | invalidAutomation (reason : String)
  | automationRunConflict (expected found : ℕ)
  | automationEventCursorConflict (expected found : ℕ)
  | automationDraftConflict (expected found : Option ℕ)
  | automationIdentityConflict (expected found : ℕ)
  | invalidCommand (reason : String)
  | commandVersionConflict (expected found : ℕ)
  | invalidMatter (reason : String)
  | matterRevisionConflict (resource : String) (expected found : Option ℕ)
  | numericOverflow
  | constraint
  | database
  deriving DecidableEq

structure AutomationEventCursor where
  cursor : ℕ
  revision : ℕ
  deriving DecidableEq

structure AutomationStore where
  identities : Table AutomationId AutomationIdentityState AutomationIdentityState.id
  drafts : Table AutomationId AutomationDraft AutomationDraft.automationId
  versions : Table (AutomationId × ℕ) StoredAutomationVersion
    (fun version => (version.document.id, version.document.version))
  approvals : Table AutomationApprovalId AutomationApprovalRecord AutomationApprovalRecord.id
  occurrences : Table AutomationOccurrenceId AutomationOccurrence AutomationOccurrence.id
  runs : Table AutomationRunId AutomationRun AutomationRun.id
  timers : Table AutomationTimerId AutomationTimer AutomationTimer.id
  trace : Table AutomationTraceId AutomationTraceStep AutomationTraceStep.id
  eventCursor : AutomationEventCursor

structure AutomationRecovery where
  occurrences : List AutomationOccurrence
  runs : List AutomationRun
  timers : List AutomationTimer

structure AutomationRetention where
  draftsBefore : Instant
  runtimeBefore : Instant
  versionsBefore : Instant
  limitPerCategory : ℕ

def StoreHost.before (host : StoreHost) (at_ cutoff : Instant) : Bool :=
  decide (host.timestampText at_ < host.timestampText cutoff)

namespace AutomationOccurrence

def isRecoverable (occurrence : AutomationOccurrence) : Bool :=
  occurrence.state == .scheduled || occurrence.state == .accepted

def sameIdentity (a b : AutomationOccurrence) : Bool :=
  a.automationId == b.automationId && a.version == b.version && a.occurredAt == b.occurredAt &&
  a.windowEndsAt == b.windowEndsAt && a.eventCursor == b.eventCursor &&
  a.correlationId == b.correlationId && a.causationEventId == b.causationEventId &&
  a.catchUp == b.catchUp

/-- `ORDER BY occurred_at, event_cursor IS NOT NULL, event_cursor, id`. -/
def recoveryRank (host : StoreHost) (occurrence : AutomationOccurrence) :
    String ×ₗ Bool ×ₗ ℕ ×ₗ String :=
  toLex (host.timestampText occurrence.occurredAt, toLex (occurrence.eventCursor.isSome,
    toLex (occurrence.eventCursor.getD 0, host.occurrenceIdText occurrence.id)))

end AutomationOccurrence

def AutomationTimer.isRecoverable (timer : AutomationTimer) : Bool :=
  timer.state == .pending || timer.state == .ready

namespace AutomationStore
variable (host : StoreHost)

def empty : AutomationStore :=
  ⟨.empty, .empty, .empty, .empty, .empty, .empty, .empty, .empty, ⟨0, 0⟩⟩

def loadVersion (store : AutomationStore) (automationId : AutomationId) (version : ℕ) :
    Option StoredAutomationVersion := store.versions.find (automationId, version)

def activeVersion? (store : AutomationStore) (identity : AutomationIdentityState) :
    Option ActiveAutomationVersion :=
  if identity.state = .active then
    identity.activeVersion.bind (fun version =>
      (store.loadVersion identity.id version).map (ActiveAutomationVersion.mk identity))
  else none

def loadActiveVersions (store : AutomationStore) (limit : ℕ) : List ActiveAutomationVersion :=
  ((store.identities.rows.insertionSort (fun left right =>
    host.automationIdText left.id ≤ host.automationIdText right.id)).filterMap
      store.activeVersion?).take (min (max limit 1) maxQueryPage)

def createOccurrence (store : AutomationStore) (occurrence : AutomationOccurrence) :
    Except StorageError AutomationStore :=
  match h : store.occurrences.find occurrence.id with
  | some existing =>
    if existing.sameIdentity occurrence then .ok store
    else .error (.invalidAutomation "stable occurrence identity payload conflict")
  | none =>
    if (store.loadVersion occurrence.automationId occurrence.version).isNone then .error .constraint
    else .ok { store with occurrences := store.occurrences.insert occurrence h }

def transitionOccurrence (store : AutomationStore) (occurrence : AutomationOccurrence) :
    Except StorageError AutomationStore :=
  match store.occurrences.find occurrence.id with
  | none => .error (.invalidAutomation "automation occurrence missing")
  | some current =>
    if current.sameIdentity occurrence = false ∨
        current.state.allowsTransitionTo occurrence.state = false then
      .error (.invalidAutomation "invalid automation occurrence transition")
    else .ok { store with occurrences := store.occurrences.replace occurrence }

/-- `create_run`: the occurrence is a foreign key and unique among runs. -/
def createRun (store : AutomationStore) (run : AutomationRun) : Except StorageError AutomationStore :=
  if run.revision ≠ 0 then
    .error (.invalidAutomation "new automation run revision must be zero")
  else match h : store.runs.find run.id with
    | some existing =>
      if existing = run then .ok store
      else .error (.invalidAutomation "stable automation identity payload conflict")
    | none =>
      if store.runs.rows.any (fun other => other.occurrenceId == run.occurrenceId) ∨
          (store.occurrences.find run.occurrenceId).isNone ∨
          (store.loadVersion run.automationId run.version).isNone then .error .constraint
      else .ok { store with runs := store.runs.insert run h }

def transitionRun (store : AutomationStore) (run : AutomationRun) (expectedRevision : ℕ) :
    Except StorageError AutomationStore :=
  match store.runs.find run.id with
  | none => .error (.invalidAutomation "automation run missing")
  | some current =>
    if current.revision ≠ expectedRevision then
      .error (.automationRunConflict expectedRevision current.revision)
    else if run.revision ≠ min (expectedRevision + 1) (2^64 - 1) ∨
        current.state.allowsRevisionTo run.state = false ∨
        current.automationId ≠ run.automationId ∨ current.version ≠ run.version ∨
        current.occurrenceId ≠ run.occurrenceId ∨ current.actorId ≠ run.actorId ∨
        current.createdAt ≠ run.createdAt then
      .error (.invalidAutomation "invalid automation run transition")
    else .ok { store with runs := store.runs.replace run }

def createTimer (store : AutomationStore) (timer : AutomationTimer) :
    Except StorageError AutomationStore :=
  match h : store.timers.find timer.id with
  | some existing =>
    if existing = timer then .ok store
    else .error (.invalidAutomation "stable automation identity payload conflict")
  | none =>
    if (store.runs.find timer.runId).isNone then .error .constraint
    else .ok { store with timers := store.timers.insert timer h }

def transitionTimer (store : AutomationStore) (timer : AutomationTimer) :
    Except StorageError AutomationStore :=
  match store.timers.find timer.id with
  | none => .error (.invalidAutomation "automation timer missing")
  | some current =>
    if current.runId ≠ timer.runId ∨ current.nodeId ≠ timer.nodeId ∨ current.kind ≠ timer.kind ∨
        current.readyAt ≠ timer.readyAt ∨ current.state.allowsTransitionTo timer.state = false then
      .error (.invalidAutomation "invalid automation timer transition")
    else .ok { store with timers := store.timers.replace timer }

def traceOf (store : AutomationStore) (runId : AutomationRunId) : List AutomationTraceStep :=
  store.trace.rows.filter (fun step => step.runId == runId)

def expectedSequence (store : AutomationStore) (runId : AutomationRunId) : ℕ :=
  ((store.traceOf runId).map AutomationTraceStep.sequence).max?.elim 0 (fun sequence => sequence + 1)

def appendTrace (store : AutomationStore) (step : AutomationTraceStep) :
    Except StorageError AutomationStore :=
  if step.sequence ≠ store.expectedSequence step.runId then
    .error (.invalidAutomation "automation trace sequence is not contiguous")
  else match h : store.trace.find step.id with
    | some _ => .error .constraint
    | none =>
      if (store.runs.find step.runId).isNone then .error .constraint
      else .ok { store with trace := store.trace.insert step h }

def crossRun (write : AutomationStepWrite) : Bool :=
  write.trace.any (fun step => step.runId != write.run.id) ||
  (write.createTimers ++ write.transitionTimers).any (fun timer => timer.runId != write.run.id)

def commitStep (store : AutomationStore) (write : AutomationStepWrite) :
    Except StorageError AutomationStore :=
  if crossRun write then .error (.invalidAutomation "automation step contains cross-run state")
  else do
    let store ← store.transitionRun write.run write.expectedRunRevision
    let store ← write.createTimers.foldlM createTimer store
    let store ← write.transitionTimers.foldlM transitionTimer store
    write.trace.foldlM appendTrace store

def loadTrace (store : AutomationStore) (runId : AutomationRunId) (afterSequence : Option ℕ)
    (limit : ℕ) : List AutomationTraceStep :=
  store.trace.page (fun step => step.runId == runId &&
      afterSequence.all (fun after => decide (after < step.sequence)))
    AutomationTraceStep.sequence (min limit maxQueryPage)

def recover (store : AutomationStore) (limit : ℕ) : AutomationRecovery where
  occurrences := store.occurrences.page AutomationOccurrence.isRecoverable
    (AutomationOccurrence.recoveryRank host) (min limit maxQueryPage)
  runs := store.runs.page (fun run => !run.state.isTerminal)
    (fun run : AutomationRun =>
      toLex (host.timestampText run.createdAt, host.runIdText run.id)) (min limit maxQueryPage)
  timers := store.timers.page AutomationTimer.isRecoverable
    (fun timer : AutomationTimer =>
      toLex (host.timestampText timer.readyAt, host.timerIdText timer.id)) (min limit maxQueryPage)

def advanceEventCursor (store : AutomationStore) (expectedRevision cursor : ℕ) :
    Except StorageError (AutomationEventCursor × AutomationStore) :=
  if store.eventCursor.revision ≠ expectedRevision then
    .error (.automationEventCursorConflict expectedRevision store.eventCursor.revision)
  else if cursor ≤ store.eventCursor.cursor then
    .error (.invalidAutomation "automation event cursor must advance")
  else
    let advanced : AutomationEventCursor := ⟨cursor, store.eventCursor.revision + 1⟩
    .ok (advanced, { store with eventCursor := advanced })

def expiredRun (cutoff : Instant) (run : AutomationRun) : Bool :=
  run.state.isTerminal && host.before run.updatedAt cutoff

def expiredRunId (store : AutomationStore) (cutoff : Instant) (runId : AutomationRunId) : Bool :=
  (store.runs.find runId).any (expiredRun host cutoff)

def retainDrafts (store : AutomationStore) (cutoff : Instant) (limit : ℕ) : AutomationStore :=
  let deleted := store.drafts.page (fun draft => host.before draft.updatedAt cutoff)
    (fun draft : AutomationDraft =>
      toLex (host.timestampText draft.updatedAt, host.automationIdText draft.automationId)) limit
  { store with drafts := store.drafts.filter (fun draft => !deleted.contains draft) }

def retainTrace (store : AutomationStore) (cutoff : Instant) (limit : ℕ) : AutomationStore :=
  let deleted := store.trace.page (fun step => store.expiredRunId host cutoff step.runId)
    (fun step : AutomationTraceStep =>
      toLex (host.timestampText step.occurredAt, host.traceIdText step.id)) limit
  { store with trace := store.trace.filter (fun step => !deleted.contains step) }

def retainTimers (store : AutomationStore) (cutoff : Instant) (limit : ℕ) : AutomationStore :=
  let deleted := store.timers.page (fun timer => !timer.isRecoverable &&
      store.expiredRunId host cutoff timer.runId)
    (fun timer : AutomationTimer =>
      toLex (host.timestampText timer.readyAt, host.timerIdText timer.id)) limit
  { store with timers := store.timers.filter (fun timer => !deleted.contains timer) }

def retainRuns (store : AutomationStore) (cutoff : Instant) (limit : ℕ) : AutomationStore :=
  let deleted := store.runs.page (fun run => expiredRun host cutoff run &&
      !store.timers.rows.any (fun timer => timer.runId == run.id))
    (fun run : AutomationRun =>
      toLex (host.timestampText run.updatedAt, host.runIdText run.id)) limit
  { store with
    runs := store.runs.filter (fun run => !deleted.contains run)
    trace := store.trace.filter (fun step => !deleted.any (fun run => run.id == step.runId)) }

def retainOccurrences (store : AutomationStore) (cutoff : Instant) (limit : ℕ) : AutomationStore :=
  let deleted := store.occurrences.page (fun occurrence => occurrence.state != .scheduled &&
      host.before occurrence.windowEndsAt cutoff &&
      !store.runs.rows.any (fun run => run.occurrenceId == occurrence.id))
    (fun occurrence : AutomationOccurrence =>
      toLex (host.timestampText occurrence.windowEndsAt, host.occurrenceIdText occurrence.id)) limit
  { store with occurrences := store.occurrences.filter (fun occurrence => !deleted.contains occurrence) }

/-- Retired versions that are not the active one and have no occurrences left; their
approvals go with them. -/
def retainVersions (store : AutomationStore) (cutoff : Instant) (limit : ℕ) : AutomationStore :=
  let key (version : StoredAutomationVersion) := (version.document.id, version.document.version)
  let deleted := store.versions.page (fun version => version.state == .retired &&
      host.before version.document.createdAt cutoff &&
      (store.identities.find version.document.id).all (fun identity =>
        identity.activeVersion != some version.document.version) &&
      !store.occurrences.rows.any (fun occurrence =>
        (occurrence.automationId, occurrence.version) == key version))
    (fun version : StoredAutomationVersion =>
      toLex (host.timestampText version.document.createdAt,
        toLex (host.automationIdText version.document.id, version.document.version))) limit
  { store with
    approvals := store.approvals.filter (fun approval =>
      !deleted.any (fun other => key other == (approval.automationId, approval.version)))
    versions := store.versions.filter (fun version =>
      !deleted.any (fun other => key other == key version)) }

def retain (store : AutomationStore) (policy : AutomationRetention) : AutomationStore :=
  let limit := max policy.limitPerCategory 1
  let store := store.retainDrafts host policy.draftsBefore limit
  let store := store.retainTrace host policy.runtimeBefore limit
  let store := store.retainTimers host policy.runtimeBefore limit
  let store := store.retainRuns host policy.runtimeBefore limit
  let store := store.retainOccurrences host policy.runtimeBefore limit
  store.retainVersions host policy.versionsBefore limit

end AutomationStore
end HomeMagic
