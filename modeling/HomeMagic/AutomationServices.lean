import HomeMagic.AutomationCompiler
import HomeMagic.AutomationScheduler
import HomeMagic.AutomationSimulator

/-! The services that work next to the scheduler: the event consumer, catch-up
requests, run cancellation, retention and the interpreter steps of stored runs. -/
namespace HomeMagic

inductive AutomationEventProcessorError
  | repository (operation : String) (error : StorageError)
  | cursorExpired (requested earliest : ℕ)
  deriving DecidableEq

def maxEventPage : ℕ := 1000
def maxActiveAutomations : ℕ := 1000

def exactTarget (target : ResolvedAutomationTarget) (event : DomainEvent) (endpointId : EndpointId)
    (capability : String) : Bool :=
  event.deviceId == some target.deviceId && target.endpointId == endpointId &&
    target.capability == capability

def eventTriggers (trigger : ResolvedAutomationTrigger) (event : DomainEvent) : Bool :=
  match trigger, event.kind with
  | .observationChanged targets field, .observationChanged endpointId capability changedFields =>
    targets.any (fun target => exactTarget target event endpointId capability.schema &&
      field.all (fun field => changedFields.contains field))
  | .deviceEvent targets expected, .deviceEvent endpointId actual =>
    expected == actual && targets.any (fun target =>
      event.deviceId == some target.deviceId && target.endpointId == endpointId)
  | .commandOutcome targets states, .commandTransitioned state endpointId capability =>
    states.contains state && targets.all (fun targets =>
      endpointId.any (fun endpointId => capability.any (fun capability =>
        targets.any (fun target => exactTarget target event endpointId capability))))
  | _, _ => false

def selfSuppressed (automation : ActiveAutomationVersion) (event : DomainEvent) : Bool :=
  match event.automation with
  | none => false
  | some cause =>
    if cause.automationId ≠ automation.identity.id then false
    else match automation.version.plan.selfTrigger with
      | .suppressSameVersion => cause.version == automation.version.document.version
      | .suppressSameCorrelation => true
      | .allow => false

def eventOccurrence (automation : ActiveAutomationVersion) (event : CursorEvent) :
    AutomationOccurrence where
  id := ⟨automation.identity.id, automation.version.document.version, .event event.cursor⟩
  automationId := automation.identity.id
  version := automation.version.document.version
  occurredAt := event.event.occurredAt
  windowEndsAt := maxUtc
  state := if selfSuppressed automation event.event then .suppressed else .scheduled
  eventCursor := some event.cursor
  correlationId := event.event.correlationId
  causationEventId := some event.event.id
  catchUp := none

abbrev EventsM := ServiceM AutomationEventProcessorError

def materializeEvent (event : CursorEvent) : List ActiveAutomationVersion → EventsM Unit
  | [] => pure ()
  | automation :: rest =>
    if automation.version.plan.triggers.any (fun trigger => eventTriggers trigger event.event) then do
      repository (.repository "create_occurrence")
        (request (.createOccurrence (eventOccurrence automation event)))
      materializeEvent event rest
    else materializeEvent event rest

def processEvents (active : List ActiveAutomationVersion) :
    List CursorEvent → AutomationEventCursor → EventsM Unit
  | [], _ => pure ()
  | event :: rest, checkpoint => do
    materializeEvent event active
    let _ ← clockNow
    let checkpoint ← repository (.repository "advance_cursor")
      (request (.advanceEventCursor checkpoint.revision event.cursor))
    processEvents active rest checkpoint

def process (limit : ℕ) : EventsM Unit := do
  let checkpoint ← repository (.repository "load_cursor") (request .eventCursor)
  let page ← repository (.repository "load_events")
    (request (.eventsAfter checkpoint.cursor (min (max limit 1) maxEventPage)))
  match page.earliestCursor with
  | some earliest =>
    if checkpoint.cursor + 1 < earliest then throw (.cursorExpired checkpoint.cursor earliest)
  | none => pure ()
  let active ← repository (.repository "load_active_versions")
    (request (.activeVersions maxActiveAutomations))
  processEvents active page.events checkpoint

def scheduleAt (host : SchedulerHost) (triggers : List AutomationTrigger) (instant : Instant) :
    Option AutomationSchedule :=
  (triggers.filterMap (fun trigger => match trigger with
    | .schedule schedule => some schedule
    | _ => none)).find? (fun schedule =>
      host.scheduleOccurrences schedule (instant - nanosPerMilli) instant == some [instant])

def settleMissed (stored : AutomationOccurrence) : SchedulerM Unit :=
  match stored.state with
  | .scheduled => ask (request (.transitionOccurrence { stored with state := .missedSkipped }))
  | .missedSkipped => pure ()
  | .accepted | .suppressed => throw .scheduleNotMissed

def prepareMissedSchedule (host : SchedulerHost) (automationId : AutomationId)
    (scheduledFor : Instant) : SchedulerM (ActiveAutomationVersion × AutomationOccurrenceId) := do
  let versions ← ask (request (.activeVersions recoveryPage))
  match versions.find? (fun active => active.identity.id == automationId) with
  | none => throw .automationNotActive
  | some active =>
    if scheduledFor - nanosPerMilli < minUtc then throw .durationOverflow
    else match scheduleAt host active.version.document.triggers scheduledFor with
    | none => throw .invalidCatchUpInstant
    | some schedule =>
      match addMillis scheduledFor schedule.occurrenceWindowMs with
      | none => throw .durationOverflow
      | some windowEndsAt =>
        let now ← clockNow
        if now ≤ windowEndsAt then throw .scheduleNotMissed
        else
          let missed :=
            scheduledOccurrence active schedule.occurrenceWindowMs .missedSkipped scheduledFor
          ask (request (.createOccurrence missed))
          match ← ask (request (.occurrence missed.id)) with
          | none => throw .scheduleNotMissed
          | some stored => settleMissed stored
          pure (active, missed.id)

def requestCatchUp (host : SchedulerHost) (automationId : AutomationId) (scheduledFor : Instant)
    (requestedBy : ActorId) (idempotencyKey : String) : SchedulerM AutomationOccurrence := do
  let (active, missedId) ← prepareMissedSchedule host automationId scheduledFor
  let id : AutomationOccurrenceId := ⟨active.identity.id, active.version.document.version,
    .catchUp (timestampMillis scheduledFor) requestedBy idempotencyKey⟩
  match ← ask (request (.occurrence id)) with
  | some existing => pure existing
  | none =>
    let now ← clockNow
    let occurrence : AutomationOccurrence :=
      { id := id
        automationId := active.identity.id
        version := active.version.document.version
        occurredAt := now
        windowEndsAt := maxUtc
        state := .scheduled
        eventCursor := none
        correlationId := .fromKey id
        causationEventId := none
        catchUp := some ⟨missedId, requestedBy, idempotencyKey, now⟩ }
    ask (request (.createOccurrence occurrence))
    pure occurrence

inductive AutomationLifecycleError
  | repository (error : StorageError)
  | foundation (error : StorageError)
  | notAuthorized
  | notFound
  | invalidState
  | validation (findings : List AutomationValidationError)
  | simulation (error : AutomationSimulationError)
  | eventWakeup
  | canonicalInput
  deriving DecidableEq

abbrev LifecycleM := ServiceM AutomationLifecycleError

/-- The loop of `next_trace_sequence`, which reads pages of 100 rows; `none` when the
fuel ends first. -/
def nextTraceSequence (runId : AutomationRunId) : ℕ → Option ℕ → LifecycleM (Option ℕ)
  | 0, _ => pure none
  | fuel + 1, after => do
    let page ← repository .repository (request (.trace runId after 100))
    match page.getLast? with
    | none => pure (some (after.elim 0 (fun sequence => sequence + 1)))
    | some last =>
      if page.length < 100 then pure (some (last.sequence + 1))
      else nextTraceSequence runId fuel (some last.sequence)

def cancelWrite (run : AutomationRun) (timers : List AutomationTimer) (now : Instant) (sequence : ℕ) :
    AutomationStepWrite where
  run := { run with
    state := .cancelled, revision := min (run.revision + 1) (2^64 - 1), updatedAt := now }
  expectedRunRevision := run.revision
  trace := [⟨⟨run.id, sequence⟩, run.id, sequence, run.nodeId, .outcome,
    [("reason", .string "actor_cancelled")], now, run.correlationId, none⟩]
  createTimers := []
  transitionTimers := (timers.filter (fun timer => timer.runId == run.id && timer.isRecoverable)).map
    (fun timer => { timer with state := .cancelled })

def cancelRun (actorId : ActorId) (runId : AutomationRunId) (fuel : ℕ) : LifecycleM Unit := do
  match ← repository .repository (request (.run runId)) with
  | none => throw .notFound
  | some run =>
    match ← repository .repository (request (.version run.automationId run.version)) with
    | none => throw .notFound
    | some stored =>
      if stored.document.provenance.authorId ≠ actorId then throw .notAuthorized
      else if run.state.isTerminal then throw .invalidState
      else
        let recovery ← repository .repository (request (.recoverableWork 1000))
        match ← nextTraceSequence runId fuel none with
        | none => pure ()
        | some sequence =>
          let now ← clockNow
          repository .repository (request (.commitStep (cancelWrite run recovery.timers now sequence)))

abbrev RuntimeM := ServiceM AutomationRuntimeError

abbrev runtimeRepository {α : Type}
    (p : Program AutomationCall AutomationCall.Response (Except StorageError α)) : RuntimeM α :=
  repository (fun _ => .repository) p

def stepPorts (plan : AutomationExecutionPlan) (run : AutomationRun) (traceLength : ℕ) :
    RuntimeM StepInputs :=
  ExceptT.mk ((request (.stepPorts plan run traceLength)).bind (fun inputs => .done (.ok inputs)))

def runtimeStep (host : EvaluatorHost) (runId : AutomationRunId) : RuntimeM AutomationRuntimeStep := do
  match ← runtimeRepository (request (.run runId)) with
  | none => pure .noWork
  | some run =>
    if run.state.isTerminal then return .noWork
    match ← runtimeRepository (request (.identity run.automationId)) with
    | none => pure .noWork
    | some identity =>
      if identity.activeVersion ≠ some run.version then return .noWork
      match ← runtimeRepository (request (.version run.automationId run.version)) with
      | none => throw .invalidPlan
      | some version =>
        let trace ← runtimeRepository
          (request (.trace run.id none (version.plan.budget.maximumTraceSteps + 1)))
        let inputs ← stepPorts version.plan run trace.length
        match stepRun host version.plan run { inputs with traceLength := trace.length } with
        | .error error => throw error
        | .ok (outcome, none) => pure outcome
        | .ok (outcome, some write) =>
          runtimeRepository (request (.commitStep write))
          pure outcome

def retainAutomation (policy : AutomationRetention) : LifecycleM Unit :=
  repository .repository (request (.retain policy))

def asClient {ε α : Type} (p : ServiceM ε α) : Program AutomationCall AutomationCall.Response Unit :=
  p.run.bind (fun _ => .done ())

inductive AutomationClient (scheduler : SchedulerHost) (evaluator : EvaluatorHost) :
    Program AutomationCall AutomationCall.Response Unit → Prop
  | events (limit : ℕ) : AutomationClient scheduler evaluator (asClient (process limit))
  | catchUp (automationId : AutomationId) (scheduledFor : Instant) (requestedBy : ActorId)
      (idempotencyKey : String) : AutomationClient scheduler evaluator
        (asClient (requestCatchUp scheduler automationId scheduledFor requestedBy idempotencyKey))
  | cancel (actorId : ActorId) (runId : AutomationRunId) (fuel : ℕ) :
      AutomationClient scheduler evaluator (asClient (cancelRun actorId runId fuel))
  | step (runId : AutomationRunId) :
      AutomationClient scheduler evaluator (asClient (runtimeStep evaluator runId))

end HomeMagic
