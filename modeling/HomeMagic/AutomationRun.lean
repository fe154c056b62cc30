import HomeMagic.AutomationPlan

/-! Durable occurrences, runs, timers and trace steps. Version 5 identifiers are
kept as the keys they are derived from: distinct keys give distinct UUIDs. -/
namespace HomeMagic

/-- The `source_key` of an occurrence. A catch-up names the missed schedule
instant, its requester and the requester's idempotency key; a simulation names the
hash of its input. -/
inductive OccurrenceKey
  | schedule (millis : ℤ)
  | event (cursor : ℕ)
  | catchUp (missedMillis : ℤ) (requestedBy : ActorId) (idempotencyKey : String)
  | simulation (inputHash : String)
  deriving DecidableEq

structure AutomationOccurrenceId where
  automationId : AutomationId
  version : ℕ
  key : OccurrenceKey
  deriving DecidableEq

structure AutomationRunId where
  fromOccurrence : AutomationOccurrenceId
  deriving DecidableEq

inductive AutomationTimerKind
  | delay | waitTimeout | commandRetry | stateDuration
  deriving DecidableEq

structure AutomationTimerId where
  runId : AutomationRunId
  nodeId : AutomationPlanNodeId
  scope : AutomationTimerKind
  readyAtMillis : ℤ
  deriving DecidableEq

structure AutomationTraceId where
  runId : AutomationRunId
  sequence : ℕ
  deriving DecidableEq

inductive CorrelationId
  | fresh (id : ℕ)
  | fromKey (occurrence : AutomationOccurrenceId)
  deriving DecidableEq

inductive AutomationOccurrenceState
  | scheduled | accepted | missedSkipped | suppressed
  deriving DecidableEq

def AutomationOccurrenceState.allowsTransitionTo :
    AutomationOccurrenceState → AutomationOccurrenceState → Bool
  | scheduled, accepted | scheduled, missedSkipped | scheduled, suppressed => true
  | _, _ => false

structure AutomationCatchUp where
  missedOccurrenceId : AutomationOccurrenceId
  requestedBy : ActorId
  idempotencyKey : String
  requestedAt : Instant
  deriving DecidableEq

structure AutomationOccurrence where
  id : AutomationOccurrenceId
  automationId : AutomationId
  version : ℕ
  occurredAt : Instant
  windowEndsAt : Instant
  state : AutomationOccurrenceState
  eventCursor : Option ℕ
  correlationId : CorrelationId
  causationEventId : Option EventId
  catchUp : Option AutomationCatchUp
  deriving DecidableEq

inductive AutomationRunState
  | pending | running | waiting | completed | failed | cancelled | suppressed
  deriving DecidableEq

namespace AutomationRunState

def isTerminal : AutomationRunState → Bool
  | completed | failed | cancelled | suppressed => true
  | _ => false

def allowsTransitionTo : AutomationRunState → AutomationRunState → Bool
  | pending, running | pending, cancelled | pending, suppressed => true
  | running, waiting | running, completed | running, failed | running, cancelled => true
  | waiting, running | waiting, failed | waiting, cancelled => true
  | _, _ => false

def allowsRevisionTo (state next : AutomationRunState) : Bool :=
  (state == next && !state.isTerminal) || state.allowsTransitionTo next

end AutomationRunState

inductive AutomationConditionDurationPhase
  | pending | mature
  deriving DecidableEq

structure AutomationConditionDuration where
  nodeId : AutomationPlanNodeId
  conditionHash : String
  durationMs : ℕ
  readyAt : Instant
  timerId : AutomationTimerId
  phase : AutomationConditionDurationPhase
  deriving DecidableEq

inductive AutomationCommandAttemptPhase
  | awaitingOutcome | backoff | dispatch
  deriving DecidableEq

structure AutomationCommandAttempt where
  nodeId : AutomationPlanNodeId
  attempt : ℕ
  targetIndices : List ℕ
  commandIds : List CommandId
  phase : AutomationCommandAttemptPhase
  retryReadyAt : Option Instant
  deriving DecidableEq

structure AutomationRunContinuation where
  groupNodeId : AutomationPlanNodeId
  kind : AutomationRunContinuationKind
  joinNodeId : AutomationPlanNodeId
  remainingBranches : List AutomationPlanNodeId
  currentBranchFailed : Bool
  maximumParallel : ℕ
  deriving DecidableEq

/-- The run aggregate. `continuations` is a stack with the innermost group
first; the source pushes and pops at the end of a `Vec`. -/
structure AutomationRun where
  id : AutomationRunId
  automationId : AutomationId
  version : ℕ
  occurrenceId : AutomationOccurrenceId
  actorId : ActorId
  state : AutomationRunState
  revision : ℕ
  nodeId : Option AutomationPlanNodeId
  vars : Variables
  commandIds : List CommandId
  commandAttempt : Option AutomationCommandAttempt
  conditionDurations : List AutomationConditionDuration
  continuations : List AutomationRunContinuation
  correlationId : CorrelationId
  causationEventId : Option EventId
  createdAt : Instant
  updatedAt : Instant
  deriving DecidableEq

inductive AutomationTimerState
  | pending | ready | consumed | cancelled
  deriving DecidableEq

def AutomationTimerState.allowsTransitionTo : AutomationTimerState → AutomationTimerState → Bool
  | pending, ready | pending, cancelled | ready, consumed | ready, cancelled => true
  | _, _ => false

structure AutomationTimer where
  id : AutomationTimerId
  runId : AutomationRunId
  nodeId : AutomationPlanNodeId
  kind : AutomationTimerKind
  readyAt : Instant
  state : AutomationTimerState
  deriving DecidableEq

inductive AutomationTraceKind
  | trigger | condition | branch | reduction | command | timer | variable | suppression | outcome
  deriving DecidableEq

structure AutomationTraceStep where
  id : AutomationTraceId
  runId : AutomationRunId
  sequence : ℕ
  nodeId : Option AutomationPlanNodeId
  kind : AutomationTraceKind
  details : List (String × AutomationValue)
  occurredAt : Instant
  correlationId : CorrelationId
  causationEventId : Option EventId
  deriving DecidableEq

structure AutomationStepWrite where
  run : AutomationRun
  expectedRunRevision : ℕ
  trace : List AutomationTraceStep
  createTimers : List AutomationTimer
  transitionTimers : List AutomationTimer
  deriving DecidableEq

end HomeMagic
