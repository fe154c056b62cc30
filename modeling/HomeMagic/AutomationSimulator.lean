import HomeMagic.AutomationCommandStep

/-! Deterministic, side-effect-free execution of normalized plans. The interpreter
is recursive: a group runs its branches one after the other, each up to the join. -/
namespace HomeMagic

structure SimulationObservationKey where
  target : ResolvedAutomationTarget
  field : String
  deriving DecidableEq

structure SimulationStateChange where
  instant : Instant
  key : SimulationObservationKey
  value : AutomationValue
  deriving DecidableEq

structure SimulationCommandOutcome where
  state : CommandState
  error : Option CommandErrorCode
  deriving DecidableEq

inductive SimulationTriggerKind
  | schedule
  | observationChanged (key : SimulationObservationKey)
  | deviceEvent (target : ResolvedAutomationTarget) (event : String)
  | commandOutcome (target : ResolvedAutomationTarget) (state : CommandState)
  | explicitCatchUp
  deriving DecidableEq

structure SimulationTriggerContext where
  kind : SimulationTriggerKind
  occurredAt : Instant
  acceptedAt : Instant
  windowEndsAt : Instant
  explicitCatchUp : Bool
  activeRuns : ℕ
  queuedTriggers : ℕ
  causedByVersion : Option ℕ
  sameCorrelation : Bool
  deriving DecidableEq

structure AutomationSimulationFixture where
  plan : AutomationExecutionPlan
  runId : AutomationRunId
  correlationId : CorrelationId
  causationEventId : Option EventId
  trigger : SimulationTriggerContext
  initialState : List (SimulationObservationKey × AutomationValue)
  stateChanges : List SimulationStateChange
  commandOutcomes : List SimulationCommandOutcome

structure SimulatedCommandIntent where
  nodeId : AutomationPlanNodeId
  targets : List ResolvedAutomationTarget
  payload : CommandPayload
  attempt : ℕ
  instant : Instant
  outcome : SimulationCommandOutcome
  safetyProfiles : List AutomationSafetyProfile
  approval : AutomationApprovalRequirement
  deriving DecidableEq

inductive AutomationSimulationStatus
  | completed | suppressed | missedSkipped | failed
  deriving DecidableEq

structure AutomationSimulationResult where
  status : AutomationSimulationStatus
  trace : List AutomationTraceStep
  commandIntents : List SimulatedCommandIntent
  vars : Variables
  finishedAt : Instant
  traceHash : String
  deriving DecidableEq

inductive AutomationSimulationError
  | missingNode (nodeId : AutomationPlanNodeId)
  | missingValue (what : String)
  | typeMismatch
  | budgetExceeded
  | invalidSchedule
  | traceHash
  deriving DecidableEq

structure VirtualSimulationPorts where
  now : Instant
  state : List (SimulationObservationKey × AutomationValue)
  changes : List SimulationStateChange
  outcomes : List SimulationCommandOutcome

def SimulationStateChange.rank (change : SimulationStateChange) :
    Instant ×ₗ ℕ ×ₗ String ×ₗ String ×ₗ String :=
  toLex (change.instant, toLex (change.key.target.deviceId, toLex (change.key.target.endpointId,
    toLex (change.key.target.capability, change.key.field))))

namespace VirtualSimulationPorts

def new (fixture : AutomationSimulationFixture) : VirtualSimulationPorts where
  now := fixture.trigger.acceptedAt
  state := fixture.initialState
  changes := fixture.stateChanges.insertionSort (fun left right => left.rank ≤ right.rank)
  outcomes := fixture.commandOutcomes

def observe (state : List (SimulationObservationKey × AutomationValue))
    (change : SimulationStateChange) : List (SimulationObservationKey × AutomationValue) :=
  (change.key, change.value) :: state.filter (fun entry => entry.1 != change.key)

def advanceTo (ports : VirtualSimulationPorts) (instant : Instant) : VirtualSimulationPorts :=
  { ports with
    now := max ports.now instant
    state := (ports.changes.takeWhile (fun change => decide (change.instant ≤ instant))).foldl
      observe ports.state
    changes := ports.changes.dropWhile (fun change => decide (change.instant ≤ instant)) }

def nextChangeThrough (ports : VirtualSimulationPorts) (deadline : Instant) : Option Instant :=
  match ports.changes with
  | change :: _ => if change.instant ≤ deadline then some change.instant else none
  | [] => none

def commandOutcome (ports : VirtualSimulationPorts) :
    SimulationCommandOutcome × VirtualSimulationPorts :=
  match ports.outcomes with
  | outcome :: rest => (outcome, { ports with outcomes := rest })
  | [] => (⟨.confirmed, none⟩, ports)

/-- The loop of `state_duration`. Each round takes a change off the list, so as many
rounds as there are changes always reach the deadline. -/
def holdsThrough (evaluate : VirtualSimulationPorts →
      Except AutomationEvaluationError Bool × VirtualSimulationPorts) (deadline : Instant) :
    ℕ → VirtualSimulationPorts → Except AutomationEvaluationError Bool × VirtualSimulationPorts
  | 0, ports => evaluate (ports.advanceTo deadline)
  | rounds + 1, ports =>
    match ports.nextChangeThrough deadline with
    | none => evaluate (ports.advanceTo deadline)
    | some changeAt =>
      match evaluate (ports.advanceTo changeAt) with
      | (.ok true, ports) => holdsThrough evaluate deadline rounds ports
      | (result, ports) => (result, ports)

def context : EvaluationContext VirtualSimulationPorts where
  now := VirtualSimulationPorts.now
  observation := fun ports target field => ports.state.lookup ⟨target, field⟩
  stateDuration := fun evaluate _ durationMs ports =>
    match evaluate ports with
    | (.ok true, ports) =>
      match addMillis ports.now durationMs with
      | none => (.error .typeMismatch, ports)
      | some deadline => holdsThrough evaluate deadline ports.changes.length ports
    | (result, ports) => (result, ports)

end VirtualSimulationPorts

inductive Flow
  | completed | stopRun | stopBranch
  deriving DecidableEq

structure StepInterpreter where
  ports : VirtualSimulationPorts
  trace : List AutomationTraceStep
  intents : List SimulatedCommandIntent
  vars : Variables
  steps : ℕ

def mapEvaluationError : AutomationEvaluationError → AutomationSimulationError
  | .missingValue what => .missingValue what
  | .typeMismatch => .typeMismatch
  | .invalidTimeWindow => .invalidSchedule
  | .durableDurationRequired | .conditionHash | .durationOverflow | .durationTimerMissing => .typeMismatch

def simulatedAfter (instant : Instant) (milliseconds : ℕ) : Except AutomationSimulationError Instant :=
  match addMillis instant milliseconds with
  | some later => .ok later
  | none => .error .budgetExceeded

namespace StepInterpreter

def new (fixture : AutomationSimulationFixture) : StepInterpreter where
  ports := .new fixture
  trace := []
  intents := []
  vars := initialVariables fixture.plan.vars
  steps := 0

section Run
variable (host : EvaluatorHost) (fixture : AutomationSimulationFixture)

def record (i : StepInterpreter) (kind : AutomationTraceKind) (nodeId : Option AutomationPlanNodeId)
    (details : List (String × AutomationValue)) : Except AutomationSimulationError StepInterpreter :=
  if fixture.plan.budget.maximumTraceSteps ≤ i.trace.length then .error .budgetExceeded
  else .ok { i with trace := i.trace ++ [{
    id := ⟨fixture.runId, i.trace.length⟩
    runId := fixture.runId
    sequence := i.trace.length
    nodeId := nodeId
    kind := kind
    details := details
    occurredAt := i.ports.now
    correlationId := fixture.correlationId
    causationEventId := fixture.causationEventId }] }

def consumeBudget (i : StepInterpreter) : Except AutomationSimulationError StepInterpreter :=
  let steps := min (i.steps + 1) (2^32 - 1)
  if fixture.plan.budget.maximumTraceSteps < steps ∨
      fixture.plan.budget.maximumTraceSteps ≤ i.trace.length ∨
      (min fixture.plan.budget.maximumRunDurationMs (2^63 - 1) : ℕ) * nanosPerMilli <
        i.ports.now - fixture.trigger.acceptedAt then .error .budgetExceeded
  else .ok { i with steps := steps }

def evaluate (i : StepInterpreter) (condition : ResolvedAutomationCondition) :
    Except AutomationSimulationError (Bool × StepInterpreter) :=
  match evaluateCondition host VirtualSimulationPorts.context i.vars condition i.ports with
  | (.ok value, ports) => .ok (value, { i with ports := ports })
  | (.error error, _) => .error (mapEvaluationError error)

def evaluateValue (i : StepInterpreter) (expression : ResolvedAutomationExpression) :
    Except AutomationSimulationError AutomationValue :=
  (evaluateExpression (VirtualSimulationPorts.context.observation i.ports) i.vars expression).mapError
    mapEvaluationError

def awaitCondition (condition : ResolvedAutomationCondition) (deadline : Instant) :
    ℕ → StepInterpreter → Except AutomationSimulationError (Bool × StepInterpreter)
  | 0, i => .ok (false, i)
  | rounds + 1, i =>
    match i.ports.nextChangeThrough deadline with
    | none => .ok (false, i)
    | some changeAt => do
      let (satisfied, i) ← evaluate host { i with ports := i.ports.advanceTo changeAt } condition
      if satisfied then .ok (true, i) else awaitCondition condition deadline rounds i

def attemptCommand (nodeId : AutomationPlanNodeId) (node : CommandNode) (attempt : ℕ) :
    ℕ → StepInterpreter → Except AutomationSimulationError (Bool × StepInterpreter)
  | retries, i => do
    let (outcome, ports) := i.ports.commandOutcome
    let i : StepInterpreter := { i with
      ports := ports
      intents := i.intents ++ [⟨nodeId, node.targets, node.payload, attempt, ports.now, outcome,
        fixture.plan.safetyProfiles, fixture.plan.approval⟩] }
    let i ← i.record fixture .command (some nodeId)
      [("attempt", .integer attempt), ("state", .string outcome.state.name)]
    if outcome.state = .confirmed then .ok (true, i)
    else match retries with
      | 0 => .ok (false, i)
      | retries + 1 =>
        if outcome.error.any (fun error => node.retry.retryableCommandErrors.contains error) then do
          let ready ← simulatedAfter i.ports.now node.retry.backoffMs
          attemptCommand nodeId node (attempt + 1) retries
            { i with ports := i.ports.advanceTo ready }
        else .ok (false, i)

def runParallel (run : AutomationPlanNodeId → StepInterpreter →
      Except AutomationSimulationError (Flow × StepInterpreter)) :
    List AutomationPlanNodeId → StepInterpreter →
      Except AutomationSimulationError (Bool × StepInterpreter)
  | [], i => .ok (false, i)
  | branch :: rest, i => do
    let (flow, i) ← run branch i
    match flow with
    | .stopRun => .ok (true, i)
    | .completed | .stopBranch => runParallel run rest i

def runRace (run : AutomationPlanNodeId → StepInterpreter →
      Except AutomationSimulationError (Flow × StepInterpreter)) :
    List AutomationPlanNodeId → StepInterpreter →
      Except AutomationSimulationError (Bool × StepInterpreter)
  | [], i => .ok (false, i)
  | branch :: rest, i => do
    let (flow, i) ← run branch i
    match flow with
    | .completed => .ok (true, i)
    | .stopRun => .ok (false, i)
    | .stopBranch => runRace run rest i

def applyFailure (run : AutomationPlanNodeId → StepInterpreter →
      Except AutomationSimulationError (Flow × StepInterpreter))
    (policy : AutomationPlanFailurePolicy) (following : Option AutomationPlanNodeId)
    (i : StepInterpreter) : Except AutomationSimulationError (Flow × StepInterpreter) :=
  match policy with
  | .stopRun => .ok (.stopRun, i)
  | .stopBranch => .ok (.stopBranch, i)
  | .continue => following.elim (.ok (.completed, i)) (fun next => run next i)
  | .fallback entry => (entry.or following).elim (.ok (.completed, i)) (fun next => run next i)

/-- `execute_from`. Every round consumes a step of the budget, so that a fuel beyond
the budget is never used up. -/
def executeFrom : ℕ → AutomationPlanNodeId → Option AutomationPlanNodeId → StepInterpreter →
    Except AutomationSimulationError (Flow × StepInterpreter)
  | 0, _, _, _ => .error .budgetExceeded
  | fuel + 1, nodeId, stopBefore, i =>
    if some nodeId = stopBefore then .ok (.completed, i)
    else do
      let i ← consumeBudget fixture i
      let goto (next : Option AutomationPlanNodeId) (i : StepInterpreter) :=
        next.elim (.ok (.completed, i)) (fun next => executeFrom fuel next stopBefore i)
      match fixture.plan.find nodeId with
      | none => .error (.missingNode nodeId)
      | some .complete => do
        let i ← i.record fixture .outcome (some nodeId) [("status", .string "completed")]
        .ok (.completed, i)
      | some (.delay durationMs next) => do
        let ready ← simulatedAfter i.ports.now durationMs
        let i ← record fixture { i with ports := i.ports.advanceTo ready } .timer (some nodeId)
          [("duration_ms", .durationMillis durationMs), ("event", .string "delay_ready")]
        goto next i
      | some (.command node) => do
        let (confirmed, i) ← attemptCommand fixture nodeId node 0 node.retry.maximumRetries i
        if confirmed then goto node.next i
        else applyFailure (fun next i => executeFrom fuel next none i) node.onFailure node.next i
      | some (.wait condition timeoutMs onTimeout next) => do
        let deadline ← simulatedAfter i.ports.now timeoutMs
        let (satisfied, i) ← evaluate host i condition
        let (satisfied, i) ←
          if satisfied then .ok (true, i)
          else awaitCondition host condition deadline i.ports.changes.length i
        if satisfied then do
          let i ← i.record fixture .condition (some nodeId) [("result", .boolean true)]
          goto next i
        else do
          let i ← record fixture { i with ports := i.ports.advanceTo deadline } .timer (some nodeId)
            [("event", .string "wait_timeout")]
          applyFailure (fun next i => executeFrom fuel next none i) onTimeout next i
      | some (.setVariable name value next) => do
        let value ← evaluateValue i value
        let i ← record fixture { i with vars := insertVariable name value i.vars } .variable
          (some nodeId) [("name", .string name), ("value", value)]
        goto next i
      | some (.branch condition thenNode elseNode join) => do
        let (selected, i) ← evaluate host i condition
        let i ← i.record fixture .branch (some nodeId) [("then", .boolean selected)]
        goto ((if selected then thenNode else elseNode).or join) i
      | some (.group .parallel branches _ join) => do
        let (stopped, i) ← runParallel (fun branch i => executeFrom fuel branch join i) branches i
        if stopped then .ok (.stopRun, i) else goto join i
      | some (.group .race branches _ join) => do
        let (won, i) ← runRace (fun branch i => executeFrom fuel branch join i) branches i
        if won then goto join i else .ok (.stopRun, i)
      | some (.join next) => goto next i

def triggerMatches : Bool :=
  match fixture.trigger.kind with
  | .explicitCatchUp => fixture.trigger.explicitCatchUp
  | .schedule => fixture.plan.triggers.any (fun trigger => match trigger with
    | .schedule _ => true
    | _ => false)
  | .observationChanged key => fixture.plan.triggers.any (fun trigger => match trigger with
    | .observationChanged targets field =>
      targets.contains key.target && field.all (fun field => field == key.field)
    | _ => false)
  | .deviceEvent target event => fixture.plan.triggers.any (fun trigger => match trigger with
    | .deviceEvent targets expected => targets.contains target && expected == event
    | _ => false)
  | .commandOutcome target state => fixture.plan.triggers.any (fun trigger => match trigger with
    | .commandOutcome targets states =>
      targets.all (fun targets => targets.contains target) && states.contains state
    | _ => false)

def simulatedSelfSuppressed : Bool :=
  match fixture.plan.selfTrigger with
  | .suppressSameVersion =>
    fixture.trigger.causedByVersion == some fixture.plan.automationVersion
  | .suppressSameCorrelation => fixture.trigger.sameCorrelation
  | .allow => false

def simulatedRunSuppressed : Bool :=
  match fixture.plan.runMode with
  | .single => decide (0 < fixture.trigger.activeRuns)
  | .restart => false
  | .queued capacity => decide (capacity ≤ fixture.trigger.queuedTriggers)
  | .parallel maximumParallel => decide (maximumParallel ≤ fixture.trigger.activeRuns)

def acceptTrigger (i : StepInterpreter) :
    Except AutomationSimulationError (Option AutomationSimulationStatus × StepInterpreter) :=
  let trigger := fixture.trigger
  if triggerMatches fixture = false then do
    let i ← i.record fixture .suppression none [("reason", .string "trigger_not_matched")]
    .ok (some .suppressed, i)
  else if trigger.windowEndsAt < trigger.acceptedAt ∧ trigger.explicitCatchUp = false then do
    let i ← i.record fixture .suppression none [("reason", .string "missed_skipped")]
    .ok (some .missedSkipped, i)
  else if simulatedSelfSuppressed fixture ∨ simulatedRunSuppressed fixture then do
    let i ← i.record fixture .suppression none [("reason", .string "trigger_suppressed")]
    .ok (some .suppressed, i)
  else do
    let i ← i.record fixture .trigger none
      [("accepted", .boolean true), ("explicit_catch_up", .boolean trigger.explicitCatchUp)]
    match fixture.plan.condition with
    | none => .ok (none, i)
    | some condition =>
      let (accepted, i) ← i.evaluate host condition
      let i ← i.record fixture .condition none [("result", .boolean accepted)]
      .ok (if accepted then none else some .suppressed, i)

end Run
end StepInterpreter

def Flow.status : Flow → AutomationSimulationStatus
  | completed => .completed
  | stopRun | stopBranch => .failed

open StepInterpreter in
def simulateFixture (host : EvaluatorHost) (traceHash : List AutomationTraceStep → Option String)
    (fixture : AutomationSimulationFixture) :
    Except AutomationSimulationError AutomationSimulationResult := do
  let (decided, i) ← acceptTrigger host fixture (.new fixture)
  let (status, i) ← match decided with
    | some status => .ok (status, i)
    | none => do
      let (flow, i) ← executeFrom host fixture (fixture.plan.budget.maximumTraceSteps + 2)
        fixture.plan.entry none i
      .ok (flow.status, i)
  let i ← if status = .failed then
      i.record fixture .outcome none [("status", .string "failed")]
    else .ok i
  match traceHash i.trace with
  | none => .error .traceHash
  | some traceHash => .ok ⟨status, i.trace, i.intents, i.vars, i.ports.now, traceHash⟩

end HomeMagic
