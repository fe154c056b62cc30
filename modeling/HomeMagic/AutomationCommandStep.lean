import HomeMagic.AutomationRuntime

/-! Command nodes of the interpreter, and the dispatch over all node kinds. -/
namespace HomeMagic

structure CommandRetryPlan where
  targetIndices : List ℕ
  commandIds : List CommandId
  readyAt : Instant
  deriving DecidableEq

/-- The loop of `retry_plan`: the failed targets with their commands and the
latest failure, or `none` when one failure is not retryable. -/
def retryTargets (policy : AutomationRetryPolicy) :
    List (ℕ × CommandResult) → Option (List ℕ × List CommandId × Option Instant)
  | [] => some ([], [], none)
  | (targetIndex, command) :: rest =>
    if command.state = .confirmed then retryTargets policy rest
    else match command.failure with
      | none => none
      | some code =>
        if code ∉ policy.retryableCommandErrors then none
        else (retryTargets policy rest).map (fun (indices, ids, latest) =>
          (targetIndex :: indices, command.id :: ids,
            some (latest.elim command.updatedAt (fun current => max command.updatedAt current))))

def retryPlan (attempt : ℕ) (targetIndices : List ℕ) (commands : List CommandResult)
    (policy : AutomationRetryPolicy) : Except AutomationRuntimeError (Option CommandRetryPlan) :=
  if policy.maximumRetries ≤ attempt ∨ targetIndices.length ≠ commands.length then .ok none
  else match retryTargets policy (targetIndices.zip commands) with
    | some (indices, ids, some latestFailure) =>
      match addMillis latestFailure policy.backoffMs with
      | some readyAt => .ok (some ⟨indices, ids, readyAt⟩)
      | none => .error .durationOverflow
    | _ => .ok none

def CommandState.name : CommandState → String
  | received => "received"
  | validated => "validated"
  | rejected => "rejected"
  | dispatched => "dispatched"
  | acknowledged => "acknowledged"
  | confirmed => "confirmed"
  | failed => "failed"
  | timedOut => "timed_out"
  | cancelled => "cancelled"

def commandResultRun (run : AutomationRun) (nodeId : AutomationPlanNodeId) (node : CommandNode)
    (attempt : ℕ) (targetIndices : List ℕ) (commands : List CommandResult) (next : AutomationRun) :
    Except AutomationRuntimeError (AutomationRun × AutomationRuntimeStep × List AutomationTimer) :=
  if commands.all (fun command => command.state == .confirmed) then
    .ok ({ next with state := .running, nodeId := node.next, commandAttempt := none }, .advanced, [])
  else if commands.any (fun command => !command.state.isTerminal) then
    .ok ({ next with
      state := .waiting
      commandAttempt := some ⟨nodeId, attempt, targetIndices, commands.map CommandResult.id,
        .awaitingOutcome, none⟩ }, .waiting, [])
  else match retryPlan attempt targetIndices commands node.retry with
    | .error error => .error error
    | .ok (some retry) =>
      .ok ({ next with
        state := .waiting
        commandAttempt := some ⟨nodeId, attempt, retry.targetIndices, retry.commandIds, .backoff,
          some retry.readyAt⟩ }, .waiting, [newTimer run nodeId .commandRetry retry.readyAt])
    | .ok none =>
      let failed := applyFailure { next with commandAttempt := none } node.onFailure node.next
      .ok (failed.1, failed.2, [])

def checkpointCommandResult (run : AutomationRun) (nodeId : AutomationPlanNodeId)
    (node : CommandNode) (attempt : ℕ) (targetIndices : List ℕ) (commands : List CommandResult)
    (appendCommandIds : Bool) (inputs : StepInputs) : StepOutcome :=
  if commands.length ≠ targetIndices.length then .error .invalidPlan
  else
    let next := checkpoint run inputs.clock.checkpoint
    let next := if appendCommandIds then
      { next with commandIds := next.commandIds ++ commands.map CommandResult.id } else next
    match commandResultRun run nodeId node attempt targetIndices commands next with
    | .error error => .error error
    | .ok (next, outcome, createTimers) =>
      .ok (outcome, some (stepWrite run next inputs (some nodeId) .command
        [("attempt", .integer attempt),
          ("state", .string (",".intercalate (commands.map (fun command => command.state.name))))]
        createTimers []))

def resumeCommandBackoff (run : AutomationRun) (nodeId : AutomationPlanNodeId)
    (attempt : AutomationCommandAttempt) (inputs : StepInputs) : StepOutcome :=
  match attempt.retryReadyAt with
  | none => .error .invalidPlan
  | some readyAt =>
    match inputs.timer ⟨run.id, nodeId, .commandRetry, timestampMillis readyAt⟩ with
    | none => .error .repository
    | some none => .error .invalidPlan
    | some (some timer) =>
      if timer.state ≠ .ready then .ok (.waiting, none)
      else
        let next := { checkpoint run inputs.clock.checkpoint with
          state := .running
          commandAttempt := some { attempt with
            attempt := min (attempt.attempt + 1) (2^16 - 1)
            commandIds := []
            phase := .dispatch
            retryReadyAt := none } }
        .ok (.advanced, some (stepWrite run next inputs (some nodeId) .timer
          [("event", .string "retry_ready")] [] [{ timer with state := .consumed }]))

def loadAttemptCommands (port : CommandPort) :
    List CommandId → Except AutomationRuntimeError (List CommandResult)
  | [] => .ok []
  | id :: rest =>
    match port.get id with
    | none => .error .command
    | some none => .error .invalidPlan
    | some (some result) =>
      match loadAttemptCommands port rest with
      | .ok results => .ok (result :: results)
      | .error error => .error error

/-- The dispatch loop; every target before a failed call has been submitted. -/
def executeTargets (port : CommandPort) (targets : List ResolvedAutomationTarget) :
    List ℕ → Except AutomationRuntimeError (List CommandResult)
  | [] => .ok []
  | targetIndex :: rest =>
    if targets.length ≤ targetIndex then .error .invalidPlan
    else match port.execute targetIndex with
      | none => .error .command
      | some result =>
        match executeTargets port targets rest with
        | .ok results => .ok (result :: results)
        | .error error => .error error

def dispatchAttempt (run : AutomationRun) (node : CommandNode) :
    Except AutomationRuntimeError (ℕ × List ℕ) :=
  match run.commandAttempt with
  | some attempt =>
    if attempt.phase = .dispatch then .ok (attempt.attempt, attempt.targetIndices)
    else .error .invalidPlan
  | none =>
    if node.targets.length ≤ 2^16 then .ok (0, List.range node.targets.length)
    else .error .invalidPlan

def dispatchCommandAttempt (run : AutomationRun) (nodeId : AutomationPlanNodeId)
    (node : CommandNode) (maximumRunDurationMs : ℕ) (inputs : StepInputs) : StepOutcome :=
  match dispatchAttempt run node with
  | .error error => .error error
  | .ok (attempt, targetIndices) =>
    if targetIndices.isEmpty then .error .invalidPlan
    else match inputs.commands with
      | none => .error .commandPathUnavailable
      | some port =>
        match port.actor with
        | none => .error .repository
        | some false => .error .commandActorUnavailable
        | some true =>
          match addMillis run.createdAt maximumRunDurationMs with
          | none => .error .durationOverflow
          | some _ =>
            match executeTargets port node.targets targetIndices with
            | .error error => .error error
            | .ok results =>
              checkpointCommandResult run nodeId node attempt targetIndices results true inputs

def awaitCommandOutcome (run : AutomationRun) (nodeId : AutomationPlanNodeId) (node : CommandNode)
    (attempt : AutomationCommandAttempt) (inputs : StepInputs) : StepOutcome :=
  match inputs.commands with
  | none => .error .commandPathUnavailable
  | some port =>
    if attempt.commandIds.length ≠ attempt.targetIndices.length then .error .invalidPlan
    else match loadAttemptCommands port attempt.commandIds with
      | .error error => .error error
      | .ok commands =>
        if commands.any (fun command => !command.state.isTerminal) then .ok (.waiting, none)
        else checkpointCommandResult run nodeId node attempt.attempt attempt.targetIndices commands
          false inputs

def stepCommand (run : AutomationRun) (nodeId : AutomationPlanNodeId) (node : CommandNode)
    (maximumRunDurationMs : ℕ) (inputs : StepInputs) : StepOutcome :=
  match run.commandAttempt with
  | some attempt =>
    if attempt.nodeId ≠ nodeId then .error .invalidPlan
    else match attempt.phase with
      | .backoff => resumeCommandBackoff run nodeId attempt inputs
      | .awaitingOutcome => awaitCommandOutcome run nodeId node attempt inputs
      | .dispatch => dispatchCommandAttempt run nodeId node maximumRunDurationMs inputs
  | none => dispatchCommandAttempt run nodeId node maximumRunDurationMs inputs

def budgetExhausted (plan : AutomationExecutionPlan) (run : AutomationRun) (inputs : StepInputs) :
    Bool :=
  decide (plan.budget.maximumTraceSteps ≤ inputs.traceLength) ||
  decide (min plan.budget.maximumRunDurationMs (2^63 - 1) * nanosPerMilli <
    inputs.clock.budget - run.createdAt)

def stepNode (host : EvaluatorHost) (plan : AutomationExecutionPlan) (run : AutomationRun)
    (nodeId : AutomationPlanNodeId) (kind : AutomationPlanNodeKind) (inputs : StepInputs) :
    StepOutcome :=
  match kind with
  | .complete =>
    let next := { checkpoint run inputs.clock.checkpoint with state := .completed, nodeId := none }
    .ok (.completed, some (stepWrite run next inputs (some nodeId) .outcome
      [("status", .string "completed")] [] []))
  | .delay durationMs next => stepDelay run nodeId durationMs next inputs
  | .setVariable name value next => stepSetVariable run nodeId name value next inputs
  | .branch condition thenNode elseNode join =>
    stepBranch host run nodeId condition thenNode elseNode join inputs
  | .join next => stepJoin run nodeId next inputs
  | .command node => stepCommand run nodeId node plan.budget.maximumRunDurationMs inputs
  | .wait condition timeoutMs onTimeout next =>
    stepWait host run nodeId condition timeoutMs onTimeout next inputs
  | .group kind branches maximumParallel join =>
    enterGroup run nodeId branches maximumParallel join kind inputs

/-- `AutomationRuntime::step` of a stored run whose active version has `plan`. -/
def stepRun (host : EvaluatorHost) (plan : AutomationExecutionPlan) (run : AutomationRun)
    (inputs : StepInputs) : StepOutcome :=
  if run.state.isTerminal then .ok (.noWork, none)
  else if budgetExhausted plan run inputs then .error .budgetExceeded
  else if run.state = .pending then
    let next := { checkpoint run inputs.clock.checkpoint with state := .running }
    .ok (.advanced, some (stepWrite run next inputs none .trigger
      [("accepted", .boolean true)] [] []))
  else match run.nodeId with
    | none => .error .invalidPlan
    | some nodeId =>
      match plan.find nodeId with
      | none => .error .invalidPlan
      | some kind => stepNode host plan run nodeId kind inputs

def newRun (plan : AutomationExecutionPlan) (actorId : ActorId) (occurrence : AutomationOccurrence)
    (now : Instant) : AutomationRun where
  id := ⟨occurrence.id⟩
  automationId := occurrence.automationId
  version := occurrence.version
  occurrenceId := occurrence.id
  actorId := actorId
  state := .pending
  revision := 0
  nodeId := some plan.entry
  vars := initialVariables plan.vars
  commandIds := []
  commandAttempt := none
  conditionDurations := []
  continuations := []
  correlationId := occurrence.correlationId
  causationEventId := occurrence.causationEventId
  createdAt := now
  updatedAt := now

end HomeMagic
