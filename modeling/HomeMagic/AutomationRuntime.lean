import HomeMagic.AutomationEvaluator

/-! One interpreter step of a durable run. A step reads its ports, computes and
commits one write; everything it reads is an input here, so that the clock, the
registry, the timers and the command service may answer anything. -/
namespace HomeMagic

inductive AutomationRuntimeStep
  | advanced | waiting | completed | noWork
  deriving DecidableEq

inductive AutomationRuntimeError
  | repository
  | foundation
  | invalidPlan
  | evaluation (error : AutomationEvaluationError)
  | durationOverflow
  | budgetExceeded
  | commandPathUnavailable
  | commandActorUnavailable
  | invalidIdempotencyKey
  | command
  deriving DecidableEq

structure CommandResult where
  id : CommandId
  state : CommandState
  failure : Option CommandErrorCode
  updatedAt : Instant
  deriving DecidableEq

/-- Answers of the governed command path, by target index; `none` is a failed call. -/
structure CommandPort where
  actor : Option Bool
  execute : ℕ → Option CommandResult
  get : CommandId → Option (Option CommandResult)

structure StepClock where
  budget : Instant
  evaluation : Instant
  checkpoint : Instant
  trace : Instant

/-- Everything one step reads besides the run and its plan; `none` is a failed
port call. -/
structure StepInputs where
  clock : StepClock
  traceLength : ℕ
  snapshot : Option FoundationSnapshot
  timer : AutomationTimerId → Option (Option AutomationTimer)
  recoverableTimers : Option (List AutomationTimer)
  commands : Option CommandPort

abbrev StepOutcome :=
  Except AutomationRuntimeError (AutomationRuntimeStep × Option AutomationStepWrite)

def checkpoint (run : AutomationRun) (now : Instant) : AutomationRun :=
  { run with revision := min (run.revision + 1) (2^64 - 1), updatedAt := now }

def traceStep (run : AutomationRun) (sequence : ℕ) (nodeId : Option AutomationPlanNodeId)
    (kind : AutomationTraceKind) (details : List (String × AutomationValue))
    (occurredAt : Instant) : AutomationTraceStep where
  id := ⟨run.id, sequence⟩
  runId := run.id
  sequence := sequence
  nodeId := nodeId
  kind := kind
  details := details
  occurredAt := occurredAt
  correlationId := run.correlationId
  causationEventId := run.causationEventId

def stepWrite (run next : AutomationRun) (inputs : StepInputs)
    (nodeId : Option AutomationPlanNodeId) (kind : AutomationTraceKind)
    (details : List (String × AutomationValue)) (createTimers transitionTimers : List AutomationTimer) :
    AutomationStepWrite where
  run := next
  expectedRunRevision := run.revision
  trace := [traceStep next inputs.traceLength nodeId kind details inputs.clock.trace]
  createTimers := createTimers
  transitionTimers := transitionTimers

def cancelTimer (timer : AutomationTimer) : AutomationTimer :=
  match timer.state with
  | .pending | .ready => { timer with state := .cancelled }
  | _ => timer

def applyFailure (run : AutomationRun) (policy : AutomationPlanFailurePolicy)
    (following : Option AutomationPlanNodeId) : AutomationRun × AutomationRuntimeStep :=
  match policy, run.continuations with
  | .continue, _ => ({ run with state := .running, nodeId := following }, .advanced)
  | .fallback entry, _ =>
    ({ run with state := .running, nodeId := entry.or following }, .advanced)
  | .stopBranch, frame :: outer =>
    ({ run with
        continuations := { frame with currentBranchFailed := true } :: outer
        state := .running
        nodeId := some frame.joinNodeId }, .advanced)
  | .stopBranch, [] | .stopRun, _ => ({ run with state := .failed, nodeId := none }, .completed)

def enterGroup (run : AutomationRun) (nodeId : AutomationPlanNodeId)
    (branches : List AutomationPlanNodeId) (maximumParallel : ℕ)
    (join : Option AutomationPlanNodeId) (kind : AutomationRunContinuationKind)
    (inputs : StepInputs) : StepOutcome :=
  match branches, join with
  | first :: remaining, some joinNodeId =>
    let next := checkpoint run inputs.clock.checkpoint
    let next := { next with
      nodeId := some first
      continuations := ⟨nodeId, kind, joinNodeId, remaining, false, maximumParallel⟩ ::
        next.continuations }
    .ok (.advanced, some (stepWrite run next inputs (some nodeId) .branch
      [("branches", .integer (min branches.length (2^63 - 1))),
        ("event", .string "group_started")] [] []))
  | _, _ => .error .invalidPlan

def joinRun (next : AutomationRun) (nodeId : AutomationPlanNodeId)
    (following : Option AutomationPlanNodeId) : AutomationRun × AutomationRuntimeStep × String :=
  match next.continuations with
  | frame :: outer =>
    if frame.joinNodeId = nodeId then
      if frame.kind = .race ∧ frame.currentBranchFailed = false then
        ({ next with continuations := outer, nodeId := following }, .advanced, "race_won")
      else match frame.remainingBranches with
        | branch :: remaining =>
          ({ next with
              continuations := { frame with
                remainingBranches := remaining, currentBranchFailed := false } :: outer
              nodeId := some branch }, .advanced, "next_branch")
        | [] =>
          if frame.kind = .race ∧ frame.currentBranchFailed = true then
            ({ next with continuations := outer, state := .failed, nodeId := none },
              .completed, "race_failed")
          else
            ({ next with continuations := outer, nodeId := following }, .advanced,
              "group_completed")
    else ({ next with nodeId := following }, .advanced, "join")
  | [] => ({ next with nodeId := following }, .advanced, "join")

def stepJoin (run : AutomationRun) (nodeId : AutomationPlanNodeId)
    (following : Option AutomationPlanNodeId) (inputs : StepInputs) : StepOutcome :=
  let joined := joinRun (checkpoint run inputs.clock.checkpoint) nodeId following
  .ok (joined.2.1, some (stepWrite run joined.1 inputs (some nodeId) .branch
    [("event", .string joined.2.2)] [] []))

inductive RuntimeDurationRequest
  | start (duration : AutomationConditionDuration) (timer : AutomationTimer)
  | pending
  | mature (conditionHash : String) (timer : AutomationTimer)

structure DurationState where
  request : Option RuntimeDurationRequest
  invalid : List String

def holdDuration (now : Instant) (runId : AutomationRunId) (nodeId : AutomationPlanNodeId)
    (durations : List AutomationConditionDuration) (timers : List AutomationTimer)
    (hash : String) (durationMs : ℕ) (s : DurationState) :
    Except AutomationEvaluationError Bool × DurationState :=
  match durations.find? (fun duration => duration.conditionHash == hash) with
  | some duration =>
    match duration.phase with
    | .mature => (.ok true, s)
    | .pending =>
      match timers.find? (fun timer => timer.id == duration.timerId) with
      | none => (.error .durationTimerMissing, s)
      | some timer =>
        match timer.state with
        | .pending => (.error .durableDurationRequired, { s with request := some .pending })
        | .ready => (.error .durableDurationRequired, { s with request := some (.mature hash timer) })
        | .consumed | .cancelled => (.error .durationTimerMissing, s)
  | none =>
    match addMillis now durationMs with
    | none => (.error .durationOverflow, s)
    | some readyAt =>
      let timerId : AutomationTimerId := ⟨runId, nodeId, .stateDuration, timestampMillis readyAt⟩
      (.error .durableDurationRequired, { s with request := some (.start
        ⟨nodeId, hash, durationMs, readyAt, timerId, .pending⟩
        ⟨timerId, runId, nodeId, .stateDuration, readyAt, .pending⟩) })

def runtimeContext (host : EvaluatorHost) (now : Instant) (snapshot : FoundationSnapshot)
    (runId : AutomationRunId) (nodeId : AutomationPlanNodeId)
    (durations : List AutomationConditionDuration) (timers : List AutomationTimer) :
    EvaluationContext DurationState where
  now := fun _ => now
  observation := fun _ => snapshot.observation
  stateDuration := fun inner condition durationMs s =>
    match host.conditionHash condition durationMs with
    | none => (.error .conditionHash, s)
    | some hash =>
      let held := inner s
      match held.1 with
      | .error error => (.error error, held.2)
      | .ok false => (.ok false, { held.2 with invalid := held.2.invalid.insert hash })
      | .ok true => holdDuration now runId nodeId durations timers hash durationMs held.2

structure PreparedRuntimeCondition where
  value : Bool
  durations : List AutomationConditionDuration
  resetTimers : List AutomationTimer
  activeTimers : List AutomationTimer

inductive RuntimeConditionResult
  | resolved (prepared : PreparedRuntimeCondition)
  | waiting (write : Option AutomationStepWrite)

def loadDurationTimers (inputs : StepInputs) : List AutomationConditionDuration →
    Except AutomationRuntimeError (List AutomationTimer)
  | [] => .ok []
  | duration :: rest =>
    match inputs.timer duration.timerId with
    | none => .error .repository
    | some none => .error .invalidPlan
    | some (some timer) =>
      match loadDurationTimers inputs rest with
      | .ok timers => .ok (timers.insert timer)
      | .error error => .error error

def durationTimers (run : AutomationRun) (nodeId : AutomationPlanNodeId) (inputs : StepInputs) :
    Except AutomationRuntimeError (List AutomationTimer) :=
  loadDurationTimers inputs (run.conditionDurations.filter (fun duration =>
    duration.nodeId == nodeId && duration.phase == .pending))

def matureDuration (hash : String) :
    List AutomationConditionDuration → Option (List AutomationConditionDuration)
  | [] => none
  | duration :: rest =>
    if duration.conditionHash = hash then some ({ duration with phase := .mature } :: rest)
    else (matureDuration hash rest).map (fun rest => duration :: rest)

def commitDuration (run : AutomationRun) (nodeId : AutomationPlanNodeId) (inputs : StepInputs)
    (durations : List AutomationConditionDuration) (resetTimers : List AutomationTimer)
    (request : RuntimeDurationRequest) : Except AutomationRuntimeError AutomationStepWrite :=
  let next := { checkpoint run inputs.clock.checkpoint with
    state := .waiting, conditionDurations := durations }
  match request with
  | .start duration timer =>
    .ok (stepWrite run { next with conditionDurations := durations ++ [duration] } inputs
      (some nodeId) .timer [("event", .string "state_duration_started")] [timer] resetTimers)
  | .pending =>
    .ok (stepWrite run next inputs (some nodeId) .timer
      [("event", .string "state_duration_reset")] [] resetTimers)
  | .mature hash timer =>
    match matureDuration hash durations with
    | some matured =>
      .ok (stepWrite run { next with conditionDurations := matured } inputs (some nodeId) .timer
        [("event", .string "state_duration_matured")] []
        (resetTimers ++ [{ timer with state := .consumed }]))
    | none => .error .invalidPlan

def RuntimeDurationRequest.isPending : RuntimeDurationRequest → Bool
  | pending => true
  | _ => false

def settleCondition (run : AutomationRun) (nodeId : AutomationPlanNodeId) (inputs : StepInputs)
    (timers : List AutomationTimer)
    (evaluated : Except AutomationEvaluationError Bool × DurationState) :
    Except AutomationRuntimeError RuntimeConditionResult :=
  let invalid := evaluated.2.invalid
  let durations := run.conditionDurations.filter (fun duration =>
    !invalid.contains duration.conditionHash)
  let resetTimers := (timers.filter (fun timer => run.conditionDurations.any (fun duration =>
    duration.timerId == timer.id && invalid.contains duration.conditionHash))).map cancelTimer
  let activeTimers := timers.filter (fun timer => !resetTimers.any (fun reset => reset.id == timer.id))
  match evaluated.1 with
  | .ok value => .ok (.resolved ⟨value, durations, resetTimers, activeTimers⟩)
  | .error .durableDurationRequired =>
    match evaluated.2.request with
    | none => .error .invalidPlan
    | some request =>
      if request.isPending ∧ resetTimers.isEmpty then .ok (.waiting none)
      else match commitDuration run nodeId inputs durations resetTimers request with
        | .ok write => .ok (.waiting (some write))
        | .error error => .error error
  | .error error => .error (.evaluation error)

def evaluateRuntimeCondition (host : EvaluatorHost) (run : AutomationRun)
    (nodeId : AutomationPlanNodeId) (condition : ResolvedAutomationCondition)
    (inputs : StepInputs) : Except AutomationRuntimeError RuntimeConditionResult :=
  match inputs.snapshot with
  | none => .error .foundation
  | some snapshot =>
    match durationTimers run nodeId inputs with
    | .error error => .error error
    | .ok timers =>
      settleCondition run nodeId inputs timers
        (evaluateCondition host (runtimeContext host inputs.clock.evaluation snapshot run.id nodeId
          run.conditionDurations timers) run.vars condition ⟨none, []⟩)

def leaveNode (run : AutomationRun) (nodeId : AutomationPlanNodeId) (inputs : StepInputs) :
    AutomationRun :=
  { checkpoint run inputs.clock.checkpoint with
    conditionDurations := run.conditionDurations.filter (fun duration => duration.nodeId != nodeId) }

def stepBranch (host : EvaluatorHost) (run : AutomationRun) (nodeId : AutomationPlanNodeId)
    (condition : ResolvedAutomationCondition) (thenNode elseNode join : Option AutomationPlanNodeId)
    (inputs : StepInputs) : StepOutcome :=
  match evaluateRuntimeCondition host run nodeId condition inputs with
  | .error error => .error error
  | .ok (.waiting write) => .ok (.waiting, write)
  | .ok (.resolved prepared) =>
    let next := { leaveNode run nodeId inputs with
      state := .running
      nodeId := (if prepared.value then thenNode else elseNode).or join }
    .ok (.advanced, some (stepWrite run next inputs (some nodeId) .branch
      [("then", .boolean prepared.value)] []
      (prepared.resetTimers ++ prepared.activeTimers.map cancelTimer)))

def stepSetVariable (run : AutomationRun) (nodeId : AutomationPlanNodeId) (name : String)
    (value : ResolvedAutomationExpression) (following : Option AutomationPlanNodeId)
    (inputs : StepInputs) : StepOutcome :=
  match inputs.snapshot with
  | none => .error .foundation
  | some snapshot =>
    match evaluateExpression snapshot.observation run.vars value with
    | .error error => .error (.evaluation error)
    | .ok value =>
      let next := { checkpoint run inputs.clock.checkpoint with
        vars := insertVariable name value run.vars, nodeId := following }
      .ok (.advanced, some (stepWrite run next inputs (some nodeId) .variable
        [("name", .string name), ("value", value)] [] []))

def nodeTimer (run : AutomationRun) (nodeId : AutomationPlanNodeId) (kind : AutomationTimerKind)
    (timers : List AutomationTimer) : Option AutomationTimer :=
  timers.find? (fun timer => timer.runId == run.id && timer.nodeId == nodeId && timer.kind == kind)

def newTimer (run : AutomationRun) (nodeId : AutomationPlanNodeId) (kind : AutomationTimerKind)
    (readyAt : Instant) : AutomationTimer :=
  ⟨⟨run.id, nodeId, kind, timestampMillis readyAt⟩, run.id, nodeId, kind, readyAt, .pending⟩

def stepDelay (run : AutomationRun) (nodeId : AutomationPlanNodeId) (durationMs : ℕ)
    (following : Option AutomationPlanNodeId) (inputs : StepInputs) : StepOutcome :=
  if run.state = .running then
    match addMillis inputs.clock.evaluation durationMs with
    | none => .error .durationOverflow
    | some readyAt =>
      let next := { checkpoint run inputs.clock.checkpoint with state := .waiting }
      .ok (.waiting, some (stepWrite run next inputs (some nodeId) .timer
        [("duration_ms", .durationMillis durationMs), ("event", .string "delay_created")]
        [newTimer run nodeId .delay readyAt] []))
  else match inputs.recoverableTimers with
    | none => .error .repository
    | some timers =>
      match nodeTimer run nodeId .delay timers with
      | none => .error .invalidPlan
      | some timer =>
        if timer.state ≠ .ready then .ok (.waiting, none)
        else
          let next := { checkpoint run inputs.clock.checkpoint with
            state := .running, nodeId := following }
          .ok (.advanced, some (stepWrite run next inputs (some nodeId) .timer
            [("event", .string "delay_ready")] [] [{ timer with state := .consumed }]))

def settleWait (run : AutomationRun) (nodeId : AutomationPlanNodeId)
    (onTimeout : AutomationPlanFailurePolicy) (following : Option AutomationPlanNodeId)
    (inputs : StepInputs) (prepared : PreparedRuntimeCondition) (timer : AutomationTimer) :
    StepOutcome :=
  let left := prepared.resetTimers ++ prepared.activeTimers.map cancelTimer
  if prepared.value then
    let next := { leaveNode run nodeId inputs with state := .running, nodeId := following }
    .ok (.advanced, some (stepWrite run next inputs (some nodeId) .condition
      [("result", .boolean true)] [] (left ++ [{ timer with state := .cancelled }])))
  else if timer.state ≠ .ready then
    if prepared.resetTimers.isEmpty ∧ prepared.durations = run.conditionDurations then
      .ok (.waiting, none)
    else
      let next := { checkpoint run inputs.clock.checkpoint with
        conditionDurations := prepared.durations }
      .ok (.waiting, some (stepWrite run next inputs (some nodeId) .condition
        [("result", .boolean false)] [] prepared.resetTimers))
  else
    let failed := applyFailure (leaveNode run nodeId inputs) onTimeout following
    .ok (failed.2, some (stepWrite run failed.1 inputs (some nodeId) .timer
      [("event", .string "wait_timeout")] [] (left ++ [{ timer with state := .consumed }])))

def stepWait (host : EvaluatorHost) (run : AutomationRun) (nodeId : AutomationPlanNodeId)
    (condition : ResolvedAutomationCondition) (timeoutMs : ℕ)
    (onTimeout : AutomationPlanFailurePolicy) (following : Option AutomationPlanNodeId)
    (inputs : StepInputs) : StepOutcome :=
  if run.state = .running then
    match addMillis inputs.clock.evaluation timeoutMs with
    | none => .error .durationOverflow
    | some readyAt =>
      let next := { checkpoint run inputs.clock.checkpoint with state := .waiting }
      .ok (.waiting, some (stepWrite run next inputs (some nodeId) .timer
        [("event", .string "wait_started")] [newTimer run nodeId .waitTimeout readyAt] []))
  else match evaluateRuntimeCondition host run nodeId condition inputs with
    | .error error => .error error
    | .ok (.waiting write) => .ok (.waiting, write)
    | .ok (.resolved prepared) =>
      match inputs.recoverableTimers with
      | none => .error .repository
      | some timers =>
        match nodeTimer run nodeId .waitTimeout timers with
        | none => .error .invalidPlan
        | some timer => settleWait run nodeId onTimeout following inputs prepared timer

end HomeMagic
