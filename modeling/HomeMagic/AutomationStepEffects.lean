import HomeMagic.AutomationCommandStep

/-! Everything a committed step can write: the revised run, the timers it creates and the
timers it moves. Facts about single fields of a step follow from the cases here. -/
namespace HomeMagic

variable {commands : List CommandResult} {node : CommandNode} {attempt maximumRunDurationMs : ℕ}
  {following : Option AutomationPlanNodeId} {port : CommandPort} {request : RuntimeDurationRequest}
  {start : AutomationRun} {targetIndices : List ℕ}

def AutomationPlanNodeKind.condition? : AutomationPlanNodeKind → Option ResolvedAutomationCondition
  | branch condition _ _ _ | wait condition _ _ _ => some condition
  | _ => none

def checkpointCommands (run : AutomationRun) (now : Instant) (commands : List CommandResult)
    (appendCommandIds : Bool) : AutomationRun :=
  if appendCommandIds then
    { checkpoint run now with
      commandIds := (checkpoint run now).commandIds ++ commands.map CommandResult.id }
  else checkpoint run now

/-- The number, the targets and the results of an attempt: those of targets that a step has submitted, which are
new to the run, or of commands it waited for. -/
inductive AttemptResults (run : AutomationRun) (node : CommandNode) (inputs : StepInputs) :
    ℕ → List ℕ → List CommandResult → Bool → Prop
  | submitted {port : CommandPort} {attempt : ℕ} {targetIndices : List ℕ} {commands : List CommandResult}
      (hp : inputs.commands = some port) (hattempt : dispatchAttempt run node = .ok (attempt, targetIndices))
      (hexecuted : executeTargets port node.targets targetIndices = .ok commands) :
      AttemptResults run node inputs attempt targetIndices commands true
  | awaited {port : CommandPort} {attempt : AutomationCommandAttempt} {commands : List CommandResult}
      (hp : inputs.commands = some port) (hattempt : run.commandAttempt = some attempt)
      (hphase : attempt.phase = .awaitingOutcome)
      (hloaded : loadAttemptCommands port attempt.commandIds = .ok commands)
      (hterminal : ∀ command ∈ commands, command.state.isTerminal = true) :
      AttemptResults run node inputs attempt.attempt attempt.targetIndices commands false

inductive Answered (run : AutomationRun) (inputs : StepInputs) (command : CommandResult) : Prop
  | executed {port : CommandPort} {targetIndex : ℕ} (hp : inputs.commands = some port)
      (ha : ∀ attempt, run.commandAttempt = some attempt → attempt.phase = .dispatch)
      (he : port.execute targetIndex = some command)
  | loaded {port : CommandPort} {attempt : AutomationCommandAttempt} {id : CommandId}
      (hp : inputs.commands = some port) (ha : run.commandAttempt = some attempt)
      (hphase : attempt.phase = .awaitingOutcome) (hid : id ∈ attempt.commandIds)
      (hg : port.get id = some (some command))

theorem executeTargets_answers {targets : List ResolvedAutomationTarget} {indices : List ℕ}
    (h : executeTargets port targets indices = .ok commands) :
    ∀ command ∈ commands, ∃ targetIndex, port.execute targetIndex = some command := by
  induction indices generalizing commands with
  | nil =>
    cases h
    exact fun _ hmem => absurd hmem List.not_mem_nil
  | cons targetIndex rest ih =>
    rw [executeTargets] at h
    split at h
    · cases h
    split at h
    · cases h
    rename_i result hresult
    split at h
    · rename_i results hrest
      cases h
      intro command hmem
      rcases List.mem_cons.mp hmem with rfl | hmem
      · exact ⟨targetIndex, hresult⟩
      · exact ih hrest command hmem
    · cases h

theorem loadAttemptCommands_answers {ids : List CommandId} (h : loadAttemptCommands port ids = .ok commands) :
    ∀ command ∈ commands, ∃ id ∈ ids, port.get id = some (some command) := by
  induction ids generalizing commands with
  | nil =>
    cases h
    exact fun _ hmem => absurd hmem List.not_mem_nil
  | cons id rest ih =>
    rw [loadAttemptCommands] at h
    split at h
    · cases h
    · cases h
    rename_i result hresult
    split at h
    · rename_i results hrest
      cases h
      intro command hmem
      rcases List.mem_cons.mp hmem with rfl | hmem
      · exact ⟨id, List.mem_cons_self, hresult⟩
      · obtain ⟨other, hother, hget⟩ := ih hrest command hmem
        exact ⟨other, List.mem_cons_of_mem _ hother, hget⟩
    · cases h

theorem dispatchAttempt_fresh {attempt : ℕ} {targetIndices : List ℕ}
    (h : dispatchAttempt run node = .ok (attempt, targetIndices)) :
    (run.commandAttempt = none ∧ attempt = 0) ∨
      ∃ o, run.commandAttempt = some o ∧ o.phase = .dispatch ∧ o.attempt = attempt := by
  unfold dispatchAttempt at h
  split at h
  · rename_i o ho
    split at h
    · cases h
      exact .inr ⟨o, ho, ‹_›, rfl⟩
    · cases h
  · rename_i ho
    split at h
    · cases h
      exact .inl ⟨ho, rfl⟩
    · cases h

theorem AttemptResults.answered {attempt : ℕ} {targetIndices : List ℕ} {appendCommandIds : Bool}
    (h : AttemptResults run node inputs attempt targetIndices commands appendCommandIds) :
    ∀ command ∈ commands, Answered run inputs command := by
  intro command hmem
  cases h with
  | submitted hp hattempt hexecuted =>
    obtain ⟨_, hexecute⟩ := executeTargets_answers hexecuted command hmem
    refine .executed hp (fun other hother => ?_) hexecute
    rcases dispatchAttempt_fresh hattempt with ⟨hnone, _⟩ | ⟨o, ho, hphase, _⟩
    · rw [hnone] at hother
      cases hother
    · rw [ho] at hother
      cases hother
      exact hphase
  | awaited hp hattempt hphase hloaded _ =>
    obtain ⟨id, hid, hget⟩ := loadAttemptCommands_answers hloaded command hmem
    exact .loaded hp hattempt hphase hid hget

section
variable (host : EvaluatorHost) (run : AutomationRun) (n : AutomationPlanNodeId)
  (condition : ResolvedAutomationCondition) (inputs : StepInputs)

def keptDurations (invalid : List String) : List AutomationConditionDuration :=
  run.conditionDurations.filter (fun duration => !invalid.contains duration.conditionHash)

def cancelledTimers (timers : List AutomationTimer) (invalid : List String) : List AutomationTimer :=
  (timers.filter (fun timer => run.conditionDurations.any (fun duration =>
    duration.timerId == timer.id && invalid.contains duration.conditionHash))).map cancelTimer

def evaluated (snapshot : FoundationSnapshot) (timers : List AutomationTimer) :
    Except AutomationEvaluationError Bool × DurationState :=
  evaluateCondition host (runtimeContext host inputs.clock.evaluation snapshot run.id n
    run.conditionDurations timers) run.vars condition ⟨none, []⟩

structure HeldCondition (snapshot : FoundationSnapshot) (timers : List AutomationTimer)
    (request : RuntimeDurationRequest) (write : AutomationStepWrite) : Prop where
  reads : inputs.snapshot = some snapshot
  loads : durationTimers run n inputs = .ok timers
  error : (evaluated host run n condition inputs snapshot timers).1 = .error .durableDurationRequired
  asks : (evaluated host run n condition inputs snapshot timers).2.request = some request
  commit : commitDuration run n inputs
    (keptDurations run (evaluated host run n condition inputs snapshot timers).2.invalid)
    (cancelledTimers run timers (evaluated host run n condition inputs snapshot timers).2.invalid)
    request = .ok write

end

section
variable {host : EvaluatorHost} {run : AutomationRun} {n : AutomationPlanNodeId}
  {condition : ResolvedAutomationCondition} {inputs : StepInputs} {write : AutomationStepWrite}

theorem evaluateRuntimeCondition_held
    (h : evaluateRuntimeCondition host run n condition inputs = .ok (.waiting (some write))) :
    ∃ snapshot timers request, HeldCondition host run n condition inputs snapshot timers request
      write := by
  unfold evaluateRuntimeCondition at h
  split at h
  · cases h
  rename_i snapshot hsnapshot
  split at h
  · cases h
  rename_i timers htimers
  unfold settleCondition at h
  dsimp only at h
  split at h
  · cases h
  · rename_i herror
    split at h
    · cases h
    rename_i request hrequest
    split at h
    · cases h
    split at h
    · rename_i hcommit
      cases h
      exact ⟨snapshot, timers, request, hsnapshot, htimers, herror, hrequest, hcommit⟩
    · cases h
  · cases h

theorem evaluateRuntimeCondition_resolved {prepared : PreparedRuntimeCondition}
    (h : evaluateRuntimeCondition host run n condition inputs = .ok (.resolved prepared)) :
    ∃ timers invalid, durationTimers run n inputs = .ok timers ∧
      prepared.durations = keptDurations run invalid ∧
      prepared.resetTimers = cancelledTimers run timers invalid ∧
      prepared.activeTimers = timers.filter (fun timer =>
        !(cancelledTimers run timers invalid).any (fun reset => reset.id == timer.id)) := by
  unfold evaluateRuntimeCondition at h
  split at h
  · cases h
  split at h
  · cases h
  rename_i timers htimers
  unfold settleCondition at h
  dsimp only at h
  split at h
  · cases h
    exact ⟨timers, _, htimers, rfl, rfl, rfl⟩
  · split at h
    · cases h
    split at h
    · cases h
    split at h <;> cases h
  · cases h

inductive DurationCommit (durations : List AutomationConditionDuration)
    (cancelled : List AutomationTimer) : RuntimeDurationRequest → List AutomationConditionDuration →
      List AutomationTimer → List AutomationTimer → Prop
  | start (duration : AutomationConditionDuration) (timer : AutomationTimer) :
      DurationCommit durations cancelled (.start duration timer) (durations ++ [duration]) [timer]
        cancelled
  | pending : DurationCommit durations cancelled .pending durations [] cancelled
  | mature {hash : String} {timer : AutomationTimer} {matured : List AutomationConditionDuration}
      (h : matureDuration hash durations = some matured) :
      DurationCommit durations cancelled (.mature hash timer) matured []
        (cancelled ++ [{ timer with state := .consumed }])

theorem commitDuration_write {durations : List AutomationConditionDuration} {cancelled : List AutomationTimer}
    (h : commitDuration run n inputs durations cancelled request = .ok write) :
    ∃ details durations' created moved, write = stepWrite run { checkpoint run inputs.clock.checkpoint with
        state := .waiting, conditionDurations := durations' } inputs (some n) .timer details created moved ∧
      DurationCommit durations cancelled request durations' created moved := by
  unfold commitDuration at h
  dsimp only at h
  split at h
  · cases h
    exact ⟨_, _, _, _, rfl, .start _ _⟩
  · cases h
    exact ⟨_, _, _, _, rfl, .pending⟩
  · split at h
    · rename_i hmature
      cases h
      exact ⟨_, _, _, _, rfl, .mature hmature⟩
    · cases h

theorem HeldCondition.committed {snapshot : FoundationSnapshot} {timers : List AutomationTimer}
    (h : HeldCondition host run n condition inputs snapshot timers request write) :
    ∃ details durations created moved, write = stepWrite run { checkpoint run inputs.clock.checkpoint with
        state := .waiting, conditionDurations := durations } inputs (some n) .timer details created moved ∧
      DurationCommit
        (keptDurations run (evaluated host run n condition inputs snapshot timers).2.invalid)
        (cancelledTimers run timers (evaluated host run n condition inputs snapshot timers).2.invalid)
        request durations created moved :=
  commitDuration_write h.commit

end

section
variable (host : EvaluatorHost) (plan : AutomationExecutionPlan) (run : AutomationRun)
  (inputs : StepInputs)

inductive StepEffect : AutomationRun → List AutomationTimer → List AutomationTimer → Prop
  | started (hs : run.state = .pending) :
      StepEffect { checkpoint run inputs.clock.checkpoint with state := .running } [] []
  | completed {n : AutomationPlanNodeId} (hs : run.state = .running ∨ run.state = .waiting)
      (hn : run.nodeId = some n) (hk : plan.find n = some .complete) :
      StepEffect { checkpoint run inputs.clock.checkpoint with state := .completed, nodeId := none }
        [] []
  | delayed {n : AutomationPlanNodeId} {durationMs : ℕ} {following : Option AutomationPlanNodeId}
      {readyAt : Instant} (hs : run.state = .running) (hn : run.nodeId = some n)
      (hk : plan.find n = some (.delay durationMs following))
      (hr : addMillis inputs.clock.evaluation durationMs = some readyAt) :
      StepEffect { checkpoint run inputs.clock.checkpoint with state := .waiting }
        [newTimer run n .delay readyAt] []
  | resumed {n : AutomationPlanNodeId} {durationMs : ℕ} {following : Option AutomationPlanNodeId}
      {timers : List AutomationTimer} {timer : AutomationTimer} (hs : run.state = .waiting)
      (hn : run.nodeId = some n) (hk : plan.find n = some (.delay durationMs following))
      (ht : inputs.recoverableTimers = some timers) (hf : nodeTimer run n .delay timers = some timer)
      (hready : timer.state = .ready) :
      StepEffect { checkpoint run inputs.clock.checkpoint with state := .running, nodeId := following }
        [] [{ timer with state := .consumed }]
  | assigned {n : AutomationPlanNodeId} {name : String} {expression : ResolvedAutomationExpression}
      {following : Option AutomationPlanNodeId} {snapshot : FoundationSnapshot}
      {value : AutomationValue} (hs : run.state = .running ∨ run.state = .waiting)
      (hn : run.nodeId = some n) (hk : plan.find n = some (.setVariable name expression following))
      (hsnapshot : inputs.snapshot = some snapshot)
      (hv : evaluateExpression snapshot.observation run.vars expression = .ok value) :
      StepEffect { checkpoint run inputs.clock.checkpoint with
        vars := insertVariable name value run.vars, nodeId := following } [] []
  | held {n : AutomationPlanNodeId} {kind : AutomationPlanNodeKind}
      {condition : ResolvedAutomationCondition} {write : AutomationStepWrite}
      (hs : run.state = .running ∨ run.state = .waiting) (hn : run.nodeId = some n)
      (hk : plan.find n = some kind) (hc : kind.condition? = some condition)
      (hw : evaluateRuntimeCondition host run n condition inputs = .ok (.waiting (some write))) :
      StepEffect write.run write.createTimers write.transitionTimers
  | branched {n : AutomationPlanNodeId} {condition : ResolvedAutomationCondition}
      {thenNode elseNode join : Option AutomationPlanNodeId} {prepared : PreparedRuntimeCondition}
      (hs : run.state = .running ∨ run.state = .waiting) (hn : run.nodeId = some n)
      (hk : plan.find n = some (.branch condition thenNode elseNode join))
      (hp : evaluateRuntimeCondition host run n condition inputs = .ok (.resolved prepared)) :
      StepEffect { leaveNode run n inputs with
        state := .running, nodeId := (if prepared.value then thenNode else elseNode).or join } []
        (prepared.resetTimers ++ prepared.activeTimers.map cancelTimer)
  | joined {n : AutomationPlanNodeId} {following : Option AutomationPlanNodeId}
      (hs : run.state = .running ∨ run.state = .waiting) (hn : run.nodeId = some n)
      (hk : plan.find n = some (.join following)) :
      StepEffect (joinRun (checkpoint run inputs.clock.checkpoint) n following).1 [] []
  | entered {n first joinNodeId : AutomationPlanNodeId} {kind : AutomationRunContinuationKind}
      {remaining : List AutomationPlanNodeId} {maximumParallel : ℕ}
      (hs : run.state = .running ∨ run.state = .waiting) (hn : run.nodeId = some n)
      (hk : plan.find n = some (.group kind (first :: remaining) maximumParallel (some joinNodeId))) :
      StepEffect { checkpoint run inputs.clock.checkpoint with
        nodeId := some first
        continuations := ⟨n, kind, joinNodeId, remaining, false, maximumParallel⟩ ::
          run.continuations } [] []
  | waited {n : AutomationPlanNodeId} {condition : ResolvedAutomationCondition} {timeoutMs : ℕ}
      {onTimeout : AutomationPlanFailurePolicy} {following : Option AutomationPlanNodeId}
      {readyAt : Instant} (hs : run.state = .running) (hn : run.nodeId = some n)
      (hk : plan.find n = some (.wait condition timeoutMs onTimeout following))
      (hr : addMillis inputs.clock.evaluation timeoutMs = some readyAt) :
      StepEffect { checkpoint run inputs.clock.checkpoint with state := .waiting }
        [newTimer run n .waitTimeout readyAt] []
  | met {n : AutomationPlanNodeId} {condition : ResolvedAutomationCondition} {timeoutMs : ℕ}
      {onTimeout : AutomationPlanFailurePolicy} {following : Option AutomationPlanNodeId}
      {prepared : PreparedRuntimeCondition} {timers : List AutomationTimer} {timer : AutomationTimer}
      (hs : run.state = .waiting) (hn : run.nodeId = some n)
      (hk : plan.find n = some (.wait condition timeoutMs onTimeout following))
      (hp : evaluateRuntimeCondition host run n condition inputs = .ok (.resolved prepared))
      (ht : inputs.recoverableTimers = some timers)
      (hf : nodeTimer run n .waitTimeout timers = some timer) (hv : prepared.value = true) :
      StepEffect { leaveNode run n inputs with state := .running, nodeId := following } []
        (prepared.resetTimers ++ prepared.activeTimers.map cancelTimer ++
          [{ timer with state := .cancelled }])
  | reset {n : AutomationPlanNodeId} {condition : ResolvedAutomationCondition} {timeoutMs : ℕ}
      {onTimeout : AutomationPlanFailurePolicy} {following : Option AutomationPlanNodeId}
      {prepared : PreparedRuntimeCondition} (hs : run.state = .waiting) (hn : run.nodeId = some n)
      (hk : plan.find n = some (.wait condition timeoutMs onTimeout following))
      (hp : evaluateRuntimeCondition host run n condition inputs = .ok (.resolved prepared)) :
      StepEffect { checkpoint run inputs.clock.checkpoint with
        conditionDurations := prepared.durations } [] prepared.resetTimers
  | timedOut {n : AutomationPlanNodeId} {condition : ResolvedAutomationCondition} {timeoutMs : ℕ}
      {onTimeout : AutomationPlanFailurePolicy} {following : Option AutomationPlanNodeId}
      {prepared : PreparedRuntimeCondition} {timers : List AutomationTimer} {timer : AutomationTimer}
      (hs : run.state = .waiting) (hn : run.nodeId = some n)
      (hk : plan.find n = some (.wait condition timeoutMs onTimeout following))
      (hp : evaluateRuntimeCondition host run n condition inputs = .ok (.resolved prepared))
      (ht : inputs.recoverableTimers = some timers)
      (hf : nodeTimer run n .waitTimeout timers = some timer) (hready : timer.state = .ready) :
      StepEffect (applyFailure (leaveNode run n inputs) onTimeout following).1 []
        (prepared.resetTimers ++ prepared.activeTimers.map cancelTimer ++
          [{ timer with state := .consumed }])
  | settled {n : AutomationPlanNodeId} {node : CommandNode} {attempt : ℕ} {targetIndices : List ℕ}
      {commands : List CommandResult} {appendCommandIds : Bool} {next : AutomationRun}
      {outcome : AutomationRuntimeStep} {created : List AutomationTimer}
      (hs : run.state = .running ∨ run.state = .waiting) (hn : run.nodeId = some n)
      (hk : plan.find n = some (.command node))
      (ha : AttemptResults run node inputs attempt targetIndices commands appendCommandIds)
      (hr : commandResultRun run n node attempt targetIndices commands
        (checkpointCommands run inputs.clock.checkpoint commands appendCommandIds) =
          .ok (next, outcome, created)) :
      StepEffect next created []
  | retried {n : AutomationPlanNodeId} {node : CommandNode} {attempt : AutomationCommandAttempt}
      {readyAt : Instant} {timer : AutomationTimer}
      (hs : run.state = .running ∨ run.state = .waiting) (hn : run.nodeId = some n)
      (hk : plan.find n = some (.command node))
      (hnode : attempt.nodeId = n) (ha : run.commandAttempt = some attempt) (hphase : attempt.phase = .backoff)
      (hr : attempt.retryReadyAt = some readyAt)
      (ht : inputs.timer ⟨run.id, n, .commandRetry, timestampMillis readyAt⟩ = some (some timer))
      (hready : timer.state = .ready) :
      StepEffect { checkpoint run inputs.clock.checkpoint with
        state := .running
        commandAttempt := some { attempt with
          attempt := min (attempt.attempt + 1) (2^16 - 1)
          commandIds := []
          phase := .dispatch
          retryReadyAt := none } } [] [{ timer with state := .consumed }]

end

structure EffectOf (host : EvaluatorHost) (plan : AutomationExecutionPlan) (run : AutomationRun)
    (inputs : StepInputs) (write : AutomationStepWrite) : Prop where
  written : ∃ nodeId kind details, write =
    stepWrite run write.run inputs nodeId kind details write.createTimers write.transitionTimers
  effect : StepEffect host plan run inputs write.run write.createTimers write.transitionTimers

theorem EffectOf.revision {host : EvaluatorHost} {plan : AutomationExecutionPlan} {run : AutomationRun}
    {inputs : StepInputs} {write : AutomationStepWrite} (h : EffectOf host plan run inputs write) :
    write.expectedRunRevision = run.revision := by
  obtain ⟨_, _, _, hwritten⟩ := h.written
  rw [hwritten]
  rfl

variable {condition : ResolvedAutomationCondition} {n : AutomationPlanNodeId}

section
variable {host : EvaluatorHost} {plan : AutomationExecutionPlan} {run : AutomationRun}
  {inputs : StepInputs} {outcome : AutomationRuntimeStep} {write : AutomationStepWrite}

theorem evaluateRuntimeCondition_written
    (h : evaluateRuntimeCondition host run n condition inputs = .ok (.waiting (some write))) :
    ∃ nodeId kind details, write =
      stepWrite run write.run inputs nodeId kind details write.createTimers write.transitionTimers := by
  obtain ⟨_, _, _, hcommit⟩ := evaluateRuntimeCondition_held h
  obtain ⟨_, _, _, _, rfl, _⟩ := hcommit.committed
  exact ⟨_, _, _, rfl⟩

variable {n : AutomationPlanNodeId} (hs : run.state = .running ∨ run.state = .waiting)
  (hn : run.nodeId = some n)
include hs hn

theorem stepBranch_effect {thenNode elseNode join : Option AutomationPlanNodeId}
    (hk : plan.find n = some (.branch condition thenNode elseNode join))
    (h : stepBranch host run n condition thenNode elseNode join inputs = .ok (outcome, some write)) :
    EffectOf host plan run inputs write := by
  unfold stepBranch at h
  split at h
  · cases h
  · rename_i hwait
    cases h
    exact ⟨evaluateRuntimeCondition_written hwait, .held hs hn hk rfl hwait⟩
  · rename_i hprepared
    cases h
    exact ⟨⟨_, _, _, rfl⟩, .branched hs hn hk hprepared⟩

theorem stepDelay_effect {durationMs : ℕ} (hk : plan.find n = some (.delay durationMs following))
    (h : stepDelay run n durationMs following inputs = .ok (outcome, some write)) :
    EffectOf host plan run inputs write := by
  unfold stepDelay at h
  split at h
  · rename_i hrunning
    split at h
    · cases h
    · rename_i hready
      cases h
      exact ⟨⟨_, _, _, rfl⟩, .delayed hrunning hn hk hready⟩
  · rename_i hrunning
    split at h
    · cases h
    rename_i htimers
    split at h
    · cases h
    rename_i hfound
    split at h
    · cases h
    · rename_i hready
      cases h
      exact ⟨⟨_, _, _, rfl⟩, .resumed (hs.resolve_left hrunning) hn hk htimers hfound (not_not.mp hready)⟩

theorem stepWait_effect {timeoutMs : ℕ} {onTimeout : AutomationPlanFailurePolicy}
    (hk : plan.find n = some (.wait condition timeoutMs onTimeout following))
    (h : stepWait host run n condition timeoutMs onTimeout following inputs =
      .ok (outcome, some write)) :
    EffectOf host plan run inputs write := by
  unfold stepWait at h
  split at h
  · rename_i hrunning
    split at h
    · cases h
    · rename_i hready
      cases h
      exact ⟨⟨_, _, _, rfl⟩, .waited hrunning hn hk hready⟩
  rename_i hrunning
  have hwaiting := hs.resolve_left hrunning
  split at h
  · cases h
  · rename_i hwait
    cases h
    exact ⟨evaluateRuntimeCondition_written hwait, .held hs hn hk rfl hwait⟩
  rename_i prepared hprepared
  split at h
  · cases h
  rename_i htimers
  split at h
  · cases h
  rename_i hfound
  unfold settleWait at h
  dsimp only at h
  split at h
  · rename_i hvalue
    cases h
    exact ⟨⟨_, _, _, rfl⟩, .met hwaiting hn hk hprepared htimers hfound hvalue⟩
  split at h
  · split at h
    · cases h
    · cases h
      exact ⟨⟨_, _, _, rfl⟩, .reset hwaiting hn hk hprepared⟩
  · rename_i hready
    cases h
    exact ⟨⟨_, _, _, rfl⟩, .timedOut hwaiting hn hk hprepared htimers hfound (not_not.mp hready)⟩

theorem checkpointCommandResult_effect (hk : plan.find n = some (.command node)) {appendCommandIds : Bool}
    (ha : AttemptResults run node inputs attempt targetIndices commands appendCommandIds)
    (h : checkpointCommandResult run n node attempt targetIndices commands appendCommandIds inputs =
      .ok (outcome, some write)) :
    EffectOf host plan run inputs write := by
  unfold checkpointCommandResult at h
  split at h
  · cases h
  dsimp only at h
  split at h
  · cases h
  · rename_i hresult
    cases h
    exact ⟨⟨_, _, _, rfl⟩, .settled hs hn hk ha hresult⟩

theorem dispatchCommandAttempt_effect (hk : plan.find n = some (.command node))
    (h : dispatchCommandAttempt run n node maximumRunDurationMs inputs =
      .ok (outcome, some write)) :
    EffectOf host plan run inputs write := by
  unfold dispatchCommandAttempt at h
  split at h
  · cases h
  rename_i hattempt
  split at h
  · cases h
  split at h
  · cases h
  rename_i port hport
  split at h
  · cases h
  · cases h
  split at h
  · cases h
  split at h
  · cases h
  rename_i results hresults
  exact checkpointCommandResult_effect hs hn hk (.submitted hport hattempt hresults) h

theorem stepCommand_effect (hk : plan.find n = some (.command node))
    (h : stepCommand run n node maximumRunDurationMs inputs = .ok (outcome, some write)) :
    EffectOf host plan run inputs write := by
  unfold stepCommand at h
  split at h
  · rename_i attempt hattempt
    split at h
    · cases h
    rename_i hnode
    split at h
    · rename_i hphase
      unfold resumeCommandBackoff at h
      split at h
      · cases h
      rename_i hreadyAt
      split at h
      · cases h
      · cases h
      rename_i htimer
      split at h
      · cases h
      · rename_i hready
        cases h
        exact ⟨⟨_, _, _, rfl⟩, .retried hs hn hk (not_not.mp hnode) hattempt hphase hreadyAt htimer (not_not.mp hready)⟩
    · rename_i hphase
      unfold awaitCommandOutcome at h
      split at h
      · cases h
      rename_i port hport
      split at h
      · cases h
      split at h
      · cases h
      rename_i commands hcommands
      split at h
      · cases h
      rename_i hopen
      have hterminal : ∀ command ∈ commands, command.state.isTerminal = true := by
        simpa using hopen
      exact checkpointCommandResult_effect hs hn hk (.awaited hport hattempt hphase hcommands hterminal) h
    · exact dispatchCommandAttempt_effect hs hn hk h
  · exact dispatchCommandAttempt_effect hs hn hk h

omit hs hn in
/-- A committed step has one of the listed effects; this is by the kind of its node. -/
theorem stepRun_effect (h : stepRun host plan run inputs = .ok (outcome, some write)) :
    EffectOf host plan run inputs write := by
  unfold stepRun at h
  split at h
  · cases h
  rename_i hterminal
  split at h
  · cases h
  split at h
  · rename_i hpending
    cases h
    exact ⟨⟨_, _, _, rfl⟩, .started hpending⟩
  rename_i hpending
  split at h
  · cases h
  rename_i n hn
  split at h
  · cases h
  rename_i kind hk
  have hs : run.state = .running ∨ run.state = .waiting := by
    cases hstate : run.state <;> simp_all [AutomationRunState.isTerminal]
  cases kind with
  | complete =>
    cases h
    exact ⟨⟨_, _, _, rfl⟩, .completed hs hn hk⟩
  | delay durationMs next => exact stepDelay_effect hs hn hk h
  | setVariable name value next =>
    simp only [stepNode, stepSetVariable] at h
    split at h
    · cases h
    rename_i hsnapshot
    split at h
    · cases h
    · rename_i hvalue
      cases h
      exact ⟨⟨_, _, _, rfl⟩, .assigned hs hn hk hsnapshot hvalue⟩
  | branch condition thenNode elseNode join => exact stepBranch_effect hs hn hk h
  | join next =>
    cases h
    exact ⟨⟨_, _, _, rfl⟩, .joined hs hn hk⟩
  | command node => exact stepCommand_effect hs hn hk h
  | wait condition timeoutMs onTimeout next => exact stepWait_effect hs hn hk h
  | group kind branches maximumParallel join =>
    simp only [stepNode, enterGroup] at h
    split at h
    · cases h
      exact ⟨⟨_, _, _, rfl⟩, .entered hs hn hk⟩
    · cases h

end

structure Revised (run next : AutomationRun) : Prop where
  id : next.id = run.id
  automationId : next.automationId = run.automationId
  version : next.version = run.version
  occurrenceId : next.occurrenceId = run.occurrenceId
  actorId : next.actorId = run.actorId
  createdAt : next.createdAt = run.createdAt
  revision : next.revision = min (run.revision + 1) (2^64 - 1)

theorem checkpoint_revised (run : AutomationRun) (now : Instant) : Revised run (checkpoint run now) :=
  ⟨rfl, rfl, rfl, rfl, rfl, rfl, rfl⟩

section
variable {host : EvaluatorHost} {plan : AutomationExecutionPlan} {run next : AutomationRun}
  {inputs : StepInputs} {created moved : List AutomationTimer}

theorem applyFailure_kept (policy : AutomationPlanFailurePolicy) (following : Option AutomationPlanNodeId)
    (h : Revised run start) :
    Revised run (applyFailure start policy following).1 ∧
      (applyFailure start policy following).1.vars = start.vars := by
  unfold applyFailure
  split <;> exact ⟨⟨h.id, h.automationId, h.version, h.occurrenceId, h.actorId, h.createdAt,
    h.revision⟩, rfl⟩

theorem joinRun_kept (start : AutomationRun) (n : AutomationPlanNodeId)
    (following : Option AutomationPlanNodeId) (h : Revised run start) :
    Revised run (joinRun start n following).1 ∧ (joinRun start n following).1.vars = start.vars := by
  have hkept : ∀ next : AutomationRun, next.id = start.id → next.automationId = start.automationId →
      next.version = start.version → next.occurrenceId = start.occurrenceId →
      next.actorId = start.actorId → next.createdAt = start.createdAt →
      next.revision = start.revision → Revised run next := by
    intro next h1 h2 h3 h4 h5 h6 h7
    exact ⟨h1.trans h.id, h2.trans h.automationId, h3.trans h.version, h4.trans h.occurrenceId,
      h5.trans h.actorId, h6.trans h.createdAt, h7.trans h.revision⟩
  unfold joinRun
  split
  · split
    · split
      · exact ⟨hkept _ rfl rfl rfl rfl rfl rfl rfl, rfl⟩
      split
      · exact ⟨hkept _ rfl rfl rfl rfl rfl rfl rfl, rfl⟩
      · split <;> exact ⟨hkept _ rfl rfl rfl rfl rfl rfl rfl, rfl⟩
    · exact ⟨hkept _ rfl rfl rfl rfl rfl rfl rfl, rfl⟩
  · exact ⟨hkept _ rfl rfl rfl rfl rfl rfl rfl, rfl⟩

theorem checkpointCommands_kept (run : AutomationRun) (now : Instant) (commands : List CommandResult)
    (appendCommandIds : Bool) : Revised run (checkpointCommands run now commands appendCommandIds) ∧
      (checkpointCommands run now commands appendCommandIds).vars = run.vars := by
  unfold checkpointCommands
  split <;> exact ⟨⟨rfl, rfl, rfl, rfl, rfl, rfl, rfl⟩, rfl⟩

theorem commandResultRun_kept {outcome : AutomationRuntimeStep}
    (hstart : Revised run start) (h : commandResultRun run n node attempt targetIndices commands start =
      .ok (next, outcome, created)) :
    Revised run next ∧ next.vars = start.vars := by
  have hkept : ∀ state nodeId attempt, Revised run { start with
      state := state, nodeId := nodeId, commandAttempt := attempt } := by
    intro state nodeId attempt
    exact ⟨hstart.id, hstart.automationId, hstart.version, hstart.occurrenceId, hstart.actorId,
      hstart.createdAt, hstart.revision⟩
  unfold commandResultRun at h
  split at h
  · cases h
    exact ⟨hkept _ _ _, rfl⟩
  split at h
  · cases h
    exact ⟨hkept _ start.nodeId _, rfl⟩
  split at h
  · cases h
  · cases h
    exact ⟨hkept _ start.nodeId _, rfl⟩
  · cases h
    exact applyFailure_kept _ _ (hkept start.state start.nodeId none)

theorem evaluateRuntimeCondition_kept {write : AutomationStepWrite}
    (h : evaluateRuntimeCondition host run n condition inputs = .ok (.waiting (some write))) :
    Revised run write.run ∧ write.run.vars = run.vars := by
  obtain ⟨_, _, _, hcommit⟩ := evaluateRuntimeCondition_held h
  obtain ⟨_, _, _, _, rfl, _⟩ := hcommit.committed
  exact ⟨⟨rfl, rfl, rfl, rfl, rfl, rfl, rfl⟩, rfl⟩

theorem StepEffect.kept (h : StepEffect host plan run inputs next created moved) :
    Revised run next ∧ (next.vars = run.vars ∨ ∃ n name expression following snapshot value,
      run.nodeId = some n ∧ plan.find n = some (.setVariable name expression following) ∧
      inputs.snapshot = some snapshot ∧
      evaluateExpression snapshot.observation run.vars expression = .ok value ∧
      next.vars = insertVariable name value run.vars) := by
  cases h with
  | assigned hs hn hk hsnapshot hv =>
    exact ⟨⟨rfl, rfl, rfl, rfl, rfl, rfl, rfl⟩, .inr ⟨_, _, _, _, _, _, hn, hk, hsnapshot, hv, rfl⟩⟩
  | held hs hn hk hc hw =>
    obtain ⟨hrevised, hvars⟩ := evaluateRuntimeCondition_kept hw
    exact ⟨hrevised, .inl hvars⟩
  | joined hs hn hk =>
    obtain ⟨hrevised, hvars⟩ := joinRun_kept _ _ _ (checkpoint_revised run inputs.clock.checkpoint)
    exact ⟨hrevised, .inl hvars⟩
  | timedOut hs hn hk hp ht hf hready =>
    have hleft : ∀ n, Revised run (leaveNode run n inputs) :=
      fun _ => ⟨rfl, rfl, rfl, rfl, rfl, rfl, rfl⟩
    obtain ⟨hrevised, hvars⟩ := applyFailure_kept _ _ (hleft _)
    exact ⟨hrevised, .inl hvars⟩
  | settled hs hn hk ha hr =>
    obtain ⟨hstart, hvars⟩ := checkpointCommands_kept run inputs.clock.checkpoint _ _
    obtain ⟨hrevised, hsame⟩ := commandResultRun_kept hstart hr
    exact ⟨hrevised, .inl (hsame.trans hvars)⟩
  | _ => exact ⟨⟨rfl, rfl, rfl, rfl, rfl, rfl, rfl⟩, .inl rfl⟩

end
end HomeMagic
