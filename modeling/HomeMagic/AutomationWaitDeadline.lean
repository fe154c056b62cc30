import HomeMagic.AutomationRunMoves
import HomeMagic.AutomationSimulator

/-! The deadline of a wait node, in the runtime and in the simulator. -/
namespace HomeMagic

def conditionValue (host : EvaluatorHost) (run : AutomationRun) (nodeId : AutomationPlanNodeId)
    (condition : ResolvedAutomationCondition) (inputs : StepInputs) :
    Option (Except AutomationEvaluationError Bool) :=
  match inputs.snapshot, durationTimers run nodeId inputs with
  | some snapshot, .ok timers =>
    some (evaluateCondition host (runtimeContext host inputs.clock.evaluation snapshot run.id nodeId
      run.conditionDurations timers) run.vars condition ⟨none, []⟩).1
  | _, _ => none

def NotTrue (value : Option (Except AutomationEvaluationError Bool)) : Prop :=
  value = some (.ok false) ∨ value = some (.error .durableDurationRequired)

structure WaitVisit (plan : AutomationExecutionPlan) where
  nodeId : AutomationPlanNodeId
  condition : ResolvedAutomationCondition
  timeoutMs : ℕ
  onTimeout : AutomationPlanFailurePolicy
  following : Option AutomationPlanNodeId
  found : plan.find nodeId = some (.wait condition timeoutMs onTimeout following)
  run : AutomationRun
  running : run.state = .running
  atNode : run.nodeId = some nodeId
  start : StepInputs
  deadline : Instant
  deadline_eq : addMillis start.clock.evaluation timeoutMs = some deadline
  later : List StepInputs

def waitSteps (host : EvaluatorHost) (plan : AutomationExecutionPlan) (run : AutomationRun) :
    List StepInputs → List (AutomationRun × StepInputs)
  | [] => []
  | inputs :: rest => (run, inputs) ::
    match stepRun host plan run inputs with
    | .ok (.waiting, some write) => waitSteps host plan write.run rest
    | .ok (.waiting, none) | .error _ => waitSteps host plan run rest
    | .ok _ => []

namespace WaitVisit
variable {plan : AutomationExecutionPlan}

def steps (host : EvaluatorHost) (visit : WaitVisit plan) : List (AutomationRun × StepInputs) :=
  match stepRun host plan visit.run visit.start with
  | .ok (_, some write) => waitSteps host plan write.run visit.later
  | _ => []

def value (host : EvaluatorHost) (visit : WaitVisit plan) (run : AutomationRun) (inputs : StepInputs) :
    Option (Except AutomationEvaluationError Bool) :=
  conditionValue host run visit.nodeId visit.condition inputs

def LeavesSatisfied (outcome : StepOutcome) : Prop :=
  ∃ write, outcome = .ok (.advanced, some write) ∧
    write.trace.map (fun entry => (entry.kind, entry.details)) = [(.condition, [("result", .boolean true)])]

def TimesOut (visit : WaitVisit plan) (run : AutomationRun) (inputs : StepInputs) (outcome : StepOutcome) : Prop :=
  ∃ write, outcome =
      .ok ((applyFailure (leaveNode run visit.nodeId inputs) visit.onTimeout visit.following).2, some write) ∧
    write.run = (applyFailure (leaveNode run visit.nodeId inputs) visit.onTimeout visit.following).1

structure Obeys (host : EvaluatorHost) (visit : WaitVisit plan) (run : AutomationRun) (inputs : StepInputs) : Prop where
  satisfied : LeavesSatisfied (stepRun host plan run inputs) →
    visit.value host run inputs = some (.ok true) ∧ inputs.clock.evaluation ≤ visit.deadline
  timeout : visit.deadline ≤ inputs.clock.evaluation → NotTrue (visit.value host run inputs) →
    visit.TimesOut run inputs (stepRun host plan run inputs)

end WaitVisit

section Step
variable {host : EvaluatorHost} {run : AutomationRun} {nodeId : AutomationPlanNodeId}
  {condition : ResolvedAutomationCondition} {inputs : StepInputs}

end Step

namespace WaitVisit
variable {plan : AutomationExecutionPlan} {host : EvaluatorHost} {run : AutomationRun} {inputs : StepInputs}
  (visit : WaitVisit plan)
variable {error : AutomationRuntimeError} {write : Option AutomationStepWrite}

end WaitVisit

namespace StepInterpreter

def simulatedWait (host : EvaluatorHost) (condition : ResolvedAutomationCondition) (deadline : Instant)
    (i : StepInterpreter) : Except AutomationSimulationError (Bool × StepInterpreter) := do
  let (satisfied, i) ← evaluate host i condition
  if satisfied then .ok (true, i) else awaitCondition host condition deadline i.ports.changes.length i

section Simulator
variable {host : EvaluatorHost} {condition : ResolvedAutomationCondition} {deadline : Instant}

end Simulator

structure WaitVisit (fixture : AutomationSimulationFixture) where
  nodeId : AutomationPlanNodeId
  condition : ResolvedAutomationCondition
  timeoutMs : ℕ
  onTimeout : AutomationPlanFailurePolicy
  following : Option AutomationPlanNodeId
  found : fixture.plan.find nodeId = some (.wait condition timeoutMs onTimeout following)
  stopBefore : Option AutomationPlanNodeId
  entered : some nodeId ≠ stopBefore
  fuel : ℕ
  interpreter : StepInterpreter

namespace WaitVisit
variable {fixture : AutomationSimulationFixture}

def Starts (visit : WaitVisit fixture) (i : StepInterpreter) (deadline : Instant) : Prop :=
  consumeBudget fixture visit.interpreter = .ok i ∧ simulatedAfter i.ports.now visit.timeoutMs = .ok deadline

def satisfiedPath (host : EvaluatorHost) (visit : WaitVisit fixture) (i : StepInterpreter) :
    Except AutomationSimulationError (Flow × StepInterpreter) := do
  let i ← i.record fixture .condition (some visit.nodeId) [("result", .boolean true)]
  visit.following.elim (.ok (.completed, i))
    (fun next => executeFrom host fixture visit.fuel next visit.stopBefore i)

def timeoutPath (host : EvaluatorHost) (visit : WaitVisit fixture) (deadline : Instant) (i : StepInterpreter) :
    Except AutomationSimulationError (Flow × StepInterpreter) := do
  let i ← record fixture { i with ports := i.ports.advanceTo deadline } .timer (some visit.nodeId)
    [("event", .string "wait_timeout")]
  StepInterpreter.applyFailure (fun next i => executeFrom host fixture visit.fuel next none i) visit.onTimeout
    visit.following i

/-- What is promised of a wait in virtual time: it goes on by the satisfied path where the condition came
true, not after the deadline, and by the failure policy at the deadline otherwise. -/
structure Obeys (host : EvaluatorHost) (visit : WaitVisit fixture) : Prop where
  satisfied : ∀ i deadline i', visit.Starts i deadline →
    simulatedWait host visit.condition deadline i = .ok (true, i') →
    executeFrom host fixture (visit.fuel + 1) visit.nodeId visit.stopBefore visit.interpreter =
      visit.satisfiedPath host i' ∧ i'.ports.now ≤ deadline
  timeout : ∀ i deadline i', visit.Starts i deadline →
    simulatedWait host visit.condition deadline i = .ok (false, i') →
    executeFrom host fixture (visit.fuel + 1) visit.nodeId visit.stopBefore visit.interpreter =
      visit.timeoutPath host deadline i'

end WaitVisit

end StepInterpreter

end HomeMagic
