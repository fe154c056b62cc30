import HomeMagic.AutomationRun
import HomeMagic.FoundationDomain

/-! Shared expression and condition evaluation. A host evaluates time windows
(chrono-tz), orders decimals (`f64` parsing and `partial_cmp`) and hashes
conditions; the context trait is a record over an explicit context state. -/
namespace HomeMagic

inductive AutomationEvaluationError
  | missingValue (what : String)
  | typeMismatch
  | invalidTimeWindow
  | durableDurationRequired
  | conditionHash
  | durationOverflow
  | durationTimerMissing
  deriving DecidableEq

structure EvaluatorHost where
  timeWindow : Instant → String → String → String → Except AutomationEvaluationError Bool
  decimalOrdering : String → String → Option Ordering
  conditionHash : ResolvedAutomationCondition → ℕ → Option String

def AutomationComparison.holds : AutomationComparison → Ordering → Bool
  | equal, ordering => ordering == .eq
  | notEqual, ordering => ordering != .eq
  | lessThan, ordering => ordering == .lt
  | lessThanOrEqual, ordering => ordering != .gt
  | greaterThan, ordering => ordering == .gt
  | greaterThanOrEqual, ordering => ordering != .lt

def compareValues (host : EvaluatorHost) (left : AutomationValue) (operator : AutomationComparison)
    (right : AutomationValue) : Except AutomationEvaluationError Bool :=
  match left, right with
  | .null, .null => .ok (operator.holds .eq)
  | .boolean left, .boolean right => .ok (operator.holds (compare left right))
  | .integer left, .integer right => .ok (operator.holds (compare left right))
  | .decimal left, .decimal right =>
    match host.decimalOrdering left right with
    | some ordering => .ok (operator.holds ordering)
    | none => .error .typeMismatch
  | .string left, .string right => .ok (operator.holds (compare left right))
  | .timestamp left, .timestamp right => .ok (operator.holds (compare left right))
  | .durationMillis left, .durationMillis right => .ok (operator.holds (compare left right))
  | _, _ => .error .typeMismatch

/-- `AutomationEvaluationContext` over a context state `σ`. `stateDuration` gets
the evaluator of its nested condition. -/
structure EvaluationContext (σ : Type) where
  now : σ → Instant
  observation : σ → ResolvedAutomationTarget → String → Option AutomationValue
  stateDuration : (σ → Except AutomationEvaluationError Bool × σ) → ResolvedAutomationCondition →
    ℕ → σ → Except AutomationEvaluationError Bool × σ

def evaluateExpression (observation : ResolvedAutomationTarget → String → Option AutomationValue)
    (vars : Variables) : ResolvedAutomationExpression →
      Except AutomationEvaluationError AutomationValue
  | .literal value => .ok value
  | .variable name =>
    match vars.lookup name with
    | some value => .ok value
    | none => .error (.missingValue "variable")
  | .observation targets field =>
    match targets.head? with
    | none => .error (.missingValue "observation target")
    | some target =>
      match observation target field with
      | some value => .ok value
      | none => .error (.missingValue "observation")

section Condition
variable {σ : Type} (host : EvaluatorHost) (context : EvaluationContext σ) (vars : Variables)

mutual
def evaluateCondition : ResolvedAutomationCondition → σ →
    Except AutomationEvaluationError Bool × σ
  | .literal value, s => (.ok value, s)
  | .compare left operator right, s =>
    (do
      let left ← evaluateExpression (context.observation s) vars left
      let right ← evaluateExpression (context.observation s) vars right
      compareValues host left operator right, s)
  | .all conditions, s => evaluateAll conditions s
  | .any conditions, s => evaluateAny conditions s
  | .not condition, s =>
    let inner := evaluateCondition condition s
    (inner.1.map (fun value => !value), inner.2)
  | .timeWindow timezone start stop, s => (host.timeWindow (context.now s) timezone start stop, s)
  | .stateDuration condition durationMs, s =>
    context.stateDuration (evaluateCondition condition) condition durationMs s

def evaluateAll : List ResolvedAutomationCondition → σ → Except AutomationEvaluationError Bool × σ
  | [], s => (.ok true, s)
  | condition :: rest, s =>
    let head := evaluateCondition condition s
    match head.1 with
    | .ok true => evaluateAll rest head.2
    | .ok false => (.ok false, head.2)
    | .error error => (.error error, head.2)

def evaluateAny : List ResolvedAutomationCondition → σ → Except AutomationEvaluationError Bool × σ
  | [], s => (.ok false, s)
  | condition :: rest, s =>
    let head := evaluateCondition condition s
    match head.1 with
    | .ok true => (.ok true, head.2)
    | .ok false => evaluateAny rest head.2
    | .error error => (.error error, head.2)
end

end Condition

def jsonValue : JsonValue → Option AutomationValue
  | .null => some .null
  | .bool value => some (.boolean value)
  | .integer value => some (.integer value)
  | .number text => some (.decimal text)
  | .string value => some (.string value)
  | .array _ | .object _ => none

def FoundationSnapshot.observation (snapshot : FoundationSnapshot)
    (target : ResolvedAutomationTarget) (field : String) : Option AutomationValue :=
  (snapshot.observations.find? (fun observation =>
    observation.deviceId == target.deviceId && observation.endpointId == target.endpointId &&
      observation.capability.schema == target.capability)).bind (fun observation =>
    (observation.values.lookup field).bind (fun observed => jsonValue observed.value))

end HomeMagic
