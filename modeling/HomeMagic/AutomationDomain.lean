import Mathlib

/-! The automation contracts shared by the compiler, the simulator and the
runtime. Version 4 identifiers are natural numbers; instants are nanoseconds
since the Unix epoch. Ordered maps are association lists in key order. -/
namespace HomeMagic

abbrev DeviceId := ℕ
abbrev EndpointId := String
abbrev SpaceId := ℕ
abbrev ActorId := ℕ
abbrev AutomationId := ℕ
abbrev EventId := ℕ
abbrev CommandId := ℕ
abbrev Instant := ℤ

def maxAutomationDocumentBytes : ℕ := 256 * 1024
def maxAutomationPlanNodes : ℕ := 2048
def maxAutomationNestingDepth : ℕ := 32
def maxAutomationParallelWidth : ℕ := 32
def maxAutomationQueueLength : ℕ := 1024
def maxAutomationRetries : ℕ := 16
def maxAutomationTimerMillis : ℕ := 365 * 24 * 60 * 60 * 1000
def maxAutomationRunMillis : ℕ := 365 * 24 * 60 * 60 * 1000
def maxAutomationTraceSteps : ℕ := 100000

def nanosPerMilli : ℤ := 1000000

/-- The bounds of `DateTime<Utc>`, rounded to whole milliseconds. -/
def maxUtc : Instant := 8210266876799999 * nanosPerMilli + 999999
def minUtc : Instant := -8334601228800000 * nanosPerMilli

/-- `DateTime::checked_add_signed` of a millisecond count that has passed
`i64::try_from`. -/
def addMillis (at_ : Instant) (milliseconds : ℕ) : Option Instant :=
  if milliseconds < 2^63 ∧ at_ + milliseconds * nanosPerMilli ≤ maxUtc then
    some (at_ + milliseconds * nanosPerMilli)
  else none

def timestampMillis (at_ : Instant) : ℤ := at_ / nanosPerMilli

def isWhiteSpace (c : Char) : Bool :=
  (9 ≤ c.toNat && c.toNat ≤ 13) || c.toNat == 0x20 || c.toNat == 0x85 || c.toNat == 0xA0 ||
  c.toNat == 0x1680 || (0x2000 ≤ c.toNat && c.toNat ≤ 0x200A) || c.toNat == 0x2028 ||
  c.toNat == 0x2029 || c.toNat == 0x202F || c.toNat == 0x205F || c.toNat == 0x3000

def blankText (text : String) : Bool := text.toList.all isWhiteSpace

inductive CommandErrorCode
  | capabilityMismatch | valueOutOfRange | transitionTooLong | deadlineExceeded
  | staleObservation | unsupportedConstraint | idempotencyConflict | policyDenied
  | supersededBeforeDispatch | rateLimited | deviceBusy | adapterRejected
  | transportFailure | protectionActive | obstructionDetected | overtemperature
  | confirmationMismatch | indeterminateAfterRestart
  deriving DecidableEq

inductive CommandState
  | received | validated | rejected | dispatched | acknowledged | confirmed | failed
  | timedOut | cancelled
  deriving DecidableEq

namespace CommandState

def isTerminal : CommandState → Bool
  | rejected | confirmed | failed | timedOut | cancelled => true
  | _ => false

def allowsTransitionTo : CommandState → CommandState → Bool
  | received, validated | received, rejected | received, timedOut | received, cancelled => true
  | validated, dispatched | validated, rejected | validated, timedOut | validated, cancelled => true
  | dispatched, acknowledged | dispatched, confirmed | dispatched, failed | dispatched, timedOut => true
  | acknowledged, confirmed | acknowledged, failed | acknowledged, timedOut => true
  | _, _ => false

end CommandState

inductive OnOffCommand
  | set (on : Bool)
  | toggle
  deriving DecidableEq

structure LevelCommand where
  percent : ℕ
  transitionMs : Option ℕ
  deriving DecidableEq

inductive PositionCommand
  | open | close | stop
  | goTo (percent : ℕ)
  deriving DecidableEq

inductive AccessControlCommand
  | lock | unlock
  deriving DecidableEq

inductive CommandPayload
  | onOff (command : OnOffCommand)
  | level (command : LevelCommand)
  | position (command : PositionCommand)
  | accessControl (command : AccessControlCommand)
  deriving DecidableEq

namespace CommandPayload

def schema : CommandPayload → String
  | onOff _ => "on_off.v1"
  | level _ => "level.v1"
  | position _ => "position.v1"
  | accessControl _ => "access_control.v1"

def validate : CommandPayload → Except CommandErrorCode Unit
  | onOff _ | accessControl _ | position .open | position .close | position .stop => .ok ()
  | level command =>
    if command.percent > 100 then .error .valueOutOfRange
    else if (match command.transitionMs with | some value => decide (value > 3600000) | none => false) then
      .error .transitionTooLong
    else .ok ()
  | position (.goTo percent) => if percent > 100 then .error .valueOutOfRange else .ok ()

end CommandPayload

inductive AutomationDeviceReference
  | device (deviceId : DeviceId)
  | «alias» (name : String)
  | space (spaceId : SpaceId)
  deriving DecidableEq

structure AutomationTargetReference where
  device : AutomationDeviceReference
  endpointId : Option EndpointId
  capability : String
  deriving DecidableEq

inductive AutomationValueType
  | null | boolean | integer | decimal | string | timestamp | durationMillis
  deriving DecidableEq

inductive AutomationValue
  | null
  | boolean (value : Bool)
  | integer (value : ℤ)
  | decimal (value : String)
  | string (value : String)
  | timestamp (value : Instant)
  | durationMillis (value : ℕ)
  deriving DecidableEq

def AutomationValue.valueType : AutomationValue → AutomationValueType
  | null => .null
  | boolean _ => .boolean
  | integer _ => .integer
  | decimal _ => .decimal
  | string _ => .string
  | timestamp _ => .timestamp
  | durationMillis _ => .durationMillis

structure AutomationVariableDefinition where
  valueType : AutomationValueType
  initial : Option AutomationValue
  deriving DecidableEq

abbrev Variables := List (String × AutomationValue)

def insertVariable (name : String) (value : AutomationValue) : Variables → Variables
  | [] => [(name, value)]
  | (key, old) :: rest =>
    if key = name then (name, value) :: rest
    else if name < key then (name, value) :: (key, old) :: rest
    else (key, old) :: insertVariable name value rest

def initialVariables (definitions : List (String × AutomationVariableDefinition)) : Variables :=
  definitions.filterMap (fun entry => entry.2.initial.map (fun value => (entry.1, value)))

inductive AutomationExpression
  | literal (value : AutomationValue)
  | variable (name : String)
  | observation (target : AutomationTargetReference) (field : String)
  deriving DecidableEq

inductive AutomationComparison
  | equal | notEqual | lessThan | lessThanOrEqual | greaterThan | greaterThanOrEqual
  deriving DecidableEq

inductive AutomationCondition
  | literal (value : Bool)
  | compare (left : AutomationExpression) (operator : AutomationComparison)
      (right : AutomationExpression)
  | all (conditions : List AutomationCondition)
  | any (conditions : List AutomationCondition)
  | not (condition : AutomationCondition)
  | timeWindow (timezone start stop : String)
  | stateDuration (condition : AutomationCondition) (durationMs : ℕ)

structure AutomationSchedule where
  cron : String
  timezone : String
  occurrenceWindowMs : ℕ
  deriving DecidableEq

inductive AutomationTrigger
  | observationChanged (target : AutomationTargetReference) (field : Option String)
  | deviceEvent (target : AutomationTargetReference) (event : String)
  | schedule (schedule : AutomationSchedule)
  | commandOutcome (target : Option AutomationTargetReference) (states : List CommandState)
  deriving DecidableEq

structure AutomationRetryPolicy where
  maximumRetries : ℕ
  backoffMs : ℕ
  retryableCommandErrors : List CommandErrorCode
  deriving DecidableEq

mutual
inductive AutomationAction
  | command (target : AutomationTargetReference) (payload : CommandPayload)
      (retry : AutomationRetryPolicy) (onFailure : AutomationFailurePolicy)
  | delay (durationMs : ℕ)
  | wait (condition : AutomationCondition) (timeoutMs : ℕ) (onTimeout : AutomationFailurePolicy)
  | setVariable (name : String) (value : AutomationExpression)
  | sequence (actions : List AutomationAction)
  | «if» (condition : AutomationCondition) (thenActions elseActions : List AutomationAction)
  | parallel (branches : List (List AutomationAction)) (maximumParallel : ℕ)
  | race (branches : List (List AutomationAction)) (maximumParallel : ℕ)

inductive AutomationFailurePolicy
  | stopRun
  | stopBranch
  | «continue»
  | fallback (actions : List AutomationAction)
end

namespace AutomationCondition

mutual
def beq : AutomationCondition → AutomationCondition → Bool
  | literal a, literal b => a == b
  | compare l o r, compare l' o' r' => l == l' && o == o' && r == r'
  | all xs, all ys => beqList xs ys
  | any xs, any ys => beqList xs ys
  | not c, not d => beq c d
  | timeWindow z a b, timeWindow z' a' b' => z == z' && a == a' && b == b'
  | stateDuration c m, stateDuration d n => beq c d && m == n
  | _, _ => false

def beqList : List AutomationCondition → List AutomationCondition → Bool
  | [], [] => true
  | x :: xs, y :: ys => beq x y && beqList xs ys
  | _, _ => false
end

mutual
theorem beq_iff (c d : AutomationCondition) : beq c d = true ↔ c = d := by
  cases c <;> cases d <;> simp only [beq, reduceCtorEq, Bool.false_eq_true, Bool.and_eq_true,
    beq_iff_eq, literal.injEq, compare.injEq, all.injEq, any.injEq, not.injEq,
    timeWindow.injEq, stateDuration.injEq, and_assoc]
  case all.all xs ys => exact beqList_iff xs ys
  case any.any xs ys => exact beqList_iff xs ys
  case not.not c d => exact beq_iff c d
  case stateDuration.stateDuration c m d n => rw [beq_iff c d]

theorem beqList_iff (xs ys : List AutomationCondition) : beqList xs ys = true ↔ xs = ys := by
  cases xs <;> cases ys <;> simp only [beqList, reduceCtorEq, Bool.false_eq_true,
    Bool.and_eq_true, List.cons.injEq]
  case cons.cons x xs y ys => rw [beq_iff x y, beqList_iff xs ys]
end

instance : DecidableEq AutomationCondition := fun c d => decidable_of_iff _ (beq_iff c d)

end AutomationCondition

namespace AutomationAction

mutual
def beq : AutomationAction → AutomationAction → Bool
  | command t p r f, command t' p' r' f' => t == t' && p == p' && r == r' && beqPolicy f f'
  | delay d, delay d' => d == d'
  | wait c t f, wait c' t' f' => c == c' && t == t' && beqPolicy f f'
  | setVariable n v, setVariable n' v' => n == n' && v == v'
  | sequence as, sequence bs => beqActions as bs
  | «if» c as bs, «if» c' as' bs' => c == c' && beqActions as as' && beqActions bs bs'
  | parallel ls m, parallel ls' m' => beqBranches ls ls' && m == m'
  | race ls m, race ls' m' => beqBranches ls ls' && m == m'
  | _, _ => false

def beqPolicy : AutomationFailurePolicy → AutomationFailurePolicy → Bool
  | .stopRun, .stopRun => true
  | .stopBranch, .stopBranch => true
  | .continue, .continue => true
  | .fallback as, .fallback bs => beqActions as bs
  | _, _ => false

def beqActions : List AutomationAction → List AutomationAction → Bool
  | [], [] => true
  | a :: as, b :: bs => beq a b && beqActions as bs
  | _, _ => false

def beqBranches : List (List AutomationAction) → List (List AutomationAction) → Bool
  | [], [] => true
  | a :: as, b :: bs => beqActions a b && beqBranches as bs
  | _, _ => false
end

mutual
theorem beq_iff (a b : AutomationAction) : beq a b = true ↔ a = b := by
  cases a <;> cases b <;> simp only [beq, reduceCtorEq, Bool.false_eq_true, Bool.and_eq_true,
    beq_iff_eq, command.injEq, delay.injEq, wait.injEq, setVariable.injEq, sequence.injEq,
    if.injEq, parallel.injEq, race.injEq, and_assoc]
  case command.command => rw [beqPolicy_iff]
  case wait.wait => rw [beqPolicy_iff]
  case sequence.sequence => rw [beqActions_iff]
  case if.if => rw [beqActions_iff, beqActions_iff]
  case parallel.parallel => rw [beqBranches_iff]
  case race.race => rw [beqBranches_iff]

theorem beqPolicy_iff (f g : AutomationFailurePolicy) : beqPolicy f g = true ↔ f = g := by
  cases f <;> cases g <;> simp only [beqPolicy, reduceCtorEq, Bool.false_eq_true,
    AutomationFailurePolicy.fallback.injEq]
  case fallback.fallback => rw [beqActions_iff]

theorem beqActions_iff (as bs : List AutomationAction) : beqActions as bs = true ↔ as = bs := by
  cases as <;> cases bs <;> simp only [beqActions, reduceCtorEq, Bool.false_eq_true,
    Bool.and_eq_true, List.cons.injEq]
  case cons.cons => rw [beq_iff, beqActions_iff]

theorem beqBranches_iff (as bs : List (List AutomationAction)) :
    beqBranches as bs = true ↔ as = bs := by
  cases as <;> cases bs <;> simp only [beqBranches, reduceCtorEq, Bool.false_eq_true,
    Bool.and_eq_true, List.cons.injEq]
  case cons.cons => rw [beqActions_iff, beqBranches_iff]
end

instance : DecidableEq AutomationAction := fun a b => decidable_of_iff _ (beq_iff a b)

end AutomationAction

inductive AutomationRunMode
  | single
  | restart
  | queued (capacity : ℕ)
  | parallel (maximumParallel : ℕ)
  deriving DecidableEq

inductive AutomationSelfTriggerPolicy
  | suppressSameVersion | suppressSameCorrelation | allow
  deriving DecidableEq

structure AutomationResourceBudget where
  maximumNodes : ℕ
  maximumNestingDepth : ℕ
  maximumParallelWidth : ℕ
  maximumQueueLength : ℕ
  maximumTraceSteps : ℕ
  maximumRunDurationMs : ℕ
  deriving DecidableEq

inductive AutomationResourceBudgetError
  | maximumNodes | maximumNestingDepth | maximumParallelWidth | maximumQueueLength
  | maximumTraceSteps | maximumRunDuration
  deriving DecidableEq

def AutomationResourceBudget.validate (budget : AutomationResourceBudget) :
    Except AutomationResourceBudgetError Unit :=
  if budget.maximumNodes = 0 ∨ maxAutomationPlanNodes < budget.maximumNodes then
    .error .maximumNodes
  else if budget.maximumNestingDepth = 0 ∨ maxAutomationNestingDepth < budget.maximumNestingDepth then
    .error .maximumNestingDepth
  else if budget.maximumParallelWidth = 0 ∨
      maxAutomationParallelWidth < budget.maximumParallelWidth then
    .error .maximumParallelWidth
  else if budget.maximumQueueLength = 0 ∨ maxAutomationQueueLength < budget.maximumQueueLength then
    .error .maximumQueueLength
  else if budget.maximumTraceSteps = 0 ∨ maxAutomationTraceSteps < budget.maximumTraceSteps then
    .error .maximumTraceSteps
  else if budget.maximumRunDurationMs = 0 ∨ maxAutomationRunMillis < budget.maximumRunDurationMs then
    .error .maximumRunDuration
  else .ok ()

def AutomationResourceBudget.default : AutomationResourceBudget where
  maximumNodes := 512
  maximumNestingDepth := 16
  maximumParallelWidth := 8
  maximumQueueLength := 128
  maximumTraceSteps := 10000
  maximumRunDurationMs := 7 * 24 * 60 * 60 * 1000

structure AutomationProvenance where
  authorId : ActorId
  agentId : Option String
  sourceRequest : String
  rationale : String
  deriving DecidableEq

structure AutomationDocument where
  id : AutomationId
  version : ℕ
  name : String
  provenance : AutomationProvenance
  vars : List (String × AutomationVariableDefinition)
  triggers : List AutomationTrigger
  condition : Option AutomationCondition
  actions : List AutomationAction
  runMode : AutomationRunMode
  selfTrigger : AutomationSelfTriggerPolicy
  budget : AutomationResourceBudget
  createdAt : Instant
  deriving DecidableEq

end HomeMagic
