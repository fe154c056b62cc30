import HomeMagic.AutomationDomain

/-! Normalized execution plans. Node identities are plain numbers: the compiler
numbers nodes by position, and a budget that passes validation keeps them far
below `u32::MAX`. -/
namespace HomeMagic

abbrev AutomationPlanNodeId := ℕ

structure ResolvedAutomationTarget where
  deviceId : DeviceId
  endpointId : EndpointId
  capability : String
  deriving DecidableEq

inductive ResolvedAutomationExpression
  | literal (value : AutomationValue)
  | variable (name : String)
  | observation (targets : List ResolvedAutomationTarget) (field : String)
  deriving DecidableEq

inductive ResolvedAutomationCondition
  | literal (value : Bool)
  | compare (left : ResolvedAutomationExpression) (operator : AutomationComparison)
      (right : ResolvedAutomationExpression)
  | all (conditions : List ResolvedAutomationCondition)
  | any (conditions : List ResolvedAutomationCondition)
  | not (condition : ResolvedAutomationCondition)
  | timeWindow (timezone start stop : String)
  | stateDuration (condition : ResolvedAutomationCondition) (durationMs : ℕ)

namespace ResolvedAutomationCondition

mutual
def beq : ResolvedAutomationCondition → ResolvedAutomationCondition → Bool
  | literal a, literal b => a == b
  | compare l o r, compare l' o' r' => l == l' && o == o' && r == r'
  | all xs, all ys => beqList xs ys
  | any xs, any ys => beqList xs ys
  | not c, not d => beq c d
  | timeWindow z a b, timeWindow z' a' b' => z == z' && a == a' && b == b'
  | stateDuration c m, stateDuration d n => beq c d && m == n
  | _, _ => false

def beqList : List ResolvedAutomationCondition → List ResolvedAutomationCondition → Bool
  | [], [] => true
  | x :: xs, y :: ys => beq x y && beqList xs ys
  | _, _ => false
end

mutual
theorem beq_iff (c d : ResolvedAutomationCondition) : beq c d = true ↔ c = d := by
  cases c <;> cases d <;> simp only [beq, reduceCtorEq, Bool.false_eq_true, Bool.and_eq_true,
    beq_iff_eq, literal.injEq, compare.injEq, all.injEq, any.injEq, not.injEq,
    timeWindow.injEq, stateDuration.injEq, and_assoc]
  case all.all xs ys => exact beqList_iff xs ys
  case any.any xs ys => exact beqList_iff xs ys
  case not.not c d => exact beq_iff c d
  case stateDuration.stateDuration c m d n => rw [beq_iff c d]

theorem beqList_iff (xs ys : List ResolvedAutomationCondition) :
    beqList xs ys = true ↔ xs = ys := by
  cases xs <;> cases ys <;> simp only [beqList, reduceCtorEq, Bool.false_eq_true,
    Bool.and_eq_true, List.cons.injEq]
  case cons.cons x xs y ys => rw [beq_iff x y, beqList_iff xs ys]
end

instance : DecidableEq ResolvedAutomationCondition :=
  fun c d => decidable_of_iff _ (beq_iff c d)

end ResolvedAutomationCondition

inductive ResolvedAutomationTrigger
  | observationChanged (targets : List ResolvedAutomationTarget) (field : Option String)
  | deviceEvent (targets : List ResolvedAutomationTarget) (event : String)
  | schedule (schedule : AutomationSchedule)
  | commandOutcome (targets : Option (List ResolvedAutomationTarget)) (states : List CommandState)
  deriving DecidableEq

inductive AutomationPlanFailurePolicy
  | stopRun
  | stopBranch
  | «continue»
  | fallback (entry : Option AutomationPlanNodeId)
  deriving DecidableEq

structure CommandNode where
  targets : List ResolvedAutomationTarget
  payload : CommandPayload
  reductionSegment : ℕ
  retry : AutomationRetryPolicy
  onFailure : AutomationPlanFailurePolicy
  next : Option AutomationPlanNodeId
  deriving DecidableEq

inductive AutomationRunContinuationKind
  | parallel | race
  deriving DecidableEq

/-- One node operation. `Parallel` and `Race` carry the same fields, so both are
`group` with the completion rule the runtime records for them. -/
inductive AutomationPlanNodeKind
  | command (node : CommandNode)
  | delay (durationMs : ℕ) (next : Option AutomationPlanNodeId)
  | wait (condition : ResolvedAutomationCondition) (timeoutMs : ℕ)
      (onTimeout : AutomationPlanFailurePolicy) (next : Option AutomationPlanNodeId)
  | setVariable (name : String) (value : ResolvedAutomationExpression)
      (next : Option AutomationPlanNodeId)
  | branch (condition : ResolvedAutomationCondition)
      (thenNode elseNode join : Option AutomationPlanNodeId)
  | group (kind : AutomationRunContinuationKind) (branches : List AutomationPlanNodeId)
      (maximumParallel : ℕ) (join : Option AutomationPlanNodeId)
  | join (next : Option AutomationPlanNodeId)
  | complete
  deriving DecidableEq

structure AutomationPlanNode where
  id : AutomationPlanNodeId
  order : ℕ
  kind : AutomationPlanNodeKind
  deriving DecidableEq

inductive AutomationSafetyProfile
  | comfort | comfortMotion | accessControl | flowControl | security
  deriving DecidableEq

inductive AutomationSafetyRequirement
  | freshState | calibration | stopSupport | position | presence | explicitApproval
  deriving DecidableEq

inductive AutomationApprovalRequirement
  | activationGrant | explicitUserApproval
  deriving DecidableEq

structure AutomationExecutionPlan where
  automationId : AutomationId
  automationVersion : ℕ
  documentHash : String
  planHash : String
  registryRevision : ℕ
  vars : List (String × AutomationVariableDefinition)
  triggers : List ResolvedAutomationTrigger
  condition : Option ResolvedAutomationCondition
  runMode : AutomationRunMode
  selfTrigger : AutomationSelfTriggerPolicy
  entry : AutomationPlanNodeId
  nodes : List AutomationPlanNode
  safetyProfiles : List AutomationSafetyProfile
  safetyRequirements : List AutomationSafetyRequirement
  approval : AutomationApprovalRequirement
  budget : AutomationResourceBudget
  deriving DecidableEq

def AutomationExecutionPlan.find (plan : AutomationExecutionPlan) (nodeId : AutomationPlanNodeId) :
    Option AutomationPlanNodeKind :=
  (plan.nodes.find? (fun node => node.id == nodeId)).map AutomationPlanNode.kind

namespace AutomationPlanFailurePolicy

def references : AutomationPlanFailurePolicy → List AutomationPlanNodeId
  | fallback entry => entry.toList
  | _ => []

end AutomationPlanFailurePolicy

namespace AutomationPlanNodeKind

def references : AutomationPlanNodeKind → List AutomationPlanNodeId
  | command node => node.onFailure.references ++ node.next.toList
  | delay _ next => next.toList
  | wait _ _ onTimeout next => onTimeout.references ++ next.toList
  | setVariable _ _ next => next.toList
  | branch _ thenNode elseNode joinNode => thenNode.toList ++ elseNode.toList ++ joinNode.toList
  | group _ branches _ joinNode => branches ++ joinNode.toList
  | join next => next.toList
  | complete => []

def isJoin : AutomationPlanNodeKind → Bool
  | join _ => true
  | _ => false

def isAction : AutomationPlanNodeKind → Bool
  | command _ | delay _ _ | wait _ _ _ _ | setVariable _ _ _ => true
  | _ => false

end AutomationPlanNodeKind
end HomeMagic
