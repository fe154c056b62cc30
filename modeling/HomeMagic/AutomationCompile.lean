import HomeMagic.AutomationPlanCompiler

/-! The whole compilation: structure, triggers, guard, actions, budget. -/
namespace HomeMagic

def validateVariables (c : Compiler) :
    List (String × AutomationVariableDefinition) → Compiler
  | [] => c
  | (name, definition) :: rest =>
    let path := s!"/variables/{pointerSegment name}"
    let c := if blankText name then c.required path "variable name must not be empty" else c
    let c := match definition.initial with
      | some initial =>
        let c := c.validateValue initial s!"{path}/initial"
        if initial.valueType ≠ definition.valueType then
          c.typeMismatch s!"{path}/initial"
            "initial value does not match the declared variable type"
        else c
      | none => c
    validateVariables c rest

def validateBytes (e : CompilerEnv) (c : Compiler) : Compiler :=
  match e.host.documentBytes e.document with
  | .ok bytes => if maxAutomationDocumentBytes < bytes then
      c.finding .documentTooLarge "" "serialized automation document exceeds the hard byte limit"
        (some "Reduce document size") none else c
  | .error message => c.finding .requiredValueMissing ""
      "automation document cannot be serialized" none (some message)

def validatePresence (e : CompilerEnv) (c : Compiler) : Compiler :=
  let c := if blankText e.document.name then
    c.required "/name" "automation name must not be empty" else c
  let c := if blankText e.document.provenance.sourceRequest then
    c.required "/provenance/source_request" "source request must not be empty" else c
  let c := if blankText e.document.provenance.rationale then
    c.required "/provenance/rationale" "rationale must not be empty" else c
  let c := if e.document.triggers.isEmpty then
    c.required "/triggers" "at least one trigger is required" else c
  if e.document.actions.isEmpty then
    c.required "/actions" "at least one action is required" else c

def validateBudget (e : CompilerEnv) (c : Compiler) : Compiler :=
  match e.document.budget.validate with
  | .error error => c.finding .resourceBoundExceeded s!"/budget/{budgetField error}"
      "declared budget is zero or exceeds the engine limit"
      (some "Choose a positive value within the documented engine bound") none
  | .ok () => c

def validateRunMode (e : CompilerEnv) (c : Compiler) : Compiler :=
  match e.document.runMode with
  | .queued capacity => if capacity = 0 ∨ e.document.budget.maximumQueueLength < capacity then
      c.bound "/run_mode/capacity" "queue capacity exceeds its declared budget" else c
  | .parallel maximumParallel =>
    if maximumParallel = 0 ∨ e.document.budget.maximumParallelWidth < maximumParallel then
      c.bound "/run_mode/maximum_parallel" "parallel run capacity exceeds its declared budget"
    else c
  | _ => c

def validateStructure (e : CompilerEnv) (c : Compiler) : Compiler :=
  validateVariables (validateRunMode e (validateBudget e (validatePresence e (validateBytes e c))))
    e.document.vars

def compileTrigger (e : CompilerEnv) (trigger : AutomationTrigger) (path : String) (c : Compiler) :
    Option ResolvedAutomationTrigger × Compiler :=
  match trigger with
  | .observationChanged target field =>
    let targets := resolveTarget e target s!"{path}/target" c
    let c := match field with
      | some field => (targets.2.validateObservationField target.capability field s!"{path}/field").2
      | none => targets.2
    (targets.1.map (fun resolved => .observationChanged resolved field), c)
  | .deviceEvent target event =>
    let c := if blankText event then
      c.required s!"{path}/event" "event name must not be empty" else c
    let targets := resolveTarget e target s!"{path}/target" c
    (targets.1.map (fun resolved => .deviceEvent resolved event), targets.2)
  | .schedule schedule =>
    (some (.schedule schedule), Compiler.validateSchedule e c schedule s!"{path}/schedule")
  | .commandOutcome target states =>
    let c := if states.isEmpty then
      c.required s!"{path}/states" "at least one state is required" else c
    match target with
    | none => (some (.commandOutcome none states), c)
    | some target =>
      let targets := resolveTarget e target s!"{path}/target" c
      (targets.1.map (fun resolved => .commandOutcome (some resolved) states), targets.2)

def compileTriggers (e : CompilerEnv) : ℕ → List AutomationTrigger → Compiler →
    List ResolvedAutomationTrigger × Compiler
  | _, [], c => ([], c)
  | index, trigger :: rest, c =>
    let head := compileTrigger e trigger s!"/triggers/{index}" c
    let tail := compileTriggers e (index+1) rest head.2
    (head.1.toList ++ tail.1, tail.2)

def compileGuard (e : CompilerEnv) (c : Compiler) : Option ResolvedAutomationCondition × Compiler :=
  match e.document.condition with
  | some condition =>
    compileCondition e e.document.budget.maximumNestingDepth condition "/condition" c
  | none => (none, c)

def AutomationSafetyProfile.needsApproval : AutomationSafetyProfile → Bool
  | accessControl | flowControl | security => true
  | _ => false

def assemblePlan (e : CompilerEnv) (c : Compiler) (triggers : List ResolvedAutomationTrigger)
    (condition : Option ResolvedAutomationCondition) (entry : AutomationPlanNodeId)
    (documentHash : String) : AutomationExecutionPlan :=
  let approved := c.profiles.any AutomationSafetyProfile.needsApproval
  { automationId := e.document.id
    automationVersion := e.document.version
    documentHash := documentHash
    planHash := documentHash
    registryRevision := e.snapshot.eventCursor.getD 0
    vars := e.document.vars
    triggers := triggers
    condition := condition
    runMode := e.document.runMode
    selfTrigger := e.document.selfTrigger
    entry := entry
    nodes := c.nodes.insertionSort (fun left right => left.id ≤ right.id)
    safetyProfiles := c.profiles
    safetyRequirements := if approved then c.requirements.insert .explicitApproval else c.requirements
    approval := if approved then .explicitUserApproval else .activationGrant
    budget := e.document.budget }

def compileBody (e : CompilerEnv) : List ResolvedAutomationTrigger ×
    Option ResolvedAutomationCondition × Option AutomationPlanNodeId × Compiler :=
  let triggers := compileTriggers e 0 e.document.triggers (validateStructure e .new)
  let condition := compileGuard e triggers.2
  let complete := condition.2.pushNode .complete
  let entry := compileActions e e.document.budget.maximumNestingDepth
    (reduceActions e.document.actions) (some complete.1) "/actions" complete.2
  (triggers.1, condition.1, entry)

def compile (e : CompilerEnv) : Except (List AutomationValidationError) AutomationExecutionPlan :=
  let (triggers, condition, entry, c) := compileBody e
  let c := if e.document.budget.maximumNodes < c.nodes.length then
    c.finding .resourceBoundExceeded "/budget/maximum_nodes"
      "compiled plan exceeds the declared node budget"
      (some "Increase maximum_nodes or simplify the automation") none else c
  if !c.findings.isEmpty then .error c.findings
  else match entry with
    | none => .error [⟨.requiredValueMissing, "/actions", "automation has no compilable entry action",
        some "Provide at least one valid action", none⟩]
    | some entry =>
      match e.host.documentHash e.document with
      | .error message => .error [⟨.requiredValueMissing, "",
          "automation document cannot be canonicalized", none, some message⟩]
      | .ok documentHash =>
        let plan := assemblePlan e c triggers condition entry documentHash
        match e.host.planHash plan with
        | .error message => .error [⟨.requiredValueMissing, "",
            "normalized plan cannot be canonicalized", none, some message⟩]
        | .ok planHash => .ok { plan with planHash := planHash }

end HomeMagic
