import HomeMagic.AutomationReduction

/-! Compilation of authored actions into plan nodes, last action first. -/
namespace HomeMagic

def resolvedRisk (e : CompilerEnv) (targets : List ResolvedAutomationTarget) : Option RiskClass :=
  targets.findSome? (fun target =>
    (e.snapshot.devices.find? (fun device => device.snapshot.id == target.deviceId)).bind (fun device =>
      (device.snapshot.endpoints.find? (fun endpoint => endpoint.id == target.endpointId)).bind
        (fun endpoint =>
          ((endpoint.capabilities.map CapabilitySnapshot.descriptor).find?
            (fun descriptor => descriptor.schema == target.capability)).map CapabilityDescriptor.risk)))

def positionIsCalibrated (e : CompilerEnv) (target : AutomationTargetReference) : Bool :=
  match target.endpointId with
  | none => false
  | some endpointId => e.snapshot.devices.any (fun device =>
      selects device target.device &&
      device.snapshot.endpoints.any (fun endpoint =>
        endpoint.id == endpointId && endpoint.capabilities.any (fun capability =>
          match capability with
          | .position (some _) _ _ => true
          | _ => false)))

def Compiler.require (c : Compiler) (requirement : AutomationSafetyRequirement) : Compiler :=
  { c with requirements := c.requirements.insert requirement }

def Compiler.profile (c : Compiler) (profile : AutomationSafetyProfile) : Compiler :=
  { c with profiles := c.profiles.insert profile }

def classifyCommand (e : CompilerEnv) (target : AutomationTargetReference)
    (resolved : List ResolvedAutomationTarget) (payload : CommandPayload) (path : String)
    (c : Compiler) : Compiler :=
  let name := target.capability.toLower
  if containsText name "lock" || containsText name "door" then
    c.profile .accessControl
  else if containsText name "valve" || containsText name "flow" then
    c.profile .flowControl
  else if containsText name "camera" || containsText name "security" ||
      resolvedRisk e resolved == some .security then
    c.profile .security
  else match payload with
    | .position command =>
      let c := c.require .freshState
      let c := c.require .stopSupport
      let c := match command with
        | .goTo _ =>
          let c := (c.require .calibration).require .position
          if positionIsCalibrated e target then c
          else c.finding .safetyConstraintUnavailable s!"{path}/payload"
            "absolute position command requires a calibrated current position"
            (some "Calibrate the cover and refresh its position before validation") none
        | _ => c
      c.profile .comfortMotion
    | _ => c.profile .comfort

abbrev CompileNested :=
  List AutomationAction → Option AutomationPlanNodeId → String → Compiler →
    Option AutomationPlanNodeId × Compiler

def compileFailure (nested : CompileNested) (policy : AutomationFailurePolicy)
    (next : Option AutomationPlanNodeId) (path : String) (c : Compiler) :
    AutomationPlanFailurePolicy × Compiler :=
  match policy with
  | .stopRun => (.stopRun, c)
  | .stopBranch => (.stopBranch, c)
  | .continue => (.continue, c)
  | .fallback actions =>
    let c := if actions.isEmpty then
      c.required s!"{path}/actions" "fallback actions must not be empty" else c
    let entry := nested (reduceActions actions) next s!"{path}/actions" c
    (.fallback entry.1, entry.2)

def compileBranches (nested : CompileNested) (join : AutomationPlanNodeId) (path : String) :
    ℕ → List (List AutomationAction) → Compiler → List AutomationPlanNodeId × Compiler
  | _, [], c => ([], c)
  | index, branch :: rest, c =>
    let c := if branch.isEmpty then
      c.required s!"{path}/branches/{index}" "parallel branch must not be empty" else c
    let entry := nested (reduceActions branch) (some join) s!"{path}/branches/{index}" c
    let tail := compileBranches nested join path (index+1) rest entry.2
    (entry.1.toList ++ tail.1, tail.2)

def validateGroup (e : CompilerEnv) (branches : List (List AutomationAction))
    (maximumParallel : ℕ) (path : String) (c : Compiler) : Compiler :=
  let c := if branches.isEmpty then
    c.required s!"{path}/branches" "at least one branch is required" else c
  if e.document.budget.maximumParallelWidth < branches.length ∨ maximumParallel = 0 ∨
      branches.length < maximumParallel ∨
      e.document.budget.maximumParallelWidth < maximumParallel then
    c.bound s!"{path}/maximum_parallel"
      "parallel width exceeds the branch count or declared budget" else c

def compileGroup (e : CompilerEnv) (nested : CompileNested) (kind : AutomationRunContinuationKind)
    (branches : List (List AutomationAction)) (maximumParallel : ℕ)
    (next : Option AutomationPlanNodeId) (path : String) (c : Compiler) :
    AutomationPlanNodeId × Compiler :=
  let join := (validateGroup e branches maximumParallel path c).pushNode (.join next)
  let entries := compileBranches nested join.1 path 0 branches join.2
  entries.2.pushNode (.group kind entries.1 maximumParallel (some join.1))

def validateCommand (target : AutomationTargetReference) (payload : CommandPayload)
    (retry : AutomationRetryPolicy) (path : String) (c : Compiler) : Compiler :=
  let c := if payload.schema ≠ target.capability then
    c.incompatible s!"{path}/payload"
      "command payload schema does not match the target capability" else c
  let c := match payload.validate with
    | .error code => c.incompatible s!"{path}/payload" s!"command payload is invalid: {code.debugName}"
    | .ok () => c
  let c := if maxAutomationRetries < retry.maximumRetries then
    c.bound s!"{path}/retry/maximum_retries" "retry count exceeds the engine limit" else c
  if maxAutomationTimerMillis < retry.backoffMs then
    c.bound s!"{path}/retry/backoff_ms" "retry delay exceeds the engine timer limit" else c

def compileCommand (e : CompilerEnv) (nested : CompileNested) (target : AutomationTargetReference)
    (payload : CommandPayload) (retry : AutomationRetryPolicy)
    (onFailure : AutomationFailurePolicy) (next : Option AutomationPlanNodeId) (path : String)
    (segment : Option ℕ) (c : Compiler) : Option AutomationPlanNodeId × Compiler :=
  let targets := resolveTarget e target s!"{path}/target" (validateCommand target payload retry path c)
  let failure := compileFailure nested onFailure next s!"{path}/on_failure" targets.2
  match targets.1 with
  | some resolved =>
    let node := (classifyCommand e target resolved payload path failure.2).pushNode (.command
      { targets := resolved, payload := payload, reductionSegment := segment.getD 0,
        retry := retry, onFailure := failure.1, next := next })
    (some node.1, node.2)
  | none => (none, failure.2)

def validateBranch (guard : AutomationCondition) (path : String) (c : Compiler) : Compiler :=
  match guard with
  | .literal _ => c.finding .impossibleBranch s!"{path}/condition"
      "literal condition makes one branch unreachable"
      (some "Remove the unreachable branch or use a dynamic condition") none
  | _ => c

def compileAction (e : CompilerEnv) (nested : CompileNested)
    (condition : AutomationCondition → String → Compiler → Option ResolvedAutomationCondition × Compiler)
    (action : AutomationAction) (next : Option AutomationPlanNodeId) (path : String)
    (segment : Option ℕ) (c : Compiler) : Option AutomationPlanNodeId × Compiler :=
  match action with
  | .command target payload retry onFailure =>
    compileCommand e nested target payload retry onFailure next path segment c
  | .delay durationMs =>
    let node := (c.validateTimer durationMs s!"{path}/duration_ms").pushNode (.delay durationMs next)
    (some node.1, node.2)
  | .wait guard timeoutMs onTimeout =>
    let compiled := condition guard s!"{path}/condition"
      (c.validateTimer timeoutMs s!"{path}/timeout_ms")
    let failure := compileFailure nested onTimeout next s!"{path}/on_timeout" compiled.2
    match compiled.1 with
    | some guard =>
      let node := failure.2.pushNode (.wait guard timeoutMs failure.1 next)
      (some node.1, node.2)
    | none => (none, failure.2)
  | .setVariable name value =>
    let expression := compileExpression e value s!"{path}/value" c
    match e.document.vars.lookup name, expression.1 with
    | none, _ =>
      (none, expression.2.typeMismatch s!"{path}/name" "assigned variable is not declared")
    | some definition, some (value, valueType) =>
      let c := if definition.valueType ≠ valueType then
        expression.2.typeMismatch s!"{path}/value"
          "assigned expression does not match the variable type" else expression.2
      let node := c.pushNode (.setVariable name value next)
      (some node.1, node.2)
    | some _, none => (none, expression.2)
  | .sequence actions => nested (reduceActions actions) next s!"{path}/actions" c
  | .if guard thenActions elseActions =>
    let join := (validateBranch guard path c).pushNode (.join next)
    let thenNode := nested (reduceActions thenActions) (some join.1) s!"{path}/then_actions" join.2
    let elseNode := nested (reduceActions elseActions) (some join.1) s!"{path}/else_actions" thenNode.2
    let compiled := condition guard s!"{path}/condition" elseNode.2
    match compiled.1 with
    | some guard =>
      let node := compiled.2.pushNode (.branch guard thenNode.1 elseNode.1 (some join.1))
      (some node.1, node.2)
    | none => (none, compiled.2)
  | .parallel branches maximumParallel =>
    let node := compileGroup e nested .parallel branches maximumParallel next path c
    (some node.1, node.2)
  | .race branches maximumParallel =>
    let node := compileGroup e nested .race branches maximumParallel next path c
    (some node.1, node.2)

def assignSegments : List AutomationAction → Option ℕ → Compiler → List (Option ℕ) × Compiler
  | [], _, c => ([], c)
  | action :: rest, active, c =>
    if action.isCommand then
      match active with
      | some segment =>
        let tail := assignSegments rest (some segment) c
        (some segment :: tail.1, tail.2)
      | none =>
        let tail := assignSegments rest (some c.nextSegment)
          { c with nextSegment := min (c.nextSegment + 1) (2^32 - 1) }
        (some c.nextSegment :: tail.1, tail.2)
    else
      let tail := assignSegments rest none c
      (none :: tail.1, tail.2)

def compileReversed
    (compileOne : AutomationAction → Option AutomationPlanNodeId → String → Option ℕ → Compiler →
      Option AutomationPlanNodeId × Compiler) (path : String) :
    ℕ → List (AutomationAction × Option ℕ) → Option AutomationPlanNodeId → Compiler →
      Option AutomationPlanNodeId × Compiler
  | _, [], next, c => (next, c)
  | index, (action, segment) :: rest, next, c =>
    let following := compileReversed compileOne path (index+1) rest next c
    compileOne action following.1 s!"{path}/{index}" segment following.2

/-- `room` is `maximum_nesting_depth + 1 - depth`, as in `compileCondition`. -/
def compileActions (e : CompilerEnv) : ℕ → CompileNested
  | 0, _, next, path, c => (next, c.bound path "action nesting exceeds the declared depth budget")
  | room+1, actions, next, path, c =>
    let segments := assignSegments actions none c
    compileReversed (compileAction e (compileActions e room) (compileCondition e room)) path 0
      (actions.zip segments.1) next segments.2

end HomeMagic
