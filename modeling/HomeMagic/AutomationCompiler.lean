import HomeMagic.FoundationDomain

/-! Side-effect-free validation and plan compilation. The compiler's `&mut self`
is an explicit state; `host` stands for the crates the compiler calls (serde,
SHA-256, chrono-tz and cron). -/
namespace HomeMagic

inductive AutomationValidationCode
  | unsupportedSchema | documentTooLarge | requiredValueMissing | referenceMissing
  | referenceAmbiguous | referenceStale | capabilityIncompatible | typeMismatch | cycleDetected
  | impossibleBranch | resourceBoundExceeded | invalidSchedule | invalidDecimal
  | safetyConstraintUnavailable
  deriving DecidableEq

structure AutomationValidationError where
  code : AutomationValidationCode
  path : String
  reason : String
  remediation : Option String
  reference : Option String
  deriving DecidableEq

structure CompilerHost where
  documentBytes : AutomationDocument → Except String ℕ
  documentHash : AutomationDocument → Except String String
  planHash : AutomationExecutionPlan → Except String String
  timezoneValid : String → Bool
  localTimeValid : String → Bool
  cronValid : String → Bool

structure CompilerEnv where
  host : CompilerHost
  document : AutomationDocument
  snapshot : FoundationSnapshot

structure Compiler where
  findings : List AutomationValidationError
  nodes : List AutomationPlanNode
  profiles : List AutomationSafetyProfile
  requirements : List AutomationSafetyRequirement
  nextSegment : ℕ

def Compiler.new : Compiler := ⟨[], [], [], [], 0⟩

def CommandErrorCode.debugName : CommandErrorCode → String
  | capabilityMismatch => "CapabilityMismatch"
  | valueOutOfRange => "ValueOutOfRange"
  | transitionTooLong => "TransitionTooLong"
  | deadlineExceeded => "DeadlineExceeded"
  | staleObservation => "StaleObservation"
  | unsupportedConstraint => "UnsupportedConstraint"
  | idempotencyConflict => "IdempotencyConflict"
  | policyDenied => "PolicyDenied"
  | supersededBeforeDispatch => "SupersededBeforeDispatch"
  | rateLimited => "RateLimited"
  | deviceBusy => "DeviceBusy"
  | adapterRejected => "AdapterRejected"
  | transportFailure => "TransportFailure"
  | protectionActive => "ProtectionActive"
  | obstructionDetected => "ObstructionDetected"
  | overtemperature => "Overtemperature"
  | confirmationMismatch => "ConfirmationMismatch"
  | indeterminateAfterRestart => "IndeterminateAfterRestart"

def budgetField : AutomationResourceBudgetError → String
  | .maximumNodes => "maximum_nodes"
  | .maximumNestingDepth => "maximum_nesting_depth"
  | .maximumParallelWidth => "maximum_parallel_width"
  | .maximumQueueLength => "maximum_queue_length"
  | .maximumTraceSteps => "maximum_trace_steps"
  | .maximumRunDuration => "maximum_run_duration_ms"

def pointerSegment (value : String) : String :=
  String.join (value.toList.map (fun c =>
    if c = '~' then "~0" else if c = '/' then "~1" else c.toString))

def containsText (text pattern : String) : Bool :=
  text.toList.tails.any (fun rest => pattern.toList.isPrefixOf rest)

def canonicalDecimal (value : String) : Bool :=
  let unsigned := match value.toList with
    | '-' :: rest => rest
    | chars => chars
  if unsigned.isEmpty || unsigned.head? == some '+' then false
  else match unsigned.splitOn '.' with
    | integer :: rest =>
      if rest.length > 1 || integer.isEmpty || !integer.all Char.isDigit ||
          (decide (integer.length > 1) && integer.head? == some '0') then false
      else match rest with
        | fraction :: _ =>
          !fraction.isEmpty && fraction.all Char.isDigit && !(fraction.getLast? == some '0')
        | [] => value != "-0"
    | [] => false

def wordCount (text : String) : ℕ :=
  ((text.toList.splitOnP isWhiteSpace).filter (fun word => !word.isEmpty)).length

namespace Compiler

def finding (c : Compiler) (code : AutomationValidationCode) (path reason : String)
    (remediation reference : Option String) : Compiler :=
  { c with findings := c.findings ++ [⟨code, path, reason, remediation, reference⟩] }

def required (c : Compiler) (path reason : String) : Compiler :=
  c.finding .requiredValueMissing path reason none none

def bound (c : Compiler) (path reason : String) : Compiler :=
  c.finding .resourceBoundExceeded path reason none none

def incompatible (c : Compiler) (path reason : String) : Compiler :=
  c.finding .capabilityIncompatible path reason
    (some "Choose a compatible capability, endpoint, field, or payload") none

def typeMismatch (c : Compiler) (path reason : String) : Compiler :=
  c.finding .typeMismatch path reason (some "Use matching declared scalar types") none

def invalidSchedule (c : Compiler) (path reason : String) : Compiler :=
  c.finding .invalidSchedule path reason
    (some "Use five-field cron syntax and an IANA timezone name") none

def nextNodeId (c : Compiler) : AutomationPlanNodeId := min c.nodes.length (2^32 - 1)

def pushNode (c : Compiler) (kind : AutomationPlanNodeKind) : AutomationPlanNodeId × Compiler :=
  (c.nextNodeId, { c with nodes := c.nodes ++ [⟨c.nextNodeId, c.nextNodeId, kind⟩] })

def validateTimer (c : Compiler) (durationMs : ℕ) (path : String) : Compiler :=
  if durationMs = 0 ∨ maxAutomationTimerMillis < durationMs then
    c.bound path "duration is outside the supported timer range"
  else c

def validateValue (c : Compiler) (value : AutomationValue) (path : String) : Compiler :=
  match value with
  | .decimal decimal =>
    if canonicalDecimal decimal then c
    else c.finding .invalidDecimal path "decimal is not canonical plain base-10 text"
      (some "Use forms such as 0, -2, or 12.5 without exponent or trailing zeros") none
  | .durationMillis duration => c.validateTimer duration path
  | _ => c

def validateObservationField (c : Compiler) (capability field path : String) :
    Option AutomationValueType × Compiler :=
  if (capability = "on_off.v1" ∧ field = "on") ∨
      (capability = "availability.v1" ∧ field = "online") then (some .boolean, c)
  else if ((capability = "level.v1" ∨ capability = "position.v1") ∧ field = "percent") ∨
      (capability = "power.v1" ∧ (field = "watts" ∨ field = "volts" ∨ field = "amperes")) ∨
      (capability = "energy.v1" ∧ field = "watt_hours") then (some .decimal, c)
  else if (capability = "position.v1" ∧ field = "motion") ∨
      (capability = "diagnostics.v1" ∧ field = "firmware_version") then (some .string, c)
  else (none, c.incompatible path "field is not defined by the capability schema")

def validateSchedule (e : CompilerEnv) (c : Compiler) (schedule : AutomationSchedule)
    (path : String) : Compiler :=
  let c := if wordCount schedule.cron ≠ 5 ∨ e.host.cronValid s!"0 {schedule.cron}" = false ∨
      e.host.timezoneValid schedule.timezone = false then
    c.invalidSchedule path "five-field cron expression or IANA timezone is invalid" else c
  if schedule.occurrenceWindowMs = 0 ∨ maxAutomationTimerMillis < schedule.occurrenceWindowMs then
    c.bound s!"{path}/occurrence_window_ms"
      "occurrence window is outside the supported timer range"
  else c

end Compiler

def selects (device : DeviceRecord) : AutomationDeviceReference → Bool
  | .device deviceId => device.snapshot.id == deviceId
  | .alias name => device.snapshot.name == name || device.aliases.contains name
  | .space spaceId => device.spaces.contains spaceId

def AutomationDeviceReference.isAlias : AutomationDeviceReference → Bool
  | .alias _ => true
  | _ => false

def resolveEndpoints (target : AutomationTargetReference) (path : String) :
    List DeviceRecord → Compiler → Option (List ResolvedAutomationTarget) × Compiler
  | [], c => (some [], c)
  | device :: rest, c =>
    let endpoints := (device.capabilityDescriptors.filter (fun entry =>
      (target.endpointId.isNone || target.endpointId == some entry.1) &&
      entry.2.any (fun descriptor => descriptor.schema == target.capability))).map Prod.fst
    if endpoints.isEmpty then
      (none, c.incompatible path "target endpoint does not expose the requested capability schema")
    else if target.endpointId.isNone ∧ 1 < endpoints.length then
      (none, c.finding .referenceAmbiguous s!"{path}/endpoint_id"
        "capability exists on multiple endpoints" (some "Specify an exact endpoint_id")
        (some (toString device.snapshot.id)))
    else
      let tail := resolveEndpoints target path rest c
      (tail.1.map (fun resolved =>
        endpoints.map (fun endpoint => ⟨device.snapshot.id, endpoint, target.capability⟩) ++ resolved),
        tail.2)

def targetLe (left right : ResolvedAutomationTarget) : Bool :=
  decide (left.deviceId < right.deviceId) ||
  (left.deviceId == right.deviceId && decide (left.endpointId ≤ right.endpointId))

def resolveTarget (e : CompilerEnv) (target : AutomationTargetReference) (path : String)
    (c : Compiler) : Option (List ResolvedAutomationTarget) × Compiler :=
  let devices := e.snapshot.devices.filter (fun device => selects device target.device)
  if devices.isEmpty then
    (none, c.finding .referenceMissing s!"{path}/device" "device selector did not resolve"
      (some "Use an enrolled device ID, unique alias, or populated space") none)
  else if target.device.isAlias ∧ 1 < devices.length then
    (none, c.finding .referenceAmbiguous s!"{path}/device"
      "device alias resolves to more than one device"
      (some "Use a unique alias or exact device ID") none)
  else if devices.any (fun device => device.lifecycle != .enrolled) then
    (none, c.finding .referenceStale s!"{path}/device"
      "device selector includes a stale or removed device"
      (some "Restore device health or select an enrolled device") none)
  else
    let resolved := resolveEndpoints target path devices c
    (resolved.1.map (fun targets => targets.insertionSort (fun left right => targetLe left right)), resolved.2)

def compileExpression (e : CompilerEnv) (expression : AutomationExpression) (path : String)
    (c : Compiler) : Option (ResolvedAutomationExpression × AutomationValueType) × Compiler :=
  match expression with
  | .literal value => (some (.literal value, value.valueType), c.validateValue value s!"{path}/value")
  | .variable name =>
    match e.document.vars.lookup name with
    | some definition => (some (.variable name, definition.valueType), c)
    | none => (none, c.typeMismatch path "referenced variable is not declared")
  | .observation target field =>
    let valueType := c.validateObservationField target.capability field s!"{path}/field"
    let targets := resolveTarget e target s!"{path}/target" valueType.2
    match targets.1, valueType.1 with
    | some resolved, some type =>
      if resolved.length = 1 then (some (.observation resolved field, type), targets.2)
      else (none, targets.2.typeMismatch s!"{path}/target"
        "scalar observation expression must resolve to exactly one target")
    | _, _ => (none, targets.2)

def compileEachCondition
    (nested : AutomationCondition → String → Compiler → Option ResolvedAutomationCondition × Compiler)
    (path : String) : ℕ → List AutomationCondition → Compiler →
      List ResolvedAutomationCondition × Compiler
  | _, [], c => ([], c)
  | index, condition :: rest, c =>
    let head := nested condition s!"{path}/conditions/{index}" c
    let tail := compileEachCondition nested path (index+1) rest head.2
    (head.1.toList ++ tail.1, tail.2)

def compileConditionList
    (nested : AutomationCondition → String → Compiler → Option ResolvedAutomationCondition × Compiler)
    (conditions : List AutomationCondition) (path : String)
    (constructor : List ResolvedAutomationCondition → ResolvedAutomationCondition) (c : Compiler) :
    Option ResolvedAutomationCondition × Compiler :=
  let c := if conditions.isEmpty then
    c.required s!"{path}/conditions" "condition list must not be empty" else c
  let compiled := compileEachCondition nested path 0 conditions c
  (if compiled.1.length = conditions.length then some (constructor compiled.1) else none, compiled.2)

/-- `room` is `maximum_nesting_depth + 1 - depth`, the levels left before the
`depth > maximum_nesting_depth` test fails. -/
def compileCondition (e : CompilerEnv) : ℕ → AutomationCondition → String → Compiler →
    Option ResolvedAutomationCondition × Compiler
  | 0, _, path, c => (none, c.bound path "condition nesting exceeds the declared depth budget")
  | room+1, condition, path, c =>
    match condition with
    | .literal value => (some (.literal value), c)
    | .compare left operator right =>
      let left := compileExpression e left s!"{path}/left" c
      let right := compileExpression e right s!"{path}/right" left.2
      match left.1, right.1 with
      | some (left, leftType), some (right', rightType) =>
        let c := if leftType ≠ rightType then
          right.2.typeMismatch path "comparison operand types do not match" else right.2
        let c := if operator ≠ .equal ∧ operator ≠ .notEqual ∧
            (leftType = .null ∨ leftType = .boolean) then
          c.typeMismatch path "selected operator is not defined for this value type" else c
        (some (.compare left operator right'), c)
      | _, _ => (none, right.2)
    | .all conditions => compileConditionList (compileCondition e room) conditions path .all c
    | .any conditions => compileConditionList (compileCondition e room) conditions path .any c
    | .not condition =>
      let inner := compileCondition e room condition s!"{path}/condition" c
      (inner.1.map .not, inner.2)
    | .timeWindow timezone start stop =>
      let c := if e.host.timezoneValid timezone = false ∨ e.host.localTimeValid start = false ∨
          e.host.localTimeValid stop = false then
        c.invalidSchedule path "time window or timezone is invalid" else c
      (some (.timeWindow timezone start stop), c)
    | .stateDuration condition durationMs =>
      let inner := compileCondition e room condition s!"{path}/condition"
        (c.validateTimer durationMs s!"{path}/duration_ms")
      (inner.1.map (fun condition => .stateDuration condition durationMs), inner.2)

end HomeMagic
