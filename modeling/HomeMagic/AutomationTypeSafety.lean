import HomeMagic.AutomationPlanTyping
import HomeMagic.AutomationPlanWellFormed
import HomeMagic.AutomationStepEffects
import HomeMagic.MatterNodeProjection
import HomeMagic.ShellyStatus

/-! Compiled plans at run time: evaluation against observed values, and the variables of a
run over whole histories of steps. -/
namespace HomeMagic

variable {type : AutomationValueType} {percent : JsonValue} {run : AutomationRun} {capability field : String}
  {β : Type}

def AutomationEvaluationError.isTypeError : AutomationEvaluationError → Bool
  | typeMismatch | invalidTimeWindow => true
  | _ => false

/-- How the fields of `CapabilitySnapshot` are written: a float by `from_f64`, an absent value not at all,
except for the state of a lock, which is then `null`. -/
inductive FieldShape
  | bool | lock | number | text
  deriving DecidableEq

def FieldShape.admits : FieldShape → JsonValue → Prop
  | bool, .bool _ | lock, .bool _ | lock, .null | text, .string _ => True
  | number, .number digits => jsonNumber digits
  | _, _ => False

def declaredField (capability field : String) : Option FieldShape :=
  if capability = "availability.v1" ∧ field = "online" then some .bool
  else if capability = "on_off.v1" ∧ field = "on" then some .bool
  else if capability = "access_control.v1" ∧ field = "locked" then some .lock
  else if capability = "level.v1" ∧ field = "percent" then some .number
  else if capability = "position.v1" ∧ field = "percent" then some .number
  else if capability = "position.v1" ∧ field = "motion" then some .text
  else if capability = "power.v1" ∧ (field = "watts" ∨ field = "volts" ∨ field = "amperes") then some .number
  else if capability = "energy.v1" ∧ field = "watt_hours" then some .number
  else if capability = "diagnostics.v1" ∧ field = "firmware_version" then some .text
  else none

def Admits (capability field : String) (value : JsonValue) : Prop :=
  ∀ shape, declaredField capability field = some shape → shape.admits value

theorem fieldType_declared (h : fieldType capability field = some type) : ∃ shape,
      declaredField capability field = some shape ∧
      ((type = .boolean ∧ shape = .bool) ∨ (type = .decimal ∧ shape = .number) ∨
        (type = .string ∧ shape = .text)) := by
  unfold fieldType Compiler.validateObservationField at h
  split at h
  · rename_i hfield
    cases h
    rcases hfield with ⟨rfl, rfl⟩ | ⟨rfl, rfl⟩ <;> exact ⟨_, rfl, .inl ⟨rfl, rfl⟩⟩
  split at h
  · rename_i hfield
    cases h
    rcases hfield with ⟨rfl | rfl, rfl⟩ | ⟨rfl, rfl | rfl | rfl⟩ | ⟨rfl, rfl⟩ <;>
      exact ⟨_, rfl, .inr (.inl ⟨rfl, rfl⟩)⟩
  split at h
  · rename_i hfield
    cases h
    rcases hfield with ⟨rfl, rfl⟩ | ⟨rfl, rfl⟩ <;> exact ⟨_, rfl, .inr (.inr ⟨rfl, rfl⟩)⟩
  · cases h

/-- `json_value` gives a value of the type that the compiler assigned to the field. -/
theorem jsonValue_typed {json : JsonValue} (ht : fieldType capability field = some type)
    (ha : Admits capability field json) : ∃ value, jsonValue json = some value ∧ HasType type value := by
  obtain ⟨shape, hshape, htype⟩ := fieldType_declared ht
  have hadmits := ha shape hshape
  rcases htype with ⟨rfl, rfl⟩ | ⟨rfl, rfl⟩ | ⟨rfl, rfl⟩
  · cases json <;> simp_all [FieldShape.admits, jsonValue, HasType, AutomationValue.valueType]
  · cases json <;> simp_all [FieldShape.admits, jsonValue, HasType, AutomationValue.valueType, numeral]
  · cases json <;> simp_all [FieldShape.admits, jsonValue, HasType, AutomationValue.valueType]

def CapabilityObservation.Conforms (observation : CapabilityObservation) : Prop :=
  ∀ field observed, observation.values.lookup field = some observed →
    Admits observation.capability.schema field observed.value

def FoundationSnapshot.Conforms (snapshot : FoundationSnapshot) : Prop :=
  ∀ observation ∈ snapshot.observations, observation.Conforms

theorem schema_versioned (name : String) (risk : RiskClass) :
    CapabilityDescriptor.schema ⟨name, 1, risk⟩ = name ++ ".v1" := by
  have hversion : toString (1 : ℕ) = "1" := by decide
  unfold CapabilityDescriptor.schema
  show name ++ ".v" ++ toString (1 : ℕ) = name ++ ".v1"
  rw [hversion, String.append_assoc]
  rfl

theorem admits_declared (shape : FieldShape) {value : JsonValue} (hd : declaredField capability field = some shape)
    (h : shape.admits value) : Admits capability field value := by
  intro declared hdeclared
  rw [hd] at hdeclared
  cases hdeclared
  exact h

theorem admits_undeclared {value : JsonValue} (hd : declaredField capability field = none) :
    Admits capability field value := by
  intro declared hdeclared
  rw [hd] at hdeclared
  cases hdeclared

section Writers
variable {numbers : ShellyNumbers} (hn : ∀ value, jsonNumber (numbers.write value) = true)
include hn

/-- What an integration reports has the type of its field. -/
theorem observedFields_admitted {snapshot : CapabilitySnapshot} {raw : String} {value : JsonValue}
    (h : (raw, field, some value) ∈ observedFields numbers snapshot) :
    Admits snapshot.descriptor.schema field value := by
  have hnumber : ∀ {percent : Option ℚ} {capability field : String},
      declaredField capability field = some .number → some value = percent.map (.number ∘ numbers.write) →
        Admits capability field value := by
    intro percent capability field hd hvalue
    obtain ⟨number, -, rfl⟩ := Option.map_eq_some_iff.mp hvalue.symm
    exact admits_declared .number hd (hn number)
  have htext : ∀ {text : Option String} {capability field : String},
      declaredField capability field = some .text → some value = text.map .string → Admits capability field value := by
    intro text capability field hd hvalue
    obtain ⟨text, -, rfl⟩ := Option.map_eq_some_iff.mp hvalue.symm
    exact admits_declared .text hd trivial
  cases snapshot <;> rw [CapabilitySnapshot.descriptor, schema_versioned] <;>
    simp only [observedFields, List.mem_cons, List.not_mem_nil, or_false, Prod.mk.injEq, Option.some.injEq] at h
  case availability online =>
    obtain ⟨-, rfl, rfl⟩ := h
    exact admits_declared .bool (by decide) trivial
  case onOff on risk =>
    obtain ⟨-, rfl, rfl⟩ := h
    exact admits_declared .bool (by decide) trivial
  case level percent risk =>
    obtain ⟨-, rfl, rfl⟩ := h
    exact admits_declared .number (by decide) (hn percent)
  case position percent motion risk =>
    rcases h with ⟨-, rfl, hvalue⟩ | ⟨-, rfl, hvalue⟩
    · exact hnumber (by decide) hvalue
    · exact htext (by decide) hvalue
  case power watts volts amperes =>
    rcases h with ⟨-, rfl, hvalue⟩ | ⟨-, rfl, hvalue⟩ | ⟨-, rfl, hvalue⟩
    · exact hnumber (by decide) hvalue
    · exact hnumber (by decide) hvalue
    · exact hnumber (by decide) hvalue
  case energy wattHours =>
    obtain ⟨-, rfl, rfl⟩ := h
    exact admits_declared .number (by decide) (hn wattHours)
  case diagnostics firmwareVersion errors =>
    rcases h with ⟨-, rfl, hvalue⟩ | ⟨-, rfl, rfl⟩
    · exact htext (by decide) hvalue
    · exact admits_undeclared (by decide)

theorem statusBatch_conforms (device : DeviceRecord) (cache : StatusCache) (changed : List (String × List String))
    (observedAt receivedAt : Instant) (full : Bool) :
    ∀ observation ∈ (statusBatch numbers device cache changed observedAt receivedAt full).observations,
      observation.toCapabilityObservation.Conforms := by
  intro observation hmem field observed hlookup
  obtain ⟨endpoint, -, hmem⟩ := List.mem_flatMap.mp hmem
  split at hmem
  · cases hmem
  obtain ⟨capability, -, hfrom⟩ := List.mem_filterMap.mp hmem
  unfold observationFromCapability at hfrom
  dsimp only at hfrom
  split at hfrom
  · cases hfrom
  cases hfrom
  obtain ⟨before, after, hvalues, -⟩ := List.lookup_eq_some_iff.mp hlookup
  have hentry : (field, observed) ∈ before ++ (field, observed) :: after :=
    List.mem_append_right _ List.mem_cons_self
  rw [← hvalues] at hentry
  obtain ⟨⟨raw, name, written⟩, hwritten, hvalue⟩ := List.mem_filterMap.mp hentry
  split at hvalue
  · obtain ⟨value, hsome, hobserved⟩ := Option.map_eq_some_iff.mp hvalue
    cases hobserved
    dsimp only at hsome
    rw [hsome] at hwritten
    exact observedFields_admitted hn hwritten
  · cases hvalue

end Writers

def MatterStateValue.observedFields : MatterStateValue → List (String × JsonValue)
  | onOff on => [("on", .bool on)]
  | lock state =>
    [("state", .string (match state with
      | .locked => "locked"
      | .unlocked => "unlocked"
      | .notFullyLocked => "not_fully_locked"
      | .unknown => "unknown")),
    ("locked", match state with
      | .locked => .bool true
      | .unlocked => .bool false
      | .notFullyLocked | .unknown => .null)]
  | levelPercent _ | positionPercent _ => []

theorem mapReportValue_admitted {rule : MatterProjectionRule} {value : MatterAttributeValue}
    {state : MatterStateValue} (h : mapReportValue rule value = some state)
    (hc : rule.capabilitySchema = some capability) {json : JsonValue} (hf : (field, json) ∈ state.observedFields) :
    Admits capability field json := by
  unfold mapReportValue at h
  split at h <;> cases h <;> cases hc
  · simp only [MatterStateValue.observedFields, List.mem_singleton, Prod.mk.injEq] at hf
    obtain ⟨rfl, rfl⟩ := hf
    exact admits_declared .bool (by decide) trivial
  all_goals
    simp only [MatterStateValue.observedFields, List.mem_cons, List.not_mem_nil, or_false, Prod.mk.injEq] at hf
    rcases hf with ⟨rfl, -⟩ | ⟨rfl, rfl⟩
    · exact admits_undeclared (by decide)
    · exact admits_declared .lock (by decide) trivial

def ObservationsTyped (observation : ResolvedAutomationTarget → String → Option AutomationValue) :
    Prop :=
  ∀ target field type value, fieldType target.capability field = some type →
    observation target field = some value → HasType type value

theorem observation_typed {snapshot : FoundationSnapshot} (hc : snapshot.Conforms) :
    ObservationsTyped snapshot.observation := by
  intro target field type value htype hvalue
  unfold FoundationSnapshot.observation at hvalue
  obtain ⟨observation, hfound, hobserved⟩ := Option.bind_eq_some_iff.mp hvalue
  obtain ⟨observed, hlookup, hjson⟩ := Option.bind_eq_some_iff.mp hobserved
  have hmatch := List.find?_some hfound
  simp only [Bool.and_eq_true, beq_iff_eq] at hmatch
  have hadmits := hc observation (List.mem_of_find?_eq_some hfound) field observed hlookup
  rw [hmatch.2] at hadmits
  obtain ⟨value', hvalue', htyped⟩ := jsonValue_typed htype hadmits
  rw [hjson] at hvalue'
  cases hvalue'
  exact htyped

/-- The evaluator parses what the compiler's parsers accepted: `f64::from_str` reads every
numeral as a number, and time windows parse with the same functions. -/
structure EvaluatorHost.Agrees (evaluator : EvaluatorHost) (compiler : CompilerHost) : Prop where
  ordered : ∀ left right, numeral left → numeral right →
    ∃ ordering, evaluator.decimalOrdering left right = some ordering
  windows : ∀ now timezone start stop, compiler.timezoneValid timezone →
    compiler.localTimeValid start → compiler.localTimeValid stop →
      ∃ inside, evaluator.timeWindow now timezone start stop = .ok inside

def VarsTyped (definitions : List (String × AutomationVariableDefinition)) (vars : Variables) : Prop :=
  ∀ name value, vars.lookup name = some value → ∃ definition,
    definitions.lookup name = some definition ∧ HasType definition.valueType value

section Evaluation
variable {evaluator : EvaluatorHost} {compiler : CompilerHost}
  {definitions : List (String × AutomationVariableDefinition)} {vars : Variables}
  {observation : ResolvedAutomationTarget → String → Option AutomationValue}

theorem evaluateExpression_typed (hv : VarsTyped definitions vars) (ho : ObservationsTyped observation)
    {expression : ResolvedAutomationExpression} (ht : ExpressionTyped definitions expression type) :
    (∃ value, evaluateExpression observation vars expression = .ok value ∧ HasType type value) ∨
    ∃ what, evaluateExpression observation vars expression = .error (.missingValue what) := by
  cases expression with
  | literal value => exact .inl ⟨value, rfl, ht⟩
  | «variable» name =>
    obtain ⟨definition, hlookup, rfl⟩ := ht
    simp only [evaluateExpression]
    cases hname : vars.lookup name with
    | none => exact .inr ⟨_, rfl⟩
    | some value =>
      obtain ⟨definition', hlookup', htyped⟩ := hv name value hname
      rw [hlookup] at hlookup'
      cases hlookup'
      exact .inl ⟨value, rfl, htyped⟩
  | observation targets field =>
    obtain ⟨target, rfl, htype⟩ := ht
    simp only [evaluateExpression, List.head?_cons]
    cases hvalue : observation target field with
    | none => exact .inr ⟨_, rfl⟩
    | some value => exact .inl ⟨value, rfl, ho target field type value htype hvalue⟩

theorem compareValues_typed (ha : evaluator.Agrees compiler) {left right : AutomationValue} (hl : HasType type left)
    (hr : HasType type right) (operator : AutomationComparison) :
    ∃ result, compareValues evaluator left operator right = .ok result := by
  have hsame : left.valueType = right.valueType := hl.1.trans hr.1.symm
  cases left <;> cases right <;> first | exact ⟨_, rfl⟩ | (cases hsame; done) | skip
  rename_i left right
  obtain ⟨ordering, hordering⟩ := ha.ordered left right (hl.2 _ rfl) (hr.2 _ rfl)
  simp only [compareValues, hordering]
  exact ⟨_, rfl⟩

def Untroubled {σ : Type} (result : Except AutomationEvaluationError Bool × σ) : Prop :=
  ∀ error, result.1 = .error error → error.isTypeError = false

theorem holdDuration_untroubled (now : Instant) (runId : AutomationRunId)
    (nodeId : AutomationPlanNodeId) (durations : List AutomationConditionDuration)
    (timers : List AutomationTimer) (hash : String) (durationMs : ℕ) (s : DurationState) :
    Untroubled (holdDuration now runId nodeId durations timers hash durationMs s) := by
  intro error herror
  unfold holdDuration at herror
  split at herror
  · split at herror
    · cases herror
    split at herror
    · cases herror
      rfl
    split at herror <;> cases herror <;> rfl
  · split at herror <;> cases herror <;> rfl

section
variable (ha : evaluator.Agrees compiler) (hv : VarsTyped definitions vars) (now : Instant)
  {snapshot : FoundationSnapshot} (ho : ObservationsTyped snapshot.observation)
  (runId : AutomationRunId) (nodeId : AutomationPlanNodeId)
  (durations : List AutomationConditionDuration) (timers : List AutomationTimer)
include ha hv ho

set_option linter.unusedSectionVars false in
mutual
/-- A typed condition never fails on types, whatever the intervals and timers of the run. -/
theorem evaluateCondition_typed : ∀ (condition : ResolvedAutomationCondition) (s : DurationState),
    ConditionTyped compiler definitions condition → Untroubled (evaluateCondition evaluator
      (runtimeContext evaluator now snapshot runId nodeId durations timers) vars condition s)
  | .literal value, s, _ => by
    intro error herror
    rw [evaluateCondition] at herror
    cases herror
  | .compare left operator right, s, ht => by
    rw [ConditionTyped] at ht
    obtain ⟨type, hleft, hright⟩ := ht
    intro error herror
    rw [evaluateCondition] at herror
    rcases evaluateExpression_typed hv ho hleft with ⟨l, hl, hlt⟩ | ⟨what, hl⟩
    · rcases evaluateExpression_typed hv ho hright with ⟨r, hr, hrt⟩ | ⟨what, hr⟩
      · obtain ⟨result, hresult⟩ := compareValues_typed ha hlt hrt operator
        simp only [runtimeContext, hl, hr, bind, Except.bind, hresult] at herror
        cases herror
      · simp only [runtimeContext, hl, hr, bind, Except.bind] at herror
        cases herror
        rfl
    · simp only [runtimeContext, hl, bind, Except.bind] at herror
      cases herror
      rfl
  | .all conditions, s, ht => by
    rw [ConditionTyped] at ht
    rw [evaluateCondition]
    exact evaluateAll_typed conditions s ht
  | .any conditions, s, ht => by
    rw [ConditionTyped] at ht
    rw [evaluateCondition]
    exact evaluateAny_typed conditions s ht
  | .not condition, s, ht => by
    rw [ConditionTyped] at ht
    have hinner := evaluateCondition_typed condition s ht
    intro error herror
    rw [evaluateCondition] at herror
    dsimp only at herror
    cases hvalue : (evaluateCondition evaluator (runtimeContext evaluator now snapshot runId nodeId
        durations timers) vars condition s).1 with
    | ok value =>
      rw [hvalue] at herror
      cases herror
    | error inner =>
      rw [hvalue] at herror
      cases herror
      exact hinner _ hvalue
  | .timeWindow timezone start stop, s, ht => by
    rw [ConditionTyped] at ht
    intro error herror
    rw [evaluateCondition] at herror
    obtain ⟨inside, hinside⟩ := ha.windows now timezone start stop ht.1 ht.2.1 ht.2.2
    simp only [runtimeContext, hinside] at herror
    cases herror
  | .stateDuration condition durationMs, s, ht => by
    rw [ConditionTyped] at ht
    have hinner := evaluateCondition_typed condition s ht
    intro error herror
    rw [evaluateCondition] at herror
    simp only [runtimeContext] at herror hinner
    split at herror
    · cases herror
      rfl
    split at herror
    · rename_i hheld
      cases herror
      exact hinner _ hheld
    · cases herror
    · exact holdDuration_untroubled _ _ _ _ _ _ _ _ _ herror

theorem evaluateAll_typed : ∀ (conditions : List ResolvedAutomationCondition) (s : DurationState),
    ConditionsTyped compiler definitions conditions → Untroubled (evaluateAll evaluator
      (runtimeContext evaluator now snapshot runId nodeId durations timers) vars conditions s)
  | [], s, _ => by
    intro error herror
    rw [evaluateAll] at herror
    cases herror
  | condition :: rest, s, ht => by
    rw [ConditionsTyped] at ht
    have hhead := evaluateCondition_typed condition s ht.1
    intro error herror
    rw [evaluateAll] at herror
    split at herror
    · exact evaluateAll_typed rest _ ht.2 error herror
    · cases herror
    · rename_i hhead'
      cases herror
      exact hhead _ hhead'

theorem evaluateAny_typed : ∀ (conditions : List ResolvedAutomationCondition) (s : DurationState),
    ConditionsTyped compiler definitions conditions → Untroubled (evaluateAny evaluator
      (runtimeContext evaluator now snapshot runId nodeId durations timers) vars conditions s)
  | [], s, _ => by
    intro error herror
    rw [evaluateAny] at herror
    cases herror
  | condition :: rest, s, ht => by
    rw [ConditionsTyped] at ht
    have hhead := evaluateCondition_typed condition s ht.1
    intro error herror
    rw [evaluateAny] at herror
    split at herror
    · cases herror
    · exact evaluateAny_typed rest _ ht.2 error herror
    · rename_i hhead'
      cases herror
      exact hhead _ hhead'
end

end
end Evaluation

theorem lookup_cons_eq_ite (key name : String) (value : β) (rest : List (String × β)) :
    List.lookup key ((name, value) :: rest) = if key = name then some value else rest.lookup key := by
  rw [List.lookup_cons]
  by_cases hkey : key = name
  · rw [if_pos hkey, beq_iff_eq.mpr hkey]
  · rw [if_neg hkey, beq_eq_false_iff_ne.mpr hkey]

theorem lookup_insertVariable (name key : String) (value : AutomationValue) (vars : Variables) :
    (insertVariable name value vars).lookup key =
      if key = name then some value else vars.lookup key := by
  induction vars with
  | nil => rw [insertVariable, lookup_cons_eq_ite]
  | cons entry rest ih =>
    obtain ⟨other, old⟩ := entry
    rw [insertVariable]
    by_cases hother : other = name
    · rw [if_pos hother, lookup_cons_eq_ite, lookup_cons_eq_ite, hother]
      by_cases hkey : key = name
      · rw [if_pos hkey, if_pos hkey]
      · rw [if_neg hkey, if_neg hkey, if_neg hkey]
    rw [if_neg hother]
    by_cases hless : name < other
    · rw [if_pos hless, lookup_cons_eq_ite]
    · rw [if_neg hless, lookup_cons_eq_ite, lookup_cons_eq_ite, ih]
      by_cases hkey : key = name
      · have hne : key ≠ other := fun heq => hother (heq.symm.trans hkey)
        rw [if_neg hne, if_pos hkey, if_pos hkey]
      · rw [if_neg hkey, if_neg hkey]

theorem mem_keys_of_lookup {key : String} {value : β} {entries : List (String × β)}
    (h : entries.lookup key = some value) : key ∈ entries.map Prod.fst := by
  induction entries with
  | nil => cases h
  | cons entry rest ih =>
    obtain ⟨name, other⟩ := entry
    rw [lookup_cons_eq_ite] at h
    by_cases hkey : key = name
    · rw [hkey]
      exact List.mem_cons_self
    · rw [if_neg hkey] at h
      exact List.mem_cons_of_mem _ (ih h)

theorem VarsTyped.insert {definitions : List (String × AutomationVariableDefinition)}
    {vars : Variables} (h : VarsTyped definitions vars) {name : String} {value : AutomationValue}
    {definition : AutomationVariableDefinition} (hd : definitions.lookup name = some definition)
    (ht : HasType definition.valueType value) :
    VarsTyped definitions (insertVariable name value vars) := by
  intro key value' hlookup
  rw [lookup_insertVariable] at hlookup
  split at hlookup
  · rename_i hkey
    cases hlookup
    rw [hkey]
    exact ⟨definition, hd, ht⟩
  · exact h key value' hlookup

/-- A fresh run has typed variables. -/
theorem initialVariables_typed {definitions : List (String × AutomationVariableDefinition)}
    (hkeys : (definitions.map Prod.fst).Nodup) (ht : ∀ entry ∈ definitions, InitialTyped entry.2) :
    VarsTyped definitions (initialVariables definitions) := by
  induction definitions with
  | nil =>
    intro name value hlookup
    cases hlookup
  | cons entry rest ih =>
    obtain ⟨key, definition⟩ := entry
    rw [List.map_cons, List.nodup_cons] at hkeys
    have hrest := ih hkeys.2 (fun entry hmem => ht entry (List.mem_cons_of_mem _ hmem))
    -- a later declaration has another name
    have hshift : ∀ name value, (initialVariables rest).lookup name = some value → ∃ definition',
        List.lookup name ((key, definition) :: rest) = some definition' ∧
          HasType definition'.valueType value := by
      intro name value hlookup
      obtain ⟨definition', hfound, htyped⟩ := hrest name value hlookup
      have hne : name ≠ key := by
        rintro rfl
        exact hkeys.1 (mem_keys_of_lookup hfound)
      exact ⟨definition', by rw [lookup_cons_eq_ite, if_neg hne]; exact hfound, htyped⟩
    intro name value hlookup
    cases hinitial : definition.initial with
    | none =>
      have hskip : initialVariables ((key, definition) :: rest) = initialVariables rest := by
        simp [initialVariables, hinitial]
      rw [hskip] at hlookup
      exact hshift name value hlookup
    | some initial =>
      have hcons : initialVariables ((key, definition) :: rest) =
          (key, initial) :: initialVariables rest := by
        simp [initialVariables, hinitial]
      rw [hcons, lookup_cons_eq_ite] at hlookup
      by_cases hname : name = key
      · rw [if_pos hname] at hlookup
        cases hlookup
        refine ⟨definition, by rw [lookup_cons_eq_ite, if_pos hname], ?_⟩
        exact ht (key, definition) List.mem_cons_self _ hinitial
      · rw [if_neg hname] at hlookup
        exact hshift name value hlookup

inductive ReachesUnder (allowed : StepInputs → Prop) (evaluator : EvaluatorHost)
    (plan : AutomationExecutionPlan) : AutomationRun → Prop
  | fresh (actorId : ActorId) (occurrence : AutomationOccurrence) (now : Instant) :
      ReachesUnder allowed evaluator plan (newRun plan actorId occurrence now)
  | step {run : AutomationRun} {inputs : StepInputs} {outcome : AutomationRuntimeStep}
      {write : AutomationStepWrite} (hr : ReachesUnder allowed evaluator plan run) (ha : allowed inputs)
      (hs : stepRun evaluator plan run inputs = .ok (outcome, some write)) :
      ReachesUnder allowed evaluator plan write.run

def ReadsConforming (inputs : StepInputs) : Prop :=
  ∀ snapshot, inputs.snapshot = some snapshot → snapshot.Conforms

theorem mem_of_planFind {plan : AutomationExecutionPlan} {n : AutomationPlanNodeId}
    {kind : AutomationPlanNodeKind} (h : plan.find n = some kind) :
    ∃ node ∈ plan.nodes, node.kind = kind := by
  unfold AutomationExecutionPlan.find at h
  obtain ⟨node, hfound, hkind⟩ := Option.map_eq_some_iff.mp h
  exact ⟨node, List.mem_of_find?_eq_some hfound, hkind⟩

section
variable {compiler : CompilerHost} {evaluator : EvaluatorHost} {plan : AutomationExecutionPlan}
  (hp : PlanTyped compiler plan)
include hp

theorem stepRun_varsTyped {inputs : StepInputs} {outcome : AutomationRuntimeStep} {write : AutomationStepWrite}
    (hv : VarsTyped plan.vars run.vars) (hc : ReadsConforming inputs)
    (hs : stepRun evaluator plan run inputs = .ok (outcome, some write)) :
    VarsTyped plan.vars write.run.vars := by
  rcases (stepRun_effect hs).effect.kept.2 with hsame | ⟨n, name, expression, following, snapshot,
      value, _, hkind, hsnapshot, hvalue, hvars⟩
  · rw [hsame]
    exact hv
  obtain ⟨node, hmem, hnode⟩ := mem_of_planFind hkind
  have htyped := hp.nodes node hmem
  rw [hnode] at htyped
  obtain ⟨definition, hlookup, hexpression⟩ := htyped
  have ho := observation_typed (hc snapshot hsnapshot)
  rw [hvars]
  refine hv.insert hlookup ?_
  rcases evaluateExpression_typed hv ho hexpression with ⟨value', hok, htype⟩ | ⟨what, herror⟩
  · rw [hvalue] at hok
    cases hok
    exact htype
  · rw [hvalue] at herror
    cases herror

theorem reachesUnder_varsTyped (hkeys : (plan.vars.map Prod.fst).Nodup)
    (hr : ReachesUnder ReadsConforming evaluator plan run) :
    VarsTyped plan.vars run.vars := by
  induction hr with
  | fresh actorId occurrence now => exact initialVariables_typed hkeys hp.initial
  | step _ ha hs ih => exact stepRun_varsTyped hp ih ha hs

end

def AutomationExecutionPlan.Holds (plan : AutomationExecutionPlan)
    (condition : ResolvedAutomationCondition) : Prop :=
  plan.condition = some condition ∨ ∃ node ∈ plan.nodes, node.kind.condition? = some condition

theorem PlanTyped.condition {compiler : CompilerHost} {plan : AutomationExecutionPlan}
    (hp : PlanTyped compiler plan) {condition : ResolvedAutomationCondition}
    (h : plan.Holds condition) : ConditionTyped compiler plan.vars condition := by
  rcases h with hguard | ⟨node, hmem, hkind⟩
  · exact hp.guard condition hguard
  · have htyped := hp.nodes node hmem
    cases hnode : node.kind with
    | branch _ _ _ _ | wait _ _ _ _ =>
      rw [hnode] at hkind htyped
      cases hkind
      exact htyped
    | _ =>
      rw [hnode] at hkind
      cases hkind

/-- `json_value` gives what a field admits the type that compilation assigned. In every run whose steps read
conforming snapshots the variables keep their declared types, no condition of the plan fails on types, and an
assigned value has the declared type. -/
theorem compiled_types_hold (e : CompilerEnv) (plan : AutomationExecutionPlan)
    (h : compile e = .ok plan) (hkeys : (e.document.vars.map Prod.fst).Nodup)
    (evaluator : EvaluatorHost) (ha : evaluator.Agrees e.host) :
    (∀ capability field type json, fieldType capability field = some type →
      Admits capability field json → ∃ value, jsonValue json = some value ∧ HasType type value) ∧
    ∀ run, ReachesUnder ReadsConforming evaluator plan run →
      VarsTyped plan.vars run.vars ∧
      (∀ snapshot : FoundationSnapshot, snapshot.Conforms →
        (∀ condition, plan.Holds condition → ∀ now runId nodeId durations timers s,
          Untroubled (evaluateCondition evaluator
            (runtimeContext evaluator now snapshot runId nodeId durations timers) run.vars condition s)) ∧
        ∀ node ∈ plan.nodes, ∀ name expression next, node.kind = .setVariable name expression next →
          ∃ definition, plan.vars.lookup name = some definition ∧
          ((∃ value, evaluateExpression snapshot.observation run.vars expression = .ok value ∧
            HasType definition.valueType value) ∨
          ∃ what, evaluateExpression snapshot.observation run.vars expression =
            .error (.missingValue what))) ∧
      ∀ inputs outcome write, ReadsConforming inputs →
        stepRun evaluator plan run inputs = .ok (outcome, some write) →
          VarsTyped plan.vars write.run.vars := by
  have hp := compile_typed h
  have hvars : plan.vars = e.document.vars := (compile_compiledPlan e plan h).vars
  rw [← hvars] at hkeys
  refine ⟨fun capability field type json htype hadmits => jsonValue_typed htype hadmits, ?_⟩
  intro run hr
  have hv := reachesUnder_varsTyped hp hkeys hr
  refine ⟨hv, ?_, ?_⟩
  · intro snapshot hc
    have ho := observation_typed hc
    refine ⟨?_, ?_⟩
    · intro condition hcondition now runId nodeId durations timers s
      exact evaluateCondition_typed ha hv now ho runId nodeId durations timers condition s
        (hp.condition hcondition)
    · intro node hmem name expression next hkind
      have htyped := hp.nodes node hmem
      rw [hkind] at htyped
      obtain ⟨definition, hlookup, hexpression⟩ := htyped
      exact ⟨definition, hlookup, evaluateExpression_typed hv ho hexpression⟩
  · intro inputs outcome write hc hs
    exact stepRun_varsTyped hp hv hc hs

def dimmerRecord : DeviceRecord :=
  { lampRecord with capabilityDescriptors :=
      [("switch:0", [⟨"on_off", 1, .comfort⟩, ⟨"level", 1, .comfort⟩])] }

def dimmerEnv : CompilerEnv :=
  ⟨lampHost, { lampDocument [.setVariable "level" (.observation ⟨.device 7, none, "level.v1"⟩ "percent"),
      .if (.compare (.variable "level") .greaterThan (.literal (.decimal "10"))) [switchLamp false] []] with
      vars := [("level", ⟨.decimal, none⟩)] }, ⟨[dimmerRecord], [], none⟩⟩

def dimmerEvaluator : EvaluatorHost where
  timeWindow := fun _ _ _ _ => .ok true
  decimalOrdering := fun left right =>
    let whole := fun text : String => (text.toList.takeWhile Char.isDigit).foldl
      (fun value digit => 10 * value + (digit.toNat - '0'.toNat)) 0
    some (compare (whole left) (whole right))
  conditionHash := fun _ _ => none

def dimmerSnapshot (percent : JsonValue) : FoundationSnapshot :=
  ⟨[dimmerRecord], [⟨7, "switch:0", ⟨"level", 1, .comfort⟩, [("percent", ⟨percent, 0⟩)], 0⟩], none⟩

def dimmerInputs (percent : JsonValue) (traceLength : ℕ) : StepInputs where
  clock := ⟨0, 0, 0, 0⟩
  traceLength := traceLength
  snapshot := some (dimmerSnapshot percent)
  timer := fun _ => some none
  recoverableTimers := some []
  commands := none

def dimmerOccurrence : AutomationOccurrence :=
  ⟨⟨1, 1, .schedule 0⟩, 1, 1, 0, 0, .accepted, none, .fresh 0, none, none⟩

def dimmerRun (plan : AutomationExecutionPlan) (percent : JsonValue) : ℕ → Option AutomationRun
  | 0 => some (newRun plan 1 dimmerOccurrence 0)
  | steps + 1 => (dimmerRun plan percent steps).bind (fun run =>
    match stepRun dimmerEvaluator plan run (dimmerInputs percent steps) with
    | .ok (_, some write) => some write.run
    | _ => none)

theorem dimmerRun_reached {allowed : StepInputs → Prop} {plan : AutomationExecutionPlan}
    (ha : ∀ steps, allowed (dimmerInputs percent steps)) {steps : ℕ} (h : dimmerRun plan percent steps = some run) :
    ReachesUnder allowed dimmerEvaluator plan run := by
  induction steps generalizing run with
  | zero =>
    cases h
    exact .fresh 1 dimmerOccurrence 0
  | succ steps ih =>
    rw [dimmerRun, Option.bind_eq_some_iff] at h
    obtain ⟨before, hbefore, hstep⟩ := h
    split at hstep
    · rename_i hs
      cases hstep
      exact .step (ih hbefore) (ha steps) hs
    · cases hstep

theorem dimmerSnapshot_conforms (h : FieldShape.number.admits percent) : (dimmerSnapshot percent).Conforms := by
  intro observation hmem field observed hlookup shape hshape
  rw [dimmerSnapshot, List.mem_singleton] at hmem
  subst hmem
  rw [lookup_cons_eq_ite] at hlookup
  split at hlookup
  · rename_i hfield
    cases hlookup
    have hschema : CapabilityDescriptor.schema ⟨"level", 1, .comfort⟩ = "level.v1" := by decide
    rw [hfield] at hshape
    dsimp only at hshape
    rw [hschema] at hshape
    cases hshape
    exact h
  · cases hlookup

theorem compiled_types_hold_dimmer : ∃ plan, compile dimmerEnv = .ok plan ∧
    ∃ run, dimmerRun plan (.number "50.5") 2 = some run ∧
      run.vars.lookup "level" = some (.decimal "50.5") ∧ VarsTyped plan.vars run.vars := by
  have hok : (compile dimmerEnv).toOption.any (fun plan =>
      (dimmerRun plan (.number "50.5") 2).any (fun run =>
        run.vars.lookup "level" == some (.decimal "50.5"))) = true := by decide +kernel
  obtain ⟨plan, hc, hrun⟩ := compile_of_any hok
  obtain ⟨run, hreached, hlevel⟩ := (Option.any_eq_true _ _).mp hrun
  have hagrees : dimmerEvaluator.Agrees dimmerEnv.host :=
    ⟨fun _ _ _ _ => ⟨_, rfl⟩, fun _ _ _ _ _ _ _ => ⟨_, rfl⟩⟩
  have hnumber : jsonNumber "50.5" = true := by decide +kernel
  have hreads : ∀ steps, ReadsConforming (dimmerInputs (.number "50.5") steps) := by
    intro steps snapshot hsnapshot
    cases hsnapshot
    exact dimmerSnapshot_conforms hnumber
  have hall := (compiled_types_hold dimmerEnv plan hc (by decide) dimmerEvaluator hagrees).2 run
    (dimmerRun_reached hreads hreached)
  exact ⟨plan, hc, run, hreached, by simpa using hlevel, hall.1⟩

end HomeMagic
