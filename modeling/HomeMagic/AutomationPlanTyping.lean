import HomeMagic.AutomationCompiledPlan

/-! The types compilation assigns: expressions and conditions of a compiled plan are typed
against the declared variables and the table of observation fields. -/
namespace HomeMagic
open List

variable {c a b : Compiler} {path : String} {resolved : List ResolvedAutomationTarget}
  {target : AutomationTargetReference}

def jsonNumber (text : String) : Bool :=
  let unsigned := match text.toList with
    | '-' :: rest => rest
    | chars => chars
  let digits := fun chars : List Char => !chars.isEmpty && chars.all Char.isDigit
  let mantissa := unsigned.takeWhile (fun char => char != 'e')
  let exponent := match unsigned.dropWhile (fun char => char != 'e') with
    | 'e' :: '-' :: rest => digits rest
    | 'e' :: '+' :: rest => digits rest
    | 'e' :: rest => digits rest
    | _ => true
  exponent && match mantissa.splitOn '.' with
    | [integer] => digits integer
    | [integer, fraction] => digits integer && digits fraction
    | _ => false

def numeral (text : String) : Bool := canonicalDecimal text || jsonNumber text

def HasType (type : AutomationValueType) (value : AutomationValue) : Prop :=
  value.valueType = type ∧ ∀ text, value = .decimal text → numeral text

def fieldType (capability field : String) : Option AutomationValueType :=
  (Compiler.new.validateObservationField capability field "").1

theorem validateObservationField_fst (c : Compiler) (capability field path : String) :
    (c.validateObservationField capability field path).1 = fieldType capability field := by
  unfold fieldType Compiler.validateObservationField
  split
  · rfl
  split
  · rfl
  split <;> rfl

def ExpressionTyped (vars : List (String × AutomationVariableDefinition)) :
    ResolvedAutomationExpression → AutomationValueType → Prop
  | .literal value, type => HasType type value
  | .variable name, type => ∃ definition, vars.lookup name = some definition ∧
    definition.valueType = type
  | .observation targets field, type => ∃ target, targets = [target] ∧
    fieldType target.capability field = some type

section Typing
variable (host : CompilerHost) (vars : List (String × AutomationVariableDefinition))

mutual
def ConditionTyped : ResolvedAutomationCondition → Prop
  | .literal _ => True
  | .compare left _ right => ∃ type, ExpressionTyped vars left type ∧ ExpressionTyped vars right type
  | .all conditions | .any conditions => ConditionsTyped conditions
  | .not condition => ConditionTyped condition
  | .timeWindow timezone start stop => host.timezoneValid timezone ∧ host.localTimeValid start ∧
    host.localTimeValid stop
  | .stateDuration condition _ => ConditionTyped condition

def ConditionsTyped : List ResolvedAutomationCondition → Prop
  | [] => True
  | condition :: rest => ConditionTyped condition ∧ ConditionsTyped rest
end

def NodeTyped : AutomationPlanNodeKind → Prop
  | .branch condition _ _ _ | .wait condition _ _ _ => ConditionTyped host vars condition
  | .setVariable name value _ => ∃ definition, vars.lookup name = some definition ∧
    ExpressionTyped vars value definition.valueType
  | _ => True

end Typing

section Compilation
variable {e : CompilerEnv}

theorem validateValue_typed {value : AutomationValue} (hf : (c.validateValue value path).findings = []) :
    HasType value.valueType value := by
  refine ⟨rfl, ?_⟩
  rintro text rfl
  have hcanonical : canonicalDecimal text = true := by
    by_contra hnot
    have hbad : (c.validateValue (.decimal text) path).findings ≠ [] := by
      simp [Compiler.validateValue, hnot]
    exact hbad hf
  rw [numeral, hcanonical, Bool.true_or]

theorem resolveEndpoints_capability {devices : List DeviceRecord}
    (h : (resolveEndpoints target path devices c).1 = some resolved) :
    ∀ entry ∈ resolved, entry.capability = target.capability := by
  induction devices generalizing resolved with
  | nil =>
    cases h
    exact fun _ hmem => absurd hmem not_mem_nil
  | cons device rest ih =>
    simp only [resolveEndpoints] at h
    split at h
    · cases h
    split at h
    · cases h
    obtain ⟨tail, htail, rfl⟩ := Option.map_eq_some_iff.mp h
    intro entry hmem
    rcases mem_append.mp hmem with hmem | hmem
    · obtain ⟨endpoint, _, rfl⟩ := List.mem_map.mp hmem
      rfl
    · exact ih htail entry hmem

theorem targetsOf_capability (h : targetsOf e target = some resolved) :
    ∀ entry ∈ resolved, entry.capability = target.capability := by
  simp only [targetsOf, resolveTarget] at h
  split at h
  · cases h
  split at h
  · cases h
  split at h
  · cases h
  obtain ⟨unsorted, hunsorted, rfl⟩ := Option.map_eq_some_iff.mp h
  intro entry hmem
  exact resolveEndpoints_capability hunsorted entry ((mem_insertionSort _).mp hmem)

theorem compileExpression_typed {expression : AutomationExpression} {resolved : ResolvedAutomationExpression}
    {type : AutomationValueType} (h : (compileExpression e expression path c).1 = some (resolved, type))
    (hf : (compileExpression e expression path c).2.findings = []) :
    ExpressionTyped e.document.vars resolved type := by
  cases expression with
  | literal value =>
    cases h
    exact validateValue_typed hf
  | «variable» name =>
    simp only [compileExpression] at h
    split at h
    · rename_i definition hlookup
      cases h
      exact ⟨definition, hlookup, rfl⟩
    · cases h
  | observation target field =>
    simp only [compileExpression] at h
    split at h
    · rename_i targets valueType htargets htype
      split at h
      · rename_i hone
        cases h
        rw [validateObservationField_fst] at htype
        rw [resolveTarget_fst] at htargets
        obtain ⟨only, rfl⟩ := length_eq_one_iff.mp hone
        have hcapability := targetsOf_capability htargets only (mem_singleton.mpr rfl)
        exact ⟨only, rfl, by rw [hcapability]; exact htype⟩
      · cases h
    · cases h

def CompilesTyped (e : CompilerEnv)
    (nested : AutomationCondition → String → Compiler → Option ResolvedAutomationCondition × Compiler) :
    Prop :=
  ∀ condition path c, Checks c (nested condition path c).2 ∧ ∀ resolved,
    (nested condition path c).1 = some resolved → (nested condition path c).2.findings = [] →
      ConditionTyped e.host e.document.vars resolved

theorem conditionsTyped_append {host : CompilerHost}
    {vars : List (String × AutomationVariableDefinition)} {left right : List ResolvedAutomationCondition}
    (hl : ConditionsTyped host vars left) (hr : ConditionsTyped host vars right) :
    ConditionsTyped host vars (left ++ right) := by
  induction left with
  | nil => exact hr
  | cons condition rest ih =>
    rw [cons_append, ConditionsTyped]
    rw [ConditionsTyped] at hl
    exact ⟨hl.1, ih hl.2⟩

theorem compileEachCondition_typed
    {nested : AutomationCondition → String → Compiler → Option ResolvedAutomationCondition × Compiler}
    (hn : CompilesTyped e nested) (path : String) (index : ℕ) (conditions : List AutomationCondition)
    (c : Compiler) : Checks c (compileEachCondition nested path index conditions c).2 ∧
      ((compileEachCondition nested path index conditions c).2.findings = [] →
        ConditionsTyped e.host e.document.vars (compileEachCondition nested path index conditions c).1) := by
  induction conditions generalizing index c with
  | nil =>
    refine ⟨Checks.refl c, fun _ => ?_⟩
    rw [compileEachCondition, ConditionsTyped]
    trivial
  | cons condition rest ih =>
    simp only [compileEachCondition]
    obtain ⟨hhead, htyped⟩ := hn condition s!"{path}/conditions/{index}" c
    obtain ⟨htail, hrest⟩ := ih (index + 1) (nested condition s!"{path}/conditions/{index}" c).2
    refine ⟨hhead.trans htail, fun hf => conditionsTyped_append ?_ (hrest hf)⟩
    cases hsome : (nested condition s!"{path}/conditions/{index}" c).1 with
    | none =>
      rw [Option.toList_none, ConditionsTyped]
      trivial
    | some resolved =>
      rw [Option.toList_some, ConditionsTyped, ConditionsTyped]
      exact ⟨htyped resolved hsome (htail.no_findings hf), trivial⟩

theorem compileConditionList_typed
    {nested : AutomationCondition → String → Compiler → Option ResolvedAutomationCondition × Compiler}
    (hn : CompilesTyped e nested) {conditions : List AutomationCondition}
    {constructor : List ResolvedAutomationCondition → ResolvedAutomationCondition}
    (hc : ∀ resolved, ConditionsTyped e.host e.document.vars resolved →
      ConditionTyped e.host e.document.vars (constructor resolved))
    {resolved : ResolvedAutomationCondition}
    (h : (compileConditionList nested conditions path constructor c).1 = some resolved)
    (hf : (compileConditionList nested conditions path constructor c).2.findings = []) :
    ConditionTyped e.host e.document.vars resolved := by
  simp only [compileConditionList] at h hf
  generalize (if conditions.isEmpty then
    c.required s!"{path}/conditions" "condition list must not be empty" else c) = start at h hf
  split at h
  · cases h
    exact hc _ ((compileEachCondition_typed hn path 0 conditions start).2 hf)
  · cases h

/-- Compiled conditions are typed; by recursion on the nesting depth. -/
theorem compileCondition_typed (e : CompilerEnv) (room : ℕ) :
    CompilesTyped e (compileCondition e room) := by
  induction room with
  | zero =>
    intro condition path c
    refine ⟨finding_checks _ _ _ _ _ _, ?_⟩
    intro resolved h
    cases h
  | succ room ih =>
    intro condition path c
    refine ⟨(compileCondition_yields e (room + 1) condition path c).checks, ?_⟩
    intro resolved h hf
    cases condition with
    | literal value =>
      cases h
      rw [ConditionTyped]
      trivial
    | compare left operator right =>
      simp only [compileCondition] at h hf
      split at h
      · rename_i left' leftType right' rightType hl hr
        cases h
        rw [hl, hr] at hf
        dsimp only at hf
        -- the two type checks passed, so the operand types agree
        have hsame : leftType = rightType := by
          by_contra hne
          rw [if_pos hne] at hf
          have hbad : ∀ d : Compiler, d.findings ≠ [] → (if operator ≠ .equal ∧ operator ≠ .notEqual ∧
              (leftType = .null ∨ leftType = .boolean) then
              d.typeMismatch path "selected operator is not defined for this value type"
              else d).findings ≠ [] := by
            intro d hd
            split
            · exact finding_findings_ne_nil _ _ _ _ _ _
            · exact hd
          exact hbad _ (finding_findings_ne_nil _ _ _ _ _ _) hf
        have hclean : (compileExpression e right s!"{path}/right"
            (compileExpression e left s!"{path}/left" c).2).2.findings = [] := by
          refine Checks.no_findings ?_ hf
          exact (Checks.ite (finding_checks _ _ _ _ _ _) (Checks.refl _)).trans
            (Checks.ite (finding_checks _ _ _ _ _ _) (Checks.refl _))
        have hleft := (compileExpression_yields e right s!"{path}/right"
          (compileExpression e left s!"{path}/left" c).2).checks.no_findings hclean
        rw [ConditionTyped]
        exact ⟨leftType, compileExpression_typed hl hleft, hsame ▸ compileExpression_typed hr hclean⟩
      · cases h
    | all conditions | any conditions =>
      refine compileConditionList_typed ih (fun resolved hr => ?_) h hf
      rw [ConditionTyped]
      exact hr
    | not condition =>
      simp only [compileCondition] at h hf
      obtain ⟨inner, hinner, rfl⟩ := Option.map_eq_some_iff.mp h
      rw [ConditionTyped]
      exact (ih condition _ c).2 inner hinner hf
    | timeWindow timezone start stop =>
      simp only [compileCondition] at h hf
      cases h
      rw [ConditionTyped]
      split at hf
      · exact absurd hf (finding_findings_ne_nil _ _ _ _ _ _)
      · rename_i hvalid
        simpa [not_or] using hvalid
    | stateDuration condition durationMs =>
      simp only [compileCondition] at h hf
      obtain ⟨inner, hinner, rfl⟩ := Option.map_eq_some_iff.mp h
      rw [ConditionTyped]
      exact (ih condition _ _).2 inner hinner hf

def NodesTyped (e : CompilerEnv) (c : Compiler) : Prop :=
  ∀ node ∈ c.nodes, NodeTyped e.host e.document.vars node.kind

def KeepsTyped (e : CompilerEnv) (c c' : Compiler) : Prop :=
  c'.findings = [] → NodesTyped e c → NodesTyped e c'

theorem KeepsTyped.of_checks {c' : Compiler} (h : Checks c c') : KeepsTyped e c c' := by
  intro _ htyped
  rw [NodesTyped, h.nodes]
  exact htyped

theorem KeepsTyped.trans (h : KeepsTyped e a b) (hx : Extends b c) (h' : KeepsTyped e b c) : KeepsTyped e a c :=
  fun hf htyped => h' hf (h (hx.no_findings hf) htyped)

theorem KeepsTyped.push {kind : AutomationPlanNodeKind} (h : KeepsTyped e a b)
    (hkind : b.findings = [] → NodeTyped e.host e.document.vars kind) :
    KeepsTyped e a (b.pushNode kind).2 := by
  intro hf htyped node hmem
  rcases mem_append.mp hmem with hmem | hmem
  · exact h hf htyped node hmem
  · rw [mem_singleton.mp hmem]
    exact hkind hf

variable {nested : CompileNested}

def NestedTyped (e : CompilerEnv) (nested : CompileNested) : Prop :=
  ∀ actions next path c, KeepsTyped e c (nested actions next path c).2

theorem compileFailure_typed (hn : NestedTyped e nested) (policy : AutomationFailurePolicy)
    (next : Option AutomationPlanNodeId) (path : String) (c : Compiler) :
    KeepsTyped e c (compileFailure nested policy next path c).2 := by
  cases policy with
  | fallback actions =>
    simp only [compileFailure]
    have hfirst : Checks c (if actions.isEmpty then
        c.required s!"{path}/actions" "fallback actions must not be empty" else c) :=
      Checks.ite (finding_checks _ _ _ _ _ _) (Checks.refl c)
    intro hf htyped
    refine hn _ _ _ _ hf ?_
    rw [NodesTyped, hfirst.nodes]
    exact htyped
  | stopRun | stopBranch | «continue» => exact .of_checks (Checks.refl c)

theorem compileBranches_typed (hx : NestedExtends nested) (hn : NestedTyped e nested)
    (join : AutomationPlanNodeId) (path : String) (index : ℕ)
    (branches : List (List AutomationAction)) (c : Compiler) :
    KeepsTyped e c (compileBranches nested join path index branches c).2 := by
  induction branches generalizing index c with
  | nil => exact .of_checks (Checks.refl c)
  | cons branch rest ih =>
    simp only [compileBranches]
    have hfirst : Checks c (if branch.isEmpty then
        c.required s!"{path}/branches/{index}" "parallel branch must not be empty" else c) :=
      Checks.ite (finding_checks _ _ _ _ _ _) (Checks.refl c)
    refine KeepsTyped.trans ?_ (compileBranches_extends hx join path (index + 1) rest _) (ih _ _)
    exact (KeepsTyped.of_checks hfirst).trans (hx _ _ _ _) (hn _ _ _ _)

theorem compileGroup_typed (hx : NestedExtends nested) (hn : NestedTyped e nested)
    (kind : AutomationRunContinuationKind) (branches : List (List AutomationAction))
    (maximumParallel : ℕ) (next : Option AutomationPlanNodeId) (path : String) (c : Compiler) :
    KeepsTyped e c (compileGroup e nested kind branches maximumParallel next path c).2 := by
  unfold compileGroup
  dsimp only
  have hjoin : KeepsTyped e c ((validateGroup e branches maximumParallel path c).pushNode (.join next)).2 :=
    (KeepsTyped.of_checks (validateGroup_spec e branches maximumParallel path c).1).push
      (fun _ => trivial)
  refine KeepsTyped.push ?_ (fun _ => trivial)
  exact hjoin.trans (compileBranches_extends hx _ _ _ _ _) (compileBranches_typed hx hn _ _ _ _ _)

theorem compileCommand_typed (hx : NestedExtends nested) (hn : NestedTyped e nested)
    (target : AutomationTargetReference) (payload : CommandPayload) (retry : AutomationRetryPolicy)
    (onFailure : AutomationFailurePolicy) (next : Option AutomationPlanNodeId) (path : String)
    (segment : Option ℕ) (c : Compiler) :
    KeepsTyped e c (compileCommand e nested target payload retry onFailure next path segment c).2 := by
  simp only [compileCommand]
  have hresolve : Checks c (resolveTarget e target s!"{path}/target"
      (validateCommand target payload retry path c)).2 :=
    (validateCommand_spec target payload retry path c).1.trans (resolveTarget_yields e target _ _).checks
  have hfailure := (KeepsTyped.of_checks (e := e) hresolve).trans
    (compileFailure_extends hx onFailure next s!"{path}/on_failure" _)
    (compileFailure_typed hn onFailure next s!"{path}/on_failure" _)
  split
  · refine KeepsTyped.push ?_ (fun _ => trivial)
    exact hfailure.trans (classifyCommand_checks e target _ payload path _).extends
      (.of_checks (classifyCommand_checks e target _ payload path _))
  · exact hfailure

/-- An action keeps all compiled nodes typed when the lists nested in it do. -/
theorem compileAction_typed (hx : NestedExtends nested) (hn : NestedTyped e nested) (room : ℕ)
    (action : AutomationAction) (next : Option AutomationPlanNodeId) (path : String)
    (segment : Option ℕ) (c : Compiler) :
    KeepsTyped e c (compileAction e nested (compileCondition e room) action next path segment c).2 := by
  have hguard := compileCondition_typed e room
  cases action with
  | command target payload retry onFailure => exact compileCommand_typed hx hn _ _ _ _ _ _ _ _
  | delay durationMs =>
    exact (KeepsTyped.of_checks (validateTimer_checks c _ _)).push (fun _ => trivial)
  | wait guard timeoutMs onTimeout =>
    simp only [compileAction]
    obtain ⟨hchecks, htyped⟩ := hguard guard s!"{path}/condition"
      (c.validateTimer timeoutMs s!"{path}/timeout_ms")
    have hbefore : Checks c (compileCondition e room guard s!"{path}/condition"
        (c.validateTimer timeoutMs s!"{path}/timeout_ms")).2 :=
      (validateTimer_checks c timeoutMs _).trans hchecks
    have hx' := compileFailure_extends hx onTimeout next s!"{path}/on_timeout"
      (compileCondition e room guard s!"{path}/condition"
        (c.validateTimer timeoutMs s!"{path}/timeout_ms")).2
    have hfailure := (KeepsTyped.of_checks (e := e) hbefore).trans hx'
      (compileFailure_typed hn onTimeout next s!"{path}/on_timeout" _)
    split
    · rename_i compiled hcompiled
      exact hfailure.push (fun hf => htyped compiled hcompiled (hx'.no_findings hf))
    · exact hfailure
  | setVariable name value =>
    simp only [compileAction]
    have hchecks := (compileExpression_yields e value s!"{path}/value" c).checks
    split
    · exact .of_checks (hchecks.trans (finding_checks _ _ _ _ _ _))
    · rename_i definition compiled valueType hlookup hvalue
      have hafter : Checks (compileExpression e value s!"{path}/value" c).2
          (if definition.valueType ≠ valueType then
            (compileExpression e value s!"{path}/value" c).2.typeMismatch s!"{path}/value"
              "assigned expression does not match the variable type"
            else (compileExpression e value s!"{path}/value" c).2) :=
        Checks.ite (finding_checks _ _ _ _ _ _) (Checks.refl _)
      refine (KeepsTyped.of_checks (hchecks.trans hafter)).push (fun hf => ?_)
      have hclean := hafter.no_findings hf
      split at hf
      · exact absurd hf (finding_findings_ne_nil _ _ _ _ _ _)
      · rename_i hsame
        rw [not_not] at hsame
        exact ⟨definition, hlookup, hsame ▸ compileExpression_typed hvalue hclean⟩
    · exact .of_checks hchecks
  | sequence actions => exact hn _ _ _ _
  | «if» guard thenActions elseActions =>
    simp only [compileAction]
    have hjoin : KeepsTyped e c ((validateBranch guard path c).pushNode (.join next)).2 :=
      (KeepsTyped.of_checks (validateBranch_checks guard path c)).push (fun _ => trivial)
    generalize (validateBranch guard path c).pushNode (.join next) = join at hjoin ⊢
    have hthen := hjoin.trans (hx (reduceActions thenActions) (some join.1) s!"{path}/then_actions" _)
      (hn _ _ _ _)
    generalize nested (reduceActions thenActions) (some join.1) s!"{path}/then_actions" join.2 =
      thenNode at hthen ⊢
    have helse := hthen.trans (hx (reduceActions elseActions) (some join.1) s!"{path}/else_actions" _)
      (hn _ _ _ _)
    generalize nested (reduceActions elseActions) (some join.1) s!"{path}/else_actions" thenNode.2 =
      elseNode at helse ⊢
    obtain ⟨hchecks, htyped⟩ := hguard guard s!"{path}/condition" elseNode.2
    have hall := helse.trans hchecks.extends (.of_checks hchecks)
    split
    · rename_i compiled hcompiled
      exact hall.push (fun hf => htyped compiled hcompiled hf)
    · exact hall
  | parallel branches maximumParallel | race branches maximumParallel =>
    exact compileGroup_typed hx hn _ _ _ _ _ _

theorem compileReversed_typed
    {compileOne : AutomationAction → Option AutomationPlanNodeId → String → Option ℕ → Compiler →
      Option AutomationPlanNodeId × Compiler}
    (hx : ∀ action next path segment c, Extends c (compileOne action next path segment c).2)
    (hn : ∀ action next path segment c, KeepsTyped e c (compileOne action next path segment c).2)
    (path : String) (index : ℕ) (actions : List (AutomationAction × Option ℕ))
    (next : Option AutomationPlanNodeId) (c : Compiler) :
    KeepsTyped e c (compileReversed compileOne path index actions next c).2 := by
  induction actions generalizing index with
  | nil => exact .of_checks (Checks.refl c)
  | cons entry rest ih => exact (ih (index + 1)).trans (hx _ _ _ _ _) (hn _ _ _ _ _)

theorem compileActions_typed (e : CompilerEnv) (room : ℕ) : NestedTyped e (compileActions e room) := by
  induction room with
  | zero => exact fun _ _ _ _ => .of_checks (finding_checks _ _ _ _ _ _)
  | succ room ih =>
    intro actions next path c
    have hx := compileActions_extends e room
    have hsegments := (assignSegments_spec actions none c).1
    simp only [compileActions]
    exact (KeepsTyped.of_checks hsegments).trans
      (compileReversed_extends _ (compileAction_extends e hx room) _ _ _ _ _)
      (compileReversed_typed (compileAction_extends e hx room) (compileAction_typed hx ih room) _ _ _ _ _)

end Compilation

def InitialTyped (definition : AutomationVariableDefinition) : Prop :=
  ∀ value, definition.initial = some value → HasType definition.valueType value

theorem validateVariables_typed {vars : List (String × AutomationVariableDefinition)}
    (hf : (validateVariables c vars).findings = []) : ∀ entry ∈ vars, InitialTyped entry.2 := by
  induction vars generalizing c with
  | nil => exact fun _ hmem => absurd hmem not_mem_nil
  | cons entry rest ih =>
    obtain ⟨name, definition⟩ := entry
    simp only [validateVariables] at hf
    intro entry hmem
    rcases mem_cons.mp hmem with rfl | hmem
    · have hclean := (validateVariables_checks _ rest).no_findings hf
      intro value hvalue
      have hinitial : definition.initial = some value := hvalue
      simp only [hinitial] at hclean
      split at hclean
      · exact absurd hclean (finding_findings_ne_nil _ _ _ _ _ _)
      · rename_i hsame
        rw [not_not] at hsame
        rw [← hsame]
        exact validateValue_typed hclean
    · exact ih hf entry hmem

structure PlanTyped (host : CompilerHost) (plan : AutomationExecutionPlan) : Prop where
  nodes : ∀ node ∈ plan.nodes, NodeTyped host plan.vars node.kind
  guard : ∀ condition, plan.condition = some condition → ConditionTyped host plan.vars condition
  initial : ∀ entry ∈ plan.vars, InitialTyped entry.2

theorem compile_typed {e : CompilerEnv} {plan : AutomationExecutionPlan} (h : compile e = .ok plan) :
    PlanTyped e.host plan := by
  have hnodes := compile_nodes h
  obtain ⟨hf, _, entry, documentHash, planHash, _, rfl⟩ := compile_ok h
  have hx := compileActions_extends e e.document.budget.maximumNestingDepth
  simp only [compileBody] at hf hnodes ⊢
  have hguard := (hx _ _ _ _).no_findings hf
  rw [pushNode_findings] at hguard
  have hcomplete : KeepsTyped e (compileGuard e (compileTriggers e 0 e.document.triggers
      (validateStructure e .new)).2).2 ((compileGuard e (compileTriggers e 0 e.document.triggers
      (validateStructure e .new)).2).2.pushNode .complete).2 :=
    (KeepsTyped.of_checks (Checks.refl _)).push (fun _ => trivial)
  have hstart : (compileGuard e (compileTriggers e 0 e.document.triggers
      (validateStructure e .new)).2).2.nodes = [] := by
    rw [(compileGuard_spec e _).1.nodes, (compileTriggers_spec e 0 _ _).1.nodes,
      (validateStructure_spec e .new).1.nodes]
    rfl
  refine ⟨?_, ?_, ?_⟩
  · rw [hnodes]
    have htyped := hcomplete.trans (hx (reduceActions e.document.actions) _ "/actions" _)
      (compileActions_typed e _ _ _ _ _) hf
    refine htyped ?_
    intro node hmem
    rw [hstart] at hmem
    exact absurd hmem not_mem_nil
  · intro condition hcondition
    have hcompiled : (compileGuard e (compileTriggers e 0 e.document.triggers
        (validateStructure e .new)).2).1 = some condition := hcondition
    unfold compileGuard at hcompiled hguard
    split at hcompiled
    · rename_i authored hauthored
      rw [hauthored] at hguard
      exact (compileCondition_typed e _ authored _ _).2 condition hcompiled hguard
    · cases hcompiled
  · have htriggers := (compileGuard_spec e _).1.no_findings hguard
    have hstructure := (compileTriggers_spec e 0 _ _).1.no_findings htriggers
    exact validateVariables_typed hstructure

end HomeMagic
