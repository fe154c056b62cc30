import HomeMagic.AutomationCompile

/-! What a compiler call does to the compiler's state. Findings and nodes only
grow, and a call that returns nothing has reported a finding. -/
namespace HomeMagic
open List

variable {c c' a b : Compiler} {α : Type} {P : α → Prop} {r : Option α × Compiler}

structure Checks (c c' : Compiler) : Prop where
  findings : c.findings <+: c'.findings
  nodes : c'.nodes = c.nodes

structure Extends (c c' : Compiler) : Prop where
  findings : c.findings <+: c'.findings
  nodes : c.nodes <+: c'.nodes

theorem Checks.refl (c : Compiler) : Checks c c := ⟨prefix_rfl, rfl⟩

theorem Checks.trans (hab : Checks a b) (hbc : Checks b c) : Checks a c :=
  ⟨hab.findings.trans hbc.findings, hbc.nodes.trans hab.nodes⟩

theorem Checks.extends (h : Checks c c') : Extends c c' :=
  ⟨h.findings, h.nodes ▸ prefix_rfl⟩

theorem Extends.refl (c : Compiler) : Extends c c := (Checks.refl c).extends

theorem Extends.trans (hab : Extends a b) (hbc : Extends b c) : Extends a c :=
  ⟨hab.findings.trans hbc.findings, hab.nodes.trans hbc.nodes⟩

theorem Extends.no_findings (h : Extends c c') (hc : c'.findings = []) :
    c.findings = [] := by
  have hp := h.findings
  rw [hc] at hp
  exact prefix_nil.mp hp

theorem Checks.no_findings (h : Checks c c') (hc : c'.findings = []) :
    c.findings = [] := h.extends.no_findings hc

theorem Extends.found (h : Extends c c') (hc : c.findings ≠ []) :
    c'.findings ≠ [] := fun hn => hc (h.no_findings hn)

theorem Extends.length_le (h : Extends c c') :
    c.nodes.length ≤ c'.nodes.length := h.nodes.length_le

theorem Checks.ite {p : Prop} [Decidable p] (ha : Checks c a) (hb : Checks c b) :
    Checks c (if p then a else b) := by
  split
  · exact ha
  · exact hb

theorem finding_checks (c : Compiler) (code : AutomationValidationCode) (path reason : String)
    (remediation reference : Option String) :
    Checks c (c.finding code path reason remediation reference) :=
  ⟨prefix_append _ _, rfl⟩

@[simp] theorem finding_findings_ne_nil (c : Compiler) (code : AutomationValidationCode)
    (path reason : String) (remediation reference : Option String) :
    (c.finding code path reason remediation reference).findings ≠ [] := by
  simp [Compiler.finding]

theorem require_checks (c : Compiler) (requirement : AutomationSafetyRequirement) :
    Checks c (c.require requirement) := ⟨prefix_rfl, rfl⟩

theorem profile_checks (c : Compiler) (profile : AutomationSafetyProfile) :
    Checks c (c.profile profile) := ⟨prefix_rfl, rfl⟩

theorem validateTimer_checks (c : Compiler) (durationMs : ℕ) (path : String) :
    Checks c (c.validateTimer durationMs path) :=
  Checks.ite (finding_checks _ _ _ _ _ _) (Checks.refl c)

theorem validateValue_checks (c : Compiler) (value : AutomationValue) (path : String) :
    Checks c (c.validateValue value path) := by
  cases value with
  | decimal text => exact Checks.ite (Checks.refl c) (finding_checks _ _ _ _ _ _)
  | durationMillis duration => exact validateTimer_checks c duration path
  | _ => exact Checks.refl c

theorem pushNode_extends (c : Compiler) (kind : AutomationPlanNodeKind) :
    Extends c (c.pushNode kind).2 := ⟨prefix_rfl, prefix_append _ _⟩

@[simp] theorem pushNode_findings (c : Compiler) (kind : AutomationPlanNodeKind) :
    (c.pushNode kind).2.findings = c.findings := rfl

@[simp] theorem pushNode_length (c : Compiler) (kind : AutomationPlanNodeKind) :
    (c.pushNode kind).2.nodes.length = c.nodes.length + 1 := by
  simp [Compiler.pushNode]

/-- The contract of a checking call: a returned value satisfies `P`, and nothing
is returned only together with a finding. -/
structure Yields {α : Type} (P : α → Prop) (c : Compiler) (r : Option α × Compiler) : Prop where
  checks : Checks c r.2
  missing : r.1 = none → r.2.findings ≠ []
  value : ∀ a, r.1 = some a → P a

theorem Yields.obtain (h : Yields P c r) (hc : r.2.findings = []) : ∃ a, r.1 = some a ∧ P a := by
  cases hr : r.1 with
  | none => exact absurd hc (h.missing hr)
  | some a => exact ⟨a, rfl, h.value a hr⟩

theorem Yields.some {α : Type} {P : α → Prop} {c c' : Compiler} {a : α} (h : Checks c c')
    (ha : P a) : Yields P c (some a, c') := by
  refine ⟨h, ?_, ?_⟩
  · intro hn
    exact absurd hn (by simp)
  · intro b hb
    exact Option.some.inj hb ▸ ha

theorem Yields.none {α : Type} {P : α → Prop} {c c' : Compiler} (h : Checks c c')
    (hc : c'.findings ≠ []) : Yields P c (none, c') := by
  refine ⟨h, fun _ => hc, ?_⟩
  intro a ha
  exact absurd ha (by simp)

theorem Yields.map {β : Type} {Q : β → Prop} (f : α → β) (h : Yields P c r) (hf : ∀ a, P a → Q (f a)) :
    Yields Q c (r.1.map f, r.2) := by
  refine ⟨h.checks, ?_, ?_⟩
  · intro hn
    exact h.missing (Option.map_eq_none_iff.mp hn)
  · intro b hb
    obtain ⟨a, ha, rfl⟩ := Option.map_eq_some_iff.mp hb
    exact hf a (h.value a ha)

theorem Yields.mono_start (hc : Checks c c') (h : Yields P c' r) : Yields P c r :=
  ⟨hc.trans h.checks, h.missing, h.value⟩

theorem Yields.mono_end {d : Compiler} (h : Yields P c r) (hd : Checks r.2 d) : Yields P c (r.1, d) :=
  ⟨h.checks.trans hd, fun hn => hd.extends.found (h.missing hn), h.value⟩

theorem validateObservationField_yields (c : Compiler) (capability field path : String) :
    Yields (fun _ => True) c (c.validateObservationField capability field path) := by
  unfold Compiler.validateObservationField
  split
  · exact Yields.some (Checks.refl c) trivial
  · split
    · exact Yields.some (Checks.refl c) trivial
    · split
      · exact Yields.some (Checks.refl c) trivial
      · exact Yields.none (finding_checks _ _ _ _ _ _) (finding_findings_ne_nil _ _ _ _ _ _)

def targetsOf (e : CompilerEnv) (target : AutomationTargetReference) :
    Option (List ResolvedAutomationTarget) := (resolveTarget e target "" .new).1

theorem resolveEndpoints_fst (target : AutomationTargetReference) (path : String)
    (devices : List DeviceRecord) (c : Compiler) :
    (resolveEndpoints target path devices c).1 = (resolveEndpoints target "" devices .new).1 := by
  induction devices with
  | nil => rfl
  | cons device rest ih =>
    simp only [resolveEndpoints]
    split
    · rfl
    · split
      · rfl
      · rw [ih]

theorem resolveEndpoints_yields (target : AutomationTargetReference) (path : String)
    (devices : List DeviceRecord) (c : Compiler) :
    Yields (fun _ => True) c (resolveEndpoints target path devices c) := by
  induction devices with
  | nil => exact Yields.some (Checks.refl c) trivial
  | cons device rest ih =>
    simp only [resolveEndpoints]
    split
    · exact Yields.none (finding_checks _ _ _ _ _ _) (finding_findings_ne_nil _ _ _ _ _ _)
    · split
      · exact Yields.none (finding_checks _ _ _ _ _ _) (finding_findings_ne_nil _ _ _ _ _ _)
      · exact ih.map _ (fun _ _ => trivial)

theorem resolveTarget_fst (e : CompilerEnv) (target : AutomationTargetReference) (path : String)
    (c : Compiler) : (resolveTarget e target path c).1 = targetsOf e target := by
  simp only [targetsOf, resolveTarget]
  split
  · rfl
  · split
    · rfl
    · split
      · rfl
      · rw [resolveEndpoints_fst]

theorem resolveTarget_yields (e : CompilerEnv) (target : AutomationTargetReference) (path : String)
    (c : Compiler) :
    Yields (fun resolved => targetsOf e target = some resolved) c (resolveTarget e target path c) := by
  have hv : ∀ a, (resolveTarget e target path c).1 = some a → targetsOf e target = some a := by
    intro a ha
    rw [← resolveTarget_fst e target path c, ha]
  have hy : Yields (fun _ => True) c (resolveTarget e target path c) := by
    simp only [resolveTarget]
    split
    · exact Yields.none (finding_checks _ _ _ _ _ _) (finding_findings_ne_nil _ _ _ _ _ _)
    · split
      · exact Yields.none (finding_checks _ _ _ _ _ _) (finding_findings_ne_nil _ _ _ _ _ _)
      · split
        · exact Yields.none (finding_checks _ _ _ _ _ _) (finding_findings_ne_nil _ _ _ _ _ _)
        · exact (resolveEndpoints_yields target path _ c).map _ (fun _ _ => trivial)
  exact ⟨hy.checks, hy.missing, hv⟩

def ExpressionKept (e : CompilerEnv) :
    AutomationExpression → ResolvedAutomationExpression → Prop
  | .literal value, .literal value' => value = value'
  | .variable name, .variable name' => name = name'
  | .observation target field, .observation targets field' =>
    targetsOf e target = some targets ∧ targets.length = 1 ∧ field = field'
  | _, _ => False

mutual
def ConditionKept (e : CompilerEnv) : AutomationCondition → ResolvedAutomationCondition → Prop
  | .literal value, .literal value' => value = value'
  | .compare left operator right, .compare left' operator' right' =>
    ExpressionKept e left left' ∧ operator = operator' ∧ ExpressionKept e right right'
  | .all conditions, .all conditions' => ConditionsKept e conditions conditions'
  | .any conditions, .any conditions' => ConditionsKept e conditions conditions'
  | .not condition, .not condition' => ConditionKept e condition condition'
  | .timeWindow timezone start stop, .timeWindow timezone' start' stop' =>
    timezone = timezone' ∧ start = start' ∧ stop = stop'
  | .stateDuration condition durationMs, .stateDuration condition' durationMs' =>
    ConditionKept e condition condition' ∧ durationMs = durationMs'
  | _, _ => False

def ConditionsKept (e : CompilerEnv) :
    List AutomationCondition → List ResolvedAutomationCondition → Prop
  | [], [] => True
  | condition :: rest, condition' :: rest' =>
    ConditionKept e condition condition' ∧ ConditionsKept e rest rest'
  | _, _ => False
end

theorem compileExpression_yields (e : CompilerEnv) (expression : AutomationExpression)
    (path : String) (c : Compiler) :
    Yields (fun r => ExpressionKept e expression r.1) c (compileExpression e expression path c) := by
  cases expression with
  | literal value => exact Yields.some (validateValue_checks c value _) rfl
  | «variable» name =>
    simp only [compileExpression]
    split
    · exact Yields.some (Checks.refl c) rfl
    · exact Yields.none (finding_checks _ _ _ _ _ _) (finding_findings_ne_nil _ _ _ _ _ _)
  | observation target field =>
    simp only [compileExpression]
    have hf := validateObservationField_yields c target.capability field s!"{path}/field"
    generalize c.validateObservationField target.capability field s!"{path}/field" = type at hf ⊢
    have ht := resolveTarget_yields e target s!"{path}/target" type.2
    generalize resolveTarget e target s!"{path}/target" type.2 = targets at ht ⊢
    have hc : Checks c targets.2 := hf.checks.trans ht.checks
    split
    · rename_i resolved valueType hr hv
      split
      · rename_i hl
        exact Yields.some hc ⟨ht.value resolved hr, hl, rfl⟩
      · exact Yields.none (hc.trans (finding_checks _ _ _ _ _ _)) (finding_findings_ne_nil _ _ _ _ _ _)
    · rename_i hn
      refine Yields.none hc ?_
      cases hr : targets.1 with
      | none => exact ht.missing hr
      | some resolved =>
        cases hv : type.1 with
        | none => exact ht.checks.extends.found (hf.missing hv)
        | some valueType => exact absurd hv (hn resolved valueType hr)

theorem compileEachCondition_spec (e : CompilerEnv)
    (nested : AutomationCondition → String → Compiler → Option ResolvedAutomationCondition × Compiler)
    (hn : ∀ condition path c, Yields (ConditionKept e condition) c (nested condition path c))
    (path : String) (index : ℕ) (conditions : List AutomationCondition) (c : Compiler) :
    Checks c (compileEachCondition nested path index conditions c).2 ∧
    (compileEachCondition nested path index conditions c).1.length ≤ conditions.length ∧
    ((compileEachCondition nested path index conditions c).1.length = conditions.length →
      ConditionsKept e conditions (compileEachCondition nested path index conditions c).1) ∧
    ((compileEachCondition nested path index conditions c).2.findings = [] →
      (compileEachCondition nested path index conditions c).1.length = conditions.length) := by
  induction conditions generalizing index c with
  | nil =>
    refine ⟨Checks.refl c, Nat.le_refl 0, ?_, fun _ => rfl⟩
    intro _
    simp only [compileEachCondition, ConditionsKept]
  | cons condition rest ih =>
    simp only [compileEachCondition]
    have hh := hn condition s!"{path}/conditions/{index}" c
    generalize nested condition s!"{path}/conditions/{index}" c = head at hh ⊢
    obtain ⟨htc, htl, htk, htf⟩ := ih (index+1) head.2
    generalize compileEachCondition nested path (index+1) rest head.2 = tail at htc htl htk htf ⊢
    refine ⟨hh.checks.trans htc, ?_, ?_, ?_⟩
    · cases head.1 <;> simp <;> omega
    · intro hl
      cases hr : head.1 with
      | none => simp [hr] at hl; omega
      | some resolved =>
        simp only [hr, Option.toList_some, singleton_append, length_cons,
          Nat.add_right_cancel_iff] at hl
        simp only [Option.toList_some, singleton_append, ConditionsKept]
        exact ⟨hh.value resolved hr, htk hl⟩
    · intro hf
      obtain ⟨resolved, hr, _⟩ := hh.obtain (htc.no_findings hf)
      simp [hr, htf hf]

theorem compileConditionList_yields (e : CompilerEnv)
    (nested : AutomationCondition → String → Compiler → Option ResolvedAutomationCondition × Compiler)
    (hn : ∀ condition path c, Yields (ConditionKept e condition) c (nested condition path c))
    (conditions : List AutomationCondition) (path : String)
    (constructor : List ResolvedAutomationCondition → ResolvedAutomationCondition)
    (P : ResolvedAutomationCondition → Prop)
    (hP : ∀ resolved, ConditionsKept e conditions resolved → P (constructor resolved))
    (c : Compiler) : Yields P c (compileConditionList nested conditions path constructor c) := by
  simp only [compileConditionList]
  have hc : Checks c (if conditions.isEmpty then
      c.required s!"{path}/conditions" "condition list must not be empty" else c) :=
    Checks.ite (finding_checks _ _ _ _ _ _) (Checks.refl c)
  generalize (if conditions.isEmpty then
    c.required s!"{path}/conditions" "condition list must not be empty" else c) = c' at hc ⊢
  obtain ⟨hec, _, hek, hef⟩ := compileEachCondition_spec e nested hn path 0 conditions c'
  generalize compileEachCondition nested path 0 conditions c' = compiled at hec hek hef ⊢
  split
  · rename_i hl
    exact Yields.some (hc.trans hec) (hP _ (hek hl))
  · rename_i hl
    exact Yields.none (hc.trans hec) (fun hf => hl (hef hf))

/-- What compiling a condition returns, by recursion on the nesting depth. -/
theorem compileCondition_yields (e : CompilerEnv) (room : ℕ) (condition : AutomationCondition)
    (path : String) (c : Compiler) :
    Yields (ConditionKept e condition) c (compileCondition e room condition path c) := by
  induction room generalizing condition path c with
  | zero =>
    simp only [compileCondition]
    exact Yields.none (finding_checks _ _ _ _ _ _) (finding_findings_ne_nil _ _ _ _ _ _)
  | succ room ih =>
    cases condition with
    | literal value =>
      simp only [compileCondition]
      exact Yields.some (Checks.refl c) (by simp only [ConditionKept])
    | compare left operator right =>
      simp only [compileCondition]
      have hl := compileExpression_yields e left s!"{path}/left" c
      generalize compileExpression e left s!"{path}/left" c = l at hl ⊢
      have hr := compileExpression_yields e right s!"{path}/right" l.2
      generalize compileExpression e right s!"{path}/right" l.2 = r at hr ⊢
      have hc : Checks c r.2 := hl.checks.trans hr.checks
      split
      · rename_i left' leftType right' rightType hl' hr'
        refine Yields.some ?_ ?_
        · exact (hc.trans (Checks.ite (finding_checks _ _ _ _ _ _) (Checks.refl _))).trans
            (Checks.ite (finding_checks _ _ _ _ _ _) (Checks.refl _))
        · simp only [ConditionKept, true_and]
          exact ⟨hl.value _ hl', hr.value _ hr'⟩
      · rename_i hn
        refine Yields.none hc ?_
        cases hl' : l.1 with
        | none => exact hr.checks.extends.found (hl.missing hl')
        | some left' =>
          cases hr' : r.1 with
          | none => exact hr.missing hr'
          | some right' => exact absurd hr' (hn left'.1 left'.2 right'.1 right'.2 hl')
    | all conditions =>
      simp only [compileCondition]
      exact compileConditionList_yields e _ ih conditions path .all _
        (fun resolved h => by simpa only [ConditionKept] using h) c
    | any conditions =>
      simp only [compileCondition]
      exact compileConditionList_yields e _ ih conditions path .any _
        (fun resolved h => by simpa only [ConditionKept] using h) c
    | not condition =>
      simp only [compileCondition]
      exact (ih condition _ c).map _ (fun resolved h => by simpa only [ConditionKept] using h)
    | timeWindow timezone start stop =>
      simp only [compileCondition]
      refine Yields.some (Checks.ite (finding_checks _ _ _ _ _ _) (Checks.refl c)) ?_
      simp only [ConditionKept, and_self]
    | stateDuration condition durationMs =>
      simp only [compileCondition]
      refine Yields.mono_start (validateTimer_checks c durationMs s!"{path}/duration_ms") ?_
      exact (ih condition _ _).map _ (fun resolved h => by
        simp only [ConditionKept, and_true]
        exact h)

theorem classifyCommand_checks (e : CompilerEnv) (target : AutomationTargetReference)
    (resolved : List ResolvedAutomationTarget) (payload : CommandPayload) (path : String)
    (c : Compiler) : Checks c (classifyCommand e target resolved payload path c) := by
  simp only [classifyCommand]
  split
  · exact profile_checks c _
  · split
    · exact profile_checks c _
    · split
      · exact profile_checks c _
      · split
        · rename_i command
          have hs : Checks c ((c.require .freshState).require .stopSupport) :=
            (require_checks _ _).trans (require_checks _ _)
          refine Checks.trans ?_ (profile_checks _ _)
          split
          · refine hs.trans (((require_checks _ .calibration).trans (require_checks _ .position)).trans ?_)
            exact Checks.ite (Checks.refl _) (finding_checks _ _ _ _ _ _)
          · exact hs
        · exact profile_checks c _

def TriggerKept (e : CompilerEnv) : AutomationTrigger → ResolvedAutomationTrigger → Prop
  | .observationChanged target field, .observationChanged targets field' =>
    targetsOf e target = some targets ∧ field = field'
  | .deviceEvent target event, .deviceEvent targets event' =>
    targetsOf e target = some targets ∧ event = event'
  | .schedule schedule, .schedule schedule' => schedule = schedule'
  | .commandOutcome none states, .commandOutcome none states' => states = states'
  | .commandOutcome (some target) states, .commandOutcome (some targets) states' =>
    targetsOf e target = some targets ∧ states = states'
  | _, _ => False

theorem compileTrigger_yields (e : CompilerEnv) (trigger : AutomationTrigger) (path : String)
    (c : Compiler) : Yields (TriggerKept e trigger) c (compileTrigger e trigger path c) := by
  cases trigger with
  | observationChanged target field =>
    simp only [compileTrigger]
    have ht := resolveTarget_yields e target s!"{path}/target" c
    generalize resolveTarget e target s!"{path}/target" c = targets at ht ⊢
    have hm := ht.map (fun resolved => ResolvedAutomationTrigger.observationChanged resolved field)
      (fun resolved h => show TriggerKept e (.observationChanged target field) _ from ⟨h, rfl⟩)
    cases field with
    | none => exact hm
    | some field => exact hm.mono_end (validateObservationField_yields _ _ _ _).checks
  | deviceEvent target event =>
    simp only [compileTrigger]
    refine Yields.mono_start (Checks.ite (finding_checks c _ _ _ _ _) (Checks.refl c))
      ((resolveTarget_yields e target _ _).map _ (fun resolved h => ?_))
    exact ⟨h, rfl⟩
  | schedule schedule =>
    simp only [compileTrigger]
    refine Yields.some ?_ rfl
    simp only [Compiler.validateSchedule]
    exact (Checks.ite (finding_checks c _ _ _ _ _) (Checks.refl c)).trans
      (Checks.ite (finding_checks _ _ _ _ _ _) (Checks.refl _))
  | commandOutcome target states =>
    simp only [compileTrigger]
    have hc : Checks c (if states.isEmpty then
        c.required s!"{path}/states" "at least one state is required" else c) :=
      Checks.ite (finding_checks _ _ _ _ _ _) (Checks.refl c)
    cases target with
    | none => exact Yields.some hc rfl
    | some target =>
      refine Yields.mono_start hc ((resolveTarget_yields e target _ _).map _ (fun resolved h => ?_))
      exact ⟨h, rfl⟩

theorem compileTriggers_spec (e : CompilerEnv) (index : ℕ) (triggers : List AutomationTrigger)
    (c : Compiler) : Checks c (compileTriggers e index triggers c).2 ∧
    ((compileTriggers e index triggers c).2.findings = [] →
      List.Forall₂ (TriggerKept e) triggers (compileTriggers e index triggers c).1) := by
  induction triggers generalizing index c with
  | nil => exact ⟨Checks.refl c, fun _ => .nil⟩
  | cons trigger rest ih =>
    simp only [compileTriggers]
    have hh := compileTrigger_yields e trigger s!"/triggers/{index}" c
    generalize compileTrigger e trigger s!"/triggers/{index}" c = head at hh ⊢
    obtain ⟨htc, htk⟩ := ih (index+1) head.2
    refine ⟨hh.checks.trans htc, ?_⟩
    intro hf
    obtain ⟨resolved, hr, hk⟩ := hh.obtain (htc.no_findings hf)
    rw [hr]
    exact .cons hk (htk hf)

theorem validateVariables_checks (c : Compiler)
    (vars : List (String × AutomationVariableDefinition)) : Checks c (validateVariables c vars) := by
  induction vars generalizing c with
  | nil => exact Checks.refl c
  | cons entry rest ih =>
    obtain ⟨name, definition⟩ := entry
    simp only [validateVariables]
    have hn (path reason : String) :
        Checks c (if blankText name then c.required path reason else c) :=
      Checks.ite (finding_checks _ _ _ _ _ _) (Checks.refl c)
    refine Checks.trans ?_ (ih _)
    cases definition.initial with
    | none => exact hn _ _
    | some initial =>
      exact ((hn _ _).trans (validateValue_checks _ _ _)).trans (Checks.ite (finding_checks _ _ _ _ _ _) (Checks.refl _))

theorem validateBytes_checks (e : CompilerEnv) (c : Compiler) : Checks c (validateBytes e c) := by
  unfold validateBytes
  split
  · exact Checks.ite (finding_checks _ _ _ _ _ _) (Checks.refl c)
  · exact finding_checks _ _ _ _ _ _

theorem validatePresence_checks (e : CompilerEnv) (c : Compiler) :
    Checks c (validatePresence e c) := by
  have hr (p : Bool) (d : Compiler) (path reason : String) :
      Checks d (if p then d.required path reason else d) :=
    Checks.ite (finding_checks _ _ _ _ _ _) (Checks.refl d)
  unfold validatePresence
  exact ((((hr _ _ _ _).trans (hr _ _ _ _)).trans (hr _ _ _ _)).trans (hr _ _ _ _)).trans (hr _ _ _ _)

theorem validateBudget_spec (e : CompilerEnv) (c : Compiler) : Checks c (validateBudget e c) ∧
    ((validateBudget e c).findings = [] → e.document.budget.validate = .ok ()) := by
  unfold validateBudget
  split
  · exact ⟨finding_checks _ _ _ _ _ _, fun hf => absurd hf (finding_findings_ne_nil _ _ _ _ _ _)⟩
  · rename_i hb
    exact ⟨Checks.refl c, fun _ => hb⟩

theorem validateRunMode_checks (e : CompilerEnv) (c : Compiler) :
    Checks c (validateRunMode e c) := by
  unfold validateRunMode
  split
  · exact Checks.ite (finding_checks _ _ _ _ _ _) (Checks.refl c)
  · exact Checks.ite (finding_checks _ _ _ _ _ _) (Checks.refl c)
  · exact Checks.refl c

theorem validateStructure_spec (e : CompilerEnv) (c : Compiler) :
    Checks c (validateStructure e c) ∧
    ((validateStructure e c).findings = [] → e.document.budget.validate = .ok ()) := by
  unfold validateStructure
  have hp := (validateBytes_checks e c).trans (validatePresence_checks e _)
  obtain ⟨hb, hv⟩ := validateBudget_spec e (validatePresence e (validateBytes e c))
  have hm := (validateRunMode_checks e (validateBudget e (validatePresence e (validateBytes e c)))).trans
    (validateVariables_checks _ e.document.vars)
  exact ⟨(hp.trans hb).trans hm, fun hf => hv (hm.no_findings hf)⟩

end HomeMagic
