import HomeMagic.AutomationPlanWellFormed

/-! The commands that compilation emits: which authored commands become nodes, in which
order, in which reduction segment, and what their classification checked. -/
namespace HomeMagic
open List

variable {a b c' : Compiler} {resolved : List ResolvedAutomationTarget} {target : AutomationTargetReference}
  {α β : Type} {R : α → β → Prop} {l : List α} {l' : List β}

def Compiler.output (c : Compiler) : List AutomationPlanNode × List AutomationSafetyProfile × ℕ :=
  (c.nodes, c.profiles, c.nextSegment)

section Output
variable (e : CompilerEnv) (c : Compiler)

@[simp] theorem finding_output (code : AutomationValidationCode) (path reason : String)
    (remediation reference : Option String) :
    (c.finding code path reason remediation reference).output = c.output := rfl

@[simp] theorem required_output (path reason : String) :
    (c.required path reason).output = c.output := rfl

@[simp] theorem bound_output (path reason : String) :
    (c.bound path reason).output = c.output := rfl

@[simp] theorem incompatible_output (path reason : String) :
    (c.incompatible path reason).output = c.output := rfl

@[simp] theorem typeMismatch_output (path reason : String) :
    (c.typeMismatch path reason).output = c.output := rfl

@[simp] theorem invalidSchedule_output (path reason : String) :
    (c.invalidSchedule path reason).output = c.output := rfl

theorem ite_output {p : Prop} [Decidable p] (ha : a.output = c.output) (hb : b.output = c.output) :
    (if p then a else b).output = c.output := by
  split
  · exact ha
  · exact hb

@[simp] theorem validateTimer_output (durationMs : ℕ) (path : String) :
    (c.validateTimer durationMs path).output = c.output :=
  ite_output c rfl rfl

@[simp] theorem validateValue_output (value : AutomationValue) (path : String) :
    (c.validateValue value path).output = c.output := by
  unfold Compiler.validateValue
  split
  · exact ite_output c rfl rfl
  · exact validateTimer_output c _ _
  · rfl

@[simp] theorem validateObservationField_output (capability field path : String) :
    (c.validateObservationField capability field path).2.output = c.output := by
  unfold Compiler.validateObservationField
  split
  · rfl
  · split
    · rfl
    · split <;> rfl

@[simp] theorem validateSchedule_output (schedule : AutomationSchedule) (path : String) :
    (Compiler.validateSchedule e c schedule path).output = c.output := by
  unfold Compiler.validateSchedule
  have hfirst : (if wordCount schedule.cron ≠ 5 ∨ e.host.cronValid s!"0 {schedule.cron}" = false ∨
      e.host.timezoneValid schedule.timezone = false then
    c.invalidSchedule path "five-field cron expression or IANA timezone is invalid" else c).output =
      c.output := ite_output c rfl rfl
  exact ite_output c hfirst hfirst

theorem resolveEndpoints_output (target : AutomationTargetReference) (path : String)
    (devices : List DeviceRecord) : (resolveEndpoints target path devices c).2.output = c.output := by
  induction devices with
  | nil => rfl
  | cons device rest ih =>
    simp only [resolveEndpoints]
    split
    · rfl
    · split
      · rfl
      · exact ih

@[simp] theorem resolveTarget_output (target : AutomationTargetReference) (path : String) :
    (resolveTarget e target path c).2.output = c.output := by
  simp only [resolveTarget]
  split
  · rfl
  · split
    · rfl
    · split
      · rfl
      · exact resolveEndpoints_output c _ _ _

@[simp] theorem compileExpression_output (expression : AutomationExpression) (path : String) :
    (compileExpression e expression path c).2.output = c.output := by
  cases expression with
  | literal value => exact validateValue_output c _ _
  | «variable» name =>
    simp only [compileExpression]
    split <;> rfl
  | observation target field =>
    simp only [compileExpression]
    split
    · split <;> simp
    · simp

theorem compileEachCondition_output
    {nested : AutomationCondition → String → Compiler → Option ResolvedAutomationCondition × Compiler}
    (hn : ∀ condition path c, (nested condition path c).2.output = c.output) (path : String)
    (index : ℕ) (conditions : List AutomationCondition) :
    (compileEachCondition nested path index conditions c).2.output = c.output := by
  induction conditions generalizing index c with
  | nil => rfl
  | cons condition rest ih =>
    simp only [compileEachCondition]
    rw [ih, hn]

@[simp] theorem compileCondition_output (room : ℕ) (condition : AutomationCondition) (path : String) :
    (compileCondition e room condition path c).2.output = c.output := by
  induction room generalizing condition path c with
  | zero => rfl
  | succ room ih =>
    have hlist : ∀ conditions constructor, (compileConditionList (compileCondition e room) conditions path
        constructor c).2.output = c.output := by
      intro conditions constructor
      simp only [compileConditionList]
      rw [compileEachCondition_output _ (fun condition path c => ih c condition path)]
      exact ite_output c rfl rfl
    cases condition with
    | literal value => rfl
    | compare left operator right =>
      simp only [compileCondition]
      split
      · refine ite_output c ?_ ?_ <;> exact ite_output c (by simp) (by simp)
      · simp
    | all conditions | any conditions => exact hlist _ _
    | not condition => exact ih c _ _
    | timeWindow timezone start stop => exact ite_output c rfl rfl
    | stateDuration condition durationMs =>
      simp only [compileCondition]
      rw [ih]
      exact validateTimer_output c _ _

theorem validateVariables_output (vars : List (String × AutomationVariableDefinition)) :
    (validateVariables c vars).output = c.output := by
  induction vars generalizing c with
  | nil => rfl
  | cons entry rest ih =>
    obtain ⟨name, definition⟩ := entry
    simp only [validateVariables]
    rw [ih]
    have hname : ∀ path reason, (if blankText name then c.required path reason else c).output =
        c.output := fun _ _ => ite_output c rfl rfl
    cases definition.initial with
    | none => exact hname _ _
    | some initial => exact ite_output c (by simp [hname]) (by simp [hname])

theorem validateStructure_output : (validateStructure e c).output = c.output := by
  have hbytes : (validateBytes e c).output = c.output := by
    unfold validateBytes
    split
    · exact ite_output c rfl rfl
    · rfl
  have hpresence : ∀ c : Compiler, (validatePresence e c).output = c.output := by
    intro c
    have hr (p : Bool) (d : Compiler) (path reason : String) :
        (if p then d.required path reason else d).output = d.output := ite_output d rfl rfl
    unfold validatePresence
    rw [hr, hr, hr, hr, hr]
  have hbudget : ∀ c : Compiler, (validateBudget e c).output = c.output := by
    intro c
    unfold validateBudget
    split <;> rfl
  have hmode : ∀ c : Compiler, (validateRunMode e c).output = c.output := by
    intro c
    unfold validateRunMode
    split
    · exact ite_output c rfl rfl
    · exact ite_output c rfl rfl
    · rfl
  unfold validateStructure
  rw [validateVariables_output, hmode, hbudget, hpresence, hbytes]

theorem compileTriggers_output (index : ℕ) (triggers : List AutomationTrigger) :
    (compileTriggers e index triggers c).2.output = c.output := by
  have hone : ∀ trigger path c, (compileTrigger e trigger path c).2.output = c.output := by
    intro trigger path c
    cases trigger with
    | observationChanged target field =>
      simp only [compileTrigger]
      split <;> simp
    | deviceEvent target event =>
      simp only [compileTrigger, resolveTarget_output]
      exact ite_output c rfl rfl
    | schedule schedule => exact validateSchedule_output e c _ _
    | commandOutcome target states =>
      simp only [compileTrigger]
      split
      · exact ite_output c rfl rfl
      · rw [resolveTarget_output]
        exact ite_output c rfl rfl
  induction triggers generalizing index c with
  | nil => rfl
  | cons trigger rest ih =>
    simp only [compileTriggers]
    rw [ih, hone]

end Output

def sensitiveName (capability : String) : Bool :=
  containsText capability.toLower "lock" || containsText capability.toLower "door" ||
  containsText capability.toLower "valve" || containsText capability.toLower "flow" ||
  containsText capability.toLower "camera" || containsText capability.toLower "security"

/-- The first target of the reference whose risk is known has a security risk. -/
def leadsSecurity (e : CompilerEnv) (target : AutomationTargetReference) : Bool :=
  (targetsOf e target).any (fun resolved => resolvedRisk e resolved == some .security)

def flagged (e : CompilerEnv) (target : AutomationTargetReference) : Bool :=
  sensitiveName target.capability || leadsSecurity e target

theorem any_insert (p : AutomationSafetyProfile → Bool) (profile : AutomationSafetyProfile)
    (profiles : List AutomationSafetyProfile) :
    (profiles.insert profile).any p = (profiles.any p || p profile) := by
  rw [Bool.eq_iff_iff, Bool.or_eq_true, List.any_eq_true, List.any_eq_true]
  constructor
  · rintro ⟨a, ha, hp⟩
    rcases mem_insert_iff.mp ha with rfl | ha
    · exact .inr hp
    · exact .inl ⟨a, ha, hp⟩
  · rintro (⟨a, ha, hp⟩ | hp)
    · exact ⟨a, mem_insert_of_mem ha, hp⟩
    · exact ⟨profile, mem_insert_self, hp⟩

/-- A command asks for approval exactly when its target is flagged. -/
theorem classifyCommand_profiles (e : CompilerEnv) (ht : targetsOf e target = some resolved)
    (payload : CommandPayload) (path : String) (c : Compiler) :
    (classifyCommand e target resolved payload path c).profiles.any AutomationSafetyProfile.needsApproval =
      (c.profiles.any AutomationSafetyProfile.needsApproval || flagged e target) := by
  have hinsert : ∀ (c : Compiler) (profile : AutomationSafetyProfile),
      (c.profile profile).profiles.any AutomationSafetyProfile.needsApproval =
        (c.profiles.any AutomationSafetyProfile.needsApproval || profile.needsApproval) :=
    fun c profile => any_insert _ profile c.profiles
  have hflagged : flagged e target = (sensitiveName target.capability ||
      resolvedRisk e resolved == some .security) := by
    unfold flagged leadsSecurity
    rw [ht]
    rfl
  rw [hflagged]
  unfold classifyCommand sensitiveName
  dsimp only
  split
  · rename_i hname
    rw [hinsert]
    rcases Bool.or_eq_true_iff.mp hname with hname | hname <;> simp [hname, AutomationSafetyProfile.needsApproval]
  · rename_i hlock
    split
    · rename_i hname
      rw [hinsert]
      rcases Bool.or_eq_true_iff.mp hname with hname | hname <;> simp [hname, AutomationSafetyProfile.needsApproval]
    · rename_i hvalve
      split
      · rename_i hname
        rw [hinsert]
        simp only [Bool.or_eq_true] at hname
        rcases hname with (hname | hname) | hname <;> simp [hname, AutomationSafetyProfile.needsApproval]
      · rename_i hcamera
        -- no name matches and the leading risk is another one
        simp only [Bool.or_eq_true, not_or, Bool.not_eq_true] at hlock hvalve hcamera
        simp only [hlock, hvalve, hcamera, Bool.or_false]
        split
        · rw [hinsert]
          simp only [AutomationSafetyProfile.needsApproval, Bool.or_false]
          split
          · split <;> rfl
          · rfl
        · rw [hinsert]
          simp [AutomationSafetyProfile.needsApproval]

structure EmittedCommand where
  segment : ℕ
  target : AutomationTargetReference
  payload : CommandPayload
  deriving DecidableEq

abbrev Listing := List EmittedCommand × ℕ

def segmentsOf : List AutomationAction → Option ℕ → ℕ → List (Option ℕ) × ℕ
  | [], _, n => ([], n)
  | action :: rest, active, n =>
    if action.isCommand then
      match active with
      | some segment =>
        let tail := segmentsOf rest (some segment) n
        (some segment :: tail.1, tail.2)
      | none =>
        let tail := segmentsOf rest (some n) (min (n + 1) (2^32 - 1))
        (some n :: tail.1, tail.2)
    else
      let tail := segmentsOf rest none n
      (none :: tail.1, tail.2)

theorem segmentsOf_length (actions : List AutomationAction) (active : Option ℕ) (n : ℕ) :
    (segmentsOf actions active n).1.length = actions.length := by
  induction actions generalizing active n with
  | nil => rfl
  | cons action rest ih =>
    simp only [segmentsOf]
    split
    · cases active <;> simp [ih]
    · simp [ih]

section Listing
variable (nested : List AutomationAction → ℕ → Listing)

def emittedFailure : AutomationFailurePolicy → ℕ → Listing
  | .fallback actions, n => nested (reduceActions actions) n
  | _, n => ([], n)

def emittedBranches : List (List AutomationAction) → ℕ → Listing
  | [], n => ([], n)
  | branch :: rest, n =>
    let head := nested (reduceActions branch) n
    let tail := emittedBranches rest head.2
    (head.1 ++ tail.1, tail.2)

def emittedAction : AutomationAction → Option ℕ → ℕ → Listing
  | .command target payload _ onFailure, segment, n =>
    let failure := emittedFailure nested onFailure n
    (failure.1 ++ [⟨segment.getD 0, target, payload⟩], failure.2)
  | .wait _ _ onTimeout, _, n => emittedFailure nested onTimeout n
  | .sequence actions, _, n => nested (reduceActions actions) n
  | .if _ thenActions elseActions, _, n =>
    let thenListing := nested (reduceActions thenActions) n
    let elseListing := nested (reduceActions elseActions) thenListing.2
    (thenListing.1 ++ elseListing.1, elseListing.2)
  | .parallel branches _, _, n | .race branches _, _, n => emittedBranches nested branches n
  | .delay _, _, n | .setVariable _ _, _, n => ([], n)

def emittedReversed : List (AutomationAction × Option ℕ) → ℕ → Listing
  | [], n => ([], n)
  | (action, segment) :: rest, n =>
    let following := emittedReversed rest n
    let head := emittedAction nested action segment following.2
    (following.1 ++ head.1, head.2)

end Listing

def emittedActions : ℕ → List AutomationAction → ℕ → Listing
  | 0, _, n => ([], n)
  | room + 1, actions, n =>
    let segments := segmentsOf actions none n
    emittedReversed (emittedActions room) (actions.zip segments.1) segments.2

def AutomationDocument.emitted (document : AutomationDocument) : List EmittedCommand :=
  (emittedActions document.budget.maximumNestingDepth (reduceActions document.actions) 0).1

def commandNodes (nodes : List AutomationPlanNode) : List CommandNode :=
  nodes.filterMap (fun node => match node.kind with
    | .command command => some command
    | _ => none)

structure EmittedAs (e : CompilerEnv) (command : EmittedCommand) (node : CommandNode) : Prop where
  targets : targetsOf e command.target = some node.targets
  payload : node.payload = command.payload
  segment : node.reductionSegment = command.segment

/-- What was checked of a command: the payload fits the capability, and an absolute
position is calibrated unless the command is classified before its payload is looked at. -/
structure CommandChecked (e : CompilerEnv) (command : EmittedCommand) : Prop where
  schema : command.payload.schema = command.target.capability
  position : ∀ percent, command.payload = .position (.goTo percent) →
    flagged e command.target ∨ positionIsCalibrated e command.target

structure Emits (e : CompilerEnv) (c c' : Compiler) (listing : Listing) : Prop where
  commands : ∃ added, commandNodes c'.nodes = commandNodes c.nodes ++ added ∧
    List.Forall₂ (EmittedAs e) listing.1 added
  segment : c'.nextSegment = listing.2
  approval : c'.profiles.any AutomationSafetyProfile.needsApproval =
    (c.profiles.any AutomationSafetyProfile.needsApproval ||
      listing.1.any (fun command => flagged e command.target))
  checked : ∀ command ∈ listing.1, CommandChecked e command

section Emits
variable {e : CompilerEnv}

theorem nextSegment_eq {c : Compiler} (h : c'.output = c.output) :
    c'.nextSegment = c.nextSegment := congrArg (fun output => output.2.2) h

theorem Emits.quiet {c : Compiler} (h : c'.output = c.output) : Emits e c c' ([], c.nextSegment) := by
  obtain ⟨hnodes, hprofiles, hsegment⟩ : c'.nodes = c.nodes ∧ c'.profiles = c.profiles ∧
      c'.nextSegment = c.nextSegment := by
    simpa only [Compiler.output, Prod.mk.injEq] using h
  refine ⟨⟨[], ?_, .nil⟩, hsegment, ?_, fun _ hmem => absurd hmem not_mem_nil⟩
  · rw [hnodes, append_nil]
  · rw [hprofiles, any_nil, Bool.or_false]

theorem Emits.trans {c : Compiler} {listing listing' : Listing} (h : Emits e a b listing)
    (h' : Emits e b c listing') :
    Emits e a c (listing.1 ++ listing'.1, listing'.2) := by
  obtain ⟨added, hadded, hforall⟩ := h.commands
  obtain ⟨added', hadded', hforall'⟩ := h'.commands
  refine ⟨⟨added ++ added', ?_, rel_append hforall hforall'⟩, h'.segment, ?_, ?_⟩
  · rw [hadded', hadded, append_assoc]
  · rw [h'.approval, h.approval, any_append, Bool.or_assoc]
  · intro command hmem
    rcases mem_append.mp hmem with hmem | hmem
    · exact h.checked command hmem
    · exact h'.checked command hmem

theorem Emits.after {c : Compiler} {listing : Listing} (h : b.output = a.output) (h' : Emits e b c listing) :
    Emits e a c listing := by
  have hall := (Emits.quiet h : Emits e a b _).trans h'
  rwa [nil_append] at hall

theorem Emits.before {c : Compiler} {listing : Listing} (h : Emits e a b listing) (h' : c.output = b.output) :
    Emits e a c listing := by
  have hall := h.trans (Emits.quiet h')
  rw [append_nil, h.segment] at hall
  exact hall

theorem commandNodes_append (nodes nodes' : List AutomationPlanNode) :
    commandNodes (nodes ++ nodes') = commandNodes nodes ++ commandNodes nodes' := filterMap_append

theorem mem_commandNodes {nodes : List AutomationPlanNode} {command : CommandNode} :
    command ∈ commandNodes nodes ↔ ∃ node ∈ nodes, node.kind = .command command := by
  unfold commandNodes
  rw [mem_filterMap]
  constructor
  · rintro ⟨node, hmem, hkind⟩
    refine ⟨node, hmem, ?_⟩
    split at hkind
    · rename_i hcommand
      cases hkind
      exact hcommand
    · cases hkind
  · rintro ⟨node, hmem, hkind⟩
    refine ⟨node, hmem, ?_⟩
    rw [hkind]

theorem Emits.push {listing : Listing} {kind : AutomationPlanNodeKind} (h : Emits e a b listing)
    (hk : ∀ command, kind ≠ .command command) :
    Emits e a (b.pushNode kind).2 listing := by
  obtain ⟨added, hadded, hforall⟩ := h.commands
  refine ⟨⟨added, ?_, hforall⟩, h.segment, h.approval, h.checked⟩
  have hnone : commandNodes [⟨b.nextNodeId, b.nextNodeId, kind⟩] = [] := by
    cases kind with
    | command command => exact absurd rfl (hk command)
    | _ => rfl
  show commandNodes (b.nodes ++ [⟨b.nextNodeId, b.nextNodeId, kind⟩]) = _
  rw [commandNodes_append, hnone, append_nil, hadded]

theorem classifyCommand_positions (e : CompilerEnv) (ht : targetsOf e target = some resolved)
    (payload : CommandPayload) (path : String) (c : Compiler) :
    (classifyCommand e target resolved payload path c).nextSegment = c.nextSegment ∧
    ((classifyCommand e target resolved payload path c).findings = [] → ∀ percent,
      payload = .position (.goTo percent) → flagged e target ∨ positionIsCalibrated e target) := by
  have hflagged : flagged e target = (sensitiveName target.capability ||
      resolvedRisk e resolved == some .security) := by
    unfold flagged leadsSecurity
    rw [ht]
    rfl
  unfold classifyCommand
  dsimp only
  -- every branch before the payload is looked at flags the command
  split
  · rename_i hname
    refine ⟨rfl, fun _ _ _ => .inl ?_⟩
    rcases Bool.or_eq_true_iff.mp hname with hname | hname <;> simp [hflagged, sensitiveName, hname]
  split
  · rename_i hname
    refine ⟨rfl, fun _ _ _ => .inl ?_⟩
    rcases Bool.or_eq_true_iff.mp hname with hname | hname <;> simp [hflagged, sensitiveName, hname]
  split
  · rename_i hname
    refine ⟨rfl, fun _ _ _ => .inl ?_⟩
    simp only [Bool.or_eq_true] at hname
    rcases hname with (hname | hname) | hname <;> simp [hflagged, sensitiveName, hname]
  split
  · split
    · split
      · rename_i hcalibrated
        exact ⟨rfl, fun _ _ _ => .inr hcalibrated⟩
      · refine ⟨rfl, fun hf => absurd hf ?_⟩
        exact finding_findings_ne_nil _ _ _ _ _ _
    · rename_i hother
      refine ⟨rfl, fun _ percent hpayload => ?_⟩
      cases hpayload
      exact absurd rfl (hother percent)
  · rename_i hother
    refine ⟨rfl, fun _ percent hpayload => ?_⟩
    exact absurd hpayload (hother _)

theorem Emits.command {payload : CommandPayload} (ht : targetsOf e target = some resolved)
    (hschema : payload.schema = target.capability) {path : String} {c : Compiler}
    (hf : (classifyCommand e target resolved payload path c).findings = []) (segment : ℕ)
    (retry : AutomationRetryPolicy) (policy : AutomationPlanFailurePolicy) (next : Option AutomationPlanNodeId) :
    Emits e c ((classifyCommand e target resolved payload path c).pushNode
      (.command ⟨resolved, payload, segment, retry, policy, next⟩)).2
      ([⟨segment, target, payload⟩], c.nextSegment) := by
  obtain ⟨hsegment, hpositions⟩ := classifyCommand_positions e ht payload path c
  refine ⟨⟨[⟨resolved, payload, segment, retry, policy, next⟩], ?_, ?_⟩, hsegment, ?_, ?_⟩
  · show commandNodes (_ ++ [_]) = _
    rw [commandNodes_append, (classifyCommand_checks e target _ _ path c).nodes]
    rfl
  · exact .cons ⟨ht, rfl, rfl⟩ .nil
  · show (classifyCommand e target resolved payload path c).profiles.any _ = _
    rw [classifyCommand_profiles e ht]
    simp
  · intro emitted hmem
    rw [mem_singleton.mp hmem]
    exact ⟨hschema, hpositions hf⟩

def NestedEmits (e : CompilerEnv) (nested : CompileNested)
    (listing : List AutomationAction → ℕ → Listing) : Prop :=
  ∀ actions next path c, (nested actions next path c).2.findings = [] →
    Emits e c (nested actions next path c).2 (listing actions c.nextSegment)

variable {nested : CompileNested} {listing : List AutomationAction → ℕ → Listing}

theorem compileFailure_emits (hn : NestedEmits e nested listing) (policy : AutomationFailurePolicy)
    (next : Option AutomationPlanNodeId) (path : String) (c : Compiler)
    (hf : (compileFailure nested policy next path c).2.findings = []) :
    Emits e c (compileFailure nested policy next path c).2 (emittedFailure listing policy c.nextSegment) := by
  cases policy with
  | fallback actions =>
    simp only [compileFailure] at hf ⊢
    have hfirst : (if actions.isEmpty then
        c.required s!"{path}/actions" "fallback actions must not be empty" else c).output = c.output :=
      ite_output c rfl rfl
    have hnested := hn _ _ _ _ hf
    rw [nextSegment_eq hfirst] at hnested
    exact hnested.after hfirst
  | stopRun | stopBranch | «continue» => exact .quiet rfl

theorem compileBranches_emits (hx : NestedExtends nested) (hn : NestedEmits e nested listing)
    (join : AutomationPlanNodeId) (path : String) (index : ℕ)
    (branches : List (List AutomationAction)) (c : Compiler)
    (hf : (compileBranches nested join path index branches c).2.findings = []) :
    Emits e c (compileBranches nested join path index branches c).2
      (emittedBranches listing branches c.nextSegment) := by
  induction branches generalizing index c with
  | nil => exact .quiet rfl
  | cons branch rest ih =>
    simp only [compileBranches, emittedBranches] at hf ⊢
    have hfirst : (if branch.isEmpty then
        c.required s!"{path}/branches/{index}" "parallel branch must not be empty" else c).output =
        c.output := ite_output c rfl rfl
    have hbranch := hn _ _ _ _ ((compileBranches_extends hx join path (index + 1) rest _).no_findings hf)
    rw [nextSegment_eq hfirst] at hbranch
    have hrest := ih _ _ hf
    rw [hbranch.segment] at hrest
    exact (hbranch.after hfirst).trans hrest

theorem validateGroup_output (branches : List (List AutomationAction)) (maximumParallel : ℕ)
    (path : String) (c : Compiler) :
    (validateGroup e branches maximumParallel path c).output = c.output := by
  have hempty : (if branches.isEmpty then
      c.required s!"{path}/branches" "at least one branch is required" else c).output = c.output :=
    ite_output c rfl rfl
  unfold validateGroup
  exact ite_output c hempty hempty

theorem compileGroup_emits (hx : NestedExtends nested) (hn : NestedEmits e nested listing)
    (kind : AutomationRunContinuationKind) (branches : List (List AutomationAction))
    (maximumParallel : ℕ) (next : Option AutomationPlanNodeId) (path : String) (c : Compiler)
    (hf : (compileGroup e nested kind branches maximumParallel next path c).2.findings = []) :
    Emits e c (compileGroup e nested kind branches maximumParallel next path c).2
      (emittedBranches listing branches c.nextSegment) := by
  unfold compileGroup at hf ⊢
  dsimp only at hf ⊢
  have hjoin : Emits e c ((validateGroup e branches maximumParallel path c).pushNode (.join next)).2
      ([], c.nextSegment) :=
    (Emits.quiet (validateGroup_output branches maximumParallel path c)).push
      (by intro command h; cases h)
  rw [pushNode_findings] at hf
  have hbranches := compileBranches_emits hx hn _ path 0 branches _ hf
  rw [hjoin.segment] at hbranches
  exact (hjoin.trans hbranches).push (by intro command h; cases h)

theorem validateCommand_output (target : AutomationTargetReference) (payload : CommandPayload)
    (retry : AutomationRetryPolicy) (path : String) (c : Compiler) :
    (validateCommand target payload retry path c).output = c.output := by
  have hschema : ∀ path reason, (if payload.schema ≠ target.capability then c.incompatible path reason
      else c).output = c.output := fun _ _ => ite_output c rfl rfl
  unfold validateCommand
  cases payload.validate with
  | error code | ok _ =>
    refine ite_output c ?_ ?_ <;> exact ite_output c (hschema _ _) (hschema _ _)

theorem compileCommand_emits (hx : NestedExtends nested) (hn : NestedEmits e nested listing)
    (target : AutomationTargetReference) (payload : CommandPayload) (retry : AutomationRetryPolicy)
    (onFailure : AutomationFailurePolicy) (next : Option AutomationPlanNodeId) (path : String)
    (segment : Option ℕ) (c : Compiler)
    (hf : (compileCommand e nested target payload retry onFailure next path segment c).2.findings = []) :
    Emits e c (compileCommand e nested target payload retry onFailure next path segment c).2
      (emittedAction listing (.command target payload retry onFailure) segment c.nextSegment) := by
  simp only [compileCommand] at hf ⊢
  have hresolve := resolveTarget_yields e target s!"{path}/target"
    (validateCommand target payload retry path c)
  have hvalid : (resolveTarget e target s!"{path}/target"
      (validateCommand target payload retry path c)).2.output = c.output := by
    rw [resolveTarget_output, validateCommand_output]
  have hfailure := compileFailure_extends hx onFailure next s!"{path}/on_failure"
    (resolveTarget e target s!"{path}/target" (validateCommand target payload retry path c)).2
  split at hf
  · rename_i resolved hsome
    have htarget : targetsOf e target = some resolved := by
      rw [← resolveTarget_fst e target s!"{path}/target", hsome]
    rw [pushNode_findings] at hf
    have hbefore := (classifyCommand_checks e target resolved payload path _).no_findings hf
    have hpolicy := compileFailure_emits hn onFailure next s!"{path}/on_failure" _ hbefore
    rw [nextSegment_eq hvalid] at hpolicy
    have hclean := hresolve.checks.no_findings (hfailure.no_findings hbefore)
    have hschema := ((validateCommand_spec target payload retry path c).2 hclean).2
    have hcommand := Emits.command htarget hschema hf (segment.getD 0) retry
      (compileFailure nested onFailure next s!"{path}/on_failure" (resolveTarget e target
        s!"{path}/target" (validateCommand target payload retry path c)).2).1 next
    rw [hpolicy.segment] at hcommand
    exact (hpolicy.after hvalid).trans hcommand
  · -- an unresolved target has been reported
    rename_i hnone
    have hresolved := hfailure.no_findings hf
    obtain ⟨resolved, hsome, _⟩ := hresolve.obtain hresolved
    rw [hnone] at hsome
    cases hsome

/-- What an action emits, from what the lists nested in it emit. -/
theorem compileAction_emits (hx : NestedExtends nested) (hn : NestedEmits e nested listing) (room : ℕ)
    (action : AutomationAction) (next : Option AutomationPlanNodeId) (path : String)
    (segment : Option ℕ) (c : Compiler)
    (hf : (compileAction e nested (compileCondition e room) action next path segment c).2.findings = []) :
    Emits e c (compileAction e nested (compileCondition e room) action next path segment c).2
      (emittedAction listing action segment c.nextSegment) := by
  cases action with
  | command target payload retry onFailure => exact compileCommand_emits hx hn _ _ _ _ _ _ _ _ hf
  | delay durationMs =>
    exact (Emits.quiet (validateTimer_output c durationMs _)).push (by intro command h; cases h)
  | wait guard timeoutMs onTimeout =>
    simp only [compileAction] at hf ⊢
    have hguard : (compileCondition e room guard s!"{path}/condition"
        (c.validateTimer timeoutMs s!"{path}/timeout_ms")).2.output = c.output := by simp
    split at hf
    · rw [pushNode_findings] at hf
      have hpolicy := compileFailure_emits hn _ _ _ _ hf
      rw [nextSegment_eq hguard] at hpolicy
      exact (hpolicy.after hguard).push (by intro command h; cases h)
    · have hpolicy := compileFailure_emits hn _ _ _ _ hf
      rw [nextSegment_eq hguard] at hpolicy
      exact hpolicy.after hguard
  | setVariable name value =>
    simp only [compileAction] at hf ⊢
    have hvalue : (compileExpression e value s!"{path}/value" c).2.output = c.output := by simp
    split
    · exact .quiet hvalue
    · rename_i definition compiled valueType _ _
      have hchecked : (if definition.valueType ≠ valueType then
          (compileExpression e value s!"{path}/value" c).2.typeMismatch s!"{path}/value"
            "assigned expression does not match the variable type"
          else (compileExpression e value s!"{path}/value" c).2).output = c.output :=
        ite_output c hvalue hvalue
      exact (Emits.quiet hchecked).push (by intro command h; cases h)
    · exact .quiet hvalue
  | sequence actions => exact hn _ _ _ _ hf
  | «if» guard thenActions elseActions =>
    simp only [compileAction, emittedAction] at hf ⊢
    have hjoin : Emits e c ((validateBranch guard path c).pushNode (.join next)).2
        ([], c.nextSegment) := by
      have hbranch : (validateBranch guard path c).output = c.output := by
        unfold validateBranch
        split <;> rfl
      exact (Emits.quiet hbranch).push (by intro command h; cases h)
    generalize (validateBranch guard path c).pushNode (.join next) = join at hf hjoin ⊢
    have ht := hn (reduceActions thenActions) (some join.1) s!"{path}/then_actions" join.2
    rw [hjoin.segment] at ht
    generalize nested (reduceActions thenActions) (some join.1) s!"{path}/then_actions" join.2 =
      thenNode at hf ht ⊢
    have hxe := hx (reduceActions elseActions) (some join.1) s!"{path}/else_actions" thenNode.2
    have he := hn (reduceActions elseActions) (some join.1) s!"{path}/else_actions" thenNode.2
    generalize nested (reduceActions elseActions) (some join.1) s!"{path}/else_actions" thenNode.2 =
      elseNode at hf hxe he ⊢
    have hxc := (compileCondition_yields e room guard s!"{path}/condition" elseNode.2).checks
    have hcondition := compileCondition_output e elseNode.2 room guard s!"{path}/condition"
    -- both branches, then the condition, which emits nothing
    have hboth : elseNode.2.findings = [] → Emits e c
        (compileCondition e room guard s!"{path}/condition" elseNode.2).2
        ((listing (reduceActions thenActions) c.nextSegment).1 ++
          (listing (reduceActions elseActions) (listing (reduceActions thenActions) c.nextSegment).2).1,
          (listing (reduceActions elseActions)
            (listing (reduceActions thenActions) c.nextSegment).2).2) := by
      intro hfe
      have hthen := ht (hxe.no_findings hfe)
      have helse := he hfe
      rw [hthen.segment] at helse
      have hall := hjoin.trans (hthen.trans helse)
      rw [nil_append] at hall
      exact hall.before hcondition
    split at hf
    · rw [pushNode_findings] at hf
      exact (hboth (hxc.no_findings hf)).push (by intro command h; cases h)
    · exact hboth (hxc.no_findings hf)
  | parallel branches maximumParallel | race branches maximumParallel =>
    exact compileGroup_emits hx hn _ _ _ _ _ _ hf

theorem compileReversed_emits
    {compileOne : AutomationAction → Option AutomationPlanNodeId → String → Option ℕ → Compiler →
      Option AutomationPlanNodeId × Compiler}
    (hx : ∀ action next path segment c, Extends c (compileOne action next path segment c).2)
    (hn : ∀ action next path segment c, (compileOne action next path segment c).2.findings = [] →
      Emits e c (compileOne action next path segment c).2 (emittedAction listing action segment c.nextSegment))
    (path : String) (index : ℕ) (actions : List (AutomationAction × Option ℕ))
    (next : Option AutomationPlanNodeId) (c : Compiler)
    (hf : (compileReversed compileOne path index actions next c).2.findings = []) :
    Emits e c (compileReversed compileOne path index actions next c).2
      (emittedReversed listing actions c.nextSegment) := by
  induction actions generalizing index with
  | nil => exact .quiet rfl
  | cons entry rest ih =>
    simp only [compileReversed, emittedReversed] at hf ⊢
    have hrest := ih (index + 1) ((hx _ _ _ _ _).no_findings hf)
    have hone := hn _ _ _ _ _ hf
    rw [hrest.segment] at hone
    exact hrest.trans hone

theorem assignSegments_eq (actions : List AutomationAction) (active : Option ℕ) (c : Compiler) :
    assignSegments actions active c = ((segmentsOf actions active c.nextSegment).1,
      { c with nextSegment := (segmentsOf actions active c.nextSegment).2 }) := by
  induction actions generalizing active c with
  | nil => rfl
  | cons action rest ih =>
    simp only [assignSegments, segmentsOf]
    split
    · cases active with
      | some segment | none => simp only [ih]
    · simp only [ih]

theorem compileActions_emits (e : CompilerEnv) (room : ℕ) :
    NestedEmits e (compileActions e room) (emittedActions room) := by
  induction room with
  | zero =>
    intro actions next path c hf
    exact absurd hf (finding_findings_ne_nil _ _ _ _ _ _)
  | succ room ih =>
    intro actions next path c hf
    simp only [compileActions, emittedActions, assignSegments_eq] at hf ⊢
    have hx := compileActions_extends e room
    have hall := compileReversed_emits (compileAction_extends e hx room)
      (compileAction_emits hx ih room) path 0 _ next _ hf
    exact ⟨hall.commands, hall.segment, hall.approval, hall.checked⟩

end Emits

theorem forall₂_left (h : List.Forall₂ R l l') {a : α} (ha : a ∈ l) : ∃ b ∈ l', R a b := by
  induction h with
  | nil => exact absurd ha not_mem_nil
  | cons hr _ ih =>
    rcases mem_cons.mp ha with rfl | ha
    · exact ⟨_, mem_cons_self, hr⟩
    · obtain ⟨b, hb, hr⟩ := ih ha
      exact ⟨b, mem_cons_of_mem _ hb, hr⟩

theorem forall₂_right (h : List.Forall₂ R l l') {b : β} (hb : b ∈ l') : ∃ a ∈ l, R a b :=
  forall₂_left h.flip hb

/-- The command nodes of a compiled plan, in the order of their identifiers, are those of
the document's emitted commands, each of which passed its checks. -/
theorem compile_emits {e : CompilerEnv} {plan : AutomationExecutionPlan} (h : compile e = .ok plan) :
    List.Forall₂ (EmittedAs e) e.document.emitted (commandNodes plan.nodes) ∧
    (∀ command ∈ e.document.emitted, CommandChecked e command) ∧
    (plan.approval = .explicitUserApproval ↔ ∃ command ∈ e.document.emitted, flagged e command.target) := by
  have hemits : (compileBody e).2.2.2.findings = [] → Emits e .new (compileBody e).2.2.2
      (emittedActions e.document.budget.maximumNestingDepth (reduceActions e.document.actions) 0) := by
    intro hf
    simp only [compileBody] at hf ⊢
    have hguard : (compileGuard e (compileTriggers e 0 e.document.triggers
        (validateStructure e .new)).2).2.output = Compiler.new.output := by
      have hcondition : ∀ c, (compileGuard e c).2.output = c.output := by
        intro c
        unfold compileGuard
        split
        · exact compileCondition_output e c _ _ _
        · rfl
      rw [hcondition, compileTriggers_output, validateStructure_output]
    have hcomplete : Emits e .new ((compileGuard e (compileTriggers e 0 e.document.triggers
        (validateStructure e .new)).2).2.pushNode .complete).2 ([], 0) :=
      (Emits.quiet hguard).push (by intro command h; cases h)
    have hbody := compileActions_emits e _ _ _ _ _ hf
    rw [hcomplete.segment] at hbody
    have hall := hcomplete.trans hbody
    rwa [nil_append] at hall
  have hnodes := compile_nodes h
  obtain ⟨hf, _, entry, documentHash, planHash, _, rfl⟩ := compile_ok h
  obtain ⟨added, hadded, hforall⟩ := (hemits hf).commands
  refine ⟨?_, (hemits hf).checked, ?_⟩
  · rw [hnodes, hadded]
    exact hforall
  · have happroval := (hemits hf).approval
    rw [show Compiler.new.profiles = [] from rfl, any_nil, Bool.false_or] at happroval
    simp only [assemblePlan, happroval]
    rw [← List.any_eq_true]
    split
    · rename_i hany
      exact ⟨fun _ => hany, fun _ => rfl⟩
    · rename_i hany
      exact ⟨fun h => absurd h (by simp), fun h => absurd h hany⟩

end HomeMagic
