import HomeMagic.AutomationReductionSpec

/-! Compilation without findings lays the authored actions out as a `Region`. -/
namespace HomeMagic

theorem assignSegments_spec (actions : List AutomationAction) (active : Option ℕ) (c : Compiler) :
    Checks c (assignSegments actions active c).2 ∧
    (assignSegments actions active c).1.length = actions.length := by
  induction actions generalizing active c with
  | nil => exact ⟨Checks.refl c, rfl⟩
  | cons action rest ih =>
    simp only [assignSegments]
    split
    · cases active with
      | some segment => exact ⟨(ih _ c).1, by simp only [List.length_cons, (ih _ c).2]⟩
      | none =>
        have hc : Checks c { c with nextSegment := min (c.nextSegment + 1) (2^32 - 1) } :=
          ⟨List.prefix_rfl, rfl⟩
        exact ⟨hc.trans (ih _ _).1, by simp only [List.length_cons, (ih _ _).2]⟩
    · exact ⟨(ih _ c).1, by simp only [List.length_cons, (ih _ c).2]⟩

def NestedExtends (nested : CompileNested) : Prop :=
  ∀ actions next path c, Extends c (nested actions next path c).2

theorem compileFailure_extends {nested : CompileNested} (hn : NestedExtends nested)
    (policy : AutomationFailurePolicy) (next : Option AutomationPlanNodeId) (path : String)
    (c : Compiler) : Extends c (compileFailure nested policy next path c).2 := by
  cases policy with
  | fallback actions =>
    simp only [compileFailure]
    refine Extends.trans (Checks.extends ?_) (hn _ _ _ _)
    exact Checks.ite (finding_checks _ _ _ _ _ _) (Checks.refl c)
  | _ => exact Extends.refl c

theorem compileBranches_extends {nested : CompileNested} (hn : NestedExtends nested)
    (join : AutomationPlanNodeId) (path : String) (index : ℕ)
    (branches : List (List AutomationAction)) (c : Compiler) :
    Extends c (compileBranches nested join path index branches c).2 := by
  induction branches generalizing index c with
  | nil => exact Extends.refl c
  | cons branch rest ih =>
    simp only [compileBranches]
    refine Extends.trans (Checks.extends ?_) ((hn _ _ _ _).trans (ih _ _))
    exact Checks.ite (finding_checks _ _ _ _ _ _) (Checks.refl c)

theorem validateGroup_spec (e : CompilerEnv) (branches : List (List AutomationAction))
    (maximumParallel : ℕ) (path : String) (c : Compiler) :
    Checks c (validateGroup e branches maximumParallel path c) ∧
    ((validateGroup e branches maximumParallel path c).findings = [] →
      branches ≠ [] ∧ branches.length ≤ e.document.budget.maximumParallelWidth) := by
  unfold validateGroup
  have hempty : Checks c (if branches.isEmpty then
      c.required s!"{path}/branches" "at least one branch is required" else c) :=
    Checks.ite (finding_checks _ _ _ _ _ _) (Checks.refl c)
  refine ⟨hempty.trans (Checks.ite (finding_checks _ _ _ _ _ _) (Checks.refl _)), ?_⟩
  intro hf
  dsimp only at hf
  split at hf
  · exact absurd hf (finding_findings_ne_nil _ _ _ _ _ _)
  · rename_i hw
    split at hf
    · exact absurd hf (finding_findings_ne_nil _ _ _ _ _ _)
    · rename_i hne
      exact ⟨fun h => hne (h ▸ rfl), by omega⟩

theorem compileGroup_extends (e : CompilerEnv) {nested : CompileNested} (hn : NestedExtends nested)
    (kind : AutomationRunContinuationKind) (branches : List (List AutomationAction))
    (maximumParallel : ℕ) (next : Option AutomationPlanNodeId) (path : String) (c : Compiler) :
    Extends c (compileGroup e nested kind branches maximumParallel next path c).2 :=
  (validateGroup_spec e branches maximumParallel path c).1.extends.trans ((pushNode_extends _ _).trans
    ((compileBranches_extends hn _ _ _ _ _).trans (pushNode_extends _ _)))

theorem validateCommand_spec (target : AutomationTargetReference) (payload : CommandPayload)
    (retry : AutomationRetryPolicy) (path : String) (c : Compiler) :
    Checks c (validateCommand target payload retry path c) ∧
    ((validateCommand target payload retry path c).findings = [] →
      retry.maximumRetries ≤ maxAutomationRetries ∧ payload.schema = target.capability) := by
  have hi (p : Prop) [Decidable p] (d : Compiler) (path reason : String) :
      Checks d (if p then d.bound path reason else d) :=
    Checks.ite (finding_checks _ _ _ _ _ _) (Checks.refl d)
  have hs : Checks c (if payload.schema ≠ target.capability then
      c.incompatible s!"{path}/payload"
        "command payload schema does not match the target capability" else c) :=
    Checks.ite (finding_checks _ _ _ _ _ _) (Checks.refl c)
  unfold validateCommand
  constructor
  · refine Checks.trans ?_ (hi _ _ _ _)
    refine Checks.trans ?_ (hi _ _ _ _)
    refine hs.trans ?_
    cases payload.validate with
    | error code => exact finding_checks _ _ _ _ _ _
    | ok _ => exact Checks.refl _
  · intro hf
    have hretries := (hi _ _ _ _).no_findings hf
    have hbefore := (hi _ _ _ _).no_findings hretries
    refine ⟨?_, ?_⟩
    · split at hretries
      · exact absurd hretries (finding_findings_ne_nil _ _ _ _ _ _)
      · omega
    · by_contra hschema
      rw [if_pos hschema] at hbefore
      split at hbefore <;> exact absurd hbefore (finding_findings_ne_nil _ _ _ _ _ _)

theorem compileCommand_extends (e : CompilerEnv) {nested : CompileNested}
    (hn : NestedExtends nested) (target : AutomationTargetReference) (payload : CommandPayload)
    (retry : AutomationRetryPolicy) (onFailure : AutomationFailurePolicy)
    (next : Option AutomationPlanNodeId) (path : String) (segment : Option ℕ) (c : Compiler) :
    Extends c (compileCommand e nested target payload retry onFailure next path segment c).2 := by
  simp only [compileCommand]
  refine (validateCommand_spec target payload retry path c).1.extends.trans ?_
  refine (resolveTarget_yields e target s!"{path}/target" _).checks.extends.trans ?_
  refine (compileFailure_extends hn onFailure next s!"{path}/on_failure" _).trans ?_
  split
  · exact (classifyCommand_checks e target _ payload path _).extends.trans (pushNode_extends _ _)
  · exact Extends.refl _

theorem validateBranch_checks (guard : AutomationCondition) (path : String) (c : Compiler) :
    Checks c (validateBranch guard path c) := by
  unfold validateBranch
  split
  · exact finding_checks _ _ _ _ _ _
  · exact Checks.refl c

/-- Compiling an action only appends nodes and findings. -/
theorem compileAction_extends (e : CompilerEnv) {nested : CompileNested} (hn : NestedExtends nested)
    (room : ℕ) (action : AutomationAction) (next : Option AutomationPlanNodeId) (path : String)
    (segment : Option ℕ) (c : Compiler) :
    Extends c (compileAction e nested (compileCondition e room) action next path segment c).2 := by
  have hcond := fun guard path c => (compileCondition_yields e room guard path c).checks.extends
  cases action with
  | command target payload retry onFailure => exact compileCommand_extends e hn _ _ _ _ _ _ _ _
  | delay durationMs => exact (validateTimer_checks c _ _).extends.trans (pushNode_extends _ _)
  | wait guard timeoutMs onTimeout =>
    simp only [compileAction]
    refine (validateTimer_checks c timeoutMs s!"{path}/timeout_ms").extends.trans ?_
    refine (hcond guard s!"{path}/condition" _).trans ?_
    split
    · exact (compileFailure_extends hn _ _ _ _).trans (pushNode_extends _ _)
    · exact compileFailure_extends hn _ _ _ _
  | setVariable name value =>
    simp only [compileAction]
    refine (compileExpression_yields e value s!"{path}/value" c).checks.extends.trans ?_
    split
    · exact (finding_checks _ _ _ _ _ _).extends
    · exact (Checks.ite (finding_checks _ _ _ _ _ _) (Checks.refl _)).extends.trans
        (pushNode_extends _ _)
    · exact Extends.refl _
  | sequence actions => exact hn _ _ _ _
  | «if» guard thenActions elseActions =>
    simp only [compileAction]
    have hj := (validateBranch_checks guard path c).extends.trans (pushNode_extends _ (.join next))
    generalize (validateBranch guard path c).pushNode (.join next) = join at hj ⊢
    have ht := hn (reduceActions thenActions) (some join.1) s!"{path}/then_actions" join.2
    generalize nested (reduceActions thenActions) (some join.1) s!"{path}/then_actions" join.2 =
      thenNode at ht ⊢
    have he := hn (reduceActions elseActions) (some join.1) s!"{path}/else_actions" thenNode.2
    generalize nested (reduceActions elseActions) (some join.1) s!"{path}/else_actions" thenNode.2 =
      elseNode at he ⊢
    refine hj.trans (ht.trans (he.trans ((hcond guard s!"{path}/condition" _).trans ?_)))
    split
    · exact pushNode_extends _ _
    · exact Extends.refl _
  | parallel branches maximumParallel | race branches maximumParallel =>
    exact compileGroup_extends e hn _ _ _ _ _ _

theorem compileReversed_extends
    (compileOne : AutomationAction → Option AutomationPlanNodeId → String → Option ℕ → Compiler →
      Option AutomationPlanNodeId × Compiler)
    (ho : ∀ action next path segment c, Extends c (compileOne action next path segment c).2)
    (path : String) (index : ℕ) (actions : List (AutomationAction × Option ℕ))
    (next : Option AutomationPlanNodeId) (c : Compiler) :
    Extends c (compileReversed compileOne path index actions next c).2 := by
  induction actions generalizing index with
  | nil => exact Extends.refl c
  | cons entry rest ih => exact (ih (index+1)).trans (ho _ _ _ _ _)

theorem compileActions_extends (e : CompilerEnv) (room : ℕ) : NestedExtends (compileActions e room) := by
  induction room with
  | zero => exact fun _ _ _ _ => (finding_checks _ _ _ _ _ _).extends
  | succ room ih =>
    intro actions next path c
    simp only [compileActions]
    exact (assignSegments_spec actions none c).1.extends.trans
      (compileReversed_extends _ (compileAction_extends e ih room) _ _ _ _ _)

theorem pushNode_spec (c : Compiler) (kind : AutomationPlanNodeKind) (hl : c.nodes.length < 2^32) :
    (c.pushNode kind).1 = c.nodes.length ∧
    NodeAt (c.pushNode kind).2.nodes c.nodes.length kind := by
  have hid : c.nextNodeId = c.nodes.length := Nat.min_eq_left (by omega)
  refine ⟨hid, ?_⟩
  unfold NodeAt Compiler.pushNode
  rw [hid, List.getElem?_append_right (Nat.le_refl _), Nat.sub_self]
  rfl

def NestedLowers (e : CompilerEnv) (nested : CompileNested) : Prop :=
  ∀ actions next path c, (nested actions (some next) path c).2.findings = [] →
    (nested actions (some next) path c).2.nodes.length ≤ 2^32 →
    ∃ entry, (nested actions (some next) path c).1 = some entry ∧
      Region e (nested actions (some next) path c).2.nodes (.block actions next entry)
        c.nodes.length (nested actions (some next) path c).2.nodes.length

section Lowering
variable (e : CompilerEnv) {nested : CompileNested} (hn : NestedLowers e nested)
include hn

theorem compileFailure_region (policy : AutomationFailurePolicy) (next : ℕ) (path : String)
    (c : Compiler) (hf : (compileFailure nested policy (some next) path c).2.findings = [])
    (hl : (compileFailure nested policy (some next) path c).2.nodes.length ≤ 2^32) :
    Region e (compileFailure nested policy (some next) path c).2.nodes
      (.policy policy next (compileFailure nested policy (some next) path c).1)
      c.nodes.length (compileFailure nested policy (some next) path c).2.nodes.length := by
  cases policy with
  | fallback actions =>
    simp only [compileFailure] at hf hl ⊢
    have hc : Checks c (if actions.isEmpty then
        c.required s!"{path}/actions" "fallback actions must not be empty" else c) :=
      Checks.ite (finding_checks _ _ _ _ _ _) (Checks.refl c)
    generalize (if actions.isEmpty then
      c.required s!"{path}/actions" "fallback actions must not be empty" else c) = c' at hc hf hl ⊢
    obtain ⟨entry, he, hr⟩ := hn _ _ _ _ hf hl
    rw [he, ← hc.nodes]
    exact .fallback hr.of_reduceActions
  | _ => exact .plain rfl

variable (hx : NestedExtends nested)
include hx

theorem compileBranches_region (join : ℕ) (path : String) (index : ℕ)
    (branches : List (List AutomationAction)) (c : Compiler)
    (hf : (compileBranches nested join path index branches c).2.findings = [])
    (hl : (compileBranches nested join path index branches c).2.nodes.length ≤ 2^32) :
    Region e (compileBranches nested join path index branches c).2.nodes
      (.branches branches join (compileBranches nested join path index branches c).1)
      c.nodes.length (compileBranches nested join path index branches c).2.nodes.length := by
  induction branches generalizing index c with
  | nil => exact .noBranch
  | cons branch rest ih =>
    simp only [compileBranches] at hf hl ⊢
    have hc : Checks c (if branch.isEmpty then
        c.required s!"{path}/branches/{index}" "parallel branch must not be empty" else c) :=
      Checks.ite (finding_checks _ _ _ _ _ _) (Checks.refl c)
    generalize (if branch.isEmpty then
      c.required s!"{path}/branches/{index}" "parallel branch must not be empty" else c) = c'
      at hc hf hl ⊢
    have hb := hn (reduceActions branch) join s!"{path}/branches/{index}" c'
    generalize nested (reduceActions branch) (some join) s!"{path}/branches/{index}" c' = first
      at hb hf hl ⊢
    have htail := compileBranches_extends hx join path (index+1) rest first.2
    obtain ⟨entry, he, hr⟩ := hb (htail.no_findings hf) (Nat.le_trans htail.length_le hl)
    rw [he, ← hc.nodes]
    exact .moreBranches (hr.of_reduceActions.mono htail.nodes) (ih (index+1) first.2 hf hl)

theorem compileGroup_region (action : AutomationAction) (kind : AutomationRunContinuationKind)
    (branches : List (List AutomationAction)) (maximumParallel next : ℕ) (path : String)
    (c : Compiler) (hg : action.group? = some (kind, branches, maximumParallel))
    (hf : (compileGroup e nested kind branches maximumParallel (some next) path c).2.findings = [])
    (hl : (compileGroup e nested kind branches maximumParallel (some next) path c).2.nodes.length
      ≤ 2^32) :
    Region e (compileGroup e nested kind branches maximumParallel (some next) path c).2.nodes
      (.step action next (compileGroup e nested kind branches maximumParallel (some next) path c).1)
      c.nodes.length
      (compileGroup e nested kind branches maximumParallel (some next) path c).2.nodes.length := by
  simp only [compileGroup] at hf hl ⊢
  obtain ⟨hc, hv⟩ := validateGroup_spec e branches maximumParallel path c
  generalize validateGroup e branches maximumParallel path c = c' at hc hv hf hl ⊢
  have hjx := pushNode_extends c' (.join (some next))
  have hjl := pushNode_length c' (.join (some next))
  have hjs := pushNode_spec c' (.join (some next))
  generalize c'.pushNode (.join (some next)) = join at hjx hjl hjs hf hl ⊢
  have hbx := compileBranches_extends hx join.1 path 0 branches join.2
  have hbr := compileBranches_region e hn hx join.1 path 0 branches join.2
  generalize compileBranches nested join.1 path 0 branches join.2 = entries at hbx hbr hf hl ⊢
  have hgx := pushNode_extends entries.2 (.group kind entries.1 maximumParallel (some join.1))
  have hgl := pushNode_length entries.2 (.group kind entries.1 maximumParallel (some join.1))
  have hlen := hbx.length_le
  obtain ⟨hgi, hgn⟩ := pushNode_spec entries.2 (.group kind entries.1 maximumParallel (some join.1))
    (by omega)
  obtain ⟨hji, hjn⟩ := hjs (by omega)
  have hbranches := hbr hf (by omega)
  obtain ⟨hne, hw⟩ := hv (hjx.no_findings (hbx.no_findings hf))
  rw [hgi, hgl, ← hc.nodes]
  rw [hji] at hbranches hgn hgx ⊢
  rw [hjl] at hbranches
  exact .group hg hne hw (hjn.mono (hbx.nodes.trans hgx.nodes)) (hbranches.mono hgx.nodes) hgn

/-- A command becomes one node, or none when its segment drops it. -/
theorem compileCommand_region (target : AutomationTargetReference) (payload : CommandPayload)
    (retry : AutomationRetryPolicy) (onFailure : AutomationFailurePolicy) (next : ℕ) (path : String)
    (segment : Option ℕ) (c : Compiler)
    (hf : (compileCommand e nested target payload retry onFailure (some next) path segment
      c).2.findings = [])
    (hl : (compileCommand e nested target payload retry onFailure (some next) path segment
      c).2.nodes.length ≤ 2^32) :
    ∃ entry, (compileCommand e nested target payload retry onFailure (some next) path segment
        c).1 = some entry ∧
      Region e (compileCommand e nested target payload retry onFailure (some next) path segment
          c).2.nodes
        (.step (.command target payload retry onFailure) next entry) c.nodes.length
        (compileCommand e nested target payload retry onFailure (some next) path segment
          c).2.nodes.length := by
  simp only [compileCommand] at hf hl ⊢
  obtain ⟨hv, hretry⟩ := validateCommand_spec target payload retry path c
  generalize validateCommand target payload retry path c = c₁ at hv hretry hf hl ⊢
  have ht := resolveTarget_yields e target s!"{path}/target" c₁
  generalize resolveTarget e target s!"{path}/target" c₁ = targets at ht hf hl ⊢
  have hpx := compileFailure_extends hx onFailure (some next) s!"{path}/on_failure" targets.2
  have hpr := compileFailure_region e hn onFailure next s!"{path}/on_failure" targets.2
  generalize compileFailure nested onFailure (some next) s!"{path}/on_failure" targets.2 = failure
    at hpx hpr hf hl ⊢
  cases htr : targets.1 with
  | none =>
    rw [htr] at hf
    exact absurd hf (hpx.found (ht.missing htr))
  | some resolved =>
    simp only [htr] at hf hl ⊢
    have hk := classifyCommand_checks e target resolved payload path failure.2
    generalize classifyCommand e target resolved payload path failure.2 = c₂ at hk hf hl ⊢
    generalize hkind : AutomationPlanNodeKind.command _ = kind at hf hl ⊢
    have hcx := pushNode_extends c₂ kind
    have hcl := pushNode_length c₂ kind
    obtain ⟨hci, hcn⟩ := pushNode_spec c₂ kind (by omega)
    have hlen : failure.2.nodes.length = c₂.nodes.length := by rw [hk.nodes]
    have hpolicy := hpr (hk.no_findings hf) (by omega)
    refine ⟨_, rfl, ?_⟩
    rw [hci, hcl]
    rw [← hk.nodes, ht.checks.nodes, hv.nodes] at hpolicy
    subst hkind
    have hclean := ht.checks.no_findings (hpx.no_findings (hk.no_findings hf))
    exact .command (ht.value resolved htr) (hretry hclean).1 (hpolicy.mono hcx.nodes) hcn

/-- An action compiled without findings becomes a region that ends at its continuation. -/
theorem compileAction_region (room : ℕ) (action : AutomationAction) (next : ℕ) (path : String)
    (segment : Option ℕ) (c : Compiler)
    (hf : (compileAction e nested (compileCondition e room) action (some next) path segment
      c).2.findings = [])
    (hl : (compileAction e nested (compileCondition e room) action (some next) path segment
      c).2.nodes.length ≤ 2^32) :
    ∃ entry, (compileAction e nested (compileCondition e room) action (some next) path segment
        c).1 = some entry ∧
      Region e (compileAction e nested (compileCondition e room) action (some next) path segment
          c).2.nodes
        (.step action next entry) c.nodes.length
        (compileAction e nested (compileCondition e room) action (some next) path segment
          c).2.nodes.length := by
  cases action with
  | command target payload retry onFailure =>
    exact compileCommand_region e hn hx target payload retry onFailure next path segment c hf hl
  | delay durationMs =>
    simp only [compileAction] at hf hl ⊢
    have hv := validateTimer_checks c durationMs s!"{path}/duration_ms"
    generalize c.validateTimer durationMs s!"{path}/duration_ms" = c₁ at hv hf hl ⊢
    have hdl := pushNode_length c₁ (.delay durationMs (some next))
    obtain ⟨hdi, hdn⟩ := pushNode_spec c₁ (.delay durationMs (some next)) (by omega)
    refine ⟨_, rfl, ?_⟩
    rw [hdi, hdl, ← hv.nodes]
    exact .delay hdn
  | wait guard timeoutMs onTimeout =>
    simp only [compileAction] at hf hl ⊢
    -- the fallback of the wait is emitted before the wait itself
    have hv := validateTimer_checks c timeoutMs s!"{path}/timeout_ms"
    generalize c.validateTimer timeoutMs s!"{path}/timeout_ms" = c₁ at hv hf hl ⊢
    have hg := compileCondition_yields e room guard s!"{path}/condition" c₁
    generalize compileCondition e room guard s!"{path}/condition" c₁ = compiled at hg hf hl ⊢
    have hpx := compileFailure_extends hx onTimeout (some next) s!"{path}/on_timeout" compiled.2
    have hpr := compileFailure_region e hn onTimeout next s!"{path}/on_timeout" compiled.2
    generalize compileFailure nested onTimeout (some next) s!"{path}/on_timeout" compiled.2 = failure
      at hpx hpr hf hl ⊢
    cases hgr : compiled.1 with
    | none =>
      rw [hgr] at hf
      exact absurd hf (hpx.found (hg.missing hgr))
    | some condition =>
      simp only [hgr] at hf hl ⊢
      have hwx := pushNode_extends failure.2 (.wait condition timeoutMs failure.1 (some next))
      have hwl := pushNode_length failure.2 (.wait condition timeoutMs failure.1 (some next))
      obtain ⟨hwi, hwn⟩ := pushNode_spec failure.2 (.wait condition timeoutMs failure.1 (some next))
        (by omega)
      have hpolicy := hpr hf (by omega)
      refine ⟨_, rfl, ?_⟩
      rw [hwi, hwl]
      rw [hg.checks.nodes, hv.nodes] at hpolicy
      exact .wait (hg.value condition hgr) (hpolicy.mono hwx.nodes) hwn
  | setVariable name value =>
    simp only [compileAction] at hf hl ⊢
    have hv := compileExpression_yields e value s!"{path}/value" c
    generalize compileExpression e value s!"{path}/value" c = expression at hv hf hl ⊢
    cases hd : e.document.vars.lookup name with
    | none =>
      rw [hd] at hf
      exact absurd hf (finding_findings_ne_nil _ _ _ _ _ _)
    | some definition =>
      cases hvr : expression.1 with
      | none =>
        rw [hd, hvr] at hf
        exact absurd hf (hv.missing hvr)
      | some resolved =>
        simp only [hd, hvr] at hf hl ⊢
        have ht : Checks expression.2 (if definition.valueType ≠ resolved.2 then
            expression.2.typeMismatch s!"{path}/value"
              "assigned expression does not match the variable type" else expression.2) :=
          Checks.ite (finding_checks _ _ _ _ _ _) (Checks.refl _)
        generalize (if definition.valueType ≠ resolved.2 then
          expression.2.typeMismatch s!"{path}/value"
            "assigned expression does not match the variable type" else expression.2) = c₁ at ht hf hl ⊢
        have hsl := pushNode_length c₁ (.setVariable name resolved.1 (some next))
        -- a type mismatch would have left a finding
        obtain ⟨hsi, hsn⟩ := pushNode_spec c₁ (.setVariable name resolved.1 (some next)) (by omega)
        refine ⟨_, rfl, ?_⟩
        rw [hsi, hsl, ← hv.checks.nodes, ← ht.nodes]
        exact .setVariable (hv.value resolved hvr) hsn
  | sequence actions =>
    simp only [compileAction] at hf hl ⊢
    obtain ⟨entry, he, hr⟩ := hn _ _ _ _ hf hl
    exact ⟨entry, he, .sequence hr.of_reduceActions⟩
  | «if» guard thenActions elseActions =>
    simp only [compileAction] at hf hl ⊢
    have hv := validateBranch_checks guard path c
    generalize validateBranch guard path c = c₁ at hv hf hl ⊢
    -- layout: the join first, then both paths, the branch last
    have hjl := pushNode_length c₁ (.join (some next))
    have hjs := pushNode_spec c₁ (.join (some next))
    generalize c₁.pushNode (.join (some next)) = join at hjl hjs hf hl ⊢
    have htx := hx (reduceActions thenActions) (some join.1) s!"{path}/then_actions" join.2
    have htr := hn (reduceActions thenActions) join.1 s!"{path}/then_actions" join.2
    generalize nested (reduceActions thenActions) (some join.1) s!"{path}/then_actions" join.2 =
      thenNode at htx htr hf hl ⊢
    have hex := hx (reduceActions elseActions) (some join.1) s!"{path}/else_actions" thenNode.2
    have her := hn (reduceActions elseActions) join.1 s!"{path}/else_actions" thenNode.2
    generalize nested (reduceActions elseActions) (some join.1) s!"{path}/else_actions" thenNode.2 =
      elseNode at hex her hf hl ⊢
    have hg := compileCondition_yields e room guard s!"{path}/condition" elseNode.2
    generalize compileCondition e room guard s!"{path}/condition" elseNode.2 = compiled at hg hf hl ⊢
    cases hgr : compiled.1 with
    | none =>
      rw [hgr] at hf
      exact absurd hf (hg.missing hgr)
    | some condition =>
      simp only [hgr] at hf hl ⊢
      have htl := htx.length_le
      have hel := hex.length_le
      have hgl : compiled.2.nodes.length = elseNode.2.nodes.length := by rw [hg.checks.nodes]
      have hbl := pushNode_length compiled.2
        (.branch condition thenNode.1 elseNode.1 (some join.1))
      have helse := her (hg.checks.no_findings hf) (by omega)
      have hthen := htr (hex.no_findings (hg.checks.no_findings hf)) (by omega)
      obtain ⟨thenEntry, hte, hthen⟩ := hthen
      obtain ⟨elseEntry, hee, helse⟩ := helse
      obtain ⟨hji, hjn⟩ := hjs (by omega)
      rw [hte, hee] at hbl hl ⊢
      generalize hkind : AutomationPlanNodeKind.branch condition (some thenEntry) (some elseEntry)
        (some join.1) = kind at hbl hl ⊢
      have hbx := pushNode_extends compiled.2 kind
      obtain ⟨hbi, hbn⟩ := pushNode_spec compiled.2 kind (by omega)
      have hnodes : elseNode.2.nodes <+: (compiled.2.pushNode kind).2.nodes :=
        hg.checks.nodes ▸ hbx.nodes
      refine ⟨_, rfl, ?_⟩
      rw [hbi, hbl, ← hv.nodes, hgl]
      rw [hgl] at hbn
      rw [hji] at hthen helse hkind
      rw [hjl] at hthen
      exact .branch (hjn.mono (htx.nodes.trans (hex.nodes.trans hnodes)))
        (hthen.of_reduceActions.mono (hex.nodes.trans hnodes)) (helse.of_reduceActions.mono hnodes)
        (hg.value condition hgr) (hkind ▸ hbn)
  | parallel branches maximumParallel =>
    exact ⟨_, rfl, compileGroup_region e hn hx (.parallel branches maximumParallel) .parallel branches
      maximumParallel next path c rfl hf hl⟩
  | race branches maximumParallel =>
    exact ⟨_, rfl, compileGroup_region e hn hx (.race branches maximumParallel) .race branches
      maximumParallel next path c rfl hf hl⟩

end Lowering

theorem compileReversed_region (e : CompilerEnv)
    (compileOne : AutomationAction → Option AutomationPlanNodeId → String → Option ℕ → Compiler →
      Option AutomationPlanNodeId × Compiler)
    (hox : ∀ action next path segment c, Extends c (compileOne action next path segment c).2)
    (hor : ∀ action next path segment c, (compileOne action (some next) path segment c).2.findings = [] →
      (compileOne action (some next) path segment c).2.nodes.length ≤ 2^32 →
      ∃ entry, (compileOne action (some next) path segment c).1 = some entry ∧
        Region e (compileOne action (some next) path segment c).2.nodes (.step action next entry)
          c.nodes.length (compileOne action (some next) path segment c).2.nodes.length)
    (path : String) (index : ℕ) (actions : List (AutomationAction × Option ℕ)) (next : ℕ)
    (c : Compiler)
    (hf : (compileReversed compileOne path index actions (some next) c).2.findings = [])
    (hl : (compileReversed compileOne path index actions (some next) c).2.nodes.length ≤ 2^32) :
    ∃ entry, (compileReversed compileOne path index actions (some next) c).1 = some entry ∧
      Region e (compileReversed compileOne path index actions (some next) c).2.nodes
        (.block (actions.map Prod.fst) next entry) c.nodes.length
        (compileReversed compileOne path index actions (some next) c).2.nodes.length := by
  induction actions generalizing index with
  | nil => exact ⟨next, rfl, .nil⟩
  | cons head rest ih =>
    simp only [compileReversed] at hf hl ⊢
    have ih := ih (index+1)
    generalize compileReversed compileOne path (index+1) rest (some next) c = following
      at ih hf hl ⊢
    have hx := hox head.1 following.1 s!"{path}/{index}" head.2 following.2
    obtain ⟨middle, hm, hrest⟩ := ih (hx.no_findings hf) (Nat.le_trans hx.length_le hl)
    rw [hm] at hx hf hl ⊢
    obtain ⟨entry, he, hstep⟩ := hor _ _ _ _ _ hf hl
    exact ⟨entry, he, .cons (hrest.mono hx.nodes) hstep⟩

theorem compileActions_region (e : CompilerEnv) (room : ℕ) :
    NestedLowers e (compileActions e room) := by
  induction room with
  | zero =>
    intro actions next path c hf hl
    exact absurd hf (finding_findings_ne_nil _ _ _ _ _ _)
  | succ room ih =>
    intro actions next path c hf hl
    simp only [compileActions] at hf hl ⊢
    obtain ⟨hs, hlen⟩ := assignSegments_spec actions none c
    generalize assignSegments actions none c = segments at hs hlen hf hl ⊢
    have hr := compileReversed_region e _ (compileAction_extends e (compileActions_extends e room) room)
      (compileAction_region e ih (compileActions_extends e room) room) path 0
      (actions.zip segments.1) next segments.2 hf hl
    rw [List.map_fst_zip (Nat.le_of_eq hlen.symm), hs.nodes] at hr
    exact hr

end HomeMagic
