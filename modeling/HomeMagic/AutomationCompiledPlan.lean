import HomeMagic.AutomationPlanFlow

/-! Plans that `compile` returns. -/
namespace HomeMagic

variable {e : CompilerEnv} {ns : List AutomationPlanNode} {plan : AutomationExecutionPlan}

structure CompiledPlan (e : CompilerEnv) (plan : AutomationExecutionPlan) : Prop where
  complete : NodeAt plan.nodes 0 .complete
  body : Region e plan.nodes (.block e.document.actions 0 plan.entry) 1 plan.nodes.length
  nodes : plan.nodes.length ≤ e.document.budget.maximumNodes
  budget : plan.budget = e.document.budget
  valid : e.document.budget.validate = .ok ()
  vars : plan.vars = e.document.vars
  triggers : List.Forall₂ (TriggerKept e) e.document.triggers plan.triggers
  condition : Option.Rel (ConditionKept e) e.document.condition plan.condition

theorem validate_bounds (budget : AutomationResourceBudget) (h : budget.validate = .ok ()) :
    budget.maximumNodes ≤ maxAutomationPlanNodes ∧
    budget.maximumTraceSteps ≤ maxAutomationTraceSteps ∧ 0 < budget.maximumTraceSteps := by
  unfold AutomationResourceBudget.validate at h
  split_ifs at h with h1 h2 h3 h4 h5 h6
  omega

theorem compileGuard_spec (e : CompilerEnv) (c : Compiler) : Checks c (compileGuard e c).2 ∧
    ((compileGuard e c).2.findings = [] →
      Option.Rel (ConditionKept e) e.document.condition (compileGuard e c).1) := by
  unfold compileGuard
  split
  · rename_i condition hc
    have hy := compileCondition_yields e e.document.budget.maximumNestingDepth condition "/condition" c
    refine ⟨hy.checks, ?_⟩
    intro hf
    obtain ⟨resolved, hr, hk⟩ := hy.obtain hf
    rw [hc, hr]
    exact .some hk
  · rename_i hc
    rw [hc]
    exact ⟨Checks.refl c, fun _ => .none⟩

theorem insertionSort_numbered (h : ∀ i, i < ns.length → ∃ kind, NodeAt ns i kind) :
    ns.insertionSort (fun left right => left.id ≤ right.id) = ns := by
  apply List.Pairwise.insertionSort_eq
  rw [List.pairwise_iff_getElem]
  intro i j hi hj hij
  obtain ⟨a, ha⟩ := h i hi
  obtain ⟨b, hb⟩ := h j hj
  rw [(List.getElem?_eq_some_iff.mp ha).2, (List.getElem?_eq_some_iff.mp hb).2]
  exact Nat.le_of_lt hij

theorem compileBody_spec (e : CompilerEnv) (hf : (compileBody e).2.2.2.findings = []) :
    e.document.budget.validate = .ok () ∧
    List.Forall₂ (TriggerKept e) e.document.triggers (compileBody e).1 ∧
    Option.Rel (ConditionKept e) e.document.condition (compileBody e).2.1 ∧
    ((compileBody e).2.2.2.nodes.length ≤ 2^32 →
      NodeAt (compileBody e).2.2.2.nodes 0 .complete ∧
      ∃ entry, (compileBody e).2.2.1 = some entry ∧
        Region e (compileBody e).2.2.2.nodes (.block e.document.actions 0 entry) 1
          (compileBody e).2.2.2.nodes.length) := by
  simp only [compileBody] at hf ⊢
  obtain ⟨hsc, hsv⟩ := validateStructure_spec e .new
  generalize validateStructure e .new = c₁ at hsc hsv hf ⊢
  obtain ⟨htc, htk⟩ := compileTriggers_spec e 0 e.document.triggers c₁
  generalize compileTriggers e 0 e.document.triggers c₁ = triggers at htc htk hf ⊢
  obtain ⟨hgc, hgk⟩ := compileGuard_spec e triggers.2
  generalize compileGuard e triggers.2 = condition at hgc hgk hf ⊢
  have hpx := pushNode_extends condition.2 .complete
  have hpl := pushNode_length condition.2 .complete
  have hps := pushNode_spec condition.2 .complete
  generalize condition.2.pushNode .complete = complete at hpx hpl hps hf ⊢
  have hx := compileActions_extends e e.document.budget.maximumNestingDepth
    (reduceActions e.document.actions) (some complete.1) "/actions" complete.2
  have hf₂ := hpx.no_findings (hx.no_findings hf)
  refine ⟨hsv (htc.no_findings (hgc.no_findings hf₂)), htk (hgc.no_findings hf₂), hgk hf₂, ?_⟩
  intro hl
  have hempty : condition.2.nodes = [] := by
    rw [hgc.nodes, htc.nodes, hsc.nodes]
    rfl
  have hzero : condition.2.nodes.length = 0 := by rw [hempty, List.length_nil]
  obtain ⟨hid, hn⟩ := hps (by omega)
  rw [hzero] at hid hn hpl
  obtain ⟨entry, he, hr⟩ := compileActions_region e e.document.budget.maximumNestingDepth
    (reduceActions e.document.actions) complete.1 "/actions" complete.2 hf hl
  rw [hid, hpl] at hr
  rw [hid] at he hx ⊢
  exact ⟨hn.mono hx.nodes, entry, he, hr.of_reduceActions⟩

theorem Region.numbered {actions : List AutomationAction} {entry : ℕ}
    (h : Region e ns (.block actions 0 entry) 1 ns.length) (hz : NodeAt ns 0 .complete) :
    ∀ i, i < ns.length → ∃ kind, NodeAt ns i kind := by
  intro i hi
  rcases Nat.eq_zero_or_pos i with rfl | hpos
  · exact ⟨_, hz⟩
  · obtain ⟨kind, hk, _⟩ := h.node i hpos hi
    exact ⟨kind, hk⟩

theorem compile_ok (h : compile e = .ok plan) :
    (compileBody e).2.2.2.findings = [] ∧
    (compileBody e).2.2.2.nodes.length ≤ e.document.budget.maximumNodes ∧
    ∃ entry documentHash planHash, (compileBody e).2.2.1 = some entry ∧
      plan = { assemblePlan e (compileBody e).2.2.2 (compileBody e).1 (compileBody e).2.1 entry
        documentHash with planHash := planHash } := by
  rcases hb : compileBody e with ⟨triggers, condition, entry, c⟩
  simp only [compile, hb] at h
  by_cases hn : e.document.budget.maximumNodes < c.nodes.length
  · rw [if_pos hn, if_pos (by simp [Compiler.finding])] at h
    cases h
  rw [if_neg hn] at h
  split at h
  · cases h
  rename_i hf
  split at h
  · cases h
  split at h
  · cases h
  split at h
  · cases h
  cases h
  exact ⟨by simpa using hf, Nat.not_lt.mp hn, _, _, _, rfl, rfl⟩

theorem compile_nodes (h : compile e = .ok plan) :
    plan.nodes = (compileBody e).2.2.2.nodes := by
  obtain ⟨hf, hn, entry, documentHash, planHash, hentry, rfl⟩ := compile_ok h
  obtain ⟨hvalid, _, _, hnodes⟩ := compileBody_spec e hf
  have hlimit := (validate_bounds _ hvalid).1
  unfold maxAutomationPlanNodes at hlimit
  obtain ⟨hcomplete, entryNode, _, hregion⟩ := hnodes (by omega)
  exact insertionSort_numbered (hregion.numbered hcomplete)

theorem compile_compiledPlan (e : CompilerEnv) (plan : AutomationExecutionPlan)
    (h : compile e = .ok plan) : CompiledPlan e plan := by
  have hsort := compile_nodes h
  obtain ⟨hf, hn, entry, documentHash, planHash, hentry, rfl⟩ := compile_ok h
  obtain ⟨hvalid, htriggers, hcondition, hnodes⟩ := compileBody_spec e hf
  have hlimit := (validate_bounds _ hvalid).1
  unfold maxAutomationPlanNodes at hlimit
  obtain ⟨hcomplete, entryNode, hentry', hregion⟩ := hnodes (by omega)
  rw [hentry, Option.some.injEq] at hentry'
  subst hentry'
  refine ⟨?_, ?_, ?_, rfl, hvalid, rfl, htriggers, hcondition⟩
  · rw [hsort]
    exact hcomplete
  · rw [hsort]
    exact hregion
  · rw [hsort]
    exact hn

end HomeMagic
