import HomeMagic.AutomationCompiledPlan

/-! Well-formedness of compiled plans, stated on the plan alone. -/
namespace HomeMagic

variable {branches : List ℕ} {g j maximumParallel i n : ℕ} {kind : AutomationRunContinuationKind}

def AutomationExecutionPlan.successors (plan : AutomationExecutionPlan) (nodeId : ℕ) : List ℕ :=
  match plan.find nodeId with
  | some kind => kind.references
  | none => []

/-- Node `n` belongs to a branch of group `g`: some branch entry leads to it
without passing the join of the group. -/
def Inside (plan : AutomationExecutionPlan) (g n : ℕ) : Prop :=
  ∃ (kind : AutomationRunContinuationKind) (branches : List ℕ) (maximumParallel j : ℕ),
    plan.find g = some (.group kind branches maximumParallel (some j)) ∧ n ≠ j ∧
    ∃ b ∈ branches, Relation.ReflTransGen (fun x y => x ≠ j ∧ y ∈ plan.successors x) b n

structure WellFormedPlan (plan : AutomationExecutionPlan) : Prop where
  ids : ∀ (i : ℕ) (node : AutomationPlanNode), plan.nodes[i]? = some node → node.id = i
  entry : plan.entry < plan.nodes.length
  references : ∀ node ∈ plan.nodes, ∀ r ∈ node.kind.references, r < node.id ∧ r < plan.nodes.length
  completes : ∀ n, n < plan.nodes.length →
    Inevitable plan.successors (fun m => plan.find m = some .complete) n
  joins : ∀ g n, Inside plan g n → ∀ kind branches maximumParallel (j : ℕ),
    plan.find g = some (.group kind branches maximumParallel (some j)) →
      Inevitable plan.successors (· = j) n
  branches : ∀ g kind branches maximumParallel joinNode,
    plan.find g = some (.group kind branches maximumParallel joinNode) → branches ≠ [] ∧
      ∃ j : ℕ, joinNode = some j ∧ (∃ next, plan.find j = some (.join next)) ∧
        ∀ b ∈ branches, Inevitable plan.successors (· = j) b
  nested : ∀ g g' n, Inside plan g n → Inside plan g' n → g = g' ∨ Inside plan g g' ∨ Inside plan g' g
  separate : ∀ g g' kind branches maximumParallel (j' : ℕ), Inside plan g j' →
    plan.find g' = some (.group kind branches maximumParallel (some j')) → Inside plan g g'

theorem find_of_nodeAt {plan : AutomationExecutionPlan} {kind : AutomationPlanNodeKind}
    (hn : ∀ i, i < plan.nodes.length → ∃ kind, NodeAt plan.nodes i kind) (h : NodeAt plan.nodes i kind) :
    plan.find i = some kind := by
  have hids (k : ℕ) (hk : k < plan.nodes.length) : (plan.nodes[k]).id = k := by
    obtain ⟨kind, hkind⟩ := hn k hk
    rw [(List.getElem?_eq_some_iff.mp hkind).2]
  obtain ⟨hi, hget⟩ := List.getElem?_eq_some_iff.mp h
  have hfind : plan.nodes.find? (fun node => node.id == i) = some ⟨i, i, kind⟩ := by
    rw [List.find?_eq_some_iff_getElem]
    refine ⟨by simp, i, hi, hget, ?_⟩
    intro k hk
    have := hids k (by omega)
    simp only [this, Bool.not_eq_true', beq_eq_false_iff_ne, ne_eq]
    omega
  simp only [AutomationExecutionPlan.find, hfind, Option.map_some]

namespace CompiledPlan
variable {e : CompilerEnv} {plan : AutomationExecutionPlan} (h : CompiledPlan e plan)
include h

theorem numbered : ∀ i, i < plan.nodes.length → ∃ kind, NodeAt plan.nodes i kind :=
  h.body.numbered h.complete

theorem find_iff {kind : AutomationPlanNodeKind} :
    plan.find i = some kind ↔ NodeAt plan.nodes i kind := by
  refine ⟨?_, find_of_nodeAt h.numbered⟩
  intro hf
  by_cases hi : i < plan.nodes.length
  · obtain ⟨kind', hk⟩ := h.numbered i hi
    rw [find_of_nodeAt h.numbered hk, Option.some.injEq] at hf
    exact hf ▸ hk
  · have hnone : plan.nodes.find? (fun node => node.id == i) = none := by
      rw [List.find?_eq_none]
      intro node hm
      obtain ⟨k, hk, rfl⟩ := List.getElem_of_mem hm
      obtain ⟨kind', hkind⟩ := h.numbered k hk
      rw [(List.getElem?_eq_some_iff.mp hkind).2]
      simp only [beq_iff_eq]
      omega
    simp only [AutomationExecutionPlan.find, hnone, Option.map_none, reduceCtorEq] at hf

theorem successors_eq {kind : AutomationPlanNodeKind} (hk : NodeAt plan.nodes i kind) :
    plan.successors i = kind.references := by
  simp only [AutomationExecutionPlan.successors, h.find_iff.mpr hk]

theorem entry_lt : plan.entry < plan.nodes.length := by
  have hlen := h.complete.lt_length
  exact h.body.entry_lt (Nat.lt_succ_self 0)

theorem node_cases (i : ℕ) (hi : i < plan.nodes.length) : ∃ kind, NodeAt plan.nodes i kind ∧
    (∀ r : ℕ, r ∈ kind.references → r < i) ∧ (kind.references = [] → kind = .complete) := by
  rcases Nat.eq_zero_or_pos i with rfl | hpos
  · refine ⟨_, h.complete, ?_, fun _ => rfl⟩
    intro r hr
    cases hr
  · obtain ⟨kind, hk, hne, href⟩ := h.body.node i hpos hi
    refine ⟨kind, hk, ?_, fun h => absurd h hne⟩
    intro r hr
    have := href r hr
    simp only [Shape.next, Within] at this
    omega

theorem groupAt {joinNode : Option ℕ} (hf : plan.find g = some (.group kind branches maximumParallel joinNode)) :
    ∃ j, joinNode = some j ∧ GroupAt e plan.nodes 1 branches j g := by
  have hn := h.find_iff.mp hf
  have hg : 1 ≤ g := by
    rcases Nat.eq_zero_or_pos g with rfl | hpos
    · cases hn.unique h.complete
    · exact hpos
  exact h.body.groupAt hg hn.lt_length hn

theorem step_inside {lo : ℕ} (hg : GroupAt e plan.nodes lo branches j g) (hlo : j < n) (hhi : n < g) :
    plan.successors n ≠ [] ∧ ∀ r ∈ plan.successors n, j ≤ r ∧ r < n := by
  obtain ⟨authored, _, _, hr⟩ := hg.branches
  obtain ⟨kind, hk, hne, href⟩ := hr.node n hlo hhi
  rw [h.successors_eq hk]
  refine ⟨hne, ?_⟩
  intro r hm
  have := href r hm
  simp only [Shape.next, Within] at this
  omega

theorem inside_iff (hf : plan.find g = some (.group kind branches maximumParallel (some j))) :
    Inside plan g n ↔ j < n ∧ n < g := by
  obtain ⟨j', hj, hg⟩ := h.groupAt hf
  cases hj
  obtain ⟨authored, _, _, hr⟩ := hg.branches
  constructor
  · rintro ⟨kind', branches', maximumParallel', j', hf', hne, b, hb, hw⟩
    rw [hf] at hf'
    cases hf'
    have hrange : j ≤ n ∧ n < g := by
      refine walk_invariant (P := fun m => j ≤ m ∧ m < g) hw ?_ ?_
      · have := hr.references b hb
        have := hg.lt
        simp only [Shape.next] at *
        omega
      · rintro x y hx ⟨hxj, hy⟩
        have := (h.step_inside hg (n := x) (by omega) hx.2).2 y hy
        omega
    omega
  · rintro ⟨hlo, hhi⟩
    obtain ⟨b, hb, hw⟩ := hr.walk_to n hlo hhi
    refine ⟨kind, branches, maximumParallel, j, hf, by omega, b, hb, ?_⟩
    refine Relation.ReflTransGen.mono ?_ b n hw
    intro x y hxy
    obtain ⟨hx, kind', hk, hy⟩ := hxy
    exact ⟨by omega, h.successors_eq hk ▸ hy⟩

theorem inevitable_join (hf : plan.find g = some (.group kind branches maximumParallel (some j))) (hlo : j ≤ n)
    (hhi : n < g) : Inevitable plan.successors (· = j) n := by
  obtain ⟨j', hj, hg⟩ := h.groupAt hf
  cases hj
  refine inevitable_of_wellFounded Nat.lt_wfRel.wf (fun m => j ≤ m ∧ m < g) ?_ n ⟨hlo, hhi⟩
  intro m hm hne
  obtain ⟨hs, hr⟩ := h.step_inside hg (n := m) (by omega) hm.2
  refine ⟨hs, ?_⟩
  intro r hr'
  have := hr r hr'
  exact ⟨⟨this.1, by omega⟩, this.2⟩

theorem groups_nest {kind' : AutomationRunContinuationKind} {branches' : List ℕ} {maximumParallel' g' j' : ℕ}
    (hf : plan.find g = some (.group kind branches maximumParallel (some j)))
    (hf' : plan.find g' = some (.group kind' branches' maximumParallel' (some j'))) (hlt : g < g') :
    g < j' ∨ j' < j := by
  obtain ⟨_, hj, hg⟩ := h.groupAt hf'
  cases hj
  obtain ⟨next, hjoin⟩ := hg.join
  rcases Nat.lt_trichotomy g j' with hlt' | rfl | hgt
  · exact .inl hlt'
  · cases (h.find_iff.mp hf).unique hjoin
  · obtain ⟨authored, _, _, hr⟩ := hg.branches
    obtain ⟨j'', hj'', hg''⟩ := hr.groupAt hgt hlt (h.find_iff.mp hf)
    cases hj''
    exact .inr hg''.ge

/-- The parts are read off the region that the document was compiled to. -/
theorem wellFormed : WellFormedPlan plan where
  ids := by
    intro i node hget
    obtain ⟨kind, hk⟩ := h.numbered i (List.getElem?_eq_some_iff.mp hget).1
    unfold NodeAt at hk
    rw [hk, Option.some.injEq] at hget
    rw [← hget]
  entry := h.entry_lt
  references := by
    intro node hm r hr
    obtain ⟨i, hi, rfl⟩ := List.getElem_of_mem hm
    obtain ⟨kind, hk, href, _⟩ := h.node_cases i hi
    rw [(List.getElem?_eq_some_iff.mp hk).2] at hr ⊢
    have := href r hr
    exact ⟨this, Nat.lt_trans this hi⟩
  completes := by
    intro n hn
    refine inevitable_of_wellFounded Nat.lt_wfRel.wf (fun m => m < plan.nodes.length) ?_ n hn
    intro m hm hg
    obtain ⟨kind, hk, href, hend⟩ := h.node_cases m hm
    rw [h.successors_eq hk]
    refine ⟨?_, ?_⟩
    · intro hnil
      exact hg (h.find_iff.mpr (hend hnil ▸ hk))
    · intro r hr
      have := href r hr
      exact ⟨Nat.lt_trans this hm, this⟩
  joins := by
    intro g n hin kind branches maximumParallel j hf
    have := (h.inside_iff hf).mp hin
    exact h.inevitable_join hf (by omega) this.2
  branches := by
    intro g kind branches maximumParallel joinNode hf
    obtain ⟨j, rfl, hg⟩ := h.groupAt hf
    obtain ⟨authored, hne, _, hr⟩ := hg.branches
    obtain ⟨next, hjoin⟩ := hg.join
    refine ⟨?_, j, rfl, ⟨_, h.find_iff.mpr hjoin⟩, ?_⟩
    · rintro rfl
      cases hr with
      | noBranch => exact hne rfl
    · intro b hb
      have := hr.references b hb
      have := hg.lt
      simp only [Shape.next] at *
      exact h.inevitable_join hf (by omega) (by omega)
  nested := by
    intro g g' n hin hin'
    obtain ⟨kind, branches, maximumParallel, j, hf, -⟩ := id hin
    obtain ⟨kind', branches', maximumParallel', j', hf', -⟩ := id hin'
    rw [h.inside_iff hf] at hin
    rw [h.inside_iff hf'] at hin'
    rcases Nat.lt_trichotomy g g' with hlt | rfl | hgt
    · have := h.groups_nest hf hf' hlt
      exact .inr (.inr ((h.inside_iff hf').mpr (by omega)))
    · exact .inl rfl
    · have := h.groups_nest hf' hf hgt
      exact .inr (.inl ((h.inside_iff hf).mpr (by omega)))
  separate := by
    intro g g' kind' branches' maximumParallel' j' hin hf'
    obtain ⟨kind, branches, maximumParallel, j, hf, -⟩ := id hin
    rw [h.inside_iff hf] at hin ⊢
    obtain ⟨_, hj, hg'⟩ := h.groupAt hf'
    cases hj
    have := hg'.lt
    rcases Nat.lt_trichotomy g g' with hlt | rfl | hgt
    · have := h.groups_nest hf hf' hlt
      omega
    · rw [hf] at hf'
      cases hf'
      omega
    · omega

end CompiledPlan

/-- Compiled plans are well formed and perform every authored action except
superseded commands; triggers and the guard are all kept. -/
theorem compile_well_formed (e : CompilerEnv) (plan : AutomationExecutionPlan)
    (h : compile e = .ok plan) :
    WellFormedPlan plan ∧ plan.nodes.length ≤ plan.budget.maximumNodes ∧
    plan.budget = e.document.budget ∧ NodeAt plan.nodes 0 .complete ∧
    Region e plan.nodes (.block e.document.actions 0 plan.entry) 1 plan.nodes.length ∧
    List.Forall₂ (TriggerKept e) e.document.triggers plan.triggers ∧
    Option.Rel (ConditionKept e) e.document.condition plan.condition := by
  have hc := compile_compiledPlan e plan h
  exact ⟨hc.wellFormed, hc.budget ▸ hc.nodes, hc.budget, hc.complete, hc.body, hc.triggers,
    hc.condition⟩

def lampHost : CompilerHost where
  documentBytes := fun _ => .ok 1024
  documentHash := fun _ => .ok "document"
  planHash := fun _ => .ok "plan"
  timezoneValid := fun timezone => timezone == "UTC"
  localTimeValid := fun _ => true
  cronValid := fun text => text == "0 0 18 * * *"

def lampRecord : DeviceRecord :=
  ⟨1, 1, ⟨7, "lamp", "Lamp", [⟨"switch:0", none, [.onOff false .comfort]⟩], 0⟩, .enrolled,
    ⟨.online, 0, none⟩, ⟨0, 0, some 0⟩, [], [], [("switch:0", [⟨"on_off", 1, .comfort⟩])]⟩

def lampTarget : AutomationTargetReference := ⟨.device 7, none, "on_off.v1"⟩

def switchLamp (on : Bool) : AutomationAction :=
  .command lampTarget (.onOff (.set on)) ⟨0, 0, []⟩ .stopRun

def lampDocument (actions : List AutomationAction) : AutomationDocument where
  id := 1
  version := 1
  name := "Evening lamp"
  provenance := ⟨1, none, "Switch the lamp", "Requested by the resident"⟩
  vars := []
  triggers := [.schedule ⟨"0 18 * * *", "UTC", 60000⟩]
  condition := none
  actions := actions
  runMode := .single
  selfTrigger := .allow
  budget := .default
  createdAt := 0

def lampEnv (actions : List AutomationAction) : CompilerEnv :=
  ⟨lampHost, lampDocument actions, ⟨[lampRecord], [], none⟩⟩

theorem compile_of_any {e : CompilerEnv} {p : AutomationExecutionPlan → Bool}
    (h : (compile e).toOption.any p = true) : ∃ plan, compile e = .ok plan ∧ p plan = true := by
  cases hc : compile e with
  | ok plan =>
    rw [hc] at h
    exact ⟨plan, rfl, h⟩
  | error errors =>
    rw [hc] at h
    cases h

def lampIs (on : Bool) : AutomationCondition :=
  .compare (.observation lampTarget "on") .equal (.literal (.boolean on))

def eveningActions : List AutomationAction :=
  [.parallel [[switchLamp true], [.if (lampIs false) [switchLamp true] [.delay 1000]]] 2,
    .wait (lampIs true) 60000 (.fallback [switchLamp false])]

/-- A group with a branch in it, and a wait with a fallback. -/
theorem compile_well_formed_evening : ∃ plan, compile (lampEnv eveningActions) = .ok plan ∧
    plan.nodes.length = 10 ∧ WellFormedPlan plan ∧
      Region (lampEnv eveningActions) plan.nodes (.block eveningActions 0 plan.entry) 1 10 := by
  have hok : (compile (lampEnv eveningActions)).toOption.any (fun plan => plan.nodes.length == 10) = true := by
    decide +kernel
  obtain ⟨plan, hc, hnodes⟩ := compile_of_any hok
  have hten := beq_iff_eq.mp hnodes
  obtain ⟨hformed, -, -, -, hbody, -⟩ := compile_well_formed _ plan hc
  rw [hten] at hbody
  exact ⟨plan, hc, hten, hformed, hbody⟩

def neverSwitchesOff (node : AutomationPlanNode) : Bool :=
  match node.kind with
  | .command command => command.payload != .onOff (.set false)
  | _ => true

/-- Switching off and on again compiles without a finding to a plan that never
switches off. -/
theorem superseded_command_dropped :
    ∃ plan, compile (lampEnv [switchLamp false, switchLamp true]) = .ok plan ∧
      ∀ node ∈ plan.nodes, ∀ command, node.kind = .command command →
        command.payload ≠ .onOff (.set false) := by
  have hok : ((compile (lampEnv [switchLamp false, switchLamp true])).toOption.any
      (fun plan => plan.nodes.all neverSwitchesOff)) = true := by decide +kernel
  obtain ⟨plan, hc, hall⟩ := compile_of_any hok
  refine ⟨plan, hc, ?_⟩
  intro node hm command hk
  have hnode := List.all_eq_true.mp hall node hm
  simpa [neverSwitchesOff, hk] using hnode

end HomeMagic
