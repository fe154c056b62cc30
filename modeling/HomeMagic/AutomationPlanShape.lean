import HomeMagic.AutomationCompilerSpec

/-! The shape of compiled plans. `Region` says which nodes an authored fragment
occupies and how they are linked; it follows the authored syntax. -/
namespace HomeMagic

namespace AutomationAction

def superseded (action : AutomationAction) (rest : List AutomationAction) : Bool :=
  action.isCommand &&
    (rest.takeWhile isCommand).any (fun candidate => candidate.target? == action.target?)

def group? : AutomationAction → Option (AutomationRunContinuationKind × List (List AutomationAction) × ℕ)
  | parallel branches maximumParallel => some (.parallel, branches, maximumParallel)
  | race branches maximumParallel => some (.race, branches, maximumParallel)
  | _ => none

end AutomationAction

def AutomationFailurePolicy.plain? : AutomationFailurePolicy → Option AutomationPlanFailurePolicy
  | stopRun => some .stopRun
  | stopBranch => some .stopBranch
  | «continue» => some .continue
  | fallback _ => none

def NodeAt (ns : List AutomationPlanNode) (i : ℕ) (kind : AutomationPlanNodeKind) : Prop :=
  ns[i]? = some ⟨i, i, kind⟩

/-- An authored fragment with the continuation it was compiled for and the
reference it compiled to. -/
inductive Shape
  | block (actions : List AutomationAction) (next entry : ℕ)
  | step (action : AutomationAction) (next entry : ℕ)
  | policy (authored : AutomationFailurePolicy) (next : ℕ)
      (compiled : AutomationPlanFailurePolicy)
  | branches (authored : List (List AutomationAction)) (join : ℕ)
      (entries : List ℕ)

namespace Shape

def next : Shape → ℕ
  | block _ next _ | step _ next _ | policy _ next _ => next
  | branches _ join _ => join

def references : Shape → List ℕ
  | block _ _ entry | step _ _ entry => [entry]
  | policy _ _ compiled => compiled.references
  | branches _ _ entries => entries

end Shape

/-- `Region e ns shape lo hi`: the nodes `lo, …, hi-1` of `ns` are the compiled
form of `shape`. -/
inductive Region (e : CompilerEnv) (ns : List AutomationPlanNode) : Shape → ℕ → ℕ → Prop
  | nil {next lo : ℕ} : Region e ns (.block [] next next) lo lo
  | superseded {action : AutomationAction} {rest : List AutomationAction} {next entry lo hi : ℕ}
      (hs : action.superseded rest) (hr : Region e ns (.block rest next entry) lo hi) :
      Region e ns (.block (action :: rest) next entry) lo hi
  | cons {action : AutomationAction} {rest : List AutomationAction}
      {next middle entry lo mid hi : ℕ} (hr : Region e ns (.block rest next middle) lo mid)
      (hs : Region e ns (.step action middle entry) mid hi) :
      Region e ns (.block (action :: rest) next entry) lo hi
  | command {target : AutomationTargetReference} {payload : CommandPayload}
      {retry : AutomationRetryPolicy} {onFailure : AutomationFailurePolicy}
      {targets : List ResolvedAutomationTarget} {segment next lo hi : ℕ}
      {policy : AutomationPlanFailurePolicy} (ht : targetsOf e target = some targets)
      (hr : retry.maximumRetries ≤ maxAutomationRetries)
      (hp : Region e ns (.policy onFailure next policy) lo hi)
      (hn : NodeAt ns hi (.command ⟨targets, payload, segment, retry, policy, some next⟩)) :
      Region e ns (.step (.command target payload retry onFailure) next hi) lo (hi+1)
  | delay {durationMs next lo : ℕ} (hn : NodeAt ns lo (.delay durationMs (some next))) :
      Region e ns (.step (.delay durationMs) next lo) lo (lo+1)
  | wait {guard : AutomationCondition} {condition : ResolvedAutomationCondition}
      {timeoutMs next lo hi : ℕ} {onTimeout : AutomationFailurePolicy}
      {policy : AutomationPlanFailurePolicy} (hc : ConditionKept e guard condition)
      (hp : Region e ns (.policy onTimeout next policy) lo hi)
      (hn : NodeAt ns hi (.wait condition timeoutMs policy (some next))) :
      Region e ns (.step (.wait guard timeoutMs onTimeout) next hi) lo (hi+1)
  | setVariable {name : String} {value : AutomationExpression}
      {expression : ResolvedAutomationExpression} {next lo : ℕ}
      (hv : ExpressionKept e value expression)
      (hn : NodeAt ns lo (.setVariable name expression (some next))) :
      Region e ns (.step (.setVariable name value) next lo) lo (lo+1)
  | sequence {actions : List AutomationAction} {next entry lo hi : ℕ}
      (hr : Region e ns (.block actions next entry) lo hi) :
      Region e ns (.step (.sequence actions) next entry) lo hi
  | branch {guard : AutomationCondition} {condition : ResolvedAutomationCondition}
      {thenActions elseActions : List AutomationAction}
      {next thenEntry elseEntry lo mid hi : ℕ} (hj : NodeAt ns lo (.join (some next)))
      (ht : Region e ns (.block thenActions lo thenEntry) (lo+1) mid)
      (he : Region e ns (.block elseActions lo elseEntry) mid hi)
      (hc : ConditionKept e guard condition)
      (hn : NodeAt ns hi (.branch condition (some thenEntry) (some elseEntry) (some lo))) :
      Region e ns (.step (.if guard thenActions elseActions) next hi) lo (hi+1)
  | group {action : AutomationAction} {kind : AutomationRunContinuationKind}
      {branches : List (List AutomationAction)} {maximumParallel next lo hi : ℕ}
      {entries : List ℕ} (hg : action.group? = some (kind, branches, maximumParallel))
      (hne : branches ≠ []) (hw : branches.length ≤ e.document.budget.maximumParallelWidth)
      (hj : NodeAt ns lo (.join (some next)))
      (hb : Region e ns (.branches branches lo entries) (lo+1) hi)
      (hn : NodeAt ns hi (.group kind entries maximumParallel (some lo))) :
      Region e ns (.step action next hi) lo (hi+1)
  | plain {authored : AutomationFailurePolicy} {compiled : AutomationPlanFailurePolicy}
      {next lo : ℕ} (hp : authored.plain? = some compiled) :
      Region e ns (.policy authored next compiled) lo lo
  | fallback {actions : List AutomationAction} {next entry lo hi : ℕ}
      (hr : Region e ns (.block actions next entry) lo hi) :
      Region e ns (.policy (.fallback actions) next (.fallback (some entry))) lo hi
  | noBranch {join lo : ℕ} : Region e ns (.branches [] join []) lo lo
  | moreBranches {branch : List AutomationAction} {rest : List (List AutomationAction)}
      {join entry lo mid hi : ℕ} {entries : List ℕ}
      (hb : Region e ns (.block branch join entry) lo mid)
      (hr : Region e ns (.branches rest join entries) mid hi) :
      Region e ns (.branches (branch :: rest) join (entry :: entries)) lo hi

variable {hi lo i : ℕ} {s : Shape} {kind : AutomationPlanNodeKind} {ns' : List AutomationPlanNode}

theorem NodeAt.mono {ns : List AutomationPlanNode} (hp : ns <+: ns') (h : NodeAt ns i kind) : NodeAt ns' i kind := by
  obtain ⟨rest, rfl⟩ := hp
  unfold NodeAt at h ⊢
  rw [List.getElem?_append_left (List.getElem?_eq_some_iff.mp h).1]
  exact h

theorem NodeAt.lt_length {ns : List AutomationPlanNode} (h : NodeAt ns i kind) :
    i < ns.length := (List.getElem?_eq_some_iff.mp h).1

theorem NodeAt.unique {ns : List AutomationPlanNode} {a b : AutomationPlanNodeKind} (ha : NodeAt ns i a)
    (hb : NodeAt ns i b) : a = b := by
  unfold NodeAt at ha hb
  rw [ha] at hb
  simpa only [Option.some.injEq, AutomationPlanNode.mk.injEq, true_and] using hb

variable {e : CompilerEnv} {ns : List AutomationPlanNode}

theorem Region.mono (hp : ns <+: ns') (h : Region e ns s lo hi) : Region e ns' s lo hi := by
  induction h with
  | nil => exact .nil
  | superseded hs _ ih => exact .superseded hs ih
  | cons _ _ ihr ihs => exact .cons ihr ihs
  | command ht hr _ hn ih => exact .command ht hr ih (hn.mono hp)
  | delay hn => exact .delay (hn.mono hp)
  | wait hc _ hn ih => exact .wait hc ih (hn.mono hp)
  | setVariable hv hn => exact .setVariable hv (hn.mono hp)
  | sequence _ ih => exact .sequence ih
  | branch hj _ _ hc hn iht ihe => exact .branch (hj.mono hp) iht ihe hc (hn.mono hp)
  | group hg hne hw hj _ hn ih => exact .group hg hne hw (hj.mono hp) ih (hn.mono hp)
  | plain hp => exact .plain hp
  | fallback _ ih => exact .fallback ih
  | noBranch => exact .noBranch
  | moreBranches _ _ ihb ihr => exact .moreBranches ihb ihr

theorem Region.le (h : Region e ns s lo hi) : lo ≤ hi := by
  induction h with
  | nil | delay | setVariable | plain | noBranch => omega
  | superseded _ _ ih | sequence _ ih | fallback _ ih => exact ih
  | cons _ _ ihr ihs => omega
  | command _ _ _ _ ih | wait _ _ _ ih => omega
  | branch _ _ _ _ _ iht ihe => omega
  | group _ _ _ _ _ _ ih => omega
  | moreBranches _ _ ihb ihr => omega

theorem plain_references {authored : AutomationFailurePolicy} {compiled : AutomationPlanFailurePolicy}
    (h : authored.plain? = some compiled) : compiled.references = [] := by
  cases authored <;> cases h <;> rfl

/-- References stay in a region or leave through its continuation. -/
theorem Region.references (h : Region e ns s lo hi) :
    ∀ r ∈ s.references, r = s.next ∨ (lo ≤ r ∧ r < hi) := by
  induction h with
  | nil => exact fun r hr => .inl (List.mem_singleton.mp hr)
  | superseded _ _ ih | sequence _ ih | fallback _ ih => exact ih
  | @cons action rest next middle entry lo mid hi hr hs ihr ihs =>
    have hlr := hr.le
    have hls := hs.le
    simp only [Shape.references, Shape.next, List.mem_singleton, forall_eq] at ihr ihs ⊢
    omega
  | @command _ _ _ _ _ _ _ lo hi _ _ _ hp _ _ =>
    have hl := hp.le
    simp only [Shape.references, List.mem_singleton, forall_eq]
    omega
  | @wait _ _ _ _ lo hi _ _ _ hp _ _ =>
    have hl := hp.le
    simp only [Shape.references, List.mem_singleton, forall_eq]
    omega
  | delay | setVariable =>
    simp only [Shape.references, List.mem_singleton, forall_eq]
    omega
  | @branch _ _ _ _ _ _ _ lo mid hi _ ht he _ _ _ _ =>
    have hlt := ht.le
    have hle := he.le
    simp only [Shape.references, List.mem_singleton, forall_eq]
    omega
  | @group _ _ _ _ _ lo hi _ _ _ _ _ hb _ _ =>
    have hl := hb.le
    simp only [Shape.references, List.mem_singleton, forall_eq]
    omega
  | plain hp =>
    intro r hr
    rw [Shape.references, plain_references hp] at hr
    cases hr
  | noBranch =>
    intro r hr
    cases hr
  | @moreBranches _ _ join entry lo mid hi entries hb hr ihb ihr =>
    have hlb := hb.le
    have hlr := hr.le
    simp only [Shape.references, Shape.next, List.mem_cons, List.not_mem_nil, or_false,
      forall_eq_or_imp, forall_eq] at ihb ihr ⊢
    refine ⟨by omega, ?_⟩
    intro r hm
    have := ihr r hm
    omega

theorem Region.entry_lt {actions : List AutomationAction} {next entry : ℕ}
    (h : Region e ns (.block actions next entry) lo hi) (hn : next < lo) : entry < hi := by
  have hle := h.le
  have he := h.references entry (List.mem_singleton.mpr rfl)
  rw [Shape.next] at he
  omega

end HomeMagic
