import HomeMagic.AutomationCompiledPlan
import HomeMagic.AutomationSimulatorRounds

/-! The simulator within its budget, on any plan: each round uses a step of the budget, virtual time does not
go back, and the trace is numbered without gaps. -/
namespace HomeMagic
open List Option Fallible

variable {run : AutomationPlanNodeId → StepInterpreter → LoggedRun Flow} {condition : ResolvedAutomationCondition}
  {value : Bool} {attempt fuel : ℕ} {flow : Flow} {node : CommandNode}

structure EvaluationContext.Keeps {σ : Type} (context : EvaluationContext σ) (R : σ → σ → Prop) : Prop where
  refl : ∀ s, R s s
  trans : ∀ {a b c}, R a b → R b c → R a c
  duration : ∀ evaluate condition durationMs, (∀ s, R s (evaluate s).2) →
    ∀ s, R s (context.stateDuration evaluate condition durationMs s).2

section Keeps
variable {σ : Type} {host : EvaluatorHost} {context : EvaluationContext σ} {vars : Variables} {R : σ → σ → Prop}
  (h : context.Keeps R)
include h

mutual
theorem evaluateCondition_keeps : ∀ (condition : ResolvedAutomationCondition) (s : σ),
    R s (evaluateCondition host context vars condition s).2
  | .literal value, s => by
    rw [evaluateCondition]
    exact h.refl s
  | .compare left operator right, s => by
    rw [evaluateCondition]
    exact h.refl s
  | .all conditions, s => by
    rw [evaluateCondition]
    exact evaluateAll_keeps conditions s
  | .any conditions, s => by
    rw [evaluateCondition]
    exact evaluateAny_keeps conditions s
  | .not condition, s => by
    rw [evaluateCondition]
    exact evaluateCondition_keeps condition s
  | .timeWindow timezone start stop, s => by
    rw [evaluateCondition]
    exact h.refl s
  | .stateDuration condition durationMs, s => by
    rw [evaluateCondition]
    exact h.duration _ condition durationMs (evaluateCondition_keeps condition) s

theorem evaluateAll_keeps : ∀ (conditions : List ResolvedAutomationCondition) (s : σ),
    R s (evaluateAll host context vars conditions s).2
  | [], s => by
    rw [evaluateAll]
    exact h.refl s
  | condition :: rest, s => by
    have hhead := evaluateCondition_keeps condition s
    rw [evaluateAll]
    split
    · exact h.trans hhead (evaluateAll_keeps rest _)
    · exact hhead
    · exact hhead

theorem evaluateAny_keeps : ∀ (conditions : List ResolvedAutomationCondition) (s : σ),
    R s (evaluateAny host context vars conditions s).2
  | [], s => by
    rw [evaluateAny]
    exact h.refl s
  | condition :: rest, s => by
    have hhead := evaluateCondition_keeps condition s
    rw [evaluateAny]
    split
    · exact hhead
    · exact h.trans hhead (evaluateAny_keeps rest _)
    · exact hhead
end

end Keeps

namespace VirtualSimulationPorts
variable {ports later last : VirtualSimulationPorts}

def Later (ports later : VirtualSimulationPorts) : Prop :=
  ports.now ≤ later.now ∧ later.changes <:+ ports.changes

theorem Later.refl (ports : VirtualSimulationPorts) : Later ports ports :=
  ⟨le_refl _, suffix_rfl⟩

theorem Later.trans (h : Later ports later) (h' : Later later last) : Later ports last :=
  ⟨h.1.trans h'.1, h'.2.trans h.2⟩

theorem later_advanceTo (ports : VirtualSimulationPorts) (instant : Instant) : Later ports (ports.advanceTo instant) :=
  ⟨le_max_left _ _, dropWhile_suffix _⟩

theorem advanceTo_change {deadline changeAt : Instant} (h : ports.nextChangeThrough deadline = some changeAt) :
    (ports.advanceTo changeAt).changes.length < ports.changes.length := by
  unfold nextChangeThrough at h
  unfold advanceTo
  split at h
  next change rest hchanges =>
    split at h
    · cases h
      dsimp only
      rw [hchanges, dropWhile_cons_of_pos (by simp)]
      have hle := (dropWhile_suffix (l := rest) (fun other => decide (other.instant ≤ change.instant))).length_le
      rw [length_cons]
      omega
    · cases h
  · cases h

theorem nextChange_none (h : ports.changes = []) (deadline : Instant) : ports.nextChangeThrough deadline = none := by
  unfold nextChangeThrough
  rw [h]

section Holds
variable {evaluate : VirtualSimulationPorts → Except AutomationEvaluationError Bool × VirtualSimulationPorts}
  (hevaluate : ∀ ports, Later ports (evaluate ports).2) (deadline : Instant)
include hevaluate

theorem later_holdsThrough (rounds : ℕ) (ports : VirtualSimulationPorts) :
    Later ports (holdsThrough evaluate deadline rounds ports).2 := by
  induction rounds generalizing ports with
  | zero => exact (later_advanceTo ports deadline).trans (hevaluate _)
  | succ rounds ih =>
    unfold holdsThrough
    split
    · exact (later_advanceTo ports deadline).trans (hevaluate _)
    next changeAt _ =>
      have hround := (later_advanceTo ports changeAt).trans (hevaluate (ports.advanceTo changeAt))
      split
      next next hnext =>
        rw [hnext] at hround
        exact hround.trans (ih next)
      next result next _ hnext =>
        rw [hnext] at hround
        exact hround

end Holds

theorem later_stateDuration
    {evaluate : VirtualSimulationPorts → Except AutomationEvaluationError Bool × VirtualSimulationPorts}
    (hevaluate : ∀ ports, Later ports (evaluate ports).2) (condition : ResolvedAutomationCondition) (durationMs : ℕ)
    (ports : VirtualSimulationPorts) : Later ports (context.stateDuration evaluate condition durationMs ports).2 := by
  have hfirst := hevaluate ports
  unfold context
  dsimp only
  split
  next next hnext =>
    rw [hnext] at hfirst
    split
    · exact hfirst
    · exact hfirst.trans (later_holdsThrough hevaluate _ _ _)
  next result next _ hnext =>
    rw [hnext] at hfirst
    exact hfirst

theorem context_keeps_later : context.Keeps Later :=
  ⟨Later.refl, Later.trans, fun _ condition durationMs h => later_stateDuration h condition durationMs⟩

theorem later_evaluate (host : EvaluatorHost) (vars : Variables) (condition : ResolvedAutomationCondition)
    (ports : VirtualSimulationPorts) : Later ports (evaluateCondition host context vars condition ports).2 :=
  evaluateCondition_keeps context_keeps_later condition ports

end VirtualSimulationPorts

def outcomes (trace : List AutomationTraceStep) : ℕ :=
  trace.countP (fun entry => entry.kind == .outcome)

namespace StepInterpreter
variable {host : EvaluatorHost} {fixture : AutomationSimulationFixture} {i i' i'' : StepInterpreter}

/-- The trace fits the budget, is numbered from zero without gaps, and its instants never go back. -/
structure TraceSound (fixture : AutomationSimulationFixture) (i : StepInterpreter) : Prop where
  fits : i.trace.length ≤ fixture.plan.budget.maximumTraceSteps
  numbered : i.trace.map AutomationTraceStep.sequence = List.range i.trace.length
  ordered : (i.trace.map AutomationTraceStep.occurredAt).Pairwise (· ≤ ·)
  past : ∀ entry ∈ i.trace, entry.occurredAt ≤ i.ports.now

theorem TraceSound.new : TraceSound fixture (.new fixture) :=
  ⟨Nat.zero_le _, rfl, List.Pairwise.nil, fun _ hmem => absurd hmem not_mem_nil⟩

structure Advances (fixture : AutomationSimulationFixture) (i i' : StepInterpreter) : Prop where
  steps : i'.steps = i.steps
  now : i.ports.now ≤ i'.ports.now
  sound : TraceSound fixture i → TraceSound fixture i'
  outcomes : outcomes i'.trace = outcomes i.trace

theorem Advances.refl (i : StepInterpreter) : Advances fixture i i :=
  ⟨rfl, le_refl _, id, rfl⟩

theorem Advances.trans (h : Advances fixture i i') (h' : Advances fixture i' i'') : Advances fixture i i'' :=
  ⟨h'.steps.trans h.steps, h.now.trans h'.now, fun hsound => h'.sound (h.sound hsound), h'.outcomes.trans h.outcomes⟩

theorem Advances.of_same (hsteps : i'.steps = i.steps) (hnow : i.ports.now ≤ i'.ports.now)
    (htrace : i'.trace = i.trace) : Advances fixture i i' := by
  refine ⟨hsteps, hnow, ?_, by rw [htrace]⟩
  intro hsound
  refine ⟨?_, ?_, ?_, ?_⟩
  · rw [htrace]
    exact hsound.fits
  · rw [htrace]
    exact hsound.numbered
  · rw [htrace]
    exact hsound.ordered
  · rw [htrace]
    exact fun entry hmem => (hsound.past entry hmem).trans hnow

theorem advances_advanceTo (i : StepInterpreter) (instant : Instant) :
    Advances fixture i { i with ports := i.ports.advanceTo instant } :=
  .of_same rfl (VirtualSimulationPorts.later_advanceTo i.ports instant).1 rfl

theorem commandOutcome_now (ports : VirtualSimulationPorts) : ports.commandOutcome.2.now = ports.now := by
  unfold VirtualSimulationPorts.commandOutcome
  split <;> rfl

section
variable {kind : AutomationTraceKind} {nodeId : Option AutomationPlanNodeId}
  {details : List (String × AutomationValue)}

theorem record_sound (h : i.record fixture kind nodeId details = .ok i') :
    i'.steps = i.steps ∧ i'.ports = i.ports ∧ (TraceSound fixture i → TraceSound fixture i') ∧
      outcomes i'.trace = outcomes i.trace + if kind = .outcome then 1 else 0 := by
  unfold record at h
  split at h
  · cases h
  next hroom =>
    cases h
    refine ⟨rfl, rfl, ?_, ?_⟩
    · intro hsound
      refine ⟨?_, ?_, ?_, ?_⟩
      · rw [length_append, length_singleton]
        omega
      · rw [map_append, hsound.numbered, length_append, length_singleton, range_succ]
        rfl
      · rw [map_append, pairwise_append]
        refine ⟨hsound.ordered, pairwise_singleton _ _, ?_⟩
        intro earlier hearlier last hlast
        obtain ⟨entry, hentry, rfl⟩ := List.mem_map.mp hearlier
        rw [mem_singleton.mp hlast]
        exact hsound.past entry hentry
      · intro entry hmem
        rcases mem_append.mp hmem with hmem | hmem
        · exact hsound.past entry hmem
        · rw [mem_singleton.mp hmem]
    · unfold HomeMagic.outcomes
      rw [countP_append, countP_singleton]
      simp only [beq_iff_eq]

theorem advances_record (hkind : kind ≠ .outcome) (h : i.record fixture kind nodeId details = .ok i') :
    Advances fixture i i' := by
  obtain ⟨hsteps, hports, hsound, houtcomes⟩ := record_sound h
  rw [if_neg hkind] at houtcomes
  exact ⟨hsteps, by rw [hports], hsound, houtcomes⟩

end

theorem evaluate_later (h : evaluate host i condition = .ok (value, i')) :
    i.ports.Later i'.ports ∧ i'.steps = i.steps ∧ i'.trace = i.trace := by
  have hlater := VirtualSimulationPorts.later_evaluate host i.vars condition i.ports
  unfold evaluate at h
  split at h
  next value ports hevaluated =>
    cases h
    rw [hevaluated] at hlater
    exact ⟨hlater, rfl, rfl⟩
  · cases h

theorem advances_evaluate (h : evaluate host i condition = .ok (value, i')) : Advances fixture i i' := by
  obtain ⟨hlater, hsteps, htrace⟩ := evaluate_later h
  exact .of_same hsteps hlater.1 htrace

theorem advances_awaitCondition {deadline : Instant} {rounds : ℕ}
    (h : awaitCondition host condition deadline rounds i = .ok (value, i')) :
    Advances fixture i i' := by
  induction rounds generalizing i with
  | zero =>
    cases h
    exact .refl _
  | succ rounds ih =>
    unfold awaitCondition at h
    split at h
    · cases h
      exact .refl _
    next changeAt _ =>
      obtain ⟨⟨satisfied, next⟩, hevaluated, hrest⟩ := bind_inv h
      have hround : Advances fixture i next := (advances_advanceTo i changeAt).trans (advances_evaluate hevaluated)
      cases satisfied with
      | true =>
        cases hrest
        exact hround
      | false => exact hround.trans (ih hrest)

theorem awaitCondition_rounds (condition : ResolvedAutomationCondition) (deadline : Instant) (rounds : ℕ)
    (i : StepInterpreter) (hrounds : i.ports.changes.length ≤ rounds) :
    awaitCondition host condition deadline rounds i = awaitCondition host condition deadline (rounds + 1) i := by
  induction rounds generalizing i with
  | zero =>
    have hnone := VirtualSimulationPorts.nextChange_none (length_eq_zero_iff.mp (Nat.le_zero.mp hrounds)) deadline
    rw [awaitCondition, awaitCondition, hnone]
  | succ rounds ih =>
    rw [awaitCondition]
    conv_rhs => rw [awaitCondition]
    split
    · rfl
    next changeAt hnext =>
      have hless := VirtualSimulationPorts.advanceTo_change hnext
      cases hevaluated : evaluate host { i with ports := i.ports.advanceTo changeAt } condition with
      | error error => rfl
      | ok evaluated =>
        obtain ⟨satisfied, next⟩ := evaluated
        have hshorter := (evaluate_later hevaluated).1.2.length_le
        dsimp only at hshorter
        cases satisfied with
        | true => rfl
        | false => exact ih next (by omega)

def sendAttempt (fixture : AutomationSimulationFixture) (nodeId : AutomationPlanNodeId) (node : CommandNode)
    (attempt : ℕ) (i : StepInterpreter) : Except AutomationSimulationError StepInterpreter :=
  let outcome := i.ports.commandOutcome
  record fixture { i with
      ports := outcome.2
      intents := i.intents ++ [⟨nodeId, node.targets, node.payload, attempt, outcome.2.now, outcome.1,
        fixture.plan.safetyProfiles, fixture.plan.approval⟩] } .command (some nodeId)
    [("attempt", .integer attempt), ("state", .string outcome.1.state.name)]

theorem attemptCommand_zero (nodeId : AutomationPlanNodeId) (node : CommandNode) (attempt : ℕ) (i : StepInterpreter) :
    attemptCommand fixture nodeId node attempt 0 i = (sendAttempt fixture nodeId node attempt i).bind (fun next =>
      if i.ports.commandOutcome.1.state = .confirmed then .ok (true, next) else .ok (false, next)) :=
  rfl

theorem attemptCommand_succ (nodeId : AutomationPlanNodeId) (node : CommandNode) (attempt retries : ℕ)
    (i : StepInterpreter) : attemptCommand fixture nodeId node attempt (retries + 1) i =
      (sendAttempt fixture nodeId node attempt i).bind (fun next =>
        if i.ports.commandOutcome.1.state = .confirmed then .ok (true, next)
        else if i.ports.commandOutcome.1.error.any (fun error => node.retry.retryableCommandErrors.contains error) then
          (simulatedAfter next.ports.now node.retry.backoffMs).bind (fun ready =>
            attemptCommand fixture nodeId node (attempt + 1) retries { next with ports := next.ports.advanceTo ready })
        else .ok (false, next)) :=
  rfl

theorem advances_sendAttempt {nodeId : AutomationPlanNodeId}
    (h : sendAttempt fixture nodeId node attempt i = .ok i') : Advances fixture i i' := by
  refine Advances.trans ?_ (advances_record ?_ h)
  · exact .of_same rfl (commandOutcome_now i.ports).ge rfl
  · decide

theorem advances_attemptCommand {nodeId : AutomationPlanNodeId} {retries : ℕ} {confirmed : Bool}
    (h : attemptCommand fixture nodeId node attempt retries i = .ok (confirmed, i')) :
    Advances fixture i i' := by
  induction retries generalizing attempt i with
  | zero =>
    rw [attemptCommand_zero] at h
    obtain ⟨next, hsend, hrest⟩ := bind_inv h
    have hsent := advances_sendAttempt hsend
    split at hrest
    · cases hrest
      exact hsent
    · cases hrest
      exact hsent
  | succ retries ih =>
    rw [attemptCommand_succ] at h
    obtain ⟨next, hsend, hrest⟩ := bind_inv h
    have hsent := advances_sendAttempt hsend
    split at hrest
    · cases hrest
      exact hsent
    split at hrest
    · obtain ⟨ready, _, hagain⟩ := bind_inv hrest
      exact (hsent.trans (advances_advanceTo next ready)).trans (ih hagain)
    · cases hrest
      exact hsent

end StepInterpreter

inductive Leads : AutomationPlanNodeKind → Visit → Prop
  | complete : Leads .complete (.ends .completed)
  | delay {durationMs : ℕ} {next : Option AutomationPlanNodeId} : Leads (.delay durationMs next) (.goes next)
  | confirmed {node : CommandNode} : Leads (.command node) (.goes node.next)
  | failed {node : CommandNode} : Leads (.command node) (visitFailure node.onFailure node.next)
  | satisfied {condition : ResolvedAutomationCondition} {timeoutMs : ℕ} {onTimeout : AutomationPlanFailurePolicy}
      {next : Option AutomationPlanNodeId} : Leads (.wait condition timeoutMs onTimeout next) (.goes next)
  | timedOut {condition : ResolvedAutomationCondition} {timeoutMs : ℕ} {onTimeout : AutomationPlanFailurePolicy}
      {next : Option AutomationPlanNodeId} :
      Leads (.wait condition timeoutMs onTimeout next) (visitFailure onTimeout next)
  | assigned {name : String} {value : ResolvedAutomationExpression} {next : Option AutomationPlanNodeId} :
      Leads (.setVariable name value next) (.goes next)
  | branched {condition : ResolvedAutomationCondition} {thenNode elseNode join : Option AutomationPlanNodeId}
      (selected : Bool) :
      Leads (.branch condition thenNode elseNode join) (.goes ((if selected then thenNode else elseNode).or join))
  | group {kind : AutomationRunContinuationKind} {branches : List AutomationPlanNodeId} {maximumParallel : ℕ}
      {join : Option AutomationPlanNodeId} :
      Leads (.group kind branches maximumParallel join) (.group kind branches join)
  | join {next : Option AutomationPlanNodeId} : Leads (.join next) (.goes next)

def AutomationPlanNodeKind.isComplete : AutomationPlanNodeKind → Bool
  | complete => true
  | _ => false

def completions (plan : AutomationExecutionPlan) (rounds : List SimulationRound) : ℕ :=
  rounds.countP (fun round => (plan.find round.nodeId).any AutomationPlanNodeKind.isComplete)

namespace StepInterpreter
variable {host : EvaluatorHost} {fixture : AutomationSimulationFixture} {i i' i'' : StepInterpreter}
  {nodeId : AutomationPlanNodeId} {visit : Visit} {rounds rounds' : List SimulationRound}

theorem consumeBudget_spec (h : consumeBudget fixture i = .ok i') :
    i' = { i with steps := min (i.steps + 1) (2^32 - 1) } ∧
      i'.steps ≤ fixture.plan.budget.maximumTraceSteps := by
  unfold consumeBudget at h
  dsimp only at h
  split at h
  · cases h
  next hroom =>
    cases h
    refine ⟨rfl, ?_⟩
    simp only [not_or, not_lt] at hroom
    exact hroom.1

/-- What a round does: it uses a step of the budget, then goes on or records the outcome. -/
theorem visitNode_spec (h : visitNode host fixture nodeId i = .ok (visit, i')) : ∃ kind start,
    fixture.plan.find nodeId = some kind ∧ Leads kind visit ∧ consumeBudget fixture i = .ok start ∧
      (Advances fixture start i' ∧ kind.isComplete = false ∨
        start.record fixture .outcome (some nodeId) [("status", .string "completed")] = .ok i' ∧
          kind.isComplete = true) := by
  unfold visitNode at h
  obtain ⟨start, hbudget, hvisit⟩ := bind_inv h
  split at hvisit
  · cases hvisit
  next hfind =>
    obtain ⟨next, hrecord, hrest⟩ := bind_inv hvisit
    cases hrest
    exact ⟨_, start, hfind, .complete, hbudget, .inr ⟨hrecord, rfl⟩⟩
  next hfind =>
    obtain ⟨ready, _, hrest⟩ := bind_inv hvisit
    obtain ⟨next, hrecord, hrest⟩ := bind_inv hrest
    cases hrest
    refine ⟨_, start, hfind, .delay, hbudget, .inl ⟨?_, rfl⟩⟩
    exact (advances_advanceTo start ready).trans (advances_record (by decide) hrecord)
  next node hfind =>
    obtain ⟨⟨confirmed, next⟩, hattempt, hrest⟩ := bind_inv hvisit
    cases hrest
    refine ⟨_, start, hfind, ?_, hbudget, .inl ⟨advances_attemptCommand hattempt, rfl⟩⟩
    cases confirmed with
    | true => exact .confirmed
    | false => exact .failed
  next condition timeoutMs onTimeout following hfind =>
    obtain ⟨deadline, _, hrest⟩ := bind_inv hvisit
    obtain ⟨⟨satisfied, first⟩, hevaluated, hrest⟩ := bind_inv hrest
    have hfirst : Advances fixture start first := advances_evaluate hevaluated
    -- the condition is true at once, or awaited
    have hwaited : ∃ satisfied last, Advances fixture start last ∧
        (if satisfied = true then do
          let i ← last.record fixture .condition (some nodeId) [("result", .boolean true)]
          .ok (.goes following, i)
        else do
          let i ← record fixture { last with ports := last.ports.advanceTo deadline } .timer (some nodeId)
            [("event", .string "wait_timeout")]
          .ok (visitFailure onTimeout following, i)) = Except.ok (visit, i') := by
      cases satisfied with
      | true => exact ⟨true, first, hfirst, hrest⟩
      | false =>
        obtain ⟨⟨satisfied, last⟩, hawait, hrest⟩ := bind_inv hrest
        exact ⟨satisfied, last, hfirst.trans (advances_awaitCondition hawait), hrest⟩
    obtain ⟨satisfied, last, hlast, hrest⟩ := hwaited
    cases satisfied with
    | true =>
      obtain ⟨next, hrecord, hrest⟩ := bind_inv hrest
      cases hrest
      exact ⟨_, start, hfind, .satisfied, hbudget, .inl ⟨hlast.trans (advances_record (by decide) hrecord), rfl⟩⟩
    | false =>
      obtain ⟨next, hrecord, hrest⟩ := bind_inv hrest
      cases hrest
      refine ⟨_, start, hfind, .timedOut, hbudget, .inl ⟨?_, rfl⟩⟩
      exact (hlast.trans (advances_advanceTo last deadline)).trans (advances_record (by decide) hrecord)
  next hfind =>
    obtain ⟨value, _, hrest⟩ := bind_inv hvisit
    obtain ⟨next, hrecord, hrest⟩ := bind_inv hrest
    cases hrest
    refine ⟨_, start, hfind, .assigned, hbudget, .inl ⟨?_, rfl⟩⟩
    refine Advances.trans ?_ (advances_record ?_ hrecord)
    · exact .of_same rfl (le_refl _) rfl
    · decide
  next hfind =>
    obtain ⟨⟨selected, first⟩, hevaluated, hrest⟩ := bind_inv hvisit
    obtain ⟨next, hrecord, hrest⟩ := bind_inv hrest
    cases hrest
    refine ⟨_, start, hfind, .branched selected, hbudget, .inl ⟨?_, rfl⟩⟩
    exact (advances_evaluate hevaluated).trans (advances_record (by decide) hrecord)
  next hfind =>
    cases hvisit
    exact ⟨_, _, hfind, .group, hbudget, .inl ⟨.refl _, rfl⟩⟩
  next hfind =>
    cases hvisit
    exact ⟨_, _, hfind, .join, hbudget, .inl ⟨.refl _, rfl⟩⟩

/-- What rounds that were carried out have done: they used steps of the budget, moved the clock on, kept the trace
sound and recorded one outcome for each complete node. -/
structure Ran (fixture : AutomationSimulationFixture) (i : StepInterpreter) (rounds : List SimulationRound)
    (i' : StepInterpreter) : Prop where
  steps : i.steps ≤ i'.steps
  budget : i.steps ≤ fixture.plan.budget.maximumTraceSteps → i'.steps ≤ fixture.plan.budget.maximumTraceSteps
  now : i.ports.now ≤ i'.ports.now
  sound : TraceSound fixture i → TraceSound fixture i'
  outcomes : outcomes i'.trace = outcomes i.trace + completions fixture.plan rounds

theorem Ran.refl (i : StepInterpreter) : Ran fixture i [] i :=
  ⟨le_refl _, id, le_refl _, id, rfl⟩

theorem Ran.trans (h : Ran fixture i rounds i') (h' : Ran fixture i' rounds' i'') :
    Ran fixture i (rounds ++ rounds') i'' := by
  refine ⟨h.steps.trans h'.steps, fun hb => h'.budget (h.budget hb), h.now.trans h'.now,
    fun hsound => h'.sound (h.sound hsound), ?_⟩
  rw [h'.outcomes, h.outcomes, completions, completions, completions, countP_append, Nat.add_assoc]

section
variable (hlimit : fixture.plan.budget.maximumTraceSteps < 2^32 - 1)
include hlimit

theorem visitNode_steps (h : visitNode host fixture nodeId i = .ok (visit, i')) :
    i'.steps = i.steps + 1 ∧ i'.steps ≤ fixture.plan.budget.maximumTraceSteps := by
  obtain ⟨kind, start, _, _, hbudget, hvisited⟩ := visitNode_spec h
  obtain ⟨hstart, hroom⟩ := consumeBudget_spec hbudget
  have hsteps : i'.steps = start.steps := by
    rcases hvisited with ⟨hadvances, _⟩ | ⟨hrecord, _⟩
    · exact hadvances.steps
    · exact (record_sound hrecord).1
  have hcounted : start.steps = min (i.steps + 1) (2^32 - 1) := by rw [hstart]
  omega

theorem visitNode_ran (h : visitNode host fixture nodeId i = .ok (visit, i')) (stopBefore : Option AutomationPlanNodeId)
    (unmarked : Bool) : Ran fixture i [⟨nodeId, stopBefore, unmarked⟩] i' := by
  obtain ⟨hsteps, hroom⟩ := visitNode_steps hlimit h
  obtain ⟨kind, start, hfind, _, hbudget, hvisited⟩ := visitNode_spec h
  obtain ⟨hstart, _⟩ := consumeBudget_spec hbudget
  have hports : start.ports = i.ports := by rw [hstart]
  have htrace : start.trace = i.trace := by rw [hstart]
  have hbegun : TraceSound fixture i → TraceSound fixture start := by
    intro hsound
    rw [hstart]
    exact ⟨hsound.fits, hsound.numbered, hsound.ordered, hsound.past⟩
  have hcount : completions fixture.plan [⟨nodeId, stopBefore, unmarked⟩] = if kind.isComplete then 1 else 0 := by
    unfold completions
    rw [countP_singleton, hfind]
    rfl
  refine ⟨by omega, fun _ => hroom, ?_, ?_, ?_⟩
  · rw [← hports]
    rcases hvisited with ⟨hadvances, _⟩ | ⟨hrecord, _⟩
    · exact hadvances.now
    · rw [(record_sound hrecord).2.1]
  · intro hsound
    rcases hvisited with ⟨hadvances, _⟩ | ⟨hrecord, _⟩
    · exact hadvances.sound (hbegun hsound)
    · exact (record_sound hrecord).2.2.1 (hbegun hsound)
  · rw [hcount, ← htrace]
    rcases hvisited with ⟨hadvances, hkind⟩ | ⟨hrecord, hkind⟩
    · rw [hadvances.outcomes, hkind]
      rfl
    · rw [(record_sound hrecord).2.2.2, hkind]
      rfl

omit hlimit in
theorem logGroup_ran
    (hrun : ∀ branch i rounds flow i', run branch i = some (rounds, .ok (flow, i')) → Ran fixture i rounds i')
    {kind : AutomationRunContinuationKind} {branches : List AutomationPlanNodeId} {follows : Bool}
    (h : logGroup run kind branches i = some (rounds, .ok (follows, i'))) : Ran fixture i rounds i' := by
  induction branches generalizing i rounds with
  | nil =>
    cases h
    exact .refl _
  | cons branch rest ih =>
    rw [logGroup] at h
    rcases LoggedRun.andThen_spec h with ⟨error, _, herror⟩ | ⟨first, flow, next, later, hran, hlater, rfl⟩
    · cases herror
    · refine (hrun _ _ _ _ _ hran).trans ?_
      split at hlater
      · cases hlater
        exact .refl _
      · exact ih hlater

omit hlimit in
theorem logFollow_ran
    (hrun : ∀ next i rounds flow i', run next i = some (rounds, .ok (flow, i')) → Ran fixture i rounds i')
    {next : Option AutomationPlanNodeId} (h : logFollow run next i = some (rounds, .ok (flow, i'))) :
    Ran fixture i rounds i' := by
  cases next with
  | none =>
    cases h
    exact .refl i
  | some next => exact hrun next i rounds flow i' h

theorem logFrom_ran {stopBefore : Option AutomationPlanNodeId}
    (h : logFrom host fixture fuel nodeId stopBefore i = some (rounds, .ok (flow, i'))) :
    Ran fixture i rounds i' := by
  induction fuel generalizing nodeId stopBefore i rounds flow i' with
  | zero => cases h
  | succ fuel ih =>
    rcases logFrom_cases h with ⟨_, rfl, hresult⟩ | ⟨_, hround⟩
    · cases hresult
      exact .refl i
    rcases hround with ⟨error, _, _, herror⟩ | ⟨visit, next, later, hvisit, hlater, rfl⟩
    · cases herror
    have hround := visitNode_ran hlimit hvisit stopBefore visit.isUnmarked
    suffices hrest : Ran fixture next later i' from hround.trans hrest
    cases visit with
    | ends flow =>
      cases hlater
      exact .refl _
    | goes following => exact logFollow_ran (fun _ _ _ _ _ hran => ih hran) hlater
    | goesUnmarked following => exact ih hlater
    | group kind branches join =>
      rcases LoggedRun.andThen_spec hlater with ⟨error, _, herror⟩ | ⟨first, follows, joined, rest, hran, hrest, rfl⟩
      · cases herror
      refine (logGroup_ran (fun _ _ _ _ _ hran => ih hran) hran).trans ?_
      cases follows with
      | true => exact logFollow_ran (fun _ _ _ _ _ hran => ih hran) hrest
      | false =>
        cases hrest
        exact .refl _

omit hlimit in
theorem logGroup_ends
    (hran : ∀ branch i rounds flow i', run branch i = some (rounds, .ok (flow, i')) → Ran fixture i rounds i')
    {least : ℕ} (hends : ∀ branch i, least ≤ i.steps → i.steps ≤ fixture.plan.budget.maximumTraceSteps →
      run branch i ≠ none) (kind : AutomationRunContinuationKind) (branches : List AutomationPlanNodeId)
    (hleast : least ≤ i.steps) (hmost : i.steps ≤ fixture.plan.budget.maximumTraceSteps) :
    logGroup run kind branches i ≠ none := by
  induction branches generalizing i with
  | nil => exact some_ne_none _
  | cons branch rest ih =>
    rw [logGroup]
    refine LoggedRun.andThen_ne_none (hends branch i hleast hmost) ?_
    intro rounds flow next hbranch
    have hround := hran _ _ _ _ _ hbranch
    split
    · exact some_ne_none _
    · exact ih (hleast.trans hround.steps) (hround.budget hmost)

omit hlimit in
theorem logFollow_ends (hends : ∀ next, run next i ≠ none) (next : Option AutomationPlanNodeId) :
    logFollow run next i ≠ none := by
  cases next with
  | none => exact some_ne_none _
  | some next => exact hends next

theorem logFrom_ends (host : EvaluatorHost) (nodeId : AutomationPlanNodeId)
    (stopBefore : Option AutomationPlanNodeId) (hmost : i.steps ≤ fixture.plan.budget.maximumTraceSteps)
    (hfuel : fixture.plan.budget.maximumTraceSteps < fuel + i.steps) :
    logFrom host fixture fuel nodeId stopBefore i ≠ none := by
  induction fuel generalizing nodeId stopBefore i with
  | zero => omega
  | succ fuel ih =>
    unfold logFrom
    split
    · exact some_ne_none _
    split
    · exact some_ne_none _
    next visit next hvisit =>
      obtain ⟨hsteps, hroom⟩ := visitNode_steps hlimit hvisit
      rw [Ne, map_eq_none_iff]
      have hends : ∀ (nodeId : AutomationPlanNodeId) (stopBefore : Option AutomationPlanNodeId) (i : StepInterpreter),
          next.steps ≤ i.steps → i.steps ≤ fixture.plan.budget.maximumTraceSteps →
          logFrom host fixture fuel nodeId stopBefore i ≠ none := by
        intro nodeId stopBefore i hleast hmost
        exact ih nodeId stopBefore hmost (by omega)
      cases visit with
      | ends flow => exact some_ne_none _
      | goes following => exact logFollow_ends (fun node => hends node stopBefore next (le_refl _) hroom) following
      | goesUnmarked following => exact hends following none next (le_refl _) hroom
      | group kind branches join =>
        refine LoggedRun.andThen_ne_none ?_ ?_
        · exact logGroup_ends (fun _ _ _ _ _ hran => logFrom_ran hlimit hran)
            (fun branch i hleast hmost => hends branch join i hleast hmost) kind branches (le_refl _) hroom
        · intro rounds follows joined hgroup
          have hran := logGroup_ran (fun _ _ _ _ _ hran => logFrom_ran hlimit hran) hgroup
          cases follows with
          | true =>
            exact logFollow_ends (fun node => hends node stopBefore joined hran.steps (hran.budget hroom)) join
          | false => exact some_ne_none _

end

end StepInterpreter
end HomeMagic
