import HomeMagic.AutomationStepEffects

/-! What a committed step can do to the control state of a run: its state, node,
continuation stack and command attempt. -/
namespace HomeMagic

def AutomationPlanFailurePolicy.exit (policy : AutomationPlanFailurePolicy)
    (following : Option AutomationPlanNodeId) : Option AutomationPlanNodeId :=
  match policy with
  | fallback entry => entry.or following
  | _ => following

namespace AutomationPlanNodeKind

def exits : AutomationPlanNodeKind → List (Option AutomationPlanNodeId)
  | command node => [node.next, node.onFailure.exit node.next]
  | delay _ next => [next]
  | wait _ _ onTimeout next => [next, onTimeout.exit next]
  | setVariable _ _ next => [next]
  | branch _ thenNode elseNode joinNode => [thenNode.or joinNode, elseNode.or joinNode]
  | _ => []

def isCommand : AutomationPlanNodeKind → Bool
  | command _ => true
  | _ => false

end AutomationPlanNodeKind

/-- Progress of a command attempt at node `n` that stays at the node. -/
inductive AttemptMoves (n : AutomationPlanNodeId) (maximumRetries : ℕ) :
    Option AutomationCommandAttempt → Option AutomationCommandAttempt → Prop
  | dispatched {old : Option AutomationCommandAttempt} {a : AutomationCommandAttempt}
      (hold : (old = none ∧ a.attempt = 0) ∨
        ∃ o, old = some o ∧ o.phase = .dispatch ∧ o.attempt = a.attempt)
      (hn : a.nodeId = n)
      (hp : a.phase = .awaitingOutcome ∨ (a.phase = .backoff ∧ a.attempt < maximumRetries)) :
      AttemptMoves n maximumRetries old (some a)
  | settled {o a : AutomationCommandAttempt} (ho : o.phase = .awaitingOutcome) (hn : a.nodeId = n)
      (ha : a.attempt = o.attempt) (hp : a.phase = .backoff) (hlt : a.attempt < maximumRetries) :
      AttemptMoves n maximumRetries (some o) (some a)
  | resumed {o a : AutomationCommandAttempt} (ho : o.phase = .backoff) (hn : a.nodeId = n)
      (ha : a.attempt = min (o.attempt + 1) (2^16 - 1)) (hp : a.phase = .dispatch) :
      AttemptMoves n maximumRetries (some o) (some a)

def AttemptLeft (kind : AutomationPlanNodeKind) (run next : AutomationRun) : Prop :=
  next.commandAttempt = none ∨ (next.commandAttempt = run.commandAttempt ∧ kind.isCommand = false)

inductive Moves (plan : AutomationExecutionPlan) (run next : AutomationRun) : Prop
  | start (hs : run.state = .pending) (hs' : next.state = .running)
      (hn : next.nodeId = run.nodeId) (hk : next.continuations = run.continuations)
      (ha : next.commandAttempt = run.commandAttempt)
  | hold (hs : run.state = .running ∨ run.state = .waiting) (hs' : next.state = .waiting)
      (hn : next.nodeId = run.nodeId) (hk : next.continuations = run.continuations)
      (ha : next.commandAttempt = run.commandAttempt)
  | attempt {n : AutomationPlanNodeId} {node : CommandNode} (hn : run.nodeId = some n)
      (hf : plan.find n = some (.command node)) (hn' : next.nodeId = some n)
      (hk : next.continuations = run.continuations)
      (ha : AttemptMoves n node.retry.maximumRetries run.commandAttempt next.commandAttempt)
      (hs' : next.state.isTerminal = false)
  | goto {n : AutomationPlanNodeId} {kind : AutomationPlanNodeKind} (hn : run.nodeId = some n)
      (hf : plan.find n = some kind) (hn' : next.nodeId ∈ kind.exits)
      (hk : next.continuations = run.continuations) (ha : AttemptLeft kind run next)
      (hs' : next.state.isTerminal = false)
  | pass {n : AutomationPlanNodeId} {following : Option AutomationPlanNodeId}
      (hn : run.nodeId = some n) (hf : plan.find n = some (.join following))
      (htop : ∀ frame ∈ run.continuations.head?, frame.joinNodeId ≠ n)
      (hn' : next.nodeId = following) (hk : next.continuations = run.continuations)
      (ha : AttemptLeft (.join following) run next) (hs' : next.state.isTerminal = false)
  | enter {n first j : AutomationPlanNodeId} {kind : AutomationRunContinuationKind}
      {remaining : List AutomationPlanNodeId} {maximumParallel : ℕ} (hn : run.nodeId = some n)
      (hf : plan.find n = some (.group kind (first :: remaining) maximumParallel (some j)))
      (hn' : next.nodeId = some first)
      (hk : next.continuations = ⟨n, kind, j, remaining, false, maximumParallel⟩ :: run.continuations)
      (ha : next.commandAttempt = run.commandAttempt) (hs' : next.state.isTerminal = false)
  | nextBranch {n b : AutomationPlanNodeId} {following : Option AutomationPlanNodeId}
      {frame : AutomationRunContinuation} {outer : List AutomationRunContinuation}
      {rest : List AutomationPlanNodeId} (hn : run.nodeId = some n)
      (hf : plan.find n = some (.join following)) (hc : run.continuations = frame :: outer)
      (hj : frame.joinNodeId = n) (hr : frame.remainingBranches = b :: rest)
      (hn' : next.nodeId = some b)
      (hk : next.continuations =
        { frame with remainingBranches := rest, currentBranchFailed := false } :: outer)
      (ha : next.commandAttempt = run.commandAttempt) (hs' : next.state.isTerminal = false)
  | leave {n : AutomationPlanNodeId} {following : Option AutomationPlanNodeId}
      {frame : AutomationRunContinuation} {outer : List AutomationRunContinuation}
      (hn : run.nodeId = some n) (hf : plan.find n = some (.join following))
      (hc : run.continuations = frame :: outer) (hj : frame.joinNodeId = n)
      (hn' : next.nodeId = following) (hk : next.continuations = outer)
      (ha : next.commandAttempt = run.commandAttempt) (hs' : next.state.isTerminal = false)
  | stopBranch {n : AutomationPlanNodeId} {kind : AutomationPlanNodeKind}
      {frame : AutomationRunContinuation} {outer : List AutomationRunContinuation}
      (hn : run.nodeId = some n) (hf : plan.find n = some kind) (hkind : kind.isAction)
      (hc : run.continuations = frame :: outer) (hn' : next.nodeId = some frame.joinNodeId)
      (hk : next.continuations = { frame with currentBranchFailed := true } :: outer)
      (ha : AttemptLeft kind run next) (hs' : next.state.isTerminal = false)
  | finish {n : AutomationPlanNodeId} (hn : run.nodeId = some n) (hn' : next.nodeId = none)
      (hs' : next.state.isTerminal) (ha : next.commandAttempt = none ∨
        next.commandAttempt = run.commandAttempt)
      (hk : next.continuations = run.continuations ∨
        ∃ frame, run.continuations = frame :: next.continuations)

section
variable {plan : AutomationExecutionPlan} {run : AutomationRun}
variable {following join : Option AutomationPlanNodeId} {host : EvaluatorHost} {node : CommandNode}
  {condition : ResolvedAutomationCondition} {attempt maximumRunDurationMs : ℕ} {commands : List CommandResult}
  {targetIndices : List ℕ}

structure SameControl (run next : AutomationRun) : Prop where
  nodeId : next.nodeId = run.nodeId
  continuations : next.continuations = run.continuations
  commandAttempt : next.commandAttempt = run.commandAttempt

theorem applyFailure_moves {n : AutomationPlanNodeId} {kind : AutomationPlanNodeKind}
    (hn : run.nodeId = some n) (hf : plan.find n = some kind) (hkind : kind.isAction)
    (policy : AutomationPlanFailurePolicy) (following : Option AutomationPlanNodeId)
    (hexit : policy.exit following ∈ kind.exits) (start : AutomationRun)
    (hk : start.continuations = run.continuations) (ha : AttemptLeft kind run start) :
    Moves plan run (applyFailure start policy following).1 := by
  have hend : start.commandAttempt = none ∨ start.commandAttempt = run.commandAttempt :=
    ha.imp_right And.left
  cases policy with
  | «continue» => exact .goto hn hf hexit hk ha rfl
  | fallback entry => exact .goto hn hf hexit hk ha rfl
  | stopRun => exact .finish hn rfl rfl hend (.inl hk)
  | stopBranch =>
    unfold applyFailure
    cases hc : start.continuations with
    | nil =>
      exact .finish hn rfl rfl hend (.inl (hc.symm.trans hk))
    | cons frame outer => exact .stopBranch hn hf hkind (hk.symm.trans hc) rfl rfl ha rfl

theorem evaluateRuntimeCondition_waiting {nodeId : AutomationPlanNodeId} {inputs : StepInputs}
    {write : AutomationStepWrite}
    (h : evaluateRuntimeCondition host run nodeId condition inputs = .ok (.waiting (some write))) :
    SameControl run write.run ∧ write.run.state = .waiting := by
  obtain ⟨_, _, _, hheld⟩ := evaluateRuntimeCondition_held h
  obtain ⟨_, _, _, _, rfl, _⟩ := hheld.committed
  exact ⟨⟨rfl, rfl, rfl⟩, rfl⟩

variable {n : AutomationPlanNodeId} (hn : run.nodeId = some n) {inputs : StepInputs}
  {outcome : AutomationRuntimeStep} {write : AutomationStepWrite}
include hn

theorem joinRun_moves (hf : plan.find n = some (.join following)) (hs : run.state.isTerminal = false) :
    Moves plan run (joinRun (checkpoint run inputs.clock.checkpoint) n following).1 := by
  unfold joinRun
  cases hc : run.continuations with
  | nil =>
    simp only [checkpoint, hc]
    exact .pass hn hf (by simp [hc]) rfl hc.symm (.inr ⟨rfl, rfl⟩) hs
  | cons frame outer =>
    simp only [checkpoint, hc]
    split
    · rename_i hj
      split
      · exact .leave hn hf hc hj rfl rfl rfl hs
      · split
        · rename_i hr
          exact .nextBranch hn hf hc hj hr rfl rfl rfl hs
        · split
          · exact .finish hn rfl rfl (.inr rfl) (.inr ⟨frame, hc⟩)
          · exact .leave hn hf hc hj rfl rfl rfl hs
    · rename_i hj
      refine .pass hn hf ?_ rfl hc.symm (.inr ⟨rfl, rfl⟩) hs
      simpa [hc] using hj

theorem commandResultRun_moves (hf : plan.find n = some (.command node)) {start next : AutomationRun}
    {createTimers : List AutomationTimer} (hsame : SameControl run start)
    (hold : (∃ o, run.commandAttempt = some o ∧ o.phase = .awaitingOutcome ∧ o.attempt = attempt ∧
        commands.any (fun command => !command.state.isTerminal) = false) ∨
      (run.commandAttempt = none ∧ attempt = 0) ∨
      ∃ o, run.commandAttempt = some o ∧ o.phase = .dispatch ∧ o.attempt = attempt)
    (h : commandResultRun run n node attempt targetIndices commands start =
      .ok (next, outcome, createTimers)) :
    Moves plan run next := by
  have hn' : start.nodeId = some n := hsame.nodeId.trans hn
  unfold commandResultRun at h
  split at h
  · cases h
    exact .goto hn hf List.mem_cons_self hsame.continuations (.inl rfl) rfl
  split at h
  · rename_i hopen
    cases h
    refine .attempt hn hf hn' hsame.continuations ?_ rfl
    rcases hold with ⟨_, _, _, _, hclosed⟩ | hfresh
    · rw [hopen] at hclosed
      cases hclosed
    · exact .dispatched hfresh rfl (.inl rfl)
  split at h
  · cases h
  · rename_i retry hretry
    cases h
    have hlt : attempt < node.retry.maximumRetries := by
      unfold retryPlan at hretry
      split at hretry
      · cases hretry
      · omega
    refine .attempt hn hf hn' hsame.continuations ?_ rfl
    rcases hold with ⟨o, ho, hp, ha, _⟩ | hfresh
    · rw [ho]
      exact .settled hp rfl ha.symm rfl hlt
    · exact .dispatched hfresh rfl (.inr ⟨rfl, hlt⟩)
  · cases h
    exact applyFailure_moves hn hf rfl node.onFailure node.next
      (List.mem_cons_of_mem _ (List.mem_singleton.mpr rfl)) _ hsame.continuations (.inl rfl)

omit hn in
/-- What an effect does to the control state. -/
theorem StepEffect.moves {next : AutomationRun} {created moved : List AutomationTimer}
    (h : StepEffect host plan run inputs next created moved) : Moves plan run next := by
  have hlive (hs : run.state = .running ∨ run.state = .waiting) : run.state.isTerminal = false := by
    rcases hs with hs | hs <;> rw [hs] <;> rfl
  cases h with
  | started hs => exact .start hs rfl rfl rfl rfl
  | completed hs hn hk => exact .finish hn rfl rfl (.inr rfl) (.inl rfl)
  | delayed hs hn hk hr | waited hs hn hk hr => exact .hold (.inl hs) rfl rfl rfl rfl
  | resumed hs hn hk ht hf hready =>
    exact .goto hn hk (List.mem_singleton.mpr rfl) rfl (.inr ⟨rfl, rfl⟩) rfl
  | assigned hs hn hk hsnapshot hv =>
    exact .goto hn hk (List.mem_singleton.mpr rfl) rfl (.inr ⟨rfl, rfl⟩) (hlive hs)
  | held hs hn hk hc hw =>
    obtain ⟨hsame, hstate⟩ := evaluateRuntimeCondition_waiting hw
    exact .hold hs hstate hsame.nodeId hsame.continuations hsame.commandAttempt
  | @branched _ _ _ _ _ prepared hs hn hk hp =>
    refine .goto hn hk ?_ rfl (.inr ⟨rfl, rfl⟩) rfl
    cases prepared.value <;> simp [AutomationPlanNodeKind.exits]
  | joined hs hn hk => exact joinRun_moves hn hk (hlive hs)
  | entered hs hn hk => exact .enter hn hk rfl rfl rfl (hlive hs)
  | met hs hn hk hp ht hf hv => exact .goto hn hk List.mem_cons_self rfl (.inr ⟨rfl, rfl⟩) rfl
  | reset hs hn hk hp => exact .hold (.inr hs) hs rfl rfl rfl
  | timedOut hs hn hk hp ht hf hready =>
    exact applyFailure_moves hn hk rfl _ _ (List.mem_cons_of_mem _ (List.mem_singleton.mpr rfl)) _ rfl
      (.inr ⟨rfl, rfl⟩)
  | @settled n node attempt targetIndices commands appendCommandIds _ _ _ hs hn hk ha hr =>
    refine commandResultRun_moves hn hk ?_ ?_ hr
    · cases appendCommandIds <;> exact ⟨rfl, rfl, rfl⟩
    · cases ha with
      | submitted hp hattempt hexecuted => exact .inr (dispatchAttempt_fresh hattempt)
      | awaited hp hattempt hphase hloaded hterminal =>
        exact .inl ⟨_, hattempt, hphase, rfl, by simpa using hterminal⟩
  | retried hs hn hk hnode ha hphase hr ht hready =>
    refine .attempt hn hk hn rfl ?_ rfl
    rw [ha]
    exact .resumed hphase hnode rfl rfl

omit hn in
theorem stepRun_moves (h : stepRun host plan run inputs = .ok (outcome, some write)) : Moves plan run write.run :=
  (stepRun_effect h).effect.moves

end

end HomeMagic
