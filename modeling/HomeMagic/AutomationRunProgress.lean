import HomeMagic.AutomationRunPlacement

/-! Runs over whole histories of committed steps: the stack stays well nested, no
node but a join is entered twice, and every step makes progress. -/
namespace HomeMagic
open List

variable {n r : ℕ} {ahead : Set ℕ} {log : List ℕ}

def enteredNodes (run next : AutomationRun) (log : List ℕ) : List ℕ :=
  if next.nodeId = run.nodeId ∧ next.continuations = run.continuations then log
  else log ++ next.nodeId.toList

/-- Runs reached from a fresh one by committed steps, with the nodes they entered.
A step that fails, crashes or loses its compare-and-set stores nothing, so the
next one starts from the same run. -/
inductive Reaches (host : EvaluatorHost) (plan : AutomationExecutionPlan) :
    AutomationRun → List ℕ → Prop
  | fresh (actorId : ActorId) (occurrence : AutomationOccurrence) (now : Instant) :
      Reaches host plan (newRun plan actorId occurrence now) [plan.entry]
  | step {run : AutomationRun} {log : List ℕ} {inputs : StepInputs} {outcome : AutomationRuntimeStep}
      {write : AutomationStepWrite} (hr : Reaches host plan run log)
      (hs : stepRun host plan run inputs = .ok (outcome, some write)) :
      Reaches host plan write.run (enteredNodes run write.run log)

def nonJoins (plan : AutomationExecutionPlan) (log : List ℕ) : List ℕ :=
  log.filter (fun n => !(plan.find n).any AutomationPlanNodeKind.isJoin)

structure SamePosition (run next : AutomationRun) : Prop where
  before : run.state = .waiting
  after : next.state = .waiting
  control : SameControl run next

def unstartedBranches (stack : List AutomationRunContinuation) : List ℕ :=
  stack.flatMap (fun frame => frame.remainingBranches)

def pendingNodes (run : AutomationRun) : Multiset ℕ :=
  match run.nodeId with
  | none => ([] : List ℕ)
  | some n => (n :: unstartedBranches run.continuations : List ℕ)

def remainingAttempts (run : AutomationRun) : ℕ :=
  maxAutomationRetries - run.commandAttempt.elim 0 (fun attempt => attempt.attempt)

def AutomationCommandAttemptPhase.rank : AutomationCommandAttemptPhase → ℕ
  | dispatch => 2
  | awaitingOutcome => 1
  | backoff => 0

def phaseRank (run : AutomationRun) : ℕ :=
  run.commandAttempt.elim 2 (fun attempt => attempt.phase.rank)

def AutomationRunState.rank : AutomationRunState → ℕ
  | pending => 2
  | running => 1
  | _ => 0

def runMeasure (run : AutomationRun) : Multiset ℕ × ℕ × ℕ × ℕ :=
  (pendingNodes run, remainingAttempts run, phaseRank run, run.state.rank)

/-- The order every step descends: pending nodes in the multiset order, then the
attempts left, the phase of the attempt and the state. -/
def Precedes : AutomationRun → AutomationRun → Prop :=
  InvImage (Prod.Lex Multiset.IsDershowitzMannaLT
    (Prod.Lex (· < ·) (Prod.Lex (· < ·) (· < ·)))) runMeasure

theorem precedes_wellFounded : WellFounded Precedes :=
  InvImage.wf _ (WellFounded.prod_lex Multiset.wellFounded_isDershowitzMannaLT
    (WellFounded.prod_lex Nat.lt_wfRel.wf (WellFounded.prod_lex Nat.lt_wfRel.wf Nat.lt_wfRel.wf)))

variable {run next : AutomationRun}

theorem precedes_of_pendingNodes (gone new kept : List ℕ)
    (hrun : pendingNodes run = (gone ++ kept : List ℕ)) (hnext : pendingNodes next = (new ++ kept : List ℕ))
    (hn : n ∈ gone) (hlt : ∀ m ∈ new, m < n) : Precedes next run := by
  refine Prod.Lex.left _ _ ?_
  rw [hrun, hnext, ← Multiset.coe_add, ← Multiset.coe_add, add_comm (new : Multiset ℕ),
    add_comm (gone : Multiset ℕ)]
  refine ⟨kept, new, gone, ?_, rfl, rfl, fun m hm => ⟨n, hn, hlt m hm⟩⟩
  intro hnil
  rw [(Multiset.coe_eq_zero gone).mp hnil] at hn
  cases hn

theorem pendingNodes_some (hn : run.nodeId = some n) :
    pendingNodes run = (n :: unstartedBranches run.continuations : List ℕ) := by
  simp only [pendingNodes, hn]

theorem precedes_goto (hn : run.nodeId = some n) (hn' : next.nodeId = some r)
    (hlt : r < n) (hk : unstartedBranches next.continuations = unstartedBranches run.continuations) :
    Precedes next run := by
  refine precedes_of_pendingNodes [n] [r] _ (pendingNodes_some hn) ?_
    mem_cons_self ?_
  · rw [pendingNodes_some hn', hk]
    rfl
  · intro m hm
    rw [mem_singleton.mp hm]
    exact hlt

theorem precedes_end (hn : run.nodeId = some n) (hn' : next.nodeId = none) : Precedes next run := by
  refine precedes_of_pendingNodes (n :: unstartedBranches run.continuations) [] [] ?_ ?_ mem_cons_self ?_
  · rw [append_nil]
    exact pendingNodes_some hn
  · simp only [pendingNodes, hn', append_nil]
  · exact fun m hm => absurd hm not_mem_nil

def AttemptAt (plan : AutomationExecutionPlan) (run : AutomationRun) : Prop :=
  ∀ attempt, run.commandAttempt = some attempt → run.nodeId = none ∨
    ∃ node, run.nodeId = some attempt.nodeId ∧ plan.find attempt.nodeId = some (.command node) ∧
      (attempt.phase = .backoff → attempt.attempt < node.retry.maximumRetries)

variable {plan : AutomationExecutionPlan}

theorem AttemptAt.of_left {kind : AutomationPlanNodeKind} (h : AttemptAt plan run) (hn : run.nodeId = some n)
    (hf : plan.find n = some kind) (ha : AttemptLeft kind run next) : AttemptAt plan next := by
  intro attempt hattempt
  rcases ha with ha | ⟨ha, hkind⟩
  · rw [ha] at hattempt
    cases hattempt
  · rcases h attempt (ha ▸ hattempt) with hnone | ⟨node, hn', hf', _⟩
    · rw [hn] at hnone
      cases hnone
    · rw [hn, Option.some.injEq] at hn'
      rw [← hn', hf, Option.some.injEq] at hf'
      rw [hf'] at hkind
      cases hkind

theorem AttemptAt.of_same (h : AttemptAt plan run) (hn : next.nodeId = run.nodeId)
    (ha : next.commandAttempt = run.commandAttempt) : AttemptAt plan next := by
  intro attempt hattempt
  rw [hn]
  exact h attempt (ha ▸ hattempt)

theorem AttemptMoves.attemptAt {node : CommandNode}
    (hf : plan.find n = some (.command node)) (hn : next.nodeId = some n)
    (h : AttemptMoves n node.retry.maximumRetries run.commandAttempt next.commandAttempt) :
    AttemptAt plan next := by
  intro attempt hattempt
  refine .inr ⟨node, ?_⟩
  rw [hattempt] at h
  generalize run.commandAttempt = old at h
  cases h with
  | dispatched hold hnode hp =>
    subst hnode
    refine ⟨hn, hf, ?_⟩
    intro hback
    rcases hp with hp | hp
    · rw [hback] at hp
      cases hp
    · exact hp.2
  | settled ho hnode ha hp hlt =>
    subst hnode
    exact ⟨hn, hf, fun _ => hlt⟩
  | resumed ho hnode ha hp =>
    subst hnode
    refine ⟨hn, hf, ?_⟩
    intro hback
    rw [hback] at hp
    cases hp

theorem Moves.attemptAt (hm : Moves plan run next) (h : AttemptAt plan run) : AttemptAt plan next := by
  cases hm with
  | start _ _ hn _ ha | hold _ _ hn _ ha => exact h.of_same hn ha
  | attempt hn hf hn' _ ha _ => exact ha.attemptAt hf hn'
  | goto hn hf _ _ ha _ | pass hn hf _ _ _ ha _ | stopBranch hn hf _ _ _ _ ha _ =>
    exact h.of_left hn hf ha
  | enter hn hf _ _ ha _ | nextBranch hn hf _ _ _ _ _ ha _ | leave hn hf _ _ _ _ ha _ =>
    exact h.of_left hn hf (.inr ⟨ha, rfl⟩)
  | finish _ hn' _ _ _ => exact fun _ _ => .inl hn'

namespace CompiledPlan
variable {e : CompilerEnv} {plan : AutomationExecutionPlan} (h : CompiledPlan e plan)
  {run next : AutomationRun}
include h

/-- One step keeps the run at its place, ends it, or enters a node that was still
ahead of it. -/
theorem moves_placed (hm : Moves plan run next) (hn : run.nodeId = some n)
    (hp : Placed e plan.nodes n run.continuations ahead) :
    (next.nodeId = run.nodeId ∧ next.continuations = run.continuations ∧
      (run.state = .pending ∨ next.state = .waiting ∨ ∃ node, plan.find n = some (.command node))) ∨
    (next.nodeId = none ∧ next.state.isTerminal = true) ∨
    ∃ (r : ℕ) (ahead' : Set ℕ), next.nodeId = some r ∧
      Placed e plan.nodes r next.continuations ahead' ∧ ahead' ⊆ ahead ∧
      Enters plan.nodes ahead ahead' r := by
  cases hm with
  | start hs _ hn' hk _ => exact .inl ⟨hn', hk, .inl hs⟩
  | hold _ hs' hn' hk _ => exact .inl ⟨hn', hk, .inr (.inl hs')⟩
  | @attempt n' node hn₀ hf hn' hk _ _ =>
    cases hn.symm.trans hn₀
    exact .inl ⟨hn'.trans hn₀.symm, hk, .inr (.inr ⟨node, hf⟩)⟩
  | @goto n' kind hn₀ hf hn' hk _ _ =>
    cases hn.symm.trans hn₀
    have hk' := h.find_iff.mp hf
    obtain ⟨r, hr, hmem⟩ := h.exits_reference hk' hn'
    have htop : ∀ frame ∈ run.continuations.head?, frame.joinNodeId ≠ n := by
      intro frame hframe heq
      generalize run.continuations = stack at hp hframe
      cases hp with
      | top => cases hframe
      | frame _ hg _ _ _ _ _ =>
        cases hframe
        obtain ⟨_, following, hjoin⟩ := h.frame_join hg
        simp only at heq
        rw [heq] at hjoin
        cases hk'.unique hjoin
        cases hn'
    obtain ⟨ahead', hp', hsub, hin⟩ := h.placed_goto hp hk' htop hmem
    exact .inr (.inr ⟨r, ahead', hr, hk ▸ hp', hsub, hin⟩)
  | @pass n' following hn₀ hf htop hn' hk _ _ =>
    cases hn.symm.trans hn₀
    have hk' := h.find_iff.mp hf
    obtain ⟨r, rfl⟩ : ∃ r, following = some r := by
      rcases h.emitted_or_complete hk' with ⟨_, hc⟩ | ⟨_, he⟩
      · cases hc
      · cases he with
        | join => exact ⟨_, rfl⟩
    obtain ⟨ahead', hp', hsub, hin⟩ := h.placed_goto hp hk' htop (mem_singleton.mpr rfl)
    exact .inr (.inr ⟨r, ahead', hn', hk ▸ hp', hsub, hin⟩)
  | @enter n' first j kind remaining maximumParallel hn₀ hf hn' hk _ _ =>
    cases hn.symm.trans hn₀
    obtain ⟨ahead', hp', hsub, hin⟩ := h.placed_enter false hp (h.find_iff.mp hf)
    exact .inr (.inr ⟨first, ahead', hn', hk ▸ hp', hsub, hin⟩)
  | @nextBranch n' b following frame outer rest hn₀ hf hc hj hr hn' hk _ _ =>
    obtain ⟨g, kind, j, remaining, failed, maximumParallel⟩ := frame
    subst hr
    rw [hc] at hp
    obtain ⟨ahead', hp', hsub, hin⟩ := h.placed_nextBranch false hp
    exact .inr (.inr ⟨b, ahead', hn', hk ▸ hp', hsub, hin⟩)
  | @leave n' following frame outer hn₀ hf hc hj hn' hk _ _ =>
    obtain ⟨g, kind, j, remaining, failed, maximumParallel⟩ := frame
    subst hj
    rw [hc] at hp
    obtain ⟨r, hjoin⟩ : ∃ r : ℕ, NodeAt plan.nodes j (.join (some r)) := by
      cases hp with
      | frame _ hg _ _ _ _ _ => exact (h.frame_join hg).2
    cases (h.find_iff.mp hf).unique hjoin
    obtain ⟨ahead', hp', hsub, hin⟩ := h.placed_leave hp hjoin
    exact .inr (.inr ⟨r, ahead', hn', hk ▸ hp', hsub, hin⟩)
  | @stopBranch n' kind frame outer hn₀ hf hkind hc hn' hk _ _ =>
    obtain ⟨g, fkind, j, remaining, failed, maximumParallel⟩ := frame
    rw [hc] at hp
    obtain ⟨ahead', hp', hsub, hin⟩ := h.placed_stopBranch true hp
    exact .inr (.inr ⟨j, ahead', hn', hk ▸ hp', hsub, hin⟩)
  | finish _ hn' hs' _ _ => exact .inr (.inl ⟨hn', hs'⟩)

/-- Every committed step waits on at its place or descends. -/
theorem moves_precedes (hm : Moves plan run next) (hn : run.nodeId = some n)
    (hp : Placed e plan.nodes n run.continuations ahead) (ha : AttemptAt plan run) :
    SamePosition run next ∨ Precedes next run := by
  cases hm with
  | start hs hs' hn' hk hat =>
    refine .inr ?_
    simp only [Precedes, InvImage, runMeasure, pendingNodes, remainingAttempts, phaseRank, hn', hk,
      hat, hs, hs']
    exact .right _ (.right _ (.right _ (by decide)))
  | hold hs hs' hn' hk hat =>
    rcases hs with hs | hs
    · refine .inr ?_
      simp only [Precedes, InvImage, runMeasure, pendingNodes, remainingAttempts, phaseRank, hn', hk,
        hat, hs, hs']
      exact .right _ (.right _ (.right _ (by decide)))
    · exact .inl ⟨hs, hs', hn', hk, hat⟩
  | @attempt n' node hn₀ hf hn' hk hat _ =>
    -- the node stays: an attempt less is left, or its phase is a later one
    have hretries : node.retry.maximumRetries ≤ maxAutomationRetries := by
      rcases h.emitted_or_complete (h.find_iff.mp hf) with ⟨_, hc⟩ | ⟨_, he⟩
      · cases hc
      · cases he with
        | command _ _ hretry _ => exact hretry
    refine .inr ?_
    simp only [Precedes, InvImage, runMeasure, pendingNodes, remainingAttempts, phaseRank, hn₀, hn', hk]
    refine .right _ ?_
    have hback : ∀ o, run.commandAttempt = some o → o.phase = .backoff →
        o.attempt < node.retry.maximumRetries := by
      intro o ho hphase
      rcases ha o ho with hnone | ⟨node', hn₁, hf', hlt⟩
      · rw [hn₀] at hnone
        cases hnone
      · rw [hn₀, Option.some.injEq] at hn₁
        rw [← hn₁, hf] at hf'
        cases hf'
        exact hlt hphase
    generalize hold : run.commandAttempt = old at hat hback
    generalize hnew : next.commandAttempt = new at hat
    cases hat with
    | @dispatched old a holds hnode hphase =>
      have hrank : a.phase.rank < 2 := by
        rcases hphase with hphase | ⟨hphase, _⟩ <;> rw [hphase] <;> decide
      rcases holds with ⟨rfl, hzero⟩ | ⟨o, rfl, ho, hattempt⟩
      · simp only [Option.elim, hzero]
        exact .right _ (.left _ _ hrank)
      · simp only [Option.elim, hattempt, ho]
        exact .right _ (.left _ _ hrank)
    | @settled o a ho hnode hattempt hphase hlt =>
      simp only [Option.elim, hattempt, ho, hphase]
      exact .right _ (.left _ _ (by decide))
    | @resumed o a ho hnode hattempt hphase =>
      have hlt := hback o rfl ho
      have hmax : maxAutomationRetries = 16 := rfl
      refine .left _ _ ?_
      simp only [Option.elim, hattempt]
      omega
  | @goto n' kind hn₀ hf hn' hk _ _ =>
    have hk' := h.find_iff.mp hf
    -- every exit of a node has a smaller number
    obtain ⟨r, hr, hmem⟩ := h.exits_reference hk' hn'
    exact .inr (precedes_goto hn₀ hr (h.reference_lt hk' hmem) (by rw [hk]))
  | @pass n' following hn₀ hf htop hn' hk _ _ =>
    cases following with
    | none => exact .inr (precedes_end hn₀ hn')
    | some r =>
      have hk' := h.find_iff.mp hf
      exact .inr (precedes_goto hn₀ hn' (h.reference_lt hk' (mem_singleton.mpr rfl)) (by rw [hk]))
  | @enter n' first j kind remaining maximumParallel hn₀ hf hn' hk _ _ =>
    -- a group gives way to its branches, all with smaller numbers
    refine .inr (precedes_of_pendingNodes [n'] (first :: remaining) _
      (pendingNodes_some hn₀) ?_ mem_cons_self ?_)
    · rw [pendingNodes_some hn', hk]
      rfl
    · intro m hm
      exact h.reference_lt (h.find_iff.mp hf) (mem_append_left _ hm)
  | @nextBranch n' b following frame outer rest hn₀ hf hc hj hr hn' hk _ _ =>
    refine .inr (precedes_of_pendingNodes [n'] [] _
      (pendingNodes_some hn₀) ?_ mem_cons_self ?_)
    · rw [pendingNodes_some hn', hk, hc]
      simp only [unstartedBranches, flatMap_cons, hr, cons_append, nil_append]
    · exact fun m hm => absurd hm not_mem_nil
  | @leave n' following frame outer hn₀ hf hc hj hn' hk _ _ =>
    have hrun : pendingNodes run =
        ((n' :: frame.remainingBranches) ++ unstartedBranches outer : List ℕ) := by
      rw [pendingNodes_some hn₀, hc]
      rfl
    cases following with
    | none => exact .inr (precedes_end hn₀ hn')
    | some r =>
      refine .inr (precedes_of_pendingNodes _ [r] _ hrun ?_ mem_cons_self ?_)
      · rw [pendingNodes_some hn', hk]
        rfl
      · intro m hm
        rw [mem_singleton.mp hm]
        exact h.reference_lt (h.find_iff.mp hf) (mem_singleton.mpr rfl)
  | @stopBranch n' kind frame outer hn₀ hf hkind hc hn' hk _ _ =>
    -- a stopped branch goes on at the join of its group, below it
    cases hn.symm.trans hn₀
    rw [hc] at hp
    have hnot : kind.isJoin = false := by cases kind <;> first | rfl | cases hkind
    exact .inr (precedes_goto hn hn' (h.placed_join_lt hp (h.find_iff.mp hf) hnot)
      (by rw [hk, hc]; rfl))
  | finish hn₀ hn' _ _ _ => exact .inr (precedes_end hn₀ hn')

end CompiledPlan

structure OnTrack (e : CompilerEnv) (plan : AutomationExecutionPlan) (run : AutomationRun)
    (log : List ℕ) : Prop where
  placed : ∀ n, run.nodeId = some n → ∃ ahead, Placed e plan.nodes n run.continuations ahead ∧
    ∀ m ∈ nonJoins plan log, m ∉ ahead
  ended : run.nodeId = none → run.state.isTerminal = true
  attempt : AttemptAt plan run
  distinct : (nonJoins plan log).Nodup

namespace CompiledPlan
variable {e : CompilerEnv} {plan : AutomationExecutionPlan} (h : CompiledPlan e plan)
  {run next : AutomationRun}
include h

theorem onTrack_fresh (actorId : ActorId) (occurrence : AutomationOccurrence) (now : Instant) :
    OnTrack e plan (newRun plan actorId occurrence now) [plan.entry] where
  placed := by
    rintro n ⟨⟩
    refine ⟨_, .top h.entry_lt, ?_⟩
    intro m hm hlt
    rw [mem_singleton.mp (List.mem_filter.mp hm).1] at hlt
    exact Nat.lt_irrefl _ hlt
  ended := fun hn => nomatch hn
  attempt := fun _ ha => nomatch ha
  distinct := (nodup_singleton _).filter _

theorem entered_fresh {ahead' : Set ℕ} (hlog : ∀ m ∈ nonJoins plan log, m ∉ ahead) (hd : (nonJoins plan log).Nodup)
    (hsub : ahead' ⊆ ahead) (hin : Enters plan.nodes ahead ahead' r) :
    (∀ m ∈ nonJoins plan (log ++ [r]), m ∉ ahead') ∧ (nonJoins plan (log ++ [r])).Nodup := by
  have hold : ∀ m ∈ nonJoins plan log, m ∉ ahead' := fun m hm hmem => hlog m hm (hsub hmem)
  have happ : nonJoins plan (log ++ [r]) = nonJoins plan log ++ nonJoins plan [r] :=
    filter_append ..
  rw [happ]
  rcases hin with ⟨hr, hr'⟩ | ⟨next, hjoin⟩
  · have hnew : ∀ m ∈ nonJoins plan [r], m = r := fun m hm =>
      mem_singleton.mp (List.mem_filter.mp hm).1
    refine ⟨?_, List.Nodup.append hd ((nodup_singleton r).filter _) ?_⟩
    · intro m hm
      rcases mem_append.mp hm with hm | hm
      · exact hold m hm
      · rw [hnew m hm]
        exact hr'
    · intro m hm hm'
      exact hlog m hm (hnew m hm' ▸ hr)
  · have hnil : nonJoins plan [r] = [] := by
      rw [nonJoins, filter_eq_nil_iff]
      intro m hm
      rw [mem_singleton.mp hm, h.find_iff.mpr hjoin]
      simp [AutomationPlanNodeKind.isJoin]
    rw [hnil, append_nil]
    exact ⟨hold, hd⟩

/-- A step moves a run that is on track further on it. -/
theorem onTrack_step (ht : OnTrack e plan run log) (hm : Moves plan run next) :
    OnTrack e plan next (enteredNodes run next log) := by
  have hattempt := hm.attemptAt ht.attempt
  obtain ⟨n, hn⟩ | hnone : (∃ n, run.nodeId = some n) ∨ run.nodeId = none := by
    cases run.nodeId <;> simp
  · obtain ⟨ahead, hp, hlog⟩ := ht.placed n hn
    rcases h.moves_placed hm hn hp with ⟨hn', hk, _⟩ | ⟨hn', hs'⟩ | ⟨r, ahead', hn', hp', hsub, hin⟩
    · rw [enteredNodes, if_pos ⟨hn', hk⟩]
      refine ⟨?_, ?_, hattempt, ht.distinct⟩
      · rw [hn', hk]
        exact ht.placed
      · rw [hn', hn]
        exact fun hf => nomatch hf
    · have hlog' : enteredNodes run next log = log := by
        unfold enteredNodes
        split
        · rfl
        · rw [hn', Option.toList_none, append_nil]
      rw [hlog']
      refine ⟨?_, fun _ => hs', hattempt, ht.distinct⟩
      rw [hn']
      exact fun _ hf => nomatch hf
    · have hnew : (∀ m ∈ nonJoins plan (enteredNodes run next log), m ∉ ahead') ∧
          (nonJoins plan (enteredNodes run next log)).Nodup := by
        unfold enteredNodes
        split
        · exact ⟨fun m hm hmem => hlog m hm (hsub hmem), ht.distinct⟩
        · rw [hn', Option.toList_some]
          exact h.entered_fresh hlog ht.distinct hsub hin
      refine ⟨?_, ?_, hattempt, hnew.2⟩
      · intro r' hr'
        rw [hn', Option.some.injEq] at hr'
        exact ⟨ahead', hr' ▸ hp', hnew.1⟩
      · rw [hn']
        exact fun hf => nomatch hf
  · have hdone := ht.ended hnone
    cases hm with
    | start hs =>
      rw [hs] at hdone
      cases hdone
    | hold hs =>
      rcases hs with hs | hs <;> rw [hs] at hdone <;> cases hdone
    | attempt hn | goto hn | pass hn | enter hn | nextBranch hn | leave hn | stopBranch hn
      | finish hn =>
      rw [hnone] at hn
      cases hn

theorem reaches_onTrack {host : EvaluatorHost} (hr : Reaches host plan run log) :
    OnTrack e plan run log := by
  induction hr with
  | fresh actorId occurrence now => exact h.onTrack_fresh actorId occurrence now
  | step _ hs ih => exact h.onTrack_step ih (stepRun_moves hs)

end CompiledPlan

/-- Every run of a compiled plan keeps a well-nested stack, enters no node but a
join twice, and each of its committed steps either waits on at the same place or
descends in a well-founded order. -/
theorem run_progress (e : CompilerEnv) (plan : AutomationExecutionPlan) (h : compile e = .ok plan)
    (host : EvaluatorHost) :
    WellFounded Precedes ∧ ∀ run log, Reaches host plan run log →
      (∀ n, run.nodeId = some n → Nested plan n run.continuations) ∧
      (run.nodeId = none → run.state.isTerminal = true) ∧ (nonJoins plan log).Nodup ∧
      ∀ inputs outcome write, stepRun host plan run inputs = .ok (outcome, some write) →
        SamePosition run write.run ∨ Precedes write.run run := by
  have hc := compile_compiledPlan e plan h
  refine ⟨precedes_wellFounded, ?_⟩
  intro run log hr
  have ht := hc.reaches_onTrack hr
  refine ⟨?_, ht.ended, ht.distinct, ?_⟩
  · intro n hn
    obtain ⟨ahead, hp, _⟩ := ht.placed n hn
    exact hc.placed_nested hp
  · intro inputs outcome write hs
    have hm := stepRun_moves hs
    cases hn : run.nodeId with
    | some n =>
      obtain ⟨ahead, hp, _⟩ := ht.placed n hn
      exact hc.moves_precedes hm hn hp ht.attempt
    | none =>
      have hdone := ht.ended hn
      rw [stepRun, if_pos hdone] at hs
      cases hs

def lampEvaluator : EvaluatorHost where
  timeWindow := fun _ _ _ _ => .error .invalidTimeWindow
  decimalOrdering := fun _ _ => none
  conditionHash := fun _ _ => none

def lampSnapshot (on : Bool) : FoundationSnapshot :=
  ⟨[lampRecord], [⟨7, "switch:0", ⟨"on_off", 1, .comfort⟩, [("on", ⟨.bool on, 0⟩)], 0⟩], none⟩

def eveningInputs (traceLength : ℕ) : StepInputs where
  clock := ⟨0, 0, 0, 0⟩
  traceLength := traceLength
  snapshot := some (lampSnapshot false)
  timer := fun _ => some none
  recoverableTimers := some []
  commands := some ⟨some true, fun _ => some ⟨1, .confirmed, none, 0⟩, fun _ => some none⟩

def eveningOccurrence : AutomationOccurrence :=
  ⟨⟨1, 1, .schedule 0⟩, 1, 1, 0, 0, .accepted, none, .fresh 0, none, none⟩

def eveningRun (plan : AutomationExecutionPlan) : ℕ → Option (AutomationRun × List ℕ)
  | 0 => some (newRun plan 1 eveningOccurrence 0, [plan.entry])
  | steps + 1 => (eveningRun plan steps).bind (fun reached =>
    match stepRun lampEvaluator plan reached.1 (eveningInputs steps) with
    | .ok (_, some write) => some (write.run, enteredNodes reached.1 write.run reached.2)
    | _ => none)

theorem eveningRun_reaches {steps : ℕ} {reached : AutomationRun × List ℕ}
    (h : eveningRun plan steps = some reached) : Reaches lampEvaluator plan reached.1 reached.2 := by
  induction steps generalizing reached with
  | zero =>
    cases h
    exact .fresh 1 eveningOccurrence 0
  | succ steps ih =>
    rw [eveningRun, Option.bind_eq_some_iff] at h
    obtain ⟨before, hbefore, hstep⟩ := h
    split at hstep
    · rename_i hs
      cases hstep
      exact .step (ih hbefore) hs
    · cases hstep

/-- The run has come through both branches of the group, and waits; only their join was entered twice. -/
theorem run_progress_evening : ∃ plan, compile (lampEnv eveningActions) = .ok plan ∧
    ∃ run log, eveningRun plan 9 = some (run, log) ∧ log = [9, 4, 3, 8, 6, 5, 3, 2] ∧ run.state = .waiting ∧
      (nonJoins plan log).Nodup ∧ (∀ n, run.nodeId = some n → Nested plan n run.continuations) ∧
        ∀ inputs outcome write, stepRun lampEvaluator plan run inputs = .ok (outcome, some write) →
          SamePosition run write.run ∨ Precedes write.run run := by
  have hok : (compile (lampEnv eveningActions)).toOption.any (fun plan => (eveningRun plan 9).any (fun reached =>
      reached.2 == [9, 4, 3, 8, 6, 5, 3, 2] && reached.1.state == .waiting)) = true := by decide +kernel
  obtain ⟨plan, hc, hrun⟩ := compile_of_any hok
  obtain ⟨⟨run, log⟩, hreached, hends⟩ := (Option.any_eq_true _ _).mp hrun
  rw [Bool.and_eq_true, beq_iff_eq, beq_iff_eq] at hends
  obtain ⟨hnested, -, hdistinct, hsteps⟩ :=
    (run_progress _ plan hc lampEvaluator).2 run log (eveningRun_reaches hreached)
  exact ⟨plan, hc, run, log, hreached, hends.1, hends.2, hdistinct, hnested, hsteps⟩

end HomeMagic
