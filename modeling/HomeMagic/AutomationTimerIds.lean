import HomeMagic.AutomationContinuity
import HomeMagic.AutomationRunProgress

/-! Identities of timers. A timer is named by its run, node, kind and the millisecond in which it is ready. A run
comes to a delay or a wait once, but starts intervals and retries of one node again and again. -/
namespace HomeMagic
open Table AutomationStore Option

variable {id : AutomationTimerId} {kind : AutomationPlanNodeKind} {scene : HeldScene}

def AutomationPlanNodeKind.timed : AutomationPlanNodeKind → Bool
  | delay _ _ | wait _ _ _ _ => true
  | _ => false

theorem AutomationPlanNodeKind.timed_not_join (h : kind.timed = true) :
    kind.isJoin = false := by
  cases kind <;> first | rfl | cases h

section
variable (host : EvaluatorHost) (plan : AutomationExecutionPlan) (run : AutomationRun) (inputs : StepInputs)
  (n : AutomationPlanNodeId)

/-- The interval that the evaluation of the node asks for, or the retry of its failed attempt, with the instant
at which it is ready. -/
inductive SchedulesTimer : AutomationTimerKind → Instant → Prop
  | interval {condition : ResolvedAutomationCondition} {snapshot : FoundationSnapshot}
      {timers : List AutomationTimer} {duration : AutomationConditionDuration} {timer : AutomationTimer}
      (hat : evaluatesAt plan run = some (n, condition)) (hsnapshot : inputs.snapshot = some snapshot)
      (htimers : durationTimers run n inputs = .ok timers)
      (herror : (evaluated host run n condition inputs snapshot timers).1 = .error .durableDurationRequired)
      (hstart : (evaluated host run n condition inputs snapshot timers).2.request = some (.start duration timer)) :
      SchedulesTimer .stateDuration timer.readyAt
  | retry {node : CommandNode} {attempt : ℕ} {targetIndices : List ℕ} {commands : List CommandResult}
      {appendCommandIds : Bool} {retry : CommandRetryPlan} (hk : plan.find n = some (.command node))
      (hr : AttemptResults run node inputs attempt targetIndices commands appendCommandIds)
      (hended : ∀ command ∈ commands, command.state.isTerminal = true)
      (hp : retryPlan attempt targetIndices commands node.retry = .ok (some retry)) :
      SchedulesTimer .commandRetry retry.readyAt

inductive StartsTimer : AutomationTimerKind → Instant → Prop
  | own {kind : AutomationPlanNodeKind} {timerKind : AutomationTimerKind} {readyAt : Instant}
      (hs : run.state = .running) (hk : plan.find n = some kind) (htimed : kind.timed = true)
      (hkind : timerKind = .delay ∨ timerKind = .waitTimeout) : StartsTimer timerKind readyAt
  | scheduled {timerKind : AutomationTimerKind} {readyAt : Instant}
      (h : SchedulesTimer host plan run inputs n timerKind readyAt)
      (hkind : timerKind = .stateDuration ∨ timerKind = .commandRetry) : StartsTimer timerKind readyAt

end

/-- No timer of the same kind was started for the node to be ready in the millisecond of the scheduled one. -/
def SchedulesApart (host : EvaluatorHost) (plan : AutomationExecutionPlan) (run : AutomationRun) (inputs : StepInputs)
    (store : AutomationStore) : Prop :=
  ∀ n kind readyAt, run.nodeId = some n → SchedulesTimer host plan run inputs n kind readyAt →
    ∀ timer ∈ store.timers.rows, timer.runId = run.id → timer.nodeId = n → timer.kind = kind →
      timestampMillis timer.readyAt ≠ timestampMillis readyAt

section
variable {host : EvaluatorHost} {plan : AutomationExecutionPlan} {run : AutomationRun} {inputs : StepInputs}
  {outcome : AutomationRuntimeStep} {write : AutomationStepWrite} {timer : AutomationTimer}

theorem commandResultRun_planned {n : AutomationPlanNodeId} {node : CommandNode} {attempt : ℕ}
    {targetIndices : List ℕ} {commands : List CommandResult} {start next : AutomationRun}
    {created : List AutomationTimer}
    (h : commandResultRun run n node attempt targetIndices commands start = .ok (next, outcome, created))
    (hmem : timer ∈ created) : (∀ command ∈ commands, command.state.isTerminal = true) ∧
    ∃ retry, retryPlan attempt targetIndices commands node.retry = .ok (some retry) ∧
      timer = newTimer run n .commandRetry retry.readyAt := by
  unfold commandResultRun at h
  split at h
  · cases h
    cases hmem
  split at h
  · cases h
    cases hmem
  next hopen =>
    split at h
    · cases h
    next retry hretry =>
      cases h
      exact ⟨by simpa using hopen, retry, hretry, List.mem_singleton.mp hmem⟩
    · cases h
      cases hmem

/-- Every timer that a step creates is one it may start. -/
theorem stepRun_starts (h : stepRun host plan run inputs = .ok (outcome, some write))
    (hmem : timer ∈ write.createTimers) : ∃ n kind readyAt, run.nodeId = some n ∧
      StartsTimer host plan run inputs n kind readyAt ∧ timer = newTimer run n kind readyAt := by
  have heffect := (stepRun_effect h).effect
  generalize write.run = next at heffect
  generalize hcreated : write.createTimers = created at heffect hmem
  generalize write.transitionTimers = moved at heffect
  cases heffect with
  | @delayed n durationMs following readyAt hs hn hk hr =>
    exact ⟨n, .delay, readyAt, hn, .own hs hk rfl (.inl rfl), List.mem_singleton.mp hmem⟩
  | @waited n condition timeoutMs onTimeout following readyAt hs hn hk hr =>
    exact ⟨n, .waitTimeout, readyAt, hn, .own hs hk rfl (.inr rfl), List.mem_singleton.mp hmem⟩
  | @held n kind condition heldWrite hs hn hk hc hw =>
    obtain ⟨snapshot, timers, request, hheld⟩ := evaluateRuntimeCondition_held hw
    have hscheduled (hat : evaluatesAt plan run = some (n, condition)) : ∃ n kind readyAt, run.nodeId = some n ∧
        StartsTimer host plan run inputs n kind readyAt ∧ timer = newTimer run n kind readyAt := by
      obtain ⟨details, durations, started, moved, hwrite, hcommit⟩ := hheld.committed
      have hrequested := hheld.requested
      rw [hwrite] at hmem
      cases hcommit with
      | start duration startedTimer =>
        rw [List.mem_singleton.mp hmem]
        have hschedules := SchedulesTimer.interval hat hheld.reads hheld.loads hheld.error hheld.asks
        cases hrequested with
        | start => exact ⟨n, .stateDuration, _, hn, .scheduled hschedules (.inl rfl), rfl⟩
      | pending => cases hmem
      | mature => cases hmem
    cases kind with
    | branch other thenNode elseNode join =>
      cases hc
      exact hscheduled (evaluatesAt_branch hs hn hk)
    | wait other timeoutMs onTimeout following =>
      cases hc
      rcases hs with hs | hs
      · -- a wait that is entered starts its timeout and nothing else
        obtain ⟨_, _, readyAt, hwaits⟩ := stepRun_entersWait hs hn hk h
        rw [← hcreated, hwaits] at hmem
        exact ⟨n, .waitTimeout, readyAt, hn, .own hs hk rfl (.inr rfl), List.mem_singleton.mp hmem⟩
      · exact hscheduled (evaluatesAt_wait hs hn hk)
    | _ => cases hc
  | @settled n node attempt targetIndices commands appendCommandIds next outcome' created hs hn hk ha hr =>
    obtain ⟨hended, retry, hretry, rfl⟩ := commandResultRun_planned hr hmem
    exact ⟨n, .commandRetry, _, hn, .scheduled (.retry hk ha hended hretry) (.inr rfl), rfl⟩
  | _ => cases hmem

end

namespace AutomationStore
variable {store store' : AutomationStore}

theorem commitStep_timer_cases {write : AutomationStepWrite} (h : store.commitStep write = .ok store')
    (hstored : store'.timers.find id ≠ none) :
    store.timers.find id ≠ none ∨ ∃ timer ∈ write.createTimers, timer.id = id := by
  obtain ⟨_, s1, s2, s3, hrun, hcreate, hmove, htrace⟩ := commitStep_stages h
  obtain ⟨current, _, _, rfl⟩ := transitionRun_spec hrun
  rw [appendTrace_timers htrace] at hstored
  let known (s : AutomationStore) : Prop := s.timers.find id ≠ none →
    store.timers.find id ≠ none ∨ ∃ timer ∈ write.createTimers, timer.id = id
  have hcreated : known s2 := by
    refine Fallible.foldlM_keeps (I := known) ?_ hcreate .inl
    intro timer hmem s s' hok hknown
    rcases createTimer_spec hok with ⟨rfl, _⟩ | ⟨_, hnew, rfl⟩
    · exact hknown
    intro hfind
    by_cases hid : timer.id = id
    · exact .inr ⟨timer, hmem, hid⟩
    · refine hknown ?_
      have hkept : (s.timers.insert timer hnew).find id = s.timers.find id := find_insert.trans (if_neg hid)
      rw [← hkept]
      exact hfind
  have hmoved : known s3 := by
    refine Fallible.foldlM_keeps (I := known) ?_ hmove hcreated
    intro timer _ s s' hok hknown hfind
    obtain ⟨row, hrow, _, rfl⟩ := transitionTimer_spec hok
    refine hknown ?_
    by_cases hid : timer.id = id
    · rw [← hid, hrow]
      exact some_ne_none _
    · have hkept : (s.timers.replace timer).find id = s.timers.find id := (find_replace hrow).trans (if_neg hid)
      rw [← hkept]
      exact hfind
  exact hmoved hstored

end AutomationStore

section
variable {host : StoreHost} {runId : AutomationRunId} {c : AutomationCall} {r : c.Response}
  {store store' : AutomationStore} {run : AutomationRun}

theorem stored_before_call (hc : Courteous runId c) (hf : TimersFit store)
    (hh : automationHandler host c store r store') (hrun : store'.runs.find runId = some run)
    (hlive : run.state.isTerminal = false) (hid : id.runId = runId) (hstored : store'.timers.find id ≠ none) :
    store.timers.find id ≠ none := by
  rcases automationHandler_wrote hh with rfl | hh
  · exact hstored
  cases hh with
  | createRun hok =>
    rcases createRun_spec hok with ⟨rfl, _⟩ | ⟨_, rfl, _⟩ <;> exact hstored
  | commitStep hok =>
    rw [← hf.commitStep_other hc.2.1 (commitStep_elsewhere hc hok hrun hlive) hok hid]
    exact hstored
  | @transitionTimer timer hok =>
    obtain ⟨row, hrow, _, rfl⟩ := AutomationStore.transitionTimer_spec hok
    by_cases hsame : timer.id = id
    · rw [← hsame, hrow]
      exact some_ne_none _
    · have hkept : (store.timers.replace timer).find id = store.timers.find id :=
        (find_replace hrow).trans (if_neg hsame)
      rw [← hkept]
      exact hstored
  | retain hok =>
    subst hok
    obtain ⟨row, hrow⟩ := ne_none_iff_exists'.mp hstored
    obtain ⟨hmem, hkey⟩ := find_eq_some.mp hrow
    have hbefore : store.timers.find id = some row :=
      find_eq_some.mpr ⟨(Table.mem_filter.mp hmem).1, hkey⟩
    rw [hbefore]
    exact some_ne_none _
  | createOccurrence hok =>
    rcases createOccurrence_spec hok with ⟨rfl, _⟩ | ⟨_, rfl, _⟩ <;> exact hstored
  | transitionOccurrence hok =>
    obtain ⟨_, _, _, _, rfl⟩ := transitionOccurrence_spec hok
    exact hstored
  | advanceEventCursor advanced hok =>
    subst hok
    exact hstored

/-- A run that appears was created by a call of its own. -/
theorem created_by_call (hh : automationHandler host c store r store') (habsent : store.runs.find runId = none)
    (hrun : store'.runs.find runId = some run) : c = .createRun run ∧ store'.timers = store.timers := by
  have hfound (h : store.runs.find runId = some run) : c = .createRun run ∧ store'.timers = store.timers := by
    rw [habsent] at h
    cases h
  rcases automationHandler_wrote hh with rfl | hh
  · exact hfound hrun
  cases hh with
  | @createRun other hok =>
    rcases createRun_spec hok with ⟨rfl, _⟩ | ⟨hnew, rfl, _⟩
    · exact hfound hrun
    · by_cases hid : other.id = runId
      · have hsame : (store.runs.insert other hnew).find runId = some other := find_insert.trans (if_pos hid)
        obtain rfl : other = run := Option.some.inj (hsame.symm.trans hrun)
        exact ⟨rfl, rfl⟩
      · have hkept : (store.runs.insert other hnew).find runId = store.runs.find runId :=
          find_insert.trans (if_neg hid)
        exact hfound (hkept.symm.trans hrun)
  | commitStep hok =>
    obtain ⟨-, current, revised, hcurrent, -, hrevised, -, -, -, -, hentries⟩ := commitStep_spec hok
    rw [(appendTrace_sameWork _ hentries).runs, hrevised, find_replace hcurrent] at hrun
    split at hrun
    next hsame =>
      rw [hsame, habsent] at hcurrent
      cases hcurrent
    · exact hfound hrun
  | transitionTimer hok =>
    obtain ⟨row, hrow, _, rfl⟩ := AutomationStore.transitionTimer_spec hok
    exact hfound hrun
  | retain hok =>
    subst hok
    obtain ⟨hmem, hid⟩ := find_eq_some.mp hrun
    exact hfound (find_eq_some.mpr ⟨mem_retain_runs hmem, hid⟩)
  | createOccurrence hok =>
    rcases createOccurrence_spec hok with ⟨rfl, _⟩ | ⟨_, rfl, _⟩ <;> exact hfound hrun
  | transitionOccurrence hok =>
    obtain ⟨_, _, _, _, rfl⟩ := transitionOccurrence_spec hok
    exact hfound hrun
  | advanceEventCursor advanced hok =>
    subst hok
    exact hfound hrun

end

section
variable (host : StoreHost) (evaluator : EvaluatorHost) (plan : AutomationExecutionPlan) (runId : AutomationRunId)

/-- The clock and the store around one run of the plan. Time passes; other parties call the repository and ready
timers that are due; the run takes steps. -/
inductive TimerHistory : Instant → AutomationStore → Prop
  | start {now : Instant} {store : AutomationStore} (ht : Traced store) (hf : TimersFit store)
      (habsent : store.runs.find runId = none) : TimerHistory now store
  | elapsed {now later : Instant} {store : AutomationStore} (h : TimerHistory now store) (hlater : now ≤ later) :
      TimerHistory later store
  | called {now : Instant} {store store' : AutomationStore} {c : AutomationCall} {r : c.Response}
      (h : TimerHistory now store) (hc : Courteous runId c)
      (hplan : ∀ run, c = .createRun run → run.id = runId →
        ∃ actorId occurrence created, run = newRun plan actorId occurrence created)
      (hready : ∀ timer, c = .transitionTimer timer → timer.readyAt ≤ now)
      (hh : automationHandler host c store r store') : TimerHistory now store'
  | governed {now : Instant} {store store' : AutomationStore} (h : TimerHistory now store)
      (hruns : store'.runs = store.runs) (htrace : store'.trace = store.trace)
      (htimers : store'.timers = store.timers) : TimerHistory now store'
  | stepped {now : Instant} {store store' : AutomationStore} {run : AutomationRun} {inputs : StepInputs}
      {outcome : AutomationRuntimeStep} {write : AutomationStepWrite} (h : TimerHistory now store)
      (hid : run.id = runId) (hr : ReadsRun plan store run inputs) (hnow : inputs.clock.evaluation = now)
      (hs : stepRun evaluator plan run inputs = .ok (outcome, some write))
      (hc : store.commitStep write = .ok store') : TimerHistory now store'

end

structure TimerPast (plan : AutomationExecutionPlan) (run : AutomationRun) (ahead : Set ℕ) (n : ℕ) : Prop where
  timed : ∃ kind, plan.find n = some kind ∧ kind.timed = true
  passed : n ∉ ahead
  waits : run.nodeId = some n → run.state = .waiting

structure TimersPlaced (e : CompilerEnv) (plan : AutomationExecutionPlan) (runId : AutomationRunId)
    (store : AutomationStore) : Prop where
  traced : Traced store
  fit : TimersFit store
  placed : ∀ run n, store.runs.find runId = some run → run.state.isTerminal = false → run.nodeId = some n →
    ∃ ahead, Placed e plan.nodes n run.continuations ahead ∧ ∀ id : AutomationTimerId, id.runId = runId →
      id.scope = .delay ∨ id.scope = .waitTimeout → store.timers.find id ≠ none → TimerPast plan run ahead id.nodeId

theorem CompiledPlan.placed_not_ahead {e : CompilerEnv} {plan : AutomationExecutionPlan} (h : CompiledPlan e plan)
    {n : ℕ} {stack : List AutomationRunContinuation} {ahead : Set ℕ} (hp : Placed e plan.nodes n stack ahead)
    (hk : NodeAt plan.nodes n kind) (hnot : kind.isJoin = false) :
    n ∉ ahead := by
  cases hp with
  | top => exact Nat.lt_irrefl n
  | @frame g j start mid _ b gkind entries remaining failed maximumParallel outer ahead actions rest hp hg hs hj hb
      hrest hn =>
    obtain ⟨hjg, _, hjoin⟩ := h.frame_join hg
    have hin : start ≤ n ∧ n < mid := by
      refine hn.resolve_left ?_
      rintro rfl
      cases hk.unique hjoin
      cases hnot
    have hle := hrest.le
    rintro (hm | hm | hm)
    · omega
    · omega
    · exact hm.2 (by omega)

section
variable {host : StoreHost} {evaluator : EvaluatorHost} {e : CompilerEnv} {plan : AutomationExecutionPlan}
  {runId : AutomationRunId} {now : Instant} {store store' : AutomationStore} {run : AutomationRun}
  {inputs : StepInputs} {outcome : AutomationRuntimeStep} {write : AutomationStepWrite} {timer : AutomationTimer}

theorem TimersPlaced.fresh (h : TimersPlaced e plan runId store) (hid : run.id = runId)
    (hr : ReadsRun plan store run inputs) (hapart : SchedulesApart evaluator plan run inputs store)
    (hs : stepRun evaluator plan run inputs = .ok (outcome, some write)) (hmem : timer ∈ write.createTimers) :
    store.timers.find timer.id = none := by
  obtain ⟨n, kind, readyAt, hn, hstarts, rfl⟩ := stepRun_starts hs hmem
  by_contra hstored
  cases hstarts with
  | own hrunning hk htimed hkind =>
    obtain ⟨ahead, _, hpast⟩ := h.placed run n (hid ▸ hr.row) (stepRun_live hs) hn
    have hwaiting := (hpast _ hid hkind hstored).waits hn
    rw [hrunning] at hwaiting
    cases hwaiting
  | scheduled hschedules =>
    obtain ⟨row, hrow⟩ := ne_none_iff_exists'.mp hstored
    obtain ⟨hrowMem, hkey⟩ := find_eq_some.mp hrow
    have hnamed := h.fit.named row hrowMem
    rw [AutomationTimer.IsNamed, hkey] at hnamed
    simp only [newTimer, AutomationTimerId.mk.injEq] at hnamed
    exact hapart n kind readyAt hn hschedules row hrowMem hnamed.1.symm hnamed.2.1.symm hnamed.2.2.1.symm
      hnamed.2.2.2.symm

theorem TimersPlaced.called {c : AutomationCall} {r : c.Response} (hcompiled : CompiledPlan e plan)
    (h : TimersPlaced e plan runId store) (hc : Courteous runId c)
    (hplan : ∀ run, c = .createRun run → run.id = runId →
      ∃ actorId occurrence created, run = newRun plan actorId occurrence created)
    (hh : automationHandler host c store r store') : TimersPlaced e plan runId store' := by
  have hattended := attended_call hc h.traced h.fit hh
  refine ⟨hattended.traced, hattended.fit, ?_⟩
  intro run n hrun hlive hn
  rcases hattended.live run hrun hlive with hsince | ⟨habsent, _⟩
  · obtain ⟨ahead, hp, hpast⟩ := h.placed run n (hsince.run ▸ hrun) hlive hn
    refine ⟨ahead, hp, ?_⟩
    intro id hid hscope hstored
    exact hpast id hid hscope (stored_before_call hc h.fit hh hrun hlive hid hstored)
  · -- the run was created just now and has no timers
    obtain ⟨hcall, htimers⟩ := created_by_call hh habsent hrun
    obtain ⟨actorId, occurrence, created, rfl⟩ := hplan run hcall (find_eq_some.mp hrun).2
    cases hn
    refine ⟨_, .top hcompiled.entry_lt, ?_⟩
    intro id hid _ hstored
    rw [htimers] at hstored
    obtain ⟨row, hrow⟩ := ne_none_iff_exists'.mp hstored
    obtain ⟨hrowMem, hkey⟩ := find_eq_some.mp hrow
    have hnamed := h.fit.named row hrowMem
    rw [AutomationTimer.IsNamed, hkey] at hnamed
    have howner : row.runId = runId := by
      rw [← hid, hnamed]
    rw [← howner] at habsent
    exact absurd habsent (h.fit.owned row hrowMem)

theorem TimersPlaced.governed (h : TimersPlaced e plan runId store) (hruns : store'.runs = store.runs)
    (htrace : store'.trace = store.trace) (htimers : store'.timers = store.timers) :
    TimersPlaced e plan runId store' := by
  refine ⟨h.traced.same hruns htrace, h.fit.same htimers (fun id hid => by rwa [hruns]), ?_⟩
  intro run n hrun hlive hn
  rw [hruns] at hrun
  rw [htimers]
  exact h.placed run n hrun hlive hn

/-- A committed step starts timers at its own node only. -/
theorem TimersPlaced.stepped (hcompiled : CompiledPlan e plan) (h : TimersPlaced e plan runId store)
    (hid : run.id = runId) (hr : ReadsRun plan store run inputs)
    (hs : stepRun evaluator plan run inputs = .ok (outcome, some write)) (hc : store.commitStep write = .ok store') :
    TimersPlaced e plan runId store' := by
  have hnamed : ∀ timer ∈ write.createTimers, timer.IsNamed :=
    fun timer hmem => ((stepRun_effect hs).effect.createdTimer timer hmem).1
  refine ⟨h.traced.commitStep (stepRun_oneEntry hs).tracesOnce hc, h.fit.commitStep hnamed hc, ?_⟩
  intro next n' hnext hlive hn'
  -- the row of the run is the one written
  obtain ⟨_, current, revised, hcurrent, _, hruns, _, _, _, _, hfold⟩ := commitStep_spec hc
  have hwriteId : write.run.id = runId := (stepRun_effect hs).effect.kept.1.id.trans hid
  have hfind : store'.runs.find runId = some write.run := by
    rw [(appendTrace_sameWork _ hfold).runs, hruns, find_replace hcurrent, if_pos hwriteId]
  rw [hfind, Option.some.injEq] at hnext
  subst hnext
  have hmoves := stepRun_moves hs
  have hlived := stepRun_live hs
  obtain ⟨n, hn⟩ : ∃ n, run.nodeId = some n := by
    cases hmoves with
    | start _ _ hsame | hold _ _ hsame => exact ⟨n', hsame.symm.trans hn'⟩
    | attempt hn | goto hn | pass hn | enter hn | nextBranch hn | leave hn | stopBranch hn | finish hn =>
      exact ⟨_, hn⟩
  obtain ⟨ahead, hp, hpast⟩ := h.placed run n (hid ▸ hr.row) hlived hn
  -- a timed node with a timer is not ahead, and was not left for good only if the run waits at it
  have hbehind : ∀ id : AutomationTimerId, id.runId = runId → id.scope = .delay ∨ id.scope = .waitTimeout →
      store'.timers.find id ≠ none → (∃ kind, plan.find id.nodeId = some kind ∧ kind.timed = true) ∧
        id.nodeId ∉ ahead ∧ (run.nodeId = some id.nodeId → run.state ≠ .pending) := by
    intro id hrunId hscope hstored
    rcases AutomationStore.commitStep_timer_cases hc hstored with hbefore | ⟨timer, hmem, rfl⟩
    · have htimer := hpast id hrunId hscope hbefore
      refine ⟨htimer.timed, htimer.passed, ?_⟩
      intro hat
      rw [htimer.waits hat]
      exact nofun
    · obtain ⟨m, kind, readyAt, hm, hstarts, rfl⟩ := stepRun_starts hs hmem
      rw [hn, Option.some.injEq] at hm
      subst hm
      cases hstarts with
      | own hrunning hk htimed =>
        have hnot := AutomationPlanNodeKind.timed_not_join htimed
        refine ⟨⟨_, hk, htimed⟩, hcompiled.placed_not_ahead hp (hcompiled.find_iff.mp hk) hnot, ?_⟩
        · intro _
          rw [hrunning]
          exact nofun
      | scheduled _ hkind =>
        -- a scheduled timer is of another kind
        rcases hkind with hkind | hkind <;> rw [newTimer, hkind] at hscope <;> rcases hscope with hscope | hscope <;>
          cases hscope
  rcases hcompiled.moves_placed hmoves hn hp with ⟨hsame, hstack, hstays⟩ | ⟨_, hended⟩ |
    ⟨r, ahead', hr', hp', hsub, hin⟩
  · have hat : n' = n := by
      rw [hn', hn, Option.some.injEq] at hsame
      exact hsame
    refine ⟨ahead, hat ▸ hstack ▸ hp, ?_⟩
    intro id hrunId hscope hstored
    obtain ⟨⟨kind, hk, htimed⟩, hnot, hstarted⟩ := hbehind id hrunId hscope hstored
    refine ⟨⟨kind, hk, htimed⟩, hnot, ?_⟩
    intro hstands
    rw [hsame] at hstands
    rcases hstays with hpending | hwaiting | ⟨node, hcommand⟩
    · exact absurd hpending (hstarted hstands)
    · exact hwaiting
    · rw [hn, Option.some.injEq] at hstands
      rw [hstands, hk, Option.some.injEq] at hcommand
      rw [hcommand] at htimed
      cases htimed
  · rw [hended] at hlive
    cases hlive
  · rw [hn', Option.some.injEq] at hr'
    subst hr'
    refine ⟨ahead', hp', ?_⟩
    intro id hrunId hscope hstored
    obtain ⟨⟨kind, hk, htimed⟩, hnot, _⟩ := hbehind id hrunId hscope hstored
    refine ⟨⟨kind, hk, htimed⟩, fun hmem => hnot (hsub hmem), ?_⟩
    intro hstands
    rw [hn', Option.some.injEq] at hstands
    rcases hin with ⟨hmem, _⟩ | ⟨following, hjoin⟩
    · exact absurd (hstands ▸ hmem) hnot
    · rw [hstands] at hjoin
      rw [hcompiled.find_iff.mpr hjoin, Option.some.injEq] at hk
      rw [← hk] at htimed
      cases htimed

theorem TimerHistory.placed (hcompiled : CompiledPlan e plan)
    (h : TimerHistory host evaluator plan runId now store) : TimersPlaced e plan runId store := by
  induction h with
  | start ht hf habsent =>
    refine ⟨ht, hf, ?_⟩
    intro run n hrun
    rw [habsent] at hrun
    cases hrun
  | elapsed _ _ ih => exact ih
  | called _ hc hplan _ hh ih => exact ih.called hcompiled hc hplan hh
  | governed _ hruns htrace htimers ih => exact ih.governed hruns htrace htimers
  | stepped _ hid hr _ hs hc ih => exact ih.stepped hcompiled hid hr hs hc

/-- In every history, the timers of a step that schedules none in the millisecond of an earlier one are new to the
store, which takes them. -/
theorem timers_accepted (hcompile : compile e = .ok plan) (h : TimerHistory host evaluator plan runId now store)
    (hid : run.id = runId) (hr : ReadsRun plan store run inputs)
    (hapart : SchedulesApart evaluator plan run inputs store)
    (hs : stepRun evaluator plan run inputs = .ok (outcome, some write)) (hmem : timer ∈ write.createTimers) :
    store.timers.find timer.id = none ∧ ∃ store', store.createTimer timer = .ok store' ∧
      store'.timers.find timer.id = some timer := by
  have hnew := (h.placed (compile_compiledPlan e plan hcompile)).fresh hid hr hapart hs hmem
  refine ⟨hnew, _, AutomationStore.createTimer_fresh hnew ?_, ?_⟩
  · obtain ⟨n, kind, readyAt, _, _, rfl⟩ := stepRun_starts hs hmem
    rw [newTimer, hr.row]
    exact Option.some_ne_none _
  · have hstored : (store.timers.insert timer hnew).find timer.id = some timer :=
      Table.find_insert.trans (if_pos rfl)
    exact hstored

end

theorem heldScene_timers {plan : AutomationExecutionPlan} {steps : List (ℤ × Option String)}
    (h : heldScene plan steps = some scene) :
    TimerHistory minuteStoreHost heldEvaluator plan levelRunId scene.now scene.store := by
  induction steps generalizing scene with
  | nil =>
    obtain ⟨ht, hf⟩ := levelStart_consistent plan
    obtain ⟨store, hcreate, rfl⟩ := map_eq_some_iff.mp h
    refine .called (c := .createRun (newRun plan 1 dimmerOccurrence 0)) (r := .ok ()) (.start ht hf rfl)
      ⟨plan, 1, dimmerOccurrence, 0, rfl⟩ ?_ ?_ (.inl ⟨rfl, Fallible.toOption_eq_some hcreate⟩)
    · intro run hcall _
      cases hcall
      exact ⟨1, dimmerOccurrence, 0, rfl⟩
    · intro timer hcall
      cases hcall
  | cons step earlier ih =>
    obtain ⟨millis, event⟩ := step
    obtain ⟨before, hbefore, hrest⟩ := bind_eq_some_iff.mp h
    split at hrest
    next hlater =>
      have hhistory := (ih hbefore).elapsed hlater
      cases event with
      | none =>
        obtain ⟨store, hmoved, rfl⟩ := map_eq_some_iff.mp hrest
        obtain ⟨timer, hfound, hmove⟩ := bind_eq_some_iff.mp hmoved
        have hdue := List.find?_some hfound
        simp only [Bool.and_eq_true, decide_eq_true_eq] at hdue
        refine hhistory.called (c := .transitionTimer { timer with state := .ready }) (r := .ok ()) rfl ?_ ?_
          (.inl ⟨rfl, Fallible.toOption_eq_some hmove⟩)
        · intro run hcall
          cases hcall
        · intro moved hcall
          cases hcall
          exact hdue.2
      | some percent =>
        obtain ⟨run, hrow, hstep⟩ := bind_eq_some_iff.mp hrest
        have hid : run.id = levelRunId := (find_eq_some.mp hrow).2
        have hreads : ReadsRun plan before.store run (levelInputs plan before.store millis percent) :=
          levelInputs_reads hid hrow millis percent
        dsimp only at hstep
        split at hstep
        next hs =>
          obtain ⟨store, hcommit, rfl⟩ := map_eq_some_iff.mp hstep
          exact hhistory.stepped hid hreads rfl hs (Fallible.toOption_eq_some hcommit)
        · cases hstep
          exact hhistory
    · cases hrest

def heldNext (plan : AutomationExecutionPlan) (scene : HeldScene) : Option (AutomationRun × AutomationStepWrite) :=
  (scene.store.runs.find levelRunId).bind (fun run =>
    match stepRun heldEvaluator plan run (levelInputs plan scene.store 0 "60.5") with
    | .ok (_, some write) => some (run, write)
    | _ => none)

theorem heldNext_reads {plan : AutomationExecutionPlan} {run : AutomationRun} {write : AutomationStepWrite}
    (h : heldNext plan scene = some (run, write)) : run.id = levelRunId ∧
      ReadsRun plan scene.store run (levelInputs plan scene.store 0 "60.5") ∧
      ∃ outcome, stepRun heldEvaluator plan run (levelInputs plan scene.store 0 "60.5") =
        .ok (outcome, some write) := by
  obtain ⟨found, hrow, hstep⟩ := bind_eq_some_iff.mp h
  split at hstep
  next outcome stepped hs =>
    cases hstep
    have hid : run.id = levelRunId := (find_eq_some.mp hrow).2
    exact ⟨hid, levelInputs_reads hid hrow _ _, outcome, hs⟩
  · cases hstep

/-- The first interval of the wait starts beside its timeout. -/
theorem first_interval_accepted : ∃ plan, compile heldEnv = .ok plan ∧
    ∃ (store : AutomationStore) (timer : AutomationTimer), timer.kind = .stateDuration ∧
      store.timers.find timer.id = none ∧
      ∃ store', store.createTimer timer = .ok store' ∧ store'.timers.find timer.id = some timer := by
  have hok : (compile heldEnv).toOption.any (fun plan =>
      (heldScene plan [(0, some "60.5"), (0, some "60.5")]).any (fun scene =>
        scene.store.timers.rows.all (fun timer => timer.kind == .waitTimeout) &&
        (heldNext plan scene).any (fun last =>
          last.2.createTimers.any (fun timer => timer.kind == .stateDuration)))) = true := by decide +kernel
  obtain ⟨plan, hc, hplan⟩ := compile_of_any hok
  obtain ⟨scene, hscene, hlast⟩ := (Option.any_eq_true _ _).mp hplan
  simp only [Bool.and_eq_true, List.all_eq_true] at hlast
  obtain ⟨htimeouts, hnext⟩ := hlast
  obtain ⟨⟨run, write⟩, hlast, hcreates⟩ := (Option.any_eq_true _ _).mp hnext
  obtain ⟨timer, hmem, hkind⟩ := List.any_eq_true.mp hcreates
  obtain ⟨hid, hreads, outcome, hs⟩ := heldNext_reads hlast
  refine ⟨plan, hc, scene.store, timer, beq_iff_eq.mp hkind,
    timers_accepted hc (heldScene_timers hscene) hid hreads ?_ hs hmem⟩
  intro n kind readyAt _ hschedules row hrow _ _ hrowKind
  have hwait := beq_iff_eq.mp (htimeouts row hrow)
  rw [hrowKind] at hwait
  rw [hwait] at hschedules
  cases hschedules

/-- The level falls to thirty and rises again within one millisecond. The second interval is named like the first,
whose timer was cancelled, and the step cannot be committed. -/
theorem flap_reuses_timer : ∃ plan, compile heldEnv = .ok plan ∧ ∃ now store run inputs outcome write,
    TimerHistory minuteStoreHost heldEvaluator plan run.id now store ∧ ReadsRun plan store run inputs ∧
      inputs.clock.evaluation = now ∧ stepRun heldEvaluator plan run inputs = .ok (outcome, some write) ∧
      ∃ timer ∈ write.createTimers, timer.state = .pending ∧
        (∃ row, store.timers.find timer.id = some row ∧ row.state = .cancelled) ∧
        (∀ store', store.createTimer timer ≠ .ok store') ∧ ∀ store', store.commitStep write ≠ .ok store' := by
  have hok : (compile heldEnv).toOption.any (fun plan =>
      (heldScene plan [(0, some "30.5"), (0, some "60.5"), (0, some "60.5"), (0, some "60.5")]).any (fun scene =>
        decide (scene.now = 0) && (heldNext plan scene).any (fun last =>
          last.2.createTimers.any (fun timer => timer.state == .pending &&
            (scene.store.timers.find timer.id).any (fun row => row.state == .cancelled) &&
            (scene.store.createTimer timer).toOption.isNone) &&
          (scene.store.commitStep last.2).toOption.isNone))) = true := by decide +kernel
  obtain ⟨plan, hc, hplan⟩ := compile_of_any hok
  obtain ⟨scene, hscene, hlast⟩ := (Option.any_eq_true _ _).mp hplan
  simp only [Bool.and_eq_true, decide_eq_true_eq] at hlast
  obtain ⟨hnow, hnext⟩ := hlast
  obtain ⟨⟨run, write⟩, hlast, hboth⟩ := (Option.any_eq_true _ _).mp hnext
  simp only [Bool.and_eq_true, Option.isNone_iff_eq_none] at hboth
  obtain ⟨hcreates, hcommit⟩ := hboth
  obtain ⟨timer, hmem, htimer⟩ := List.any_eq_true.mp hcreates
  simp only [Bool.and_eq_true, Option.isNone_iff_eq_none] at htimer
  obtain ⟨⟨hpending, hrow⟩, hcreate⟩ := htimer
  obtain ⟨row, hfound, hcancelled⟩ := (Option.any_eq_true _ _).mp hrow
  obtain ⟨hid, hreads, outcome, hs⟩ := heldNext_reads hlast
  refine ⟨plan, hc, scene.now, scene.store, run, _, outcome, write, ?_, hreads, hnow.symm, hs, timer, hmem,
    beq_iff_eq.mp hpending, ⟨row, hfound, beq_iff_eq.mp hcancelled⟩, ?_, ?_⟩
  · rw [hid]
    exact heldScene_timers hscene
  · intro store' hok'
    rw [hok'] at hcreate
    cases hcreate
  · intro store' hok'
    rw [hok'] at hcommit
    cases hcommit

end HomeMagic
