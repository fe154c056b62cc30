import HomeMagic.AutomationRecovery
import HomeMagic.AutomationTimers

/-! Timers and the recovery page. The scheduler readies the timers of one page, and a run
that waits at a delay or a wait looks for its timer on one page: both pages are shared by
all runs. -/
namespace HomeMagic
open List Table

variable {m i k : ℕ} {inputs : StepInputs} {row : AutomationTimer} {timers : List AutomationTimer}
  {condition : ResolvedAutomationCondition} {evaluator : EvaluatorHost} {prepared : PreparedRuntimeCondition}

section
variable (host : StoreHost) (ports : FixedPorts)

def AutomationTimer.recoveryRank (timer : AutomationTimer) : String ×ₗ String :=
  toLex (host.timestampText timer.readyAt, host.timerIdText timer.id)

def timersBefore (store : AutomationStore) (timer : AutomationTimer) : ℕ :=
  store.timers.count (fun other => other.isRecoverable &&
    decide (other.recoveryRank host < timer.recoveryRank host))

def TellsTimersApart (store : AutomationStore) : Prop :=
  ∀ a ∈ store.timers.rows, ∀ b ∈ store.timers.rows, host.timerIdText a.id = host.timerIdText b.id →
    a.id = b.id

def timerStage (store : AutomationStore) : AutomationStore :=
  (Fallible.execute (automationApply host ports)
    (readyTimers ports.now (store.recover host recoveryPage).timers 0) store).2

end

/-- The timer a waiting run waits on: the only one of its kind at its node that is still to
fire. -/
structure WaitsFor (store : AutomationStore) (run : AutomationRun) (n : AutomationPlanNodeId)
    (kind : AutomationTimerKind) (timer : AutomationTimer) : Prop where
  state : run.state = .waiting
  atNode : run.nodeId = some n
  stored : timer ∈ store.timers.rows
  runId : timer.runId = run.id
  nodeId : timer.nodeId = n
  ofKind : timer.kind = kind
  only : ∀ other ∈ store.timers.rows, other.isRecoverable = true → other.runId = run.id →
    other.nodeId = n → other.kind = kind → other = timer

section
variable {host : StoreHost} {ports : FixedPorts} {store store' : AutomationStore}
  {run : AutomationRun} {n : AutomationPlanNodeId} {kind : AutomationTimerKind}
  {timer : AutomationTimer}

theorem mem_timerPage_iff (htext : TellsTimersApart host store) (hmem : timer ∈ store.timers.rows)
    (hrecoverable : timer.isRecoverable = true) :
    timer ∈ (store.recover host recoveryPage).timers ↔ timersBefore host store timer < recoveryPage := by
  apply mem_page_iff _ hmem hrecoverable
  intro a ha b hb hrank
  have hid : a.id = b.id := by
    apply htext a ha b hb
    exact congrArg (fun rank => (ofLex rank).2) hrank
  exact eq_of_key ha hb hid

/-- The timer loop comes first in a recovery pass; the occurrences follow on the store that it leaves. -/
theorem processRecovery_stage (host : StoreHost) (ports : FixedPorts) (store : AutomationStore)
    (active : List ActiveAutomationVersion) (scheduled : ℕ) : ∃ ready,
    Fallible.execute (automationApply host ports) (processRecovery active scheduled) store =
      Fallible.execute (automationApply host ports)
        (recoverOccurrences active ports.now ((store.recover host recoveryPage).timers.map (dueReady ports.now))
          (store.recover host recoveryPage).occurrences
          (.initial (store.recover host recoveryPage).runs scheduled ready))
        (timerStage host ports store) := by
  have hstored : ∀ timer ∈ (store.recover host recoveryPage).timers, store.timers.find timer.id = some timer := by
    intro timer hmem
    exact find_eq_some.mpr ⟨(mem_of_mem_page hmem).1, rfl⟩
  obtain ⟨ready, between, hends, -⟩ := @readyTimers_endsWith host ports store ports.now
    (store.recover host recoveryPage).timers 0 hstored (nodup_page _ _ _ _)
  have hstage : timerStage host ports store = between := by
    unfold timerStage
    rw [hends]
  have hnow : EndsWith host ports clockNow store ports.now store := rfl
  have hwork : EndsWith host ports (ask (request (.recoverableWork recoveryPage))) store
      (store.recover host recoveryPage) store := endsWith_ask rfl
  refine ⟨ready, ?_⟩
  unfold processRecovery
  rw [Fallible.execute_bind_ok hnow, Fallible.execute_bind_ok hwork, Fallible.execute_bind_ok hends, hstage]

theorem dueReady_readied (now : Instant) (timer : AutomationTimer) :
    Readied timer (dueReady now timer) := by
  unfold dueReady
  split
  · rename_i hdue
    exact .inr ⟨hdue.1, rfl⟩
  · exact .inl rfl

theorem Readied.recoveryRank {read : AutomationTimer} (h : Readied read row) :
    row.recoveryRank host = read.recoveryRank host := by
  rcases h with rfl | ⟨_, rfl⟩ <;> rfl

theorem timerStage_find (store : AutomationStore) (id : AutomationTimerId) :
    (timerStage host ports store).timers.find id =
      if id ∈ (store.recover host recoveryPage).timers.map AutomationTimer.id then
        (store.timers.find id).map (dueReady ports.now)
      else store.timers.find id := by
  have hstored : ∀ timer ∈ (store.recover host recoveryPage).timers,
      store.timers.find timer.id = some timer := by
    intro timer hmem
    exact find_eq_some.mpr ⟨(mem_of_mem_page hmem).1, rfl⟩
  obtain ⟨count, store', hends, hready, hothers, _⟩ :=
    @readyTimers_endsWith host ports store ports.now (store.recover host recoveryPage).timers 0 hstored
      (nodup_page _ _ _ _)
  have hstage : timerStage host ports store = store' := by
    unfold timerStage
    rw [hends]
  rw [hstage]
  split
  · rename_i hid
    obtain ⟨timer, htimer, rfl⟩ := List.mem_map.mp hid
    rw [hstored timer htimer, Option.map_some, ← dueReady_id ports.now timer]
    exact hready _ (List.mem_map_of_mem htimer)
  · rename_i hid
    exact hothers id hid

theorem timerStage_row (store : AutomationStore) (hrow : row ∈ (timerStage host ports store).timers.rows) :
    ∃ before ∈ store.timers.rows, Readied before row := by
  have hfind : (timerStage host ports store).timers.find row.id = some row :=
    find_eq_some.mpr ⟨hrow, rfl⟩
  rw [timerStage_find] at hfind
  split at hfind
  · obtain ⟨before, hbefore, rfl⟩ := Option.map_eq_some_iff.mp hfind
    exact ⟨before, (find_eq_some.mp hbefore).1, dueReady_readied _ _⟩
  · exact ⟨row, (find_eq_some.mp hfind).1, .inl rfl⟩

theorem timerStage_of_row (store : AutomationStore) {before : AutomationTimer}
    (hbefore : before ∈ store.timers.rows) :
    ∃ row ∈ (timerStage host ports store).timers.rows, Readied before row := by
  have hfind : store.timers.find before.id = some before := find_eq_some.mpr ⟨hbefore, rfl⟩
  have hstage := @timerStage_find host ports store before.id
  rw [hfind] at hstage
  split at hstage
  · exact ⟨_, (find_eq_some.mp hstage).1, dueReady_readied _ _⟩
  · exact ⟨before, (find_eq_some.mp hstage).1, .inl rfl⟩

theorem timersBefore_stage (ports : FixedPorts) (hreadied : Readied timer row) :
    timersBefore host (timerStage host ports store) row = timersBefore host store timer := by
  have hp : ∀ before after : AutomationTimer, Readied before after →
      (after.isRecoverable && decide (after.recoveryRank host < row.recoveryRank host)) =
      (before.isRecoverable && decide (before.recoveryRank host < timer.recoveryRank host)) := by
    intro before after h
    rw [h.isRecoverable, h.recoveryRank, hreadied.recoveryRank]
  apply le_antisymm
  · apply count_le_of_keys
    intro after hafter hcounted
    obtain ⟨before, hbefore, h⟩ := timerStage_row store hafter
    exact ⟨before, hbefore, (hp before after h).symm.trans hcounted, h.id.symm⟩
  · apply count_le_of_keys
    intro before hbefore hcounted
    obtain ⟨after, hafter, h⟩ := timerStage_of_row store hbefore
    exact ⟨after, hafter, (hp before after h).trans hcounted, h.id⟩

theorem tellsTimersApart_stage (htext : TellsTimersApart host store) :
    TellsTimersApart host (timerStage host ports store) := by
  intro a ha b hb heq
  obtain ⟨a', ha', hra⟩ := timerStage_row store ha
  obtain ⟨b', hb', hrb⟩ := timerStage_row store hb
  rw [hra.id, hrb.id] at heq ⊢
  exact htext a' ha' b' hb' heq

theorem timerStage_off_page (ports : FixedPorts) (hmem : timer ∈ store.timers.rows)
    (hbefore : recoveryPage ≤ timersBefore host store timer) :
    (timerStage host ports store).timers.find timer.id = some timer := by
  rw [timerStage_find, if_neg]
  · exact find_eq_some.mpr ⟨hmem, rfl⟩
  · intro hid
    obtain ⟨other, hother, heq⟩ := List.mem_map.mp hid
    have hsame : other = timer := eq_of_key (mem_of_mem_page hother).1 hmem heq
    rw [hsame] at hother
    exact absurd (count_lt_of_mem_page hother) (not_lt.mpr hbefore)

theorem timerStage_ready_iff (ports : FixedPorts) (htext : TellsTimersApart host store)
    (hmem : timer ∈ store.timers.rows) (hpending : timer.state = .pending)
    (hdue : timer.readyAt ≤ ports.now) :
    (timerStage host ports store).timers.find timer.id = some { timer with state := .ready } ↔
      timersBefore host store timer < recoveryPage := by
  constructor
  · intro h
    by_contra hbefore
    rw [timerStage_off_page ports hmem (not_lt.mp hbefore), Option.some.injEq] at h
    rw [h] at hpending
    cases hpending
  · intro hbefore
    have hrecoverable : timer.isRecoverable = true := by
      simp [AutomationTimer.isRecoverable, hpending]
    have hpage := (mem_timerPage_iff htext hmem hrecoverable).mpr hbefore
    have hready : dueReady ports.now timer = { timer with state := .ready } := if_pos ⟨hpending, hdue⟩
    rw [timerStage_find, if_pos (List.mem_map_of_mem hpage),
      find_eq_some.mpr ⟨hmem, rfl⟩, Option.map_some, hready]

theorem WaitsFor.on_page (hw : WaitsFor store run n kind timer) (ports : FixedPorts)
    (hrow : row ∈ ((timerStage host ports store).recover host recoveryPage).timers)
    (hp : (row.runId == run.id && row.nodeId == n && row.kind == kind) = true) :
    Readied timer row ∧ timersBefore host store timer < recoveryPage := by
  simp only [Bool.and_eq_true, beq_iff_eq] at hp
  obtain ⟨⟨hrunId, hnode⟩, hkind⟩ := hp
  obtain ⟨hrowMem, hrecoverable⟩ := mem_of_mem_page hrow
  obtain ⟨before, hbefore, hreadied⟩ := timerStage_row store hrowMem
  have hsame : before = timer := by
    refine hw.only before hbefore (hreadied.isRecoverable.symm.trans hrecoverable) ?_ ?_ ?_
    · rw [← hreadied.runId, hrunId]
    · rcases hreadied with rfl | ⟨_, rfl⟩ <;> exact hnode
    · rcases hreadied with rfl | ⟨_, rfl⟩ <;> exact hkind
  rw [hsame] at hreadied
  refine ⟨hreadied, ?_⟩
  rw [← timersBefore_stage ports hreadied]
  exact count_lt_of_mem_page hrow

theorem WaitsFor.found (hw : WaitsFor store run n kind timer) (ports : FixedPorts)
    (htext : TellsTimersApart host store) (hpending : timer.state = .pending)
    (hdue : timer.readyAt ≤ ports.now) (hbefore : timersBefore host store timer < recoveryPage) :
    nodeTimer run n kind ((timerStage host ports store).recover host recoveryPage).timers =
      some { timer with state := .ready } := by
  have hready := (timerStage_ready_iff ports htext hw.stored hpending hdue).mpr hbefore
  obtain ⟨hrowMem, _⟩ := find_eq_some.mp hready
  have hpage : ({ timer with state := .ready } : AutomationTimer) ∈
      ((timerStage host ports store).recover host recoveryPage).timers := by
    rw [mem_timerPage_iff (tellsTimersApart_stage htext) hrowMem rfl,
      timersBefore_stage ports (.inr ⟨hpending, rfl⟩)]
    exact hbefore
  cases hfound : nodeTimer run n kind
      ((timerStage host ports store).recover host recoveryPage).timers with
  | none =>
    have hnone := List.find?_eq_none.mp hfound _ hpage
    simp [hw.runId, hw.nodeId, hw.ofKind] at hnone
  | some row =>
    have hrowPage := List.mem_of_find?_eq_some hfound
    have hp := List.find?_some hfound
    obtain ⟨hreadied, _⟩ := hw.on_page ports hrowPage hp
    have hsame : row = { timer with state := .ready } :=
      eq_of_key (mem_of_mem_page hrowPage).1 hrowMem hreadied.id
    rw [hsame]

end

def lineDelay (i : ℕ) : ℕ := if i = 1000 then 120000 else 60000

def linePlan (i : ℕ) : AutomationExecutionPlan :=
  { minutePlan with
    automationId := i
    nodes := [⟨0, 0, .complete⟩, ⟨1, 1, .delay (lineDelay i) (some 0)⟩]
    safetyProfiles := [] }

def lineVersion (i : ℕ) : StoredAutomationVersion :=
  readyVersion { minuteDocument with id := i, actions := [.delay (lineDelay i)] } (linePlan i)

def lineIdentity (i : ℕ) : AutomationIdentityState := ⟨i, .active, some 1, 1, 0, 0⟩

def lineOccurrence (i : ℕ) : AutomationOccurrence :=
  scheduledOccurrence ⟨lineIdentity i, lineVersion i⟩ 120000 .accepted 0

def lineRun (i : ℕ) : AutomationRun := newRun (linePlan i) 1 (lineOccurrence i) 0

def lineWaiting (i : ℕ) : AutomationRun := { lineRun i with state := .waiting, revision := 2 }

def lineTimer (i : ℕ) : AutomationTimer :=
  newTimer (lineRun i) 1 .delay (lineDelay i * nanosPerMilli)

def lineHost : StoreHost :=
  { minuteStoreHost with timerIdText := fun id => toString id.runId.fromOccurrence.automationId }

theorem lineRun_injective {j : ℕ} (h : (lineRun i).id = (lineRun j).id) : i = j :=
  congrArg (fun id : AutomationRunId => id.fromOccurrence.automationId) h

def lineStart (m : ℕ) : AutomationStore :=
  { AutomationStore.empty with
    identities := ⟨(List.range m).map lineIdentity, by
      rw [List.map_map]
      exact List.nodup_range.map (fun _ _ h => h)⟩
    versions := ⟨(List.range m).map lineVersion, by
      rw [List.map_map]
      exact List.nodup_range.map (fun _ _ h => congrArg Prod.fst h)⟩
    occurrences := ⟨(List.range m).map lineOccurrence, by
      rw [List.map_map]
      exact List.nodup_range.map (fun _ _ h =>
        congrArg (fun id : AutomationOccurrenceId => id.automationId) h)⟩
    runs := ⟨(List.range m).map lineRun, by
      rw [List.map_map]
      exact List.nodup_range.map (fun _ _ h => lineRun_injective h)⟩ }

theorem lineStart_identity (hi : i < m) :
    (lineStart m).identities.find i = some (lineIdentity i) :=
  find_eq_some.mpr ⟨List.mem_map_of_mem (mem_range.mpr hi), rfl⟩

structure Lined (m k : ℕ) (store : AutomationStore) : Prop where
  traced : Traced store
  identities : store.identities = (lineStart m).identities
  versions : store.versions = (lineStart m).versions
  waiting : ∀ i < k, store.runs.find (lineRun i).id = some (lineWaiting i)
  unstarted : ∀ i, k ≤ i → i < m → store.runs.find (lineRun i).id = some (lineRun i)
  timers : store.timers.rows = (List.range k).map lineTimer

def linePorts : FixedPorts := minutePorts 0

def lineInputs (traceLength : ℕ) : StepInputs := { linePorts.inputs with traceLength := traceLength }

def lineStarted (i : ℕ) : AutomationStepWrite :=
  stepWrite (lineRun i) { lineRun i with state := .running, revision := 1 } (lineInputs 0) none .trigger
    [("accepted", .boolean true)] [] []

def lineDelayed (i : ℕ) : AutomationStepWrite :=
  stepWrite { lineRun i with state := .running, revision := 1 } (lineWaiting i) (lineInputs 1) (some 1)
    .timer [("duration_ms", .durationMillis (lineDelay i)), ("event", .string "delay_created")]
    [lineTimer i] []

theorem stepRun_lineStarted (i : ℕ) :
    stepRun lampEvaluator (linePlan i) (lineRun i) (lineInputs 0) = .ok (.advanced, some (lineStarted i)) :=
  rfl

theorem stepRun_lineDelayed (i : ℕ) :
    stepRun lampEvaluator (linePlan i) { lineRun i with state := .running, revision := 1 }
      (lineInputs 1) = .ok (.waiting, some (lineDelayed i)) := by
  have hready : addMillis (lineInputs 1).clock.evaluation (lineDelay i) =
      some (lineDelay i * nanosPerMilli) := by
    unfold lineDelay
    split <;> decide
  show stepDelay { lineRun i with state := .running, revision := 1 } 1 (lineDelay i) (some 0)
    (lineInputs 1) = _
  unfold stepDelay
  rw [if_pos rfl, hready]
  rfl

variable {store : AutomationStore}

/-- One step of a run in the line. -/
theorem line_step {created : AutomationStore} {run : AutomationRun} {outcome : AutomationRuntimeStep}
    {write : AutomationStepWrite} (ht : Traced store) (hidentities : store.identities = (lineStart m).identities)
    (hversions : store.versions = (lineStart m).versions) (hi : i < m)
    (hfind : store.runs.find (lineRun i).id = some run) (hautomation : run.automationId = i)
    (hnumber : run.version = 1) (hlive : run.state.isTerminal = false) (hsmall : run.revision < maxQueryPage)
    (hs : stepRun lampEvaluator (linePlan i) run (lineInputs run.revision) = .ok (outcome, some write))
    (hrev : AutomationStore.RunRevised run write.run write.expectedRunRevision)
    (hown : ∀ timer ∈ write.createTimers, timer.runId = write.run.id) (hmove : write.transitionTimers = [])
    (hcreate : write.createTimers.foldlM AutomationStore.createTimer
      { store with runs := store.runs.replace write.run } = .ok created) :
    ∃ store', ((asClient (runtimeStep lampEvaluator (lineRun i).id)).run
        (automationApply lineHost linePorts) store).2 = store' ∧ Traced store' ∧
      store'.identities = (lineStart m).identities ∧ store'.versions = (lineStart m).versions ∧
      store'.runs = store.runs.replace write.run ∧ store'.timers = created.timers := by
  obtain ⟨hmem, hid⟩ := find_eq_some.mp hfind
  have hfind' : store.runs.find run.id = some run := by rw [hid, hfind]
  have hlength : (store.traceOf run.id).length = run.revision := by
    have hcommitted := ht.committed run hmem hlive
    simp only [maxQueryPage] at hsmall
    omega
  have hone := stepRun_oneEntry hs
  have hentry : OneEntry run.id (store.traceOf run.id).length write := by
    rw [hlength]
    exact hone
  obtain ⟨store', hcommit, htimers⟩ := ht.commitStep_completes hfind' hentry hrev
    (by rw [hmove, append_nil]; exact hown) hcreate (by rw [hmove]; rfl)
  obtain ⟨_, _, revised, _, _, hruns, _, hsameIdentities, hsameVersions, _, hfold⟩ :=
    AutomationStore.commitStep_spec hcommit
  have hw := AutomationStore.appendTrace_sameWork _ hfold
  refine ⟨store', ?_, ht.commitStep hone.tracesOnce hcommit, ?_, ?_, ?_, htimers⟩
  · have hidentity : store.identities.find run.automationId = some (lineIdentity i) := by
      rw [hidentities, hautomation]
      exact lineStart_identity hi
    have hversion : store.loadVersion run.automationId run.version = some (lineVersion i) := by
      unfold AutomationStore.loadVersion
      rw [hversions, hautomation, hnumber, find_eq_some]
      exact ⟨List.mem_map_of_mem (mem_range.mpr hi), rfl⟩
    have hactive : (lineIdentity i).activeVersion = some run.version := by
      rw [hnumber]
      rfl
    have hread : (store.loadTrace run.id none ((lineVersion i).plan.budget.maximumTraceSteps + 1)).length =
        run.revision := by
      rw [AutomationStore.loadTrace_length, hlength]
      show min (min 10001 maxQueryPage) run.revision = run.revision
      simp only [maxQueryPage] at hsmall ⊢
      omega
    have hstep : stepRun lampEvaluator (lineVersion i).plan run { linePorts.inputs with traceLength :=
        (store.loadTrace run.id none ((lineVersion i).plan.budget.maximumTraceSteps + 1)).length } =
          .ok (outcome, some write) := by
      rw [hread]
      exact hs
    rw [← hid]
    exact runtimeStep_commits hfind' hlive hidentity hactive hversion hstep hcommit
  · rw [hw.identities, hsameIdentities, hidentities]
  · rw [hw.versions, hsameVersions, hversions]
  · rw [hw.runs, hruns]

/-- The next automation of the line starts its delay. -/
theorem Lined.succ (h : Lined m k store) (hk : k < m) :
    ∃ middle store', ((asClient (runtimeStep lampEvaluator (lineRun k).id)).run
        (automationApply lineHost linePorts) store).2 = middle ∧
      ((asClient (runtimeStep lampEvaluator (lineRun k).id)).run
        (automationApply lineHost linePorts) middle).2 = store' ∧ Lined m (k + 1) store' := by
  have hfind := h.unstarted k le_rfl hk
  have hzero : (lineRun k).revision < maxQueryPage := Nat.zero_lt_succ 999
  have hone : 1 < maxQueryPage := by decide
  obtain ⟨middle, hrun, htraced, hidentities, hversions, hruns, htimers⟩ :=
    line_step h.traced h.identities h.versions hk hfind rfl rfl rfl hzero (stepRun_lineStarted k)
      ⟨rfl, rfl, rfl, rfl, rfl, rfl, rfl, rfl⟩ (fun _ hmem => absurd hmem not_mem_nil) rfl rfl
  have hother : ∀ i, i ≠ k → middle.runs.find (lineRun i).id = store.runs.find (lineRun i).id := by
    intro i hne
    rw [hruns, find_replace (a := (lineStarted k).run) hfind, if_neg]
    intro heq
    exact hne (lineRun_injective heq).symm
  have hstarted : middle.runs.find (lineRun k).id =
      some { lineRun k with state := .running, revision := 1 } := by
    rw [hruns]
    exact (find_replace (a := (lineStarted k).run) hfind).trans (if_pos rfl)
  -- the timers stored so far belong to earlier runs
  have hnew : middle.timers.find (lineTimer k).id = none := by
    rw [htimers, find_eq_none]
    intro timer hmem heq
    rw [h.timers] at hmem
    obtain ⟨i, hi, rfl⟩ := List.mem_map.mp hmem
    have hsame : i = k :=
      lineRun_injective (congrArg (fun id : AutomationTimerId => id.runId) heq)
    rw [hsame] at hi
    exact Nat.lt_irrefl k (mem_range.mp hi)
  have howned : (middle.runs.replace (lineDelayed k).run).find (lineTimer k).runId ≠ none := by
    have hdelayed : (middle.runs.replace (lineDelayed k).run).find (lineTimer k).runId =
        some (lineDelayed k).run :=
      (find_replace (a := (lineDelayed k).run) hstarted).trans (if_pos rfl)
    rw [hdelayed]
    exact Option.some_ne_none _
  have hcreate := @AutomationStore.createTimer_fresh
    { middle with runs := middle.runs.replace (lineDelayed k).run } (lineTimer k) hnew howned
  obtain ⟨store', hrun', htraced', hidentities', hversions', hruns', htimers'⟩ :=
    line_step htraced hidentities hversions hk hstarted rfl rfl rfl hone (stepRun_lineDelayed k)
      ⟨rfl, rfl, rfl, rfl, rfl, rfl, rfl, rfl⟩ (fun timer hmem => by rw [mem_singleton.mp hmem]; rfl)
      rfl (by
        show List.foldlM _ _ [lineTimer k] = _
        rw [foldlM_cons, hcreate]
        rfl)
  have hother' : ∀ i, i ≠ k → store'.runs.find (lineRun i).id = store.runs.find (lineRun i).id := by
    intro i hne
    rw [hruns', find_replace (a := (lineDelayed k).run) hstarted, if_neg]
    · exact hother i hne
    · intro heq
      exact hne (lineRun_injective heq).symm
  refine ⟨middle, store', hrun, hrun', htraced', hidentities', hversions', ?_, ?_, ?_⟩
  · intro i hi
    by_cases heq : i = k
    · rw [heq, hruns']
      exact (find_replace (a := (lineDelayed k).run) hstarted).trans (if_pos rfl)
    · rw [hother' i heq]
      exact h.waiting i (by omega)
  · intro i hi hm
    rw [hother' i (by omega)]
    exact h.unstarted i (by omega) hm
  · rw [htimers', range_succ, map_append, ← h.timers, ← htimers]
    rfl

end HomeMagic
