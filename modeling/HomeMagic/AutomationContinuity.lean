import HomeMagic.AutomationCommits

/-! Continuity of state durations. Whether an interval is kept or dropped is decided by the evaluations that
reach it; a reading that none of them reaches leaves the interval as it was. -/
namespace HomeMagic
open List AutomationStore Option Fallible

structure Sighting where
  run : AutomationRun
  nodeId : AutomationPlanNodeId
  condition : ResolvedAutomationCondition
  at_ : Instant
  snapshot : FoundationSnapshot
  timers : List AutomationTimer

def Sighting.value (host : EvaluatorHost) (s : Sighting) (condition : ResolvedAutomationCondition) :
    Except AutomationEvaluationError Bool :=
  (evaluatedAt host s.at_ s.snapshot s.run.id s.nodeId s.run.conditionDurations s.timers s.run.vars condition
    ⟨none, []⟩).1

def evaluatesAt (plan : AutomationExecutionPlan) (run : AutomationRun) :
    Option (AutomationPlanNodeId × ResolvedAutomationCondition) :=
  run.nodeId.bind (fun n =>
    match run.state, plan.find n with
    | .waiting, some (.wait condition _ _ _) => some (n, condition)
    | .running, some (.branch condition _ _ _) | .waiting, some (.branch condition _ _ _) => some (n, condition)
    | _, _ => none)

/-- The snapshot is taken before the timers of the intervals are read, which may fail. -/
def sighting (plan : AutomationExecutionPlan) (run : AutomationRun) (inputs : StepInputs) : Option Sighting :=
  if budgetExhausted plan run inputs then none
  else
    match evaluatesAt plan run, inputs.snapshot with
    | some (n, condition), some snapshot =>
      some ⟨run, n, condition, inputs.clock.evaluation, snapshot,
        (durationTimers run n inputs).toOption.getD []⟩
    | _, _ => none

section
variable (host : EvaluatorHost) (value : ResolvedAutomationCondition → Except AutomationEvaluationError Bool)
  (interval : ResolvedAutomationCondition × ℕ)

/-- Evaluation from left to right comes to the interval: whatever stands before it in a conjunction is true,
and in a disjunction false. -/
inductive Visits : ResolvedAutomationCondition → Prop
  | here : Visits (.stateDuration interval.1 interval.2)
  | nested {condition : ResolvedAutomationCondition} {durationMs : ℕ}
      (hh : host.conditionHash condition durationMs ≠ none) (h : Visits condition) :
      Visits (.stateDuration condition durationMs)
  | not {condition : ResolvedAutomationCondition} (h : Visits condition) : Visits (.not condition)
  | all {earlier later : List ResolvedAutomationCondition} {condition : ResolvedAutomationCondition}
      (htrue : ∀ other ∈ earlier, value other = .ok true) (h : Visits condition) :
      Visits (.all (earlier ++ condition :: later))
  | any {earlier later : List ResolvedAutomationCondition} {condition : ResolvedAutomationCondition}
      (hfalse : ∀ other ∈ earlier, value other = .ok false) (h : Visits condition) :
      Visits (.any (earlier ++ condition :: later))

end

variable {s : Sighting} {durationMs : ℕ} {timer : AutomationTimer} {c : AutomationCall}
  {earlier : List ResolvedAutomationCondition} {prepared : PreparedRuntimeCondition} {r : c.Response}

variable {condition : ResolvedAutomationCondition}

section
variable {host : EvaluatorHost} {now : Instant} {snapshot : FoundationSnapshot}
  {runId : AutomationRunId} {n : AutomationPlanNodeId} {durations : List AutomationConditionDuration}
  {timers : List AutomationTimer} {vars : Variables} {hash : String}

theorem holdDuration_invalid (hash : String) (durationMs : ℕ) (s : DurationState) :
    (holdDuration now runId n durations timers hash durationMs s).2.invalid = s.invalid := by
  unfold holdDuration
  split
  · split
    · rfl
    split
    · rfl
    split <;> rfl
  · split <;> rfl

mutual
theorem evaluateCondition_invalid : ∀ (condition : ResolvedAutomationCondition) (s : DurationState),
    hash ∈ s.invalid → hash ∈ (evaluateCondition host (runtimeContext host now snapshot runId n durations timers) vars
      condition s).2.invalid
  | .literal value, s, h => by
    rw [evaluateCondition]
    exact h
  | .compare left operator right, s, h => by
    rw [evaluateCondition]
    exact h
  | .all conditions, s, h => by
    rw [evaluateCondition]
    exact evaluateAll_invalid conditions s h
  | .any conditions, s, h => by
    rw [evaluateCondition]
    exact evaluateAny_invalid conditions s h
  | .not condition, s, h => by
    rw [evaluateCondition]
    exact evaluateCondition_invalid condition s h
  | .timeWindow timezone start stop, s, h => by
    rw [evaluateCondition]
    exact h
  | .stateDuration condition durationMs, s, h => by
    have hinner := evaluateCondition_invalid condition s h
    rw [evaluateCondition]
    simp only [runtimeContext] at hinner ⊢
    split
    · exact h
    split
    · exact hinner
    · exact mem_insert_of_mem hinner
    · rw [holdDuration_invalid]
      exact hinner

theorem evaluateAll_invalid : ∀ (conditions : List ResolvedAutomationCondition) (s : DurationState),
    hash ∈ s.invalid → hash ∈ (evaluateAll host (runtimeContext host now snapshot runId n durations timers) vars
      conditions s).2.invalid
  | [], s, h => by
    rw [evaluateAll]
    exact h
  | condition :: rest, s, h => by
    have hhead := evaluateCondition_invalid condition s h
    rw [evaluateAll]
    split
    · exact evaluateAll_invalid rest _ hhead
    · exact hhead
    · exact hhead

theorem evaluateAny_invalid : ∀ (conditions : List ResolvedAutomationCondition) (s : DurationState),
    hash ∈ s.invalid → hash ∈ (evaluateAny host (runtimeContext host now snapshot runId n durations timers) vars
      conditions s).2.invalid
  | [], s, h => by
    rw [evaluateAny]
    exact h
  | condition :: rest, s, h => by
    have hhead := evaluateCondition_invalid condition s h
    rw [evaluateAny]
    split
    · exact hhead
    · exact evaluateAny_invalid rest _ hhead
    · exact hhead
end

theorem evaluateAll_reaches {later : List ResolvedAutomationCondition}
    (htrue : ∀ other ∈ earlier, ValueIs host now snapshot runId n durations timers vars other true)
    (hreached : ∀ s, hash ∈ (evaluatedAt host now snapshot runId n durations timers vars condition s).2.invalid)
    (s : DurationState) : hash ∈ (evaluateAll host (runtimeContext host now snapshot runId n durations timers) vars
      (earlier ++ condition :: later) s).2.invalid := by
  induction earlier generalizing s with
  | nil =>
    have hhead := hreached s
    unfold evaluatedAt at hhead
    rw [nil_append, evaluateAll]
    split
    · exact evaluateAll_invalid later _ hhead
    · exact hhead
    · exact hhead
  | cons first rest ih =>
    have hfirst := htrue first mem_cons_self s
    unfold evaluatedAt at hfirst
    rw [cons_append, evaluateAll, hfirst]
    exact ih (fun other hother => htrue other (mem_cons_of_mem _ hother)) _

theorem evaluateAny_reaches {later : List ResolvedAutomationCondition}
    (hfalse : ∀ other ∈ earlier, ValueIs host now snapshot runId n durations timers vars other false)
    (hreached : ∀ s, hash ∈ (evaluatedAt host now snapshot runId n durations timers vars condition s).2.invalid)
    (s : DurationState) : hash ∈ (evaluateAny host (runtimeContext host now snapshot runId n durations timers) vars
      (earlier ++ condition :: later) s).2.invalid := by
  induction earlier generalizing s with
  | nil =>
    have hhead := hreached s
    unfold evaluatedAt at hhead
    rw [nil_append, evaluateAny]
    split
    · exact hhead
    · exact evaluateAny_invalid later _ hhead
    · exact hhead
  | cons first rest ih =>
    have hfirst := hfalse first mem_cons_self s
    unfold evaluatedAt at hfirst
    rw [cons_append, evaluateAny, hfirst]
    exact ih (fun other hother => hfalse other (mem_cons_of_mem _ hother)) _

theorem valueIs_of_evaluated {value : Bool}
    (h : (evaluatedAt host now snapshot runId n durations timers vars condition ⟨none, []⟩).1 = .ok value) :
    ValueIs host now snapshot runId n durations timers vars condition value :=
  fun s => (evaluateCondition_value host now snapshot runId n durations timers vars condition s ⟨none, []⟩).trans h

/-- An interval that is visited and found false is reported as invalid. -/
theorem Visits.invalid {interval : ResolvedAutomationCondition × ℕ} {whole : ResolvedAutomationCondition}
    (h : Visits host (fun condition =>
      (evaluatedAt host now snapshot runId n durations timers vars condition ⟨none, []⟩).1) interval whole)
    (hhash : host.conditionHash interval.1 interval.2 = some hash)
    (hfalse : ValueIs host now snapshot runId n durations timers vars interval.1 false) (s : DurationState) :
    hash ∈ (evaluatedAt host now snapshot runId n durations timers vars whole s).2.invalid := by
  induction h generalizing s with
  | here =>
    have hinner := hfalse s
    unfold evaluatedAt at hinner ⊢
    rw [evaluateCondition]
    simp only [runtimeContext] at hinner ⊢
    rw [hhash]
    dsimp only
    rw [hinner]
    exact mem_insert_self
  | @nested condition durationMs hh h ih =>
    obtain ⟨outer, houter⟩ := ne_none_iff_exists'.mp hh
    have hinner := ih s
    unfold evaluatedAt at hinner ⊢
    rw [evaluateCondition]
    simp only [runtimeContext] at hinner ⊢
    rw [houter]
    dsimp only
    split
    · exact hinner
    · exact mem_insert_of_mem hinner
    · rw [holdDuration_invalid]
      exact hinner
  | not h ih =>
    have hinner := ih s
    unfold evaluatedAt at hinner ⊢
    rw [evaluateCondition]
    exact hinner
  | all htrue h ih =>
    unfold evaluatedAt
    rw [evaluateCondition]
    exact evaluateAll_reaches (fun other hother => valueIs_of_evaluated (htrue other hother)) ih s
  | any hother h ih =>
    unfold evaluatedAt
    rw [evaluateCondition]
    exact evaluateAny_reaches (fun other hmem => valueIs_of_evaluated (hother other hmem)) ih s

theorem stateDuration_true
    (h : (evaluatedAt host now snapshot runId n durations timers vars (.stateDuration condition durationMs)
      ⟨none, []⟩).1 = .ok true) :
    ValueIs host now snapshot runId n durations timers vars condition true ∧
      ∃ duration ∈ durations, host.conditionHash condition durationMs = some duration.conditionHash ∧
        duration.phase = .mature := by
  unfold evaluatedAt at h
  rw [evaluateCondition] at h
  simp only [runtimeContext] at h
  split at h
  · cases h
  next found hhash =>
    split at h
    · cases h
    · cases h
    next htrue =>
      refine ⟨valueIs_of_evaluated htrue, ?_⟩
      unfold holdDuration at h
      split at h
      next duration hfound =>
        split at h
        next hphase =>
          have hsame := List.find?_some hfound
          rw [beq_iff_eq] at hsame
          exact ⟨duration, List.mem_of_find?_eq_some hfound, hsame ▸ hhash, hphase⟩
        · split at h
          · cases h
          · split at h <;> cases h
      · split at h <;> cases h

end

def Sighting.invalid (host : EvaluatorHost) (s : Sighting) : List String :=
  (evaluatedAt host s.at_ s.snapshot s.run.id s.nodeId s.run.conditionDurations s.timers s.run.vars s.condition
    ⟨none, []⟩).2.invalid

def DurationsPlaced (plan : AutomationExecutionPlan) (run : AutomationRun) : Prop :=
  ∀ duration ∈ run.conditionDurations, run.nodeId = some duration.nodeId ∧
    ∃ kind, plan.find duration.nodeId = some kind ∧ kind.condition? ≠ none

def ReadiesAt (store : AutomationStore) (now : Instant) (id : AutomationTimerId) (readyAt : Instant) : Prop :=
  ∃ row, store.timers.find id = some row ∧ row.readyAt = readyAt ∧ (row.state = .ready → readyAt ≤ now)

section
variable {store store' : AutomationStore} {now later : Instant} {id : AutomationTimerId} {readyAt : Instant}

theorem ReadiesAt.elapsed (h : ReadiesAt store now id readyAt) (hlater : now ≤ later) :
    ReadiesAt store later id readyAt := by
  obtain ⟨row, hrow, hat, hdue⟩ := h
  exact ⟨row, hrow, hat, fun hready => (hdue hready).trans hlater⟩

theorem ReadiesAt.transitionTimer (h : ReadiesAt store now id readyAt)
    (hready : timer.state = .ready → timer.readyAt ≤ now) (hmove : store.transitionTimer timer = .ok store') :
    ReadiesAt store' now id readyAt := by
  obtain ⟨row, hrow, hat, hdue⟩ := h
  obtain ⟨current, hcurrent, hmoved, rfl⟩ := transitionTimer_spec hmove
  by_cases hid : timer.id = id
  · subst hid
    rw [hcurrent, Option.some.injEq] at hrow
    have hsame : timer.readyAt = readyAt := by rw [← hmoved.readyAt, hrow, hat]
    refine ⟨timer, (Table.find_replace hcurrent).trans (if_pos rfl), hsame, ?_⟩
    intro hstate
    rw [← hsame]
    exact hready hstate
  · exact ⟨row, ((Table.find_replace hcurrent).trans (if_neg hid)).trans hrow, hat, hdue⟩

theorem ReadiesAt.createTimer (h : ReadiesAt store now id readyAt) (hcreate : store.createTimer timer = .ok store') :
    ReadiesAt store' now id readyAt := by
  obtain ⟨row, hrow, hat, hdue⟩ := h
  rcases createTimer_spec hcreate with ⟨rfl, _⟩ | ⟨_, hnew, rfl⟩
  · exact ⟨row, hrow, hat, hdue⟩
  · have hother : timer.id ≠ id := by
      rintro rfl
      rw [hnew] at hrow
      cases hrow
    exact ⟨row, ((Table.find_insert (h := hnew)).trans (if_neg hother)).trans hrow, hat, hdue⟩

theorem ReadiesAt.of_same (h : ReadiesAt store now id readyAt) (htimers : store'.timers = store.timers) :
    ReadiesAt store' now id readyAt := by
  unfold ReadiesAt
  rw [htimers]
  exact h

section
variable {write : AutomationStepWrite} (hmoves : ∀ timer ∈ write.transitionTimers, timer.state ≠ .ready)
  (hcommit : store.commitStep write = .ok store')
include hmoves hcommit

theorem ReadiesAt.commitStep (h : ReadiesAt store now id readyAt) : ReadiesAt store' now id readyAt := by
  obtain ⟨_, s1, s2, s3, hrun, hcreate, hmove, htrace⟩ := commitStep_stages hcommit
  obtain ⟨current, _, _, rfl⟩ := transitionRun_spec hrun
  have hrevised : ReadiesAt { store with runs := store.runs.replace write.run } now id readyAt := h
  have hcreated : ReadiesAt s2 now id readyAt :=
    foldlM_keeps (I := fun s => ReadiesAt s now id readyAt)
      (fun _ _ _ _ hok hkept => hkept.createTimer hok) hcreate hrevised
  have hmoved : ReadiesAt s3 now id readyAt := by
    refine foldlM_keeps (I := fun s => ReadiesAt s now id readyAt) ?_ hmove hcreated
    intro timer hmem _ _ hok hkept
    exact hkept.transitionTimer (fun hready => absurd hready (hmoves timer hmem)) hok
  exact hmoved.of_same (appendTrace_timers htrace)

theorem readiesAt_created (hcreated : write.createTimers = [timer]) (hpending : timer.state = .pending) :
    ReadiesAt store' now timer.id timer.readyAt := by
  obtain ⟨_, s1, s2, s3, hrun, hcreate, hmove, htrace⟩ := commitStep_stages hcommit
  have hfirst : s1.createTimer timer = .ok s2 := by
    rw [hcreated] at hcreate
    simpa using hcreate
  have hstored : s2.timers.find timer.id = some timer := by
    rcases createTimer_spec hfirst with ⟨rfl, hf⟩ | ⟨_, hnew, rfl⟩
    · exact hf
    · exact (Table.find_insert (h := hnew)).trans (if_pos rfl)
  have hstart : ReadiesAt s2 now timer.id timer.readyAt := by
    refine ⟨timer, hstored, rfl, ?_⟩
    intro hready
    rw [hpending] at hready
    cases hready
  have hmoved : ReadiesAt s3 now timer.id timer.readyAt := by
    refine foldlM_keeps (I := fun s => ReadiesAt s now timer.id timer.readyAt) ?_ hmove hstart
    intro other hmem _ _ hok hkept
    exact hkept.transitionTimer (fun hready => absurd hready (hmoves other hmem)) hok
  exact hmoved.of_same (appendTrace_timers htrace)

end

theorem ReadiesAt.called {host : StoreHost} {runId : AutomationRunId} (h : ReadiesAt store now id readyAt)
    (hc : Courteous runId c) (hready : ∀ timer, c = .transitionTimer timer → timer.readyAt ≤ now)
    (hf : TimersFit store) (hh : automationHandler host c store r store') {run : AutomationRun}
    (hrun : store'.runs.find runId = some run) (hlive : run.state.isTerminal = false) (hid : id.runId = runId) :
    ReadiesAt store' now id readyAt := by
  by_cases hmoves : ∀ timer, c ≠ .transitionTimer timer
  · obtain ⟨row, hrow, hat, hdue⟩ := h
    exact ⟨row, untouched_call hc hmoves hf hh hrun hlive hid hrow, hat, hdue⟩
  · simp only [not_forall, not_not] at hmoves
    obtain ⟨timer, rfl⟩ := hmoves
    rcases Commits.cases hh with ⟨_, hok⟩ | rfl
    · exact h.transitionTimer (fun _ => hready timer rfl) hok
    · exact h

end

section
variable {host : EvaluatorHost} {plan : AutomationExecutionPlan} {run next : AutomationRun} {inputs : StepInputs}
  {created moved : List AutomationTimer}

theorem newTimer_named (n : AutomationPlanNodeId) (kind : AutomationTimerKind) (readyAt : Instant) :
    (newTimer run n kind readyAt).IsNamed ∧ (newTimer run n kind readyAt).state = .pending :=
  ⟨rfl, rfl⟩

theorem cancelTimer_ne_ready (timer : AutomationTimer) : (cancelTimer timer).state ≠ .ready := by
  unfold cancelTimer
  split
  · exact fun h => nomatch h
  · exact fun h => nomatch h
  next hpending hready => exact hready

theorem cancelledTimers_ne_ready (timers : List AutomationTimer) (invalid : List String) :
    ∀ timer ∈ cancelledTimers run timers invalid, timer.state ≠ .ready := by
  intro timer hmem
  obtain ⟨source, _, rfl⟩ := List.mem_map.mp hmem
  exact cancelTimer_ne_ready source

theorem map_cancelTimer_ne_ready (timers : List AutomationTimer) :
    ∀ timer ∈ timers.map cancelTimer, timer.state ≠ .ready := by
  intro timer hmem
  obtain ⟨source, _, rfl⟩ := List.mem_map.mp hmem
  exact cancelTimer_ne_ready source

theorem StepEffect.createdTimer (h : StepEffect host plan run inputs next created moved) :
    ∀ timer ∈ created, timer.IsNamed ∧ timer.state = .pending := by
  have hone : ∀ n kind readyAt, ∀ timer ∈ [newTimer run n kind readyAt], timer.IsNamed ∧ timer.state = .pending := by
    intro n kind readyAt timer hmem
    rw [mem_singleton.mp hmem]
    exact newTimer_named n kind readyAt
  cases h with
  | delayed hs hn hkind hready | waited hs hn hkind hready => exact hone _ _ _
  | settled hs hn hkind ha hresult =>
    rcases (commandResultRun_settled hresult).created with hnone | ⟨readyAt, hcreated, _⟩
    · rw [hnone]
      exact fun _ hmem => absurd hmem not_mem_nil
    · rw [hcreated]
      exact hone _ _ _
  | held hs hn hkind hc hw =>
    obtain ⟨snapshot, timers, request, hheld⟩ := evaluateRuntimeCondition_held hw
    obtain ⟨details, durations, created, moved, hwrite, hcommit⟩ := hheld.committed
    have hrequested := hheld.requested
    rw [hwrite]
    intro timer hmem
    cases hcommit with
    | start duration other =>
      have htimer : timer = other := mem_singleton.mp hmem
      rw [htimer]
      cases hrequested
      exact ⟨rfl, rfl⟩
    | pending | mature hmatured => exact absurd hmem not_mem_nil
  | _ => exact fun _ hmem => absurd hmem not_mem_nil

theorem StepEffect.movedTimer (h : StepEffect host plan run inputs next created moved) :
    ∀ timer ∈ moved, timer.state ≠ .ready := by
  have hconsumed : ∀ timer : AutomationTimer, ∀ other ∈ [{ timer with state := .consumed }],
      other.state ≠ .ready := by
    intro timer other hmem
    rw [mem_singleton.mp hmem]
    exact fun h => nomatch h
  have hleft : ∀ {condition : ResolvedAutomationCondition} {n : AutomationPlanNodeId}
      {prepared : PreparedRuntimeCondition},
      evaluateRuntimeCondition host run n condition inputs = .ok (.resolved prepared) →
      (∀ timer ∈ prepared.resetTimers, timer.state ≠ .ready) ∧
        ∀ timer ∈ prepared.resetTimers ++ prepared.activeTimers.map cancelTimer, timer.state ≠ .ready := by
    intro condition n prepared hp
    obtain ⟨timers, invalid, _, _, hreset, _⟩ := evaluateRuntimeCondition_resolved hp
    have hresets : ∀ timer ∈ prepared.resetTimers, timer.state ≠ .ready := by
      rw [hreset]
      exact cancelledTimers_ne_ready timers invalid
    refine ⟨hresets, ?_⟩
    intro timer hmem
    rcases mem_append.mp hmem with hmem | hmem
    · exact hresets timer hmem
    · exact map_cancelTimer_ne_ready _ timer hmem
  cases h with
  | resumed hs hn hkind ht hf hready | retried hs hn hkind _ ha hphase hr ht hready => exact hconsumed _
  | branched hs hn hkind hp => exact (hleft hp).2
  | reset hs hn hkind hp => exact (hleft hp).1
  | met hs hn hkind hp ht hfound hv =>
    intro timer hmem
    rcases mem_append.mp hmem with hmem | hmem
    · exact (hleft hp).2 timer hmem
    · rw [mem_singleton.mp hmem]
      exact fun h => nomatch h
  | timedOut hs hn hkind hp ht hfound hready =>
    intro timer hmem
    rcases mem_append.mp hmem with hmem | hmem
    · exact (hleft hp).2 timer hmem
    · exact hconsumed _ timer hmem
  | @held n _ condition _ hs hn hkind hc hw =>
    obtain ⟨snapshot, timers, request, hheld⟩ := evaluateRuntimeCondition_held hw
    obtain ⟨details, durations, created, moved, hwrite, hcommit⟩ := hheld.committed
    have hcancelled := @cancelledTimers_ne_ready run timers
      (evaluated host run n condition inputs snapshot timers).2.invalid
    rw [hwrite]
    cases hcommit with
    | start duration timer | pending => exact hcancelled
    | mature hmatured =>
      intro timer hmem
      rcases mem_append.mp hmem with hmem | hmem
      · exact hcancelled timer hmem
      · exact hconsumed _ timer hmem
  | _ => exact fun _ hmem => absurd hmem not_mem_nil

end

section
variable (host : EvaluatorHost) (plan : AutomationExecutionPlan) (run : AutomationRun) (inputs : StepInputs)
  (created : List AutomationTimer)

/-- Where an interval comes from: it was tracked before and the evaluation did not find it false, and matures
when its timer was read ready; or its condition was found true and it starts with a new timer. -/
inductive Carried : AutomationConditionDuration → Prop
  | kept {duration : AutomationConditionDuration} (hd : duration ∈ run.conditionDurations)
      (hvalid : ∀ s, sighting plan run inputs = some s → duration.conditionHash ∉ s.invalid host) : Carried duration
  | matured {duration : AutomationConditionDuration} {timer : AutomationTimer} (hd : duration ∈ run.conditionDurations)
      (hvalid : ∀ s, sighting plan run inputs = some s → duration.conditionHash ∉ s.invalid host)
      (hread : inputs.timer duration.timerId = some (some timer)) (hready : timer.state = .ready) :
      Carried { duration with phase := .mature }
  | started {s : Sighting} {condition : ResolvedAutomationCondition} {durationMs : ℕ} {hash : String}
      {readyAt : Instant} (hs : sighting plan run inputs = some s)
      (hh : host.conditionHash condition durationMs = some hash) (hv : s.value host condition = .ok true)
      (hr : addMillis s.at_ durationMs = some readyAt)
      (hcreated : created = [newTimer run s.nodeId .stateDuration readyAt]) :
      Carried ⟨s.nodeId, hash, durationMs, readyAt, ⟨run.id, s.nodeId, .stateDuration, timestampMillis readyAt⟩,
        .pending⟩

end

variable {n : AutomationPlanNodeId}

section
variable {host : EvaluatorHost} {plan : AutomationExecutionPlan} {run next : AutomationRun} {inputs : StepInputs}
  {created moved : List AutomationTimer} {outcome : AutomationRuntimeStep} {write : AutomationStepWrite}

theorem evaluatesAt_spec (h : evaluatesAt plan run = some (n, condition)) :
    run.nodeId = some n ∧ ∃ kind, plan.find n = some kind ∧ kind.condition? = some condition := by
  obtain ⟨at_, hat, hcase⟩ := bind_eq_some_iff.mp h
  split at hcase
  next hkind =>
    cases hcase
    exact ⟨hat, _, hkind, rfl⟩
  next hkind =>
    cases hcase
    exact ⟨hat, _, hkind, rfl⟩
  next hkind =>
    cases hcase
    exact ⟨hat, _, hkind, rfl⟩
  · cases hcase

theorem sighting_spec (h : sighting plan run inputs = some s) :
    evaluatesAt plan run = some (s.nodeId, s.condition) ∧ s.run = run ∧ s.at_ = inputs.clock.evaluation := by
  unfold sighting at h
  split at h
  · cases h
  split at h
  next hat _ =>
    cases h
    exact ⟨hat, rfl, rfl⟩
  · cases h

theorem sighting_live (h : sighting plan run inputs = some s) : run.state.isTerminal = false := by
  obtain ⟨_, _, hcase⟩ := bind_eq_some_iff.mp (sighting_spec h).1
  split at hcase
  next hstate _ => rw [hstate]; rfl
  next hstate _ => rw [hstate]; rfl
  next hstate _ => rw [hstate]; rfl
  · cases hcase

theorem sighting_eq
    {snapshot : FoundationSnapshot} {timers : List AutomationTimer} (hbudget : budgetExhausted plan run inputs = false)
    (hat : evaluatesAt plan run = some (n, condition)) (hsnapshot : inputs.snapshot = some snapshot)
    (htimers : durationTimers run n inputs = .ok timers) :
    sighting plan run inputs = some ⟨run, n, condition, inputs.clock.evaluation, snapshot, timers⟩ := by
  unfold sighting
  rw [hbudget, hat, hsnapshot]
  simp only [Bool.false_eq_true, if_false, htimers]
  rfl

theorem evaluateRuntimeCondition_durations
    (h : evaluateRuntimeCondition host run n condition inputs = .ok (.resolved prepared)) :
    ∃ snapshot timers, inputs.snapshot = some snapshot ∧ durationTimers run n inputs = .ok timers ∧
      prepared.durations = keptDurations run (evaluated host run n condition inputs snapshot timers).2.invalid := by
  unfold evaluateRuntimeCondition at h
  split at h
  · cases h
  next snapshot hsnapshot =>
    split at h
    · cases h
    next timers htimers =>
      refine ⟨snapshot, timers, hsnapshot, htimers, ?_⟩
      unfold settleCondition at h
      dsimp only at h
      split at h
      · cases h
        rfl
      · split at h
        · cases h
        split at h
        · cases h
        split at h <;> cases h
      · cases h

theorem stepRun_withinBudget (h : stepRun host plan run inputs = .ok (outcome, some write)) :
    budgetExhausted plan run inputs = false := by
  unfold stepRun at h
  split at h
  · cases h
  split at h
  · cases h
  next hbudget => simpa using hbudget

theorem stepRun_entersWait {n : AutomationPlanNodeId} {condition : ResolvedAutomationCondition} {timeoutMs : ℕ}
    {onTimeout : AutomationPlanFailurePolicy} {following : Option AutomationPlanNodeId} (hs : run.state = .running)
    (hn : run.nodeId = some n) (hk : plan.find n = some (.wait condition timeoutMs onTimeout following))
    (h : stepRun host plan run inputs = .ok (outcome, some write)) :
    write.run.conditionDurations = run.conditionDurations ∧ write.run.nodeId = run.nodeId ∧
      ∃ readyAt, write.createTimers = [newTimer run n .waitTimeout readyAt] := by
  unfold stepRun at h
  simp only [hs, hn, hk] at h
  split at h
  · cases h
  split at h
  · cases h
  split at h
  next hpending => cases hpending
  unfold stepNode stepWait at h
  simp only [hs, if_true] at h
  split at h
  · cases h
  · cases h
    exact ⟨rfl, rfl, _, rfl⟩

theorem DurationsPlaced.no_intervals (hp : DurationsPlaced plan run)
    (hn : run.nodeId = some n) {kind : AutomationPlanNodeKind} (hf : plan.find n = some kind)
    (hc : kind.condition? = none) : run.conditionDurations = [] := by
  rw [eq_nil_iff_forall_not_mem]
  intro duration hmem
  obtain ⟨hnode, other, hother, hcondition⟩ := hp duration hmem
  rw [hn, Option.some.injEq] at hnode
  rw [← hnode, hf, Option.some.injEq] at hother
  rw [hother] at hc
  exact hcondition hc

theorem DurationsPlaced.leaves (hp : DurationsPlaced plan run) (hn : run.nodeId = some n)
    (inputs : StepInputs) : (leaveNode run n inputs).conditionDurations = [] := by
  show run.conditionDurations.filter (fun duration => duration.nodeId != n) = []
  rw [filter_eq_nil_iff]
  intro duration hmem
  obtain ⟨hnode, _⟩ := hp duration hmem
  rw [hn, Option.some.injEq] at hnode
  simp [hnode]

theorem carried_kept {invalid : List String} {duration : AutomationConditionDuration}
    (hinvalid : ∀ s, sighting plan run inputs = some s → s.invalid host = invalid)
    (hmem : duration ∈ keptDurations run invalid) : Carried host plan run inputs created duration := by
  obtain ⟨hd, hvalid⟩ := mem_keptDurations.mp hmem
  refine .kept hd ?_
  intro s hs
  rw [hinvalid s hs]
  exact hvalid

section
variable {n : AutomationPlanNodeId} {condition : ResolvedAutomationCondition}
  (hbudget : budgetExhausted plan run inputs = false) (hat : evaluatesAt plan run = some (n, condition))
include hbudget hat

/-- The intervals of a run whose condition has to wait. -/
theorem held_carries (hashes : host.HashesApart) {store : AutomationStore} (hr : ReadsRun plan store run inputs)
    (howned : ∀ duration ∈ run.conditionDurations, duration.timerId.runId = run.id)
    (hw : evaluateRuntimeCondition host run n condition inputs = .ok (.waiting (some write))) :
    ∀ duration ∈ write.run.conditionDurations,
      Carried host plan run inputs write.createTimers duration := by
  obtain ⟨snapshot, timers, request, hheld⟩ := evaluateRuntimeCondition_held hw
  have hsight := sighting_eq hbudget hat hheld.reads hheld.loads
  have hinvalid : ∀ s, sighting plan run inputs = some s →
      s.invalid host = (evaluated host run n condition inputs snapshot timers).2.invalid := by
    intro s hs
    rw [hsight, Option.some.injEq] at hs
    rw [← hs]
    rfl
  have hrequested := hheld.requested
  obtain ⟨details, durations, created, moved, hwrite, hcommit⟩ := hheld.committed
  rw [hwrite]
  intro duration hmem
  cases hcommit with
  | start first timer =>
    rcases mem_append.mp hmem with hmem | hmem
    · exact carried_kept hinvalid hmem
    · rw [mem_singleton.mp hmem]
      cases hrequested with
      | start hl hh hv hf hready => exact .started hsight hh (hv _) hready rfl
  | pending => exact carried_kept hinvalid hmem
  | @mature hash timer _ hmatured =>
    obtain ⟨hvalid, htimer, hready, found, hfound, hfoundId⟩ := hheld.matures hashes
    obtain ⟨first, hfirst, _, heach, _⟩ := matureDuration_spec hmatured
    rw [find_keptDurations hvalid, hfound, Option.some.injEq] at hfirst
    subst hfirst
    rcases heach duration hmem with rfl | hmem
    · have hin := List.mem_of_find?_eq_some hfound
      have hhash := List.find?_some hfound
      rw [beq_iff_eq] at hhash
      -- the timer was read under the id of the interval
      have hread : inputs.timer found.timerId = some (some timer) := by
        obtain ⟨source, hsource, hanswer⟩ := (loadDurationTimers_loads hheld.loads).each timer htimer
        have hsourceIn := (List.mem_filter.mp hsource).1
        obtain ⟨row, hrow, hreadied⟩ := hr.timer _ _ hanswer (howned source hsourceIn)
        have hid : source.timerId = timer.id := by
          rw [← hreadied.id]
          exact (Table.find_eq_some.mp hrow).2.symm
        rw [hfoundId, ← hid]
        exact hanswer
      refine .matured hin ?_ hread hready
      intro s hs
      rw [hinvalid s hs, hhash]
      exact hvalid
    · exact carried_kept hinvalid hmem

theorem reset_carries (hp : evaluateRuntimeCondition host run n condition inputs = .ok (.resolved prepared)) :
    ∀ duration ∈ prepared.durations, Carried host plan run inputs created duration := by
  obtain ⟨snapshot, timers, hsnapshot, htimers, hdurations⟩ := evaluateRuntimeCondition_durations hp
  have hsight := sighting_eq hbudget hat hsnapshot htimers
  rw [hdurations]
  intro duration hmem
  refine carried_kept ?_ hmem
  intro s hs
  rw [hsight, Option.some.injEq] at hs
  rw [← hs]
  rfl

end

theorem evaluatesAt_branch
    {thenNode elseNode join : Option AutomationPlanNodeId} (hs : run.state = .running ∨ run.state = .waiting)
    (hn : run.nodeId = some n) (hk : plan.find n = some (.branch condition thenNode elseNode join)) :
    evaluatesAt plan run = some (n, condition) := by
  unfold evaluatesAt
  rw [hn, bind_some, hk]
  rcases hs with hs | hs <;> rw [hs]

theorem evaluatesAt_wait {timeoutMs : ℕ}
    {onTimeout : AutomationPlanFailurePolicy} {following : Option AutomationPlanNodeId} (hs : run.state = .waiting)
    (hn : run.nodeId = some n) (hk : plan.find n = some (.wait condition timeoutMs onTimeout following)) :
    evaluatesAt plan run = some (n, condition) := by
  unfold evaluatesAt
  rw [hn, bind_some, hk, hs]

theorem carried_unseen (hunseen : sighting plan run inputs = none) {duration : AutomationConditionDuration}
    (hd : duration ∈ run.conditionDurations) : Carried host plan run inputs created duration := by
  refine .kept hd ?_
  intro s hs
  rw [hunseen] at hs
  cases hs

theorem sighting_none (h : evaluatesAt plan run = none) : sighting plan run inputs = none := by
  unfold sighting
  rw [h]
  split <;> rfl

/-- Each interval of the revised run was carried over or starts now. -/
theorem stepRun_carries (hashes : host.HashesApart) {store : AutomationStore} (hr : ReadsRun plan store run inputs)
    (hp : DurationsPlaced plan run) (howned : ∀ duration ∈ run.conditionDurations, duration.timerId.runId = run.id)
    (h : stepRun host plan run inputs = .ok (outcome, some write)) :
    (∀ duration ∈ write.run.conditionDurations, Carried host plan run inputs write.createTimers duration) ∧
      (write.run.conditionDurations = [] ∨ write.run.nodeId = run.nodeId) := by
  have hbudget := stepRun_withinBudget h
  have heffect := (stepRun_effect h).effect
  have hempty : ∀ {durations : List AutomationConditionDuration} {created : List AutomationTimer}
      {nodeId : Option AutomationPlanNodeId}, durations = [] →
      (∀ duration ∈ durations, Carried host plan run inputs created duration) ∧
        (durations = [] ∨ nodeId = run.nodeId) := by
    rintro durations created nodeId rfl
    exact ⟨fun _ hmem => absurd hmem not_mem_nil, .inl rfl⟩
  have hsame : ∀ {created : List AutomationTimer}, evaluatesAt plan run = none →
      ∀ duration ∈ run.conditionDurations, Carried host plan run inputs created duration :=
    fun hnone duration hmem => carried_unseen (sighting_none hnone) hmem
  have henters := fun n condition timeoutMs onTimeout following hs hn hk =>
    @stepRun_entersWait host plan run inputs outcome write n condition timeoutMs onTimeout following hs hn hk h
  -- by what the step did; a node other than a branch or a wait holds no intervals
  clear h
  generalize hnext : write.run = next at heffect henters ⊢
  generalize hcreated : write.createTimers = created at heffect ⊢
  generalize hmoved : write.transitionTimers = moved at heffect
  cases heffect with
  | started hs =>
    refine ⟨hsame ?_, .inr rfl⟩
    unfold evaluatesAt
    rw [hs]
    cases run.nodeId <;> rfl
  | completed hs hn hkind | delayed hs hn hkind hready | resumed hs hn hkind ht hfound hready
  | assigned hs hn hkind hsnapshot hv => exact hempty (hp.no_intervals hn hkind rfl)
  | joined hs hn hkind => exact hempty ((joinRun_durations _ _ _).trans (hp.no_intervals hn hkind rfl))
  | entered hs hn hkind | retried hs hn hkind _ ha hphase hready ht hstate =>
    exact hempty (hp.no_intervals hn hkind rfl)
  | @settled _ node attempt targetIndices commands appendCommandIds _ _ _ hs hn hkind hanswers hresult =>
    obtain ⟨hdurations, _⟩ := checkpointCommands_durations run inputs.clock.checkpoint commands appendCommandIds
    exact hempty (((commandResultRun_settled hresult).durations.trans hdurations).trans
      (hp.no_intervals hn hkind rfl))
  | branched hs hn hkind hprepared | met hs hn hkind hprepared ht hfound hv =>
    exact hempty (hp.leaves hn inputs)
  | timedOut hs hn hkind hprepared ht hfound hready =>
    exact hempty ((applyFailure_durations _ _ _).trans (hp.leaves hn inputs))
  | @waited n condition timeoutMs onTimeout following readyAt hs hn hkind hready =>
    refine ⟨hsame ?_, .inr rfl⟩
    unfold evaluatesAt
    rw [hn, bind_some, hkind, hs]
  | reset hs hn hkind hprepared =>
    exact ⟨reset_carries hbudget (evaluatesAt_wait hs hn hkind) hprepared, .inr rfl⟩
  | @held n kind condition held hs hn hkind hc hw =>
    have hnode : held.run.nodeId = run.nodeId := by
      obtain ⟨_, _, _, hheld⟩ := evaluateRuntimeCondition_held hw
      obtain ⟨_, _, _, _, hwrite, _⟩ := hheld.committed
      rw [hwrite]
      rfl
    refine ⟨?_, .inr hnode⟩
    cases kind with
    | branch other thenNode elseNode join =>
      cases hc
      exact held_carries hbudget (evaluatesAt_branch hs hn hkind) hashes hr howned hw
    | wait other timeoutMs onTimeout following =>
      cases hc
      rcases hs with hs | hs
      · -- a step that enters the wait evaluates nothing
        rw [(henters _ _ _ _ _ hs hn hkind).1]
        refine hsame ?_
        unfold evaluatesAt
        rw [hn, bind_some, hkind, hs]
      · exact held_carries hbudget (evaluatesAt_wait hs hn hkind) hashes hr howned hw
    | _ => cases hc

end

def EvaluatorHost.HashesExactly (host : EvaluatorHost) : Prop :=
  ∀ condition durationMs condition' durationMs' hash,
    host.conditionHash condition durationMs = some hash →
    host.conditionHash condition' durationMs' = some hash → condition = condition' ∧ durationMs = durationMs'

theorem EvaluatorHost.HashesExactly.apart {host : EvaluatorHost} (h : host.HashesExactly) : host.HashesApart :=
  fun _ _ _ _ _ hhash hhash' => (h _ _ _ _ _ hhash hhash').1

/-- The sightings end with an unbroken row in which the condition holds; its first was so long before the
instant. -/
def HeldSince (host : EvaluatorHost) (log : List Sighting) (condition : ResolvedAutomationCondition) (durationMs : ℕ)
    (readyAt : Instant) : Prop :=
  ∃ start later, (start :: later) <:+ log ∧ addMillis start.at_ durationMs = some readyAt ∧
    ∀ s ∈ start :: later, s.value host condition = .ok true

/-- What a state duration promises where it is true: its condition holds, and has held at every sighting of an
interval of its length. -/
def Sighting.HeldLong (host : EvaluatorHost) (log : List Sighting) (s : Sighting)
    (condition : ResolvedAutomationCondition) (durationMs : ℕ) : Prop :=
  s.value host condition = .ok true ∧
    ∃ readyAt, readyAt ≤ s.at_ ∧ HeldSince host log condition durationMs readyAt

/-- A tracked interval whose condition does not hold is found out: the evaluation comes to it, finds its condition
false, and what the step writes is stored. -/
def Sighting.Heeded (host : EvaluatorHost) (s : Sighting) (stored : Prop) : Prop :=
  ∀ duration ∈ s.run.conditionDurations, ∀ condition durationMs,
    host.conditionHash condition durationMs = some duration.conditionHash →
    s.value host condition = .ok true ∨
      stored ∧ s.value host condition = .ok false ∧ Visits host (s.value host) (condition, durationMs) s.condition

section
variable (host : StoreHost) (evaluator : EvaluatorHost) (plan : AutomationExecutionPlan) (runId : AutomationRunId)
  (allowed : Sighting → Prop → Prop)

/-- The clock, the store around one run and what the run has seen. Time passes; other parties call the repository
and ready timers that are due; the run takes steps, some of which store nothing. -/
inductive ConditionHistory : Instant → AutomationStore → List Sighting → Prop
  | start {now : Instant} {store : AutomationStore} (ht : Traced store) (hf : TimersFit store)
      (habsent : store.runs.find runId = none) : ConditionHistory now store []
  | elapsed {now later : Instant} {store : AutomationStore} {log : List Sighting}
      (h : ConditionHistory now store log) (hlater : now ≤ later) : ConditionHistory later store log
  | called {now : Instant} {store store' : AutomationStore} {log : List Sighting} {c : AutomationCall}
      {r : c.Response} (h : ConditionHistory now store log) (hc : Courteous runId c)
      (hready : ∀ timer, c = .transitionTimer timer → timer.readyAt ≤ now)
      (hh : automationHandler host c store r store') : ConditionHistory now store' log
  | governed {now : Instant} {store store' : AutomationStore} {log : List Sighting}
      (h : ConditionHistory now store log) (hruns : store'.runs = store.runs) (htrace : store'.trace = store.trace)
      (htimers : store'.timers = store.timers) : ConditionHistory now store' log
  | stepped {now : Instant} {store store' : AutomationStore} {log : List Sighting} {run : AutomationRun}
      {inputs : StepInputs} {outcome : AutomationRuntimeStep} {write : AutomationStepWrite}
      (h : ConditionHistory now store log) (hid : run.id = runId) (hr : ReadsRun plan store run inputs)
      (hnow : inputs.clock.evaluation = now) (ha : ∀ s, sighting plan run inputs = some s → allowed s True)
      (hs : stepRun evaluator plan run inputs = .ok (outcome, some write))
      (hc : store.commitStep write = .ok store') :
      ConditionHistory now store' (log ++ (sighting plan run inputs).toList)
  | missed {now : Instant} {store : AutomationStore} {log : List Sighting} {run : AutomationRun}
      {inputs : StepInputs} (h : ConditionHistory now store log) (hid : run.id = runId)
      (hr : ReadsRun plan store run inputs) (hnow : inputs.clock.evaluation = now)
      (ha : ∀ s, sighting plan run inputs = some s → allowed s False) :
      ConditionHistory now store (log ++ (sighting plan run inputs).toList)

structure IntervalKept (now : Instant) (store : AutomationStore) (log : List Sighting)
    (duration : AutomationConditionDuration) : Prop where
  owned : duration.timerId.runId = runId
  readies : ReadiesAt store now duration.timerId duration.readyAt
  mature : duration.phase = .mature → duration.readyAt ≤ now
  held : ∀ condition durationMs, evaluator.conditionHash condition durationMs = some duration.conditionHash →
    HeldSince evaluator log condition durationMs duration.readyAt

structure IntervalsKept (now : Instant) (store : AutomationStore) (log : List Sighting) : Prop where
  traced : Traced store
  fit : TimersFit store
  ordered : (log.map Sighting.at_).Pairwise (· ≤ ·)
  past : ∀ s ∈ log, s.at_ ≤ now
  placed : ∀ run, store.runs.find runId = some run → run.state.isTerminal = false → DurationsPlaced plan run
  kept : ∀ run, store.runs.find runId = some run → run.state.isTerminal = false →
    ∀ duration ∈ run.conditionDurations, IntervalKept evaluator runId now store log duration

end

section
variable {host : StoreHost} {evaluator : EvaluatorHost} {plan : AutomationExecutionPlan} {runId : AutomationRunId}
  {allowed : Sighting → Prop → Prop} {now later : Instant} {store store' : AutomationStore} {log : List Sighting}
  {run : AutomationRun} {inputs : StepInputs} {outcome : AutomationRuntimeStep} {write : AutomationStepWrite}
  {duration : AutomationConditionDuration}

theorem HeldSince.append {readyAt : Instant}
    (h : HeldSince evaluator log condition durationMs readyAt) {seen : List Sighting}
    (hseen : ∀ s ∈ seen, s.value evaluator condition = .ok true) :
    HeldSince evaluator (log ++ seen) condition durationMs readyAt := by
  obtain ⟨start, rest, hsuffix, hready, hheld⟩ := h
  refine ⟨start, rest ++ seen, ?_, hready, ?_⟩
  · obtain ⟨earlier, rfl⟩ := hsuffix
    exact ⟨earlier, by rw [append_assoc]; rfl⟩
  · intro s hmem
    rw [← cons_append] at hmem
    rcases mem_append.mp hmem with hmem | hmem
    · exact hheld s hmem
    · exact hseen s hmem

theorem Sighting.Heeded.holds {stored : Prop} (h : s.Heeded evaluator stored)
    (hd : duration ∈ s.run.conditionDurations) (hvalid : duration.conditionHash ∉ s.invalid evaluator)
    (hhash : evaluator.conditionHash condition durationMs = some duration.conditionHash) :
    s.value evaluator condition = .ok true := by
  rcases h duration hd condition durationMs hhash with htrue | ⟨_, hfalse, hvisits⟩
  · exact htrue
  · exact absurd (hvisits.invalid hhash (valueIs_of_evaluated hfalse) _) hvalid

theorem IntervalKept.elapsed (h : IntervalKept evaluator runId now store log duration) (hlater : now ≤ later) :
    IntervalKept evaluator runId later store log duration :=
  ⟨h.owned, h.readies.elapsed hlater, fun hmature => (h.mature hmature).trans hlater, h.held⟩

theorem IntervalKept.seen (h : IntervalKept evaluator runId now store log duration) {seen : List Sighting}
    (hseen : ∀ s ∈ seen, ∀ condition durationMs,
      evaluator.conditionHash condition durationMs = some duration.conditionHash →
      s.value evaluator condition = .ok true) :
    IntervalKept evaluator runId now store (log ++ seen) duration := by
  refine ⟨h.owned, h.readies, h.mature, ?_⟩
  intro condition durationMs hhash
  exact (h.held condition durationMs hhash).append (fun s hmem => hseen s hmem condition durationMs hhash)

/-- A carried interval is kept in the log that ends with this sighting. -/
theorem Carried.kept_after (hashes : evaluator.HashesExactly) (hid : run.id = runId)
    (hr : ReadsRun plan store run inputs)
    (ha : ∀ s, sighting plan run inputs = some s → s.Heeded evaluator True)
    (hkept : ∀ duration ∈ run.conditionDurations, IntervalKept evaluator runId now store log duration)
    (hmoves : ∀ timer ∈ write.transitionTimers, timer.state ≠ .ready) (hc : store.commitStep write = .ok store')
    (h : Carried evaluator plan run inputs write.createTimers duration) :
    IntervalKept evaluator runId now store' (log ++ (sighting plan run inputs).toList) duration := by
  -- what the step saw leaves an interval that was not found false as it was
  have hstays : ∀ duration ∈ run.conditionDurations,
      (∀ s, sighting plan run inputs = some s → duration.conditionHash ∉ s.invalid evaluator) →
      IntervalKept evaluator runId now store' (log ++ (sighting plan run inputs).toList) duration := by
    intro duration hd hvalid
    have hbefore := hkept duration hd
    have hafter : IntervalKept evaluator runId now store' log duration :=
      ⟨hbefore.owned, hbefore.readies.commitStep hmoves hc, hbefore.mature, hbefore.held⟩
    refine hafter.seen ?_
    intro s hs condition durationMs hhash
    rw [mem_toList] at hs
    obtain ⟨_, hrun, _⟩ := sighting_spec hs
    exact (ha s hs).holds (by rw [hrun]; exact hd) (hvalid s hs) hhash
  cases h with
  | kept hd hvalid => exact hstays duration hd hvalid
  | @matured duration timer hd hvalid hread hready =>
    have hstay := hstays duration hd hvalid
    refine ⟨hstay.owned, hstay.readies, ?_, hstay.held⟩
    intro _
    -- a timer read as ready is ready in the store
    have howned := (hkept duration hd).owned
    obtain ⟨row, hrow, hreadied⟩ := hr.timer _ _ hread (howned.trans hid.symm)
    have hsame : row = timer := by
      rcases hreadied with hsame | ⟨hpending, _⟩
      · exact hsame
      · rw [hready] at hpending
        cases hpending
    obtain ⟨stored, hstored, hat, hdue⟩ := (hkept duration hd).readies
    rw [hrow, Option.some.injEq, hsame] at hstored
    rw [← hstored] at hdue
    exact hdue hready
  | @started s condition durationMs hash readyAt hs hh hv hready hcreated =>
    obtain ⟨_, hrun, hat⟩ := sighting_spec hs
    have hstarted : ReadiesAt store' now _ readyAt := readiesAt_created hmoves hc hcreated rfl
    refine ⟨hid, hstarted, ?_, ?_⟩
    · intro hmature
      cases hmature
    · intro condition' durationMs' hhash
      obtain ⟨rfl, rfl⟩ := hashes _ _ _ _ _ hh hhash
      refine ⟨s, [], ?_, hready, ?_⟩
      · rw [hs]
        exact suffix_append log [s]
      · intro other hmem
        rw [mem_singleton.mp hmem]
        exact hv

theorem IntervalsKept.logged (h : IntervalsKept evaluator plan runId now store log)
    (hnow : inputs.clock.evaluation = now) :
    ((log ++ (sighting plan run inputs).toList).map Sighting.at_).Pairwise (· ≤ ·) ∧
      ∀ s ∈ log ++ (sighting plan run inputs).toList, s.at_ ≤ now := by
  have hseen : ∀ s ∈ (sighting plan run inputs).toList, s.at_ = now := by
    intro s hs
    rw [mem_toList] at hs
    rw [(sighting_spec hs).2.2, hnow]
  refine ⟨?_, ?_⟩
  · rw [map_append, pairwise_append]
    refine ⟨h.ordered, ?_, ?_⟩
    · cases sighting plan run inputs with
      | none => exact List.Pairwise.nil
      | some s => exact pairwise_singleton _ _
    · intro a ha b hb
      obtain ⟨s, hs, rfl⟩ := List.mem_map.mp ha
      obtain ⟨t, ht, rfl⟩ := List.mem_map.mp hb
      rw [hseen t ht]
      exact h.past s hs
  · intro s hs
    rcases mem_append.mp hs with hs | hs
    · exact h.past s hs
    · exact (hseen s hs).le

theorem IntervalsKept.elapsed (h : IntervalsKept evaluator plan runId now store log) (hlater : now ≤ later) :
    IntervalsKept evaluator plan runId later store log :=
  ⟨h.traced, h.fit, h.ordered, fun s hs => (h.past s hs).trans hlater, h.placed,
    fun run hrun hlive duration hd => (h.kept run hrun hlive duration hd).elapsed hlater⟩

theorem IntervalsKept.called (h : IntervalsKept evaluator plan runId now store log) (hc : Courteous runId c)
    (hready : ∀ timer, c = .transitionTimer timer → timer.readyAt ≤ now)
    (hh : automationHandler host c store r store') : IntervalsKept evaluator plan runId now store' log := by
  have hattended := attended_call hc h.traced h.fit hh
  -- the run is as before, or new and without intervals
  have hrun : ∀ run, store'.runs.find runId = some run → run.state.isTerminal = false →
      store.runs.find runId = some run ∨ run.conditionDurations = [] := by
    intro run hrun hlive
    rcases hattended.live run hrun hlive with hsince | ⟨_, hnew⟩
    · exact .inl (hsince.run.symm.trans hrun)
    · exact .inr hnew.durations
  refine ⟨hattended.traced, hattended.fit, h.ordered, h.past, ?_, ?_⟩
  · intro run hfind hlive
    rcases hrun run hfind hlive with hbefore | hnone
    · exact h.placed run hbefore hlive
    · unfold DurationsPlaced
      rw [hnone]
      exact fun _ hmem => absurd hmem not_mem_nil
  · intro run hfind hlive duration hd
    rcases hrun run hfind hlive with hbefore | hnone
    · have hkept := h.kept run hbefore hlive duration hd
      exact ⟨hkept.owned, hkept.readies.called hc hready h.fit hh hfind hlive hkept.owned, hkept.mature, hkept.held⟩
    · rw [hnone] at hd
      exact absurd hd not_mem_nil

theorem IntervalsKept.governed (h : IntervalsKept evaluator plan runId now store log)
    (hruns : store'.runs = store.runs) (htrace : store'.trace = store.trace) (htimers : store'.timers = store.timers) :
    IntervalsKept evaluator plan runId now store' log := by
  refine ⟨h.traced.same hruns htrace, h.fit.same htimers (fun id hid => by rwa [hruns]), h.ordered, h.past, ?_, ?_⟩
  · rw [hruns]
    exact h.placed
  · rw [hruns]
    intro run hrun hlive duration hd
    have hkept := h.kept run hrun hlive duration hd
    exact ⟨hkept.owned, hkept.readies.of_same htimers, hkept.mature, hkept.held⟩

/-- A committed step that heeds its condition keeps every interval unbroken. -/
theorem IntervalsKept.stepped (hashes : evaluator.HashesExactly) (h : IntervalsKept evaluator plan runId now store log)
    (hid : run.id = runId) (hr : ReadsRun plan store run inputs) (hnow : inputs.clock.evaluation = now)
    (ha : ∀ s, sighting plan run inputs = some s → s.Heeded evaluator True)
    (hs : stepRun evaluator plan run inputs = .ok (outcome, some write)) (hc : store.commitStep write = .ok store') :
    IntervalsKept evaluator plan runId now store' (log ++ (sighting plan run inputs).toList) := by
  have hrow : store.runs.find runId = some run := hid ▸ hr.row
  have hlive := stepRun_live hs
  have hplaced := h.placed run hrow hlive
  have hkept := h.kept run hrow hlive
  have heffect := (stepRun_effect hs).effect
  have hcreated := heffect.createdTimer
  have hmoves := heffect.movedTimer
  obtain ⟨hcarried, hstays⟩ := stepRun_carries hashes.apart hr hplaced
    (fun duration hd => (hkept duration hd).owned.trans hid.symm) hs
  obtain ⟨hordered, hpast⟩ := h.logged hnow
  -- the row of the run is the one written
  have hnext : ∀ next, store'.runs.find runId = some next → next = write.run := by
    intro next hfind
    obtain ⟨_, current, revised, hcurrent, _, hruns, _, _, _, _, hfold⟩ := commitStep_spec hc
    have hwriteId : write.run.id = runId := heffect.kept.1.id.trans hid
    rw [(appendTrace_sameWork _ hfold).runs, hruns, Table.find_replace hcurrent,
      if_pos hwriteId, Option.some.injEq] at hfind
    exact hfind.symm
  refine ⟨h.traced.commitStep (stepRun_oneEntry hs).tracesOnce hc,
    h.fit.commitStep (fun timer hmem => (hcreated timer hmem).1) hc, hordered, hpast, ?_, ?_⟩
  · intro next hfind _
    rw [hnext next hfind]
    intro duration hd
    have hnode : write.run.nodeId = run.nodeId := by
      rcases hstays with hnone | hnode
      · rw [hnone] at hd
        exact absurd hd not_mem_nil
      · exact hnode
    rw [hnode]
    cases hcarried duration hd with
    | kept hd hvalid => exact hplaced _ hd
    | @matured duration _ hin hvalid hread hready => exact hplaced duration hin
    | started hsight hh hv hready hcreate =>
      obtain ⟨hat, _, _⟩ := sighting_spec hsight
      obtain ⟨hn, kind, hkind, hcondition⟩ := evaluatesAt_spec hat
      exact ⟨hn, kind, hkind, by rw [hcondition]; exact some_ne_none _⟩
  · intro next hfind _ duration hd
    rw [hnext next hfind] at hd
    exact (hcarried duration hd).kept_after hashes hid hr ha hkept hmoves hc

theorem IntervalsKept.missed (h : IntervalsKept evaluator plan runId now store log) (hid : run.id = runId)
    (hr : ReadsRun plan store run inputs) (hnow : inputs.clock.evaluation = now)
    (ha : ∀ s, sighting plan run inputs = some s → s.Heeded evaluator False) :
    IntervalsKept evaluator plan runId now store (log ++ (sighting plan run inputs).toList) := by
  obtain ⟨hordered, hpast⟩ := h.logged hnow
  refine ⟨h.traced, h.fit, hordered, hpast, h.placed, ?_⟩
  intro current hcurrent hlive duration hd
  have hsame : run = current := by
    have hrow := hr.row
    rw [hid, hcurrent, Option.some.injEq] at hrow
    exact hrow.symm
  refine (h.kept current hcurrent hlive duration hd).seen ?_
  intro s hs condition durationMs hhash
  rw [mem_toList] at hs
  obtain ⟨_, hrun, _⟩ := sighting_spec hs
  rcases ha s hs duration (by rw [hrun, hsame]; exact hd) condition durationMs hhash with htrue | ⟨hstored, _⟩
  · exact htrue
  · exact absurd hstored not_false

theorem ConditionHistory.intervalsKept (hashes : evaluator.HashesExactly)
    (h : ConditionHistory host evaluator plan runId (Sighting.Heeded evaluator) now store log) :
    IntervalsKept evaluator plan runId now store log := by
  induction h with
  | start ht hf habsent =>
    refine ⟨ht, hf, List.Pairwise.nil, fun _ hmem => absurd hmem not_mem_nil, ?_, ?_⟩
    · intro run hrun
      rw [habsent] at hrun
      cases hrun
    · intro run hrun
      rw [habsent] at hrun
      cases hrun
  | elapsed _ hlater ih => exact ih.elapsed hlater
  | called _ hc hready hh ih => exact ih.called hc hready hh
  | governed _ hruns htrace htimers ih => exact ih.governed hruns htrace htimers
  | stepped _ hid hr hnow ha hs hc ih => exact ih.stepped hashes hid hr hnow ha hs hc
  | missed _ hid hr hnow ha ih => exact ih.missed hid hr hnow ha

/-- In every history in which no reading that breaks a tracked interval goes unnoticed, a state duration is true
only after its condition has held for that long. -/
theorem stateDuration_continuous (hashes : evaluator.HashesExactly)
    (h : ConditionHistory host evaluator plan runId (Sighting.Heeded evaluator) now store log) (hid : run.id = runId)
    (hr : ReadsRun plan store run inputs) (hnow : inputs.clock.evaluation = now) {s : Sighting}
    (hs : sighting plan run inputs = some s) {condition : ResolvedAutomationCondition} {durationMs : ℕ}
    (htrue : s.value evaluator (.stateDuration condition durationMs) = .ok true) :
    (log.map Sighting.at_).Pairwise (· ≤ ·) ∧ s.HeldLong evaluator log condition durationMs := by
  have hkept := h.intervalsKept hashes
  obtain ⟨_, hrun, hat⟩ := sighting_spec hs
  obtain ⟨hvalue, duration, hd, hhash, hmature⟩ := stateDuration_true htrue
  rw [hrun] at hd
  have hinterval := hkept.kept run (hid ▸ hr.row) (sighting_live hs) duration hd
  refine ⟨hkept.ordered, hvalue _, duration.readyAt, ?_, hinterval.held condition durationMs hhash⟩
  rw [hat, hnow]
  exact hinterval.mature hmature

end

def heldEnv : CompilerEnv :=
  ⟨lampHost, lampDocument [.wait (.all [.compare levelExpression .greaterThan (.literal (.decimal "20")),
    .stateDuration (.compare levelExpression .greaterThan (.literal (.decimal "50"))) 5000]) 60000 .stopRun],
    ⟨[dimmerRecord], [], none⟩⟩

def heldEvaluator : EvaluatorHost :=
  { dimmerEvaluator with conditionHash := fun condition durationMs =>
      if condition = levelBound .greaterThan "50" ∧ durationMs = 5000 then some "high" else none }

theorem heldEvaluator_hash {hash : String} (h : heldEvaluator.conditionHash condition durationMs = some hash) :
    condition = levelBound .greaterThan "50" ∧ durationMs = 5000 := by
  simp only [heldEvaluator] at h
  split at h
  next hboth => exact hboth
  · cases h

theorem heldEvaluator_hashesExactly : heldEvaluator.HashesExactly := by
  intro condition durationMs condition' durationMs' hash h h'
  obtain ⟨rfl, rfl⟩ := heldEvaluator_hash h
  obtain ⟨rfl, rfl⟩ := heldEvaluator_hash h'
  exact ⟨rfl, rfl⟩

structure HeldScene where
  now : Instant
  store : AutomationStore
  log : List Sighting

def readied (store : AutomationStore) (now : Instant) : Option AutomationStore :=
  (store.timers.rows.find? (fun timer => timer.kind == .stateDuration && decide (timer.readyAt ≤ now))).bind
    (fun timer => (store.transitionTimer { timer with state := .ready }).toOption)

def heldScene (plan : AutomationExecutionPlan) : List (ℤ × Option String) → Option HeldScene
  | [] => ((levelStart plan).createRun (newRun plan 1 dimmerOccurrence 0)).toOption.map (fun store => ⟨0, store, []⟩)
  | (millis, event) :: earlier => (heldScene plan earlier).bind (fun scene =>
    if scene.now ≤ millis * nanosPerMilli then
      match event with
      | none => (readied scene.store (millis * nanosPerMilli)).map (fun store =>
          ⟨millis * nanosPerMilli, store, scene.log⟩)
      | some percent => (scene.store.runs.find levelRunId).bind (fun run =>
          let inputs := levelInputs plan scene.store millis percent
          let log := scene.log ++ (sighting plan run inputs).toList
          match stepRun heldEvaluator plan run inputs with
          | .ok (_, some write) => (scene.store.commitStep write).toOption.map (fun store =>
              ⟨millis * nanosPerMilli, store, log⟩)
          | _ => some ⟨millis * nanosPerMilli, scene.store, log⟩)
    else none)

theorem heldScene_history {allowed : Sighting → Prop → Prop} {plan : AutomationExecutionPlan}
    {steps : List (ℤ × Option String)} {scene : HeldScene} (h : heldScene plan steps = some scene)
    (ha : ∀ s ∈ scene.log, ∀ stored, allowed s stored) :
    ConditionHistory minuteStoreHost heldEvaluator plan levelRunId allowed scene.now scene.store scene.log := by
  induction steps generalizing scene with
  | nil =>
    obtain ⟨ht, hf⟩ := levelStart_consistent plan
    obtain ⟨store, hcreate, rfl⟩ := map_eq_some_iff.mp h
    have hok := toOption_eq_some hcreate
    refine .called (c := .createRun (newRun plan 1 dimmerOccurrence 0)) (r := .ok ()) (.start ht hf rfl)
      ⟨plan, 1, dimmerOccurrence, 0, rfl⟩ ?_ (.inl ⟨rfl, hok⟩)
    intro timer hcall
    cases hcall
  | cons step earlier ih =>
    obtain ⟨millis, event⟩ := step
    obtain ⟨before, hbefore, hrest⟩ := bind_eq_some_iff.mp h
    split at hrest
    next hlater =>
      cases event with
      | none =>
        obtain ⟨store, hmoved, rfl⟩ := map_eq_some_iff.mp hrest
        obtain ⟨timer, hfound, hmove⟩ := bind_eq_some_iff.mp hmoved
        have hdue := List.find?_some hfound
        simp only [Bool.and_eq_true, decide_eq_true_eq] at hdue
        have hhistory := (ih hbefore ha).elapsed hlater
        refine hhistory.called (c := .transitionTimer { timer with state := .ready }) (r := .ok ()) rfl ?_
          (.inl ⟨rfl, toOption_eq_some hmove⟩)
        intro moved hcall
        cases hcall
        exact hdue.2
      | some percent =>
        obtain ⟨run, hrow, hstep⟩ := bind_eq_some_iff.mp hrest
        have hid : run.id = levelRunId := (Table.find_eq_some.mp hrow).2
        have hreads : ReadsRun plan before.store run (levelInputs plan before.store millis percent) :=
          levelInputs_reads hid hrow millis percent
        dsimp only at hstep
        split at hstep
        next hs =>
          obtain ⟨store, hcommit, rfl⟩ := map_eq_some_iff.mp hstep
          refine .stepped (.elapsed (ih hbefore ?_) hlater) hid hreads rfl ?_ hs (toOption_eq_some hcommit)
          · exact fun s hmem => ha s (mem_append_left _ hmem)
          · exact fun s hs => ha s (mem_append_right _ (mem_toList.mpr hs)) _
        · cases hstep
          refine .missed (.elapsed (ih hbefore ?_) hlater) hid hreads rfl ?_
          · exact fun s hmem => ha s (mem_append_left _ hmem)
          · exact fun s hs => ha s (mem_append_right _ (mem_toList.mpr hs)) _
    · cases hrest

def Sighting.sees (s : Sighting) (condition : ResolvedAutomationCondition) : Bool :=
  (s.value heldEvaluator condition).toOption == some true

theorem Sighting.sees_iff : s.sees condition = true ↔ s.value heldEvaluator condition = .ok true := by
  unfold sees
  rw [beq_iff_eq]
  refine ⟨toOption_eq_some, ?_⟩
  intro h
  rw [h]
  rfl

def heldInterval : ResolvedAutomationCondition := .stateDuration (levelBound .greaterThan "50") 5000

def heldFive (log : List Sighting) (s : Sighting) : Bool :=
  log.tails.any (fun seen => seen.head?.any (fun start =>
    (addMillis start.at_ 5000).any (fun readyAt => decide (readyAt ≤ s.at_))) &&
      seen.all (fun s => s.sees (levelBound .greaterThan "50")))

theorem heldFive_of_heldLong {log : List Sighting}
    (h : s.HeldLong heldEvaluator log (levelBound .greaterThan "50") 5000) : heldFive log s = true := by
  obtain ⟨_, readyAt, hdue, start, later, hsuffix, hready, hheld⟩ := h
  unfold heldFive
  rw [List.any_eq_true]
  refine ⟨start :: later, (mem_tails _ _).mpr hsuffix, ?_⟩
  rw [Bool.and_eq_true]
  refine ⟨?_, ?_⟩
  · rw [List.head?_cons, any_some, hready, any_some, decide_eq_true_eq]
    exact hdue
  · rw [List.all_eq_true]
    exact fun s hmem => Sighting.sees_iff.mpr (hheld s hmem)

theorem heeded_of_sees (h : s.sees (levelBound .greaterThan "50") = true) (stored : Prop) :
    s.Heeded heldEvaluator stored := by
  intro duration _ condition durationMs hhash
  obtain ⟨rfl, _⟩ := heldEvaluator_hash hhash
  exact .inl (Sighting.sees_iff.mp h)

def heldLast (plan : AutomationExecutionPlan) (scene : HeldScene) : Option (AutomationRun × Sighting) :=
  (scene.store.runs.find levelRunId).bind (fun run =>
    (sighting plan run (levelInputs plan scene.store 5000 "60.5")).map (fun s => (run, s)))

theorem heldLast_reads {plan : AutomationExecutionPlan} {scene : HeldScene} {run : AutomationRun}
    (h : heldLast plan scene = some (run, s)) : run.id = levelRunId ∧
      ReadsRun plan scene.store run (levelInputs plan scene.store 5000 "60.5") ∧
      sighting plan run (levelInputs plan scene.store 5000 "60.5") = some s := by
  obtain ⟨found, hrow, hsight⟩ := bind_eq_some_iff.mp h
  obtain ⟨seen, hseen, heq⟩ := map_eq_some_iff.mp hsight
  cases heq
  have hid : run.id = levelRunId := (Table.find_eq_some.mp hrow).2
  exact ⟨hid, levelInputs_reads hid hrow _ _, hseen⟩

/-- The level stays high, and after five seconds the interval is true. -/
theorem high_for_five_seconds : ∃ plan, compile heldEnv = .ok plan ∧ ∃ scene run s,
    heldScene plan [(5000, some "60.5"), (5000, none), (2000, some "70.5"), (0, some "60.5"), (0, some "60.5"),
      (0, some "60.5")] = some scene ∧ heldLast plan scene = some (run, s) ∧
    s.value heldEvaluator heldInterval = .ok true ∧
    (scene.log.map Sighting.at_).Pairwise (· ≤ ·) ∧
    s.HeldLong heldEvaluator scene.log (levelBound .greaterThan "50") 5000 := by
  have hok : (compile heldEnv).toOption.any (fun plan =>
      (heldScene plan [(5000, some "60.5"), (5000, none), (2000, some "70.5"), (0, some "60.5"), (0, some "60.5"),
        (0, some "60.5")]).any (fun scene => decide (scene.now = 5000 * nanosPerMilli) &&
          scene.log.all (fun s => s.sees (levelBound .greaterThan "50")) &&
          (heldLast plan scene).any (fun last => last.2.sees heldInterval))) = true := by decide +kernel
  obtain ⟨plan, hc, hplan⟩ := compile_of_any hok
  obtain ⟨scene, hscene, hlog⟩ := (Option.any_eq_true _ _).mp hplan
  simp only [Bool.and_eq_true, decide_eq_true_eq, List.all_eq_true] at hlog
  obtain ⟨⟨hnow, hsees⟩, hany⟩ := hlog
  obtain ⟨⟨run, s⟩, hlast, htrue⟩ := (Option.any_eq_true _ _).mp hany
  obtain ⟨hid, hreads, hsight⟩ := heldLast_reads hlast
  have hvalue := Sighting.sees_iff.mp htrue
  have hhistory := heldScene_history hscene (fun s hmem stored => heeded_of_sees (hsees s hmem) stored)
  obtain ⟨hordered, hheld⟩ :=
    stateDuration_continuous heldEvaluator_hashesExactly hhistory hid hreads hnow.symm hsight hvalue
  exact ⟨plan, hc, scene, run, s, hscene, hlast, hvalue, hordered, hheld⟩

/-- The level falls to ten after two seconds. The first operand is false there, so the evaluation does not come
to the interval, which is true three seconds later all the same. -/
theorem dip_unnoticed : ∃ plan, compile heldEnv = .ok plan ∧ ∃ now store log run inputs s,
    ConditionHistory minuteStoreHost heldEvaluator plan run.id (fun _ _ => True) now store log ∧
      ReadsRun plan store run inputs ∧ inputs.clock.evaluation = now ∧ sighting plan run inputs = some s ∧
      s.value heldEvaluator heldInterval = .ok true ∧
      ¬ s.HeldLong heldEvaluator log (levelBound .greaterThan "50") 5000 := by
  have hok : (compile heldEnv).toOption.any (fun plan =>
      (heldScene plan [(5000, some "60.5"), (5000, none), (2000, some "10.5"), (0, some "60.5"), (0, some "60.5"),
        (0, some "60.5")]).any (fun scene => decide (scene.now = 5000 * nanosPerMilli) &&
          (heldLast plan scene).any (fun last => last.2.sees heldInterval && !heldFive scene.log last.2))) =
        true := by decide +kernel
  obtain ⟨plan, hc, hplan⟩ := compile_of_any hok
  obtain ⟨scene, hscene, hlog⟩ := (Option.any_eq_true _ _).mp hplan
  simp only [Bool.and_eq_true, decide_eq_true_eq] at hlog
  obtain ⟨hnow, hany⟩ := hlog
  obtain ⟨⟨run, s⟩, hlast, htrue⟩ := (Option.any_eq_true _ _).mp hany
  simp only [Bool.and_eq_true, Bool.not_eq_true'] at htrue
  obtain ⟨hid, hreads, hsight⟩ := heldLast_reads hlast
  refine ⟨plan, hc, scene.now, scene.store, scene.log, run, _, s, ?_, hreads, hnow.symm, hsight,
    Sighting.sees_iff.mp htrue.1, ?_⟩
  · rw [hid]
    exact heldScene_history hscene (fun _ _ _ => trivial)
  · intro hheld
    rw [heldFive_of_heldLong hheld] at htrue
    exact absurd htrue.2 (by decide)

end HomeMagic
