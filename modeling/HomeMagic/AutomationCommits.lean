import HomeMagic.AutomationDurations
import HomeMagic.Fallible
import HomeMagic.AutomationTimers
import HomeMagic.AutomationTypeSafety

/-! Step writes that storage accepts. A step is committed against a store in which its run
is still at the revision it read; whether the write is legal there depends on the timers
the run started before. -/
namespace HomeMagic
open List Table AutomationStore Option

structure ReadsRun (plan : AutomationExecutionPlan) (store : AutomationStore) (run : AutomationRun)
    (inputs : StepInputs) : Prop where
  row : store.runs.find run.id = some run
  timer : ∀ id timer, inputs.timer id = some (some timer) → id.runId = run.id →
    ∃ row, store.timers.find id = some row ∧ Readied timer row
  page : ∀ timers, inputs.recoverableTimers = some timers → ∀ timer ∈ timers,
    timer.runId = run.id → timer.isRecoverable = true ∧
      ∃ row, store.timers.find timer.id = some row ∧ Readied timer row
  trace : inputs.traceLength =
    (store.loadTrace run.id none (plan.budget.maximumTraceSteps + 1)).length

def AutomationPlanNodeKind.waits : AutomationPlanNodeKind → Bool
  | delay _ _ | wait _ _ _ _ | branch _ _ _ _ | command _ => true
  | _ => false

/-- The timers the node can start at this step: its own when a delay or a wait is entered,
one for an interval that holds and is not running yet, and one for the retry after an
answer of the command port. -/
inductive MayStart (host : EvaluatorHost) (plan : AutomationExecutionPlan) (run : AutomationRun)
    (inputs : StepInputs) (n : AutomationPlanNodeId) : AutomationTimerKind → Instant → Prop
  | delay {durationMs : ℕ} {following : Option AutomationPlanNodeId} {readyAt : Instant}
      (hs : run.state = .running) (hk : plan.find n = some (.delay durationMs following))
      (hr : addMillis inputs.clock.evaluation durationMs = some readyAt) :
      MayStart host plan run inputs n .delay readyAt
  | wait {condition : ResolvedAutomationCondition} {timeoutMs : ℕ}
      {onTimeout : AutomationPlanFailurePolicy} {following : Option AutomationPlanNodeId}
      {readyAt : Instant} (hs : run.state = .running)
      (hk : plan.find n = some (.wait condition timeoutMs onTimeout following))
      (hr : addMillis inputs.clock.evaluation timeoutMs = some readyAt) :
      MayStart host plan run inputs n .waitTimeout readyAt
  | interval {kind : AutomationPlanNodeKind} {condition nested : ResolvedAutomationCondition}
      {durationMs : ℕ} {hash : String} {snapshot : FoundationSnapshot} {timers : List AutomationTimer}
      {readyAt : Instant} (hk : plan.find n = some kind) (hc : kind.condition? = some condition)
      (hi : (nested, durationMs) ∈ condition.intervals) (hsnapshot : inputs.snapshot = some snapshot)
      (ht : durationTimers run n inputs = .ok timers)
      (hv : ValueIs host inputs.clock.evaluation snapshot run.id n run.conditionDurations timers
        run.vars nested true)
      (hh : host.conditionHash nested durationMs = some hash)
      (hf : run.conditionDurations.find? (fun duration => duration.conditionHash == hash) = none)
      (hr : addMillis inputs.clock.evaluation durationMs = some readyAt) :
      MayStart host plan run inputs n .stateDuration readyAt
  | retry {node : CommandNode} {command : CommandResult} {readyAt : Instant}
      (hk : plan.find n = some (.command node)) (ha : Answered run inputs command)
      (hr : addMillis command.updatedAt node.retry.backoffMs = some readyAt) :
      MayStart host plan run inputs n .commandRetry readyAt

/-- The trace of the run still fits on one page, and no timer is stored under the id of one
that its node can start now. -/
structure Unhindered (host : EvaluatorHost) (plan : AutomationExecutionPlan) (run : AutomationRun)
    (inputs : StepInputs) (store : AutomationStore) : Prop where
  page : (store.traceOf run.id).length ≤ maxQueryPage
  fresh : ∀ n kind readyAt, run.nodeId = some n → MayStart host plan run inputs n kind readyAt →
    store.timers.find ⟨run.id, n, kind, timestampMillis readyAt⟩ = none

/-- What the store keeps about an unfinished run: it waits only at nodes that wait, and its
intervals are those of its node, each under a timer of its own that is still to fire. -/
structure Kept (plan : AutomationExecutionPlan) (store : AutomationStore) (run : AutomationRun) :
    Prop where
  waits : run.state = .waiting → ∃ n kind, run.nodeId = some n ∧ plan.find n = some kind ∧
    kind.waits = true
  node : ∀ duration ∈ run.conditionDurations, run.nodeId = some duration.nodeId ∧
    ∃ kind, plan.find duration.nodeId = some kind ∧ kind.condition? ≠ none
  timer : ∀ duration ∈ run.conditionDurations, duration.timerId.runId = run.id ∧
    duration.timerId.scope = .stateDuration ∧ ∃ row, store.timers.find duration.timerId = some row ∧
      (duration.phase = .pending → row.isRecoverable = true)
  apart : (run.conditionDurations.map AutomationConditionDuration.timerId).Nodup

structure Legal (store : AutomationStore) (run : AutomationRun) (next : AutomationRunState)
    (created moved : List AutomationTimer) : Prop where
  state : run.state.allowsRevisionTo next = true
  created : created = [] ∨ ∃ timer, created = [timer] ∧ timer.runId = run.id ∧ timer.IsNamed ∧
    store.timers.find timer.id = none
  distinct : (moved.map AutomationTimer.id).Nodup
  moved : ∀ timer ∈ moved, timer.runId = run.id ∧
    ∃ row, store.timers.find timer.id = some row ∧ TimerMoved row timer

variable {timers : List AutomationTimer}

section
variable {host : EvaluatorHost} {plan : AutomationExecutionPlan} {store store' : AutomationStore}
  {run next : AutomationRun} {inputs : StepInputs} {n : AutomationPlanNodeId}
  {created moved : List AutomationTimer}
variable {state : AutomationRunState} {timer : AutomationTimer} {kind : AutomationPlanNodeKind}
  {duration : AutomationConditionDuration} {hash : String} {invalid : List String}

structure Serves (store : AutomationStore) (run : AutomationRun) (timers : List AutomationTimer) :
    Prop where
  distinct : (timers.map AutomationTimer.id).Nodup
  runId : ∀ timer ∈ timers, timer.runId = run.id
  recoverable : ∀ timer ∈ timers, timer.isRecoverable = true
  duration : ∀ timer ∈ timers, ∃ duration ∈ run.conditionDurations, duration.timerId = timer.id
  stored : ∀ timer ∈ timers, ∃ row, store.timers.find timer.id = some row ∧ Readied timer row

/-- The timers that are loaded for the intervals of a run serve them. -/
theorem durationTimers_serves (hk : Kept plan store run) (hf : TimersFit store)
    (hr : ReadsRun plan store run inputs)
    (h : durationTimers run n inputs = .ok timers) : Serves store run timers := by
  have hloads := loadDurationTimers_loads h
  -- every loaded timer is the one read under its own id
  have hread : ∀ timer ∈ timers, ∃ duration ∈ run.conditionDurations, duration.phase = .pending ∧
      duration.timerId = timer.id ∧ inputs.timer timer.id = some (some timer) ∧
      ∃ row, store.timers.find timer.id = some row ∧ Readied timer row := by
    intro timer hmem
    obtain ⟨duration, hpending, hanswer⟩ := hloads.each timer hmem
    obtain ⟨hduration, hp⟩ := List.mem_filter.mp hpending
    simp only [Bool.and_eq_true, beq_iff_eq] at hp
    obtain ⟨hrunId, _⟩ := hk.timer duration hduration
    obtain ⟨row, hrow, hreadied⟩ := hr.timer _ _ hanswer hrunId
    have hid : duration.timerId = timer.id := by
      rw [← hreadied.id]
      exact (find_eq_some.mp hrow).2.symm
    rw [hid] at hanswer hrow
    exact ⟨duration, hduration, hp.2, hid, hanswer, row, hrow, hreadied⟩
  refine ⟨?_, ?_, ?_, ?_, ?_⟩
  · refine hloads.nodup.map_on ?_
    intro a ha b hb heq
    obtain ⟨_, _, _, _, hanswer, _⟩ := hread a ha
    obtain ⟨_, _, _, _, hanswer', _⟩ := hread b hb
    rw [heq, hanswer', Option.some.injEq, Option.some.injEq] at hanswer
    exact hanswer.symm
  · intro timer hmem
    obtain ⟨duration, hduration, _, hid, _, row, hrow, hreadied⟩ := hread timer hmem
    obtain ⟨hrunId, _⟩ := hk.timer duration hduration
    obtain ⟨hrowMem, hkey⟩ := find_eq_some.mp hrow
    have hnamed := hf.named row hrowMem
    rw [AutomationTimer.IsNamed, hkey, ← hid] at hnamed
    rw [← hreadied.runId, ← hrunId, hnamed]
  · intro timer hmem
    obtain ⟨duration, hduration, hphase, hid, _, row, hrow, hreadied⟩ := hread timer hmem
    obtain ⟨_, _, row', hrow', hrecoverable⟩ := hk.timer duration hduration
    rw [hid, hrow, Option.some.injEq] at hrow'
    rw [← hreadied.isRecoverable, hrow']
    exact hrecoverable hphase
  · intro timer hmem
    obtain ⟨duration, hduration, _, hid, _⟩ := hread timer hmem
    exact ⟨duration, hduration, hid⟩
  · intro timer hmem
    obtain ⟨_, _, _, _, _, row, hrow, hreadied⟩ := hread timer hmem
    exact ⟨row, hrow, hreadied⟩

theorem cancelTimer_id (timer : AutomationTimer) : (cancelTimer timer).id = timer.id := by
  unfold cancelTimer
  split <;> rfl

theorem cancelTimer_recoverable (h : timer.isRecoverable = true) :
    cancelTimer timer = { timer with state := .cancelled } := by
  unfold cancelTimer
  split
  · rfl
  · rfl
  · rename_i hpending hready
    simp only [AutomationTimer.isRecoverable, Bool.or_eq_true, beq_iff_eq] at h
    rcases h with h | h
    · exact absurd h hpending
    · exact absurd h hready

theorem map_cancelTimer_ids (timers : List AutomationTimer) :
    (timers.map cancelTimer).map AutomationTimer.id = timers.map AutomationTimer.id := by
  rw [List.map_map]
  exact map_congr_left (fun timer _ => cancelTimer_id timer)

theorem Serves.cancels (h : Serves store run timers) (hmem : timer ∈ timers) :
    (cancelTimer timer).runId = run.id ∧
      ∃ row, store.timers.find (cancelTimer timer).id = some row ∧ TimerMoved row (cancelTimer timer) := by
  obtain ⟨row, hrow, hreadied⟩ := h.stored timer hmem
  have hrecoverable := h.recoverable timer hmem
  rw [cancelTimer_recoverable hrecoverable]
  exact ⟨h.runId timer hmem, row, hrow, hreadied.cancelled hrecoverable⟩

theorem Serves.dropped (h : Serves store run timers)
    (invalid : List String) : ((cancelledTimers run timers invalid).map AutomationTimer.id).Nodup ∧
      ∀ reset ∈ cancelledTimers run timers invalid, ∃ timer ∈ timers, reset = cancelTimer timer := by
  refine ⟨?_, ?_⟩
  · unfold cancelledTimers
    rw [map_cancelTimer_ids]
    exact h.distinct.sublist (filter_sublist.map _)
  · intro reset hmem
    obtain ⟨timer, htimer, rfl⟩ := List.mem_map.mp hmem
    exact ⟨timer, (List.mem_filter.mp htimer).1, rfl⟩

theorem Serves.left (h : Serves store run timers) (invalid : List String) {active : List AutomationTimer}
    (ha : active = timers.filter (fun timer =>
      !(cancelledTimers run timers invalid).any (fun reset => reset.id == timer.id))) :
    ((cancelledTimers run timers invalid ++ active.map cancelTimer).map AutomationTimer.id).Nodup ∧
      ∀ reset ∈ cancelledTimers run timers invalid ++ active.map cancelTimer,
        ∃ timer ∈ timers, reset = cancelTimer timer := by
  obtain ⟨hdistinct, hdropped⟩ := h.dropped invalid
  have hsub : ∀ timer ∈ active, timer ∈ timers := by
    intro timer hmem
    rw [ha] at hmem
    exact (List.mem_filter.mp hmem).1
  refine ⟨?_, ?_⟩
  · rw [map_append, map_cancelTimer_ids, nodup_append]
    refine ⟨hdistinct, ?_, ?_⟩
    · rw [ha]
      exact h.distinct.sublist (filter_sublist.map _)
    · -- an active timer has none of the cancelled ids
      intro id hid other hother heq
      obtain ⟨reset, hreset, rfl⟩ := List.mem_map.mp hid
      obtain ⟨timer, htimer, rfl⟩ := List.mem_map.mp hother
      rw [ha] at htimer
      have hnone := (List.mem_filter.mp htimer).2
      rw [Bool.not_eq_true', List.any_eq_false] at hnone
      exact hnone reset hreset (beq_iff_eq.mpr heq)
  · intro reset hmem
    rcases mem_append.mp hmem with hmem | hmem
    · exact hdropped reset hmem
    · obtain ⟨timer, htimer, rfl⟩ := List.mem_map.mp hmem
      exact ⟨timer, hsub timer htimer, rfl⟩

theorem Serves.legal_moves (h : Serves store run timers)
    (hm : ∀ reset ∈ moved, ∃ timer ∈ timers, reset = cancelTimer timer) :
    ∀ timer ∈ moved, timer.runId = run.id ∧
      ∃ row, store.timers.find timer.id = some row ∧ TimerMoved row timer := by
  intro reset hmem
  obtain ⟨timer, htimer, rfl⟩ := hm reset hmem
  exact h.cancels htimer

theorem Kept.eq_of_timer (hk : Kept plan store run) {a b : AutomationConditionDuration}
    (ha : a ∈ run.conditionDurations) (hb : b ∈ run.conditionDurations) (h : a.timerId = b.timerId) :
    a = b :=
  inj_on_of_nodup_map hk.apart ha hb h

theorem Kept.not_cancelled (hk : Kept plan store run) (timers : List AutomationTimer)
    (hd : duration ∈ run.conditionDurations) (hvalid : duration.conditionHash ∉ invalid) :
    duration.timerId ∉ (cancelledTimers run timers invalid).map AutomationTimer.id := by
  unfold cancelledTimers
  rw [map_cancelTimer_ids]
  intro hmem
  obtain ⟨timer, htimer, hid⟩ := List.mem_map.mp hmem
  have hany := (List.mem_filter.mp htimer).2
  simp only [List.any_eq_true, Bool.and_eq_true, beq_iff_eq, contains_eq_mem,
    decide_eq_true_eq] at hany
  obtain ⟨other, hother, hsame, hinvalid⟩ := hany
  have heq : other = duration := hk.eq_of_timer hother hd (hsame.trans hid)
  rw [heq] at hinvalid
  exact hvalid hinvalid

theorem mem_keptDurations :
    duration ∈ keptDurations run invalid ↔
      duration ∈ run.conditionDurations ∧ duration.conditionHash ∉ invalid := by
  simp [keptDurations]

theorem Kept.no_intervals (hk : Kept plan store run) (hn : run.nodeId = some n) (hf : plan.find n = some kind)
    (hc : kind.condition? = none) :
    run.conditionDurations = [] := by
  rw [eq_nil_iff_forall_not_mem]
  intro duration hmem
  obtain ⟨hnode, other, hother, hcondition⟩ := hk.node duration hmem
  rw [hn, Option.some.injEq] at hnode
  rw [← hnode, hf, Option.some.injEq] at hother
  rw [hother] at hc
  exact hcondition hc

theorem Kept.leaves (hk : Kept plan store run) (hn : run.nodeId = some n) (inputs : StepInputs) :
    (leaveNode run n inputs).conditionDurations = [] := by
  show run.conditionDurations.filter (fun duration => duration.nodeId != n) = []
  rw [filter_eq_nil_iff]
  intro duration hmem
  obtain ⟨hnode, _⟩ := hk.node duration hmem
  rw [hn, Option.some.injEq] at hnode
  simp [hnode]

theorem matureDuration_spec {durations matured : List AutomationConditionDuration}
    (h : matureDuration hash durations = some matured) :
    ∃ first, durations.find? (fun duration => duration.conditionHash == hash) = some first ∧
      { first with phase := .mature } ∈ matured ∧
      (∀ duration ∈ matured, duration = { first with phase := .mature } ∨ duration ∈ durations) ∧
      matured.map AutomationConditionDuration.timerId =
        durations.map AutomationConditionDuration.timerId := by
  induction durations generalizing matured with
  | nil => cases h
  | cons head rest ih =>
    rw [matureDuration] at h
    split at h
    · rename_i hhash
      cases h
      refine ⟨head, by simp [hhash], mem_cons_self, ?_, rfl⟩
      intro duration hmem
      rcases mem_cons.mp hmem with rfl | hmem
      · exact .inl rfl
      · exact .inr (mem_cons_of_mem _ hmem)
    · rename_i hhash
      obtain ⟨tail, htail, rfl⟩ := map_eq_some_iff.mp h
      obtain ⟨first, hfirst, hmem, heach, hids⟩ := ih htail
      refine ⟨first, by simpa [hhash] using hfirst, mem_cons_of_mem _ hmem, ?_, ?_⟩
      · intro duration hmem
        rcases mem_cons.mp hmem with rfl | hmem
        · exact .inr mem_cons_self
        · rcases heach duration hmem with heq | hin
          · exact .inl heq
          · exact .inr (mem_cons_of_mem _ hin)
      · rw [map_cons, map_cons, hids]

theorem find_keptDurations (hvalid : hash ∉ invalid) :
    (keptDurations run invalid).find? (fun duration => duration.conditionHash == hash) =
      run.conditionDurations.find? (fun duration => duration.conditionHash == hash) := by
  unfold keptDurations
  rw [List.find?_filter]
  congr 1
  funext duration
  by_cases h : duration.conditionHash = hash
  · simp [h, hvalid]
  · simp [h]

section Held
variable {condition : ResolvedAutomationCondition} {snapshot : FoundationSnapshot}
  {timers : List AutomationTimer} {request : RuntimeDurationRequest} {write : AutomationStepWrite}

theorem HeldCondition.requested
    (h : HeldCondition host run n condition inputs snapshot timers request write) :
    Requested host inputs.clock.evaluation snapshot run.id n run.conditionDurations timers run.vars
      condition.intervals request := by
  have hasks : Asks host inputs.clock.evaluation snapshot run.id n run.conditionDurations timers
      run.vars condition.intervals ⟨none, []⟩ (evaluated host run n condition inputs snapshot timers).2 :=
    evaluateCondition_asks condition ⟨none, []⟩
  rcases hasks.request with hnone | ⟨other, hother, hrequested⟩
  · rw [h.asks] at hnone
    cases hnone
  · rw [h.asks, Option.some.injEq] at hother
    rw [hother]
    exact hrequested

theorem HeldCondition.matures (hashes : host.HashesApart)
    (h : HeldCondition host run n condition inputs snapshot timers (.mature hash timer) write) :
    hash ∉ (evaluated host run n condition inputs snapshot timers).2.invalid ∧ timer ∈ timers ∧
      timer.state = .ready ∧ ∃ duration,
        run.conditionDurations.find? (fun duration => duration.conditionHash == hash) = some duration ∧
        duration.timerId = timer.id := by
  refine ⟨mature_not_invalid hashes h.asks, ?_⟩
  cases h.requested with
  | mature hh hv hf hp ht hready =>
    have hid := List.find?_some ht
    exact ⟨List.mem_of_find?_eq_some ht, hready, _, hf, (beq_iff_eq.mp hid).symm⟩

/-- What a held step writes is legal in a store that it has read. -/
theorem held_legal (hashes : host.HashesApart) (hk : Kept plan store run) (hf : TimersFit store)
    (hr : ReadsRun plan store run inputs) (hu : Unhindered host plan run inputs store)
    (hs : run.state = .running ∨ run.state = .waiting) (hn : run.nodeId = some n) (hkind : plan.find n = some kind)
    (hc : kind.condition? = some condition)
    (hw : evaluateRuntimeCondition host run n condition inputs = .ok (.waiting (some write))) :
    Legal store run write.run.state write.createTimers write.transitionTimers := by
  obtain ⟨snapshot, timers, request, hheld⟩ := evaluateRuntimeCondition_held hw
  have hserves := durationTimers_serves hk hf hr hheld.loads
  have hrequested := hheld.requested
  have hstate : run.state.allowsRevisionTo .waiting = true := by
    rcases hs with hs | hs <;> rw [hs] <;> rfl
  obtain ⟨hdistinct, hdropped⟩ :=
    hserves.dropped (evaluated host run n condition inputs snapshot timers).2.invalid
  have hcancels := hserves.legal_moves hdropped
  obtain ⟨details, durations, created, moved, hwrite, hcommit⟩ := hheld.committed
  rw [hwrite]
  cases hcommit with
  | start duration timer =>
    refine ⟨hstate, .inr ⟨timer, rfl, ?_⟩, hdistinct, hcancels⟩
    cases hrequested with
    | start hl hh hv hnew hready =>
      exact ⟨rfl, rfl, hu.fresh n .stateDuration _ hn
        (.interval hkind hc hl hheld.reads hheld.loads hv hh hnew hready)⟩
  | pending => exact ⟨hstate, .inl rfl, hdistinct, hcancels⟩
  | @mature hash timer matured hmatured =>
    obtain ⟨hvalid, htimer, hready, duration, hfirst, hid⟩ := hheld.matures hashes
    have hhash := List.find?_some hfirst
    have hnot := hk.not_cancelled timers (List.mem_of_find?_eq_some hfirst)
      (by rw [beq_iff_eq.mp hhash]; exact hvalid)
    rw [hid] at hnot
    refine ⟨hstate, .inl rfl, ?_, ?_⟩
    · show ((_ ++ [_] : List AutomationTimer).map AutomationTimer.id).Nodup
      rw [map_append, nodup_append]
      refine ⟨hdistinct, nodup_singleton _, ?_⟩
      intro id hmem other hother heq
      rw [map_singleton, mem_singleton] at hother
      rw [heq, hother] at hmem
      exact hnot hmem
    · intro other hother
      rcases mem_append.mp hother with hother | hother
      · exact hcancels other hother
      · rw [mem_singleton.mp hother]
        obtain ⟨row, hrow, hreadied⟩ := hserves.stored timer htimer
        exact ⟨hserves.runId timer htimer, row, hrow, hreadied.consumed hready⟩

end Held

theorem Legal.quiet (hstate : run.state.allowsRevisionTo state = true) :
    Legal store run state [] [] :=
  ⟨hstate, .inl rfl, nodup_nil, fun _ hmem => absurd hmem not_mem_nil⟩

theorem Legal.starts (hstate : run.state.allowsRevisionTo state = true) {kind : AutomationTimerKind}
    {readyAt : Instant} (hnew : store.timers.find ⟨run.id, n, kind, timestampMillis readyAt⟩ = none) :
    Legal store run state [newTimer run n kind readyAt] [] :=
  ⟨hstate, .inr ⟨_, rfl, rfl, rfl, hnew⟩, nodup_nil, fun _ hmem => absurd hmem not_mem_nil⟩

theorem Legal.consumes (hstate : run.state.allowsRevisionTo state = true) {row : AutomationTimer}
    (hrunId : timer.runId = run.id) (hrow : store.timers.find timer.id = some row) (hreadied : Readied timer row)
    (hready : timer.state = .ready) : Legal store run state [] [{ timer with state := .consumed }] := by
  refine ⟨hstate, .inl rfl, nodup_singleton _, ?_⟩
  intro other hmem
  rw [mem_singleton.mp hmem]
  exact ⟨hrunId, row, hrow, hreadied.consumed hready⟩

theorem Kept.running (hk : Kept plan store run) (hs : run.state = .running ∨ run.state = .waiting)
    (hn : run.nodeId = some n) (hf : plan.find n = some kind) (hw : kind.waits = false) : run.state = .running := by
  refine hs.resolve_right ?_
  intro hwaiting
  obtain ⟨n', kind', hn', hf', hw'⟩ := hk.waits hwaiting
  rw [hn, Option.some.injEq] at hn'
  rw [← hn', hf, Option.some.injEq] at hf'
  rw [← hf', hw] at hw'
  cases hw'

theorem applyFailure_state (start : AutomationRun) (policy : AutomationPlanFailurePolicy)
    (following : Option AutomationPlanNodeId) :
    (applyFailure start policy following).1.state = .running ∨
      (applyFailure start policy following).1.state = .failed := by
  unfold applyFailure
  split <;> simp

theorem applyFailure_durations (start : AutomationRun) (policy : AutomationPlanFailurePolicy)
    (following : Option AutomationPlanNodeId) :
    (applyFailure start policy following).1.conditionDurations = start.conditionDurations := by
  unfold applyFailure
  split <;> rfl

theorem joinRun_state (start : AutomationRun) (n : AutomationPlanNodeId)
    (following : Option AutomationPlanNodeId) :
    (joinRun start n following).1.state = start.state ∨
      (joinRun start n following).1.state = .failed := by
  unfold joinRun
  split
  · split
    · split
      · exact .inl rfl
      split
      · exact .inl rfl
      split
      · exact .inr rfl
      · exact .inl rfl
    · exact .inl rfl
  · exact .inl rfl

theorem joinRun_durations (start : AutomationRun) (n : AutomationPlanNodeId)
    (following : Option AutomationPlanNodeId) :
    (joinRun start n following).1.conditionDurations = start.conditionDurations := by
  unfold joinRun
  split
  · split
    · split
      · rfl
      split
      · rfl
      split <;> rfl
    · rfl
  · rfl

theorem ReadsRun.nodeTimer (hr : ReadsRun plan store run inputs)
    (ht : inputs.recoverableTimers = some timers) {kind : AutomationTimerKind}
    (hf : nodeTimer run n kind timers = some timer) :
    timer.runId = run.id ∧ timer.kind = kind ∧ timer.isRecoverable = true ∧
      ∃ row, store.timers.find timer.id = some row ∧ Readied timer row := by
  have hp := List.find?_some hf
  simp only [Bool.and_eq_true, beq_iff_eq] at hp
  obtain ⟨hrecoverable, hstored⟩ := hr.page timers ht timer (List.mem_of_find?_eq_some hf) hp.1.1
  exact ⟨hp.1.1, hp.2, hrecoverable, hstored⟩

/-- Leaving a wait moves the timers of its intervals and the timer of the wait itself. -/
theorem Legal.leaves (hk : Kept plan store run) (hf : TimersFit store) (hr : ReadsRun plan store run inputs)
    (hstate : run.state.allowsRevisionTo state = true) {condition : ResolvedAutomationCondition}
    {prepared : PreparedRuntimeCondition}
    (hp : evaluateRuntimeCondition host run n condition inputs = .ok (.resolved prepared))
    {last : List AutomationTimer} (hlast : last = [] ∨ ∃ timer row, last = [timer] ∧ timer.runId = run.id ∧
      timer.kind = .waitTimeout ∧ store.timers.find timer.id = some row ∧ TimerMoved row timer) :
    Legal store run state []
      (prepared.resetTimers ++ prepared.activeTimers.map cancelTimer ++ last) := by
  obtain ⟨timers, invalid, hloads, _, hreset, hactive⟩ := evaluateRuntimeCondition_resolved hp
  have hserves := durationTimers_serves hk hf hr hloads
  obtain ⟨hdistinct, heach⟩ := hserves.left invalid hactive
  rw [← hreset] at hdistinct heach
  have hmoves := hserves.legal_moves heach
  rcases hlast with rfl | ⟨timer, row, rfl, hrunId, hkind, hrow, hmoved⟩
  · rw [append_nil]
    exact ⟨hstate, .inl rfl, hdistinct, hmoves⟩
  refine ⟨hstate, .inl rfl, ?_, ?_⟩
  · rw [map_append, nodup_append]
    refine ⟨hdistinct, nodup_singleton _, ?_⟩
    -- timers of intervals and of waits have different scopes
    intro id hmem other hother heq
    rw [map_singleton, mem_singleton] at hother
    obtain ⟨left, hleft, rfl⟩ := List.mem_map.mp hmem
    obtain ⟨source, hsource, rfl⟩ := heach left hleft
    obtain ⟨duration, hduration, hid⟩ := hserves.duration source hsource
    obtain ⟨_, hscope, _⟩ := hk.timer duration hduration
    obtain ⟨hrowMem, hkey⟩ := find_eq_some.mp hrow
    have hnamed := hf.named row hrowMem
    rw [AutomationTimer.IsNamed, hkey, ← hother, ← heq, cancelTimer_id, ← hid] at hnamed
    rw [hnamed, hmoved.kind, hkind] at hscope
    cases hscope
  · intro other hother
    rcases mem_append.mp hother with hother | hother
    · exact hmoves other hother
    · rw [mem_singleton.mp hother]
      exact ⟨hrunId, row, hrow, hmoved⟩

theorem retryTargets_latest {policy : AutomationRetryPolicy} {pairs : List (ℕ × CommandResult)}
    {indices : List ℕ} {ids : List CommandId} {latest : Instant}
    (h : retryTargets policy pairs = some (indices, ids, some latest)) :
    ∃ pair ∈ pairs, latest = pair.2.updatedAt := by
  induction pairs generalizing indices ids latest with
  | nil => cases h
  | cons pair rest ih =>
    rw [retryTargets] at h
    split at h
    · obtain ⟨other, hmem, heq⟩ := ih h
      exact ⟨other, mem_cons_of_mem _ hmem, heq⟩
    split at h
    · cases h
    split at h
    · cases h
    obtain ⟨⟨indices', ids', latest'⟩, hrest, heq⟩ := map_eq_some_iff.mp h
    simp only [Prod.mk.injEq, Option.some.injEq] at heq
    rw [← heq.2.2]
    cases latest' with
    | none => exact ⟨pair, mem_cons_self, rfl⟩
    | some current =>
      obtain ⟨other, hmem, hsame⟩ := ih hrest
      rcases max_choice pair.2.updatedAt current with hmax | hmax
      · exact ⟨pair, mem_cons_self, hmax⟩
      · exact ⟨other, mem_cons_of_mem _ hmem, hmax.trans hsame⟩

structure AttemptSettled (run start next : AutomationRun) (n : AutomationPlanNodeId)
    (node : CommandNode) (commands : List CommandResult) (created : List AutomationTimer) : Prop where
  state : next.state = .running ∨ next.state = .waiting ∨ next.state = .failed
  waiting : next.state = .waiting → next.nodeId = start.nodeId
  durations : next.conditionDurations = start.conditionDurations
  created : created = [] ∨ ∃ readyAt, created = [newTimer run n .commandRetry readyAt] ∧
    ∃ command ∈ commands, addMillis command.updatedAt node.retry.backoffMs = some readyAt

/-- The cases of a finished attempt: success, a retry with its timer, or the failure policy. -/
theorem commandResultRun_settled {start : AutomationRun} {node : CommandNode} {attempt : ℕ}
    {targetIndices : List ℕ} {commands : List CommandResult} {outcome : AutomationRuntimeStep}
    (h : commandResultRun run n node attempt targetIndices commands start =
      .ok (next, outcome, created)) : AttemptSettled run start next n node commands created := by
  unfold commandResultRun at h
  split at h
  · cases h
    refine ⟨.inl rfl, ?_, rfl, .inl rfl⟩
    intro hw
    cases hw
  split at h
  · cases h
    exact ⟨.inr (.inl rfl), fun _ => rfl, rfl, .inl rfl⟩
  split at h
  · cases h
  · rename_i retry hretry
    cases h
    refine ⟨.inr (.inl rfl), fun _ => rfl, rfl, .inr ⟨retry.readyAt, rfl, ?_⟩⟩
    unfold retryPlan at hretry
    split at hretry
    · cases hretry
    split at hretry
    · rename_i hlatest
      split at hretry
      · rename_i hready
        cases hretry
        obtain ⟨pair, hmem, heq⟩ := retryTargets_latest hlatest
        rw [heq] at hready
        exact ⟨pair.2, (of_mem_zip hmem).2, hready⟩
      · cases hretry
    · cases hretry
  · cases h
    refine ⟨?_, ?_, applyFailure_durations _ _ _, .inl rfl⟩
    · rcases applyFailure_state { start with commandAttempt := none } node.onFailure node.next
        with hstate | hstate
      · exact .inl hstate
      · exact .inr (.inr hstate)
    · intro hw
      rcases applyFailure_state { start with commandAttempt := none } node.onFailure node.next
        with hstate | hstate
      · rw [hstate] at hw
        cases hw
      · rw [hstate] at hw
        cases hw

theorem checkpointCommands_durations (run : AutomationRun) (now : Instant)
    (commands : List CommandResult) (appendCommandIds : Bool) :
    (checkpointCommands run now commands appendCommandIds).conditionDurations =
      run.conditionDurations ∧
    (checkpointCommands run now commands appendCommandIds).nodeId = run.nodeId := by
  unfold checkpointCommands
  split <;> exact ⟨rfl, rfl⟩

/-- A step of a run the store keeps, with nothing in its way, is one that storage accepts. -/
theorem StepEffect.legal (hashes : host.HashesApart) (hk : Kept plan store run) (hf : TimersFit store)
    (hr : ReadsRun plan store run inputs) (hu : Unhindered host plan run inputs store)
    (h : StepEffect host plan run inputs next created moved) :
    Legal store run next.state created moved := by
  -- where a step leads from the two states it starts in
  have hgo : run.state = .running ∨ run.state = .waiting → ∀ state : AutomationRunState,
      state = .running ∨ state = .waiting ∨ state = .failed →
        run.state.allowsRevisionTo state = true := by
    rintro (hs | hs) state (rfl | rfl | rfl) <;> rw [hs] <;> rfl
  cases h with
  | started hs => exact .quiet (by rw [hs]; rfl)
  | completed hs hn hkind =>
    exact .quiet (by rw [hk.running hs hn hkind rfl]; rfl)
  | delayed hs hn hkind hready =>
    exact .starts (by rw [hs]; rfl) (hu.fresh _ _ _ hn (.delay hs hkind hready))
  | resumed hs hn hkind ht hfound hready =>
    obtain ⟨hrunId, _, _, row, hrow, hreadied⟩ := hr.nodeTimer ht hfound
    exact .consumes (by rw [hs]; rfl) hrunId hrow hreadied hready
  | assigned hs hn hkind hsnapshot hv =>
    have hrunning := hk.running hs hn hkind rfl
    exact .quiet (hgo hs _ (.inl hrunning))
  | held hs hn hkind hc hw => exact held_legal hashes hk hf hr hu hs hn hkind hc hw
  | branched hs hn hkind hp =>
    have hlegal := Legal.leaves hk hf hr (hgo hs .running (.inl rfl)) hp (.inl rfl)
    rw [append_nil] at hlegal
    exact hlegal
  | joined hs hn hkind =>
    refine .quiet (hgo hs _ ?_)
    rcases joinRun_state (checkpoint run inputs.clock.checkpoint) _ _ with hstate | hstate
    · exact .inl (hstate.trans (hk.running hs hn hkind rfl))
    · exact .inr (.inr hstate)
  | entered hs hn hkind =>
    have hrunning := hk.running hs hn hkind rfl
    exact .quiet (hgo hs _ (.inl hrunning))
  | waited hs hn hkind hready =>
    exact .starts (by rw [hs]; rfl) (hu.fresh _ _ _ hn (.wait hs hkind hready))
  | met hs hn hkind hp ht hfound hv =>
    obtain ⟨hrunId, hwait, hrecoverable, row, hrow, hreadied⟩ := hr.nodeTimer ht hfound
    exact Legal.leaves hk hf hr (hgo (.inr hs) _ (.inl rfl)) hp
      (.inr ⟨_, row, rfl, hrunId, hwait, hrow, hreadied.cancelled hrecoverable⟩)
  | reset hs hn hkind hp =>
    obtain ⟨timers, invalid, hloads, _, hreset, _⟩ := evaluateRuntimeCondition_resolved hp
    have hserves := durationTimers_serves hk hf hr hloads
    obtain ⟨hdistinct, heach⟩ := hserves.dropped invalid
    rw [hreset]
    exact ⟨hgo (.inr hs) _ (.inr (.inl hs)), .inl rfl, hdistinct, hserves.legal_moves heach⟩
  | timedOut hs hn hkind hp ht hfound hready =>
    obtain ⟨hrunId, hwait, _, row, hrow, hreadied⟩ := hr.nodeTimer ht hfound
    refine Legal.leaves hk hf hr (hgo (.inr hs) _ ?_) hp
      (.inr ⟨_, row, rfl, hrunId, hwait, hrow, hreadied.consumed hready⟩)
    rcases applyFailure_state (leaveNode run _ inputs) _ _ with hstate | hstate
    · exact .inl hstate
    · exact .inr (.inr hstate)
  | settled hs hn hkind ha hresult =>
    have hsettled := commandResultRun_settled hresult
    have hstate := hgo hs _ hsettled.state
    rcases hsettled.created with hnone | ⟨readyAt, hcreated, command, hmem, hready⟩
    · rw [hnone]
      exact .quiet hstate
    · rw [hcreated]
      exact .starts hstate (hu.fresh _ _ _ hn (.retry hkind (ha.answered command hmem) hready))
  | retried hs hn hkind _ ha hphase hready ht hstate =>
    obtain ⟨row, hrow, hreadied⟩ := hr.timer _ _ ht rfl
    obtain ⟨hrowMem, hkey⟩ := find_eq_some.mp hrow
    have hnamed := hf.named row hrowMem
    rw [AutomationTimer.IsNamed, hkey, AutomationTimerId.mk.injEq] at hnamed
    have hrunId := hreadied.runId.symm.trans hnamed.1.symm
    rw [← hkey, hreadied.id] at hrow
    exact .consumes (hgo hs _ (.inl rfl)) hrunId hrow hreadied hstate

structure TimersAfter (store store' : AutomationStore) (created moved : List AutomationTimer) :
    Prop where
  other : ∀ id, id ∉ created.map AutomationTimer.id → id ∉ moved.map AutomationTimer.id →
    store'.timers.find id = store.timers.find id
  created : ∀ timer, created = [timer] → timer.id ∉ moved.map AutomationTimer.id →
    store'.timers.find timer.id = some timer
  stored : ∀ id row, store.timers.find id = some row → store'.timers.find id ≠ none

theorem Kept.of_none (hd : next.conditionDurations = [])
    (hw : next.state = .waiting → ∃ n kind, next.nodeId = some n ∧ plan.find n = some kind ∧
      kind.waits = true) : Kept plan store next := by
  refine ⟨hw, ?_, ?_, ?_⟩
  · rw [hd]
    exact fun _ hmem => absurd hmem not_mem_nil
  · rw [hd]
    exact fun _ hmem => absurd hmem not_mem_nil
  · rw [hd]
    exact nodup_nil

theorem Kept.of_subset (hk : Kept plan store run) (hid : next.id = run.id)
    (hn : next.nodeId = run.nodeId) (hd : next.conditionDurations.Sublist run.conditionDurations)
    (hw : next.state = .waiting → ∃ n kind, next.nodeId = some n ∧ plan.find n = some kind ∧
      kind.waits = true)
    (htimers : ∀ duration ∈ next.conditionDurations,
      store'.timers.find duration.timerId = store.timers.find duration.timerId) :
    Kept plan store' next := by
  refine ⟨hw, ?_, ?_, hk.apart.sublist (hd.map _)⟩
  · intro duration hmem
    rw [hn]
    exact hk.node duration (hd.subset hmem)
  · intro duration hmem
    rw [hid, htimers duration hmem]
    exact hk.timer duration (hd.subset hmem)

theorem Kept.not_created (hk : Kept plan store run) (hl : Legal store run state created moved)
    (hd : duration ∈ run.conditionDurations) :
    duration.timerId ∉ created.map AutomationTimer.id := by
  obtain ⟨_, _, row, hrow, _⟩ := hk.timer duration hd
  rcases hl.created with rfl | ⟨timer, rfl, _, _, hnew⟩
  · exact not_mem_nil
  · rw [map_singleton, mem_singleton]
    intro heq
    rw [heq, hnew] at hrow
    cases hrow

section Held
variable {condition : ResolvedAutomationCondition} {write : AutomationStepWrite}

/-- A step that is held by an open interval keeps the intervals of the run and their timers. -/
theorem held_keeps (hashes : host.HashesApart) (hk : Kept plan store run) (hf : TimersFit store)
    (hr : ReadsRun plan store run inputs) (hn : run.nodeId = some n) (hkind : plan.find n = some kind)
    (hc : kind.condition? = some condition)
    (hw : evaluateRuntimeCondition host run n condition inputs = .ok (.waiting (some write)))
    (hl : Legal store run write.run.state write.createTimers write.transitionTimers)
    (ha : TimersAfter store store' write.createTimers write.transitionTimers) :
    Kept plan store' write.run := by
  obtain ⟨snapshot, timers, request, hheld⟩ := evaluateRuntimeCondition_held hw
  have hserves := durationTimers_serves hk hf hr hheld.loads
  have hwaits : kind.waits = true := by
    cases kind <;> first | rfl | cases hc
  have hat : ∀ run' : AutomationRun, run'.nodeId = run.nodeId → run'.state = .waiting →
      ∃ n kind, run'.nodeId = some n ∧ plan.find n = some kind ∧ kind.waits = true :=
    fun run' hnode _ => ⟨n, kind, hnode.trans hn, hkind, hwaits⟩
  obtain ⟨details, durations, created, moved, hwrite, hcommit⟩ := hheld.committed
  generalize hinvalid : (evaluated host run n condition inputs snapshot timers).2.invalid = invalid
    at hcommit
  have hsub : (keptDurations run invalid).Sublist run.conditionDurations := filter_sublist
  rw [hwrite] at hl ha ⊢
  -- the timers of kept intervals are not among the cancelled
  have hstay : ∀ duration ∈ keptDurations run invalid,
      duration.timerId ∉ (cancelledTimers run timers invalid).map AutomationTimer.id := by
    intro duration hmem
    obtain ⟨hduration, hvalid⟩ := mem_keptDurations.mp hmem
    exact hk.not_cancelled timers hduration hvalid
  cases hcommit with
  | start duration timer =>
    cases hheld.requested with
    | @start nested durationMs hash readyAt hl' hh hv hnew hready =>
      have hfresh : store.timers.find ⟨run.id, n, .stateDuration, timestampMillis readyAt⟩ = none := by
        rcases hl.created with hnil | ⟨timer, hone, _, _, hfresh⟩
        · cases hnil
        · cases hone
          exact hfresh
      -- cancelled timers are stored, so the new one is not among them
      have hapart : (⟨run.id, n, .stateDuration, timestampMillis readyAt⟩ : AutomationTimerId) ∉
          (cancelledTimers run timers invalid).map AutomationTimer.id := by
        intro hmem
        obtain ⟨reset, hreset, heq⟩ := List.mem_map.mp hmem
        obtain ⟨_, row, hrow, _⟩ := hl.moved reset hreset
        rw [heq, hfresh] at hrow
        cases hrow
      have hold : ∀ duration ∈ keptDurations run invalid,
          store'.timers.find duration.timerId = store.timers.find duration.timerId := by
        intro duration hmem
        exact ha.other _ (hk.not_created hl (hsub.subset hmem)) (hstay duration hmem)
      have hmem : ∀ duration ∈ keptDurations run invalid ++ [(⟨n, hash, durationMs, readyAt,
          ⟨run.id, n, .stateDuration, timestampMillis readyAt⟩, .pending⟩ :
            AutomationConditionDuration)], duration ∈ keptDurations run invalid ∨ duration =
          ⟨n, hash, durationMs, readyAt, ⟨run.id, n, .stateDuration, timestampMillis readyAt⟩,
            .pending⟩ := by
        intro duration hmem
        simpa using hmem
      refine ⟨hat _ rfl, ?_, ?_, ?_⟩
      · intro duration hduration
        rcases hmem duration hduration with hkept | rfl
        · exact hk.node duration (hsub.subset hkept)
        · exact ⟨hn, kind, hkind, by rw [hc]; exact some_ne_none _⟩
      · intro duration hduration
        rcases hmem duration hduration with hkept | rfl
        · rw [hold duration hkept]
          exact hk.timer duration (hsub.subset hkept)
        · exact ⟨rfl, rfl, _, ha.created _ rfl hapart, fun _ => rfl⟩
      · show ((_ ++ [_] : List AutomationConditionDuration).map _).Nodup
        rw [map_append, nodup_append]
        refine ⟨hk.apart.sublist (hsub.map _), nodup_singleton _, ?_⟩
        intro id hid other hother heq
        rw [map_singleton, mem_singleton] at hother
        obtain ⟨duration, hduration, rfl⟩ := List.mem_map.mp hid
        obtain ⟨_, _, row, hrow, _⟩ := hk.timer duration (hsub.subset hduration)
        rw [heq, hother, hfresh] at hrow
        cases hrow
  | pending =>
    refine hk.of_subset rfl rfl hsub (hat _ rfl) ?_
    intro duration hmem
    exact ha.other _ not_mem_nil (hstay duration hmem)
  | @mature hash timer _ hmatured =>
    obtain ⟨hvalid, _, _, found, hfound, hfoundId⟩ := hheld.matures hashes
    rw [hinvalid] at hvalid
    obtain ⟨first, hfirst, hfirstMem, heach, hids⟩ := matureDuration_spec hmatured
    rw [find_keptDurations hvalid, hfound, Option.some.injEq] at hfirst
    subst hfirst
    have hapart : (durations.map AutomationConditionDuration.timerId).Nodup := by
      rw [hids]
      exact hk.apart.sublist (hsub.map _)
    have hin : ∀ duration ∈ durations, ∃ source ∈ run.conditionDurations,
        duration.nodeId = source.nodeId ∧ duration.timerId = source.timerId := by
      intro duration hmem
      rcases heach duration hmem with rfl | hmem
      · exact ⟨found, List.mem_of_find?_eq_some hfound, rfl, rfl⟩
      · exact ⟨duration, hsub.subset hmem, rfl, rfl⟩
    refine ⟨hat _ rfl, ?_, ?_, hapart⟩
    · intro duration hmem
      obtain ⟨source, hsource, hnode, _⟩ := hin duration hmem
      rw [hnode]
      exact hk.node source hsource
    · intro duration hmem
      obtain ⟨source, hsource, _, hid⟩ := hin duration hmem
      obtain ⟨hrunId, hscope, _⟩ := hk.timer source hsource
      refine ⟨hid ▸ hrunId, hid ▸ hscope, ?_⟩
      obtain ⟨_, _, row, hrow, _⟩ := hk.timer source hsource
      rw [← hid] at hrow
      by_cases hphase : duration.phase = .pending
      · -- another pending interval has another timer than the one consumed
        have hkept : duration ∈ keptDurations run invalid := by
          rcases heach duration hmem with rfl | hkept
          · cases hphase
          · exact hkept
        have hother : duration.timerId ≠ timer.id := by
          intro heq
          have hsame : duration = { found with phase := .mature } :=
            inj_on_of_nodup_map hapart hmem hfirstMem (heq.trans hfoundId.symm)
          rw [hsame] at hphase
          cases hphase
        have hunmoved : duration.timerId ∉ ((cancelledTimers run timers invalid ++
            [{ timer with state := .consumed }]).map AutomationTimer.id) := by
          rw [map_append, mem_append, map_singleton, mem_singleton, not_or]
          exact ⟨hstay duration hkept, hother⟩
        rw [ha.other _ not_mem_nil hunmoved]
        obtain ⟨_, _, hstored⟩ := hk.timer duration (hsub.subset hkept)
        exact hstored
      · obtain ⟨row', hrow'⟩ := ne_none_iff_exists'.mp (ha.stored _ _ hrow)
        exact ⟨row', hrow', fun hpending => absurd hpending hphase⟩

end Held

/-- The run a committed step leaves is kept by the store it leaves. -/
theorem StepEffect.keeps (hashes : host.HashesApart) (hk : Kept plan store run) (hf : TimersFit store)
    (hr : ReadsRun plan store run inputs) (h : StepEffect host plan run inputs next created moved)
    (hl : Legal store run next.state created moved) (ha : TimersAfter store store' created moved) :
    Kept plan store' next := by
  -- a state other than waiting asks for nothing
  have hmoves : ∀ run' : AutomationRun, run'.state ≠ .waiting → run'.state = .waiting →
      ∃ n kind, run'.nodeId = some n ∧ plan.find n = some kind ∧ kind.waits = true :=
    fun run' hne heq => absurd heq hne
  have hsame : moved = [] → ∀ duration ∈ run.conditionDurations,
      store'.timers.find duration.timerId = store.timers.find duration.timerId := by
    rintro rfl duration hmem
    exact ha.other _ (hk.not_created hl hmem) not_mem_nil
  cases h with
  | started hs =>
    exact hk.of_subset rfl rfl (List.Sublist.refl _) (hmoves _ (by simp)) (hsame rfl)
  | completed hs hn hkind => exact .of_none (hk.no_intervals hn hkind rfl) (hmoves _ (by simp))
  | delayed hs hn hkind hready =>
    exact .of_none (hk.no_intervals hn hkind rfl) (fun _ => ⟨_, _, hn, hkind, rfl⟩)
  | resumed hs hn hkind ht hfound hready =>
    exact .of_none (hk.no_intervals hn hkind rfl) (hmoves _ (by simp))
  | assigned hs hn hkind hsnapshot hv =>
    refine .of_none (hk.no_intervals hn hkind rfl) (hmoves _ ?_)
    show run.state ≠ .waiting
    rw [hk.running hs hn hkind rfl]
    decide
  | held hs hn hkind hc hw => exact held_keeps hashes hk hf hr hn hkind hc hw hl ha
  | branched hs hn hkind hp => exact .of_none (hk.leaves hn inputs) (hmoves _ (by simp))
  | joined hs hn hkind =>
    refine .of_none ?_ (hmoves _ ?_)
    · rw [joinRun_durations]
      exact hk.no_intervals hn hkind rfl
    · have hrunning := hk.running hs hn hkind rfl
      rcases joinRun_state (checkpoint run inputs.clock.checkpoint) _ _ with hstate | hstate
      · rw [hstate]
        show run.state ≠ .waiting
        rw [hrunning]
        decide
      · rw [hstate]
        decide
  | entered hs hn hkind =>
    refine .of_none (hk.no_intervals hn hkind rfl) (hmoves _ ?_)
    show run.state ≠ .waiting
    rw [hk.running hs hn hkind rfl]
    decide
  | waited hs hn hkind hready =>
    exact hk.of_subset rfl rfl (List.Sublist.refl _) (fun _ => ⟨_, _, hn, hkind, rfl⟩) (hsame rfl)
  | met hs hn hkind hp ht hfound hv => exact .of_none (hk.leaves hn inputs) (hmoves _ (by simp))
  | reset hs hn hkind hp =>
    obtain ⟨timers, invalid, _, hdurations, hreset, _⟩ := evaluateRuntimeCondition_resolved hp
    refine hk.of_subset rfl rfl ?_ (fun _ => ⟨_, _, hn, hkind, rfl⟩) ?_
    · rw [hdurations]
      exact filter_sublist
    · intro duration hmem
      rw [hdurations] at hmem
      obtain ⟨hduration, hvalid⟩ := mem_keptDurations.mp hmem
      refine ha.other _ not_mem_nil ?_
      rw [hreset]
      exact hk.not_cancelled timers hduration hvalid
  | timedOut hs hn hkind hp ht hfound hready =>
    refine .of_none ?_ (hmoves _ ?_)
    · rw [applyFailure_durations]
      exact hk.leaves hn inputs
    · rcases applyFailure_state (leaveNode run _ inputs) _ _ with hstate | hstate <;> rw [hstate] <;>
        decide
  | @settled _ node attempt targetIndices commands appendCommandIds _ _ _ hs hn hkind hanswers hresult =>
    have hsettled := commandResultRun_settled hresult
    obtain ⟨hdurations, hnode⟩ := checkpointCommands_durations run inputs.clock.checkpoint commands
      appendCommandIds
    refine .of_none ?_ ?_
    · rw [hsettled.durations, hdurations]
      exact hk.no_intervals hn hkind rfl
    · intro hw
      exact ⟨_, _, (hsettled.waiting hw).trans (hnode.trans hn), hkind, rfl⟩
  | retried hs hn hkind _ hattempt hphase hready ht hstate =>
    exact .of_none (hk.no_intervals hn hkind rfl) (hmoves _ (by simp))

/-- A legal write of a step is committed, unless its trace no longer fits on a page. -/
theorem Legal.commits (ht : Traced store) (hr : ReadsRun plan store run inputs)
    (hpage : (store.traceOf run.id).length ≤ maxQueryPage) {outcome : AutomationRuntimeStep}
    {write : AutomationStepWrite} (hstep : stepRun host plan run inputs = .ok (outcome, some write))
    (hl : Legal store run write.run.state write.createTimers write.transitionTimers) :
    ∃ store', store.commitStep write = .ok store' := by
  have heffect := stepRun_effect hstep
  have hone := stepRun_oneEntry hstep
  obtain ⟨hrevised, _⟩ := heffect.effect.kept
  -- the page holds the whole trace, since the budget is not exhausted
  have hlength : inputs.traceLength = (store.traceOf run.id).length := by
    have hbudget : budgetExhausted plan run inputs = false := by
      unfold stepRun at hstep
      split at hstep
      · cases hstep
      split at hstep
      · cases hstep
      · rename_i hbudget
        simpa using hbudget
    unfold budgetExhausted at hbudget
    rw [Bool.or_eq_false_iff, decide_eq_false_iff_not, not_le] at hbudget
    have hread := hr.trace
    rw [loadTrace_length] at hread
    have hless := hbudget.1
    simp only [maxQueryPage] at hread hpage
    omega
  rw [hlength] at hone
  have hrev : AutomationStore.RunRevised run write.run write.expectedRunRevision := by
    refine ⟨heffect.revision.symm, ?_, hl.state, hrevised.automationId, hrevised.version,
      hrevised.occurrenceId, hrevised.actorId, hrevised.createdAt⟩
    rw [heffect.revision]
    exact hrevised.revision
  have hfind : store.runs.find write.run.id = some run := by
    rw [hrevised.id]
    exact hr.row
  have hown : ∀ timer ∈ write.createTimers ++ write.transitionTimers,
      timer.runId = write.run.id := by
    intro timer hmem
    rw [hrevised.id]
    rcases mem_append.mp hmem with hmem | hmem
    · rcases hl.created with hnil | ⟨other, hother, hrunId, _⟩
      · rw [hnil] at hmem
        exact absurd hmem not_mem_nil
      · rw [hother] at hmem
        rw [mem_singleton.mp hmem]
        exact hrunId
    · exact (hl.moved timer hmem).1
  -- a created timer does not hide the rows of those that are moved
  have hcreate : ∃ created, write.createTimers.foldlM AutomationStore.createTimer
      { store with runs := store.runs.replace write.run } = .ok created ∧
      ∀ timer ∈ write.transitionTimers, created.timers.find timer.id = store.timers.find timer.id := by
    rcases hl.created with hnil | ⟨timer, hcreated, hrunId, _, hnew⟩
    · rw [hnil]
      exact ⟨_, rfl, fun _ _ => rfl⟩
    · have hstored : (store.runs.replace write.run).find timer.runId ≠ none := by
        rw [hrunId, ← hrevised.id, find_replace hfind, if_pos rfl]
        exact some_ne_none _
      have hfirst := @AutomationStore.createTimer_fresh
        { store with runs := store.runs.replace write.run } timer hnew hstored
      refine ⟨{ store with
        runs := store.runs.replace write.run, timers := store.timers.insert timer hnew }, ?_, ?_⟩
      · rw [hcreated, foldlM_cons, hfirst]
        rfl
      · intro other hmem
        refine (find_insert (h := hnew)).trans (if_neg ?_)
        intro heq
        obtain ⟨_, row, hrow, _⟩ := hl.moved other hmem
        rw [← heq, hnew] at hrow
        cases hrow
  obtain ⟨created, hcreated, hrows⟩ := hcreate
  have hmove : ∀ timer ∈ write.transitionTimers, ∃ row,
      created.timers.find timer.id = some row ∧ TimerMoved row timer := by
    intro timer hmem
    rw [hrows timer hmem]
    exact (hl.moved timer hmem).2
  obtain ⟨moved, hmoved⟩ := moveTimers_succeeds write.transitionTimers hl.distinct hmove
  obtain ⟨store', hcommit, _⟩ :=
    ht.commitStep_completes hr.row hone hrev hown hcreated hmoved
  exact ⟨store', hcommit⟩

end

section
variable (host : StoreHost) (evaluator : EvaluatorHost) (plan : AutomationExecutionPlan)
  (runId : AutomationRunId) (allowed : AutomationRun → StepInputs → AutomationStore → Prop)

inductive RunHistory : AutomationStore → Prop
  | start {store : AutomationStore} (ht : Traced store) (hf : TimersFit store)
      (habsent : store.runs.find runId = none) : RunHistory store
  | called {store store' : AutomationStore} {c : AutomationCall} {r : c.Response}
      (h : RunHistory store) (hc : Courteous runId c) (hh : automationHandler host c store r store') :
      RunHistory store'
  | governed {store store' : AutomationStore} (h : RunHistory store)
      (hruns : store'.runs = store.runs) (htrace : store'.trace = store.trace)
      (htimers : store'.timers = store.timers) : RunHistory store'
  | stepped {store store' : AutomationStore} {run : AutomationRun} {inputs : StepInputs}
      {outcome : AutomationRuntimeStep} {write : AutomationStepWrite} (h : RunHistory store)
      (hid : run.id = runId) (hr : ReadsRun plan store run inputs) (ha : allowed run inputs store)
      (hs : stepRun evaluator plan run inputs = .ok (outcome, some write))
      (hc : store.commitStep write = .ok store') : RunHistory store'

structure KeepsRun (store : AutomationStore) : Prop where
  traced : Traced store
  fit : TimersFit store
  kept : ∀ run, store.runs.find runId = some run → run.state.isTerminal = false →
    Kept plan store run

end

section
variable {host : StoreHost} {evaluator : EvaluatorHost} {plan : AutomationExecutionPlan}
  {runId : AutomationRunId} {store store' : AutomationStore} {run : AutomationRun}
  {inputs : StepInputs} {outcome : AutomationRuntimeStep} {write : AutomationStepWrite}

theorem Kept.since (hk : Kept plan store run) (h : Since run.id store store') :
    Kept plan store' run := by
  refine ⟨hk.waits, hk.node, ?_, hk.apart⟩
  intro duration hmem
  obtain ⟨hrunId, hscope, row, hrow, hrecoverable⟩ := hk.timer duration hmem
  obtain ⟨row', hrow', hreadied⟩ := h.timer _ row hrunId hrow
  refine ⟨hrunId, hscope, row', hrow', ?_⟩
  intro hphase
  rw [hreadied.isRecoverable]
  exact hrecoverable hphase

theorem KeepsRun.called {c : AutomationCall} {r : c.Response} (h : KeepsRun plan runId store)
    (hc : Courteous runId c) (hh : automationHandler host c store r store') :
    KeepsRun plan runId store' := by
  have hattended := attended_call hc h.traced h.fit hh
  refine ⟨hattended.traced, hattended.fit, ?_⟩
  intro run hrun hlive
  rcases hattended.live run hrun hlive with hsince | ⟨_, hnew⟩
  · have hid : run.id = runId := (find_eq_some.mp hrun).2
    rw [hsince.run] at hrun
    exact (h.kept run hrun hlive).since (by rw [hid]; exact hsince)
  · refine .of_none hnew.durations ?_
    intro hwaiting
    rw [hnew.state] at hwaiting
    cases hwaiting

theorem KeepsRun.governed (h : KeepsRun plan runId store) (hruns : store'.runs = store.runs)
    (htrace : store'.trace = store.trace) (htimers : store'.timers = store.timers) :
    KeepsRun plan runId store' := by
  refine ⟨h.traced.same hruns htrace, h.fit.same htimers (fun id hid => by rwa [hruns]), ?_⟩
  intro run hrun hlive
  rw [hruns] at hrun
  exact (h.kept run hrun hlive).since (.of_same hruns htrace htimers)

theorem stepRun_live (h : stepRun evaluator plan run inputs = .ok (outcome, some write)) :
    run.state.isTerminal = false := by
  unfold stepRun at h
  split at h
  · cases h
  · rename_i hlive
    simpa using hlive

theorem KeepsRun.legal (hashes : evaluator.HashesApart) (h : KeepsRun plan runId store)
    (hid : run.id = runId) (hr : ReadsRun plan store run inputs)
    (hu : Unhindered evaluator plan run inputs store)
    (hs : stepRun evaluator plan run inputs = .ok (outcome, some write)) :
    Legal store run write.run.state write.createTimers write.transitionTimers := by
  have hkept := h.kept run (hid ▸ hr.row) (stepRun_live hs)
  exact (stepRun_effect hs).effect.legal hashes hkept h.fit hr hu

theorem KeepsRun.stepped (hashes : evaluator.HashesApart) (h : KeepsRun plan runId store)
    (hid : run.id = runId) (hr : ReadsRun plan store run inputs)
    (hu : Unhindered evaluator plan run inputs store)
    (hs : stepRun evaluator plan run inputs = .ok (outcome, some write))
    (hc : store.commitStep write = .ok store') : KeepsRun plan runId store' := by
  have hkept := h.kept run (hid ▸ hr.row) (stepRun_live hs)
  have hlegal := h.legal hashes hid hr hu hs
  have heffect := (stepRun_effect hs).effect
  have hnamed : ∀ timer ∈ write.createTimers, timer.IsNamed := by
    intro timer hmem
    rcases hlegal.created with hnil | ⟨other, hone, _, hnamed, _⟩
    · rw [hnil] at hmem
      exact absurd hmem not_mem_nil
    · rw [hone] at hmem
      rw [mem_singleton.mp hmem]
      exact hnamed
  refine ⟨h.traced.commitStep (stepRun_oneEntry hs).tracesOnce hc, h.fit.commitStep hnamed hc, ?_⟩
  intro next hnext _
  -- the row of the run is the one written
  obtain ⟨_, current, revised, hcurrent, _, hruns, _, _, _, _, hfold⟩ :=
    commitStep_spec hc
  have hwriteId : write.run.id = runId := heffect.kept.1.id.trans hid
  have hfind : store'.runs.find runId = some write.run := by
    rw [(appendTrace_sameWork _ hfold).runs, hruns, find_replace hcurrent,
      if_pos hwriteId]
  rw [hfind, Option.some.injEq] at hnext
  rw [← hnext]
  refine heffect.keeps hashes hkept h.fit hr hlegal ⟨?_, ?_, ?_⟩
  · intro id hcreated hmoved
    exact commitStep_frame hc hcreated hmoved
  · intro timer hcreated hmoved
    exact commitStep_created hc hcreated hmoved
  · intro id row hrow
    refine commitStep_stored hc ?_
    rw [hrow]
    exact some_ne_none _

theorem RunHistory.keepsRun (hashes : evaluator.HashesApart)
    (h : RunHistory host evaluator plan runId (Unhindered evaluator plan) store) :
    KeepsRun plan runId store := by
  induction h with
  | start ht hf habsent =>
    refine ⟨ht, hf, ?_⟩
    intro run hrun
    rw [habsent] at hrun
    cases hrun
  | called _ hc hh ih => exact ih.called hc hh
  | governed _ hruns htrace htimers ih => exact ih.governed hruns htrace htimers
  | stepped _ hid hr hu hs hc ih => exact ih.stepped hashes hid hr hu hs hc

end

/-- In every history in which no step was hindered, a step that is not hindered writes what
the state machines of storage allow, and its commit succeeds against a store that still
holds the run it read. A commit that fails changes nothing. -/
theorem step_commits (host : StoreHost) (evaluator : EvaluatorHost) (hashes : evaluator.HashesApart)
    (plan : AutomationExecutionPlan) (runId : AutomationRunId) {store : AutomationStore}
    (h : RunHistory host evaluator plan runId (Unhindered evaluator plan) store) :
    (∀ (run : AutomationRun) (inputs : StepInputs) (outcome : AutomationRuntimeStep)
      (write : AutomationStepWrite), run.id = runId → ReadsRun plan store run inputs →
      Unhindered evaluator plan run inputs store →
      stepRun evaluator plan run inputs = .ok (outcome, some write) →
      Legal store run write.run.state write.createTimers write.transitionTimers ∧
      ∃ store', store.commitStep write = .ok store') ∧
    ∀ (write : AutomationStepWrite) (error : StorageError) (store' : AutomationStore),
      automationHandler host (.commitStep write) store (.error error) store' → store' = store := by
  have hkeeps := h.keepsRun hashes
  refine ⟨?_, ?_⟩
  · intro run inputs outcome write hid hr hu hs
    have hlegal := hkeeps.legal hashes hid hr hu hs
    exact ⟨hlegal, hlegal.commits hkeeps.traced hr hu.page hs⟩
  · intro write error store' hh
    rcases hh with ⟨hok, _⟩ | ⟨_, hsame⟩
    · cases hok
    · exact hsame

def levelExpression : AutomationExpression := .observation ⟨.device 7, none, "level.v1"⟩ "percent"

def levelEnv : CompilerEnv :=
  ⟨lampHost, lampDocument [.if (.any [
    .stateDuration (.compare levelExpression .greaterThan (.literal (.decimal "50"))) 5000,
    .stateDuration (.compare levelExpression .lessThan (.literal (.decimal "20"))) 3000])
    [switchLamp false] []], ⟨[dimmerRecord], [], none⟩⟩

def levelBound (operator : AutomationComparison) (bound : String) : ResolvedAutomationCondition :=
  .compare (.observation [⟨7, "switch:0", "level.v1"⟩] "percent") operator (.literal (.decimal bound))

def levelEvaluator : EvaluatorHost :=
  { dimmerEvaluator with conditionHash := fun condition _ =>
      if condition = levelBound .greaterThan "50" then some "high"
      else if condition = levelBound .lessThan "20" then some "low"
      else none }

theorem levelEvaluator_hashesApart : levelEvaluator.HashesApart := by
  have hhash : ∀ condition durationMs hash, levelEvaluator.conditionHash condition durationMs = some hash →
      (condition = levelBound .greaterThan "50" ∧ hash = "high") ∨
      (condition = levelBound .lessThan "20" ∧ hash = "low") := by
    intro condition durationMs hash h
    simp only [levelEvaluator] at h
    split at h
    · rename_i hhigh
      exact .inl ⟨hhigh, (Option.some.inj h).symm⟩
    split at h
    · rename_i hlow
      exact .inr ⟨hlow, (Option.some.inj h).symm⟩
    · cases h
  intro condition durationMs condition' durationMs' hash h h'
  rcases hhash _ _ _ h with ⟨rfl, rfl⟩ | ⟨rfl, rfl⟩ <;>
    rcases hhash _ _ _ h' with ⟨rfl, heq⟩ | ⟨rfl, heq⟩
  · rfl
  · exact absurd heq (by decide)
  · exact absurd heq (by decide)
  · rfl

def levelRunId : AutomationRunId := ⟨dimmerOccurrence.id⟩

theorem levelIdentities_nodup : ([longIdentity].map AutomationIdentityState.id).Nodup := List.nodup_singleton _

def levelStart (plan : AutomationExecutionPlan) : AutomationStore :=
  { AutomationStore.empty with
    identities := ⟨[longIdentity], levelIdentities_nodup⟩
    versions := ⟨[readyVersion levelEnv.document plan], List.nodup_singleton _⟩
    occurrences := ⟨[dimmerOccurrence], List.nodup_singleton _⟩ }

def levelInputs (plan : AutomationExecutionPlan) (store : AutomationStore) (millis : ℤ)
    (percent : String) : StepInputs where
  clock := ⟨millis * nanosPerMilli, millis * nanosPerMilli, millis * nanosPerMilli,
    millis * nanosPerMilli⟩
  traceLength := (store.loadTrace levelRunId none (plan.budget.maximumTraceSteps + 1)).length
  snapshot := some (dimmerSnapshot (.number percent))
  timer := fun id => some (store.timers.find id)
  recoverableTimers := some (store.recover minuteStoreHost recoveryPage).timers
  commands := none

variable {plan : AutomationExecutionPlan} {store : AutomationStore}

theorem levelInputs_reads
    {run : AutomationRun} (hid : run.id = levelRunId) (hrow : store.runs.find levelRunId = some run)
    (millis : ℤ) (percent : String) : ReadsRun plan store run (levelInputs plan store millis percent) := by
  refine ⟨by rw [hid]; exact hrow, ?_, ?_, by rw [hid]; rfl⟩
  · intro id timer hread _
    exact ⟨timer, Option.some.inj hread, .inl rfl⟩
  · intro timers hread timer hmem _
    cases hread
    obtain ⟨hrowMem, hrecoverable⟩ := mem_of_mem_page hmem
    exact ⟨hrecoverable, timer, find_eq_some.mpr ⟨hrowMem, rfl⟩, .inl rfl⟩

def levelWrite (plan : AutomationExecutionPlan) (store : AutomationStore) (millis : ℤ)
    (percent : String) : Option AutomationStepWrite :=
  (store.runs.find levelRunId).bind (fun run =>
    match stepRun levelEvaluator plan run (levelInputs plan store millis percent) with
    | .ok (_, some write) => some write
    | _ => none)

def levelStore (plan : AutomationExecutionPlan) : List (ℤ × String) → Option AutomationStore
  | [] => ((levelStart plan).createRun (newRun plan 1 dimmerOccurrence 0)).toOption
  | (millis, percent) :: earlier => (levelStore plan earlier).bind (fun store =>
    (levelWrite plan store millis percent).bind (fun write => (store.commitStep write).toOption))

theorem levelWrite_steps {millis : ℤ} {percent : String} {write : AutomationStepWrite}
    (h : levelWrite plan store millis percent = some write) :
    ∃ run outcome, run.id = levelRunId ∧ store.runs.find levelRunId = some run ∧
      ReadsRun plan store run (levelInputs plan store millis percent) ∧
      stepRun levelEvaluator plan run (levelInputs plan store millis percent) =
        .ok (outcome, some write) := by
  obtain ⟨run, hrow, hstep⟩ := bind_eq_some_iff.mp h
  have hid : run.id = levelRunId := (find_eq_some.mp hrow).2
  split at hstep
  · rename_i hs
    cases hstep
    exact ⟨run, _, hid, hrow, levelInputs_reads hid hrow millis percent, hs⟩
  · cases hstep

theorem levelStart_consistent (plan : AutomationExecutionPlan) :
    Traced (levelStart plan) ∧ TimersFit (levelStart plan) := by
  refine ⟨⟨?_, ?_, ?_, ?_, ?_⟩, ⟨?_, ?_⟩⟩ <;> intro row hrow <;> cases hrow

theorem levelStore_history {allowed : AutomationRun → StepInputs → AutomationStore → Prop} {steps : List (ℤ × String)}
    (ha : ∀ earlier, earlier ≠ steps → earlier <:+ steps → ∀ store, levelStore plan earlier = some store →
      ∀ run millis percent, run.id = levelRunId →
        allowed run (levelInputs plan store millis percent) store)
    (h : levelStore plan steps = some store) :
    RunHistory minuteStoreHost levelEvaluator plan levelRunId allowed store := by
  induction steps generalizing store with
  | nil =>
    obtain ⟨ht, hf⟩ := levelStart_consistent plan
    have hcreate := Fallible.toOption_eq_some h
    exact .called (c := .createRun (newRun plan 1 dimmerOccurrence 0)) (r := .ok ()) (.start ht hf rfl)
      ⟨plan, 1, dimmerOccurrence, 0, rfl⟩ (.inl ⟨rfl, hcreate⟩)
  | cons step earlier ih =>
    obtain ⟨millis, percent⟩ := step
    obtain ⟨before, hbefore, hrest⟩ := bind_eq_some_iff.mp h
    obtain ⟨write, hwrite, hcommit⟩ := bind_eq_some_iff.mp hrest
    obtain ⟨run, outcome, hid, _, hreads, hstep⟩ := levelWrite_steps hwrite
    have hsuffix : earlier <:+ (millis, percent) :: earlier := suffix_cons _ _
    have hne : ∀ rest : List (ℤ × String), rest <:+ earlier → rest ≠ (millis, percent) :: earlier := by
      intro rest hrest heq
      have hlength := hrest.length_le
      rw [heq, length_cons] at hlength
      omega
    have hallowed := ha earlier (hne earlier suffix_rfl) hsuffix before hbefore run millis percent hid
    refine .stepped (ih ?_ hbefore) hid hreads hallowed hstep (Fallible.toOption_eq_some hcommit)
    intro rest _ hrest
    exact ha rest (hne rest hrest) (hrest.trans hsuffix)

theorem Unhindered.of_no_timers {host : EvaluatorHost} {run : AutomationRun} (inputs : StepInputs)
    (hpage : (store.traceOf run.id).length ≤ maxQueryPage) (hnone : store.timers.rows = []) :
    Unhindered host plan run inputs store := by
  refine ⟨hpage, ?_⟩
  intro n kind readyAt _ _
  rw [find_eq_none, hnone]
  exact fun _ hmem => absurd hmem not_mem_nil

/-- The first interval of the run is started, and its timer stored. -/
theorem step_commits_level : ∃ plan, compile levelEnv = .ok plan ∧
    ∃ store write store', levelStore plan [(0, "60.5")] = some store ∧
      levelWrite plan store 0 "60.5" = some write ∧ write.createTimers.length = 1 ∧
      store.commitStep write = .ok store' := by
  have hok : (compile levelEnv).toOption.any (fun plan =>
      (levelStore plan []).any (fun store => store.timers.rows.isEmpty &&
        decide ((store.traceOf levelRunId).length ≤ maxQueryPage)) &&
      (levelStore plan [(0, "60.5")]).any (fun store => store.timers.rows.isEmpty &&
        decide ((store.traceOf levelRunId).length ≤ maxQueryPage) &&
        (levelWrite plan store 0 "60.5").any (fun write => write.createTimers.length == 1))) = true := by
    decide +kernel
  obtain ⟨plan, hc, hplan⟩ := compile_of_any hok
  simp only [Bool.and_eq_true] at hplan
  obtain ⟨fresh, hfresh, hempty⟩ := (Option.any_eq_true _ _).mp hplan.1
  obtain ⟨store, hstore, hwrites⟩ := (Option.any_eq_true _ _).mp hplan.2
  simp only [Bool.and_eq_true, List.isEmpty_iff, decide_eq_true_eq] at hempty hwrites
  obtain ⟨⟨hnone, hpage⟩, hany⟩ := hwrites
  obtain ⟨write, hwrite, hlength⟩ := (Option.any_eq_true _ _).mp hany
  obtain ⟨run, outcome, hid, _, hreads, hstep⟩ := levelWrite_steps hwrite
  have hhistory : RunHistory minuteStoreHost levelEvaluator plan levelRunId
      (Unhindered levelEvaluator plan) store := by
    refine levelStore_history ?_ hstore
    intro earlier hne hsuffix before hbefore run millis percent hrun
    have hnil : earlier = [] := by
      rcases List.suffix_cons_iff.mp hsuffix with heq | hsub
      · exact absurd heq hne
      · exact List.suffix_nil.mp hsub
    rw [hnil, hfresh, Option.some.injEq] at hbefore
    rw [← hbefore]
    exact .of_no_timers _ (by rw [hrun]; exact hempty.2) hempty.1
  obtain ⟨_, store', hcommit⟩ := (step_commits minuteStoreHost levelEvaluator
    levelEvaluator_hashesApart plan levelRunId hhistory).1 run _ outcome write hid hreads
    (.of_no_timers _ (by rw [hid]; exact hpage) hnone) hstep
  exact ⟨plan, hc, store, write, store', hstore, hwrite, by simpa using hlength, hcommit⟩

/-- Five seconds after the level rose and three after it fell are the same instant: the two
intervals share a timer, which the second step creates and cancels at once. When the level
is between the bounds, the run can no longer commit. -/
theorem shared_timer_stops_run : ∃ plan, compile levelEnv = .ok plan ∧
    ∃ store run outcome write,
      RunHistory minuteStoreHost levelEvaluator plan run.id (fun _ _ _ => True) store ∧
      ReadsRun plan store run (levelInputs plan store 2001 "30.5") ∧
      stepRun levelEvaluator plan run (levelInputs plan store 2001 "30.5") =
        .ok (outcome, some write) ∧
      store.commitStep write = .error (.invalidAutomation "invalid automation timer transition") := by
  have hok : (compile levelEnv).toOption.any (fun plan =>
      (levelStore plan [(2000, "10.5"), (0, "60.5"), (0, "60.5")]).any (fun store =>
        (levelWrite plan store 2001 "30.5").any (fun write =>
          match store.commitStep write with
          | .error error =>
            error == .invalidAutomation "invalid automation timer transition"
          | .ok _ => false))) = true := by decide +kernel
  obtain ⟨plan, hc, hplan⟩ := compile_of_any hok
  obtain ⟨store, hstore, hwrites⟩ := (Option.any_eq_true _ _).mp hplan
  obtain ⟨write, hwrite, hfails⟩ := (Option.any_eq_true _ _).mp hwrites
  obtain ⟨run, outcome, hid, _, hreads, hstep⟩ := levelWrite_steps hwrite
  refine ⟨plan, hc, store, run, outcome, write, ?_, hreads, hstep, ?_⟩
  · rw [hid]
    exact levelStore_history (fun _ _ _ _ _ _ _ _ _ => trivial) hstore
  · split at hfails
    · rename_i error herror
      rw [herror, beq_iff_eq.mp hfails]
    · cases hfails

end HomeMagic
