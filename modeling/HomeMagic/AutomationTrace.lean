import HomeMagic.AutomationRetention

/-! The trace of a run. Storage insists on contiguous sequence numbers; the interpreter
takes the next one from a page of the stored trace. -/
namespace HomeMagic
open List Table AutomationStore Fallible

variable {run : AutomationRun} {write : AutomationStepWrite} {entry : AutomationTraceStep} {k i : ℕ}
  {moved : AutomationStore} {outcome : AutomationRuntimeStep} {runId : AutomationRunId}

namespace AutomationStore
variable {host : StoreHost} {store store' : AutomationStore}

theorem expectedSequence_of_range (h : (store.traceOf runId).map AutomationTraceStep.sequence = List.range k) :
    store.expectedSequence runId = k := by
  unfold expectedSequence
  rw [h]
  cases k with
  | zero => rfl
  | succ k =>
    have hmax : (List.range (k + 1)).max? = some k := by
      rw [List.max?_eq_some_iff]
      refine ⟨mem_range.mpr (Nat.lt_succ_self k), ?_⟩
      intro b hb
      exact Nat.lt_succ_iff.mp (mem_range.mp hb)
    rw [hmax]
    rfl

theorem loadTrace_length (store : AutomationStore) (runId : AutomationRunId) (limit : ℕ) :
    (store.loadTrace runId none limit).length =
      min (min limit maxQueryPage) (store.traceOf runId).length := by
  unfold loadTrace traceOf
  rw [length_page, Table.count, countP_eq_length_filter]
  simp

theorem traceOf_append {hnew : store.trace.find entry.id = none}
    (htrace : store'.trace = store.trace.insert entry hnew) (runId : AutomationRunId) :
    store'.traceOf runId =
      store.traceOf runId ++ if entry.runId = runId then [entry] else [] := by
  have hrows : store'.trace.rows = store.trace.rows ++ [entry] := by
    rw [htrace]
    rfl
  unfold traceOf
  rw [hrows, filter_append]
  congr 1
  by_cases h : entry.runId = runId <;> simp [h]

theorem traceOf_congr (htrace : store'.trace = store.trace) (runId : AutomationRunId) :
    store'.traceOf runId = store.traceOf runId := by
  unfold traceOf
  rw [htrace]

/-- Retention keeps the whole trace of a run that is not finished. -/
theorem traceOf_retain (hrun : run ∈ store.runs.rows) (hlive : run.state.isTerminal = false)
    (policy : AutomationRetention) :
    (store.retain host policy).traceOf run.id = store.traceOf run.id := by
  have hfind : store.runs.find run.id = some run := find_eq_some.mpr ⟨hrun, rfl⟩
  -- the rows of the run are on neither page
  have hfirst : (store.beforeRuns host policy).traceOf run.id = store.traceOf run.id := by
    -- drafts are another table, so the page is one of the store itself
    let page := store.trace.page (fun step => store.expiredRunId host policy.runtimeBefore step.runId)
      (fun step : AutomationTraceStep =>
        toLex (host.timestampText step.occurredAt, host.traceIdText step.id))
      (max policy.limitPerCategory 1)
    show ((store.trace.rows.filter (fun step => !page.contains step)).filter _) = _
    unfold traceOf
    rw [List.filter_filter]
    apply filter_congr
    intro step hstep
    by_cases hid : step.runId = run.id
    · have hpage : step ∉ page := by
        intro hmem
        have hp := (mem_of_mem_page hmem).2
        simp [expiredRunId, hid, hfind, expiredRun, hlive] at hp
      simp [hid, hpage]
    · simp [hid]
  have hsecond : (store.retain host policy).traceOf run.id =
      (store.beforeRuns host policy).traceOf run.id := by
    show (((store.beforeRuns host policy).trace.rows.filter _).filter _) = _
    unfold traceOf
    rw [List.filter_filter]
    apply filter_congr
    intro step hstep
    by_cases hid : step.runId = run.id
    · have hnone : ((store.beforeRuns host policy).runs.page
          (fun run => expiredRun host policy.runtimeBefore run &&
            !(store.beforeRuns host policy).timers.rows.any (fun timer => timer.runId == run.id))
          (fun run : AutomationRun =>
            toLex (host.timestampText run.updatedAt, host.runIdText run.id))
          (max policy.limitPerCategory 1)).any (fun other => other.id == step.runId) = false := by
        rw [List.any_eq_false]
        intro other hother heq
        obtain ⟨hmem, hp⟩ := mem_of_mem_page hother
        have hsame : other = run := eq_of_key hmem hrun ((beq_iff_eq.mp heq).trans hid)
        rw [hsame] at hp
        simp [expiredRun, hlive] at hp
      unfold beforeRuns at hnone
      rw [hnone]
      simp
    · simp [hid]
  exact hsecond.trans hfirst

theorem owned_retain (policy : AutomationRetention)
    (howned : ∀ step ∈ store.trace.rows, store.runs.find step.runId ≠ none) :
    ∀ step ∈ (store.retain host policy).trace.rows,
      step ∈ store.trace.rows ∧ (store.retain host policy).runs.find step.runId ≠ none := by
  intro step hstep
  obtain ⟨hbefore, hkept⟩ := Table.mem_filter.mp hstep
  have hmem : step ∈ store.trace.rows := (Table.mem_filter.mp hbefore).1
  refine ⟨hmem, ?_⟩
  obtain ⟨run, hf⟩ := Option.ne_none_iff_exists'.mp (howned step hmem)
  obtain ⟨hrun, hid⟩ := find_eq_some.mp hf
  have hstay : run ∈ (store.retain host policy).runs.rows := by
    rw [retain_runs]
    refine Table.mem_filter.mpr ⟨hrun, ?_⟩
    simp only [Bool.not_eq_true', contains_eq_mem, decide_eq_false_iff_not]
    intro hpage
    rw [Bool.not_eq_true', List.any_eq_false] at hkept
    exact hkept run hpage (beq_iff_eq.mpr hid)
  rw [← hid]
  exact find_ne_none hstay

end AutomationStore

structure Traced (store : AutomationStore) : Prop where
  named : ∀ run ∈ store.runs.rows, run.id = ⟨run.occurrenceId⟩
  ids : ∀ step ∈ store.trace.rows, step.id = ⟨step.runId, step.sequence⟩
  owned : ∀ step ∈ store.trace.rows, store.runs.find step.runId ≠ none
  contiguous : ∀ run ∈ store.runs.rows, run.state.isTerminal = false →
    (store.traceOf run.id).map AutomationTraceStep.sequence =
      List.range (store.traceOf run.id).length
  committed : ∀ run ∈ store.runs.rows, run.state.isTerminal = false →
    run.revision = min (store.traceOf run.id).length (2^64 - 1)

section
variable {host : StoreHost} {store store' : AutomationStore}

theorem Traced.same (h : Traced store) (hruns : store'.runs = store.runs)
    (htrace : store'.trace = store.trace) : Traced store' := by
  have hof : ∀ id, store'.traceOf id = store.traceOf id := AutomationStore.traceOf_congr htrace
  refine ⟨?_, ?_, ?_, ?_, ?_⟩
  · rw [hruns]
    exact h.named
  · rw [htrace]
    exact h.ids
  · rw [htrace, hruns]
    exact h.owned
  · intro run hrun hlive
    rw [hruns] at hrun
    rw [hof]
    exact h.contiguous run hrun hlive
  · intro run hrun hlive
    rw [hruns] at hrun
    rw [hof]
    exact h.committed run hrun hlive

theorem Traced.traceOf_absent (h : Traced store) (habsent : store.runs.find runId = none) :
    store.traceOf runId = [] := by
  unfold AutomationStore.traceOf
  rw [filter_eq_nil_iff]
  intro step hstep heq
  rw [← beq_iff_eq.mp heq] at habsent
  exact h.owned step hstep habsent

/-- A new run has no trace. -/
theorem Traced.createRun (h : Traced store) (hid : run.id = ⟨run.occurrenceId⟩)
    (hcreate : store.createRun run = .ok store') : Traced store' := by
  have hzero : run.revision = 0 := by
    unfold AutomationStore.createRun at hcreate
    split at hcreate
    · cases hcreate
    · rename_i hrev
      exact not_not.mp hrev
  rcases createRun_spec hcreate with ⟨rfl, _⟩ | ⟨hnew, rfl, _⟩
  · exact h
  · have hof : ∀ id, ({ store with runs := store.runs.insert run hnew } : AutomationStore).traceOf id =
        store.traceOf id := AutomationStore.traceOf_congr rfl
    have hempty := h.traceOf_absent hnew
    refine ⟨?_, h.ids, ?_, ?_, ?_⟩
    · intro other hother
      replace hother : other ∈ (store.runs.insert run hnew).rows := hother
      rcases mem_insert.mp hother with hother | rfl
      · exact h.named other hother
      · exact hid
    · intro step hstep
      show (store.runs.insert run hnew).find step.runId ≠ none
      rw [find_insert]
      split
      · exact Option.some_ne_none run
      · exact h.owned step hstep
    · intro other hother hlive
      rw [hof]
      replace hother : other ∈ (store.runs.insert run hnew).rows := hother
      rcases mem_insert.mp hother with hother | rfl
      · exact h.contiguous other hother hlive
      · rw [hempty]
        rfl
    · intro other hother hlive
      rw [hof]
      replace hother : other ∈ (store.runs.insert run hnew).rows := hother
      rcases mem_insert.mp hother with hother | rfl
      · exact h.committed other hother hlive
      · rw [hempty, hzero]
        rfl

theorem commitStep_traceOf (htrace : write.trace = [entry]) (hcommit : store.commitStep write = .ok store')
    (runId : AutomationRunId) : store'.traceOf runId =
      store.traceOf runId ++ if entry.runId = runId then [entry] else [] := by
  obtain ⟨_, current, revised, _, _, _, _, _, _, hsame, hfold⟩ :=
    commitStep_spec hcommit
  have happend : revised.appendTrace entry = .ok store' := by
    rw [htrace] at hfold
    simpa using hfold
  obtain ⟨_, hnew, hstore⟩ := appendTrace_spec happend
  rw [AutomationStore.traceOf_append (by rw [hstore]) runId, AutomationStore.traceOf_congr hsame]

theorem Traced.committed_sequence (h : Traced store) (htrace : write.trace = [entry])
    (hrunId : entry.runId = write.run.id) (hcommit : store.commitStep write = .ok store') :
    entry.sequence = (store.traceOf write.run.id).length := by
  obtain ⟨_, current, revised, hf, hrev, _, _, _, _, hsame, hfold⟩ :=
    commitStep_spec hcommit
  obtain ⟨hcurrent, hid⟩ := find_eq_some.mp hf
  have happend : revised.appendTrace entry = .ok store' := by
    rw [htrace] at hfold
    simpa using hfold
  obtain ⟨hexpected, _⟩ := appendTrace_spec happend
  rw [hexpected, hrunId]
  apply AutomationStore.expectedSequence_of_range
  rw [AutomationStore.traceOf_congr hsame, ← hid]
  exact h.contiguous current hcurrent (AutomationStore.RunRevised.live hrev)

/-- A committed step adds one entry at the end of its run's trace. -/
theorem Traced.commitStep (h : Traced store) (hwrite : TracesOnce write)
    (hcommit : store.commitStep write = .ok store') : Traced store' := by
  obtain ⟨sequence, _, entry, htrace, hid, hrunId, hsequence⟩ := hwrite
  obtain ⟨_, current, revised, hf, hrev, hruns, _, _, _, hsame, hfold⟩ :=
    commitStep_spec hcommit
  obtain ⟨hcurrent, hcurrentId⟩ := find_eq_some.mp hf
  have happend : revised.appendTrace entry = .ok store' := by
    rw [htrace] at hfold
    simpa using hfold
  obtain ⟨_, hnew, hstore⟩ := appendTrace_spec happend
  have hrows : store'.runs = store.runs.replace write.run := by
    rw [hstore]
    exact hruns
  have hof := commitStep_traceOf htrace hcommit
  have hlive := AutomationStore.RunRevised.live hrev
  have hcontiguous := h.contiguous current hcurrent hlive
  have hk := h.committed_sequence htrace hrunId hcommit
  have hmemRun : ∀ run ∈ store'.runs.rows, run = write.run ∨
      (run ∈ store.runs.rows ∧ run.id ≠ write.run.id) := by
    intro run hrun
    rw [hrows, mem_replace hf] at hrun
    exact hrun
  have hmemTrace : ∀ step ∈ store'.trace.rows, step ∈ store.trace.rows ∨ step = entry := by
    intro step hstep
    have htraceEq : store'.trace = revised.trace.insert entry hnew := by rw [hstore]
    rw [htraceEq] at hstep
    rcases mem_insert.mp hstep with hstep | hstep
    · rw [hsame] at hstep
      exact .inl hstep
    · exact .inr hstep
  have hothers : ∀ run : AutomationRun, run.id ≠ write.run.id →
      store'.traceOf run.id = store.traceOf run.id := by
    intro run hne
    rw [hof, if_neg (by rw [hrunId]; exact hne.symm), append_nil]
  have hown : store'.traceOf write.run.id = store.traceOf write.run.id ++ [entry] := by
    rw [hof, if_pos hrunId]
  -- the committed run has one entry more, every other trace is as it was
  refine ⟨?_, ?_, ?_, ?_, ?_⟩
  · intro run hrun
    rcases hmemRun run hrun with rfl | ⟨hrun, _⟩
    · rw [hrev.occurrenceId, ← hcurrentId]
      exact h.named current hcurrent
    · exact h.named run hrun
  · intro step hstep
    rcases hmemTrace step hstep with hstep | rfl
    · exact h.ids step hstep
    · rw [hid, hrunId, hsequence]
  · intro step hstep
    rw [hrows, find_replace hf]
    split
    · exact Option.some_ne_none write.run
    · rename_i hne
      rcases hmemTrace step hstep with hstep | rfl
      · exact h.owned step hstep
      · exact absurd hrunId.symm hne
  · intro run hrun _
    rcases hmemRun run hrun with rfl | ⟨hrun, hne⟩
    · rw [hown, map_append, length_append, length_singleton, range_succ,
        ← hcurrentId, hcontiguous, hcurrentId, map_singleton, hk]
    · rw [hothers run hne]
      exact h.contiguous run hrun ‹_›
  · intro run hrun hliveRun
    rcases hmemRun run hrun with rfl | ⟨hrun, hne⟩
    · have hold := h.committed current hcurrent hlive
      rw [hown, length_append, length_singleton, hrev.revision, ← hrev.expected, hold,
        hcurrentId]
      omega
    · rw [hothers run hne]
      exact h.committed run hrun hliveRun

theorem Traced.retain (h : Traced store) (policy : AutomationRetention) :
    Traced (store.retain host policy) := by
  have hkept : ∀ step ∈ (store.retain host policy).trace.rows, step ∈ store.trace.rows ∧
      (store.retain host policy).runs.find step.runId ≠ none :=
    AutomationStore.owned_retain policy h.owned
  refine ⟨fun run hrun => h.named run (mem_retain_runs hrun),
    fun step hstep => h.ids step (hkept step hstep).1, fun step hstep => (hkept step hstep).2, ?_, ?_⟩
  · intro run hrun hlive
    have hmem := mem_retain_runs hrun
    rw [AutomationStore.traceOf_retain hmem hlive]
    exact h.contiguous run hmem hlive
  · intro run hrun hlive
    have hmem := mem_retain_runs hrun
    rw [AutomationStore.traceOf_retain hmem hlive]
    exact h.committed run hmem hlive

theorem orderly_keeps_traced {c : AutomationCall} {r : c.Response} (hc : c.IsOrderly)
    (h : Traced store) (hh : automationHandler host c store r store') : Traced store' := by
  rcases automationHandler_wrote hh with rfl | hh
  · exact h
  cases hh with
  | createRun hok => exact h.createRun hc hok
  | retain hok =>
    subst hok
    exact h.retain _
  | createOccurrence hok =>
    rcases createOccurrence_spec hok with ⟨rfl, _⟩ | ⟨_, rfl, _⟩
    · exact h
    · exact h.same rfl rfl
  | transitionOccurrence hok =>
    obtain ⟨_, _, _, _, rfl⟩ := transitionOccurrence_spec hok
    exact h.same rfl rfl
  | commitStep hok => exact h.commitStep hc hok
  | transitionTimer hok =>
    obtain ⟨hw, htrace⟩ := transitionTimer_sameWork hok
    exact h.same hw.runs htrace
  | advanceEventCursor advanced hok =>
    subst hok
    exact h.same rfl rfl

end

def serviceRules (host : StoreHost) (scheduler : SchedulerHost) (evaluator : EvaluatorHost) :
    Rules AutomationCall AutomationCall.Response AutomationStore
      (Except AutomationSchedulerError RecoveryPass) where
  handler := automationHandler host
  main := fun p => ∃ start through, p = (tick scheduler start through).run
  client := RetainingClient scheduler evaluator
  mainAllowed := fun _ _ => True
  clientAllowed := fun _ _ => True

theorem Traced.reached {host : StoreHost} {scheduler : SchedulerHost} {evaluator : EvaluatorHost}
    {start : AutomationStore} {reached : Processes AutomationCall AutomationCall.Response
      AutomationStore (Except AutomationSchedulerError RecoveryPass)}
    (hrun : Relation.ReflTransGen (Interleaves (serviceRules host scheduler evaluator))
      ⟨start, none, []⟩ reached) (h : Traced start) : Traced reached.state := by
  refine Interleaves.invariant_of_calls (P := AutomationCall.IsOrderly) ?_
    (fun p hp => RetainingClient.orderly hp) ?_ hrun h rfl rfl
  · rintro p ⟨first, last, rfl⟩
    exact tick_orderly scheduler first last
  · exact fun c s r s' hc _ hi hh => orderly_keeps_traced hc hi hh

structure EntryFits (store : AutomationStore) (write : AutomationStepWrite) : Prop where
  sequence : ∀ entry ∈ write.trace, entry.sequence = (store.traceOf write.run.id).length
  accepted : ∀ entry ∈ write.trace, (store.appendTrace entry).isOk = true
  commits : (store.commitStep { write with trace := [] }).isOk = true →
    (store.commitStep write).isOk = true

section
variable {store : AutomationStore}

theorem Traced.appendTrace_isOk (h : Traced store) (hrun : run ∈ store.runs.rows)
    (hlive : run.state.isTerminal = false) (hid : entry.id = ⟨run.id, (store.traceOf run.id).length⟩)
    (hrunId : entry.runId = run.id) (hsequence : entry.sequence = (store.traceOf run.id).length)
    {store' : AutomationStore} (hruns : store'.runs.find run.id ≠ none) (htrace : store'.trace = store.trace) :
    (store'.appendTrace entry).isOk = true := by
  have hof := AutomationStore.traceOf_congr htrace
  have hexpected : store'.expectedSequence entry.runId = (store.traceOf run.id).length := by
    rw [hrunId]
    apply AutomationStore.expectedSequence_of_range
    rw [hof]
    exact h.contiguous run hrun hlive
  -- a row under the new id would already count among the numbers below it
  have hnew : store'.trace.find entry.id = none := by
    rw [find_eq_none, htrace]
    intro step hstep heq
    have hstepId := h.ids step hstep
    rw [heq, hid, AutomationTraceId.mk.injEq] at hstepId
    have hmem : step ∈ store.traceOf run.id := by
      refine List.mem_filter.mpr ⟨hstep, ?_⟩
      exact beq_iff_eq.mpr hstepId.1.symm
    have hrange : step.sequence ∈ List.range (store.traceOf run.id).length := by
      rw [← h.contiguous run hrun hlive]
      exact List.mem_map_of_mem hmem
    rw [← hstepId.2] at hrange
    exact Nat.lt_irrefl _ (mem_range.mp hrange)
  unfold AutomationStore.appendTrace
  rw [if_neg (by rw [hexpected, hsequence]; exact not_not.mpr rfl)]
  split
  · rename_i hf
    rw [hnew] at hf
    cases hf
  · rw [if_neg]
    · rfl
    · rw [hrunId, Option.isNone_iff_eq_none]
      exact hruns

theorem commitStep_eq (htrace : write.trace = [entry]) (hrunId : entry.runId = write.run.id) :
    store.commitStep write =
      (store.commitStep { write with trace := [] }).bind (fun s => s.appendTrace entry) := by
  have hcross : AutomationStore.crossRun write =
      AutomationStore.crossRun { write with trace := [] } := by
    simp [AutomationStore.crossRun, htrace, hrunId]
  unfold AutomationStore.commitStep
  rw [← hcross, htrace]
  split
  · rfl
  · cases h1 : store.transitionRun write.run write.expectedRunRevision with
    | error error => rfl
    | ok s1 =>
      simp only [bind, Except.bind, foldlM_cons, foldlM_nil, pure]
      cases h2 : write.createTimers.foldlM AutomationStore.createTimer s1 with
      | error error => rfl
      | ok s2 =>
        dsimp only
        cases h3 : write.transitionTimers.foldlM AutomationStore.transitionTimer s2 with
        | error error => rfl
        | ok s3 =>
          dsimp only [Except.pure]
          cases s3.appendTrace entry <;> rfl

theorem Traced.entryFits_iff (h : Traced store) {sequence : ℕ} (hrun : run ∈ store.runs.rows)
    (hlive : run.state.isTerminal = false) (hwrite : OneEntry run.id sequence write) :
    EntryFits store write ↔ sequence = (store.traceOf run.id).length := by
  obtain ⟨hid, entry, htrace, hentryId, hrunId, hsequence⟩ := hwrite
  constructor
  · intro hfits
    have hentry := hfits.sequence entry (by rw [htrace]; exact mem_singleton.mpr rfl)
    rw [← hsequence, hentry, hid]
  · rintro rfl
    have hmem : ∀ other ∈ write.trace, other = entry := by
      intro other hother
      rw [htrace] at hother
      exact mem_singleton.mp hother
    refine ⟨?_, ?_, ?_⟩
    · intro other hother
      rw [hmem other hother, hsequence, hid]
    · intro other hother
      rw [hmem other hother]
      exact h.appendTrace_isOk hrun hlive hentryId hrunId hsequence (find_ne_none hrun) rfl
    · intro hok
      rw [commitStep_eq htrace (hrunId.trans hid.symm)]
      cases hbare : store.commitStep { write with trace := [] } with
      | error error =>
        rw [hbare] at hok
        cases hok
      | ok s =>
        obtain ⟨_, current, revised, hf, _, hruns, _, _, _, hsame, hfold⟩ :=
          commitStep_spec hbare
        cases hfold
        refine h.appendTrace_isOk hrun hlive hentryId hrunId hsequence ?_ hsame
        rw [hruns, ← hid, find_replace hf, if_pos rfl]
        exact Option.some_ne_none write.run

end

/-- In every reachable store, for every unfinished run whose trace is within the budget:
its trace has one entry for each committed step, and the next entry of an interpreter
step or of a restart cancellation fits exactly while the trace has at most one page. -/
theorem trace_entry_fits_iff (host : StoreHost) (scheduler : SchedulerHost) (evaluator : EvaluatorHost)
    {start : AutomationStore} {reached : Processes AutomationCall AutomationCall.Response
      AutomationStore (Except AutomationSchedulerError RecoveryPass)}
    (hrun : Relation.ReflTransGen (Interleaves (serviceRules host scheduler evaluator))
      ⟨start, none, []⟩ reached) (hstart : Traced start) (plan : AutomationExecutionPlan)
    {run : AutomationRun} (hmem : run ∈ reached.state.runs.rows) (hlive : run.state.isTerminal = false)
    (hbudget : (reached.state.traceOf run.id).length < plan.budget.maximumTraceSteps) :
    run.revision = min (reached.state.traceOf run.id).length (2^64 - 1) ∧
    (∀ (inputs : StepInputs) (outcome : AutomationRuntimeStep) (write : AutomationStepWrite),
      stepRun evaluator plan run { inputs with traceLength :=
        (reached.state.loadTrace run.id none (plan.budget.maximumTraceSteps + 1)).length } =
          .ok (outcome, some write) →
      (EntryFits reached.state write ↔ (reached.state.traceOf run.id).length ≤ maxQueryPage)) ∧
    ∀ timers occurrence now,
      EntryFits reached.state (restartWrite run timers occurrence now
        (reached.state.loadTrace run.id none recoveryPage).length) ↔
      (reached.state.traceOf run.id).length ≤ maxQueryPage := by
  have htraced := Traced.reached hrun hstart
  refine ⟨htraced.committed run hmem hlive, ?_, ?_⟩
  · intro inputs outcome write hstep
    rw [htraced.entryFits_iff hmem hlive (stepRun_oneEntry hstep),
      AutomationStore.loadTrace_length]
    dsimp only
    omega
  · intro timers occurrence now
    rw [htraced.entryFits_iff hmem hlive (restartWrite_oneEntry run timers occurrence now _),
      AutomationStore.loadTrace_length]
    simp only [recoveryPage, maxQueryPage]
    omega

def longPlan : AutomationExecutionPlan :=
  { minutePlan with
    vars := [("on", ⟨.boolean, some (.boolean false)⟩)]
    entry := 1001
    nodes := ⟨0, 0, .complete⟩ :: (List.range 1001).map (fun i =>
      ⟨i + 1, i + 1, .setVariable "on" (.literal (.boolean true)) (some i)⟩)
    safetyProfiles := []
    budget := { AutomationResourceBudget.default with maximumNodes := 2048 } }

theorem longPlan_find (h : i < 1001) : longPlan.find (i + 1) =
    some (.setVariable "on" (.literal (.boolean true)) (some i)) := by
  have hfind : (List.range 1001).find? (fun j => j + 1 == i + 1) = some i := by
    rw [List.find?_range_eq_some]
    refine ⟨by simp, mem_range.mpr h, ?_⟩
    intro j hj
    simp only [Bool.not_eq_true', beq_eq_false_iff_ne]
    omega
  simp only [AutomationExecutionPlan.find, longPlan, List.find?_cons, List.find?_map]
  simp only [Function.comp_def]
  rw [hfind]
  rfl

def longVersion : StoredAutomationVersion :=
  readyVersion { minuteDocument with
    vars := longPlan.vars
    actions := List.replicate 1001 (.setVariable "on" (.literal (.boolean true)))
    budget := longPlan.budget } longPlan

def longIdentity : AutomationIdentityState := ⟨1, .active, some 1, 1, 0, 0⟩

def longOccurrence : AutomationOccurrence :=
  scheduledOccurrence ⟨longIdentity, longVersion⟩ 120000 .accepted (minute 1)

def longStore : AutomationStore :=
  { AutomationStore.empty with
    identities := ⟨[longIdentity], List.nodup_singleton _⟩
    versions := ⟨[longVersion], List.nodup_singleton _⟩
    occurrences := ⟨[longOccurrence], List.nodup_singleton _⟩
    runs := ⟨[newRun longPlan 1 longOccurrence (minute 1)], List.nodup_singleton _⟩ }

def longPorts : FixedPorts :=
  { minutePorts (minute 1) with
    inputs := { (minutePorts (minute 1)).inputs with snapshot := some ⟨[], [], none⟩ } }

theorem longStore_traced : Traced longStore := by
  have hlength : ∀ id, longStore.traceOf id = [] := fun _ => rfl
  refine ⟨?_, ?_, ?_, ?_, ?_⟩
  · intro run hrun
    rw [mem_singleton.mp hrun]
    rfl
  · intro step hstep
    cases hstep
  · intro step hstep
    cases hstep
  · intro run _ _
    rw [hlength]
    rfl
  · intro run hrun _
    rw [hlength, mem_singleton.mp hrun]
    rfl

theorem trace_entry_fits_long :
    (∀ (inputs : StepInputs) (outcome : AutomationRuntimeStep) (write : AutomationStepWrite),
      stepRun lampEvaluator longPlan (newRun longPlan 1 longOccurrence (minute 1))
        { inputs with traceLength := (longStore.loadTrace minuteRunId none
          (longPlan.budget.maximumTraceSteps + 1)).length } = .ok (outcome, some write) →
      EntryFits longStore write) ∧
    ∀ timers occurrence now, EntryFits longStore (restartWrite
      (newRun longPlan 1 longOccurrence (minute 1)) timers occurrence now
      (longStore.loadTrace minuteRunId none recoveryPage).length) := by
  have hmem : newRun longPlan 1 longOccurrence (minute 1) ∈ longStore.runs.rows :=
    List.mem_singleton.mpr rfl
  obtain ⟨_, hstep, hrestart⟩ := trace_entry_fits_iff minuteStoreHost minuteScheduler lampEvaluator
    .refl longStore_traced longPlan hmem rfl (by decide)
  refine ⟨?_, ?_⟩
  · intro inputs outcome write h
    exact (hstep inputs outcome write h).mpr (by decide)
  · intro timers occurrence now
    exact (hrestart timers occurrence now).mpr (by decide)

/-- A whole interpreter step that commits its write. -/
theorem runtimeStep_commits {host : StoreHost} {ports : FixedPorts} {evaluator : EvaluatorHost}
    {store store' : AutomationStore} {identity : AutomationIdentityState} {version : StoredAutomationVersion}
    (hrun : store.runs.find run.id = some run) (hlive : run.state.isTerminal = false)
    (hidentity : store.identities.find run.automationId = some identity)
    (hactive : identity.activeVersion = some run.version)
    (hversion : store.loadVersion run.automationId run.version = some version)
    (hstep : stepRun evaluator version.plan run { ports.inputs with traceLength :=
      (store.loadTrace run.id none (version.plan.budget.maximumTraceSteps + 1)).length } =
        .ok (outcome, some write)) (hcommit : store.commitStep write = .ok store') :
    ((asClient (runtimeStep evaluator run.id)).run (automationApply host ports) store).2 = store' := by
  have hexecute : Fallible.execute (automationApply host ports) (runtimeStep evaluator run.id) store =
      (.ok outcome, store') := by
    -- the reads leave the store alone and answer what it holds
    have hreadRun : (request (.run run.id)).run (automationApply host ports) store =
        (.ok (some run), store) := by
      rw [← hrun]
      rfl
    have hreadIdentity : (request (.identity run.automationId)).run (automationApply host ports) store =
        (.ok (some identity), store) := by
      rw [← hidentity]
      rfl
    have hreadVersion : (request (.version run.automationId run.version)).run
        (automationApply host ports) store = (.ok (some version), store) := by
      rw [← hversion]
      rfl
    have hreadTrace : (request (.trace run.id none (version.plan.budget.maximumTraceSteps + 1))).run
        (automationApply host ports) store = (.ok (store.loadTrace run.id none
          (version.plan.budget.maximumTraceSteps + 1)), store) := rfl
    have hreadPorts (n : ℕ) : Fallible.execute (automationApply host ports)
        (stepPorts version.plan run n) store = (.ok ports.inputs, store) := rfl
    have hwrite : (request (.commitStep write)).run (automationApply host ports) store =
        (.ok (), store') := by
      show commitResult (store.commitStep write) store = _
      rw [hcommit]
      rfl
    unfold runtimeStep
    rw [execute_bind_ok (execute_repository hreadRun)]
    simp only [hlive, Bool.false_eq_true, if_false]
    rw [execute_bind_ok (execute_repository hreadIdentity)]
    simp only [hactive, ne_eq, not_true_eq_false, if_false]
    rw [execute_bind_ok (execute_repository hreadVersion)]
    dsimp only
    rw [execute_bind_ok (execute_repository hreadTrace),
      execute_bind_ok (hreadPorts _), hstep]
    dsimp only
    rw [execute_bind_ok (execute_repository hwrite), execute_pure]
  unfold asClient
  rw [Program.run_bind]
  show (Fallible.execute (automationApply host ports) (runtimeStep evaluator run.id) store).2 = store'
  rw [hexecute]

/-- A step write is committed when its run is revised as storage asks, its timers can be
created and moved and its entry fits. -/
theorem Traced.commitStep_completes {store created : AutomationStore} (h : Traced store)
    (hrun : store.runs.find run.id = some run) (hwrite : OneEntry run.id (store.traceOf run.id).length write)
    (hrev : AutomationStore.RunRevised run write.run write.expectedRunRevision)
    (hown : ∀ timer ∈ write.createTimers ++ write.transitionTimers, timer.runId = write.run.id)
    (hcreate : write.createTimers.foldlM AutomationStore.createTimer
      { store with runs := store.runs.replace write.run } = .ok created)
    (hmove : write.transitionTimers.foldlM AutomationStore.transitionTimer created = .ok moved) :
    ∃ store', store.commitStep write = .ok store' ∧ store'.timers = moved.timers := by
  obtain ⟨hmem, _⟩ := find_eq_some.mp hrun
  have hlive := AutomationStore.RunRevised.live hrev
  have hfits := (h.entryFits_iff hmem hlive hwrite).mpr rfl
  have hmoved : store.transitionRun write.run write.expectedRunRevision =
      .ok { store with runs := store.runs.replace write.run } := by
    unfold AutomationStore.transitionRun
    rw [hwrite.run, hrun]
    simp [hrev.expected, hrev.revision, hrev.state, hrev.automationId, hrev.version,
      hrev.occurrenceId, hrev.actorId, hrev.createdAt]
  have hbare : store.commitStep { write with trace := [] } = .ok moved := by
    have hcross : AutomationStore.crossRun { write with trace := [] } = false := by
      simp only [AutomationStore.crossRun, any_nil, Bool.false_or, List.any_eq_false,
        bne_iff_ne, ne_eq, not_not]
      exact hown
    unfold AutomationStore.commitStep
    rw [hcross]
    simp only [Bool.false_eq_true, if_false, hmoved, foldlM_nil, bind, Except.bind, pure,
      Except.pure, hcreate, hmove]
  have hok := hfits.commits (by rw [hbare]; rfl)
  obtain ⟨entry, htrace, _, hrunId, _⟩ := hwrite.trace
  rw [commitStep_eq htrace (hrunId.trans hwrite.run.symm), hbare] at hok ⊢
  cases happend : moved.appendTrace entry with
  | ok store' =>
    refine ⟨store', happend, ?_⟩
    obtain ⟨_, hnew, hstore⟩ := appendTrace_spec happend
    rw [hstore]
  | error error =>
    replace hok : (moved.appendTrace entry).isOk = true := hok
    rw [happend] at hok
    cases hok

theorem Traced.commitStep_succeeds {store : AutomationStore} (h : Traced store)
    (hrun : store.runs.find run.id = some run) (hwrite : OneEntry run.id (store.traceOf run.id).length write)
    (hrev : AutomationStore.RunRevised run write.run write.expectedRunRevision) (hcreate : write.createTimers = [])
    (hown : ∀ timer ∈ write.transitionTimers, timer.runId = write.run.id)
    (hmove : write.transitionTimers.foldlM AutomationStore.transitionTimer
      { store with runs := store.runs.replace write.run } = .ok moved) :
    ∃ store', store.commitStep write = .ok store' ∧ store'.timers = moved.timers :=
  h.commitStep_completes hrun hwrite hrev (by rwa [hcreate]) (by rw [hcreate]; rfl) hmove

structure Climbed (k : ℕ) (store : AutomationStore) : Prop where
  traced : Traced store
  identity : store.identities.find 1 = some longIdentity
  version : store.loadVersion 1 1 = some longVersion
  length : (store.traceOf minuteRunId).length = k
  run : ∃ run, store.runs.find minuteRunId = some run ∧ run.automationId = 1 ∧ run.version = 1 ∧
    run.createdAt = minute 1 ∧ run.state = .running ∧ run.nodeId = some (1002 - k)

/-- One more step of the run, as long as its trace fits on a page. -/
theorem climb {store : AutomationStore} (htraced : Traced store)
    (hidentity : store.identities.find 1 = some longIdentity) (hversion : store.loadVersion 1 1 = some longVersion)
    (hlength : (store.traceOf minuteRunId).length = k) (hk : k ≤ maxQueryPage)
    (hfind : store.runs.find minuteRunId = some run) (hautomation : run.automationId = 1)
    (hnumber : run.version = 1) (hcreated : run.createdAt = minute 1)
    (hstep : stepRun lampEvaluator longPlan run { longPorts.inputs with traceLength := k } =
      .ok (outcome, some write)) (hrev : AutomationStore.RunRevised run write.run write.expectedRunRevision)
    (hcreate : write.createTimers = []) (hmove : write.transitionTimers = []) (hstate : write.run.state = .running)
    (hnode : write.run.nodeId = some (1002 - (k + 1))) :
    ∃ store', ((asClient (runtimeStep lampEvaluator minuteRunId)).run
      (automationApply minuteStoreHost longPorts) store).2 = store' ∧ Climbed (k + 1) store' := by
  obtain ⟨_, hid⟩ := find_eq_some.mp hfind
  have hone := stepRun_oneEntry hstep
  have hfind' : store.runs.find run.id = some run := by rw [hid, hfind]
  have hentry : OneEntry run.id (store.traceOf run.id).length write := by
    rw [hid, hlength, ← hid]
    exact hone
  have hown : ∀ timer ∈ write.transitionTimers, timer.runId = write.run.id := by
    rw [hmove]
    exact fun timer htimer => absurd htimer not_mem_nil
  obtain ⟨store', hcommit, _⟩ := htraced.commitStep_succeeds hfind' hentry hrev hcreate hown
    (by rw [hmove]; rfl)
  refine ⟨store', ?_, ?_⟩
  · have hpage : (store.loadTrace run.id none (longPlan.budget.maximumTraceSteps + 1)).length = k := by
      rw [AutomationStore.loadTrace_length, hid, hlength]
      show min (min 10001 maxQueryPage) k = k
      simp only [maxQueryPage] at hk ⊢
      omega
    have hidentity' : store.identities.find run.automationId = some longIdentity := by
      rw [hautomation]
      exact hidentity
    have hactive : longIdentity.activeVersion = some run.version := by
      rw [hnumber]
      rfl
    have hversion' : store.loadVersion run.automationId run.version = some longVersion := by
      rw [hautomation, hnumber]
      exact hversion
    have hstep' : stepRun lampEvaluator longVersion.plan run { longPorts.inputs with traceLength :=
        (store.loadTrace run.id none (longVersion.plan.budget.maximumTraceSteps + 1)).length } =
          .ok (outcome, some write) := by
      show stepRun lampEvaluator longPlan run { longPorts.inputs with traceLength :=
        (store.loadTrace run.id none (longPlan.budget.maximumTraceSteps + 1)).length } = _
      rw [hpage]
      exact hstep
    rw [← hid]
    exact runtimeStep_commits hfind' (AutomationStore.RunRevised.live hrev) hidentity' hactive
      hversion' hstep' hcommit
  · obtain ⟨entry, htrace, _, hrunId, _⟩ := hone.trace
    obtain ⟨_, current, revised, _, _, hruns, _, hidentities, hversions, _, hfold⟩ :=
      commitStep_spec hcommit
    have hw := appendTrace_sameWork _ hfold
    refine ⟨htraced.commitStep hone.tracesOnce hcommit, ?_, ?_, ?_, write.run, ?_, ?_, ?_, ?_, hstate,
      hnode⟩
    · rw [hw.identities, hidentities]
      exact hidentity
    · unfold AutomationStore.loadVersion
      rw [hw.versions, hversions]
      exact hversion
    · rw [commitStep_traceOf htrace hcommit, if_pos (hrunId.trans hid), length_append, hlength]
      rfl
    · have hkey : write.run.id = minuteRunId := hone.run.trans hid
      rw [hw.runs, hruns, find_replace (by rw [hkey]; exact hfind), if_pos hkey]
    · rw [hrev.automationId, hautomation]
    · rw [hrev.version, hnumber]
    · rw [hrev.createdAt, hcreated]

theorem climbed_start : ∃ store', ((asClient (runtimeStep lampEvaluator minuteRunId)).run
    (automationApply minuteStoreHost longPorts) longStore).2 = store' ∧ Climbed 1 store' := by
  apply climb longStore_traced rfl rfl rfl (Nat.zero_le _) rfl rfl rfl rfl rfl
  · exact ⟨rfl, rfl, rfl, rfl, rfl, rfl, rfl, rfl⟩
  · rfl
  · rfl
  · rfl
  · rfl

def longWrite (run : AutomationRun) (i traceLength : ℕ) : AutomationStepWrite :=
  stepWrite run { checkpoint run (minute 1) with
      vars := insertVariable "on" (.boolean true) run.vars, nodeId := some i }
    { longPorts.inputs with traceLength := traceLength } (some (i + 1)) .variable
    [("name", .string "on"), ("value", .boolean true)] [] []

theorem stepRun_long {traceLength : ℕ} (hstate : run.state = .running) (hnode : run.nodeId = some (i + 1))
    (hi : i < 1001) (hcreated : run.createdAt = minute 1) (hlength : traceLength < 10000) :
    stepRun lampEvaluator longPlan run { longPorts.inputs with traceLength := traceLength } =
      .ok (.advanced, some (longWrite run i traceLength)) := by
  have hlive : run.state.isTerminal = false := by rw [hstate]; rfl
  have hbudget : budgetExhausted longPlan run
      { longPorts.inputs with traceLength := traceLength } = false := by
    have hsteps : ¬ longPlan.budget.maximumTraceSteps ≤ traceLength := by
      show ¬ 10000 ≤ traceLength
      omega
    unfold budgetExhausted
    rw [hcreated, decide_eq_false hsteps]
    rfl
  unfold stepRun
  rw [hlive, hbudget, hstate, hnode]
  simp only [longPlan_find hi, stepNode]
  rfl

theorem Climbed.succ {store : AutomationStore} (h : Climbed k store) (hpos : 0 < k) (hk : k ≤ maxQueryPage) :
    ∃ store', ((asClient (runtimeStep lampEvaluator minuteRunId)).run
      (automationApply minuteStoreHost longPorts) store).2 = store' ∧ Climbed (k + 1) store' := by
  obtain ⟨run, hfind, hautomation, hnumber, hcreated, hstate, hnode⟩ := h.run
  have hk' : k ≤ 1000 := hk
  have hindex : 1002 - k = (1001 - k) + 1 := by omega
  rw [hindex] at hnode
  apply climb h.traced h.identity h.version h.length hk hfind hautomation hnumber hcreated
    (stepRun_long hstate hnode (by omega) hcreated (by omega))
  · refine ⟨rfl, rfl, ?_, rfl, rfl, rfl, rfl, rfl⟩
    show run.state.allowsRevisionTo run.state = true
    rw [hstate]
    rfl
  · rfl
  · rfl
  · exact hstate
  · show some (1001 - k) = some (1002 - (k + 1))
    congr 1
    omega

theorem climbed_reached (hpos : 0 < k) (hk : k ≤ maxQueryPage + 1) :
    ∃ store clients, Relation.ReflTransGen (Interleaves (serviceRules minuteStoreHost minuteScheduler
      lampEvaluator)) ⟨longStore, none, []⟩ ⟨store, none, clients⟩ ∧ Climbed k store := by
  have hone : ∀ s clients, Relation.ReflTransGen (Interleaves (serviceRules minuteStoreHost
      minuteScheduler lampEvaluator)) ⟨s, none, clients⟩
      ⟨((asClient (runtimeStep lampEvaluator minuteRunId)).run
        (automationApply minuteStoreHost longPorts) s).2, none, .done () :: clients⟩ := by
    intro s clients
    apply Interleaves.of_run_client (automationApply_handles minuteStoreHost longPorts)
      (fun _ _ => trivial)
    exact .service (.step minuteRunId)
  induction k with
  | zero => cases hpos
  | succ k ih =>
    by_cases hzero : k = 0
    · subst hzero
      obtain ⟨store', hstore, hclimbed⟩ := climbed_start
      exact ⟨store', _, hstore ▸ hone longStore [], hclimbed⟩
    · obtain ⟨store, clients, hreach, hclimbed⟩ := ih (Nat.pos_of_ne_zero hzero) (by omega)
      obtain ⟨store', hstore, hclimbed'⟩ := hclimbed.succ (Nat.pos_of_ne_zero hzero) (by omega)
      exact ⟨store', _, hreach.trans (hstore ▸ hone store clients), hclimbed'⟩

/-- After 1001 committed steps, well below its budget of 10000, the run is blocked: the
next entry is numbered 1000 and storage refuses the step. -/
theorem full_page_blocks_run :
    ∃ store clients run, Relation.ReflTransGen (Interleaves (serviceRules minuteStoreHost
        minuteScheduler lampEvaluator)) ⟨longStore, none, []⟩ ⟨store, none, clients⟩ ∧
      longPlan.budget.validate = .ok () ∧ run ∈ store.runs.rows ∧ run.state.isTerminal = false ∧
      store.loadVersion run.automationId run.version = some longVersion ∧
      (store.traceOf run.id).length = 1001 ∧ 1001 < longPlan.budget.maximumTraceSteps ∧
      ∃ outcome write, stepRun lampEvaluator longPlan run { longPorts.inputs with traceLength :=
          (store.loadTrace run.id none (longPlan.budget.maximumTraceSteps + 1)).length } =
          .ok (outcome, some write) ∧
        write.trace.map AutomationTraceStep.sequence = [1000] ∧
        (store.commitStep write).isOk = false := by
  obtain ⟨store, clients, hreach, h⟩ := climbed_reached (k := 1001) (by decide) (by decide)
  obtain ⟨run, hfind, hautomation, hnumber, hcreated, hstate, hnode⟩ := h.run
  obtain ⟨hmem, hid⟩ := Table.find_eq_some.mp hfind
  have hlive : run.state.isTerminal = false := by rw [hstate]; rfl
  have hlength : (store.traceOf run.id).length = 1001 := by rw [hid]; exact h.length
  have hpage : (store.loadTrace run.id none (longPlan.budget.maximumTraceSteps + 1)).length = 1000 := by
    rw [AutomationStore.loadTrace_length, hlength]
    rfl
  have hversion : store.loadVersion run.automationId run.version = some longVersion := by
    rw [hautomation, hnumber]
    exact h.version
  refine ⟨store, clients, run, hreach, by decide, hmem, hlive, hversion, hlength, by decide,
    .advanced, longWrite run 0 1000, ?_, rfl, ?_⟩
  · rw [hpage]
    exact stepRun_long hstate hnode (by decide) hcreated (by decide)
  · cases hcommit : store.commitStep (longWrite run 0 1000) with
    | error error => rfl
    | ok store' =>
      -- storage would have asked for the number 1001
      have hsequence : 1000 = (store.traceOf run.id).length :=
        h.traced.committed_sequence rfl rfl hcommit
      rw [hlength] at hsequence
      cases hsequence

end HomeMagic
