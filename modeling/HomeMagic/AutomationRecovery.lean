import HomeMagic.AutomationTrace

/-! A scheduler pass on its own: when nothing else acts between its calls and no call
fails from outside, every occurrence of the recovered page is handled. -/
namespace HomeMagic
open List Table AutomationStore

def EndsWith (host : StoreHost) (ports : FixedPorts) {α : Type} (p : SchedulerM α) (store : AutomationStore)
    (value : α) (store' : AutomationStore) : Prop :=
  Fallible.execute (automationApply host ports) p store = (.ok value, store')

variable {o : AutomationOccurrence} {now : Instant} {version : ActiveAutomationVersion}
  {timers : List AutomationTimer}

section
variable {host : StoreHost} {ports : FixedPorts} {store store' : AutomationStore}
variable {changed : AutomationRunId → Prop} {pass' : RecoveryPass} {state : AutomationOccurrenceState} {α : Type}
  {a : α} {b c : AutomationStore} {rest : List AutomationOccurrence} {run : AutomationRun}

theorem EndsWith.bind {β : Type} {p : SchedulerM α} {f : α → SchedulerM β} {b : β} {middle : AutomationStore}
    (hp : EndsWith host ports p store a middle) (hf : EndsWith host ports (f a) middle b store') :
    EndsWith host ports (p >>= f) store b store' :=
  (Fallible.execute_bind_ok hp).trans hf

theorem endsWith_pure (a : α) : EndsWith host ports (pure a) store a store := rfl

theorem endsWith_ask {p : Program AutomationCall AutomationCall.Response (Except StorageError α)}
    (h : p.run (automationApply host ports) store = (.ok a, store')) :
    EndsWith host ports (ask p) store a store' := execute_repository h

theorem commitResult_ok {result : Except StorageError AutomationStore} (h : result = .ok store') :
    commitResult result store = (.ok (), store') := by
  rw [h]
  rfl

theorem transitionTimer_succeeds {timer : AutomationTimer}
    {state : AutomationTimerState} (hf : store.timers.find timer.id = some timer)
    (hallow : timer.state.allowsTransitionTo state = true) :
    store.transitionTimer { timer with state := state } =
      .ok { store with timers := store.timers.replace { timer with state := state } } := by
  unfold AutomationStore.transitionTimer
  rw [hf]
  simp [hallow]

/-- Cancelling timers that are stored as given succeeds and leaves the others alone. -/
theorem cancelTimers_succeeds (timers : List AutomationTimer)
    (hstored : ∀ timer ∈ timers, store.timers.find timer.id = some timer ∧ timer.isRecoverable = true)
    (hdistinct : (timers.map AutomationTimer.id).Nodup) :
    ∃ store', (timers.map (fun timer => { timer with state := .cancelled })).foldlM
        AutomationStore.transitionTimer store = .ok store' ∧
      ∀ id, id ∉ timers.map AutomationTimer.id → store'.timers.find id = store.timers.find id := by
  induction timers generalizing store with
  | nil => exact ⟨store, rfl, fun _ _ => rfl⟩
  | cons timer rest ih =>
    obtain ⟨hf, hrecoverable⟩ := hstored timer mem_cons_self
    have hallow : timer.state.allowsTransitionTo .cancelled = true := by
      cases hstate : timer.state <;> simp [AutomationTimer.isRecoverable, hstate] at hrecoverable <;> rfl
    have hfirst := transitionTimer_succeeds hf hallow
    rw [map_cons, nodup_cons] at hdistinct
    have hother : ∀ id, timer.id ≠ id →
        (store.timers.replace { timer with state := .cancelled }).find id = store.timers.find id := by
      intro id hne
      have hold : store.timers.find ({ timer with state := .cancelled } : AutomationTimer).id =
          some timer := hf
      rw [find_replace hold, if_neg hne]
    have hstored' : ∀ other ∈ rest,
        (store.timers.replace { timer with state := .cancelled }).find other.id = some other ∧
          other.isRecoverable = true := by
      intro other hmem
      rw [hother other.id]
      · exact hstored other (mem_cons_of_mem _ hmem)
      · intro heq
        exact hdistinct.1 (heq ▸ List.mem_map_of_mem hmem)
    obtain ⟨store', hrest, hsame⟩ := @ih
      { store with timers := store.timers.replace { timer with state := .cancelled } }
      hstored' hdistinct.2
    refine ⟨store', ?_, ?_⟩
    · rw [map_cons, foldlM_cons, hfirst]
      exact hrest
    · intro id hid
      rw [map_cons, mem_cons, not_or] at hid
      rw [hsame id hid.2]
      exact hother id (fun heq => hid.1 heq.symm)

structure LeavesOthers (changed : AutomationRunId → Prop) (store store' : AutomationStore) : Prop where
  identities : store'.identities = store.identities
  versions : store'.versions = store.versions
  occurrences : store'.occurrences = store.occurrences
  eventCursor : store'.eventCursor = store.eventCursor
  run : ∀ id, ¬ changed id → store'.runs.find id = store.runs.find id
  trace : ∀ id, ¬ changed id → store'.traceOf id = store.traceOf id
  timer : ∀ timer, store.timers.find timer.id = some timer → ¬ changed timer.runId →
    store'.timers.find timer.id = some timer

theorem LeavesOthers.refl (changed : AutomationRunId → Prop) (store : AutomationStore) :
    LeavesOthers changed store store :=
  ⟨rfl, rfl, rfl, rfl, fun _ _ => rfl, fun _ _ => rfl, fun _ h _ => h⟩

theorem LeavesOthers.trans {a : AutomationStore} (h : LeavesOthers changed a b) (h' : LeavesOthers changed b c) :
    LeavesOthers changed a c where
  identities := h'.identities.trans h.identities
  versions := h'.versions.trans h.versions
  occurrences := h'.occurrences.trans h.occurrences
  eventCursor := h'.eventCursor.trans h.eventCursor
  run := fun id hid => (h'.run id hid).trans (h.run id hid)
  trace := fun id hid => (h'.trace id hid).trans (h.trace id hid)
  timer := fun timer hf hid => h'.timer timer (h.timer timer hf hid) hid

theorem LeavesOthers.mono {changed' : AutomationRunId → Prop} (h : LeavesOthers changed store store')
    (hsub : ∀ id, changed id → changed' id) :
    LeavesOthers changed' store store' where
  identities := h.identities
  versions := h.versions
  occurrences := h.occurrences
  eventCursor := h.eventCursor
  run := fun id hid => h.run id (fun hc => hid (hsub id hc))
  trace := fun id hid => h.trace id (fun hc => hid (hsub id hc))
  timer := fun timer hf hid => h.timer timer hf (fun hc => hid (hsub _ hc))

/-- A run that can be cancelled for a newer occurrence: its trace fits on a page, and
it and its timers are stored as the pass knows them. -/
structure Cancellable (timers : List AutomationTimer) (run : AutomationRun) (store : AutomationStore) :
    Prop where
  stored : store.runs.find run.id = some run
  live : run.state.isTerminal = false
  short : (store.traceOf run.id).length ≤ maxQueryPage
  timers : ∀ timer ∈ timers, timer.runId = run.id → timer.isRecoverable = true →
    store.timers.find timer.id = some timer

theorem Cancellable.others (h : Cancellable timers run store)
    (hl : LeavesOthers changed store store') (hid : ¬ changed run.id) : Cancellable timers run store' where
  stored := (hl.run run.id hid).trans h.stored
  live := h.live
  short := by
    rw [hl.trace run.id hid]
    exact h.short
  timers := by
    intro timer hmem hrun hrecoverable
    exact hl.timer timer (h.timers timer hmem hrun hrecoverable) (by rw [hrun]; exact hid)

/-- The write that cancels such a run is committed. -/
theorem restartWrite_commits (ht : Traced store)
    (hdistinct : (timers.map AutomationTimer.id).Nodup) (hc : Cancellable timers run store)
    (o : AutomationOccurrence) (now : Instant) : ∃ store', store.commitStep (restartWrite run timers o now
        (store.loadTrace run.id none recoveryPage).length) = .ok store' ∧
      LeavesOthers (fun id => id = run.id) store store' ∧ Traced store' ∧
      store'.runs.find run.id =
        some (restartWrite run timers o now (store.loadTrace run.id none recoveryPage).length).run := by
  have hpage : (store.loadTrace run.id none recoveryPage).length = (store.traceOf run.id).length := by
    have hshort : (store.traceOf run.id).length ≤ 1000 := hc.short
    rw [loadTrace_length]
    simp only [recoveryPage, maxQueryPage]
    omega
  rw [hpage]
  generalize hwrite : restartWrite run timers o now (store.traceOf run.id).length = write
  have hone : OneEntry run.id (store.traceOf run.id).length write := by
    rw [← hwrite]
    exact restartWrite_oneEntry run timers o now _
  have hrev : AutomationStore.RunRevised run write.run write.expectedRunRevision := by
    rw [← hwrite]
    refine ⟨rfl, rfl, ?_, rfl, rfl, rfl, rfl, rfl⟩
    have hlive := hc.live
    show run.state.allowsRevisionTo .cancelled = true
    cases hstate : run.state <;> rw [hstate] at hlive <;> first | rfl | cases hlive
  -- the timers of the run, all stored as they are in the list
  let own := timers.filter (fun timer => timer.runId == run.id && timer.isRecoverable)
  have hmoves : write.transitionTimers = own.map (fun timer => { timer with state := .cancelled }) := by
    rw [← hwrite]
    rfl
  have hown : ∀ timer ∈ own, timer ∈ timers ∧ timer.runId = run.id ∧ timer.isRecoverable = true := by
    intro timer hmem
    obtain ⟨hmem, hp⟩ := List.mem_filter.mp hmem
    simp only [Bool.and_eq_true, beq_iff_eq] at hp
    exact ⟨hmem, hp.1, hp.2⟩
  have hownDistinct : (own.map AutomationTimer.id).Nodup :=
    hdistinct.sublist (filter_sublist.map _)
  have hstored : ∀ timer ∈ own,
      ({ store with runs := store.runs.replace write.run } : AutomationStore).timers.find timer.id =
        some timer ∧ timer.isRecoverable = true := by
    intro timer hmem
    obtain ⟨hmem, hrun, hrecoverable⟩ := hown timer hmem
    exact ⟨hc.timers timer hmem hrun hrecoverable, hrecoverable⟩
  obtain ⟨moved, hmove, htimers⟩ := cancelTimers_succeeds own hstored hownDistinct
  have hrunIds : ∀ timer ∈ write.transitionTimers, timer.runId = write.run.id := by
    intro timer hmem
    rw [hmoves] at hmem
    obtain ⟨other, hother, rfl⟩ := List.mem_map.mp hmem
    rw [hone.run]
    exact (hown other hother).2.1
  obtain ⟨store', hcommit, hmoved⟩ := ht.commitStep_succeeds hc.stored hone hrev
    (by rw [← hwrite]; rfl) hrunIds (by rw [hmoves]; exact hmove)
  obtain ⟨_, current, revised, hf, _, hruns, hocc, hidentities, hversions, _, hfold⟩ :=
    commitStep_spec hcommit
  have hw := appendTrace_sameWork _ hfold
  have hfind : ∀ id, store'.runs.find id =
      if run.id = id then some write.run else store.runs.find id := by
    intro id
    rw [hw.runs, hruns, find_replace hf, hone.run]
  obtain ⟨entry, htrace, _, hrunId, _⟩ := hone.trace
  refine ⟨store', hcommit, ⟨hw.identities.trans hidentities, hw.versions.trans hversions,
    hw.occurrences.trans hocc, ?_, ?_, ?_, ?_⟩, ht.commitStep hone.tracesOnce hcommit, ?_⟩
  · exact commitStep_eventCursor hcommit
  · intro id hid
    rw [hfind, if_neg (fun heq => hid heq.symm)]
  · intro id hid
    rw [commitStep_traceOf htrace hcommit, if_neg, append_nil]
    rw [hrunId]
    exact fun heq => hid heq.symm
  · intro timer hstoredTimer hne
    rw [hmoved, htimers]
    · exact hstoredTimer
    · intro hmem
      obtain ⟨other, hother, heq⟩ := List.mem_map.mp hmem
      obtain ⟨hmem', hrun, hrecoverable⟩ := hown other hother
      have hsame : some other = some timer := by
        rw [← hc.timers other hmem' hrun hrecoverable, heq, hstoredTimer]
      cases hsame
      exact hne hrun
  · rw [hfind, if_pos rfl]

def isCancelled (o : AutomationOccurrence) (runs : List AutomationRun) (id : AutomationRunId) : Prop :=
  ∃ run ∈ runs, run.id = id ∧ run.versionKey = o.versionKey ∧ run.state.isTerminal = false

/-- Restart cancellation ends: the cancelled rows are terminal, everything else stays,
and the runs still live in the list are those of other versions. -/
theorem cancelForRestart_endsWith (o : AutomationOccurrence)
    (now : Instant) (hdistinct : (timers.map AutomationTimer.id).Nodup) (runs : List AutomationRun)
    (ht : Traced store) (hnodup : (runs.map AutomationRun.id).Nodup)
    (hc : ∀ run ∈ runs, run.versionKey = o.versionKey → run.state.isTerminal = false →
      Cancellable timers run store) :
    ∃ result cancelled store',
      EndsWith host ports (cancelForRestart timers o now runs) store (result, cancelled) store' ∧
      Traced store' ∧ LeavesOthers (isCancelled o runs) store store' ∧
      (∀ id, isCancelled o runs id →
        ∃ row, store'.runs.find id = some row ∧ row.state.isTerminal = true) ∧
      result.map AutomationRun.id = runs.map AutomationRun.id ∧
      ∀ item ∈ result, item.state.isTerminal = false →
        item ∈ runs ∧ item.versionKey ≠ o.versionKey := by
  induction runs generalizing store with
  | nil =>
    refine ⟨[], 0, store, endsWith_pure _, ht, .refl _ _, ?_, rfl, ?_⟩
    · rintro id ⟨run, hmem, _⟩
      cases hmem
    · intro item hmem
      cases hmem
  | cons run rest ih =>
    rw [map_cons, nodup_cons] at hnodup
    have hne : ∀ other ∈ rest, other.id ≠ run.id := by
      intro other hmem heq
      exact hnodup.1 (heq ▸ List.mem_map_of_mem hmem)
    unfold cancelForRestart
    split
    · rename_i hmatch
      -- this run first, then the others, which its cancellation leaves alone
      obtain ⟨middle, hcommit, hleaves, ht', hrow⟩ := restartWrite_commits ht hdistinct
        (hc run mem_cons_self hmatch.1 hmatch.2) o now
      have hc' : ∀ other ∈ rest, other.versionKey = o.versionKey → other.state.isTerminal = false →
          Cancellable timers other middle := by
        intro other hmem hkey hlive
        exact (hc other (mem_cons_of_mem _ hmem) hkey hlive).others hleaves (hne other hmem)
      obtain ⟨result, cancelled, store', hends, ht'', hleaves', hterminal, hids, hlive⟩ :=
        ih ht' hnodup.2 hc'
      refine ⟨(restartWrite run timers o now
        (store.loadTrace run.id none recoveryPage).length).run :: result, cancelled + 1, store',
        ?_, ht'', ?_, ?_, ?_, ?_⟩
      · refine EndsWith.bind (endsWith_ask rfl) ?_
        refine EndsWith.bind (endsWith_ask (commitResult_ok hcommit)) ?_
        exact EndsWith.bind hends (endsWith_pure _)
      · have hfirst := hleaves.mono (fun id hid =>
          (⟨run, mem_cons_self, hid.symm, hmatch⟩ : isCancelled o (run :: rest) id))
        refine hfirst.trans (hleaves'.mono ?_)
        rintro id ⟨other, hmem, hrest⟩
        exact ⟨other, mem_cons_of_mem _ hmem, hrest⟩
      · rintro id ⟨other, hmem, hid, hrest⟩
        rcases mem_cons.mp hmem with rfl | hmem
        · have hkept : ¬ isCancelled o rest id := by
            rintro ⟨third, hthird, hthirdId, _⟩
            exact hne third hthird (hthirdId.trans hid.symm)
          rw [hleaves'.run id hkept, ← hid, hrow]
          exact ⟨_, rfl, rfl⟩
        · exact hterminal id ⟨other, hmem, hid, hrest⟩
      · rw [map_cons, map_cons, hids]
        rfl
      · intro item hmem hitem
        rcases mem_cons.mp hmem with rfl | hmem
        · cases hitem
        · obtain ⟨hin, hkey⟩ := hlive item hmem hitem
          exact ⟨mem_cons_of_mem _ hin, hkey⟩
    · rename_i hmatch
      obtain ⟨result, cancelled, store', hends, ht', hleaves, hterminal, hids, hlive⟩ :=
        ih ht hnodup.2 (fun other hmem => hc other (mem_cons_of_mem _ hmem))
      refine ⟨run :: result, cancelled, store', EndsWith.bind hends (endsWith_pure _), ht', ?_, ?_, ?_, ?_⟩
      · apply hleaves.mono
        rintro id ⟨other, hmem, hrest⟩
        exact ⟨other, mem_cons_of_mem _ hmem, hrest⟩
      · rintro id ⟨other, hmem, hid, hrest⟩
        rcases mem_cons.mp hmem with rfl | hmem
        · exact absurd hrest hmatch
        · exact hterminal id ⟨other, hmem, hid, hrest⟩
      · rw [map_cons, map_cons, hids]
      · intro item hmem hitem
        rcases mem_cons.mp hmem with rfl | hmem
        · exact ⟨mem_cons_self, fun hkey => hmatch ⟨hkey, hitem⟩⟩
        · obtain ⟨hin, hkey⟩ := hlive item hmem hitem
          exact ⟨mem_cons_of_mem _ hin, hkey⟩

def restarts (active : List ActiveAutomationVersion) (key : VersionKey) : Prop :=
  ∃ version ∈ active, version.key = key ∧ version.version.plan.runMode = .restart

structure PassHealthy (active : List ActiveAutomationVersion) (timers : List AutomationTimer)
    (pass : RecoveryPass) (store : AutomationStore) : Prop where
  traced : Traced store
  versions : ∀ version ∈ active, (store.loadVersion version.key.1 version.key.2).isSome
  known : ∀ run ∈ pass.activeRuns, run.state.isTerminal = false → store.runs.find run.id = some run
  distinct : (pass.activeRuns.map AutomationRun.id).Nodup
  short : ∀ run ∈ store.runs.rows, run.state.isTerminal = false → restarts active run.versionKey →
    (store.traceOf run.id).length ≤ maxQueryPage
  timers : ∀ timer ∈ timers, timer.isRecoverable = true →
    (∀ row, store.runs.find timer.runId = some row → row.state.isTerminal = false) →
    store.timers.find timer.id = some timer

structure SameSetting (store store' : AutomationStore) : Prop where
  identities : store'.identities = store.identities
  versions : store'.versions = store.versions
  eventCursor : store'.eventCursor = store.eventCursor

theorem SameSetting.refl (store : AutomationStore) : SameSetting store store := ⟨rfl, rfl, rfl⟩

theorem SameSetting.trans {a : AutomationStore} (h : SameSetting a b) (h' : SameSetting b c) :
    SameSetting a c :=
  ⟨h'.identities.trans h.identities, h'.versions.trans h.versions, h'.eventCursor.trans h.eventCursor⟩

theorem LeavesOthers.sameSetting (h : LeavesOthers changed store store') : SameSetting store store' :=
  ⟨h.identities, h.versions, h.eventCursor⟩

variable {active : List ActiveAutomationVersion} {timers : List AutomationTimer} {pass : RecoveryPass}

theorem PassHealthy.same (h : PassHealthy active timers pass store) (hactive : pass'.activeRuns = pass.activeRuns)
    (hversions : store'.versions = store.versions) (hruns : store'.runs = store.runs)
    (htrace : store'.trace = store.trace) (htimers : store'.timers = store.timers) :
    PassHealthy active timers pass' store' where
  traced := h.traced.same hruns htrace
  versions := by
    unfold AutomationStore.loadVersion
    rw [hversions]
    exact h.versions
  known := by
    rw [hactive, hruns]
    exact h.known
  distinct := by
    rw [hactive]
    exact h.distinct
  short := by
    intro run hrun hlive hrestarts
    rw [hruns] at hrun
    rw [traceOf_congr htrace]
    exact h.short run hrun hlive hrestarts
  timers := by
    rw [htimers, hruns]
    exact h.timers

/-- Making room for an occurrence of an active version. -/
theorem PassHealthy.makeRoom (h : PassHealthy active timers pass store)
    (hdistinct : (timers.map AutomationTimer.id).Nodup) (hmem : version ∈ active)
    (hkey : version.key = o.versionKey) :
    ∃ pass' store', EndsWith host ports (makeRoom version o now timers pass) store pass' store' ∧
      PassHealthy active timers pass' store' ∧ pass'.deferred = pass.deferred ∧
      SameSetting store store' ∧ store'.occurrences = store.occurrences := by
  unfold HomeMagic.makeRoom
  split
  · rename_i hrestart
    have hrestarts : restarts active o.versionKey := ⟨version, hmem, hkey, hrestart⟩
    have hc : ∀ run ∈ pass.activeRuns, run.versionKey = o.versionKey → run.state.isTerminal = false →
        Cancellable timers run store := by
      intro run hrun hrunKey hlive
      have hstored := h.known run hrun hlive
      refine ⟨hstored, hlive, ?_, ?_⟩
      · exact h.short run (find_eq_some.mp hstored).1 hlive (hrunKey ▸ hrestarts)
      · intro timer htimer hrunId hrecoverable
        apply h.timers timer htimer hrecoverable
        intro row hrow
        rw [hrunId, hstored] at hrow
        cases hrow
        exact hlive
    obtain ⟨result, cancelled, store', hends, ht, hleaves, hterminal, hids, hlive⟩ :=
      cancelForRestart_endsWith o now hdistinct pass.activeRuns h.traced h.distinct hc
    -- a live row of the new store is none of the cancelled ones
    have hkept : ∀ id row, store'.runs.find id = some row → row.state.isTerminal = false →
        ¬ isCancelled o pass.activeRuns id := by
      intro id row hrow hrowLive hcancelled
      obtain ⟨other, hother, hterm⟩ := hterminal id hcancelled
      rw [hrow] at hother
      cases hother
      rw [hrowLive] at hterm
      cases hterm
    refine ⟨_, store', EndsWith.bind hends (endsWith_pure _), ?_, rfl, hleaves.sameSetting,
      hleaves.occurrences⟩
    refine ⟨ht, ?_, ?_, ?_, ?_, ?_⟩
    · unfold AutomationStore.loadVersion
      rw [hleaves.versions]
      exact h.versions
    · intro item hitem hitemLive
      obtain ⟨hin, hne⟩ := hlive item hitem hitemLive
      rw [hleaves.run]
      · exact h.known item hin hitemLive
      · rintro ⟨other, hother, hid, hotherKey, _⟩
        have hsame : other = item := inj_on_of_nodup_map h.distinct hother hin hid
        exact hne (hsame ▸ hotherKey)
    · show (result.map AutomationRun.id).Nodup
      rw [hids]
      exact h.distinct
    · intro run hrun hrunLive hrunRestarts
      have hfind : store'.runs.find run.id = some run := find_eq_some.mpr ⟨hrun, rfl⟩
      have hnot := hkept run.id run hfind hrunLive
      rw [hleaves.trace run.id hnot]
      rw [hleaves.run run.id hnot] at hfind
      exact h.short run (find_eq_some.mp hfind).1 hrunLive hrunRestarts
    · intro timer htimer hrecoverable hrows
      have hnot : ¬ isCancelled o pass.activeRuns timer.runId := by
        intro hcancelled
        obtain ⟨row, hrow, hterm⟩ := hterminal timer.runId hcancelled
        rw [hrows row hrow] at hterm
        cases hterm
      apply hleaves.timer timer _ hnot
      apply h.timers timer htimer hrecoverable
      intro row hrow
      exact hrows row ((hleaves.run timer.runId hnot).trans hrow)
  · exact ⟨pass, store, endsWith_pure _, h, rfl, .refl _, rfl⟩

/-- The run of an accepted occurrence is there or can be created. -/
theorem PassHealthy.ensureRun (h : PassHealthy active timers pass store) (hmem : version ∈ active)
    (hkey : version.key = o.versionKey) (hstored : (store.occurrences.find o.id).isSome) :
    ∃ run store', EndsWith host ports (ensureRun version o now) store run store' ∧
      PassHealthy active timers pass store' ∧ store'.runs.find run.id = some run ∧
      SameSetting store store' ∧ store'.occurrences = store.occurrences := by
  have hread : (request (.run ⟨o.id⟩)).run (automationApply host ports) store =
      (.ok (store.runs.find ⟨o.id⟩), store) := rfl
  cases hfound : store.runs.find ⟨o.id⟩ with
  | some run =>
    have hid := (find_eq_some.mp hfound).2
    refine ⟨run, store, ?_, h, by rw [hid, hfound], .refl _, rfl⟩
    refine EndsWith.bind (endsWith_ask hread) ?_
    rw [hfound]
    exact endsWith_pure _
  | none =>
    -- no run yet; the new one is named after its occurrence, so it clashes with none
    generalize hrun : newRun version.version.plan version.version.document.provenance.authorId o now = run
    have hid : run.id = ⟨o.id⟩ := by rw [← hrun]; rfl
    have hocc : run.occurrenceId = o.id := by rw [← hrun]; rfl
    have hrunKey : run.versionKey = o.versionKey := by rw [← hrun]; rfl
    have hlive : run.state.isTerminal = false := by rw [← hrun]; rfl
    have hrevision : run.revision = 0 := by rw [← hrun]; rfl
    have hnew : store.runs.find run.id = none := by rw [hid, hfound]
    have hversion : (store.loadVersion run.automationId run.version).isNone = false := by
      have hsome := h.versions version hmem
      rw [hkey, ← hrunKey] at hsome
      have hload : (store.loadVersion run.automationId run.version).isSome = true := hsome
      rw [Option.isNone_eq_false_iff]
      exact hload
    have hcreate : store.createRun run = .ok { store with runs := store.runs.insert run hnew } := by
      have hfree : store.runs.rows.any (fun other => other.occurrenceId == run.occurrenceId) = false := by
        rw [List.any_eq_false]
        intro other hother heq
        have hotherId : other.id = run.id := by
          rw [h.traced.named other hother, hid, beq_iff_eq.mp heq, hocc]
        exact find_eq_none.mp hnew other hother hotherId
      have hpresent : (store.occurrences.find run.occurrenceId).isNone = false := by
        rw [hocc, Option.isNone_eq_false_iff]
        exact hstored
      unfold AutomationStore.createRun
      rw [if_neg (not_not.mpr hrevision)]
      split
      · rename_i hexisting
        rw [hnew] at hexisting
        cases hexisting
      · rw [if_neg]
        rw [hfree, hpresent, hversion]
        simp
    have hfind : ∀ id, (store.runs.insert run hnew).find id =
        if run.id = id then some run else store.runs.find id := fun id => find_insert
    refine ⟨run, { store with runs := store.runs.insert run hnew }, ?_, ?_, ?_, ⟨rfl, rfl, rfl⟩, rfl⟩
    · refine EndsWith.bind (endsWith_ask hread) ?_
      rw [hfound]
      dsimp only
      rw [hrun]
      exact EndsWith.bind (endsWith_ask (commitResult_ok hcreate)) (endsWith_pure _)
    · refine ⟨h.traced.createRun (hid.trans (by rw [hocc])) hcreate, h.versions, ?_, h.distinct, ?_, ?_⟩
      · intro item hitem hitemLive
        show (store.runs.insert run hnew).find item.id = some item
        have hknown := h.known item hitem hitemLive
        rw [hfind, if_neg]
        · exact hknown
        · intro heq
          rw [← heq, hnew] at hknown
          cases hknown
      · intro other hother hotherLive hrestarts
        replace hother : other ∈ (store.runs.insert run hnew).rows := hother
        have hof : ({ store with runs := store.runs.insert run hnew } : AutomationStore).traceOf other.id =
            store.traceOf other.id := traceOf_congr rfl _
        rw [hof]
        rcases mem_insert.mp hother with hother | rfl
        · exact h.short other hother hotherLive hrestarts
        · rw [h.traced.traceOf_absent hnew]
          exact Nat.zero_le _
      · intro timer htimer hrecoverable hrows
        apply h.timers timer htimer hrecoverable
        intro row hrow
        apply hrows row
        show (store.runs.insert run hnew).find timer.runId = some row
        rw [hfind, if_neg]
        · exact hrow
        · intro heq
          rw [← heq, hnew] at hrow
          cases hrow
    · show (store.runs.insert run hnew).find run.id = some run
      rw [hfind, if_pos rfl]

theorem PassHealthy.startRun (h : PassHealthy active timers pass store) (hmem : version ∈ active)
    (hkey : version.key = o.versionKey) (hstored : (store.occurrences.find o.id).isSome) :
    ∃ pass' store', EndsWith host ports (startRun version o now pass) store pass' store' ∧
      PassHealthy active timers pass' store' ∧ pass'.deferred = pass.deferred ∧
      SameSetting store store' ∧ store'.occurrences = store.occurrences := by
  obtain ⟨run, store', hends, h', hfind, hsetting, hocc⟩ := h.ensureRun hmem hkey hstored
  refine ⟨_, store', EndsWith.bind hends (endsWith_pure _), ?_, rfl, hsetting, hocc⟩
  refine ⟨h'.traced, h'.versions, ?_, ?_, h'.short, h'.timers⟩
  · intro item hitem hlive
    dsimp only at hitem
    split at hitem
    · rcases mem_append.mp hitem with hitem | hitem
      · exact h'.known item hitem hlive
      · rw [mem_singleton.mp hitem]
        exact hfind
    · exact h'.known item hitem hlive
  · dsimp only
    split
    · rename_i hall
      rw [map_append, nodup_append]
      refine ⟨h'.distinct, nodup_singleton _, ?_⟩
      intro a ha b hb heq
      obtain ⟨item, hitem, rfl⟩ := List.mem_map.mp ha
      rw [mem_singleton.mp hb] at heq
      have hne := List.all_eq_true.mp hall.2 item hitem
      simp [heq] at hne
    · exact h'.distinct

theorem transitionOccurrence_succeeds (hf : store.occurrences.find o.id = some o)
    (hscheduled : o.state = .scheduled) (hstate : state ≠ .scheduled) :
    store.transitionOccurrence { o with state := state } =
      .ok { store with occurrences := store.occurrences.replace { o with state := state } } := by
  have hallow : o.state.allowsTransitionTo state = true := by
    rw [hscheduled]
    cases state <;> first | rfl | exact absurd rfl hstate
  have hsame : o.sameIdentity { o with state := state } = true := by
    simp [AutomationOccurrence.sameIdentity]
  unfold AutomationStore.transitionOccurrence
  rw [hf]
  simp [hallow, hsame]

theorem find_transition (hf : store.occurrences.find o.id = some o) (id : AutomationOccurrenceId) :
    (store.occurrences.replace { o with state := state }).find id =
      if o.id = id then some { o with state := state } else store.occurrences.find id := by
  have hold : store.occurrences.find ({ o with state := state } : AutomationOccurrence).id = some o := hf
  exact find_replace hold

structure Handled (active : List ActiveAutomationVersion) (timers : List AutomationTimer)
    (version : ActiveAutomationVersion) (now : Instant) (o : AutomationOccurrence)
    (pass : RecoveryPass) (store : AutomationStore) (pass' : RecoveryPass) (store' : AutomationStore) :
    Prop where
  healthy : PassHealthy active timers pass' store'
  setting : SameSetting store store'
  others : ∀ id, id ≠ o.id → store'.occurrences.find id = store.occurrences.find id
  settled : o.state ≠ .scheduled → store'.occurrences.find o.id = store.occurrences.find o.id
  decided : o.state = .scheduled → o.occurredAt ≤ now →
    (∃ row, store'.occurrences.find o.id = some row ∧ row.state ≠ .scheduled) ∨ o ∈ pass'.deferred
  restarted : version.version.plan.runMode = .restart → o.state = .scheduled → o.occurredAt ≤ now →
    now ≤ o.windowEndsAt → store'.occurrences.find o.id = some { o with state := .accepted }
  deferred : pass'.deferred = pass.deferred ∨ pass'.deferred = pass.deferred ++ [o]

section
variable {version : ActiveAutomationVersion} {now : Instant} {o : AutomationOccurrence}

theorem PassHealthy.dismiss (h : PassHealthy active timers pass store) (hf : store.occurrences.find o.id = some o)
    (hscheduled : o.state = .scheduled) (hstate : state ≠ .scheduled)
    (hnot : version.version.plan.runMode = .restart → o.occurredAt ≤ now → ¬ now ≤ o.windowEndsAt)
    (hruns : pass'.activeRuns = pass.activeRuns) (hdeferred : pass'.deferred = pass.deferred) :
    ∃ final store', EndsWith host ports (do
        ask (request (.transitionOccurrence { o with state := state }))
        pure pass') store final store' ∧
      Handled active timers version now o pass store final store' := by
  have hmove := transitionOccurrence_succeeds hf hscheduled hstate
  refine ⟨pass', _, EndsWith.bind (endsWith_ask (commitResult_ok hmove)) (endsWith_pure _), ?_⟩
  refine ⟨h.same hruns rfl rfl rfl rfl, ⟨rfl, rfl, rfl⟩, ?_, ?_, ?_, ?_, .inl hdeferred⟩
  · intro id hid
    show (store.occurrences.replace { o with state := state }).find id = store.occurrences.find id
    rw [find_transition hf, if_neg (fun heq => hid heq.symm)]
  · exact fun hne => absurd hscheduled hne
  · intro _ _
    refine .inl ⟨{ o with state := state }, ?_, hstate⟩
    show (store.occurrences.replace { o with state := state }).find o.id = _
    rw [find_transition hf, if_pos rfl]
  · exact fun hrestart _ hdue hwindow => absurd hwindow (hnot hrestart hdue)

/-- Accepting an occurrence keeps what the pass knows of the store. -/
theorem PassHealthy.accept (h : PassHealthy active timers pass store)
    (hdistinct : (timers.map AutomationTimer.id).Nodup) (hmem : version ∈ active)
    (hkey : version.key = o.versionKey) (hf : store.occurrences.find o.id = some o)
    (hscheduled : o.state = .scheduled) :
    ∃ pass' store', EndsWith host ports (acceptOccurrence version o now timers pass) store pass' store' ∧
      Handled active timers version now o pass store pass' store' := by
  obtain ⟨roomy, middle, hroom, h1, hdeferred, hsetting, hocc⟩ := h.makeRoom hdistinct hmem hkey
  have hf1 : middle.occurrences.find o.id = some o := by
    rw [hocc]
    exact hf
  have hmove := transitionOccurrence_succeeds hf1 hscheduled
    (show AutomationOccurrenceState.accepted ≠ .scheduled from fun hf => nomatch hf)
  let counted := roomy.setCount o.versionKey (roomy.activeCounts o.versionKey + 1)
  have h2 : PassHealthy active timers
      { counted with result := { counted.result with accepted := counted.result.accepted + 1 } }
      { middle with occurrences := middle.occurrences.replace { o with state := .accepted } } :=
    h1.same rfl rfl rfl rfl rfl
  have hfound : ∀ id, (middle.occurrences.replace { o with state := .accepted }).find id =
      if o.id = id then some { o with state := .accepted } else store.occurrences.find id := by
    intro id
    rw [find_transition hf1, hocc]
  have hstored : ((middle.occurrences.replace { o with state := .accepted }).find o.id).isSome := by
    rw [hfound, if_pos rfl]
    rfl
  have hkey' : version.key = ({ o with state := .accepted } : AutomationOccurrence).versionKey := hkey
  obtain ⟨pass', store', hstart, h3, hdeferred', hsetting', hocc'⟩ := h2.startRun hmem hkey' hstored
  refine ⟨pass', store', ?_, ?_⟩
  · refine EndsWith.bind hroom ?_
    exact EndsWith.bind (endsWith_ask (commitResult_ok hmove)) hstart
  · have hrow : store'.occurrences.find o.id = some { o with state := .accepted } := by
      rw [hocc']
      show (middle.occurrences.replace { o with state := .accepted }).find o.id = _
      rw [hfound, if_pos rfl]
    refine ⟨h3, ?_, ?_, ?_, ?_, ?_, ?_⟩
    · exact hsetting.trans ⟨hsetting'.identities, hsetting'.versions, hsetting'.eventCursor⟩
    · intro id hid
      rw [hocc']
      show (middle.occurrences.replace { o with state := .accepted }).find id = _
      rw [hfound, if_neg (fun heq => hid heq.symm)]
    · exact fun hne => absurd hscheduled hne
    · exact fun _ _ => .inl ⟨_, hrow, fun hf => nomatch hf⟩
    · exact fun _ _ _ _ => hrow
    · refine .inl (hdeferred'.trans ?_)
      exact hdeferred

/-- One occurrence of the page. -/
theorem PassHealthy.recover (h : PassHealthy active timers pass store)
    (hdistinct : (timers.map AutomationTimer.id).Nodup) (hmem : version ∈ active)
    (hkey : version.key = o.versionKey) (hf : store.occurrences.find o.id = some o) :
    ∃ pass' store', EndsWith host ports (recoverOccurrence version o now timers pass) store pass' store' ∧
      Handled active timers version now o pass store pass' store' := by
  unfold recoverOccurrence
  split
  · rename_i hscheduled
    split
    · rename_i hmissed
      exact h.dismiss hf hscheduled (fun hf => nomatch hf) (fun _ _ => not_le.mpr hmissed) rfl rfl
    split
    · rename_i hfuture
      refine ⟨pass, store, endsWith_pure _, h, .refl _, fun _ _ => rfl, fun _ => rfl, ?_, ?_, .inl rfl⟩
      · exact fun _ hdue => absurd hdue (not_le.mpr hfuture)
      · exact fun _ _ hdue => absurd hdue (not_le.mpr hfuture)
    split
    · rename_i hroom
      refine ⟨_, store, endsWith_pure _, h.same rfl rfl rfl rfl rfl, .refl _, fun _ _ => rfl,
        fun _ => rfl, ?_, ?_, .inr rfl⟩
      · exact fun _ _ => .inr (mem_append_right _ (mem_singleton.mpr rfl))
      · intro hrestart
        rw [hrestart] at hroom
        cases hroom
    · rename_i hroom
      refine h.dismiss hf hscheduled (fun hf => nomatch hf) ?_ rfl rfl
      intro hrestart
      rw [hrestart] at hroom
      cases hroom
    · exact h.accept hdistinct hmem hkey hf hscheduled
  split
  · rename_i hscheduled haccepted
    obtain ⟨pass', store', hends, h', hdeferred, hsetting, hocc⟩ :=
      h.startRun hmem hkey (by rw [hf]; rfl)
    refine ⟨pass', store', hends, h', hsetting, ?_, ?_, ?_, ?_, .inl hdeferred⟩
    · rw [hocc]
      exact fun _ _ => rfl
    · rw [hocc]
      exact fun _ => rfl
    · exact fun hs => absurd hs hscheduled
    · exact fun _ hs => absurd hs hscheduled
  · rename_i hscheduled _
    refine ⟨pass, store, endsWith_pure _, h, .refl _, fun _ _ => rfl, fun _ => rfl, ?_, ?_, .inl rfl⟩
    · exact fun hs => absurd hs hscheduled
    · exact fun _ hs => absurd hs hscheduled

end

structure PassDone (active : List ActiveAutomationVersion) (timers : List AutomationTimer)
    (now : Instant) (rest : List AutomationOccurrence) (pass : RecoveryPass) (store : AutomationStore)
    (pass' : RecoveryPass) (store' : AutomationStore) : Prop where
  healthy : PassHealthy active timers pass' store'
  setting : SameSetting store store'
  kept : ∀ id, (∀ o ∈ rest, o.id = id → activeFor active o = none ∨ o.state ≠ .scheduled) →
    store'.occurrences.find id = store.occurrences.find id
  decided : ∀ o ∈ rest, activeFor active o ≠ none → o.state = .scheduled → o.occurredAt ≤ now →
    (∃ row, store'.occurrences.find o.id = some row ∧ row.state ≠ .scheduled) ∨ o ∈ pass'.deferred
  restarted : ∀ o ∈ rest, ∀ version, activeFor active o = some version →
    version.version.plan.runMode = .restart → o.state = .scheduled → o.occurredAt ≤ now →
    now ≤ o.windowEndsAt → store'.occurrences.find o.id = some { o with state := .accepted }
  deferred : ∀ o ∈ pass'.deferred, o ∈ pass.deferred ∨ (o ∈ rest ∧ activeFor active o ≠ none)
  grown : ∀ o ∈ pass.deferred, o ∈ pass'.deferred

/-- An occurrence already handled keeps its row through the rest of the loop. -/
theorem Handled.done
    {middle : RecoveryPass} {between : AutomationStore} (hactive : activeFor active o = some version)
    (hfirst : Handled active timers version now o pass store middle between)
    (hrest : PassDone active timers now rest middle between pass' store')
    (hnew : o.id ∉ rest.map AutomationOccurrence.id) :
    PassDone active timers now (o :: rest) pass store pass' store' := by
  have hother : ∀ other ∈ rest, other.id ≠ o.id := by
    intro other hmem heq
    exact hnew (heq ▸ List.mem_map_of_mem hmem)
  have hrow : store'.occurrences.find o.id = between.occurrences.find o.id :=
    hrest.kept o.id (fun other hmem heq => absurd heq (hother other hmem))
  refine ⟨hrest.healthy, hfirst.setting.trans hrest.setting, ?_, ?_, ?_, ?_, ?_⟩
  · intro id hid
    rw [hrest.kept id (fun other hmem => hid other (mem_cons_of_mem _ hmem))]
    by_cases heq : o.id = id
    · rcases hid o mem_cons_self heq with hnone | hstate
      · rw [hactive] at hnone
        cases hnone
      · rw [← heq]
        exact hfirst.settled hstate
    · exact hfirst.others id (fun h => heq h.symm)
  · intro other hmem hfor hscheduled hdue
    rcases mem_cons.mp hmem with rfl | hmem
    · rw [hrow]
      rcases hfirst.decided hscheduled hdue with hdecided | hdeferred
      · exact .inl hdecided
      · exact .inr (hrest.grown _ hdeferred)
    · exact hrest.decided other hmem hfor hscheduled hdue
  · intro other hmem chosen hfor hrestart hscheduled hdue hwindow
    rcases mem_cons.mp hmem with rfl | hmem
    · rw [hactive, Option.some.injEq] at hfor
      rw [hrow]
      exact hfirst.restarted (hfor ▸ hrestart) hscheduled hdue hwindow
    · exact hrest.restarted other hmem chosen hfor hrestart hscheduled hdue hwindow
  · intro other hmem
    rcases hrest.deferred other hmem with hmem | ⟨hmem, hfor⟩
    · rcases hfirst.deferred with hsame | hsame
      · rw [hsame] at hmem
        exact .inl hmem
      · rw [hsame] at hmem
        rcases mem_append.mp hmem with hmem | hmem
        · exact .inl hmem
        · rw [mem_singleton.mp hmem]
          refine .inr ⟨mem_cons_self, ?_⟩
          rw [hactive]
          exact Option.some_ne_none version
    · exact .inr ⟨mem_cons_of_mem _ hmem, hfor⟩
  · intro other hmem
    apply hrest.grown
    rcases hfirst.deferred with hsame | hsame
    · rw [hsame]
      exact hmem
    · rw [hsame]
      exact mem_append_left _ hmem

theorem PassDone.skip (hnone : activeFor active o = none)
    (hrest : PassDone active timers now rest pass store pass' store') :
    PassDone active timers now (o :: rest) pass store pass' store' := by
  refine ⟨hrest.healthy, hrest.setting, ?_, ?_, ?_, ?_, hrest.grown⟩
  · exact fun id hid => hrest.kept id (fun other hmem => hid other (mem_cons_of_mem _ hmem))
  · intro other hmem hfor
    rcases mem_cons.mp hmem with rfl | hmem
    · exact absurd hnone hfor
    · exact hrest.decided other hmem hfor
  · intro other hmem version hfor
    rcases mem_cons.mp hmem with rfl | hmem
    · rw [hnone] at hfor
      cases hfor
    · exact hrest.restarted other hmem version hfor
  · intro other hmem
    rcases hrest.deferred other hmem with hmem | ⟨hmem, hfor⟩
    · exact .inl hmem
    · exact .inr ⟨mem_cons_of_mem _ hmem, hfor⟩

/-- The loop goes through and handles every occurrence of an active version. -/
theorem recoverOccurrences_endsWith (now : Instant)
    (hdistinct : (timers.map AutomationTimer.id).Nodup) (rest : List AutomationOccurrence)
    (h : PassHealthy active timers pass store)
    (hstored : ∀ o ∈ rest, store.occurrences.find o.id = some o)
    (hnodup : (rest.map AutomationOccurrence.id).Nodup) :
    ∃ pass' store',
      EndsWith host ports (recoverOccurrences active now timers rest pass) store pass' store' ∧
      PassDone active timers now rest pass store pass' store' := by
  induction rest generalizing pass store with
  | nil =>
    refine ⟨pass, store, endsWith_pure _, h, .refl _, fun _ _ => rfl, ?_, ?_, fun _ hx => .inl hx,
      fun _ hx => hx⟩
    · intro o hmem
      cases hmem
    · intro o hmem
      cases hmem
  | cons o rest ih =>
    rw [map_cons, nodup_cons] at hnodup
    unfold recoverOccurrences
    split
    · rename_i hnone
      obtain ⟨pass', store', hends, hdone⟩ :=
        ih h (fun other hmem => hstored other (mem_cons_of_mem _ hmem)) hnodup.2
      exact ⟨pass', store', hends, hdone.skip hnone⟩
    · rename_i version hactive
      have hkey : version.key = o.versionKey := by
        have hp := List.find?_some hactive
        simpa using hp
      have hmem : version ∈ active := List.mem_of_find?_eq_some hactive
      obtain ⟨middle, between, hends, hhandled⟩ : ∃ middle between,
          EndsWith host ports (recoverOccurrence version o now timers pass) store middle between ∧
          Handled active timers version now o pass store middle between :=
        h.recover hdistinct hmem hkey (hstored o mem_cons_self)
      have hstored' : ∀ other ∈ rest, between.occurrences.find other.id = some other := by
        intro other hother
        rw [hhandled.others]
        · exact hstored other (mem_cons_of_mem _ hother)
        · intro heq
          exact hnodup.1 (heq ▸ List.mem_map_of_mem hother)
      obtain ⟨pass', store', hends', hdone⟩ := ih hhandled.healthy hstored' hnodup.2
      exact ⟨pass', store', EndsWith.bind hends hends', hhandled.done hactive hdone hnodup.1⟩

def dueReady (now : Instant) (timer : AutomationTimer) : AutomationTimer :=
  if timer.state = .pending ∧ timer.readyAt ≤ now then { timer with state := .ready } else timer

theorem dueReady_id (now : Instant) (timer : AutomationTimer) : (dueReady now timer).id = timer.id := by
  unfold dueReady
  split <;> rfl

theorem map_dueReady_ids (now : Instant) (timers : List AutomationTimer) :
    (timers.map (dueReady now)).map AutomationTimer.id = timers.map AutomationTimer.id := by
  rw [List.map_map]
  exact map_congr_left (fun timer _ => dueReady_id now timer)

/-- Due timers become ready; the others are left as they are. -/
theorem readyTimers_endsWith (now : Instant) (timers : List AutomationTimer) (count : ℕ)
    (hstored : ∀ timer ∈ timers, store.timers.find timer.id = some timer)
    (hdistinct : (timers.map AutomationTimer.id).Nodup) :
    ∃ count' store', EndsWith host ports (readyTimers now timers count) store
        (timers.map (dueReady now), count') store' ∧
      (∀ timer ∈ timers.map (dueReady now), store'.timers.find timer.id = some timer) ∧
      (∀ id, id ∉ timers.map AutomationTimer.id → store'.timers.find id = store.timers.find id) ∧
      SameWork store store' ∧ store'.trace = store.trace := by
  induction timers generalizing store count with
  | nil =>
    refine ⟨count, store, endsWith_pure _, ?_, fun _ _ => rfl, .refl _, rfl⟩
    intro timer hmem
    cases hmem
  | cons timer rest ih =>
    rw [map_cons, nodup_cons] at hdistinct
    have hf := hstored timer mem_cons_self
    unfold readyTimers
    split
    · rename_i hdue
      have hfirst : dueReady now timer = { timer with state := .ready } := if_pos hdue
      have hmove : store.transitionTimer { timer with state := .ready } =
          .ok { store with timers := store.timers.replace { timer with state := .ready } } :=
        transitionTimer_succeeds hf (by rw [hdue.1]; rfl)
      have hfind : ∀ id, (store.timers.replace { timer with state := .ready }).find id =
          if timer.id = id then some { timer with state := .ready } else store.timers.find id := by
        intro id
        have hold : store.timers.find ({ timer with state := .ready } : AutomationTimer).id =
            some timer := hf
        exact find_replace hold
      have hstored' : ∀ other ∈ rest,
          (store.timers.replace { timer with state := .ready }).find other.id = some other := by
        intro other hmem
        rw [hfind, if_neg]
        · exact hstored other (mem_cons_of_mem _ hmem)
        · intro heq
          exact hdistinct.1 (heq ▸ List.mem_map_of_mem hmem)
      obtain ⟨count', store', hends, hready, hothers, hsame, htrace⟩ := @ih
        { store with timers := store.timers.replace { timer with state := .ready } } (count + 1)
        hstored' hdistinct.2
      refine ⟨count', store', ?_, ?_, ?_, ?_, htrace⟩
      · rw [map_cons, hfirst]
        exact EndsWith.bind (endsWith_ask (commitResult_ok hmove)) (EndsWith.bind hends (endsWith_pure _))
      · intro other hmem
        rw [map_cons, hfirst] at hmem
        rcases mem_cons.mp hmem with rfl | hmem
        · show store'.timers.find timer.id = _
          rw [hothers timer.id hdistinct.1]
          show (store.timers.replace { timer with state := .ready }).find timer.id = _
          rw [hfind, if_pos rfl]
        · exact hready other hmem
      · intro id hid
        rw [map_cons, mem_cons, not_or] at hid
        rw [hothers id hid.2]
        show (store.timers.replace { timer with state := .ready }).find id = _
        rw [hfind, if_neg (fun heq => hid.1 heq.symm)]
      · exact ⟨hsame.identities, hsame.versions, hsame.occurrences, hsame.runs, hsame.eventCursor,
          hsame.drafts, hsame.approvals⟩
    · rename_i hdue
      have hfirst : dueReady now timer = timer := if_neg hdue
      obtain ⟨count', store', hends, hready, hothers, hsame, htrace⟩ :=
        ih count (fun other hmem => hstored other (mem_cons_of_mem _ hmem)) hdistinct.2
      refine ⟨count', store', ?_, ?_, ?_, hsame, htrace⟩
      · rw [map_cons, hfirst]
        exact EndsWith.bind hends (endsWith_pure _)
      · intro other hmem
        rw [map_cons, hfirst] at hmem
        rcases mem_cons.mp hmem with rfl | hmem
        · rw [hothers other.id hdistinct.1]
          exact hf
        · exact hready other hmem
      · intro id hid
        rw [map_cons, mem_cons, not_or] at hid
        exact hothers id hid.2

/-- The whole recovery pass of a tick. -/
theorem processRecovery_endsWith (active : List ActiveAutomationVersion) (scheduled : ℕ)
    (ht : Traced store)
    (hversions : ∀ version ∈ active, (store.loadVersion version.key.1 version.key.2).isSome)
    (hshort : ∀ run ∈ store.runs.rows, run.state.isTerminal = false → restarts active run.versionKey →
      (store.traceOf run.id).length ≤ maxQueryPage) :
    ∃ pass store' timers between ready,
      EndsWith host ports (processRecovery active scheduled) store pass store' ∧
      between.occurrences = store.occurrences ∧ SameSetting store between ∧
      PassDone active timers ports.now (store.recover host recoveryPage).occurrences
        (.initial (store.recover host recoveryPage).runs scheduled ready) between pass store' := by
  have hstored : ∀ timer ∈ (store.recover host recoveryPage).timers,
      store.timers.find timer.id = some timer := by
    intro timer hmem
    exact find_eq_some.mpr ⟨(mem_of_mem_page hmem).1, rfl⟩
  obtain ⟨ready, between, hready, htimers, _, hsame, htrace⟩ :=
    readyTimers_endsWith ports.now (store.recover host recoveryPage).timers 0 hstored
      (nodup_page _ _ _ _)
  generalize htimersEq : (store.recover host recoveryPage).timers.map (dueReady ports.now) = timers
    at hready htimers
  have hdistinct : (timers.map AutomationTimer.id).Nodup := by
    rw [← htimersEq, map_dueReady_ids]
    exact nodup_page _ _ _ _
  have hhealthy : PassHealthy active timers
      (.initial (store.recover host recoveryPage).runs scheduled ready) between := by
    refine ⟨ht.same hsame.runs htrace, ?_, ?_, nodup_page _ _ _ _, ?_, fun timer hmem _ _ =>
      htimers timer hmem⟩
    · unfold AutomationStore.loadVersion
      rw [hsame.versions]
      exact hversions
    · intro run hmem _
      rw [hsame.runs]
      exact find_eq_some.mpr ⟨(mem_of_mem_page hmem).1, rfl⟩
    · intro run hrun hlive hrestarts
      rw [hsame.runs] at hrun
      rw [traceOf_congr htrace]
      exact hshort run hrun hlive hrestarts
  have hrows : ∀ o ∈ (store.recover host recoveryPage).occurrences,
      between.occurrences.find o.id = some o := by
    intro o hmem
    rw [hsame.occurrences]
    exact find_eq_some.mpr ⟨(mem_of_mem_page hmem).1, rfl⟩
  obtain ⟨pass, store', hends, hdone⟩ := recoverOccurrences_endsWith ports.now hdistinct
    (store.recover host recoveryPage).occurrences hhealthy hrows (nodup_page _ _ _ _)
  refine ⟨pass, store', timers, between, ready, ?_, hsame.occurrences,
    ⟨hsame.identities, hsame.versions, hsame.eventCursor⟩, hdone⟩
  have hnow : EndsWith host ports clockNow store ports.now store := rfl
  refine EndsWith.bind hnow ?_
  refine EndsWith.bind (endsWith_ask rfl) ?_
  exact EndsWith.bind hready hends

end

end HomeMagic
