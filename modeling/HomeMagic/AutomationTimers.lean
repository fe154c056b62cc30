import HomeMagic.AutomationTrace
import HomeMagic.AutomationStepEffects
import HomeMagic.Fallible

/-! The timers of a run in the store. Only the steps of the run create, consume and cancel
them; meanwhile the scheduler may ready a pending one. -/
namespace HomeMagic
open List Table AutomationStore Fallible

def AutomationTimer.IsNamed (timer : AutomationTimer) : Prop :=
  timer.id = ⟨timer.runId, timer.nodeId, timer.kind, timestampMillis timer.readyAt⟩

structure TimerMoved (row timer : AutomationTimer) : Prop where
  runId : row.runId = timer.runId
  nodeId : row.nodeId = timer.nodeId
  kind : row.kind = timer.kind
  readyAt : row.readyAt = timer.readyAt
  state : row.state.allowsTransitionTo timer.state = true

def Readied (read row : AutomationTimer) : Prop :=
  row = read ∨ (read.state = .pending ∧ row = { read with state := .ready })

variable {row timer read : AutomationTimer} {write : AutomationStepWrite} {run : AutomationRun}
  {timers : List AutomationTimer} {c : AutomationCall} {r : c.Response}

theorem Readied.id (h : Readied read row) : row.id = read.id := by
  rcases h with rfl | ⟨_, rfl⟩ <;> rfl

theorem Readied.runId (h : Readied read row) :
    row.runId = read.runId := by
  rcases h with rfl | ⟨_, rfl⟩ <;> rfl

theorem Readied.isRecoverable (h : Readied read row) :
    row.isRecoverable = read.isRecoverable := by
  rcases h with rfl | ⟨hpending, rfl⟩
  · rfl
  · simp [AutomationTimer.isRecoverable, hpending]

theorem Readied.consumed (h : Readied read row) (hready : read.state = .ready) :
    TimerMoved row { read with state := .consumed } := by
  rcases h with rfl | ⟨hpending, _⟩
  · exact ⟨rfl, rfl, rfl, rfl, by rw [hready]; rfl⟩
  · rw [hready] at hpending
    cases hpending

theorem Readied.cancelled (h : Readied read row) (hrecoverable : read.isRecoverable = true) :
    TimerMoved row { read with state := .cancelled } := by
  have hstate : row.state.allowsTransitionTo .cancelled = true := by
    rw [← h.isRecoverable] at hrecoverable
    cases hs : row.state <;> simp [AutomationTimer.isRecoverable, hs] at hrecoverable <;> rfl
  rcases h with rfl | ⟨_, rfl⟩ <;> exact ⟨rfl, rfl, rfl, rfl, hstate⟩

variable {id : AutomationTimerId}

namespace AutomationStore
variable {store store' : AutomationStore}

theorem transitionTimer_spec (h : store.transitionTimer timer = .ok store') :
    ∃ row, store.timers.find timer.id = some row ∧ TimerMoved row timer ∧
      store' = { store with timers := store.timers.replace timer } := by
  unfold transitionTimer at h
  split at h
  · cases h
  rename_i row hf
  split at h
  · cases h
  rename_i hok
  cases h
  simp only [not_or, ne_eq, not_not, Bool.not_eq_false] at hok
  obtain ⟨hrun, hnode, hkind, hready, hstate⟩ := hok
  exact ⟨row, hf, ⟨hrun, hnode, hkind, hready, hstate⟩, rfl⟩

theorem transitionTimer_moved (hf : store.timers.find timer.id = some row) (hm : TimerMoved row timer) :
    store.transitionTimer timer = .ok { store with timers := store.timers.replace timer } := by
  unfold transitionTimer
  rw [hf]
  simp [hm.runId, hm.nodeId, hm.kind, hm.readyAt, hm.state]

theorem createTimer_spec (h : store.createTimer timer = .ok store') :
    (store' = store ∧ store.timers.find timer.id = some timer) ∨
    (store.runs.find timer.runId ≠ none ∧ ∃ hnew,
      store' = { store with timers := store.timers.insert timer hnew }) := by
  unfold createTimer at h
  split at h
  · rename_i existing hf
    split at h
    · rename_i hsame
      cases h
      exact .inl ⟨rfl, hsame ▸ hf⟩
    · cases h
  · rename_i hnew
    split at h
    · cases h
    · rename_i howned
      cases h
      exact .inr ⟨by simpa [Option.isNone_iff_eq_none] using howned, hnew, rfl⟩

theorem createTimer_fresh {timer : AutomationTimer} (hnew : store.timers.find timer.id = none)
    (howned : store.runs.find timer.runId ≠ none) :
    store.createTimer timer = .ok { store with timers := store.timers.insert timer hnew } := by
  unfold createTimer
  split
  · rename_i hf
    rw [hnew] at hf
    cases hf
  · rw [if_neg]
    rwa [Option.isNone_iff_eq_none]

theorem moveTimers_succeeds (timers : List AutomationTimer)
    (hdistinct : (timers.map AutomationTimer.id).Nodup)
    (hstored : ∀ timer ∈ timers, ∃ row, store.timers.find timer.id = some row ∧
      TimerMoved row timer) : ∃ store', timers.foldlM transitionTimer store = .ok store' := by
  induction timers generalizing store with
  | nil => exact ⟨store, rfl⟩
  | cons timer rest ih =>
    rw [map_cons, nodup_cons] at hdistinct
    obtain ⟨row, hf, hm⟩ := hstored timer mem_cons_self
    -- the other rows are as before the first move
    have hrest : ∀ other ∈ rest, ∃ row, (store.timers.replace timer).find other.id = some row ∧
        TimerMoved row other := by
      intro other hmem
      have hne : timer.id ≠ other.id := by
        intro heq
        exact hdistinct.1 (heq ▸ List.mem_map_of_mem hmem)
      rw [find_replace hf, if_neg hne]
      exact hstored other (mem_cons_of_mem _ hmem)
    obtain ⟨store', hfold⟩ := @ih { store with timers := store.timers.replace timer } hdistinct.2 hrest
    refine ⟨store', ?_⟩
    rw [foldlM_cons, transitionTimer_moved hf hm]
    exact hfold

theorem moveTimers_frame (h : timers.foldlM transitionTimer store = .ok store')
    (hid : id ∉ timers.map AutomationTimer.id) : store'.timers.find id = store.timers.find id := by
  refine foldlM_keeps (I := fun s => s.timers.find id = store.timers.find id) ?_ h rfl
  intro timer hmem s s' hmove hsame
  obtain ⟨row, hf, _, rfl⟩ := transitionTimer_spec hmove
  have hne : timer.id ≠ id := by
    rintro rfl
    exact hid (List.mem_map_of_mem hmem)
  rw [← hsame]
  exact (find_replace hf).trans (if_neg hne)

theorem createTimers_frame (h : timers.foldlM createTimer store = .ok store')
    (hid : id ∉ timers.map AutomationTimer.id) : store'.timers.find id = store.timers.find id := by
  refine foldlM_keeps (I := fun s => s.timers.find id = store.timers.find id) ?_ h rfl
  intro timer hmem s s' hcreate hsame
  have hne : timer.id ≠ id := by
    rintro rfl
    exact hid (List.mem_map_of_mem hmem)
  rcases createTimer_spec hcreate with ⟨rfl, _⟩ | ⟨_, hnew, rfl⟩
  · exact hsame
  · rw [← hsame]
    exact (find_insert (h := hnew)).trans (if_neg hne)

theorem appendTrace_timers {entries : List AutomationTraceStep}
    (h : entries.foldlM appendTrace store = .ok store') : store'.timers = store.timers := by
  refine foldlM_keeps (I := fun s => s.timers = store.timers) ?_ h rfl
  intro entry _ s s' happend hsame
  obtain ⟨_, _, rfl⟩ := appendTrace_spec happend
  exact hsame

theorem commitStep_frame (h : store.commitStep write = .ok store')
    (hcreated : id ∉ write.createTimers.map AutomationTimer.id)
    (hmoved : id ∉ write.transitionTimers.map AutomationTimer.id) :
    store'.timers.find id = store.timers.find id := by
  obtain ⟨_, s1, s2, s3, hrun, hcreate, hmove, htrace⟩ := commitStep_stages h
  obtain ⟨current, _, _, rfl⟩ := transitionRun_spec hrun
  rw [appendTrace_timers htrace, moveTimers_frame hmove hmoved, createTimers_frame hcreate hcreated]

theorem commitStep_created (h : store.commitStep write = .ok store') (hcreated : write.createTimers = [timer])
    (hmoved : timer.id ∉ write.transitionTimers.map AutomationTimer.id) :
    store'.timers.find timer.id = some timer := by
  obtain ⟨_, s1, s2, s3, hrun, hcreate, hmove, htrace⟩ := commitStep_stages h
  have hfirst : s1.createTimer timer = .ok s2 := by
    rw [hcreated] at hcreate
    simpa using hcreate
  rw [appendTrace_timers htrace, moveTimers_frame hmove hmoved]
  rcases createTimer_spec hfirst with ⟨rfl, hf⟩ | ⟨_, hnew, rfl⟩
  · exact hf
  · exact (find_insert (h := hnew)).trans (if_pos rfl)

theorem commitStep_stored (h : store.commitStep write = .ok store')
    (hid : store.timers.find id ≠ none) : store'.timers.find id ≠ none := by
  obtain ⟨_, s1, s2, s3, hrun, hcreate, hmove, htrace⟩ := commitStep_stages h
  obtain ⟨current, _, _, rfl⟩ := transitionRun_spec hrun
  rw [appendTrace_timers htrace]
  have hcreated : s2.timers.find id ≠ none := by
    refine foldlM_keeps (I := fun s => s.timers.find id ≠ none) ?_ hcreate hid
    intro timer _ s s' hok hstored
    rcases createTimer_spec hok with ⟨rfl, _⟩ | ⟨_, hnew, rfl⟩
    · exact hstored
    · show (s.timers.insert timer hnew).find id ≠ none
      rw [find_insert]
      split
      · exact Option.some_ne_none _
      · exact hstored
  refine foldlM_keeps (I := fun s => s.timers.find id ≠ none) ?_ hmove hcreated
  intro timer _ s s' hok hstored
  obtain ⟨row, hf, _, rfl⟩ := transitionTimer_spec hok
  show (s.timers.replace timer).find id ≠ none
  rw [find_replace hf]
  split
  · exact Option.some_ne_none _
  · exact hstored

end AutomationStore

structure TimersFit (store : AutomationStore) : Prop where
  named : ∀ timer ∈ store.timers.rows, timer.IsNamed
  owned : ∀ timer ∈ store.timers.rows, store.runs.find timer.runId ≠ none

section
variable {host : StoreHost} {store store' : AutomationStore}

theorem TimersFit.same (h : TimersFit store) (htimers : store'.timers = store.timers)
    (hruns : ∀ id, store.runs.find id ≠ none → store'.runs.find id ≠ none) : TimersFit store' := by
  refine ⟨?_, ?_⟩
  · rw [htimers]
    exact h.named
  · intro timer hmem
    rw [htimers] at hmem
    exact hruns _ (h.owned timer hmem)

theorem TimersFit.transitionTimer (h : TimersFit store) (hmove : store.transitionTimer timer = .ok store') :
    TimersFit store' := by
  obtain ⟨row, hf, hm, rfl⟩ := AutomationStore.transitionTimer_spec hmove
  obtain ⟨hrow, hid⟩ := find_eq_some.mp hf
  refine ⟨?_, ?_⟩
  · intro other hother
    rcases (mem_replace hf).mp hother with rfl | ⟨hother, _⟩
    · have hnamed := h.named row hrow
      unfold AutomationTimer.IsNamed at hnamed ⊢
      rw [← hid, hnamed, hm.runId, hm.nodeId, hm.kind, hm.readyAt]
    · exact h.named other hother
  · intro other hother
    rcases (mem_replace hf).mp hother with rfl | ⟨hother, _⟩
    · rw [← hm.runId]
      exact h.owned row hrow
    · exact h.owned other hother

theorem TimersFit.moved_named (h : TimersFit store)
    (hmove : timers.foldlM AutomationStore.transitionTimer store = .ok store') :
    ∀ timer ∈ timers, timer.IsNamed := by
  induction timers generalizing store with
  | nil => exact fun _ hmem => absurd hmem not_mem_nil
  | cons timer rest ih =>
    rw [foldlM_cons] at hmove
    cases hfirst : store.transitionTimer timer with
    | error error =>
      rw [hfirst] at hmove
      cases hmove
    | ok middle =>
      rw [hfirst] at hmove
      have hfit := h.transitionTimer hfirst
      obtain ⟨row, hf, _, hmiddle⟩ := AutomationStore.transitionTimer_spec hfirst
      intro other hmem
      rcases mem_cons.mp hmem with rfl | hmem
      · apply hfit.named
        rw [hmiddle]
        exact (mem_replace hf).mpr (.inl rfl)
      · exact ih hfit hmove other hmem

theorem TimersFit.createTimer (h : TimersFit store) (hn : timer.IsNamed)
    (hcreate : store.createTimer timer = .ok store') : TimersFit store' := by
  rcases AutomationStore.createTimer_spec hcreate with ⟨rfl, _⟩ | ⟨howned, hnew, rfl⟩
  · exact h
  · refine ⟨?_, ?_⟩
    · intro other hother
      rcases (mem_insert (h := hnew)).mp hother with hother | rfl
      · exact h.named other hother
      · exact hn
    · intro other hother
      rcases (mem_insert (h := hnew)).mp hother with hother | rfl
      · exact h.owned other hother
      · exact howned

theorem TimersFit.created (h : TimersFit store) {s1 s2 : AutomationStore}
    (hn : ∀ timer ∈ write.createTimers, timer.IsNamed)
    (hrun : store.transitionRun write.run write.expectedRunRevision = .ok s1)
    (hcreate : write.createTimers.foldlM AutomationStore.createTimer s1 = .ok s2) : TimersFit s2 := by
  obtain ⟨current, hf, _, rfl⟩ := AutomationStore.transitionRun_spec hrun
  have hrevised : TimersFit { store with runs := store.runs.replace write.run } := by
    refine h.same rfl ?_
    intro id hid
    show (store.runs.replace write.run).find id ≠ none
    rw [find_replace hf]
    split
    · exact Option.some_ne_none _
    · exact hid
  exact foldlM_keeps (I := TimersFit)
    (fun timer hmem _ _ hok hfit => hfit.createTimer (hn timer hmem) hok) hcreate hrevised

theorem TimersFit.commitStep (h : TimersFit store) (hn : ∀ timer ∈ write.createTimers, timer.IsNamed)
    (hcommit : store.commitStep write = .ok store') : TimersFit store' := by
  obtain ⟨_, s1, s2, s3, hrun, hcreate, hmove, htrace⟩ := AutomationStore.commitStep_stages hcommit
  have hcreated := h.created hn hrun hcreate
  have hmoved : TimersFit s3 := foldlM_keeps (I := TimersFit)
    (fun _ _ _ _ hok hfit => hfit.transitionTimer hok) hmove hcreated
  refine foldlM_keeps (I := TimersFit) ?_ htrace hmoved
  intro entry _ s s' happend hfit
  obtain ⟨_, hnew, rfl⟩ := AutomationStore.appendTrace_spec happend
  exact hfit.same rfl (fun _ hid => hid)

theorem TimersFit.retain (h : TimersFit store) (policy : AutomationRetention) :
    TimersFit (store.retain host policy) := by
  refine ⟨fun timer hmem => h.named timer (Table.mem_filter.mp hmem).1, ?_⟩
  intro timer hmem
  obtain ⟨run, hf⟩ := Option.ne_none_iff_exists'.mp (h.owned timer (Table.mem_filter.mp hmem).1)
  obtain ⟨hrun, hid⟩ := find_eq_some.mp hf
  have hstay : run ∈ (store.retain host policy).runs.rows := by
    rw [retain_runs]
    refine Table.mem_filter.mpr ⟨hrun, ?_⟩
    simp only [Bool.not_eq_true', contains_eq_mem, decide_eq_false_iff_not]
    intro hpage
    have hp := (mem_of_mem_page hpage).2
    simp only [Bool.and_eq_true, Bool.not_eq_true', List.any_eq_false] at hp
    exact hp.2 timer hmem (beq_iff_eq.mpr hid.symm)
  rw [← hid]
  exact find_ne_none hstay

theorem TimersFit.find_retain (h : TimersFit store) (hf : store.runs.find run.id = some run)
    (hlive : run.state.isTerminal = false) (policy : AutomationRetention)
    (hid : id.runId = run.id) (hrow : store.timers.find id = some row) :
    (store.retain host policy).timers.find id = some row := by
  obtain ⟨hmem, hkey⟩ := find_eq_some.mp hrow
  have hrunId : row.runId = run.id := by
    have hnamed := h.named row hmem
    rw [AutomationTimer.IsNamed, hkey] at hnamed
    rw [← hid, hnamed]
  refine find_eq_some.mpr ⟨Table.mem_filter.mpr ⟨hmem, ?_⟩, hkey⟩
  simp only [Bool.not_eq_true', contains_eq_mem, decide_eq_false_iff_not]
  intro hpage
  have hp := (mem_of_mem_page hpage).2
  -- the run is looked up before any deletion of runs
  have hexpired : store.expiredRunId host policy.runtimeBefore row.runId = true :=
    (Bool.and_eq_true _ _ ▸ hp).2
  simp [AutomationStore.expiredRunId, hrunId, hf, AutomationStore.expiredRun, hlive] at hexpired

end

/-- Created runs are new, step writes create named timers, are of other runs or end this
one, and a timer is moved on its own only to be readied. -/
def Courteous (runId : AutomationRunId) : AutomationCall → Prop
  | .createRun run => ∃ plan actorId occurrence now, run = newRun plan actorId occurrence now
  | .commitStep write => TracesOnce write ∧ (∀ timer ∈ write.createTimers, timer.IsNamed) ∧
      (write.run.id = runId → write.run.state.isTerminal = true)
  | .transitionTimer timer => timer.state = .ready
  | _ => True

structure Since (runId : AutomationRunId) (store store' : AutomationStore) : Prop where
  run : store'.runs.find runId = store.runs.find runId
  trace : store'.traceOf runId = store.traceOf runId
  timer : ∀ id row, id.runId = runId → store.timers.find id = some row →
    ∃ row', store'.timers.find id = some row' ∧ Readied row row'

theorem Since.of_same {runId : AutomationRunId} {store store' : AutomationStore}
    (hruns : store'.runs = store.runs) (htrace : store'.trace = store.trace)
    (htimers : store'.timers = store.timers) : Since runId store store' := by
  refine ⟨by rw [hruns], traceOf_congr htrace runId, ?_⟩
  intro id row _ hrow
  rw [htimers]
  exact ⟨row, hrow, .inl rfl⟩

structure Unstarted (run : AutomationRun) : Prop where
  state : run.state = .pending
  durations : run.conditionDurations = []

structure Attended (runId : AutomationRunId) (store store' : AutomationStore) : Prop where
  traced : Traced store'
  fit : TimersFit store'
  live : ∀ run, store'.runs.find runId = some run → run.state.isTerminal = false →
    Since runId store store' ∨ (store.runs.find runId = none ∧ Unstarted run)

section
variable {host : StoreHost} {store store' : AutomationStore} {runId : AutomationRunId}

theorem Attended.of_same (ht : Traced store) (hf : TimersFit store)
    (hruns : store'.runs = store.runs) (htrace : store'.trace = store.trace)
    (htimers : store'.timers = store.timers) : Attended runId store store' :=
  ⟨ht.same hruns htrace, hf.same htimers (fun id hid => by rwa [hruns]),
    fun _ _ _ => .inl (.of_same hruns htrace htimers)⟩

theorem attended_refl (ht : Traced store) (hf : TimersFit store) : Attended runId store store :=
  .of_same ht hf rfl rfl rfl

theorem attended_createRun (ht : Traced store) (hf : TimersFit store)
    (hnew : ∃ plan actorId occurrence now, run = newRun plan actorId occurrence now)
    (h : store.createRun run = .ok store') : Attended runId store store' := by
  obtain ⟨plan, actorId, occurrence, now, rfl⟩ := hnew
  have htraced := ht.createRun rfl h
  rcases createRun_spec h with ⟨rfl, _⟩ | ⟨habsent, rfl, _⟩
  · exact attended_refl ht hf
  have hfind : ∀ id, ({ store with runs := store.runs.insert _ habsent } : AutomationStore).runs.find
      id = if (newRun plan actorId occurrence now).id = id then
        some (newRun plan actorId occurrence now) else store.runs.find id :=
    fun id => find_insert (h := habsent)
  refine ⟨htraced, ?_, ?_⟩
  · refine hf.same rfl ?_
    intro id hid
    rw [hfind]
    split
    · exact Option.some_ne_none _
    · exact hid
  · intro other hother _
    rw [hfind] at hother
    split at hother
    · rename_i heq
      rw [← Option.some.inj hother, ← heq]
      exact .inr ⟨habsent, rfl, rfl⟩
    · rename_i hne
      refine .inl ⟨?_, traceOf_congr rfl _, fun id row _ hrow => ⟨row, hrow, .inl rfl⟩⟩
      rw [hfind, if_neg hne]

theorem TimersFit.commitStep_other (hf : TimersFit store) (hnamed : ∀ timer ∈ write.createTimers, timer.IsNamed)
    (hother : write.run.id ≠ runId) (h : store.commitStep write = .ok store') (hid : id.runId = runId) :
    store'.timers.find id = store.timers.find id := by
  obtain ⟨hcross, s1, s2, s3, hrevise, hcreate, hmove, -⟩ := AutomationStore.commitStep_stages h
  have hfit2 := hf.created hnamed hrevise hcreate
  have hofTimers : ∀ timer ∈ write.createTimers ++ write.transitionTimers,
      timer.runId = write.run.id := by
    simp only [AutomationStore.crossRun, Bool.or_eq_false_iff, List.any_eq_false, bne_iff_ne, ne_eq,
      not_not] at hcross
    exact hcross.2
  -- the ids of created and moved timers name the run of the write
  have hcreated : id ∉ write.createTimers.map AutomationTimer.id := by
    intro hmem
    obtain ⟨timer, htimer, rfl⟩ := List.mem_map.mp hmem
    rw [hnamed timer htimer] at hid
    exact hother ((hofTimers timer (mem_append_left _ htimer)).symm.trans hid)
  have hmoved : id ∉ write.transitionTimers.map AutomationTimer.id := by
    intro hmem
    obtain ⟨timer, htimer, rfl⟩ := List.mem_map.mp hmem
    rw [hfit2.moved_named hmove timer htimer] at hid
    exact hother ((hofTimers timer (mem_append_right _ htimer)).symm.trans hid)
  exact AutomationStore.commitStep_frame h hcreated hmoved

theorem attended_commitStep (ht : Traced store) (hf : TimersFit store) (hc : Courteous runId (.commitStep write))
    (h : store.commitStep write = .ok store') :
    Attended runId store store' := by
  obtain ⟨htraces, hnamed, hends⟩ := hc
  refine ⟨ht.commitStep htraces h, hf.commitStep hnamed h, ?_⟩
  intro run hrun hlive
  obtain ⟨-, current, revised, hcurrent, -, hrevised, -, -, -, -, hentries⟩ := commitStep_spec h
  have hruns : store'.runs = store.runs.replace write.run := by
    rw [(appendTrace_sameWork _ hentries).runs, hrevised]
  have hfind : store'.runs.find runId =
      if write.run.id = runId then some write.run else store.runs.find runId := by
    rw [hruns]
    exact find_replace hcurrent
  rw [hfind] at hrun
  split at hrun
  · rename_i hid
    rw [← Option.some.inj hrun, hends hid] at hlive
    cases hlive
  rename_i hother
  obtain ⟨sequence, _, entry, htrace, _, hentryRun, _⟩ := htraces
  refine .inl ⟨?_, ?_, ?_⟩
  · rw [hfind, if_neg hother]
  · rw [commitStep_traceOf htrace h, if_neg, append_nil]
    rw [hentryRun]
    exact hother
  · intro id row hid hrow
    exact ⟨row, (hf.commitStep_other hnamed hother h hid).trans hrow, .inl rfl⟩

theorem attended_transitionTimer (ht : Traced store) (hf : TimersFit store) (hready : timer.state = .ready)
    (h : store.transitionTimer timer = .ok store') :
    Attended runId store store' := by
  obtain ⟨hw, htrace⟩ := transitionTimer_sameWork h
  refine ⟨ht.same hw.runs htrace, hf.transitionTimer h, ?_⟩
  intro run _ _
  refine .inl ⟨by rw [hw.runs], traceOf_congr htrace _, ?_⟩
  intro id row _ hrow
  obtain ⟨current, hcurrent, hm, rfl⟩ := AutomationStore.transitionTimer_spec h
  by_cases hid : timer.id = id
  · subst hid
    rw [hcurrent] at hrow
    cases hrow
    refine ⟨timer, (find_replace hcurrent).trans (if_pos rfl), .inr ?_⟩
    have hstate := hm.state
    rw [hready] at hstate
    have hpending : row.state = .pending := by
      cases hs : row.state <;> rw [hs] at hstate <;> first | rfl | cases hstate
    refine ⟨hpending, ?_⟩
    obtain ⟨_, hkey⟩ := find_eq_some.mp hcurrent
    cases timer
    cases row
    simp only [AutomationTimer.mk.injEq]
    exact ⟨hkey.symm, hm.runId.symm, hm.nodeId.symm, hm.kind.symm, hm.readyAt.symm, hready⟩
  · exact ⟨row, ((find_replace hcurrent).trans (if_neg hid)).trans hrow, .inl rfl⟩

theorem attended_retain (ht : Traced store) (hf : TimersFit store) (policy : AutomationRetention) :
    Attended runId store (store.retain host policy) := by
  refine ⟨ht.retain policy, hf.retain policy, ?_⟩
  intro run hrun hlive
  obtain ⟨hmem, hid⟩ := find_eq_some.mp hrun
  have hbefore : store.runs.find run.id = some run :=
    find_eq_some.mpr ⟨mem_retain_runs hmem, rfl⟩
  subst hid
  refine .inl ⟨hrun.trans hbefore.symm, ?_, ?_⟩
  · exact traceOf_retain (mem_retain_runs hmem) hlive policy
  · intro id row hid hrow
    exact ⟨row, hf.find_retain hbefore hlive policy hid hrow, .inl rfl⟩

theorem attended_call (hc : Courteous runId c) (ht : Traced store) (hf : TimersFit store)
    (hh : automationHandler host c store r store') :
    Attended runId store store' := by
  rcases automationHandler_wrote hh with rfl | hh
  · exact attended_refl ht hf
  cases hh with
  | createRun hok => exact attended_createRun ht hf hc hok
  | commitStep hok => exact attended_commitStep ht hf hc hok
  | transitionTimer hok => exact attended_transitionTimer ht hf hc hok
  | retain hok =>
    subst hok
    exact attended_retain ht hf _
  | createOccurrence hok =>
    rcases createOccurrence_spec hok with ⟨rfl, _⟩ | ⟨_, rfl, _⟩
    · exact attended_refl ht hf
    · exact .of_same ht hf rfl rfl rfl
  | transitionOccurrence hok =>
    obtain ⟨_, _, _, _, rfl⟩ := transitionOccurrence_spec hok
    exact .of_same ht hf rfl rfl rfl
  | advanceEventCursor advanced hok =>
    subst hok
    exact .of_same ht hf rfl rfl rfl

theorem commitStep_elsewhere (hc : Courteous runId (.commitStep write))
    (hok : store.commitStep write = .ok store') (hrun : store'.runs.find runId = some run)
    (hlive : run.state.isTerminal = false) : write.run.id ≠ runId := by
  intro hsame
  obtain ⟨-, -, hends⟩ := hc
  obtain ⟨-, current, revised, hcurrent, -, hrevised, -, -, -, -, hentries⟩ := commitStep_spec hok
  rw [(appendTrace_sameWork _ hentries).runs, hrevised, find_replace hcurrent,
    if_pos hsame, Option.some.injEq] at hrun
  rw [← hrun, hends hsame] at hlive
  cases hlive

theorem untouched_call (hc : Courteous runId c) (hmoves : ∀ timer, c ≠ .transitionTimer timer)
    (hf : TimersFit store) (hh : automationHandler host c store r store') (hrun : store'.runs.find runId = some run)
    (hlive : run.state.isTerminal = false) (hid : id.runId = runId)
    (hrow : store.timers.find id = some row) : store'.timers.find id = some row := by
  rcases automationHandler_wrote hh with rfl | hh
  · exact hrow
  cases hh with
  | createRun hok =>
    rcases createRun_spec hok with ⟨rfl, _⟩ | ⟨_, rfl, _⟩ <;> exact hrow
  | commitStep hok =>
    exact (hf.commitStep_other hc.2.1 (commitStep_elsewhere hc hok hrun hlive) hok hid).trans hrow
  | transitionTimer hok => exact absurd rfl (hmoves _)
  | retain hok =>
    subst hok
    obtain ⟨hmem, hrunId⟩ := find_eq_some.mp hrun
    have hbefore : store.runs.find run.id = some run :=
      find_eq_some.mpr ⟨mem_retain_runs hmem, rfl⟩
    exact hf.find_retain hbefore hlive _ (hid.trans hrunId.symm) hrow
  | createOccurrence hok =>
    rcases createOccurrence_spec hok with ⟨rfl, _⟩ | ⟨_, rfl, _⟩ <;> exact hrow
  | transitionOccurrence hok =>
    obtain ⟨_, _, _, _, rfl⟩ := transitionOccurrence_spec hok
    exact hrow
  | advanceEventCursor advanced hok =>
    subst hok
    exact hrow

end
end HomeMagic
