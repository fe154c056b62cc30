import HomeMagic.AutomationConcurrency
import HomeMagic.AutomationRunProgress

/-! Admission by run mode. Each occurrence a pass accepts is counted before its run is
created, so a pass that starts within the bound of a version ends within it. -/
namespace HomeMagic
open List Table Fallible

section
variable {host : StoreHost} {key : VersionKey} {mode : AutomationRunMode}
variable {store store' : AutomationStore} {o : AutomationOccurrence} {pass pass' : RecoveryPass}
  {rest : List AutomationOccurrence} {now : Instant} {timers : List AutomationTimer}
  {active : ActiveAutomationVersion} {plan : AutomationExecutionPlan} {runs : List AutomationRun}

def weightOf (key : VersionKey) (o : AutomationOccurrence) : ℕ := if o.versionKey = key then 1 else 0

structure AdmitOk (key : VersionKey) (mode : AutomationRunMode) (o : AutomationOccurrence)
    (pass : RecoveryPass) (rest : List AutomationOccurrence) (store : AutomationStore) : Prop where
  within : WithinBound key mode store
  accepted : ∀ o' ∈ rest, o'.state = .accepted → store.occurrences.find o'.id = some o'
  known : ∀ item ∈ pass.activeRuns, store.runs.find item.id ≠ none
  covered : ∀ run ∈ store.runs.rows, run.state.isTerminal = false → run.versionKey = key →
    ∃ item ∈ pass.activeRuns, item.id = run.id ∧ item.versionKey = key ∧
      item.state.isTerminal = false
  room : (unstartedCount store key = 0 ∧ activeRunCount store key ≤ pass.activeCounts key ∧
      pass.activeCounts key + weightOf key o ≤ mode.bound) ∨
    activeRunCount store key + unstartedCount store key + rest.countP (isScheduledFor key) +
      weightOf key o ≤ mode.bound

theorem AdmitOk.settles (h : AdmitOk key mode o pass rest store) (hs : Settles store store') :
    AdmitOk key mode o pass rest store' where
  within := h.within.settles hs
  accepted := fun o' ho hacc => (hs.accepted o' hacc).mpr (h.accepted o' ho hacc)
  known := known_settles h.known hs
  covered := covered_settles h.covered hs
  room := by
    have hactive := hs.activeRunCount_le key
    have hunstarted := hs.unstartedCount_eq key
    rcases h.room with ⟨h0, h1, h2⟩ | h1
    · exact .inl ⟨by omega, by omega, h2⟩
    · exact .inr (by omega)

theorem admission_accept_lt {active queued : ℕ} (hmode : mode ≠ .restart)
    (h : admission mode active queued = .accept) : active + 1 ≤ mode.bound := by
  cases mode with
  | restart => exact absurd rfl hmode
  | single =>
    simp only [admission, ite_eq_left_iff] at h
    have hzero : active = 0 := by
      by_contra hne
      exact nomatch h hne
    simp [AutomationRunMode.bound, hzero]
  | queued capacity =>
    have hzero : active = 0 := by
      by_contra hne
      simp only [admission, if_neg hne] at h
      split at h <;> cases h
    simp [AutomationRunMode.bound, hzero]
  | parallel maximumParallel =>
    have hlt : active < maximumParallel := by
      by_contra hge
      simp only [admission, if_neg hge] at h
      cases h
    exact hlt

theorem PassOk.admitted (h : PassOk key mode pass (o :: rest) store) (hscheduled : o.state = .scheduled)
    (hmode : o.versionKey = key → plan.runMode = mode) (hrestart : plan.runMode ≠ .restart)
    (haccept : admission plan.runMode (pass.activeCounts o.versionKey)
      (pass.queuedCount o.versionKey) = .accept) :
    AdmitOk key mode o pass rest store where
  within := h.within
  accepted := fun o' ho => h.accepted o' (mem_cons_of_mem _ ho)
  known := h.known
  covered := h.covered
  room := by
    have hroom := h.room
    rw [countP_cons] at hroom
    unfold weightOf
    by_cases hkey : o.versionKey = key
    · have hlt : pass.activeCounts key + 1 ≤ mode.bound := by
        rw [hmode hkey, hkey] at haccept
        exact admission_accept_lt (hmode hkey ▸ hrestart) haccept
      have hsched : isScheduledFor key o = true := by simp [isScheduledFor, hscheduled, hkey]
      rw [if_pos hkey]
      rw [hsched, if_pos rfl] at hroom
      rcases hroom with ⟨h0, h1, _⟩ | h1
      · exact .inl ⟨h0, h1, hlt⟩
      · exact .inr (by omega)
    · rw [if_neg hkey]
      rcases hroom with h1 | h1
      · exact .inl h1
      · exact .inr (by omega)

theorem CancelledFor.activeRunCount_eq_zero {result : List AutomationRun × ℕ} (h : CancelledFor o runs result store)
    (hkey : o.versionKey = key)
    (hcovered : ∀ run ∈ store.runs.rows, run.state.isTerminal = false → run.versionKey = key →
      ∃ item ∈ runs, item.id = run.id ∧ item.versionKey = key ∧ item.state.isTerminal = false) :
    activeRunCount store key = 0 := by
  unfold activeRunCount Table.count
  rw [countP_eq_zero]
  intro run hrun hp
  simp only [Bool.and_eq_true, Bool.not_eq_true', beq_iff_eq] at hp
  obtain ⟨item, hitem, hid, hitemKey, hlive⟩ := hcovered run hrun hp.1 hp.2
  have hfind : store.runs.find item.id = some run := find_eq_some.mpr ⟨hrun, hid.symm⟩
  have hterm := h.terminal item hitem (hitemKey.trans hkey.symm) hlive run hfind
  rw [hp.1] at hterm
  cases hterm

/-- Restart mode: once the known runs are cancelled there is room for one more. -/
theorem PassOk.admitted_restart {cancelled : ℕ} {result : AutomationSchedulerTick}
    (h : PassOk key mode pass (o :: rest) store) (hscheduled : o.state = .scheduled)
    (hmode : o.versionKey = key → plan.runMode = mode) (hrestart : plan.runMode = .restart)
    (hcancel : CancelledFor o pass.activeRuns (runs, cancelled) store) :
    AdmitOk key mode o
      ({ pass with activeRuns := runs, result := result }.setCount o.versionKey 0) rest store where
  within := h.within
  accepted := fun o' ho => h.accepted o' (mem_cons_of_mem _ ho)
  known := by
    intro item hitem
    obtain ⟨item', hitem', hid⟩ := hcancel.ids item hitem
    rw [hid]
    exact h.known item' hitem'
  covered := by
    intro run hrun hlive hkey
    obtain ⟨item, hitem, hid, hitemKey, hitemLive⟩ := h.covered run hrun hlive hkey
    by_cases ho : o.versionKey = key
    · -- the run would have been cancelled
      have hfind : store.runs.find item.id = some run := find_eq_some.mpr ⟨hrun, hid.symm⟩
      have hterm := hcancel.terminal item hitem (hitemKey.trans ho.symm) hitemLive run hfind
      rw [hlive] at hterm
      cases hterm
    · refine ⟨item, hcancel.kept item hitem ?_, hid, hitemKey, hitemLive⟩
      intro heq
      exact ho (heq.symm.trans hitemKey)
  room := by
    have hroom := h.room
    rw [countP_cons] at hroom
    unfold weightOf
    by_cases hkey : o.versionKey = key
    · have hzero := hcancel.activeRunCount_eq_zero hkey h.covered
      have hbound : mode.bound = 1 := by
        rw [← hmode hkey, hrestart]
        rfl
      have hsched : isScheduledFor key o = true := by simp [isScheduledFor, hscheduled, hkey]
      rw [if_pos hkey, hzero, hbound]
      rw [hsched, if_pos rfl, hzero, hbound] at hroom
      rcases hroom with ⟨h0, _, _⟩ | h1
      · refine .inl ⟨h0, Nat.zero_le _, ?_⟩
        simp [RecoveryPass.setCount, hkey]
      · exact .inr (by omega)
    · have hcount : (({ pass with activeRuns := runs, result := result } : RecoveryPass).setCount
          o.versionKey 0).activeCounts key = pass.activeCounts key := by
        simp [RecoveryPass.setCount, Ne.symm hkey]
      rw [if_neg hkey, hcount]
      rcases hroom with h1 | h1
      · exact .inl h1
      · exact .inr (by omega)

/-- The stored transition to accepted leaves one more occurrence waiting for its run. -/
theorem AdmitOk.transition (h : AdmitOk key mode o pass rest store) (hruns : pass'.activeRuns = pass.activeRuns)
    (hcounts : pass'.activeCounts key = pass.activeCounts key + weightOf key o)
    (hmove : store.transitionOccurrence { o with state := .accepted } = .ok store') :
    StartOk key mode { o with state := .accepted } pass' rest store' := by
  obtain ⟨current, hf, _, hallow, rfl⟩ := AutomationStore.transitionOccurrence_spec hmove
  have hscheduled := AutomationStore.transitionOccurrence_from_scheduled hallow
  have hfind : ∀ id, (store.occurrences.replace { o with state := .accepted }).find id =
      if o.id = id then some { o with state := .accepted } else store.occurrences.find id :=
    fun id => find_replace hf
  -- a stored accepted occurrence is another row
  have hother : ∀ o', store.occurrences.find o'.id = some o' → o'.state = .accepted → o.id ≠ o'.id := by
    intro o' hf' hacc hid
    have hsame : some current = some o' := by
      rw [← hf, ← hf', ← hid]
    cases hsame
    rw [hscheduled] at hacc
    cases hacc
  have hkept : ∀ id o', store.occurrences.find id = some o' → o'.state = .accepted →
      (store.occurrences.replace { o with state := .accepted }).find id = some o' := by
    intro id o' hf' hacc
    have hid := (find_eq_some.mp hf').2
    subst hid
    rw [hfind, if_neg (hother o' hf' hacc)]
    exact hf'
  -- so its run cannot exist yet
  have habsent : store.runs.find ⟨o.id⟩ = none := by
    cases hrun : store.runs.find ⟨o.id⟩ with
    | none => rfl
    | some run =>
      obtain ⟨hmem, hid⟩ := find_eq_some.mp hrun
      obtain ⟨hrid, occurrence, ho, hacc, _⟩ := h.within.linked run hmem
      have hoid : run.occurrenceId = o.id := by
        have heq := hrid.symm.trans hid
        simpa using heq
      rw [hoid] at ho
      have hsame : some current = some occurrence := hf.symm.trans ho
      cases hsame
      rw [hscheduled] at hacc
      cases hacc
  have hlinked : Linked { store with
      occurrences := store.occurrences.replace { o with state := .accepted } } := by
    intro run hrun
    obtain ⟨hrid, occurrence, ho, hacc, hkey⟩ := h.within.linked run hrun
    exact ⟨hrid, occurrence, hkept _ occurrence ho hacc, hacc, hkey⟩
  have hwaits : isUnstarted store key { o with state := .accepted } = true ↔ o.versionKey = key := by
    simp [isUnstarted, habsent, AutomationOccurrence.versionKey]
  have hcount : unstartedCount { store with
      occurrences := store.occurrences.replace { o with state := .accepted } } key =
      unstartedCount store key + weightOf key o := by
    have hreplace := Table.count_replace hf (isUnstarted store key)
    have hold : isUnstarted store key current = false := by simp [isUnstarted, hscheduled]
    simp only [hold, hwaits, Bool.false_eq_true, if_false, Nat.add_zero] at hreplace
    exact hreplace
  have hroom : (activeRunCount store key + (unstartedCount store key + weightOf key o) ≤
        pass'.activeCounts key ∧ pass'.activeCounts key ≤ mode.bound ∧
        (unstartedCount store key + weightOf key o = 0 ∨
          (unstartedCount store key + weightOf key o = 1 ∧
            isUnstarted store key { o with state := .accepted } = true))) ∨
      activeRunCount store key + (unstartedCount store key + weightOf key o) +
        rest.countP (isScheduledFor key) ≤ mode.bound := by
    rw [hcounts, hwaits]
    rcases h.room with ⟨h0, h1, h2⟩ | h1
    · refine .inl ⟨by omega, h2, ?_⟩
      unfold weightOf
      by_cases hkey : o.versionKey = key
      · rw [if_pos hkey]
        exact .inr ⟨by omega, hkey⟩
      · rw [if_neg hkey]
        exact .inl (by omega)
    · exact .inr (by omega)
  have hbound : activeRunCount store key + (unstartedCount store key + weightOf key o) ≤
      mode.bound := by omega
  rw [← hcount] at hroom hbound
  refine ⟨⟨hlinked, h.within.runMode, hbound⟩, rfl, ?_, ?_, ?_, ?_, hroom⟩
  · show (store.occurrences.replace { o with state := .accepted }).find o.id = _
    rw [hfind, if_pos rfl]
  · exact fun o' ho hacc => hkept _ o' (h.accepted o' ho hacc) hacc
  · rw [hruns]
    exact h.known
  · rw [hruns]
    exact h.covered

theorem AdmitOk.accept_bounded {active : ActiveAutomationVersion} {now : Instant}
    (h : AdmitOk key mode o pass rest store) (result : AutomationSchedulerTick) :
    Bounded host key mode (do
      ask (request (.transitionOccurrence { o with state := .accepted }))
      startRun active { o with state := .accepted } now
        { pass.setCount o.versionKey (pass.activeCounts o.versionKey + 1) with result := result })
      (fun pass' s => PassOk key mode pass' rest s) store := by
  apply bounded_bind
  refine fun s1 hs1 _ r s2 hh => ?_
  have h1 := h.settles hs1
  rcases hh with ⟨hr, hmove⟩ | ⟨⟨error, hr⟩, rfl⟩
  · have hcounts : (pass.setCount o.versionKey (pass.activeCounts o.versionKey + 1)).activeCounts key =
        pass.activeCounts key + weightOf key o := by
      by_cases hkey : o.versionKey = key
      · simp [RecoveryPass.setCount, weightOf, hkey]
      · simp [RecoveryPass.setCount, weightOf, hkey, Ne.symm hkey]
    have hstart : StartOk key mode { o with state := .accepted }
        { pass.setCount o.versionKey (pass.activeCounts o.versionKey + 1) with result := result }
        rest s2 := h1.transition rfl hcounts hmove
    refine ⟨hstart.within, ?_⟩
    subst hr
    refine fun s3 hs3 _ hok => ?_
    cases hok
    exact startRun_bounded (hstart.settles hs3)
  · subst hr
    exact ⟨h1.within, fun _ _ _ hf => nomatch hf⟩

theorem acceptOccurrence_bounded (h : PassOk key mode pass (o :: rest) store) (hscheduled : o.state = .scheduled)
    (hmode : o.versionKey = key → active.version.plan.runMode = mode)
    (haccept : admission active.version.plan.runMode (pass.activeCounts o.versionKey)
      (pass.queuedCount o.versionKey) = .accept) :
    Bounded host key mode (acceptOccurrence active o now timers pass)
      (fun pass' s => PassOk key mode pass' rest s) store := by
  apply bounded_bind
  have hadmitted : Bounded host key mode (makeRoom active o now timers pass)
      (fun pass' s => AdmitOk key mode o pass' rest s) store := by
    unfold makeRoom
    split
    · rename_i hrestart
      apply bounded_bind
      apply bounded_mono (cancelForRestart_bounded pass.activeRuns h.within)
      rintro ⟨runs, cancelled⟩ s1 ⟨hcancel, _, hs1⟩
      apply bounded_pure
      intro s2 hs2
      apply AdmitOk.settles _ hs2
      exact (h.settles hs1).admitted_restart hscheduled hmode hrestart hcancel
    · rename_i hrestart
      apply bounded_pure
      intro s1 hs1
      exact (h.settles hs1).admitted hscheduled hmode hrestart haccept
  apply bounded_mono hadmitted
  intro pass1 s1 h1
  exact h1.accept_bounded _

theorem PassOk.start (h : PassOk key mode pass (o :: rest) store) (hacc : o.state = .accepted) :
    StartOk key mode o pass rest store where
  within := h.within
  isAccepted := hacc
  stored := h.accepted o mem_cons_self hacc
  accepted := fun o' ho => h.accepted o' (mem_cons_of_mem _ ho)
  known := h.known
  covered := h.covered
  room := by
    have hroom := h.room
    rw [countP_cons] at hroom
    rcases hroom with ⟨h0, h1, h2⟩ | h1
    · exact .inl ⟨by omega, h2, .inl h0⟩
    · exact .inr (by omega)

theorem PassOk.dismiss {new : AutomationOccurrence} (h : PassOk key mode pass (o :: rest) store)
    (hnew : new.state ≠ .accepted) (hruns : pass'.activeRuns = pass.activeRuns)
    (hcounts : pass'.activeCounts = pass.activeCounts) :
    Bounded host key mode (do
      ask (request (.transitionOccurrence new))
      pure pass') (fun pass' s => PassOk key mode pass' rest s) store := by
  apply bounded_bind
  apply bounded_mono (bounded_of_quiet (calls_repository (calls_request hnew)) h.within)
  rintro _ s1 ⟨_, hs1⟩
  apply bounded_pure
  intro s2 hs2
  exact ((h.settles hs1).settles hs2).tail hruns hcounts

theorem recoverOccurrence_bounded (h : PassOk key mode pass (o :: rest) store)
    (hmode : o.versionKey = key → active.version.plan.runMode = mode) :
    Bounded host key mode (recoverOccurrence active o now timers pass)
      (fun pass' s => PassOk key mode pass' rest s) store := by
  unfold recoverOccurrence
  split
  · rename_i hscheduled
    split
    · exact h.dismiss (fun hf => nomatch hf) rfl rfl
    split
    · apply bounded_pure
      exact fun s hs => (h.settles hs).tail rfl rfl
    split
    · apply bounded_pure
      exact fun s hs => (h.settles hs).tail rfl rfl
    · exact h.dismiss (fun hf => nomatch hf) rfl rfl
    · rename_i hroom
      exact acceptOccurrence_bounded h hscheduled hmode hroom
  split
  · rename_i hacc
    exact startRun_bounded (h.start hacc)
  · apply bounded_pure
    exact fun s hs => (h.settles hs).tail rfl rfl

theorem recoverOccurrences_bounded {active : List ActiveAutomationVersion}
    (hmode : ∀ version ∈ active, version.key = key → version.version.plan.runMode = mode)
    (occurrences : List AutomationOccurrence) (h : PassOk key mode pass occurrences store) :
    Bounded host key mode (recoverOccurrences active now timers occurrences pass)
      (fun pass' s => PassOk key mode pass' [] s) store := by
  induction occurrences generalizing pass store with
  | nil =>
    apply bounded_pure
    exact fun s hs => h.settles hs
  | cons o rest ih =>
    unfold recoverOccurrences
    split
    · exact ih (h.tail rfl rfl)
    · rename_i version hfor
      have hkey : version.key = o.versionKey := by
        have hp := List.find?_some hfor
        simpa using hp
      have hmem : version ∈ active := List.mem_of_find?_eq_some hfor
      apply bounded_bind
      apply bounded_mono (recoverOccurrence_bounded h (fun ho => hmode version hmem (hkey.trans ho)))
      exact fun pass' s hp => ih hp

theorem readyTimers_quiet (now : Instant) (timers : List AutomationTimer) (count : ℕ) :
    (readyTimers now timers count).run.Calls AutomationCall.IsQuiet := by
  induction timers generalizing count with
  | nil => exact calls_pure _
  | cons timer rest ih =>
    unfold readyTimers
    split
    · apply calls_bind (calls_repository (calls_request trivial))
      exact fun _ => calls_bind (ih _) (fun _ => calls_pure _)
    · exact calls_bind (ih _) (fun _ => calls_pure _)

theorem materializeInstants_quiet (active : ActiveAutomationVersion) (schedule : AutomationSchedule)
    (instants : List Instant) (scheduled : ℕ) :
    (materializeInstants active schedule instants scheduled).run.Calls AutomationCall.IsQuiet := by
  induction instants generalizing scheduled with
  | nil => exact calls_pure _
  | cons instant rest ih =>
    refine calls_bind (calls_repository (calls_request ?_)) (fun _ => ih _)
    exact fun h => nomatch h

theorem materializeTriggers_quiet (scheduler : SchedulerHost) (start through : Instant)
    (active : ActiveAutomationVersion) (triggers : List AutomationTrigger) (scheduled : ℕ) :
    (materializeTriggers scheduler start through active triggers scheduled).run.Calls
      AutomationCall.IsQuiet := by
  induction triggers generalizing scheduled with
  | nil => exact calls_pure _
  | cons trigger rest ih =>
    unfold materializeTriggers
    split
    · rename_i heq
      cases heq
    · rename_i heq
      cases heq
      split
      · exact calls_throw _
      · exact calls_bind (materializeInstants_quiet _ _ _ _) (fun _ => ih _)
    · rename_i heq
      cases heq
      exact ih _

theorem materialize_quiet (scheduler : SchedulerHost) (start through : Instant)
    (active : List ActiveAutomationVersion) (scheduled : ℕ) :
    (materialize scheduler start through active scheduled).run.Calls AutomationCall.IsQuiet := by
  induction active generalizing scheduled with
  | nil => exact calls_pure _
  | cons version rest ih =>
    exact calls_bind (materializeTriggers_quiet _ _ _ _ _ _) (fun _ => ih _)

theorem WithinBound.passOk_initial (h : WithinBound key mode store) (hc : CountsRuns host key mode.bound store)
    (scheduled timersReady : ℕ) :
    PassOk key mode (.initial (store.recover host recoveryPage).runs scheduled timersReady)
      (store.recover host recoveryPage).occurrences store where
  within := h
  accepted := by
    intro o ho _
    exact find_eq_some.mpr ⟨(mem_of_mem_page ho).1, rfl⟩
  known := by
    intro item hitem hnone
    have hmem := (mem_of_mem_page hitem).1
    exact find_eq_none.mp hnone item hmem rfl
  covered := by
    intro run hrun hlive hkey
    exact ⟨run, hc.complete run hrun hlive hkey, rfl, hkey, hlive⟩
  room := by
    have hpage : (store.recover host recoveryPage).occurrences.countP (isScheduledFor key) ≤
        scheduledCount store key := countP_page_le _ _ _ _ _
    have hle : (RecoveryPass.initial (store.recover host recoveryPage).runs scheduled
        timersReady).activeCounts key ≤ activeRunCount store key := countP_page_le _ _ _ _ _
    have hge : activeRunCount store key ≤ (RecoveryPass.initial
        (store.recover host recoveryPage).runs scheduled timersReady).activeCounts key := by
      apply count_le_countP_page
      intro run hrun hp
      simp only [Bool.and_eq_true, Bool.not_eq_true', beq_iff_eq] at hp
      exact hc.complete run hrun hp.1 hp.2
    have hb := h.bound
    rcases hc.room with h0 | h1
    · exact .inl ⟨h0, hge, by omega⟩
    · exact .inr (by omega)

theorem processRecovery_bounded {active : List ActiveAutomationVersion} {scheduled : ℕ}
    (h : WithinBound key mode store)
    (hmode : ∀ version ∈ active, version.key = key → version.version.plan.runMode = mode) :
    Bounded host key mode (processRecovery active scheduled)
      (fun pass s => PassOk key mode pass [] s) store := by
  apply bounded_bind
  apply bounded_mono (bounded_of_quiet (calls_clockNow trivial) h)
  rintro now s1 ⟨h1, _⟩
  apply bounded_bind
  -- the query is the one call whose state has to count every run
  refine fun s2 hs2 hcounts r s3 hh => ?_
  obtain ⟨rfl, hanswer⟩ := hh
  have h2 := h1.settles hs2
  refine ⟨h2, ?_⟩
  cases r with
  | error error => exact fun _ _ _ hf => nomatch hf
  | ok recovery =>
    refine fun s4 hs4 _ hok => ?_
    cases hok
    obtain rfl := hanswer recovery rfl
    apply bounded_bind
    apply bounded_mono (bounded_of_quiet (readyTimers_quiet now _ 0) (h2.settles hs4))
    rintro ⟨timers, timersReady⟩ s5 ⟨_, hs5⟩
    have hpass := h2.passOk_initial hcounts scheduled timersReady
    exact recoverOccurrences_bounded hmode _ (hpass.settles (hs4.trans hs5))

theorem loadVersion_of_active {limit : ℕ} {version : ActiveAutomationVersion}
    (h : version ∈ store.loadActiveVersions host limit) :
    store.loadVersion version.key.1 version.key.2 = some version.version := by
  obtain ⟨identity, _, hactive⟩ := mem_filterMap.mp (mem_of_mem_take h)
  unfold AutomationStore.activeVersion? at hactive
  split at hactive
  · obtain ⟨number, _, hmap⟩ := Option.bind_eq_some_iff.mp hactive
    obtain ⟨stored, hload, rfl⟩ := Option.map_eq_some_iff.mp hmap
    have hkey := (find_eq_some.mp hload).2
    simp only [Prod.mk.injEq] at hkey
    show store.loadVersion identity.id stored.document.version = some stored
    rw [hkey.2]
    exact hload
  · cases hactive

theorem tick_bounded {scheduler : SchedulerHost} {start through : Instant} (h : WithinBound key mode store) :
    Bounded host key mode (tick scheduler start through) (fun pass s => PassOk key mode pass [] s)
      store := by
  apply bounded_bind
  refine fun s1 hs1 _ r s2 hh => ?_
  obtain ⟨rfl, hanswer⟩ := hh
  have h1 := h.settles hs1
  refine ⟨h1, ?_⟩
  cases r with
  | error error => exact fun _ _ _ hf => nomatch hf
  | ok active =>
    refine fun s3 hs3 _ hok => ?_
    cases hok
    obtain rfl := hanswer active rfl
    apply bounded_bind
    apply bounded_mono (bounded_of_quiet (materialize_quiet scheduler start through _ 0)
      (h1.settles hs3))
    rintro scheduled s4 ⟨h4, _⟩
    apply processRecovery_bounded h4
    intro version hversion hkey
    apply h1.runMode version.version
    rw [← hkey]
    exact loadVersion_of_active hversion

end

/-- Ticks that count every run of a version, in any interleaving with the other
services and with crashes, keep its runs within the bound of its run mode. -/
theorem active_runs_within_bound (host : StoreHost) (scheduler : SchedulerHost)
    (evaluator : EvaluatorHost) (key : VersionKey) (mode : AutomationRunMode)
    {start reached : Processes AutomationCall AutomationCall.Response AutomationStore
      (Except AutomationSchedulerError RecoveryPass)}
    (hrun : Relation.ReflTransGen (Interleaves (schedulerRules host scheduler evaluator
      (countsAtRecovery host key mode.bound))) start reached)
    (hidle : start.main = none) (hquiet : start.clients = [])
    (hstart : WithinBound key mode start.state) : activeRunCount reached.state key ≤ mode.bound := by
  have hwithin : WithinBound key mode reached.state := by
    refine Interleaves.invariant Settles.refl (fun _ _ _ => Settles.trans) ?_
      (fun p hp => AutomationClient.quiet hp) ?_ hrun hstart hidle hquiet
    · rintro p s ⟨first, last, rfl⟩ hi
      exact (tick_bounded hi).mono (fun _ _ _ => trivial)
    · exact fun c s r s' hc _ hi hh => quiet_keeps hc hi hh
  have hbound := hwithin.bound
  omega

def minuteDocument : AutomationDocument :=
  { lampDocument [switchLamp true] with triggers := [.schedule ⟨"* * * * *", "UTC", 120000⟩] }

def minutePlan : AutomationExecutionPlan where
  automationId := 1
  automationVersion := 1
  documentHash := "document"
  planHash := "plan"
  registryRevision := 0
  vars := []
  triggers := [.schedule ⟨"* * * * *", "UTC", 120000⟩]
  condition := none
  runMode := .single
  selfTrigger := .allow
  entry := 1
  nodes := [⟨0, 0, .complete⟩, ⟨1, 1, .command ⟨[⟨7, "switch:0", "on_off.v1"⟩], .onOff (.set true), 0,
    ⟨0, 0, []⟩, .stopRun, some 0⟩⟩]
  safetyProfiles := [.comfort]
  safetyRequirements := []
  approval := .activationGrant
  budget := .default

def minute : ℕ → Instant := fun n => n * 60000 * nanosPerMilli

def minuteStoreHost : StoreHost where
  timestampText := fun at_ => "1970-01-01 00:0" ++ toString (at_ / minute 1) ++ ":00+00:00"
  automationIdText := fun id => toString id
  occurrenceIdText := fun id => match id.key with
    | .schedule millis => "schedule:" ++ toString millis
    | .event cursor => "event:" ++ toString cursor
    | .catchUp millis _ idempotencyKey => "catch-up:" ++ toString millis ++ ":" ++ idempotencyKey
    | .simulation inputHash => "simulation:" ++ inputHash
  runIdText := fun id => match id.fromOccurrence.key with
    | .schedule millis => "run:" ++ toString millis
    | _ => "run"
  timerIdText := fun id => toString id.readyAtMillis
  traceIdText := fun id => toString id.sequence

def minuteScheduler : SchedulerHost where
  scheduleOccurrences := fun _ start through =>
    some (([1, 2, 3].map (fun n => (start / minute 1 + n) * minute 1)).filter
      (fun instant => decide (instant ≤ through)))

def readyVersion (document : AutomationDocument) (plan : AutomationExecutionPlan) :
    StoredAutomationVersion where
  document := document
  plan := plan
  state := .ready
  validation := ⟨plan.documentHash, plan.planHash, plan.registryRevision, 0⟩
  simulation := some ⟨plan.documentHash, plan.planHash, plan.registryRevision, "trace", true, 0⟩

def minuteStore : AutomationStore :=
  { AutomationStore.empty with
    identities := ⟨[⟨1, .active, some 1, 1, 0, 0⟩], by decide⟩
    versions := ⟨[readyVersion minuteDocument minutePlan], by decide⟩ }

def minutePorts (now : Instant) : FixedPorts where
  now := now
  events := ⟨[], none⟩
  inputs := ⟨⟨now, now, now, now⟩, 0, none, fun _ => none, none, none⟩

theorem minuteStore_withinBound : WithinBound (1, 1) .single minuteStore where
  linked := by
    intro run hrun
    cases hrun
  runMode := by
    intro version hversion
    have hmem := (find_eq_some.mp hversion).1
    rw [mem_singleton.mp hmem]
    rfl
  bound := by decide

def wholeTick : Program AutomationCall AutomationCall.Response
    (Except AutomationSchedulerError RecoveryPass) × AutomationStore :=
  (tick minuteScheduler 0 (minute 2)).run.runFor
    (automationApply minuteStoreHost (minutePorts (minute 2))) 12 minuteStore

theorem active_runs_within_bound_minute :
    wholeTick.2.runs.rows.length = 1 ∧ activeRunCount wholeTick.2 (1, 1) ≤ 1 := by
  have hcounted : (tick minuteScheduler 0 (minute 2)).run.PermittedFor
      (automationApply minuteStoreHost (minutePorts (minute 2)))
      (countsAtRecovery minuteStoreHost (1, 1) 1) 12 minuteStore := by decide +kernel
  have hrun : Relation.ReflTransGen (Interleaves (schedulerRules minuteStoreHost minuteScheduler
      lampEvaluator (countsAtRecovery minuteStoreHost (1, 1) 1))) ⟨minuteStore, none, []⟩
      ⟨wholeTick.2, some wholeTick.1, []⟩ :=
    .head (.start ⟨0, minute 2, rfl⟩) (Interleaves.of_runFor
      (automationApply_handles minuteStoreHost (minutePorts (minute 2))) 12 _ _ hcounted)
  refine ⟨by decide +kernel, ?_⟩
  exact active_runs_within_bound minuteStoreHost minuteScheduler lampEvaluator (1, 1) .single hrun
    rfl rfl minuteStore_withinBound

def cutOffTick : Program AutomationCall AutomationCall.Response
    (Except AutomationSchedulerError RecoveryPass) × AutomationStore :=
  (tick minuteScheduler 0 (minute 2)).run.runFor
    (automationApply minuteStoreHost (minutePorts (minute 2))) 6 minuteStore

def tickAfterCrash : Program AutomationCall AutomationCall.Response
    (Except AutomationSchedulerError RecoveryPass) × AutomationStore :=
  (tick minuteScheduler 0 (minute 2)).run.runFor
    (automationApply minuteStoreHost (minutePorts (minute 2))) 12 cutOffTick.2

/-- A crash between the transition to accepted and the creation of the run: the next
tick creates that run without counting it and admits the second occurrence too. -/
theorem crash_before_run_exceeds_bound :
    ∃ reached, Relation.ReflTransGen (Interleaves (schedulerRules minuteStoreHost minuteScheduler
      lampEvaluator (fun _ _ => True))) ⟨minuteStore, none, []⟩ reached ∧
      minutePlan.runMode.bound = 1 ∧ activeRunCount reached.state (1, 1) = 2 := by
  have hhandles := automationApply_handles minuteStoreHost (minutePorts (minute 2))
  have hcut : Relation.ReflTransGen (Interleaves (schedulerRules minuteStoreHost minuteScheduler
      lampEvaluator (fun _ _ => True))) ⟨minuteStore, none, []⟩
      ⟨cutOffTick.2, some cutOffTick.1, []⟩ :=
    .head (.start ⟨0, minute 2, rfl⟩)
      (Interleaves.of_runFor hhandles 6 _ _ (Program.permittedFor_of_forall (fun _ _ => trivial) 6 _ _))
  have hafter : Relation.ReflTransGen (Interleaves (schedulerRules minuteStoreHost minuteScheduler
      lampEvaluator (fun _ _ => True))) ⟨cutOffTick.2, none, []⟩
      ⟨tickAfterCrash.2, some tickAfterCrash.1, []⟩ :=
    .head (.start ⟨0, minute 2, rfl⟩)
      (Interleaves.of_runFor hhandles 12 _ _ (Program.permittedFor_of_forall (fun _ _ => trivial) 12 _ _))
  exact ⟨_, (hcut.tail .crash).trans hafter, rfl, by decide +kernel⟩

end HomeMagic
