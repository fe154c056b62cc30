import HomeMagic.AutomationRunLinks

/-! The run-mode bound on concurrent runs. A version keeps within its bound when its
active runs and the accepted occurrences still to be started stay within it; each
pass of the scheduler preserves that as long as it counts every active run. -/
namespace HomeMagic
open List Table

def AutomationRunMode.bound : AutomationRunMode → ℕ
  | parallel maximumParallel => maximumParallel
  | single | restart | queued _ => 1

def isScheduledFor (key : VersionKey) (occurrence : AutomationOccurrence) : Bool :=
  occurrence.state == .scheduled && occurrence.versionKey == key

def scheduledCount (store : AutomationStore) (key : VersionKey) : ℕ :=
  store.occurrences.count (isScheduledFor key)

/-- The recovery query of a pass sees every active run of the version, and either no
accepted occurrence waits for its run or there is room for everything that waits. -/
structure CountsRuns (host : StoreHost) (key : VersionKey) (bound : ℕ) (store : AutomationStore) :
    Prop where
  complete : ∀ run ∈ store.runs.rows, run.state.isTerminal = false → run.versionKey = key →
    run ∈ (store.recover host recoveryPage).runs
  room : unstartedCount store key = 0 ∨
    activeRunCount store key + unstartedCount store key + scheduledCount store key ≤ bound

instance (host : StoreHost) (key : VersionKey) (bound : ℕ) (store : AutomationStore) :
    Decidable (CountsRuns host key bound store) :=
  decidable_of_iff ((∀ run ∈ store.runs.rows, run.state.isTerminal = false → run.versionKey = key →
      run ∈ (store.recover host recoveryPage).runs) ∧ (unstartedCount store key = 0 ∨
      activeRunCount store key + unstartedCount store key + scheduledCount store key ≤ bound))
    ⟨fun h => ⟨h.1, h.2⟩, fun h => ⟨h.complete, h.room⟩⟩

structure WithinBound (key : VersionKey) (mode : AutomationRunMode) (store : AutomationStore) :
    Prop where
  linked : Linked store
  runMode : ∀ version, store.loadVersion key.1 key.2 = some version → version.plan.runMode = mode
  bound : activeRunCount store key + unstartedCount store key ≤ mode.bound

def schedulerRules (host : StoreHost) (scheduler : SchedulerHost) (evaluator : EvaluatorHost)
    (allowed : AutomationCall → AutomationStore → Prop) :
    Rules AutomationCall AutomationCall.Response AutomationStore
      (Except AutomationSchedulerError RecoveryPass) where
  handler := automationHandler host
  main := fun p => ∃ start through, p = (tick scheduler start through).run
  client := AutomationClient scheduler evaluator
  mainAllowed := allowed
  clientAllowed := fun _ _ => True

def countsAtRecovery (host : StoreHost) (key : VersionKey) (bound : ℕ) (c : AutomationCall)
    (store : AutomationStore) : Prop :=
  match c with
  | .recoverableWork _ => CountsRuns host key bound store
  | _ => True

instance (host : StoreHost) (key : VersionKey) (bound : ℕ) (c : AutomationCall)
    (store : AutomationStore) : Decidable (countsAtRecovery host key bound c store) := by
  unfold countsAtRecovery
  split <;> infer_instance

section
variable {host : StoreHost} {key : VersionKey} {mode : AutomationRunMode}
variable {store store' : AutomationStore} {o : AutomationOccurrence} {pass pass' : RecoveryPass}
  {rest : List AutomationOccurrence} {α : Type} {now : Instant} {p : SchedulerM α} {Q : α → AutomationStore → Prop}
  {active : ActiveAutomationVersion} {id : AutomationRunId} {runs : List AutomationRun}

theorem WithinBound.settles (h : WithinBound key mode store) (hs : Settles store store') :
    WithinBound key mode store' where
  linked := hs.linked h.linked
  runMode := by
    intro version hv
    unfold AutomationStore.loadVersion at hv
    rw [hs.versions] at hv
    exact h.runMode version hv
  bound := by
    have hactive := hs.activeRunCount_le key
    have hunstarted := hs.unstartedCount_eq key
    have hb := h.bound
    omega

theorem quiet_keeps {c : AutomationCall} {r : c.Response} (hc : c.IsQuiet) (hi : WithinBound key mode store)
    (h : automationHandler host c store r store') :
    WithinBound key mode store' ∧ Settles store store' := by
  have hs := quiet_settles hc h
  exact ⟨hi.settles hs, hs⟩

abbrev Bounded (host : StoreHost) (key : VersionKey) (mode : AutomationRunMode) {α : Type}
    (p : SchedulerM α) (Q : α → AutomationStore → Prop) (store : AutomationStore) : Prop :=
  p.run.Keeps (automationHandler host) (countsAtRecovery host key mode.bound) Settles
    (WithinBound key mode) (Fallible.OnOk Q) store

theorem bounded_bind {β : Type} {f : α → SchedulerM β} {Q : β → AutomationStore → Prop}
    (h : Bounded host key mode p (fun a s => Bounded host key mode (f a) Q s) store) :
    Bounded host key mode (p >>= f) Q store :=
  Fallible.keeps_bind Settles.refl h

theorem bounded_pure {a : α} (h : ∀ s, Settles store s → Q a s) : Bounded host key mode (pure a) Q store :=
  Fallible.keeps_pure h

theorem bounded_mono {Q' : α → AutomationStore → Prop} (h : Bounded host key mode p Q store)
    (hq : ∀ a s, Q a s → Q' a s) : Bounded host key mode p Q' store :=
  h.mono (fun _ s hres a ha => hq a s (hres a ha))

theorem bounded_of_quiet (hp : p.run.Calls AutomationCall.IsQuiet) (hi : WithinBound key mode store) :
    Bounded host key mode p (fun _ s => WithinBound key mode s ∧ Settles store s) store := by
  have hk : p.run.Keeps (automationHandler host) (countsAtRecovery host key mode.bound) Settles
      (WithinBound key mode) (fun _ s => WithinBound key mode s ∧ Settles store s) store := by
    apply Program.Keeps.of_calls _ _ _ hp hi
    · exact fun _ _ _ => Settles.trans
    · exact fun _ _ => WithinBound.settles
    · exact fun _ _ _ _ hc _ hi h => quiet_keeps hc hi h
  exact hk.mono (fun _ _ h _ _ => h)

structure PassOk (key : VersionKey) (mode : AutomationRunMode) (pass : RecoveryPass)
    (rest : List AutomationOccurrence) (store : AutomationStore) : Prop where
  within : WithinBound key mode store
  accepted : ∀ o ∈ rest, o.state = .accepted → store.occurrences.find o.id = some o
  known : ∀ item ∈ pass.activeRuns, store.runs.find item.id ≠ none
  covered : ∀ run ∈ store.runs.rows, run.state.isTerminal = false → run.versionKey = key →
    ∃ item ∈ pass.activeRuns, item.id = run.id ∧ item.versionKey = key ∧
      item.state.isTerminal = false
  room : (unstartedCount store key = 0 ∧ activeRunCount store key ≤ pass.activeCounts key ∧
      pass.activeCounts key ≤ mode.bound) ∨
    activeRunCount store key + unstartedCount store key + rest.countP (isScheduledFor key) ≤ mode.bound

theorem known_settles (h : ∀ item ∈ runs, store.runs.find item.id ≠ none) (hs : Settles store store') :
    ∀ item ∈ runs, store'.runs.find item.id ≠ none := by
  intro item hitem hnone
  cases hf : store.runs.find item.id with
  | none => exact h item hitem hf
  | some run =>
    obtain ⟨run', hf', _⟩ := hs.run item.id run hf
    rw [hf'] at hnone
    cases hnone

theorem covered_settles (h : ∀ run ∈ store.runs.rows, run.state.isTerminal = false → run.versionKey = key →
      ∃ item ∈ runs, item.id = run.id ∧ item.versionKey = key ∧ item.state.isTerminal = false)
    (hs : Settles store store') :
    ∀ run ∈ store'.runs.rows, run.state.isTerminal = false → run.versionKey = key →
      ∃ item ∈ runs, item.id = run.id ∧ item.versionKey = key ∧ item.state.isTerminal = false := by
  intro run' hrun' hlive hkey
  obtain ⟨run, hf, hkey', hlive'⟩ := hs.run_before (find_eq_some.mpr ⟨hrun', rfl⟩)
  obtain ⟨hrun, hid⟩ := find_eq_some.mp hf
  obtain ⟨item, hitem, hiid, hrest⟩ := h run hrun (hlive' hlive) (hkey'.trans hkey)
  exact ⟨item, hitem, hiid.trans hid, hrest⟩

theorem PassOk.settles (h : PassOk key mode pass rest store) (hs : Settles store store') :
    PassOk key mode pass rest store' where
  within := h.within.settles hs
  accepted := fun o ho hacc => (hs.accepted o hacc).mpr (h.accepted o ho hacc)
  known := known_settles h.known hs
  covered := covered_settles h.covered hs
  room := by
    have hactive := hs.activeRunCount_le key
    have hunstarted := hs.unstartedCount_eq key
    rcases h.room with ⟨h0, h1, h2⟩ | h1
    · exact .inl ⟨by omega, by omega, h2⟩
    · exact .inr (by omega)

theorem PassOk.tail (h : PassOk key mode pass (o :: rest) store) (hruns : pass'.activeRuns = pass.activeRuns)
    (hcounts : pass'.activeCounts = pass.activeCounts) : PassOk key mode pass' rest store where
  within := h.within
  accepted := fun o' ho => h.accepted o' (mem_cons_of_mem _ ho)
  known := by
    rw [hruns]
    exact h.known
  covered := by
    rw [hruns]
    exact h.covered
  room := by
    rw [hcounts]
    rcases h.room with h | h
    · exact .inl h
    · rw [countP_cons] at h
      exact .inr (by omega)

structure StartOk (key : VersionKey) (mode : AutomationRunMode) (o : AutomationOccurrence)
    (pass : RecoveryPass) (rest : List AutomationOccurrence) (store : AutomationStore) : Prop where
  within : WithinBound key mode store
  isAccepted : o.state = .accepted
  stored : store.occurrences.find o.id = some o
  accepted : ∀ o' ∈ rest, o'.state = .accepted → store.occurrences.find o'.id = some o'
  known : ∀ item ∈ pass.activeRuns, store.runs.find item.id ≠ none
  covered : ∀ run ∈ store.runs.rows, run.state.isTerminal = false → run.versionKey = key →
    ∃ item ∈ pass.activeRuns, item.id = run.id ∧ item.versionKey = key ∧
      item.state.isTerminal = false
  room : (activeRunCount store key + unstartedCount store key ≤ pass.activeCounts key ∧
      pass.activeCounts key ≤ mode.bound ∧ (unstartedCount store key = 0 ∨
        (unstartedCount store key = 1 ∧ isUnstarted store key o = true))) ∨
    activeRunCount store key + unstartedCount store key + rest.countP (isScheduledFor key) ≤ mode.bound

theorem isUnstarted_settles (hs : Settles store store') (o : AutomationOccurrence) :
    isUnstarted store' key o = isUnstarted store key o := by
  simp only [isUnstarted, hs.find_isNone]

theorem StartOk.settles (h : StartOk key mode o pass rest store) (hs : Settles store store') :
    StartOk key mode o pass rest store' where
  within := h.within.settles hs
  isAccepted := h.isAccepted
  stored := (hs.accepted o h.isAccepted).mpr h.stored
  accepted := fun o' ho hacc => (hs.accepted o' hacc).mpr (h.accepted o' ho hacc)
  known := known_settles h.known hs
  covered := covered_settles h.covered hs
  room := by
    have hactive := hs.activeRunCount_le key
    have hunstarted := hs.unstartedCount_eq key
    rw [isUnstarted_settles hs, hunstarted]
    rcases h.room with ⟨h0, h1, h2⟩ | h1
    · exact .inl ⟨by omega, h1, h2⟩
    · exact .inr (by omega)

theorem StartOk.passOk (h : StartOk key mode o pass rest store) (hrun : store.runs.find ⟨o.id⟩ ≠ none)
    (hcounts : pass'.activeCounts = pass.activeCounts) (hsub : ∀ item ∈ pass.activeRuns, item ∈ pass'.activeRuns)
    (hknown : ∀ item ∈ pass'.activeRuns, store.runs.find item.id ≠ none) :
    PassOk key mode pass' rest store where
  within := h.within
  accepted := h.accepted
  known := hknown
  covered := by
    intro run hmem hlive hkey
    obtain ⟨item, hitem, hrest⟩ := h.covered run hmem hlive hkey
    exact ⟨item, hsub item hitem, hrest⟩
  room := by
    rw [hcounts]
    rcases h.room with ⟨h0, h1, h2⟩ | h1
    · have hzero : unstartedCount store key = 0 := by
        rcases h2 with h2 | ⟨_, h2⟩
        · exact h2
        · simp only [isUnstarted, Bool.and_eq_true, Option.isNone_iff_eq_none] at h2
          exact absurd h2.2 hrun
      exact .inl ⟨hzero, by omega, h1⟩
    · exact .inr h1

/-- Creating the run of an accepted occurrence. -/
theorem StartOk.created {run : AutomationRun} (h : StartOk key mode o pass rest store) (hid : run.id = ⟨o.id⟩)
    (hocc : run.occurrenceId = o.id) (hkey : run.versionKey = o.versionKey) (hlive : run.state.isTerminal = false)
    (hnew : store.runs.find run.id = none) :
    StartOk key mode o { pass with activeRuns := pass.activeRuns ++ [run] } rest
      { store with runs := store.runs.insert run hnew } := by
  have hfind : ∀ id, (store.runs.insert run hnew).find id =
      if run.id = id then some run else store.runs.find id := fun id => find_insert
  have hlinked : Linked { store with runs := store.runs.insert run hnew } := by
    intro other hother
    replace hother : other ∈ (store.runs.insert run hnew).rows := hother
    rcases mem_insert.mp hother with hother | rfl
    · exact h.within.linked other hother
    · refine ⟨by rw [hid, hocc], o, ?_, h.isAccepted, hkey.symm⟩
      rw [hocc]
      exact h.stored
  -- the new run counts as active exactly when its occurrence stops waiting
  have hcounts : activeRunCount { store with runs := store.runs.insert run hnew } key +
      unstartedCount { store with runs := store.runs.insert run hnew } key ≤
      activeRunCount store key + unstartedCount store key ∧
      unstartedCount { store with runs := store.runs.insert run hnew } key ≤ unstartedCount store key ∧
      (isUnstarted store key o = true →
        unstartedCount { store with runs := store.runs.insert run hnew } key <
          unstartedCount store key) := by
    have hsub : ∀ o' ∈ store.occurrences.rows,
        isUnstarted { store with runs := store.runs.insert run hnew } key o' = true →
        ∃ b ∈ store.occurrences.rows, isUnstarted store key b = true ∧ b.id = o'.id := by
      intro o' ho' hp
      simp only [isUnstarted, hfind, Bool.and_eq_true] at hp
      refine ⟨o', ho', ?_, rfl⟩
      split at hp
      · cases hp.2
      · simp only [isUnstarted, Bool.and_eq_true]
        exact hp
    have hle : unstartedCount { store with runs := store.runs.insert run hnew } key ≤
        unstartedCount store key := count_le_of_keys hsub
    have hlt : isUnstarted store key o = true →
        unstartedCount { store with runs := store.runs.insert run hnew } key <
          unstartedCount store key := by
      intro hun
      refine count_lt_of_keys hsub (find_eq_some.mp h.stored).1 hun ?_
      intro o' _ hp heq
      simp only [isUnstarted, hfind, heq, hid, if_true, Bool.and_eq_true] at hp
      cases hp.2
    have hactive : activeRunCount { store with runs := store.runs.insert run hnew } key =
        activeRunCount store key + if run.versionKey = key then 1 else 0 := by
      show (store.runs.insert run hnew).count _ = _
      rw [Table.count_insert]
      simp [hlive, activeRunCount]
    refine ⟨?_, hle, hlt⟩
    by_cases hk : run.versionKey = key
    · have hun : isUnstarted store key o = true := by
        rw [hid] at hnew
        simp [isUnstarted, h.isAccepted, hnew, ← hkey, hk]
      have := hlt hun
      rw [hactive, if_pos hk]
      omega
    · rw [hactive, if_neg hk]
      omega
  obtain ⟨hsum, hle, hlt⟩ := hcounts
  have hb := h.within.bound
  refine ⟨⟨hlinked, h.within.runMode, by omega⟩, h.isAccepted, h.stored, h.accepted, ?_, ?_, ?_⟩
  · intro item hitem
    show (store.runs.insert run hnew).find item.id ≠ none
    rw [hfind]
    split
    · exact Option.some_ne_none run
    · rename_i hne
      rcases mem_append.mp hitem with hitem | hitem
      · exact h.known item hitem
      · rw [mem_singleton.mp hitem] at hne
        exact absurd rfl hne
  · intro other hother hl hk
    replace hother : other ∈ (store.runs.insert run hnew).rows := hother
    rcases mem_insert.mp hother with hother | rfl
    · obtain ⟨item, hitem, hrest⟩ := h.covered other hother hl hk
      exact ⟨item, mem_append_left _ hitem, hrest⟩
    · exact ⟨other, mem_append_right _ (mem_singleton.mpr rfl), rfl, hk, hl⟩
  · rcases h.room with ⟨h0, h1, h2⟩ | h1
    · refine .inl ⟨Nat.le_trans hsum h0, h1, .inl ?_⟩
      rcases h2 with h2 | ⟨h2, hun⟩
      · omega
      · have := hlt hun
        omega
    · exact .inr (by omega)

theorem find_ne_none_settles (h : store.runs.find id ≠ none) (hs : Settles store store') :
    store'.runs.find id ≠ none := by
  cases hf : store.runs.find id with
  | none => exact absurd hf h
  | some run =>
    obtain ⟨run', hf', _⟩ := hs.run id run hf
    rw [hf']
    exact Option.some_ne_none run'

/-- `ensureRun` finds the run of an accepted occurrence or creates it. -/
theorem ensureRun_bounded (h : StartOk key mode o pass rest store) :
    Bounded host key mode (ensureRun active o now) (fun run s =>
      run.id = ⟨o.id⟩ ∧ s.runs.find run.id ≠ none ∧ (StartOk key mode o pass rest s ∨
        StartOk key mode o { pass with activeRuns := pass.activeRuns ++ [run] } rest s ∧
          run.state.isTerminal = false ∧ ∀ item ∈ pass.activeRuns, item.id ≠ run.id)) store := by
  apply bounded_bind
  refine fun s1 hs1 _ r s2 hh => ?_
  obtain ⟨rfl, hanswer⟩ := hh
  have h1 := h.settles hs1
  refine ⟨h1.within, ?_⟩
  cases r with
  | error error => exact fun _ _ _ hf => nomatch hf
  | ok found =>
    refine fun s3 hs3 _ hok => ?_
    cases hok
    have h3 := h1.settles hs3
    have hfind := hanswer found rfl
    cases hfound : found with
    | some run =>
      rw [hfound] at hfind
      apply bounded_pure
      intro s4 hs4
      have hid := (find_eq_some.mp hfind.symm).2
      have hthere : s2.runs.find run.id ≠ none := by
        rw [hid, ← hfind]
        exact Option.some_ne_none run
      exact ⟨hid, find_ne_none_settles (find_ne_none_settles hthere hs3) hs4, .inl (h3.settles hs4)⟩
    | none =>
      rw [hfound] at hfind
      apply bounded_bind
      refine fun s4 hs4 _ r' s5 hh' => ?_
      have h4 := h3.settles hs4
      generalize hrun : newRun active.version.plan
        active.version.document.provenance.authorId o now = run at hh'
      have hid : run.id = ⟨o.id⟩ := by rw [← hrun]; rfl
      have habsent : s4.runs.find run.id = none := by
        rw [hid]
        exact hs4.absent _ (hs3.absent _ hfind.symm)
      -- the call fails, or inserts the run
      rcases hh' with ⟨hr', hcreate⟩ | ⟨⟨error, hr'⟩, rfl⟩
      · rcases AutomationStore.createRun_spec hcreate with ⟨_, hexists⟩ | ⟨hnew, rfl, _⟩
        · rw [habsent] at hexists
          cases hexists
        · have hocc : run.occurrenceId = o.id := by rw [← hrun]; rfl
          have hkey : run.versionKey = o.versionKey := by rw [← hrun]; rfl
          have hlive : run.state.isTerminal = false := by rw [← hrun]; rfl
          have h5 := h4.created hid hocc hkey hlive hnew
          refine ⟨h5.within, ?_⟩
          subst hr'
          refine fun s6 hs6 _ hok => ?_
          cases hok
          apply bounded_pure
          intro s7 hs7
          refine ⟨hid, ?_, .inr ⟨(h5.settles hs6).settles hs7, hlive, ?_⟩⟩
          · refine find_ne_none_settles (find_ne_none_settles ?_ hs6) hs7
            exact h5.known run (mem_append_right _ (mem_singleton.mpr rfl))
          · intro item hitem heq
            exact h4.known item hitem (heq ▸ habsent)
      · subst hr'
        exact ⟨h4.within, fun _ _ _ hf => nomatch hf⟩

theorem startRun_bounded (h : StartOk key mode o pass rest store) :
    Bounded host key mode (startRun active o now pass) (fun pass' s => PassOk key mode pass' rest s)
      store := by
  apply bounded_bind
  apply bounded_mono (ensureRun_bounded h)
  rintro run s ⟨hid, hthere, hstart⟩
  apply bounded_pure
  intro s' hs'
  have hthere' := find_ne_none_settles hthere hs'
  rcases hstart with hstart | ⟨hstart, hlive, hdistinct⟩
  · have h' := hstart.settles hs'
    refine h'.passOk (hid ▸ hthere') rfl ?_ ?_
    · intro item hitem
      dsimp only
      split
      · exact mem_append_left _ hitem
      · exact hitem
    · intro item hitem
      dsimp only at hitem
      split at hitem
      · rcases mem_append.mp hitem with hitem | hitem
        · exact h'.known item hitem
        · rw [mem_singleton.mp hitem]
          exact hthere'
      · exact h'.known item hitem
  · have h' := hstart.settles hs'
    have hall : pass.activeRuns.all (fun item => item.id != run.id) = true := by
      simpa using hdistinct
    refine h'.passOk (hid ▸ hthere') rfl ?_ ?_
    · intro item hitem
      simp only [hlive, hall, and_self, if_true]
      exact hitem
    · intro item hitem
      simp only [hlive, hall, and_self, if_true] at hitem
      exact h'.known item hitem

structure CancelledFor (o : AutomationOccurrence) (runs : List AutomationRun)
    (result : List AutomationRun × ℕ) (store : AutomationStore) : Prop where
  kept : ∀ item ∈ runs, item.versionKey ≠ o.versionKey → item ∈ result.1
  ids : ∀ item ∈ result.1, ∃ item' ∈ runs, item.id = item'.id
  terminal : ∀ item ∈ runs, item.versionKey = o.versionKey → item.state.isTerminal = false →
    ∀ run, store.runs.find item.id = some run → run.state.isTerminal = true

theorem terminal_settles (h : ∀ run, store.runs.find id = some run → run.state.isTerminal = true)
    (hs : Settles store store') :
    ∀ run, store'.runs.find id = some run → run.state.isTerminal = true := by
  intro run' hf'
  obtain ⟨run, hf, _, hlive⟩ := hs.run_before hf'
  cases hterm : run'.state.isTerminal with
  | true => rfl
  | false =>
    have hrun := h run hf
    rw [hlive hterm] at hrun
    cases hrun

theorem commitStep_terminal {write : AutomationStepWrite} (hterm : write.run.state.isTerminal = true)
    (h : store.commitStep write = .ok store') :
    ∀ run, store'.runs.find write.run.id = some run → run.state.isTerminal = true := by
  obtain ⟨_, current, revised, hf, _, hruns, _, _, _, _, htrace⟩ := AutomationStore.commitStep_spec h
  have hw := AutomationStore.appendTrace_sameWork _ htrace
  intro run hrun
  rw [hw.runs, hruns, find_replace hf, if_pos rfl, Option.some.injEq] at hrun
  rw [← hrun]
  exact hterm

/-- Cancelling the older runs stays within the bound. -/
theorem cancelForRestart_bounded {timers : List AutomationTimer} (runs : List AutomationRun)
    (hi : WithinBound key mode store) :
    Bounded host key mode (cancelForRestart timers o now runs) (fun result s =>
      CancelledFor o runs result s ∧ WithinBound key mode s ∧ Settles store s) store := by
  induction runs generalizing store with
  | nil =>
    apply bounded_pure
    intro s hs
    refine ⟨⟨?_, ?_, ?_⟩, hi.settles hs, hs⟩ <;> intro item hitem <;> cases hitem
  | cons run rest ih =>
    unfold cancelForRestart
    split
    · rename_i hmatch
      apply bounded_bind
      apply bounded_mono (bounded_of_quiet (calls_repository (calls_request trivial)) hi)
      rintro trace s1 ⟨hi1, hs1⟩
      apply bounded_bind
      -- the commit makes the row terminal before anything else is cancelled
      refine fun s2 hs2 _ r s3 hh => ?_
      have hi2 := hi1.settles hs2
      have hquiet : (AutomationCall.commitStep
          (restartWrite run timers o now trace.length)).IsQuiet :=
        (restartWrite_oneEntry run timers o now trace.length).tracesOnce
      have hs3 := quiet_settles hquiet hh
      refine ⟨hi2.settles hs3, ?_⟩
      rcases hh with ⟨hr, hcommit⟩ | ⟨⟨error, hr⟩, rfl⟩
      · subst hr
        refine fun s4 hs4 _ hok => ?_
        cases hok
        have hterm := terminal_settles (commitStep_terminal rfl hcommit) hs4
        have hall := ((hs1.trans hs2).trans hs3).trans hs4
        apply bounded_bind
        apply bounded_mono (ih (hi.settles hall))
        rintro ⟨rest', cancelled⟩ s5 ⟨hrest, hi5, hs5⟩
        apply bounded_pure
        intro s6 hs6
        refine ⟨⟨?_, ?_, ?_⟩, hi5.settles hs6, (hall.trans hs5).trans hs6⟩
        · intro item hitem hkey
          rcases mem_cons.mp hitem with rfl | hitem
          · exact absurd hmatch.1 hkey
          · exact mem_cons_of_mem _ (hrest.kept item hitem hkey)
        · intro item hitem
          rcases mem_cons.mp hitem with rfl | hitem
          · exact ⟨run, mem_cons_self, rfl⟩
          · obtain ⟨item', hitem', hid⟩ := hrest.ids item hitem
            exact ⟨item', mem_cons_of_mem _ hitem', hid⟩
        · intro item hitem hkey hlive
          rcases mem_cons.mp hitem with rfl | hitem
          · exact terminal_settles hterm (hs5.trans hs6)
          · exact terminal_settles (hrest.terminal item hitem hkey hlive) hs6
      · subst hr
        exact fun _ _ _ hf => nomatch hf
    · rename_i hmatch
      apply bounded_bind
      apply bounded_mono (ih hi)
      rintro ⟨rest', cancelled⟩ s1 ⟨hrest, hi1, hs1⟩
      apply bounded_pure
      intro s2 hs2
      refine ⟨⟨?_, ?_, ?_⟩, hi1.settles hs2, hs1.trans hs2⟩
      · intro item hitem hkey
        rcases mem_cons.mp hitem with rfl | hitem
        · exact mem_cons_self
        · exact mem_cons_of_mem _ (hrest.kept item hitem hkey)
      · intro item hitem
        rcases mem_cons.mp hitem with rfl | hitem
        · exact ⟨item, mem_cons_self, rfl⟩
        · obtain ⟨item', hitem', hid⟩ := hrest.ids item hitem
          exact ⟨item', mem_cons_of_mem _ hitem', hid⟩
      · intro item hitem hkey hlive
        rcases mem_cons.mp hitem with rfl | hitem
        · exact absurd ⟨hkey, hlive⟩ hmatch
        · exact terminal_settles (hrest.terminal item hitem hkey hlive) hs2

end

end HomeMagic
