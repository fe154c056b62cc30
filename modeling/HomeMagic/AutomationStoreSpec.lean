import HomeMagic.AutomationStore

/-! What each successful repository call does to the store. -/
namespace HomeMagic

structure SameWork (store store' : AutomationStore) : Prop where
  identities : store'.identities = store.identities
  versions : store'.versions = store.versions
  occurrences : store'.occurrences = store.occurrences
  runs : store'.runs = store.runs
  eventCursor : store'.eventCursor = store.eventCursor
  drafts : store'.drafts = store.drafts
  approvals : store'.approvals = store.approvals

theorem SameWork.refl (store : AutomationStore) : SameWork store store :=
  ⟨rfl, rfl, rfl, rfl, rfl, rfl, rfl⟩

theorem SameWork.trans {a b c : AutomationStore} (h : SameWork a b) (h' : SameWork b c) :
    SameWork a c :=
  ⟨h'.1.trans h.1, h'.2.trans h.2, h'.3.trans h.3, h'.4.trans h.4, h'.5.trans h.5,
    h'.6.trans h.6, h'.7.trans h.7⟩

namespace AutomationStore
variable {store store' : AutomationStore}
variable {write : AutomationStepWrite} {host : StoreHost} {limit : ℕ} {occurrence : AutomationOccurrence}
  {run : AutomationRun} {timer : AutomationTimer} {version : ActiveAutomationVersion}

theorem activeVersion?_identity {identity : AutomationIdentityState}
    (h : store.activeVersion? identity = some version) : version.identity = identity := by
  unfold activeVersion? at h
  split at h
  · obtain ⟨number, _, hmap⟩ := Option.bind_eq_some_iff.mp h
    obtain ⟨stored, _, hactive⟩ := Option.map_eq_some_iff.mp hmap
    rw [← hactive]
  · cases h

theorem mem_loadActiveVersions (h : version ∈ store.loadActiveVersions host limit) :
    version.identity ∈ store.identities.rows ∧ store.activeVersion? version.identity = some version := by
  obtain ⟨identity, hmem, hactive⟩ := List.mem_filterMap.mp (List.mem_of_mem_take h)
  rw [activeVersion?_identity hactive]
  exact ⟨(List.perm_insertionSort _ _).mem_iff.mp hmem, hactive⟩

theorem loadActiveVersions_unique {a b : ActiveAutomationVersion} (ha : a ∈ store.loadActiveVersions host limit)
    (hb : b ∈ store.loadActiveVersions host limit) (hid : a.identity.id = b.identity.id) : a = b := by
  obtain ⟨hrow, hactive⟩ := mem_loadActiveVersions ha
  obtain ⟨hrow', hactive'⟩ := mem_loadActiveVersions hb
  rw [Table.eq_of_key hrow hrow' hid, hactive', Option.some.injEq] at hactive
  exact hactive.symm

theorem createOccurrence_spec (h : store.createOccurrence occurrence = .ok store') :
    (store' = store ∧ ∃ existing, store.occurrences.find occurrence.id = some existing ∧
      existing.sameIdentity occurrence = true) ∨
    ∃ hnew, store' = { store with occurrences := store.occurrences.insert occurrence hnew } ∧
      (store.loadVersion occurrence.automationId occurrence.version).isSome := by
  unfold createOccurrence at h
  split at h
  · rename_i existing hf
    split at h
    · rename_i hsame
      cases h
      exact .inl ⟨rfl, existing, hf, hsame⟩
    · cases h
  · rename_i hnew
    split at h
    · cases h
    · rename_i hversion
      cases h
      refine .inr ⟨hnew, rfl, ?_⟩
      simpa [Option.isNone_iff_eq_none, Option.isSome_iff_ne_none] using hversion

theorem transitionOccurrence_spec (h : store.transitionOccurrence occurrence = .ok store') :
    ∃ current, store.occurrences.find occurrence.id = some current ∧
      current.sameIdentity occurrence = true ∧
      current.state.allowsTransitionTo occurrence.state = true ∧
      store' = { store with occurrences := store.occurrences.replace occurrence } := by
  unfold transitionOccurrence at h
  split at h
  · cases h
  · rename_i current hf
    split at h
    · cases h
    · rename_i hok
      cases h
      simp only [not_or, Bool.not_eq_false] at hok
      exact ⟨current, hf, hok.1, hok.2, rfl⟩

theorem createRun_spec (h : store.createRun run = .ok store') :
    (store' = store ∧ store.runs.find run.id = some run) ∨
    ∃ hnew, store' = { store with runs := store.runs.insert run hnew } ∧
      (∀ other ∈ store.runs.rows, other.occurrenceId ≠ run.occurrenceId) ∧
      (store.occurrences.find run.occurrenceId).isSome ∧
      (store.loadVersion run.automationId run.version).isSome := by
  unfold createRun at h
  split at h
  · cases h
  split at h
  · rename_i existing hf
    split at h
    · rename_i hsame
      cases h
      exact .inl ⟨rfl, hsame ▸ hf⟩
    · cases h
  · rename_i hnew
    split at h
    · cases h
    · rename_i hok
      cases h
      simp only [List.any_eq_true, beq_iff_eq, not_or, not_exists, not_and,
        Option.isNone_iff_eq_none] at hok
      exact .inr ⟨hnew, rfl, hok.1, Option.isSome_iff_ne_none.mpr hok.2.1,
        Option.isSome_iff_ne_none.mpr hok.2.2⟩

structure RunRevised (current run : AutomationRun) (expectedRevision : ℕ) : Prop where
  expected : current.revision = expectedRevision
  revision : run.revision = min (expectedRevision + 1) (2^64 - 1)
  state : current.state.allowsRevisionTo run.state = true
  automationId : run.automationId = current.automationId
  version : run.version = current.version
  occurrenceId : run.occurrenceId = current.occurrenceId
  actorId : run.actorId = current.actorId
  createdAt : run.createdAt = current.createdAt

theorem transitionRun_spec {expectedRevision : ℕ} (h : store.transitionRun run expectedRevision = .ok store') :
    ∃ current, store.runs.find run.id = some current ∧ RunRevised current run expectedRevision ∧
      store' = { store with runs := store.runs.replace run } := by
  unfold transitionRun at h
  split at h
  · cases h
  · rename_i current hf
    split at h
    · cases h
    · rename_i hexpected
      split at h
      · cases h
      · rename_i hok
        cases h
        simp only [not_or, ne_eq, not_not, Bool.not_eq_false] at hok hexpected
        obtain ⟨hrev, hstate, ha, hv, ho, hactor, hc⟩ := hok
        exact ⟨current, hf, ⟨hexpected, hrev, hstate, ha.symm, hv.symm, ho.symm, hactor.symm,
          hc.symm⟩, rfl⟩

theorem createTimer_sameWork (h : store.createTimer timer = .ok store') :
    SameWork store store' ∧ store'.trace = store.trace := by
  unfold createTimer at h
  split at h
  · split at h
    · cases h
      exact ⟨.refl store, rfl⟩
    · cases h
  · split at h
    · cases h
    · cases h
      exact ⟨⟨rfl, rfl, rfl, rfl, rfl, rfl, rfl⟩, rfl⟩

theorem transitionTimer_sameWork (h : store.transitionTimer timer = .ok store') :
    SameWork store store' ∧ store'.trace = store.trace := by
  unfold transitionTimer at h
  split at h
  · cases h
  · split at h
    · cases h
    · cases h
      exact ⟨⟨rfl, rfl, rfl, rfl, rfl, rfl, rfl⟩, rfl⟩

theorem appendTrace_spec {step : AutomationTraceStep} (h : store.appendTrace step = .ok store') :
    step.sequence = store.expectedSequence step.runId ∧
    ∃ hnew, store' = { store with trace := store.trace.insert step hnew } := by
  unfold appendTrace at h
  split at h
  · cases h
  · rename_i hseq
    split at h
    · cases h
    · rename_i hnew
      split at h
      · cases h
      · cases h
        exact ⟨not_not.mp hseq, hnew, rfl⟩

theorem foldlM_sameWork {α : Type} {f : AutomationStore → α → Except StorageError AutomationStore}
    (hf : ∀ s a s', f s a = .ok s' → SameWork s s' ∧ s'.trace = s.trace) (l : List α)
    (h : l.foldlM f store = .ok store') : SameWork store store' ∧ store'.trace = store.trace := by
  induction l generalizing store with
  | nil =>
    cases h
    exact ⟨.refl _, rfl⟩
  | cons a rest ih =>
    rw [List.foldlM_cons] at h
    cases hstep : f store a with
    | error error =>
      rw [hstep] at h
      cases h
    | ok middle =>
      rw [hstep] at h
      obtain ⟨hw, ht⟩ := hf store a middle hstep
      obtain ⟨hw', ht'⟩ := ih h
      exact ⟨hw.trans hw', ht'.trans ht⟩

theorem appendTrace_sameWork (steps : List AutomationTraceStep)
    (h : steps.foldlM appendTrace store = .ok store') : SameWork store store' := by
  induction steps generalizing store with
  | nil =>
    cases h
    exact .refl _
  | cons step rest ih =>
    rw [List.foldlM_cons] at h
    cases hstep : store.appendTrace step with
    | error error =>
      rw [hstep] at h
      cases h
    | ok middle =>
      rw [hstep] at h
      obtain ⟨_, hnew, hmiddle⟩ := appendTrace_spec hstep
      have hfirst : SameWork store middle := by
        rw [hmiddle]
        exact ⟨rfl, rfl, rfl, rfl, rfl, rfl, rfl⟩
      exact hfirst.trans (ih h)

theorem commitStep_stages (h : store.commitStep write = .ok store') :
    crossRun write = false ∧ ∃ s1 s2 s3,
      store.transitionRun write.run write.expectedRunRevision = .ok s1 ∧
      write.createTimers.foldlM createTimer s1 = .ok s2 ∧
      write.transitionTimers.foldlM transitionTimer s2 = .ok s3 ∧
      write.trace.foldlM appendTrace s3 = .ok store' := by
  unfold commitStep at h
  split at h
  · cases h
  rename_i hcross
  refine ⟨by simpa using hcross, ?_⟩
  cases hrun : store.transitionRun write.run write.expectedRunRevision with
  | error error =>
    rw [hrun] at h
    cases h
  | ok s1 =>
    rw [hrun] at h
    replace h : ((write.createTimers.foldlM createTimer s1).bind fun s =>
      (write.transitionTimers.foldlM transitionTimer s).bind fun s =>
        write.trace.foldlM appendTrace s) = .ok store' := h
    cases hcreate : write.createTimers.foldlM createTimer s1 with
    | error error =>
      rw [hcreate] at h
      cases h
    | ok s2 =>
      rw [hcreate] at h
      replace h : ((write.transitionTimers.foldlM transitionTimer s2).bind fun s =>
        write.trace.foldlM appendTrace s) = .ok store' := h
      cases hmove : write.transitionTimers.foldlM transitionTimer s2 with
      | error error =>
        rw [hmove] at h
        cases h
      | ok s3 =>
        rw [hmove] at h
        exact ⟨s1, s2, s3, rfl, hcreate, hmove, h⟩

theorem commitStep_spec (h : store.commitStep write = .ok store') :
    crossRun write = false ∧ ∃ current revised, store.runs.find write.run.id = some current ∧
      RunRevised current write.run write.expectedRunRevision ∧
      revised.runs = store.runs.replace write.run ∧ revised.occurrences = store.occurrences ∧
      revised.identities = store.identities ∧ revised.versions = store.versions ∧
      revised.trace = store.trace ∧ write.trace.foldlM appendTrace revised = .ok store' := by
  obtain ⟨hcross, s1, s2, s3, hrun, hcreate, hmove, hfold⟩ := commitStep_stages h
  obtain ⟨current, hf, hrev, rfl⟩ := transitionRun_spec hrun
  obtain ⟨hw2, ht2⟩ := foldlM_sameWork (fun _ _ _ => createTimer_sameWork) _ hcreate
  obtain ⟨hw3, ht3⟩ := foldlM_sameWork (fun _ _ _ => transitionTimer_sameWork) _ hmove
  have hw := hw2.trans hw3
  exact ⟨hcross, current, s3, hf, hrev, hw.runs, hw.occurrences, hw.identities, hw.versions,
    ht3.trans ht2, hfold⟩

theorem commitStep_eventCursor (h : store.commitStep write = .ok store') :
    store'.eventCursor = store.eventCursor := by
  obtain ⟨_, s1, s2, s3, hrun, hcreate, hmove, hfold⟩ := commitStep_stages h
  obtain ⟨current, _, _, rfl⟩ := transitionRun_spec hrun
  obtain ⟨hw2, _⟩ := foldlM_sameWork (fun _ _ _ => createTimer_sameWork) _ hcreate
  obtain ⟨hw3, _⟩ := foldlM_sameWork (fun _ _ _ => transitionTimer_sameWork) _ hmove
  have hw := appendTrace_sameWork _ hfold
  rw [hw.eventCursor, hw3.eventCursor, hw2.eventCursor]

end AutomationStore
end HomeMagic
