import HomeMagic.AutomationStepWrites
import HomeMagic.AutomationStoreSpec

/-! Runs and the accepted occurrences they belong to, under the calls of every
service but the scheduler and retention. -/
namespace HomeMagic
open Table Fallible

variable {occurrence : AutomationOccurrence} {c : AutomationCall}

def Linked (store : AutomationStore) : Prop :=
  ∀ run ∈ store.runs.rows, run.id = ⟨run.occurrenceId⟩ ∧
    ∃ occurrence, store.occurrences.find run.occurrenceId = some occurrence ∧
      occurrence.state = .accepted ∧ occurrence.versionKey = run.versionKey

def activeRunCount (store : AutomationStore) (key : VersionKey) : ℕ :=
  store.runs.count (fun run => !run.state.isTerminal && run.versionKey == key)

def isUnstarted (store : AutomationStore) (key : VersionKey) (occurrence : AutomationOccurrence) :
    Bool :=
  occurrence.state == .accepted && occurrence.versionKey == key &&
    (store.runs.find ⟨occurrence.id⟩).isNone

def unstartedCount (store : AutomationStore) (key : VersionKey) : ℕ :=
  store.occurrences.count (isUnstarted store key)

/-- What the other services can do while the scheduler works: runs move on within
their version and stay terminal, and no accepted occurrence comes or goes. -/
structure Settles (store store' : AutomationStore) : Prop where
  versions : store'.versions = store.versions
  linked : Linked store → Linked store'
  absent : ∀ id, store.runs.find id = none → store'.runs.find id = none
  run : ∀ id run, store.runs.find id = some run → ∃ run', store'.runs.find id = some run' ∧
    run'.versionKey = run.versionKey ∧ (run.state.isTerminal = true → run'.state.isTerminal = true)
  accepted : ∀ occurrence, occurrence.state = .accepted →
    (store'.occurrences.find occurrence.id = some occurrence ↔
      store.occurrences.find occurrence.id = some occurrence)

namespace Settles

theorem refl (store : AutomationStore) : Settles store store where
  versions := rfl
  linked := id
  absent := fun _ => id
  run := fun _ run h => ⟨run, h, rfl, id⟩
  accepted := fun _ _ => Iff.rfl

theorem trans {a b c : AutomationStore} (h : Settles a b) (h' : Settles b c) : Settles a c where
  versions := h'.versions.trans h.versions
  linked := fun hl => h'.linked (h.linked hl)
  absent := fun id hn => h'.absent id (h.absent id hn)
  run := by
    intro id run hf
    obtain ⟨run', hf', hkey, hterm⟩ := h.run id run hf
    obtain ⟨run'', hf'', hkey', hterm'⟩ := h'.run id run' hf'
    exact ⟨run'', hf'', hkey'.trans hkey, fun ht => hterm' (hterm ht)⟩
  accepted := fun o ho => (h'.accepted o ho).trans (h.accepted o ho)

variable {store store' : AutomationStore}

theorem run_before (h : Settles store store') {id : AutomationRunId} {run' : AutomationRun}
    (hf : store'.runs.find id = some run') : ∃ run, store.runs.find id = some run ∧
      run.versionKey = run'.versionKey ∧ (run'.state.isTerminal = false → run.state.isTerminal = false) := by
  cases hfind : store.runs.find id with
  | none =>
    rw [h.absent id hfind] at hf
    cases hf
  | some run =>
    obtain ⟨run'', hf', hkey, hterm⟩ := h.run id run hfind
    rw [hf, Option.some.injEq] at hf'
    subst hf'
    refine ⟨run, rfl, hkey.symm, ?_⟩
    intro hlive
    cases hstate : run.state.isTerminal with
    | false => rfl
    | true =>
      rw [hterm hstate] at hlive
      cases hlive

theorem activeRunCount_le (h : Settles store store') (key : VersionKey) :
    activeRunCount store' key ≤ activeRunCount store key := by
  apply count_le_of_keys
  intro run' hmem hp
  simp only [Bool.and_eq_true, Bool.not_eq_true', beq_iff_eq] at hp
  obtain ⟨run, hf, hkey, hlive⟩ := h.run_before (find_eq_some.mpr ⟨hmem, rfl⟩)
  obtain ⟨hrun, hid⟩ := find_eq_some.mp hf
  refine ⟨run, hrun, ?_, hid⟩
  simp [hlive hp.1, hkey.trans hp.2]

theorem find_isNone (h : Settles store store') (id : AutomationRunId) :
    (store'.runs.find id).isNone = (store.runs.find id).isNone := by
  cases hf : store.runs.find id with
  | none => rw [h.absent id hf]
  | some run =>
    obtain ⟨run', hf', _⟩ := h.run id run hf
    rw [hf']
    rfl

theorem unstartedCount_eq (h : Settles store store') (key : VersionKey) :
    unstartedCount store' key = unstartedCount store key := by
  have hp : ∀ o, isUnstarted store' key o = isUnstarted store key o := by
    intro o
    simp only [isUnstarted, h.find_isNone]
  -- the counted occurrences are accepted, so they are the same on both sides
  have hmem : ∀ o, isUnstarted store key o = true →
      (o ∈ store'.occurrences.rows ↔ o ∈ store.occurrences.rows) := by
    intro o ho
    have hacc : o.state = .accepted := by
      simp only [isUnstarted, Bool.and_eq_true, beq_iff_eq] at ho
      exact ho.1.1
    have hiff := h.accepted o hacc
    rw [find_eq_some, find_eq_some] at hiff
    simpa using hiff
  apply Nat.le_antisymm
  · apply count_le_of_keys
    intro o ho hpo
    rw [hp] at hpo
    exact ⟨o, (hmem o hpo).mp ho, hpo, rfl⟩
  · apply count_le_of_keys
    intro o ho hpo
    exact ⟨o, (hmem o hpo).mpr ho, (hp o).trans hpo, rfl⟩

end Settles

def AutomationCall.IsQuiet : AutomationCall → Prop
  | createOccurrence new | transitionOccurrence new => new.state ≠ .accepted
  | commitStep write => TracesOnce write
  | createRun _ | retain _ => False
  | _ => True

namespace AutomationStore
variable {store store' : AutomationStore}

theorem settles_of_same (hv : store'.versions = store.versions) (hr : store'.runs = store.runs)
    (ho : store'.occurrences = store.occurrences) : Settles store store' where
  versions := hv
  linked := by
    intro hl
    unfold Linked
    rw [hr, ho]
    exact hl
  absent := by
    rw [hr]
    exact fun _ => id
  run := by
    rw [hr]
    exact fun _ run h => ⟨run, h, rfl, id⟩
  accepted := by
    rw [ho]
    exact fun _ _ => Iff.rfl

theorem settles_of_accepted (hv : store'.versions = store.versions)
    (hr : store'.runs = store.runs) (ho : ∀ occurrence : AutomationOccurrence,
      occurrence.state = .accepted →
      (store'.occurrences.find occurrence.id = some occurrence ↔
        store.occurrences.find occurrence.id = some occurrence)) : Settles store store' where
  versions := hv
  linked := by
    intro hl run hrun
    rw [hr] at hrun
    obtain ⟨hid, occurrence, hf, hacc, hkey⟩ := hl run hrun
    have hoid := (find_eq_some.mp hf).2
    refine ⟨hid, occurrence, ?_, hacc, hkey⟩
    rw [← hoid] at hf ⊢
    exact (ho occurrence hacc).mpr hf
  absent := by
    rw [hr]
    exact fun _ => id
  run := by
    rw [hr]
    exact fun _ run h => ⟨run, h, rfl, id⟩
  accepted := ho

theorem createOccurrence_settles (hstate : occurrence.state ≠ .accepted)
    (h : store.createOccurrence occurrence = .ok store') :
    Settles store store' := by
  rcases createOccurrence_spec h with ⟨rfl, _⟩ | ⟨hnew, rfl, _⟩
  · exact .refl _
  · refine settles_of_accepted rfl rfl ?_
    intro o ho
    rw [find_insert]
    by_cases hid : occurrence.id = o.id
    · rw [if_pos hid]
      constructor
      · intro heq
        cases heq
        exact absurd ho hstate
      · intro hf
        rw [← hid, hnew] at hf
        cases hf
    · rw [if_neg hid]

theorem transitionOccurrence_from_scheduled {current : AutomationOccurrence}
    (h : current.state.allowsTransitionTo occurrence.state = true) : current.state = .scheduled := by
  cases hs : current.state <;> rw [hs] at h <;> first | rfl | cases h

theorem transitionOccurrence_settles (hstate : occurrence.state ≠ .accepted)
    (h : store.transitionOccurrence occurrence = .ok store') :
    Settles store store' := by
  obtain ⟨current, hf, _, hallow, rfl⟩ := transitionOccurrence_spec h
  have hscheduled := transitionOccurrence_from_scheduled hallow
  refine settles_of_accepted rfl rfl ?_
  intro o ho
  rw [find_replace hf]
  by_cases hid : occurrence.id = o.id
  · rw [if_pos hid]
    constructor
    · intro heq
      cases heq
      exact absurd ho hstate
    · intro hfo
      rw [← hid, hf] at hfo
      cases hfo
      rw [hscheduled] at ho
      cases ho
  · rw [if_neg hid]

theorem RunRevised.live {current run : AutomationRun} {expectedRevision : ℕ}
    (h : RunRevised current run expectedRevision) : current.state.isTerminal = false := by
  have hs := h.state
  cases hstate : current.state <;> rw [hstate] at hs <;> first | rfl | simp [AutomationRunState.allowsRevisionTo,
    AutomationRunState.allowsTransitionTo, AutomationRunState.isTerminal] at hs

/-- A step of a run leaves the accepted occurrences alone. -/
theorem commitStep_settles {write : AutomationStepWrite} (h : store.commitStep write = .ok store') :
    Settles store store' := by
  obtain ⟨_, current, revised, hf, hrev, hruns, hocc, _, hver, _, htrace⟩ := commitStep_spec h
  have hw := appendTrace_sameWork _ htrace
  have hkey : write.run.versionKey = current.versionKey := by
    simp only [AutomationRun.versionKey, hrev.automationId, hrev.version]
  have hfind : ∀ id, store'.runs.find id =
      if write.run.id = id then some write.run else store.runs.find id := by
    intro id
    rw [hw.runs, hruns, find_replace hf]
  have hsame : store'.occurrences = store.occurrences := hw.occurrences.trans hocc
  refine ⟨hw.versions.trans hver, ?_, ?_, ?_, ?_⟩
  · intro hl run hrun
    rw [hw.runs, hruns, mem_replace hf] at hrun
    rw [hsame]
    rcases hrun with rfl | ⟨hrun, _⟩
    · obtain ⟨hcur, hid⟩ := find_eq_some.mp hf
      obtain ⟨hcid, occurrence, ho, hacc, hokey⟩ := hl current hcur
      rw [hrev.occurrenceId, ← hid, hkey]
      exact ⟨hcid, occurrence, ho, hacc, hokey⟩
    · exact hl run hrun
  · intro id hnone
    rw [hfind]
    split
    · rename_i hid
      rw [hid] at hf
      rw [hf] at hnone
      cases hnone
    · exact hnone
  · intro id run hrun
    rw [hfind]
    split
    · rename_i hid
      rw [← hid, hf, Option.some.injEq] at hrun
      subst hrun
      refine ⟨write.run, rfl, hkey, ?_⟩
      intro hterm
      rw [hrev.live] at hterm
      cases hterm
    · exact ⟨run, hrun, rfl, fun hterm => hterm⟩
  · rw [hsame]
    exact fun _ _ => Iff.rfl

end AutomationStore

theorem Commits.cases {result : Except StorageError AutomationStore}
    {response : Except StorageError Unit} {store store' : AutomationStore}
    (h : Commits result response store store') :
    (response = .ok () ∧ result = .ok store') ∨ store' = store := by
  rcases h with h | ⟨_, h⟩
  · exact .inl h
  · exact .inr h

inductive AutomationWrote (host : StoreHost) (store store' : AutomationStore) : AutomationCall → Prop
  | createOccurrence {o : AutomationOccurrence} (h : store.createOccurrence o = .ok store') :
      AutomationWrote host store store' (.createOccurrence o)
  | transitionOccurrence {o : AutomationOccurrence} (h : store.transitionOccurrence o = .ok store') :
      AutomationWrote host store store' (.transitionOccurrence o)
  | createRun {run : AutomationRun} (h : store.createRun run = .ok store') :
      AutomationWrote host store store' (.createRun run)
  | transitionTimer {timer : AutomationTimer} (h : store.transitionTimer timer = .ok store') :
      AutomationWrote host store store' (.transitionTimer timer)
  | commitStep {write : AutomationStepWrite} (h : store.commitStep write = .ok store') :
      AutomationWrote host store store' (.commitStep write)
  | retain {policy : AutomationRetention} (h : store' = store.retain host policy) :
      AutomationWrote host store store' (.retain policy)
  | advanceEventCursor {expectedRevision cursor : ℕ} (advanced : AutomationEventCursor)
      (h : store' = { store with eventCursor := advanced }) :
      AutomationWrote host store store' (.advanceEventCursor expectedRevision cursor)

theorem automationHandler_wrote {host : StoreHost} {c : AutomationCall} {store store' : AutomationStore}
    {r : c.Response} (h : automationHandler host c store r store') :
    store' = store ∨ AutomationWrote host store store' c := by
  cases c with
  | now | stepPorts plan run traceLength | eventsAfter cursor limit => exact .inl h
  | activeVersions limit | identity id | version id v | eventCursor | occurrence id | run id
    | trace runId afterSequence limit | recoverableWork limit => exact .inl h.1
  | createOccurrence o => exact (Commits.cases h).elim (fun h => .inr (.createOccurrence h.2)) .inl
  | transitionOccurrence o => exact (Commits.cases h).elim (fun h => .inr (.transitionOccurrence h.2)) .inl
  | createRun run => exact (Commits.cases h).elim (fun h => .inr (.createRun h.2)) .inl
  | transitionTimer timer => exact (Commits.cases h).elim (fun h => .inr (.transitionTimer h.2)) .inl
  | commitStep write => exact (Commits.cases h).elim (fun h => .inr (.commitStep h.2)) .inl
  | retain policy =>
    exact (Commits.cases h).elim (fun h => .inr (.retain (Except.ok.inj h.2).symm)) .inl
  | advanceEventCursor expectedRevision cursor =>
    rcases h with ⟨advanced, _, h⟩ | ⟨_, h⟩
    · unfold AutomationStore.advanceEventCursor at h
      split at h
      · cases h
      split at h
      · cases h
      · cases h
        exact .inr (.advanceEventCursor _ rfl)
    · exact .inl h

theorem quiet_settles {host : StoreHost} {store store' : AutomationStore} {r : c.Response} (hc : c.IsQuiet)
    (h : automationHandler host c store r store') :
    Settles store store' := by
  rcases automationHandler_wrote h with rfl | hwrote
  · exact .refl _
  cases hwrote with
  | createRun hok => exact hc.elim
  | retain hok => exact hc.elim
  | createOccurrence hok => exact AutomationStore.createOccurrence_settles hc hok
  | transitionOccurrence hok => exact AutomationStore.transitionOccurrence_settles hc hok
  | commitStep hok => exact AutomationStore.commitStep_settles hok
  | transitionTimer hok =>
    obtain ⟨hw, _⟩ := AutomationStore.transitionTimer_sameWork hok
    exact AutomationStore.settles_of_same hw.versions hw.runs hw.occurrences
  | advanceEventCursor advanced hok =>
    subst hok
    exact AutomationStore.settles_of_same rfl rfl rfl

section Calls
variable {P : AutomationCall → Prop} {ε α : Type}

theorem calls_pure (value : α) : (pure value : ServiceM ε α).run.Calls P := trivial

theorem calls_throw (error : ε) : (throw error : ServiceM ε α).run.Calls P := trivial

theorem calls_repository {wrap : StorageError → ε}
    {p : Program AutomationCall AutomationCall.Response (Except StorageError α)} (hp : p.Calls P) :
    (repository wrap p).run.Calls P := by
  refine Program.calls_bind hp ?_
  intro response
  cases response <;> trivial

theorem calls_request (hc : P c) : (request c).Calls P := ⟨hc, fun _ => trivial⟩

theorem calls_clockNow (hc : P .now) : (clockNow : ServiceM ε Instant).run.Calls P :=
  ⟨hc, fun _ => trivial⟩

theorem calls_asClient {p : ServiceM ε α} (hp : p.run.Calls P) : (asClient p).Calls P :=
  Program.calls_bind hp (fun _ => trivial)

end Calls

theorem runtimeStep_quiet (evaluator : EvaluatorHost) (runId : AutomationRunId) :
    (runtimeStep evaluator runId).run.Calls AutomationCall.IsQuiet := by
  unfold runtimeStep
  apply calls_bind (calls_repository (calls_request trivial))
  intro found
  split
  · exact calls_pure _
  split
  · exact calls_pure _
  apply calls_bind (calls_repository (calls_request trivial))
  intro identity
  split
  · exact calls_pure _
  split
  · exact calls_pure _
  apply calls_bind (calls_repository (calls_request trivial))
  intro version
  split
  · exact calls_throw _
  apply calls_bind (calls_repository (calls_request trivial))
  intro trace
  refine calls_bind ⟨trivial, fun _ => trivial⟩ ?_
  intro inputs
  split
  · exact calls_throw _
  · exact calls_pure _
  · rename_i hstep
    have hwrite := (stepRun_oneEntry hstep).tracesOnce
    exact calls_bind (calls_repository (calls_request hwrite)) (fun _ => calls_pure _)

theorem nextTraceSequence_quiet (runId : AutomationRunId) (fuel : ℕ) (after : Option ℕ) :
    (nextTraceSequence runId fuel after).run.Calls AutomationCall.IsQuiet := by
  induction fuel generalizing after with
  | zero => exact calls_pure _
  | succ fuel ih =>
    unfold nextTraceSequence
    apply calls_bind (calls_repository (calls_request trivial))
    intro page
    split
    · exact calls_pure _
    · split
      · exact calls_pure _
      · exact ih _

theorem cancelRun_quiet (actorId : ActorId) (runId : AutomationRunId) (fuel : ℕ) :
    (cancelRun actorId runId fuel).run.Calls AutomationCall.IsQuiet := by
  unfold cancelRun
  apply calls_bind (calls_repository (calls_request trivial))
  intro found
  split
  · exact calls_throw _
  apply calls_bind (calls_repository (calls_request trivial))
  intro version
  split
  · exact calls_throw _
  split
  · exact calls_throw _
  split
  · exact calls_throw _
  apply calls_bind (calls_repository (calls_request trivial))
  intro recovery
  apply calls_bind (nextTraceSequence_quiet runId fuel none)
  intro sequence
  split
  · exact calls_pure _
  · apply calls_bind (calls_clockNow trivial)
    intro now
    exact calls_repository (calls_request (cancelWrite_oneEntry _ _ _ _).tracesOnce)

section Events
variable {P : AutomationCall → Prop}

theorem materializeEvent_calls
    (hcreate : ∀ automation event, P (.createOccurrence (eventOccurrence automation event)))
    (event : CursorEvent) (active : List ActiveAutomationVersion) :
    (materializeEvent event active).run.Calls P := by
  induction active with
  | nil => exact calls_pure _
  | cons automation rest ih =>
    unfold materializeEvent
    split
    · exact calls_bind (calls_repository (calls_request (hcreate automation event))) (fun _ => ih)
    · exact ih

theorem processEvents_calls
    (hcreate : ∀ automation event, P (.createOccurrence (eventOccurrence automation event)))
    (hnow : P .now) (hadvance : ∀ revision cursor, P (.advanceEventCursor revision cursor))
    (active : List ActiveAutomationVersion) (events : List CursorEvent)
    (checkpoint : AutomationEventCursor) : (processEvents active events checkpoint).run.Calls P := by
  induction events generalizing checkpoint with
  | nil => exact calls_pure _
  | cons event rest ih =>
    unfold processEvents
    apply calls_bind (materializeEvent_calls hcreate event active)
    intro _
    apply calls_bind (calls_clockNow hnow)
    intro _
    apply calls_bind (calls_repository (calls_request (hadvance _ _)))
    intro checkpoint
    exact ih checkpoint

theorem process_calls
    (hcreate : ∀ automation event, P (.createOccurrence (eventOccurrence automation event)))
    (hnow : P .now) (hadvance : ∀ revision cursor, P (.advanceEventCursor revision cursor))
    (hcursor : P .eventCursor) (hevents : ∀ cursor limit, P (.eventsAfter cursor limit))
    (hactive : ∀ limit, P (.activeVersions limit)) (limit : ℕ) : (process limit).run.Calls P := by
  unfold process
  apply calls_bind (calls_repository (calls_request hcursor))
  intro checkpoint
  apply calls_bind (calls_repository (calls_request (hevents _ _)))
  intro page
  have hrest : (do
      let active ← repository (.repository "load_active_versions")
        (request (.activeVersions maxActiveAutomations))
      processEvents active page.events checkpoint : EventsM Unit).run.Calls P :=
    calls_bind (calls_repository (calls_request (hactive _)))
      (fun active => processEvents_calls hcreate hnow hadvance active page.events checkpoint)
  split
  · split
    · exact calls_throw _
    · exact hrest
  · exact hrest

end Events

theorem process_quiet (limit : ℕ) : (process limit).run.Calls AutomationCall.IsQuiet := by
  refine process_calls ?_ trivial (fun _ _ => trivial) trivial (fun _ _ => trivial) (fun _ => trivial) limit
  intro automation event
  show (eventOccurrence automation event).state ≠ .accepted
  unfold eventOccurrence
  dsimp only
  split <;> exact fun h => nomatch h

theorem settleMissed_quiet (stored : AutomationOccurrence) :
    (settleMissed stored).run.Calls AutomationCall.IsQuiet := by
  unfold settleMissed
  split
  · refine calls_repository (calls_request ?_)
    exact fun h => nomatch h
  · exact calls_pure _
  · exact calls_throw _
  · exact calls_throw _

theorem prepareMissedSchedule_quiet (scheduler : SchedulerHost) (automationId : AutomationId)
    (scheduledFor : Instant) :
    (prepareMissedSchedule scheduler automationId scheduledFor).run.Calls AutomationCall.IsQuiet := by
  unfold prepareMissedSchedule
  apply calls_bind (calls_repository (calls_request trivial))
  intro versions
  split
  · exact calls_throw _
  split
  · exact calls_throw _
  split
  · exact calls_throw _
  split
  · exact calls_throw _
  apply calls_bind (calls_clockNow trivial)
  intro now
  split
  · exact calls_throw _
  refine calls_bind (calls_repository (calls_request ?_)) ?_
  · exact fun h => nomatch h
  intro _
  apply calls_bind (calls_repository (calls_request trivial))
  intro stored
  split
  · exact calls_bind (calls_throw _) (fun _ => calls_pure _)
  · exact calls_bind (settleMissed_quiet _) (fun _ => calls_pure _)

theorem requestCatchUp_quiet (scheduler : SchedulerHost) (automationId : AutomationId)
    (scheduledFor : Instant) (requestedBy : ActorId) (idempotencyKey : String) :
    (requestCatchUp scheduler automationId scheduledFor requestedBy idempotencyKey).run.Calls
      AutomationCall.IsQuiet := by
  unfold requestCatchUp
  apply calls_bind (prepareMissedSchedule_quiet scheduler automationId scheduledFor)
  rintro ⟨active, missedId⟩
  apply calls_bind (calls_repository (calls_request trivial))
  intro existing
  split
  · exact calls_pure _
  · apply calls_bind (calls_clockNow trivial)
    intro now
    refine calls_bind (calls_repository (calls_request ?_)) (fun _ => calls_pure _)
    exact fun h => nomatch h

theorem AutomationClient.quiet {scheduler : SchedulerHost} {evaluator : EvaluatorHost}
    {p : Program AutomationCall AutomationCall.Response Unit}
    (h : AutomationClient scheduler evaluator p) : p.Calls AutomationCall.IsQuiet := by
  cases h with
  | events limit => exact calls_asClient (process_quiet limit)
  | catchUp automationId scheduledFor requestedBy idempotencyKey =>
    exact calls_asClient
      (requestCatchUp_quiet scheduler automationId scheduledFor requestedBy idempotencyKey)
  | cancel actorId runId fuel => exact calls_asClient (cancelRun_quiet actorId runId fuel)
  | step runId => exact calls_asClient (runtimeStep_quiet evaluator runId)

end HomeMagic
