import HomeMagic.AutomationAdmission

/-! Retention and runs. The runs ever created are tracked through every history of
ticks, service calls, crashes and retain calls. -/
namespace HomeMagic
open List Table AutomationStore Fallible

variable {run : AutomationRun} {c : AutomationCall} {occurrence : AutomationOccurrence}

namespace AutomationStore
variable {host : StoreHost} {store : AutomationStore} {policy : AutomationRetention}

def beforeRuns (store : AutomationStore) (host : StoreHost) (policy : AutomationRetention) :
    AutomationStore :=
  let limit := max policy.limitPerCategory 1
  let store := store.retainDrafts host policy.draftsBefore limit
  let store := store.retainTrace host policy.runtimeBefore limit
  store.retainTimers host policy.runtimeBefore limit

theorem retain_runs : (store.retain host policy).runs =
    ((store.beforeRuns host policy).retainRuns host policy.runtimeBefore
      (max policy.limitPerCategory 1)).runs := rfl

theorem mem_retain_runs (h : run ∈ (store.retain host policy).runs.rows) :
    run ∈ store.runs.rows := by
  rw [retain_runs] at h
  exact (Table.mem_filter.mp h).1

theorem expired_of_deleted (hrun : run ∈ store.runs.rows) (hgone : run ∉ (store.retain host policy).runs.rows) :
    expiredRun host policy.runtimeBefore run = true := by
  by_contra hkept
  apply hgone
  rw [retain_runs]
  refine Table.mem_filter.mpr ⟨hrun, ?_⟩
  simp only [Bool.not_eq_true', contains_eq_mem, decide_eq_false_iff_not]
  intro hpage
  have hp := (mem_of_mem_page hpage).2
  simp only [Bool.and_eq_true] at hp
  exact hkept hp.1

def expiredOccurrence (host : StoreHost) (cutoff : Instant) (occurrence : AutomationOccurrence) : Bool :=
  occurrence.state != .scheduled && host.before occurrence.windowEndsAt cutoff

theorem mem_retain_occurrences (h : occurrence ∈ (store.retain host policy).occurrences.rows) :
    occurrence ∈ store.occurrences.rows := (Table.mem_filter.mp h).1

theorem find_retain_occurrences {id : AutomationOccurrenceId}
    (h : store.occurrences.find id = none) :
    (store.retain host policy).occurrences.find id = none := by
  rw [find_eq_none] at h ⊢
  intro occurrence hmem
  exact h occurrence (mem_retain_occurrences hmem)

theorem occurrence_deleted (hmem : occurrence ∈ store.occurrences.rows)
    (hexpired : expiredOccurrence host policy.runtimeBefore occurrence = true)
    (hfree : ∀ run ∈ (store.retain host policy).runs.rows, run.occurrenceId ≠ occurrence.id)
    (hlimit : store.occurrences.count (expiredOccurrence host policy.runtimeBefore) ≤
      max policy.limitPerCategory 1) :
    occurrence ∉ (store.retain host policy).occurrences.rows := by
  intro hkept
  have hpage := (Table.mem_filter.mp hkept).2
  simp only [Bool.not_eq_true', contains_eq_mem, decide_eq_false_iff_not] at hpage
  apply hpage
  apply mem_page_of_count_le _ hmem
  · -- the occurrence itself is eligible
    have hnone : ((store.beforeRuns host policy).retainRuns host policy.runtimeBefore
        (max policy.limitPerCategory 1)).runs.rows.any
          (fun run => run.occurrenceId == occurrence.id) = false := by
      rw [List.any_eq_false]
      intro run hrun
      simpa using hfree run hrun
    have hgoal : (expiredOccurrence host policy.runtimeBefore occurrence &&
        !((store.beforeRuns host policy).retainRuns host policy.runtimeBefore
          (max policy.limitPerCategory 1)).runs.rows.any
            (fun run => run.occurrenceId == occurrence.id)) = true := by
      rw [hexpired, hnone]
      rfl
    exact hgoal
  · -- eligible rows are expired, so they all fit on the page
    refine le_trans ?_ hlimit
    apply count_le_of_keys
    intro o ho hp
    refine ⟨o, ho, ?_, rfl⟩
    simp only [Bool.and_eq_true] at hp
    simp only [expiredOccurrence, Bool.and_eq_true]
    exact hp.1

end AutomationStore

/-- A created run carries the id of its occurrence, and a step write one trace entry. -/
def AutomationCall.IsOrderly : AutomationCall → Prop
  | createRun created => created.id = ⟨created.occurrenceId⟩
  | commitStep write => TracesOnce write
  | _ => True

theorem AutomationCall.IsQuiet.orderly (h : c.IsQuiet) : c.IsOrderly := by
  cases c with
  | createRun run => exact h.elim
  | commitStep write => exact h
  | _ => trivial

theorem cancelForRestart_orderly (timers : List AutomationTimer) (o : AutomationOccurrence)
    (now : Instant) (runs : List AutomationRun) :
    (cancelForRestart timers o now runs).run.Calls AutomationCall.IsOrderly := by
  induction runs with
  | nil => exact calls_pure _
  | cons run rest ih =>
    unfold cancelForRestart
    split
    · apply calls_bind (calls_repository (calls_request trivial))
      intro trace
      apply calls_bind
        (calls_repository (calls_request (restartWrite_oneEntry run timers o now _).tracesOnce))
      exact fun _ => calls_bind ih (fun _ => calls_pure _)
    · exact calls_bind ih (fun _ => calls_pure _)

theorem startRun_orderly (active : ActiveAutomationVersion) (o : AutomationOccurrence) (now : Instant)
    (pass : RecoveryPass) : (startRun active o now pass).run.Calls AutomationCall.IsOrderly := by
  have hrun : (ensureRun active o now).run.Calls AutomationCall.IsOrderly := by
    apply calls_bind (calls_repository (calls_request trivial))
    intro found
    split
    · exact calls_pure _
    · refine calls_bind (calls_repository (calls_request ?_)) (fun _ => calls_pure _)
      exact rfl
  exact calls_bind hrun (fun _ => calls_pure _)

theorem acceptOccurrence_orderly (active : ActiveAutomationVersion) (o : AutomationOccurrence)
    (now : Instant) (timers : List AutomationTimer) (pass : RecoveryPass) :
    (acceptOccurrence active o now timers pass).run.Calls AutomationCall.IsOrderly := by
  have hroom : (makeRoom active o now timers pass).run.Calls AutomationCall.IsOrderly := by
    unfold makeRoom
    split
    · exact calls_bind (cancelForRestart_orderly _ _ _ _) (fun _ => calls_pure _)
    · exact calls_pure _
  apply calls_bind hroom
  intro pass'
  exact calls_bind (calls_repository (calls_request trivial))
    (fun _ => startRun_orderly _ _ _ _)

theorem recoverOccurrence_orderly (active : ActiveAutomationVersion) (o : AutomationOccurrence)
    (now : Instant) (timers : List AutomationTimer) (pass : RecoveryPass) :
    (recoverOccurrence active o now timers pass).run.Calls AutomationCall.IsOrderly := by
  unfold recoverOccurrence
  split
  · split
    · exact calls_bind (calls_repository (calls_request trivial)) (fun _ => calls_pure _)
    split
    · exact calls_pure _
    split
    · exact calls_pure _
    · exact calls_bind (calls_repository (calls_request trivial)) (fun _ => calls_pure _)
    · exact acceptOccurrence_orderly _ _ _ _ _
  split
  · exact startRun_orderly _ _ _ _
  · exact calls_pure _

theorem recoverOccurrences_orderly (active : List ActiveAutomationVersion) (now : Instant)
    (timers : List AutomationTimer) (occurrences : List AutomationOccurrence) (pass : RecoveryPass) :
    (recoverOccurrences active now timers occurrences pass).run.Calls AutomationCall.IsOrderly := by
  induction occurrences generalizing pass with
  | nil => exact calls_pure _
  | cons o rest ih =>
    unfold recoverOccurrences
    split
    · exact ih pass
    · exact calls_bind (recoverOccurrence_orderly _ _ _ _ _) (fun _ => ih _)

theorem tick_orderly (scheduler : SchedulerHost) (start through : Instant) :
    (tick scheduler start through).run.Calls AutomationCall.IsOrderly := by
  have hquiet {α : Type} {p : SchedulerM α} (hp : p.run.Calls AutomationCall.IsQuiet) :
      p.run.Calls AutomationCall.IsOrderly := hp.mono (fun _ => AutomationCall.IsQuiet.orderly)
  apply calls_bind (calls_repository (calls_request trivial))
  intro active
  apply calls_bind (hquiet (materialize_quiet scheduler start through active 0))
  intro scheduled
  apply calls_bind (calls_clockNow trivial)
  intro now
  apply calls_bind (calls_repository (calls_request trivial))
  intro recovery
  apply calls_bind (hquiet (readyTimers_quiet now recovery.timers 0))
  rintro ⟨timers, timersReady⟩
  exact recoverOccurrences_orderly _ _ _ _ _

inductive RetainingClient (scheduler : SchedulerHost) (evaluator : EvaluatorHost) :
    Program AutomationCall AutomationCall.Response Unit → Prop
  | service {p : Program AutomationCall AutomationCall.Response Unit}
      (h : AutomationClient scheduler evaluator p) : RetainingClient scheduler evaluator p
  | retain (policy : AutomationRetention) :
      RetainingClient scheduler evaluator (asClient (retainAutomation policy))

theorem RetainingClient.orderly {scheduler : SchedulerHost} {evaluator : EvaluatorHost}
    {p : Program AutomationCall AutomationCall.Response Unit}
    (h : RetainingClient scheduler evaluator p) : p.Calls AutomationCall.IsOrderly := by
  cases h with
  | service h => exact h.quiet.mono (fun _ => AutomationCall.IsQuiet.orderly)
  | retain policy => exact calls_asClient (calls_repository (calls_request trivial))

def newRuns (store store' : AutomationStore) : List AutomationRunId :=
  (store'.runs.rows.map AutomationRun.id).filter (fun id => (store.runs.find id).isNone)

def retainingRules (host : StoreHost) (scheduler : SchedulerHost) (evaluator : EvaluatorHost)
    (allowed : AutomationCall → AutomationStore × List AutomationRunId → Prop) :
    Rules AutomationCall AutomationCall.Response (AutomationStore × List AutomationRunId)
      (Except AutomationSchedulerError RecoveryPass) where
  handler := (automationHandler host).tracking (fun _ _ => newRuns)
  main := fun p => ∃ start through, p = (tick scheduler start through).run
  client := RetainingClient scheduler evaluator
  mainAllowed := allowed
  clientAllowed := allowed

structure RetainsTogether (host : StoreHost) (policy : AutomationRetention) (store : AutomationStore) :
    Prop where
  expired : ∀ run ∈ store.runs.rows, AutomationStore.expiredRun host policy.runtimeBefore run = true →
    ∀ occurrence, store.occurrences.find run.occurrenceId = some occurrence →
      AutomationStore.expiredOccurrence host policy.runtimeBefore occurrence = true
  limit : store.occurrences.count (AutomationStore.expiredOccurrence host policy.runtimeBefore) ≤
    max policy.limitPerCategory 1

instance (host : StoreHost) (policy : AutomationRetention) (store : AutomationStore) :
    Decidable (RetainsTogether host policy store) :=
  decidable_of_iff ((∀ run ∈ store.runs.rows,
      AutomationStore.expiredRun host policy.runtimeBefore run = true →
      (store.occurrences.find run.occurrenceId).all
        (AutomationStore.expiredOccurrence host policy.runtimeBefore) = true) ∧
      store.occurrences.count (AutomationStore.expiredOccurrence host policy.runtimeBefore) ≤
        max policy.limitPerCategory 1)
    ⟨fun h => ⟨fun run hrun hexpired => (Option.all_eq_true _ _).mp (h.1 run hrun hexpired), h.2⟩,
      fun h => ⟨fun run hrun hexpired => (Option.all_eq_true _ _).mpr (h.expired run hrun hexpired),
        h.limit⟩⟩

/-- Retention takes runs and occurrences together, and an occurrence that has had its
run and is no longer stored is not created again. -/
def keepsOccurrences (host : StoreHost) (c : AutomationCall)
    (s : AutomationStore × List AutomationRunId) : Prop :=
  match c with
  | .retain policy => RetainsTogether host policy s.1
  | .createOccurrence new => ⟨new.id⟩ ∈ s.2 → s.1.occurrences.find new.id ≠ none
  | _ => True

instance (host : StoreHost) (c : AutomationCall) (s : AutomationStore × List AutomationRunId) :
    Decidable (keepsOccurrences host c s) := by
  unfold keepsOccurrences
  split <;> infer_instance

/-- No run was created twice, and the run of a stored occurrence is never missing once
it was created. -/
structure RunOnce (s : AutomationStore × List AutomationRunId) : Prop where
  named : ∀ run ∈ s.1.runs.rows, run.id = ⟨run.occurrenceId⟩
  once : s.2.Nodup
  gone : ∀ id ∈ s.2, s.1.runs.find id ≠ none ∨ s.1.occurrences.find id.fromOccurrence = none

section
variable {host : StoreHost} {store store' : AutomationStore} {created : List AutomationRunId}

theorem newRuns_eq_nil (hnew : ∀ run ∈ store'.runs.rows, store.runs.find run.id ≠ none) :
    newRuns store store' = [] := by
  rw [newRuns, filter_eq_nil_iff]
  intro id hid
  obtain ⟨run, hrun, rfl⟩ := List.mem_map.mp hid
  simpa using hnew run hrun

theorem find_ne_none (h : run ∈ store.runs.rows) :
    store.runs.find run.id ≠ none := fun hnone => find_eq_none.mp hnone run h rfl

theorem RunOnce.keep (h : RunOnce (store, created))
    (hnamed : ∀ run ∈ store'.runs.rows, run.id = ⟨run.occurrenceId⟩)
    (hnew : ∀ run ∈ store'.runs.rows, store.runs.find run.id ≠ none)
    (hruns : ∀ id, store.runs.find id ≠ none → store'.runs.find id ≠ none)
    (hocc : ∀ id, store.occurrences.find id = none → store'.occurrences.find id = none) :
    RunOnce (store', created ++ newRuns store store') := by
  rw [newRuns_eq_nil hnew, append_nil]
  refine ⟨hnamed, h.once, ?_⟩
  intro id hid
  rcases h.gone id hid with hfound | hnone
  · exact .inl (hruns id hfound)
  · exact .inr (hocc _ hnone)

theorem RunOnce.same (h : RunOnce (store, created)) (hruns : store'.runs = store.runs)
    (hocc : ∀ id, store.occurrences.find id = none → store'.occurrences.find id = none) :
    RunOnce (store', created ++ newRuns store store') := by
  apply h.keep
  · rw [hruns]
    exact h.named
  · rw [hruns]
    exact fun run hrun => find_ne_none hrun
  · rw [hruns]
    exact fun _ => id
  · exact hocc

theorem RunOnce.createOccurrence (h : RunOnce (store, created)) {o : AutomationOccurrence}
    (hallowed : ⟨o.id⟩ ∈ created → store.occurrences.find o.id ≠ none)
    (hcreate : store.createOccurrence o = .ok store') :
    RunOnce (store', created ++ newRuns store store') := by
  rcases createOccurrence_spec hcreate with ⟨rfl, _⟩ | ⟨hnew, rfl, _⟩
  · exact h.same rfl (fun _ => id)
  · have hnil : newRuns store { store with occurrences := store.occurrences.insert o hnew } = [] :=
      newRuns_eq_nil (fun run hrun => find_ne_none hrun)
    rw [hnil, append_nil]
    refine ⟨h.named, h.once, ?_⟩
    intro id hid
    rcases h.gone id hid with hfound | hnone
    · exact .inl hfound
    · -- the new occurrence never had a run
      refine .inr ?_
      have hne : o.id ≠ id.fromOccurrence := by
        intro heq
        have hmem : (⟨o.id⟩ : AutomationRunId) ∈ created := by
          rw [heq]
          exact hid
        exact hallowed hmem (heq ▸ hnone)
      show (store.occurrences.insert o hnew).find id.fromOccurrence = none
      rw [find_insert, if_neg hne]
      exact hnone

/-- A run that is created was not created before. -/
theorem RunOnce.createRun (h : RunOnce (store, created)) (hid : run.id = ⟨run.occurrenceId⟩)
    (hcreate : store.createRun run = .ok store') :
    RunOnce (store', created ++ newRuns store store') := by
  rcases createRun_spec hcreate with ⟨rfl, _⟩ | ⟨hnew, rfl, _, hocc, _⟩
  · exact h.same rfl (fun _ => id)
  · have hone : newRuns store { store with runs := store.runs.insert run hnew } = [run.id] := by
      have hold : (store.runs.rows.map AutomationRun.id).filter
          (fun id => (store.runs.find id).isNone) = [] :=
        newRuns_eq_nil (fun other hother => find_ne_none hother)
      have hrows : (store.runs.insert run hnew).rows = store.runs.rows ++ [run] := rfl
      simp only [newRuns, hrows, map_append, filter_append, hold, nil_append]
      simp [hnew]
    -- the occurrence is stored and its run is missing, so there never was one
    have hfresh : run.id ∉ created := by
      intro hmem
      rcases h.gone run.id hmem with hfound | hnone
      · exact hfound hnew
      · rw [hid] at hnone
        rw [hnone] at hocc
        cases hocc
    rw [hone]
    refine ⟨?_, ?_, ?_⟩
    · intro other hother
      replace hother : other ∈ (store.runs.insert run hnew).rows := hother
      rcases mem_insert.mp hother with hother | rfl
      · exact h.named other hother
      · exact hid
    · refine nodup_append.mpr ⟨h.once, nodup_singleton _, ?_⟩
      intro a ha b hb heq
      rw [mem_singleton.mp hb] at heq
      exact hfresh (heq ▸ ha)
    · intro id hmem
      have hfind : (store.runs.insert run hnew).find id =
          if run.id = id then some run else store.runs.find id := find_insert
      show (store.runs.insert run hnew).find id ≠ none ∨ _
      rw [hfind]
      by_cases heq : run.id = id
      · rw [if_pos heq]
        exact .inl (Option.some_ne_none run)
      · rw [if_neg heq]
        rcases mem_append.mp hmem with hmem | hmem
        · exact h.gone id hmem
        · exact absurd (mem_singleton.mp hmem).symm heq

theorem RunOnce.commitStep (h : RunOnce (store, created)) {write : AutomationStepWrite}
    (hcommit : store.commitStep write = .ok store') :
    RunOnce (store', created ++ newRuns store store') := by
  obtain ⟨_, current, revised, hf, hrev, hruns, hocc, _, _, _, htrace⟩ :=
    commitStep_spec hcommit
  have hw := appendTrace_sameWork _ htrace
  have hrows : store'.runs = store.runs.replace write.run := hw.runs.trans hruns
  obtain ⟨hcurrent, hid⟩ := find_eq_some.mp hf
  apply h.keep
  · intro run hrun
    rw [hrows, mem_replace hf] at hrun
    rcases hrun with rfl | ⟨hrun, _⟩
    · rw [hrev.occurrenceId, ← hid]
      exact h.named current hcurrent
    · exact h.named run hrun
  · intro run hrun
    rw [hrows, mem_replace hf] at hrun
    rcases hrun with rfl | ⟨hrun, _⟩
    · rw [hf]
      exact Option.some_ne_none current
    · exact find_ne_none hrun
  · intro id hfound
    rw [hrows, find_replace hf]
    split
    · exact Option.some_ne_none write.run
    · exact hfound
  · rw [hw.occurrences, hocc]
    exact fun _ => id

theorem RunOnce.retain (h : RunOnce (store, created)) {policy : AutomationRetention}
    (ht : RetainsTogether host policy store) :
    RunOnce (store.retain host policy, created ++ newRuns store (store.retain host policy)) := by
  have hnil : newRuns store (store.retain host policy) = [] :=
    newRuns_eq_nil (fun run hrun => find_ne_none (AutomationStore.mem_retain_runs hrun))
  rw [hnil, append_nil]
  refine ⟨fun run hrun => h.named run (AutomationStore.mem_retain_runs hrun), h.once, ?_⟩
  intro id hid
  rcases h.gone id hid with hfound | hnone
  · obtain ⟨run, hf⟩ := Option.ne_none_iff_exists'.mp hfound
    obtain ⟨hmem, rfl⟩ := find_eq_some.mp hf
    by_cases hkept : run ∈ (store.retain host policy).runs.rows
    · exact .inl (find_ne_none hkept)
    · -- the run is deleted, so its occurrence is too
      refine .inr ?_
      have hexpired := AutomationStore.expired_of_deleted hmem hkept
      rw [h.named run hmem]
      cases ho : store.occurrences.find run.occurrenceId with
      | none => exact AutomationStore.find_retain_occurrences ho
      | some o =>
        obtain ⟨homem, hoid⟩ := find_eq_some.mp ho
        have hfree : ∀ other ∈ (store.retain host policy).runs.rows, other.occurrenceId ≠ o.id := by
          intro other hother heq
          have hother' := AutomationStore.mem_retain_runs hother
          have hsame : other.id = run.id := by
            rw [h.named other hother', h.named run hmem, heq, hoid]
          rw [eq_of_key hother' hmem hsame] at hother
          exact hkept hother
        have hgone := AutomationStore.occurrence_deleted homem (ht.expired run hmem hexpired o ho)
          hfree ht.limit
        rw [find_eq_none]
        intro other hother heq
        have hother' := AutomationStore.mem_retain_occurrences hother
        rw [eq_of_key hother' homem (heq.trans hoid.symm)] at hother
        exact hgone hother
  · exact .inr (AutomationStore.find_retain_occurrences hnone)

theorem orderly_keeps_runOnce {s s' : AutomationStore × List AutomationRunId} {r : c.Response} (hc : c.IsOrderly)
    (ha : keepsOccurrences host c s) (h : RunOnce s)
    (hh : (automationHandler host).tracking (fun _ _ => newRuns) c s r s') : RunOnce s' := by
  obtain ⟨store, created⟩ := s
  obtain ⟨store', created'⟩ := s'
  obtain ⟨hstep, hlist⟩ := hh
  dsimp only at hstep hlist
  subst hlist
  rcases automationHandler_wrote hstep with heq | hstep
  · rw [heq]
    exact h.same rfl (fun _ => id)
  cases hstep with
  | createRun hok => exact h.createRun hc hok
  | retain hok =>
    subst hok
    exact h.retain ha
  | createOccurrence hok => exact h.createOccurrence ha hok
  | @transitionOccurrence o hok =>
    obtain ⟨current, hf, _, _, rfl⟩ := transitionOccurrence_spec hok
    refine h.same rfl ?_
    intro id hnone
    show (store.occurrences.replace o).find id = none
    rw [find_replace hf]
    split
    next hid =>
      rw [hid, hnone] at hf
      cases hf
    · exact hnone
  | commitStep hok => exact h.commitStep hok
  | transitionTimer hok =>
    obtain ⟨hw, _⟩ := transitionTimer_sameWork hok
    refine h.same hw.runs ?_
    rw [hw.occurrences]
    exact fun _ => id
  | advanceEventCursor advanced hok =>
    subst hok
    exact h.same rfl (fun _ => id)

end

/-- While retain calls take finished runs together with their occurrences and no such
occurrence is created again, every occurrence is run at most once: counting the runs
there were at the start, no run is ever created twice. -/
theorem occurrence_run_once (host : StoreHost) (scheduler : SchedulerHost) (evaluator : EvaluatorHost)
    {start : AutomationStore} {reached : Processes AutomationCall AutomationCall.Response
      (AutomationStore × List AutomationRunId) (Except AutomationSchedulerError RecoveryPass)}
    (hrun : Relation.ReflTransGen (Interleaves (retainingRules host scheduler evaluator
      (keepsOccurrences host))) ⟨(start, start.runs.rows.map AutomationRun.id), none, []⟩ reached)
    (hnamed : ∀ run ∈ start.runs.rows, run.id = ⟨run.occurrenceId⟩) : reached.state.2.Nodup := by
  have hstart : RunOnce (start, start.runs.rows.map AutomationRun.id) := by
    refine ⟨hnamed, start.runs.nodup, ?_⟩
    intro id hid
    obtain ⟨run, hmem, rfl⟩ := List.mem_map.mp hid
    exact .inl (find_ne_none hmem)
  have honce : RunOnce reached.state := by
    refine Interleaves.invariant_of_calls (P := AutomationCall.IsOrderly) ?_
      (fun p hp => RetainingClient.orderly hp) ?_ hrun hstart rfl rfl
    · rintro p ⟨first, last, rfl⟩
      exact tick_orderly scheduler first last
    · intro c s r s' hc ha hi hh
      have ha' : keepsOccurrences host c s := ha.elim id id
      exact orderly_keeps_runOnce hc ha' hi hh
  exact honce.once

def confirmingPorts (now : Instant) : FixedPorts :=
  { minutePorts now with
    inputs := { (minutePorts now).inputs with
      commands := some ⟨some true, fun _ => some ⟨1, .confirmed, none, now⟩, fun _ => some none⟩ } }

def confirmingApply (now : Instant) (c : AutomationCall) (s : AutomationStore × List AutomationRunId) :
    c.Response × (AutomationStore × List AutomationRunId) :=
  trackingApply (automationApply minuteStoreHost (confirmingPorts now)) (fun _ _ => newRuns) c s

def minuteRunId : AutomationRunId := ⟨⟨1, 1, .schedule 60000⟩⟩

def minuteSteps (now : Instant) (s : AutomationStore × List AutomationRunId) :
    AutomationStore × List AutomationRunId :=
  let step := asClient (runtimeStep lampEvaluator minuteRunId)
  let s := (step.run (confirmingApply now) s).2
  let s := (step.run (confirmingApply now) s).2
  (step.run (confirmingApply now) s).2

def firstMinute : AutomationStore × List AutomationRunId :=
  minuteSteps (minute 1)
    ((tick minuteScheduler 0 (minute 1)).run.run (confirmingApply (minute 1)) (minuteStore, [])).2

def retainedMinute : AutomationStore × List AutomationRunId :=
  ((asClient (retainAutomation ⟨0, minute 4, 0, 100⟩)).run (confirmingApply (minute 4)) firstMinute).2

def fourthMinute : AutomationStore × List AutomationRunId :=
  ((tick minuteScheduler (minute 3) (minute 4)).run.run (confirmingApply (minute 4)) retainedMinute).2

theorem fourthMinute_interleaves : ∃ clients, Relation.ReflTransGen (Interleaves (retainingRules minuteStoreHost
    minuteScheduler lampEvaluator (keepsOccurrences minuteStoreHost))) ⟨(minuteStore, []), none, []⟩
      ⟨fourthMinute, none, clients⟩ := by
  have hhandles : ∀ now c s, (retainingRules minuteStoreHost minuteScheduler lampEvaluator
      (keepsOccurrences minuteStoreHost)).handler c s (confirmingApply now c s).1 (confirmingApply now c s).2 :=
    fun now => trackingApply_handles (automationApply_handles minuteStoreHost (confirmingPorts now)) _
  let ticked := ((tick minuteScheduler 0 (minute 1)).run.run (confirmingApply (minute 1)) (minuteStore, [])).2
  let steps := List.replicate 3 (asClient (runtimeStep lampEvaluator minuteRunId))
  have hticked : (tick minuteScheduler 0 (minute 1)).run.Permitted (confirmingApply (minute 1))
      (keepsOccurrences minuteStoreHost) (minuteStore, []) := by decide +kernel
  have hsteps : Program.PermittedAll (confirmingApply (minute 1)) (keepsOccurrences minuteStoreHost) steps
      ticked := by decide +kernel
  have hretained : (asClient (retainAutomation ⟨0, minute 4, 0, 100⟩)).Permitted (confirmingApply (minute 4))
      (keepsOccurrences minuteStoreHost) firstMinute := by decide +kernel
  have hfourth : (tick minuteScheduler (minute 3) (minute 4)).run.Permitted (confirmingApply (minute 4))
      (keepsOccurrences minuteStoreHost) retainedMinute := by decide +kernel
  have hrunTicked := Interleaves.of_permitted_main (hhandles (minute 1)) ⟨0, minute 1, rfl⟩ _ hticked []
  have hrunSteps := Interleaves.of_permitted_clients (hhandles (minute 1)) steps
    (fun p hp => List.eq_of_mem_replicate hp ▸ .service (.step minuteRunId)) ticked hsteps none []
  have hrunRetained := Interleaves.of_permitted_client (hhandles (minute 4)) (.retain ⟨0, minute 4, 0, 100⟩)
    firstMinute hretained none (List.replicate 3 (.done ()) ++ [])
  have hrunFourth := Interleaves.of_permitted_main (hhandles (minute 4)) ⟨minute 3, minute 4, rfl⟩ retainedMinute
    hfourth (.done () :: (List.replicate 3 (.done ()) ++ []))
  exact ⟨_, ((hrunTicked.trans hrunSteps).trans hrunRetained).trans hrunFourth⟩

/-- The finished run is retained with its occurrence, and the next occurrence has a run of its own. -/
theorem occurrence_run_once_minute :
    fourthMinute.1.runs.rows.map AutomationRun.id = [⟨⟨1, 1, .schedule 240000⟩⟩] ∧
      fourthMinute.2 = [minuteRunId, ⟨⟨1, 1, .schedule 240000⟩⟩] ∧ fourthMinute.2.Nodup := by
  obtain ⟨clients, hrun⟩ := fourthMinute_interleaves
  refine ⟨by decide +kernel, by decide +kernel, ?_⟩
  refine occurrence_run_once minuteStoreHost minuteScheduler lampEvaluator hrun ?_
  intro run hmem
  cases hmem

def secondMinute : AutomationStore × List AutomationRunId :=
  let retained := ((asClient (retainAutomation ⟨0, minute 2, 0, 100⟩)).run
    (confirmingApply (minute 2)) firstMinute).2
  minuteSteps (minute 2)
    ((tick minuteScheduler (minute 1) (minute 1)).run.run (confirmingApply (minute 2)) retained).2

abbrev minuteRules : Rules AutomationCall AutomationCall.Response
    (AutomationStore × List AutomationRunId) (Except AutomationSchedulerError RecoveryPass) :=
  retainingRules minuteStoreHost minuteScheduler lampEvaluator (fun _ _ => True)

theorem confirmingApply_handles (now : Instant) (c : AutomationCall)
    (s : AutomationStore × List AutomationRunId) :
    minuteRules.handler c s (confirmingApply now c s).1 (confirmingApply now c s).2 :=
  trackingApply_handles (automationApply_handles minuteStoreHost (confirmingPorts now)) _ c s

theorem minuteSteps_interleaves (now : Instant) (s : AutomationStore × List AutomationRunId)
    (clients : List (Program AutomationCall AutomationCall.Response Unit)) :
    Relation.ReflTransGen (Interleaves minuteRules) ⟨s, none, clients⟩
      ⟨minuteSteps now s, none, .done () :: .done () :: .done () :: clients⟩ := by
  have hone : ∀ t others, Relation.ReflTransGen (Interleaves minuteRules) ⟨t, none, others⟩
      ⟨((asClient (runtimeStep lampEvaluator minuteRunId)).run (confirmingApply now) t).2, none,
        .done () :: others⟩ := by
    intro t others
    apply Interleaves.of_run_client (confirmingApply_handles now) (fun _ _ => trivial)
    exact .service (.step minuteRunId)
  exact ((hone _ _).trans (hone _ _)).trans (hone _ _)

/-- Retention deletes the finished run but keeps its accepted occurrence, whose window
is still open; the next tick creates the run again and the lamp is switched again. -/
theorem retention_runs_occurrence_twice :
    ∃ first second, Relation.ReflTransGen (Interleaves minuteRules) ⟨(minuteStore, []), none, []⟩ first ∧
      Relation.ReflTransGen (Interleaves minuteRules) first second ∧
      (∀ reached ∈ [first, second], reached.state.1.runs.rows.map (fun run =>
        (run.id, run.state, run.commandIds)) = [(minuteRunId, .completed, [1])]) ∧
      second.state.2 = [minuteRunId, minuteRunId] := by
  have hfirst : Relation.ReflTransGen (Interleaves minuteRules) ⟨(minuteStore, []), none, []⟩
      ⟨firstMinute, none, [.done (), .done (), .done ()]⟩ := by
    refine .trans ?_ (minuteSteps_interleaves (minute 1) _ [])
    exact Interleaves.of_run_main (confirmingApply_handles (minute 1)) (fun _ _ => trivial)
      ⟨0, minute 1, rfl⟩ _ _
  have hsecond : ∀ clients, Relation.ReflTransGen (Interleaves minuteRules)
      ⟨firstMinute, none, clients⟩
      ⟨secondMinute, none, .done () :: .done () :: .done () :: .done () :: clients⟩ := by
    intro clients
    refine .trans ?_ (minuteSteps_interleaves (minute 2) _ _)
    refine .trans (Interleaves.of_run_client (confirmingApply_handles (minute 2))
      (fun _ _ => trivial) (.retain ⟨0, minute 2, 0, 100⟩) _ _ _) ?_
    exact Interleaves.of_run_main (confirmingApply_handles (minute 2)) (fun _ _ => trivial)
      ⟨minute 1, minute 1, rfl⟩ _ _
  refine ⟨_, _, hfirst, hsecond _, ?_, ?_⟩
  · decide +kernel
  · decide +kernel

end HomeMagic
