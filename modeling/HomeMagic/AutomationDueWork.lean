import HomeMagic.AutomationRecovery
import HomeMagic.AutomationEventConsumer

/-! Due occurrences. A tick decides a due occurrence exactly when the occurrence is on
the page of its recovery query and its version among the active ones it loads. -/
namespace HomeMagic
open List Table Fallible

def plannedFor (scheduler : SchedulerHost) (start through : Instant) (active : ActiveAutomationVersion) :
    List AutomationTrigger → List AutomationOccurrence
  | [] => []
  | .schedule schedule :: rest =>
    ((scheduler.scheduleOccurrences schedule start through).getD []).map
      (scheduledOccurrence active schedule.occurrenceWindowMs .scheduled) ++
    plannedFor scheduler start through active rest
  | _ :: rest => plannedFor scheduler start through active rest

def planned (scheduler : SchedulerHost) (start through : Instant)
    (active : List ActiveAutomationVersion) : List AutomationOccurrence :=
  active.flatMap (fun version =>
    plannedFor scheduler start through version version.version.document.triggers)

def Consistent (plans : List AutomationOccurrence) (store : AutomationStore) : Prop :=
  ∀ o ∈ plans, ∀ other, other ∈ plans ∨ other ∈ store.occurrences.rows → other.id = o.id →
    other.sameIdentity o = true

structure AddsPlanned (plans : List AutomationOccurrence) (store store' : AutomationStore) : Prop where
  setting : SameSetting store store'
  runs : store'.runs = store.runs
  trace : store'.trace = store.trace
  timers : store'.timers = store.timers
  kept : ∀ id o, store.occurrences.find id = some o → store'.occurrences.find id = some o
  new : ∀ o ∈ store'.occurrences.rows, o ∈ store.occurrences.rows ∨ o ∈ plans

theorem AddsPlanned.refl (plans : List AutomationOccurrence) (store : AutomationStore) :
    AddsPlanned plans store store :=
  ⟨.refl _, rfl, rfl, rfl, fun _ _ h => h, fun _ h => .inl h⟩

theorem AddsPlanned.trans {plans : List AutomationOccurrence} {a b c : AutomationStore}
    (h : AddsPlanned plans a b) (h' : AddsPlanned plans b c) : AddsPlanned plans a c where
  setting := h.setting.trans h'.setting
  runs := h'.runs.trans h.runs
  trace := h'.trace.trans h.trace
  timers := h'.timers.trans h.timers
  kept := fun id o hf => h'.kept id o (h.kept id o hf)
  new := by
    intro o ho
    rcases h'.new o ho with ho | ho
    · exact h.new o ho
    · exact .inr ho

section
variable {host : StoreHost} {ports : FixedPorts} {scheduler : SchedulerHost} {start through : Instant}
  {plans : List AutomationOccurrence} {store : AutomationStore}
variable {o : AutomationOccurrence} {active version : ActiveAutomationVersion} {identity : AutomationIdentityState}

theorem Consistent.extends {store' : AutomationStore} (h : Consistent plans store)
    (he : AddsPlanned plans store store') : Consistent plans store' := by
  intro o ho other hother hid
  apply h o ho other _ hid
  rcases hother with hother | hother
  · exact .inl hother
  · rcases he.new other hother with hother | hother
    · exact .inr hother
    · exact .inl hother

theorem createOccurrence_succeeds (h : Consistent plans store) (ho : o ∈ plans)
    (hversion : (store.loadVersion o.automationId o.version).isSome) :
    ∃ store', store.createOccurrence o = .ok store' ∧ AddsPlanned plans store store' := by
  unfold AutomationStore.createOccurrence
  split
  · rename_i existing hf
    obtain ⟨hmem, hid⟩ := find_eq_some.mp hf
    have hsame := h o ho existing (.inr hmem) hid
    rw [if_pos hsame]
    exact ⟨store, rfl, .refl _ _⟩
  · rename_i hnew
    have hsome : (store.loadVersion o.automationId o.version).isNone = false := by
      rw [Option.isNone_eq_false_iff]
      exact hversion
    rw [hsome, if_neg Bool.false_ne_true]
    refine ⟨_, rfl, ⟨rfl, rfl, rfl⟩, rfl, rfl, rfl, ?_, ?_⟩
    · intro id other hf
      show (store.occurrences.insert o hnew).find id = some other
      rw [find_insert, if_neg]
      · exact hf
      · intro heq
        rw [← heq, hnew] at hf
        cases hf
    · intro other hother
      replace hother : other ∈ (store.occurrences.insert o hnew).rows := hother
      rcases mem_insert.mp hother with hother | rfl
      · exact .inl hother
      · exact .inr ho

theorem materializeInstants_endsWith {schedule : AutomationSchedule} (instants : List Instant) (scheduled : ℕ)
    (h : Consistent plans store) (hplans : ∀ instant ∈ instants,
      scheduledOccurrence active schedule.occurrenceWindowMs .scheduled instant ∈ plans)
    (hversion : (store.loadVersion active.key.1 active.key.2).isSome) :
    ∃ count store', EndsWith host ports (materializeInstants active schedule instants scheduled)
      store count store' ∧ AddsPlanned plans store store' := by
  induction instants generalizing store scheduled with
  | nil => exact ⟨scheduled, store, endsWith_pure _, .refl _ _⟩
  | cons instant rest ih =>
    obtain ⟨middle, hcreate, hfirst⟩ := createOccurrence_succeeds h (hplans instant mem_cons_self)
      hversion
    have hversion' : (middle.loadVersion active.key.1 active.key.2).isSome := by
      unfold AutomationStore.loadVersion
      rw [hfirst.setting.versions]
      exact hversion
    obtain ⟨count, store', hends, hrest⟩ := ih (scheduled + 1) (h.extends hfirst)
      (fun other hmem => hplans other (mem_cons_of_mem _ hmem)) hversion'
    exact ⟨count, store', EndsWith.bind (endsWith_ask (commitResult_ok hcreate)) hends,
      hfirst.trans hrest⟩

/-- Every planned instant of the triggers becomes an occurrence. -/
theorem materializeTriggers_endsWith (triggers : List AutomationTrigger) (scheduled : ℕ)
    (h : Consistent plans store)
    (hschedules : ∀ schedule, .schedule schedule ∈ triggers →
      (scheduler.scheduleOccurrences schedule start through).isSome)
    (hplans : ∀ o ∈ plannedFor scheduler start through active triggers, o ∈ plans)
    (hversion : (store.loadVersion active.key.1 active.key.2).isSome) :
    ∃ count store', EndsWith host ports
      (materializeTriggers scheduler start through active triggers scheduled) store count store' ∧
      AddsPlanned plans store store' := by
  induction triggers generalizing store scheduled with
  | nil => exact ⟨scheduled, store, endsWith_pure _, .refl _ _⟩
  | cons trigger rest ih =>
    have hrest : ∀ schedule, .schedule schedule ∈ rest →
        (scheduler.scheduleOccurrences schedule start through).isSome :=
      fun schedule hmem => hschedules schedule (mem_cons_of_mem _ hmem)
    cases trigger with
    | schedule schedule =>
      obtain ⟨instants, hinstants⟩ :=
        Option.isSome_iff_exists.mp (hschedules schedule mem_cons_self)
      have hown : ∀ instant ∈ instants,
          scheduledOccurrence active schedule.occurrenceWindowMs .scheduled instant ∈ plans := by
        intro instant hmem
        apply hplans
        apply mem_append_left
        rw [hinstants]
        exact List.mem_map_of_mem hmem
      obtain ⟨middleCount, middle, hfirst, hadds⟩ : ∃ count middle, EndsWith host ports
          (materializeInstants active schedule instants scheduled) store count middle ∧
          AddsPlanned plans store middle :=
        materializeInstants_endsWith instants scheduled h hown hversion
      have hversion' : (middle.loadVersion active.key.1 active.key.2).isSome := by
        unfold AutomationStore.loadVersion
        rw [hadds.setting.versions]
        exact hversion
      obtain ⟨count, store', hends, hadds'⟩ := ih middleCount (h.extends hadds) hrest
        (fun o ho => hplans o (mem_append_right _ ho)) hversion'
      refine ⟨count, store', ?_, hadds.trans hadds'⟩
      unfold materializeTriggers
      rw [hinstants]
      exact EndsWith.bind hfirst hends
    | observationChanged target field | deviceEvent target event | commandOutcome target states =>
      exact ih scheduled h hrest hplans hversion

theorem materialize_endsWith (active : List ActiveAutomationVersion) (scheduled : ℕ)
    (h : Consistent plans store)
    (hschedules : ∀ version ∈ active, ∀ schedule, .schedule schedule ∈ version.version.document.triggers →
      (scheduler.scheduleOccurrences schedule start through).isSome)
    (hplans : ∀ o ∈ planned scheduler start through active, o ∈ plans)
    (hversions : ∀ version ∈ active, (store.loadVersion version.key.1 version.key.2).isSome) :
    ∃ count store', EndsWith host ports (materialize scheduler start through active scheduled)
      store count store' ∧ AddsPlanned plans store store' := by
  induction active generalizing store scheduled with
  | nil => exact ⟨scheduled, store, endsWith_pure _, .refl _ _⟩
  | cons version rest ih =>
    obtain ⟨middleCount, middle, hfirst, hadds⟩ : ∃ count middle, EndsWith host ports
        (materializeTriggers scheduler start through version version.version.document.triggers scheduled)
        store count middle ∧ AddsPlanned plans store middle :=
      materializeTriggers_endsWith version.version.document.triggers scheduled h
        (hschedules version mem_cons_self)
        (fun o ho => hplans o (mem_flatMap.mpr ⟨version, mem_cons_self, ho⟩))
        (hversions version mem_cons_self)
    have hversions' : ∀ other ∈ rest, (middle.loadVersion other.key.1 other.key.2).isSome := by
      intro other hmem
      unfold AutomationStore.loadVersion
      rw [hadds.setting.versions]
      exact hversions other (mem_cons_of_mem _ hmem)
    obtain ⟨count, store', hends, hadds'⟩ := ih middleCount (h.extends hadds)
      (fun other hmem => hschedules other (mem_cons_of_mem _ hmem))
      (fun o ho => by
        obtain ⟨other, hother, ho⟩ := mem_flatMap.mp ho
        exact hplans o (mem_flatMap.mpr ⟨other, mem_cons_of_mem _ hother, ho⟩)) hversions'
    exact ⟨count, store', EndsWith.bind hfirst hends, hadds.trans hadds'⟩

def materialized (host : StoreHost) (ports : FixedPorts) (scheduler : SchedulerHost)
    (start through : Instant) (store : AutomationStore) : AutomationStore :=
  (Fallible.execute (automationApply host ports) (materialize scheduler start through
    (store.loadActiveVersions host recoveryPage) 0) store).2

/-- No schedule, id or trace keeps a tick from going through. -/
structure TickGoesThrough (host : StoreHost) (scheduler : SchedulerHost) (start through : Instant)
    (store : AutomationStore) : Prop where
  schedules : ∀ version ∈ store.loadActiveVersions host recoveryPage, ∀ schedule,
    .schedule schedule ∈ version.version.document.triggers →
    (scheduler.scheduleOccurrences schedule start through).isSome
  consistent : Consistent
    (planned scheduler start through (store.loadActiveVersions host recoveryPage)) store
  short : ∀ run ∈ store.runs.rows, run.state.isTerminal = false →
    restarts (store.loadActiveVersions host recoveryPage) run.versionKey →
    (store.traceOf run.id).length ≤ maxQueryPage

def Decides (result : Except AutomationSchedulerError RecoveryPass × AutomationStore)
    (o : AutomationOccurrence) : Prop :=
  (∃ row, result.2.occurrences.find o.id = some row ∧ row.state ≠ .scheduled) ∨
    ∃ pass, result.1 = .ok pass ∧ o ∈ pass.deferred

/-- How a tick ends when nothing disturbs it. -/
theorem tick_endsWith (ht : Traced store) (hg : TickGoesThrough host scheduler start through store) :
    ∃ pass store' timers between scheduled ready,
      EndsWith host ports (tick scheduler start through) store pass store' ∧
      AddsPlanned (planned scheduler start through (store.loadActiveVersions host recoveryPage)) store
        (materialized host ports scheduler start through store) ∧
      between.occurrences = (materialized host ports scheduler start through store).occurrences ∧
      SameSetting store between ∧
      PassDone (store.loadActiveVersions host recoveryPage) timers ports.now
        ((materialized host ports scheduler start through store).recover host recoveryPage).occurrences
        (.initial ((materialized host ports scheduler start through store).recover host
          recoveryPage).runs scheduled ready) between pass store' := by
  have hversions : ∀ version ∈ store.loadActiveVersions host recoveryPage,
      (store.loadVersion version.key.1 version.key.2).isSome := by
    intro version hmem
    rw [loadVersion_of_active hmem]
    rfl
  obtain ⟨scheduled, middle, hfirst, hadds⟩ : ∃ scheduled middle, EndsWith host ports
      (materialize scheduler start through (store.loadActiveVersions host recoveryPage) 0)
      store scheduled middle ∧ AddsPlanned (planned scheduler start through
        (store.loadActiveVersions host recoveryPage)) store middle :=
    materialize_endsWith _ 0 hg.consistent hg.schedules (fun _ ho => ho) hversions
  have hmiddle : materialized host ports scheduler start through store = middle := by
    unfold materialized
    rw [hfirst]
  have hversions' : ∀ version ∈ store.loadActiveVersions host recoveryPage,
      (middle.loadVersion version.key.1 version.key.2).isSome := by
    unfold AutomationStore.loadVersion
    rw [hadds.setting.versions]
    exact hversions
  have hshort : ∀ run ∈ middle.runs.rows, run.state.isTerminal = false →
      restarts (store.loadActiveVersions host recoveryPage) run.versionKey →
      (middle.traceOf run.id).length ≤ maxQueryPage := by
    intro run hrun hlive hrestarts
    rw [hadds.runs] at hrun
    rw [AutomationStore.traceOf_congr hadds.trace]
    exact hg.short run hrun hlive hrestarts
  obtain ⟨pass, store', timers, between, ready, hsecond, hocc, hsetting, hdone⟩ :=
    processRecovery_endsWith (store.loadActiveVersions host recoveryPage) scheduled
      (ht.same hadds.runs hadds.trace) hversions' hshort
  rw [hmiddle]
  refine ⟨pass, store', timers, between, scheduled, ready, ?_, hadds, hocc,
    hadds.setting.trans hsetting, hdone⟩
  refine EndsWith.bind (endsWith_ask rfl) ?_
  exact EndsWith.bind hfirst hsecond

/-- A due occurrence is decided exactly when its page and its version are loaded. -/
theorem tick_decides_iff (ht : Traced store) (hg : TickGoesThrough host scheduler start through store)
    (ho : o ∈ store.occurrences.rows) (hscheduled : o.state = .scheduled) (hdue : o.occurredAt ≤ ports.now) :
    Decides (Fallible.execute (automationApply host ports) (tick scheduler start through) store) o ↔
      o ∈ ((materialized host ports scheduler start through store).recover host recoveryPage).occurrences ∧
      activeFor (store.loadActiveVersions host recoveryPage) o ≠ none := by
  obtain ⟨pass, store', timers, between, scheduled, ready, hends, hadds, hocc, _, hdone⟩ :
      ∃ pass store' timers between scheduled ready,
        EndsWith host ports (tick scheduler start through) store pass store' ∧ _ ∧ _ ∧ _ ∧ _ :=
    tick_endsWith ht hg
  have hfind : (materialized host ports scheduler start through store).occurrences.find o.id = some o :=
    hadds.kept o.id o (find_eq_some.mpr ⟨ho, rfl⟩)
  have hrow := (find_eq_some.mp hfind).1
  unfold Decides
  rw [hends]
  constructor
  · intro hdecided
    by_contra hunseen
    -- the pass leaves an occurrence it does not see alone
    have hkept : store'.occurrences.find o.id = some o := by
      rw [hdone.kept o.id, hocc, hfind]
      intro other hother hid
      have hsame : other = o := eq_of_key (mem_of_mem_page hother).1 hrow hid
      subst hsame
      by_contra hseen
      rw [not_or] at hseen
      exact hunseen ⟨hother, hseen.1⟩
    rcases hdecided with ⟨row, hstored, hstate⟩ | ⟨pass', hpass, hdeferred⟩
    · rw [hkept, Option.some.injEq] at hstored
      rw [← hstored] at hstate
      exact hstate hscheduled
    · cases hpass
      rcases hdone.deferred o hdeferred with hnil | hseen
      · cases hnil
      · exact hunseen hseen
  · rintro ⟨hpage, hactive⟩
    rcases hdone.decided o hpage hactive hscheduled hdue with hdecided | hdeferred
    · exact .inl hdecided
    · exact .inr ⟨pass, rfl, hdeferred⟩

/-- Occurrences the recovery query puts before `o`. -/
def occurrencesBefore (host : StoreHost) (store : AutomationStore) (o : AutomationOccurrence) : ℕ :=
  store.occurrences.count (fun other => other.isRecoverable &&
    decide (other.recoveryRank host < o.recoveryRank host))

def activeBefore (host : StoreHost) (store : AutomationStore) (automationId : AutomationId) : ℕ :=
  store.identities.count (fun other => (store.activeVersion? other).isSome &&
    decide (host.automationIdText other.id < host.automationIdText automationId))

structure TellsApart (host : StoreHost) (store : AutomationStore) : Prop where
  occurrences : ∀ a ∈ store.occurrences.rows, ∀ b ∈ store.occurrences.rows,
    host.occurrenceIdText a.id = host.occurrenceIdText b.id → a.id = b.id
  identities : ∀ a ∈ store.identities.rows, ∀ b ∈ store.identities.rows,
    host.automationIdText a.id = host.automationIdText b.id → a.id = b.id

theorem mem_recover_iff (htext : TellsApart host store) (ho : o ∈ store.occurrences.rows)
    (hrecoverable : o.isRecoverable = true) :
    o ∈ (store.recover host recoveryPage).occurrences ↔ occurrencesBefore host store o < 1000 := by
  apply mem_page_iff _ ho hrecoverable
  intro a ha b hb hrank
  have hid : a.id = b.id := by
    apply htext.occurrences a ha b hb
    have h := congrArg (fun rank => (ofLex (ofLex (ofLex rank).2).2).2) hrank
    exact h
  exact eq_of_key ha hb hid

/-- A version is loaded when fewer than a thousand active ones stand before it. -/
theorem mem_loadActiveVersions_iff (htext : TellsApart host store) (hidentity : identity ∈ store.identities.rows)
    (hactive : store.activeVersion? identity = some version) :
    version ∈ store.loadActiveVersions host recoveryPage ↔ activeBefore host store identity.id < 1000 := by
  let r : AutomationIdentityState → AutomationIdentityState → Prop :=
    fun left right => host.automationIdText left.id ≤ host.automationIdText right.id
  have : IsTrans AutomationIdentityState r := ⟨fun _ _ _ => le_trans⟩
  have : Std.Total r := ⟨fun x y => le_total (host.automationIdText x.id) _⟩
  have hperm : (store.identities.rows.insertionSort r).Perm store.identities.rows :=
    perm_insertionSort r _
  have hrow : ∀ active ∈ (store.identities.rows.insertionSort r).filterMap store.activeVersion?,
      active.identity ∈ store.identities.rows ∧ store.activeVersion? active.identity = some active := by
    intro active hmem
    obtain ⟨row, hrow, hsome⟩ := mem_filterMap.mp hmem
    rw [AutomationStore.activeVersion?_identity hsome]
    exact ⟨hperm.mem_iff.mp hrow, hsome⟩
  have hsorted : ((store.identities.rows.insertionSort r).filterMap store.activeVersion?).Pairwise
      (fun x y => host.automationIdText x.identity.id ≤ host.automationIdText y.identity.id) := by
    apply List.Pairwise.filterMap (R := r) store.activeVersion? _ (pairwise_insertionSort r _)
    intro a a' hle b hb b' hb'
    rw [AutomationStore.activeVersion?_identity hb, AutomationStore.activeVersion?_identity hb']
    exact hle
  have hinj : ∀ x ∈ (store.identities.rows.insertionSort r).filterMap store.activeVersion?,
      ∀ y ∈ (store.identities.rows.insertionSort r).filterMap store.activeVersion?,
      host.automationIdText x.identity.id = host.automationIdText y.identity.id → x = y := by
    intro x hx y hy heq
    have hids := htext.identities _ (hrow x hx).1 _ (hrow y hy).1 heq
    have hsame := eq_of_key (hrow x hx).1 (hrow y hy).1 hids
    have hboth := (hrow x hx).2
    rw [hsame, (hrow y hy).2, Option.some.injEq] at hboth
    exact hboth.symm
  have hnodup : ((store.identities.rows.insertionSort r).filterMap store.activeVersion?).Nodup := by
    apply List.Nodup.filterMap
    · intro a a' b hb hb'
      rw [← AutomationStore.activeVersion?_identity hb, ← AutomationStore.activeVersion?_identity hb']
    · exact hperm.nodup_iff.mpr (List.Nodup.of_map _ store.identities.nodup)
  have hmem : version ∈ (store.identities.rows.insertionSort r).filterMap store.activeVersion? :=
    mem_filterMap.mpr ⟨identity, hperm.mem_iff.mpr hidentity, hactive⟩
  have hcount : ((store.identities.rows.insertionSort r).filterMap store.activeVersion?).countP
      (fun x => host.automationIdText x.identity.id < host.automationIdText version.identity.id) =
      activeBefore host store identity.id := by
    rw [countP_filterMap, hperm.countP_eq, activeBefore, Table.count,
      AutomationStore.activeVersion?_identity hactive]
    apply countP_congr
    intro row _
    cases hrowVersion : store.activeVersion? row with
    | none => simp
    | some other => simp [AutomationStore.activeVersion?_identity hrowVersion]
  rw [← hcount]
  exact mem_take_of_sorted hsorted hinj hnodup hmem

theorem activeFor_ne_none_iff {limit : ℕ} (hidentity : identity ∈ store.identities.rows)
    (hactive : store.activeVersion? identity = some version) (hkey : version.key = o.versionKey) :
    activeFor (store.loadActiveVersions host limit) o ≠ none ↔
      version ∈ store.loadActiveVersions host limit := by
  rw [Option.ne_none_iff_isSome, activeFor, List.find?_isSome]
  constructor
  · rintro ⟨other, hother, hsame⟩
    -- one identity has one active version
    obtain ⟨hrow, hsome⟩ := AutomationStore.mem_loadActiveVersions hother
    have hids : other.identity.id = identity.id := by
      rw [← AutomationStore.activeVersion?_identity hactive]
      have hkeys : other.key = version.key := (beq_iff_eq.mp hsame).trans hkey.symm
      exact congrArg Prod.fst hkeys
    rw [eq_of_key hrow hidentity hids, hactive, Option.some.injEq] at hsome
    rw [hsome]
    exact hother
  · intro hmem
    exact ⟨version, hmem, beq_iff_eq.mpr hkey⟩

end

/-- In every state the services reach, the next tick that goes through decides a due
occurrence of an active version exactly when fewer than a page of unfinished occurrences
sort before it and fewer than a page of active automations before its own. -/
theorem due_occurrence_decided_iff (host : StoreHost) (scheduler : SchedulerHost)
    (evaluator : EvaluatorHost) (ports : FixedPorts) (start through : Instant)
    {initial : AutomationStore}
    {reached : Processes AutomationCall AutomationCall.Response AutomationStore
      (Except AutomationSchedulerError RecoveryPass)}
    (hrun : Relation.ReflTransGen (Interleaves (serviceRules host scheduler evaluator))
      ⟨initial, none, []⟩ reached) (hinitial : Traced initial)
    (hgoes : TickGoesThrough host scheduler start through reached.state)
    (htext : TellsApart host (materialized host ports scheduler start through reached.state))
    {o : AutomationOccurrence} (ho : o ∈ reached.state.occurrences.rows)
    (hscheduled : o.state = .scheduled) (hdue : o.occurredAt ≤ ports.now)
    {identity : AutomationIdentityState} (hidentity : identity ∈ reached.state.identities.rows)
    {version : ActiveAutomationVersion} (hactive : reached.state.activeVersion? identity = some version)
    (hkey : version.key = o.versionKey) :
    Decides (Fallible.execute (automationApply host ports) (tick scheduler start through)
        reached.state) o ↔
      occurrencesBefore host (materialized host ports scheduler start through reached.state) o < 1000 ∧
      activeBefore host reached.state identity.id < 1000 := by
  have htraced := Traced.reached hrun hinitial
  obtain ⟨_, _, _, _, _, _, _, hadds, _⟩ : ∃ pass store' timers between scheduled ready,
      EndsWith host ports (tick scheduler start through) reached.state pass store' ∧
      AddsPlanned _ reached.state (materialized host ports scheduler start through reached.state) ∧ _ ∧
      _ ∧ _ := tick_endsWith htraced hgoes
  have hfind := hadds.kept o.id o (Table.find_eq_some.mpr ⟨ho, rfl⟩)
  have hrecoverable : o.isRecoverable = true := by
    unfold AutomationOccurrence.isRecoverable
    rw [hscheduled]
    rfl
  have htext' : TellsApart host reached.state := by
    refine ⟨?_, ?_⟩
    · intro a ha b hb
      have hmem : ∀ row ∈ reached.state.occurrences.rows,
          row ∈ (materialized host ports scheduler start through reached.state).occurrences.rows := by
        intro row hrow
        exact (Table.find_eq_some.mp (hadds.kept row.id row (Table.find_eq_some.mpr ⟨hrow, rfl⟩))).1
      exact htext.occurrences a (hmem a ha) b (hmem b hb)
    · rw [← hadds.setting.identities]
      exact htext.identities
  rw [tick_decides_iff htraced hgoes ho hscheduled hdue,
    mem_recover_iff htext (Table.find_eq_some.mp hfind).1 hrecoverable,
    activeFor_ne_none_iff hidentity hactive hkey, mem_loadActiveVersions_iff htext' hidentity hactive]

def watchPorts (cursor : ℕ) : FixedPorts := { minutePorts 0 with events := ⟨[observed cursor], none⟩ }

theorem traced_of_no_runs {store : AutomationStore} (hruns : store.runs = .empty)
    (htrace : store.trace = .empty) : Traced store := by
  have hrows : store.runs.rows = [] := by rw [hruns]; rfl
  have htraceRows : store.trace.rows = [] := by rw [htrace]; rfl
  refine ⟨?_, ?_, ?_, ?_, ?_⟩
  · rw [hrows]
    exact fun _ h => absurd h not_mem_nil
  · rw [htraceRows]
    exact fun _ h => absurd h not_mem_nil
  · rw [htraceRows]
    exact fun _ h => absurd h not_mem_nil
  · rw [hrows]
    exact fun _ h => absurd h not_mem_nil
  · rw [hrows]
    exact fun _ h => absurd h not_mem_nil

structure Watched (k : ℕ) (store : AutomationStore) : Prop where
  identities : store.identities = watchStore.identities
  versions : store.versions = watchStore.versions
  cursor : store.eventCursor = ⟨k, k⟩
  rest : ∀ i, k < i → store.occurrences.find (watchOccurrence i).id = none

section
variable {store : AutomationStore} {k : ℕ}

theorem Watched.active (h : Watched k store) (limit : ℕ) :
    store.loadActiveVersions minuteStoreHost limit = [watchVersion] := by
  have hactive : ∀ identity, store.activeVersion? identity = watchStore.activeVersion? identity := by
    intro identity
    unfold AutomationStore.activeVersion? AutomationStore.loadVersion
    rw [h.versions]
  unfold AutomationStore.loadActiveVersions
  rw [funext hactive, h.identities]
  have hone : (watchStore.identities.rows.insertionSort (fun left right =>
      minuteStoreHost.automationIdText left.id ≤ minuteStoreHost.automationIdText right.id)).filterMap
        watchStore.activeVersion? = [watchVersion] := rfl
  rw [hone]
  apply take_of_length_le
  show 1 ≤ min (max limit 1) 1000
  omega

theorem watchOccurrence_injective {i j : ℕ} (h : (watchOccurrence i).id = (watchOccurrence j).id) :
    i = j :=
  OccurrenceKey.event.inj (congrArg AutomationOccurrenceId.key h)

theorem Watched.goesThrough (h : Watched k store)
    (hshort : ∀ run ∈ store.runs.rows, run.state.isTerminal = false →
      restarts [watchVersion] run.versionKey → (store.traceOf run.id).length ≤ maxQueryPage) :
    TickGoesThrough minuteStoreHost minuteScheduler 0 0 store := by
  have hplanned : planned minuteScheduler 0 0 [watchVersion] = [] := rfl
  refine ⟨?_, ?_, ?_⟩
  · rw [h.active recoveryPage]
    intro version hversion schedule hmem
    rw [mem_singleton.mp hversion] at hmem
    have hnone : AutomationTrigger.schedule schedule ∉ watchDocument.triggers := by
      simp [watchDocument]
    exact absurd hmem hnone
  · rw [h.active recoveryPage, hplanned]
    exact fun o ho => absurd ho not_mem_nil
  · rw [h.active recoveryPage]
    exact hshort

/-- The consumer turns the next change into one more occurrence. -/
theorem Watched.consume (h : Watched k store) :
    ∃ store', ((asClient (process 1)).run (automationApply minuteStoreHost (watchPorts (k + 1))) store).2 =
        store' ∧ Watched (k + 1) store' ∧ store'.runs = store.runs ∧ store'.trace = store.trace ∧
      store'.occurrences.rows.length = store.occurrences.rows.length + 1 ∧
      store'.occurrences.find (watchOccurrence (k + 1)).id = some (watchOccurrence (k + 1)) ∧
      ∀ id, id ≠ (watchOccurrence (k + 1)).id →
        store'.occurrences.find id = store.occurrences.find id := by
  have hnew := h.rest (k + 1) (Nat.lt_succ_self k)
  let created : AutomationStore :=
    { store with occurrences := store.occurrences.insert (watchOccurrence (k + 1)) hnew }
  let advanced : AutomationStore := { created with eventCursor := ⟨k + 1, k + 1⟩ }
  have hcreate : store.createOccurrence (watchOccurrence (k + 1)) = .ok created := by
    unfold AutomationStore.createOccurrence
    split
    · rename_i existing hf
      rw [hnew] at hf
      cases hf
    · have hversion : (store.loadVersion (watchOccurrence (k + 1)).automationId
          (watchOccurrence (k + 1)).version).isNone = false := by
        unfold AutomationStore.loadVersion
        rw [h.versions]
        rfl
      rw [hversion]
      rfl
  have hadvance : created.advanceEventCursor k (k + 1) = .ok (⟨k + 1, k + 1⟩, advanced) := by
    have hcursor : created.eventCursor = ⟨k, k⟩ := h.cursor
    unfold AutomationStore.advanceEventCursor
    rw [hcursor]
    simp [advanced]
  -- the four requests of a pass, one after the other
  have hexecute : Fallible.execute (automationApply minuteStoreHost (watchPorts (k + 1))) (process 1)
      store = (.ok (), advanced) := by
    have hreadCursor : (request .eventCursor).run (automationApply minuteStoreHost
        (watchPorts (k + 1))) store = (.ok ⟨k, k⟩, store) := by
      rw [← h.cursor]
      rfl
    have hreadActive : (request (.activeVersions maxActiveAutomations)).run
        (automationApply minuteStoreHost (watchPorts (k + 1))) store = (.ok [watchVersion], store) := by
      rw [← h.active maxActiveAutomations]
      rfl
    have hwrite : (request (.createOccurrence (watchOccurrence (k + 1)))).run
        (automationApply minuteStoreHost (watchPorts (k + 1))) store = (.ok (), created) :=
      commitResult_ok hcreate
    have hmove : (request (.advanceEventCursor k (k + 1))).run
        (automationApply minuteStoreHost (watchPorts (k + 1))) created =
        (.ok ⟨k + 1, k + 1⟩, advanced) := by
      have happly : automationApply minuteStoreHost (watchPorts (k + 1)) (.advanceEventCursor k (k + 1)) created =
          (.ok ⟨k + 1, k + 1⟩, advanced) := by
        simp only [automationApply, hadvance]
      exact happly
    have hevent : Fallible.execute (automationApply minuteStoreHost (watchPorts (k + 1)))
        (materializeEvent (observed (k + 1)) [watchVersion]) store = (.ok (), created) := by
      unfold materializeEvent
      rw [watchVersion_triggers, if_pos rfl]
      exact execute_bind_ok (execute_repository hwrite)
    unfold process
    rw [execute_bind_ok (execute_repository hreadCursor),
      execute_bind_ok (execute_repository rfl)]
    show Fallible.execute _ (do
      let active ← repository (.repository "load_active_versions")
        (request (.activeVersions maxActiveAutomations))
      processEvents active [observed (k + 1)] ⟨k, k⟩ : EventsM Unit) store = _
    rw [execute_bind_ok (execute_repository hreadActive)]
    unfold processEvents
    rw [execute_bind_ok hevent]
    show Fallible.execute _ (do
      let checkpoint ← repository (.repository "advance_cursor")
        (request (.advanceEventCursor k (k + 1)))
      processEvents [watchVersion] [] checkpoint : EventsM Unit) created = _
    rw [execute_bind_ok (execute_repository hmove)]
    rfl
  refine ⟨advanced, ?_, ⟨h.identities, h.versions, rfl, ?_⟩, rfl, rfl, length_append, ?_, ?_⟩
  · unfold asClient
    rw [Program.run_bind]
    show (Fallible.execute (automationApply minuteStoreHost (watchPorts (k + 1))) (process 1) store).2 = _
    rw [hexecute]
  · intro i hi
    show (store.occurrences.insert (watchOccurrence (k + 1)) hnew).find _ = none
    rw [find_insert, if_neg, h.rest i (by omega)]
    intro heq
    have hsame := watchOccurrence_injective heq
    omega
  · show (store.occurrences.insert (watchOccurrence (k + 1)) hnew).find _ = _
    rw [find_insert, if_pos rfl]
  · intro id hid
    show (store.occurrences.insert (watchOccurrence (k + 1)) hnew).find id = _
    rw [find_insert, if_neg (Ne.symm hid)]

theorem consume_interleaves (cursor : ℕ) (store : AutomationStore)
    (clients : List (Program AutomationCall AutomationCall.Response Unit)) :
    Relation.ReflTransGen (Interleaves (serviceRules minuteStoreHost minuteScheduler lampEvaluator))
      ⟨store, none, clients⟩ ⟨((asClient (process 1)).run
        (automationApply minuteStoreHost (watchPorts cursor)) store).2, none, .done () :: clients⟩ := by
  apply Interleaves.of_run_client (automationApply_handles minuteStoreHost (watchPorts cursor))
    (fun _ _ => trivial)
  exact .service (.events 1)

def oneChange : AutomationStore :=
  { watchStore with
    occurrences := ⟨[watchOccurrence 1], List.nodup_singleton _⟩
    eventCursor := ⟨1, 1⟩ }

theorem due_occurrence_decided_change :
    Decides (Fallible.execute (automationApply minuteStoreHost (minutePorts 0))
      (tick minuteScheduler 0 0) oneChange) (watchOccurrence 1) := by
  have hwatched : Watched 1 oneChange := by
    refine ⟨rfl, rfl, rfl, ?_⟩
    intro i hi
    rw [Table.find_eq_none]
    intro row hrow
    rw [List.mem_singleton.mp hrow]
    intro heq
    have hsame := watchOccurrence_injective heq
    omega
  have hgoes : TickGoesThrough minuteStoreHost minuteScheduler 0 0 oneChange := by
    apply hwatched.goesThrough
    exact fun run hrun => absurd hrun List.not_mem_nil
  refine (due_occurrence_decided_iff minuteStoreHost minuteScheduler lampEvaluator (minutePorts 0) 0 0
    .refl (traced_of_no_runs rfl rfl) hgoes ⟨by decide +kernel, by decide +kernel⟩
    (List.mem_singleton.mpr rfl) rfl (le_refl _) (List.mem_singleton.mpr rfl) rfl rfl).mpr ?_
  exact ⟨by decide +kernel, by decide +kernel⟩

theorem watched_reached (k : ℕ) :
    ∃ store clients, Relation.ReflTransGen (Interleaves (serviceRules minuteStoreHost minuteScheduler
      lampEvaluator)) ⟨watchStore, none, []⟩ ⟨store, none, clients⟩ ∧ Watched k store ∧
      store.runs = .empty ∧ store.trace = .empty ∧ store.occurrences.rows.length = k ∧
      ∀ i, 0 < i → i ≤ k → store.occurrences.find (watchOccurrence i).id = some (watchOccurrence i) := by
  induction k with
  | zero =>
    refine ⟨watchStore, [], .refl, ⟨rfl, rfl, rfl, fun _ _ => rfl⟩, rfl, rfl, rfl, ?_⟩
    intro i hpos hle
    omega
  | succ k ih =>
    obtain ⟨store, clients, hreach, hwatched, hruns, htrace, hlength, hrows⟩ := ih
    obtain ⟨store', hstore, hwatched', hruns', htrace', hlength', hnew, hkept⟩ := hwatched.consume
    refine ⟨store', _, hreach.trans (hstore ▸ consume_interleaves (k + 1) store clients), hwatched', hruns'.trans hruns, htrace'.trans htrace,
      hlength'.trans (congrArg (· + 1) hlength), ?_⟩
    intro i hpos hle
    by_cases hlast : i = k + 1
    · rw [hlast]
      exact hnew
    · rw [hkept]
      · exact hrows i hpos (by omega)
      · intro heq
        exact hlast (watchOccurrence_injective heq)

/-- A tick accepts all watched occurrences when no more than a thousand are stored. -/
theorem Watched.tick_accepts (h : Watched k store) (hk : k ≤ 1000) (htraced : Traced store)
    (hshort : ∀ run ∈ store.runs.rows, run.state.isTerminal = false →
      restarts [watchVersion] run.versionKey → (store.traceOf run.id).length ≤ maxQueryPage)
    (hlength : store.occurrences.rows.length = k) (hrows : ∀ i, 0 < i → i ≤ k →
      store.occurrences.find (watchOccurrence i).id = some (watchOccurrence i)) :
    ∃ store', (((tick minuteScheduler 0 0).run).run
        (automationApply minuteStoreHost (minutePorts 0)) store).2 = store' ∧ Watched k store' ∧
      Traced store' ∧
      (∀ run ∈ store'.runs.rows, run.state.isTerminal = false →
        restarts [watchVersion] run.versionKey → (store'.traceOf run.id).length ≤ maxQueryPage) ∧
      ∀ i, 0 < i → i ≤ k → store'.occurrences.find (watchOccurrence i).id =
        some { watchOccurrence i with state := .accepted } := by
  obtain ⟨pass, store', timers, between, scheduled, ready, hends, hadds, hocc, hsetting, hdone⟩ :
      ∃ pass store' timers between scheduled ready,
        EndsWith minuteStoreHost (minutePorts 0) (tick minuteScheduler 0 0) store pass store' ∧
        _ ∧ _ ∧ _ ∧ _ := tick_endsWith htraced (h.goesThrough hshort)
  have hplanned : planned minuteScheduler 0 0 [watchVersion] = [] := rfl
  rw [h.active recoveryPage] at hadds hdone
  rw [hplanned] at hadds
  have hsetting' := hsetting.trans hdone.setting
  have hnone : ∀ i, k < i → (materialized minuteStoreHost (minutePorts 0) minuteScheduler 0 0
      store).occurrences.find (watchOccurrence i).id = none := by
    intro i hi
    cases hf : (materialized minuteStoreHost (minutePorts 0) minuteScheduler 0 0
        store).occurrences.find (watchOccurrence i).id with
    | none => rfl
    | some row =>
      obtain ⟨hmem, hid⟩ := find_eq_some.mp hf
      rcases hadds.new row hmem with hold | hplan
      · have hsome := find_eq_some.mpr ⟨hold, hid⟩
        rw [h.rest i hi] at hsome
        cases hsome
      · cases hplan
  have hcount : (materialized minuteStoreHost (minutePorts 0) minuteScheduler 0 0
      store).occurrences.count AutomationOccurrence.isRecoverable ≤ min recoveryPage maxQueryPage := by
    have hle : (materialized minuteStoreHost (minutePorts 0) minuteScheduler 0 0
        store).occurrences.count AutomationOccurrence.isRecoverable ≤
        store.occurrences.count (fun _ => true) := by
      apply count_le_of_keys
      intro row hrow _
      rcases hadds.new row hrow with hold | hplan
      · exact ⟨row, hold, rfl, rfl⟩
      · cases hplan
    have hall : store.occurrences.count (fun _ => true) = k := by
      rw [← hlength]
      exact congrFun countP_true _
    have hpage : min recoveryPage maxQueryPage = 1000 := rfl
    omega
  refine ⟨store', ?_, ⟨hsetting'.identities.trans h.identities, hsetting'.versions.trans h.versions,
    hsetting'.eventCursor.trans h.cursor, ?_⟩, hdone.healthy.traced, hdone.healthy.short, ?_⟩
  · exact congrArg Prod.snd hends
  · intro i hi
    rw [hdone.kept, hocc]
    · exact hnone i hi
    · intro o ho hid
      have hmem := (mem_of_mem_page ho).1
      have hsome := find_eq_some.mpr ⟨hmem, hid⟩
      rw [hnone i hi] at hsome
      cases hsome
  · intro i hpos hi
    have hfind := hadds.kept _ _ (hrows i hpos hi)
    have hmem := (find_eq_some.mp hfind).1
    have hon : watchOccurrence i ∈ ((materialized minuteStoreHost (minutePorts 0) minuteScheduler 0 0
        store).recover minuteStoreHost recoveryPage).occurrences :=
      mem_page_of_count_le hcount hmem rfl
    have hwindow : (0 : Instant) ≤ maxUtc := by decide
    exact hdone.restarted _ hon watchVersion rfl rfl rfl (le_refl _) hwindow

end

/-- After a thousand accepted occurrences a further change of the lamp is waiting, due
and inside its window, and no tick looks at it. -/
theorem accepted_history_starves_occurrence :
    ∃ store clients o identity, Relation.ReflTransGen (Interleaves (serviceRules minuteStoreHost
        minuteScheduler lampEvaluator)) ⟨watchStore, none, []⟩ ⟨store, none, clients⟩ ∧
      1000 ≤ store.occurrences.count (fun other => other.state == .accepted) ∧
      o ∈ store.occurrences.rows ∧ o.state = .scheduled ∧ o.occurredAt ≤ 0 ∧ 0 < o.windowEndsAt ∧
      identity ∈ store.identities.rows ∧ store.activeVersion? identity = some watchVersion ∧
      watchVersion.key = o.versionKey ∧
      ¬ Decides (Fallible.execute (automationApply minuteStoreHost (minutePorts 0))
        (tick minuteScheduler 0 0) store) o := by
  obtain ⟨waiting, clients, hreach, hwatched, hruns, htrace, hlength, hrows⟩ := watched_reached 1000
  have hempty := traced_of_no_runs hruns htrace
  have hshort : ∀ run ∈ waiting.runs.rows, run.state.isTerminal = false →
      restarts [watchVersion] run.versionKey → (waiting.traceOf run.id).length ≤ maxQueryPage := by
    intro run hrun
    rw [hruns] at hrun
    cases hrun
  obtain ⟨busy, hbusy, hwatched, htraced, hshort, hrows⟩ :=
    hwatched.tick_accepts (le_refl _) hempty hshort hlength hrows
  obtain ⟨store, hstore, hwatched, hruns, htrace, _, hnew, hkept⟩ := hwatched.consume
  have htick : Relation.ReflTransGen (Interleaves (serviceRules minuteStoreHost minuteScheduler
      lampEvaluator)) ⟨waiting, none, clients⟩ ⟨busy, none, clients⟩ := by
    rw [← hbusy]
    apply Interleaves.of_run_main (automationApply_handles minuteStoreHost (minutePorts 0))
      (fun _ _ => trivial)
    exact ⟨0, 0, rfl⟩
  have hevent : Relation.ReflTransGen (Interleaves (serviceRules minuteStoreHost minuteScheduler
      lampEvaluator)) ⟨busy, none, clients⟩ ⟨store, none, .done () :: clients⟩ := by
    rw [← hstore]
    exact consume_interleaves 1001 busy clients
  have hreached := (hreach.trans htick).trans hevent
  have hshort' : ∀ run ∈ store.runs.rows, run.state.isTerminal = false →
      restarts [watchVersion] run.versionKey → (store.traceOf run.id).length ≤ maxQueryPage := by
    intro run hrun
    rw [AutomationStore.traceOf_congr htrace]
    rw [hruns] at hrun
    exact hshort run hrun
  have hgoes := hwatched.goesThrough hshort'
  have hmem := (Table.find_eq_some.mp hnew).1
  -- the accepted occurrences are still there and sort before the new one
  have haccepted : ∀ i, 0 < i → i ≤ 1000 → store.occurrences.find (watchOccurrence i).id =
      some { watchOccurrence i with state := .accepted } := by
    intro i hpos hi
    rw [hkept]
    · exact hrows i hpos hi
    · intro heq
      have hsame := watchOccurrence_injective heq
      omega
  have hids : ((List.range 1000).map (fun i => (watchOccurrence (i + 1)).id)).Nodup := by
    apply List.Nodup.map _ List.nodup_range
    intro i j heq
    have hsame := watchOccurrence_injective heq
    omega
  have hmany : ∀ {table : Table AutomationOccurrenceId AutomationOccurrence AutomationOccurrence.id}
      {p : AutomationOccurrence → Bool}, (∀ i, 0 < i → i ≤ 1000 →
        ∃ row ∈ table.rows, p row = true ∧ row.id = (watchOccurrence i).id) → 1000 ≤ table.count p := by
    intro table p hrow
    have hle : ((List.range 1000).map (fun i => (watchOccurrence (i + 1)).id)).length ≤
        table.count p := by
      apply Table.length_le_count hids
      intro id hid
      obtain ⟨i, hi, rfl⟩ := List.mem_map.mp hid
      exact hrow (i + 1) (Nat.succ_pos i) (List.mem_range.mp hi)
    rw [List.length_map, List.length_range] at hle
    exact hle
  refine ⟨store, .done () :: clients, watchOccurrence 1001, watchVersion.identity, hreached, ?_, hmem,
    rfl, le_refl _, by decide, ?_, ?_, rfl, ?_⟩
  · apply hmany
    intro i hpos hi
    obtain ⟨hrow, hid⟩ := Table.find_eq_some.mp (haccepted i hpos hi)
    exact ⟨_, hrow, rfl, hid⟩
  · rw [hwatched.identities]
    exact List.mem_singleton.mpr rfl
  · unfold AutomationStore.activeVersion? AutomationStore.loadVersion
    rw [hwatched.versions]
    rfl
  · intro hdecided
    have htraced' := Traced.reached hreached (traced_of_no_runs rfl rfl)
    have hpage := ((tick_decides_iff htraced' hgoes hmem rfl (le_refl _)).mp hdecided).1
    have hfew := Table.count_lt_of_mem_page hpage
    obtain ⟨_, _, _, _, _, _, _, hadds, _⟩ : ∃ pass store' timers between scheduled ready,
        EndsWith minuteStoreHost (minutePorts 0) (tick minuteScheduler 0 0) store pass store' ∧
        AddsPlanned _ store (materialized minuteStoreHost (minutePorts 0) minuteScheduler 0 0 store) ∧
        _ ∧ _ ∧ _ := tick_endsWith htraced' hgoes
    have hbefore : 1000 ≤ (materialized minuteStoreHost (minutePorts 0) minuteScheduler 0 0
        store).occurrences.count (fun other => other.isRecoverable &&
          decide (other.recoveryRank minuteStoreHost <
            (watchOccurrence 1001).recoveryRank minuteStoreHost)) := by
      apply hmany
      intro i hpos hi
      obtain ⟨hrow, hid⟩ := Table.find_eq_some.mp (hadds.kept _ _ (haccepted i hpos hi))
      refine ⟨_, hrow, ?_, hid⟩
      have hrank : AutomationOccurrence.recoveryRank minuteStoreHost
          { watchOccurrence i with state := .accepted } <
          (watchOccurrence 1001).recoveryRank minuteStoreHost := by
        apply Prod.Lex.right
        apply Prod.Lex.right
        apply Prod.Lex.left
        show i < 1001
        omega
      rw [decide_eq_true hrank]
      rfl
    exact absurd hfew (Nat.not_lt.mpr hbefore)
end HomeMagic
