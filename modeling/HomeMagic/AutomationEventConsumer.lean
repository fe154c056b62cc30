import HomeMagic.AutomationAdmission

/-! The event consumer. However many calls of `process` run at once, and wherever they
are cut off, each event gives each active version it triggers one occurrence. -/
namespace HomeMagic
open List Fallible

variable {event : CursorEvent} {checkpoint : AutomationEventCursor} {cursor : ℕ} {rest : List CursorEvent}
  {α : Type}

structure EventLog where
  events : List CursorEvent
  sorted : events.Pairwise (fun a b => a.cursor < b.cursor)

def LogAnswers (log : EventLog) : (c : AutomationCall) → c.Response → Prop
  | .eventsAfter cursor limit, response => ∀ page, response = .ok page →
    ∃ window, window <:+: log.events ∧
      page = ⟨(window.filter (fun event => decide (cursor < event.cursor))).take limit,
        window.head?.map CursorEvent.cursor⟩
  | _, _ => True

def eventHandler (host : StoreHost) (log : EventLog) :
    Handler AutomationCall AutomationCall.Response AutomationStore :=
  fun c store response store' => automationHandler host c store response store' ∧ LogAnswers log c response

def eventRules (host : StoreHost) (log : EventLog) :
    Rules AutomationCall AutomationCall.Response AutomationStore Unit where
  handler := eventHandler host log
  main := fun _ => False
  client := fun p => ∃ limit, p = asClient (process limit)
  mainAllowed := fun _ _ => True
  clientAllowed := fun _ _ => True

def ActiveAutomationVersion.triggeredBy (version : ActiveAutomationVersion) (event : CursorEvent) : Bool :=
  version.version.plan.triggers.any (fun trigger => eventTriggers trigger event.event)

structure Consumes (store store' : AutomationStore) : Prop where
  identities : store'.identities = store.identities
  versions : store'.versions = store.versions
  kept : ∀ id o, store.occurrences.find id = some o → store'.occurrences.find id = some o
  cursor : store.eventCursor.cursor ≤ store'.eventCursor.cursor
  revision : store.eventCursor.revision ≤ store'.eventCursor.revision
  unmoved : store'.eventCursor.revision = store.eventCursor.revision →
    store'.eventCursor.cursor = store.eventCursor.cursor

/-- The occurrences are those of the events up to the cursor, and perhaps some of later
events. -/
structure Consumed (host : StoreHost) (log : EventLog) (active : List ActiveAutomationVersion)
    (store : AutomationStore) : Prop where
  loaded : store.loadActiveVersions host maxActiveAutomations = active
  complete : ∀ version ∈ active, ∀ event ∈ log.events, event.cursor ≤ store.eventCursor.cursor →
    version.triggeredBy event → store.occurrences.find (eventOccurrence version event).id =
      some (eventOccurrence version event)
  sound : ∀ o ∈ store.occurrences.rows, ∃ version ∈ active, ∃ event ∈ log.events,
    version.triggeredBy event ∧ o = eventOccurrence version event

theorem Consumes.refl (store : AutomationStore) : Consumes store store :=
  ⟨rfl, rfl, fun _ _ h => h, le_refl _, le_refl _, fun _ => rfl⟩

theorem Consumes.trans {a b c : AutomationStore} (h : Consumes a b) (h' : Consumes b c) :
    Consumes a c where
  identities := h'.identities.trans h.identities
  versions := h'.versions.trans h.versions
  kept := fun id o ho => h'.kept id o (h.kept id o ho)
  cursor := h.cursor.trans h'.cursor
  revision := h.revision.trans h'.revision
  unmoved := by
    intro hsame
    have hfirst := h.revision
    have hsecond := h'.revision
    rw [h'.unmoved (by omega), h.unmoved (by omega)]

theorem EventLog.eq_of_cursor {log : EventLog} {a b : CursorEvent} (ha : a ∈ log.events)
    (hb : b ∈ log.events) (h : a.cursor = b.cursor) : a = b := by
  have hnodup : (log.events.map CursorEvent.cursor).Nodup :=
    pairwise_map.mpr (log.sorted.imp Nat.ne_of_lt)
  exact inj_on_of_nodup_map hnodup ha hb h

def Follows (log : EventLog) (cursor : ℕ) (events : List CursorEvent) : Prop :=
  events <+: log.events.filter (fun event => decide (cursor < event.cursor))

theorem follows_of_window {log : EventLog} {limit : ℕ} {window : List CursorEvent} (hw : window <:+: log.events)
    (hearliest : ∀ earliest, window.head?.map CursorEvent.cursor = some earliest → earliest ≤ cursor + 1) :
    Follows log cursor ((window.filter (fun event => decide (cursor < event.cursor))).take limit) := by
  unfold Follows
  cases window with
  | nil => simp
  | cons first rest =>
    obtain ⟨before, after, hlog⟩ := hw
    have hfirst := hearliest first.cursor rfl
    have hbefore : before.filter (fun event => decide (cursor < event.cursor)) = [] := by
      rw [filter_eq_nil_iff]
      intro event hevent
      have hsorted := log.sorted
      rw [← hlog, append_assoc, pairwise_append] at hsorted
      have hlt := hsorted.2.2 event hevent first (by simp)
      simp only [decide_eq_true_eq]
      omega
    rw [← hlog, filter_append, filter_append, hbefore, nil_append]
    exact ( take_prefix _ _).trans (prefix_append _ _)

theorem Follows.head {log : EventLog} (h : Follows log cursor (event :: rest)) :
    event ∈ log.events ∧ cursor < event.cursor ∧
      (∀ other ∈ log.events, other.cursor ≤ event.cursor → other.cursor ≤ cursor ∨ other = event) ∧
      Follows log event.cursor rest := by
  obtain ⟨tail, htail⟩ := h
  have hmem : event ∈ log.events.filter (fun event => decide (cursor < event.cursor)) := by
    rw [← htail]
    simp
  obtain ⟨hlog, hlt⟩ := List.mem_filter.mp hmem
  have hlt : cursor < event.cursor := by simpa using hlt
  have hsorted := log.sorted.filter (fun event => decide (cursor < event.cursor))
  rw [← htail, cons_append, pairwise_cons] at hsorted
  refine ⟨hlog, hlt, ?_, tail, ?_⟩
  · intro other hother hle
    by_cases hafter : cursor < other.cursor
    · have hin : other ∈ log.events.filter (fun event => decide (cursor < event.cursor)) :=
        List.mem_filter.mpr ⟨hother, by simpa using hafter⟩
      rw [← htail, cons_append, mem_cons] at hin
      rcases hin with rfl | hin
      · exact .inr rfl
      · have hbehind := hsorted.1 other hin
        omega
    · exact .inl (by omega)
  · -- behind the event only the rest of the filtered log is left
    have hsplit : log.events.filter (fun other => decide (event.cursor < other.cursor)) =
        (log.events.filter (fun other => decide (cursor < other.cursor))).filter
          (fun other => decide (event.cursor < other.cursor)) := by
      rw [List.filter_filter]
      apply filter_congr
      intro other _
      rw [Bool.eq_iff_iff]
      simp only [decide_eq_true_eq, Bool.and_eq_true]
      omega
    rw [hsplit, ← htail, cons_append, filter_cons, if_neg (by simp)]
    symm
    rw [List.filter_eq_self]
    intro other hother
    simpa using hsorted.1 other hother

section
variable {host : StoreHost} {log : EventLog} {active : List ActiveAutomationVersion}
  {store store' : AutomationStore}

theorem eventOccurrence_unique (h : Consumed host log active store) {a b : ActiveAutomationVersion}
    (ha : a ∈ active) (hb : b ∈ active) {event' : CursorEvent} (he : event ∈ log.events) (he' : event' ∈ log.events)
    (hid : (eventOccurrence a event).id = (eventOccurrence b event').id) :
    a = b ∧ event = event' := by
  simp only [eventOccurrence, AutomationOccurrenceId.mk.injEq, OccurrenceKey.event.injEq] at hid
  rw [← h.loaded] at ha hb
  exact ⟨AutomationStore.loadActiveVersions_unique ha hb hid.1, EventLog.eq_of_cursor he he' hid.2.2⟩

theorem Consumed.createOccurrence (h : Consumed host log active store) {version : ActiveAutomationVersion}
    (hv : version ∈ active) (he : event ∈ log.events) (ht : version.triggeredBy event)
    (hstore : store.createOccurrence (eventOccurrence version event) = .ok store') :
    Consumed host log active store' ∧
      store'.occurrences.find (eventOccurrence version event).id = some (eventOccurrence version event) := by
  rcases AutomationStore.createOccurrence_spec hstore with ⟨rfl, existing, hfind, _⟩ | ⟨hnew, rfl, _⟩
  · obtain ⟨hmem, hid⟩ := Table.find_eq_some.mp hfind
    obtain ⟨other, hother, event', he', _, rfl⟩ := h.sound existing hmem
    obtain ⟨rfl, rfl⟩ := eventOccurrence_unique h hother hv he' he hid
    exact ⟨h, hfind⟩
  · refine ⟨⟨h.loaded, ?_, ?_⟩, ?_⟩
    · intro other hother event' he' hcursor ht'
      have hold := h.complete other hother event' he' hcursor ht'
      show (store.occurrences.insert (eventOccurrence version event) hnew).find _ = _
      rw [Table.find_insert, if_neg, hold]
      intro hsame
      rw [hsame, hold] at hnew
      cases hnew
    · intro o ho
      replace ho : o ∈ (store.occurrences.insert (eventOccurrence version event) hnew).rows := ho
      rcases Table.mem_insert.mp ho with ho | rfl
      · exact h.sound o ho
      · exact ⟨version, hv, event, he, ht, rfl⟩
    · show (store.occurrences.insert (eventOccurrence version event) hnew).find _ = _
      rw [Table.find_insert, if_pos rfl]

theorem Consumed.advanceEventCursor (h : Consumed host log active store) {advanced : AutomationEventCursor}
    (hfollows : Follows log checkpoint.cursor (event :: rest))
    (hcheckpoint : store.eventCursor.revision = checkpoint.revision →
      store.eventCursor.cursor = checkpoint.cursor) (hstored : ∀ version ∈ active, version.triggeredBy event →
      store.occurrences.find (eventOccurrence version event).id = some (eventOccurrence version event))
    (hstore : store.advanceEventCursor checkpoint.revision event.cursor = .ok (advanced, store')) :
    Consumed host log active store' ∧ advanced = store'.eventCursor ∧ advanced.cursor = event.cursor := by
  unfold AutomationStore.advanceEventCursor at hstore
  split at hstore
  · cases hstore
  rename_i hrevision
  split at hstore
  · cases hstore
  cases hstore
  have hcursor := hcheckpoint (by simpa using hrevision)
  refine ⟨⟨h.loaded, ?_, h.sound⟩, rfl, rfl⟩
  intro version hv other hother hle ht
  obtain ⟨_, _, hnext, _⟩ := hfollows.head
  rcases hnext other hother hle with hbefore | rfl
  · exact h.complete version hv other hother (by rw [hcursor]; exact hbefore) ht
  · exact hstored version hv ht

def AutomationCall.IsConsuming : AutomationCall → Prop
  | .now | .eventCursor | .eventsAfter _ _ | .activeVersions _ | .createOccurrence _
  | .advanceEventCursor _ _ => True
  | _ => False

theorem consuming_consumes {c : AutomationCall} {r : c.Response} (hc : c.IsConsuming)
    (hh : eventHandler host log c store r store') : Consumes store store' := by
  obtain ⟨hh, _⟩ := hh
  cases c with
  | now | eventsAfter cursor limit =>
    obtain rfl : store' = store := hh
    exact .refl _
  | eventCursor | activeVersions limit =>
    obtain ⟨rfl, _⟩ := hh
    exact .refl _
  | createOccurrence o =>
    rcases Commits.cases hh with ⟨_, hcommit⟩ | rfl
    · rcases AutomationStore.createOccurrence_spec hcommit with ⟨rfl, _⟩ | ⟨hnew, rfl, _⟩
      · exact .refl _
      · refine ⟨rfl, rfl, ?_, le_refl _, le_refl _, fun _ => rfl⟩
        intro id row hfind
        show (store.occurrences.insert o hnew).find id = some row
        rw [Table.find_insert, if_neg, hfind]
        intro hsame
        rw [hsame, hfind] at hnew
        cases hnew
    · exact .refl _
  | advanceEventCursor expectedRevision cursor =>
    rcases hh with ⟨advanced, _, hadvance⟩ | ⟨_, rfl⟩
    · unfold AutomationStore.advanceEventCursor at hadvance
      split at hadvance
      · cases hadvance
      split at hadvance
      · cases hadvance
      rename_i hcursor
      cases hadvance
      refine ⟨rfl, rfl, fun _ _ h => h, ?_, Nat.le_succ _, ?_⟩
      · show store.eventCursor.cursor ≤ cursor
        omega
      · intro hsame
        replace hsame : store.eventCursor.revision + 1 = store.eventCursor.revision := hsame
        omega
    · exact .refl _
  | identity _ | version _ _ | occurrence _ | transitionOccurrence _ | createRun _ | run _
  | transitionTimer _ | trace _ _ _ | commitStep _ | recoverableWork _ | retain _
  | stepPorts _ _ _ => exact hc.elim

abbrev Consuming (host : StoreHost) (log : EventLog) (active : List ActiveAutomationVersion) {α : Type}
    (p : EventsM α) (Q : α → AutomationStore → Prop) (store : AutomationStore) : Prop :=
  p.run.Keeps (eventHandler host log) (fun _ s => True ∧ Consumed host log active s) Consumes
    (Consumed host log active) (Fallible.OnOk Q) store

theorem consuming_request {wrap : StorageError → AutomationEventProcessorError}
    {p : Program AutomationCall AutomationCall.Response (Except StorageError α)} {Q : α → AutomationStore → Prop}
    (h : p.Keeps (eventHandler host log) (fun _ s => True ∧ Consumed host log active s) Consumes
      (Consumed host log active) (fun response s => ∀ value, response = .ok value → ∀ s', Consumes s s' → Q value s') store) :
    Consuming host log active (repository wrap p) Q store := by
  apply Program.Keeps.bind Consumes.refl
  apply h.mono
  intro response s hresponse
  cases response with
  | ok value =>
    intro s' hs a ha
    cases ha
    exact hresponse value rfl s' hs
  | error error =>
    intro s' hs a ha
    cases ha

structure KnowsCheckpoint (checkpoint : AutomationEventCursor) (store : AutomationStore) : Prop where
  revision : checkpoint.revision ≤ store.eventCursor.revision
  unmoved : store.eventCursor.revision = checkpoint.revision →
    store.eventCursor.cursor = checkpoint.cursor

theorem KnowsCheckpoint.consumes (h : KnowsCheckpoint checkpoint store) (hs : Consumes store store') :
    KnowsCheckpoint checkpoint store' := by
  have hle := h.revision
  have hle' := hs.revision
  refine ⟨hle.trans hle', ?_⟩
  intro hsame
  rw [hs.unmoved (by omega), h.unmoved (by omega)]

/-- One occurrence for each version that the event triggers. -/
theorem materializeEvent_consuming (he : event ∈ log.events) {versions : List ActiveAutomationVersion}
    (hv : ∀ version ∈ versions, version ∈ active) :
    Consuming host log active (materializeEvent event versions) (fun _ s =>
      Consumes store s ∧ ∀ version ∈ versions, version.triggeredBy event →
        s.occurrences.find (eventOccurrence version event).id = some (eventOccurrence version event))
      store := by
  induction versions generalizing store with
  | nil =>
    apply keeps_pure
    intro s hs
    exact ⟨hs, fun version h => absurd h not_mem_nil⟩
  | cons version rest ih =>
    have hrest := fun other hother => hv other (mem_cons_of_mem _ hother)
    unfold materializeEvent
    split
    · rename_i ht
      apply keeps_bind Consumes.refl
      apply consuming_request
      intro s hs hallowed response s' hh
      rcases hh.1 with ⟨_, hcommit⟩ | ⟨⟨error, herror⟩, rfl⟩
      · obtain ⟨hinv, hfind⟩ := hallowed.2.createOccurrence (hv version mem_cons_self) he ht hcommit
        refine ⟨hinv, ?_⟩
        intro s₁ hs₁ _ _ s₂ hs₂
        have hstep := consuming_consumes (c := .createOccurrence _) trivial hh
        have hsofar := ((hs.trans hstep).trans hs₁).trans hs₂
        apply Program.Keeps.mono (ih hrest)
        intro result s₃ hresult value hvalue
        obtain ⟨hs₃, hall⟩ := hresult value hvalue
        refine ⟨hsofar.trans hs₃, ?_⟩
        intro other hother hother'
        rcases mem_cons.mp hother with rfl | hother
        · exact hs₃.kept _ _ (hs₂.kept _ _ (hs₁.kept _ _ hfind))
        · exact hall other hother hother'
      · refine ⟨hallowed.2, ?_⟩
        intro s₁ _ value hvalue
        rw [herror] at hvalue
        cases hvalue
    · rename_i hnot
      apply (ih hrest).mono
      intro result s hresult value hvalue
      obtain ⟨hs, hall⟩ := hresult value hvalue
      refine ⟨hs, ?_⟩
      intro other hother ht
      rcases mem_cons.mp hother with rfl | hother
      · exact absurd ht hnot
      · exact hall other hother ht

/-- The checkpoint moves on only behind an event that is done. -/
theorem processEvents_consuming {events : List CursorEvent} (hfollows : Follows log checkpoint.cursor events)
    (hknows : KnowsCheckpoint checkpoint store) :
    Consuming host log active (processEvents active events checkpoint) (fun _ _ => True) store := by
  induction events generalizing checkpoint store with
  | nil => exact keeps_pure (fun _ _ => trivial)
  | cons event rest ih =>
    obtain ⟨hevent, _, _, hrest⟩ := hfollows.head
    unfold processEvents
    apply keeps_bind Consumes.refl
    apply Program.Keeps.mono (materializeEvent_consuming hevent (fun _ h => h))
    intro result s hresult value hvalue
    obtain ⟨hs, hstored⟩ := hresult value hvalue
    apply keeps_bind Consumes.refl
    -- the clock
    intro s₁ hs₁ hallowed now s₂ hh
    obtain rfl : s₂ = s₁ := hh.1
    refine ⟨hallowed.2, ?_⟩
    intro s₃ hs₃ _ _
    apply keeps_bind Consumes.refl
    apply consuming_request
    intro s₄ hs₄ hallowed₄ response s₅ hh₅
    have hsofar := (hs₁.trans hs₃).trans hs₄
    have hknows₄ := (hknows.consumes hs).consumes hsofar
    rcases hh₅.1 with ⟨advanced, hok, hadvance⟩ | ⟨⟨error, herror⟩, rfl⟩
    · obtain ⟨hinv, hadvanced, hcursor⟩ := hallowed₄.2.advanceEventCursor hfollows hknows₄.unmoved
        (fun version hv ht => hsofar.kept _ _ (hstored version hv ht)) hadvance
      refine ⟨hinv, ?_⟩
      intro s₆ hs₆ next hnext s₇ hs₇
      rw [hok, Except.ok.injEq] at hnext
      subst hnext
      apply ih
      · rw [hcursor]
        exact hrest
      · have hstart : KnowsCheckpoint advanced s₅ := by
          rw [hadvanced]
          exact ⟨le_refl _, fun _ => rfl⟩
        exact (hstart.consumes hs₆).consumes hs₇
    · refine ⟨hallowed₄.2, ?_⟩
      intro s₆ _ value hvalue
      rw [herror] at hvalue
      cases hvalue

/-- A call of `process` leaves every consumed event with its occurrences. -/
theorem process_consuming (limit : ℕ) :
    Consuming host log active (process limit) (fun _ _ => True) store := by
  unfold process
  apply keeps_bind Consumes.refl
  apply consuming_request
  -- the checkpoint
  intro s₁ hs₁ hallowed₁ response₁ s₂ hh₁
  obtain ⟨rfl, hanswer₁⟩ := hh₁.1
  refine ⟨hallowed₁.2, ?_⟩
  intro s₃ hs₃ checkpoint hcheckpoint s₄ hs₄
  have hstart : KnowsCheckpoint checkpoint s₂ := by
    rw [hanswer₁ checkpoint hcheckpoint]
    exact ⟨le_refl _, fun _ => rfl⟩
  have hknows := (hstart.consumes hs₃).consumes hs₄
  apply keeps_bind Consumes.refl
  apply consuming_request
  -- the page of events
  intro s₅ hs₅ hallowed₅ response₅ s₆ hh₅
  obtain ⟨hsame, hlog⟩ := hh₅
  obtain rfl : s₆ = s₅ := hsame
  refine ⟨hallowed₅.2, ?_⟩
  intro s₇ hs₇ page hpage s₈ hs₈
  obtain ⟨window, hwindow, rfl⟩ := hlog page hpage
  have hknows₈ := ((hknows.consumes hs₅).consumes hs₇).consumes hs₈
  have hrest : (∀ earliest, window.head?.map CursorEvent.cursor = some earliest →
        earliest ≤ checkpoint.cursor + 1) →
      Consuming host log active (do
        let versions ← repository (.repository "load_active_versions")
          (request (.activeVersions maxActiveAutomations))
        processEvents versions ((window.filter (fun event =>
          decide (checkpoint.cursor < event.cursor))).take (min (max limit 1) maxEventPage)) checkpoint)
        (fun _ _ => True) s₈ := by
    intro hearliest
    apply keeps_bind Consumes.refl
    apply consuming_request
    intro s₉ hs₉ hallowed₉ response₉ s₁₀ hh₉
    obtain ⟨rfl, hanswer₉⟩ := hh₉.1
    refine ⟨hallowed₉.2, ?_⟩
    intro s₁₁ hs₁₁ versions hversions s₁₂ hs₁₂
    have hloaded : versions = active := by
      rw [hanswer₉ versions hversions]
      exact hallowed₉.2.loaded
    rw [hloaded]
    exact processEvents_consuming (follows_of_window hwindow hearliest)
      (((hknows₈.consumes hs₉).consumes hs₁₁).consumes hs₁₂)
  dsimp only
  split
  · rename_i earliest hsome
    split
    · exact keeps_throw
    · rename_i hgap
      apply hrest
      intro other hother
      rw [hsome, Option.some.injEq] at hother
      omega
  · rename_i hnone
    apply hrest
    intro other hother
    rw [hnone] at hother
    cases hother

theorem asClient_process_consuming (limit : ℕ) : (asClient (process limit)).Calls
    AutomationCall.IsConsuming :=
  calls_asClient (process_calls (fun _ _ => trivial) trivial (fun _ _ => trivial) trivial
    (fun _ _ => trivial) (fun _ => trivial) limit)

theorem Consumed.reached {initial : AutomationStore}
    {reached : Processes AutomationCall AutomationCall.Response AutomationStore Unit}
    (hrun : Relation.ReflTransGen (Interleaves (eventRules host log)) ⟨initial, none, []⟩ reached)
    (h : Consumed host log active initial) : Consumed host log active reached.state := by
  refine Interleaves.rely_guarantee (P := AutomationCall.IsConsuming) Consumes.refl
    (fun _ _ _ => Consumes.trans) (fun _ hp => False.elim hp) ?_
    (fun _ _ _ _ hc _ hh => consuming_consumes hc hh) (fun _ _ hp => False.elim hp) ?_ hrun h rfl rfl
  · rintro p ⟨limit, rfl⟩
    exact asClient_process_consuming limit
  · rintro p s ⟨limit, rfl⟩ _
    apply Program.Keeps.bind Consumes.refl
    apply Program.Keeps.mono (process_consuming limit)
    exact fun _ _ _ _ _ => trivial

theorem Consumes.later {initial : AutomationStore}
    {reached later : Processes AutomationCall AutomationCall.Response AutomationStore Unit}
    (hrun : Relation.ReflTransGen (Interleaves (eventRules host log)) ⟨initial, none, []⟩ reached)
    (hlater : Relation.ReflTransGen (Interleaves (eventRules host log)) reached later) :
    Consumes reached.state later.state := by
  have hclient : ∀ p, (eventRules host log).client p → p.Calls AutomationCall.IsConsuming := by
    rintro p ⟨limit, rfl⟩
    exact asClient_process_consuming limit
  have hcall : ∀ c s r s', AutomationCall.IsConsuming c → (eventRules host log).handler c s r s' →
      Consumes s s' := fun _ _ _ _ hc hh => consuming_consumes hc hh
  have hidle : Interleaves.CallsOnly AutomationCall.IsConsuming
      (⟨initial, none, []⟩ : Processes AutomationCall AutomationCall.Response AutomationStore Unit) :=
    ⟨(fun p hp => nomatch hp), fun p hp => absurd hp not_mem_nil⟩
  have hreached := Interleaves.guarantee Consumes.refl (fun _ _ _ => Consumes.trans)
    (fun _ hp => False.elim hp) hclient hcall hidle hrun
  exact (Interleaves.guarantee Consumes.refl (fun _ _ _ => Consumes.trans)
    (fun _ hp => False.elim hp) hclient hcall hreached.1 hlater).2

end

theorem consumed_initial {host : StoreHost} {log : EventLog} {initial : AutomationStore}
    (hempty : initial.occurrences.rows = [])
    (hcursor : ∀ event ∈ log.events, initial.eventCursor.cursor < event.cursor) :
    Consumed host log (initial.loadActiveVersions host maxActiveAutomations) initial := by
  refine ⟨rfl, ?_, ?_⟩
  · intro version _ event hevent hle
    have hlt := hcursor event hevent
    omega
  · rw [hempty]
    exact fun o ho => absurd ho not_mem_nil

theorem eq_singleton {l : List α} {a : α} (hnodup : l.Nodup) (ha : a ∈ l) (h : ∀ b ∈ l, b = a) : l = [a] := by
  have hreplicate := eq_replicate_of_mem h
  rw [hreplicate, nodup_replicate] at hnodup
  have hpos := length_pos_of_mem ha
  rw [hreplicate, show l.length = 1 by omega]
  rfl

/-- From a store without occurrences, whose cursor is before the log: every event up to
the cursor has given each version it triggers exactly one occurrence, kept as suppressed
where the self-trigger policy asks for it, nothing else is stored, and the cursor never
goes back. -/
theorem events_materialized_once (host : StoreHost) (log : EventLog) {initial : AutomationStore}
    {reached : Processes AutomationCall AutomationCall.Response AutomationStore Unit}
    (hrun : Relation.ReflTransGen (Interleaves (eventRules host log)) ⟨initial, none, []⟩ reached)
    (hempty : initial.occurrences.rows = [])
    (hcursor : ∀ event ∈ log.events, initial.eventCursor.cursor < event.cursor) :
    (∀ version ∈ initial.loadActiveVersions host maxActiveAutomations, ∀ event ∈ log.events,
      event.cursor ≤ reached.state.eventCursor.cursor →
      reached.state.occurrences.rows.filter (fun o => o.versionKey == version.key &&
        o.eventCursor == some event.cursor) =
        if version.triggeredBy event then [eventOccurrence version event] else []) ∧
    (∀ o ∈ reached.state.occurrences.rows, ∃ version ∈ initial.loadActiveVersions host
      maxActiveAutomations, ∃ event ∈ log.events, version.triggeredBy event ∧
        o = eventOccurrence version event) ∧
    ∀ later, Relation.ReflTransGen (Interleaves (eventRules host log)) reached later →
      reached.state.eventCursor.cursor ≤ later.state.eventCursor.cursor := by
  have hreached := Consumed.reached hrun (consumed_initial hempty hcursor)
  refine ⟨?_, hreached.sound, fun later hlater => (Consumes.later hrun hlater).cursor⟩
  intro version hv event he hle
  have honly : ∀ o ∈ reached.state.occurrences.rows.filter (fun o => o.versionKey == version.key &&
      o.eventCursor == some event.cursor), version.triggeredBy event ∧ o = eventOccurrence version event := by
    intro o ho
    obtain ⟨hrow, hpair⟩ := List.mem_filter.mp ho
    obtain ⟨other, hother, event', he', ht, rfl⟩ := hreached.sound o hrow
    simp only [Bool.and_eq_true, beq_iff_eq] at hpair
    have hid := congrArg Prod.fst hpair.1
    obtain rfl := AutomationStore.loadActiveVersions_unique hother hv hid
    obtain rfl := EventLog.eq_of_cursor he' he (Option.some.inj hpair.2)
    exact ⟨ht, rfl⟩
  split
  · rename_i ht
    have hfind := hreached.complete version hv event he hle ht
    have hmem : eventOccurrence version event ∈ reached.state.occurrences.rows.filter (fun o =>
        o.versionKey == version.key && o.eventCursor == some event.cursor) := by
      apply List.mem_filter.mpr
      refine ⟨(Table.find_eq_some.mp hfind).1, ?_⟩
      simp [AutomationOccurrence.versionKey, ActiveAutomationVersion.key, eventOccurrence]
    have hnodup := (List.Nodup.of_map _ reached.state.occurrences.nodup).filter
      (fun o => o.versionKey == version.key && o.eventCursor == some event.cursor)
    exact eq_singleton hnodup hmem (fun o ho => (honly o ho).2)
  · rename_i ht
    rw [List.eq_nil_iff_forall_not_mem]
    exact fun o ho => ht (honly o ho).1

def watchDocument : AutomationDocument :=
  { lampDocument [switchLamp true] with
    triggers := [.observationChanged lampTarget none]
    runMode := .restart
    selfTrigger := .suppressSameCorrelation }

def watchPlan : AutomationExecutionPlan :=
  { minutePlan with
    triggers := [.observationChanged [⟨7, "switch:0", "on_off.v1"⟩] none]
    runMode := .restart
    selfTrigger := .suppressSameCorrelation }

def watchVersion : ActiveAutomationVersion :=
  ⟨⟨1, .active, some 1, 1, 0, 0⟩, readyVersion watchDocument watchPlan⟩

def watchStore : AutomationStore :=
  { AutomationStore.empty with
    identities := ⟨[watchVersion.identity], List.nodup_singleton _⟩
    versions := ⟨[watchVersion.version], List.nodup_singleton _⟩ }

def observed (cursor : ℕ) : CursorEvent :=
  ⟨cursor, ⟨cursor, some 7, 0, .fresh cursor, none,
    .observationChanged "switch:0" ⟨"on_off", 1, .comfort⟩ ["on"]⟩⟩

def watchOccurrence (cursor : ℕ) : AutomationOccurrence := eventOccurrence watchVersion (observed cursor)

theorem watchVersion_triggers (cursor : ℕ) : watchVersion.version.plan.triggers.any
    (fun trigger => eventTriggers trigger (observed cursor).event) = true := by
  show ([ResolvedAutomationTrigger.observationChanged [⟨7, "switch:0", "on_off.v1"⟩] none].any _) = true
  rfl

def eventApply (host : StoreHost) (log : EventLog) (now : Instant) :
    (c : AutomationCall) → AutomationStore → c.Response × AutomationStore
  | .eventsAfter cursor limit, store =>
    (.ok ⟨(log.events.filter (fun event => decide (cursor < event.cursor))).take limit,
      log.events.head?.map CursorEvent.cursor⟩, store)
  | c, store => automationApply host (minutePorts now) c store

theorem eventApply_handles (host : StoreHost) (log : EventLog) (now : Instant) (c : AutomationCall)
    (store : AutomationStore) :
    eventHandler host log c store (eventApply host log now c store).1 (eventApply host log now c store).2 := by
  cases c with
  | eventsAfter cursor limit =>
    refine ⟨rfl, ?_⟩
    intro page hpage
    cases hpage
    exact ⟨log.events, infix_rfl, rfl⟩
  | now | activeVersions _ | identity _ | version _ _ | eventCursor | advanceEventCursor _ _
  | createOccurrence _ | occurrence _ | transitionOccurrence _ | createRun _ | run _
  | transitionTimer _ | trace _ _ _ | commitStep _ | recoverableWork _ | retain _ | stepPorts _ _ _ =>
    exact ⟨automationApply_handles host (minutePorts now) _ store, trivial⟩

def consumedStore (initial : AutomationStore) (log : EventLog) : AutomationStore :=
  ((asClient (process 10)).run (eventApply minuteStoreHost log 0) initial).2

theorem consumedStore_reached (initial : AutomationStore) (log : EventLog) :
    Relation.ReflTransGen (Interleaves (eventRules minuteStoreHost log)) ⟨initial, none, []⟩
      ⟨consumedStore initial log, none, [.done ()]⟩ := by
  apply Interleaves.of_run_client (eventApply_handles minuteStoreHost log 0) (fun _ _ => trivial)
  exact ⟨10, rfl⟩

def oneChangeLog : EventLog := ⟨[observed 1], List.pairwise_singleton _ _⟩

theorem events_materialized_change :
    (consumedStore watchStore oneChangeLog).eventCursor.cursor = 1 ∧
    (consumedStore watchStore oneChangeLog).occurrences.rows.filter (fun o => o.versionKey == watchVersion.key &&
      o.eventCursor == some 1) = [watchOccurrence 1] := by
  have hcursor : (consumedStore watchStore oneChangeLog).eventCursor.cursor = 1 := by decide +kernel
  refine ⟨hcursor, ?_⟩
  obtain ⟨hstored, _⟩ := events_materialized_once minuteStoreHost oneChangeLog
    (consumedStore_reached watchStore oneChangeLog) rfl
    (fun event hevent => by rw [List.mem_singleton.mp hevent]; decide)
  have hone := hstored watchVersion (List.mem_singleton.mpr rfl) (observed 1)
    (List.mem_singleton.mpr rfl) (le_of_eq hcursor.symm)
  have htriggered : watchVersion.triggeredBy (observed 1) = true := watchVersion_triggers 1
  rw [if_pos htriggered] at hone
  exact hone

def echoed : CursorEvent :=
  ⟨1, { (observed 1).event with automation := some ⟨1, 1, ⟨(watchOccurrence 0).id⟩⟩ }⟩

def echoLog : EventLog := ⟨[echoed], List.pairwise_singleton _ _⟩

/-- The event is suppressed, and an occurrence of it is stored all the same. -/
theorem suppressed_event_is_stored :
    ∃ reached, Relation.ReflTransGen (Interleaves (eventRules minuteStoreHost echoLog))
        ⟨watchStore, none, []⟩ reached ∧
      reached.state.eventCursor.cursor = echoed.cursor ∧
      selfSuppressed watchVersion echoed.event = true ∧
      reached.state.occurrences.rows.filter (fun o => o.versionKey == watchVersion.key &&
        o.eventCursor == some echoed.cursor) = [eventOccurrence watchVersion echoed] := by
  refine ⟨_, consumedStore_reached watchStore echoLog, by decide +kernel, by decide, by decide +kernel⟩

end HomeMagic
