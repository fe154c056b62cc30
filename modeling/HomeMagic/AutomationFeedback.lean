import HomeMagic.AutomationEventConsumer

/-! Feedback between automations. The event consumer looks at the run that caused an
event directly; loops that pass through other automations are not cut. -/
namespace HomeMagic

variable {event : CursorEvent} {cause : AutomationCausation} {events : List CursorEvent}
  {version : ActiveAutomationVersion}

/-- What an event records about the run that caused it: the run of an earlier event of
the log, with its correlation, or a run that a schedule or a catch-up started. -/
structure CarriesCause (events : List CursorEvent) (event : CursorEvent) (cause : AutomationCausation) :
    Prop where
  automationId : cause.runId.fromOccurrence.automationId = cause.automationId
  version : cause.runId.fromOccurrence.version = cause.version
  earlier : ∀ cursor, cause.runId.fromOccurrence.key = .event cursor →
    ∃ trigger ∈ events, trigger.cursor = cursor ∧ trigger.cursor < event.cursor ∧
      trigger.event.correlationId = event.event.correlationId
  started : (∀ cursor, cause.runId.fromOccurrence.key ≠ .event cursor) →
    event.event.correlationId = .fromKey cause.runId.fromOccurrence

structure CausedLog extends EventLog where
  caused : ∀ event ∈ events, ∀ cause, event.event.automation = some cause →
    CarriesCause events event cause

inductive Ancestor (log : EventLog) : CursorEvent → AutomationCausation → Prop
  | direct {event : CursorEvent} {cause : AutomationCausation}
      (h : event.event.automation = some cause) : Ancestor log event cause
  | further {event trigger : CursorEvent} {cause ancestor : AutomationCausation}
      (h : event.event.automation = some cause) (ht : trigger ∈ log.events)
      (hrun : cause.runId.fromOccurrence.key = .event trigger.cursor)
      (ha : Ancestor log trigger ancestor) : Ancestor log event ancestor

inductive Root (log : EventLog) : CursorEvent → CursorEvent → Prop
  | external {event : CursorEvent} (h : event.event.automation = none) : Root log event event
  | caused {event trigger root : CursorEvent} {cause : AutomationCausation}
      (h : event.event.automation = some cause) (ht : trigger ∈ log.events)
      (hrun : cause.runId.fromOccurrence.key = .event trigger.cursor)
      (hr : Root log trigger root) : Root log event root

def SameCascade (log : EventLog) (a b : CursorEvent) : Prop := ∃ root, Root log a root ∧ Root log b root

def OwnRun (log : EventLog) (automationId : AutomationId) (event : CursorEvent) : Prop :=
  ∃ cause, Ancestor log event cause ∧ cause.automationId = automationId

def OwnEvent (automationId : AutomationId) (event : CursorEvent) : Prop :=
  ∃ cause, event.event.automation = some cause ∧ cause.automationId = automationId

theorem Ancestor.correlation {log : CausedLog} {trigger : CursorEvent} {ancestor : AutomationCausation}
    (h : Ancestor log.toEventLog event ancestor) (he : event ∈ log.events) (ht : trigger ∈ log.events)
    (hrun : ancestor.runId.fromOccurrence.key = .event trigger.cursor) :
    trigger.event.correlationId = event.event.correlationId := by
  induction h with
  | @direct event cause hcause =>
    obtain ⟨other, hother, hcursor, _, hcorrelation⟩ := (log.caused event he cause hcause).earlier _ hrun
    rw [← EventLog.eq_of_cursor hother ht hcursor]
    exact hcorrelation
  | @further event middle cause ancestor hcause hm hmiddle _ ih =>
    obtain ⟨other, hother, hcursor, _, hcorrelation⟩ :=
      (log.caused event he cause hcause).earlier _ hmiddle
    rw [EventLog.eq_of_cursor hother hm hcursor] at hcorrelation
    rw [ih hm hrun, hcorrelation]

/-- No automation accepts an event whose causal chain has a run of its own with the same
correlation. -/
def NoOwnRun (log : EventLog) (store : AutomationStore) : Prop :=
  ∀ o ∈ store.occurrences.rows, o.state = .scheduled → ∀ event ∈ log.events,
    o.eventCursor = some event.cursor → ¬ OwnRun log o.automationId event

def OneRunEach (log : EventLog) (store : AutomationStore) : Prop :=
  ∀ o ∈ store.occurrences.rows, o.state = .scheduled → ∀ o' ∈ store.occurrences.rows,
    o'.state = .scheduled → o.automationId = o'.automationId →
    ∀ event ∈ log.events, o.eventCursor = some event.cursor →
    ∀ event' ∈ log.events, o'.eventCursor = some event'.cursor →
    SameCascade log event event' → o = o'

/-- An event with an earlier run of an automation it triggers was caused by that
automation directly. -/
def DirectOnly (log : EventLog) (active : List ActiveAutomationVersion) : Prop :=
  ∀ version ∈ active, ∀ event ∈ log.events, version.triggeredBy event →
    OwnRun log version.identity.id event → OwnEvent version.identity.id event

def DirectOnce (log : EventLog) (active : List ActiveAutomationVersion) : Prop :=
  ∀ version ∈ active, ∀ event ∈ log.events, ∀ event' ∈ log.events, version.triggeredBy event →
    version.triggeredBy event' → SameCascade log event event' → event = event' ∨
    OwnEvent version.identity.id event ∨ OwnEvent version.identity.id event'

theorem selfSuppressed_iff (hpolicy : version.version.plan.selfTrigger = .suppressSameCorrelation) :
    selfSuppressed version event.event = true ↔ OwnEvent version.identity.id event := by
  unfold selfSuppressed OwnEvent
  rw [hpolicy]
  cases event.event.automation with
  | none => simp
  | some cause =>
    by_cases hsame : cause.automationId = version.identity.id
    · simp [hsame]
    · simp [hsame]

theorem scheduled_iff (hpolicy : version.version.plan.selfTrigger = .suppressSameCorrelation) :
    (eventOccurrence version event).state = .scheduled ↔ ¬ OwnEvent version.identity.id event := by
  rw [← selfSuppressed_iff hpolicy]
  unfold eventOccurrence
  dsimp only
  split
  · rename_i h
    simp [h]
  · rename_i h
    simp [h]

/-- Event processors consuming a log of caused events, all active automations using
same-correlation suppression. The runs of a chain share its correlation. The consumer
cuts every feedback loop when repeated triggers come from an automation's own events
only; once the log is consumed, that is also necessary. -/
theorem feedback_cut_iff (host : StoreHost) (log : CausedLog) {initial : AutomationStore}
    {reached : Processes AutomationCall AutomationCall.Response AutomationStore Unit}
    (hrun : Relation.ReflTransGen (Interleaves (eventRules host log.toEventLog)) ⟨initial, none, []⟩
      reached)
    (hempty : initial.occurrences.rows = [])
    (hcursor : ∀ event ∈ log.events, initial.eventCursor.cursor < event.cursor)
    (hpolicy : ∀ version ∈ initial.loadActiveVersions host maxActiveAutomations,
      version.version.plan.selfTrigger = .suppressSameCorrelation) :
    (∀ event ∈ log.events, ∀ cause, Ancestor log.toEventLog event cause → ∀ trigger ∈ log.events,
      cause.runId.fromOccurrence.key = .event trigger.cursor →
      trigger.event.correlationId = event.event.correlationId) ∧
    (DirectOnly log.toEventLog (initial.loadActiveVersions host maxActiveAutomations) →
      NoOwnRun log.toEventLog reached.state) ∧
    (DirectOnce log.toEventLog (initial.loadActiveVersions host maxActiveAutomations) →
      OneRunEach log.toEventLog reached.state) ∧
    ((∀ event ∈ log.events, event.cursor ≤ reached.state.eventCursor.cursor) →
      (NoOwnRun log.toEventLog reached.state →
        DirectOnly log.toEventLog (initial.loadActiveVersions host maxActiveAutomations)) ∧
      (OneRunEach log.toEventLog reached.state →
        DirectOnce log.toEventLog (initial.loadActiveVersions host maxActiveAutomations))) := by
  have hreached := Consumed.reached hrun (consumed_initial hempty hcursor)
  refine ⟨fun event he cause ha trigger ht hkey => ha.correlation he ht hkey, ?_, ?_, ?_⟩
  · intro hdirect o ho hscheduled event he hevent hown
    obtain ⟨version, hv, trigger, ht, htriggered, rfl⟩ := hreached.sound o ho
    obtain rfl := EventLog.eq_of_cursor ht he (Option.some.inj hevent)
    exact (scheduled_iff (hpolicy version hv)).mp hscheduled (hdirect version hv _ he htriggered hown)
  · intro honce o ho hscheduled o' ho' hscheduled' hsame event he hevent event' he' hevent' hcascade
    obtain ⟨version, hv, trigger, ht, htriggered, rfl⟩ := hreached.sound o ho
    obtain ⟨version', hv', trigger', ht', htriggered', rfl⟩ := hreached.sound o' ho'
    obtain rfl := EventLog.eq_of_cursor ht he (Option.some.inj hevent)
    obtain rfl := EventLog.eq_of_cursor ht' he' (Option.some.inj hevent')
    obtain rfl := AutomationStore.loadActiveVersions_unique hv hv' hsame
    rcases honce version hv _ he _ he' htriggered htriggered' hcascade with rfl | hown | hown
    · rfl
    · exact absurd hown ((scheduled_iff (hpolicy version hv)).mp hscheduled)
    · exact absurd hown ((scheduled_iff (hpolicy version hv)).mp hscheduled')
  · intro hdone
    -- every trigger of the log has its occurrence in the store
    have hstored : ∀ version ∈ initial.loadActiveVersions host maxActiveAutomations,
        ∀ event ∈ log.events, version.triggeredBy event →
        eventOccurrence version event ∈ reached.state.occurrences.rows := by
      intro version hv event he ht
      exact (Table.find_eq_some.mp (hreached.complete version hv event he (hdone event he) ht)).1
    refine ⟨?_, ?_⟩
    · intro hnone version hv event he ht hown
      by_contra hforeign
      exact hnone _ (hstored version hv event he ht) ((scheduled_iff (hpolicy version hv)).mpr hforeign)
        event he rfl hown
    · intro hone version hv event he event' he' ht ht' hcascade
      by_contra hforeign
      rw [not_or, not_or] at hforeign
      obtain ⟨hdistinct, hown, hown'⟩ := hforeign
      have hsame := hone _ (hstored version hv event he ht)
        ((scheduled_iff (hpolicy version hv)).mpr hown) _ (hstored version hv event' he' ht')
        ((scheduled_iff (hpolicy version hv)).mpr hown') rfl event he rfl event' he' rfl hcascade
      have hcursors := congrArg AutomationOccurrence.eventCursor hsame
      exact hdistinct (EventLog.eq_of_cursor he he' (Option.some.inj hcursors))

def secondVersion : ActiveAutomationVersion :=
  ⟨⟨2, .active, some 1, 1, 0, 0⟩,
    readyVersion { watchDocument with id := 2 } { watchPlan with automationId := 2 }⟩

def pairStore : AutomationStore :=
  { AutomationStore.empty with
    identities := ⟨[watchVersion.identity, secondVersion.identity], by decide⟩
    versions := ⟨[watchVersion.version, secondVersion.version], by decide⟩ }

def answered (cursor : ℕ) (version : ActiveAutomationVersion) (trigger : CursorEvent) : CursorEvent :=
  ⟨cursor, { (observed cursor).event with
    correlationId := trigger.event.correlationId
    automation := some ⟨version.identity.id, 1, ⟨(eventOccurrence version trigger).id⟩⟩ }⟩

def firstAnswer : CursorEvent := answered 2 watchVersion (observed 1)

def secondAnswer : CursorEvent := answered 3 secondVersion firstAnswer

theorem firstAnswer_carries (h : observed 1 ∈ events) (hcause : firstAnswer.event.automation = some cause) :
    CarriesCause events firstAnswer cause := by
  cases hcause
  refine ⟨rfl, rfl, ?_, fun hother => absurd rfl (hother 1)⟩
  rintro cursor ⟨⟩
  exact ⟨observed 1, h, rfl, by decide, rfl⟩

theorem secondAnswer_carries (h : firstAnswer ∈ events) (hcause : secondAnswer.event.automation = some cause) :
    CarriesCause events secondAnswer cause := by
  cases hcause
  refine ⟨rfl, rfl, ?_, fun hother => absurd rfl (hother 2)⟩
  rintro cursor ⟨⟩
  exact ⟨firstAnswer, h, rfl, by decide, rfl⟩

def echoedLog : CausedLog where
  events := [observed 1, firstAnswer]
  sorted := by decide
  caused := by
    intro event he cause hcause
    rcases List.mem_cons.mp he with rfl | he
    · cases hcause
    · rw [List.mem_singleton.mp he] at hcause ⊢
      exact firstAnswer_carries List.mem_cons_self hcause

def pairLog : CausedLog where
  events := [observed 1, firstAnswer, secondAnswer]
  sorted := by decide
  caused := by
    intro event he cause hcause
    rcases List.mem_cons.mp he with rfl | he
    · cases hcause
    · rcases List.mem_cons.mp he with rfl | he
      · exact firstAnswer_carries List.mem_cons_self hcause
      · rw [List.mem_singleton.mp he] at hcause ⊢
        exact secondAnswer_carries (List.mem_cons_of_mem _ List.mem_cons_self) hcause

/-- The automation alone: its own answer is suppressed. -/
theorem feedback_cut_echo :
    NoOwnRun echoedLog.toEventLog (consumedStore watchStore echoedLog.toEventLog) ∧
    OneRunEach echoedLog.toEventLog (consumedStore watchStore echoedLog.toEventLog) := by
  have hown : OwnEvent 1 firstAnswer := ⟨_, rfl, rfl⟩
  have hactive : watchStore.loadActiveVersions minuteStoreHost maxActiveAutomations = [watchVersion] := rfl
  obtain ⟨_, hnone, hone, _⟩ := feedback_cut_iff minuteStoreHost echoedLog
    (consumedStore_reached watchStore echoedLog.toEventLog) rfl (by decide)
    (by rw [hactive]; exact fun version hv => by rw [List.mem_singleton.mp hv]; rfl)
  rw [hactive] at hnone hone
  refine ⟨hnone ?_, hone ?_⟩
  · intro version hv event he _ ha
    rw [List.mem_singleton.mp hv] at ha ⊢
    rcases List.mem_cons.mp he with rfl | he
    · obtain ⟨cause, ha, _⟩ := ha
      cases ha with
      | direct h => cases h
      | further h => cases h
    · rw [List.mem_singleton.mp he]
      exact hown
  · intro version hv event he event' he' _ _ _
    rw [List.mem_singleton.mp hv]
    rcases List.mem_cons.mp he with rfl | he
    · rcases List.mem_cons.mp he' with rfl | he'
      · exact .inl rfl
      · rw [List.mem_singleton.mp he']
        exact .inr (.inr hown)
    · rw [List.mem_singleton.mp he]
      exact .inr (.inl hown)

/-- Together, the first automation accepts the answer to its own answer: its run is
two steps back in the causal chain, and the cascade has a second run of it. -/
theorem pair_feeds_back :
    ∃ reached, Relation.ReflTransGen (Interleaves (eventRules minuteStoreHost pairLog.toEventLog))
        ⟨pairStore, none, []⟩ reached ∧
      (∀ version ∈ pairStore.loadActiveVersions minuteStoreHost maxActiveAutomations,
        version.version.plan.selfTrigger = .suppressSameCorrelation) ∧
      ¬ NoOwnRun pairLog.toEventLog reached.state ∧ ¬ OneRunEach pairLog.toEventLog reached.state := by
  have hactive : pairStore.loadActiveVersions minuteStoreHost maxActiveAutomations =
      [watchVersion, secondVersion] := by
    have hsorted : pairStore.identities.rows.insertionSort (fun left right =>
        minuteStoreHost.automationIdText left.id ≤ minuteStoreHost.automationIdText right.id) =
        [watchVersion.identity, secondVersion.identity] := by decide +kernel
    unfold AutomationStore.loadActiveVersions
    rw [hsorted]
    rfl
  have hfirst : eventOccurrence watchVersion (observed 1) ∈
      (consumedStore pairStore pairLog.toEventLog).occurrences.rows := by decide +kernel
  have hagain : eventOccurrence watchVersion secondAnswer ∈
      (consumedStore pairStore pairLog.toEventLog).occurrences.rows := by decide +kernel
  have hlog : observed 1 ∈ pairLog.events := List.mem_cons_self
  have hlog₂ : firstAnswer ∈ pairLog.events := List.mem_cons_of_mem _ List.mem_cons_self
  have hlog₃ : secondAnswer ∈ pairLog.events :=
    List.mem_cons_of_mem _ (List.mem_cons_of_mem _ (List.mem_singleton.mpr rfl))
  refine ⟨_, consumedStore_reached pairStore pairLog.toEventLog, ?_, ?_, ?_⟩
  · rw [hactive]
    intro version hv
    rcases List.mem_cons.mp hv with rfl | hv
    · rfl
    · rw [List.mem_singleton.mp hv]
      rfl
  · intro hnone
    apply hnone _ hagain rfl secondAnswer hlog₃ rfl
    exact ⟨_, .further rfl hlog₂ rfl (.direct rfl), rfl⟩
  · intro hone
    have hroot : Root pairLog.toEventLog firstAnswer (observed 1) :=
      .caused rfl hlog rfl (.external rfl)
    have hsame := hone _ hfirst rfl _ hagain rfl rfl (observed 1) hlog rfl secondAnswer hlog₃ rfl
      ⟨observed 1, .external rfl, .caused rfl hlog₂ rfl hroot⟩
    have hcursors := congrArg AutomationOccurrence.eventCursor hsame
    cases hcursors

end HomeMagic
