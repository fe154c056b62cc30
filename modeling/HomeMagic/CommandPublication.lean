import HomeMagic.AutomationPorts
import HomeMagic.CommandDispatch

/-! The event of a command transition. The audit record is committed first and its
event is appended by a call of its own, so that every service call owes at most one
event at a time, and owes none when it ends. -/
namespace HomeMagic

structure CommandTransitionedEvent where
  id : EventId
  deviceId : DeviceId
  occurredAt : Instant
  correlationId : CorrelationId
  causationEventId : Option EventId
  actor : ActorId
  automation : Option AutomationCausation
  commandId : CommandId
  fromState : Option CommandState
  toState : CommandState
  sequence : ℕ
  endpointId : EndpointId
  capability : String
  deriving DecidableEq

def commandTransitionedEvent (id : EventId) (envelope : CommandEnvelope) (audit : CommandAuditRecord) :
    CommandTransitionedEvent where
  id := id
  deviceId := envelope.deviceId
  occurredAt := audit.occurredAt
  correlationId := audit.correlationId
  causationEventId := audit.causationEventId
  actor := audit.actorId
  automation := envelope.automationCausation
  commandId := audit.commandId
  fromState := audit.fromState
  toState := audit.toState
  sequence := audit.sequence
  endpointId := envelope.endpointId
  capability := envelope.capability.schema

abbrev PublishedStore := CommandStore × List CommandTransitionedEvent

def publicationHandler (host : StoreHost) (commandIdText : CommandId → String) :
    Handler CommandCall CommandCall.Response PublishedStore
  | .publish audit, s, response, s' => s'.1 = s.1 ∧ match s.1.loadCommand audit.commandId with
    | none => s'.2 = s.2 ∧ response = .error ()
    | some command =>
      (∃ id, s'.2 = s.2 ++ [commandTransitionedEvent id command.envelope audit]) ∨
        s'.2 = s.2 ∧ response = .error ()
  | c, s, response, s' => commandHandler host commandIdText c s.1 response s'.1 ∧ s'.2 = s.2

def publicationRules (host : CommandHost) (storeHost : StoreHost) (commandIdText : CommandId → String) :
    Rules CommandCall CommandCall.Response PublishedStore Unit where
  handler := publicationHandler storeHost commandIdText
  main := fun _ => False
  client := CommandRequested host
  mainAllowed := fun _ _ => True
  clientAllowed := fun _ _ => True

abbrev Outcome := Option CommandState × CommandState × ℕ

def CommandAuditRecord.outcome (audit : CommandAuditRecord) : Outcome :=
  (audit.fromState, audit.toState, audit.sequence)

def CommandTransitionedEvent.outcome (event : CommandTransitionedEvent) : Outcome :=
  (event.fromState, event.toState, event.sequence)

def loggedOf (log : List CommandTransitionedEvent) (id : CommandId) : List CommandTransitionedEvent :=
  log.filter (fun event => event.commandId == id)

def Published (s : PublishedStore) (id : CommandId) : Prop :=
  (loggedOf s.2 id).map CommandTransitionedEvent.outcome =
    (s.1.auditOf id).map CommandAuditRecord.outcome

instance (s : PublishedStore) (id : CommandId) : Decidable (Published s id) :=
  inferInstanceAs (Decidable (_ = _))

/-- The events of every command are exactly its audit records, in increasing sequence. -/
structure PublishedLosslessly (s : PublishedStore) : Prop where
  exact : ∀ id, Published s id
  increasing : ∀ id, ((loggedOf s.2 id).map CommandTransitionedEvent.sequence).Pairwise (· < ·)

def committed : (c : CommandCall) → c.Response → Option CommandAuditRecord
  | .createCommand _ _ audit, .ok (.created _) => some audit
  | .transitionCommand _ _ audit, .ok () => some audit
  | .replaceMatterDesiredSlot _ superseded, .ok () => superseded.map MatterSupersededCommand.audit
  | .replaceMatterDesiredState write, .ok () => write.superseded.map MatterSupersededCommand.audit
  | .recordMatterDispatch write, .ok () => some write.audit
  | .authorizeAndRecordUnlockDispatch _ write, .ok .consumed => some write.audit
  | _, _ => none

namespace CommandStore
variable {store store' : CommandStore}
variable {superseded : Option MatterSupersededCommand} {slot current : MatterDesiredCommandSlot}
  {write : MatterDispatchWrite}

inductive Supersedes (store store' : CommandStore) : Option MatterSupersededCommand → Prop
  | kept (hc : store'.commands = store.commands) (ha : store'.audit = store.audit) :
      Supersedes store store' none
  | moved (replacement : MatterSupersededCommand) (current : StoredCommand)
      (h : Moved store store' current ⟨replacement.command, current.requestHash⟩ replacement.audit) :
      Supersedes store store' (some replacement)

theorem Supersedes.congr {other : CommandStore} (h : Supersedes store store' superseded)
    (hc : other.commands = store'.commands) (ha : other.audit = store'.audit) :
    Supersedes store other superseded := by
  cases h with
  | kept hc' ha' => exact .kept (hc.trans hc') (ha.trans ha')
  | moved replacement current h =>
    exact .moved replacement current ⟨h.found, h.requestHash, h.move, h.bounded, hc.trans h.commands,
      by rw [ha, h.audit]⟩

theorem Closed.supersedes {closed : CommandStore} (h : Closed store closed slot current superseded) :
    Supersedes store closed superseded := by
  cases h with
  | dispatched _ hstore => exact .kept (by rw [hstore]) (by rw [hstore])
  | cancelled _ _ _ hmoved => exact .moved _ _ hmoved

theorem SlotTaken.supersedes (h : SlotTaken store store' slot superseded) :
    Supersedes store store' superseded := by
  cases h with
  | first _ hstore | again _ _ _ hstore => exact .kept (by rw [hstore]) (by rw [hstore])
  | replaced _ _ _ hclosed hstore => exact hclosed.supersedes.congr (by rw [hstore]) (by rw [hstore])

theorem Registered.supersedes {write : MatterDesiredStateWrite} (h : Registered store store' write) :
    Supersedes store store' write.superseded := by
  obtain ⟨replaced, htaken, hstore⟩ := h.taken
  exact htaken.supersedes.congr (by rw [hstore]) (by rw [hstore])

inductive Appends (c : CommandCall) (store store' : CommandStore) : Option CommandAuditRecord → Prop
  | kept (hc : store'.commands = store.commands) (ha : store'.audit = store.audit) :
      Appends c store store' none
  | created (command : CommandAggregate) (requestHash : CanonicalRequestHash)
      (audit : CommandAuditRecord) (hcall : c = .createCommand command requestHash audit)
      (h : Created store store' ⟨command, requestHash⟩ audit) : Appends c store store' (some audit)
  | moved (current next : StoredCommand) (audit : CommandAuditRecord)
      (h : Moved store store' current next audit) : Appends c store store' (some audit)

theorem Appends.audit {c : CommandCall} {audit : Option CommandAuditRecord}
    (h : Appends c store store' audit) : store'.audit.rows = store.audit.rows ++ audit.toList := by
  cases h with
  | kept hc ha => rw [ha, Option.toList_none, List.append_nil]
  | created command requestHash audit hcall h | moved current next audit h => exact h.audit

theorem Supersedes.appends (h : Supersedes store store' superseded) (c : CommandCall) :
    Appends c store store' (superseded.map MatterSupersededCommand.audit) := by
  cases h with
  | kept hc ha => exact .kept hc ha
  | moved replacement current h => exact .moved current _ _ h

/-- A call appends at most the audit record it commits. -/
theorem commandHandler_appends {host : StoreHost} {commandIdText : CommandId → String} {c : CommandCall}
    {r : c.Response} (h : commandHandler host commandIdText c store r store') :
    Appends c store store' (committed c r) := by
  have hsame : store' = store → committed c r = none → Appends c store store' (committed c r) := by
    rintro rfl hnone
    rw [hnone]
    exact .kept rfl rfl
  have hkept : store'.commands = store.commands ∧ store'.audit = store.audit →
      committed c r = none → Appends c store store' (committed c r) := by
    rintro ⟨hc, ha⟩ hnone
    rw [hnone]
    exact .kept hc ha
  cases c with
  | now | newId | tryAcquire | dispatch | confirm | publish => exact hsame h rfl
  | loadFoundation | actorSecurity | command | commandRequestHash | recoverableCommands
  | matterProjectionForTarget | matterDesiredSlot => exact hsame h.1 rfl
  | foundationWrite | matterWrite =>
    rcases h with h | h
    · exact hsame h rfl
    · exact hkept (by rw [h.only]; exact ⟨rfl, rfl⟩) rfl
  | storeActor actor =>
    rcases stores_ok h with ⟨_, hok⟩ | ⟨_, heq⟩
    · exact hkept (by rw [storeActor_ok hok]; exact ⟨rfl, rfl⟩) rfl
    · exact hsame heq rfl
  | replaceActorGrants actorId grants =>
    rcases stores_ok h with ⟨_, hok⟩ | ⟨_, heq⟩
    · exact hkept (by rw [replaceActorGrants_ok hok]; exact ⟨rfl, rfl⟩) rfl
    · exact hsame heq rfl
  | createCommand command requestHash audit =>
    rcases h with ⟨outcome, rfl, hok⟩ | ⟨⟨error, rfl⟩, heq⟩
    · rcases createCommand_ok hok with ⟨existing, _, heq, rfl⟩ | ⟨rfl, hcreated, _⟩
      · refine hsame heq ?_
        split <;> rfl
      · exact .created command requestHash audit rfl hcreated
    · exact hsame heq rfl
  | transitionCommand command expectedVersion audit =>
    rcases stores_ok h with ⟨rfl, hok⟩ | ⟨⟨error, rfl⟩, heq⟩
    · obtain ⟨current, _, hmoved, _⟩ := transitionCommand_ok hok
      exact .moved current _ audit hmoved
    · exact hsame heq rfl
  | replaceMatterDesiredSlot slot superseded =>
    rcases stores_ok h with ⟨rfl, hok⟩ | ⟨⟨error, rfl⟩, heq⟩
    · exact (replaceDesiredSlot_cases hok).2.supersedes.appends _
    · exact hsame heq rfl
  | replaceMatterDesiredState write =>
    rcases stores_ok h with ⟨rfl, hok⟩ | ⟨⟨error, rfl⟩, heq⟩
    · exact (replaceMatterDesiredState_cases hok).supersedes.appends _
    · exact hsame heq rfl
  | recordMatterDispatch write =>
    rcases stores_ok h with ⟨rfl, hok⟩ | ⟨⟨error, rfl⟩, heq⟩
    · obtain ⟨_, current, hdispatches, _⟩ := recordDispatch_cases hok
      exact .moved current _ write.audit hdispatches.moved
    · exact hsame heq rfl
  | createUnlockAuthorization authorization =>
    rcases stores_ok h with ⟨_, hok⟩ | ⟨_, heq⟩
    · exact hkept (by rw [createAuthorization_ok hok]; exact ⟨rfl, rfl⟩) rfl
    · exact hsame heq rfl
  | consumeUnlockAuthorization id commandId projectionId consumedAt =>
    rcases h with ⟨outcome, _, hok⟩ | ⟨_, heq⟩
    · have heq := consumeAuthorization_eq store id commandId projectionId consumedAt
      rw [Except.ok.injEq] at hok
      rw [hok] at heq
      exact hkept (by rw [show store' = _ from heq]; exact ⟨rfl, rfl⟩) rfl
    · exact hsame heq rfl
  | authorizeAndRecordUnlockDispatch id write =>
    rcases h with ⟨outcome, rfl, hok⟩ | ⟨⟨error, rfl⟩, heq⟩
    · rcases authorizeAndRecordUnlockDispatch_cases hok with ⟨hother, heq⟩ | ⟨rfl, _, current, _, hconsumes⟩
      · cases outcome with
        | consumed => exact absurd rfl hother
        | notFound | alreadyConsumed | expired | bindingMismatch => exact hsame heq rfl
      · obtain ⟨_, hdispatches⟩ := hconsumes.dispatches
        exact .moved current _ write.audit hdispatches.moved
    · exact hsame heq rfl

end CommandStore

/-- The record a program has committed and not yet published. It commits another one
only when it owes none, and publishes only what it owes. -/
def publicationDiscipline : Discipline CommandCall CommandCall.Response (Option CommandAuditRecord) where
  valid := fun _ _ => True
  allows := fun owed c => match c with
    | .publish audit => owed = some audit
    | .createCommand _ _ _ | .transitionCommand _ _ _ | .replaceMatterDesiredSlot _ _
    | .replaceMatterDesiredState _ | .recordMatterDispatch _
    | .authorizeAndRecordUnlockDispatch _ _ => owed = none
    | _ => True
  move := fun owed c r => match c, r with
    | .publish _, _ => none
    | c, r => (committed c r).or owed

open Fallible

section Walk
variable {ε ε' α β : Type} {owed : Option CommandAuditRecord}
variable {u : α → Option CommandAuditRecord}

abbrev Leaves (p : CommandPathM ε α) (u : α → Option CommandAuditRecord)
    (owed : Option CommandAuditRecord) : Prop :=
  p.run.Obeys publicationDiscipline (fun result owed' => match result with
    | .ok a => owed' = u a
    | .error _ => owed' = none) owed

abbrev Settled (p : CommandPathM ε α) : Prop := Leaves p (fun _ => none) none

theorem leaves_pure {a : α} (h : owed = u a) :
    Leaves (pure a : CommandPathM ε α) u owed := h

theorem leaves_throw (error : ε) :
    Leaves (throw error : CommandPathM ε α) u none := rfl

theorem leaves_bind {x : CommandPathM ε α} {f : α → CommandPathM ε β} {v : β → Option CommandAuditRecord}
    (hx : Leaves x u owed) (hf : ∀ a, Leaves (f a) v (u a)) : Leaves (x >>= f) v owed := by
  apply obeys_bind_any
  apply Program.Obeys.mono hx
  intro result owed' howed
  cases result with
  | error error => exact howed
  | ok a =>
    rw [howed]
    exact hf a

theorem leaves_calling {wrap : ε → ε'} {p : Program CommandCall CommandCall.Response (Except ε α)}
    (h : p.Obeys publicationDiscipline (fun result owed' => match result with
      | .ok a => owed' = u a
      | .error _ => owed' = none) owed) :
    Leaves (calling wrap p) u owed := by
  apply Program.Obeys.bind
  apply h.mono
  intro result owed' howed
  cases result <;> exact howed

theorem settled_freshId : Settled (freshId : CommandPathM ε ℕ) := ⟨trivial, fun _ _ => rfl⟩

theorem settled_readClock : Settled readClock := ⟨trivial, fun _ _ => rfl⟩

theorem leaves_publish (audit : CommandAuditRecord) :
    Leaves (publish audit) (fun _ => none) (some audit) := by
  apply leaves_calling
  refine ⟨rfl, ?_⟩
  intro response _
  cases response <;> rfl

theorem settled_transition (command : CommandAggregate) (next : CommandState) (now : Instant) :
    Settled (transition command next now) := by
  unfold transition
  split
  · exact leaves_throw _
  · rename_i moved _
    apply leaves_bind settled_freshId
    intro auditId
    let audit := commandAudit auditId moved (some command.state)
    have hcommit : Leaves (stored (invoke (.transitionCommand moved command.version audit)))
        (fun _ => some audit) none := by
      apply leaves_calling
      refine ⟨rfl, ?_⟩
      intro response _
      cases response <;> rfl
    apply leaves_bind hcommit
    intro _
    apply leaves_bind (leaves_publish audit)
    exact fun _ => leaves_pure rfl

theorem settled_reject (command : CommandAggregate) (code : CommandErrorCode) (now : Instant)
    (policy : Option PolicyDecision) : Settled (reject command code now policy) :=
  settled_transition _ _ now

theorem settled_timeout (command : CommandAggregate) (now : Instant) : Settled (timeout command now) :=
  settled_transition _ _ now

theorem settled_confirm (command : CommandAggregate) (now : Instant) : Settled (confirm command now) := by
  unfold confirm
  have hask : Settled (calling (fun _ => CommandServiceError.confirmation) (invoke (.confirm command))) := by
    apply leaves_calling
    refine ⟨trivial, ?_⟩
    intro response _
    cases response <;> rfl
  apply leaves_bind hask
  intro outcome
  cases outcome with
  | confirmed confirmation | failed failure => exact settled_transition _ _ now
  | pending =>
    show Settled (if command.envelope.deadline ≤ now then timeout command now else pure command)
    split
    · exact settled_timeout command now
    · exact leaves_pure rfl

theorem settled_dispatchCommitted (command : CommandAggregate) : Settled (dispatchCommitted command) := by
  unfold dispatchCommitted
  have hsend : Settled (asking (.dispatch command.envelope) : CommandM _) := ⟨trivial, fun _ _ => rfl⟩
  apply leaves_bind hsend
  intro outcome
  cases outcome with
  | error failure => exact leaves_bind settled_readClock (fun now => settled_transition _ _ now)
  | ok acknowledgement =>
    apply leaves_bind settled_readClock
    intro afterDispatch
    dsimp only
    split
    · exact settled_timeout _ afterDispatch
    · apply leaves_bind (settled_transition _ _ afterDispatch)
      intro moved
      exact leaves_bind settled_readClock (fun now => settled_confirm moved now)

end Walk

namespace MatterCommandDispatchControl

theorem settled_projectionFor (command : CommandAggregate) : Settled (projectionFor command) := by
  unfold projectionFor
  split
  · apply leaves_calling
    refine ⟨trivial, ?_⟩
    intro response _
    cases response <;> rfl
  · exact leaves_pure rfl

theorem settled_matterDesiredSlot (projectionId : MatterProjectionId) :
    Settled (controlled (invoke (.matterDesiredSlot projectionId))) := by
  apply leaves_calling
  refine ⟨trivial, ?_⟩
  intro response _
  cases response <;> rfl

theorem settled_command (id : CommandId) : Settled (controlled (invoke (.command id))) := by
  apply leaves_calling
  refine ⟨trivial, ?_⟩
  intro response _
  cases response <;> rfl

theorem settled_supersededBy (current : Option MatterDesiredCommandSlot) (now : Instant) :
    Settled (supersededBy current now) := by
  unfold supersededBy
  split
  · exact leaves_pure rfl
  · split
    · exact leaves_pure rfl
    · apply leaves_bind (settled_command _)
      intro found
      cases found with
      | none => exact leaves_throw _
      | some prior =>
        dsimp only
        split
        · exact leaves_throw _
        · exact leaves_bind settled_freshId (fun _ => leaves_pure rfl)

def supersededAudit : DesiredStateRegistration → Option CommandAuditRecord
  | .managed _ _ audit => audit
  | .unmanaged => none

theorem leaves_replaceDesired (command : CommandAggregate) (now : Instant)
    (projection : StoredMatterProjection) (current : Option MatterDesiredCommandSlot) :
    Leaves (replaceDesired command now projection current) supersededAudit none := by
  unfold replaceDesired
  split
  · exact leaves_throw _
  · rename_i write _
    apply leaves_bind (settled_supersededBy current now)
    intro superseded
    have hcommit : Leaves (controlled
        (invoke (.replaceMatterDesiredState { write with superseded := superseded })))
        (fun _ => superseded.map MatterSupersededCommand.audit) none := by
      apply leaves_calling
      refine ⟨rfl, ?_⟩
      intro response _
      cases response with
      | error error => rfl
      | ok value => exact Option.or_none
    apply leaves_bind hcommit
    exact fun _ => leaves_pure rfl

theorem leaves_registerOnce (command : CommandAggregate) (now : Instant) :
    Leaves (registerOnce command now) supersededAudit none := by
  unfold registerOnce
  apply leaves_bind (settled_projectionFor command)
  intro found
  cases found with
  | none => exact leaves_pure rfl
  | some projection =>
    apply leaves_bind (settled_matterDesiredSlot _)
    intro current
    split
    · exact leaves_pure rfl
    · exact leaves_replaceDesired command now projection current

theorem leaves_registerDesired (command : CommandAggregate) (now : Instant) (attempts : ℕ) :
    ∀ last, Leaves (registerDesired command now attempts last) supersededAudit none := by
  induction attempts with
  | zero => exact fun last => leaves_throw last
  | succ attempts ih =>
    intro last
    apply Program.Obeys.bind
    apply Program.Obeys.mono (leaves_registerOnce command now)
    intro result owed howed
    cases result with
    | ok registration => exact howed
    | error error =>
      rw [howed]
      exact ih error

def admittedAudit : MatterDispatchAdmission → Option CommandAuditRecord
  | .committed _ audit => some audit
  | _ => none

theorem settled_dispatchWrite (command : CommandAggregate) (now : Instant)
    (projectionId : MatterProjectionId) : Settled (dispatchWrite command now projectionId) := by
  unfold dispatchWrite
  split
  · exact leaves_throw _
  · exact leaves_bind settled_freshId (fun _ => leaves_pure rfl)

theorem leaves_superseded (command : CommandAggregate) :
    Leaves (superseded command) admittedAudit none := by
  unfold superseded
  apply leaves_bind (settled_command _)
  intro found
  cases found with
  | none => exact leaves_throw _
  | some durable => exact leaves_pure rfl

theorem leaves_commitDispatch (command : CommandAggregate) (now : Instant) :
    Leaves (commitDispatch command now) admittedAudit none := by
  unfold commitDispatch
  apply leaves_bind (settled_projectionFor command)
  intro found
  cases found with
  | none => exact leaves_pure rfl
  | some projection =>
    apply leaves_bind (settled_matterDesiredSlot _)
    intro slot
    cases slot with
    | none => exact leaves_throw _
    | some slot =>
      dsimp only
      split
      · exact leaves_superseded command
      · split
        · exact leaves_pure rfl
        · apply leaves_bind (settled_dispatchWrite command now _)
          intro write
          have hcommit : Leaves (controlled (invoke (.recordMatterDispatch write)))
              (fun _ => some write.audit) none := by
            apply leaves_calling
            refine ⟨rfl, ?_⟩
            intro response _
            cases response <;> rfl
          apply leaves_bind hcommit
          exact fun _ => leaves_pure rfl

theorem leaves_useAuthorization (approver : Actor) (command : CommandAggregate)
    (approval : PolicyDecision) (now : Instant) (projection : StoredMatterProjection)
    (slot : MatterDesiredCommandSlot) (requestHash : CanonicalRequestHash) :
    Leaves (useAuthorization approver command approval now projection slot requestHash)
      admittedAudit none := by
  unfold useAuthorization
  dsimp only
  split
  · exact leaves_throw _
  · apply leaves_bind settled_freshId
    intro id
    have hissue : Settled (controlled (invoke (.createUnlockAuthorization (unlockAuthorization id approver
        command approval now (min (now + nanosPerMinute) command.envelope.deadline) projection slot
        requestHash)))) := by
      apply leaves_calling
      refine ⟨trivial, ?_⟩
      intro response _
      cases response <;> rfl
    apply leaves_bind hissue
    intro _
    apply leaves_bind (settled_dispatchWrite command now _)
    intro write
    have hcommit : Leaves (controlled (invoke (.authorizeAndRecordUnlockDispatch id write)))
        (fun outcome => if outcome = .consumed then some write.audit else none) none := by
      apply leaves_calling
      refine ⟨rfl, ?_⟩
      intro response _
      rcases response with _ | outcome
      · rfl
      · cases outcome <;> rfl
    apply leaves_bind hcommit
    intro outcome
    cases outcome with
    | consumed => exact leaves_pure rfl
    | notFound | alreadyConsumed | expired | bindingMismatch => exact leaves_throw _

theorem leaves_authorizeUnlock (approver : Actor) (command : CommandAggregate)
    (approval : PolicyDecision) (now : Instant) :
    Leaves (authorizeUnlock approver command approval now) admittedAudit none := by
  unfold authorizeUnlock
  split
  · exact leaves_throw _
  · apply leaves_bind (settled_projectionFor command)
    intro found
    cases found with
    | none => exact leaves_throw _
    | some projection =>
      apply leaves_bind (settled_matterDesiredSlot _)
      intro slot
      cases slot with
      | none => exact leaves_throw _
      | some slot =>
        dsimp only
        split
        · exact leaves_superseded command
        · have hread : Settled (controlled (invoke (.commandRequestHash command.envelope.id))) := by
            apply leaves_calling
            refine ⟨trivial, ?_⟩
            intro response _
            cases response <;> rfl
          apply leaves_bind hread
          intro hash
          cases hash with
          | none => exact leaves_throw _
          | some requestHash =>
            exact leaves_useAuthorization approver command approval now projection slot requestHash

end MatterCommandDispatchControl

open MatterCommandDispatchControl

theorem settled_publishSuperseded (registration : DesiredStateRegistration) :
    Leaves (publishSuperseded registration) (fun _ => none) (supersededAudit registration) := by
  rcases registration with _ | ⟨projectionId, revision, _ | audit⟩
  · exact leaves_pure rfl
  · exact leaves_pure rfl
  · exact leaves_publish audit

theorem settled_dispatchControlled (command : CommandAggregate) (now : Instant) :
    Settled (dispatchControlled command now) := by
  unfold dispatchControlled
  have hregister : Leaves (viaControl (registerDesired command now desiredRegistrationAttempts
      (.control .registrationFailed))) supersededAudit none :=
    leaves_calling (leaves_registerDesired command now _ _)
  apply leaves_bind hregister
  intro registration
  apply leaves_bind (settled_publishSuperseded registration)
  intro _
  have hcommit : Leaves (viaControl (commitDispatch command now)) admittedAudit none :=
    leaves_calling (leaves_commitDispatch command now)
  apply leaves_bind hcommit
  intro admission
  cases admission with
  | unmanaged =>
    exact leaves_bind (settled_transition _ _ now) (fun moved => settled_dispatchCommitted moved)
  | committed dispatched audit =>
    exact leaves_bind (leaves_publish audit) (fun _ => settled_dispatchCommitted dispatched)
  | superseded durable | awaitingUnlockAuthorization => exact leaves_pure rfl

theorem settled_dispatch (host : CommandHost) (command : CommandAggregate) (now : Instant) :
    Settled (dispatch host command now) := by
  unfold dispatch
  split
  · exact settled_timeout command now
  · split
    · exact settled_dispatchControlled command now
    · exact leaves_bind (settled_transition _ _ now) (fun moved => settled_dispatchCommitted moved)

theorem settled_actorSecurity (actorId : ActorId) : Settled (stored (invoke (.actorSecurity actorId))) := by
  apply leaves_calling
  refine ⟨trivial, ?_⟩
  intro response _
  cases response <;> rfl

theorem settled_loadFoundation : Settled (stored (invoke .loadFoundation)) := by
  apply leaves_calling
  refine ⟨trivial, ?_⟩
  intro response _
  cases response <;> rfl

theorem settled_loadCommand (id : CommandId) : Settled (stored (invoke (.command id))) := by
  apply leaves_calling
  refine ⟨trivial, ?_⟩
  intro response _
  cases response <;> rfl

theorem settled_admitReceived (host : CommandHost) (command : CommandAggregate)
    (security : ActorSecurity) (device : DeviceRecord) (now : Instant) :
    Settled (admitReceived host command security device now) := by
  unfold admitReceived
  have hlimit : Settled (asking (.tryAcquire security.actor.id command.envelope.deviceId now) :
      CommandM _) := ⟨trivial, fun _ _ => rfl⟩
  apply leaves_bind hlimit
  intro capacities
  dsimp only
  split
  · exact settled_reject _ _ now _
  · apply leaves_bind (settled_transition _ _ now)
    intro moved
    split
    · exact leaves_pure rfl
    · exact settled_dispatch host moved now

theorem settled_continueReceived (host : CommandHost) (command : CommandAggregate) (actorId : ActorId)
    (device : DeviceRecord) (now : Instant) :
    Settled (continueReceived host command actorId device now) := by
  unfold continueReceived
  split
  · exact settled_reject _ _ now _
  · apply leaves_bind (settled_actorSecurity actorId)
    intro found
    cases found with
    | none => exact leaves_throw _
    | some security => exact settled_admitReceived host command security device now

def createdReceipt (receipt : CommandAuditRecord) : CommandCreateOutcome → Option CommandAuditRecord
  | .created _ => some receipt
  | _ => none

theorem settled_execute (host : CommandHost) (actor : Actor) (request : CommandRequest) (now : Instant) :
    Settled (execute host actor request now) := by
  unfold execute
  apply leaves_bind settled_loadFoundation
  intro devices
  dsimp only
  split
  · exact leaves_throw _
  · rename_i device _
    apply leaves_bind settled_freshId
    intro id
    apply leaves_bind settled_freshId
    intro auditId
    let command := CommandAggregate.received (requestEnvelope host actor.id request device now id)
    let receipt := commandAudit auditId command none
    have hcommit : Leaves (stored (invoke (.createCommand command
        (host.canonicalHash (canonicalRequest actor.id request)) receipt)))
        (createdReceipt receipt) none := by
      apply leaves_calling
      refine ⟨rfl, ?_⟩
      intro response _
      rcases response with _ | outcome
      · rfl
      · cases outcome <;> rfl
    apply leaves_bind hcommit
    intro outcome
    cases outcome with
    | existingEquivalent existing => exact leaves_pure rfl
    | conflict existing => exact leaves_throw _
    | created stored =>
      apply leaves_bind (leaves_publish receipt)
      exact fun _ => settled_continueReceived host command actor.id device now

theorem settled_cancel (actorId : ActorId) (commandId : CommandId) (now : Instant) :
    Settled (cancel actorId commandId now) := by
  unfold cancel get
  have hget : Settled (do
      match ← stored (invoke (.command commandId)) with
      | none => pure none
      | some command =>
        if command.envelope.actorId ≠ actorId then throw .actorMismatch else pure (some command) :
      CommandM (Option CommandAggregate)) := by
    apply leaves_bind (settled_loadCommand commandId)
    intro found
    cases found with
    | none => exact leaves_pure rfl
    | some command =>
      dsimp only
      split
      · exact leaves_throw _
      · exact leaves_pure rfl
  apply leaves_bind hget
  intro found
  cases found with
  | none => exact leaves_throw _
  | some command =>
    dsimp only
    split
    · exact leaves_throw _
    · exact settled_transition _ _ now

theorem settled_recoveryContext (command : CommandAggregate) : Settled (recoveryContext command) := by
  unfold recoveryContext
  apply leaves_bind settled_loadFoundation
  intro devices
  split
  · exact leaves_throw _
  · apply leaves_bind (settled_actorSecurity _)
    intro found
    cases found with
    | none => exact leaves_throw _
    | some security => exact leaves_pure rfl

theorem settled_recoverValidated (host : CommandHost) (command : CommandAggregate)
    (device : DeviceRecord) (security : ActorSecurity) (now : Instant) :
    Settled (recoverValidated host command device security now) := by
  unfold recoverValidated
  have hlimit : Settled (asking (.tryAcquire command.envelope.actorId command.envelope.deviceId now) :
      CommandM _) := ⟨trivial, fun _ _ => rfl⟩
  apply leaves_bind hlimit
  intro capacities
  dsimp only
  split
  · exact settled_dispatch host command now
  · exact settled_reject _ _ now _

theorem settled_discard {α : Type} {p : CommandM α} (h : Settled p) :
    Settled (p >>= fun _ => pure ()) := leaves_bind h (fun _ => leaves_pure rfl)

theorem settled_recoverOne (host : CommandHost) (command : CommandAggregate) (now : Instant) :
    Settled (recoverOne host command now) := by
  unfold recoverOne
  split
  · split
    · exact settled_discard (settled_timeout command now)
    · apply leaves_bind (settled_recoveryContext command)
      exact fun context => settled_discard (settled_continueReceived host command _ _ now)
  · split
    · exact settled_discard (settled_timeout command now)
    · apply leaves_bind (settled_recoveryContext command)
      exact fun context => settled_discard (settled_recoverValidated host command _ _ now)
  · exact settled_discard (settled_confirm command now)
  · exact settled_discard (settled_confirm command now)
  · exact leaves_pure rfl

theorem settled_recoverAll (host : CommandHost) (now : Instant) (commands : List CommandAggregate) :
    Settled (recoverAll host now commands) := by
  induction commands with
  | nil => exact leaves_pure rfl
  | cons command rest ih => exact leaves_bind (settled_recoverOne host command now) (fun _ => ih)

theorem settled_recoverCommands (host : CommandHost) (now : Instant) :
    Settled (recoverCommands host now) := by
  unfold recoverCommands
  have hload : Settled (stored (invoke (.recoverableCommands commandRecoveryPage))) := by
    apply leaves_calling
    refine ⟨trivial, ?_⟩
    intro response _
    cases response <;> rfl
  apply leaves_bind hload
  intro commands
  exact leaves_bind (settled_recoverAll host now commands) (fun _ => leaves_pure rfl)

theorem settled_approveUnlock (host : CommandHost) (approver : Actor) (commandId : CommandId)
    (now : Instant) : Settled (approveUnlock host approver commandId now) := by
  unfold approveUnlock
  apply leaves_bind (settled_loadCommand commandId)
  intro found
  cases found with
  | none => exact leaves_throw _
  | some command =>
    dsimp only
    split
    · exact leaves_throw _
    · apply leaves_bind (settled_actorSecurity _)
      intro found
      cases found with
      | none => exact leaves_throw _
      | some security =>
        apply leaves_bind settled_loadFoundation
        intro devices
        split
        · exact leaves_throw _
        · split
          · exact leaves_throw _
          · split
            · exact leaves_throw _
            · apply leaves_bind (leaves_calling (leaves_authorizeUnlock security.actor command _ now))
              intro admission
              cases admission with
              | committed dispatched audit =>
                exact leaves_bind (leaves_publish audit) (fun _ => settled_dispatchCommitted dispatched)
              | superseded durable => exact leaves_pure rfl
              | unmanaged | awaitingUnlockAuthorization => exact leaves_throw _

theorem CommandRequested.settles {host : CommandHost}
    {p : Program CommandCall CommandCall.Response Unit} (h : CommandRequested host p) :
    p.Obeys publicationDiscipline (fun _ owed => owed = none) none := by
  have hdropped : ∀ {α : Type} {p : CommandM α}, Settled p →
      (asRequest p.run).Obeys publicationDiscipline (fun _ owed => owed = none) none := by
    intro α p hp
    apply Program.Obeys.bind
    apply Program.Obeys.mono hp
    intro result owed howed
    cases result <;> exact howed
  cases h with
  | execute actor request now => exact hdropped (settled_execute host actor request now)
  | cancel actorId commandId now => exact hdropped (settled_cancel actorId commandId now)
  | recover now => exact hdropped (settled_recoverCommands host now)
  | approveUnlock approver commandId now =>
    exact hdropped (settled_approveUnlock host approver commandId now)
  | foundationWrite | matterWrite | storeActor | replaceActorGrants =>
    exact ⟨trivial, fun _ _ => rfl⟩

end HomeMagic
