import HomeMagic.CommandPublication
import HomeMagic.Sequential

/-! Command recovery that is not disturbed: nothing else runs, every port answers and
the dispatch control can register what it is given. Then no command of a recovery page
fails, and every one of them whose deadline has passed is finished. -/
namespace HomeMagic

variable {command : CommandAggregate} {projection : StoredMatterProjection} {α ε : Type}

namespace CommandStore

def nextRevision (store : CommandStore) (projectionId : MatterProjectionId) : ℕ :=
  (store.slots.find projectionId).elim 1 (fun slot => slot.desiredRevision + 1)

/-- Another command can be registered with a projection: its revisions have not run out,
and the command of a slot that is still open can be cancelled. -/
def Registrable (store : CommandStore) (projectionId : MatterProjectionId) : Prop :=
  store.nextRevision projectionId < 2^64 ∧
  (∀ projection ∈ store.projections.find projectionId, projection.revision + 1 < 2^64 ∧
    ∀ confirmed ∈ projection.state.confirmedRevision, confirmed ≤ store.nextRevision projectionId) ∧
  ∀ slot ∈ store.slots.find projectionId, slot.dispatchedAt = none →
    (store.loadCommand slot.commandId).any (fun prior =>
      prior.state.allowsTransitionTo .cancelled) = true

instance (store : CommandStore) (projectionId : MatterProjectionId) :
    Decidable (store.Registrable projectionId) := inferInstanceAs (Decidable (_ ∧ _ ∧ _))

def Answered (store : CommandStore) : (c : CommandCall) → c.Response → Prop
  | .now, _ | .newId, _ | .tryAcquire _ _ _, _ | .dispatch _, _ => True
  | .matterDesiredSlot projectionId, response => response.isOk = true ∧ store.Registrable projectionId
  | .loadFoundation, response | .foundationWrite, response | .actorSecurity _, response
  | .storeActor _, response | .replaceActorGrants _ _, response | .createCommand _ _ _, response
  | .command _, response | .commandRequestHash _, response | .transitionCommand _ _ _, response
  | .recoverableCommands _, response | .matterProjectionForTarget _ _ _, response
  | .matterWrite, response | .replaceMatterDesiredSlot _ _, response
  | .replaceMatterDesiredState _, response | .recordMatterDispatch _, response
  | .createUnlockAuthorization _, response | .consumeUnlockAuthorization _ _ _ _, response
  | .authorizeAndRecordUnlockDispatch _ _, response | .confirm _, response
  | .publish _, response => response.isOk = true

instance (store : CommandStore) (c : CommandCall) (r : c.Response) : Decidable (Answered store c r) := by
  cases c <;> unfold Answered <;> infer_instance

end CommandStore

open CommandStore Fallible

def undisturbed (host : StoreHost) (commandIdText : CommandId → String) :
    Handler CommandCall CommandCall.Response CommandStore :=
  fun c store response store' =>
    commandHandler host commandIdText c store response store' ∧ CommandStore.Answered store c response

section Walk
variable {storeHost : StoreHost} {commandIdText : CommandId → String} {s : CommandStore}

abbrev Recovers {ε α : Type} (storeHost : StoreHost) (commandIdText : CommandId → String)
    (p : CommandPathM ε α) (Q : α → CommandStore → Prop) (s : CommandStore) : Prop :=
  Succeeds (undisturbed storeHost commandIdText) p Q s

def Closed (store : CommandStore) (id : CommandId) : Prop :=
  ∃ row ∈ store.commands.rows, row.command.envelope.id = id ∧ row.command.state.isTerminal = true

theorem exists_of_isOk {result : Except ε α} (h : result.isOk = true) :
    ∃ a, result = .ok a := by
  cases result with
  | ok a => exact ⟨a, rfl⟩
  | error error => cases h

theorem recovers_calling {ε' : Type} {wrap : ε → ε'} {p : Program CommandCall CommandCall.Response (Except ε α)}
    {Q : α → CommandStore → Prop} (h : p.Ensures (undisturbed storeHost commandIdText)
      (fun result s' => ∃ a, result = .ok a ∧ Q a s') s) :
    Recovers storeHost commandIdText (calling wrap p) Q s := by
  apply Program.Ensures.bind
  apply h.mono
  rintro result s' ⟨a, rfl, ha⟩
  exact ⟨a, rfl, ha⟩

theorem recovers_freshId :
    Recovers storeHost commandIdText (freshId : CommandPathM ε ℕ) (fun _ s' => s' = s) s := by
  intro response s' hh
  exact ⟨response, rfl, hh.1⟩

theorem recovers_readClock : Recovers storeHost commandIdText readClock (fun _ s' => s' = s) s := by
  intro response s' hh
  exact ⟨response, rfl, hh.1⟩

theorem recovers_publish (audit : CommandAuditRecord) :
    Recovers storeHost commandIdText (publish audit) (fun _ s' => s' = s) s := by
  apply recovers_calling
  intro response s' hh
  obtain ⟨value, rfl⟩ := exists_of_isOk hh.2
  exact ⟨value, rfl, hh.1⟩

theorem recovers_transition {command : CommandAggregate} {next : CommandState} (now : Instant)
    (hallowed : command.state.allowsTransitionTo next = true) :
    Recovers storeHost commandIdText (transition command next now) (fun moved s' =>
      moved.envelope = command.envelope ∧ moved.state = next ∧
        ∃ row ∈ s'.commands.rows, row.command = moved) s := by
  unfold transition CommandAggregate.transition
  rw [if_pos hallowed]
  apply succeeds_bind
  apply recovers_freshId.mono
  rintro auditId _ rfl
  apply succeeds_bind
  apply recovers_calling
  intro response s' hh
  obtain ⟨value, rfl⟩ := exists_of_isOk hh.2
  refine ⟨value, rfl, ?_⟩
  apply succeeds_bind
  apply (recovers_publish _).mono
  rintro _ _ rfl
  apply succeeds_pure
  refine ⟨rfl, rfl, ?_⟩
  rcases stores_ok hh.1 with ⟨_, hok⟩ | ⟨⟨error, hfailed⟩, _⟩
  · obtain ⟨current, _, hmoved, _⟩ := transitionCommand_ok hok
    rw [hmoved.commands]
    exact ⟨_, (Table.mem_replace hmoved.found).mpr (.inl rfl), rfl⟩
  · cases hfailed

theorem recovers_settle {command : CommandAggregate} {next : CommandState} (now : Instant)
    (hallowed : command.state.allowsTransitionTo next = true) (hterminal : next.isTerminal = true) :
    Recovers storeHost commandIdText (transition command next now)
      (fun _ s' => Closed s' command.envelope.id) s := by
  apply (recovers_transition now hallowed).mono
  rintro moved s' ⟨henvelope, hstate, row, hrow, rfl⟩
  exact ⟨row, hrow, congrArg CommandEnvelope.id henvelope, hstate ▸ hterminal⟩

theorem recovers_timeout {command : CommandAggregate} (now : Instant)
    (hallowed : command.state.allowsTransitionTo .timedOut = true) :
    Recovers storeHost commandIdText (timeout command now)
      (fun _ s' => Closed s' command.envelope.id) s :=
  @recovers_settle _ _ _ { command with failure := some ⟨.deadlineExceeded, none⟩ } _ now hallowed rfl

theorem recovers_reject {command : CommandAggregate} (code : CommandErrorCode) (now : Instant)
    (policy : Option PolicyDecision)
    (hallowed : command.state.allowsTransitionTo .rejected = true) :
    Recovers storeHost commandIdText (reject command code now policy)
      (fun _ s' => Closed s' command.envelope.id) s :=
  @recovers_settle _ _ _ { command with
    policy := policy.orElse (fun _ => command.policy), failure := some ⟨code, none⟩ } _ now hallowed rfl

def CommandState.isSent : CommandState → Bool
  | .dispatched | .acknowledged => true
  | _ => false

theorem CommandState.allows_of_isSent {state next : CommandState} (hsent : state.isSent = true)
    (hnext : next = .confirmed ∨ next = .failed ∨ next = .timedOut) :
    state.allowsTransitionTo next = true ∧ next.isTerminal = true := by
  cases state <;> first
    | exact absurd hsent (by decide)
    | (rcases hnext with rfl | rfl | rfl <;> exact ⟨rfl, rfl⟩)

theorem recovers_confirm {command : CommandAggregate} (now : Instant)
    (hsent : command.state.isSent = true) :
    Recovers storeHost commandIdText (confirm command now) (fun _ s' =>
      command.envelope.deadline ≤ now → Closed s' command.envelope.id) s := by
  obtain ⟨hconfirmed, hconfirmedEnds⟩ := CommandState.allows_of_isSent hsent (.inl rfl)
  obtain ⟨hfailed, hfailedEnds⟩ := CommandState.allows_of_isSent hsent (.inr (.inl rfl))
  obtain ⟨htimedOut, _⟩ := CommandState.allows_of_isSent hsent (.inr (.inr rfl))
  unfold confirm
  apply succeeds_bind
  apply recovers_calling
  intro response s' hh
  obtain ⟨outcome, rfl⟩ := exists_of_isOk hh.2
  refine ⟨outcome, rfl, ?_⟩
  cases outcome with
  | confirmed confirmation =>
    have hsettle := @recovers_settle storeHost commandIdText s'
      { command with confirmation := some confirmation } _ now hconfirmed hconfirmedEnds
    exact hsettle.mono (fun _ _ hclosed _ => hclosed)
  | failed failure =>
    have hsettle := @recovers_settle storeHost commandIdText s'
      { command with failure := some failure } _ now hfailed hfailedEnds
    exact hsettle.mono (fun _ _ hclosed _ => hclosed)
  | pending =>
    show Recovers storeHost commandIdText
      (if command.envelope.deadline ≤ now then timeout command now else pure command) _ s'
    split
    · exact (recovers_timeout now htimedOut).mono (fun _ _ hclosed _ => hclosed)
    · rename_i hlater
      exact succeeds_pure (fun hdue => absurd hdue hlater)

theorem recovers_dispatchCommitted {command : CommandAggregate}
    (hstate : command.state = .dispatched) :
    Recovers storeHost commandIdText (dispatchCommitted command) (fun _ _ => True) s := by
  unfold dispatchCommitted
  apply succeeds_bind
  intro response s' hh
  refine ⟨response, rfl, ?_⟩
  cases response with
  | error failure =>
    apply succeeds_bind
    apply recovers_readClock.mono
    rintro now _ rfl
    have hallowed : command.state.allowsTransitionTo .failed = true := by rw [hstate]; rfl
    exact (@recovers_transition _ _ _ { command with failure := some failure } _ now hallowed).mono
      (fun _ _ _ => trivial)
  | ok acknowledgement =>
    apply succeeds_bind
    apply recovers_readClock.mono
    rintro now _ rfl
    dsimp only
    split
    · have hallowed : command.state.allowsTransitionTo .timedOut = true := by rw [hstate]; rfl
      exact (@recovers_timeout _ _ _ { command with acknowledgement := some acknowledgement }
        now hallowed).mono (fun _ _ _ => trivial)
    · have hallowed : command.state.allowsTransitionTo .acknowledged = true := by rw [hstate]; rfl
      apply succeeds_bind
      apply (@recovers_transition _ _ _ { command with acknowledgement := some acknowledgement } _
        now hallowed).mono
      rintro moved s'' ⟨_, hmoved, _⟩
      apply succeeds_bind
      apply recovers_readClock.mono
      rintro later _ rfl
      have hsent : moved.state.isSent = true := by rw [hmoved]; rfl
      exact (recovers_confirm later hsent).mono (fun _ _ _ => trivial)

end Walk

theorem Table.find?_replace {κ : Type} {key : α → κ} [DecidableEq κ] {t : Table κ α key} {a old : α}
    (hf : t.find (key a) = some old) {p : α → Bool} (hp : p a = p old) :
    (t.replace a).rows.find? p = (t.rows.find? p).map (fun row => if key row = key a then a else row) := by
  obtain ⟨hold, hkey⟩ := find_eq_some.mp hf
  show (t.rows.map (fun row => if key row = key a then a else row)).find? p = _
  rw [List.find?_map]
  congr 1
  apply List.find?_congr
  intro row hrow
  show p (if key row = key a then a else row) = p row
  split
  · rename_i hsame
    rw [hp, eq_of_key hold hrow (hkey.trans hsame.symm)]
  · rfl

namespace CommandStore
variable {store store' : CommandStore}

theorem projectionForTarget_mem {deviceId : DeviceId} {endpointId : EndpointId} {schema : String}
    (h : store.projectionForTarget deviceId endpointId schema = some projection) :
    store.projections.find projection.projectionId = some projection :=
  Table.find_eq_some.mpr ⟨List.mem_of_find?_eq_some h, rfl⟩

theorem Registered.slot {write : MatterDesiredStateWrite} (h : Registered store store' write) :
    store'.slots.find write.slot.projectionId = some write.slot ∧
      store'.projections = store.projections.replace write.projection := by
  obtain ⟨replaced, htaken, hstore⟩ := h.taken
  have hfound := htaken.find_slot write.slot.projectionId
  rw [if_pos rfl] at hfound
  rw [hstore, ← htaken.projections]
  exact ⟨hfound, rfl⟩

end CommandStore

namespace MatterCommandDispatchControl
variable {storeHost : StoreHost} {commandIdText : CommandId → String} {s : CommandStore}

def targetOf (store : CommandStore) (command : CommandAggregate) : Option StoredMatterProjection :=
  if isReplaceable command.envelope.payload then
    store.projectionForTarget command.envelope.deviceId command.envelope.endpointId
      command.envelope.capability.schema
  else none

theorem recovers_projectionFor (command : CommandAggregate) :
    Recovers storeHost commandIdText (projectionFor command)
      (fun found s' => s' = s ∧ found = targetOf s command) s := by
  unfold projectionFor targetOf
  split
  · apply recovers_calling
    intro response s' hh
    obtain ⟨found, rfl⟩ := exists_of_isOk hh.2
    exact ⟨found, rfl, hh.1.1, hh.1.2 found rfl⟩
  · exact succeeds_pure ⟨rfl, rfl⟩

theorem recovers_matterDesiredSlot (projectionId : MatterProjectionId) :
    Recovers storeHost commandIdText (controlled (invoke (.matterDesiredSlot projectionId)))
      (fun slot s' => s' = s ∧ slot = s.slots.find projectionId ∧ s.Registrable projectionId) s := by
  apply recovers_calling
  intro response s' hh
  obtain ⟨⟨rfl, hread⟩, hok, hregistrable⟩ := hh
  obtain ⟨slot, rfl⟩ := exists_of_isOk hok
  exact ⟨slot, rfl, rfl, hread slot rfl, hregistrable⟩

theorem recovers_command (id : CommandId) :
    Recovers storeHost commandIdText (controlled (invoke (.command id)))
      (fun found s' => s' = s ∧ found = s.loadCommand id) s := by
  apply recovers_calling
  intro response s' hh
  obtain ⟨found, rfl⟩ := exists_of_isOk hh.2
  exact ⟨found, rfl, hh.1.1, hh.1.2 found rfl⟩

theorem desiredValue_of_isReplaceable {payload : CommandPayload} (h : isReplaceable payload = true) :
    ∃ value, desiredValue payload = some value ∧ value.valid = true := by
  rcases payload with command | level | position | access
  · cases command with
    | set on => exact ⟨_, rfl, rfl⟩
    | toggle => cases h
  · cases h
  · cases h
  · cases access <;> exact ⟨_, rfl, rfl⟩

theorem advanceDesired_isOk {state : MatterProjectedState} {revision : ℕ} {value : MatterStateValue}
    (now : Instant) (hrevision : revision ≠ 0) (hvalue : value.valid = true)
    (hconfirmed : ∀ confirmed ∈ state.confirmedRevision, confirmed ≤ revision) :
    ∃ state', advanceDesired state revision value now = .ok state' := by
  unfold advanceDesired MatterDesiredState.new
  rw [dif_neg hrevision, dif_neg (by rw [hvalue]; decide)]
  show ∃ state', advanceMatterDesiredState state _ = .ok state'
  unfold advanceMatterDesiredState MatterProjectedState.new
  have hahead : ¬ MatterProjectedState.aheadOf
      (some ⟨revision, value, now, Nat.pos_of_ne_zero hrevision, hvalue⟩) state.confirmedRevision = true := by
    cases hstored : state.confirmedRevision with
    | none => exact Bool.false_ne_true
    | some confirmed =>
      have hle := hconfirmed confirmed hstored
      simpa [MatterProjectedState.aheadOf] using hle
  rw [if_neg (by simp [hvalue]), dif_neg hahead, dif_neg (by simp), dif_neg (by simp), dif_neg (by simp)]
  exact ⟨_, rfl⟩

structure Written (command : CommandAggregate) (projection : StoredMatterProjection)
    (write : MatterDesiredStateWrite) : Prop where
  slotProjection : write.slot.projectionId = projection.projectionId
  slotCommand : write.slot.commandId = command.envelope.id
  projection : ∃ state revision now, write.projection =
    { projection with state := state, revision := revision, updatedAt := now }

theorem desiredWrite_isOk (now : Instant) (hreplaceable : isReplaceable command.envelope.payload = true)
    (hfound : s.projections.find projection.projectionId = some projection)
    (hregistrable : s.Registrable projection.projectionId) :
    ∃ write, desiredWrite command now projection (s.slots.find projection.projectionId) none =
      .ok write ∧ Written command projection write := by
  obtain ⟨hrevision, hprojection, _⟩ := hregistrable
  obtain ⟨hstored, hconfirmed⟩ := hprojection projection hfound
  obtain ⟨value, hvalue, hvalid⟩ := desiredValue_of_isReplaceable hreplaceable
  have hpositive : s.nextRevision projection.projectionId ≠ 0 := by
    unfold CommandStore.nextRevision
    cases s.slots.find projection.projectionId with
    | none => exact one_ne_zero
    | some slot => exact Nat.succ_ne_zero _
  obtain ⟨state, hstate⟩ := advanceDesired_isOk now hpositive hvalid hconfirmed
  unfold desiredWrite
  unfold CommandStore.nextRevision at hrevision hstate
  rw [if_neg (not_le.mpr hrevision), hvalue]
  dsimp only
  rw [hstate]
  dsimp only
  rw [if_neg (not_le.mpr hstored)]
  exact ⟨_, rfl, rfl, rfl, _, _, _, rfl⟩

theorem recovers_supersededBy {projectionId : MatterProjectionId} (now : Instant)
    (hregistrable : s.Registrable projectionId) :
    Recovers storeHost commandIdText (supersededBy (s.slots.find projectionId) now)
      (fun _ s' => s' = s) s := by
  unfold supersededBy
  split
  · exact succeeds_pure rfl
  · rename_i slot hslot
    split
    · exact succeeds_pure rfl
    · rename_i hopen
      have hwaiting := hregistrable.2.2 slot hslot (by simpa using hopen)
      apply succeeds_bind
      apply (recovers_command slot.commandId).mono
      rintro found _ ⟨rfl, rfl⟩
      rename_i s
      cases hprior : s.loadCommand slot.commandId with
      | none =>
        rw [hprior] at hwaiting
        cases hwaiting
      | some prior =>
        rw [hprior] at hwaiting
        have hallowed : prior.state.allowsTransitionTo .cancelled = true := hwaiting
        dsimp only
        unfold CommandAggregate.transition
        rw [if_pos hallowed]
        apply succeeds_bind
        apply recovers_freshId.mono
        rintro auditId _ rfl
        exact succeeds_pure rfl

def Registered (command : CommandAggregate) (store : CommandStore) : Prop :=
  ∀ projection ∈ targetOf store command, ∃ slot, store.slots.find projection.projectionId = some slot ∧
    slot.commandId = command.envelope.id

/-- An undisturbed registration succeeds. -/
theorem recovers_replaceDesired (now : Instant) (htarget : targetOf s command = some projection)
    (hregistrable : s.Registrable projection.projectionId) :
    Recovers storeHost commandIdText (replaceDesired command now projection
      (s.slots.find projection.projectionId)) (fun _ s' => Registered command s') s := by
  have hreplaceable : isReplaceable command.envelope.payload = true := by
    unfold targetOf at htarget
    split at htarget
    · assumption
    · cases htarget
  have hsearch : s.projectionForTarget command.envelope.deviceId command.envelope.endpointId
      command.envelope.capability.schema = some projection := by
    rw [targetOf, if_pos hreplaceable] at htarget
    exact htarget
  have hfound := CommandStore.projectionForTarget_mem hsearch
  obtain ⟨write, hwrite, hwritten⟩ := desiredWrite_isOk now hreplaceable hfound hregistrable
  unfold replaceDesired
  rw [hwrite]
  dsimp only
  apply succeeds_bind
  apply (recovers_supersededBy now hregistrable).mono
  rintro superseded _ rfl
  rename_i s
  apply succeeds_bind
  apply recovers_calling
  intro response s' hh
  obtain ⟨value, rfl⟩ := exists_of_isOk hh.2
  refine ⟨value, rfl, succeeds_pure ?_⟩
  rcases CommandStore.stores_ok hh.1 with ⟨_, hok⟩ | ⟨⟨error, hfailed⟩, _⟩
  · obtain ⟨hslot, hprojections⟩ := (CommandStore.replaceMatterDesiredState_cases hok).slot
    obtain ⟨state, revision, updatedAt, hprojection⟩ := hwritten.projection
    intro found hin
    -- the search finds the projection that was just written
    have hsame : found.projectionId = projection.projectionId := by
      rw [targetOf, if_pos hreplaceable] at hin
      unfold CommandStore.projectionForTarget at hin hsearch
      rw [hprojections, @Table.find?_replace _ _ _ _ _ _ projection (by rw [hprojection]; exact hfound) _
        (by rw [hprojection]), hsearch, Option.mem_def, Option.map_some, Option.some.injEq,
        if_pos (by rw [hprojection])] at hin
      rw [← hin, hprojection]
    refine ⟨write.slot, ?_, hwritten.slotCommand⟩
    rw [hsame, ← hwritten.slotProjection]
    exact hslot
  · cases hfailed

theorem recovers_registerOnce (command : CommandAggregate) (now : Instant) :
    Recovers storeHost commandIdText (registerOnce command now)
      (fun _ s' => Registered command s') s := by
  unfold registerOnce
  apply succeeds_bind
  apply (recovers_projectionFor command).mono
  rintro found _ ⟨rfl, rfl⟩
  rename_i s
  cases htarget : targetOf s command with
  | none =>
    apply succeeds_pure
    intro projection hin
    rw [htarget] at hin
    cases hin
  | some projection =>
    apply succeeds_bind
    apply (recovers_matterDesiredSlot _).mono
    rintro slot _ ⟨rfl, rfl, hregistrable⟩
    rename_i s
    split
    · rename_i slot hown
      obtain ⟨hslot, hid⟩ := Option.filter_eq_some_iff.mp hown
      apply succeeds_pure
      intro found hin
      rw [htarget, Option.mem_def, Option.some.injEq] at hin
      subst hin
      exact ⟨slot, hslot, beq_iff_eq.mp hid⟩
    · exact recovers_replaceDesired now htarget hregistrable

theorem recovers_registerDesired (command : CommandAggregate) (now : Instant) (attempts : ℕ)
    (last : BoxError) : Recovers storeHost commandIdText (registerDesired command now (attempts + 1) last)
      (fun _ s' => Registered command s') s := by
  apply Program.Ensures.bind
  apply Program.Ensures.mono (recovers_registerOnce command now)
  rintro result s' ⟨registration, rfl, hregistered⟩
  exact ⟨registration, rfl, hregistered⟩

def AdmitsDispatched : MatterDispatchAdmission → Prop
  | .committed dispatched _ => dispatched.state = .dispatched
  | _ => True

theorem recovers_commitDispatch (now : Instant) (hstate : command.state = .validated)
    (hregistered : Registered command s) :
    Recovers storeHost commandIdText (commitDispatch command now)
      (fun admission _ => AdmitsDispatched admission) s := by
  unfold commitDispatch
  apply succeeds_bind
  apply (recovers_projectionFor command).mono
  rintro found _ ⟨rfl, rfl⟩
  rename_i s
  cases htarget : targetOf s command with
  | none => exact succeeds_pure trivial
  | some projection =>
    obtain ⟨slot, hslot, hid⟩ := hregistered projection htarget
    apply succeeds_bind
    apply (recovers_matterDesiredSlot _).mono
    rintro current _ ⟨rfl, rfl, _⟩
    rename_i s
    rw [hslot]
    dsimp only
    rw [if_neg (not_not.mpr hid)]
    split
    · exact succeeds_pure trivial
    · have hallowed : command.state.allowsTransitionTo .dispatched = true := by rw [hstate]; rfl
      unfold dispatchWrite CommandAggregate.transition
      rw [if_pos hallowed]
      apply succeeds_bind
      apply succeeds_bind
      apply recovers_freshId.mono
      rintro auditId _ rfl
      apply succeeds_pure
      apply succeeds_bind
      apply recovers_calling
      intro response s' hh
      obtain ⟨value, rfl⟩ := exists_of_isOk hh.2
      exact ⟨value, rfl, succeeds_pure rfl⟩

end MatterCommandDispatchControl

open MatterCommandDispatchControl

section Service
variable {storeHost : StoreHost} {commandIdText : CommandId → String} {s : CommandStore}

theorem recovers_dispatchControlled (now : Instant) (hstate : command.state = .validated) :
    Recovers storeHost commandIdText (dispatchControlled command now) (fun _ _ => True) s := by
  unfold dispatchControlled
  apply succeeds_bind
  apply recovers_calling
  apply Program.Ensures.mono (recovers_registerDesired command now 3 (.control .registrationFailed))
  rintro result s₁ ⟨registration, rfl, hregistered⟩
  refine ⟨registration, rfl, ?_⟩
  apply succeeds_bind
  have hpublish : Recovers storeHost commandIdText (publishSuperseded registration)
      (fun _ s' => s' = s₁) s₁ := by
    unfold publishSuperseded
    split
    · exact recovers_publish _
    · exact succeeds_pure rfl
  apply hpublish.mono
  rintro _ _ rfl
  apply succeeds_bind
  apply recovers_calling
  apply Program.Ensures.mono (recovers_commitDispatch now hstate hregistered)
  rintro result s₂ ⟨admission, rfl, hadmitted⟩
  refine ⟨admission, rfl, ?_⟩
  cases admission with
  | unmanaged =>
    have hallowed : command.state.allowsTransitionTo .dispatched = true := by rw [hstate]; rfl
    apply succeeds_bind
    apply (recovers_transition now hallowed).mono
    rintro moved s₃ ⟨_, hmoved, _⟩
    exact recovers_dispatchCommitted hmoved
  | committed dispatched audit =>
    apply succeeds_bind
    apply (recovers_publish audit).mono
    rintro _ _ rfl
    exact recovers_dispatchCommitted hadmitted
  | superseded durable => exact succeeds_pure trivial
  | awaitingUnlockAuthorization => exact succeeds_pure trivial

theorem recovers_dispatch (host : CommandHost) (now : Instant) (hstate : command.state = .validated) :
    Recovers storeHost commandIdText (dispatch host command now) (fun _ _ => True) s := by
  unfold dispatch
  split
  · have hallowed : command.state.allowsTransitionTo .timedOut = true := by rw [hstate]; rfl
    exact (recovers_timeout now hallowed).mono (fun _ _ _ => trivial)
  · split
    · exact recovers_dispatchControlled now hstate
    · have hallowed : command.state.allowsTransitionTo .dispatched = true := by rw [hstate]; rfl
      apply succeeds_bind
      apply (recovers_transition now hallowed).mono
      rintro moved s' ⟨_, hmoved, _⟩
      exact recovers_dispatchCommitted hmoved

structure Housed (store : CommandStore) (envelope : CommandEnvelope) : Prop where
  device : ∃ device ∈ store.devices.rows, device.snapshot.id = envelope.deviceId
  actor : (store.actors.find envelope.actorId).isSome = true

theorem recovers_admitReceived (host : CommandHost) {command : CommandAggregate}
    (security : ActorSecurity) (device : DeviceRecord) (now : Instant)
    (hstate : command.state = .received) :
    Recovers storeHost commandIdText (admitReceived host command security device now)
      (fun _ _ => True) s := by
  unfold admitReceived
  apply succeeds_bind
  intro capacities s' hh
  refine ⟨capacities, rfl, ?_⟩
  dsimp only
  split
  · have hallowed : command.state.allowsTransitionTo .rejected = true := by rw [hstate]; rfl
    have hreject := @recovers_reject storeHost commandIdText s'
      { command with policy := some (PolicyEvaluator.evaluate
        (executeInput host security.actor command device capacities now) security.grants) }
      .policyDenied now (some (PolicyEvaluator.evaluate
        (executeInput host security.actor command device capacities now) security.grants)) hallowed
    exact hreject.mono (fun _ _ _ => trivial)
  · have hallowed : command.state.allowsTransitionTo .validated = true := by rw [hstate]; rfl
    apply succeeds_bind
    apply (@recovers_transition _ _ _ { command with policy := some (PolicyEvaluator.evaluate
      (executeInput host security.actor command device capacities now) security.grants) } _ now
      hallowed).mono
    rintro moved s'' ⟨_, hmoved, _⟩
    split
    · exact succeeds_pure trivial
    · exact recovers_dispatch host now hmoved

theorem recovers_continueReceived (host : CommandHost) {actorId : ActorId} (device : DeviceRecord) (now : Instant)
    (hstate : command.state = .received) (hactor : (s.actors.find actorId).isSome = true) :
    Recovers storeHost commandIdText (continueReceived host command actorId device now)
      (fun _ _ => True) s := by
  unfold continueReceived
  split
  · have hallowed : command.state.allowsTransitionTo .rejected = true := by rw [hstate]; rfl
    exact (recovers_reject _ now none hallowed).mono (fun _ _ _ => trivial)
  · apply succeeds_bind
    apply recovers_calling
    intro response s' hh
    obtain ⟨⟨rfl, hread⟩, hok⟩ := hh
    obtain ⟨found, rfl⟩ := exists_of_isOk hok
    refine ⟨found, rfl, ?_⟩
    cases found with
    | none =>
      rw [← hread none rfl] at hactor
      cases hactor
    | some security => exact recovers_admitReceived host security device now hstate

theorem recovers_recoveryContext (hhoused : Housed s command.envelope) :
    Recovers storeHost commandIdText (recoveryContext command) (fun context s' => s' = s ∧
      context.2.actor.id = command.envelope.actorId) s := by
  unfold recoveryContext
  apply succeeds_bind
  apply recovers_calling
  intro response s' hh
  obtain ⟨⟨rfl, hread⟩, hok⟩ := hh
  obtain ⟨devices, rfl⟩ := exists_of_isOk hok
  obtain rfl := hread devices rfl
  refine ⟨_, rfl, ?_⟩
  obtain ⟨device, hdevice, hid⟩ := hhoused.device
  split
  · rename_i hmissing
    have hother := List.find?_eq_none.mp hmissing device hdevice
    exact absurd (beq_iff_eq.mpr hid) hother
  · apply succeeds_bind
    apply recovers_calling
    intro response s'' hh
    obtain ⟨⟨rfl, hread⟩, hok⟩ := hh
    obtain ⟨found, rfl⟩ := exists_of_isOk hok
    refine ⟨found, rfl, ?_⟩
    cases found with
    | none =>
      have hactor := hhoused.actor
      rw [← hread none rfl] at hactor
      cases hactor
    | some security =>
      exact succeeds_pure ⟨rfl, (Table.find_eq_some.mp (hread _ rfl).symm).2⟩

theorem recovers_recoverValidated (host : CommandHost) (device : DeviceRecord) (security : ActorSecurity)
    (now : Instant) (hstate : command.state = .validated) :
    Recovers storeHost commandIdText (recoverValidated host command device security now)
      (fun _ _ => True) s := by
  unfold recoverValidated
  apply succeeds_bind
  intro capacities s' hh
  refine ⟨capacities, rfl, ?_⟩
  dsimp only
  split
  · exact recovers_dispatch host now hstate
  · have hallowed : command.state.allowsTransitionTo .rejected = true := by rw [hstate]; rfl
    exact (recovers_reject _ now _ hallowed).mono (fun _ _ _ => trivial)

theorem recovers_discard {p : CommandM α} {Q : CommandStore → Prop}
    (h : Recovers storeHost commandIdText p (fun _ => Q) s) :
    Recovers storeHost commandIdText (p >>= fun _ => pure ()) (fun _ => Q) s := by
  apply succeeds_bind
  exact h.mono (fun _ _ hq => succeeds_pure hq)

/-- Recovering one command, by how far it had come; past its deadline it is closed. -/
theorem recovers_recoverOne (host : CommandHost) {command : CommandAggregate} {now : Instant}
    (hhoused : Housed s command.envelope) (hopen : command.isTerminal = false) :
    Recovers storeHost commandIdText (recoverOne host command now) (fun _ s' =>
      command.envelope.deadline ≤ now → Closed s' command.envelope.id) s := by
  unfold recoverOne
  split
  · rename_i hstate
    split
    · have hallowed : command.state.allowsTransitionTo .timedOut = true := by rw [hstate]; rfl
      exact recovers_discard ((recovers_timeout now hallowed).mono (fun _ _ hclosed _ => hclosed))
    · rename_i hlater
      apply succeeds_bind
      apply (recovers_recoveryContext hhoused).mono
      rintro ⟨device, security⟩ _ ⟨rfl, hid⟩
      have hactor := hhoused.actor
      rw [← hid] at hactor
      exact recovers_discard ((recovers_continueReceived host device now hstate hactor).mono
        (fun _ _ _ hdue => absurd hdue hlater))
  · rename_i hstate
    split
    · have hallowed : command.state.allowsTransitionTo .timedOut = true := by rw [hstate]; rfl
      exact recovers_discard ((recovers_timeout now hallowed).mono (fun _ _ hclosed _ => hclosed))
    · rename_i hlater
      apply succeeds_bind
      apply (recovers_recoveryContext hhoused).mono
      rintro ⟨device, security⟩ _ ⟨rfl, _⟩
      exact recovers_discard ((recovers_recoverValidated host device security now hstate).mono
        (fun _ _ _ hdue => absurd hdue hlater))
  · rename_i hstate
    exact recovers_discard (recovers_confirm now (by rw [hstate]; rfl))
  · rename_i hstate
    exact recovers_discard (recovers_confirm now (by rw [hstate]; rfl))
  · -- the other states are terminal
    rename_i hreceived hvalidated hdispatched hacknowledged
    exfalso
    unfold CommandAggregate.isTerminal at hopen
    rw [Bool.or_eq_false_iff] at hopen
    cases hstate : command.state <;> rw [hstate] at hopen <;> first
      | exact absurd hstate hreceived
      | exact absurd hstate hvalidated
      | exact absurd hstate hdispatched
      | exact absurd hstate hacknowledged
      | exact absurd hopen.1 (by decide)

end Service

end HomeMagic
